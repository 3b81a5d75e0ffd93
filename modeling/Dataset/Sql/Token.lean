import Dataset.Sql.Identifier

/-!
# Tokens of a statement

The lexical rules of statement text, as far as they decide where a name ends and what is a
placeholder:

* a backtick opens an identifier, which runs to the next backtick that is not doubled; a doubled
  backtick stands for one;
* an apostrophe opens a string under the same rule;
* a question mark outside both is a placeholder;
* letters, digits and underscores that stand together form one word, blanks separate, every other
  character is a symbol of its own.

`tokens?` reads a whole text; there is no reading if an identifier or a string is left open.
-/

namespace Dataset.Sql

/-- A token of a statement. -/
inductive Token where
  | identifier (name : List Char)
  | string (content : List Char)
  | placeholder
  | word (letters : List Char)
  | symbol (c : Char)
  deriving DecidableEq, Repr

/-- What the reader is inside of, with the characters met so far in reverse. -/
inductive Lexing where
  | outside
  | inWord (letters : List Char)
  | quoted (mark : Char) (content : List Char)
  /-- A mark has been met inside a quotation: it ends it unless another mark follows. -/
  | atMark (mark : Char) (content : List Char)
  deriving DecidableEq, Repr

/-- The token of a quotation. -/
def ofQuoted (mark : Char) (content : List Char) : Token :=
  if mark = backtick then .identifier content.reverse else .string content.reverse

/-- A character outside of everything: the tokens it makes and what comes next. -/
def lexOutside (c : Char) : List Token × Lexing :=
  if c = backtick || c = '\'' then ([], .quoted c [])
  else if c = '?' then ([.placeholder], .outside)
  else if continuesPlain c then ([], .inWord [c])
  else if c = ' ' then ([], .outside)
  else ([.symbol c], .outside)

/-- One character: the tokens that are complete with it, and what comes next. -/
def lexStep (l : Lexing) (c : Char) : List Token × Lexing :=
  match l with
  | .outside => lexOutside c
  | .inWord letters =>
    if continuesPlain c then ([], .inWord (c :: letters))
    else let r := lexOutside c; (.word letters.reverse :: r.1, r.2)
  | .quoted mark content =>
    if c = mark then ([], .atMark mark content) else ([], .quoted mark (c :: content))
  | .atMark mark content =>
    if c = mark then ([], .quoted mark (c :: content))
    else let r := lexOutside c; (ofQuoted mark content :: r.1, r.2)

/-- The tokens that are complete at the end of the text; none if a quotation is open. -/
def lexEnd : Lexing → Option (List Token)
  | .outside => some []
  | .inWord letters => some [.word letters.reverse]
  | .quoted _ _ => none
  | .atMark mark content => some [ofQuoted mark content]

/-- The tokens of the rest of a text. -/
def tokensFrom (l : Lexing) : List Char → Option (List Token)
  | [] => lexEnd l
  | c :: rest => (tokensFrom (lexStep l c).2 rest).map ((lexStep l c).1 ++ ·)

/-- The tokens of a text, if no quotation is left open. -/
def tokens? (text : List Char) : Option (List Token) := tokensFrom .outside text

end Dataset.Sql
