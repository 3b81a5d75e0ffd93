import Dataset.Sql.Statement
import Dataset.Proofs.Sql.Reading
import Mathlib.Algebra.GroupWithZero.Nat

/-!
# The tokens of statements

The statements that shape a table, and the one that adds a row, are written here once more with no text
at all: as the tokens that they are meant to have. No name can change them.

* `Closes`: pieces of text that end in a word or in a name, which the next piece closes;
* `Statement.tokens`: what a statement is meant to say;
* **`Statement.tokens?_text`**: its text says this and nothing else, whatever characters the names hold;
* `Statement.names_tokens`, `Statement.count_tokens`: its names, and its placeholders;
* **`Statement.text_injective`**: statements of one text are one statement;
* `Statement.nul_mem_text_iff`: the text has a NUL character only from a name.
-/

namespace Dataset.Sql

/-! ## 1. Pieces that the next one closes -/

/-- Neither a word nor an identifier goes on with the character. -/
def separates (c : Char) : Bool := !continuesPlain c && c != backtick

/-- The piece is read as these tokens before everything that goes on neither a word nor an identifier. -/
def Closes (s : List Char) (ts : List Token) : Prop :=
  ∀ rest us, rest.head?.any separates = true → Reads rest us → Reads (s ++ rest) (ts ++ us)

variable {s t : List Char} {ts us : List Token}

theorem Closes.identifier (name : List Char) : Closes (quoteChars name) [.identifier name] := by
  intro rest us separated h
  refine Reads.identifier name ?_ h
  cases rest with
  | nil => cases separated
  | cons c rest =>
    simp only [List.head?_cons, Option.any_some, separates, Bool.and_eq_true] at separated ⊢
    exact separated.2

/-- A piece that ends in a word. -/
theorem Closes.of_word {letters : List Char} (h : lexRun .outside s = (ts, .inWord letters)) :
    Closes s (ts ++ [.word letters.reverse]) := by
  intro rest us separated hrest
  cases rest with
  | nil => cases separated
  | cons c rest =>
    have ends : continuesPlain c = false := by
      simp only [List.head?_cons, Option.any_some, separates, Bool.and_eq_true] at separated
      simpa using separated.1
    have step : lexStep (.inWord letters) c =
        (.word letters.reverse :: (lexStep .outside c).1, (lexStep .outside c).2) := by
      simp [lexStep, ends]
    unfold Reads at *
    simp only [lexRun, Prod.mk.injEq] at hrest
    rw [lexRun_append, h]
    simp only [lexRun, step, List.cons_append, List.append_assoc, List.nil_append, hrest.1, hrest.2]

theorem Closes.append (hs : Closes s ts) (separated : t.head?.any separates = true)
    (ht : Closes t us) : Closes (s ++ t) (ts ++ us) := by
  intro rest vs separated' h
  rw [List.append_assoc, List.append_assoc]
  exact hs _ _ (starts_append _ separated) (ht rest vs separated' h)

theorem Closes.nil : Closes [] [] := fun _ _ _ h => h

theorem Reads.closes (h : Reads s ts) : Closes s ts := fun _ _ _ hrest => h.append hrest

theorem Reads.append_closes (hs : Reads s ts) (ht : Closes t us) : Closes (s ++ t) (ts ++ us) := by
  intro rest vs separated h
  rw [List.append_assoc, List.append_assoc]
  exact hs.append (ht rest vs separated h)

/-- Pieces with a separator between neighbours are read piece by piece. -/
theorem Closes.intercalate {sep : List Char} (separated : sep.head?.any separates = true)
    (hsep : Reads sep us) {pieces : List (List Char)} {tokens : List (List Token)}
    (h : List.Forall₂ Closes pieces tokens) :
    Closes (sep.intercalate pieces) (us.intercalate tokens) := by
  induction h with
  | nil => exact Closes.nil
  | cons first rest ih =>
    cases rest with
    | nil => simpa using first
    | cons second rest =>
      have joined := first.append (starts_append _ separated) (hsep.append_closes ih)
      simpa using joined

/-- A text may end where a word or an identifier ends. -/
theorem Closes.tokens? (h : Closes s ts) : tokens? s = some ts := by
  have closed : Reads (s ++ [' ']) (ts ++ []) := h _ _ (by decide) (by decide)
  unfold Reads at closed
  rw [List.append_nil, lexRun_append, Prod.mk.injEq] at closed
  obtain ⟨all, outside⟩ := closed
  -- the end of the text completes the same token as a blank does
  have last : lexEnd (lexRun .outside s).2 = some (lexRun (lexRun .outside s).2 [' ']).1 := by
    generalize (lexRun .outside s).2 = l at outside
    have blank : continuesPlain ' ' = false := by decide
    have skipped : lexOutside ' ' = ([], .outside) := by decide
    cases l with
    | outside => simp [lexRun, lexStep, lexEnd, skipped]
    | inWord letters => simp [lexRun, lexStep, lexEnd, skipped, blank]
    | quoted mark content =>
      simp only [lexRun, lexStep] at outside
      split at outside <;> cases outside
    | atMark mark content =>
      simp only [lexRun, lexStep] at outside ⊢
      split at outside
      · cases outside
      · rename_i other
        simp [lexEnd, skipped, other]
  rw [Sql.tokens?, tokensFrom_eq, last, Option.map_some, all]

/-! ## 2. Joined lists -/

theorem filter_intercalate {α : Type} {test : α → Bool} {sep : List α} (unseen : sep.filter test = [])
    (parts : List (List α)) :
    (sep.intercalate parts).filter test = parts.flatMap (List.filter test) := by
  rw [← List.filterMap_eq_filter] at unseen ⊢
  exact filterMap_intercalate unseen parts

theorem count_intercalate {a : Token} {sep : List Token} (other : a ∉ sep) (parts : List (List Token)) :
    (sep.intercalate parts).count a = (parts.map (List.count a)).sum := by
  have unseen : sep.filter (· == a) = [] := List.filter_eq_nil_iff.2 fun x hx => by
    simpa using ne_of_mem_of_not_mem hx other
  rw [List.count_eq_length_filter, filter_intercalate unseen, List.length_flatMap]
  exact congrArg List.sum (List.map_congr_left fun p _ => List.count_eq_length_filter.symm)

theorem mem_intercalate {c : Char} {sep : List Char} (other : c ∉ sep) (parts : List (List Char)) :
    c ∈ sep.intercalate parts ↔ ∃ p ∈ parts, c ∈ p := by
  have unseen : sep.filter (· == c) = [] := List.filter_eq_nil_iff.2 fun x hx => by
    simpa using ne_of_mem_of_not_mem hx other
  have seen (l : List Char) : c ∈ l ↔ c ∈ l.filter (· == c) := by simp
  rw [seen, filter_intercalate unseen, List.mem_flatMap]
  simp only [← seen]

/-! ## 3. The tokens that are meant -/

/-- The name of an identifier. -/
def Token.name? : Token → Option String
  | .identifier name => some (String.ofList name)
  | _ => none

/-- A name as an identifier. -/
def Token.named (name : String) : Token := .identifier name.toList

/-- A word of the language. -/
def Token.spelled (letters : String) : Token := .word letters.toList

@[simp] theorem Token.name?_named (name : String) : (named name).name? = some name := by
  simp [named, name?]

/-- Parts in parentheses, with commas between neighbours. -/
def listed (parts : List (List Token)) : List Token :=
  .symbol '(' :: ([Token.symbol ','].intercalate parts ++ [.symbol ')'])

namespace Statement

open Token (named spelled)

/-- The definition of the key column. -/
def keyTokens : List Token :=
  [named keyColumn, spelled "INTEGER", spelled "PRIMARY", spelled "KEY", spelled "AUTOINCREMENT"]

/-- The definition of a data column. -/
def dataTokens (column : String) : List Token := [named column, spelled "NUMERIC"]

/-- The tokens that a statement is meant to be read as, with its names as identifiers. -/
def tokens : Statement → List Token
  | create table columns =>
    [spelled "CREATE", spelled "TABLE", spelled "IF", spelled "NOT", spelled "EXISTS", named table] ++
      listed (keyTokens :: columns.map dataTokens)
  | addColumn table column =>
    [spelled "ALTER", spelled "TABLE", named table, spelled "ADD", spelled "COLUMN"] ++
      dataTokens column
  | insert table columns =>
    [spelled "INSERT", spelled "INTO", named table] ++ listed (columns.map fun c => [named c]) ++
      [spelled "VALUES"] ++ listed (columns.map fun _ => [.placeholder])

/-! ## 4. The texts are read as intended -/

/-- Parts in parentheses as they are written. -/
def listedText (parts : List (List Char)) : List Char :=
  '(' :: (", ".toList.intercalate parts ++ [')'])

theorem reads_listed {pieces : List (List Char)} {parts : List (List Token)}
    (h : List.Forall₂ Closes pieces parts) : Reads (listedText pieces) (listed parts) := by
  have opening : Reads ['('] [.symbol '('] := by decide
  have comma : Reads ", ".toList [.symbol ','] := by decide
  have closing : Reads [')'] [.symbol ')'] := by decide
  exact opening.append (Closes.intercalate (by decide) comma h _ _ (by decide) closing)

/-- A name and a definition that ends in a word. -/
theorem closes_definition {definition : String} {ts : List Token} {letters : List Char} (name : String)
    (separated : definition.toList.head?.any separates = true)
    (h : lexRun .outside definition.toList = (ts, .inWord letters)) :
    Closes (quote name ++ definition).toList (named name :: (ts ++ [.word letters.reverse])) := by
  rw [String.toList_append, toList_quote]
  exact (Closes.identifier name.toList).append separated (Closes.of_word h)

theorem closes_keyDefinition : Closes keyDefinition.toList keyTokens := by
  have words : lexRun .outside " INTEGER PRIMARY KEY AUTOINCREMENT".toList =
      ([spelled "INTEGER", spelled "PRIMARY", spelled "KEY"],
        .inWord "AUTOINCREMENT".toList.reverse) := by decide
  exact closes_definition keyColumn (by decide) words

theorem closes_dataDefinition (column : String) :
    Closes (dataDefinition column).toList (dataTokens column) := by
  have word : lexRun .outside " NUMERIC".toList = ([], .inWord "NUMERIC".toList.reverse) := by decide
  exact closes_definition column (by decide) word

/-- One piece and its tokens for each column. -/
theorem forall₂_columns {piece : String → List Char} {tokens : String → List Token}
    (h : ∀ c, Closes (piece c) (tokens c)) (columns : List String) :
    List.Forall₂ Closes (columns.map piece) (columns.map tokens) := by
  rw [List.forall₂_map_left_iff, List.forall₂_map_right_iff, List.forall₂_same]
  exact fun c _ => h c

theorem toList_joinWith (sep : String) (parts : List String) :
    (Text.joinWith sep parts).toList = sep.toList.intercalate (parts.map String.toList) :=
  String.toList_intercalate

/-- The characters of the statement that makes a table, name by name. -/
theorem toList_create (table : String) (columns : List String) :
    (create table columns).text.toList = "CREATE TABLE IF NOT EXISTS ".toList ++
      (quoteChars table.toList ++ ([' '] ++
        listedText (keyDefinition.toList :: columns.map fun c => (dataDefinition c).toList))) := by
  have text : (create table columns).text = "CREATE TABLE IF NOT EXISTS " ++ quote table ++ " ("
      ++ Text.joinWith ", " (keyDefinition :: columns.map dataDefinition) ++ ")" := rfl
  have opening : " (".toList = [' ', '('] := by decide
  have closing : ")".toList = [')'] := by decide
  simp only [text, String.toList_append, toList_quote, toList_joinWith, List.map_cons, List.map_map,
    List.append_assoc, listedText, opening, closing, List.cons_append, List.nil_append,
    Function.comp_def]

theorem toList_addColumn (table column : String) :
    (addColumn table column).text.toList = "ALTER TABLE ".toList ++
      (quoteChars table.toList ++ (" ADD COLUMN ".toList ++ (dataDefinition column).toList)) := by
  have text : (addColumn table column).text =
      "ALTER TABLE " ++ quote table ++ " ADD COLUMN " ++ dataDefinition column := rfl
  simp only [text, String.toList_append, toList_quote, List.append_assoc]

theorem toList_insert (table : String) (columns : List String) :
    (insert table columns).text.toList = "INSERT INTO ".toList ++
      (quoteChars table.toList ++ ([' '] ++
        (listedText (columns.map fun c => quoteChars c.toList) ++
          (" VALUES ".toList ++ listedText (columns.map fun _ => ['?']))))) := by
  have text : (insert table columns).text = "INSERT INTO " ++ quote table ++ " ("
      ++ Text.joinWith ", " (columns.map quote) ++ ") VALUES ("
      ++ Text.joinWith ", " (columns.map fun _ => "?") ++ ")" := rfl
  have opening : " (".toList = [' ', '('] := by decide
  have between : ") VALUES (".toList = [')'] ++ (" VALUES ".toList ++ ['(']) := by decide
  have closing : ")".toList = [')'] := by decide
  have mark : "?".toList = ['?'] := by decide
  simp only [text, String.toList_append, toList_quote, toList_joinWith, List.map_map,
    List.append_assoc, listedText, opening, between, closing, mark, List.cons_append,
    List.nil_append, Function.comp_def]

/-- The text of a statement that makes a table is read as intended. -/
theorem reads_create (table : String) (columns : List String) :
    Reads (create table columns).text.toList (create table columns).tokens := by
  have words : Reads "CREATE TABLE IF NOT EXISTS ".toList
      [spelled "CREATE", spelled "TABLE", spelled "IF", spelled "NOT", spelled "EXISTS"] := by decide
  have blank : Reads [' '] [] := by decide
  have definitions := reads_listed
    (.cons closes_keyDefinition (forall₂_columns closes_dataDefinition columns))
  rw [toList_create]
  exact words.append (Closes.identifier table.toList _ _ rfl (blank.append definitions))

/-- So is the text of one that adds a column. -/
theorem closes_addColumn (table column : String) :
    Closes (addColumn table column).text.toList (addColumn table column).tokens := by
  have words : Reads "ALTER TABLE ".toList [spelled "ALTER", spelled "TABLE"] := by decide
  have added : Reads " ADD COLUMN ".toList [spelled "ADD", spelled "COLUMN"] := by decide
  have separated : (" ADD COLUMN ".toList ++ (dataDefinition column).toList).head?.any separates = true :=
    starts_append _ (by decide)
  rw [toList_addColumn]
  exact words.append_closes ((Closes.identifier table.toList).append separated
    (added.append_closes (closes_dataDefinition column)))

/-- And that of one that adds a row. -/
theorem reads_insert (table : String) (columns : List String) :
    Reads (insert table columns).text.toList (insert table columns).tokens := by
  have words : Reads "INSERT INTO ".toList [spelled "INSERT", spelled "INTO"] := by decide
  have blank : Reads [' '] [] := by decide
  have values : Reads " VALUES ".toList [spelled "VALUES"] := by decide
  have place : Reads ['?'] [.placeholder] := by decide
  have names := reads_listed (forall₂_columns (fun c => Closes.identifier c.toList) columns)
  have places := reads_listed (forall₂_columns (fun _ => place.closes) columns)
  have all := words.append (Closes.identifier table.toList _ _ rfl
    (blank.append (names.append (values.append places))))
  rw [toList_insert]
  simpa only [tokens, named, List.cons_append, List.nil_append, List.append_assoc] using all

/-- **A statement says what it is meant to say**, and the text leaves nothing open. -/
theorem tokens?_text (st : Statement) : tokens? st.text.toList = some st.tokens := by
  cases st with
  | create table columns => exact (reads_create table columns).tokens?
  | addColumn table column => exact (closes_addColumn table column).tokens?
  | insert table columns => exact (reads_insert table columns).tokens?

/-! ## 5. Names and placeholders -/

@[simp] theorem name?_spelled (letters : String) : (spelled letters).name? = none := rfl

theorem names_listed (parts : List (List Token)) :
    (listed parts).filterMap Token.name? = parts.flatMap (List.filterMap Token.name?) := by
  rw [listed, List.filterMap_cons_none rfl, List.filterMap_append, filterMap_intercalate rfl]
  simp [Token.name?]

/-- The identifiers of a statement are its names, in order. -/
theorem names_tokens (st : Statement) : st.tokens.filterMap Token.name? = st.names := by
  cases st with
  | create table columns =>
    have data : columns.flatMap (fun c => (dataTokens c).filterMap Token.name?) = columns := by
      simp [dataTokens, List.filterMap_cons]
    simp [tokens, names, names_listed, keyTokens, List.filterMap_cons, List.flatMap_map, data]
  | addColumn table column => simp [tokens, names, dataTokens, List.filterMap_cons]
  | insert table columns =>
    have named : columns.flatMap (fun c => [Token.named c].filterMap Token.name?) = columns := by
      simp
    have places : columns.flatMap (fun _ => [Token.placeholder].filterMap Token.name?) = [] :=
      List.flatMap_eq_nil_iff.2 fun _ _ => rfl
    simp only [tokens, names, List.filterMap_append, names_listed, List.flatMap_map, named, places]
    simp [List.filterMap_cons]

/-- The number of values that a statement binds. -/
def arity : Statement → Nat
  | insert _ columns => columns.length
  | _ => 0

theorem count_listed (parts : List (List Token)) :
    (listed parts).count .placeholder = (parts.map (List.count .placeholder)).sum := by
  rw [listed, List.count_cons, List.count_append, count_intercalate (by decide)]
  rfl

theorem count_listed_map {columns : List String} {part : String → List Token} {k : Nat}
    (same : ∀ c, (part c).count .placeholder = k) :
    (listed (columns.map part)).count .placeholder = columns.length * k := by
  simp [count_listed, Function.comp_def, same]

/-- A statement has one placeholder for each value that it takes. -/
theorem count_tokens (st : Statement) : st.tokens.count .placeholder = st.arity := by
  cases st with
  | create table columns =>
    have key : keyTokens.count .placeholder = 0 := rfl
    have data (c : String) : (dataTokens c).count .placeholder = 0 := rfl
    have definitions : (listed (keyTokens :: columns.map dataTokens)).count .placeholder = 0 := by
      rw [count_listed, List.map_cons, key, List.sum_cons, ← count_listed, count_listed_map data]
      rfl
    rw [tokens, List.count_append, definitions]
    rfl
  | addColumn table column => rfl
  | insert table columns =>
    have named (c : String) : [named c].count .placeholder = 0 := rfl
    have place (c : String) : [Token.placeholder].count .placeholder = 1 := rfl
    rw [tokens, List.count_append, List.count_append, List.count_append, count_listed_map named,
      count_listed_map place, arity, Nat.mul_zero, Nat.mul_one]
    exact Nat.zero_add _

/-! ## 6. Statements of one text -/

/-- Statements of one text say the same. -/
theorem tokens_eq_of_text {st other : Statement} (same : st.text = other.text) :
    st.tokens = other.tokens := by
  have read := st.tokens?_text
  rw [same, other.tokens?_text] at read
  exact (Option.some.inj read).symm

/-- **Statements of one text are one statement.** -/
theorem text_injective : Function.Injective Statement.text := by
  intro st other same
  have tokens_eq : st.tokens = other.tokens := tokens_eq_of_text same
  have names_eq : st.names = other.names := by rw [← names_tokens, tokens_eq, names_tokens]
  have first : st.tokens.head? = other.tokens.head? := congrArg List.head? tokens_eq
  -- the first word tells the kinds apart, and in one kind the names say everything
  cases st <;> cases other <;>
    simp_all [tokens, names, spelled]

/-! ## 7. NUL characters -/

theorem mem_doubled {name : List Char} {c : Char} : c ∈ doubled name ↔ c ∈ name := by
  induction name with
  | nil => rfl
  | cons d name ih =>
    rw [doubled]
    split <;> simp [ih]

theorem mem_quoteChars {name : List Char} {c : Char} (other : c ≠ backtick) :
    c ∈ quoteChars name ↔ c ∈ name := by
  simp [quoteChars, mem_doubled, other]

theorem mem_listedText {parts : List (List Char)} {c : Char} (other : c ∉ "(), ".toList) :
    c ∈ listedText parts ↔ ∃ p ∈ parts, c ∈ p := by
  have signs : "(), ".toList = ['(', ')', ',', ' '] := by decide
  rw [signs] at other
  have comma : ", ".toList = [',', ' '] := by decide
  simp only [List.mem_cons, List.not_mem_nil, or_false, not_or] at other
  rw [listedText, List.mem_cons, List.mem_append, mem_intercalate (by simp [comma, other])]
  simp [other]

/-- The text of a statement has a NUL character exactly if a name breaks it off. -/
theorem nul_mem_text_iff (st : Statement) :
    '\x00' ∈ st.text.toList ↔ ∃ n ∈ st.names, breaksOff n = true := by
  have quoted (name : String) : '\x00' ∈ quoteChars name.toList ↔ breaksOff name = true := by
    rw [mem_quoteChars (by decide), breaksOff, List.contains_iff_mem]
  have key : '\x00' ∉ keyDefinition.toList := by decide
  have noKey : breaksOff keyColumn = false := by decide
  have data (c : String) : '\x00' ∈ (dataDefinition c).toList ↔ breaksOff c = true := by
    have word : '\x00' ∉ " NUMERIC".toList := by decide
    rw [dataDefinition, String.toList_append, toList_quote, List.mem_append, quoted,
      or_iff_left word]
  have outside : '\x00' ∉ "(), ".toList := by decide
  cases st with
  | create table columns =>
    simp [toList_create, names, mem_listedText outside, quoted, key, noKey, data]
  | addColumn table column => simp [toList_addColumn, names, quoted, data]
  | insert table columns => simp [toList_insert, names, mem_listedText outside, quoted]

end Statement

end Dataset.Sql
