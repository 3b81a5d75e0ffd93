import Dataset.Filter.Operator
import Dataset.Json.Error
import Dataset.Text.Blank

/-!
# Filters

A filter is one condition on a column: a field, an operator and a value. The type holds only
filters that make sense: the field is not blank, and an operator that compares has something to
compare with.

* `Descriptor.make` builds a filter or says why there is none;
* `Error` names what can be wrong with a list of filters, and words it.
-/

namespace Dataset.Filter

/-! ## 1. Failures -/

/-- What can be wrong with a single filter. -/
inductive Reason where
  | unknownOperator (name : String)
  | wrongValue (found : Json)
  | blankField
  | valueRequired (operator : Operator)
  | unknownColumn
  | stated (text : String)
  deriving Repr

/-- The wording of a reason. -/
def Reason.text : Reason → String
  | .unknownOperator name => "unknown filter type '" ++ name ++ "'"
  | .wrongValue found => "value must be a string or number, got " ++ found.text
  | .blankField => "field must not be empty"
  | .valueRequired op => "a value is required for '" ++ op.toText ++ "'"
  | .unknownColumn => "unknown column"
  | .stated text => text

/-- The most bytes that a list of filters may take. -/
def maxBytes : Nat := 65536

/-- The most filters that a list may hold. -/
def maxCount : Nat := 50

/-- What can be wrong with a list of filters before its filters are looked at. -/
inductive Malformation where
  | oversized
  | unreadable (cause : Json.Error)
  | tooMany
  | stated (text : String)
  deriving Repr

/-- The wording of a malformation. -/
def Malformation.text : Malformation → String
  | .oversized => "exceeds maximum size of " ++ Text.ofNat maxBytes ++ " bytes"
  | .unreadable cause => cause.message
  | .tooMany => "maximum " ++ Text.ofNat maxCount ++ " filters allowed"
  | .stated text => text

/-- Why a list of filters is refused. -/
inductive Error where
  | malformed (cause : Malformation)
  | invalid (field : String) (reason : Reason)
  deriving Repr

/-- The wording of a refusal. -/
def Error.message : Error → String
  | .malformed cause => "Invalid filters JSON: " ++ cause.text
  | .invalid field reason => "Invalid filter on field '" ++ field ++ "': " ++ reason.text

/-! ## 2. Descriptors -/

/-- A value that is there and not blank. -/
def hasContent : Option String → Bool
  | some v => !Text.isBlankText v
  | none => false

/-- One condition on a column. -/
structure Descriptor where
  field : String
  operator : Operator
  value : Option String
  field_named : Text.isBlankText field = false
  value_given : operator.takesValue = true → hasContent value = true
  deriving DecidableEq

/-- A filter of these parts, if they make one. -/
def Descriptor.make (field : String) (operator : Operator) (value : Option String) :
    Except Error Descriptor :=
  if named : Text.isBlankText field = false then
    if given : operator.takesValue = true → hasContent value = true then
      .ok ⟨field, operator, value, named, given⟩
    else .error (.invalid field (.valueRequired operator))
  else .error (.invalid field .blankField)

/-- Refuses a filter on a field that is not one of the columns. -/
def Descriptor.checkColumn (d : Descriptor) (columns : List String) : Except Error Unit :=
  if columns.contains d.field then .ok () else .error (.invalid d.field .unknownColumn)

end Dataset.Filter
