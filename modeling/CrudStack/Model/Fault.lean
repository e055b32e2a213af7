/-
# `CrudStack.Model.Fault` — how data can fail to be a model

The faults say what was expected and what was found.  They do not depend on the format of the data,
but for the spelling of numbers and of null, which the reader of a format supplies.
-/
import CrudStack.Document
import CrudStack.Text.Quoted

namespace CrudStack.Model

/-- What is expected at a place of a model. -/
inductive Shape where
  | model
  | classDef
  | feature
  | kind
  | attr
  | method
  | parameter
  | text
  | list
  deriving DecidableEq, Repr

/-- The name of a shape. -/
def Shape.label : Shape → String
  | model => "struct Model"
  | classDef => "struct ClassDecl"
  | feature => "internally tagged enum Feature"
  | kind => "variant identifier"
  | attr => "struct variant Feature::Attribute"
  | method => "struct variant Feature::Method"
  | parameter => "struct Parameter"
  | text => "a string"
  | list => "a sequence"

/-- The number of members of a shape that has members of its own. -/
def Shape.size : Shape → Nat
  | model => 1
  | classDef | attr | parameter => 2
  | method => 3
  | feature | kind | text | list => 0

/-- The ways in which data is not a model. -/
inductive DataFault where
  | missing (field : String)
  | repeated (field : String)
  | wrongType (found : Document.Found) (expected : Shape)
  | tooShort (length : Nat) (expected : Shape)
  | tooLong (length : Nat) (expected : Nat)
  | unknownKind (kind : String)
  deriving DecidableEq, Repr

/-- How a format spells what it found. -/
structure Spelling where
  null : String
  double : Double → String

/-- What was found, in the spelling of a format. -/
def foundText (spelling : Spelling) : Document.Found → String
  | .null => spelling.null
  | .bool b => "boolean `" ++ (if b then "true" else "false") ++ "`"
  | .integer i => "integer `" ++ toString i ++ "`"
  | .double x => "floating point `" ++ spelling.double x ++ "`"
  | .text s => "string " ++ Text.quote s
  | .list => "sequence"
  | .table => "map"

/-- A number of elements. -/
def elementsText (n : Nat) : String :=
  if n = 1 then "1 element" else toString n ++ " elements"

/-- The text of a fault. -/
def DataFault.text (spelling : Spelling) : DataFault → String
  | missing field => "missing field `" ++ field ++ "`"
  | repeated field => "duplicate field `" ++ field ++ "`"
  | wrongType found expected =>
    "invalid type: " ++ foundText spelling found ++ ", expected " ++ expected.label
  | tooShort length expected =>
    "invalid length " ++ toString length ++ ", expected " ++ expected.label ++ " with " ++
      elementsText expected.size
  | tooLong length expected =>
    "invalid length " ++ toString length ++ ", expected " ++ elementsText expected ++
      " in sequence"
  | unknownKind kind =>
    "unknown variant `" ++ kind ++ "`, expected `attribute` or `method`"

end CrudStack.Model
