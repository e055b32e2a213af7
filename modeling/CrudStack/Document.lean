/-
# `CrudStack.Document` — data as the text formats hold it

JSON and TOML texts denote the same kind of tree, and so does the data that a template is filled
with.  A table keeps its entries in the order of the text, repeated keys included: who reads a table
decides what a repetition means.
-/
import CrudStack.Decimal.Double

namespace CrudStack

/-- A tree of data. -/
inductive Document where
  | null
  | bool (value : Bool)
  | integer (value : Int)
  | double (value : Double)
  | text (value : String)
  | list (items : List Document)
  | table (entries : List (String × Document))
  deriving Repr

namespace Document

instance : Inhabited Document := ⟨.null⟩

/-- What kind of data a document is, with its value if it is a single one. -/
inductive Found where
  | null
  | bool (value : Bool)
  | integer (value : Int)
  | double (value : Double)
  | text (value : String)
  | list
  | table
  deriving DecidableEq, Repr

/-- The outermost layer of a document. -/
def found : Document → Found
  | .null => .null
  | .bool b => .bool b
  | .integer i => .integer i
  | .double x => .double x
  | .text s => .text s
  | .list _ => .list
  | .table _ => .table

/-- A text that may be absent, absence as null. -/
def ofOption : Option String → Document
  | none => .null
  | some s => .text s

end Document

end CrudStack
