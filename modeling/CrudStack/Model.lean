/-
# `CrudStack.Model` — class models

A model is the input of every generation: classes in order, each with attributes and methods in
order.  It is taken as it is; what looks wrong in it is reported by `Model.diagnostics` and passed
through.
-/

namespace CrudStack

/-- A named, typed member: an attribute of a class or a parameter of a method.  The type is kept
as written. -/
structure Slot where
  name : String
  typeName : String
  deriving DecidableEq, Repr

/-- The signature of a method. -/
structure Method where
  name : String
  returnType : String
  parameters : List Slot
  deriving DecidableEq, Repr

/-- A member of a class. -/
inductive Feature where
  | attr (slot : Slot)
  | method (signature : Method)
  deriving DecidableEq, Repr

/-- A class with its members in source order. -/
structure ClassDef where
  name : String
  features : List Feature
  deriving DecidableEq, Repr

/-- Classes in source order. -/
structure Model where
  classes : List ClassDef
  deriving DecidableEq, Repr

namespace ClassDef

/-- The attributes, in source order. -/
def attributes (c : ClassDef) : List Slot :=
  c.features.filterMap fun
    | .attr a => some a
    | .method _ => none

/-- The methods, in source order. -/
def methods (c : ClassDef) : List Method :=
  c.features.filterMap fun
    | .attr _ => none
    | .method m => some m

/-- Whether a form can be made of the class. -/
def hasAttributes (c : ClassDef) : Bool := !c.attributes.isEmpty

end ClassDef

/-! ## Diagnostics -/

/-- Name of the field that every generated entity carries. -/
def identityField : String := "id"

/-- Something in a model that the generated sources will not like. -/
inductive Diagnostic where
  | duplicateAttribute (className attributeName : String)
  | shadowsIdentity (className : String)
  deriving DecidableEq, Repr

/-- The text of a diagnostic. -/
def Diagnostic.text : Diagnostic → String
  | .duplicateAttribute c a => "class " ++ c ++ " declares attribute '" ++ a ++ "' more than once"
  | .shadowsIdentity c =>
    "class " ++ c ++ " declares an attribute named '" ++ identityField ++
      "', which collides with the generated identity field"

/-- What the attributes of a class that were read so far leave behind: their names, those names that
were reported as repeated, and whether one of them was reported to shadow the identity field.  The
diagnostics of a model go through all of its classes. -/
structure AttributeScan where
  seen : List String := []
  duplicates : List String := []
  shadowsIdentity : Bool := false
  diagnostics : List Diagnostic
  deriving DecidableEq, Repr

namespace AttributeScan

/-- Reports the first attribute that has the name of the identity field. -/
def readIdentity (className name : String) (s : AttributeScan) : AttributeScan :=
  if name = identityField ∧ !s.shadowsIdentity then
    { s with
      shadowsIdentity := true
      diagnostics := s.diagnostics ++ [.shadowsIdentity className] }
  else s

/-- Reports a name that was seen before, unless it was reported before. -/
def readName (className name : String) (s : AttributeScan) : AttributeScan :=
  if name ∉ s.seen then { s with seen := name :: s.seen }
  else if name ∉ s.duplicates then
    { s with
      duplicates := name :: s.duplicates
      diagnostics := s.diagnostics ++ [.duplicateAttribute className name] }
  else s

/-- Reads an attribute. -/
def read (className : String) (s : AttributeScan) (name : String) : AttributeScan :=
  (s.readIdentity className name).readName className name

end AttributeScan

/-- Diagnostics with those of a class behind them, in the order of the attributes that raise
them. -/
def ClassDef.diagnose (reported : List Diagnostic) (c : ClassDef) : List Diagnostic :=
  ((c.attributes.map (·.name)).foldl (AttributeScan.read c.name)
    { diagnostics := reported }).diagnostics

/-- The diagnostics of a model, class by class. -/
def Model.diagnostics (m : Model) : List Diagnostic := m.classes.foldl ClassDef.diagnose []

end CrudStack
