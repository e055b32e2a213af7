/-
# `CrudStack.Model.OfDocument` — models as data

A model, a class, a feature and a parameter are tables; each may also be given as the list of its
members in a fixed order.  Members that nobody knows are passed over.  The entries of a table are
looked at in their order, so that of several faults the first one counts; what is missing is noticed
last.

Features and parameters are read in the same way whatever format the data came from, and there a
list must have no surplus elements.  `ofDocument` reads whole models that are at hand as data; a
surplus in a model or a class does no harm there.
-/
import CrudStack.Model
import CrudStack.Model.Fault

namespace CrudStack.Model

/-- A text. -/
def textOf : Document → Except DataFault String
  | .text s => .ok s
  | d => .error (.wrongType d.found .text)

/-- The value of a member that has to be there. -/
def require {A : Type} (field : String) : Option A → Except DataFault A
  | some a => .ok a
  | none => .error (.missing field)

/-- Stores the value of a member unless it has one. -/
def store {A : Type} (field : String) (read : Except DataFault A) :
    Option A → Except DataFault (Option A)
  | some _ => .error (.repeated field)
  | none => read.map some

/-! ## Attributes and parameters -/

/-- Reads name and type from the entries of a table. -/
def slotEntries (name typeName : Option String) :
    List (String × Document) → Except DataFault Slot
  | [] => do
    let name ← require "name" name
    let typeName ← require "type" typeName
    return ⟨name, typeName⟩
  | (key, value) :: rest =>
    if key = "name" then do
      slotEntries (← store "name" (textOf value) name) typeName rest
    else if key = "type" then do
      slotEntries name (← store "type" (textOf value) typeName) rest
    else slotEntries name typeName rest

/-- Reads name and type from a list of exactly two elements. -/
def slotItems (shape : Shape) : List Document → Except DataFault Slot
  | [] => .error (.tooShort 0 shape)
  | [name] => do
    let _ ← textOf name
    throw (.tooShort 1 shape)
  | name :: typeName :: surplus => do
    let name ← textOf name
    let typeName ← textOf typeName
    if surplus.isEmpty then return ⟨name, typeName⟩
    else throw (.tooLong (surplus.length + 2) 2)

/-- Reads a name with a type. -/
def slotOf (shape : Shape) : Document → Except DataFault Slot
  | .table entries => slotEntries none none entries
  | .list items => slotItems shape items
  | d => .error (.wrongType d.found shape)

/-- Reads a list of parameters. -/
def parametersOf : Document → Except DataFault (List Slot)
  | .list items => items.mapM (slotOf .parameter)
  | d => .error (.wrongType d.found .list)

/-! ## Methods -/

/-- Reads name, return type and parameters from the entries of a table. -/
def methodEntries (name typeName : Option String) (parameters : Option (List Slot)) :
    List (String × Document) → Except DataFault Method
  | [] => do
    let name ← require "name" name
    let typeName ← require "type" typeName
    return ⟨name, typeName, parameters.getD []⟩
  | (key, value) :: rest =>
    if key = "name" then do
      methodEntries (← store "name" (textOf value) name) typeName parameters rest
    else if key = "type" then do
      methodEntries name (← store "type" (textOf value) typeName) parameters rest
    else if key = "parameters" then do
      methodEntries name typeName (← store "parameters" (parametersOf value) parameters) rest
    else methodEntries name typeName parameters rest

/-- Reads name, return type and parameters from a list of two or three elements. -/
def methodItems : List Document → Except DataFault Method
  | [] => .error (.tooShort 0 .method)
  | [name] => do
    let _ ← textOf name
    throw (.tooShort 1 .method)
  | [name, typeName] => do
    let name ← textOf name
    let typeName ← textOf typeName
    return ⟨name, typeName, []⟩
  | name :: typeName :: parameters :: surplus => do
    let name ← textOf name
    let typeName ← textOf typeName
    let parameters ← parametersOf parameters
    if surplus.isEmpty then return ⟨name, typeName, parameters⟩
    else throw (.tooLong (surplus.length + 3) 3)

/-- Reads a method. -/
def methodOf : Document → Except DataFault Method
  | .table entries => methodEntries none none none entries
  | .list items => methodItems items
  | d => .error (.wrongType d.found .method)

/-! ## Features -/

/-- The kinds of features. -/
inductive Kind where
  | attr
  | method
  deriving DecidableEq, Repr

/-- Name of the member that tells the kind of a feature. -/
def kindField : String := "kind"

/-- The kind of a name. -/
def kindOfText (s : String) : Except DataFault Kind :=
  if s = "attribute" then .ok .attr
  else if s = "method" then .ok .method
  else .error (.unknownKind s)

/-- Reads a feature of a known kind from its other members. -/
def featureOf (kind : Kind) (content : Document) : Except DataFault Feature :=
  match kind with
  | .attr => (slotOf .attr content).map .attr
  | .method => (methodOf content).map .method

/-- Reads the name of a kind. -/
def kindOf : Document → Except DataFault Kind
  | .text s => kindOfText s
  | d => .error (.wrongType d.found .kind)

/-- Takes the kind out of the entries of a table. -/
def splitKind (kind : Option Kind) :
    List (String × Document) → Except DataFault (Kind × List (String × Document))
  | [] => do
    let kind ← require kindField kind
    return (kind, [])
  | (key, value) :: rest =>
    if key = kindField then do splitKind (← store kindField (kindOf value) kind) rest
    else do
      let (kind, others) ← splitKind kind rest
      return (kind, (key, value) :: others)

/-- Reads a feature.  Its kind comes first in a list and anywhere in a table. -/
def featureOfDocument : Document → Except DataFault Feature
  | .table entries => do
    let (kind, others) ← splitKind none entries
    featureOf kind (.table others)
  | .list [] => .error (.missing kindField)
  | .list (first :: rest) => do featureOf (← kindOf first) (.list rest)
  | d => .error (.wrongType d.found .feature)

/-! ## Classes and models -/

/-- Reads a list of features. -/
def featuresOf : Document → Except DataFault (List Feature)
  | .list items => items.mapM featureOfDocument
  | d => .error (.wrongType d.found .list)

/-- Reads name and features from the entries of a table. -/
def classEntries (name : Option String) (features : Option (List Feature)) :
    List (String × Document) → Except DataFault ClassDef
  | [] => do
    let name ← require "name" name
    return ⟨name, features.getD []⟩
  | (key, value) :: rest =>
    if key = "name" then do
      classEntries (← store "name" (textOf value) name) features rest
    else if key = "features" then do
      classEntries name (← store "features" (featuresOf value) features) rest
    else classEntries name features rest

/-- Reads name and features from the first elements of a list. -/
def classItems : List Document → Except DataFault ClassDef
  | [] => .error (.tooShort 0 .classDef)
  | [name] => do return ⟨← textOf name, []⟩
  | name :: features :: _ => do
    let name ← textOf name
    return ⟨name, ← featuresOf features⟩

/-- Reads a class. -/
def classOf : Document → Except DataFault ClassDef
  | .table entries => classEntries none none entries
  | .list items => classItems items
  | d => .error (.wrongType d.found .classDef)

/-- Reads a list of classes. -/
def classesOf : Document → Except DataFault (List ClassDef)
  | .list items => items.mapM classOf
  | d => .error (.wrongType d.found .list)

/-- Reads the classes of a model from the entries of a table. -/
def modelEntries (classes : Option (List ClassDef)) :
    List (String × Document) → Except DataFault Model
  | [] => .ok ⟨classes.getD []⟩
  | (key, value) :: rest =>
    if key = "classes" then do
      modelEntries (← store "classes" (classesOf value) classes) rest
    else modelEntries classes rest

/-- Reads a model. -/
def ofDocument : Document → Except DataFault Model
  | .table entries => modelEntries none entries
  | .list [] => .ok ⟨[]⟩
  | .list (classes :: _) => do return ⟨← classesOf classes⟩
  | d => .error (.wrongType d.found .model)

end CrudStack.Model
