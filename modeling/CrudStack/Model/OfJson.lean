/-
# `CrudStack.Model.OfJson` — models from JSON texts

The scanned text is walked once, in its order, and the first fault counts: a flaw of the text, or
data that is not a model.  Classes are read as they come.  A feature is taken in whole before it is
looked at, so a flaw anywhere in it is met before the data in it is judged, and what is wrong with
the data is placed behind the feature.  Members that nobody knows are skipped in a model and in a
class, where they may be of any depth; in a feature they are read like everything else.
-/
import CrudStack.Decimal.Text
import CrudStack.Json.Node
import CrudStack.Model.OfDocument

namespace CrudStack.Model

open Json

/-- Why a text is not a JSON model. -/
inductive JsonCause where
  | flaw (fault : Fault)
  | data (fault : DataFault)
  deriving DecidableEq, Repr

/-- A cause at an offset of the text. -/
abbrev JsonError := Located JsonCause

/-- How JSON spells what was found. -/
def jsonSpelling : Spelling := ⟨"null", Double.scientific⟩

/-- The text of a cause. -/
def JsonCause.text : JsonCause → String
  | flaw fault => fault.text
  | data fault => fault.text jsonSpelling

/-- The message for an error in a text. -/
def jsonMessage (text : String) (e : JsonError) : String :=
  "Invalid JSON model: " ++ e.cause.text ++ placeText text e.offset

/-- What the text says, or its flaw. -/
def lexical {A : Type} : Except Flaw A → Except JsonError A
  | .ok a => .ok a
  | .error flaw => .error (flaw.map .flaw)

/-- What the data says, or its fault placed at an offset. -/
def placed {A : Type} (offset : Nat) : Except DataFault A → Except JsonError A
  | .ok a => .ok a
  | .error fault => .error ⟨.data fault, offset⟩

/-- Refuses a value that has the wrong shape: a single value behind it, a list or an object before
its bracket. -/
def refuse {A : Type} (expected : Shape) : Node → Except JsonError A
  | .scalar reading stop => do
    let d ← lexical reading
    placed stop (.error (.wrongType d.found expected))
  | .text reading stop => do
    let s ← lexical reading
    placed stop (.error (.wrongType (.text s) expected))
  | .list start _ => placed start (.error (.wrongType .list expected))
  | .object start _ => placed start (.error (.wrongType .table expected))
  | .broken reading _ => lexical (.error reading)

/-- Reads a text. -/
def textNode : Node → Except JsonError String
  | .text reading _ => lexical reading
  | node => refuse .text node

/-! ## Features -/

/-- Reads the name of a kind and judges it at once. -/
def kindNode : Node → Except JsonError Kind
  | .text reading stop => do
    let s ← lexical reading
    placed stop (kindOfText s)
  | node => refuse .kind node

/-- Takes in the members of a feature: its kind, judged at once, and the others as data. -/
def kindMembers (depth : Nat) (kind : Option Kind) :
    Members → Except JsonError (Kind × List (String × Document))
  | .close stop =>
    match kind with
    | some kind => .ok (kind, [])
    | none => placed stop (.error (.missing kindField))
  | .broken offset fault => lexical (.error (fault.reading offset))
  | .brokenKey reading _ => lexical (.error reading)
  | .member key settled node rest => do
    let key ← lexical key
    if key = kindField then
      if kind.isSome then placed settled (.error (.repeated kindField))
      else kindMembers depth (some (← kindNode node)) rest
    else
      let value ← lexical (node.read depth)
      let (kind, others) ← kindMembers depth kind rest
      return (kind, (key, value) :: others)

/-- Takes in a feature: its kind and its other members. -/
def takeFeature (depth : Nat) : Node → Except JsonError (Kind × Document)
  | .object start members => do
    let depth ← lexical (enter depth start)
    let (kind, others) ← kindMembers depth none members
    return (kind, .table others)
  | .list start items => do
    let depth ← lexical (enter depth start)
    match items with
    | .close stop => placed stop (.error (.missing kindField))
    | .broken offset fault => lexical (.error (fault.reading offset))
    | .item _ first rest => do
      let kind ← kindNode first
      let others ← lexical (rest.read depth)
      return (kind, .list others)
  | node => refuse .feature node

/-- Reads the rest of a list of features. -/
def featureItems (depth : Nat) : Items → Except JsonError (List Feature)
  | .close _ => .ok []
  | .broken offset fault => lexical (.error (fault.reading offset))
  | .item _ node rest => do
    let (kind, content) ← takeFeature depth node
    let feature ← placed rest.settled (featureOf kind content)
    let others ← featureItems depth rest
    return feature :: others

/-- Reads a list of features. -/
def featuresNode (depth : Nat) : Node → Except JsonError (List Feature)
  | .list start items => do
    let depth ← lexical (enter depth start)
    featureItems depth items
  | node => refuse .list node

/-! ## Classes -/

/-- Reads name and features from the members of an object. -/
def classMembers (depth : Nat) (name : Option String) (features : Option (List Feature)) :
    Members → Except JsonError ClassDef
  | .close stop => do
    let name ← placed stop (require "name" name)
    return ⟨name, features.getD []⟩
  | .broken offset fault => lexical (.error (fault.reading offset))
  | .brokenKey reading _ => lexical (.error reading)
  | .member key settled node rest => do
    let key ← lexical key
    if key = "name" then
      if name.isSome then placed settled (.error (.repeated "name"))
      else classMembers depth (some (← textNode node)) features rest
    else if key = "features" then
      if features.isSome then placed settled (.error (.repeated "features"))
      else classMembers depth name (some (← featuresNode depth node)) rest
    else
      lexical node.skip
      classMembers depth name features rest

/-- Reads name and features from a list, which must end there. -/
def classElements (depth : Nat) : Items → Except JsonError ClassDef
  | .close stop => placed stop (.error (.tooShort 0 .classDef))
  | .broken offset fault => lexical (.error (fault.reading offset))
  | .item _ node rest => do
    let name ← textNode node
    match rest with
    | .close _ => return ⟨name, []⟩
    | .broken offset fault => lexical (.error (fault.reading offset))
    | .item _ node rest => do
      let features ← featuresNode depth node
      lexical rest.finish
      return ⟨name, features⟩

/-- Reads a class. -/
def classNode (depth : Nat) : Node → Except JsonError ClassDef
  | .object start members => do
    let depth ← lexical (enter depth start)
    classMembers depth none none members
  | .list start items => do
    let depth ← lexical (enter depth start)
    classElements depth items
  | node => refuse .classDef node

/-- Reads the rest of a list of classes. -/
def classListItems (depth : Nat) : Items → Except JsonError (List ClassDef)
  | .close _ => .ok []
  | .broken offset fault => lexical (.error (fault.reading offset))
  | .item _ node rest => do
    let first ← classNode depth node
    let others ← classListItems depth rest
    return first :: others

/-- Reads a list of classes. -/
def classesNode (depth : Nat) : Node → Except JsonError (List ClassDef)
  | .list start items => do
    let depth ← lexical (enter depth start)
    classListItems depth items
  | node => refuse .list node

/-! ## Models -/

/-- Reads the classes of a model from the members of an object. -/
def modelMembers (depth : Nat) (classes : Option (List ClassDef)) :
    Members → Except JsonError Model
  | .close _ => .ok ⟨classes.getD []⟩
  | .broken offset fault => lexical (.error (fault.reading offset))
  | .brokenKey reading _ => lexical (.error reading)
  | .member key settled node rest => do
    let key ← lexical key
    if key = "classes" then
      if classes.isSome then placed settled (.error (.repeated "classes"))
      else modelMembers depth (some (← classesNode depth node)) rest
    else
      lexical node.skip
      modelMembers depth classes rest

/-- Reads the classes of a model from a list, which must end there. -/
def modelElements (depth : Nat) : Items → Except JsonError Model
  | .close _ => .ok ⟨[]⟩
  | .broken offset fault => lexical (.error (fault.reading offset))
  | .item _ node rest => do
    let classes ← classesNode depth node
    lexical rest.finish
    return ⟨classes⟩

/-- Reads a model. -/
def modelNode (depth : Nat) : Node → Except JsonError Model
  | .object start members => do
    let depth ← lexical (enter depth start)
    modelMembers depth none members
  | .list start items => do
    let depth ← lexical (enter depth start)
    modelElements depth items
  | node => refuse .model node

/-- Reads a model from a JSON text. -/
def ofJson (text : String) : Except JsonError Model := do
  let scanned := scan text
  let model ← modelNode depthLimit scanned.root
  lexical (orFlaw scanned.trailing)
  return model

end CrudStack.Model
