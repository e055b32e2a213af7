/-
# `CrudStack.TypeResolution` — from type names to the types of a stack

A type name in a model is a class of the model, an alias of a primitive, or unknown.  Resolution is
total: an unknown name becomes the most permissive type of the stack and is marked as a fallback,
so that one odd name never stops a generation.

A class name counts only byte for byte and wins over an alias; an alias counts after trimming and
in any case.  `void` is no type of a value: it resolves in the return position alone.
-/
import CrudStack.Model
import CrudStack.Text.Case

namespace CrudStack

/-- The stacks that sources are generated for. -/
inductive Stack where
  | springBoot
  | vue
  deriving DecidableEq, Repr

/-- How a type name was understood. -/
inductive Resolution where
  | primitive
  | entity
  | fallback
  deriving DecidableEq, Repr

/-- A type of a stack: its name, the import it needs, the input element that edits it and the
literal that an empty form starts with. -/
structure TargetType where
  name : String
  importName : Option String
  resolution : Resolution
  input : String
  default : String
  deriving DecidableEq, Repr

/-- The primitive types of the model language. -/
inductive Primitive where
  | text | integer | long | boolean | double | decimal | date | dateTime | void
  deriving DecidableEq, Repr

namespace Primitive

/-- The spellings of the primitives, in lower case. -/
def aliases : List (String × Primitive) :=
  [("text", text), ("string", text), ("char", text),
   ("integer", integer), ("int", integer),
   ("long", long), ("bigint", long),
   ("boolean", boolean), ("bool", boolean),
   ("float", double), ("double", double), ("real", double),
   ("decimal", decimal), ("date", date), ("datetime", dateTime), ("void", void)]

/-- The primitive that a type name spells. -/
def ofAlias? (typeName : String) : Option Primitive :=
  aliases.lookup (Text.lower (Text.trim typeName))

/-- Name and import of the Java type. -/
def java : Primitive → String × Option String
  | text => ("String", none)
  | integer => ("Integer", none)
  | long => ("Long", none)
  | boolean => ("Boolean", none)
  | double => ("Double", none)
  | decimal => ("BigDecimal", some "java.math.BigDecimal")
  | date => ("LocalDate", some "java.time.LocalDate")
  | dateTime => ("LocalDateTime", some "java.time.LocalDateTime")
  | void => ("void", none)

/-- Name of the JavaScript type. -/
def script : Primitive → String
  | text | void | date | dateTime => "string"
  | integer | long | double | decimal => "number"
  | boolean => "boolean"

/-- The input element that edits a value. -/
def input : Primitive → String
  | text | void => "text"
  | integer | long | double | decimal => "number"
  | boolean => "checkbox"
  | date => "date"
  | dateTime => "datetime-local"

/-- The literal of an empty value in a form. -/
def emptyLiteral : Primitive → String
  | text | void | date | dateTime => "''"
  | integer | long | double | decimal => "null"
  | boolean => "false"

/-- The type of a stack for a primitive. -/
def target (p : Primitive) : Stack → TargetType
  | .springBoot => ⟨p.java.1, p.java.2, .primitive, p.input, "null"⟩
  | .vue => ⟨p.script, none, .primitive, p.input, p.emptyLiteral⟩

end Primitive

namespace TargetType

/-- The type of a stack for a class of the model. -/
def entity (className : String) : Stack → TargetType
  | .springBoot => ⟨className, none, .entity, "text", "null"⟩
  | .vue => ⟨"object", none, .entity, "text", "null"⟩

/-- The type of a stack for a name that nothing explains. -/
def fallback : Stack → TargetType
  | .springBoot => ⟨"String", none, .fallback, "text", "null"⟩
  | .vue => ⟨"string", none, .fallback, "text", "''"⟩

end TargetType

namespace Model

/-- Whether the model has a class of exactly this name. -/
def hasClass (m : Model) (name : String) : Bool := m.classes.any (·.name == name)

/-- Resolves the type of an attribute or a parameter. -/
def resolve (m : Model) (typeName : String) (stack : Stack) : TargetType :=
  if m.hasClass typeName then .entity typeName stack
  else
    match Primitive.ofAlias? typeName with
    | none | some .void => .fallback stack
    | some p => p.target stack

/-- Resolves the return type of a method, where `void` is a type. -/
def resolveReturn (m : Model) (typeName : String) (stack : Stack) : TargetType :=
  if m.hasClass typeName then .entity typeName stack
  else
    match Primitive.ofAlias? typeName with
    | none => .fallback stack
    | some p => p.target stack

end Model

end CrudStack
