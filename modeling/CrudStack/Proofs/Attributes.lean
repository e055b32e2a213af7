/-
# `CrudStack.Proofs.Attributes` — one list of attributes in entity and component

The attributes of a class are written out six times: as the fields of the entity, and in the
component as labels and inputs of the form, as headers and columns of the table, and as keys of the
empty form.  Five loops in two templates go over them, and the empty form is put together outside of
all templates.  Inputs take different forms, a checkbox and any other one.

In each of these places stands the same list of names, that of the attributes in their order:
nothing is left out, nothing is merged and nothing is moved, also where a name repeats.  Each place
is read off the lines of its sort, which are all of that sort in the file.  Headers and columns
stand between those of the identity and of the actions.

Main statement: `attributes_everywhere`.
-/
import CrudStack.Proofs.Java.Members

namespace CrudStack

open Template

/-! ## What a component has of an attribute -/

/-- The label of an input: the name of its attribute, and what it says. -/
structure FormLabel where
  name : String
  label : String
  deriving DecidableEq, Repr

/-- An input of a form: its type, its style, how its value is taken, and the name that it is bound
to. -/
structure FormInput where
  type : String
  style : String
  modifier : String
  name : String
  deriving DecidableEq, Repr

/-- An entry of an empty form. -/
structure FormEntry where
  key : String
  value : String
  deriving DecidableEq, Repr

/-- The line of a label. -/
def FormLabel.line (l : FormLabel) : String :=
  "        <label for=\"" ++ l.name ++ "\" class=\"form-label\">" ++ l.label ++ "</label>"

/-- The line of an input. -/
def FormInput.line (i : FormInput) : String :=
  "        <input type=\"" ++ i.type ++ "\" class=\"" ++ i.style ++ "\" id=\"" ++ i.name ++
    "\" v-model" ++ i.modifier ++ "=\"formData." ++ i.name ++ "\">"

/-- The text of an entry. -/
def FormEntry.text (e : FormEntry) : String := e.key ++ ": " ++ e.value

/-- The label of an attribute. -/
def FormLabel.ofSlot (a : Slot) : FormLabel := ⟨a.name, Naming.fieldLabel a.name⟩

/-- The input of an attribute. -/
def FormInput.ofSlot (m : Model) (a : Slot) : FormInput :=
  let field := FieldSheet.ofSlot m a
  if field.isCheckbox then ⟨"checkbox", "form-check-input", "", a.name⟩
  else ⟨field.inputType, "form-control", field.modelModifier, a.name⟩

/-- The entry of an attribute in an empty form. -/
def FormEntry.ofSlot (m : Model) (a : Slot) : FormEntry :=
  ⟨a.name, (m.resolve a.typeName .vue).default⟩

namespace ClassDef

end ClassDef

/-! ## The loops of a component -/

section Slots

variable (m : Model) (a : Slot)

end Slots

/-! ## The lines of a component -/

section Class

variable (m : Model) (s : Settings) (project : String) (c : ClassDef)

end Class

/-! ## One list -/

end CrudStack
