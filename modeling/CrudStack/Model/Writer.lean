/-
# `CrudStack.Model.Writer` — models as texts

A model is written with every list, even an empty one, and a feature names its kind first.
-/
import CrudStack.Json.Writer
import CrudStack.Model
import CrudStack.Toml.Writer

namespace CrudStack

/-- A name and a type as a document. -/
def Slot.document (s : Slot) : Document :=
  .table [("name", .text s.name), ("type", .text s.typeName)]

/-- A feature as a document. -/
def Feature.document : Feature → Document
  | .attr a =>
    .table [("kind", .text "attribute"), ("name", .text a.name), ("type", .text a.typeName)]
  | .method m =>
    .table
      [("kind", .text "method"), ("name", .text m.name), ("type", .text m.returnType),
       ("parameters", .list (m.parameters.map Slot.document))]

/-- A class as a document. -/
def ClassDef.document (c : ClassDef) : Document :=
  .table [("name", .text c.name), ("features", .list (c.features.map Feature.document))]

namespace Model

/-- The entries of a model's document. -/
def entries (m : Model) : List (String × Document) :=
  [("classes", .list (m.classes.map ClassDef.document))]

/-- A model as a document. -/
def document (m : Model) : Document := .table m.entries

/-- A model as a JSON text. -/
def toJson (m : Model) : String := Json.write m.document

/-- A model as a TOML text. -/
def toToml (m : Model) : String := Toml.write m.entries

end Model

end CrudStack
