/-
# `CrudStack.Model.OfToml` — models from TOML texts

A text that is not TOML is only known as such; a document that is not a model has the fault of its
data for a message.
-/
import CrudStack.Decimal.Text
import CrudStack.Model.OfDocument
import CrudStack.Toml.Parse

namespace CrudStack.Model

/-- Why a text is not a TOML model. -/
inductive TomlError where
  | malformed
  | data (fault : DataFault)
  deriving DecidableEq, Repr

/-- How TOML spells what was found; it has no null. -/
def tomlSpelling : Spelling := ⟨"unit value", Double.pointed⟩

/-- The message for an error, if it has one. -/
def TomlError.message? : TomlError → Option String
  | malformed => none
  | data fault => some (fault.text tomlSpelling)

/-- Reads a model from a TOML text. -/
def ofToml (text : String) : Except TomlError Model :=
  match Toml.parse text with
  | none => .error .malformed
  | some d => (ofDocument d).mapError .data

end CrudStack.Model
