/-
# `CrudStack.Model.Load` — models from files

A file whose name ends in `.toml`, in any case, is read as TOML; every other one as JSON.
-/
import CrudStack.Disk
import CrudStack.Model.OfJson
import CrudStack.Model.OfToml

namespace CrudStack.Model

/-- Why a model could not be loaded. -/
inductive LoadError where
  | io (path : Path) (fault : IoFault)
  | json (text : String) (error : JsonError)
  | toml (error : TomlError)

/-- The message of an error, if it has one. -/
def LoadError.message? : LoadError → Option String
  | io path fault => some ("Failed to read model source " ++ path.text ++ ": " ++ fault.text)
  | json text error => some (jsonMessage text error)
  | toml error => error.message?

/-- Reads a model from the text of a file. -/
def ofFile (path : Path) (text : String) : Except LoadError Model :=
  if path.hasEnding "toml" then (ofToml text).mapError .toml
  else (ofJson text).mapError (.json text)

/-- Loads a model. -/
def load (d : Disk) (path : Path) : Except LoadError Model :=
  match d.readText path with
  | .error fault => .error (.io path fault)
  | .ok text => ofFile path text

end CrudStack.Model
