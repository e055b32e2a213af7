/-
# `CrudStack.Settings.Load` — settings from defaults, file and environment

The environment counts more than the file, and the file more than the defaults.  The file is the one
that was named, or else the local one if that is there.  A file is looked for in the working
directory and then in the directories around it, and one that is found nowhere adds no layer.
-/
import CrudStack.Disk
import CrudStack.Settings.Environment
import CrudStack.Settings.Extract
import CrudStack.Toml.Parse
import CrudStack.Toml.Writer

namespace CrudStack.Settings

/-- Why settings could not be loaded. -/
inductive LoadError where
  | malformed
  | unreadable (path : Path) (fault : IoFault)
  | misfit (fault : Fault)
  deriving DecidableEq, Repr

/-- The message of an error; a text that is not TOML has none. -/
def LoadError.message? : LoadError → Option String
  | malformed => none
  | unreadable path fault =>
    some ("Configuration error: " ++ fault.text ++ "\n in " ++ (Source.file path).label)
  | misfit fault => some ("Configuration error: " ++ fault.text)

/-- The layer of a TOML text. -/
def textLayer (source : Source) (text : String) : Except LoadError Tree :=
  match Toml.parse text with
  | none => .error .malformed
  | some d => .ok (.ofDocument source d)

/-- Settings from a TOML text over the defaults. -/
def ofToml (text : String) : Except LoadError Settings := do
  let layer ← textLayer .text text
  (ofTree (defaultLayer.mergeInto layer)).mapError .misfit

/-- Settings as a TOML text. -/
def toToml (s : Settings) : String := Toml.write s.documentEntries

/-- Name of the file that is looked for in the working directory. -/
def localFile : Path := ⟨"ovelha.toml"⟩

/-- Where a file is looked for: a relative path in the working directory, and then in the
directories around it from the inside out. -/
def lookedFor (d : Disk) (path : Path) : List Path :=
  if path.isAbsolute then [path]
  else (List.range (d.workingDirectory.length + 1)).map fun n =>
    ⟨String.join (List.replicate n "../") ++ path.text⟩

/-- The layer of a file; none if there is no such file. -/
def fileLayer (d : Disk) (path : Path) : Except LoadError (Option Tree) :=
  match (lookedFor d path).find? d.hasFile with
  | none => .ok none
  | some found =>
    match d.readText found with
    | .error fault => .error (.unreadable found fault)
    | .ok text => (textLayer (.file found) text).map some

/-- The layer of the named file, or of the local one if that is there. -/
def namedLayer (d : Disk) : Option Path → Except LoadError (Option Tree)
  | some path => fileLayer d path
  | none => if d.hasAny localFile then fileLayer d localFile else .ok none

/-- Settings from the named or the local file and from variables, over the defaults. -/
def load (d : Disk) (environment : List (String × String)) (named : Option Path) :
    Except LoadError Settings := do
  let below := match ← namedLayer d named with
    | none => defaultLayer
    | some layer => defaultLayer.mergeInto layer
  (ofTree (below.mergeInto (Environment.layer environment))).mapError .misfit

end CrudStack.Settings
