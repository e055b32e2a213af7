/-
# `CrudStack.Settings.Extract` — complete settings from merged layers

A section of the settings is a table, or a list that gives its values in the order of its fields.
What a section does not say keeps its default, and a key that nobody knows is passed over.  The keys
of a table are looked at in increasing order, and the first value that does not fit is the fault.
-/
import CrudStack.Settings
import CrudStack.Settings.Tree

namespace CrudStack.Settings

/-- Why a value does not fit. -/
inductive Misfit where
  | wrongType (found : String) (expected : String)
  | outOfRange (found : String)
  | unknownDatabase (name : String)
  deriving DecidableEq, Repr

/-- The text of a misfit. -/
def Misfit.text : Misfit → String
  | wrongType found expected => "invalid type: found " ++ found ++ ", expected " ++ expected
  | outOfRange found => "invalid value " ++ found ++ ", expected u16"
  | unknownDatabase name =>
    "unknown variant: found `" ++ name ++ "`, expected ``postgres` or `h2``"

/-- A value that does not fit, with its path and its source. -/
structure Fault where
  misfit : Misfit
  path : List String
  source : Source
  deriving DecidableEq, Repr

/-- The fault seen from the table or list around it. -/
def Fault.under (key : String) (f : Fault) : Fault := { f with path := key :: f.path }

/-- Refuses a value. -/
def refuse {A : Type} (expected : String) (t : Tree) : Except Fault A :=
  .error ⟨.wrongType t.foundText expected, [], t.source⟩

/-! ## Single values -/

/-- A text. -/
def textOf : Tree → Except Fault String
  | .leaf _ (.text s) => .ok s
  | .leaf _ (.letter c) => .ok (String.singleton c)
  | t => refuse "a string" t

/-- A port from a number. -/
def portOfInt (source : Source) (leaf : Leaf) (i : Int) : Except Fault UInt16 :=
  if 0 ≤ i ∧ i < 65536 then .ok (UInt16.ofNat i.toNat)
  else .error ⟨.outOfRange (Tree.leafText leaf), [], source⟩

/-- A port. -/
def portOf : Tree → Except Fault UInt16
  | .leaf source (.signed i) => portOfInt source (.signed i) i
  | .leaf source (.unsigned n) => portOfInt source (.unsigned n) n
  | t => refuse "u16" t

/-- A database by its name, or the fault of an unknown one. -/
def databaseNamed (source : Source) (name : String) : Except Fault Database :=
  match Database.ofLabel? name with
  | some d => .ok d
  | none => .error ⟨.unknownDatabase name, [], source⟩

/-- A database.  A table would have to name one by its first key and to give it no value, which no
value is. -/
def databaseOf : Tree → Except Fault Database
  | .leaf source (.text s) => databaseNamed source s
  | .table source [] => .error ⟨.wrongType "map" "enum", [], source⟩
  | .table source ((key, value) :: _) =>
    match databaseNamed source key with
    | .ok _ => (refuse "unit" value).mapError (·.under key)
    | .error f => .error (f.under key)
  | t => refuse "enum DatabaseBackend" t

/-! ## Sections -/

/-- Reads a section: `set` reads the value of one field into a record, and leaves it as it is for a
field that it does not know. -/
def sectionOf {Record : Type} (expected : String) (fields : List String)
    (set : Record → String → Tree → Except Fault Record) (defaults : Record) :
    Tree → Except Fault Record
  | .table _ entries =>
    entries.foldlM (fun r e => (set r e.1 e.2).mapError (·.under e.1)) defaults
  | .list _ items =>
    ((fields.zip items).zipIdx).foldlM
      (fun r e => (set r e.1.1 e.1.2).mapError (·.under (toString e.2))) defaults
  | t => refuse expected t

/-- Reads a field of the project's settings. -/
def setProject (p : ProjectSettings) (key : String) (t : Tree) : Except Fault ProjectSettings :=
  if key = "name" then do return { p with name := some (← textOf t) }
  else .ok p

/-- The settings of the project. -/
def projectOf : Tree → Except Fault ProjectSettings :=
  sectionOf "struct ProjectSettings" ["name"] setProject {}

/-- Reads a field of the datasource's settings. -/
def setDatasource (d : DatasourceSettings) (key : String) (t : Tree) :
    Except Fault DatasourceSettings :=
  if key = "url" then do return { d with url := some (← textOf t) }
  else if key = "username" then do return { d with username := ← textOf t }
  else if key = "password" then do return { d with password := ← textOf t }
  else .ok d

/-- The settings of the datasource. -/
def datasourceOf : Tree → Except Fault DatasourceSettings :=
  sectionOf "struct DatasourceSettings" ["url", "username", "password"] setDatasource {}

/-- Reads a field of the backend's settings. -/
def setBackend (b : BackendSettings) (key : String) (t : Tree) : Except Fault BackendSettings :=
  if key = "group_id" then do return { b with groupId := ← textOf t }
  else if key = "java_version" then do return { b with javaVersion := ← textOf t }
  else if key = "spring_boot_version" then do return { b with springBootVersion := ← textOf t }
  else if key = "server_port" then do return { b with serverPort := ← portOf t }
  else if key = "database" then do return { b with database := ← databaseOf t }
  else if key = "datasource" then do return { b with datasource := ← datasourceOf t }
  else .ok b

/-- The settings of the backend. -/
def backendOf : Tree → Except Fault BackendSettings :=
  sectionOf "struct BackendSettings"
    ["group_id", "java_version", "spring_boot_version", "server_port", "database", "datasource"]
    setBackend {}

/-- Reads a field of the frontend's settings. -/
def setFrontend (f : FrontendSettings) (key : String) (t : Tree) :
    Except Fault FrontendSettings :=
  if key = "api_base_url" then do return { f with apiBaseUrl := ← textOf t }
  else if key = "dev_port" then do return { f with devPort := ← portOf t }
  else if key = "title" then do return { f with title := some (← textOf t) }
  else .ok f

/-- The settings of the frontend. -/
def frontendOf : Tree → Except Fault FrontendSettings :=
  sectionOf "struct FrontendSettings" ["api_base_url", "dev_port", "title"] setFrontend {}

/-- Reads a section into the whole. -/
def setSection (s : Settings) (key : String) (t : Tree) : Except Fault Settings :=
  if key = "project" then do return { s with project := ← projectOf t }
  else if key = "backend" then do return { s with backend := ← backendOf t }
  else if key = "frontend" then do return { s with frontend := ← frontendOf t }
  else .ok s

/-- All settings of a merged layer. -/
def ofTree (t : Tree) : Except Fault Settings :=
  sectionOf "struct GeneratorConfig" ["project", "backend", "frontend"] setSection {} t

/-! ## The layer of the defaults -/

/-- A text that may be unset as an entry, or as none. -/
def optionalEntry (key : String) (value : Option String) : List (String × Document) :=
  value.toList.map fun v => (key, .text v)

/-- The entries of the settings' document; what is unset is left out. -/
def documentEntries (s : Settings) : List (String × Document) :=
  [("project", .table (optionalEntry "name" s.project.name)),
   ("backend", .table
     [("group_id", .text s.backend.groupId),
      ("java_version", .text s.backend.javaVersion),
      ("spring_boot_version", .text s.backend.springBootVersion),
      ("server_port", .integer s.backend.serverPort.toNat),
      ("database", .text s.backend.database.label),
      ("datasource", .table
        (optionalEntry "url" s.backend.datasource.url ++
          [("username", .text s.backend.datasource.username),
           ("password", .text s.backend.datasource.password)]))]),
   ("frontend", .table
     ([("api_base_url", .text s.frontend.apiBaseUrl),
       ("dev_port", .integer s.frontend.devPort.toNat)] ++
      optionalEntry "title" s.frontend.title))]

/-- Settings as a document. -/
def document (s : Settings) : Document := .table s.documentEntries

/-- The layer that all others are merged over. -/
def defaultLayer : Tree := .ofDocument .text (document {})

/-! ## Messages -/

/-- How a source shows the path of a value. -/
def Source.pathText (path : List String) : Source → String
  | .environment => ".".intercalate (path.map (·.map Text.asciiUpper))
  | .text | .file _ => "default." ++ ".".intercalate path

/-- The path of a file as messages show it: its parts, seen from the working directory. -/
def fileText (p : Path) : String :=
  let names := (p.parts.filter fun part => part ≠ .root ∧ part ≠ .here).map Path.Part.text
  (if p.isAbsolute then "/" else "") ++ "/".intercalate names

/-- The name of a source. -/
def Source.label : Source → String
  | .text => "TOML source string"
  | .file p => fileText p ++ " TOML file"
  | .environment => "`OVELHA_` environment variable(s)"

/-- The text of a fault. -/
def Fault.text (f : Fault) : String :=
  f.misfit.text ++
    (if f.path.isEmpty then "" else " for key " ++ Text.quote (f.source.pathText f.path)) ++
    " in " ++ f.source.label

end CrudStack.Settings
