/-
# `CrudStack.Settings` — settings of a generation and what is derived from them

Settings are complete records; where they come from is the business of `CrudStack.Settings.Load`.
A value that depends on the project — its name, its package, its database — is derived here, in one
place for both modes.
-/
import CrudStack.Naming
import CrudStack.Path

namespace CrudStack

/-- The database that a backend talks to. -/
inductive Database where
  | postgres
  | h2
  deriving DecidableEq, Repr

namespace Database

/-- The name of a database in settings and on the command line. -/
def label : Database → String
  | postgres => "postgres"
  | h2 => "h2"

/-- The database of a name. -/
def ofLabel? (s : String) : Option Database :=
  if s = "postgres" then some .postgres else if s = "h2" then some .h2 else none

/-- The address of a database of a certain name. -/
def address : Database → String → String
  | postgres, name => "jdbc:postgresql://localhost:5432/" ++ name
  | h2, name => "jdbc:h2:mem:" ++ name

/-- The class of the driver. -/
def driverClass : Database → String
  | postgres => "org.postgresql.Driver"
  | h2 => "org.h2.Driver"

end Database

/-- Settings of the whole project. -/
structure ProjectSettings where
  name : Option String := none
  deriving DecidableEq, Repr

/-- Where and as whom a backend opens its database. -/
structure DatasourceSettings where
  url : Option String := none
  username : String := "postgres"
  password : String := "changeme"
  deriving DecidableEq, Repr

/-- Settings of the backend. -/
structure BackendSettings where
  groupId : String := "com.example"
  javaVersion : String := "17"
  springBootVersion : String := "3.1.0"
  serverPort : UInt16 := 8080
  database : Database := .postgres
  datasource : DatasourceSettings := {}
  deriving DecidableEq, Repr

/-- Settings of the frontend. -/
structure FrontendSettings where
  apiBaseUrl : String := "http://localhost:8080"
  devPort : UInt16 := 5173
  title : Option String := none
  deriving DecidableEq, Repr

/-- All settings. -/
structure Settings where
  project : ProjectSettings := {}
  backend : BackendSettings := {}
  frontend : FrontendSettings := {}
  deriving DecidableEq, Repr

namespace Settings

/-- Whether a text holds nothing but white space. -/
def isBlankText (s : String) : Bool := (Text.trimChars s.toList).isEmpty

/-- The name of the project: as set, unless that is blank, or else after the model's file. -/
def projectName (s : Settings) (source : Path) : String :=
  match s.project.name.filter fun n => !isBlankText n with
  | some name => name
  | none =>
    match source.stem?.filter fun stem => !stem.isEmpty with
    | some stem => stem
    | none => "app"

/-- The last segment of the package of a project; empty if nothing of its name may stand there. -/
def packageSegment (project : String) : String := Text.lower (Naming.identifierPart project)

/-- The package that the generated sources live in. -/
def basePackage (s : Settings) (project : String) : String :=
  let segment := packageSegment project
  if segment.isEmpty then s.backend.groupId else s.backend.groupId ++ "." ++ segment

/-- The address of the database: as set, or else named after the project. -/
def datasourceUrl (s : Settings) (project : String) : String :=
  s.backend.datasource.url.getD (s.backend.database.address (Naming.tableName project))

/-- The title of the frontend: as set, or else the name of the project. -/
def frontendTitle (s : Settings) (project : String) : String :=
  s.frontend.title.getD project

end Settings

end CrudStack
