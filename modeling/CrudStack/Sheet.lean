/-
# `CrudStack.Sheet` — the data that templates are filled with

A project sheet serves the files that a project has once, a class sheet those that every class has.
Both are functions of model, settings and project name alone.  A class sees of the model only its
own features and, through the types it mentions, which names are classes.

`ProjectSheet.data` and `ClassSheet.data` give the sheets as documents, under the names that the
templates use.
-/
import CrudStack.Document
import CrudStack.Settings
import CrudStack.TypeResolution

namespace CrudStack

/-! ## Projects -/

/-- An entry of the navigation and of the router. -/
structure LinkEntry where
  className : String
  routeSegment : String
  pluralLabel : String
  componentName : String
  deriving DecidableEq, Repr

/-- What the files of a whole project are filled with. -/
structure ProjectSheet where
  projectName : String
  artifactId : String
  groupId : String
  basePackage : String
  applicationClass : String
  javaVersion : String
  springBootVersion : String
  serverPort : UInt16
  isPostgres : Bool
  datasourceUrl : String
  datasourceDriver : String
  datasourceUsername : String
  datasourcePassword : String
  apiBaseUrl : String
  devPort : UInt16
  frontendOrigin : String
  title : String
  links : List LinkEntry
  deriving DecidableEq, Repr

/-- The entry of a class. -/
def LinkEntry.ofClass (c : ClassDef) : LinkEntry :=
  { className := c.name
    routeSegment := Naming.routeSegment c.name
    pluralLabel := Naming.pluralLabel c.name
    componentName := Naming.componentName c.name }

/-- The address that the development server of the frontend is reached at. -/
def Settings.frontendOrigin (s : Settings) : String :=
  "http://localhost:" ++ toString s.frontend.devPort.toNat

/-- The name of the build artifact of a project. -/
def artifactName (project : String) : String :=
  let segment := Settings.packageSegment project
  if segment.isEmpty then "app" else segment

/-- The sheet of a project.  Only classes with attributes have a component, and only they are linked
to. -/
def ProjectSheet.make (m : Model) (s : Settings) (project : String) : ProjectSheet :=
  { projectName := project
    artifactId := artifactName project
    groupId := s.backend.groupId
    basePackage := s.basePackage project
    applicationClass := Naming.applicationClass project
    javaVersion := s.backend.javaVersion
    springBootVersion := s.backend.springBootVersion
    serverPort := s.backend.serverPort
    isPostgres := s.backend.database == .postgres
    datasourceUrl := s.datasourceUrl project
    datasourceDriver := s.backend.database.driverClass
    datasourceUsername := s.backend.datasource.username
    datasourcePassword := s.backend.datasource.password
    apiBaseUrl := s.frontend.apiBaseUrl
    devPort := s.frontend.devPort
    frontendOrigin := s.frontendOrigin
    title := s.frontendTitle project
    links := (m.classes.filter ClassDef.hasAttributes).map LinkEntry.ofClass }

/-! ## Types that a class mentions -/

/-- Places a name among names in increasing order, unless it is there. -/
def insertName (name : String) : List String → List String
  | [] => [name]
  | n :: rest =>
    if name = n then n :: rest
    else if name < n then name :: n :: rest
    else n :: insertName name rest

/-- What is noted of the types of a class while its sheet is made: the imports, in increasing order
and without repetition, and the type names that nothing explains, with repetitions. -/
structure Notes where
  imports : List String := []
  unresolved : List String := []
  deriving DecidableEq, Repr

/-- Adds a type name with the type that it stands for. -/
def Notes.add (n : Notes) (typeName : String) (target : TargetType) : Notes :=
  { imports :=
      match target.importName with
      | some name => insertName name n.imports
      | none => n.imports
    unresolved :=
      if target.resolution == .fallback then n.unresolved ++ [typeName] else n.unresolved }

/-- Notes a type name with the type that it stands for, and gives the name of that type. -/
def note (typeName : String) (target : TargetType) : StateM Notes String := do
  modify fun n => n.add typeName target
  return target.name

/-! ## Classes -/

/-- What an attribute contributes to entity and component. -/
structure FieldSheet where
  name : String
  capitalized : String
  label : String
  javaType : String
  isEntity : Bool
  inputType : String
  isCheckbox : Bool
  modelModifier : String
  defaultValue : String
  deriving DecidableEq, Repr

/-- What a method contributes to the entity. -/
structure MethodSheet where
  name : String
  returnType : String
  parameters : String
  deriving DecidableEq, Repr

/-- What the files of one class are filled with, and the type names of it that nothing explains,
which no file shows. -/
structure ClassSheet where
  className : String
  variableName : String
  routeSegment : String
  pluralLabel : String
  tableName : String
  componentName : String
  basePackage : String
  frontendOrigin : String
  apiBaseUrl : String
  imports : List String
  hasRelations : Bool
  fields : List FieldSheet
  methods : List MethodSheet
  emptyForm : String
  unresolved : List String
  deriving DecidableEq, Repr

/-- The field of an attribute.  Its Java type comes from the one stack, its input and the value of
an empty form from the other. -/
def FieldSheet.ofSlot (m : Model) (a : Slot) : FieldSheet :=
  let java := m.resolve a.typeName .springBoot
  let vue := m.resolve a.typeName .vue
  { name := a.name
    capitalized := Naming.capitalizedField a.name
    label := Naming.fieldLabel a.name
    javaType := java.name
    isEntity := java.resolution == .entity
    inputType := vue.input
    isCheckbox := vue.input == "checkbox"
    modelModifier := if vue.input = "number" then ".number" else ""
    defaultValue := vue.default }

/-- Notes the Java type of an attribute, and gives its field. -/
def FieldSheet.noted (m : Model) (a : Slot) : StateM Notes FieldSheet := do
  let _ ← note a.typeName (m.resolve a.typeName .springBoot)
  return .ofSlot m a

/-- Notes the type of a parameter, and gives the parameter as Java has it. -/
def notedParameter (m : Model) (p : Slot) : StateM Notes String := do
  return (← note p.typeName (m.resolve p.typeName .springBoot)) ++ " " ++ p.name

/-- Notes what a method returns and then what it takes, and gives its stub. -/
def MethodSheet.noted (m : Model) (method : Method) : StateM Notes MethodSheet := do
  let returnType ← note method.returnType (m.resolveReturn method.returnType .springBoot)
  let parameters ← method.parameters.mapM (notedParameter m)
  return { name := method.name, returnType, parameters := ", ".intercalate parameters }

/-- Goes through the features of a class, first the attributes and then the methods. -/
def ClassDef.noted (m : Model) (c : ClassDef) :
    StateM Notes (List FieldSheet × List MethodSheet) := do
  let fields ← c.attributes.mapM (FieldSheet.noted m)
  let methods ← c.methods.mapM (MethodSheet.noted m)
  return (fields, methods)

/-- The imports of the types that a class mentions, in increasing order and without repetition. -/
def ClassDef.imports (c : ClassDef) (m : Model) : List String := ((c.noted m).run {}).2.imports

/-- The type names of a class that nothing explains, with repetitions. -/
def ClassDef.unresolved (c : ClassDef) (m : Model) : List String :=
  ((c.noted m).run {}).2.unresolved

/-- The literal of a form without input. -/
def emptyFormLiteral : List FieldSheet → String
  | [] => "\x7b\x7d"
  | fields =>
    "\x7b " ++ ", ".intercalate (fields.map fun f => f.name ++ ": " ++ f.defaultValue) ++ " \x7d"

/-- The sheet of a class of a model, made in one pass over its features. -/
def ClassSheet.make (m : Model) (s : Settings) (project : String) (c : ClassDef) : ClassSheet :=
  let ((fields, methods), notes) := (c.noted m).run {}
  { className := c.name
    variableName := Naming.variableName c.name
    routeSegment := Naming.routeSegment c.name
    pluralLabel := Naming.pluralLabel c.name
    tableName := Naming.tableName c.name
    componentName := Naming.componentName c.name
    basePackage := s.basePackage project
    frontendOrigin := s.frontendOrigin
    apiBaseUrl := s.frontend.apiBaseUrl
    imports := notes.imports
    hasRelations := fields.any (·.isEntity)
    fields
    methods
    emptyForm := emptyFormLiteral fields
    unresolved := notes.unresolved }

/-! ## Sheets as documents -/

/-- A link as a document. -/
def LinkEntry.data (l : LinkEntry) : Document :=
  .table
    [("class_name", .text l.className),
     ("route_segment", .text l.routeSegment),
     ("plural_label", .text l.pluralLabel),
     ("component_name", .text l.componentName)]

/-- A project sheet as a document. -/
def ProjectSheet.data (p : ProjectSheet) : Document :=
  .table
    [("project_name", .text p.projectName),
     ("artifact_id", .text p.artifactId),
     ("group_id", .text p.groupId),
     ("base_package", .text p.basePackage),
     ("application_class", .text p.applicationClass),
     ("java_version", .text p.javaVersion),
     ("spring_boot_version", .text p.springBootVersion),
     ("server_port", .integer p.serverPort.toNat),
     ("is_postgres", .bool p.isPostgres),
     ("datasource_url", .text p.datasourceUrl),
     ("datasource_driver", .text p.datasourceDriver),
     ("datasource_username", .text p.datasourceUsername),
     ("datasource_password", .text p.datasourcePassword),
     ("api_base_url", .text p.apiBaseUrl),
     ("dev_port", .integer p.devPort.toNat),
     ("frontend_origin", .text p.frontendOrigin),
     ("title", .text p.title),
     ("classes", .list (p.links.map LinkEntry.data))]

/-- A field as a document. -/
def FieldSheet.data (f : FieldSheet) : Document :=
  .table
    [("name", .text f.name),
     ("capitalized", .text f.capitalized),
     ("label", .text f.label),
     ("java_type", .text f.javaType),
     ("is_entity", .bool f.isEntity),
     ("input_type", .text f.inputType),
     ("is_checkbox", .bool f.isCheckbox),
     ("model_modifier", .text f.modelModifier),
     ("default_value", .text f.defaultValue)]

/-- A method as a document. -/
def MethodSheet.data (m : MethodSheet) : Document :=
  .table
    [("name", .text m.name),
     ("return_type", .text m.returnType),
     ("parameters", .text m.parameters)]

/-- A class sheet as a document, without what no file shows. -/
def ClassSheet.data (c : ClassSheet) : Document :=
  .table
    [("class_name", .text c.className),
     ("variable", .text c.variableName),
     ("route_segment", .text c.routeSegment),
     ("plural_label", .text c.pluralLabel),
     ("table_name", .text c.tableName),
     ("component_name", .text c.componentName),
     ("base_package", .text c.basePackage),
     ("frontend_origin", .text c.frontendOrigin),
     ("api_base_url", .text c.apiBaseUrl),
     ("imports", .list (c.imports.map .text)),
     ("has_relations", .bool c.hasRelations),
     ("fields", .list (c.fields.map FieldSheet.data)),
     ("methods", .list (c.methods.map MethodSheet.data)),
     ("empty_form", .text c.emptyForm)]

end CrudStack
