/-
# `CrudStack.Proofs.Java.Source` — Java sources lie where they say, and import what is there

A compiler holds a source to three things that are said in three places: its path, the line that
names its package, and the public type that it declares.  A fourth is said by others, who import the
type by its package and name.  Here the path comes from the layout, which cuts the package at its
dots; the package line and the imports are put together in the templates; and the name of the file
is made by a function of its own.

Main statement: if the names of the classes are identifiers and the group is a package, then all
four agree, for every model, every project and whatever else is in the settings
(`java_sources_agree`).
-/
import CrudStack.Proofs.Java.Package
import CrudStack.Proofs.Routes
import CrudStack.Proofs.Sheet.LineBreak

namespace CrudStack

open Template

/-! ## Reading a source -/

/-- The type that a line declares: its third word. -/
def typeOf? (line : String) : Option String :=
  ((line.toList.splitOn ' ').map String.ofList)[2]?

/-- The public type that a source declares, by its first public line. -/
def declaredType? (source : String) : Option String :=
  ((textLines source).find? (opensWith "public ")).bind typeOf?

/-- A file is a Java source: it lies in the directories that its package spells, it says so in its
first line, and it declares the type that it is called after. -/
structure JavaSource (f : PlannedFile) (package : List String) (name : String) : Prop where
  path : f.path.text = "/".intercalate (["src", "main", "java"] ++ package ++ [name ++ ".java"])
  packageLine : (textLines f.content).head? = some ("package " ++ ".".intercalate package ++ ";")
  declares : declaredType? f.content = some name
  /-- Of the lines that the source is put together from no other one names a package, and no other
  one declares something public. -/
  sole : ∃ lines declaration,
    Shows f.content lines "package " ["package " ++ ".".intercalate package ++ ";"] ∧
      Shows f.content lines "public " [declaration] ∧ typeOf? declaration = some name

/-- The third of words that have blanks between them. -/
theorem typeOf?_words (first second : String) (rest : List Char) {line name : String}
    (hfirst : ' ' ∉ first.toList) (hsecond : ' ' ∉ second.toList) (hname : ' ' ∉ name.toList)
    (h : line.toList =
      first.toList ++ ' ' :: (second.toList ++ ' ' :: (name.toList ++ ' ' :: rest))) :
    typeOf? line = some name := by
  rw [typeOf?, h, List.splitOn_append_cons_self, List.splitOn_append_cons_self,
    List.splitOn_append_cons_self, List.splitOn_eq_singleton hfirst,
    List.splitOn_eq_singleton hsecond, List.splitOn_eq_singleton hname]
  simp

/-! ## The two lines of a template -/

/-- What a template yields is a source, if the two lines by which a source is known say so. -/
theorem javaSource_of_opens {f : PlannedFile} {t : Template} {data : Document}
    {values lists segments : List String} {package declaration : List Piece} {name : String}
    (hcontent : f.content = joinLines (t.expand data))
    (hdata : UnbrokenAt values lists data)
    (hpackage : Opens "package " values lists t package) (hfirst : t.above package = [])
    (hdeclared : Opens "public " values lists t declaration)
    (hpath : f.path.text =
      "/".intercalate (["src", "main", "java"] ++ segments ++ [name ++ ".java"]))
    (hline : fill data package = "package " ++ ".".intercalate segments ++ ";")
    (hname : typeOf? (fill data declaration) = some name) : JavaSource f segments name where
  path := hpath
  packageLine := by
    obtain ⟨rest, hlines⟩ := hpackage.textLines_expand hdata
    rw [hcontent, hlines, hfirst, hline]
    rfl
  declares := by
    rw [declaredType?, hcontent, hdeclared.find?_textLines hdata, Option.bind_some, hname]
  sole := by
    refine ⟨t.expand data, fill data declaration, ⟨hcontent, ?_⟩, ⟨hcontent, ?_⟩, hname⟩
    · rw [marked_expand hpackage.picks, expandBlocks_line, hline]
    · rw [marked_expand hdeclared.picks, expandBlocks_line]

/-! ## The kinds of sources -/

/-- The part of a package that belongs to a kind. -/
def sourceSegments : ArtifactKind → List String
  | .notFoundError => ["exception"]
  | .entity => ["model"]
  | .repository => ["repository"]
  | .service => ["service"]
  | .controller => ["controller"]
  | _ => []

/-- The package of the sources of a kind. -/
def sourcePackage (s : Settings) (project : String) (kind : ArtifactKind) : List String :=
  Layout.packageNames (s.basePackage project) ++ sourceSegments kind

/-- The line of a template that names the package. -/
def packagePieces (kind : ArtifactKind) : List Piece :=
  ["package ", .slot "base_package",
    match kind with
    | .notFoundError => ".exception;"
    | .entity => ".model;"
    | .repository => ".repository;"
    | .service => ".service;"
    | .controller => ".controller;"
    | _ => ";"]

/-- The line of a template that declares the type. -/
def declarationPieces : ArtifactKind → List Piece
  | .entryPoint => ["public class ", .slot "application_class", " \x7b"]
  | .notFoundError => ["public class ResourceNotFoundException extends RuntimeException \x7b"]
  | .repository =>
    ["public interface ", .slot "class_name", "Repository extends JpaRepository<",
      .slot "class_name", ", Long> \x7b"]
  | .service => ["public class ", .slot "class_name", "Service \x7b"]
  | .controller => ["public class ", .slot "class_name", "Controller \x7b"]
  | _ => ["public class ", .slot "class_name", " \x7b"]

/-- What is behind the name of a class in the name of its type. -/
def typeEnding : ArtifactKind → String
  | .repository => "Repository"
  | .service => "Service"
  | .controller => "Controller"
  | _ => ""

/-- The sources that a project has once. -/
def projectSources : List ArtifactKind := [.entryPoint, .notFoundError]

/-- A template has the two lines of a source, and the one that names the package comes first. -/
def IsSource (values lists : List String) (kind : ArtifactKind) (t : Template) : Prop :=
  Opens "package " values lists t (packagePieces kind) ∧ t.above (packagePieces kind) = [] ∧
    Opens "public " values lists t (declarationPieces kind)

instance (values lists : List String) (kind : ArtifactKind) (t : Template) :
    Decidable (IsSource values lists kind t) :=
  inferInstanceAs (Decidable (_ ∧ _))

theorem isSource_class : ∀ kind ∈ Mode.backend.classKinds, ∃ t, ofKind? .backend kind = some t ∧
    IsSource classValues ["imports"] kind t := by
  intro kind hkind
  simp only [Mode.classKinds, List.mem_cons, List.not_mem_nil, or_false] at hkind
  rcases hkind with rfl | rfl | rfl | rfl
  · exact ⟨Backend.entity, rfl, by decide⟩
  · exact ⟨Backend.repository, rfl, by decide⟩
  · exact ⟨Backend.service, rfl, by decide⟩
  · exact ⟨Backend.controller, rfl, by decide⟩

theorem isSource_project : ∀ kind ∈ projectSources, ∃ t, ofKind? .backend kind = some t ∧
    IsSource projectValues [] kind t := by
  intro kind hkind
  simp only [projectSources, List.mem_cons, List.not_mem_nil, or_false] at hkind
  rcases hkind with rfl | rfl
  · exact ⟨Backend.entryPoint, rfl, by decide⟩
  · exact ⟨Backend.notFoundError, rfl, by decide⟩

/-! ## Names -/

/-- The type that a source of a project declares. -/
def projectType (project : String) : ArtifactKind → String
  | .entryPoint => Naming.applicationClass project
  | _ => "ResourceNotFoundException"

theorem IsIdentifier.typeEnding {name : String} (h : IsIdentifier name) (kind : ArtifactKind) :
    IsIdentifier (name ++ CrudStack.typeEnding kind) := by
  have hletters : (CrudStack.typeEnding kind).toList.all Text.isAsciiAlphanumeric = true := by
    cases kind <;> decide
  exact h.append fun c hc => .inl (isAlphanumeric_of_ascii (List.all_eq_true.mp hletters c hc))

theorem typeOf?_class {data : Document} {name : String} (hname : IsIdentifier name)
    (hdata : slotText data "class_name" = name) {kind : ArtifactKind}
    (hkind : kind ∈ Mode.backend.classKinds) :
    typeOf? (fill data (declarationPieces kind)) = some (name ++ typeEnding kind) := by
  have htype := (hname.typeEnding kind).space
  simp only [Mode.classKinds, List.mem_cons, List.not_mem_nil, or_false] at hkind
  rcases hkind with rfl | rfl | rfl | rfl
  · refine typeOf?_words "public" "class" "\x7b".toList (by decide) (by decide) htype ?_
    simp [fill, declarationPieces, hdata, typeEnding]
  · refine typeOf?_words "public" "interface"
      ("extends JpaRepository<" ++ name ++ ", Long> \x7b").toList
      (by decide) (by decide) htype ?_
    simp [fill, declarationPieces, hdata, typeEnding]
  · refine typeOf?_words "public" "class" "\x7b".toList (by decide) (by decide) htype ?_
    simp [fill, declarationPieces, hdata, typeEnding]
  · refine typeOf?_words "public" "class" "\x7b".toList (by decide) (by decide) htype ?_
    simp [fill, declarationPieces, hdata, typeEnding]

theorem typeOf?_project {data : Document} {project : String}
    (hdata : slotText data "application_class" = Naming.applicationClass project)
    {kind : ArtifactKind} (hkind : kind ∈ projectSources) :
    typeOf? (fill data (declarationPieces kind)) = some (projectType project kind) := by
  simp only [projectSources, List.mem_cons, List.not_mem_nil, or_false] at hkind
  rcases hkind with rfl | rfl
  · have hname : ' ' ∉ (Naming.applicationClass project).toList := fun hmem =>
      absurd (alphanumeric_applicationClass project _ hmem) (by decide)
    refine typeOf?_words "public" "class" "\x7b".toList (by decide) (by decide) hname ?_
    simp [fill, declarationPieces, hdata, projectType]
  · have hline : fill data (declarationPieces .notFoundError) =
        "public class ResourceNotFoundException extends RuntimeException \x7b" := by
      simp [fill, declarationPieces]
    have htype : typeOf? "public class ResourceNotFoundException extends RuntimeException \x7b" =
        some "ResourceNotFoundException" := by
      decide
    rw [hline]
    exact htype

theorem roleNames_source (m : Model) (s : Settings) (project : String) {kind : ArtifactKind}
    (hkind : kind ∈ projectSources ++ Mode.backend.classKinds) :
    (backendJob m s project).roleNames (kind.role .backend) =
      ["src", "main", "java"] ++ sourcePackage s project kind := by
  simp only [projectSources, Mode.classKinds, List.cons_append, List.nil_append, List.mem_cons,
    List.not_mem_nil, or_false] at hkind
  rcases hkind with rfl | rfl | rfl | rfl | rfl | rfl <;>
    simp [Job.roleNames, ArtifactKind.role, Layout.roleNames, sourcePackage, sourceSegments]

section Package

variable {s : Settings} (hgroup : IsPackage s.backend.groupId) (project : String)

include hgroup

theorem intercalate_sourcePackage (kind : ArtifactKind) :
    ".".intercalate (sourcePackage s project kind) =
      ".".intercalate (s.basePackage project :: sourceSegments kind) := by
  have hbase := isPackage_basePackage hgroup project
  unfold sourcePackage
  cases hsegments : sourceSegments kind with
  | nil => rw [List.append_nil, hbase.intercalate_packageNames, String.intercalate_singleton]
  | cons segment more =>
      rw [intercalate_append "." hbase.packageNames.1 (List.cons_ne_nil segment more),
        hbase.intercalate_packageNames, String.intercalate_cons_cons]

theorem fill_package {data : Document}
    (hdata : slotText data "base_package" = s.basePackage project) (kind : ArtifactKind) :
    fill data (packagePieces kind) =
      "package " ++ ".".intercalate (sourcePackage s project kind) ++ ";" := by
  rw [intercalate_sourcePackage hgroup]
  cases kind <;> simp [fill, packagePieces, hdata, sourceSegments, String.append_assoc]

/-- The path of a source. -/
theorem text_relativePath (m : Model) {kind : ArtifactKind}
    (hkind : kind ∈ projectSources ++ Mode.backend.classKinds) {name : String}
    (hname : IsIdentifier name) :
    ((backendJob m s project).relativePath kind (name ++ ".java")).text =
      "/".intercalate
        (["src", "main", "java"] ++ sourcePackage s project kind ++ [name ++ ".java"]) := by
  have hbase := isPackage_basePackage hgroup project
  have hfile : Path.IsName (name ++ ".java") := by
    refine ⟨by simp, fun hdot => ?_, ?_⟩
    · have hlength := congrArg String.length hdot
      have hlong : ".java".length = 5 ∧ ".".length = 1 := by decide
      rw [String.length_append] at hlength
      omega
    · have hending : '/' ∉ ".java".toList := by decide
      rw [String.toList_append, List.mem_append, not_or]
      exact ⟨hname.slash, hending⟩
  have hrole := roleNames_source m s project hkind
  have hnames : ∀ n ∈ (backendJob m s project).roleNames (kind.role .backend) ++ [name ++ ".java"],
      Path.IsName n := by
    intro n hn
    rcases List.mem_append.mp hn with hn | hn
    · exact Layout.isName_roleNames hbase
        (show n ∈ Layout.roleNames _ .backend (kind.role .backend) from hn)
    · rwa [List.mem_singleton.mp hn]
  have hpath := relativePath_backend (j := backendJob m s project) rfl hbase kind (name ++ ".java")
  rw [hpath]
  exact (Path.text_ofSegments hnames).trans
    (congrArg (fun ns => "/".intercalate (ns ++ [name ++ ".java"])) hrole)

end Package

/-! ## Sources -/

/-- A source is called after its type. -/
theorem classFileName_java (className : String) {kind : ArtifactKind}
    (hkind : kind ∈ Mode.backend.classKinds) :
    Job.classFileName className kind = className ++ typeEnding kind ++ ".java" := by
  simp only [Mode.classKinds, List.mem_cons, List.not_mem_nil, or_false] at hkind
  rcases hkind with rfl | rfl | rfl | rfl <;>
    simp [Job.classFileName, typeEnding, String.append_assoc]

theorem projectFileName_java (m : Model) (s : Settings) (project : String) {kind : ArtifactKind}
    (hkind : kind ∈ projectSources) :
    (backendJob m s project).projectFileName kind = projectType project kind ++ ".java" := by
  simp only [projectSources, List.mem_cons, List.not_mem_nil, or_false] at hkind
  rcases hkind with rfl | rfl
  · rfl
  · exact (by decide : "ResourceNotFoundException.java" = "ResourceNotFoundException" ++ ".java")

theorem isIdentifier_projectType (project : String) {kind : ArtifactKind}
    (hkind : kind ∈ projectSources) : IsIdentifier (projectType project kind) := by
  simp only [projectSources, List.mem_cons, List.not_mem_nil, or_false] at hkind
  rcases hkind with rfl | rfl
  · refine isIdentifier_of_ascii ?_ (alphanumeric_applicationClass project)
    simp [projectType, Naming.applicationClass]
  · have hletters : "ResourceNotFoundException".toList.all Text.isAsciiAlphanumeric = true := by
      decide
    exact isIdentifier_of_ascii (by decide : "ResourceNotFoundException" ≠ "")
      (List.all_eq_true.mp hletters)

/-- The text of a file is its template, expanded with its sheet. -/
theorem content_classFile (m : Model) (s : Settings) (project : String) (c : ClassDef)
    {kind : ArtifactKind} {t : Template} (ht : ofKind? .backend kind = some t) :
    ((backendJob m s project).classFile c kind).content =
      joinLines (t.expand (ClassSheet.make m s project c).data) :=
  congrArg joinLines (linesOf_eq ht _)

theorem content_projectFile (m : Model) (s : Settings) (project : String) {kind : ArtifactKind}
    {t : Template} (ht : ofKind? .backend kind = some t) :
    ((backendJob m s project).projectFile kind).content =
      joinLines (t.expand (ProjectSheet.make m s project).data) :=
  congrArg joinLines (linesOf_eq ht _)

section Sources

variable (m : Model) {s : Settings} (hgroup : IsPackage s.backend.groupId) (project : String)

include hgroup

theorem javaSource_class {c : ClassDef} (hname : IsIdentifier c.name) {kind : ArtifactKind}
    (hkind : kind ∈ Mode.backend.classKinds) :
    JavaSource ((backendJob m s project).classFile c kind) (sourcePackage s project kind)
      (c.name ++ typeEnding kind) := by
  obtain ⟨t, ht, hpackage, hfirst, hdeclared⟩ := isSource_class kind hkind
  have hbase := isPackage_basePackage hgroup project
  have hdata := unbrokenAt_class m hbase.newline hname.newline
  have hpath := text_relativePath hgroup project m (List.mem_append_right _ hkind)
    (hname.typeEnding kind)
  have hfile : ((backendJob m s project).classFile c kind).path =
      (backendJob m s project).relativePath kind (c.name ++ typeEnding kind ++ ".java") :=
    congrArg ((backendJob m s project).relativePath kind) (classFileName_java c.name hkind)
  exact javaSource_of_opens (content_classFile m s project c ht) hdata hpackage hfirst hdeclared
    ((congrArg Path.text hfile).trans hpath)
    (fill_package hgroup project (slotText_make_package m s project c) kind)
    (typeOf?_class hname (slotText_make_name m s project c) hkind)

theorem javaSource_project {kind : ArtifactKind} (hkind : kind ∈ projectSources) :
    JavaSource ((backendJob m s project).projectFile kind) (sourcePackage s project kind)
      (projectType project kind) := by
  obtain ⟨t, ht, hpackage, hfirst, hdeclared⟩ := isSource_project kind hkind
  have hbase := isPackage_basePackage hgroup project
  have hdata := unbrokenAt_project m hbase.newline
  have hpath := text_relativePath hgroup project m (List.mem_append_left _ hkind)
    (isIdentifier_projectType project hkind)
  have hfile : ((backendJob m s project).projectFile kind).path =
      (backendJob m s project).relativePath kind (projectType project kind ++ ".java") :=
    congrArg ((backendJob m s project).relativePath kind) (projectFileName_java m s project hkind)
  exact javaSource_of_opens (content_projectFile m s project ht) hdata hpackage hfirst hdeclared
    ((congrArg Path.text hfile).trans hpath)
    (fill_package hgroup project (slotText_makeProject_package m s project) kind)
    (typeOf?_project (slotText_makeProject_application m s project) hkind)

/-- The two other files of a project are no Java files. -/
theorem mem_projectSources {kind : ArtifactKind} (hkind : kind ∈ Mode.backend.projectKinds)
    (hjava : ".java".toList <:+ ((backendJob m s project).projectFile kind).path.text.toList) :
    kind ∈ projectSources := by
  have hbase := isPackage_basePackage hgroup project
  have hpath : ∀ fileName, (backendJob m s project).projectFileName kind = fileName →
      ((backendJob m s project).projectFile kind).path =
        .ofSegments ((backendJob m s project).roleNames (kind.role .backend) ++ [fileName]) := by
    rintro _ rfl
    exact relativePath_backend (j := backendJob m s project) rfl hbase kind _
  simp only [Mode.projectKinds, List.mem_cons, List.not_mem_nil, or_false] at hkind
  rcases hkind with rfl | rfl | rfl | rfl
  · have hrole :
        (backendJob m s project).roleNames (ArtifactKind.role .backend .buildDescriptor) = [] :=
      rfl
    rw [hpath "pom.xml" rfl, hrole] at hjava
    exact absurd hjava (by decide)
  · have hrole : (backendJob m s project).roleNames (ArtifactKind.role .backend .runtimeConfig) =
        ["src", "main", "resources"] := rfl
    rw [hpath "application.properties" rfl, hrole] at hjava
    exact absurd hjava (by decide)
  · decide
  · decide

end Sources

/-! ## Imports -/

mutual

/-- The lines of a block, wherever they stand in it. -/
def Template.linesInBlock : Block → List (List Piece)
  | .line pieces => [pieces]
  | .each _ body => linesInBlocks body
  | .cond _ yes no => linesInBlocks yes ++ linesInBlocks no

/-- The lines of several blocks. -/
def Template.linesInBlocks : List Block → List (List Piece)
  | [] => []
  | block :: rest => linesInBlock block ++ linesInBlocks rest

end

/-- The lines of a template that import something of the package of the project. -/
def Template.packageImports (t : Template) : List (List Piece) :=
  (linesInBlocks t.blocks).filter fun pieces =>
    marksLine "import " pieces && pieces.contains (.slot "base_package")

/-- The kinds of sources that a source of a kind imports. -/
def importedKinds : ArtifactKind → List ArtifactKind
  | .repository => [.entity]
  | .service => [.notFoundError, .entity, .repository]
  | .controller => [.entity, .service]
  | _ => []

/-- The line that imports a source of a kind. -/
def importPieces : ArtifactKind → List Piece
  | .notFoundError => ["import ", .slot "base_package", ".exception.ResourceNotFoundException;"]
  | .repository =>
    ["import ", .slot "base_package", ".repository.", .slot "class_name", "Repository;"]
  | .service => ["import ", .slot "base_package", ".service.", .slot "class_name", "Service;"]
  | _ => ["import ", .slot "base_package", ".model.", .slot "class_name", ";"]

/-- The type that a source of a class imports. -/
def importedType (c : ClassDef) : ArtifactKind → String
  | .notFoundError => "ResourceNotFoundException"
  | kind => c.name ++ typeEnding kind

/-- All imports of the package stand above the declaration. -/
def ImportsAbove (kind : ArtifactKind) (t : Template) : Prop :=
  t.packageImports = (importedKinds kind).map importPieces ∧
    ∀ pieces ∈ t.packageImports, .line pieces ∈ t.above (declarationPieces kind)

instance (kind : ArtifactKind) (t : Template) : Decidable (ImportsAbove kind t) :=
  inferInstanceAs (Decidable (_ ∧ _))

theorem importsAbove {kind : ArtifactKind} (hkind : kind ∈ Mode.backend.classKinds) {t : Template}
    (ht : ofKind? .backend kind = some t) : ImportsAbove kind t := by
  simp only [Mode.classKinds, List.mem_cons, List.not_mem_nil, or_false] at hkind
  rcases hkind with rfl | rfl | rfl | rfl <;> cases ht <;> decide

theorem importedKinds_cases {kind other : ArtifactKind} (h : other ∈ importedKinds kind) :
    other = .notFoundError ∨ other ∈ Mode.backend.classKinds := by
  cases kind <;> cases other <;> simp [importedKinds, Mode.classKinds] at h ⊢

/-- The line of a block that stands outside of all others is among the lines of an expansion. -/
theorem Template.fill_mem_expandBlocks {data : Document} {pieces : List Piece} :
    ∀ {blocks : List Block}, .line pieces ∈ blocks → fill data pieces ∈ expandBlocks data blocks
  | block :: rest, h => by
      rw [expandBlocks, List.mem_append]
      rcases List.mem_cons.mp h with rfl | h
      · exact .inl (List.mem_singleton_self _)
      · exact .inr (fill_mem_expandBlocks h)

section Imports

variable (m : Model) {s : Settings} (hgroup : IsPackage s.backend.groupId) (project : String)

theorem projectFile_mem {kind : ArtifactKind} (hkind : kind ∈ Mode.backend.projectKinds) :
    (backendJob m s project).projectFile kind ∈ (backendJob m s project).fullPlan.files := by
  rw [Job.files_fullPlan]
  exact List.mem_append_left _ (List.mem_map_of_mem hkind)

/-- No class of a backend is passed over. -/
theorem classFile_mem {c : ClassDef} (hc : c ∈ m.classes) {kind : ArtifactKind}
    (hkind : kind ∈ Mode.backend.classKinds) :
    (backendJob m s project).classFile c kind ∈ (backendJob m s project).fullPlan.files := by
  have hkept : (!Job.skips c kind) = true := by rw [skips_backend c hkind, Bool.not_false]
  rw [Job.files_fullPlan]
  refine List.mem_append_right _ (List.mem_flatMap.mpr ⟨c, hc, ?_⟩)
  exact List.mem_map_of_mem (List.mem_filter.mpr ⟨hkind, hkept⟩)

include hgroup

theorem fill_importPieces {c : ClassDef} {data : Document}
    (hpackage : slotText data "base_package" = s.basePackage project)
    (hname : slotText data "class_name" = c.name) {kind other : ArtifactKind}
    (hother : other ∈ importedKinds kind) :
    fill data (importPieces other) =
      "import " ++ ".".intercalate (sourcePackage s project other ++ [importedType c other]) ++
        ";" := by
  have hbase := isPackage_basePackage hgroup project
  have hne : sourcePackage s project other ≠ [] :=
    List.append_ne_nil_of_left_ne_nil hbase.packageNames.1 _
  rw [intercalate_append "." hne (List.cons_ne_nil _ []), intercalate_sourcePackage hgroup,
    String.intercalate_singleton]
  cases kind <;> cases other <;>
    simp [importedKinds] at hother <;>
      simp [fill, importPieces, hpackage, hname, sourceSegments, importedType, typeEnding,
        String.append_assoc]

/-- What a source of a class imports is there. -/
theorem imported_emitted {c : ClassDef} (hc : c ∈ m.classes) (hname : IsIdentifier c.name)
    {kind other : ArtifactKind} (hother : other ∈ importedKinds kind) :
    ∃ f ∈ (backendJob m s project).fullPlan.files,
      JavaSource f (sourcePackage s project other) (importedType c other) := by
  rcases importedKinds_cases hother with rfl | hclass
  · exact ⟨_, projectFile_mem m project (by decide),
      javaSource_project m hgroup project (by decide)⟩
  · have htype : importedType c other = c.name ++ typeEnding other := by
      cases other <;> first | rfl | simp [Mode.classKinds] at hclass
    rw [htype]
    exact ⟨_, classFile_mem m project hc hclass, javaSource_class m hgroup project hname hclass⟩

theorem import_mem {c : ClassDef} (hname : IsIdentifier c.name) {kind : ArtifactKind}
    (hkind : kind ∈ Mode.backend.classKinds) {t : Template} (ht : ofKind? .backend kind = some t)
    {pieces : List Piece} (hpieces : pieces ∈ t.packageImports) :
    fill ((backendJob m s project).classSheet c).data pieces ∈
      textLines ((backendJob m s project).classFile c kind).content := by
  obtain ⟨t', ht', -, -, hdeclared⟩ := isSource_class kind hkind
  obtain rfl : t' = t := Option.some.inj (ht'.symm.trans ht)
  have hbase := isPackage_basePackage hgroup project
  obtain ⟨rest, hlines⟩ :=
    hdeclared.textLines_expand (unbrokenAt_class m hbase.newline hname.newline)
  rw [content_classFile m s project c ht, hlines]
  exact List.mem_append_left _ (fill_mem_expandBlocks ((importsAbove hkind ht).2 pieces hpieces))

end Imports

/-! ## Path, package, type and imports -/

/-- What the plan of a backend says about its Java sources. -/
structure JavaAgrees (m : Model) (s : Settings) (project : String) (p : Plan) : Prop where
  /-- Every Java file lies where its package says, and declares the type it is called after. -/
  sources : ∀ f ∈ p.files, ".java".toList <:+ f.path.text.toList →
    ∃ package name, JavaSource f package name
  /-- Every class has its sources. -/
  files : ∀ c ∈ m.classes, ∀ kind ∈ Mode.backend.classKinds,
    (backendJob m s project).classFile c kind ∈ p.files
  /-- Every import of the package of the project stands in the source, and names a type that has a
  source of its own. -/
  imports : ∀ c ∈ m.classes, ∀ kind ∈ Mode.backend.classKinds, ∀ t,
    ofKind? .backend kind = some t → ∀ pieces ∈ t.packageImports,
      fill ((backendJob m s project).classSheet c).data pieces ∈
          textLines ((backendJob m s project).classFile c kind).content ∧
        ∃ f ∈ p.files, ∃ package name, JavaSource f package name ∧
          fill ((backendJob m s project).classSheet c).data pieces =
            "import " ++ ".".intercalate (package ++ [name]) ++ ";"

/-- Path, package line, declared type and imports of the Java sources of a backend agree, for all
classes whose names are identifiers, every group that is a package and every name of a project. -/
theorem java_sources_agree {m : Model} (hclasses : ∀ c ∈ m.classes, IsIdentifier c.name)
    {s : Settings} (hgroup : IsPackage s.backend.groupId) (project : String) :
    ∃ p, (backendJob m s project).plan = .ok p ∧ JavaAgrees m s project p := by
  refine ⟨_, Job.plan_eq_ok _, ?_, fun c hc kind hkind => classFile_mem m project hc hkind, ?_⟩
  · intro f hf hjava
    rw [Job.files_fullPlan, List.mem_append] at hf
    rcases hf with hf | hf
    · obtain ⟨kind, hkind, rfl⟩ := List.mem_map.mp hf
      exact ⟨_, _,
        javaSource_project m hgroup project (mem_projectSources m hgroup project hkind hjava)⟩
    · obtain ⟨c, hc, hmem⟩ := List.mem_flatMap.mp hf
      obtain ⟨kind, hkind, rfl⟩ := List.mem_map.mp hmem
      exact ⟨_, _, javaSource_class m hgroup project (hclasses c hc) (List.mem_filter.mp hkind).1⟩
  · intro c hc kind hkind t ht pieces hpieces
    refine ⟨import_mem m hgroup project (hclasses c hc) hkind ht hpieces, ?_⟩
    rw [(importsAbove hkind ht).1] at hpieces
    obtain ⟨other, hother, rfl⟩ := List.mem_map.mp hpieces
    obtain ⟨f, hf, hsource⟩ := imported_emitted m hgroup project hc (hclasses c hc) hother
    exact ⟨f, hf, _, _, hsource, fill_importPieces hgroup project
      (slotText_make_package m s project c) (slotText_make_name m s project c) hother⟩

/-- A catalog with letters beyond ASCII, and with an attribute that would open a class of its
own. -/
def catalogModel : Model :=
  ⟨[⟨"Übersicht_2", [.attr ⟨"seit", "date"⟩, .attr ⟨"x;\npublic class Y \x7b int z", "Band"⟩]⟩,
    ⟨"Band", []⟩]⟩

/-- The name of the project has nothing that could stand in a package. -/
theorem java_sources_catalog :
    (∀ c ∈ catalogModel.classes, IsIdentifier c.name) ∧
      IsPackage ({} : Settings).backend.groupId ∧
        ∃ p, (backendJob catalogModel {} "!?").plan = .ok p ∧
          JavaAgrees catalogModel {} "!?" p := by
  have hclasses : ∀ c ∈ catalogModel.classes, IsIdentifier c.name := by decide +kernel
  have hgroup : IsPackage ({} : Settings).backend.groupId :=
    ⟨["com", "example"], List.cons_ne_nil _ _, by decide +kernel, rfl⟩
  exact ⟨hclasses, hgroup, java_sources_agree hclasses hgroup "!?"⟩

end CrudStack
