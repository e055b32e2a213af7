/-
# `CrudStack.Proofs.Java.Imports` — the simple names of a Java source

A source calls types by their simple names: those that it imports and the one that it declares.  A
name has one meaning there if the imports have different names and none of them is that of the type
itself (`Unambiguous`).

What is imported is read off the source above its first public line (`importedNames`), and known
from the template: the types of the project, the types of the features, and a fixed list for every
kind.  Only the first have the name of the class in them.  So for every kind there are a few names
that a class must not have, and they can be computed (`clashes`): with one of the endings of the
kind they are one of the fixed names.

Main statement: a class that has none of these names has unambiguous sources, and every other one
does not (`sources_unambiguous_iff`).
-/
import CrudStack.Proofs.Java.Source

namespace CrudStack

open Template

/-! ## Reading the imports of a source -/

/-- What stands behind the last dot of a name. -/
def lastSegment (name : String) : String :=
  String.ofList (name.toList.reverse.takeWhile (· ≠ '.')).reverse

/-- The simple name of the type that a line imports, without the semicolon. -/
def simpleName (line : String) : String :=
  lastSegment (String.ofList (line.toList.dropLast.drop "import ".length))

/-- The simple names of the types that a source imports, in order. -/
def importedNames (source : String) : List String :=
  (((textLines source).takeWhile fun line => !opensWith "public " line).filter
    (opensWith "import ")).map simpleName

/-- No two types that are called by a simple name in a source have the same one. -/
def Unambiguous (source : String) : Prop :=
  ∃ name, declaredType? source = some name ∧ (name :: importedNames source).Nodup

theorem lastSegment_append (before : String) {name : String} (h : '.' ∉ name.toList) :
    lastSegment (before ++ "." ++ name) = name := by
  have hall : ∀ c ∈ name.toList.reverse, decide (c ≠ '.') = true := by
    intro c hc
    rw [List.mem_reverse] at hc
    exact decide_eq_true fun hdot => h (hdot ▸ hc)
  have hchars : (before ++ "." ++ name).toList.reverse =
      name.toList.reverse ++ '.' :: before.toList.reverse := by
    simp
  rw [lastSegment, hchars, List.takeWhile_append_of_pos hall, List.takeWhile_cons_of_neg (by simp),
    List.append_nil, List.reverse_reverse, String.ofList_toList]

theorem simpleName_import (qualified : String) :
    simpleName ("import " ++ qualified ++ ";") = lastSegment qualified := by
  have hchars : ("import " ++ qualified ++ ";").toList.dropLast.drop "import ".length =
      qualified.toList := by
    have hsplit : ("import " ++ qualified ++ ";").toList =
        "import ".toList ++ qualified.toList ++ [';'] := by
      simp
    rw [hsplit, List.dropLast_concat, List.drop_left' (by decide)]
  rw [simpleName, hchars, String.ofList_toList]

/-- The imports of a source are the import lines of its template, above the line that declares the
type. -/
theorem importedNames_of_opens {t : Template} {data : Document} {values lists : List String}
    {declaration : List Piece} (hdata : UnbrokenAt values lists data)
    (hdeclared : Opens "public " values lists t declaration)
    (hdecides : decidesBlocks "import " (t.above declaration) = true) :
    importedNames (joinLines (t.expand data)) =
      (expandBlocks data (selectBlocks "import " (t.above declaration))).map simpleName := by
  obtain ⟨rest, hlines⟩ := hdeclared.textLines_expand hdata
  have habove : ∀ line ∈ expandBlocks data (t.above declaration),
      (!opensWith "public " line) = true := by
    intro line hline
    have hunmarked := List.filter_eq_nil_iff.mp (hdeclared.above_unmarked data) line hline
    rw [Bool.not_eq_true']
    exact Bool.eq_false_iff.mpr hunmarked
  have hself : opensWith "public " (fill data declaration) = true := by
    rw [opensWith_fill data (by rw [decidesLine, hdeclared.marked, Bool.true_or, Bool.true_or]),
      hdeclared.marked]
  rw [importedNames, hlines, List.takeWhile_append_of_pos habove,
    List.takeWhile_cons_of_neg (by simp [hself]), List.append_nil,
    ← marked_expandBlocks "import " _ data hdecides, marked]

/-! ## The imports of every kind -/

/-- The types that a kind imports from outside of the project, with their packages. -/
def frameworkTypes : ArtifactKind → List (String × String)
  | .entryPoint =>
    [("org.springframework.boot", "SpringApplication"),
     ("org.springframework.boot.autoconfigure", "SpringBootApplication")]
  | .notFoundError =>
    [("org.springframework.http", "HttpStatus"),
     ("org.springframework.web.bind.annotation", "ResponseStatus")]
  | .entity =>
    [("jakarta.persistence", "Entity"), ("jakarta.persistence", "GeneratedValue"),
     ("jakarta.persistence", "GenerationType"), ("jakarta.persistence", "Id")]
  | .repository =>
    [("org.springframework.data.jpa.repository", "JpaRepository"),
     ("org.springframework.stereotype", "Repository")]
  | .service =>
    [("org.springframework.stereotype", "Service"),
     ("org.springframework.transaction.annotation", "Transactional"),
     ("java.util", "List")]
  | .controller =>
    [("org.springframework.http", "HttpStatus"),
     ("org.springframework.http", "ResponseEntity"),
     ("org.springframework.web.bind.annotation", "CrossOrigin"),
     ("org.springframework.web.bind.annotation", "DeleteMapping"),
     ("org.springframework.web.bind.annotation", "GetMapping"),
     ("org.springframework.web.bind.annotation", "PathVariable"),
     ("org.springframework.web.bind.annotation", "PostMapping"),
     ("org.springframework.web.bind.annotation", "PutMapping"),
     ("org.springframework.web.bind.annotation", "RequestBody"),
     ("org.springframework.web.bind.annotation", "RequestMapping"),
     ("org.springframework.web.bind.annotation", "RestController"),
     ("java.util", "List")]
  | _ => []

/-- What an entity imports besides, if it has relations and in any case. -/
def relationType : String × String := ("jakarta.persistence", "ManyToOne")

@[inherit_doc relationType]
def tableType : String × String := ("jakarta.persistence", "Table")

/-- The line that imports a type of a package. -/
def typeImport (type : String × String) : String := "import " ++ type.1 ++ "." ++ type.2 ++ ";"

/-- The simple names that a kind imports from outside of the project. -/
def frameworkNames (kind : ArtifactKind) : List String := (frameworkTypes kind).map Prod.snd

theorem simpleName_typeImport {type : String × String} (h : '.' ∉ type.2.toList) :
    simpleName (typeImport type) = type.2 := by
  have hline : typeImport type = "import " ++ (type.1 ++ "." ++ type.2) ++ ";" := by
    simp [typeImport, String.append_assoc]
  rw [hline, simpleName_import, lastSegment_append _ h]

theorem simpleName_frameworkTypes (kind : ArtifactKind) :
    ((frameworkTypes kind).map typeImport).map simpleName = frameworkNames kind := by
  have hdot : ∀ type ∈ frameworkTypes kind, '.' ∉ type.2.toList := by
    cases kind <;> decide
  rw [List.map_map]
  exact List.map_congr_left fun type htype => simpleName_typeImport (hdot type htype)

/-- The blocks of a template that import something. -/
def importBlocks : ArtifactKind → List Block
  | .entity =>
    [.each "imports" [.line ["import ", .slot "this", ";"]]] ++
      (((frameworkTypes .entity).map typeImport).map fun line => .line [.text line]) ++
      [.cond "has_relations" [.line [.text (typeImport relationType)]] [],
       .line [.text (typeImport tableType)]]
  | kind =>
    ((importedKinds kind).map fun other => .line (importPieces other)) ++
      ((frameworkTypes kind).map typeImport).map fun line => .line [.text line]

/-- These are the imports of a template above the line that declares its type. -/
def ImportsAre (kind : ArtifactKind) (t : Template) : Prop :=
  decidesBlocks "import " (t.above (declarationPieces kind)) = true ∧
    selectBlocks "import " (t.above (declarationPieces kind)) = importBlocks kind

instance (kind : ArtifactKind) (t : Template) : Decidable (ImportsAre kind t) :=
  inferInstanceAs (Decidable (_ ∧ _))

theorem importsAre {kind : ArtifactKind}
    (hkind : kind ∈ projectSources ++ Mode.backend.classKinds) {t : Template}
    (ht : ofKind? .backend kind = some t) : ImportsAre kind t := by
  simp only [projectSources, Mode.classKinds, List.cons_append, List.nil_append, List.mem_cons,
    List.not_mem_nil, or_false] at hkind
  rcases hkind with rfl | rfl | rfl | rfl | rfl | rfl <;> cases ht <;> decide

section Class

variable (m : Model) {s : Settings} (hgroup : IsPackage s.backend.groupId) (project : String)
  {c : ClassDef} (hname : IsIdentifier c.name)

include hgroup hname

/-- Of the types of the project a source imports those of its kind, by their names. -/
theorem simpleName_importPieces {kind other : ArtifactKind} (hother : other ∈ importedKinds kind) :
    simpleName (fill (ClassSheet.make m s project c).data (importPieces other)) =
      importedType c other := by
  have hbase := isPackage_basePackage hgroup project
  have hne : sourcePackage s project other ≠ [] :=
    List.append_ne_nil_of_left_ne_nil hbase.packageNames.1 _
  have hdot : '.' ∉ (importedType c other).toList := by
    cases other with
    | notFoundError => exact (by decide : '.' ∉ "ResourceNotFoundException".toList)
    | _ => exact (hname.typeEnding _).dot
  rw [fill_importPieces hgroup project (slotText_make_package m s project c)
    (slotText_make_name m s project c) hother, simpleName_import,
    intercalate_append "." hne (List.cons_ne_nil _ []), String.intercalate_singleton,
    lastSegment_append _ hdot]

/-- What is imported in the source of a class. -/
theorem importedNames_class {kind : ArtifactKind} (hkind : kind ∈ Mode.backend.classKinds) :
    importedNames ((backendJob m s project).classFile c kind).content =
      (expandBlocks (ClassSheet.make m s project c).data (importBlocks kind)).map simpleName := by
  obtain ⟨t, ht, -, -, hdeclared⟩ := isSource_class kind hkind
  have hbase := isPackage_basePackage hgroup project
  obtain ⟨hdecides, hselect⟩ := importsAre (List.mem_append_right _ hkind) ht
  rw [content_classFile m s project c ht,
    importedNames_of_opens (unbrokenAt_class m hbase.newline hname.newline) hdeclared hdecides,
    hselect]

theorem importedNames_layer {kind : ArtifactKind} (hkind : kind ∈ Mode.backend.classKinds)
    (hne : kind ≠ .entity) :
    importedNames ((backendJob m s project).classFile c kind).content =
      (importedKinds kind).map (importedType c) ++ frameworkNames kind := by
  have hblocks : importBlocks kind =
      ((importedKinds kind).map fun other => .line (importPieces other)) ++
        ((frameworkTypes kind).map typeImport).map fun line => .line [.text line] := by
    cases kind <;> first | rfl | exact absurd rfl hne
  have hown : ((importedKinds kind).map fun other =>
      fill (ClassSheet.make m s project c).data (importPieces other)).map simpleName =
        (importedKinds kind).map (importedType c) := by
    rw [List.map_map]
    exact List.map_congr_left fun other hother =>
      simpleName_importPieces m hgroup project hname hother
  rw [importedNames_class m hgroup project hname hkind, hblocks, expandBlocks_append,
    expandBlocks_lines, expandBlocks_texts, List.map_append, hown, simpleName_frameworkTypes]

end Class

/-! ## Entities -/

theorem isEntity_ofSlot (m : Model) (a : Slot) :
    (FieldSheet.ofSlot m a).isEntity = m.hasClass a.typeName := by
  have hresolution : (FieldSheet.ofSlot m a).isEntity =
      ((m.resolve a.typeName .springBoot).resolution == .entity) := rfl
  rw [hresolution, Model.resolve]
  cases hclass : m.hasClass a.typeName with
  | true => rfl
  | false =>
      rw [if_neg Bool.false_ne_true]
      split <;> rfl

/-- Whether an attribute of a class has a class of the model for its type. -/
def ClassDef.hasRelations (c : ClassDef) (m : Model) : Bool :=
  c.attributes.any fun a => m.hasClass a.typeName

theorem hasRelations_make (m : Model) (s : Settings) (project : String) (c : ClassDef) :
    (ClassSheet.make m s project c).hasRelations = c.hasRelations m := by
  rw [ClassSheet.make_eq, List.any_map]
  exact congrArg c.attributes.any (funext fun a => isEntity_ofSlot m a)

theorem holdsAt_relations (c : ClassSheet) : holdsAt c.data "has_relations" = c.hasRelations := rfl

/-- What an entity imports for its annotations. -/
def annotations (relations : Bool) : List String :=
  ["Entity", "GeneratedValue", "GenerationType", "Id"] ++
    ((if relations then ["ManyToOne"] else []) ++ ["Table"])

/-- What an entity imports: the types of its features, and what it is annotated with. -/
def entityImports (m : Model) (c : ClassDef) : List String :=
  (c.imports m).map lastSegment ++ annotations (c.hasRelations m)

/-- The imports at the end of an entity. -/
theorem simpleName_relations (m : Model) (s : Settings) (project : String) (c : ClassDef) :
    (expandBlocks (ClassSheet.make m s project c).data
      [.cond "has_relations" [.line [.text (typeImport relationType)]] [],
       .line [.text (typeImport tableType)]]).map simpleName =
      (if c.hasRelations m then ["ManyToOne"] else []) ++ ["Table"] := by
  have hrelation : simpleName (typeImport relationType) = "ManyToOne" :=
    simpleName_typeImport (by decide)
  have htable : simpleName (typeImport tableType) = "Table" :=
    simpleName_typeImport (by decide)
  rw [expandBlocks, expandBlock, holdsAt_relations, hasRelations_make, expandBlocks_line,
    expandBlocks_line, fill_text, fill_text, expandBlocks]
  cases c.hasRelations m with
  | false => simp [htable]
  | true => simp [hrelation, htable]

theorem importedNames_entity (m : Model) {s : Settings} (hgroup : IsPackage s.backend.groupId)
    (project : String) {c : ClassDef} (hname : IsIdentifier c.name) :
    importedNames ((backendJob m s project).classFile c .entity).content = entityImports m c := by
  have himports : ((elementsAt (ClassSheet.make m s project c).data "imports").map fun item =>
      fill item ["import ", .slot "this", ";"]) =
        (c.imports m).map fun n => "import " ++ n ++ ";" := by
    rw [elementsAt_imports, List.map_map]
    refine List.map_congr_left fun n _ => ?_
    simp [fill, slotText, shown, selfName, String.append_assoc]
  have hsimple : ((c.imports m).map fun n => "import " ++ n ++ ";").map simpleName =
      (c.imports m).map lastSegment := by
    rw [List.map_map]
    exact List.map_congr_left fun n _ => simpleName_import n
  rw [importedNames_class m hgroup project hname (by decide), importBlocks, expandBlocks_append,
    expandBlocks_append, expandBlocks_each_line, expandBlocks_texts, List.map_append,
    List.map_append, himports, hsimple, simpleName_frameworkTypes, simpleName_relations,
    List.append_assoc]
  rfl

theorem nodup_entityImports (m : Model) (c : ClassDef) : (entityImports m c).Nodup := by
  have hinjective : ∀ a ∈ importedTypes, ∀ b ∈ importedTypes,
      lastSegment a = lastSegment b → a = b := by decide
  have hapart : ∀ a ∈ importedTypes, ∀ relations, lastSegment a ∉ annotations relations := by
    decide
  have hannotations : ∀ relations, (annotations relations).Nodup := by decide
  rw [entityImports, List.nodup_append']
  refine ⟨nodup_imports.map_on fun a ha b hb => hinjective a (mem_imports ha) b (mem_imports hb),
    hannotations _, fun name hname => ?_⟩
  obtain ⟨n, hn, rfl⟩ := List.mem_map.mp hname
  exact hapart n (mem_imports hn) _

/-! ## Names that classes must not have -/

/-- The text that, with an ending behind it, is a name. -/
def before? (ending name : String) : Option String :=
  if ending.toList.isSuffixOf name.toList then
    some (String.ofList (name.toList.take (name.toList.length - ending.toList.length)))
  else none

theorem before?_eq_some {ending name n : String} :
    before? ending name = some n ↔ n ++ ending = name := by
  have htaken : ∀ first : List Char,
      (first ++ ending.toList).take ((first ++ ending.toList).length - ending.toList.length) =
        first := fun first => List.take_left' (by simp)
  unfold before?
  constructor
  · intro h
    split at h
    · next hsuffix =>
        obtain ⟨first, hfirst⟩ := List.isSuffixOf_iff_suffix.mp hsuffix
        rw [← hfirst, htaken] at h
        rw [← String.toList_inj, ← Option.some.inj h, String.toList_append, String.toList_ofList,
          hfirst]
    · cases h
  · rintro rfl
    have hsuffix : ending.toList.isSuffixOf (n ++ ending).toList = true := by
      rw [List.isSuffixOf_iff_suffix, String.toList_append]
      exact List.suffix_append _ _
    rw [if_pos hsuffix, String.toList_append, htaken, String.ofList_toList]

/-- The names that, with one of the endings behind them, are one of the fixed names. -/
def clashes (endings fixed : List String) : List String :=
  endings.flatMap fun ending => fixed.filterMap (before? ending)

theorem mem_clashes {endings fixed : List String} {name : String} :
    name ∈ clashes endings fixed ↔ ∃ ending ∈ endings, name ++ ending ∈ fixed := by
  simp only [clashes, List.mem_flatMap, List.mem_filterMap, before?_eq_some]
  refine exists_congr fun ending => and_congr_right fun _ => ⟨?_, fun h => ⟨_, h, rfl⟩⟩
  rintro ⟨_, h, rfl⟩
  exact h

/-- Names with different endings and fixed names are all different, unless one clashes. -/
theorem nodup_names {name : String} {endings fixed : List String} (hendings : endings.Nodup)
    (hfixed : fixed.Nodup) :
    (endings.map (name ++ ·) ++ fixed).Nodup ↔ name ∉ clashes endings fixed := by
  have hown : (endings.map (name ++ ·)).Nodup :=
    hendings.map fun _ _ h => (String.append_right_inj name).mp h
  rw [List.nodup_append', mem_clashes]
  constructor
  · rintro ⟨-, -, hapart⟩ ⟨ending, hending, hmem⟩
    exact hapart (List.mem_map_of_mem hending) hmem
  · intro h
    refine ⟨hown, hfixed, fun n hn hmem => ?_⟩
    obtain ⟨ending, hending, rfl⟩ := List.mem_map.mp hn
    exact h ⟨ending, hending, hmem⟩

/-- What is behind the name of the class in the names that the source of a kind has from its class:
the type that it declares, and those of the other kinds. -/
def classEndings (kind : ArtifactKind) : List String :=
  typeEnding kind :: ((importedKinds kind).filter (· ≠ .notFoundError)).map typeEnding

/-- The names that the source of a kind has for every class. -/
def fixedNames (kind : ArtifactKind) : List String :=
  ((importedKinds kind).filter (· = .notFoundError)).map (fun _ => "ResourceNotFoundException") ++
    frameworkNames kind

/-- The names that a class must not have for the sake of its repository, service or controller. -/
def reservedNames : ArtifactKind → List String
  | .repository => ["Jpa", "JpaRepository", "Repository"]
  | .service => ["ResourceNotFoundException", "Service", "Transactional", "List"]
  | .controller =>
    ["Rest", "HttpStatus", "ResponseEntity", "CrossOrigin", "DeleteMapping", "GetMapping",
     "PathVariable", "PostMapping", "PutMapping", "RequestBody", "RequestMapping", "RestController",
     "List"]
  | _ => []

/-- The kinds of the sources of a class around its entity. -/
def layerKinds : List ArtifactKind := [.repository, .service, .controller]

theorem mem_reservedNames {kind : ArtifactKind} (hkind : kind ∈ layerKinds) {name : String}
    (hne : name ≠ "") :
    name ∈ clashes (classEndings kind) (fixedNames kind) ↔ name ∈ reservedNames kind := by
  have hall : ∀ kind ∈ layerKinds, (clashes (classEndings kind) (fixedNames kind)).filter (· ≠ "") =
      reservedNames kind := by
    decide
  rw [← hall kind hkind, List.mem_filter]
  simp [hne]

/-- The names in a source are those with the class in them and the fixed ones, in some order. -/
theorem names_perm (c : ClassDef) {kind : ArtifactKind} (hkind : kind ∈ layerKinds) :
    ((c.name ++ typeEnding kind) :: ((importedKinds kind).map (importedType c) ++
      frameworkNames kind)).Perm
        ((classEndings kind).map (c.name ++ ·) ++ fixedNames kind) := by
  simp only [layerKinds, List.mem_cons, List.not_mem_nil, or_false] at hkind
  rcases hkind with rfl | rfl | rfl
  · exact List.Perm.refl _
  · have herror : ("ResourceNotFoundException" ::
        ([c.name ++ "", c.name ++ "Repository"] ++ frameworkNames .service)).Perm
          ([c.name ++ "", c.name ++ "Repository"] ++
            "ResourceNotFoundException" :: frameworkNames .service) :=
      List.perm_middle.symm
    exact herror.cons _
  · exact List.Perm.refl _

/-! ## Unambiguous sources -/

theorem unambiguous_iff {source name : String} (h : declaredType? source = some name) :
    Unambiguous source ↔ (name :: importedNames source).Nodup := by
  rw [Unambiguous, h]
  simp

section Sources

variable (m : Model) {s : Settings} (hgroup : IsPackage s.backend.groupId) (project : String)

include hgroup

theorem unambiguous_entity {c : ClassDef} (hname : IsIdentifier c.name) :
    Unambiguous ((backendJob m s project).classFile c .entity).content ↔
      c.name ∉ entityImports m c := by
  have htype : c.name ++ typeEnding .entity = c.name := String.append_empty
  have hkind : ArtifactKind.entity ∈ Mode.backend.classKinds := by decide
  have hdeclared := (javaSource_class m hgroup project hname hkind).declares
  rw [unambiguous_iff hdeclared, importedNames_entity m hgroup project hname, List.nodup_cons,
    htype]
  exact and_iff_left (nodup_entityImports m c)

theorem unambiguous_layer {c : ClassDef} (hname : IsIdentifier c.name) {kind : ArtifactKind}
    (hkind : kind ∈ layerKinds) :
    Unambiguous ((backendJob m s project).classFile c kind).content ↔
      c.name ∉ reservedNames kind := by
  have hclass : kind ∈ Mode.backend.classKinds ∧ kind ≠ .entity := by
    simp only [layerKinds, List.mem_cons, List.not_mem_nil, or_false] at hkind
    rcases hkind with rfl | rfl | rfl <;> decide
  have hdistinct : ∀ kind ∈ layerKinds, (classEndings kind).Nodup ∧ (fixedNames kind).Nodup := by
    decide
  have hdeclared := (javaSource_class m hgroup project hname hclass.1).declares
  rw [unambiguous_iff hdeclared, importedNames_layer m hgroup project hname hclass.1 hclass.2,
    (names_perm c hkind).nodup_iff, nodup_names (hdistinct kind hkind).1 (hdistinct kind hkind).2,
    mem_reservedNames hkind hname.nonempty]

/-- What is imported in a source of the project. -/
theorem importedNames_project {kind : ArtifactKind} (hkind : kind ∈ projectSources) :
    importedNames ((backendJob m s project).projectFile kind).content = frameworkNames kind := by
  obtain ⟨t, ht, -, -, hdeclared⟩ := isSource_project kind hkind
  have hbase := isPackage_basePackage hgroup project
  obtain ⟨hdecides, hselect⟩ := importsAre (List.mem_append_left _ hkind) ht
  have hblocks : importBlocks kind =
      ((frameworkTypes kind).map typeImport).map fun line => .line [.text line] := by
    simp only [projectSources, List.mem_cons, List.not_mem_nil, or_false] at hkind
    rcases hkind with rfl | rfl <;> rfl
  rw [content_projectFile m s project ht,
    importedNames_of_opens (unbrokenAt_project m hbase.newline) hdeclared hdecides, hselect,
    hblocks, expandBlocks_texts, simpleName_frameworkTypes]

theorem unambiguous_project {kind : ArtifactKind} (hkind : kind ∈ projectSources) :
    Unambiguous ((backendJob m s project).projectFile kind).content ↔
      projectType project kind ∉ frameworkNames kind := by
  have hdistinct : ∀ kind ∈ projectSources, (frameworkNames kind).Nodup := by decide
  rw [unambiguous_iff (javaSource_project m hgroup project hkind).declares,
    importedNames_project m hgroup project hkind, List.nodup_cons]
  exact and_iff_left (hdistinct kind hkind)

end Sources

/-- Which Java sources of a plan have unambiguous names. -/
structure NamesSettled (m : Model) (s : Settings) (project : String) (p : Plan) : Prop where
  /-- Every Java file is a source of the project or of a class. -/
  sources : ∀ f ∈ p.files, ".java".toList <:+ f.path.text.toList →
    (∃ kind ∈ projectSources, f = (backendJob m s project).projectFile kind) ∨
      ∃ c ∈ m.classes, f = (backendJob m s project).classFile c .entity ∨
        ∃ kind ∈ layerKinds, f = (backendJob m s project).classFile c kind
  /-- The names of an entity are settled unless the class is called like something that it
  imports. -/
  entities : ∀ c ∈ m.classes,
    Unambiguous ((backendJob m s project).classFile c .entity).content ↔
      c.name ∉ entityImports m c
  layers : ∀ c ∈ m.classes, ∀ kind ∈ layerKinds,
    Unambiguous ((backendJob m s project).classFile c kind).content ↔
      c.name ∉ reservedNames kind
  entryPoint : Unambiguous ((backendJob m s project).projectFile .entryPoint).content ↔
    Naming.applicationClass project ∉ ["SpringApplication", "SpringBootApplication"]
  notFoundError : Unambiguous ((backendJob m s project).projectFile .notFoundError).content

/-- Which sources have unambiguous names is known from the names of class and project, for all
classes whose names are identifiers and every group that is a package. -/
theorem sources_unambiguous_iff {m : Model} (hclasses : ∀ c ∈ m.classes, IsIdentifier c.name)
    {s : Settings} (hgroup : IsPackage s.backend.groupId) (project : String) :
    ∃ p, (backendJob m s project).plan = .ok p ∧ NamesSettled m s project p := by
  have herror : projectType project .notFoundError ∉ frameworkNames .notFoundError := by
    have hfixed : "ResourceNotFoundException" ∉ frameworkNames .notFoundError := by decide +kernel
    exact hfixed
  refine ⟨_, Job.plan_eq_ok _, ?_, fun c hc => unambiguous_entity m hgroup project (hclasses c hc),
    fun c hc kind hkind => unambiguous_layer m hgroup project (hclasses c hc) hkind, ?_,
    (unambiguous_project m hgroup project (by decide)).mpr herror⟩
  · intro f hf hjava
    rw [Job.files_fullPlan, List.mem_append] at hf
    rcases hf with hf | hf
    · obtain ⟨kind, hkind, rfl⟩ := List.mem_map.mp hf
      exact .inl ⟨kind, mem_projectSources m hgroup project hkind hjava, rfl⟩
    · obtain ⟨c, hc, hmem⟩ := List.mem_flatMap.mp hf
      obtain ⟨kind, hkind, rfl⟩ := List.mem_map.mp hmem
      refine .inr ⟨c, hc, ?_⟩
      rcases List.mem_cons.mp (List.mem_filter.mp hkind).1 with rfl | hlayer
      · exact .inl rfl
      · exact .inr ⟨kind, hlayer, rfl⟩
  · have hentry : ArtifactKind.entryPoint ∈ projectSources := by decide
    exact unambiguous_project m hgroup project hentry

/-- A class that is called like an annotation of its repository, and the source that starts the
application called like what it starts with. -/
theorem sources_unambiguous_repository :
    (∀ c ∈ [⟨"Repository", [.attr ⟨"since", "date"⟩]⟩], IsIdentifier (ClassDef.name c)) ∧
      IsPackage ({} : Settings).backend.groupId ∧
        ∃ p, (backendJob ⟨[⟨"Repository", [.attr ⟨"since", "date"⟩]⟩]⟩ {} "spring").plan = .ok p ∧
          NamesSettled ⟨[⟨"Repository", [.attr ⟨"since", "date"⟩]⟩]⟩ {} "spring" p := by
  have hclasses : ∀ c ∈ [⟨"Repository", [.attr ⟨"since", "date"⟩]⟩],
      IsIdentifier (ClassDef.name c) := by decide +kernel
  have hgroup : IsPackage ({} : Settings).backend.groupId :=
    ⟨["com", "example"], List.cons_ne_nil _ _, by decide +kernel, rfl⟩
  exact ⟨hclasses, hgroup, sources_unambiguous_iff hclasses hgroup "spring"⟩

/-- A class `Table` has an entity that imports a `Table` besides. -/
theorem table_ambiguous :
    ([⟨"Table", []⟩] : List ClassDef).Pairwise (fun c c' => c.name ≠ c'.name) ∧
      IsIdentifier "Table" ∧ IsPackage ({} : Settings).backend.groupId ∧
        ∃ p, (backendJob ⟨[⟨"Table", []⟩]⟩ {} "shop").plan = .ok p ∧
          ∃ f ∈ p.files, f.path.text = "src/main/java/com/example/shop/model/Table.java" ∧
            declaredType? f.content = some "Table" ∧ "Table" ∈ importedNames f.content := by
  have hname : IsIdentifier "Table" := by decide +kernel
  have hgroup : IsPackage ({} : Settings).backend.groupId :=
    ⟨["com", "example"], List.cons_ne_nil _ _, by decide +kernel, rfl⟩
  have hkind : ArtifactKind.entity ∈ Mode.backend.classKinds := by decide
  have hsource := javaSource_class ⟨[⟨"Table", []⟩]⟩ hgroup "shop" (c := ⟨"Table", []⟩) hname hkind
  have himports := importedNames_entity ⟨[⟨"Table", []⟩]⟩ hgroup "shop" (c := ⟨"Table", []⟩) hname
  refine ⟨List.pairwise_singleton _ _, hname, hgroup, _, Job.plan_eq_ok _,
    _, classFile_mem _ "shop" List.mem_cons_self hkind, ?_, hsource.declares, ?_⟩
  · rw [hsource.path]
    decide +kernel
  · rw [himports]
    decide +kernel

end CrudStack
