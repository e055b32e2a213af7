/-
# `CrudStack.Proofs.Java.Legal` — which names made from a project's name are names in Java

Two names of the generated sources are made from the name of the project: the class that starts the
application, and the last part of the package.  Both keep its letters and digits of ASCII and leave
out all else, so that any text may name a project.  A name in Java asks for more than that: it must
not begin with a digit, and it must not be a word of the language.  The first is not looked after
where a digit is what is left at the beginning, the second not where the package ends in such a
word; the class is safe from the second by its ending.

Main statement: if the group is a package that a source may name, then so are the packages of all
sources, unless the project begins with a digit or spells a word of the language; and the class that
starts the application has a name unless the project begins with a digit
(`synthesized_names_legal`).
-/
import CrudStack.Proofs.Java.Source

namespace CrudStack

open Template
open Text (isAsciiAlphanumeric isAsciiDigit asciiLower asciiUpper)

/-! ## Names in Java -/

/-- The words that Java keeps for itself: its keywords, and the literals that look like names. -/
def reservedWords : List String :=
  ["abstract", "assert", "boolean", "break", "byte", "case", "catch", "char", "class", "const",
   "continue", "default", "do", "double", "else", "enum", "extends", "final", "finally", "float",
   "for", "goto", "if", "implements", "import", "instanceof", "int", "interface", "long", "native",
   "new", "package", "private", "protected", "public", "return", "short", "static", "strictfp",
   "super", "switch", "synchronized", "this", "throw", "throws", "transient", "try", "void",
   "volatile", "while", "_", "true", "false", "null"]

/-- A name that a source may give to something: it begins with a letter or an underscore, and it is
no word of the language. -/
structure IsJavaName (name : String) : Prop where
  identifier : IsIdentifier name
  start : ∀ c, name.toList.head? = some c → Text.isNumeric c = false
  free : name ∉ reservedWords

instance (name : String) : Decidable (IsJavaName name) :=
  decidable_of_iff
    (IsIdentifier name ∧ name.toList.head?.all (fun c => !Text.isNumeric c) = true ∧
      name ∉ reservedWords)
    ⟨fun ⟨hname, hstart, hfree⟩ => ⟨hname, fun c hc => by simpa [hc] using hstart, hfree⟩,
      fun h => ⟨h.identifier, by cases hc : name.toList.head? <;> simp [h.start _, hc], h.free⟩⟩

/-- Names with dots between them. -/
def IsJavaPackage (package : String) : Prop :=
  ∃ segments, segments ≠ [] ∧ (∀ segment ∈ segments, IsJavaName segment) ∧
    package = ".".intercalate segments

theorem IsJavaPackage.isPackage {package : String} (h : IsJavaPackage package) :
    IsPackage package := by
  obtain ⟨segments, hne, hall, rfl⟩ := h
  exact ⟨segments, hne, fun segment hsegment => (hall segment hsegment).identifier, rfl⟩

/-- A package is judged by its parts. -/
theorem isJavaPackage_intercalate {segments : List String} (hne : segments ≠ [])
    (hall : ∀ segment ∈ segments, IsIdentifier segment) :
    IsJavaPackage (".".intercalate segments) ↔ ∀ segment ∈ segments, IsJavaName segment := by
  constructor
  · rintro ⟨parts, hparts, hnames, hsame⟩
    rw [← Layout.packageNames_intercalate hne hall, hsame,
      Layout.packageNames_intercalate hparts fun part hpart => (hnames part hpart).identifier]
    exact hnames
  · intro hnames
    exact ⟨segments, hne, hnames, rfl⟩

/-! ## What is kept of the name of a project -/

/-- The first letter or digit in the name of a project is a digit. -/
def OpensWithDigit (project : String) : Prop :=
  ∃ d, project.toList.find? isAsciiAlphanumeric = some d ∧ isAsciiDigit d = true

/-- The letters and digits in the name of a project are those of a word of the language. -/
def SpellsReserved (project : String) : Prop :=
  ∃ word ∈ reservedWords,
    (project.toList.filter isAsciiAlphanumeric).map asciiLower = word.toList

theorem toList_identifierPart (project : String) :
    (Naming.identifierPart project).toList = project.toList.filter isAsciiAlphanumeric := by
  rw [Naming.identifierPart, String.toList_ofList]

theorem toList_packageSegment (project : String) :
    (Settings.packageSegment project).toList =
      (project.toList.filter isAsciiAlphanumeric).map asciiLower := by
  rw [Settings.packageSegment, Text.lower, String.toList_ofList, toList_identifierPart]
  exact Text.lowerAfter_of_ascii
    (fun c hc => Text.toNat_lt_of_alphanumeric (List.mem_filter.mp hc).2) []

/-- The digits of ASCII are its only numbers. -/
theorem isNumeric_of_ascii {c : Char} (h : c.toNat < 128) : Text.isNumeric c = isAsciiDigit c := by
  have htable : Text.numericStretches.tail.all (Text.Stretch.apart ⟨0, 0x7f, 1⟩) = true := by
    decide
  have hrest := Text.Stretch.anyHas_of_apart htable ⟨Nat.zero_le _, Nat.le_of_lt_succ h⟩
  have hdigits : Text.isNumeric c = (Text.Stretch.has ⟨0x30, 0x39, 1⟩ c.toNat ||
      Text.Stretch.anyHas Text.numericStretches.tail c) := rfl
  rw [hdigits, hrest, Bool.or_false, Text.Stretch.has, Nat.mod_one]
  simp [isAsciiDigit]

/-- Neither case of a letter is a digit, and a digit has none. -/
theorem isNumeric_case {c : Char} (h : isAsciiAlphanumeric c = true) :
    Text.isNumeric (asciiLower c) = isAsciiDigit c ∧
      ∃ x, Text.upperChar c = [x] ∧ Text.isNumeric x = isAsciiDigit c := by
  have hsmall := Text.toNat_lt_of_alphanumeric h
  have hcases : ((asciiLower c).toNat < 128 ∧ isAsciiDigit (asciiLower c) = isAsciiDigit c) ∧
      (asciiUpper c).toNat < 128 ∧ isAsciiDigit (asciiUpper c) = isAsciiDigit c :=
    Text.ascii_induction (P := fun c =>
      ((asciiLower c).toNat < 128 ∧ isAsciiDigit (asciiLower c) = isAsciiDigit c) ∧
        (asciiUpper c).toNat < 128 ∧ isAsciiDigit (asciiUpper c) = isAsciiDigit c)
      (by decide) hsmall
  obtain ⟨⟨hlower, hlowered⟩, hlarge, huppered⟩ := hcases
  exact ⟨(isNumeric_of_ascii hlower).trans hlowered, _, Text.upperChar_of_ascii hsmall,
    (isNumeric_of_ascii hlarge).trans huppered⟩

theorem opensWithDigit_iff (project : String) : OpensWithDigit project ↔
    ∃ d, (project.toList.filter isAsciiAlphanumeric).head? = some d ∧ isAsciiDigit d = true := by
  rw [OpensWithDigit, List.head?_filter]

/-- Nothing is kept of the project, or a first letter or digit and what follows it. -/
theorem kept_cases (project : String) :
    (project.toList.filter isAsciiAlphanumeric = [] ∧ ¬ OpensWithDigit project) ∨
      ∃ c rest, project.toList.filter isAsciiAlphanumeric = c :: rest ∧
        isAsciiAlphanumeric c = true ∧ (OpensWithDigit project ↔ isAsciiDigit c = true) := by
  rw [opensWithDigit_iff]
  cases hkept : project.toList.filter isAsciiAlphanumeric with
  | nil => exact .inl ⟨rfl, nofun⟩
  | cons c rest =>
      have hc : c ∈ project.toList.filter isAsciiAlphanumeric := hkept ▸ List.mem_cons_self
      exact .inr ⟨c, rest, rfl, (List.mem_filter.mp hc).2, by simp⟩

/-! ## The two names -/

/-- The class that starts the application begins with the first letter or digit of the project, in
upper case. -/
theorem head?_applicationClass (project : String) :
    ∃ x, (Naming.applicationClass project).toList.head? = some x ∧
      (Text.isNumeric x = true ↔ OpensWithDigit project) := by
  rw [Naming.applicationClass, String.toList_append]
  rcases kept_cases project with ⟨hkept, hdigit⟩ | ⟨c, rest, hkept, hc, hdigit⟩
  · refine ⟨'A', ?_, iff_of_false (by decide) hdigit⟩
    simp [Text.capitalize, toList_identifierPart, hkept]
  · obtain ⟨-, x, hupper, hnumeric⟩ := isNumeric_case hc
    refine ⟨x, ?_, by rw [hdigit, hnumeric]⟩
    simp [Text.capitalize, toList_identifierPart, hkept, hupper]

/-- Its ending keeps the class from being a word of the language. -/
theorem applicationClass_notMem (project : String) :
    Naming.applicationClass project ∉ reservedWords := by
  have hsmall : ∀ word ∈ reservedWords, 'A' ∉ word.toList := by decide
  refine fun h => hsmall _ h ?_
  rw [Naming.applicationClass, String.toList_append]
  exact List.mem_append_right _ (by decide)

theorem isJavaName_applicationClass (project : String) :
    IsJavaName (Naming.applicationClass project) ↔ ¬ OpensWithDigit project := by
  obtain ⟨x, hhead, hnumeric⟩ := head?_applicationClass project
  rw [← hnumeric, Bool.not_eq_true]
  constructor
  · intro h
    exact h.start x hhead
  · intro h
    have hentry : ArtifactKind.entryPoint ∈ projectSources := by decide
    refine ⟨isIdentifier_projectType project hentry, fun c hc => ?_,
      applicationClass_notMem project⟩
    rw [hhead] at hc
    exact Option.some.inj hc ▸ h

/-- Nothing is kept of a project just if it has no part in the package, and then nothing is wrong
with what is kept. -/
theorem packageSegment_eq_empty {project : String} (h : Settings.packageSegment project = "") :
    ¬ OpensWithDigit project ∧ ¬ SpellsReserved project := by
  have hkept : (project.toList.filter isAsciiAlphanumeric).map asciiLower = [] := by
    rw [← toList_packageSegment, h]
    rfl
  refine ⟨?_, ?_⟩
  · rw [opensWithDigit_iff, List.map_eq_nil_iff.mp hkept]
    nofun
  · rintro ⟨word, hword, hspells⟩
    have hsome : ∀ word ∈ reservedWords, word.toList ≠ [] := by decide
    exact hsome word hword (hspells.symm.trans hkept)

theorem isIdentifier_packageSegment {project : String} (h : Settings.packageSegment project ≠ "") :
    IsIdentifier (Settings.packageSegment project) :=
  isIdentifier_of_ascii h (alphanumeric_packageSegment project)

theorem isJavaName_packageSegment {project : String} (h : Settings.packageSegment project ≠ "") :
    IsJavaName (Settings.packageSegment project) ↔
      ¬ OpensWithDigit project ∧ ¬ SpellsReserved project := by
  have hfree : Settings.packageSegment project ∉ reservedWords ↔ ¬ SpellsReserved project := by
    refine not_congr ⟨fun hmem => ⟨_, hmem, (toList_packageSegment project).symm⟩, ?_⟩
    rintro ⟨word, hword, hspells⟩
    have hsame : Settings.packageSegment project = word :=
      String.toList_inj.mp ((toList_packageSegment project).trans hspells)
    exact hsame ▸ hword
  have hstart : (∀ c, (Settings.packageSegment project).toList.head? = some c →
      Text.isNumeric c = false) ↔ ¬ OpensWithDigit project := by
    rw [toList_packageSegment, List.head?_map]
    rcases kept_cases project with ⟨hkept, hdigit⟩ | ⟨c, rest, hkept, hc, hdigit⟩
    · rw [hkept]
      exact iff_of_true nofun hdigit
    · rw [hkept, hdigit, ← (isNumeric_case hc).1]
      simp
  rw [← hstart, ← hfree]
  exact ⟨fun hname => ⟨hname.start, hname.free⟩,
    fun ⟨hfirst, hword⟩ => ⟨isIdentifier_packageSegment h, hfirst, hword⟩⟩

/-! ## Packages -/

section Package

variable {s : Settings} (hgroup : IsJavaPackage s.backend.groupId) (project : String)

include hgroup

theorem isJavaPackage_basePackage : IsJavaPackage (s.basePackage project) ↔
    ¬ OpensWithDigit project ∧ ¬ SpellsReserved project := by
  by_cases hsegment : Settings.packageSegment project = ""
  · have hbase : s.basePackage project = s.backend.groupId := by
      simp [Settings.basePackage, hsegment]
    rw [hbase]
    exact iff_of_true hgroup (packageSegment_eq_empty hsegment)
  · have hbase : s.basePackage project =
        s.backend.groupId ++ "." ++ Settings.packageSegment project := by
      simp [Settings.basePackage, hsegment]
    obtain ⟨segments, hne, hall, hnames⟩ := hgroup
    have hids :
        ∀ segment ∈ segments ++ [Settings.packageSegment project], IsIdentifier segment := by
      intro segment hmem
      rcases List.mem_append.mp hmem with hmem | hmem
      · exact (hall segment hmem).identifier
      · exact List.mem_singleton.mp hmem ▸ isIdentifier_packageSegment hsegment
    have hjoined : s.basePackage project =
        ".".intercalate (segments ++ [Settings.packageSegment project]) := by
      rw [hbase, hnames, intercalate_append "." hne (List.cons_ne_nil _ []),
        String.intercalate_singleton]
    rw [hjoined, isJavaPackage_intercalate (by simp) hids, ← isJavaName_packageSegment hsegment]
    constructor
    · intro h
      exact h _ (List.mem_append_right _ (List.mem_singleton_self _))
    · intro h segment hmem
      rcases List.mem_append.mp hmem with hmem | hmem
      · exact hall segment hmem
      · exact List.mem_singleton.mp hmem ▸ h

/-- The part of a package that belongs to a kind changes nothing. -/
theorem isJavaPackage_sourcePackage (kind : ArtifactKind) :
    IsJavaPackage (".".intercalate (sourcePackage s project kind)) ↔
      ¬ OpensWithDigit project ∧ ¬ SpellsReserved project := by
  have hbase := isPackage_basePackage hgroup.isPackage project
  have hkinds : ∀ segment ∈ sourceSegments kind, IsJavaName segment := by
    cases kind <;> decide
  have hids : ∀ segment ∈ sourcePackage s project kind, IsIdentifier segment := by
    intro segment hmem
    rcases List.mem_append.mp hmem with hmem | hmem
    · exact hbase.packageNames.2.1 segment hmem
    · exact (hkinds segment hmem).identifier
  have hnames : IsJavaPackage (s.basePackage project) ↔
      ∀ segment ∈ Layout.packageNames (s.basePackage project), IsJavaName segment := by
    rw [← isJavaPackage_intercalate hbase.packageNames.1 hbase.packageNames.2.1,
      hbase.intercalate_packageNames]
  have hne : sourcePackage s project kind ≠ [] :=
    List.append_ne_nil_of_left_ne_nil hbase.packageNames.1 _
  rw [isJavaPackage_intercalate hne hids, ← isJavaPackage_basePackage hgroup, hnames]
  constructor
  · intro h segment hmem
    exact h segment (List.mem_append_left _ hmem)
  · intro h segment hmem
    exact (List.mem_append.mp hmem).elim (h segment) (hkinds segment)

end Package

/-! ## Sources -/

/-- The one line of a file that names a package names this one. -/
def NamesPackage (f : PlannedFile) (package : String) : Prop :=
  ∃ lines, Shows f.content lines "package " ["package " ++ package ++ ";"]

section Sources

variable (m : Model) {s : Settings} (hgroup : IsPackage s.backend.groupId) (project : String)

include hgroup

theorem namesPackage_class (c : ClassDef) {kind : ArtifactKind}
    (hkind : kind ∈ Mode.backend.classKinds) :
    NamesPackage ((backendJob m s project).classFile c kind)
      (".".intercalate (sourcePackage s project kind)) := by
  obtain ⟨t, ht, hpackage, -, -⟩ := isSource_class kind hkind
  refine ⟨_, shows_classFile ((marked_line ht hpackage.picks _).trans ?_)⟩
  exact congrArg ([·]) (fill_package hgroup project (slotText_make_package m s project c) kind)

theorem namesPackage_project {kind : ArtifactKind} (hkind : kind ∈ projectSources) :
    NamesPackage ((backendJob m s project).projectFile kind)
      (".".intercalate (sourcePackage s project kind)) := by
  obtain ⟨t, ht, hpackage, -, -⟩ := isSource_project kind hkind
  refine ⟨_, shows_projectFile ((marked_line ht hpackage.picks _).trans ?_)⟩
  exact congrArg ([·]) (fill_package hgroup project (slotText_makeProject_package m s project) kind)

/-- Every file of a backend names its package, but for the two that are no sources. -/
theorem namesPackage_of_mem {f : PlannedFile}
    (hf : f ∈ (backendJob m s project).fullPlan.files) :
    f.kind = .buildDescriptor ∨ f.kind = .runtimeConfig ∨
      ∃ kind, NamesPackage f (".".intercalate (sourcePackage s project kind)) := by
  rw [Job.files_fullPlan, List.mem_append] at hf
  rcases hf with hf | hf
  · obtain ⟨kind, hkind, rfl⟩ := List.mem_map.mp hf
    simp only [Mode.projectKinds, List.mem_cons, List.not_mem_nil, or_false] at hkind
    rcases hkind with rfl | rfl | rfl | rfl
    · exact .inl rfl
    · exact .inr (.inl rfl)
    · exact .inr (.inr ⟨_, namesPackage_project m hgroup project (by decide)⟩)
    · exact .inr (.inr ⟨_, namesPackage_project m hgroup project (by decide)⟩)
  · obtain ⟨c, -, hmem⟩ := List.mem_flatMap.mp hf
    obtain ⟨kind, hkind, rfl⟩ := List.mem_map.mp hmem
    exact .inr (.inr ⟨kind, namesPackage_class m hgroup project c (List.mem_filter.mp hkind).1⟩)

omit hgroup in
/-- The class that starts the application is declared under its name. -/
theorem marked_application : marked "public class "
    ((backendJob m s project).projectLines .entryPoint) =
      ["public class " ++ Naming.applicationClass project ++ " \x7b"] := by
  have hpicks : Picks "public class " Backend.entryPoint
      [.line (declarationPieces .entryPoint)] := by
    decide
  refine (marked_line rfl hpicks _).trans ?_
  have happlication := slotText_makeProject_application m s project
  unfold Job.projectSheet at *
  simp [fill, declarationPieces, happlication, String.append_assoc]

end Sources

/-- What is legal of the names that are made from the name of a project, and where they stand. -/
structure NamesLegal (m : Model) (s : Settings) (project : String) (p : Plan) : Prop where
  /-- The class that starts the application is made of letters and digits, and it has a name, but
  where it begins with a digit. -/
  application : (∀ c ∈ (Naming.applicationClass project).toList, isAsciiAlphanumeric c = true) ∧
    (IsJavaName (Naming.applicationClass project) ↔ ¬ OpensWithDigit project)
  /-- This is the class that its file declares. -/
  declared : p.filesOf .entryPoint = [(backendJob m s project).projectFile .entryPoint] ∧
    Shows ((backendJob m s project).projectFile .entryPoint).content
      ((backendJob m s project).projectLines .entryPoint) "public class "
      ["public class " ++ Naming.applicationClass project ++ " \x7b"]
  /-- The package is the group, or it has one more part; this part has a name, but where it begins
  with a digit or is a word of the language. -/
  package : (s.basePackage project = s.backend.groupId ∧
      ∀ c ∈ project.toList, isAsciiAlphanumeric c = false) ∨
    ∃ segment, s.basePackage project = s.backend.groupId ++ "." ++ segment ∧ segment ≠ "" ∧
      (∀ c ∈ segment.toList, isAsciiAlphanumeric c = true) ∧
      (IsJavaName segment ↔ ¬ OpensWithDigit project ∧ ¬ SpellsReserved project)
  /-- The packages of all sources are as good as this part. -/
  sources : ∀ f ∈ p.files, f.kind = .buildDescriptor ∨ f.kind = .runtimeConfig ∨
    ∃ package, NamesPackage f package ∧
      (IsJavaPackage package ↔ ¬ OpensWithDigit project ∧ ¬ SpellsReserved project)

/-- For every project whose group is a package that a source may name: the class that starts the
application has a name just if the project does not begin with a digit, and the packages of the
sources can be named just if, besides, the project spells no word of the language. -/
theorem synthesized_names_legal (m : Model) {s : Settings}
    (hgroup : IsJavaPackage s.backend.groupId) (project : String) :
    ∃ p, (backendJob m s project).plan = .ok p ∧ NamesLegal m s project p := by
  have hentry : ArtifactKind.entryPoint ∈ Mode.backend.projectKinds := by decide
  refine ⟨_, Job.plan_eq_ok _,
    ⟨alphanumeric_applicationClass project, isJavaName_applicationClass project⟩,
    ⟨Job.filesOf_projectKind _ hentry, shows_projectFile (marked_application m project)⟩,
    ?_, fun f hf => ?_⟩
  · by_cases hsegment : Settings.packageSegment project = ""
    · refine .inl ⟨by simp [Settings.basePackage, hsegment], fun c hc => ?_⟩
      have hkept := toList_packageSegment project
      rw [hsegment] at hkept
      have hnone := List.filter_eq_nil_iff.mp (List.map_eq_nil_iff.mp hkept.symm)
      simpa using hnone c hc
    · exact .inr ⟨_, by simp [Settings.basePackage, hsegment], hsegment,
        alphanumeric_packageSegment project, isJavaName_packageSegment hsegment⟩
  · rcases namesPackage_of_mem m hgroup.isPackage project hf with h | h | ⟨kind, hnames⟩
    · exact .inl h
    · exact .inr (.inl h)
    · exact .inr (.inr ⟨_, hnames, isJavaPackage_sourcePackage hgroup project kind⟩)

/-- A project that spells a word of the language, with a model that has a class. -/
theorem names_legal_class : IsJavaPackage ({} : Settings).backend.groupId ∧
    ∃ p, (backendJob catalogModel {} "Class!").plan = .ok p ∧
      NamesLegal catalogModel {} "Class!" p := by
  have hgroup : IsJavaPackage ({} : Settings).backend.groupId :=
    ⟨["com", "example"], List.cons_ne_nil _ _, by decide +kernel, rfl⟩
  exact ⟨hgroup, synthesized_names_legal catalogModel hgroup "Class!"⟩

/-- A project that begins with a digit: neither the class nor the part of the package has a name,
though the group is a package. -/
theorem names_open_with_digit :
    Naming.applicationClass "3d" = "3dApplication" ∧ ¬ IsJavaName (Naming.applicationClass "3d") ∧
      IsJavaPackage ({} : Settings).backend.groupId ∧
      ({} : Settings).basePackage "3d" = ({} : Settings).backend.groupId ++ "." ++ "3d" ∧
        ¬ IsJavaName "3d" := by
  have hgroup : IsJavaPackage ({} : Settings).backend.groupId :=
    ⟨["com", "example"], List.cons_ne_nil _ _, by decide +kernel, rfl⟩
  exact ⟨by decide +kernel, by decide +kernel, hgroup, by decide +kernel, by decide +kernel⟩

end CrudStack
