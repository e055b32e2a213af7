/-
# `CrudStack.Proofs.Java.Package` — packages and the directories that spell them out

A package name is kept as one text.  The layout cuts it at its dots and puts the parts below each
other; the templates write it as it is.  For a package that is a list of identifiers with dots
between them the two are the same list (`packageNames_intercalate`), and the package of a project is
such a package as soon as its group is one, whatever the project is called
(`isPackage_basePackage`).

Main statement: a Java source lies at the path that its package spells, from the root of the project
on, to the letter (`relativePath_backend`).
-/
import CrudStack.Proofs.Layout.Names
import CrudStack.Proofs.Path.Spelled

namespace CrudStack

/-! ## Identifiers -/

/-- A text of letters, digits and underscores that is not empty. -/
structure IsIdentifier (name : String) : Prop where
  nonempty : name ≠ ""
  letters : ∀ c ∈ name.toList, Text.isAlphanumeric c = true ∨ c = '_'

instance (name : String) : Decidable (IsIdentifier name) :=
  decidable_of_iff
    (name ≠ "" ∧ name.toList.all (fun c => Text.isAlphanumeric c || c = '_') = true)
    ⟨fun ⟨hne, hall⟩ => ⟨hne, fun c hc => by simpa using List.all_eq_true.mp hall c hc⟩,
      fun h => ⟨h.nonempty, List.all_eq_true.mpr fun c hc => by simpa using h.letters c hc⟩⟩

namespace IsIdentifier

variable {name : String} (h : IsIdentifier name)

include h

theorem notMem {c : Char} (hc : Text.isAlphanumeric c = false) (hne : c ≠ '_') :
    c ∉ name.toList := by
  intro hmem
  rcases h.letters c hmem with hletter | hscore
  · rw [hc] at hletter
    cases hletter
  · exact hne hscore

theorem dot : '.' ∉ name.toList := h.notMem (by decide +kernel) (by decide)

theorem slash : '/' ∉ name.toList := h.notMem (by decide +kernel) (by decide)

theorem newline : '\n' ∉ name.toList := h.notMem (by decide +kernel) (by decide)

theorem space : ' ' ∉ name.toList := h.notMem (by decide +kernel) (by decide)

/-- An identifier can be a directory. -/
theorem isName : Path.IsName name where
  ne_empty := h.nonempty
  ne_dot := fun hdot => h.dot (hdot ▸ List.mem_singleton_self '.')
  slash := h.slash

theorem append {ending : String}
    (hending : ∀ c ∈ ending.toList, Text.isAlphanumeric c = true ∨ c = '_') :
    IsIdentifier (name ++ ending) where
  nonempty := by simp [h.nonempty]
  letters := by
    intro c hc
    rw [String.toList_append, List.mem_append] at hc
    exact hc.elim (h.letters c) (hending c)

end IsIdentifier

theorem isAlphanumeric_of_ascii {c : Char} (h : Text.isAsciiAlphanumeric c = true) :
    Text.isAlphanumeric c = true := by
  refine Text.ascii_induction
    (P := fun c => Text.isAsciiAlphanumeric c = true → Text.isAlphanumeric c = true) ?_
    (Text.toNat_lt_of_alphanumeric h) h
  decide +kernel

theorem isIdentifier_of_ascii {name : String} (hne : name ≠ "")
    (h : ∀ c ∈ name.toList, Text.isAsciiAlphanumeric c = true) : IsIdentifier name where
  nonempty := hne
  letters := fun c hc => .inl (isAlphanumeric_of_ascii (h c hc))

/-! ## Packages -/

/-- A list of identifiers with dots between them. -/
def IsPackage (package : String) : Prop :=
  ∃ segments, segments ≠ [] ∧ (∀ segment ∈ segments, IsIdentifier segment) ∧
    package = ".".intercalate segments

namespace Layout

theorem segments_intercalate {segments : List String} (hne : segments ≠ [])
    (h : ∀ segment ∈ segments, '.' ∉ segment.toList) :
    (".".intercalate segments).toList.splitOn '.' = segments.map String.toList := by
  have htext : (".".intercalate segments).toList = ['.'].intercalate (segments.map String.toList) :=
    String.toList_intercalate
  rw [htext]
  exact List.splitOn_intercalate '.' (by simpa using h) (by simpa using hne)

section Segments

variable {segments : List String} (hne : segments ≠ [])
  (h : ∀ segment ∈ segments, IsIdentifier segment)

include hne h

/-- The directories of a package are called like its parts. -/
theorem packageNames_intercalate : packageNames (".".intercalate segments) = segments := by
  have hkept : ∀ cs ∈ segments.map String.toList, (!cs.isEmpty) = true := by
    intro cs hcs
    obtain ⟨segment, hsegment, rfl⟩ := List.mem_map.mp hcs
    have hfull : segment.toList ≠ [] := fun e =>
      (h segment hsegment).nonempty (String.toList_eq_nil_iff.mp e)
    simpa using hfull
  rw [packageNames, segments_intercalate hne fun s hs => (h s hs).dot, Path.names,
    List.filter_eq_self.mpr hkept, List.map_map]
  exact (List.map_congr_left fun _ _ => String.ofList_toList).trans (List.map_id _)

theorem packagePath_intercalate :
    packagePath (".".intercalate segments) = Path.ofSegments segments := by
  rw [packagePath, segments_intercalate hne fun s hs => (h s hs).dot, List.map_map]
  exact congrArg Path.ofSegments
    ((List.map_congr_left fun _ _ => String.ofList_toList).trans (List.map_id _))

end Segments

end Layout

/-- The parts of a package, put together again, are the package. -/
theorem IsPackage.intercalate_packageNames {package : String} (h : IsPackage package) :
    ".".intercalate (Layout.packageNames package) = package := by
  obtain ⟨segments, hne, hall, rfl⟩ := h
  rw [Layout.packageNames_intercalate hne hall]

theorem IsPackage.packageNames {package : String} (h : IsPackage package) :
    Layout.packageNames package ≠ [] ∧
      (∀ segment ∈ Layout.packageNames package, IsIdentifier segment) ∧
        Layout.packagePath package = Path.ofSegments (Layout.packageNames package) := by
  obtain ⟨segments, hne, hall, rfl⟩ := h
  rw [Layout.packageNames_intercalate hne hall, Layout.packagePath_intercalate hne hall]
  exact ⟨hne, hall, rfl⟩

theorem IsPackage.newline {package : String} (h : IsPackage package) : '\n' ∉ package.toList := by
  obtain ⟨segments, -, hall, rfl⟩ := h
  intro hmem
  rcases mem_intercalate hmem with hdot | ⟨segment, hsegment, hmem⟩
  · exact absurd hdot (by decide)
  · exact (hall segment hsegment).newline hmem

/-- One more part. -/
theorem IsPackage.append {package segment : String} (h : IsPackage package)
    (hsegment : IsIdentifier segment) : IsPackage (package ++ "." ++ segment) := by
  obtain ⟨segments, hne, hall, rfl⟩ := h
  refine ⟨segments ++ [segment], by simp, ?_, ?_⟩
  · intro s hs
    rcases List.mem_append.mp hs with hs | hs
    · exact hall s hs
    · rwa [List.mem_singleton.mp hs]
  · rw [intercalate_append "." hne (List.cons_ne_nil segment []), String.intercalate_singleton]

/-- The package of a project: the group, and what is left of the name of the project if anything
is. -/
theorem isPackage_basePackage {s : Settings} (h : IsPackage s.backend.groupId) (project : String) :
    IsPackage (s.basePackage project) := by
  unfold Settings.basePackage
  dsimp only
  split
  · exact h
  · next hsegment =>
      refine h.append (isIdentifier_of_ascii ?_ (alphanumeric_packageSegment project))
      simpa using hsegment

/-! ## Paths -/

namespace Layout

theorem isName_fixedNames : ∀ n ∈ fixedNames, Path.IsName n := by
  have hall : ∀ n ∈ fixedNames, n ≠ "" ∧ n ≠ "." ∧ '/' ∉ n.toList := by decide
  exact fun n hn => ⟨(hall n hn).1, (hall n hn).2.1, (hall n hn).2.2⟩

section Directories

variable {package : String} (h : IsPackage package)

include h

theorem isName_roleNames {mode : Mode} {role : Role} {n : String}
    (hn : n ∈ roleNames (packageNames package) mode role) : Path.IsName n :=
  (mem_roleNames hn).elim (isName_fixedNames n) fun hpackage =>
    (h.packageNames.2.1 n hpackage).isName

/-- The package below a directory of the project. -/
theorem join_packagePath (root : Path) {text : String} {names : List String}
    (htext : (⟨text⟩ : Path) = .ofSegments names) (hnames : names ⊆ fixedNames) (hne : names ≠ []) :
    (root.child text).join (packagePath package) =
      root.join (.ofSegments (names ++ packageNames package)) := by
  obtain ⟨hne', hsegments, hpath⟩ := h.packageNames
  rw [Path.child, htext, hpath]
  exact Path.join_ofSegments (fun n hn => isName_fixedNames n (hnames hn))
    (fun n hn => (hsegments n hn).isName) hne hne' root

/-- The directory of a role that is not the root, put together from the names of the role. -/
theorem directory_spelled (destination : Path) (project : String) {role : Role}
    (hrole : roleNames (packageNames package) .backend role ≠ []) :
    (backend destination project package).directory role =
      (backend destination project package).root.join
        (.ofSegments (roleNames (packageNames package) .backend role)) := by
  have hsources := join_packagePath h (backend destination project package).root
    (by decide : (⟨"src/main/java"⟩ : Path) = .ofSegments ["src", "main", "java"])
    (by decide) (by decide)
  have hbelow : ∀ name ∈ fixedNames,
      ((backend destination project package).root.join
        (.ofSegments (["src", "main", "java"] ++ packageNames package))).child name =
      (backend destination project package).root.join
        (.ofSegments (["src", "main", "java"] ++ packageNames package ++ [name])) :=
    fun name hname => Path.child_join_ofSegments
      (fun n hn => isName_roleNames h (show n ∈ roleNames _ .backend .sources from hn))
      (List.cons_ne_nil _ _)
      (isName_fixedNames name hname) _
  rw [backend_directory]
  cases role with
  | sources => exact hsources
  | model => exact (congrArg (Path.child · "model") hsources).trans (hbelow _ (by decide))
  | repository => exact (congrArg (Path.child · "repository") hsources).trans (hbelow _ (by decide))
  | service => exact (congrArg (Path.child · "service") hsources).trans (hbelow _ (by decide))
  | controller => exact (congrArg (Path.child · "controller") hsources).trans (hbelow _ (by decide))
  | exception => exact (congrArg (Path.child · "exception") hsources).trans (hbelow _ (by decide))
  | resources =>
      have htext : (⟨"src/main/resources"⟩ : Path) = .ofSegments ["src", "main", "resources"] := by
        decide
      exact congrArg (Path.join _) htext
  | testSources =>
      exact join_packagePath h _
        (by decide : (⟨"src/test/java"⟩ : Path) = .ofSegments ["src", "test", "java"])
        (by decide) (by decide)
  | root => exact absurd rfl hrole
  | frontendSources => exact absurd rfl hrole
  | components => exact absurd rfl hrole

end Directories

/-- A role without names stands for the root. -/
theorem directory_root (destination : Path) (project : String) {package : String} {role : Role}
    (hrole : roleNames (packageNames package) .backend role = []) :
    (backend destination project package).directory role =
      (backend destination project package).root := by
  rw [backend_directory]
  cases role with
  | root => rfl
  | frontendSources => rfl
  | components => rfl
  | _ => simp [roleNames] at hrole

end Layout

/-- A file of a backend lies at the names of its role, from the root of the project on and to the
letter; the build file lies at the root itself. -/
theorem relativePath_backend {j : Job} (hmode : j.mode = .backend)
    (h : IsPackage (j.settings.basePackage j.project)) (kind : ArtifactKind) (fileName : String) :
    j.relativePath kind fileName = .ofSegments (j.roleNames (kind.role j.mode) ++ [fileName]) := by
  rw [← Path.child_ofSegments]
  unfold Job.relativePath Job.layout Job.roleNames Layout.locate
  rw [hmode]
  by_cases hrole : Layout.roleNames (Layout.packageNames (j.settings.basePackage j.project))
      .backend (kind.role .backend) = []
  · dsimp only
    rw [hrole, Layout.directory_root ⟨""⟩ j.project hrole, Path.relativeTo?_self]
    rfl
  · dsimp only
    rw [Layout.directory_spelled h ⟨""⟩ j.project hrole,
      Path.relativeTo?_ofSegments (fun n hn => Layout.isName_roleNames h hn) hrole]
    rfl

end CrudStack
