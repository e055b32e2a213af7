/-
# `CrudStack.Proofs.Layout.Names` — the names on the way to the directories and files of a project

Whatever the destination and the project are called, a directory of the project lies below the
project by names that depend on the mode and the package alone (`roleNames`), and a file lies below
its directory by its own name.  So the paths of a run can be compared by their names
(`directory_extends`, `file_extends`).

The names of directories have no dot and those of files have one; a backend has only `src` and its
build file at the top, a frontend only `frontend`.
-/
import CrudStack.Proofs.Disk.Descent
import CrudStack.Proofs.Path.Within
import CrudStack.Proofs.Plan.ByKind
import CrudStack.Proofs.Text.Lowered

namespace CrudStack

open Disk (pieces isDots Extends)

/-! ## Names made of letters and digits -/

namespace Text

/-- Either case of a letter or digit is one. -/
theorem alphanumeric_case {c : Char} (h : isAsciiAlphanumeric c = true) :
    isAsciiAlphanumeric (asciiLower c) = true ∧ isAsciiAlphanumeric (asciiUpper c) = true :=
  ascii_induction (P := fun c => isAsciiAlphanumeric c = true →
      isAsciiAlphanumeric (asciiLower c) = true ∧ isAsciiAlphanumeric (asciiUpper c) = true)
    (by decide) (toNat_lt_of_alphanumeric h) h

theorem alphanumeric_lower {cs : List Char} (h : ∀ c ∈ cs, isAsciiAlphanumeric c = true)
    (before : List Char) : ∀ c ∈ lowerAfter before cs, isAsciiAlphanumeric c = true := by
  intro x hx
  rw [lowerAfter_of_ascii fun c hc => toNat_lt_of_alphanumeric (h c hc)] at hx
  obtain ⟨c, hc, rfl⟩ := List.mem_map.mp hx
  exact (alphanumeric_case (h c hc)).1

end Text

open Text (isAsciiAlphanumeric)

theorem alphanumeric_identifierPart (name : String) :
    ∀ c ∈ (Naming.identifierPart name).toList, isAsciiAlphanumeric c = true := by
  intro c hc
  rw [Naming.identifierPart, String.toList_ofList] at hc
  exact (List.mem_filter.mp hc).2

theorem alphanumeric_packageSegment (project : String) :
    ∀ c ∈ (Settings.packageSegment project).toList, isAsciiAlphanumeric c = true := by
  rw [Settings.packageSegment, Text.lower, String.toList_ofList]
  exact Text.alphanumeric_lower (alphanumeric_identifierPart project) []

theorem alphanumeric_applicationClass (project : String) :
    ∀ c ∈ (Naming.applicationClass project).toList, isAsciiAlphanumeric c = true := by
  have hpart := alphanumeric_identifierPart project
  intro c hc
  rw [Naming.applicationClass, String.toList_append] at hc
  rcases List.mem_append.mp hc with hc | hc
  · unfold Text.capitalize at hc
    split at hc
    · cases hc
    · next first rest hfirst =>
        rw [hfirst] at hpart
        have hfirst := hpart first List.mem_cons_self
        rw [String.toList_ofList,
          Text.upperChar_of_ascii (Text.toNat_lt_of_alphanumeric hfirst)] at hc
        rcases List.mem_append.mp hc with hc | hc
        · exact List.mem_singleton.mp hc ▸ (Text.alphanumeric_case hfirst).2
        · exact hpart c (List.mem_cons_of_mem first hc)
  · have hfixed : "Application".toList.all isAsciiAlphanumeric = true := by decide
    exact List.all_eq_true.mp hfixed c hc

/-! ## Packages -/

namespace Layout

/-- The names of the directories of a package. -/
def packageNames (package : String) : List String :=
  Path.names (package.toList.splitOn '.')

theorem mem_packageNames {package name : String} (h : name ∈ packageNames package) :
    name ≠ "" ∧ ∀ x ∈ name.toList, x ∈ package.toList ∧ x ≠ '.' := by
  obtain ⟨segment, hsegment, rfl⟩ := List.mem_map.mp h
  obtain ⟨hmem, hne⟩ := List.mem_filter.mp hsegment
  refine ⟨?_, fun x hx => ?_⟩
  · rw [ne_eq, String.ofList_eq_empty_iff]
    simpa using hne
  · rw [String.toList_ofList] at hx
    exact Text.mem_of_mem_piece hmem hx

theorem flatMap_names (segments : List (List Char)) :
    (segments.flatMap fun segment => Path.names [segment]) = Path.names segments := by
  induction segments with
  | nil => rfl
  | cons segment rest ih =>
      rw [List.flatMap_cons, ih, ← Path.names_append]
      rfl

/-- The directories of a package are called like its segments. -/
theorem packagePath_names {package : String} (h : '/' ∉ package.toList) :
    (packagePath package).IsPlain ∧ pieces (packagePath package) = packageNames package := by
  have hslash : ∀ segment ∈ package.toList.splitOn '.', '/' ∉ (String.ofList segment).toList := by
    intro segment hsegment hmem
    rw [String.toList_ofList] at hmem
    exact h (Text.mem_of_mem_piece hsegment hmem).1
  have hplain : ∀ t ∈ (package.toList.splitOn '.').map String.ofList, Path.IsPlain ⟨t⟩ := by
    intro t ht
    obtain ⟨segment, hsegment, rfl⟩ := List.mem_map.mp ht
    refine Path.isPlain_of_notMem (hslash segment hsegment) fun hdot => ?_
    have hmem : '.' ∈ (String.ofList segment).toList := by
      rw [hdot]
      decide
    rw [String.toList_ofList] at hmem
    exact (Text.mem_of_mem_piece hsegment hmem).2 rfl
  have hpieces : ∀ segment ∈ package.toList.splitOn '.',
      pieces ⟨String.ofList segment⟩ = Path.names [segment] := by
    intro segment hsegment
    rw [Path.pieces_of_notMem (hslash segment hsegment), String.toList_ofList]
  obtain ⟨hhead, hall⟩ := Path.foldl_child hplain ⟨""⟩
  refine ⟨hhead, ?_⟩
  rw [packagePath, Path.ofSegments, hall, List.flatMap_map, List.flatMap_congr hpieces,
    flatMap_names]
  rfl

/-! ## Directories -/

theorem beq_role (a b : Role) : (a == b) = decide (a = b) := rfl

/-- The directories of a backend by their roles. -/
theorem backend_directory (destination : Path) (project package : String) (role : Role) :
    (backend destination project package).directory role =
      let root := (backend destination project package).root
      let sources := (root.child "src/main/java").join (packagePath package)
      match role with
      | .sources => sources
      | .model => sources.child "model"
      | .repository => sources.child "repository"
      | .service => sources.child "service"
      | .controller => sources.child "controller"
      | .exception => sources.child "exception"
      | .resources => root.child "src/main/resources"
      | .testSources => (root.child "src/test/java").join (packagePath package)
      | .root | .frontendSources | .components => root := by
  cases role <;> simp [directory, backend, List.lookup_cons, beq_role]

/-- A backend begins with its root and its sources. -/
theorem backend_paths (destination : Path) (project package : String) :
    ∃ rest, (backend destination project package).paths = destination.child project ::
      ((destination.child project).child "src/main/java").join (packagePath package) :: rest :=
  ⟨_, rfl⟩

/-- The directories of a frontend by their roles. -/
theorem frontend_directory (destination : Path) (project : String) (role : Role) :
    (frontend destination project).directory role =
      let root := (frontend destination project).root
      match role with
      | .frontendSources => root.child "src"
      | .components => (root.child "src").child "components"
      | _ => root := by
  cases role <;> simp [directory, frontend, List.lookup_cons, beq_role]

/-- A frontend begins with its root. -/
theorem frontend_paths (destination : Path) (project : String) :
    ∃ rest, (frontend destination project).paths =
      (destination.child project).child "frontend" :: rest :=
  ⟨_, rfl⟩

/-- The names from the root of a project down to the directory of a role, in a package of these
names. -/
def roleNames (package : List String) : Mode → Role → List String
  | .backend, .sources => ["src", "main", "java"] ++ package
  | .backend, .model => ["src", "main", "java"] ++ package ++ ["model"]
  | .backend, .repository => ["src", "main", "java"] ++ package ++ ["repository"]
  | .backend, .service => ["src", "main", "java"] ++ package ++ ["service"]
  | .backend, .controller => ["src", "main", "java"] ++ package ++ ["controller"]
  | .backend, .exception => ["src", "main", "java"] ++ package ++ ["exception"]
  | .backend, .resources => ["src", "main", "resources"]
  | .backend, .testSources => ["src", "test", "java"] ++ package
  | .frontend, .frontendSources => ["src"]
  | .frontend, .components => ["src", "components"]
  | _, _ => []

/-- The names of directories that do not come from the package. -/
def fixedNames : List String :=
  ["src", "main", "java", "test", "resources", "model", "repository", "service", "controller",
   "exception", "components"]

theorem mem_roleNames {package : List String} {mode : Mode} {role : Role} {n : String}
    (h : n ∈ roleNames package mode role) : n ∈ fixedNames ∨ n ∈ package := by
  have haround : ∀ before after : List String, (∀ n ∈ before ++ after, n ∈ fixedNames) →
      n ∈ before ++ package ++ after → n ∈ fixedNames ∨ n ∈ package := by
    intro before after hfixed hn
    rcases List.mem_append.mp hn with hn | hafter
    · rcases List.mem_append.mp hn with hbefore | hpackage
      · exact .inl (hfixed n (List.mem_append_left _ hbefore))
      · exact .inr hpackage
    · exact .inl (hfixed n (List.mem_append_right _ hafter))
  have hsources := haround ["src", "main", "java"]
  cases mode with
  | frontend =>
      have hall : ∀ n ∈ ["src", "components"], n ∈ fixedNames := by decide
      cases role with
      | frontendSources => exact .inl (hall n (List.mem_singleton.mp h ▸ List.mem_cons_self))
      | components => exact .inl (hall n h)
      | _ => cases h
  | backend =>
      cases role with
      | sources => exact hsources [] (by decide) (List.mem_append_left [] h)
      | model => exact hsources ["model"] (by decide) h
      | repository => exact hsources ["repository"] (by decide) h
      | service => exact hsources ["service"] (by decide) h
      | controller => exact hsources ["controller"] (by decide) h
      | exception => exact hsources ["exception"] (by decide) h
      | resources =>
          have hall : ∀ n ∈ ["src", "main", "resources"], n ∈ fixedNames := by decide
          exact .inl (hall n h)
      | testSources =>
          exact haround ["src", "test", "java"] [] (by decide) (List.mem_append_left [] h)
      | root | frontendSources | components => cases h

/-- A directory is the root, or within it by the names of its role. -/
def Placed (l : Layout) (role : Role) (ns : List String) : Prop :=
  l.directory role = l.root ∧ ns = [] ∨ Path.Within l.root (l.directory role) ns

/-- The names of directories can be joined to a path and come out as they are. -/
theorem fixedNames_plain {n : String} (h : n ∈ fixedNames) :
    Path.IsPlain ⟨n⟩ ∧ pieces ⟨n⟩ = [n] := by
  have hall : ∀ n ∈ fixedNames, '/' ∉ n.toList ∧ n ≠ "." ∧ n ≠ "" := by decide
  obtain ⟨hslash, hdot, hne⟩ := hall n h
  exact ⟨Path.isPlain_of_notMem hslash hdot, Path.pieces_name hslash hne⟩

theorem within_fixed {base p : Path} {ns : List String} (h : Path.Within base p ns) {n : String}
    (hn : n ∈ fixedNames) : Path.Within base (p.child n) (ns ++ [n]) := by
  obtain ⟨hplain, hpieces⟩ := fixedNames_plain hn
  rw [← hpieces]
  exact h.child hplain

theorem backend_placed (destination : Path) (project : String) {package : String}
    (h : '/' ∉ package.toList) (role : Role) :
    (backend destination project package).Placed role
      (roleNames (packageNames package) .backend role) := by
  obtain ⟨hpackage, hnames⟩ := packagePath_names h
  have hbelow : ∀ text ∈ ["src/main/java", "src/main/resources", "src/test/java"],
      Path.IsPlain ⟨text⟩ ∧ text ≠ "" := by decide
  have hwithin : ∀ text ∈ ["src/main/java", "src/main/resources", "src/test/java"],
      Path.Within (backend destination project package).root
        ((backend destination project package).root.child text) (pieces ⟨text⟩) :=
    fun text htext => Path.within_child _ (hbelow text htext).1 (hbelow text htext).2
  have hmain : pieces ⟨"src/main/java"⟩ = ["src", "main", "java"] := by decide
  have htest : pieces ⟨"src/test/java"⟩ = ["src", "test", "java"] := by decide
  have hresources : pieces ⟨"src/main/resources"⟩ = ["src", "main", "resources"] := by
    decide
  have hsources := (hwithin "src/main/java" (by simp)).join hpackage
  rw [hmain, hnames] at hsources
  have htests := (hwithin "src/test/java" (by simp)).join hpackage
  rw [htest, hnames] at htests
  have hothers := hwithin "src/main/resources" (by simp)
  rw [hresources] at hothers
  unfold Placed
  rw [backend_directory]
  cases role with
  | sources => exact .inr hsources
  | model => exact .inr (within_fixed hsources (by decide))
  | repository => exact .inr (within_fixed hsources (by decide))
  | service => exact .inr (within_fixed hsources (by decide))
  | controller => exact .inr (within_fixed hsources (by decide))
  | exception => exact .inr (within_fixed hsources (by decide))
  | resources => exact .inr hothers
  | testSources => exact .inr htests
  | root => exact .inl ⟨rfl, rfl⟩
  | frontendSources => exact .inl ⟨rfl, rfl⟩
  | components => exact .inl ⟨rfl, rfl⟩

theorem frontend_placed (destination : Path) (project : String) (package : List String)
    (role : Role) :
    (frontend destination project).Placed role (roleNames package .frontend role) := by
  have hsrc : Path.Within (frontend destination project).root
      ((frontend destination project).root.child "src") ["src"] := by
    have hplain : Path.IsPlain ⟨"src"⟩ ∧ pieces ⟨"src"⟩ = ["src"] := fixedNames_plain (by decide)
    rw [← hplain.2]
    exact Path.within_child _ hplain.1 (by decide)
  unfold Placed
  rw [frontend_directory]
  cases role with
  | frontendSources => exact .inr hsrc
  | components => exact .inr (within_fixed hsrc (by decide))
  | _ => exact .inl ⟨rfl, rfl⟩

/-- The directories of a layout are those that are found by their roles. -/
theorem directory_of_mem {l : Layout} (h : (l.directories.map Prod.fst).Nodup) {q : Path}
    (hq : q ∈ l.paths) : ∃ role, l.directory role = q := by
  obtain ⟨⟨role, q⟩, hmem, rfl⟩ := List.mem_map.mp hq
  obtain ⟨before, after, hsplit⟩ := List.append_of_mem hmem
  have hfirst : role ∉ before.map Prod.fst := by
    rw [hsplit, List.map_append, List.nodup_append'] at h
    exact fun hbefore => h.2.2 hbefore List.mem_cons_self
  refine ⟨role, ?_⟩
  have hlookup : l.directories.lookup role = some q := by
    rw [List.lookup_eq_some_iff]
    refine ⟨before, after, hsplit, fun entry hentry => bne_iff_ne.mpr ?_⟩
    rintro rfl
    exact hfirst (List.mem_map_of_mem hentry)
  rw [directory, hlookup, Option.getD_some]

/-- A directory that was looked up by its role is one of the layout. -/
theorem directory_mem {l : Layout} (h : l.root ∈ l.paths) (role : Role) :
    l.directory role ∈ l.paths := by
  unfold directory
  cases hrole : l.directories.lookup role with
  | none => exact h
  | some q =>
      obtain ⟨before, after, hsplit, -⟩ := List.lookup_eq_some_iff.mp hrole
      refine List.mem_map.mpr ⟨(role, q), ?_, rfl⟩
      rw [hsplit]
      exact List.mem_append_right _ List.mem_cons_self

end Layout

namespace Job

/-- The names from the root of the project down to the directory of a role. -/
def roleNames (j : Job) (role : Role) : List String :=
  Layout.roleNames (Layout.packageNames (j.settings.basePackage j.project)) j.mode role

/-- The names from the directory of the project, which both modes share, down to the root. -/
def rootNames (j : Job) : List String :=
  match j.mode with
  | .backend => []
  | .frontend => ["frontend"]

/-- A package has the characters of its group, letters, digits and dots. -/
theorem notMem_basePackage {s : Settings} {c : Char} (hc : isAsciiAlphanumeric c = false)
    (hdot : c ≠ '.') (h : c ∉ s.backend.groupId.toList) (project : String) :
    c ∉ (s.basePackage project).toList := by
  have hsegment : c ∉ (Settings.packageSegment project).toList := fun hmem => by
    rw [alphanumeric_packageSegment project c hmem] at hc
    cases hc
  unfold Settings.basePackage
  dsimp only
  split
  · exact h
  · simp [h, hsegment, hdot]

/-- The names of directories consist of letters and digits, and of what is in the group. -/
theorem notMem_roleNames {j : Job} {c : Char} (hc : isAsciiAlphanumeric c = false)
    (h : c ≠ '.' → c ∉ j.settings.backend.groupId.toList) {role : Role} {n : String}
    (hn : n ∈ j.roleNames role) : c ∉ n.toList := by
  intro hmem
  rcases Layout.mem_roleNames hn with hfixed | hpackage
  · have hall : ∀ n ∈ Layout.fixedNames, n.toList.all isAsciiAlphanumeric = true := by
      decide
    rw [List.all_eq_true.mp (hall n hfixed) c hmem] at hc
    cases hc
  · obtain ⟨hpackage, hdot⟩ := (Layout.mem_packageNames hpackage).2 c hmem
    exact notMem_basePackage hc hdot (h hdot) j.project hpackage

theorem dot_notMem_roleNames {j : Job} {role : Role} {n : String} (hn : n ∈ j.roleNames role) :
    '.' ∉ n.toList :=
  notMem_roleNames (by decide) (fun h => absurd rfl h) hn

theorem isDots_of_notMem {n : String} (h : '.' ∉ n.toList) : isDots n = false := by
  rw [isDots, Bool.or_eq_false_iff, decide_eq_false_iff_not, decide_eq_false_iff_not]
  constructor
  · rintro rfl
    exact h (by decide)
  · rintro rfl
    exact h (by decide)

theorem isDots_of_long {n : String} (h : 2 < n.length) : isDots n = false := by
  rw [isDots, Bool.or_eq_false_iff, decide_eq_false_iff_not, decide_eq_false_iff_not]
  constructor
  · rintro rfl
    exact absurd h (by decide)
  · rintro rfl
    exact absurd h (by decide)

theorem extends_of_within {base p : Path} {ns : List String} (h : Path.Within base p ns)
    (hnames : ∀ n ∈ ns, isDots n = false) : Extends base p ns :=
  ⟨h.isAbsolute, h.pieces, hnames⟩

theorem extends_child (p : Path) {name : String} (hslash : '/' ∉ name.toList) (hne : name ≠ "")
    (hdots : isDots name = false) : Extends p (p.child name) [name] := by
  have hplain := Path.isPlain_of_notMem hslash (Disk.ne_dot_of_isDots hdots)
  refine ⟨Path.isAbsolute_child p hplain, ?_, fun n hn => ?_⟩
  · rw [Path.pieces_child p hplain, Path.pieces_name hslash hne]
  · rwa [List.mem_singleton.mp hn]

theorem root_extends (j : Job) (destination : Path) :
    Extends (destination.child j.project) (j.layout destination).root j.rootNames := by
  unfold layout rootNames
  cases j.mode with
  | backend => exact .refl _
  | frontend =>
      have hslash : '/' ∉ "frontend".toList := by decide
      exact extends_child _ hslash (by decide) (by decide)

theorem nodup_roles (j : Job) (destination : Path) :
    ((j.layout destination).directories.map Prod.fst).Nodup := by
  unfold layout
  cases j.mode with
  | backend => exact (by decide : [Role.root, .sources, .model, .repository, .service,
      .controller, .exception, .resources, .testSources].Nodup)
  | frontend => exact (by decide : [Role.root, .frontendSources, .components].Nodup)

/-- The directory of every role is made. -/
theorem directory_mem_paths (j : Job) (destination : Path) (role : Role) :
    (j.layout destination).directory role ∈ (j.layout destination).paths := by
  have hroot : (j.layout destination).root ∈ (j.layout destination).paths := by
    unfold layout
    cases j.mode <;> exact List.mem_cons_self
  exact Layout.directory_mem hroot role

theorem root_cases (j : Job) (destination : Path) :
    (j.layout destination).root = destination.child j.project ∨ j.rootNames ≠ [] := by
  unfold layout rootNames
  cases j.mode with
  | backend => exact .inl rfl
  | frontend => exact .inr (by decide)

section Directories

variable {j : Job} (h : '/' ∉ j.settings.backend.groupId.toList) (destination : Path)

include h

theorem directory_placed (role : Role) :
    (j.layout destination).Placed role (j.roleNames role) := by
  have hpackage := notMem_basePackage (by decide) (by decide) h j.project
  unfold roleNames layout
  cases j.mode with
  | backend => exact Layout.backend_placed destination j.project hpackage role
  | frontend => exact Layout.frontend_placed destination j.project _ role

/-- A directory lies below the directory of the project by the names of its role. -/
theorem directory_extends (role : Role) :
    Extends (destination.child j.project) ((j.layout destination).directory role)
      (j.rootNames ++ j.roleNames role) := by
  refine (j.root_extends destination).trans ?_
  rcases directory_placed h destination role with ⟨hroot, hnil⟩ | hwithin
  · rw [hroot, hnil]
    exact .refl _
  · exact extends_of_within hwithin fun n hn => isDots_of_notMem (dot_notMem_roleNames hn)

/-- The directories of a layout lie below the directory of the project, unless they are that
directory. -/
theorem paths_extend {q : Path} (hq : q ∈ (j.layout destination).paths) :
    q = destination.child j.project ∨
      ∃ ns, ns ≠ [] ∧ Extends (destination.child j.project) q ns := by
  obtain ⟨role, rfl⟩ := Layout.directory_of_mem (j.nodup_roles destination) hq
  rcases directory_placed h destination role with ⟨hroot, -⟩ | hwithin
  · rcases j.root_cases destination with hbase | hne
    · exact .inl (hroot.trans hbase)
    · exact .inr ⟨_, hne, hroot ▸ j.root_extends destination⟩
  · exact .inr ⟨_, List.append_ne_nil_of_right_ne_nil _ hwithin.ne_nil,
      directory_extends h destination role⟩

/-- What is seen of a directory from the root does not depend on the destination. -/
theorem directory_seen (role : Role) :
    Path.Seen (j.layout destination).root ((j.layout destination).directory role)
      (j.roleNames role) := by
  rcases directory_placed h destination role with ⟨hroot, hnil⟩ | hwithin
  · rw [hroot, hnil]
    exact Path.seen_self _
  · refine hwithin.seen fun n hn => ?_
    exact Disk.ne_dot_of_isDots (isDots_of_notMem (dot_notMem_roleNames hn))

/-- A file lies below the directory of its role by its name. -/
theorem path_extends (kind : ArtifactKind) {fileName : String} (hslash : '/' ∉ fileName.toList)
    (hne : fileName ≠ "") (hdots : isDots fileName = false) :
    Extends (destination.child j.project)
        ((j.layout destination).root.join (j.relativePath kind fileName))
        (j.rootNames ++ (j.roleNames (kind.role j.mode) ++ [fileName])) ∧
      Disk.endsInSlash ((j.layout destination).root.join (j.relativePath kind fileName)) =
        false := by
  obtain ⟨p, hp, hplain, hpieces⟩ := directory_seen h ⟨""⟩ (kind.role j.mode)
  have hname := Path.isPlain_of_notMem hslash (Disk.ne_dot_of_isDots hdots)
  have hpath : j.relativePath kind fileName = p.child fileName := by
    rw [relativePath, Layout.locate, hp]
    rfl
  have hbelow : Path.IsPlain ⟨(p.child fileName).text⟩ := Path.isPlain_child hplain hname
  have hends : Disk.endsInSlash (p.child fileName) = false := by
    rw [Path.endsInSlash_child p hname hne, Disk.endsInSlash, decide_eq_false_iff_not]
    exact fun hlast => hslash (List.mem_of_getLast? hlast)
  have htext : (p.child fileName).text ≠ "" := by
    rw [Path.child_eq p hname]
    simp [hne]
  rw [hpath]
  refine ⟨(j.root_extends destination).trans ⟨Path.isAbsolute_child _ hbelow, ?_, ?_⟩, ?_⟩
  · refine (Path.pieces_child _ hbelow).trans ?_
    rw [show pieces ⟨(p.child fileName).text⟩ = _ from Path.pieces_child p hname, hpieces,
      Path.pieces_name hslash hne]
  · intro n hn
    rcases List.mem_append.mp hn with hn | hn
    · exact isDots_of_notMem (dot_notMem_roleNames hn)
    · rwa [List.mem_singleton.mp hn]
  · exact (Path.endsInSlash_child _ hbelow htext).trans hends

end Directories

/-! ## Files -/

/-- The name of a planned file. -/
def fileName (j : Job) (f : PlannedFile) : String :=
  match f.className with
  | none => j.projectFileName f.kind
  | some name => classFileName name f.kind

/-- What the file of a kind is called, for the project or for a class. -/
def nameOf (j : Job) (kind : ArtifactKind) : Option String → String
  | none => j.projectFileName kind
  | some name => classFileName name kind

/-- A kind is planned for the project, or for the classes and there is one of that name. -/
def Plans (j : Job) (kind : ArtifactKind) (className : Option String) : Prop :=
  className = none ∧ kind ∈ j.mode.projectKinds ∨
    ∃ c ∈ j.model.classes, className = some c.name ∧ kind ∈ j.mode.classKinds

theorem fileName_eq (j : Job) (f : PlannedFile) : j.fileName f = j.nameOf f.kind f.className := by
  unfold fileName
  cases f.className <;> rfl

/-- A file of the plan belongs to the project or to a class, and lies where its kind does. -/
theorem mem_files {j : Job} {f : PlannedFile} (h : f ∈ j.fullPlan.files) :
    f.path = j.relativePath f.kind (j.fileName f) ∧ j.Plans f.kind f.className := by
  rw [files_fullPlan, List.mem_append] at h
  rcases h with h | h
  · obtain ⟨kind, hkind, rfl⟩ := List.mem_map.mp h
    exact ⟨rfl, .inl ⟨rfl, hkind⟩⟩
  · obtain ⟨c, hc, hmem⟩ := List.mem_flatMap.mp h
    obtain ⟨kind, hkind, rfl⟩ := List.mem_map.mp hmem
    exact ⟨rfl, .inr ⟨c, hc, rfl, (List.mem_filter.mp hkind).1⟩⟩

/-- What is behind the name of a class in the name of a file. -/
def classEnding : ArtifactKind → String
  | .repository => "Repository.java"
  | .service => "Service.java"
  | .controller => "Controller.java"
  | .component => "Form.vue"
  | _ => ".java"

theorem classFileName_eq (className : String) (kind : ArtifactKind) :
    classFileName className kind = className ++ classEnding kind := by
  cases kind with
  | component => exact String.append_assoc
  | _ => rfl

/-- A text of letters, digits and dots, with a dot in it and longer than two characters. -/
def isEnding (text : String) : Bool :=
  text.toList.all (fun c => isAsciiAlphanumeric c || c == '.') && text.toList.contains '.' &&
    2 < text.length

/-- The names of files that do not depend on the project. -/
def projectFileNames : List String :=
  ["pom.xml", "application.properties", "ResourceNotFoundException.java", "package.json", ".env",
   "index.html", "vite.config.js", "App.vue", "main.js", "router.js"]

theorem projectFileName_cases {j : Job} {kind : ArtifactKind} (h : kind ∈ j.mode.projectKinds) :
    j.projectFileName kind = Naming.applicationClass j.project ++ ".java" ∨
      j.projectFileName kind ∈ projectFileNames := by
  obtain ⟨model, settings, mode, project⟩ := j
  cases mode <;> cases kind <;>
    simp [Mode.projectKinds, projectFileName, projectFileName?, projectFileNames] at h ⊢

theorem isEnding_spec {ending : String} (h : isEnding ending = true) :
    (∀ c ∈ ending.toList, isAsciiAlphanumeric c = true ∨ c = '.') ∧ '.' ∈ ending.toList ∧
      2 < ending.length := by
  simpa [isEnding, and_assoc] using h

section Names

variable {j : Job} {kind : ArtifactKind} {className : Option String}
  (hplans : j.Plans kind className)

include hplans

/-- The name of a file is a name that was given, if any, and an ending. -/
theorem nameOf_ends :
    ∃ before ending, j.nameOf kind className = before ++ ending ∧ isEnding ending = true ∧
      ∀ c ∈ before.toList, isAsciiAlphanumeric c = true ∨
        ∃ cl ∈ j.model.classes, c ∈ cl.name.toList := by
  rcases hplans with ⟨rfl, hkind⟩ | ⟨cl, hcl, rfl, hkind⟩
  · unfold nameOf
    rcases projectFileName_cases hkind with hname | hname
    · exact ⟨_, _, hname, by decide, fun c hc =>
        .inl (alphanumeric_applicationClass j.project c hc)⟩
    · have hall : ∀ name ∈ projectFileNames, isEnding name = true := by decide
      exact ⟨"", _, String.empty_append.symm, hall _ hname, nofun⟩
  · refine ⟨cl.name, classEnding kind, classFileName_eq _ _, ?_, fun c hc => .inr ⟨cl, hcl, hc⟩⟩
    have hall : ∀ kind, isEnding (classEnding kind) = true := by
      intro kind
      cases kind <;> decide
    exact hall kind

/-- The names of files consist of letters, digits and dots, and of what is in the names of the
classes. -/
theorem notMem_nameOf {c : Char} (hc : isAsciiAlphanumeric c = false) (hdot : c ≠ '.')
    (h : ∀ cl ∈ j.model.classes, c ∉ cl.name.toList) : c ∉ (j.nameOf kind className).toList := by
  obtain ⟨before, ending, hname, hending, hbefore⟩ := nameOf_ends hplans
  rw [hname, String.toList_append, List.mem_append]
  rintro (hmem | hmem)
  · rcases hbefore c hmem with hletter | ⟨cl, hcl, hmem⟩
    · rw [hletter] at hc
      cases hc
    · exact h cl hcl hmem
  · rcases (isEnding_spec hending).1 c hmem with hletter | rfl
    · rw [hletter] at hc
      cases hc
    · exact hdot rfl

theorem dot_mem_nameOf : '.' ∈ (j.nameOf kind className).toList := by
  obtain ⟨before, ending, hname, hending, -⟩ := nameOf_ends hplans
  rw [hname, String.toList_append]
  exact List.mem_append_right _ (isEnding_spec hending).2.1

theorem nameOf_ne_empty : j.nameOf kind className ≠ "" := by
  intro hempty
  have hdot := dot_mem_nameOf hplans
  rw [hempty] at hdot
  cases hdot

theorem isDots_nameOf : isDots (j.nameOf kind className) = false := by
  obtain ⟨before, ending, hname, hending, -⟩ := nameOf_ends hplans
  have hlong := (isEnding_spec hending).2.2
  refine isDots_of_long ?_
  rw [hname, String.length_append]
  omega

end Names

section Files

variable {j : Job} {f : PlannedFile} (hf : f ∈ j.fullPlan.files)

include hf

theorem notMem_fileName {c : Char} (hc : isAsciiAlphanumeric c = false) (hdot : c ≠ '.')
    (h : ∀ cl ∈ j.model.classes, c ∉ cl.name.toList) : c ∉ (j.fileName f).toList := by
  rw [fileName_eq]
  exact notMem_nameOf (mem_files hf).2 hc hdot h

theorem dot_mem_fileName : '.' ∈ (j.fileName f).toList := by
  rw [fileName_eq]
  exact dot_mem_nameOf (mem_files hf).2

theorem fileName_ne_empty : j.fileName f ≠ "" := by
  rw [fileName_eq]
  exact nameOf_ne_empty (mem_files hf).2

theorem isDots_fileName : isDots (j.fileName f) = false := by
  rw [fileName_eq]
  exact isDots_nameOf (mem_files hf).2

/-- A file lies below the directory of its role by its name. -/
theorem file_extends (hgroup : '/' ∉ j.settings.backend.groupId.toList)
    (hclasses : ∀ cl ∈ j.model.classes, '/' ∉ cl.name.toList) (destination : Path) :
    Extends (destination.child j.project) ((j.layout destination).root.join f.path)
        (j.rootNames ++ (j.roleNames (f.kind.role j.mode) ++ [j.fileName f])) ∧
      Disk.endsInSlash ((j.layout destination).root.join f.path) = false := by
  have hslash := notMem_fileName hf (by decide) (by decide) hclasses
  rw [(mem_files hf).1]
  exact path_extends hgroup destination f.kind hslash (fileName_ne_empty hf) (isDots_fileName hf)

/-- The files of a plan lie below the directory of the project by different names in the two modes:
those of a backend begin with `src` or are the build file. -/
theorem head?_backend (hmode : j.mode = .backend) :
    (j.rootNames ++ (j.roleNames (f.kind.role j.mode) ++ [j.fileName f])).head? = some "src" ∨
      (j.rootNames ++ (j.roleNames (f.kind.role j.mode) ++ [j.fileName f])).head? =
        some "pom.xml" := by
  obtain ⟨-, hkinds⟩ := mem_files hf
  unfold rootNames roleNames fileName projectFileName projectFileName?
  simp only [Plans, hmode, Mode.projectKinds, Mode.classKinds, List.mem_cons, List.not_mem_nil,
    or_false] at hkinds ⊢
  rcases hkinds with ⟨hnone, hkind⟩ | ⟨c, -, hsome, hkind⟩
  · rw [hnone]
    rcases hkind with h | h | h | h <;> rw [h]
    · exact .inr rfl
    · exact .inl rfl
    · exact .inl rfl
    · exact .inl rfl
  · rcases hkind with h | h | h | h <;> rw [h] <;> exact .inl rfl

end Files

theorem head?_frontend {j : Job} (hmode : j.mode = .frontend) (ns : List String) :
    (j.rootNames ++ ns).head? = some "frontend" := by
  rw [rootNames, hmode]
  rfl

end Job

end CrudStack
