/-
# `CrudStack.Proofs.Run.Fresh` — a run into an empty directory is complete and exact

In an empty directory nothing of a run can be blocked but by the run itself: by a file of its own
where a directory of its own is due, or by two files in one place.  Neither happens.  The names of
directories have no dot and those of files have one, but for the name of the project, which stands
before both; so there is room (`room_of_empty`).  And different files have different places
(`Job.nodup_places`), so that each keeps its own content.

Main statement: `fresh_run`.
-/
import CrudStack.Proofs.Layout.Apart
import CrudStack.Proofs.Plan.Sequence
import CrudStack.Proofs.Run.Building

namespace CrudStack

open Disk

/-! ## What is asked of a run -/

/-- The names that come from outside can be names of files. -/
structure Job.Named (j : Job) : Prop where
  classes : ∀ c ∈ j.model.classes, '/' ∉ c.name.toList ∧ '\x00' ∉ c.name.toList
  group : '/' ∉ j.settings.backend.groupId.toList ∧ '\x00' ∉ j.settings.backend.groupId.toList
  /-- The name of the project is one part of a path, and a name. -/
  project : (⟨j.project⟩ : Path).parts = [.name j.project]
  projectNul : '\x00' ∉ j.project.toList

/-- The paths of all directories and files of a job. -/
def Job.targets (j : Job) (destination : Path) : List Path :=
  (j.layout destination).paths ++
    j.fullPlan.files.map fun f => (j.layout destination).root.join f.path

/-- No path is too long, and no name in it. -/
structure Job.Fits (j : Job) (destination : Path) : Prop where
  paths : ∀ q ∈ j.targets destination, q.text.utf8ByteSize < pathLimit
  names : ∀ q ∈ j.targets destination, ∀ n ∈ pieces q, n.utf8ByteSize ≤ nameLimit

/-- No name in a path is longer than the path. -/
theorem size_of_mem_pieces {q : Path} {n : String} (h : n ∈ pieces q) :
    n.utf8ByteSize ≤ q.text.utf8ByteSize := by
  obtain ⟨piece, hpiece, rfl⟩ := List.mem_map.mp h
  obtain ⟨before, after, htext⟩ :=
    Text.infix_of_mem_splitOn (List.mem_filter.mp hpiece).1
  have hparts : q.text = String.ofList before ++ String.ofList piece ++ String.ofList after := by
    rw [← String.toList_inj, ← htext]
    simp
  rw [hparts, String.utf8ByteSize_append, String.utf8ByteSize_append]
  omega

/-- A job fits if no path is longer than a name may be. -/
theorem Job.fits_of_short {j : Job} {destination : Path}
    (h : ∀ q ∈ j.targets destination, q.text.utf8ByteSize ≤ nameLimit) : j.Fits destination where
  paths := fun q hq => (h q hq).trans_lt (by decide)
  names := fun q hq _ hn => (size_of_mem_pieces hn).trans (h q hq)

/-- A path leads to a directory with nothing in it. -/
structure Disk.EmptyDirectory (d : Disk) (p : Path) (t : Location) : Prop where
  check : checkPath p = .ok ()
  walk : d.walk (d.start p) (pieces p) = .ok t
  directory : d.get? t = some .directory
  nothing : ∀ l, t <+: l → l ≠ t → d.get? l = none

/-! ## Room in an empty directory -/

theorem below_of_empty {d : Disk} {p : Path} {t : Location} (h : d.EmptyDirectory p t) :
    Below d t [] p :=
  ⟨h.check, nofun, nofun, h.directory, pieces p, (List.append_nil _).symm, h.walk⟩

/-- In an empty directory there is room for directories and files that are told apart by dots, even
if all of them are below a name that may have dots of its own. -/
theorem room_of_empty {d : Disk} {p : Path} {t : Location} (h : d.EmptyDirectory p t)
    (project : String) {ks : List Location} {ws : List Write}
    (hks : ∀ k ∈ ks, ∃ ms, k = t ++ project :: ms ∧ ∀ m ∈ ms, '.' ∉ m.toList)
    (hws : ∀ w ∈ ws, ∃ ns name, w.1 = t ++ project :: (ns ++ [name]) ∧ '.' ∈ name.toList) :
    Room (Under t ks) ws d := by
  refine ⟨fun l ⟨k, _, hl⟩ content hfile => ?_, fun w hw hdir => ?_, fun w hw ⟨k, hk, hl⟩ => ?_⟩
  · rw [h.nothing l hl.1 hl.2.1] at hfile
    cases hfile
  · obtain ⟨ns, name, hplace, -⟩ := hws w hw
    rw [h.nothing w.1 (hplace ▸ List.prefix_append _ _) (by simp [hplace])] at hdir
    cases hdir
  · obtain ⟨ms, rfl, hms⟩ := hks k hk
    obtain ⟨ns, name, hplace, hname⟩ := hws w hw
    have hway := hl.2.2
    rw [hplace, List.prefix_append_right_inj, List.cons_prefix_cons] at hway
    exact hms name (hway.2.subset (by simp)) hname

/-! ## The paths of a job -/

namespace Job

variable {j : Job} {destination : Path} {d : Disk} {t : Location}

/-- The names of directories are free of dots, and of all other characters that are no letters or
digits if the group is. -/
theorem notMem_directoryNames {c : Char} (hc : Text.isAsciiAlphanumeric c = false)
    (h : c ≠ '.' → c ∉ j.settings.backend.groupId.toList) {role : Role} {n : String}
    (hn : n ∈ j.rootNames ++ j.roleNames role) : c ∉ n.toList := by
  rcases List.mem_append.mp hn with hn | hn
  · intro hmem
    have hroot : ∀ n ∈ j.rootNames, n.toList.all Text.isAsciiAlphanumeric = true := by
      unfold rootNames
      cases j.mode <;> decide
    rw [List.all_eq_true.mp (hroot n hn) c hmem] at hc
    cases hc
  · exact notMem_roleNames hc h hn

section Named

variable (hnamed : j.Named)

include hnamed

theorem Named.slash : ∀ c ∈ j.model.classes, '/' ∉ c.name.toList := fun c hc =>
  (hnamed.classes c hc).1

/-- The directory of the project lies below the destination by its name. -/
theorem Named.extends (destination : Path) :
    Extends destination (destination.child j.project) [j.project] := by
  obtain ⟨hslash, hne, hdots⟩ := Path.name_of_parts hnamed.project
  exact extends_child destination hslash hne hdots

theorem Named.directory (destination : Path) (role : Role) :
    Extends destination ((j.layout destination).directory role)
      (j.project :: (j.rootNames ++ j.roleNames role)) :=
  (hnamed.extends destination).trans (directory_extends hnamed.group.1 destination role)

theorem Named.file {f : PlannedFile} (hf : f ∈ j.fullPlan.files) (destination : Path) :
    Extends destination ((j.layout destination).root.join f.path)
      (j.project :: (j.rootNames ++ j.roleNames (f.kind.role j.mode) ++ [j.fileName f])) := by
  have hfile := (hnamed.extends destination).trans
    (file_extends hf hnamed.group.1 hnamed.slash destination).1
  rwa [← List.append_assoc j.rootNames] at hfile

end Named

section Empty

variable (hnamed : j.Named) (hfits : j.Fits destination) (hempty : d.EmptyDirectory destination t)

include hfits hempty

/-- A path of the job leads down from the empty directory. -/
theorem below_of_target {q : Path} (hq : q ∈ j.targets destination) {ns : List String}
    (h : Extends destination q ns) (hnul : ∀ n ∈ ns, '\x00' ∉ n.toList) : Below d t ns q := by
  refine (below_of_empty hempty).extend h (checkPath_eq_ok.mpr ⟨fun hmem => ?_, hfits.paths q hq⟩)
    fun n hn => hfits.names q hq n (h.pieces ▸ List.mem_append_right _ hn)
  rcases Path.mem_text hmem with hslash | ⟨n, hn, hmem⟩
  · cases hslash
  · rw [h.pieces] at hn
    rcases List.mem_append.mp hn with hn | hn
    · exact (checkPath_eq_ok.mp hempty.check).1 (Path.mem_of_mem_pieces hn hmem)
    · exact hnul n hn hmem

include hnamed

theorem below_directory (role : Role) :
    Below d t (j.project :: (j.rootNames ++ j.roleNames role))
      ((j.layout destination).directory role) := by
  refine below_of_target hfits hempty
    (List.mem_append_left _ (directory_mem_paths j destination role))
    (hnamed.directory destination role) fun n hn => ?_
  rcases List.mem_cons.mp hn with rfl | hn
  · exact hnamed.projectNul
  · exact notMem_directoryNames (by decide) (fun _ => hnamed.group.2) hn

theorem below_file {f : PlannedFile} (hf : f ∈ j.fullPlan.files) :
    Below d t (j.project :: (j.rootNames ++ j.roleNames (f.kind.role j.mode) ++ [j.fileName f]))
      ((j.layout destination).root.join f.path) := by
  have hmem : (j.layout destination).root.join f.path ∈ j.targets destination :=
    List.mem_append_right _ (List.mem_map.mpr ⟨f, hf, rfl⟩)
  refine below_of_target hfits hempty hmem (hnamed.file hf destination) fun n hn => ?_
  rcases List.mem_cons.mp hn with rfl | hn
  · exact hnamed.projectNul
  rcases List.mem_append.mp hn with hn | hn
  · exact notMem_directoryNames (by decide) (fun _ => hnamed.group.2) hn
  · rw [List.mem_singleton.mp hn]
    exact notMem_fileName hf (by decide) (by decide) fun c hc => (hnamed.classes c hc).2

/-- All paths of the job lead down from the empty directory. -/
theorem laid_of_empty : j.Laid j.fullPlan destination d t := by
  refine ⟨fun q hq => ?_, fun e he => ?_⟩
  · obtain ⟨role, rfl⟩ := Layout.directory_of_mem (j.nodup_roles destination) hq
    exact ⟨_, below_directory hnamed hfits hempty role⟩
  · cases e with
    | skip s => trivial
    | file f =>
        have hf : f ∈ j.fullPlan.files := List.mem_filterMap.mpr ⟨_, he, rfl⟩
        exact ⟨(file_extends hf hnamed.group.1 hnamed.slash destination).2, j.project :: _, _,
          below_file hnamed hfits hempty hf⟩

/-- The directories that a run needs are those of the layout. -/
theorem mem_places {k : Location} (hk : k ∈ j.places j.fullPlan destination d) :
    ∃ role, k = d.locate ((j.layout destination).directory role) := by
  rcases List.mem_append.mp hk with hk | hk
  · obtain ⟨q, hq, rfl⟩ := List.mem_map.mp hk
    obtain ⟨role, rfl⟩ := Layout.directory_of_mem (j.nodup_roles destination) hq
    exact ⟨role, rfl⟩
  · obtain ⟨e, he, hplace⟩ := List.mem_filterMap.mp hk
    cases e with
    | skip s => cases hplace
    | file f =>
        have hf : f ∈ j.fullPlan.files := List.mem_filterMap.mpr ⟨_, he, rfl⟩
        refine ⟨f.kind.role j.mode, ?_⟩
        rw [← Option.some.inj hplace, (below_file hnamed hfits hempty hf).locate,
          (below_directory hnamed hfits hempty _).locate, ← List.cons_append, ← List.append_assoc,
          List.dropLast_concat]

theorem places_names {k : Location} (hk : k ∈ j.places j.fullPlan destination d) :
    ∃ ms, k = t ++ j.project :: ms ∧ ∀ m ∈ ms, '.' ∉ m.toList := by
  obtain ⟨role, rfl⟩ := mem_places hnamed hfits hempty hk
  exact ⟨_, (below_directory hnamed hfits hempty role).locate,
    fun m hm => notMem_directoryNames (by decide) (fun hdot => absurd rfl hdot) hm⟩

theorem writes_names {w : Write} (hw : w ∈ j.writes j.fullPlan destination d) :
    ∃ ns name, w.1 = t ++ j.project :: (ns ++ [name]) ∧ '.' ∈ name.toList := by
  rw [writes, writesOf_entries] at hw
  obtain ⟨f, hf, rfl⟩ := List.mem_map.mp hw
  exact ⟨_, _, (below_file hnamed hfits hempty hf).locate, dot_mem_fileName hf⟩

theorem room_of_fresh :
    Room (Under t (j.places j.fullPlan destination d)) (j.writes j.fullPlan destination d) d :=
  room_of_empty hempty j.project (fun _ hk => places_names hnamed hfits hempty hk)
    fun _ hw => writes_names hnamed hfits hempty hw

theorem perform_of_empty :
    (j.perform j.fullPlan destination d).Builds (Under t (j.places j.fullPlan destination d))
      (j.writes j.fullPlan destination d)
      (j.fullPlan.entries.flatMap (PlanEntry.events (j.layout destination).root)) d :=
  perform_builds (laid_of_empty hnamed hfits hempty) (room_of_fresh hnamed hfits hempty)

/-! ## What is there afterwards -/

omit hfits in
theorem locate_root :
    d.locate (j.layout destination).root = t ++ j.project :: j.rootNames := by
  have hroot := (hnamed.extends destination).trans (j.root_extends destination)
  rw [hroot.locate, (below_of_empty hempty).locate, List.append_nil]
  rfl

omit hfits in
/-- At the root and below there was nothing. -/
theorem nothing_at_root {l : Location} (hl : d.locate (j.layout destination).root <+: l) :
    t <+: l ∧ l ≠ t ∧ d.get? l = none := by
  rw [locate_root hnamed hempty] at hl
  have hbelow : t <+: l := (List.prefix_append _ _).trans hl
  have hne : l ≠ t := by
    rintro rfl
    have hlength := hl.length_le
    simp only [List.length_append, List.length_cons] at hlength
    omega
  exact ⟨hbelow, hne, hempty.nothing l hbelow hne⟩

theorem files_of_empty (hdistinct : (j.model.classes.map ClassDef.name).Nodup) (l : Location)
    (content : ByteArray) :
    (d.locate (j.layout destination).root <+: l ∧
        (j.perform j.fullPlan destination d).disk.get? l = some (.file content)) ↔
      ∃ f ∈ j.fullPlan.files, l = d.locate ((j.layout destination).root.join f.path) ∧
        content = f.content.toUTF8 := by
  have hplaces := nodup_places hdistinct hnamed.group.1 hnamed.slash destination d
  rw [← map_fst_writes] at hplaces
  have hbuilt := (perform_of_empty hnamed hfits hempty).built
  rw [← files_eq_some, hbuilt.files, overwrite_of_nodup hplaces]
  constructor
  · rintro ⟨hl, hwritten | ⟨-, hbefore⟩⟩
    · rw [writes, writesOf_entries] at hwritten
      obtain ⟨f, hf, hsame⟩ := List.mem_map.mp hwritten
      exact ⟨f, hf, (Prod.mk.inj hsame).1.symm, (Prod.mk.inj hsame).2.symm⟩
    · rw [files_eq_some, (nothing_at_root hnamed hempty hl).2.2] at hbefore
      cases hbefore
  · rintro ⟨f, hf, rfl, rfl⟩
    refine ⟨?_, .inl ?_⟩
    · rw [locate_root hnamed hempty, (below_file hnamed hfits hempty hf).locate,
        List.prefix_append_right_inj, List.cons_prefix_cons, List.append_assoc]
      exact ⟨rfl, List.prefix_append _ _⟩
    · rw [writes, writesOf_entries]
      exact List.mem_map.mpr ⟨f, hf, rfl⟩

theorem found_of_empty (hdistinct : (j.model.classes.map ClassDef.name).Nodup) {f : PlannedFile}
    (hf : f ∈ j.fullPlan.files) :
    (j.perform j.fullPlan destination d).disk.lookup ((j.layout destination).root.join f.path) =
      .ok (d.locate ((j.layout destination).root.join f.path), .file f.content.toUTF8) := by
  have hbuilds := perform_of_empty hnamed hfits hempty
  obtain ⟨done, hreached⟩ := j.perform_reached j.entries_fullPlan_ne_nil destination d
  obtain rfl := hreached.finished.mp hbuilds.fault
  obtain ⟨e, he, hfile⟩ := List.mem_filterMap.mp hf
  cases e with
  | skip s => cases hfile
  | file g =>
      obtain rfl := Option.some.inj hfile
      obtain ⟨content, hlookup⟩ := lookup_of_placed (hreached.stays _ he).2
      rw [hbuilds.built.toKeeps.locate] at hlookup
      have hnow := (lookup_eq_ok.mp hlookup).2.2.2.1
      have hwritten := ((files_of_empty hnamed hfits hempty hdistinct _ _).mpr
        ⟨g, hf, rfl, rfl⟩).2
      rw [hnow] at hwritten
      cases hwritten
      exact hlookup

theorem directories_of_empty {l : Location}
    (hl : d.locate (j.layout destination).root <+: l) :
    (j.perform j.fullPlan destination d).disk.get? l = some .directory ↔
      ∃ q ∈ (j.layout destination).paths, l <+: d.locate q := by
  obtain ⟨hbelow, hne, hnone⟩ := nothing_at_root hnamed hempty hl
  rw [(perform_of_empty hnamed hfits hempty).built.made, hnone]
  constructor
  · rintro (hdirectory | ⟨k, hk, hbetween⟩)
    · cases hdirectory
    · obtain ⟨role, rfl⟩ := mem_places hnamed hfits hempty hk
      exact ⟨_, directory_mem_paths j destination role, hbetween.2.2⟩
  · rintro ⟨q, hq, hway⟩
    exact .inr ⟨_, List.mem_append_left _ (List.mem_map_of_mem hq), hbelow, hne, hway⟩

end Empty

end Job

/-! ## The whole run -/

/-- What a run into an empty directory leaves, and nothing else, at its root and below. -/
structure Exact (j : Job) (p : Plan) (destination : Path) (d : Disk) (t : Location) : Prop where
  /-- The run succeeds. -/
  outcome : (j.run destination d).outcome = .ok (j.report (j.layout destination).root p)
  root : d.locate (j.layout destination).root = t ++ j.project :: j.rootNames
  /-- The files of the plan lie at different places, so there are as many. -/
  places : (p.files.map fun f => d.locate ((j.layout destination).root.join f.path)).Nodup
  count :
    match j.mode with
    | .backend => p.files.length = 4 + 4 * j.model.classes.length
    | .frontend => p.files.length = 7 + j.model.classes.countP ClassDef.hasAttributes
  /-- The files at the root and below are those of the plan, with their contents. -/
  files : ∀ l content,
    (d.locate (j.layout destination).root <+: l ∧
        (j.run destination d).disk.get? l = some (.file content)) ↔
      ∃ f ∈ p.files, l = d.locate ((j.layout destination).root.join f.path) ∧
        content = f.content.toUTF8
  /-- Their paths lead to them. -/
  found : ∀ f ∈ p.files,
    (j.run destination d).disk.lookup ((j.layout destination).root.join f.path) =
      .ok (d.locate ((j.layout destination).root.join f.path), .file f.content.toUTF8)
  /-- The directories at the root and below are those of the layout and those around them. -/
  directories : ∀ l, d.locate (j.layout destination).root <+: l →
    ((j.run destination d).disk.get? l = some .directory ↔
      ∃ q ∈ (j.layout destination).paths, l <+: d.locate q)

/-- A run into an empty directory succeeds, whatever the names are as long as they can be names of
files and those of the classes differ, and what it leaves is exactly what was planned. -/
theorem fresh_run {j : Job} {destination : Path} {d : Disk} {t : Location}
    (hdistinct : (j.model.classes.map ClassDef.name).Nodup) (hnamed : j.Named)
    (hfits : j.Fits destination) (hempty : d.EmptyDirectory destination t) :
    ∃ p, j.plan = .ok p ∧ Exact j p destination d t := by
  have hdone := Job.run_of_done (Job.perform_of_empty hnamed hfits hempty).fault
  refine ⟨j.fullPlan, j.plan_eq_ok, ?_⟩
  exact
    { outcome := by rw [hdone]
      root := Job.locate_root hnamed hempty
      places := Job.nodup_places hdistinct hnamed.group.1 hnamed.slash destination d
      count := by
        split
        · exact (counts_fullPlan_backend ‹_›).1
        · exact (counts_fullPlan_frontend ‹_›).1
      files := by
        rw [hdone]
        exact Job.files_of_empty hnamed hfits hempty hdistinct
      found := by
        rw [hdone]
        exact fun f hf => Job.found_of_empty hnamed hfits hempty hdistinct hf
      directories := by
        rw [hdone]
        exact fun l hl => Job.directories_of_empty hnamed hfits hempty hl }

/-- A stock of books. -/
def stockJob (mode : Mode) : Job :=
  ⟨⟨[⟨"Book", [.attr ⟨"title", "text"⟩]⟩]⟩, { backend := { groupId := "org" } }, mode, "lib"⟩

theorem named_stock (mode : Mode) : (stockJob mode).Named := by
  have hproject : (⟨"lib"⟩ : Path).parts = [.name "lib"] := by decide +kernel
  have hbook : ∀ c ∈ (stockJob .backend).model.classes,
      '/' ∉ c.name.toList ∧ '\x00' ∉ c.name.toList := by decide
  have hgroup : '/' ∉ "org".toList ∧ '\x00' ∉ "org".toList := by decide
  have hnul : '\x00' ∉ "lib".toList := by decide
  exact ⟨hbook, hgroup, hproject, hnul⟩

theorem fits_stock (mode : Mode) : (stockJob mode).Fits ⟨""⟩ := by
  cases mode with
  | backend => exact Job.fits_of_short (by decide +kernel)
  | frontend => exact Job.fits_of_short (by decide +kernel)

/-- The disk of a new machine has an empty working directory. -/
theorem empty_stock : Disk.empty.EmptyDirectory ⟨""⟩ ["work"] := by
  refine ⟨by decide +kernel, by decide +kernel, by decide, fun l hl hne => ?_⟩
  have hnil : l ≠ [] := by
    rintro rfl
    simp at hl
  rw [get?_of_ne_nil _ hnil]
  exact lookup_cons_of_ne hne _ _

theorem fresh_stock :
    ∃ p, (stockJob .backend).plan = .ok p ∧
      Exact (stockJob .backend) p ⟨""⟩ .empty ["work"] :=
  fresh_run (by decide) (named_stock .backend) (fits_stock .backend) empty_stock

end CrudStack
