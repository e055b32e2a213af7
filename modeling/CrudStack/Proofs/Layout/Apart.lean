/-
# `CrudStack.Proofs.Layout.Apart` — different entries have different places

An entry of a plan, written or skipped, is known by its kind and, if it has one, by its class
(`PlanEntry.key`).  When the classes have different names no two entries of a plan agree in both
(`nodup_keys`), and both can be read off the place of an entry: the directory and the name tell the
kind, and the name tells the class (`key_of_place`).  So no two entries share a place, for every
package and every project.

Nor is one place on the way to another: the names of files have a dot, which those of directories
have not.  And all places are names below the root, since a package is taken apart at its dots and
no segment of it can be `..`.

Main statement: `entries_apart`.
-/
import CrudStack.Proofs.Layout.Names
import CrudStack.Proofs.Path.Joined
import CrudStack.Proofs.Plan.Sequence

namespace CrudStack

open CrudStack.Path (Part)

namespace PlanEntry

/-- The path of an entry, from the root of the project. -/
def path : PlanEntry → Path
  | .file f => f.path
  | .skip s => s.path

/-- What an entry is about: its kind and its class. -/
def key (e : PlanEntry) : ArtifactKind × Option String := (e.label.kind, e.label.className)

end PlanEntry

namespace Job

variable {j : Job}

/-- An entry of the plan is about the project or a class, and lies where its kind does. -/
theorem mem_entries {e : PlanEntry} (he : e ∈ j.fullPlan.entries) :
    e.path = j.relativePath e.key.1 (j.nameOf e.key.1 e.key.2) ∧ j.Plans e.key.1 e.key.2 := by
  rcases List.mem_append.mp he with he | he
  · obtain ⟨kind, hkind, rfl⟩ := List.mem_map.mp he
    exact ⟨rfl, .inl ⟨rfl, hkind⟩⟩
  · obtain ⟨c, hc, hmem⟩ := List.mem_flatMap.mp he
    obtain ⟨kind, hkind, rfl⟩ := List.mem_map.mp hmem
    have hpath : (j.classEntry c kind).path = j.relativePath kind (classFileName c.name kind) := by
      unfold classEntry
      split <;> rfl
    rw [PlanEntry.key, label_classEntry]
    exact ⟨hpath, .inr ⟨c, hc, rfl, hkind⟩⟩

theorem keys_classEntries (c : ClassDef) (kinds : List ArtifactKind) :
    (kinds.map (j.classEntry c)).map PlanEntry.key = kinds.map fun kind => (kind, some c.name) := by
  rw [List.map_map]
  refine List.map_congr_left fun kind _ => ?_
  show ((j.classEntry c kind).label.kind, (j.classEntry c kind).label.className) = _
  rw [label_classEntry]

theorem nodup_classKeys {kinds : List ArtifactKind} (h : kinds.Nodup) (name : String) :
    (kinds.map fun kind => (kind, some name)).Nodup :=
  List.Nodup.map (fun _ _ e => (Prod.mk.inj e).1) h

/-- If the classes have different names, the entries of a plan are different things. -/
theorem nodup_keys (h : (j.model.classes.map ClassDef.name).Nodup) :
    (j.fullPlan.entries.map PlanEntry.key).Nodup := by
  have hproject : ((j.mode.projectKinds.map fun kind => PlanEntry.file (j.projectFile kind)).map
      PlanEntry.key).Nodup := by
    rw [List.map_map]
    exact List.Nodup.map (fun _ _ e => (Prod.mk.inj e).1) (nodup_projectKinds j.mode)
  rw [fullPlan, List.map_append, List.map_flatMap]
  simp only [keys_classEntries]
  rw [List.nodup_append', List.nodup_flatMap]
  refine ⟨hproject, ⟨fun c _ => nodup_classKeys (nodup_classKinds j.mode) c.name, ?_⟩,
    fun key hkey hmem => ?_⟩
  · refine (List.pairwise_map.mp h).imp fun {c c'} hne => ?_
    intro key hkey hkey'
    obtain ⟨_, -, rfl⟩ := List.mem_map.mp hkey
    obtain ⟨_, -, hsame⟩ := List.mem_map.mp hkey'
    exact hne (Option.some.inj (Prod.mk.inj hsame).2).symm
  · obtain ⟨c, -, hclass⟩ := List.mem_flatMap.mp hmem
    obtain ⟨_, -, rfl⟩ := List.mem_map.mp hclass
    rw [List.map_map] at hkey
    obtain ⟨_, -, hsame⟩ := List.mem_map.mp hkey
    cases hsame

/-! ## Reading a place -/

/-- In a backend every kind has a directory of its own. -/
theorem backend_kind_eq {package : List String} {kind kind' : ArtifactKind}
    (hkind : kind ∈ Mode.backend.projectKinds ++ Mode.backend.classKinds)
    (hkind' : kind' ∈ Mode.backend.projectKinds ++ Mode.backend.classKinds)
    (h : Layout.roleNames package .backend (kind.role .backend) =
      Layout.roleNames package .backend (kind'.role .backend)) : kind = kind' := by
  simp only [Mode.projectKinds, Mode.classKinds, List.cons_append, List.nil_append, List.mem_cons,
    List.not_mem_nil, or_false] at hkind hkind'
  rcases hkind with rfl | rfl | rfl | rfl | rfl | rfl | rfl | rfl <;>
    rcases hkind' with rfl | rfl | rfl | rfl | rfl | rfl | rfl | rfl <;>
      first | rfl | simp [ArtifactKind.role, Layout.roleNames] at h

/-- In a frontend the files of the project have names of their own. -/
theorem frontend_kind_eq (hmode : j.mode = .frontend) {kind kind' : ArtifactKind}
    (hkind : kind ∈ Mode.frontend.projectKinds) (hkind' : kind' ∈ Mode.frontend.projectKinds)
    (h : j.projectFileName kind = j.projectFileName kind') : kind = kind' := by
  simp only [Mode.projectKinds, List.mem_cons, List.not_mem_nil, or_false] at hkind hkind'
  simp only [projectFileName, projectFileName?, hmode] at h
  rcases hkind with rfl | rfl | rfl | rfl | rfl | rfl | rfl <;>
    rcases hkind' with rfl | rfl | rfl | rfl | rfl | rfl | rfl <;>
      first | rfl | simp at h

/-- The components have a directory of their own. -/
theorem component_apart {package : List String} {kind kind' : ArtifactKind}
    (hkind : kind ∈ Mode.frontend.projectKinds) (hkind' : kind' ∈ Mode.frontend.classKinds) :
    Layout.roleNames package .frontend (kind.role .frontend) ≠
      Layout.roleNames package .frontend (kind'.role .frontend) := by
  simp only [Mode.projectKinds, Mode.classKinds, List.mem_cons, List.not_mem_nil, or_false]
    at hkind hkind'
  subst hkind'
  rcases hkind with rfl | rfl | rfl | rfl | rfl | rfl | rfl <;>
    simp [ArtifactKind.role, Layout.roleNames]

section Places

variable {kind kind' : ArtifactKind} {className className' : Option String}
  (hplans : j.Plans kind className) (hplans' : j.Plans kind' className')

include hplans hplans'

theorem kind_eq (hroles : j.roleNames (kind.role j.mode) = j.roleNames (kind'.role j.mode))
    (hname : j.nameOf kind className = j.nameOf kind' className') : kind = kind' := by
  unfold roleNames at hroles
  cases hmode : j.mode with
  | backend =>
      have hmem : ∀ {kind className}, j.Plans kind className →
          kind ∈ Mode.backend.projectKinds ++ Mode.backend.classKinds := by
        rintro kind className (⟨-, hkind⟩ | ⟨_, -, -, hkind⟩)
        · exact List.mem_append_left _ (hmode ▸ hkind)
        · exact List.mem_append_right _ (hmode ▸ hkind)
      rw [hmode] at hroles
      exact backend_kind_eq (hmem hplans) (hmem hplans') hroles
  | frontend =>
      rw [Plans, hmode] at hplans hplans'
      rw [hmode] at hroles
      rcases hplans with ⟨rfl, hkind⟩ | ⟨_, -, rfl, hkind⟩ <;>
        rcases hplans' with ⟨rfl, hkind'⟩ | ⟨_, -, rfl, hkind'⟩
      · exact frontend_kind_eq hmode hkind hkind' hname
      · exact absurd hroles (component_apart hkind hkind')
      · exact absurd hroles.symm (component_apart hkind' hkind)
      · rw [List.mem_singleton.mp hkind, List.mem_singleton.mp hkind']

/-- The place of an entry tells what it is about. -/
theorem key_of_place
    (h : j.roleNames (kind.role j.mode) ++ [j.nameOf kind className] =
      j.roleNames (kind'.role j.mode) ++ [j.nameOf kind' className']) :
    (kind, className) = (kind', className') := by
  obtain ⟨hroles, hlast⟩ := List.append_inj' h rfl
  have hname := List.singleton_inj.mp hlast
  obtain rfl := kind_eq hplans hplans' hroles hname
  rcases hplans with ⟨rfl, hkind⟩ | ⟨c, -, rfl, hkind⟩ <;>
    rcases hplans' with ⟨rfl, hkind'⟩ | ⟨c', -, rfl, hkind'⟩
  · rfl
  · exact absurd hkind' (not_mem_classKinds hkind)
  · exact absurd hkind (not_mem_classKinds hkind')
  · simp only [nameOf, classFileName_eq] at hname
    rw [(String.append_left_inj _).mp hname]

end Places

/-- If the classes have different names, no two files of a plan share a place. -/
theorem nodup_places (hnames : (j.model.classes.map ClassDef.name).Nodup)
    (hgroup : '/' ∉ j.settings.backend.groupId.toList)
    (hclasses : ∀ c ∈ j.model.classes, '/' ∉ c.name.toList) (destination : Path) (d : Disk) :
    (j.fullPlan.files.map fun f => d.locate ((j.layout destination).root.join f.path)).Nodup := by
  have hkeys := nodup_keys hnames
  have hfiles : j.fullPlan.files.Nodup := by
    refine List.Nodup.filterMap (fun e e' f hf hf' => ?_) hkeys.of_map
    cases e <;> cases hf
    cases e' <;> cases hf'
    rfl
  refine List.Nodup.map_on (fun f hf g hg hsame => ?_) hfiles
  rw [(file_extends hf hgroup hclasses destination).1.locate,
    (file_extends hg hgroup hclasses destination).1.locate, fileName_eq, fileName_eq] at hsame
  have hplace := List.append_cancel_left (List.append_cancel_left hsame)
  have hkey := key_of_place (mem_files hf).2 (mem_files hg).2 hplace
  obtain ⟨e, he, hfile⟩ := List.mem_filterMap.mp hf
  obtain ⟨e', he', hfile'⟩ := List.mem_filterMap.mp hg
  cases e <;> cases hfile
  cases e' <;> cases hfile'
  exact PlanEntry.file.inj (List.inj_on_of_nodup_map hkeys he he' hkey)

/-! ## Paths below the root -/

section Entries

variable (hgroup : '/' ∉ j.settings.backend.groupId.toList)
  (hclasses : ∀ c ∈ j.model.classes, '/' ∉ c.name.toList)

include hgroup hclasses

/-- The path of an entry is made of names: those of its directory and its own. -/
theorem entry_parts {e : PlanEntry} (he : e ∈ j.fullPlan.entries) :
    e.path.parts =
      (j.roleNames (e.key.1.role j.mode)).map Part.name ++ [.name (j.nameOf e.key.1 e.key.2)] := by
  obtain ⟨hpath, hplans⟩ := mem_entries he
  obtain ⟨q, hseen, hplain, hpieces⟩ := directory_seen hgroup ⟨""⟩ (e.key.1.role j.mode)
  have hdots : ∀ n ∈ Disk.pieces q, Disk.isDots n = false := by
    intro n hn
    exact isDots_of_notMem (dot_notMem_roleNames (hpieces ▸ hn))
  have hname := Path.parts_child_name q (notMem_nameOf hplans (by decide) (by decide) hclasses)
    (nameOf_ne_empty hplans) (isDots_nameOf hplans)
  rw [hpath, relativePath, Layout.locate, hseen, Option.getD_some, hname,
    Path.parts_of_pieces hplain hdots, hpieces]

/-- No entry lies on the way to another: a directory has no dot in its name. -/
theorem entry_eq_of_prefix {e e' : PlanEntry} (he : e ∈ j.fullPlan.entries)
    (he' : e' ∈ j.fullPlan.entries) (h : e.path.parts <+: e'.path.parts) :
    e.path.parts = e'.path.parts := by
  have hparts := entry_parts hgroup hclasses he
  have hparts' := entry_parts hgroup hclasses he'
  rw [hparts', List.prefix_concat_iff] at h
  rcases h with hsame | hway
  · rw [hsame, hparts']
  · have hlast : Part.name (j.nameOf e.key.1 e.key.2) ∈ e.path.parts := by
      rw [hparts]
      exact List.mem_append_right _ List.mem_cons_self
    obtain ⟨n, hn, hname⟩ := List.mem_map.mp (hway.subset hlast)
    refine absurd (dot_mem_nameOf (mem_entries he).2) ?_
    rw [← Part.name.inj hname]
    exact dot_notMem_roleNames hn

end Entries

end Job

/-- The paths of a plan stay below the root and apart from each other, for every mode and every
project, if no class and no group has a slash in its name and the classes have different names.
Every path, of a file as of a skip, is relative and made of names only; no two entries have the same
path; and no path leads through another. -/
theorem entries_apart (j : Job) (hnames : (j.model.classes.map ClassDef.name).Nodup)
    (hclasses : ∀ c ∈ j.model.classes, '/' ∉ c.name.toList)
    (hgroup : '/' ∉ j.settings.backend.groupId.toList) :
    ∃ p, j.plan = .ok p ∧
      (∀ e ∈ p.entries, e.path.isAbsolute = false ∧ e.path.parts ≠ [] ∧
        ∀ part ∈ e.path.parts, ∃ name, part = .name name) ∧
      (p.entries.map fun e => e.path.parts).Nodup ∧
      ∀ e ∈ p.entries, ∀ e' ∈ p.entries,
        e.path.parts <+: e'.path.parts → e.path.parts = e'.path.parts := by
  refine ⟨j.fullPlan, j.plan_eq_ok, fun e he => ?_, ?_, fun e he e' he' h => ?_⟩
  · have hparts := Job.entry_parts hgroup hclasses he
    have hall : ∀ part ∈ e.path.parts, ∃ name, part = .name name := by
      intro part hpart
      rw [hparts] at hpart
      rcases List.mem_append.mp hpart with hpart | hpart
      · obtain ⟨n, -, hn⟩ := List.mem_map.mp hpart
        exact ⟨n, hn.symm⟩
      · exact ⟨_, List.mem_singleton.mp hpart⟩
    refine ⟨?_, ?_, hall⟩
    · rw [← Bool.not_eq_true, Path.isAbsolute_eq_parts]
      intro hroot
      obtain ⟨name, hname⟩ := hall _ (List.mem_of_head? hroot)
      cases hname
    · rw [hparts]
      exact List.concat_ne_nil _ _
  · have hkeys := Job.nodup_keys hnames
    refine List.Nodup.map_on (fun e he e' he' hsame => ?_) hkeys.of_map
    rw [Job.entry_parts hgroup hclasses he, Job.entry_parts hgroup hclasses he'] at hsame
    have hplace : j.roleNames (e.key.1.role j.mode) ++ [j.nameOf e.key.1 e.key.2] =
        j.roleNames (e'.key.1.role j.mode) ++ [j.nameOf e'.key.1 e'.key.2] := by
      refine List.map_injective_iff.mpr (fun _ _ => Part.name.inj) ?_
      rw [List.map_append, List.map_append]
      exact hsame
    have hkey := Job.key_of_place (Job.mem_entries he).2 (Job.mem_entries he').2 hplace
    exact List.inj_on_of_nodup_map hkeys he he' hkey
  · exact Job.entry_eq_of_prefix hgroup hclasses he he' h

/-- A project outside its destination, a group of dots, and classes that are called like parts of
file names, one of them without attributes. -/
def oddJob (mode : Mode) : Job :=
  ⟨⟨[⟨"", []⟩, ⟨"..", [.attr ⟨"a", "text"⟩]⟩, ⟨"Service", []⟩, ⟨"ServiceService", []⟩]⟩,
    { backend := { groupId := "..com.." } }, mode, "../.."⟩

theorem apart_odd :
    ∃ p, (oddJob .frontend).plan = .ok p ∧
      (∀ e ∈ p.entries, e.path.isAbsolute = false ∧ e.path.parts ≠ [] ∧
        ∀ part ∈ e.path.parts, ∃ name, part = .name name) ∧
      (p.entries.map fun e => e.path.parts).Nodup ∧
      ∀ e ∈ p.entries, ∀ e' ∈ p.entries,
        e.path.parts <+: e'.path.parts → e.path.parts = e'.path.parts :=
  entries_apart (oddJob .frontend) (by decide) (by decide) (by decide)

end CrudStack
