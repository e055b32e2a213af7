/-
# `CrudStack.Proofs.Run.Frame` — what a run leaves alone

A run only adds: directories where nothing was, and files at the places of its plan.  That nothing
goes away is known from the writes (`Effect`).  What is left to say is where new directories come
from.  `Grown` says it of a part of a run: each of them is where a path of a given kind leads.

* To make a directory with those around it makes nothing but directories around it
  (`Grown.ensureDirectory`), wherever that ends.
* An entry makes directories for its file alone (`Grown.perform`), and by induction so do the
  entries in a row (`Grown.performAll`); before them come the directories of the layout.

A skip writes nothing, and with classes that have no slash in their names no file of the plan leads
to its place unless it has its path (`path_of_place`).  So a file that is there stays.

Main statement: `run_frame`.
-/
import CrudStack.Proofs.Layout.Names
import CrudStack.Proofs.Run.Record
import Mathlib.Logic.Relation

namespace CrudStack

open Disk

/-! ## Surrounding directories -/

/-- One path is another, or it is come to from there by going from path to parent. -/
def Path.Surrounds (outer inner : Path) : Prop :=
  Relation.ReflTransGen (fun p parent => p.parent? = some parent) inner outer

theorem Path.surrounds_self (p : Path) : p.Surrounds p := Relation.ReflTransGen.refl

theorem Path.Surrounds.of_parent {p parent outer : Path} (hp : p.parent? = some parent)
    (h : outer.Surrounds parent) : outer.Surrounds p :=
  Relation.ReflTransGen.head hp h

/-- The paths that surround some paths. -/
def Around (needed : Path → Prop) (outer : Path) : Prop :=
  ∃ inner, needed inner ∧ outer.Surrounds inner

/-! ## Grown disks -/

/-- A disk has been written to, and its new directories are where paths of a kind lead. -/
structure Grown (new : Path → Prop) (d d' : Disk) : Prop where
  effect : ∃ writes, Effect writes d d'
  made : ∀ l, d.get? l = none → d'.get? l = some .directory →
    ∃ p, new p ∧ d'.lookup p = .ok (l, .directory)

namespace Grown

variable {new more needed : Path → Prop} {d d' d'' : Disk}

theorem refl (d : Disk) : Grown new d d := by
  refine ⟨⟨[], Effect.refl d⟩, fun l hnone hdir => ?_⟩
  rw [hnone] at hdir
  cases hdir

theorem mono (h : Grown new d d') (hnew : ∀ p, new p → more p) : Grown more d d' := by
  refine ⟨h.effect, fun l hnone hdir => ?_⟩
  obtain ⟨p, hp, hlookup⟩ := h.made l hnone hdir
  exact ⟨p, hnew p hp, hlookup⟩

/-- A directory that is new after two parts is new after one of them: a file that comes between
stays a file. -/
theorem trans (h : Grown new d d') (h' : Grown new d' d'') : Grown new d d'' := by
  obtain ⟨ws, hfirst⟩ := h.effect
  obtain ⟨more, hsecond⟩ := h'.effect
  refine ⟨⟨ws ++ more, hfirst.trans hsecond⟩, fun l hnone hdir => ?_⟩
  cases hl : d'.get? l with
  | none => exact h'.made l hl hdir
  | some e =>
      cases e with
      | directory =>
          obtain ⟨p, hp, hlookup⟩ := h.made l hnone hl
          exact ⟨p, hp, lookup_keeps hsecond.toKeeps hlookup⟩
      | file content =>
          obtain ⟨now, hnow⟩ := hsecond.file_stays hl
          rw [hnow] at hdir
          cases hdir

/-! ### Directories -/

theorem makeDirectory {p : Path} (h : d.makeDirectory p = .ok d') : Grown (· = p) d d' := by
  refine ⟨⟨[], makeDirectory_effect h⟩, fun l hnone hdir => ⟨p, rfl, ?_⟩⟩
  have hl : l = d.locate p := by
    obtain ⟨k, ht, -, rfl⟩ := makeDirectory_eq_ok.mp h
    rw [← target_location ht]
    by_contra hne
    rw [get?_put d (target_ne_nil ht), if_neg hne, hnone] at hdir
    cases hdir
  rw [hl]
  exact lookup_of_makeDirectory h

theorem settleDirectory (d : Disk) (p : Path) : Grown (· = p) d (d.settleDirectory p).disk := by
  unfold Disk.settleDirectory
  split
  · next h => exact makeDirectory h
  · exact refl d
  · exact refl d

theorem ensureFrom (fuel : Nat) (d : Disk) (p : Path) :
    Grown (Path.Surrounds · p) d (Disk.ensureFrom fuel d p).disk := by
  have hsettle : ∀ d, Grown (Path.Surrounds · p) d (d.settleDirectory p).disk := fun d =>
    (settleDirectory d p).mono fun _ hq => hq ▸ Path.surrounds_self p
  induction fuel generalizing d p with
  | zero => exact refl d
  | succ fuel ih =>
      unfold Disk.ensureFrom
      split
      · exact refl d
      · next parent hparent =>
          have haround : Grown (Path.Surrounds · p) d (Disk.ensureFrom fuel d parent).disk := by
            refine (ih d parent fun d => ?_).mono fun _ => Path.Surrounds.of_parent hparent
            exact (settleDirectory d parent).mono fun _ hq => hq ▸ Path.surrounds_self parent
          split
          · dsimp only
            split
            · exact haround
            · exact haround.trans (hsettle _)
          · exact hsettle d

theorem ensureDirectory (d : Disk) (p : Path) :
    Grown (Path.Surrounds · p) d (d.ensureDirectory p).disk :=
  ensureFrom _ d p

/-! ### Parts of a run -/

theorem andThen {q : Progress} (h : Grown new d q.disk) {next : Disk → Progress}
    (hnext : ∀ d, Grown new d (next d).disk) : Grown new d (q.andThen next).disk := by
  cases hq : q.fault with
  | some fault => rwa [Progress.andThen_of_fault hq]
  | none =>
      rw [Progress.andThen_of_done hq]
      exact h.trans (hnext q.disk)

theorem ensure {p : Path} (hp : needed p) (d : Disk) :
    Grown (Around needed) d (Progress.ensure p d).disk :=
  (ensureDirectory d p).mono fun _ hq => ⟨p, hp, hq⟩

theorem ensureAll {paths : List Path} (h : ∀ p ∈ paths, needed p) (d : Disk) :
    Grown (Around needed) d (Progress.ensureAll paths d).disk := by
  induction paths generalizing d with
  | nil => exact refl d
  | cons p rest ih =>
      have hrest : ∀ q ∈ rest, needed q := fun q hq => h q (List.mem_cons_of_mem p hq)
      exact (ensure (h p List.mem_cons_self) d).andThen (ih hrest)

theorem around {p : Path} (h : ∀ parent, p.parent? = some parent → needed parent) (d : Disk) :
    Grown (Around needed) d (Progress.around p d).disk := by
  unfold Progress.around
  cases hparent : p.parent? with
  | none => exact refl d
  | some parent => exact ensure (h parent hparent) d

/-- A file that is written is no directory. -/
theorem write (p : Path) (content : String) (d : Disk) :
    Grown new d (Progress.write p content d).disk := by
  unfold Progress.write
  cases h : d.writeFile p content.toUTF8 with
  | error fault => exact refl d
  | ok d' =>
      refine ⟨⟨_, writeFile_effect h⟩, fun l hnone hdir => ?_⟩
      obtain ⟨k, ht, -, rfl⟩ := writeFile_eq_ok.mp h
      change (d.put k _).get? l = _ at hdir
      rw [get?_put d (target_ne_nil ht)] at hdir
      by_cases hl : l = k
      · simp [hl] at hdir
      · simp [hl, hnone] at hdir

theorem perform {root : Path} {e : PlanEntry}
    (h : ∀ f, e = .file f → ∀ parent, (root.join f.path).parent? = some parent → needed parent)
    (d : Disk) : Grown (Around needed) d (e.perform root d).disk := by
  cases e with
  | skip s => exact refl d
  | file f =>
      rw [PlanEntry.perform_file]
      exact ((around (h f rfl) d).andThen (write _ _)).andThen fun d => refl d

theorem performAll {root : Path} {entries : List PlanEntry}
    (h : ∀ f, .file f ∈ entries →
      ∀ parent, (root.join f.path).parent? = some parent → needed parent) (d : Disk) :
    Grown (Around needed) d (CrudStack.performAll root entries d).disk := by
  induction entries generalizing d with
  | nil => exact refl d
  | cons e rest ih =>
      have hfirst : Grown (Around needed) d (e.perform root d).disk :=
        perform (fun f hf => h f (hf ▸ List.mem_cons_self)) d
      exact hfirst.andThen (ih fun f hf => h f (List.mem_cons_of_mem e hf))

end Grown

/-! ## Places of skips -/

namespace Job

variable {j : Job}

/-- Only components are skipped, and only in a frontend. -/
theorem mem_skips {s : PlannedSkip} (h : s ∈ j.fullPlan.skips) :
    j.mode = .frontend ∧ ∃ c ∈ j.model.classes, s = j.classSkip c .component := by
  rw [skips_fullPlan] at h
  obtain ⟨c, hc, hmem⟩ := List.mem_flatMap.mp h
  obtain ⟨kind, hkind, rfl⟩ := List.mem_map.mp hmem
  obtain ⟨hkind, hskips⟩ := List.mem_filter.mp hkind
  have hcomponent : kind = .component := by
    unfold skips at hskips
    exact eq_of_beq (Bool.and_eq_true_iff.mp hskips).1
  subst hcomponent
  refine ⟨?_, c, hc, rfl⟩
  cases hmode : j.mode with
  | frontend => rfl
  | backend =>
      rw [hmode] at hkind
      exact absurd hkind (by decide)

/-- A component is called by the name of its class and an ending without a slash. -/
theorem slash_notMem_component {c : ClassDef} (h : '/' ∉ c.name.toList) :
    '/' ∉ (classFileName c.name .component).toList := by
  rw [classFileName_eq, String.toList_append, List.mem_append, not_or]
  exact ⟨h, by decide⟩

theorem long_component (c : ClassDef) : 2 < (classFileName c.name .component).length := by
  have hending : (classEnding .component).length = 8 := by decide
  rw [classFileName_eq, String.length_append, hending]
  omega

theorem ne_empty_of_long {n : String} (h : 2 < n.length) : n ≠ "" := by
  rintro rfl
  exact absurd h (by decide)

/-- In a frontend the components have the directory with the components for themselves. -/
theorem role_of_components {package : List String} {role : Role}
    (h : Layout.roleNames package .frontend role =
      Layout.roleNames package .frontend .components) : role = .components := by
  cases role <;> first | rfl | simp [Layout.roleNames] at h

/-- The directories of a frontend do not depend on the group, so it may have slashes. -/
theorem frontend_extends (hmode : j.mode = .frontend) (destination : Path) (kind : ArtifactKind)
    {fileName : String} (hslash : '/' ∉ fileName.toList) (hne : fileName ≠ "")
    (hdots : isDots fileName = false) :
    Extends (destination.child j.project)
      ((j.layout destination).root.join (j.relativePath kind fileName))
      (["frontend"] ++ (Layout.roleNames [] .frontend (kind.role .frontend) ++ [fileName])) := by
  have hpackage : ∀ package role,
      Layout.roleNames package .frontend role = Layout.roleNames [] .frontend role := by
    intro package role
    cases role <;> rfl
  have hgroup : '/' ∉ ({} : Settings).backend.groupId.toList := by decide
  obtain ⟨model, settings, mode, project⟩ := j
  obtain rfl : mode = .frontend := hmode
  have h := (path_extends (j := ⟨model, {}, .frontend, project⟩) hgroup destination kind hslash
    hne hdots).1
  rwa [roleNames, hpackage] at h

/-- A file that lies where a skipped component would lie has its path. -/
theorem path_of_place (hclasses : ∀ c ∈ j.model.classes, '/' ∉ c.name.toList)
    {f : PlannedFile} (hf : f ∈ j.fullPlan.files) {s : PlannedSkip} (hs : s ∈ j.fullPlan.skips)
    {destination : Path} {d : Disk}
    (h : d.locate ((j.layout destination).root.join s.path) =
      d.locate ((j.layout destination).root.join f.path)) : f.path = s.path := by
  obtain ⟨hmode, c, hc, rfl⟩ := mem_skips hs
  obtain ⟨hpath, -⟩ := mem_files hf
  have hlong := long_component c
  have hskip := frontend_extends hmode destination .component
    (slash_notMem_component (hclasses c hc)) (ne_empty_of_long hlong) (isDots_of_long hlong)
  have hfile := frontend_extends hmode destination f.kind
    (notMem_fileName hf (by decide) (by decide) hclasses) (fileName_ne_empty hf)
    (isDots_fileName hf)
  rw [hpath, classSkip] at h ⊢
  rw [hskip.locate, hfile.locate] at h
  have hnames := List.append_cancel_left (List.append_cancel_left h)
  obtain ⟨hroles, hlast⟩ := List.append_inj' hnames rfl
  have hrole := role_of_components hroles.symm
  rw [relativePath, relativePath, hmode, hrole, ← List.singleton_inj.mp hlast]
  rfl

end Job

/-! ## The whole run -/

/-- The directories that a run needs: those of the layout, and for every file the one it lies in. -/
def Job.Needs (j : Job) (p : Plan) (destination : Path) (q : Path) : Prop :=
  q ∈ (j.layout destination).paths ∨
    ∃ f ∈ p.files, ((j.layout destination).root.join f.path).parent? = some q

namespace Job

variable {j : Job} {p : Plan}

theorem perform_grown (j : Job) (p : Plan) (destination : Path) (d : Disk) :
    Grown (Around (j.Needs p destination)) d (j.perform p destination d).disk := by
  have hlayout : ∀ q ∈ (j.layout destination).paths, j.Needs p destination q := fun _ => .inl
  rw [perform_eq]
  refine (Grown.ensureAll hlayout d).andThen (Grown.performAll fun f hf parent hparent => ?_)
  exact .inr ⟨f, List.mem_filterMap.mpr ⟨_, hf, rfl⟩, hparent⟩

end Job

/-- What is on a disk after a run of a job below a destination, compared to the disk before. -/
structure Framed (j : Job) (p : Plan) (destination : Path) (d d' : Disk) : Prop where
  workingDirectory : d'.workingDirectory = d.workingDirectory
  /-- What was there is there: directories are directories, files are files. -/
  kinds : ∀ l e, d.get? l = some e → ∃ e', d'.get? l = some e' ∧ e'.isFile = e.isFile
  /-- A file has its content from before, or it lies where a file of the plan lies and has the text
  of such a file. -/
  contents : ∀ l, d'.files l = d.files l ∨
    ∃ f ∈ p.files, l = d.locate ((j.layout destination).root.join f.path) ∧
      d'.files l = some f.content.toUTF8
  /-- A new directory is one that the run needs, or one around it. -/
  additions : ∀ l, d.get? l = none → d'.get? l = some .directory →
    ∃ q, Around (j.Needs p destination) q ∧ d'.lookup q = .ok (l, .directory)
  /-- Where a skip is, and no file of the plan has its path, no file comes and none changes. -/
  skips : (∀ c ∈ j.model.classes, '/' ∉ c.name.toList) →
    ∀ s ∈ p.skips, (∀ f ∈ p.files, f.path ≠ s.path) →
      d'.files (d.locate ((j.layout destination).root.join s.path)) =
        d.files (d.locate ((j.layout destination).root.join s.path))

/-- A file has its content from before, or the text of a file of the plan that lies there. -/
theorem contents_run (j : Job) (destination : Path) (d : Disk) (l : Location) :
    (j.run destination d).disk.files l = d.files l ∨
      ∃ f ∈ j.fullPlan.files, l = d.locate ((j.layout destination).root.join f.path) ∧
        (j.run destination d).disk.files l = some f.content.toUTF8 := by
  obtain ⟨done, h⟩ := j.perform_reached j.entries_fullPlan_ne_nil destination d
  rw [j.disk_run, h.effect.files]
  by_cases hl : l ∈ (writesOf (j.layout destination).root d done).map Prod.fst
  · obtain ⟨content, hwritten, hfile⟩ := overwrite_written hl
    have hplanned : (l, content) ∈ writesOf (j.layout destination).root d j.fullPlan.entries :=
      (h.first.sublist.filterMap _).subset hwritten
    rw [writesOf_entries] at hplanned
    obtain ⟨f, hf, hwrite⟩ := List.mem_map.mp hplanned
    obtain ⟨hplace, rfl⟩ := Prod.mk.inj hwrite
    exact .inr ⟨f, hf, hplace.symm, hfile⟩
  · exact .inl (overwrite_of_notMem hl)

/-- A run leaves everything alone but the places of its files and the directories on the way to
them, whether it comes to its end or not, on every disk. -/
theorem run_frame (j : Job) (destination : Path) (d : Disk) :
    ∃ p, j.plan = .ok p ∧ Framed j p destination d (j.run destination d).disk := by
  have hgrown := j.perform_grown j.fullPlan destination d
  rw [← j.disk_run] at hgrown
  obtain ⟨writes, heffect⟩ := hgrown.effect
  refine ⟨j.fullPlan, j.plan_eq_ok, ?_⟩
  exact
    { workingDirectory := heffect.workingDirectory
      kinds := by
        intro l e he
        cases e with
        | directory => exact ⟨_, heffect.directories l he, rfl⟩
        | file content =>
            obtain ⟨now, hnow⟩ := heffect.file_stays he
            exact ⟨_, hnow, rfl⟩
      contents := contents_run j destination d
      additions := hgrown.made
      skips := by
        intro hclasses s hs hpath
        rcases contents_run j destination d (d.locate ((j.layout destination).root.join s.path))
          with hsame | ⟨f, hf, hplace, -⟩
        · exact hsame
        · exact absurd (Job.path_of_place hclasses hf hs hplace) (hpath f hf) }

end CrudStack
