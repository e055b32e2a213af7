/-
# `CrudStack.Proofs.Run.Record` — log, report and disk agree on every run

A run can stop at any of its steps: while it makes the directories of the layout, while it makes the
directory around a file, or when it writes the file.  Wherever it stops, the entries that left a
record are the first ones of the plan, and the disk has exactly their writes.

One entry is either done, with its record, its place in the report, its write and perhaps new
directories, or it ends the run with a fault of the disk and without any of these (`perform_cases`).
By induction over the entries the same is true of all of them (`performAll_reached`); the
directories that are made before come to it without a record and without a write.

Main statement: `run_in_step`.
-/
import CrudStack.Generation
import CrudStack.Proofs.Disk.Ensure
import CrudStack.Proofs.Plan.Total

namespace CrudStack

open Disk

/-! ## What an entry does -/

namespace PlanEntry

/-- What is reported when an entry is done. -/
def events (root : Path) (entry : PlanEntry) : List Event :=
  match entry with
  | .file f => [.wrote (root.join f.path) f.description, .recorded (entry.record root)]
  | .skip _ => [.recorded (entry.record root)]

/-- What the report gets from an entry that is done: the path of a file that was written. -/
def written (root : Path) : PlanEntry → List Path
  | .file f => [root.join f.path]
  | .skip _ => []

/-- What the report gets from an entry that is done: the class that was skipped. -/
def skipped : PlanEntry → List String
  | .file _ => []
  | .skip s => [s.className]

/-- The write of an entry: the whole text, where the path leads to. -/
def write? (root : Path) (d : Disk) : PlanEntry → Option Write
  | .file f => some (d.locate (root.join f.path), f.content.toUTF8)
  | .skip _ => none

/-- An entry has been done: there is nothing to make around its file, and its file is there. -/
def Done (root : Path) (d : Disk) : PlanEntry → Prop
  | .file f => (∀ parent, (root.join f.path).parent? = some parent → Settled d parent) ∧
      Placed d (root.join f.path)
  | .skip _ => True

end PlanEntry

/-- The writes of entries, in order. -/
def writesOf (root : Path) (d : Disk) (entries : List PlanEntry) : List Write :=
  entries.filterMap (PlanEntry.write? root d)

theorem writesOf_append (root : Path) (d : Disk) (es fs : List PlanEntry) :
    writesOf root d (es ++ fs) = writesOf root d es ++ writesOf root d fs :=
  List.filterMap_append

theorem writesOf_keeps {d d' : Disk} (h : Keeps d d') (root : Path) (entries : List PlanEntry) :
    writesOf root d' entries = writesOf root d entries := by
  have hwrite : PlanEntry.write? root d' = PlanEntry.write? root d := by
    funext e
    cases e with
    | file f => simp only [PlanEntry.write?, h.locate]
    | skip s => rfl
  unfold writesOf
  rw [hwrite]

/-- The writes of a plan are those of its files. -/
theorem writesOf_entries (root : Path) (d : Disk) (p : Plan) :
    writesOf root d p.entries =
      p.files.map fun f => (d.locate (root.join f.path), f.content.toUTF8) := by
  rw [writesOf, Plan.files, List.map_filterMap]
  congr 1
  funext e
  cases e <;> rfl

/-- The report of a plan that is done has the paths of its files. -/
theorem written_entries (root : Path) (p : Plan) :
    p.entries.flatMap (PlanEntry.written root) = p.files.map fun f => root.join f.path := by
  rw [Plan.files, List.map_filterMap, List.filterMap_eq_flatMap_toList]
  congr 1
  funext e
  cases e <;> rfl

/-- The report of a plan that is done has the classes of its skips. -/
theorem skipped_entries (p : Plan) :
    p.entries.flatMap PlanEntry.skipped = p.skips.map (·.className) := by
  rw [Plan.skips, List.map_filterMap, List.filterMap_eq_flatMap_toList]
  congr 1
  funext e
  cases e <;> rfl

theorem PlanEntry.Done.effect {ws : List Write} {d d' : Disk} (h : Effect ws d d') {root : Path}
    {e : PlanEntry} (he : e.Done root d) : e.Done root d' := by
  cases e with
  | file f => exact ⟨fun parent hp => (he.1 parent hp).keeps h.toKeeps, he.2.effect h⟩
  | skip s => trivial

/-! ## Parts of a run -/

namespace Progress

theorem andThen_of_fault {q : Progress} {fault : RunFault} (h : q.fault = some fault)
    (next : Disk → Progress) : q.andThen next = q := by
  simp [andThen, h]

theorem andThen_of_done {q : Progress} (h : q.fault = none) (next : Disk → Progress) :
    q.andThen next =
      ⟨(next q.disk).disk, q.trace ++ (next q.disk).trace, q.written ++ (next q.disk).written,
        q.skipped ++ (next q.disk).skipped, (next q.disk).fault⟩ := by
  simp [andThen, h]

/-- A silent part only hands its disk on. -/
theorem silent_andThen (d : Disk) (next : Disk → Progress) :
    (silent d).andThen next = next d := by
  rw [andThen_of_done rfl]
  rfl

/-- A part that ended the run with a fault of the disk, reported and counted nothing and wrote
nothing. -/
structure Stopped (d : Disk) (q : Progress) : Prop where
  fault : ∃ path io, q.fault = some (.io path io)
  trace : q.trace = []
  written : q.written = []
  skipped : q.skipped = []
  effect : Effect [] d q.disk

/-- What would come next does not. -/
theorem Stopped.andThen {d : Disk} {q : Progress} (h : Stopped d q) (next : Disk → Progress) :
    q.andThen next = q := by
  obtain ⟨path, io, hfault⟩ := h.fault
  exact andThen_of_fault hfault next

/-- What only made directories before does not matter. -/
theorem Stopped.after {d d' : Disk} {q : Progress} (h : Stopped d' q) (hmade : Effect [] d d') :
    Stopped d q :=
  { h with effect := hmade.trans h.effect }

theorem ensure_cases (p : Path) (d : Disk) :
    (∃ d', ensure p d = silent d' ∧ Effect [] d d' ∧ Settled d' p) ∨
      Stopped d (ensure p d) := by
  have heffect := ensureDirectory_effect d p
  cases h : (d.ensureDirectory p).fault with
  | none =>
      exact .inl ⟨(d.ensureDirectory p).disk, by simp [ensure, silent, h], heffect,
        settled_of_ensureDirectory h⟩
  | some io => exact .inr ⟨⟨p, io, by simp [ensure, h]⟩, rfl, rfl, rfl, heffect⟩

theorem ensureAll_cases (paths : List Path) (d : Disk) :
    (∃ d', ensureAll paths d = silent d' ∧ Effect [] d d' ∧ ∀ p ∈ paths, Settled d' p) ∨
      Stopped d (ensureAll paths d) := by
  induction paths generalizing d with
  | nil => exact .inl ⟨d, rfl, Effect.refl d, nofun⟩
  | cons p rest ih =>
      unfold ensureAll
      rcases ensure_cases p d with ⟨d₁, hensure, hmade, hp⟩ | hstop
      · rw [hensure, silent_andThen]
        rcases ih d₁ with ⟨d₂, hrest, hmore, hpaths⟩ | hstop
        · refine .inl ⟨d₂, hrest, hmade.trans hmore, fun q hq => ?_⟩
          rcases List.mem_cons.mp hq with rfl | hq
          · exact hp.keeps hmore.toKeeps
          · exact hpaths q hq
        · exact .inr (hstop.after hmade)
      · rw [hstop.andThen]
        exact .inr hstop

/-- Makes the directory around a path. -/
def around (p : Path) (d : Disk) : Progress :=
  match p.parent? with
  | some parent => ensure parent d
  | none => silent d

theorem around_cases (p : Path) (d : Disk) :
    (∃ d', around p d = silent d' ∧ Effect [] d d' ∧
      ∀ parent, p.parent? = some parent → Settled d' parent) ∨ Stopped d (around p d) := by
  unfold around
  cases hparent : p.parent? with
  | none => exact .inl ⟨d, rfl, Effect.refl d, nofun⟩
  | some parent =>
      rcases ensure_cases parent d with ⟨d', hensure, hmade, hsettled⟩ | hstop
      · refine .inl ⟨d', hensure, hmade, fun q hq => ?_⟩
        cases hq
        exact hsettled
      · exact .inr hstop

theorem write_cases (p : Path) (content : String) (d : Disk) :
    (∃ d', write p content d = silent d' ∧ Effect [(d.locate p, content.toUTF8)] d d' ∧
      Placed d' p) ∨ Stopped d (write p content d) := by
  unfold write
  cases h : d.writeFile p content.toUTF8 with
  | ok d' => exact .inl ⟨d', rfl, writeFile_effect h, placed_of_writeFile h⟩
  | error io => exact .inr ⟨⟨p, io, rfl⟩, rfl, rfl, rfl, Effect.refl d⟩

end Progress

theorem PlanEntry.perform_file (root : Path) (f : PlannedFile) (d : Disk) :
    (PlanEntry.file f).perform root d =
      ((Progress.around (root.join f.path) d).andThen
        (Progress.write (root.join f.path) f.content)).andThen
          (Progress.report ((PlanEntry.file f).events root) [root.join f.path] []) := by
  unfold perform Progress.around
  dsimp only
  cases (root.join f.path).parent? <;> rfl

/-- An entry has been done: with what it reports, with its write, and so that it stays done. -/
structure PlanEntry.Performed (root : Path) (e : PlanEntry) (d : Disk) (q : Progress) : Prop where
  fault : q.fault = none
  trace : q.trace = e.events root
  written : q.written = e.written root
  skipped : q.skipped = e.skipped
  effect : Effect (writesOf root d [e]) d q.disk
  done : e.Done root q.disk

theorem PlanEntry.perform_cases (root : Path) (e : PlanEntry) (d : Disk) :
    e.Performed root d (e.perform root d) ∨ Progress.Stopped d (e.perform root d) := by
  cases e with
  | skip s => exact .inl ⟨rfl, rfl, rfl, rfl, Effect.refl d, trivial⟩
  | file f =>
      rw [perform_file]
      rcases Progress.around_cases (root.join f.path) d with ⟨d₁, haround, hmade, hsettled⟩ | hstop
      · rw [haround, Progress.silent_andThen]
        rcases Progress.write_cases (root.join f.path) f.content d₁ with
          ⟨d₂, hwrite, hwritten, hplaced⟩ | hstop
        · rw [hwrite, Progress.silent_andThen]
          rw [hmade.locate] at hwritten
          exact .inl ⟨rfl, rfl, rfl, rfl, hmade.trans hwritten,
            fun parent h => (hsettled parent h).keeps hwritten.toKeeps, hplaced⟩
        · rw [hstop.andThen]
          exact .inr (hstop.after hmade)
      · rw [hstop.andThen, hstop.andThen]
        exact .inr hstop

/-! ## Entries in a row -/

/-- A part of a run over some entries has come through the first of them, `done`, and either there
are no others or it was ended by a fault of the disk. -/
structure Reached (root : Path) (entries : List PlanEntry) (d : Disk) (q : Progress)
    (done : List PlanEntry) : Prop where
  first : done <+: entries
  trace : q.trace = done.flatMap (PlanEntry.events root)
  written : q.written = done.flatMap (PlanEntry.written root)
  skipped : q.skipped = done.flatMap PlanEntry.skipped
  effect : Effect (writesOf root d done) d q.disk
  finished : q.fault = none ↔ done = entries
  stopped : ∀ fault, q.fault = some fault → ∃ path io, fault = .io path io
  stays : ∀ e ∈ done, e.Done root q.disk

/-- A part that ended the run before its first entry has come through none of them. -/
theorem Reached.of_stopped {root : Path} {entries : List PlanEntry} {d : Disk} {q : Progress}
    (h : Progress.Stopped d q) (hne : entries ≠ []) : Reached root entries d q [] := by
  obtain ⟨path, io, hfault⟩ := h.fault
  refine ⟨List.nil_prefix, h.trace, h.written, h.skipped, h.effect, ?_, ?_, ?_⟩
  · simp [hfault, Ne.symm hne]
  · intro fault hq
    exact ⟨path, io, Option.some.inj (hq.symm.trans hfault)⟩
  · intro e he
    cases he

theorem performAll_reached (root : Path) (entries : List PlanEntry) (d : Disk) :
    ∃ done, Reached root entries d (performAll root entries d) done := by
  induction entries generalizing d with
  | nil =>
      refine ⟨[], List.prefix_refl [], rfl, rfl, rfl, Effect.refl d, ?_, ?_, ?_⟩
      · exact ⟨fun _ => rfl, fun _ => rfl⟩
      · intro fault h
        cases h
      · intro e he
        cases he
  | cons e rest ih =>
      rcases e.perform_cases root d with hdone | hstop
      · obtain ⟨done, hrest⟩ := ih (e.perform root d).disk
        have hall : performAll root (e :: rest) d =
            ⟨(performAll root rest (e.perform root d).disk).disk,
              e.events root ++ (performAll root rest (e.perform root d).disk).trace,
              e.written root ++ (performAll root rest (e.perform root d).disk).written,
              e.skipped ++ (performAll root rest (e.perform root d).disk).skipped,
              (performAll root rest (e.perform root d).disk).fault⟩ := by
          rw [performAll, Progress.andThen_of_done hdone.fault, hdone.trace, hdone.written,
            hdone.skipped]
        have heffect := hrest.effect
        rw [writesOf_keeps hdone.effect.toKeeps] at heffect
        rw [hall]
        refine ⟨e :: done, ?_, ?_, ?_, ?_, ?_, ?_, hrest.stopped, ?_⟩
        · exact (List.prefix_cons_inj e).mpr hrest.first
        · rw [List.flatMap_cons, hrest.trace]
        · rw [List.flatMap_cons, hrest.written]
        · rw [List.flatMap_cons, hrest.skipped]
        · exact writesOf_append root d [e] done ▸ hdone.effect.trans heffect
        · rw [List.cons.injEq, eq_self, true_and]
          exact hrest.finished
        · intro e' he'
          rcases List.mem_cons.mp he' with rfl | he'
          · exact hdone.done.effect heffect
          · exact hrest.stays e' he'
      · rw [performAll, hstop.andThen]
        exact ⟨[], Reached.of_stopped hstop (List.cons_ne_nil e rest)⟩

/-! ## The whole run -/

namespace Job

theorem perform_eq (j : Job) (p : Plan) (destination : Path) (d : Disk) :
    j.perform p destination d =
      (Progress.ensureAll (j.layout destination).paths d).andThen
        (performAll (j.layout destination).root p.entries) := rfl

/-- The directories of the layout are made before the first entry, without report or write. -/
theorem perform_reached (j : Job) {p : Plan} (hp : p.entries ≠ []) (destination : Path) (d : Disk) :
    ∃ done, Reached (j.layout destination).root p.entries d (j.perform p destination d) done := by
  rw [perform_eq]
  rcases Progress.ensureAll_cases (j.layout destination).paths d with
    ⟨d₁, hensure, hmade, -⟩ | hstop
  · obtain ⟨done, h⟩ := performAll_reached (j.layout destination).root p.entries d₁
    rw [hensure, Progress.silent_andThen]
    refine ⟨done, { h with effect := ?_ }⟩
    have heffect := h.effect
    rw [writesOf_keeps hmade.toKeeps] at heffect
    exact hmade.trans heffect
  · rw [hstop.andThen]
    exact ⟨[], Reached.of_stopped hstop hp⟩

theorem entries_fullPlan_ne_nil (j : Job) : j.fullPlan.entries ≠ [] := by
  have hkinds : j.mode.projectKinds ≠ [] := by cases j.mode <;> decide
  simp [fullPlan, hkinds]

/-- The report of a run that has come through all entries of a plan. -/
def report (j : Job) (root : Path) (p : Plan) : Report :=
  ⟨j.mode, root, p.files.map fun f => root.join f.path, p.skips.map (·.className)⟩

/-- What a run reports before its plan is performed. -/
def before (j : Job) : List Event := j.opening ++ j.warnings

theorem run_of_fault {j : Job} {destination : Path} {d : Disk} {fault : RunFault}
    (h : (j.perform j.fullPlan destination d).fault = some fault) :
    j.run destination d =
      ⟨(j.perform j.fullPlan destination d).disk,
        j.before ++ (j.perform j.fullPlan destination d).trace, .error fault⟩ := by
  simp only [run, planned_eq, h, before, warnings_eq_reports]

/-- A run that has come through its plan has counted all files and all skips, entry by entry. -/
theorem counted_of_done {j : Job} {destination : Path} {d : Disk}
    (h : (j.perform j.fullPlan destination d).fault = none) :
    (j.perform j.fullPlan destination d).written =
        j.fullPlan.files.map (fun f => (j.layout destination).root.join f.path) ∧
      (j.perform j.fullPlan destination d).skipped = j.fullPlan.skips.map (·.className) := by
  obtain ⟨done, hdone⟩ := j.perform_reached j.entries_fullPlan_ne_nil destination d
  obtain rfl := hdone.finished.mp h
  rw [hdone.written, hdone.skipped, written_entries, skipped_entries]
  exact ⟨rfl, rfl⟩

theorem run_of_done {j : Job} {destination : Path} {d : Disk}
    (h : (j.perform j.fullPlan destination d).fault = none) :
    j.run destination d =
      ⟨(j.perform j.fullPlan destination d).disk,
        j.before ++ (j.perform j.fullPlan destination d).trace ++
          [.finished (j.layout destination).root j.fullPlan.files.length
            j.fullPlan.skips.length],
        .ok (j.report (j.layout destination).root j.fullPlan)⟩ := by
  obtain ⟨hwritten, hskipped⟩ := counted_of_done h
  simp only [run, planned_eq, h, before, warnings_eq_reports, hwritten, hskipped, report,
    List.length_map]

end Job

/-! ## Log, report and disk -/

/-- The record that an event carries. -/
def Event.record? : Event → Option BuildRecord
  | .recorded record => some record
  | _ => none

theorem Run.log_eq (r : Run) : r.log = r.trace.filterMap Event.record? := rfl

theorem record?_before (j : Job) : j.before.filterMap Event.record? = [] := by
  rw [List.filterMap_eq_nil_iff]
  intro e he
  simp only [Job.before, Job.opening, Job.warnings_eq_reports, Job.reports, List.cons_append,
    List.mem_cons, List.mem_append, List.mem_map, List.mem_flatMap] at he
  rcases he with rfl | ⟨_, _, rfl⟩ | ⟨_, _, _, _, rfl⟩ <;> rfl

theorem record?_events (root : Path) (entries : List PlanEntry) :
    (entries.flatMap (PlanEntry.events root)).filterMap Event.record? =
      entries.map (PlanEntry.record root) := by
  rw [List.filterMap_flatMap, List.map_eq_flatMap]
  congr 1
  funext e
  cases e <;> rfl

namespace Job

variable (j : Job) (destination : Path) (d : Disk)

theorem disk_run :
    (j.run destination d).disk = (j.perform j.fullPlan destination d).disk := by
  cases h : (j.perform j.fullPlan destination d).fault with
  | some fault => rw [run_of_fault h]
  | none => rw [run_of_done h]

theorem outcome_run :
    (j.run destination d).outcome =
      match (j.perform j.fullPlan destination d).fault with
      | some fault => .error fault
      | none => .ok (j.report (j.layout destination).root j.fullPlan) := by
  cases h : (j.perform j.fullPlan destination d).fault with
  | some fault => rw [run_of_fault h]
  | none => rw [run_of_done h]

/-- Seen through a view that leaves out its end, the trace of a run is what was reported before the
plan and what was reported while it was performed. -/
theorem filterMap_trace {B : Type} {view : Event → Option B}
    (hend : ∀ root written skipped, view (.finished root written skipped) = none) :
    (j.run destination d).trace.filterMap view =
      j.before.filterMap view ++ (j.perform j.fullPlan destination d).trace.filterMap view := by
  cases h : (j.perform j.fullPlan destination d).fault with
  | some fault => rw [run_of_fault h, List.filterMap_append]
  | none =>
      have hnone : [Event.finished (j.layout destination).root j.fullPlan.files.length
          j.fullPlan.skips.length].filterMap view = [] := by
        rw [List.filterMap_cons_none (hend _ _ _), List.filterMap_nil]
      rw [run_of_done h, List.filterMap_append, List.filterMap_append, hnone, List.append_nil]

theorem log_run :
    (j.run destination d).log =
      (j.perform j.fullPlan destination d).trace.filterMap Event.record? := by
  rw [Run.log_eq, j.filterMap_trace destination d fun _ _ _ => rfl, record?_before, List.nil_append]

end Job

/-- A run of a job below a destination keeps in step with the entries of its plan that are done. -/
structure InStep (j : Job) (destination : Path) (d : Disk) (p : Plan) (done : List PlanEntry) :
    Prop where
  /-- The entries that are done are the first ones of the plan. -/
  first : done <+: p.entries
  /-- They have left their records, in order, and nothing else has: a file as written at its path, a
  class that gets none as skipped for its reason. -/
  log : (j.run destination d).log = done.map fun
    | .file f => ⟨f.kind, f.className, (j.layout destination).root.join f.path, .written⟩
    | .skip s =>
      ⟨s.kind, some s.className, (j.layout destination).root.join s.path, .skipped s.reason⟩
  /-- The run succeeds if they are all. -/
  finished : (∃ report, (j.run destination d).outcome = .ok report) ↔ done = p.entries
  /-- Its report has the paths of all files and the classes of all skips, in order. -/
  report : ∀ report, (j.run destination d).outcome = .ok report →
    report.written = p.files.map (fun f => (j.layout destination).root.join f.path) ∧
      report.skipped = p.skips.map (·.className)
  /-- Otherwise it was ended by a fault of the disk. -/
  fault : ∀ e, (j.run destination d).outcome = .error e → ∃ path io, e = .io path io
  /-- The files are those that the writes of these entries leave. -/
  files : (j.run destination d).disk.files =
    overwrite d.files (writesOf (j.layout destination).root d done)
  /-- Where they did not write, at most a directory has come where nothing was. -/
  elsewhere : ∀ l, l ∉ (writesOf (j.layout destination).root d done).map Prod.fst →
    (j.run destination d).disk.get? l = d.get? l ∨
      (d.get? l = none ∧ (j.run destination d).disk.get? l = some .directory)
  /-- Their paths lead to where they wrote. -/
  found : ∀ f, .file f ∈ done → ∃ content,
    (j.run destination d).disk.lookup ((j.layout destination).root.join f.path) =
      .ok (d.locate ((j.layout destination).root.join f.path), .file content)

/-- Log, report and disk agree wherever a run stops, on every disk it starts from. -/
theorem run_in_step (j : Job) (destination : Path) (d : Disk) :
    ∃ p done, j.plan = .ok p ∧ InStep j destination d p done := by
  obtain ⟨done, h⟩ := j.perform_reached j.entries_fullPlan_ne_nil destination d
  have houtcome := j.outcome_run destination d
  refine ⟨j.fullPlan, done, j.plan_eq_ok, ?_⟩
  exact
    { first := h.first
      log := by
        rw [j.log_run, h.trace, record?_events]
        exact List.map_congr_left fun e _ => by cases e <;> rfl
      finished := by
        rw [← h.finished, houtcome]
        cases (j.perform j.fullPlan destination d).fault <;> simp
      report := by
        intro report hreport
        rw [houtcome] at hreport
        cases hfault : (j.perform j.fullPlan destination d).fault with
        | some fault => simp [hfault] at hreport
        | none =>
            simp only [hfault, Except.ok.injEq] at hreport
            subst hreport
            exact ⟨rfl, rfl⟩
      fault := by
        intro e he
        rw [houtcome] at he
        cases hfault : (j.perform j.fullPlan destination d).fault with
        | some fault =>
            simp only [hfault, Except.error.injEq] at he
            exact he ▸ h.stopped fault hfault
        | none => simp [hfault] at he
      files := by rw [j.disk_run, h.effect.files]
      elsewhere := by
        intro l hl
        rw [j.disk_run]
        exact h.effect.elsewhere hl
      found := by
        intro f hf
        obtain ⟨content, hlookup⟩ := lookup_of_placed (h.stays _ hf).2
        rw [j.disk_run]
        exact ⟨content, h.effect.toKeeps.locate _ ▸ hlookup⟩ }

end CrudStack
