/-
# `CrudStack.Proofs.Run.Rerun` — running again changes nothing and discards edits

A run that succeeds leaves a disk on which everything it needs is there: the directories are made
and every file can be written again (`Done`).  On such a disk the entries are performed without a
fault and only write (`performAll_of_done`), and what they write is there already.  So the second
run is the first one over again, to the same disk (`perform_perform`).

Two disks that differ in the contents of files only go through a run side by side (`Abreast`).  At
the end they may differ where nothing was written; if they were the same there, they are the same
everywhere.

Main statement: `rerun_discards_edits`.
-/
import CrudStack.Proofs.Run.Record

namespace CrudStack

open Disk

/-! ## Entries that have been done -/

namespace Progress

theorem ensure_of_settled {p : Path} {d : Disk} (h : Settled d p) : ensure p d = silent d := by
  unfold ensure
  rw [ensureDirectory_of_settled h]
  rfl

theorem ensureAll_of_settled {d : Disk} {paths : List Path} (h : ∀ p ∈ paths, Settled d p) :
    ensureAll paths d = silent d := by
  induction paths with
  | nil => rfl
  | cons p rest ih =>
      have hrest : ∀ q ∈ rest, Settled d q := fun q hq => h q (List.mem_cons_of_mem p hq)
      rw [ensureAll, ensure_of_settled (h p List.mem_cons_self), silent_andThen, ih hrest]

theorem around_of_settled {p : Path} {d : Disk}
    (h : ∀ parent, p.parent? = some parent → Settled d parent) : around p d = silent d := by
  unfold around
  cases hparent : p.parent? with
  | none => rfl
  | some parent => exact ensure_of_settled (h parent hparent)

end Progress

/-- An entry that has been done only writes when it is performed again. -/
theorem PlanEntry.perform_of_done {root : Path} {e : PlanEntry} {d : Disk} (h : e.Done root d) :
    e.perform root d =
      ⟨d.puts (writesOf root d [e]), e.events root, e.written root, e.skipped, none⟩ := by
  cases e with
  | skip s => rfl
  | file f =>
      have hwrite : Progress.write (root.join f.path) f.content d =
          Progress.silent (d.put (d.locate (root.join f.path)) (.file f.content.toUTF8)) := by
        unfold Progress.write
        rw [writeFile_of_placed h.2]
      rw [PlanEntry.perform_file, Progress.around_of_settled h.1, Progress.silent_andThen, hwrite,
        Progress.silent_andThen]
      rfl

theorem performAll_of_done {root : Path} {entries : List PlanEntry} {d : Disk}
    (h : ∀ e ∈ entries, e.Done root d) :
    performAll root entries d =
      ⟨d.puts (writesOf root d entries), entries.flatMap (PlanEntry.events root),
        entries.flatMap (PlanEntry.written root), entries.flatMap PlanEntry.skipped, none⟩ := by
  induction entries generalizing d with
  | nil => rfl
  | cons e rest ih =>
      have hperform := PlanEntry.perform_of_done (h e List.mem_cons_self)
      have heffect : Effect (writesOf root d [e]) d (d.puts (writesOf root d [e])) := by
        rcases e.perform_cases root d with hdone | hstop
        · rw [hperform] at hdone
          exact hdone.effect
        · obtain ⟨path, io, hfault⟩ := hstop.fault
          rw [hperform] at hfault
          cases hfault
      have hrest : ∀ e' ∈ rest, e'.Done root (d.puts (writesOf root d [e])) :=
        fun e' he' => (h e' (List.mem_cons_of_mem e he')).effect heffect
      rw [performAll, hperform, Progress.andThen_of_done rfl, ih hrest,
        writesOf_keeps heffect.toKeeps, ← puts_append, ← writesOf_append, List.flatMap_cons,
        List.flatMap_cons, List.flatMap_cons, List.singleton_append]

theorem ne_nil_of_done {root : Path} {entries : List PlanEntry} {d : Disk}
    (h : ∀ e ∈ entries, e.Done root d) {w : Write} (hw : w ∈ writesOf root d entries) :
    w.1 ≠ [] := by
  obtain ⟨e, he, hwrite⟩ := List.mem_filterMap.mp hw
  have hdone := h e he
  cases e with
  | skip s => cases hwrite
  | file f =>
      have hplace := locate_ne_nil_of_placed hdone.2
      rwa [← Option.some.inj hwrite]

namespace Job

/-- A run that succeeds leaves its directories behind. -/
theorem settled_of_perform {j : Job} {p : Plan} {destination : Path} {d : Disk}
    (h : (j.perform p destination d).fault = none) :
    ∀ q ∈ (j.layout destination).paths, Settled (j.perform p destination d).disk q := by
  rw [perform_eq] at h ⊢
  rcases Progress.ensureAll_cases (j.layout destination).paths d with
    ⟨d₁, hensure, -, hsettled⟩ | hstop
  · obtain ⟨done, hreached⟩ := performAll_reached (j.layout destination).root p.entries d₁
    rw [hensure, Progress.silent_andThen]
    exact fun q hq => (hsettled q hq).keeps hreached.effect.toKeeps
  · obtain ⟨path, io, hfault⟩ := hstop.fault
    rw [hstop.andThen, hfault] at h
    cases h

/-- A plan that has been performed can be performed again, and nothing changes. -/
theorem perform_perform {j : Job} {p : Plan} (hp : p.entries ≠ []) {destination : Path} {d : Disk}
    (h : (j.perform p destination d).fault = none) :
    j.perform p destination (j.perform p destination d).disk = j.perform p destination d := by
  obtain ⟨done, hreached⟩ := j.perform_reached hp destination d
  obtain rfl := hreached.finished.mp h
  have hall := performAll_of_done hreached.stays
  have hwrites := writesOf_keeps hreached.effect.toKeeps (j.layout destination).root p.entries
  have hagain : (j.perform p destination d).disk.puts
      (writesOf (j.layout destination).root (j.perform p destination d).disk p.entries) =
        (j.perform p destination d).disk := by
    refine puts_eq_self (fun w hw => ne_nil_of_done hreached.stays hw) ?_
    rw [hwrites, hreached.effect.files, overwrite_idem]
  rw [hagain, ← hreached.trace, ← hreached.written, ← hreached.skipped] at hall
  rw [perform_eq, Progress.ensureAll_of_settled (settled_of_perform h), Progress.silent_andThen,
    hall, ← h]

end Job

/-! ## Two runs side by side -/

/-- Two parts of a run have come as far, on disks that differ in contents only. -/
structure Abreast (q q' : Progress) : Prop where
  alike : Alike q.disk q'.disk
  trace : q'.trace = q.trace
  written : q'.written = q.written
  skipped : q'.skipped = q.skipped
  fault : q'.fault = q.fault

namespace Abreast

variable {d d' : Disk}

theorem andThen {q q' : Progress} (h : Abreast q q') {next : Disk → Progress}
    (hnext : ∀ {d d'}, Alike d d' → Abreast (next d) (next d')) :
    Abreast (q.andThen next) (q'.andThen next) := by
  have hfault := h.fault
  cases hq : q.fault with
  | some fault =>
      rw [hq] at hfault
      rw [Progress.andThen_of_fault hq, Progress.andThen_of_fault hfault]
      exact h
  | none =>
      rw [hq] at hfault
      rw [Progress.andThen_of_done hq, Progress.andThen_of_done hfault]
      have hrest := hnext h.alike
      exact ⟨hrest.alike, by rw [h.trace, hrest.trace], by rw [h.written, hrest.written],
        by rw [h.skipped, hrest.skipped], hrest.fault⟩

theorem silent (h : Alike d d') : Abreast (Progress.silent d) (Progress.silent d') :=
  ⟨h, rfl, rfl, rfl, rfl⟩

theorem report (h : Alike d d') (trace : List Event) (written : List Path) (skipped : List String) :
    Abreast (Progress.report trace written skipped d) (Progress.report trace written skipped d') :=
  ⟨h, rfl, rfl, rfl, rfl⟩

theorem ensure (h : Alike d d') (p : Path) :
    Abreast (Progress.ensure p d) (Progress.ensure p d') := by
  obtain ⟨halike, hfault⟩ := h.ensureDirectory p
  refine ⟨halike, rfl, rfl, rfl, ?_⟩
  simp only [Progress.ensure, hfault]

theorem ensureAll (h : Alike d d') (paths : List Path) :
    Abreast (Progress.ensureAll paths d) (Progress.ensureAll paths d') := by
  induction paths generalizing d d' with
  | nil => exact silent h
  | cons p rest ih => exact (ensure h p).andThen fun h => ih h

theorem around (h : Alike d d') (p : Path) :
    Abreast (Progress.around p d) (Progress.around p d') := by
  unfold Progress.around
  cases p.parent? with
  | none => exact silent h
  | some parent => exact ensure h parent

theorem write (h : Alike d d') (p : Path) (content : String) :
    Abreast (Progress.write p content d) (Progress.write p content d') := by
  unfold Progress.write
  rcases h.writeFile p content.toUTF8 with ⟨fault, hd, hd'⟩ | ⟨now, now', hd, hd', hnow⟩
  · rw [hd, hd']
    exact ⟨h, rfl, rfl, rfl, rfl⟩
  · rw [hd, hd']
    exact silent hnow

theorem perform (h : Alike d d') (root : Path) (e : PlanEntry) :
    Abreast (e.perform root d) (e.perform root d') := by
  cases e with
  | skip s => exact report h _ _ _
  | file f =>
      rw [PlanEntry.perform_file, PlanEntry.perform_file]
      exact ((around h _).andThen fun h => write h _ _).andThen fun h => report h _ _ _

theorem performAll (h : Alike d d') (root : Path) (entries : List PlanEntry) :
    Abreast (CrudStack.performAll root entries d) (CrudStack.performAll root entries d') := by
  induction entries generalizing d d' with
  | nil => exact silent h
  | cons e rest ih => exact (perform h root e).andThen fun h => ih h

theorem performPlan (h : Alike d d') (j : Job) (p : Plan) (destination : Path) :
    Abreast (j.perform p destination d) (j.perform p destination d') :=
  (ensureAll h _).andThen fun h => performAll h _ _

end Abreast

/-! ## Edits are discarded -/

/-- One disk is another with changed contents of some files, at places that paths lead to. -/
structure Edited (paths : List Path) (d d' : Disk) : Prop where
  workingDirectory : d'.workingDirectory = d.workingDirectory
  entries : ∀ l, d'.get? l = d.get? l ∨
    (l ∈ paths.map d.locate ∧
      ∃ content edited, d.get? l = some (.file content) ∧ d'.get? l = some (.file edited))

/-- Two disks have the same at every location. -/
structure Same (d d' : Disk) : Prop where
  workingDirectory : d'.workingDirectory = d.workingDirectory
  entries : ∀ l, d'.get? l = d.get? l

theorem Edited.alike {paths : List Path} {d d' : Disk} (h : Edited paths d d') : Alike d d' := by
  refine ⟨h.workingDirectory, fun l => ?_⟩
  rcases h.entries l with hl | ⟨-, content, edited, hd, hd'⟩
  · rw [hl]
  · rw [hd, hd']
    rfl

/-- Disks that are alike and have the same files are the same. -/
theorem Same.of_files {d d' : Disk} (h : Alike d d') (hfiles : d'.files = d.files) :
    Same d d' := by
  refine ⟨h.workingDirectory, fun l => ?_⟩
  have hl := congrFun hfiles l
  have hkind := h.kinds l
  unfold files at hl
  rcases hd : d.get? l with _ | _ | _ <;> rcases hd' : d'.get? l with _ | _ | _ <;>
    simp_all [DiskEntry.isFile]

namespace Job

variable {j : Job} {destination : Path} {d : Disk}

theorem fault_of_outcome {report : Report} (h : (j.run destination d).outcome = .ok report) :
    (j.perform j.fullPlan destination d).fault = none ∧
      report = j.report (j.layout destination).root j.fullPlan := by
  rw [outcome_run] at h
  cases hfault : (j.perform j.fullPlan destination d).fault with
  | some fault => simp [hfault] at h
  | none =>
      rw [hfault] at h
      exact ⟨rfl, (Except.ok.inj h).symm⟩

/-- A run that succeeds, started again on the disk that it has left, is the same run. -/
theorem run_run (h : (j.perform j.fullPlan destination d).fault = none) :
    j.run destination (j.run destination d).disk = j.run destination d := by
  have hagain := perform_perform j.entries_fullPlan_ne_nil h
  have hfault : (j.perform j.fullPlan destination
      (j.perform j.fullPlan destination d).disk).fault = none := by rw [hagain, h]
  rw [disk_run, run_of_done hfault, run_of_done h, hagain]

end Job

/-- What a run that succeeded has left is what every later run leaves: the same run over again
leaves it as it is, and so does a run after any of the files that it writes were edited. -/
theorem rerun_discards_edits {j : Job} {destination : Path} {d : Disk} {report : Report}
    (h : (j.run destination d).outcome = .ok report) :
    j.run destination (j.run destination d).disk = j.run destination d ∧
      ∀ d', Edited report.written d d' →
        (j.run destination d').outcome = .ok report ∧
        (j.run destination d').trace = (j.run destination d).trace ∧
        Same (j.run destination d).disk (j.run destination d').disk := by
  obtain ⟨hfault, rfl⟩ := Job.fault_of_outcome h
  refine ⟨Job.run_run hfault, fun d' hedited => ?_⟩
  have habreast := Abreast.performPlan hedited.alike j j.fullPlan destination
  have hfault' := habreast.fault.trans hfault
  rw [Job.run_of_done hfault, Job.run_of_done hfault', habreast.trace]
  refine ⟨rfl, rfl, Same.of_files habreast.alike ?_⟩
  obtain ⟨done, hreached⟩ := j.perform_reached j.entries_fullPlan_ne_nil destination d
  obtain ⟨done', hreached'⟩ := j.perform_reached j.entries_fullPlan_ne_nil destination d'
  obtain rfl := hreached.finished.mp hfault
  obtain rfl := hreached'.finished.mp hfault'
  have hwrites := writesOf_keeps hedited.alike.keeps (j.layout destination).root j.fullPlan.entries
  have hplaces : (writesOf (j.layout destination).root d j.fullPlan.entries).map Prod.fst =
      (j.report (j.layout destination).root j.fullPlan).written.map d.locate := by
    rw [writesOf_entries, List.map_map, Job.report, List.map_map]
    rfl
  show (j.perform j.fullPlan destination d').disk.files =
    (j.perform j.fullPlan destination d).disk.files
  rw [hreached.effect.files, hreached'.effect.files, hwrites]
  funext l
  by_cases hl : l ∈ (writesOf (j.layout destination).root d j.fullPlan.entries).map Prod.fst
  · exact overwrite_of_mem hl
  · rw [overwrite_of_notMem hl, overwrite_of_notMem hl]
    rcases hedited.entries l with heq | ⟨hplace, -⟩
    · unfold files
      rw [heq]
    · rw [hplaces] at hl
      exact absurd hplace hl

/-- A frontend for two classes of one name, so that one file is written twice. -/
def shopJob : Job :=
  let book : ClassDef := ⟨"Book", [.attr ⟨"title", "text"⟩]⟩
  ⟨⟨[book, book]⟩, {}, .frontend, "shop"⟩

/-- A disk with a part of the shop on it: the page that hosts the application. -/
def shopDisk (page : ByteArray) : Disk :=
  Disk.put ⟨["work"],
    [(["work"], .directory), (["work", "shop"], .directory),
     (["work", "shop", "frontend"], .directory)]⟩
    ["work", "shop", "frontend", "index.html"] (.file page)

theorem fault_shop :
    (shopJob.perform shopJob.fullPlan ⟨""⟩ (shopDisk ⟨#[]⟩)).fault = none := by
  decide +kernel

/-- The page may be edited: it is among the files that are written. -/
theorem edited_shop (page : ByteArray) :
    Edited (shopJob.report (shopJob.layout ⟨""⟩).root shopJob.fullPlan).written
      (shopDisk ⟨#[]⟩) (shopDisk page) := by
  have hpage : ["work", "shop", "frontend", "index.html"] ≠ [] := nofun
  refine ⟨rfl, fun l => ?_⟩
  unfold shopDisk
  rw [get?_put _ hpage, get?_put _ hpage]
  by_cases hl : l = ["work", "shop", "frontend", "index.html"]
  · subst hl
    refine .inr ⟨?_, ⟨#[]⟩, page, rfl, rfl⟩
    decide +kernel
  · left
    rw [if_neg hl, if_neg hl]

theorem rerun_shop :
    ∃ report, (shopJob.run ⟨""⟩ (shopDisk ⟨#[]⟩)).outcome = .ok report ∧
      Edited report.written (shopDisk ⟨#[]⟩) (shopDisk ⟨#[10]⟩) ∧
      shopJob.run ⟨""⟩ (shopJob.run ⟨""⟩ (shopDisk ⟨#[]⟩)).disk =
        shopJob.run ⟨""⟩ (shopDisk ⟨#[]⟩) ∧
      Same (shopJob.run ⟨""⟩ (shopDisk ⟨#[]⟩)).disk (shopJob.run ⟨""⟩ (shopDisk ⟨#[10]⟩)).disk := by
  have hok : (shopJob.run ⟨""⟩ (shopDisk ⟨#[]⟩)).outcome =
      .ok (shopJob.report (shopJob.layout ⟨""⟩).root shopJob.fullPlan) := by
    rw [Job.outcome_run, fault_shop]
  obtain ⟨hagain, hedits⟩ := rerun_discards_edits hok
  have hedited := edited_shop ⟨#[10]⟩
  exact ⟨_, hok, hedited, hagain, (hedits _ hedited).2.2⟩

end CrudStack
