/-
# `CrudStack.Proofs.Run.Independent` — backend and frontend may be generated in either order

The frontend lies inside the directory of the project, which the backend makes as its root.  Apart
from that directory the two share nothing: behind it the paths of a backend go on with `src` or are
its build file, and those of a frontend go on with `frontend`.

So let both have been generated, one after the other.  Each can be taken as a run that started where
the directory of the project was there already (`perform_backend`, `perform_frontend`).  The disk
that was left shows that all paths led down from there and that there was room for both runs at once
(`Left`), so there was room for them in the other order.  What either order leaves is the same: the
same directories, and files that were written at different places.

Main statement: `runs_commute`.
-/
import CrudStack.Proofs.Routes
import CrudStack.Proofs.Run.Fresh

namespace CrudStack

open Disk

/-! ## What a finished run has left -/

/-- All paths of a job go on from one path by names, unless they are that path. -/
structure Job.Extended (j : Job) (p : Plan) (destination base : Path) : Prop where
  directories : ∀ q ∈ (j.layout destination).paths,
    q = base ∨ ∃ ns, ns ≠ [] ∧ Extends base q ns
  files : ∀ f ∈ p.files, ∃ init last,
    Extends base ((j.layout destination).root.join f.path) (init ++ [last])

/-- A disk on which a plan has been performed. -/
structure Job.Left (j : Job) (p : Plan) (destination : Path) (d : Disk) : Prop where
  directories : ∀ q ∈ (j.layout destination).paths, Settled d q
  entries : ∀ e ∈ p.entries, e.Done (j.layout destination).root d

namespace Job

variable {j : Job} {p : Plan} {destination base : Path} {d d' : Disk} {r : Location}

theorem left_of_perform (hp : p.entries ≠ []) (h : (j.perform p destination d).fault = none) :
    j.Left p destination (j.perform p destination d).disk := by
  obtain ⟨done, hreached⟩ := j.perform_reached hp destination d
  obtain rfl := hreached.finished.mp h
  exact ⟨settled_of_perform h, hreached.stays⟩

theorem effect_of_perform (hp : p.entries ≠ []) (h : (j.perform p destination d).fault = none) :
    Effect (j.writes p destination d) d (j.perform p destination d).disk := by
  obtain ⟨done, hreached⟩ := j.perform_reached hp destination d
  obtain rfl := hreached.finished.mp h
  exact hreached.effect

theorem Left.effect {ws : List Write} (heffect : Effect ws d d') (h : j.Left p destination d) :
    j.Left p destination d' :=
  ⟨fun q hq => (h.directories q hq).keeps heffect.toKeeps,
    fun e he => (h.entries e he).effect heffect⟩

theorem parent?_of_extends {q : Path} {ns : List String} (hne : ns ≠ [])
    (h : Extends base q ns) : ∃ parent, q.parent? = some parent := by
  cases hparent : q.parent? with
  | some parent => exact ⟨parent, rfl⟩
  | none =>
      obtain ⟨n, hn⟩ := List.exists_mem_of_ne_nil ns hne
      have hdot := Path.dots_of_parent?_none hparent n (h.pieces ▸ List.mem_append_right _ hn)
      exact absurd hdot (ne_dot_of_isDots (h.names n hn))

section Left

variable (hbase : Below d r [] base) (hextended : j.Extended p destination base)
  (hkeeps : Keeps d d') (hleft : j.Left p destination d')

include hbase hextended hkeeps hleft

/-- A directory that is there now leads down from where it was due. -/
theorem Left.directory {q : Path} (hq : q ∈ (j.layout destination).paths) :
    ∃ ns, Below d r ns q ∧ ∀ l, Between r (r ++ ns) l → d'.get? l = some .directory := by
  rcases hextended.directories q hq with rfl | ⟨ns, hne, hns⟩
  · refine ⟨[], hbase, fun l hl => ?_⟩
    rw [List.append_nil] at hl
    exact absurd hl not_between_self
  · obtain ⟨parent, hparent⟩ := parent?_of_extends hne hns
    have hdirectory := (hleft.directories q hq).resolve_left (by simp [hparent])
    exact ⟨ns, below_of_hasDirectory hbase hns hkeeps hdirectory⟩

/-- A file that is there now leads down from where it was due. -/
theorem Left.file {f : PlannedFile} (hf : .file f ∈ p.entries) :
    ∃ init last, Below d r (init ++ [last]) ((j.layout destination).root.join f.path) ∧
      endsInSlash ((j.layout destination).root.join f.path) = false ∧
      (∃ content, d'.get? (r ++ (init ++ [last])) = some (.file content)) ∧
      ∀ l, Between r (r ++ init) l → d'.get? l = some .directory := by
  have hmem : f ∈ p.files := List.mem_filterMap.mpr ⟨_, hf, rfl⟩
  obtain ⟨init, last, hns⟩ := hextended.files f hmem
  obtain ⟨hbelow, hslash, hfile, hway⟩ :=
    below_of_placed hbase hns hkeeps (hleft.entries _ hf).2
  refine ⟨init, last, hbelow, hslash, hfile, fun l hl => ?_⟩
  rcases hway l (between_concat.mpr (.inl hl)) with rfl | hdirectory
  · exact absurd hl not_between_concat
  · exact hdirectory

theorem Left.laid : j.Laid p destination d r := by
  refine ⟨fun q hq => ?_, fun e he => ?_⟩
  · obtain ⟨ns, hns, -⟩ := hleft.directory hbase hextended hkeeps hq
    exact ⟨ns, hns⟩
  · cases e with
    | skip s => trivial
    | file f =>
        obtain ⟨init, last, hbelow, hslash, -⟩ := hleft.file hbase hextended hkeeps he
        exact ⟨hslash, init, last, hbelow⟩

theorem Left.places {l : Location} (hl : Under r (j.places p destination d) l) :
    d'.get? l = some .directory := by
  obtain ⟨k, hk, hbetween⟩ := hl
  rcases List.mem_append.mp hk with hk | hk
  · obtain ⟨q, hq, rfl⟩ := List.mem_map.mp hk
    obtain ⟨ns, hns, hway⟩ := hleft.directory hbase hextended hkeeps hq
    rw [hns.locate] at hbetween
    exact hway l hbetween
  · obtain ⟨e, he, hplace⟩ := List.mem_filterMap.mp hk
    cases e with
    | skip s => cases hplace
    | file f =>
        obtain ⟨init, last, hbelow, -, -, hway⟩ := hleft.file hbase hextended hkeeps he
        have hk : k = r ++ init := by
          rw [← Option.some.inj hplace, hbelow.locate, ← List.append_assoc, List.dropLast_concat]
        exact hway l (hk ▸ hbetween)

theorem Left.writes {w : Write} (hw : w ∈ j.writes p destination d) :
    ∃ content, d'.get? w.1 = some (.file content) := by
  obtain ⟨e, he, hwrite⟩ := List.mem_filterMap.mp hw
  cases e with
  | skip s => cases hwrite
  | file f =>
      obtain ⟨init, last, hbelow, -, hfile, -⟩ := hleft.file hbase hextended hkeeps he
      rw [← Option.some.inj hwrite, hbelow.locate]
      exact hfile

end Left

/-! ## Two runs from one directory -/

/-- Two plans are performed one after the other where there is room for both. -/
theorem perform_two {j' : Job} {p' : Plan} (h : j.Laid p destination d r)
    (h' : j'.Laid p' destination d r)
    (hroom : Room (Under r (j.places p destination d ++ j'.places p' destination d))
      (j.writes p destination d ++ j'.writes p' destination d) d) :
    (j.perform p destination d).fault = none ∧
      (j'.perform p' destination (j.perform p destination d).disk).fault = none ∧
      Built (Under r (j.places p destination d ++ j'.places p' destination d))
        (j.writes p destination d ++ j'.writes p' destination d) d
        (j'.perform p' destination (j.perform p destination d).disk).disk := by
  have hfirst := perform_builds h hroom.before
  have hkeeps := hfirst.built.toKeeps
  have hleft := hfirst.room hroom
  rw [← places_keeps hkeeps, ← writes_keeps hkeeps] at hleft
  have hsecond := perform_builds (h'.keeps hkeeps) hleft
  rw [places_keeps hkeeps, writes_keeps hkeeps] at hsecond
  exact ⟨hfirst.fault, hsecond.fault,
    (hfirst.built.trans hsecond.built).congr fun l => (under_append l).symm⟩

/-- Disks that were built alike from one disk are the same. -/
theorem same_of_built {made made' : Location → Prop} {ws ws' : List Write} {e e' : Disk}
    (h : Built made ws d e) (h' : Built made' ws' d e') (hmade : ∀ l, made l ↔ made' l)
    (hws : overwrite d.files ws = overwrite d.files ws') : Same e e' := by
  have hfiles : e'.files = e.files := by rw [h'.files, h.files, hws]
  have hdirectory : ∀ l, e'.get? l = some .directory ↔ e.get? l = some .directory := fun l => by
    rw [h'.made, h.made, hmade]
  refine ⟨by rw [h'.workingDirectory, h.workingDirectory], fun l => ?_⟩
  exact get?_eq_of_view (congrFun hfiles l) (hdirectory l)

/-- Two plans that have been performed one after the other, from one directory and with files at
different places, can be performed the other way round, with the same result. -/
theorem perform_swap {j' : Job} {p' : Plan} (hp : p.entries ≠ []) (hp' : p'.entries ≠ [])
    (hbase : Below d r [] base) (hextended : j.Extended p destination base)
    (hextended' : j'.Extended p' destination base)
    (hapart : ∀ k ∈ (j.writes p destination d).map Prod.fst,
      k ∉ (j'.writes p' destination d).map Prod.fst)
    (h : (j.perform p destination d).fault = none)
    (h' : (j'.perform p' destination (j.perform p destination d).disk).fault = none) :
    (j'.perform p' destination d).fault = none ∧
      (j.perform p destination (j'.perform p' destination d).disk).fault = none ∧
      Same (j'.perform p' destination (j.perform p destination d).disk).disk
        (j.perform p destination (j'.perform p' destination d).disk).disk := by
  have heffect := effect_of_perform hp h
  have heffect' := effect_of_perform hp' h'
  have hall := heffect.trans heffect'
  have hleft := (left_of_perform hp h).effect heffect'
  have hleft' := left_of_perform hp' h'
  have hlaid := hleft.laid hbase hextended hall.toKeeps
  have hlaid' := hleft'.laid hbase hextended' hall.toKeeps
  have hroom : Room (Under r (j.places p destination d ++ j'.places p' destination d))
      (j.writes p destination d ++ j'.writes p' destination d) d := by
    refine room_of_effect hall (fun l hl => ?_) (fun w hw => ?_)
    · rcases (under_append l).mp hl with hl | hl
      · exact hleft.places hbase hextended hall.toKeeps hl
      · exact hleft'.places hbase hextended' hall.toKeeps hl
    · rcases List.mem_append.mp hw with hw | hw
      · exact hleft.writes hbase hextended hall.toKeeps hw
      · exact hleft'.writes hbase hextended' hall.toKeeps hw
  have hroom' : Room (Under r (j'.places p' destination d ++ j.places p destination d))
      (j'.writes p' destination d ++ j.writes p destination d) d := hroom.swap
  obtain ⟨-, -, hbuilt⟩ := perform_two hlaid hlaid' hroom
  obtain ⟨hfault', hfault, hbuilt'⟩ := perform_two hlaid' hlaid hroom'
  refine ⟨hfault', hfault, same_of_built hbuilt hbuilt' (fun l => ?_) ?_⟩
  · rw [under_append, under_append, or_comm]
  · rw [overwrite_append, overwrite_append, overwrite_comm hapart]

end Job

/-! ## The directory of the project -/

section Base

variable {j : Job} {p : Plan} {destination : Path} {d d' : Disk} {q : Path} {rest : List Path}

/-- What a run does depends on the disk only by its first directory. -/
theorem Job.perform_congr (hpaths : (j.layout destination).paths = q :: rest)
    (h : d'.ensureDirectory q = d.ensureDirectory q) :
    j.perform p destination d' = j.perform p destination d := by
  have hfirst : Progress.ensure q d' = Progress.ensure q d := by
    rw [Progress.ensure, h, Progress.ensure]
  rw [perform_eq, perform_eq, hpaths, Progress.ensureAll, hfirst, Progress.ensureAll]

theorem Progress.fault_of_andThen {q : Progress} {next : Disk → Progress}
    (h : (q.andThen next).fault = none) : q.fault = none := by
  cases hq : q.fault with
  | none => rfl
  | some fault =>
      rw [andThen_of_fault hq, hq] at h
      cases h

theorem Progress.ensureDirectory_of_ensureAll (h : (ensureAll (q :: rest) d).fault = none) :
    (d.ensureDirectory q).fault = none := by
  have hfirst : (ensure q d).fault = none := fault_of_andThen h
  exact Option.map_eq_none_iff.mp hfirst

theorem Progress.ensureDirectory_second {q' : Path}
    (h : (ensureAll (q :: q' :: rest) d).fault = none) :
    ((d.ensureDirectory q).disk.ensureDirectory q').fault = none := by
  have hfirst : ensure q d = silent (d.ensureDirectory q).disk := by
    rw [ensure, ensureDirectory_of_ensureAll h]
    rfl
  rw [ensureAll, hfirst, silent_andThen] at h
  exact ensureDirectory_of_ensureAll h

/-- Directories that have been made lead on to a directory. -/
theorem below_of_ensured {base : Path} (h : (d.ensureDirectory base).fault = none)
    (hcheck : checkPath base = .ok ())
    (hstart : (d.ensureDirectory base).disk.get? ((d.ensureDirectory base).disk.start base) =
      some .directory) :
    ∃ r, Below (d.ensureDirectory base).disk r [] base := by
  cases hparent : base.parent? with
  | none =>
      exact ⟨_, hcheck, nofun, nofun, hstart, pieces base, (List.append_nil _).symm,
        walk_of_dots hstart (Path.dots_of_parent?_none hparent)⟩
  | some q =>
      have hdirectory := (settled_of_ensureDirectory h).resolve_left (by simp [hparent])
      obtain ⟨r, hr⟩ := hasDirectory_iff.mp hdirectory
      obtain ⟨-, -, hwalk, hr, -⟩ := lookup_eq_ok.mp hr
      exact ⟨r, hcheck, nofun, nofun, hr, pieces base, (List.append_nil _).symm, hwalk⟩

end Base

/-- The paths of a job go on from the directory of the project. -/
theorem Job.extended_fullPlan {j : Job} (hgroup : '/' ∉ j.settings.backend.groupId.toList)
    (hclasses : ∀ c ∈ j.model.classes, '/' ∉ c.name.toList) (destination : Path) :
    j.Extended j.fullPlan destination (destination.child j.project) := by
  refine ⟨fun q hq => paths_extend hgroup destination hq, fun f hf => ?_⟩
  refine ⟨j.rootNames ++ j.roleNames (f.kind.role j.mode), j.fileName f, ?_⟩
  rw [List.append_assoc]
  exact (file_extends hf hgroup hclasses destination).1

section Modes

variable {m : Model} {s : Settings} {project : String} {destination : Path} {d : Disk}

theorem changed_eq {c : Changed} (h : c.fault = none) : (⟨c.disk, none⟩ : Changed) = c := by
  rw [← h]

theorem layout_backendJob :
    (backendJob m s project).layout destination =
      Layout.backend destination project (s.basePackage project) := rfl

theorem layout_frontendJob :
    (frontendJob m s project).layout destination = Layout.frontend destination project := rfl

/-- A backend makes the directory of the project first, so it may be there already. -/
theorem perform_backend (p : Plan)
    (h : (d.ensureDirectory (destination.child project)).fault = none) :
    (backendJob m s project).perform p destination
        (d.ensureDirectory (destination.child project)).disk =
      (backendJob m s project).perform p destination d := by
  obtain ⟨rest, hpaths⟩ := Layout.backend_paths destination project (s.basePackage project)
  have hagain := ensureDirectory_of_settled (settled_of_ensureDirectory h)
  exact Job.perform_congr (layout_backendJob ▸ hpaths) (hagain.trans (changed_eq h))

theorem isPlain_frontend : Path.IsPlain ⟨"frontend"⟩ :=
  Path.isPlain_of_notMem (by decide) (by decide)

theorem parent?_frontend (base : Path) : (base.child "frontend").parent? = some base.trimmed :=
  Path.parent?_child base isPlain_frontend (by decide) (by decide)

/-- A frontend makes its root first, and the directory of the project is the parent of that. -/
theorem perform_frontend (p : Plan)
    (h : (d.ensureDirectory (destination.child project)).fault = none)
    (hcheck : checkPath ((destination.child project).child "frontend") = .ok ()) :
    (frontendJob m s project).perform p destination
        (d.ensureDirectory (destination.child project)).disk =
      (frontendJob m s project).perform p destination d := by
  obtain ⟨rest, hpaths⟩ := Layout.frontend_paths destination project
  have htrimmed := ensureDirectory_trimmed h
  have hagain := ensureDirectory_parent (parent?_frontend (destination.child project)) hcheck
    (d := d) (by rw [htrimmed, h])
  rw [htrimmed] at hagain
  exact Job.perform_congr (layout_frontendJob ▸ hpaths) hagain

/-- A frontend that was generated has a root that the system accepts. -/
theorem check_of_frontend {p : Plan}
    (h : ((frontendJob m s project).perform p destination d).fault = none) :
    checkPath ((destination.child project).child "frontend") = .ok () := by
  obtain ⟨rest, hpaths⟩ := Layout.frontend_paths destination project
  have hroot := Job.settled_of_perform h ((destination.child project).child "frontend")
    (by rw [layout_frontendJob, hpaths]; exact List.mem_cons_self)
  have hdirectory := hroot.resolve_left (by rw [parent?_frontend]; nofun)
  exact checkPath_of_hasDirectory hdirectory

/-- A backend that was generated has made the directory of the project, and then its sources. -/
theorem ensured_of_backend {p : Plan}
    (h : ((backendJob m s project).perform p destination d).fault = none) :
    (d.ensureDirectory (destination.child project)).fault = none ∧
      ((d.ensureDirectory (destination.child project)).disk.ensureDirectory
        (((backendJob m s project).layout destination).directory .sources)).fault = none := by
  obtain ⟨rest, hpaths⟩ := Layout.backend_paths destination project (s.basePackage project)
  rw [Job.perform_eq, layout_backendJob, hpaths] at h
  have hall := Progress.fault_of_andThen h
  rw [layout_backendJob, Layout.backend_directory]
  exact ⟨Progress.ensureDirectory_of_ensureAll hall, Progress.ensureDirectory_second hall⟩

variable (hgroup : '/' ∉ s.backend.groupId.toList)

include hgroup

/-- The directory of the project leads on once the backend has been generated. -/
theorem below_of_backend {p : Plan} (hcheck : checkPath (destination.child project) = .ok ())
    (h : ((backendJob m s project).perform p destination d).fault = none) :
    ∃ r, Below (d.ensureDirectory (destination.child project)).disk r []
      (destination.child project) := by
  obtain ⟨hproject, hmade⟩ := ensured_of_backend h
  have hsources := Job.directory_extends (j := backendJob m s project) hgroup destination .sources
  obtain ⟨parent, hparent⟩ := Job.parent?_of_extends (by simp [Job.roleNames, Layout.roleNames])
    hsources
  have hstart := start_of_ensureDirectory hparent hmade
  rw [start_congr _ hsources.isAbsolute] at hstart
  exact below_of_ensured hproject hcheck hstart

variable (hclasses : ∀ c ∈ m.classes, '/' ∉ c.name.toList)

include hclasses

/-- No file of a backend lies where a file of a frontend does. -/
theorem files_apart {f g : PlannedFile} (hf : f ∈ (backendJob m s project).fullPlan.files)
    (hg : g ∈ (frontendJob m s project).fullPlan.files) :
    d.locate (((backendJob m s project).layout destination).root.join f.path) ≠
      d.locate (((frontendJob m s project).layout destination).root.join g.path) := by
  intro hsame
  rw [(Job.file_extends hf hgroup hclasses destination).1.locate,
    (Job.file_extends hg hgroup hclasses destination).1.locate] at hsame
  have hnames := congrArg List.head? (List.append_cancel_left hsame)
  rw [Job.head?_frontend (j := frontendJob m s project) rfl] at hnames
  rcases Job.head?_backend hf rfl with hhead | hhead
  · rw [hhead] at hnames
    exact absurd hnames (by decide)
  · rw [hhead] at hnames
    exact absurd hnames (by decide)

theorem writes_apart {k : Location}
    (hk : k ∈ ((backendJob m s project).writes (backendJob m s project).fullPlan destination
      d).map Prod.fst) :
    k ∉ ((frontendJob m s project).writes (frontendJob m s project).fullPlan destination
      d).map Prod.fst := by
  intro hk'
  rw [Job.map_fst_writes] at hk hk'
  obtain ⟨f, hf, rfl⟩ := List.mem_map.mp hk
  obtain ⟨g, hg, hsame⟩ := List.mem_map.mp hk'
  exact files_apart hgroup hclasses hf hg hsame.symm

end Modes

/-- If a backend and then a frontend of one project are generated, they can as well be generated the
other way round: with the same reports, to the same disk, and no file of the one is a file of the
other. -/
theorem runs_commute (m : Model) (s : Settings) (project : String) (destination : Path) (d : Disk)
    {made shown : Report} (hclasses : ∀ c ∈ m.classes, '/' ∉ c.name.toList)
    (hgroup : '/' ∉ s.backend.groupId.toList)
    (hbackend : ((backendJob m s project).run destination d).outcome = .ok made)
    (hfrontend : ((frontendJob m s project).run destination
      ((backendJob m s project).run destination d).disk).outcome = .ok shown) :
    ((frontendJob m s project).run destination d).outcome = .ok shown ∧
      ((backendJob m s project).run destination
        ((frontendJob m s project).run destination d).disk).outcome = .ok made ∧
      Same ((frontendJob m s project).run destination
          ((backendJob m s project).run destination d).disk).disk
        ((backendJob m s project).run destination
          ((frontendJob m s project).run destination d).disk).disk ∧
      ∀ p ∈ made.written, ∀ q ∈ shown.written, d.locate p ≠ d.locate q := by
  obtain ⟨hb, rfl⟩ := Job.fault_of_outcome hbackend
  obtain ⟨hf, rfl⟩ := Job.fault_of_outcome hfrontend
  rw [Job.disk_run] at hf
  have hcheck := check_of_frontend hf
  have hproject := (ensured_of_backend hb).1
  have hbeginning := Path.text_child (destination.child project) isPlain_frontend
  obtain ⟨r, hbase⟩ := below_of_backend hgroup (checkPath_beginning hbeginning hcheck) hb
  have hextended := Job.extended_fullPlan (j := backendJob m s project) hgroup hclasses destination
  have hextended' :=
    Job.extended_fullPlan (j := frontendJob m s project) hgroup hclasses destination
  rw [← perform_backend _ hproject] at hb hf
  obtain ⟨hf', hb', hsame⟩ := Job.perform_swap (Job.entries_fullPlan_ne_nil _)
    (Job.entries_fullPlan_ne_nil _) hbase hextended hextended'
    (fun k hk => writes_apart hgroup hclasses hk) hb hf
  rw [perform_frontend _ hproject hcheck] at hf' hb' hsame
  rw [perform_backend _ hproject] at hsame
  simp only [Job.disk_run, Job.outcome_run, hf', hb']
  refine ⟨trivial, trivial, hsame, fun p hp q hq => ?_⟩
  obtain ⟨f, hf, rfl⟩ := List.mem_map.mp hp
  obtain ⟨g, hg, rfl⟩ := List.mem_map.mp hq
  exact files_apart hgroup hclasses hf hg

/-- In an empty directory there is room for the backend and for the frontend of a stock. -/
theorem fault_stock :
    ((stockJob .backend).perform (stockJob .backend).fullPlan ⟨""⟩ .empty).fault = none ∧
      ((stockJob .frontend).perform (stockJob .frontend).fullPlan ⟨""⟩
        ((stockJob .backend).perform (stockJob .backend).fullPlan ⟨""⟩ .empty).disk).fault =
          none := by
  have hlaid := Job.laid_of_empty (named_stock .backend) (fits_stock .backend) empty_stock
  have hlaid' := Job.laid_of_empty (named_stock .frontend) (fits_stock .frontend) empty_stock
  have hroom : Room (Under ["work"]
      ((stockJob .backend).places (stockJob .backend).fullPlan ⟨""⟩ .empty ++
        (stockJob .frontend).places (stockJob .frontend).fullPlan ⟨""⟩ .empty))
      ((stockJob .backend).writes (stockJob .backend).fullPlan ⟨""⟩ .empty ++
        (stockJob .frontend).writes (stockJob .frontend).fullPlan ⟨""⟩ .empty) .empty := by
    refine room_of_empty empty_stock "lib" (fun k hk => ?_) (fun w hw => ?_)
    · rcases List.mem_append.mp hk with hk | hk
      · exact Job.places_names (named_stock .backend) (fits_stock .backend) empty_stock hk
      · exact Job.places_names (named_stock .frontend) (fits_stock .frontend) empty_stock hk
    · rcases List.mem_append.mp hw with hw | hw
      · exact Job.writes_names (named_stock .backend) (fits_stock .backend) empty_stock hw
      · exact Job.writes_names (named_stock .frontend) (fits_stock .frontend) empty_stock hw
  obtain ⟨hfirst, hsecond, -⟩ := Job.perform_two hlaid hlaid' hroom
  exact ⟨hfirst, hsecond⟩

theorem commute_stock :
    ∃ made shown, ((stockJob .backend).run ⟨""⟩ .empty).outcome = .ok made ∧
      ((stockJob .frontend).run ⟨""⟩ ((stockJob .backend).run ⟨""⟩ .empty).disk).outcome =
        .ok shown ∧
      ((stockJob .frontend).run ⟨""⟩ .empty).outcome = .ok shown ∧
      Same ((stockJob .frontend).run ⟨""⟩ ((stockJob .backend).run ⟨""⟩ .empty).disk).disk
        ((stockJob .backend).run ⟨""⟩ ((stockJob .frontend).run ⟨""⟩ .empty).disk).disk := by
  obtain ⟨hb, hf⟩ := fault_stock
  have hbackend := (stockJob .backend).outcome_run ⟨""⟩ .empty
  have hfrontend := (stockJob .frontend).outcome_run ⟨""⟩
    ((stockJob .backend).run ⟨""⟩ .empty).disk
  rw [hb] at hbackend
  rw [Job.disk_run, hf] at hfrontend
  rw [← Job.disk_run] at hfrontend
  obtain ⟨hfirst, -, hsame, -⟩ :=
    runs_commute (stockJob .backend).model (stockJob .backend).settings "lib" ⟨""⟩ .empty
      (named_stock .backend).slash (named_stock .backend).group.1 hbackend hfrontend
  exact ⟨_, _, hbackend, hfrontend, hfirst, hsame⟩

end CrudStack
