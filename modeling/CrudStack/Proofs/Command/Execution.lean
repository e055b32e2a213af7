/-
# `CrudStack.Proofs.Command.Execution` — a command loads, overrides and runs

A request that was read off a command line is carried out in three phases: the model, the settings,
the run.  The first phase that fails decides the failure; before the run nothing is written and
nothing reported, and nothing is printed unless everything succeeds.  What comes of the run itself
is what comes of its job, on the disk as it was: the model and the settings as they were loaded, but
for the database if the command line names one.

That a frontend is never given a database is a fact about command lines: every argument that is
taken keeps the values to slots that the command has (`Apt.take`), and so do all of them
(`apt_of_parse`).

Main statement: `execute_in_phases`.
-/
import CrudStack.Command.Execute
import CrudStack.Proofs.Lookup
import CrudStack.Proofs.Success

namespace CrudStack.Command

/-! ## Values belong to commands -/

/-- A command has a slot: all have all of them, but the database is for backends alone. -/
def Slot.BelongsTo (slot : Slot) (mode : Mode) : Prop := slot = .database → mode = .backend

theorem belongsTo_of_named {mode : Mode} {name : String} {slot : Slot}
    (h : slotNamed? mode name = some slot) : slot.BelongsTo mode := by
  rintro rfl
  unfold slotNamed? at h
  split at h
  · cases h
  · split at h
    · cases h
    · split at h
      · next hname => exact hname.2
      · cases h

theorem belongsTo_of_lettered {c : Char} {slot : Slot} (h : slotLettered? c = some slot)
    (mode : Mode) : slot.BelongsTo mode := by
  rintro rfl
  unfold slotLettered? at h
  split at h <;> cases h

namespace Reading

/-- All values that have been read are for slots of the command. -/
structure Apt (mode : Mode) (r : Reading) : Prop where
  command : r.mode = mode
  settled : ∀ e ∈ r.settled, e.1.BelongsTo mode
  pending : ∀ e, r.pending = some e → e.1.BelongsTo mode

theorem settleValue_eq_ok {r r' : Reading} {slot : Slot} {value : String}
    (h : r.settleValue slot value = .ok r') :
    r' = { r with settled := r.settled ++ [(slot, value)] } := by
  unfold settleValue at h
  split at h
  · cases h
  · dsimp only at h
    generalize (if slot = .database then _ else _) = valid at h
    cases valid with
    | false => cases h
    | true => exact (Except.ok.inj h).symm

theorem wantHelp_ne_ok {r r' : Reading} : r.wantHelp ≠ .ok r' := by
  intro h
  obtain ⟨_, -, h⟩ := bind_eq_ok.mp h
  cases h

namespace Apt

variable {mode : Mode} {r r' : Reading}

theorem start (mode : Mode) : (Reading.start mode).Apt mode := ⟨rfl, nofun, nofun⟩

theorem settleValue (hr : r.Apt mode) {slot : Slot} (hslot : slot.BelongsTo mode) {value : String}
    (h : r.settleValue slot value = .ok r') : r'.Apt mode := by
  obtain rfl := settleValue_eq_ok h
  refine ⟨hr.command, fun e he => ?_, hr.pending⟩
  rcases List.mem_append.mp he with he | he
  · exact hr.settled e he
  · rwa [List.mem_singleton.mp he]

theorem settle (hr : r.Apt mode) (h : r.settle = .ok r') : r'.Apt mode := by
  unfold Reading.settle at h
  split at h
  · exact Except.ok.inj h ▸ hr
  · cases h
  · next slot value hpending =>
      exact settleValue (r := { r with pending := none }) ⟨hr.command, hr.settled, nofun⟩
        (hr.pending _ hpending) h

theorem option (hr : r.Apt mode) {slot : Slot} (hslot : slot.BelongsTo mode)
    {value : Option String} (h : r.option slot value = .ok r') : r'.Apt mode := by
  obtain ⟨s, hs, h⟩ := bind_eq_ok.mp h
  have hsettled := hr.settle hs
  cases value with
  | none =>
      obtain rfl := pure_eq_ok.mp h
      refine ⟨hsettled.command, hsettled.settled, fun e he => ?_⟩
      rwa [← Option.some.inj he]
  | some value =>
      obtain ⟨t, ht, h⟩ := bind_eq_ok.mp h
      obtain rfl := pure_eq_ok.mp h
      have hkept := hsettled.settleValue hslot ht
      exact ⟨hkept.command, hkept.settled, hkept.pending⟩

theorem takeSource (hr : r.Apt mode) {argument : String} (h : r.takeSource argument = .ok r') :
    r'.Apt mode := by
  unfold Reading.takeSource at h
  split at h
  · cases h
  · obtain ⟨s, hs, h⟩ := bind_eq_ok.mp h
    obtain rfl := pure_eq_ok.mp h
    have hsettled := hr.settle hs
    refine ⟨hsettled.command, hsettled.settled, fun e he => ?_⟩
    rw [← Option.some.inj he]
    exact nofun

theorem takePlain (hr : r.Apt mode) {argument : String} (h : r.takePlain argument = .ok r') :
    r'.Apt mode := by
  unfold Reading.takePlain at h
  split at h
  · next slot value _ hpending =>
      obtain rfl := Except.ok.inj h
      have hslot : slot.BelongsTo mode := hr.pending _ hpending
      refine ⟨hr.command, hr.settled, fun e he => ?_⟩
      rwa [← Option.some.inj he]
  · exact hr.takeSource h

/-- An argument is taken for a slot of the command, or not at all. -/
theorem take (hr : r.Apt mode) {argument : String} (h : r.take argument = .ok r') :
    r'.Apt mode := by
  unfold Reading.take at h
  split at h
  · exact hr.takeSource h
  · split at h
    · exact Except.ok.inj h ▸ ⟨hr.command, hr.settled, hr.pending⟩
    · split at h
      · split at h
        · cases h
        · exact absurd h wantHelp_ne_ok
      · split at h
        · next slot hslot => exact hr.option (hr.command ▸ belongsTo_of_named hslot) h
        · cases h
    · split at h
      · exact absurd h wantHelp_ne_ok
      · split at h
        · next slot hslot => exact hr.option (belongsTo_of_lettered hslot mode) h
        · cases h
    · exact hr.takePlain h

theorem takeAll (hr : r.Apt mode) {arguments : List String}
    (h : arguments.foldlM Reading.take r = .ok r') : r'.Apt mode :=
  foldlM_keeps (fun _ _ _ hr h => take hr h) hr h

/-- A database comes from its slot, which a frontend does not have. -/
theorem request (hr : r.Apt mode) {q : Request} (h : r.request = .ok q)
    (hmode : q.mode = .frontend) : q.database = none := by
  unfold Reading.request at h
  split at h
  · cases h
  · obtain rfl := Except.ok.inj h
    have hfrontend : mode = .frontend := hr.command.symm.trans hmode
    have hnone : r.settled.lookup .database = none := by
      rw [Lookup.lookup_eq_none]
      intro hmem
      obtain ⟨e, he, hslot⟩ := List.mem_map.mp hmem
      have hbackend := hr.settled e he hslot
      rw [hfrontend] at hbackend
      cases hbackend
    simp [hnone]

end Apt

end Reading

theorem parse_eq_ok {line : List String} {r : Request} (h : parse line = .ok r) :
    ∃ mode arguments, parseCommand mode arguments = .ok r := by
  unfold parse at h
  split at h
  · cases h
  · split at h
    · exact ⟨_, _, h⟩
    · split at h <;> cases h

/-- A database is named for backends alone. -/
theorem database_of_frontend {line : List String} {r : Request} (h : parse line = .ok r)
    (hmode : r.mode = .frontend) : r.database = none := by
  obtain ⟨mode, arguments, h⟩ := parse_eq_ok h
  obtain ⟨s, hs, h⟩ := bind_eq_ok.mp h
  obtain ⟨t, ht, h⟩ := bind_eq_ok.mp h
  exact (((Reading.Apt.start mode).takeAll hs).settle ht).request h hmode

/-! ## Phases -/

/-- The job of a request: the model and the settings as they were loaded, but for the database if
there is one on the command line. -/
def Request.job (r : Request) (m : Model) (s : Settings) : Job :=
  ⟨m, { s with backend := { s.backend with database := r.database.getD s.backend.database } },
    r.mode, s.projectName r.source⟩

/-- A request failed before anything was done about it. -/
structure Refused (x : Execution) (d : Disk) (failure : Failure) : Prop where
  outcome : x.outcome = .error failure
  disk : x.disk = d
  trace : x.trace = []
  printed : x.printed = ""

/-- A request ended like the run of a job: with its disk and its trace, and with its report or its
fault. -/
structure Carried (r : Request) (j : Job) (destination : Path) (d : Disk) (x : Execution) :
    Prop where
  disk : x.disk = (j.run destination d).disk
  /-- In front of the trace of the run stands what it was to do. -/
  trace : x.trace = .inputsResolved r.source destination j.project :: (j.run destination d).trace
  /-- A line with the root is printed.  It has no line breaks but those of the root and its own. -/
  finished : ∀ report, (j.run destination d).outcome = .ok report →
    x.outcome = .ok (successLine report) ∧
      x.printed = "✓ " ++ report.mode.heading ++ " generated at " ++ report.root.text ++ "\n" ∧
      x.printed.toList.count '\n' = report.root.text.toList.count '\n' + 1
  failed : ∀ fault, (j.run destination d).outcome = .error fault →
    x.outcome = .error
        ⟨"Failed to generate " ++ r.mode.label ++ " into " ++ destination.text,
          some fault.message⟩ ∧
      x.printed = ""

/-- What comes of a request on a disk, phase by phase. -/
structure InPhases (r : Request) (d : Disk) (environment : List (String × String)) (x : Execution) :
    Prop where
  /-- The model is loaded first, and its fault is the first that counts. -/
  model : ∀ e, Model.load d r.source = .error e →
    Refused x d ⟨"Failed to load model: " ++ r.source.text, e.message?⟩
  settings : ∀ m e, Model.load d r.source = .ok m →
    Settings.load d environment r.config = .error e →
      Refused x d ⟨"Failed to load configuration", e.message?⟩
  run : ∀ m s, Model.load d r.source = .ok m → Settings.load d environment r.config = .ok s →
    let destination := r.destination.getD ((r.source.parent?.getD ⟨""⟩).child "generated")
    Carried r (r.job m s) destination d x
  /-- The settings of a frontend are those that were loaded. -/
  frontend : r.mode = .frontend → ∀ m s, (r.job m s).settings = s

theorem settings_eq (r : Request) (d : Disk) (environment : List (String × String)) (m : Model) :
    r.settings d environment =
      (Settings.load d environment r.config).map fun s => (r.job m s).settings := by
  unfold Request.settings Request.job
  cases Settings.load d environment r.config with
  | error e => rfl
  | ok s => cases r.database <;> rfl

theorem count_successLine (report : Report) :
    (successLine report ++ "\n").toList.count '\n' = report.root.text.toList.count '\n' + 1 := by
  have hheading : report.mode.heading.toList.count '\n' = 0 := by cases report.mode <;> decide
  simp [successLine, List.count_append, hheading]

theorem printed_of_ok {x : Execution} {line : String} (h : x.outcome = .ok line) :
    x.printed = line ++ "\n" := by
  simp [Execution.printed, h]

theorem printed_of_error {x : Execution} {failure : Failure} (h : x.outcome = .error failure) :
    x.printed = "" := by
  simp [Execution.printed, h]

theorem refused {d : Disk} {failure : Failure} : Refused ⟨d, [], .error failure⟩ d failure :=
  ⟨rfl, rfl, rfl, printed_of_error rfl⟩

theorem carried_generate (r : Request) (m : Model) (s : Settings) (d : Disk) :
    Carried r (r.job m s) r.resolvedDestination d (r.generate m (r.job m s).settings d) := by
  have hjob : (Job.mk m (r.job m s).settings r.mode
      ((r.job m s).settings.projectName r.source)) = r.job m s := rfl
  refine ⟨rfl, rfl, fun report hrun => ?_, fun fault hrun => ?_⟩
  · have hline : (r.generate m (r.job m s).settings d).outcome = .ok (successLine report) := by
      simp only [Request.generate, hjob, hrun]
    rw [printed_of_ok hline]
    exact ⟨hline, rfl, count_successLine report⟩
  · have hfailure : (r.generate m (r.job m s).settings d).outcome = .error
        ⟨"Failed to generate " ++ r.mode.label ++ " into " ++ r.resolvedDestination.text,
          some fault.message⟩ := by
      simp only [Request.generate, hjob, hrun]
    exact ⟨hfailure, printed_of_error hfailure⟩

/-- A command line that can be read is carried out phase by phase, on every disk and in every
environment. -/
theorem execute_in_phases {line : List String} {r : Request} (h : parse line = .ok r) (d : Disk)
    (environment : List (String × String)) :
    InPhases r d environment (r.execute d environment) := by
  refine ⟨fun e hmodel => ?_, fun m e hmodel hsettings => ?_, fun m s hmodel hsettings => ?_,
    fun hmode m s => ?_⟩
  · simp only [Request.execute, hmodel]
    exact refused
  · simp only [Request.execute, hmodel, settings_eq r d environment m, hsettings, Except.map]
    exact refused
  · simp only [Request.execute, hmodel, settings_eq r d environment m, hsettings, Except.map]
    exact carried_generate r m s d
  · simp [Request.job, database_of_frontend h hmode]

/-- A backend over another database than the settings have. -/
def ordersRequest : Request := ⟨.backend, ⟨"orders.json"⟩, some ⟨"out"⟩, none, some .h2⟩

/-- A disk with a model on it that has no classes. -/
def ordersDisk : Disk :=
  Disk.put ⟨["work"], [(["work"], .directory)]⟩ ["work", "orders.json"]
    (.file "\x7b\"classes\":[]\x7d".toUTF8)

theorem execute_orders :
    parse ["ovelha", "generate_back", "orders.json", "-d", "out", "--database", "h2"] =
        .ok ordersRequest ∧
      Model.load ordersDisk ⟨"orders.json"⟩ = .ok ⟨[]⟩ ∧
      Settings.load ordersDisk [] none = .ok {} ∧
      Carried ordersRequest ⟨⟨[]⟩, { backend := { database := .h2 } }, .backend, "orders"⟩ ⟨"out"⟩
        ordersDisk (ordersRequest.execute ordersDisk []) := by
  have hparse : parse ["ovelha", "generate_back", "orders.json", "-d", "out", "--database", "h2"] =
      .ok ordersRequest := by decide +kernel
  have hmodel : Model.load ordersDisk ⟨"orders.json"⟩ = .ok ⟨[]⟩ :=
    toOption_eq_some.mp (by decide +kernel)
  have hsettings : Settings.load ordersDisk [] none = .ok {} := by decide +kernel
  have hjob : ordersRequest.job ⟨[]⟩ {} =
      ⟨⟨[]⟩, { backend := { database := .h2 } }, .backend, "orders"⟩ := by decide +kernel
  have hcarried := (execute_in_phases hparse ordersDisk []).run ⟨[]⟩ {} hmodel hsettings
  rw [hjob] at hcarried
  exact ⟨hparse, hmodel, hsettings, hcarried⟩

end CrudStack.Command
