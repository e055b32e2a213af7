/-
# `CrudStack.Proofs.Command.Decoded` — a command line says what was meant

A request is written down by giving its values, each in a part of the line; the order of the parts
and the spelling of the options are free.  The reader gets the request back from every such line,
and it gets no request from any other line that consists of parts (`parse_eq_ok_iff`).

A line that is such a line but for one slip is refused, and the fault names the slip: one source too
many is an unknown argument, an option that comes again is a repeated one whatever its spelling, and
a database in a frontend is unknown like any other option that a command does not have.  The slip
may stand anywhere.  If it comes first, then a part of the request is the one that is met second; so
these proofs look for the first part whose slot has a value before it (`exists_second`).

Main statement: `parse_decoded`.
-/
import CrudStack.Proofs.Command.Part

namespace CrudStack.Command

/-! ## The values of a request -/

namespace Request

/-- The value that a request gives a slot. -/
def value? (q : Request) : Slot → Option String
  | .source => some q.source.text
  | .destination => q.destination.map Path.text
  | .config => q.config.map Path.text
  | .database => q.database.map Database.label

/-- All values of a request with what they are for. -/
def entries (q : Request) : List (Slot × String) :=
  [.source, .destination, .config, .database].filterMap fun slot =>
    (q.value? slot).map fun value => (slot, value)

/-- A request that a line can ask for: no value is empty, and a database is for backends alone. -/
structure Givable (q : Request) : Prop where
  values : ∀ slot value, q.value? slot = some value → value ≠ ""
  database : q.mode = .frontend → q.database = none

variable {q : Request}

theorem mem_entries {slot : Slot} {value : String} :
    (slot, value) ∈ q.entries ↔ q.value? slot = some value := by
  have hall : slot ∈ [Slot.source, .destination, .config, .database] := by cases slot <;> decide
  simp only [entries, List.mem_filterMap, Option.map_eq_some_iff, Prod.mk.injEq]
  constructor
  · rintro ⟨_, -, _, hvalue, rfl, rfl⟩
    exact hvalue
  · intro hvalue
    exact ⟨slot, hall, value, hvalue, rfl, rfl⟩

theorem map_fst_entries (q : Request) : q.entries.map Prod.fst =
    [Slot.source, .destination, .config, .database].filter fun slot => (q.value? slot).isSome := by
  rw [entries, List.map_filterMap, ← List.filterMap_eq_filter]
  refine congrArg (List.filterMap · _) (funext fun slot => ?_)
  cases hvalue : q.value? slot <;> simp [Option.guard, hvalue]

theorem nodup_entries (q : Request) : (q.entries.map Prod.fst).Nodup := by
  rw [map_fst_entries]
  exact List.Nodup.filter _ (by decide)

theorem lookup_entries (q : Request) (slot : Slot) : q.entries.lookup slot = q.value? slot := by
  refine Option.ext fun value => ?_
  rw [← mem_entries]
  exact ⟨Lookup.mem_of_lookup, Lookup.lookup_of_mem q.nodup_entries⟩

theorem Givable.fit (hq : q.Givable) : Fit q.entries := by
  refine ⟨q.nodup_entries, fun ⟨slot, value⟩ he => ?_⟩
  rw [mem_entries] at he
  cases slot with
  | database =>
      obtain ⟨d, -, rfl⟩ := Option.map_eq_some_iff.mp he
      exact ⟨d, rfl⟩
  | _ => exact hq.values _ _ he

theorem Givable.belongsTo (hq : q.Givable) {e : Slot × String} (he : e ∈ q.entries) :
    e.1.BelongsTo q.mode := by
  obtain ⟨slot, value⟩ := e
  rintro rfl
  cases hmode : q.mode with
  | backend => rfl
  | frontend =>
      rw [mem_entries, value?, hq.database hmode] at he
      cases he

end Request

namespace Reading

variable {r s : Reading} {mode : Mode} {es : List (Slot × String)}

/-- Fit values make up the request that gives every slot what they give it. -/
theorem request_eq_ok_iff (hfit : Fit r.settled) {q : Request} :
    r.request = .ok q ↔ q.mode = r.mode ∧ ∀ slot, r.settled.lookup slot = q.value? slot := by
  constructor
  · intro h
    unfold request at h
    split at h
    · cases h
    · next source hsource =>
        obtain rfl := Except.ok.inj h
        refine ⟨rfl, fun slot => ?_⟩
        cases slot with
        | source => exact hsource
        | destination => simp [Request.value?, Function.comp_def]
        | config => simp [Request.value?, Function.comp_def]
        | database =>
            cases hdatabase : r.settled.lookup .database with
            | none => rfl
            | some value =>
                obtain ⟨d, rfl⟩ := hfit.taken _ (Lookup.mem_of_lookup hdatabase)
                simp [Request.value?, Settings.ofLabel?_label]
  · rintro ⟨hmode, hvalues⟩
    have hsource : r.settled.lookup .source = some q.source.text := hvalues .source
    have hdatabase : (r.settled.lookup .database).bind Database.ofLabel? = q.database := by
      rw [hvalues .database, Request.value?]
      cases q.database with
      | none => rfl
      | some d => exact Settings.ofLabel?_label d
    rw [request, hsource]
    dsimp only
    rw [hdatabase, hvalues .destination, hvalues .config, ← hmode]
    simp [Request.value?, Function.comp_def]

end Reading

/-! ## Lines -/

/-- What a second value of a slot counts as: a source as an argument that there is no place for. -/
def Slot.surplus : Slot → UsageFault
  | .source => .unknownArgument
  | _ => .repeatedOption

/-- A command line: the program, the command by one of its names, and the parts in their order. -/
def lineOf (program name : String) (parts : List Part) : List String :=
  program :: name :: parts.flatMap Part.arguments

section Line

variable {mode : Mode} {program name : String} (hname : name ∈ commandNames mode)

include hname

theorem parse_lineOf (parts : List Part) :
    parse (lineOf program name parts) =
      (parts.flatMap Part.arguments).foldlM Reading.take (Reading.start mode) >>= Reading.settle
        >>= Reading.request := by
  rw [parse, lineOf, List.drop_succ_cons, List.drop_zero]
  dsimp only
  rw [commandNamed?_of_mem hname, bind_assoc]
  rfl

/-- A line is read on behind parts that have been taken. -/
theorem parse_behind {before : List Part} {r : Reading}
    (hr : (before.flatMap Part.arguments).foldlM Reading.take (Reading.start mode) = .ok r)
    (after : List Part) :
    parse (lineOf program name (before ++ after)) =
      (after.flatMap Part.arguments).foldlM Reading.take r >>= Reading.settle
        >>= Reading.request := by
  rw [parse_lineOf hname, List.flatMap_append, List.foldlM_append, hr, ok_bind]

/-- Parts that can all be taken leave it to their values whether there is a request. -/
theorem parse_of_fit (program : String) {parts : List Part} (hbare : ∀ p ∈ parts, p.IsBare)
    (hslots : ∀ p ∈ parts, p.slot.BelongsTo mode) (hfit : Fit (parts.map Part.entry)) :
    ∃ r : Reading, r.mode = mode ∧ r.settled = parts.map Part.entry ∧
      parse (lineOf program name parts) = r.request := by
  obtain ⟨r, hr, hholds⟩ := Reading.exists_read hbare hslots hfit
  refine ⟨{ r with settled := parts.map Part.entry, pending := none }, hholds.command, rfl, ?_⟩
  rw [parse_lineOf hname, hr, ok_bind, (hholds.settle _).mpr ⟨hfit, rfl⟩, ok_bind]

/-- A line is read as a request just if its parts give the values of the request and no others, each
once and in any order. -/
theorem parse_eq_ok_iff {parts : List Part} (hbare : ∀ p ∈ parts, p.IsBare) {q : Request} :
    parse (lineOf program name parts) = .ok q ↔
      q.mode = mode ∧ q.Givable ∧ (parts.map Part.entry).Perm q.entries := by
  constructor
  · intro h
    have hdatabase := database_of_frontend h
    rw [parse_lineOf hname] at h
    obtain ⟨s, h', h⟩ := bind_eq_ok.mp h
    obtain ⟨r, hr, hs⟩ := bind_eq_ok.mp h'
    have hholds := Reading.holds_of_read hbare (Reading.holds_start mode) hr
    rw [List.nil_append] at hholds
    obtain ⟨hfit, rfl⟩ := (hholds.settle s).mp hs
    obtain ⟨hmode, hvalues⟩ := (Reading.request_eq_ok_iff hfit).mp h
    refine ⟨hmode.trans hholds.command, ⟨fun slot value hvalue => ?_, hdatabase⟩, ?_⟩
    · have hmem := Lookup.mem_of_lookup ((hvalues slot).trans hvalue)
      exact Slot.Takes.ne_empty (hfit.taken _ hmem)
    · rw [Lookup.perm_iff_lookup hfit.distinct q.nodup_entries]
      exact fun slot => (hvalues slot).trans (q.lookup_entries slot).symm
  · rintro ⟨rfl, hq, hperm⟩
    have hfit : Fit (parts.map Part.entry) := hq.fit.perm hperm.symm
    have hslots : ∀ p ∈ parts, p.slot.BelongsTo q.mode := fun p hp =>
      hq.belongsTo (hperm.mem_iff.mp (List.mem_map_of_mem hp))
    obtain ⟨r, hmode, hsettled, hparse⟩ := parse_of_fit hname program hbare hslots hfit
    rw [hparse, Reading.request_eq_ok_iff (hsettled ▸ hfit), hsettled]
    refine ⟨hmode.symm, fun slot => ?_⟩
    rw [← q.lookup_entries]
    exact (Lookup.perm_iff_lookup hfit.distinct q.nodup_entries).mp hperm slot

end Line

/-- A path without characters is no path, so a request with one cannot be written down. -/
example : parse ["ovelha", "generate_back", "m.json", "-d", ""] = .error .invalidValue := by decide

/-! ## Slips -/

section Slip

variable {mode : Mode} {program name : String} (hname : name ∈ commandNames mode)

include hname

/-- A part is refused if its slot has a value before it and everything else is all right. -/
theorem parse_of_second {before after : List Part} {p : Part}
    (hbare : ∀ o ∈ before ++ p :: after, o.IsBare)
    (hslots : ∀ o ∈ before ++ p :: after, o.slot.BelongsTo mode)
    (hfit : Fit (before.map Part.entry)) (hsecond : p.slot ∈ before.map Part.slot)
    (hdistinct : ((before ++ after).map Part.slot).Nodup) :
    parse (lineOf program name (before ++ p :: after)) = .error p.slot.surplus := by
  rw [List.forall_mem_append, List.forall_mem_cons] at hbare hslots
  obtain ⟨r, hr, hholds⟩ := Reading.exists_read hbare.1 hslots.1 hfit
  have hmem : p.slot ∈ (before.map Part.entry).map Prod.fst := by
    rwa [Part.map_fst_map_entry]
  rw [parse_behind hname hr, List.flatMap_cons, List.foldlM_append]
  by_cases hoption : p.slot = .source
  · have hsource : r.hasSource = true := hholds.source.mpr (hoption ▸ hmem)
    rw [Reading.take_arguments_secondSource hholds.toRests hsource hbare.2.1 hoption, hoption]
    rfl
  · have hsurplus : p.slot.surplus = .repeatedOption := by
      cases hp : p.slot <;> first | rfl | exact absurd hp hoption
    rw [hsurplus]
    obtain htake | ⟨s, htake, hsettle⟩ :=
      hholds.take_again hfit hbare.2.1 hslots.2.1 hoption hmem
    · rw [htake]
      rfl
    · have hs := hholds.take hbare.2.1 htake
      have hfirst : ∀ o ∈ after, o.slot = .source → s.hasSource = false := by
        intro o ho hsource
        rw [Bool.eq_false_iff, ne_eq, hs.source, List.map_append, Part.map_fst_map_entry]
        intro hmem
        obtain hmem | hmem := List.mem_append.mp hmem
        · rw [List.map_append, List.nodup_append] at hdistinct
          exact hdistinct.2.2 _ hmem _ (List.mem_map_of_mem ho) hsource.symm
        · exact hoption (List.mem_singleton.mp hmem).symm
      rw [htake, ok_bind, Reading.settle_read_of_error hs.toRests hsettle hbare.2.2
        (hs.command ▸ hslots.2.2) hfirst]
      rfl

/-- A part that is no option of the command is refused behind parts that are all right. -/
theorem parse_of_unknown {before after : List Part} {p : Part} (hbare : ∀ o ∈ before, o.IsBare)
    (hslots : ∀ o ∈ before, o.slot.BelongsTo mode) (hfit : Fit (before.map Part.entry))
    (hslot : ¬p.slot.BelongsTo mode) :
    parse (lineOf program name (before ++ p :: after)) = .error .unknownArgument := by
  obtain ⟨r, hr, hholds⟩ := Reading.exists_read hbare hslots hfit
  rw [parse_behind hname hr, List.flatMap_cons, List.foldlM_append,
    Reading.take_arguments_unknown hholds.toRests (hholds.command ▸ hslot)]
  rfl

/-- Parts that are all right but give no source are not enough. -/
theorem parse_of_sourceless {parts : List Part} (hbare : ∀ p ∈ parts, p.IsBare)
    (hslots : ∀ p ∈ parts, p.slot.BelongsTo mode) (hfit : Fit (parts.map Part.entry))
    (hsource : .source ∉ parts.map Part.slot) :
    parse (lineOf program name parts) = .error .missingArgument := by
  obtain ⟨r, -, hsettled, hparse⟩ := parse_of_fit hname program hbare hslots hfit
  have hnone : (parts.map Part.entry).lookup .source = none := by
    rwa [Lookup.lookup_eq_none, Part.map_fst_map_entry]
  rw [hparse, Reading.request, hsettled, hnone]

end Slip

/-- Where one of several parts is added once more, one part comes second for its slot. -/
theorem exists_second {extra : Part} {parts others : List Part}
    (hslot : extra.slot ∈ parts.map Part.slot) (hothers : others.Perm (extra :: parts)) :
    ∃ before p after, others = before ++ p :: after ∧ p.slot = extra.slot ∧
      p.slot ∈ before.map Part.slot ∧
      ((before ++ after).map Part.slot).Perm (parts.map Part.slot) := by
  obtain ⟨front, back, rfl⟩ := List.append_of_mem (hothers.mem_iff.mpr List.mem_cons_self)
  have hrest : (front ++ back).Perm parts := (List.perm_middle.symm.trans hothers).cons_inv
  have hslots := hrest.map Part.slot
  rw [← hslots.mem_iff, List.map_append, List.mem_append] at hslot
  obtain hfront | hback := hslot
  · exact ⟨front, extra, back, rfl, rfl, hfront, hslots⟩
  · obtain ⟨p, hp, hpslot⟩ := List.mem_map.mp hback
    obtain ⟨middle, after, rfl⟩ := List.append_of_mem hp
    refine ⟨front ++ extra :: middle, p, after, by simp, hpslot, by simp [hpslot], ?_⟩
    refine List.Perm.trans ?_ hslots
    simp only [List.map_append, List.map_cons, hpslot, List.append_assoc, List.cons_append]
    exact List.perm_middle.symm.append_left _

/-! ## What was meant -/

/-- Parts that give a request: its values and no others, each once and in any order. -/
structure Gives (parts : List Part) (q : Request) : Prop where
  bare : ∀ p ∈ parts, p.IsBare
  values : (parts.map Part.entry).Perm q.entries

section Gives

variable {q : Request} {parts others : List Part} {extra : Part} {program name : String}

theorem Gives.belongsTo (h : Gives parts q) (hq : q.Givable) :
    ∀ p ∈ parts, p.slot.BelongsTo q.mode := fun _ hp =>
  hq.belongsTo (h.values.mem_iff.mp (List.mem_map_of_mem hp))

theorem Gives.fit (h : Gives parts q) (hq : q.Givable) : Fit (parts.map Part.entry) :=
  hq.fit.perm h.values.symm

theorem Gives.nodup (h : Gives parts q) : (parts.map Part.slot).Nodup := by
  rw [← Part.map_fst_map_entry, (h.values.map Prod.fst).nodup_iff]
  exact q.nodup_entries

theorem parse_of_gives (hname : name ∈ commandNames q.mode) (h : Gives parts q) (hq : q.Givable) :
    parse (lineOf program name parts) = .ok q :=
  (parse_eq_ok_iff hname h.bare).mpr ⟨rfl, hq, h.values⟩

/-- Whatever a second value of a slot is, there is a fault. -/
theorem exists_fault_of_second (hname : name ∈ commandNames q.mode) (hextra : extra.IsBare)
    (hbare : ∀ p ∈ parts, p.IsBare) (hslot : extra.slot ∈ parts.map Part.slot)
    (hothers : others.Perm (extra :: parts)) :
    ∃ fault, parse (lineOf program name others) = .error fault := by
  have hotherbare : ∀ o ∈ others, o.IsBare := by
    intro o ho
    obtain rfl | ho := List.mem_cons.mp (hothers.mem_iff.mp ho)
    · exact hextra
    · exact hbare o ho
  cases hparse : parse (lineOf program name others) with
  | error fault => exact ⟨fault, rfl⟩
  | ok found =>
      obtain ⟨-, -, hvalues⟩ := (parse_eq_ok_iff hname hotherbare).mp hparse
      have hdistinct := (hvalues.map Prod.fst).nodup_iff.mpr found.nodup_entries
      rw [Part.map_fst_map_entry, (hothers.map Part.slot).nodup_iff, List.map_cons,
        List.nodup_cons] at hdistinct
      exact absurd hslot hdistinct.1

/-- A second value that its slot takes is refused as what it is. -/
theorem parse_with_second (hname : name ∈ commandNames q.mode) (h : Gives parts q)
    (hq : q.Givable) (hextra : extra.IsBare) (htakes : extra.slot.Takes extra.value)
    (hslot : extra.slot ∈ parts.map Part.slot) (hothers : others.Perm (extra :: parts)) :
    parse (lineOf program name others) = .error extra.slot.surplus := by
  have hall : ∀ o ∈ others, o.IsBare ∧ o.slot.BelongsTo q.mode ∧ o.slot.Takes o.value := by
    obtain ⟨p, hp, hpslot⟩ := List.mem_map.mp hslot
    intro o ho
    obtain rfl | ho := List.mem_cons.mp (hothers.mem_iff.mp ho)
    · exact ⟨hextra, hpslot ▸ h.belongsTo hq p hp, htakes⟩
    · exact ⟨h.bare o ho, h.belongsTo hq o ho, (h.fit hq).taken _ (List.mem_map_of_mem ho)⟩
  obtain ⟨before, p, after, rfl, hpslot, hsecond, hslots⟩ := exists_second hslot hothers
  have hdistinct : ((before ++ after).map Part.slot).Nodup := hslots.nodup_iff.mpr h.nodup
  have hfit : Fit (before.map Part.entry) := by
    refine ⟨?_, fun e he => ?_⟩
    · rw [List.map_append] at hdistinct
      rw [Part.map_fst_map_entry]
      exact hdistinct.of_append_left
    · obtain ⟨o, ho, rfl⟩ := List.mem_map.mp he
      exact (hall o (List.mem_append_left _ ho)).2.2
  rw [← hpslot]
  exact parse_of_second hname (fun o ho => (hall o ho).1) (fun o ho => (hall o ho).2.1) hfit
    hsecond hdistinct

theorem parse_without_source (hname : name ∈ commandNames q.mode) (h : Gives parts q)
    (hq : q.Givable) (hothers : others.Perm (parts.filter (·.slot ≠ .source))) :
    parse (lineOf program name others) = .error .missingArgument := by
  have hall : ∀ o ∈ others, o ∈ parts ∧ o.slot ≠ .source := by
    intro o ho
    obtain ⟨ho, hslot⟩ := List.mem_filter.mp (hothers.mem_iff.mp ho)
    exact ⟨ho, of_decide_eq_true hslot⟩
  have hfit : Fit (others.map Part.entry) := by
    refine ⟨?_, fun e he => ?_⟩
    · rw [Part.map_fst_map_entry, (hothers.map Part.slot).nodup_iff]
      exact h.nodup.sublist (List.filter_sublist.map Part.slot)
    · obtain ⟨o, ho, rfl⟩ := List.mem_map.mp he
      exact (h.fit hq).taken _ (List.mem_map_of_mem (hall o ho).1)
  refine parse_of_sourceless hname (fun o ho => h.bare o (hall o ho).1)
    (fun o ho => h.belongsTo hq o (hall o ho).1) hfit ?_
  intro hmem
  obtain ⟨o, ho, hslot⟩ := List.mem_map.mp hmem
  exact (hall o ho).2 hslot

theorem parse_with_database (hname : name ∈ commandNames q.mode) (h : Gives parts q)
    (hq : q.Givable) (hmode : q.mode = .frontend) (hslot : extra.slot = .database)
    (hothers : others.Perm (extra :: parts)) :
    parse (lineOf program name others) = .error .unknownArgument := by
  obtain ⟨before, after, rfl⟩ := List.append_of_mem (hothers.mem_iff.mpr List.mem_cons_self)
  have hrest : (before ++ after).Perm parts := (List.perm_middle.symm.trans hothers).cons_inv
  have hbefore : ∀ o ∈ before, o ∈ parts := fun o ho =>
    hrest.mem_iff.mp (List.mem_append_left _ ho)
  have hfit : Fit (before.map Part.entry ++ after.map Part.entry) := by
    rw [← List.map_append]
    exact (h.fit hq).perm (hrest.symm.map _)
  refine parse_of_unknown hname (fun o ho => h.bare o (hbefore o ho))
    (fun o ho => h.belongsTo hq o (hbefore o ho)) hfit.append_left ?_
  rw [hslot, hmode]
  exact fun hbelongs => absurd (hbelongs rfl) nofun

end Gives

/-- What comes of a line with the parts for a request, and of the lines that are like it but for one
slip. -/
structure Decoded (line : List Part → List String) (q : Request) (parts : List Part) : Prop where
  meant : parse (line parts) = .ok q
  /-- One more source, or an option again, by the same name or by its other one, is refused wherever
  it stands and whatever it says.  If it could be taken by itself, it is refused as what it is.  A
  source is always there to be repeated, since every request has one. -/
  second : ∀ extra : Part, extra.IsBare → extra.slot ∈ parts.map Part.slot →
    ∀ others : List Part, others.Perm (extra :: parts) →
      ∃ fault, parse (line others) = .error fault ∧
        (extra.slot.Takes extra.value → fault = extra.slot.surplus)
  sourceless : ∀ others : List Part, others.Perm (parts.filter (·.slot ≠ .source)) →
    parse (line others) = .error .missingArgument
  /-- A frontend has no database, wherever it stands and whatever it says. -/
  database : q.mode = .frontend → ∀ extra : Part, extra.slot = .database →
    ∀ others : List Part, others.Perm (extra :: parts) →
      parse (line others) = .error .unknownArgument

/-- A line whose parts give a request, in any order and in any of their spellings, is read as the
request; with one part too many or without its source it is refused. -/
theorem parse_decoded {q : Request} (hq : q.Givable) (program : String) {name : String}
    (hname : name ∈ commandNames q.mode) {parts : List Part} (h : Gives parts q) :
    Decoded (lineOf program name) q parts := by
  refine ⟨parse_of_gives hname h hq, ?_, ?_, ?_⟩
  · intro extra hextra hslot others hothers
    by_cases htakes : extra.slot.Takes extra.value
    · refine ⟨extra.slot.surplus, ?_, fun _ => rfl⟩
      exact parse_with_second hname h hq hextra htakes hslot hothers
    · obtain ⟨fault, hfault⟩ : ∃ fault, parse (lineOf program name others) = .error fault :=
        exists_fault_of_second hname hextra h.bare hslot hothers
      exact ⟨fault, hfault, fun htaken => absurd htaken htakes⟩
  · intro others hothers
    exact parse_without_source hname h hq hothers
  · intro hmode extra hslot others hothers
    exact parse_with_database hname h hq hmode hslot hothers

/-- A backend whose paths look like names of commands, or like a name with its value. -/
def lookalikes : Request := ⟨.backend, ⟨"help"⟩, some ⟨"generate_back"⟩, some ⟨"a=b -c"⟩, some .h2⟩

/-- A frontend whose destination opens with a dash, so that it has to stand behind an equals
sign. -/
def dashed : Request := ⟨.frontend, ⟨"d"⟩, some ⟨"--config"⟩, none, none⟩

theorem decoded_lookalikes :
    let parts : List Part := [.joined .config "a=b -c", .apart .letter "generate_back",
      .source "help", .joined .database "h2"]
    let bare : List Part := [.joined .letter "--config", .source "d"]
    (lookalikes.Givable ∧ "generate-back" ∈ commandNames lookalikes.mode ∧ Gives parts lookalikes ∧
      lineOf "ovelha" "generate-back" parts = ["ovelha", "generate-back", "--config=a=b -c", "-d",
        "generate_back", "help", "--database=h2"] ∧
      Decoded (lineOf "ovelha" "generate-back") lookalikes parts) ∧
    dashed.Givable ∧ "generate_front" ∈ commandNames dashed.mode ∧ Gives bare dashed ∧
      Decoded (lineOf "ovelha" "generate_front") dashed bare ∧
      parse ["ovelha", "generate_front", "-d=--config", "--database", "d", "d"] =
        .error .unknownArgument := by
  intro parts bare
  have hback : lookalikes.Givable := by
    refine ⟨fun slot value h => ?_, nofun⟩
    cases slot <;> cases h <;> decide
  have hparts : Gives parts lookalikes := ⟨by simp [parts, Part.IsBare], by decide⟩
  have hfront : dashed.Givable := by
    refine ⟨fun slot value h => ?_, fun _ => rfl⟩
    cases slot <;> cases h <;> decide
  have hbare : Gives bare dashed := ⟨by simp [bare, Part.IsBare], by decide⟩
  have hdecoded : Decoded (lineOf "ovelha" "generate-back") lookalikes parts :=
    parse_decoded hback "ovelha" (by decide) hparts
  have hdashed : Decoded (lineOf "ovelha" "generate_front") dashed bare :=
    parse_decoded hfront "ovelha" (by decide) hbare
  refine ⟨⟨hback, by decide, hparts, by decide, hdecoded⟩, hfront, by decide, hbare, hdashed, ?_⟩
  exact hdashed.database rfl (.apart .database "d") rfl
    [.joined .letter "--config", .apart .database "d", .source "d"] (by decide)

end CrudStack.Command
