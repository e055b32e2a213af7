/-
# `CrudStack.Proofs.Command.Part` — the parts of a command line

Behind its command a line consists of parts: a source, or an option with its value, which stands in
the next argument or behind an equals sign.  An option takes up two arguments in the one case and
one in the other, so the reader meets a part either at once or in two steps; in both cases it first
settles what is pending and then places the part (`take_arguments`).  Where a value stands in an
argument of its own it must not open with a dash; behind an equals sign it may be any text, also
with more equals signs.

What has been read between two parts is the list of their values, in the order of the line.  It can
be settled just if it is fit: no slot has two values, and every value is one that its slot takes
(`Reading.Holds`).  The last value may still be pending, and whether it is does not show.

Main statements: `exists_read`, all parts of a fit line are taken, and `holds_of_read`, what the
reader holds behind the parts that it has taken.
-/
import CrudStack.Proofs.Command.Execution
import CrudStack.Proofs.Settings.Written

namespace CrudStack.Command

/-! ## What is written -/

/-- The names that a command goes by. -/
def commandNames : Mode → List String
  | .backend => ["generate_back", "generate-back"]
  | .frontend => ["generate_front", "generate-front"]

theorem commandNamed?_of_mem {mode : Mode} {name : String} (h : name ∈ commandNames mode) :
    commandNamed? name = some mode := by
  cases mode <;> simp only [commandNames, List.mem_cons, List.not_mem_nil, or_false] at h <;>
    obtain rfl | rfl := h <;> decide

/-- The ways to write an option. -/
inductive Flag where
  | letter
  | destination
  | config
  | database
  deriving DecidableEq, Repr

/-- What an option is for. -/
def Flag.slot : Flag → Slot
  | letter => .destination
  | destination => .destination
  | config => .config
  | database => .database

theorem Flag.slot_ne_source (flag : Flag) : flag.slot ≠ .source := by
  cases flag <;> decide

/-- An option as it stands on a line. -/
def Flag.text : Flag → String
  | letter => "-d"
  | destination => "--destination"
  | config => "--config"
  | database => "--database"

/-- A part of a line. -/
inductive Part where
  | source (value : String)
  /-- An option with its value in the next argument. -/
  | apart (flag : Flag) (value : String)
  /-- An option with its value behind an equals sign. -/
  | joined (flag : Flag) (value : String)
  deriving DecidableEq, Repr

namespace Part

/-- The arguments that a part takes up. -/
def arguments : Part → List String
  | source value => [value]
  | apart flag value => [flag.text, value]
  | joined flag value => [flag.text ++ "=" ++ value]

/-- What a part is for. -/
def slot : Part → Slot
  | source _ => .source
  | apart flag _ => flag.slot
  | joined flag _ => flag.slot

/-- The value that a part gives. -/
def value : Part → String
  | source value => value
  | apart _ value => value
  | joined _ value => value

/-- A value with what it is for. -/
def entry (p : Part) : Slot × String := (p.slot, p.value)

theorem map_fst_map_entry (parts : List Part) :
    (parts.map entry).map Prod.fst = parts.map slot := List.map_map ..

/-- The value is not taken for an option: it opens with no dash, unless it stands behind an equals
sign. -/
def IsBare : Part → Prop
  | source value => value.toList.head? ≠ some '-'
  | apart _ value => value.toList.head? ≠ some '-'
  | joined _ _ => True

end Part

/-- The values that a slot takes: the names of databases, and for all others a path. -/
def Slot.Takes : Slot → String → Prop
  | .database, value => ∃ d : Database, value = d.label
  | _, value => value ≠ ""

theorem Slot.Takes.ne_empty {slot : Slot} {value : String} (h : slot.Takes value) : value ≠ "" := by
  cases slot with
  | database =>
      obtain ⟨d, rfl⟩ := h
      cases d <;> decide
  | _ => exact h

theorem ofLabel?_eq_some {value : String} {d : Database} :
    Database.ofLabel? value = some d ↔ value = d.label := by
  constructor
  · intro h
    unfold Database.ofLabel? at h
    split at h
    · next hvalue => rw [hvalue, ← Option.some.inj h, Database.label]
    · split at h
      · next hvalue => rw [hvalue, ← Option.some.inj h, Database.label]
      · cases h
  · rintro rfl
    exact Settings.ofLabel?_label d

theorem isSome_ofLabel? {value : String} :
    (Database.ofLabel? value).isSome = true ↔ ∃ d : Database, value = d.label := by
  rw [Option.isSome_iff_exists]
  exact exists_congr fun d => ofLabel?_eq_some

/-- The values that pass when a slot is filled are those that it takes. -/
theorem judged_iff {slot : Slot} {value : String} :
    (if slot = .database then (Database.ofLabel? value).isSome else !value.isEmpty) = true ↔
      slot.Takes value := by
  cases slot with
  | database => simpa [Slot.Takes] using isSome_ofLabel?
  | _ => simp [Slot.Takes]

/-- Values that belong together: one for a slot, and each of them one that its slot takes. -/
structure Fit (es : List (Slot × String)) : Prop where
  distinct : (es.map Prod.fst).Nodup
  taken : ∀ e ∈ es, e.1.Takes e.2

theorem fit_concat {es : List (Slot × String)} {slot : Slot} {value : String} :
    Fit (es ++ [(slot, value)]) ↔ Fit es ∧ slot ∉ es.map Prod.fst ∧ slot.Takes value := by
  constructor
  · intro ⟨hdistinct, htaken⟩
    rw [List.map_append, List.map_singleton, List.nodup_append] at hdistinct
    refine ⟨⟨hdistinct.1, fun e he => htaken e (List.mem_append_left _ he)⟩, fun hmem => ?_, ?_⟩
    · exact hdistinct.2.2 slot hmem slot (List.mem_singleton_self _) rfl
    · exact htaken _ (List.mem_append_right _ (List.mem_singleton_self _))
  · rintro ⟨⟨hdistinct, htaken⟩, hnew, hvalue⟩
    refine ⟨?_, fun e he => ?_⟩
    · rw [List.map_append, List.map_singleton, ← List.concat_eq_append]
      exact hdistinct.concat hnew
    · obtain he | he := List.mem_append.mp he
      · exact htaken e he
      · rwa [List.mem_singleton.mp he]

theorem Fit.append_left {es es' : List (Slot × String)} (h : Fit (es ++ es')) : Fit es := by
  refine ⟨?_, fun e he => h.taken e (List.mem_append_left _ he)⟩
  have hdistinct := h.distinct
  rw [List.map_append] at hdistinct
  exact hdistinct.of_append_left

theorem Fit.perm {es es' : List (Slot × String)} (h : Fit es) (hperm : es.Perm es') : Fit es' :=
  ⟨(hperm.map _).nodup_iff.mp h.distinct, fun e he => h.taken e (hperm.mem_iff.mpr he)⟩

/-! ## How the arguments of a part read -/

theorem splitEquals_joined {name : String} (h : '=' ∉ name.toList) (value : List Char) :
    splitEquals (name.toList ++ '=' :: value) = (name, some (String.ofList value)) := by
  have hname : ∀ c ∈ name.toList, (decide (c ≠ '=')) = true := by
    intro c hc
    exact decide_eq_true fun heq => h (heq ▸ hc)
  simp only [splitEquals]
  rw [List.takeWhile_append_of_pos hname, List.dropWhile_append_of_pos hname]
  simp

/-- How an option reads, without its value or with it. -/
def Flag.shape : Flag → Option String → Shape
  | letter, none => .short 'd' []
  | letter, some value => .short 'd' ('=' :: value.toList)
  | destination, value => .long "destination" value
  | config, value => .long "config" value
  | database, value => .long "database" value

theorem shapeOf_flag (flag : Flag) : shapeOf flag.text = flag.shape none := by
  cases flag <;> decide

theorem shapeOf_long (name : String) (h : '=' ∉ name.toList) (value : String) :
    shapeOf ("--" ++ name ++ "=" ++ value) = .long name (some value) := by
  have hlist : ("--" ++ name ++ "=" ++ value).toList =
      '-' :: '-' :: (name.toList ++ '=' :: value.toList) := by
    simp
  unfold shapeOf
  rw [hlist]
  split
  · next heq => simp at heq
  · next cs _ heq =>
      obtain rfl : name.toList ++ '=' :: value.toList = cs := by simpa using heq
      rw [splitEquals_joined h, String.ofList_toList]
  · next hdash heq => exact (hdash (List.cons.inj (List.cons.inj heq).2).1.symm).elim
  · next hother => exact (hother _ _ rfl).elim

theorem shapeOf_joined (flag : Flag) (value : String) :
    shapeOf (flag.text ++ "=" ++ value) = flag.shape (some value) := by
  cases flag with
  | letter =>
      have hlist : ("-d" ++ "=" ++ value).toList = '-' :: 'd' :: '=' :: value.toList := by simp
      unfold shapeOf Flag.text
      rw [hlist]
      rfl
  | destination => exact shapeOf_long "destination" (by decide) value
  | config => exact shapeOf_long "config" (by decide) value
  | database => exact shapeOf_long "database" (by decide) value

theorem shapeOf_bare {value : String} (h : value.toList.head? ≠ some '-') :
    shapeOf value = .plain := by
  unfold shapeOf
  split
  · next heq => simp [heq] at h
  · next heq => simp [heq] at h
  · next heq => simp [heq] at h
  · rfl

/-! ## Taking a part -/

namespace Reading

/-- No option waits for its value, and options are still taken. -/
structure Rests (r : Reading) : Prop where
  notWaiting : r.waiting = false
  takesOptions : r.onlySources = false

/-- Where a part is placed once everything before it is settled: a value behind an equals sign is
judged at once, and the others stay pending. -/
def place (r : Reading) : Part → Except UsageFault Reading
  | .source value => .ok { r with pending := some (.source, some value), hasSource := true }
  | .apart flag value => .ok { r with pending := some (flag.slot, some value) }
  | .joined flag value => r.settleValue flag.slot value

variable {r s : Reading}

theorem settleValue_of_mem {slot : Slot} {value : String} (h : slot ∈ r.settled.map Prod.fst) :
    r.settleValue slot value = .error .repeatedOption := by
  have hfound : (r.settled.lookup slot).isSome = true := by
    rw [Option.isSome_iff_ne_none, ne_eq, Lookup.lookup_eq_none, not_not]
    exact h
  rw [settleValue, if_pos hfound]

/-- A value is kept if it is the first one of its slot and the slot takes it. -/
theorem settleValue_eq_ok_iff {slot : Slot} {value : String} :
    r.settleValue slot value = .ok s ↔
      slot ∉ r.settled.map Prod.fst ∧ slot.Takes value ∧
        s = { r with settled := r.settled ++ [(slot, value)] } := by
  by_cases hmem : slot ∈ r.settled.map Prod.fst
  · rw [settleValue_of_mem hmem]
    exact iff_of_false nofun fun h => h.1 hmem
  · have hnone : ¬(r.settled.lookup slot).isSome = true := by
      rw [Lookup.lookup_eq_none.mpr hmem]
      exact nofun
    rw [settleValue, if_neg hnone]
    dsimp only
    by_cases hvalue : slot.Takes value
    · rw [if_pos (judged_iff.mpr hvalue), Except.ok.injEq]
      exact ⟨fun h => ⟨hmem, hvalue, h.symm⟩, fun h => h.2.2.symm⟩
    · rw [if_neg (mt judged_iff.mp hvalue)]
      exact iff_of_false nofun fun h => hvalue h.2.1

/-- Settling changes no more than what is settled and what is pending. -/
theorem settle_eq_ok (h : r.settle = .ok s) :
    s = { r with settled := s.settled, pending := none } := by
  unfold settle at h
  split at h
  · next hpending =>
      obtain rfl := Except.ok.inj h
      rw [← hpending]
  · cases h
  · rw [settleValue_eq_ok h]

/-- An option of the command is taken as one. -/
theorem take_option {argument : String} {flag : Flag} {value : Option String}
    (htakes : r.onlySources = false) (hshape : shapeOf argument = flag.shape value)
    (hslot : flag.slot.BelongsTo r.mode) : r.take argument = r.option flag.slot value := by
  rw [take, if_neg (by simp [htakes]), hshape]
  cases flag with
  | letter => cases value <;> simp [Flag.shape, Flag.slot, slotLettered?, attached]
  | destination => rfl
  | config => rfl
  | database =>
      have hmode : r.mode = .backend := hslot rfl
      simp [Flag.shape, Flag.slot, slotNamed?, helpName, hmode]

/-- An option that the command does not have is refused, whatever is pending. -/
theorem take_unknown {argument : String} {flag : Flag} {value : Option String}
    (htakes : r.onlySources = false) (hshape : shapeOf argument = flag.shape value)
    (hslot : ¬flag.slot.BelongsTo r.mode) : r.take argument = .error .unknownArgument := by
  rw [take, if_neg (by simp [htakes]), hshape]
  cases flag with
  | database =>
      have hmode : r.mode ≠ .backend := fun h => hslot fun _ => h
      simp [Flag.shape, slotNamed?, helpName, hmode]
  | _ => exact absurd nofun hslot

theorem take_bare (hr : r.Rests) {value : String} (h : value.toList.head? ≠ some '-') :
    r.take value = r.takeSource value := by
  rw [take, if_neg (by simp [hr.takesOptions]), shapeOf_bare h]
  simp [takePlain, hr.notWaiting]

/-- A part is taken by settling what is pending and placing the part. -/
theorem take_arguments (hr : r.Rests) {p : Part} (hbare : p.IsBare)
    (hslot : p.slot.BelongsTo r.mode) (hfirst : p.slot = .source → r.hasSource = false) :
    p.arguments.foldlM take r = r.settle >>= fun s => s.place p := by
  have hkept : ∀ s, r.settle = .ok s → s.Rests := by
    intro s hs
    rw [settle_eq_ok hs]
    exact ⟨hr.notWaiting, hr.takesOptions⟩
  cases p with
  | source value =>
      have hnone : ¬r.hasSource = true := by simp [hfirst rfl]
      simp only [Part.arguments, List.foldlM_cons, List.foldlM_nil, bind_pure]
      rw [take_bare hr hbare, takeSource, if_neg hnone]
      cases hs : r.settle with
      | error fault => rfl
      | ok s => simp [place, ok_bind, pure, Except.pure, (hkept s hs).notWaiting]
  | apart flag value =>
      simp only [Part.arguments, List.foldlM_cons, List.foldlM_nil, bind_pure]
      rw [take_option hr.takesOptions (shapeOf_flag flag) hslot, option]
      cases hs : r.settle with
      | error fault => rfl
      | ok s =>
          -- The option waits, so the next argument is its value and never a source, even if it
          -- reads like the name of a command.
          have hs := hkept s hs
          let waits : Reading := { s with pending := some (flag.slot, none), waiting := true }
          change waits.take value = .ok { s with pending := some (flag.slot, some value) }
          rw [take, if_neg (by simp [waits, hs.takesOptions]), shapeOf_bare hbare]
          simp [takePlain, waits, hs.notWaiting]
  | joined flag value =>
      simp only [Part.arguments, List.foldlM_cons, List.foldlM_nil, bind_pure]
      rw [take_option hr.takesOptions (shapeOf_joined flag value) hslot, option]
      cases hs : r.settle with
      | error fault => rfl
      | ok s =>
          change (do let t ← s.settleValue flag.slot value; pure { t with waiting := false }) =
            s.settleValue flag.slot value
          cases ht : s.settleValue flag.slot value with
          | error fault => rfl
          | ok t =>
              have hwaiting : t.waiting = false := by
                rw [settleValue_eq_ok ht]
                exact (hkept s hs).notWaiting
              change Except.ok { t with waiting := false } = Except.ok t
              rw [← hwaiting]

/-! ## What has been read -/

/-- The values that have been read, in the order of the line, whether the last one is settled or
still pending. -/
structure Holds (r : Reading) (mode : Mode) (es : List (Slot × String)) : Prop extends r.Rests where
  command : r.mode = mode
  source : r.hasSource = true ↔ .source ∈ es.map Prod.fst
  settle : ∀ s, r.settle = .ok s ↔ Fit es ∧ s = { r with settled := es, pending := none }

variable {mode : Mode} {es : List (Slot × String)}

theorem holds_start (mode : Mode) : (start mode).Holds mode [] := by
  refine ⟨⟨rfl, rfl⟩, rfl, by simp [start], fun s => ?_⟩
  have hfit : Fit [] := ⟨List.nodup_nil, nofun⟩
  simp [Reading.settle, start, hfit, eq_comm]

/-- A value that stays pending is held as the last one. -/
theorem holds_pending (hr : r.Rests) (hmode : r.mode = mode) (hfit : Fit es) {slot : Slot}
    {value : String} {hasSource : Bool}
    (hsource : hasSource = true ↔ .source ∈ (es ++ [(slot, value)]).map Prod.fst) :
    Holds { r with settled := es, pending := some (slot, some value), hasSource := hasSource } mode
      (es ++ [(slot, value)]) := by
  refine ⟨⟨hr.notWaiting, hr.takesOptions⟩, hmode, hsource, fun s => ?_⟩
  rw [Reading.settle, settleValue_eq_ok_iff, fit_concat, and_assoc, and_assoc, and_iff_right hfit]

/-- A part is placed behind values that are settled. -/
theorem Holds.place (hr : r.Holds mode es) (hfit : Fit es) {p : Part}
    (h : ({ r with settled := es, pending := none } : Reading).place p = .ok s) :
    s.Holds mode (es ++ [p.entry]) := by
  cases p with
  | source value =>
      obtain rfl := Except.ok.inj h
      exact holds_pending hr.toRests hr.command hfit (by simp)
  | apart flag value =>
      obtain rfl := Except.ok.inj h
      refine holds_pending hr.toRests hr.command hfit ?_
      simp [hr.source, flag.slot_ne_source.symm]
  | joined flag value =>
      obtain ⟨hnew, hvalue, rfl⟩ := settleValue_eq_ok_iff.mp h
      have hfit : Fit (es ++ [(flag.slot, value)]) := fit_concat.mpr ⟨hfit, hnew, hvalue⟩
      refine ⟨⟨hr.notWaiting, hr.takesOptions⟩, hr.command, ?_, fun s => ?_⟩
      · simp [hr.source, Part.entry, Part.slot, flag.slot_ne_source.symm]
      · simp [Reading.settle, Part.entry, Part.slot, Part.value, hfit, eq_comm]

/-- A part for a new slot that takes its value can be placed. -/
theorem exists_place {p : Part} (hfit : Fit (es ++ [p.entry])) :
    ∃ s, ({ r with settled := es, pending := none } : Reading).place p = .ok s := by
  cases p with
  | source value => exact ⟨_, rfl⟩
  | apart flag value => exact ⟨_, rfl⟩
  | joined flag value =>
      obtain ⟨-, hnew, hvalue⟩ := fit_concat.mp hfit
      exact ⟨_, settleValue_eq_ok_iff.mpr ⟨hnew, hvalue, rfl⟩⟩

/-- An option that is not one of the command is refused, with its value or before it. -/
theorem take_arguments_unknown (hr : r.Rests) {p : Part} (hslot : ¬p.slot.BelongsTo r.mode) :
    p.arguments.foldlM take r = .error .unknownArgument := by
  cases p with
  | source value => exact absurd nofun hslot
  | apart flag value =>
      rw [Part.arguments, List.foldlM_cons,
        take_unknown hr.takesOptions (shapeOf_flag flag) hslot]
      rfl
  | joined flag value =>
      rw [Part.arguments, List.foldlM_cons,
        take_unknown hr.takesOptions (shapeOf_joined flag value) hslot]
      rfl

/-- A second source is refused, whatever is pending. -/
theorem take_arguments_secondSource (hr : r.Rests) (hsource : r.hasSource = true) {p : Part}
    (hbare : p.IsBare) (hslot : p.slot = .source) :
    p.arguments.foldlM take r = .error .unknownArgument := by
  cases p with
  | source value =>
      rw [Part.arguments, List.foldlM_cons, take_bare hr hbare, takeSource, if_pos hsource]
      rfl
  | apart flag value => exact absurd hslot flag.slot_ne_source
  | joined flag value => exact absurd hslot flag.slot_ne_source

/-- What is held behind a part that was taken. -/
theorem Holds.take (hr : r.Holds mode es) {p : Part} (hbare : p.IsBare)
    (h : p.arguments.foldlM Reading.take r = .ok s) : s.Holds mode (es ++ [p.entry]) := by
  have hslot : p.slot.BelongsTo r.mode := by
    by_contra hslot
    rw [take_arguments_unknown hr.toRests hslot] at h
    cases h
  have hfirst : p.slot = .source → r.hasSource = false := by
    intro hp
    by_contra hsource
    rw [take_arguments_secondSource hr.toRests (Bool.of_not_eq_false hsource) hbare hp] at h
    cases h
  rw [take_arguments hr.toRests hbare hslot hfirst] at h
  obtain ⟨t, ht, h⟩ := bind_eq_ok.mp h
  obtain ⟨hfit, rfl⟩ := (hr.settle t).mp ht
  exact hr.place hfit h

/-- A part is taken if its slot is one of the command and new, and takes its value. -/
theorem Holds.exists_take (hr : r.Holds mode es) {p : Part} (hbare : p.IsBare)
    (hslot : p.slot.BelongsTo mode) (hfit : Fit (es ++ [p.entry])) :
    ∃ s, p.arguments.foldlM Reading.take r = .ok s := by
  obtain ⟨hsettled, hnew, -⟩ := fit_concat.mp hfit
  have hfirst : p.slot = .source → r.hasSource = false := by
    intro hp
    rw [Bool.eq_false_iff, ne_eq, hr.source, ← hp]
    exact hnew
  obtain ⟨s, hs⟩ := exists_place (r := r) hfit
  rw [take_arguments hr.toRests hbare (hr.command ▸ hslot) hfirst]
  exact ⟨s, bind_eq_ok.mpr ⟨_, (hr.settle _).mpr ⟨hsettled, rfl⟩, hs⟩⟩

/-- What is held behind parts that were taken. -/
theorem holds_of_read {parts : List Part} (hbare : ∀ p ∈ parts, p.IsBare) (hr : r.Holds mode es)
    (h : (parts.flatMap Part.arguments).foldlM Reading.take r = .ok s) :
    s.Holds mode (es ++ parts.map Part.entry) := by
  -- `Holds` is what the reader keeps from part to part; between the arguments of a part it fails.
  induction parts generalizing r es with
  | nil =>
      obtain rfl := pure_eq_ok.mp h
      rwa [List.map_nil, List.append_nil]
  | cons p parts ih =>
      rw [List.flatMap_cons, List.foldlM_append] at h
      obtain ⟨t, ht, h⟩ := bind_eq_ok.mp h
      rw [List.forall_mem_cons] at hbare
      have hrest := ih hbare.2 (hr.take hbare.1 ht) h
      rwa [List.append_assoc] at hrest

/-- Parts with fit values for slots of the command are all taken. -/
theorem read_fit {parts : List Part} (hbare : ∀ p ∈ parts, p.IsBare)
    (hslots : ∀ p ∈ parts, p.slot.BelongsTo mode) (hr : r.Holds mode es)
    (hfit : Fit (es ++ parts.map Part.entry)) :
    ∃ s, (parts.flatMap Part.arguments).foldlM Reading.take r = .ok s ∧
      s.Holds mode (es ++ parts.map Part.entry) := by
  induction parts generalizing r es with
  | nil => exact ⟨r, rfl, by rwa [List.map_nil, List.append_nil]⟩
  | cons p parts ih =>
      rw [List.forall_mem_cons] at hbare hslots
      rw [List.map_cons, List.append_cons] at hfit ⊢
      obtain ⟨t, ht⟩ := hr.exists_take hbare.1 hslots.1 (Fit.append_left hfit)
      obtain ⟨s, hs, hholds⟩ := ih hbare.2 hslots.2 (hr.take hbare.1 ht) hfit
      refine ⟨s, ?_, hholds⟩
      rw [List.flatMap_cons, List.foldlM_append]
      exact bind_eq_ok.mpr ⟨t, ht, hs⟩

theorem exists_read {parts : List Part} (hbare : ∀ p ∈ parts, p.IsBare)
    (hslots : ∀ p ∈ parts, p.slot.BelongsTo mode) (hfit : Fit (parts.map Part.entry)) :
    ∃ r, (parts.flatMap Part.arguments).foldlM Reading.take (start mode) = .ok r ∧
      r.Holds mode (parts.map Part.entry) :=
  read_fit hbare hslots (holds_start mode) hfit

/-! ## Values that come too often -/

/-- An option that has a value already is refused, at once or as soon as anything else is
settled. -/
theorem Holds.take_again (hr : r.Holds mode es) (hfit : Fit es) {p : Part} (hbare : p.IsBare)
    (hslot : p.slot.BelongsTo mode) (hoption : p.slot ≠ .source)
    (hmem : p.slot ∈ es.map Prod.fst) :
    p.arguments.foldlM Reading.take r = .error .repeatedOption ∨
      ∃ s, p.arguments.foldlM Reading.take r = .ok s ∧ s.settle = .error .repeatedOption := by
  rw [take_arguments hr.toRests hbare (hr.command ▸ hslot) fun h => absurd h hoption,
    (hr.settle _).mpr ⟨hfit, rfl⟩, ok_bind]
  cases p with
  | source value => exact absurd rfl hoption
  | apart flag value => exact .inr ⟨_, rfl, settleValue_of_mem hmem⟩
  | joined flag value => exact .inl (settleValue_of_mem hmem)

/-- A fault of what is pending comes out at the next part, or at the end of the line. -/
theorem settle_read_of_error (hr : r.Rests) {fault : UsageFault} (h : r.settle = .error fault)
    {parts : List Part} (hbare : ∀ p ∈ parts, p.IsBare)
    (hslots : ∀ p ∈ parts, p.slot.BelongsTo r.mode)
    (hfirst : ∀ p ∈ parts, p.slot = .source → r.hasSource = false) :
    ((parts.flatMap Part.arguments).foldlM Reading.take r >>= Reading.settle) = .error fault := by
  cases parts with
  | nil => exact h
  | cons p parts =>
      rw [List.forall_mem_cons] at hbare hslots hfirst
      rw [List.flatMap_cons, List.foldlM_append,
        take_arguments hr hbare.1 hslots.1 hfirst.1, h]
      rfl

end Reading

end CrudStack.Command
