/-
# `CrudStack.Proofs.Disk.Files` — what writing does to a disk

A disk is looked at through its files: which bytes lie where.  A list of writes changes that view
and nothing else, the last write to a location decides (`overwrite`), and to repeat the writes
changes nothing more (`overwrite_idem`).  Repeated on the disk itself, they leave it the same to the
order of its entries (`puts_eq_self`).

`Effect` is what the parts of a run are said to do: some writes, perhaps new directories where
nothing was, and all else kept.
-/
import CrudStack.Disk
import Mathlib.Logic.Function.Basic

namespace CrudStack

namespace Disk

/-! ## Entries -/

theorem lookup_cons_of_ne {k m : Location} (h : k ≠ m) (e : DiskEntry)
    (rest : List (Location × DiskEntry)) : ((m, e) :: rest).lookup k = rest.lookup k := by
  rw [List.lookup_cons, beq_false_of_ne h]

theorem lookup_putEntry (l : Location) (e : DiskEntry) (k : Location) :
    ∀ entries, (putEntry l e entries).lookup k = if k = l then some e else entries.lookup k
  | [] => by
      by_cases h : k = l
      · simp [putEntry, h]
      · rw [putEntry, lookup_cons_of_ne h, if_neg h]
  | (m, old) :: rest => by
      have ih := lookup_putEntry l e k rest
      by_cases hm : l = m
      · subst hm
        by_cases h : k = l
        · simp [putEntry, h]
        · rw [putEntry, if_pos rfl, lookup_cons_of_ne h, lookup_cons_of_ne h, if_neg h]
      · rw [putEntry, if_neg hm]
        by_cases h : k = m
        · subst h
          simp [Ne.symm hm]
        · rw [lookup_cons_of_ne h, lookup_cons_of_ne h, ih]

theorem putEntry_putEntry (l : Location) (e e' : DiskEntry) :
    ∀ entries, putEntry l e' (putEntry l e entries) = putEntry l e' entries
  | [] => by simp [putEntry]
  | (m, old) :: rest => by
      by_cases hm : l = m
      · simp [putEntry, hm]
      · simp [putEntry, hm, putEntry_putEntry l e e' rest]

/-- An entry that is there is replaced in its place, so it does not matter when. -/
theorem putEntry_comm {l k : Location} (hne : k ≠ l) (e e' : DiskEntry) :
    ∀ {entries}, (entries.lookup l).isSome →
      putEntry k e' (putEntry l e entries) = putEntry l e (putEntry k e' entries)
  | [], h => by simp at h
  | (m, old) :: rest, h => by
      by_cases hl : l = m
      · subst hl
        simp [putEntry, hne]
      · have hrest : (rest.lookup l).isSome := by
          rwa [lookup_cons_of_ne hl] at h
        by_cases hk : k = m
        · subst hk
          simp [putEntry, hl]
        · simp [putEntry, hl, hk, putEntry_comm hne e e' hrest]

theorem putEntry_of_lookup {l : Location} {e : DiskEntry} :
    ∀ {entries}, entries.lookup l = some e → putEntry l e entries = entries
  | [], h => by simp at h
  | (m, old) :: rest, h => by
      by_cases hl : l = m
      · subst hl
        have hold : old = e := by simpa using h
        simp [putEntry, hold]
      · have hrest : rest.lookup l = some e := by rwa [lookup_cons_of_ne hl] at h
        simp [putEntry, hl, putEntry_of_lookup hrest]

/-! ## The view -/

theorem get?_of_ne_nil (d : Disk) {l : Location} (hl : l ≠ []) :
    d.get? l = d.entries.lookup l := by
  simp [get?, hl]

theorem get?_put (d : Disk) {l : Location} (hl : l ≠ []) (e : DiskEntry) (k : Location) :
    (d.put l e).get? k = if k = l then some e else d.get? k := by
  by_cases hk : k = []
  · subst hk
    simp [get?, Ne.symm hl]
  · rw [get?_of_ne_nil _ hk, get?_of_ne_nil _ hk]
    exact lookup_putEntry l e k d.entries

/-- The files of a disk: the bytes at every location that has a file. -/
def files (d : Disk) (l : Location) : Option ByteArray :=
  match d.get? l with
  | some (.file content) => some content
  | _ => none

theorem files_eq_some {d : Disk} {l : Location} {content : ByteArray} :
    d.files l = some content ↔ d.get? l = some (.file content) := by
  unfold files
  split
  · next c hc => simp [hc]
  · next hnot =>
      refine ⟨fun h => by simp at h, fun h => ?_⟩
      exact absurd h (hnot content)

/-- What is at a location is known from the files and the directories. -/
theorem get?_eq_of_view {d d' : Disk} {l : Location} (hfiles : d'.files l = d.files l)
    (hdirectory : d'.get? l = some .directory ↔ d.get? l = some .directory) :
    d'.get? l = d.get? l := by
  unfold files at hfiles
  rcases hd : d.get? l with _ | _ | _ <;> rcases hd' : d'.get? l with _ | _ | _ <;> simp_all

theorem files_put_file (d : Disk) {l : Location} (hl : l ≠ []) (content : ByteArray) :
    (d.put l (.file content)).files = Function.update d.files l (some content) := by
  funext k
  unfold files
  rw [get?_put d hl]
  by_cases hk : k = l
  · subst hk
    simp
  · simp [hk]

/-! ## Writes -/

/-- A write: the location and the bytes. -/
abbrev Write := Location × ByteArray

/-- The files after some writes, one after the other. -/
def overwrite (view : Location → Option ByteArray) (writes : List Write) :
    Location → Option ByteArray :=
  writes.foldl (fun view w => Function.update view w.1 (some w.2)) view

variable {view other : Location → Option ByteArray} {writes : List Write} {l : Location}

@[simp] theorem overwrite_nil : overwrite view [] = view := rfl

theorem overwrite_cons (w : Write) :
    overwrite view (w :: writes) = overwrite (Function.update view w.1 (some w.2)) writes := rfl

theorem overwrite_append (more : List Write) :
    overwrite view (writes ++ more) = overwrite (overwrite view writes) more :=
  List.foldl_append

/-- Where nothing is written, all stays. -/
theorem overwrite_of_notMem (h : l ∉ writes.map Prod.fst) : overwrite view writes l = view l := by
  induction writes generalizing view with
  | nil => rfl
  | cons w ws ih =>
      rw [List.map_cons, List.mem_cons, not_or] at h
      rw [overwrite_cons, ih h.2, Function.update_of_ne h.1]

/-- Where something is written, it does not matter what was there. -/
theorem overwrite_of_mem (h : l ∈ writes.map Prod.fst) :
    overwrite view writes l = overwrite other writes l := by
  induction writes generalizing view other with
  | nil => simp at h
  | cons w ws ih =>
      rw [overwrite_cons, overwrite_cons]
      by_cases hl : l ∈ ws.map Prod.fst
      · exact ih hl
      · have hw : l = w.1 := (List.mem_cons.mp h).resolve_right hl
        subst hw
        rw [overwrite_of_notMem hl, overwrite_of_notMem hl, Function.update_self,
          Function.update_self]

/-- Where something is written, the file that is left is one of those written there. -/
theorem overwrite_written (h : l ∈ writes.map Prod.fst) :
    ∃ content, (l, content) ∈ writes ∧ overwrite view writes l = some content := by
  induction writes generalizing view with
  | nil => simp at h
  | cons w ws ih =>
      rw [overwrite_cons]
      by_cases hl : l ∈ ws.map Prod.fst
      · obtain ⟨content, hmem, hfile⟩ := ih hl
        exact ⟨content, List.mem_cons_of_mem w hmem, hfile⟩
      · have hw : l = w.1 := (List.mem_cons.mp h).resolve_right hl
        subst hw
        exact ⟨w.2, List.mem_cons_self, by rw [overwrite_of_notMem hl, Function.update_self]⟩

/-- Where something is written, a file is left. -/
theorem overwrite_isSome (h : l ∈ writes.map Prod.fst) : (overwrite view writes l).isSome := by
  obtain ⟨content, -, hfile⟩ := overwrite_written h
  rw [hfile, Option.isSome_some]

theorem overwrite_idem : overwrite (overwrite view writes) writes = overwrite view writes := by
  funext l
  by_cases h : l ∈ writes.map Prod.fst
  · exact overwrite_of_mem h
  · rw [overwrite_of_notMem h]

/-- After writes to different locations, there is at each what was written there. -/
theorem overwrite_of_nodup (h : (writes.map Prod.fst).Nodup) {content : ByteArray} :
    overwrite view writes l = some content ↔
      (l, content) ∈ writes ∨ l ∉ writes.map Prod.fst ∧ view l = some content := by
  induction writes generalizing view with
  | nil => simp
  | cons w ws ih =>
      rw [List.map_cons, List.nodup_cons] at h
      rw [overwrite_cons, ih h.2]
      by_cases hl : l = w.1
      · subst hl
        have hnot : (w.1, content) ∉ ws := fun hmem =>
          h.1 (List.mem_map.mpr ⟨_, hmem, rfl⟩)
        simp [h.1, hnot, Prod.ext_iff, eq_comm]
      · have hne : (l, content) ≠ w := fun e => hl (congrArg Prod.fst e)
        rw [Function.update_of_ne hl]
        simp [hl, hne]

/-- Writes to different locations may be swapped. -/
theorem overwrite_comm {more : List Write}
    (h : ∀ k ∈ writes.map Prod.fst, k ∉ more.map Prod.fst) :
    overwrite (overwrite view writes) more = overwrite (overwrite view more) writes := by
  funext l
  by_cases hl : l ∈ writes.map Prod.fst
  · rw [overwrite_of_notMem (h l hl)]
    exact overwrite_of_mem hl
  · rw [overwrite_of_notMem hl]
    by_cases hmore : l ∈ more.map Prod.fst
    · exact overwrite_of_mem hmore
    · rw [overwrite_of_notMem hmore, overwrite_of_notMem hmore, overwrite_of_notMem hl]

/-- Files stay files under writes. -/
theorem overwrite_isSome_of_isSome (h : (view l).isSome) : (overwrite view writes l).isSome := by
  by_cases hl : l ∈ writes.map Prod.fst
  · exact overwrite_isSome hl
  · rwa [overwrite_of_notMem hl]

/-! ## Writes on the disk itself -/

/-- A disk after some writes, one after the other. -/
def puts (d : Disk) (writes : List Write) : Disk :=
  writes.foldl (fun d w => d.put w.1 (.file w.2)) d

theorem puts_cons (d : Disk) (w : Write) (ws : List Write) :
    d.puts (w :: ws) = (d.put w.1 (.file w.2)).puts ws := rfl

theorem puts_append (d : Disk) (ws more : List Write) :
    d.puts (ws ++ more) = (d.puts ws).puts more :=
  List.foldl_append

/-- A file that is written again later need not be written now. -/
theorem put_puts {d : Disk} {l : Location} (c : ByteArray) {ws : List Write}
    (hl : l ∈ ws.map Prod.fst) (hthere : (d.entries.lookup l).isSome) :
    (d.put l (.file c)).puts ws = d.puts ws := by
  induction ws generalizing d with
  | nil => simp at hl
  | cons w ws ih =>
      rw [puts_cons, puts_cons]
      by_cases hw : l = w.1
      · subst hw
        unfold put
        rw [putEntry_putEntry]
      · have hrest : l ∈ ws.map Prod.fst := (List.mem_cons.mp hl).resolve_left hw
        have hcomm : (d.put l (.file c)).put w.1 (.file w.2) =
            (d.put w.1 (.file w.2)).put l (.file c) := by
          unfold put
          rw [putEntry_comm (Ne.symm hw) _ _ hthere]
        have hstill : ((d.put w.1 (.file w.2)).entries.lookup l).isSome := by
          unfold put
          rwa [lookup_putEntry, if_neg hw]
        rw [hcomm, ih hrest hstill]

/-- Writes that leave every file as it is leave the disk as it is. -/
theorem puts_eq_self {d : Disk} {ws : List Write} (hne : ∀ w ∈ ws, w.1 ≠ [])
    (h : overwrite d.files ws = d.files) : d.puts ws = d := by
  induction ws with
  | nil => rfl
  | cons w ws ih =>
      have hw : w.1 ≠ [] := hne w List.mem_cons_self
      have hrest : ∀ v ∈ ws, v.1 ≠ [] := fun v hv => hne v (List.mem_cons_of_mem _ hv)
      have hfile : ∀ {c}, d.files w.1 = some c → d.entries.lookup w.1 = some (.file c) := by
        intro c hc
        rw [← get?_of_ne_nil d hw]
        exact files_eq_some.mp hc
      rw [overwrite_cons] at h
      by_cases hlater : w.1 ∈ ws.map Prod.fst
      · have hsome : (d.files w.1).isSome := by
          rw [← h]
          exact overwrite_isSome hlater
        obtain ⟨c, hc⟩ := Option.isSome_iff_exists.mp hsome
        have hview : overwrite d.files ws = d.files := by
          funext k
          rw [← congrFun h k]
          by_cases hk : k ∈ ws.map Prod.fst
          · exact overwrite_of_mem hk
          · have hkw : k ≠ w.1 := fun e => hk (e ▸ hlater)
            rw [overwrite_of_notMem hk, overwrite_of_notMem hk, Function.update_of_ne hkw]
        rw [puts_cons, put_puts w.2 hlater (by simp [hfile hc]), ih hrest hview]
      · have hc : d.files w.1 = some w.2 := by
          rw [← congrFun h w.1, overwrite_of_notMem hlater, Function.update_self]
        have hput : d.put w.1 (.file w.2) = d := by
          unfold put
          rw [putEntry_of_lookup (hfile hc)]
        have hview : overwrite d.files ws = d.files := by
          rwa [← hc, Function.update_eq_self] at h
        rw [puts_cons, hput, ih hrest hview]

/-! ## Effects -/

/-- The working directory and the directories of a disk are kept. -/
structure Keeps (d d' : Disk) : Prop where
  workingDirectory : d'.workingDirectory = d.workingDirectory
  directories : ∀ l, d.get? l = some .directory → d'.get? l = some .directory

/-- What a part of a run does to a disk: it performs some writes, and it may make directories. -/
structure Effect (writes : List Write) (d d' : Disk) : Prop extends Keeps d d' where
  files : d'.files = overwrite d.files writes

namespace Effect

theorem refl (d : Disk) : Effect [] d d := ⟨⟨rfl, fun _ h => h⟩, rfl⟩

theorem trans {ws more : List Write} {d d' d'' : Disk} (h : Effect ws d d')
    (h' : Effect more d' d'') : Effect (ws ++ more) d d'' := by
  refine ⟨⟨h'.workingDirectory.trans h.workingDirectory, fun l hl => ?_⟩, ?_⟩
  · exact h'.directories l (h.directories l hl)
  · rw [h'.files, h.files, overwrite_append]

/-- A new directory where nothing was is no write. -/
theorem put_directory {d : Disk} {l : Location} (hl : l ≠ []) (h : d.get? l = none) :
    Effect [] d (d.put l .directory) := by
  refine ⟨⟨rfl, fun k hk => ?_⟩, ?_⟩
  · rw [get?_put d hl, hk]
    simp
  · funext k
    unfold Disk.files
    rw [get?_put d hl]
    by_cases hk : k = l
    · simp [hk, h]
    · simp [hk]

theorem put_file {d : Disk} {l : Location} (hl : l ≠ []) (h : d.get? l ≠ some .directory)
    (content : ByteArray) : Effect [(l, content)] d (d.put l (.file content)) := by
  refine ⟨⟨rfl, fun k hk => ?_⟩, files_put_file d hl content⟩
  have hkl : k ≠ l := fun e => h (e ▸ hk)
  rw [get?_put d hl, if_neg hkl, hk]

/-- A location with a file goes on to have one. -/
theorem file_stays {ws : List Write} {d d' : Disk} (h : Effect ws d d') {l : Location}
    {content : ByteArray} (hl : d.get? l = some (.file content)) :
    ∃ now, d'.get? l = some (.file now) := by
  have hsome : (d'.files l).isSome := by
    rw [h.files]
    exact overwrite_isSome_of_isSome (by rw [files_eq_some.mpr hl]; rfl)
  obtain ⟨now, hnow⟩ := Option.isSome_iff_exists.mp hsome
  exact ⟨now, files_eq_some.mp hnow⟩

/-- Where nothing is written, all stays but for new directories. -/
theorem elsewhere {ws : List Write} {d d' : Disk} (h : Effect ws d d') {l : Location}
    (hl : l ∉ ws.map Prod.fst) :
    d'.get? l = d.get? l ∨ (d.get? l = none ∧ d'.get? l = some .directory) := by
  have hfile : d'.files l = d.files l := by rw [h.files, overwrite_of_notMem hl]
  cases hd : d.get? l with
  | some e =>
      left
      cases e with
      | directory => exact h.directories l hd
      | file content =>
          rw [files_eq_some.mpr hd] at hfile
          exact files_eq_some.mp hfile
  | none =>
      have hnone : d.files l = none := by simp [Disk.files, hd]
      rw [hnone] at hfile
      cases hd' : d'.get? l with
      | none => exact .inl rfl
      | some e =>
          cases e with
          | directory => exact .inr ⟨rfl, rfl⟩
          | file content =>
              rw [files_eq_some.mpr hd'] at hfile
              cases hfile

end Effect

end Disk

end CrudStack
