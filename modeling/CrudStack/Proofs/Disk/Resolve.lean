/-
# `CrudStack.Proofs.Disk.Resolve` — where paths lead

A path that leads anywhere leads to a location that can be read off its pieces (`locate`); the disk
only decides whether it leads there.  What it needs for that are directories, so it goes on leading
there as long as directories are kept (`target_keeps`, `hasDirectory_keeps`).

Two disks that differ in the content of files only cannot be told apart by resolving paths
(`Alike.target`, `Alike.hasDirectory`).
-/
import CrudStack.Proofs.Disk.Files
import CrudStack.Proofs.Success

namespace CrudStack

/-- Whether an entry is a file. -/
def DiskEntry.isFile : DiskEntry → Bool
  | .directory => false
  | .file _ => true

namespace Disk

/-! ## Locations -/

/-- The location that a piece leads to, if it leads anywhere. -/
def descend (l : Location) (piece : String) : Location :=
  if piece = "." then l else if piece = ".." then l.dropLast else l ++ [piece]

/-- The location that a path leads to, if it leads anywhere. -/
def locate (d : Disk) (p : Path) : Location := (pieces p).foldl descend (d.start p)

/-- A piece is short enough, or it is no name. -/
def fits (piece : String) : Prop := isDots piece = false → piece.utf8ByteSize ≤ nameLimit

/-! ## Steps -/

theorem throw_eq {α : Type} (fault : IoFault) :
    (throw fault : Except IoFault α) = .error fault := rfl

theorem error_bind {α β : Type} (fault : IoFault) (f : α → Except IoFault β) :
    (Except.error fault >>= f) = .error fault := rfl

theorem check_eq_ok {α : Type} {x : Except IoFault Unit} {f : Unit → Except IoFault α} {a : α} :
    (x >>= f) = .ok a ↔ x = .ok () ∧ f () = .ok a := by
  cases x <;> simp [bind, Except.bind]

/-- A guard that throws: what follows is reached if the condition does not hold. -/
theorem guard_eq_ok {α : Type} {c : Prop} [Decidable c] {fault : IoFault}
    {next : Unit → Except IoFault α} {a : α} :
    (if c then do next (← throw fault) else next ()) = .ok a ↔ ¬c ∧ next () = .ok a := by
  by_cases h : c
  · simp [h, bind_eq_ok, throw_eq]
  · simp [h]

theorem requireDirectory_eq_ok {d : Disk} {l : Location} {u : Unit} :
    d.requireDirectory l = .ok u ↔ d.get? l = some .directory := by
  unfold requireDirectory
  split <;> simp_all

theorem step_eq_ok {d : Disk} {l l' : Location} {piece : String} :
    d.step l piece = .ok l' ↔
      d.get? l = some .directory ∧ fits piece ∧ l' = descend l piece := by
  unfold step descend fits isDots
  simp only [bind_eq_ok, requireDirectory_eq_ok, exists_const]
  refine and_congr_right fun _ => ?_
  by_cases hdot : piece = "."
  · simp [hdot, pure_eq_ok]
  · by_cases hdots : piece = ".."
    · simp [hdots, pure_eq_ok]
    · by_cases hlong : nameLimit < piece.utf8ByteSize
      · simp [hdot, hdots, hlong, throw_eq, Nat.not_le.mpr hlong]
      · simp [hdot, hdots, hlong, pure_eq_ok, Nat.le_of_not_lt hlong]

theorem walk_nil (d : Disk) (l : Location) : d.walk l [] = .ok l := rfl

theorem walk_cons_eq_ok {d : Disk} {l l' : Location} {piece : String} {rest : List String} :
    d.walk l (piece :: rest) = .ok l' ↔
      ∃ next, d.step l piece = .ok next ∧ d.walk next rest = .ok l' := by
  unfold walk
  rw [List.foldlM_cons]
  exact bind_eq_ok

theorem walk_concat_eq_ok {d : Disk} {l l' : Location} {piece : String} {before : List String} :
    d.walk l (before ++ [piece]) = .ok l' ↔
      ∃ parent, d.walk l before = .ok parent ∧ d.step parent piece = .ok l' := by
  induction before generalizing l with
  | nil => simp [walk_cons_eq_ok, walk_nil]
  | cons first rest ih =>
      simp only [List.cons_append, walk_cons_eq_ok, ih]
      refine ⟨fun ⟨next, h, parent, hp, hs⟩ => ⟨parent, ⟨next, h, hp⟩, hs⟩,
        fun ⟨parent, ⟨next, h, hp⟩, hs⟩ => ⟨next, h, parent, hp, hs⟩⟩

theorem walk_location {d : Disk} {l l' : Location} {ps : List String} (h : d.walk l ps = .ok l') :
    l' = ps.foldl descend l := by
  induction ps generalizing l with
  | nil => exact (Except.ok.inj h).symm
  | cons piece rest ih =>
      obtain ⟨next, hstep, hrest⟩ := walk_cons_eq_ok.mp h
      rw [List.foldl_cons, ← (step_eq_ok.mp hstep).2.2]
      exact ih hrest

/-! ## What paths need -/

theorem lookup_eq_ok {d : Disk} {p : Path} {l : Location} {e : DiskEntry} :
    d.lookup p = .ok (l, e) ↔ checkPath p = .ok () ∧ p.text.isEmpty = false ∧
      d.walk (d.start p) (pieces p) = .ok l ∧ d.get? l = some e ∧
      (e ≠ .directory → endsInSlash p = false) := by
  unfold lookup
  rw [check_eq_ok, guard_eq_ok, Bool.not_eq_true]
  refine and_congr Iff.rfl (and_congr Iff.rfl ?_)
  rw [bind_eq_ok]
  constructor
  · rintro ⟨l', hwalk, h⟩
    cases hget : d.get? l' with
    | none => simp [hget, throw_eq] at h
    | some e' =>
        cases e' with
        | directory =>
            simp only [hget, pure_eq_ok, Prod.mk.injEq] at h
            obtain ⟨rfl, rfl⟩ := h
            exact ⟨hwalk, hget, fun hne => absurd rfl hne⟩
        | file content =>
            cases hslash : endsInSlash p with
            | true => simp [hget, hslash, throw_eq] at h
            | false =>
                simp only [hget, hslash, Bool.false_eq_true, if_false, pure_eq_ok,
                  Prod.mk.injEq] at h
                obtain ⟨rfl, rfl⟩ := h
                exact ⟨hwalk, hget, fun _ => rfl⟩
  · rintro ⟨hwalk, hget, hslash⟩
    refine ⟨l, hwalk, ?_⟩
    rw [hget]
    cases e with
    | directory => rfl
    | file content =>
        have hopen : endsInSlash p = false := hslash (fun hfile => by cases hfile)
        simp only [hopen]
        rfl

theorem hasDirectory_iff {d : Disk} {p : Path} :
    d.hasDirectory p = true ↔ ∃ l, d.lookup p = .ok (l, .directory) := by
  unfold hasDirectory
  split
  · next l h => simp [h]
  · next hnot =>
      refine ⟨fun h => (nomatch h), fun ⟨l, h⟩ => ?_⟩
      exact absurd h (hnot l)

/-- Everything that a path needs to lead to a place for something new. -/
theorem target_eq_ok {d : Disk} {p : Path} {onDots : IoFault} {onSlash : Option IoFault}
    {l : Location} :
    d.target p onDots onSlash = .ok l ↔ checkPath p = .ok () ∧ p.text.isEmpty = false ∧
      ∃ last, (pieces p).getLast? = some last ∧
        ∃ parent, d.walk (d.start p) (pieces p).dropLast = .ok parent ∧
          d.get? parent = some .directory ∧ isDots last = false ∧
          (endsInSlash p = true → onSlash = none) ∧ last.utf8ByteSize ≤ nameLimit ∧
          l = parent ++ [last] := by
  unfold target
  rw [check_eq_ok, guard_eq_ok, Bool.not_eq_true]
  refine and_congr Iff.rfl (and_congr Iff.rfl ?_)
  cases hlast : (pieces p).getLast? with
  | none => simp [throw_eq]
  | some last =>
      simp -zeta only [Option.some.injEq, exists_eq_left']
      rw [bind_eq_ok]
      refine exists_congr fun parent => and_congr_right fun _ => ?_
      rw [check_eq_ok, guard_eq_ok, requireDirectory_eq_ok, Bool.not_eq_true]
      refine and_congr_right fun _ => and_congr_right fun _ => ?_
      by_cases hlong : nameLimit < last.utf8ByteSize
      · have hnot : ¬last.utf8ByteSize ≤ nameLimit := Nat.not_le.mpr hlong
        cases endsInSlash p <;> cases onSlash <;>
          simp [hlong, hnot, throw_eq, error_bind]
      · have hle : last.utf8ByteSize ≤ nameLimit := Nat.le_of_not_lt hlong
        cases endsInSlash p <;> cases onSlash <;>
          simp [hlong, hle, throw_eq, pure_eq_ok]

/-! ## Directories are enough -/

theorem step_keeps {d d' : Disk} (h : Keeps d d') {l l' : Location} {piece : String}
    (hstep : d.step l piece = .ok l') : d'.step l piece = .ok l' := by
  obtain ⟨hdir, hfits, hl⟩ := step_eq_ok.mp hstep
  exact step_eq_ok.mpr ⟨h.directories l hdir, hfits, hl⟩

theorem walk_keeps {d d' : Disk} (h : Keeps d d') {l l' : Location} {ps : List String}
    (hwalk : d.walk l ps = .ok l') : d'.walk l ps = .ok l' := by
  induction ps generalizing l with
  | nil => exact hwalk
  | cons piece rest ih =>
      obtain ⟨next, hstep, hrest⟩ := walk_cons_eq_ok.mp hwalk
      exact walk_cons_eq_ok.mpr ⟨next, step_keeps h hstep, ih hrest⟩

theorem Keeps.start {d d' : Disk} (h : Keeps d d') (p : Path) : d'.start p = d.start p := by
  unfold Disk.start
  rw [h.workingDirectory]

theorem Keeps.locate {d d' : Disk} (h : Keeps d d') (p : Path) : d'.locate p = d.locate p := by
  unfold Disk.locate
  rw [h.start]

/-- A path that leads to a place goes on to lead there as long as directories are kept. -/
theorem target_keeps {d d' : Disk} (h : Keeps d d') {p : Path} {onDots : IoFault}
    {onSlash : Option IoFault} {l : Location} (ht : d.target p onDots onSlash = .ok l) :
    d'.target p onDots onSlash = .ok l := by
  obtain ⟨hcheck, hempty, last, hlast, parent, hwalk, hdir, hrest⟩ := target_eq_ok.mp ht
  rw [← h.start] at hwalk
  exact target_eq_ok.mpr ⟨hcheck, hempty, last, hlast, parent, walk_keeps h hwalk,
    h.directories parent hdir, hrest⟩

theorem lookup_keeps {d d' : Disk} (h : Keeps d d') {p : Path} {l : Location}
    (hp : d.lookup p = .ok (l, .directory)) : d'.lookup p = .ok (l, .directory) := by
  obtain ⟨hcheck, hempty, hwalk, hdir, hslash⟩ := lookup_eq_ok.mp hp
  rw [← h.start] at hwalk
  exact lookup_eq_ok.mpr ⟨hcheck, hempty, walk_keeps h hwalk, h.directories l hdir, hslash⟩

theorem hasDirectory_keeps {d d' : Disk} (h : Keeps d d') {p : Path}
    (hp : d.hasDirectory p = true) : d'.hasDirectory p = true := by
  obtain ⟨l, hl⟩ := hasDirectory_iff.mp hp
  exact hasDirectory_iff.mpr ⟨l, lookup_keeps h hl⟩

/-! ## Where a path leads -/

theorem lookup_location {d : Disk} {p : Path} {l : Location} {e : DiskEntry}
    (h : d.lookup p = .ok (l, e)) : l = d.locate p :=
  walk_location (lookup_eq_ok.mp h).2.2.1

/-- The place for something new is where the whole path leads. -/
theorem walk_of_target {d : Disk} {p : Path} {onDots : IoFault} {onSlash : Option IoFault}
    {l : Location} (h : d.target p onDots onSlash = .ok l) :
    d.walk (d.start p) (pieces p) = .ok l := by
  obtain ⟨_, _, last, hlast, parent, hwalk, hdir, hname, _, hfits, hl⟩ := target_eq_ok.mp h
  obtain ⟨before, hpieces⟩ := List.getLast?_eq_some_iff.mp hlast
  rw [hpieces, List.dropLast_concat] at hwalk
  rw [hpieces]
  refine walk_concat_eq_ok.mpr ⟨parent, hwalk, step_eq_ok.mpr ⟨hdir, fun _ => hfits, ?_⟩⟩
  simp only [isDots, Bool.or_eq_false_iff, decide_eq_false_iff_not] at hname
  rw [hl, descend, if_neg hname.1, if_neg hname.2]

theorem target_location {d : Disk} {p : Path} {onDots : IoFault} {onSlash : Option IoFault}
    {l : Location} (h : d.target p onDots onSlash = .ok l) : l = d.locate p :=
  walk_location (walk_of_target h)

theorem target_ne_nil {d : Disk} {p : Path} {onDots : IoFault} {onSlash : Option IoFault}
    {l : Location} (h : d.target p onDots onSlash = .ok l) : l ≠ [] := by
  obtain ⟨_, _, last, _, parent, _, _, _, _, _, hl⟩ := target_eq_ok.mp h
  simp [hl]

/-! ## Disks that differ in contents only -/

/-- Two disks have directories at the same locations and files at the same locations. -/
structure Alike (d d' : Disk) : Prop where
  workingDirectory : d'.workingDirectory = d.workingDirectory
  kinds : ∀ l, (d'.get? l).map DiskEntry.isFile = (d.get? l).map DiskEntry.isFile

namespace Alike

variable {d d' : Disk}

theorem directory (h : Alike d d') {l : Location} :
    d'.get? l = some .directory ↔ d.get? l = some .directory := by
  have hdirectory : ∀ e : Option DiskEntry,
      e = some .directory ↔ e.map DiskEntry.isFile = some false := by
    intro e
    rcases e with _ | _ | _ <;> simp [DiskEntry.isFile]
  rw [hdirectory, hdirectory, h.kinds]

theorem keeps (h : Alike d d') : Keeps d d' :=
  ⟨h.workingDirectory, fun _ hl => h.directory.mpr hl⟩

theorem isSome (h : Alike d d') (l : Location) : (d'.get? l).isSome = (d.get? l).isSome := by
  rw [← Option.isSome_map (f := DiskEntry.isFile), h.kinds, Option.isSome_map]

theorem requireDirectory (h : Alike d d') (l : Location) :
    d'.requireDirectory l = d.requireDirectory l := by
  have hl := h.kinds l
  unfold Disk.requireDirectory
  generalize d.get? l = e, d'.get? l = e' at hl ⊢
  rcases e with _ | _ | _ <;> rcases e' with _ | _ | _ <;> simp_all [DiskEntry.isFile]

theorem start (h : Alike d d') (p : Path) : d'.start p = d.start p := by
  unfold Disk.start
  rw [h.workingDirectory]

theorem walk (h : Alike d d') (l : Location) (ps : List String) : d'.walk l ps = d.walk l ps := by
  have hstep : d'.step = d.step := by
    funext l piece
    unfold Disk.step
    rw [h.requireDirectory]
  unfold Disk.walk
  rw [hstep]

theorem target (h : Alike d d') (p : Path) (onDots : IoFault) (onSlash : Option IoFault) :
    d'.target p onDots onSlash = d.target p onDots onSlash := by
  unfold Disk.target
  simp only [h.walk, h.start, h.requireDirectory]

theorem hasDirectory (h : Alike d d') (p : Path) : d'.hasDirectory p = d.hasDirectory p := by
  rw [Bool.eq_iff_iff, hasDirectory_iff, hasDirectory_iff]
  simp only [lookup_eq_ok, h.walk, h.start, h.directory]

end Alike

end Disk

end CrudStack
