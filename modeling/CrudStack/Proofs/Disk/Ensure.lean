/-
# `CrudStack.Proofs.Disk.Ensure` — making directories and writing files

Only two operations change a disk, and each puts one entry where a path leads
(`makeDirectory_eq_ok`, `writeFile_eq_ok`).  From that follows what it means to make a directory
with those around it:

* only directories are made, whether it succeeds or not (`ensureDirectory_effect`);
* if it succeeds the path is *settled* (`settled_of_ensureDirectory`), and settled paths stay
  settled as long as directories are kept;
* for a settled path there is nothing to do (`ensureDirectory_of_settled`).

A path without a parent is settled from the start: nothing is made for it, whatever it leads to.
In the same way a path that was written is *placed*, stays placed, and can be written again.
-/
import CrudStack.Proofs.Disk.Resolve

namespace CrudStack

namespace Disk

/-! ## The two changes -/

theorem makeDirectory_eq_ok {d d' : Disk} {p : Path} :
    d.makeDirectory p = .ok d' ↔
      ∃ l, d.target p .alreadyExists none = .ok l ∧ d.get? l = none ∧ d' = d.put l .directory := by
  unfold makeDirectory
  rw [bind_eq_ok]
  refine exists_congr fun l => and_congr_right fun _ => ?_
  rw [guard_eq_ok, pure_eq_ok, Bool.not_eq_true, Option.isSome_eq_false_iff,
    Option.isNone_iff_eq_none]

theorem writeFile_eq_ok {d d' : Disk} {p : Path} {content : ByteArray} :
    d.writeFile p content = .ok d' ↔
      ∃ l, d.target p .isDirectory (some .isDirectory) = .ok l ∧ d.get? l ≠ some .directory ∧
        d' = d.put l (.file content) := by
  unfold writeFile
  rw [bind_eq_ok]
  refine exists_congr fun l => and_congr_right fun _ => ?_
  split
  · next h => simp [h, throw_eq]
  · next h =>
      have hfree : d.get? l ≠ some .directory := h
      simp [hfree, pure_eq_ok]

theorem makeDirectory_of_isSome {d : Disk} {p : Path} {l : Location}
    (ht : d.target p .alreadyExists none = .ok l) (hl : (d.get? l).isSome = true) :
    d.makeDirectory p = .error .alreadyExists := by
  rw [makeDirectory, ht, ok_bind, if_pos hl]
  rfl

theorem writeFile_of_directory {d : Disk} {p : Path} {l : Location} {content : ByteArray}
    (ht : d.target p .isDirectory (some .isDirectory) = .ok l)
    (hl : d.get? l = some .directory) : d.writeFile p content = .error .isDirectory := by
  rw [writeFile, ht, ok_bind, hl]
  rfl

/-- Making a directory puts a directory where the path leads, so the path leads to it. -/
theorem lookup_of_makeDirectory {d d' : Disk} {p : Path} (h : d.makeDirectory p = .ok d') :
    d'.lookup p = .ok (d.locate p, .directory) := by
  obtain ⟨l, ht, hnone, rfl⟩ := makeDirectory_eq_ok.mp h
  obtain ⟨hcheck, hempty, _⟩ := target_eq_ok.mp ht
  have hkeeps : Keeps d (d.put l .directory) :=
    (Effect.put_directory (target_ne_nil ht) hnone).toKeeps
  have hget : (d.put l .directory).get? l = some .directory := by
    rw [get?_put d (target_ne_nil ht), if_pos rfl]
  have hwalk := walk_keeps hkeeps (walk_of_target ht)
  rw [← hkeeps.start] at hwalk
  rw [← target_location ht]
  exact lookup_eq_ok.mpr ⟨hcheck, hempty, hwalk, hget, fun hne => absurd rfl hne⟩

theorem hasDirectory_of_makeDirectory {d d' : Disk} {p : Path} (h : d.makeDirectory p = .ok d') :
    d'.hasDirectory p = true :=
  hasDirectory_iff.mpr ⟨_, lookup_of_makeDirectory h⟩

/-- Where a directory is, the only complaint is that it exists. -/
theorem makeDirectory_of_hasDirectory {d : Disk} {p : Path} (h : d.hasDirectory p = true) :
    d.makeDirectory p = .error .alreadyExists := by
  obtain ⟨l, hl⟩ := hasDirectory_iff.mp h
  obtain ⟨hcheck, hempty, hwalk, hdir, -⟩ := lookup_eq_ok.mp hl
  have hrefused : d.target p .alreadyExists none = .error .alreadyExists →
      d.makeDirectory p = .error .alreadyExists := by
    intro ht
    rw [makeDirectory, ht]
    rfl
  cases hlast : (pieces p).getLast? with
  | none =>
      refine hrefused ?_
      rw [Disk.target, hcheck]
      simp [hempty, hlast, ok_bind, throw_eq]
  | some last =>
      obtain ⟨before, hpieces⟩ := List.getLast?_eq_some_iff.mp hlast
      rw [hpieces] at hwalk
      obtain ⟨parent, hparent, hstep⟩ := walk_concat_eq_ok.mp hwalk
      obtain ⟨hparentDir, hfits, hdescend⟩ := step_eq_ok.mp hstep
      cases hdots : isDots last with
      | true =>
          refine hrefused ?_
          rw [Disk.target, hcheck]
          simp [hempty, hpieces, hparent, requireDirectory, hparentDir, hdots, ok_bind, throw_eq,
            error_bind]
      | false =>
          have ht : d.target p .alreadyExists none = .ok (parent ++ [last]) :=
            target_eq_ok.mpr ⟨hcheck, hempty, last, hlast, parent,
              by rwa [hpieces, List.dropLast_concat], hparentDir, hdots, fun _ => rfl,
              hfits hdots, rfl⟩
          have hsame : parent ++ [last] = l := by
            rw [target_location ht, lookup_location hl]
          rw [hsame] at ht
          exact makeDirectory_of_isSome ht (by rw [hdir]; rfl)

/-! ## Effects -/

theorem makeDirectory_effect {d d' : Disk} {p : Path} (h : d.makeDirectory p = .ok d') :
    Effect [] d d' := by
  obtain ⟨l, ht, hnone, rfl⟩ := makeDirectory_eq_ok.mp h
  exact Effect.put_directory (target_ne_nil ht) hnone

theorem writeFile_effect {d d' : Disk} {p : Path} {content : ByteArray}
    (h : d.writeFile p content = .ok d') : Effect [(d.locate p, content)] d d' := by
  obtain ⟨l, ht, hfree, rfl⟩ := writeFile_eq_ok.mp h
  rw [← target_location ht]
  exact Effect.put_file (target_ne_nil ht) hfree content

theorem settleDirectory_effect (d : Disk) (p : Path) : Effect [] d (d.settleDirectory p).disk := by
  unfold settleDirectory
  split
  · next h => exact makeDirectory_effect h
  · exact Effect.refl d
  · exact Effect.refl d

theorem ensureFrom_effect (fuel : Nat) (d : Disk) (p : Path) :
    Effect [] d (ensureFrom fuel d p).disk := by
  induction fuel generalizing d p with
  | zero => exact Effect.refl d
  | succ fuel ih =>
      unfold ensureFrom
      split
      · exact Effect.refl d
      · next parent _ =>
          split
          · dsimp only
            split
            · exact ih d parent
            · exact (ih d parent).trans (settleDirectory_effect _ p)
          · exact settleDirectory_effect d p

theorem ensureDirectory_effect (d : Disk) (p : Path) : Effect [] d (d.ensureDirectory p).disk :=
  ensureFrom_effect _ d p

/-! ## Settled paths -/

/-- There is nothing left to make for a path: it has no parent, or it leads to a directory. -/
def Settled (d : Disk) (p : Path) : Prop := p.parent? = none ∨ d.hasDirectory p = true

theorem Settled.keeps {d d' : Disk} (h : Keeps d d') {p : Path} (hp : Settled d p) :
    Settled d' p :=
  hp.imp_right (hasDirectory_keeps h)

theorem hasDirectory_of_settleDirectory {d : Disk} {p : Path}
    (h : (d.settleDirectory p).fault = none) :
    (d.settleDirectory p).disk.hasDirectory p = true := by
  unfold settleDirectory at h ⊢
  split at h
  · next hmake => exact hasDirectory_of_makeDirectory hmake
  · split at h
    · assumption
    · cases h
  · cases h

theorem settled_of_ensureFrom {fuel : Nat} {d : Disk} {p : Path}
    (h : (ensureFrom (fuel + 1) d p).fault = none) :
    Settled (ensureFrom (fuel + 1) d p).disk p := by
  unfold ensureFrom at h ⊢
  split at h
  · next hnone => exact .inl hnone
  · split at h
    · dsimp only at h ⊢
      split at h
      · next hfault => rw [hfault] at h; cases h
      · exact .inr (hasDirectory_of_settleDirectory h)
    · exact .inr (hasDirectory_of_settleDirectory h)

theorem settled_of_ensureDirectory {d : Disk} {p : Path} (h : (d.ensureDirectory p).fault = none) :
    Settled (d.ensureDirectory p).disk p :=
  settled_of_ensureFrom h

theorem ensureDirectory_of_settled {d : Disk} {p : Path} (h : Settled d p) :
    d.ensureDirectory p = ⟨d, none⟩ := by
  unfold ensureDirectory ensureFrom
  split
  · rfl
  · next parent hparent =>
      have hp : d.hasDirectory p = true := h.resolve_left (by simp [hparent])
      have hmake := makeDirectory_of_hasDirectory hp
      simp [hmake, settleDirectory, hp]

/-! ## Placed files -/

/-- A path leads to a file, and it can be written again. -/
def Placed (d : Disk) (p : Path) : Prop :=
  ∃ l content, d.target p .isDirectory (some .isDirectory) = .ok l ∧
    d.get? l = some (.file content)

theorem placed_of_writeFile {d d' : Disk} {p : Path} {content : ByteArray}
    (h : d.writeFile p content = .ok d') : Placed d' p := by
  have hkeeps := (writeFile_effect h).toKeeps
  obtain ⟨l, ht, -, rfl⟩ := writeFile_eq_ok.mp h
  refine ⟨l, content, target_keeps hkeeps ht, ?_⟩
  rw [get?_put d (target_ne_nil ht), if_pos rfl]

theorem Placed.effect {ws : List Write} {d d' : Disk} (h : Effect ws d d') {p : Path}
    (hp : Placed d p) : Placed d' p := by
  obtain ⟨l, content, ht, hl⟩ := hp
  obtain ⟨now, hnow⟩ := h.file_stays hl
  exact ⟨l, now, target_keeps h.toKeeps ht, hnow⟩

theorem writeFile_of_placed {d : Disk} {p : Path} (h : Placed d p) (content : ByteArray) :
    d.writeFile p content = .ok (d.put (d.locate p) (.file content)) := by
  obtain ⟨l, old, ht, hl⟩ := h
  rw [← target_location ht]
  exact writeFile_eq_ok.mpr ⟨l, ht, by simp [hl], rfl⟩

theorem locate_ne_nil_of_placed {d : Disk} {p : Path} (h : Placed d p) : d.locate p ≠ [] := by
  obtain ⟨l, _, ht, _⟩ := h
  rw [← target_location ht]
  exact target_ne_nil ht

theorem lookup_of_placed {d : Disk} {p : Path} (h : Placed d p) :
    ∃ content, d.lookup p = .ok (d.locate p, .file content) := by
  obtain ⟨l, content, ht, hl⟩ := h
  obtain ⟨hcheck, hempty, _, _, _, _, _, _, hslash, _⟩ := target_eq_ok.mp ht
  rw [← target_location ht]
  refine ⟨content, lookup_eq_ok.mpr ⟨hcheck, hempty, walk_of_target ht, hl, fun _ => ?_⟩⟩
  cases hend : endsInSlash p with
  | false => rfl
  | true => exact nomatch hslash hend

/-! ## Alike disks

On disks that differ in contents only, every change has the same outcome, and they stay alike. -/

namespace Alike

variable {d d' : Disk}

theorem put (h : Alike d d') {l : Location} (hl : l ≠ []) {e e' : DiskEntry}
    (he : e'.isFile = e.isFile) : Alike (d.put l e) (d'.put l e') := by
  refine ⟨h.workingDirectory, fun k => ?_⟩
  rw [get?_put d hl, get?_put d' hl]
  by_cases hk : k = l
  · simp [hk, he]
  · simp [hk, h.kinds]

end Alike

/-- Two attempts to change a disk fail for the same reason, or both succeed with alike disks. -/
def SameResult (x x' : Except IoFault Disk) : Prop :=
  (∃ fault, x = .error fault ∧ x' = .error fault) ∨
    ∃ now now', x = .ok now ∧ x' = .ok now' ∧ Alike now now'

/-- Two changes end with the same fault and with alike disks. -/
def SameChange (c c' : Changed) : Prop := Alike c.disk c'.disk ∧ c'.fault = c.fault

namespace Alike

variable {d d' : Disk}

theorem makeDirectory (h : Alike d d') (p : Path) :
    SameResult (d.makeDirectory p) (d'.makeDirectory p) := by
  have htarget := h.target p .alreadyExists none
  cases ht : d.target p .alreadyExists none with
  | error fault =>
      rw [ht] at htarget
      exact .inl ⟨fault, by rw [Disk.makeDirectory, ht]; rfl,
        by rw [Disk.makeDirectory, htarget]; rfl⟩
  | ok l =>
      rw [ht] at htarget
      have hsome := h.isSome l
      cases hl : d.get? l with
      | some e =>
          rw [hl] at hsome
          exact .inl ⟨.alreadyExists, makeDirectory_of_isSome ht (by rw [hl]; rfl),
            makeDirectory_of_isSome htarget hsome⟩
      | none =>
          have hl' : d'.get? l = none := by simpa [hl] using hsome
          exact .inr ⟨_, _, makeDirectory_eq_ok.mpr ⟨l, ht, hl, rfl⟩,
            makeDirectory_eq_ok.mpr ⟨l, htarget, hl', rfl⟩, h.put (target_ne_nil ht) rfl⟩

theorem writeFile (h : Alike d d') (p : Path) (content : ByteArray) :
    SameResult (d.writeFile p content) (d'.writeFile p content) := by
  have htarget := h.target p .isDirectory (some .isDirectory)
  cases ht : d.target p .isDirectory (some .isDirectory) with
  | error fault =>
      rw [ht] at htarget
      exact .inl ⟨fault, by rw [Disk.writeFile, ht]; rfl, by rw [Disk.writeFile, htarget]; rfl⟩
  | ok l =>
      rw [ht] at htarget
      by_cases hl : d.get? l = some .directory
      · have hl' := h.directory.mpr hl
        exact .inl ⟨.isDirectory, writeFile_of_directory ht hl, writeFile_of_directory htarget hl'⟩
      · have hl' : d'.get? l ≠ some .directory := fun e => hl (h.directory.mp e)
        exact .inr ⟨_, _, writeFile_eq_ok.mpr ⟨l, ht, hl, rfl⟩,
          writeFile_eq_ok.mpr ⟨l, htarget, hl', rfl⟩, h.put (target_ne_nil ht) rfl⟩

theorem settleDirectory (h : Alike d d') (p : Path) :
    SameChange (d.settleDirectory p) (d'.settleDirectory p) := by
  unfold Disk.settleDirectory
  rw [h.hasDirectory]
  rcases h.makeDirectory p with ⟨fault, hd, hd'⟩ | ⟨now, now', hd, hd', hnow⟩
  · rw [hd, hd']
    cases fault <;> exact ⟨h, rfl⟩
  · rw [hd, hd']
    exact ⟨hnow, rfl⟩

theorem ensureFrom (h : Alike d d') (fuel : Nat) (p : Path) :
    SameChange (Disk.ensureFrom fuel d p) (Disk.ensureFrom fuel d' p) := by
  induction fuel generalizing d d' p with
  | zero => exact ⟨h, rfl⟩
  | succ fuel ih =>
      unfold Disk.ensureFrom
      cases p.parent? with
      | none => exact ⟨h, rfl⟩
      | some parent =>
          have hsettle := h.settleDirectory p
          rcases h.makeDirectory p with ⟨fault, hd, hd'⟩ | ⟨now, now', hd, hd', hnow⟩
          · obtain ⟨haround, hfault⟩ := ih h parent
            simp only [hd, hd']
            cases fault with
            | notFound =>
                simp only [hfault]
                cases (Disk.ensureFrom fuel d parent).fault with
                | some fault => exact ⟨haround, hfault⟩
                | none => exact haround.settleDirectory p
            | _ => exact hsettle
          · simp only [hd, hd']
            exact hsettle

theorem ensureDirectory (h : Alike d d') (p : Path) :
    SameChange (d.ensureDirectory p) (d'.ensureDirectory p) :=
  h.ensureFrom _ p

end Alike

end Disk

end CrudStack
