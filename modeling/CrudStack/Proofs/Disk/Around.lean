/-
# `CrudStack.Proofs.Disk.Around` — making a directory is making its parent, then itself

`ensureDirectory` tries a path first and turns to its parent only if something is missing; it counts
parts for that.  Both is spelling out what could be said at once: make the parent, then settle the
path (`ensureDirectory_of_parent`).  It needs an argument, because the parent is left alone when the
path itself can be made, and then it must have been a directory before (`settled_of_makeDirectory`).

From this follow two facts about runs that share directories.  A directory may be made on a disk or
on one where its parent has been made already (`ensureDirectory_parent`), and a path may be given
with or without dots at its end (`ensureDirectory_trimmed`).
-/
import CrudStack.Proofs.Disk.Ensure
import CrudStack.Proofs.Path.Parent

namespace CrudStack

namespace Disk

/-! ## Paths that the system accepts -/

theorem checkPath_eq_ok {p : Path} :
    checkPath p = .ok () ↔ '\x00' ∉ p.text.toList ∧ p.text.utf8ByteSize < pathLimit := by
  unfold checkPath
  by_cases hnul : '\x00' ∈ p.text.toList
  · simp [hnul]
  · by_cases hlong : pathLimit ≤ p.text.utf8ByteSize
    · simp [hnul, hlong]
    · simp [hnul, hlong, Nat.lt_of_not_le hlong]

/-- What begins an accepted path is accepted. -/
theorem checkPath_beginning {p q : Path} (h : q.text.toList <+: p.text.toList)
    (hp : checkPath p = .ok ()) : checkPath q = .ok () := by
  obtain ⟨hnul, hlong⟩ := checkPath_eq_ok.mp hp
  obtain ⟨rest, hrest⟩ := h
  have htext : p.text = q.text ++ String.ofList rest := by
    rw [← String.toList_inj, String.toList_append, String.toList_ofList, hrest]
  refine checkPath_eq_ok.mpr ⟨fun hmem => hnul ?_, ?_⟩
  · rw [← hrest]
    exact List.mem_append_left _ hmem
  · rw [htext, String.utf8ByteSize_append] at hlong
    omega

theorem start_congr (d : Disk) {p q : Path} (h : q.isAbsolute = p.isAbsolute) :
    d.start q = d.start p := by
  rw [start, h, start]

/-! ## One step of making a directory -/

theorem ensureDirectory_of_parent?_none {p : Path} (h : p.parent? = none) (d : Disk) :
    d.ensureDirectory p = ⟨d, none⟩ := by
  rw [ensureDirectory, ensureFrom, h]

theorem ensureDirectory_eq {p q : Path} (h : p.parent? = some q) (d : Disk) :
    d.ensureDirectory p =
      match d.makeDirectory p with
      | .error .notFound =>
        match (d.ensureDirectory q).fault with
        | some _ => d.ensureDirectory q
        | none => (d.ensureDirectory q).disk.settleDirectory p
      | _ => d.settleDirectory p := by
  rw [ensureDirectory, (Path.parent_of_parent? h).parts, ensureFrom, h]
  rfl

theorem ensureDirectory_of_ne_notFound {p q : Path} (h : p.parent? = some q) {d : Disk}
    (hmake : d.makeDirectory p ≠ .error .notFound) : d.ensureDirectory p = d.settleDirectory p := by
  rw [ensureDirectory_eq h]
  split
  · next hnot => exact absurd hnot hmake
  · rfl

theorem makeDirectory_ne_notFound {d : Disk} {p : Path} (h : (d.settleDirectory p).fault = none) :
    d.makeDirectory p ≠ .error .notFound := by
  intro hmake
  rw [settleDirectory, hmake] at h
  cases h

theorem checkPath_of_hasDirectory {d : Disk} {p : Path} (h : d.hasDirectory p = true) :
    checkPath p = .ok () := by
  obtain ⟨l, hl⟩ := hasDirectory_iff.mp h
  exact (lookup_eq_ok.mp hl).1

/-! ## Missing directories -/

theorem walk_append (d : Disk) (l : Location) (as bs : List String) :
    d.walk l (as ++ bs) = (do d.walk (← d.walk l as) bs) := List.foldlM_append

/-- On the way along some pieces, or at its end, there is nothing. -/
def Missing (d : Disk) (l : Location) (ps : List String) : Prop :=
  (do d.requireDirectory (← d.walk l ps)) = .error .notFound

theorem requireDirectory_of_none {d : Disk} {l : Location} (h : d.get? l = none) :
    d.requireDirectory l = .error .notFound := by
  rw [requireDirectory, h]

theorem Missing.append {d : Disk} {l : Location} {ps : List String} (h : Missing d l ps)
    (more : List String) : Missing d l (ps ++ more) := by
  unfold Missing at h ⊢
  rw [walk_append]
  cases hwalk : d.walk l ps with
  | error fault =>
      rw [hwalk] at h
      exact h
  | ok r =>
      rw [hwalk, ok_bind] at h
      cases more with
      | nil => exact h
      | cons piece rest =>
          have hstep : d.step r piece = .error .notFound := by
            rw [step, h]
            rfl
          rw [ok_bind, walk, List.foldlM_cons, hstep]
          rfl

/-- Where something is missing on the way, a directory cannot be made. -/
theorem makeDirectory_of_missing {d : Disk} {p : Path} {before after : List String}
    {last : String} (hcheck : checkPath p = .ok ())
    (hpieces : pieces p = before ++ last :: after) (h : Missing d (d.start p) before) :
    d.makeDirectory p = .error .notFound := by
  have hempty : p.text.isEmpty = false := by
    rw [Bool.eq_false_iff, ne_eq, String.isEmpty_iff]
    intro hempty
    have hnil : pieces p = [] := by
      rw [pieces, hempty]
      rfl
    rw [hnil] at hpieces
    simp at hpieces
  obtain ⟨final, hfinal⟩ : ∃ final, (pieces p).getLast? = some final := by
    rw [hpieces]
    simp [List.getLast?_eq_some_getLast]
  have hway : Missing d (d.start p) (pieces p).dropLast := by
    rw [hpieces, List.dropLast_append_of_ne_nil (by simp)]
    exact h.append _
  have htarget : d.target p .alreadyExists none = .error .notFound := by
    unfold target Missing at *
    rw [hcheck, ok_bind, hempty]
    simp only [hfinal, Bool.false_eq_true, if_false]
    cases hwalk : d.walk (d.start p) (pieces p).dropLast with
    | error fault =>
        rw [hwalk] at hway
        cases hway
        rfl
    | ok r =>
        rw [hwalk, ok_bind] at hway
        simp [ok_bind, hway, error_bind]
  rw [makeDirectory, htarget]
  rfl

/-- Only directories that were made can have made a way. -/
theorem walk_back {d d' : Disk} (h : Effect [] d d') {l r : Location} {ps : List String}
    (hwalk : d'.walk l ps = .ok r) : d.walk l ps = .ok r ∨ Missing d l ps := by
  induction ps generalizing l with
  | nil => exact .inl hwalk
  | cons piece rest ih =>
      obtain ⟨next, hstep, hrest⟩ := walk_cons_eq_ok.mp hwalk
      obtain ⟨hdir, hfits, hnext⟩ := step_eq_ok.mp hstep
      rcases h.elsewhere (l := l) List.not_mem_nil with hsame | ⟨hnone, -⟩
      · rw [hsame] at hdir
        have hthere := step_eq_ok.mpr ⟨hdir, hfits, hnext⟩
        rcases ih hrest with hgo | hmissing
        · exact .inl (walk_cons_eq_ok.mpr ⟨next, hthere, hgo⟩)
        · refine .inr ?_
          unfold Missing at hmissing ⊢
          rw [walk, List.foldlM_cons, hthere, ok_bind]
          exact hmissing
      · have hhere : Missing d l [] := requireDirectory_of_none hnone
        exact .inr (hhere.append (piece :: rest))

/-- If a path can be made at once, or is in the way, then what is around it was there. -/
theorem settled_of_makeDirectory {d : Disk} {p q : Path} (h : p.parent? = some q)
    (hcheck : checkPath p = .ok ()) (hq : (d.ensureDirectory q).fault = none)
    (hmake : d.makeDirectory p ≠ .error .notFound) : Settled d q := by
  have hparent := Path.parent_of_parent? h
  obtain ⟨dots, last, after, hpieces, -, -⟩ := hparent.pieces
  have hmissing : ¬Missing d (d.start q) (pieces q) := by
    intro hmissing
    rw [start_congr d hparent.isAbsolute] at hmissing
    exact hmake (makeDirectory_of_missing hcheck hpieces (hmissing.append dots))
  rcases settled_of_ensureDirectory hq with hnone | hdirectory
  · exact .inl hnone
  · have heffect := ensureDirectory_effect d q
    obtain ⟨r, hr⟩ := hasDirectory_iff.mp hdirectory
    obtain ⟨hcheckq, hempty, hwalk, hdir, hslash⟩ := lookup_eq_ok.mp hr
    rw [heffect.toKeeps.start] at hwalk
    rcases walk_back heffect hwalk with hwalk | hgone
    · rcases heffect.elsewhere (l := r) List.not_mem_nil with hsame | ⟨hnone, -⟩
      · rw [hsame] at hdir
        exact .inr (hasDirectory_iff.mpr ⟨r, lookup_eq_ok.mpr
          ⟨hcheckq, hempty, hwalk, hdir, hslash⟩⟩)
      · refine absurd ?_ hmissing
        rw [Missing, hwalk]
        exact requireDirectory_of_none hnone
    · exact absurd hgone hmissing

/-! ## Parents first -/

/-- Making a directory is making its parent, then settling it. -/
theorem ensureDirectory_of_parent {d : Disk} {p q : Path} (h : p.parent? = some q)
    (hcheck : checkPath p = .ok ()) (hq : (d.ensureDirectory q).fault = none) :
    d.ensureDirectory p = (d.ensureDirectory q).disk.settleDirectory p := by
  rw [ensureDirectory_eq h]
  split
  · rw [hq]
  · next hmake =>
      rw [ensureDirectory_of_settled (settled_of_makeDirectory h hcheck hq hmake)]

/-- It makes no difference whether the parent has been made before. -/
theorem ensureDirectory_parent {d : Disk} {p q : Path} (h : p.parent? = some q)
    (hcheck : checkPath p = .ok ()) (hq : (d.ensureDirectory q).fault = none) :
    (d.ensureDirectory q).disk.ensureDirectory p = d.ensureDirectory p := by
  have hsettled := ensureDirectory_of_settled (settled_of_ensureDirectory hq)
  rw [ensureDirectory_of_parent h hcheck hq,
    ensureDirectory_of_parent h hcheck (by rw [hsettled]), hsettled]

/-! ## Where making starts -/

/-- Nothing can be made if nothing is there where the path starts.  Induction over the parts of the
path: no parent can be made either. -/
theorem start_ne_none {d : Disk} {p q : Path} (h : p.parent? = some q)
    (hp : (d.ensureDirectory p).fault = none) : d.get? (d.start p) ≠ none := by
  intro hnone
  have hdirectory := (settled_of_ensureDirectory hp).resolve_left (by simp [h])
  have hparent := Path.parent_of_parent? h
  obtain ⟨dots, last, after, hpieces, -, -⟩ := hparent.pieces
  have hstart : Missing d (d.start p) [] := requireDirectory_of_none hnone
  have hmake := makeDirectory_of_missing (checkPath_of_hasDirectory hdirectory) hpieces
    (hstart.append (pieces q ++ dots))
  rw [ensureDirectory_eq h, hmake] at hp
  cases hq : (d.ensureDirectory q).fault with
  | some fault => simp [hq] at hp
  | none =>
      simp only [hq] at hp
      cases hnext : q.parent? with
      | none =>
          rw [ensureDirectory_of_parent?_none hnext] at hp
          exact makeDirectory_ne_notFound hp hmake
      | some r =>
          rw [← start_congr d hparent.isAbsolute] at hnone
          exact start_ne_none hnext hq hnone
termination_by p.parts.length
decreasing_by
  rw [hparent.parts]
  exact Nat.lt_succ_self _

/-- A path along which directories could be made starts at a directory. -/
theorem start_of_ensureDirectory {d : Disk} {p q : Path} (h : p.parent? = some q)
    (hp : (d.ensureDirectory p).fault = none) : d.get? (d.start p) = some .directory := by
  have hdirectory := (settled_of_ensureDirectory hp).resolve_left (by simp [h])
  have heffect := ensureDirectory_effect d p
  obtain ⟨r, hr⟩ := hasDirectory_iff.mp hdirectory
  obtain ⟨-, -, hwalk, -, -⟩ := lookup_eq_ok.mp hr
  obtain ⟨dots, last, after, hpieces, -, -⟩ := (Path.parent_of_parent? h).pieces
  obtain ⟨first, rest, hfirst⟩ := List.exists_cons_of_ne_nil
    (show pieces p ≠ [] by simp [hpieces])
  rw [hfirst, heffect.toKeeps.start] at hwalk
  obtain ⟨next, hstep, -⟩ := walk_cons_eq_ok.mp hwalk
  have hnow := (step_eq_ok.mp hstep).1
  rcases heffect.elsewhere (l := d.start p) List.not_mem_nil with hsame | ⟨hnone, -⟩
  · rwa [hsame] at hnow
  · exact absurd hnone (start_ne_none h hp)

/-! ## Dots at the end -/

theorem walk_dots {d : Disk} {l r : Location} {ps dots : List String} (hdots : ∀ n ∈ dots, n = ".")
    (h : d.walk l (ps ++ dots) = .ok r) : d.walk l ps = .ok r := by
  induction dots using List.reverseRecOn with
  | nil => rwa [List.append_nil] at h
  | append_singleton dots dot ih =>
      rw [← List.append_assoc] at h
      obtain ⟨m, hm, hstep⟩ := walk_concat_eq_ok.mp h
      have hdot : dot = "." := hdots dot (List.mem_append_right _ List.mem_cons_self)
      have hsame : r = m := by
        rw [(step_eq_ok.mp hstep).2.2, descend, if_pos hdot]
      rw [← hsame] at hm
      exact ih (fun n hn => hdots n (List.mem_append_left _ hn)) hm

theorem walk_of_dots {d : Disk} {l : Location} (hl : d.get? l = some .directory)
    {dots : List String} (hdots : ∀ n ∈ dots, n = ".") : d.walk l dots = .ok l := by
  induction dots with
  | nil => rfl
  | cons dot rest ih =>
      have hdot : dot = "." := hdots dot List.mem_cons_self
      have hstep : d.step l dot = .ok l := by
        refine step_eq_ok.mpr ⟨hl, fun hname => ?_, by rw [descend, if_pos hdot]⟩
        rw [hdot] at hname
        cases hname
      exact walk_cons_eq_ok.mpr ⟨l, hstep, ih fun n hn => hdots n (List.mem_cons_of_mem dot hn)⟩

theorem text_ne_empty_of_parent? {p q : Path} (h : p.parent? = some q) :
    p.text.isEmpty = false := by
  rw [Bool.eq_false_iff, ne_eq, String.isEmpty_iff]
  intro hempty
  obtain ⟨_⟩ := p
  subst hempty
  cases h

section Trimmed

variable {p q : Path} (h : p.parent? = some q)

include h

theorem hasDirectory_trimmed {d : Disk} (hp : d.hasDirectory p = true) :
    d.hasDirectory p.trimmed = true := by
  obtain ⟨r, hr⟩ := hasDirectory_iff.mp hp
  obtain ⟨hcheck, -, hwalk, hdir, -⟩ := lookup_eq_ok.mp hr
  obtain ⟨dots, hpieces, hdots⟩ := p.pieces_trimmed
  rw [hpieces, ← start_congr d p.isAbsolute_trimmed] at hwalk
  exact hasDirectory_iff.mpr ⟨r, lookup_eq_ok.mpr
    ⟨checkPath_beginning p.text_trimmed hcheck,
      text_ne_empty_of_parent? (p.parent?_trimmed.trans h),
      walk_dots hdots hwalk, hdir, fun hne => absurd rfl hne⟩⟩

/-- A directory that can be made has no dots at the end of its path. -/
theorem makeDirectory_trimmed {d d' : Disk} (hp : d.makeDirectory p = .ok d') :
    d.makeDirectory p.trimmed = .ok d' := by
  obtain ⟨l, ht, hnone, rfl⟩ := makeDirectory_eq_ok.mp hp
  obtain ⟨hcheck, -, last, hlast, parent, hwalk, hdir, hname, -, hfits, hl⟩ := target_eq_ok.mp ht
  obtain ⟨dots, hpieces, hdots⟩ := p.pieces_trimmed
  have hnodots : dots = [] := by
    rcases List.eq_nil_or_concat dots with hnil | ⟨before, dot, hconcat⟩
    · exact hnil
    · rw [hpieces, hconcat] at hlast
      have hsame : dot = last := by simpa using hlast
      have hdot : dot = "." := hdots dot (by simp [hconcat])
      rw [← hsame, hdot] at hname
      cases hname
  rw [hnodots, List.append_nil] at hpieces
  rw [hpieces] at hlast hwalk
  rw [← start_congr d p.isAbsolute_trimmed] at hwalk
  exact makeDirectory_eq_ok.mpr ⟨l, target_eq_ok.mpr ⟨checkPath_beginning p.text_trimmed hcheck,
    text_ne_empty_of_parent? (p.parent?_trimmed.trans h), last, hlast, parent, hwalk, hdir, hname,
    fun _ => rfl, hfits, hl⟩, hnone, rfl⟩

theorem settleDirectory_trimmed {d : Disk} (hp : (d.settleDirectory p).fault = none) :
    d.settleDirectory p.trimmed = d.settleDirectory p := by
  unfold settleDirectory at hp ⊢
  cases hmake : d.makeDirectory p with
  | ok d' => rw [makeDirectory_trimmed h hmake]
  | error fault =>
      rw [hmake] at hp
      cases fault with
      | alreadyExists =>
          have hdirectory : d.hasDirectory p = true := by
            by_contra hnot
            simp [hnot] at hp
          have htrimmed := hasDirectory_trimmed h hdirectory
          simp [makeDirectory_of_hasDirectory htrimmed, htrimmed, hdirectory]
      | _ => cases hp

end Trimmed

/-- To make a directory is to make it without the dots at the end of its path. -/
theorem ensureDirectory_trimmed {d : Disk} {p : Path} (hp : (d.ensureDirectory p).fault = none) :
    d.ensureDirectory p.trimmed = d.ensureDirectory p := by
  cases h : p.parent? with
  | none =>
      rw [ensureDirectory_of_parent?_none h,
        ensureDirectory_of_parent?_none (p.parent?_trimmed.trans h)]
  | some q =>
      have htrimmed := p.parent?_trimmed.trans h
      have hcheck : checkPath p.trimmed = .ok () := by
        have hdirectory := (settled_of_ensureDirectory hp).resolve_left (by simp [h])
        exact checkPath_beginning p.text_trimmed (checkPath_of_hasDirectory hdirectory)
      by_cases hmake : d.makeDirectory p = .error .notFound
      · rw [ensureDirectory_eq h, hmake] at hp ⊢
        cases hq : (d.ensureDirectory q).fault with
        | some fault => simp [hq] at hp
        | none =>
            rw [hq] at hp
            rw [ensureDirectory_of_parent htrimmed hcheck hq]
            exact settleDirectory_trimmed h hp
      · rw [ensureDirectory_of_ne_notFound h hmake] at hp ⊢
        have hsame := settleDirectory_trimmed h hp
        rw [ensureDirectory_of_ne_notFound htrimmed (makeDirectory_ne_notFound (by rwa [hsame])),
          hsame]

end Disk

end CrudStack
