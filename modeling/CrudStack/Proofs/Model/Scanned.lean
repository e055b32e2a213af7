/-
# `CrudStack.Proofs.Model.Scanned` — the scan of the attributes by the names read so far

The scan keeps two collections of names and a flag while it goes through the attributes of a class.
All three are determined by the names that were read: the first has these names, the second those
that are among them at least twice, and the flag is set if `id` is among them.
`AttributeScan.Follows` says so; it holds before the first attribute, and every attribute keeps it
(`Follows.read`).

So what an attribute raises depends on its name and on the names before it only
(`attributeDiagnostics`), and all in all a class raises what its attributes raise one after the
other (`diagnose_eq`), whatever was reported of the classes before.
-/
import CrudStack.Model
import Mathlib.Data.List.Count

namespace CrudStack

/-- What is to say about an attribute whose predecessors in the class are named `before`: the first
`id` shadows the identity field, and the second occurrence of a name is its report. -/
def attributeDiagnostics (className : String) (before : List String) (name : String) :
    List Diagnostic :=
  (if name = identityField ∧ name ∉ before then [.shadowsIdentity className] else []) ++
  (if before.count name = 1 then [.duplicateAttribute className name] else [])

/-- The diagnostics of the attributes named `names`, after those named `before`. -/
def diagnosticsAfter (className : String) (before : List String) : List String → List Diagnostic
  | [] => []
  | name :: rest =>
    attributeDiagnostics className before name ++
      diagnosticsAfter className (before ++ [name]) rest

/-- The diagnostics of one class, in the order of the attributes that raise them. -/
def ClassDef.diagnostics (c : ClassDef) : List Diagnostic :=
  diagnosticsAfter c.name [] (c.attributes.map (·.name))

/-! ## One attribute -/

/-- A scan stands behind attributes of certain names. -/
structure AttributeScan.Follows (s : AttributeScan) (before : List String) : Prop where
  seen : ∀ n, n ∈ s.seen ↔ n ∈ before
  duplicates : ∀ n, n ∈ s.duplicates ↔ 2 ≤ before.count n
  shadows : s.shadowsIdentity = true ↔ identityField ∈ before

namespace AttributeScan

variable {s : AttributeScan} {before : List String} (className name : String)

/-- Before the first attribute nothing is seen, whatever was reported of other classes. -/
theorem follows_nil (reported : List Diagnostic) : Follows { diagnostics := reported } [] where
  seen := fun _ => Iff.rfl
  duplicates := fun _ => by simp
  shadows := by simp

theorem readIdentity_seen : (s.readIdentity className name).seen = s.seen := by
  unfold readIdentity
  split <;> rfl

theorem readIdentity_duplicates : (s.readIdentity className name).duplicates = s.duplicates := by
  unfold readIdentity
  split <;> rfl

theorem readName_shadowsIdentity :
    (s.readName className name).shadowsIdentity = s.shadowsIdentity := by
  unfold readName
  split
  · rfl
  · split <;> rfl

/-- The flag is set by the first `id` and stays. -/
theorem readIdentity_shadowsIdentity :
    (s.readIdentity className name).shadowsIdentity = true ↔
      s.shadowsIdentity = true ∨ name = identityField := by
  unfold readIdentity
  split
  · next h => simp [h.1]
  · next h =>
      refine ⟨.inl, fun hor => hor.elim id fun hname => ?_⟩
      simpa [hname] using h

/-- A name is seen once it was read. -/
theorem mem_readName_seen {n : String} :
    n ∈ (s.readName className name).seen ↔ n ∈ s.seen ∨ n = name := by
  unfold readName
  split
  · rw [List.mem_cons, or_comm]
  · next h =>
      have hseen : name ∈ s.seen := not_not.mp h
      have habsorb : n = name → n ∈ s.seen := fun heq => heq ▸ hseen
      split <;> exact (or_iff_left_of_imp habsorb).symm

/-- A name is repeated once it was read after it was seen. -/
theorem mem_readName_duplicates {n : String} :
    n ∈ (s.readName className name).duplicates ↔
      n ∈ s.duplicates ∨ n = name ∧ name ∈ s.seen := by
  unfold readName
  split
  · next h => simp [h]
  · next h =>
      have hseen : name ∈ s.seen := not_not.mp h
      rw [and_iff_left hseen]
      split
      · rw [List.mem_cons, or_comm]
      · next hdup =>
          have habsorb : n = name → n ∈ s.duplicates := fun heq => heq ▸ not_not.mp hdup
          exact (or_iff_left_of_imp habsorb).symm

theorem Follows.readIdentity_diagnostics (h : s.Follows before) :
    (s.readIdentity className name).diagnostics = s.diagnostics ++
      if name = identityField ∧ name ∉ before then [.shadowsIdentity className] else [] := by
  have hflag : (name = identityField ∧ (!s.shadowsIdentity) = true) ↔
      name = identityField ∧ name ∉ before := by
    refine and_congr_right fun hname => ?_
    rw [Bool.not_eq_true', ← Bool.not_eq_true, h.shadows, hname]
  unfold readIdentity
  simp only [hflag]
  split
  · rfl
  · rw [List.append_nil]

/-- Which of the three cases a name is in is told by how often it was read.  The flag does not
matter here: it has moved already when the name is looked up. -/
theorem readName_diagnostics (hseen : name ∈ s.seen ↔ name ∈ before)
    (hdup : name ∈ s.duplicates ↔ 2 ≤ before.count name) :
    (s.readName className name).diagnostics = s.diagnostics ++
      if before.count name = 1 then [.duplicateAttribute className name] else [] := by
  have hnew : name ∉ s.seen ↔ before.count name = 0 := by
    rw [hseen, List.count_eq_zero]
  unfold readName
  split
  · next h =>
      have hne : before.count name ≠ 1 := by
        rw [hnew.mp h]
        exact Nat.zero_ne_one
      rw [if_neg hne, List.append_nil]
  · next h =>
      have hpos : before.count name ≠ 0 := fun hzero => h (hnew.mpr hzero)
      split
      · next hfirst =>
          rw [hdup] at hfirst
          have hone : before.count name = 1 := by omega
          rw [if_pos hone]
      · next hagain =>
          have htwo : 2 ≤ before.count name := hdup.mp (not_not.mp hagain)
          have hne : before.count name ≠ 1 := by omega
          rw [if_neg hne, List.append_nil]

theorem Follows.read_diagnostics (h : s.Follows before) :
    (s.read className name).diagnostics =
      s.diagnostics ++ attributeDiagnostics className before name := by
  have hseen : name ∈ (s.readIdentity className name).seen ↔ name ∈ before := by
    rw [readIdentity_seen, h.seen]
  have hdup : name ∈ (s.readIdentity className name).duplicates ↔ 2 ≤ before.count name := by
    rw [readIdentity_duplicates, h.duplicates]
  rw [read, readName_diagnostics className name hseen hdup, h.readIdentity_diagnostics,
    attributeDiagnostics, List.append_assoc]

/-- An attribute keeps collections and flag in step with the names that were read. -/
theorem Follows.read (h : s.Follows before) :
    (s.read className name).Follows (before ++ [name]) where
  seen := fun n => by
    rw [AttributeScan.read, mem_readName_seen, readIdentity_seen, h.seen, List.mem_append,
      List.mem_singleton]
  duplicates := fun n => by
    rw [AttributeScan.read, mem_readName_duplicates, readIdentity_duplicates, readIdentity_seen,
      h.duplicates, h.seen, List.count_append, List.count_singleton]
    by_cases hname : n = name
    · subst hname
      rw [← List.count_pos_iff, beq_self_eq_true, if_pos rfl, eq_self, true_and]
      omega
    · simp [hname, Ne.symm hname]
  shadows := by
    rw [AttributeScan.read, readName_shadowsIdentity, readIdentity_shadowsIdentity, h.shadows,
      List.mem_append, List.mem_singleton, eq_comm (a := name)]

/-! ## A class -/

/-- The attributes of a class raise what each of them raises, one after the other. -/
theorem Follows.diagnostics_foldl {names : List String} (h : s.Follows before) :
    (names.foldl (AttributeScan.read className) s).diagnostics =
      s.diagnostics ++ diagnosticsAfter className before names := by
  induction names generalizing s before with
  | nil => rw [List.foldl_nil, diagnosticsAfter, List.append_nil]
  | cons name rest ih =>
      rw [List.foldl_cons, ih (h.read className name), h.read_diagnostics, diagnosticsAfter,
        List.append_assoc]

end AttributeScan

/-- Of a class is reported what its attributes raise, behind what was reported before. -/
theorem ClassDef.diagnose_eq (reported : List Diagnostic) (c : ClassDef) :
    c.diagnose reported = reported ++ c.diagnostics :=
  (AttributeScan.follows_nil reported).diagnostics_foldl c.name

/-- The diagnostics of a model are those of its classes. -/
theorem Model.diagnostics_eq (m : Model) :
    m.diagnostics = m.classes.flatMap ClassDef.diagnostics := by
  have hrun : ∀ (classes : List ClassDef) (reported : List Diagnostic),
      classes.foldl ClassDef.diagnose reported =
        reported ++ classes.flatMap ClassDef.diagnostics := by
    intro classes
    induction classes with
    | nil => intro reported; simp
    | cons c rest ih =>
        intro reported
        rw [List.foldl_cons, ih, ClassDef.diagnose_eq, List.flatMap_cons, List.append_assoc]
  exact hrun m.classes []

end CrudStack
