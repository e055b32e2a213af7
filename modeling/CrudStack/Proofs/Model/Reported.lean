/-
# `CrudStack.Proofs.Model.Reported` — what the diagnostics of a model say, and in which order

Every diagnostic is raised by one attribute: that a class shadows the identity by its first
attribute `id`, and that it has a name repeatedly by the second attribute of this name
(`Diagnostic.trigger`).  The diagnostics of a class are the one list that has each of them once, in
the order of the attributes that raise them (`reportOf_iff`), and such a list sees of the class its
name and the names of its attributes.  Those of a model are these lists, class by class
(`diagnostics_reported`).

The scan with its collections and its flag is left behind in `CrudStack.Proofs.Model.Scanned`.  Here
the run over the attributes has the names that were read before as its invariant: what they have
raised is not raised again, and what is raised comes from a later place.
-/
import CrudStack.Proofs.Model.Scanned
import Mathlib.Data.List.Forall2
import Mathlib.Data.List.Nodup
import Mathlib.Data.List.Perm.Basic

namespace CrudStack

/-! ## The attribute that raises a diagnostic -/

namespace Diagnostic

/-- The class that a diagnostic is about. -/
def className : Diagnostic → String
  | .duplicateAttribute className _ => className
  | .shadowsIdentity className => className

/-- The name of the attribute that raises a diagnostic, and how many of that name stand before
it. -/
def trigger : Diagnostic → String × Nat
  | .duplicateAttribute _ attributeName => (attributeName, 1)
  | .shadowsIdentity _ => (identityField, 0)

end Diagnostic

/-- At a place of a list stands a name that was there a number of times before. -/
structure OccursAt (names : List String) (name : String) (earlier place : Nat) : Prop where
  here : names[place]? = some name
  before : (names.take place).count name = earlier

/-- The place of the attribute that raises a diagnostic, by the names of the attributes. -/
def RaisedAt (names : List String) (d : Diagnostic) (place : Nat) : Prop :=
  OccursAt names d.trigger.1 d.trigger.2 place

/-- One diagnostic is raised by an attribute that stands before that of another. -/
def RaisedBefore (names : List String) (d d' : Diagnostic) : Prop :=
  ∃ place place', RaisedAt names d place ∧ RaisedAt names d' place' ∧ place < place'

section Places

variable {names : List String} {name : String} {place place' : Nat}

/-- A later place has seen the name once more. -/
theorem OccursAt.count_lt {earlier earlier' : Nat} (h : OccursAt names name earlier place)
    (h' : OccursAt names name earlier' place') (hlt : place < place') : earlier < earlier' := by
  have hnext : names.take (place + 1) = names.take place ++ [name] := by
    rw [List.take_add_one, h.here, Option.toList_some]
  have hcount : (names.take (place + 1)).count name = earlier + 1 := by
    rw [hnext, List.count_append, h.before, List.count_singleton_self]
  have hprefix : names.take (place + 1) <+: names.take place' :=
    List.take_prefix_take_left (Nat.succ_le_of_lt hlt)
  have hle := hprefix.sublist.count_le name
  rw [hcount, h'.before] at hle
  exact hle

theorem OccursAt.place_eq {earlier : Nat} (h : OccursAt names name earlier place)
    (h' : OccursAt names name earlier place') : place = place' := by
  rcases Nat.lt_trichotomy place place' with hlt | heq | hlt
  · exact absurd (h.count_lt h' hlt) (Nat.lt_irrefl _)
  · exact heq
  · exact absurd (h'.count_lt h hlt) (Nat.lt_irrefl _)

theorem RaisedBefore.asymm {d d' : Diagnostic} (h : RaisedBefore names d d') :
    ¬ RaisedBefore names d' d := by
  obtain ⟨place, place', hd, hd', hlt⟩ := h
  rintro ⟨other', other, he', he, hlt'⟩
  obtain rfl := OccursAt.place_eq hd he
  obtain rfl := OccursAt.place_eq hd' he'
  exact Nat.lt_asymm hlt hlt'

end Places

/-! ## The list of a class -/

/-- What is reported of a class of a certain name, with attributes of certain names. -/
structure ReportOf (className : String) (names : List String) (ds : List Diagnostic) : Prop where
  /-- The identity is shadowed once, by however many attributes. -/
  shadows : ds.count (.shadowsIdentity className) = if identityField ∈ names then 1 else 0
  /-- A repeated name is reported once, however often it is there. -/
  duplicates : ∀ name, ds.count (.duplicateAttribute className name) =
    if 2 ≤ names.count name then 1 else 0
  /-- Nothing is reported of another class. -/
  own : ∀ d ∈ ds, d.className = className
  /-- The order is that of the attributes. -/
  ordered : ds.Pairwise (RaisedBefore names)

variable {className : String}

/-- There is no more than one such list. -/
theorem ReportOf.unique {names : List String} {ds ds' : List Diagnostic}
    (h : ReportOf className names ds) (h' : ReportOf className names ds') : ds = ds' := by
  have hcount : ∀ d, ds.count d = ds'.count d := by
    intro d
    by_cases hown : d.className = className
    · subst hown
      cases d with
      | duplicateAttribute _ name => exact (h.duplicates name).trans (h'.duplicates name).symm
      | shadowsIdentity => exact h.shadows.trans h'.shadows.symm
    · rw [List.count_eq_zero.mpr fun hd => hown (h.own d hd),
        List.count_eq_zero.mpr fun hd => hown (h'.own d hd)]
  refine List.Perm.eq_of_pairwise ?_ h.ordered h'.ordered (List.perm_iff_count.mpr hcount)
  intro d d' _ _ hlt hlt'
  exact absurd hlt' hlt.asymm

/-! ## One attribute -/

section Attribute

variable {before rest : List String} {name : String} {d : Diagnostic}

/-- An attribute raises just what its name and the number of its predecessors call for. -/
theorem count_attributeDiagnostics (hd : d.className = className) :
    (attributeDiagnostics className before name).count d =
      if name = d.trigger.1 ∧ before.count name = d.trigger.2 then 1 else 0 := by
  subst hd
  rw [attributeDiagnostics, List.count_append]
  cases d with
  | duplicateAttribute c n =>
      have hshadows : (if name = identityField ∧ name ∉ before then [Diagnostic.shadowsIdentity c]
          else []).count (.duplicateAttribute c n) = 0 := by
        split <;> simp
      rw [Diagnostic.className, hshadows, Nat.zero_add, Diagnostic.trigger]
      by_cases hname : name = n
      · subst hname
        split <;> simp_all
      · split <;> simp_all
  | shadowsIdentity c =>
      have hduplicate : (if before.count name = 1 then [Diagnostic.duplicateAttribute c name]
          else []).count (.shadowsIdentity c) = 0 := by
        split <;> simp
      rw [Diagnostic.className, hduplicate, Nat.add_zero, Diagnostic.trigger]
      by_cases hfirst : name = identityField ∧ name ∉ before
      · rw [if_pos hfirst, if_pos ⟨hfirst.1, List.count_eq_zero.mpr hfirst.2⟩,
          List.count_singleton_self]
      · rw [if_neg hfirst, if_neg fun h => hfirst ⟨h.1, List.count_eq_zero.mp h.2⟩, List.count_nil]

theorem mem_attributeDiagnostics (h : d ∈ attributeDiagnostics className before name) :
    d.className = className ∧ name = d.trigger.1 ∧ before.count name = d.trigger.2 := by
  have hown : d.className = className := by
    rcases List.mem_append.mp h with h | h
    · split at h
      · rw [List.mem_singleton.mp h]
        rfl
      · cases h
    · split at h
      · rw [List.mem_singleton.mp h]
        rfl
      · cases h
  have hcount := List.count_pos_iff.mpr h
  rw [count_attributeDiagnostics hown] at hcount
  split at hcount
  · next htrigger => exact ⟨hown, htrigger⟩
  · cases hcount

/-- What an attribute raises is raised at its place. -/
theorem raisedAt_here (h : d ∈ attributeDiagnostics className before name) :
    RaisedAt (before ++ name :: rest) d before.length := by
  obtain ⟨-, hname, hcount⟩ := mem_attributeDiagnostics h
  refine ⟨?_, ?_⟩
  · rw [List.getElem?_append_right (Nat.le_refl _), Nat.sub_self, ← hname]
    rfl
  · rw [List.take_left, ← hname]
    exact hcount

/-- An attribute is not the first and the second of its name at once. -/
theorem pairwise_attributeDiagnostics {R : Diagnostic → Diagnostic → Prop} :
    (attributeDiagnostics className before name).Pairwise R := by
  unfold attributeDiagnostics
  split
  · next hfirst =>
      have hzero : before.count name ≠ 1 := by
        rw [List.count_eq_zero.mpr hfirst.2]
        exact Nat.zero_ne_one
      rw [if_neg hzero, List.append_nil]
      exact List.pairwise_singleton _ _
  · split
    · exact List.pairwise_singleton _ _
    · exact List.Pairwise.nil

end Attribute

/-! ## The run over the attributes -/

section Run

variable {before names : List String} {d : Diagnostic}

theorem className_of_mem (h : d ∈ diagnosticsAfter className before names) :
    d.className = className := by
  induction names generalizing before with
  | nil => cases h
  | cons name rest ih =>
      rcases List.mem_append.mp h with h | h
      · exact (mem_attributeDiagnostics h).1
      · exact ih h

/-- A diagnostic is raised unless the names before have raised it or there are too few of its
name. -/
theorem count_diagnosticsAfter (hd : d.className = className) :
    (diagnosticsAfter className before names).count d =
      if before.count d.trigger.1 ≤ d.trigger.2 ∧ d.trigger.2 < (before ++ names).count d.trigger.1
        then 1 else 0 := by
  induction names generalizing before with
  | nil =>
      rw [List.append_nil, if_neg fun h => Nat.not_lt.mpr h.1 h.2]
      rfl
  | cons name rest ih =>
      rw [diagnosticsAfter, List.count_append, count_attributeDiagnostics hd, ih,
        List.append_assoc, List.singleton_append]
      by_cases hname : name = d.trigger.1
      · subst hname
        have hnext :
            (before ++ [d.trigger.1]).count d.trigger.1 = before.count d.trigger.1 + 1 := by
          rw [List.count_append, List.count_singleton_self]
        have hmore :
            before.count d.trigger.1 < (before ++ d.trigger.1 :: rest).count d.trigger.1 := by
          rw [List.count_append, List.count_cons_self]
          omega
        simp only [hnext, true_and]
        split_ifs <;> omega
      · have hsame : (before ++ [name]).count d.trigger.1 = before.count d.trigger.1 := by
          rw [List.count_append, List.count_singleton, if_neg (by simpa using hname), Nat.add_zero]
        rw [if_neg fun h => hname h.1, hsame, Nat.zero_add]

theorem raised_of_mem (h : d ∈ diagnosticsAfter className before names) :
    ∃ place, before.length ≤ place ∧ RaisedAt (before ++ names) d place := by
  induction names generalizing before with
  | nil => cases h
  | cons name rest ih =>
      rcases List.mem_append.mp h with h | h
      · exact ⟨before.length, Nat.le_refl _, raisedAt_here h⟩
      · obtain ⟨place, hle, hraised⟩ := ih h
        rw [List.append_assoc] at hraised
        rw [List.length_append] at hle
        exact ⟨place, Nat.le_of_add_right_le hle, hraised⟩

theorem pairwise_diagnosticsAfter :
    (diagnosticsAfter className before names).Pairwise (RaisedBefore (before ++ names)) := by
  induction names generalizing before with
  | nil => exact List.Pairwise.nil
  | cons name rest ih =>
      have hrest : (diagnosticsAfter className (before ++ [name]) rest).Pairwise
          (RaisedBefore ((before ++ [name]) ++ rest)) := ih
      rw [List.append_assoc, List.singleton_append] at hrest
      refine List.pairwise_append.mpr ⟨pairwise_attributeDiagnostics, hrest, ?_⟩
      intro d hd d' hd'
      obtain ⟨place, hle, hraised⟩ := raised_of_mem hd'
      rw [List.append_assoc, List.singleton_append] at hraised
      rw [List.length_append] at hle
      exact ⟨before.length, place, raisedAt_here hd, hraised, hle⟩

end Run

/-! ## Classes and models -/

theorem reportOf_diagnosticsAfter (className : String) (names : List String) :
    ReportOf className names (diagnosticsAfter className [] names) := by
  have hcount : ∀ d : Diagnostic, d.className = className →
      (diagnosticsAfter className [] names).count d =
        if d.trigger.2 < names.count d.trigger.1 then 1 else 0 := by
    intro d hd
    rw [count_diagnosticsAfter hd, List.nil_append, List.count_nil]
    simp only [Nat.zero_le, true_and]
  refine ⟨?_, fun name => ?_, fun d hd => className_of_mem hd, ?_⟩
  · rw [hcount _ rfl]
    exact if_congr List.count_pos_iff rfl rfl
  · exact hcount _ rfl
  · have hordered : (diagnosticsAfter className [] names).Pairwise (RaisedBefore ([] ++ names)) :=
      pairwise_diagnosticsAfter
    rwa [List.nil_append] at hordered

/-- The diagnostics of a class are the one list of what is to report of it. -/
theorem ClassDef.reportOf_iff (c : ClassDef) (ds : List Diagnostic) :
    ReportOf c.name (c.attributes.map (·.name)) ds ↔ ds = c.diagnostics := by
  have hown : ReportOf c.name (c.attributes.map (·.name)) c.diagnostics :=
    reportOf_diagnosticsAfter c.name _
  constructor
  · intro h
    exact h.unique hown
  · rintro rfl
    exact hown

/-- A name that is there three times is reported once, and `id` once for each of the two reasons. -/
example :
    (⟨"Book", [.attr ⟨"id", "text"⟩, .method ⟨"title", "void", []⟩, .attr ⟨"title", "text"⟩,
      .attr ⟨"id", "text"⟩, .attr ⟨"id", "text"⟩, .attr ⟨"title", "text"⟩]⟩ :
        ClassDef).diagnostics =
      [.shadowsIdentity "Book", .duplicateAttribute "Book" "id",
        .duplicateAttribute "Book" "title"] := by
  decide

/-- The diagnostics of a model are put together from one list for each class, in their order, and
each list is the only one that reports of its class what there is to report.  What comes from a
class is the same without the classes around it, whatever they are called, and without its
methods. -/
theorem diagnostics_reported (m : Model) :
    (∃ reports, m.diagnostics = reports.flatten ∧
      List.Forall₂ (fun c ds => ∀ ds', ReportOf c.name (c.attributes.map (·.name)) ds' ↔ ds' = ds)
        m.classes reports) ∧
    (∀ before c after, m.classes = before ++ c :: after →
      m.diagnostics = (⟨before⟩ : Model).diagnostics ++ (⟨[c]⟩ : Model).diagnostics ++
        (⟨after⟩ : Model).diagnostics) ∧
    ∀ m' : Model, (m'.classes.map fun c => (c.name, c.attributes.map (·.name))) =
        (m.classes.map fun c => (c.name, c.attributes.map (·.name))) →
      m'.diagnostics = m.diagnostics := by
  refine ⟨⟨m.classes.map ClassDef.diagnostics, ?_, ?_⟩, ?_, ?_⟩
  · rw [m.diagnostics_eq, List.flatMap_def]
  · rw [List.forall₂_map_right_iff, List.forall₂_same]
    intro c _
    exact c.reportOf_iff
  · intro before c after h
    simp only [Model.diagnostics_eq, h, List.flatMap_append, List.flatMap_cons, List.flatMap_nil,
      List.append_nil, List.append_assoc]
  · intro m' h
    have hpairs : ∀ m : Model, m.diagnostics =
        (m.classes.map fun c => (c.name, c.attributes.map (·.name))).flatMap
          fun pair => diagnosticsAfter pair.1 [] pair.2 := by
      intro m
      rw [m.diagnostics_eq, List.flatMap_map]
      rfl
    rw [hpairs, hpairs, h]

end CrudStack
