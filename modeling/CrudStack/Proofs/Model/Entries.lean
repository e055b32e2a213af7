/-
# `CrudStack.Proofs.Model.Entries` — names, types and parameters as data

A reader goes through the members of a table and holds what it was looking for.  Which member comes
first makes no difference if no name repeats: at the end it holds what a lookup finds (`Held`).

Here are the readers of data, which a feature is left to when it has been taken in: a table with the
members of a method is read as a method if and only if it is one.
-/
import CrudStack.Model.OfJson
import CrudStack.Proofs.Model.Shape
import CrudStack.Proofs.Success

namespace CrudStack.Model

open Json

/-! ## Readers that succeed -/

section Success

variable {ε A B : Type}

theorem lexical_eq_ok {x : Except Flaw A} {a : A} : lexical x = .ok a ↔ x = .ok a := by
  cases x <;> simp [lexical]

theorem placed_eq_ok {offset : Nat} {x : Except DataFault A} {a : A} :
    placed offset x = .ok a ↔ x = .ok a := by
  cases x <;> simp [placed]

theorem require_eq_ok {field : String} {x : Option A} {a : A} :
    require field x = .ok a ↔ x = some a := by
  cases x <;> simp [require]

/-- Nothing was held, so what is read is held from now on. -/
theorem store_eq_ok {field : String} {read : Except DataFault A}
    {next : Option A → Except DataFault B} {b : B} :
    (store field read none >>= next) = .ok b ↔ ∃ a, read = .ok a ∧ next (some a) = .ok b := by
  cases read <;> simp [store, Except.map, bind, Except.bind]

/-- What is read is passed on. -/
theorem lexical_bind {a : A} {next : A → Except JsonError B} :
    (lexical (.ok a) >>= next) = next a := rfl

/-- Nothing was held, so the member is no repetition. -/
theorem hold_none {x y : Except ε B} : (if (none : Option A).isSome = true then x else y) = y := rfl

theorem refuse_eq_ok {expected : Shape} {node : Node} {a : A} :
    refuse expected node = .ok a ↔ False := by
  cases node <;> simp [refuse, bind_eq_ok, lexical_eq_ok, placed_eq_ok]

end Success

/-! ## Members that are looked for -/

/-- What is held behind some members: the one that was looked for, or what was held before. -/
def Held {A : Type} (is : Value → A → Prop) (held : Option A) : Option Value → Option A → Prop
  | none, x => held = x
  | some v, x => ∃ a, is v a ∧ some a = x

/-- What is held already does not come again. -/
def Fresh {A : Type} (held : Option A) (found : Option Value) : Prop := held ≠ none → found = none

section Held

variable {A : Type} {is : Value → A → Prop} {held x : Option A} {key name : String} {v : Value}
  {ms : List (String × Value)}

theorem absent_rest (h : (((key, v) :: ms).map (·.1)).Nodup) {P : Value → Prop} :
    ∀ w, ms.lookup key = some w → P w := by
  intro w hw
  rw [lookup_rest h] at hw
  cases hw

theorem fresh_none (h : Fresh held (((key, v) :: ms).lookup key)) : held = none := by
  rw [lookup_self] at h
  exact not_not.mp fun hne => nomatch h hne

theorem fresh_rest (h : (((key, v) :: ms).map (·.1)).Nodup) : Fresh held (ms.lookup key) :=
  fun _ => lookup_rest h

theorem fresh_other (hk : key ≠ name) (h : Fresh held (((key, v) :: ms).lookup name)) :
    Fresh held (ms.lookup name) := lookup_other (v := v) hk ▸ h

theorem held_other (hk : key ≠ name) :
    Held is held (((key, v) :: ms).lookup name) x ↔ Held is held (ms.lookup name) x := by
  rw [lookup_other hk]

/-- The member that was looked for is there: it is held from then on. -/
theorem held_self (h : (((key, v) :: ms).map (·.1)).Nodup) {P : Prop} :
    Held is none (((key, v) :: ms).lookup key) x ∧ P ↔
      ∃ a, is v a ∧ Held is (some a) (ms.lookup key) x ∧ P := by
  rw [lookup_self, lookup_rest h]
  simp only [Held, exists_and_right, ← and_assoc]

/-- The same for a condition on what is held at the end. -/
theorem held_self_exists (h : (((key, v) :: ms).map (·.1)).Nodup) {Q : Option A → Prop} :
    (∃ x, Held is none (((key, v) :: ms).lookup key) x ∧ Q x) ↔
      ∃ a, is v a ∧ ∃ x, Held is (some a) (ms.lookup key) x ∧ Q x := by
  rw [lookup_self, lookup_rest h]
  simp only [Held, exists_eq_left']
  constructor
  · rintro ⟨_, ⟨a, ha, rfl⟩, hq⟩
    exact ⟨a, ha, hq⟩
  · rintro ⟨a, ha, hq⟩
    exact ⟨_, ⟨a, ha, rfl⟩, hq⟩

theorem held_self_exists_and (h : (((key, v) :: ms).map (·.1)).Nodup) {P : Prop}
    {Q : Option A → Prop} :
    (∃ x, Held is none (((key, v) :: ms).lookup key) x ∧ Q x) ∧ P ↔
      ∃ a, is v a ∧ (∃ x, Held is (some a) (ms.lookup key) x ∧ Q x) ∧ P := by
  rw [held_self_exists h, ← exists_and_right]
  exact exists_congr fun a => and_assoc

end Held

/-! ## Names and types -/

theorem textOf_eq_ok {v : Value} {s : String} : textOf v.document = .ok s ↔ v = .text s := by
  cases v with
  | number l =>
      rcases document_number l with h | ⟨i, h⟩ | ⟨x, h⟩ <;> simp [Value.document, h, textOf]
  | _ => simp [Value.document, textOf]

theorem slotEntries_eq_ok {ms : List (String × Value)} (hkeys : (ms.map (·.1)).Nodup)
    {name typeName : Option String} (hname : Fresh name (ms.lookup "name"))
    (htype : Fresh typeName (ms.lookup "type")) {s : Slot} :
    slotEntries name typeName (memberDocuments ms) = .ok s ↔
      Held (· = .text ·) name (ms.lookup "name") (some s.name) ∧
        Held (· = .text ·) typeName (ms.lookup "type") (some s.typeName) := by
  induction ms generalizing name typeName with
  | nil =>
      obtain ⟨sname, stype⟩ := s
      simp only [memberDocuments, slotEntries, bind_eq_ok, require_eq_ok, pure_eq_ok, Held,
        List.lookup_nil, Slot.mk.injEq]
      constructor
      · rintro ⟨_, hname, _, htype, rfl, rfl⟩
        exact ⟨hname, htype⟩
      · rintro ⟨hname, htype⟩
        exact ⟨_, hname, _, htype, rfl, rfl⟩
  | cons m ms ih =>
      obtain ⟨key, v⟩ := m
      have hothers := (List.nodup_cons.mp hkeys).2
      rw [memberDocuments, slotEntries]
      by_cases hn : key = "name"
      · subst hn
        obtain rfl := fresh_none hname
        rw [if_pos rfl, store_eq_ok, held_self hkeys, held_other (by decide)]
        exact exists_congr fun a => and_congr textOf_eq_ok
          (ih hothers (fresh_rest hkeys) (fresh_other (by decide) htype))
      by_cases ht : key = "type"
      · subst ht
        obtain rfl := fresh_none htype
        rw [if_neg (by decide), if_pos rfl, store_eq_ok, and_comm, held_self hkeys,
          held_other (by decide)]
        exact exists_congr fun a => and_congr textOf_eq_ok
          ((ih hothers (fresh_other (by decide) hname) (fresh_rest hkeys)).trans and_comm)
      · rw [if_neg hn, if_neg ht, held_other hn, held_other ht]
        exact ih hothers (fresh_other hn hname) (fresh_other ht htype)


theorem itemDocuments_eq_map (vs : List Value) : itemDocuments vs = vs.map Value.document := by
  induction vs with
  | nil => rfl
  | cons v vs ih => rw [itemDocuments, ih, List.map_cons]

theorem forall₂_congr {A B : Type} {R S : A → B → Prop} {xs : List A} {ys : List B}
    (h : ∀ x ∈ xs, ∀ y, R x y ↔ S x y) : List.Forall₂ R xs ys ↔ List.Forall₂ S xs ys := by
  induction xs generalizing ys with
  | nil => rw [List.forall₂_nil_left_iff, List.forall₂_nil_left_iff]
  | cons x xs ih =>
      rw [List.forall₂_cons_left_iff, List.forall₂_cons_left_iff]
      simp only [h x List.mem_cons_self, ih fun x hx => h x (List.mem_cons_of_mem _ hx)]

/-- Nothing is held before the first member. -/
theorem fresh_nothing {A : Type} (found : Option Value) : Fresh (none : Option A) found :=
  fun h => absurd rfl h

theorem held_text_iff {found : Option Value} {s : String} :
    Held (· = .text ·) none found (some s) ↔ found = some (.text s) := by
  cases found with
  | none => simp [Held]
  | some v => simp [Held]

/-- A list that may be absent is what is held of it, and no elements if nothing is held. -/
theorem held_list_iff {A : Type} {reads : Option Value → List A → Prop}
    (hnone : ∀ xs, reads none xs ↔ xs = []) {found : Option Value} {xs : List A} :
    (∃ held, Held (fun v => reads (some v)) none found held ∧ held.getD [] = xs) ↔
      reads found xs := by
  cases found with
  | none => simp [Held, hnone, eq_comm]
  | some v => simp [Held]

theorem slotOf_eq_ok {v : Value} (hobject : v.IsObject) (hkeys : v.DistinctKeys) (shape : Shape)
    {s : Slot} : slotOf shape v.document = .ok s ↔ IsSlot v s := by
  cases v with
  | object ms =>
      rw [Value.document, slotOf,
        slotEntries_eq_ok hkeys.1 (fresh_nothing _) (fresh_nothing _), held_text_iff, held_text_iff]
      exact (isSlot_iff (.object ms) s).symm
  | _ => exact hobject.elim

/-! ## Methods -/

/-- A list is read if its elements are, and nothing but a list is. -/
theorem list_eq_ok {A : Type} {read : Document → Except DataFault A}
    {reads : Document → Except DataFault (List A)} (hlist : ∀ ds, reads (.list ds) = ds.mapM read)
    (hother : ∀ d xs, (∀ ds, d ≠ .list ds) → reads d ≠ .ok xs) {is : Value → A → Prop} {v : Value}
    (hvs : ∀ x ∈ Value.elements (some v), ∀ a, read x.document = .ok a ↔ is x a) {xs : List A} :
    reads v.document = .ok xs ↔ ListOf is (some v) xs := by
  have hrefused : (∀ ds, v.document ≠ .list ds) → (∀ vs, v ≠ .list vs) →
      (reads v.document = .ok xs ↔ ListOf is (some v) xs) := fun hd hv =>
    ⟨fun h => absurd h (hother _ _ hd), fun h => (ListOf.eq_3 is xs v hv ▸ h).elim⟩
  cases v with
  | list vs =>
      rw [Value.document, hlist, mapM_eq_ok, itemDocuments_eq_map, List.forall₂_map_left_iff]
      exact forall₂_congr hvs
  | number l =>
      refine hrefused (fun ds => ?_) nofun
      rcases document_number l with h | ⟨i, h⟩ | ⟨x, h⟩ <;> rw [Value.document, h] <;> exact nofun
  | _ => exact hrefused nofun nofun

theorem parametersOf_eq_ok {v : Value}
    (hvs : ∀ p ∈ Value.elements (some v), p.IsObject ∧ p.DistinctKeys) {ps : List Slot} :
    parametersOf v.document = .ok ps ↔ ListOf IsSlot (some v) ps :=
  list_eq_ok (fun _ => rfl) (fun d xs hd h => by rw [parametersOf.eq_2 d hd] at h; cases h)
    fun p hp _ => slotOf_eq_ok (hvs p hp).1 (hvs p hp).2 _

theorem methodEntries_eq_ok {ms : List (String × Value)} (hkeys : (ms.map (·.1)).Nodup)
    (hvs : ∀ v, ms.lookup "parameters" = some v → ∀ ps,
      parametersOf v.document = .ok ps ↔ ListOf IsSlot (some v) ps)
    {name typeName : Option String} {parameters : Option (List Slot)}
    (hname : Fresh name (ms.lookup "name")) (htype : Fresh typeName (ms.lookup "type"))
    (hlist : Fresh parameters (ms.lookup "parameters")) {m : Method} :
    methodEntries name typeName parameters (memberDocuments ms) = .ok m ↔
      (∃ held, Held (fun v => ListOf IsSlot (some v)) parameters (ms.lookup "parameters") held ∧
        held.getD [] = m.parameters) ∧
      Held (· = .text ·) name (ms.lookup "name") (some m.name) ∧
        Held (· = .text ·) typeName (ms.lookup "type") (some m.returnType) := by
  induction ms generalizing name typeName parameters with
  | nil =>
      obtain ⟨mname, mtype, ps⟩ := m
      simp only [memberDocuments, methodEntries, bind_eq_ok, require_eq_ok, pure_eq_ok, Held,
        List.lookup_nil, Method.mk.injEq, exists_eq_left']
      constructor
      · rintro ⟨_, hname, _, htype, rfl, rfl, hps⟩
        exact ⟨hps.symm, hname, htype⟩
      · rintro ⟨hps, hname, htype⟩
        exact ⟨_, hname, _, htype, rfl, rfl, hps.symm⟩
  | cons entry ms ih =>
      obtain ⟨key, v⟩ := entry
      have hothers := (List.nodup_cons.mp hkeys).2
      rw [memberDocuments, methodEntries]
      by_cases hn : key = "name"
      · subst hn
        obtain rfl := fresh_none hname
        rw [lookup_other (by decide)] at hvs
        rw [if_pos rfl, store_eq_ok, and_left_comm, held_self hkeys, lookup_other (by decide),
          lookup_other (by decide)]
        exact exists_congr fun a => and_congr textOf_eq_ok ((ih hothers hvs (fresh_rest hkeys)
          (fresh_other (by decide) htype) (fresh_other (by decide) hlist)).trans and_left_comm)
      by_cases ht : key = "type"
      · subst ht
        obtain rfl := fresh_none htype
        rw [lookup_other (by decide)] at hvs
        rw [if_neg (by decide), if_pos rfl, store_eq_ok, ← and_rotate, held_self hkeys,
          lookup_other (by decide), lookup_other (by decide)]
        exact exists_congr fun a => and_congr textOf_eq_ok ((ih hothers hvs
          (fresh_other (by decide) hname) (fresh_rest hkeys)
          (fresh_other (by decide) hlist)).trans and_rotate.symm)
      by_cases hp : key = "parameters"
      · subst hp
        obtain rfl := fresh_none hlist
        rw [if_neg (by decide), if_neg (by decide), if_pos rfl, store_eq_ok,
          held_self_exists_and hkeys,
          lookup_other (by decide), lookup_other (by decide)]
        exact exists_congr fun a => and_congr (hvs v lookup_self a) (ih hothers
          (absent_rest hkeys) (fresh_other (by decide) hname)
          (fresh_other (by decide) htype) (fresh_rest hkeys))
      · rw [lookup_other hp] at hvs
        rw [if_neg hn, if_neg ht, if_neg hp, lookup_other hn, lookup_other ht, lookup_other hp]
        exact ih hothers hvs (fresh_other hn hname) (fresh_other ht htype) (fresh_other hp hlist)

theorem methodOf_eq_ok {v : Value} (hobject : v.IsObject) (hkeys : v.DistinctKeys)
    (hvs : ∀ p ∈ Value.elements (v.member? "parameters"), p.IsObject ∧ p.DistinctKeys)
    {m : Method} : methodOf v.document = .ok m ↔ IsMethod v m := by
  cases v with
  | object ms =>
      have hparameters : ∀ p, ms.lookup "parameters" = some p → ∀ ps,
          parametersOf p.document = .ok ps ↔ ListOf IsSlot (some p) ps := by
        intro p hp ps
        refine parametersOf_eq_ok fun x hx => hvs x ?_
        rw [Value.member?, hp]
        exact hx
      rw [Value.document, methodOf, methodEntries_eq_ok hkeys.1 hparameters (fresh_nothing _)
        (fresh_nothing _) (fresh_nothing _), held_text_iff, held_text_iff,
        held_list_iff fun _ => Iff.rfl]
      exact and_rotate.trans (isMethod_iff (.object ms) m).symm
  | _ => exact hobject.elim

end CrudStack.Model
