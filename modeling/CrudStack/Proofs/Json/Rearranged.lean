/-
# `CrudStack.Proofs.Json.Rearranged` — values that differ in the order of their members

What a TOML text says of a tree has the tree's data in another order.  A document with the data of a
value made of texts, lists and objects is again the data of such a value (`exists_value`), and the
two values have the same members below the same names (`rearranged_cases`).
-/
import CrudStack.Proofs.Json.Denoted
import CrudStack.Proofs.Json.Inside
import CrudStack.Proofs.Toml.Alike
import CrudStack.Proofs.Toml.Distinct
import CrudStack.Proofs.Toml.Levels

namespace CrudStack.Json

mutual

/-- A value made of texts, lists and objects. -/
def Value.Plain : Value → Prop
  | .text _ => True
  | .list vs => ItemsPlain vs
  | .object ms => MembersPlain ms
  | _ => False

/-- The same for some elements. -/
def ItemsPlain : List Value → Prop
  | [] => True
  | v :: vs => v.Plain ∧ ItemsPlain vs

/-- The same for some members. -/
def MembersPlain : List (String × Value) → Prop
  | [] => True
  | (_, v) :: ms => v.Plain ∧ MembersPlain ms

end

theorem membersPlain_iff {ms : List (String × Value)} :
    MembersPlain ms ↔ ∀ m ∈ ms, m.2.Plain := by
  induction ms with
  | nil => simp [MembersPlain]
  | cons m ms ih => rw [MembersPlain, List.forall_mem_cons, ih]

/-! ## The data of a value -/

theorem memberDocuments_eq_map (ms : List (String × Value)) :
    memberDocuments ms = ms.map fun m => (m.1, m.2.document) := by
  induction ms with
  | nil => rfl
  | cons m ms ih => rw [memberDocuments, ih, List.map_cons]

theorem keys_memberDocuments (ms : List (String × Value)) :
    (memberDocuments ms).map (·.1) = ms.map (·.1) := by
  rw [memberDocuments_eq_map, List.map_map]
  rfl

theorem lookup_memberDocuments (ms : List (String × Value)) (name : String) :
    (memberDocuments ms).lookup name = (ms.lookup name).map Value.document := by
  induction ms with
  | nil => rfl
  | cons m ms ih =>
      rw [memberDocuments, List.lookup_cons, List.lookup_cons, ih]
      split <;> rfl

/-- The data of a number has no keys and no levels. -/
theorem document_number_leaf (l : Literal) :
    l.document.DistinctKeys ∧ l.document.levels = 0 := by
  rcases document_number l with h | ⟨i, h⟩ | ⟨x, h⟩ <;> rw [h] <;> exact ⟨trivial, rfl⟩

mutual

/-- The data of a value have no key twice if the value has not. -/
theorem distinctKeys_document : ∀ v : Value, v.document.DistinctKeys ↔ v.DistinctKeys
  | .null => Iff.rfl
  | .bool _ => Iff.rfl
  | .text _ => Iff.rfl
  | .number l => iff_of_true (document_number_leaf l).1 trivial
  | .list vs => distinctKeys_items vs
  | .object ms => by
      rw [Value.document, Document.DistinctKeys, keys_memberDocuments, distinctKeys_members ms]
      rfl

theorem distinctKeys_items : ∀ vs : List Value,
    CrudStack.ItemsDistinctKeys (itemDocuments vs) ↔ ItemsDistinctKeys vs
  | [] => Iff.rfl
  | v :: vs => and_congr (distinctKeys_document v) (distinctKeys_items vs)

theorem distinctKeys_members : ∀ ms : List (String × Value),
    EntriesDistinctKeys (memberDocuments ms) ↔ MembersDistinctKeys ms
  | [] => Iff.rfl
  | (_, v) :: ms => and_congr (distinctKeys_document v) (distinctKeys_members ms)

end

mutual

/-- The data of a value have its levels. -/
theorem levels_document : ∀ v : Value, v.document.levels = v.depth
  | .null => rfl
  | .bool _ => rfl
  | .text _ => rfl
  | .number l => (document_number_leaf l).2
  | .list vs => congrArg (· + 1) (levels_items vs)
  | .object ms => congrArg (· + 1) (levels_members ms)

theorem levels_items : ∀ vs : List Value, itemsLevels (itemDocuments vs) = itemsDepth vs
  | [] => rfl
  | v :: vs => congrArg₂ max (levels_document v) (levels_items vs)

theorem levels_members : ∀ ms : List (String × Value),
    entriesLevels (memberDocuments ms) = membersDepth ms
  | [] => rfl
  | (_, v) :: ms => congrArg₂ max (levels_document v) (levels_members ms)

end

/-! ## Values of documents with the same data -/

/-- Entries that are data of values one by one are the data of members. -/
theorem exists_members_of_each {es : List (String × Document)}
    (h : ∀ e ∈ es, ∃ w : Value, w.Plain ∧ w.document = e.2) :
    ∃ ms, MembersPlain ms ∧ memberDocuments ms = es := by
  induction es with
  | nil => exact ⟨[], trivial, rfl⟩
  | cons e es ih =>
      obtain ⟨hfirst, hrest⟩ := List.forall_mem_cons.mp h
      obtain ⟨w, hw, hdocument⟩ := hfirst
      obtain ⟨ms, hms, rfl⟩ := ih hrest
      exact ⟨(e.1, w) :: ms, ⟨hw, hms⟩, by rw [memberDocuments, hdocument]⟩

mutual

/-- A document with the data of a value, and with no key twice, is the data of a value. -/
theorem exists_value : ∀ (v : Value) {d : Document}, v.Plain → SameAs v.document d →
    d.DistinctKeys → ∃ w : Value, w.Plain ∧ w.document = d
  | .text s, _, _, rfl, _ => ⟨.text s, trivial, rfl⟩
  | .list vs, _, hv, ⟨_, rfl, hsame⟩, hkeys => by
      obtain ⟨ws, hws, heq⟩ := exists_items vs hv hsame hkeys
      exact ⟨.list ws, hws, congrArg Document.list heq⟩
  | .object ms, _, hv, ⟨es, rfl, hsub, hsame⟩, hkeys => by
      obtain ⟨ms', hms', heq⟩ := exists_members_of_each fun e he => by
        obtain ⟨w, hw, hlookup⟩ := exists_entry ms hv hsame hkeys.2 e.1
          (hsub (List.mem_map_of_mem he))
        rw [Lookup.lookup_of_mem hkeys.1 he] at hlookup
        exact ⟨w, hw, (Option.some.inj hlookup).symm⟩
      exact ⟨.object ms', hms', congrArg Document.table heq⟩
  | .null, _, h, _, _ => h.elim
  | .bool _, _, h, _, _ => h.elim
  | .number _, _, h, _, _ => h.elim

theorem exists_items : ∀ (vs : List Value) {ds : List Document}, ItemsPlain vs →
    ItemsSame (itemDocuments vs) ds → CrudStack.ItemsDistinctKeys ds →
    ∃ ws, ItemsPlain ws ∧ itemDocuments ws = ds
  | [], _, _, rfl, _ => ⟨[], trivial, rfl⟩
  | v :: vs, _, ⟨hv, hvs⟩, ⟨_, _, rfl, hd, hds⟩, ⟨hkeys, hothers⟩ => by
      obtain ⟨w, hw, rfl⟩ := exists_value v hv hd hkeys
      obtain ⟨ws, hws, rfl⟩ := exists_items vs hvs hds hothers
      exact ⟨w :: ws, ⟨hw, hws⟩, rfl⟩

theorem exists_entry : ∀ (ms : List (String × Value)) {es : List (String × Document)},
    MembersPlain ms → EntriesSame (memberDocuments ms) es → EntriesDistinctKeys es →
    ∀ key ∈ (memberDocuments ms).map (·.1), ∃ w : Value, w.Plain ∧ es.lookup key = some w.document
  | [], _, _, _, _ => nofun
  | (key, v) :: ms, es, ⟨hv, hms⟩, ⟨⟨d, hlookup, hd⟩, hrest⟩, hkeys => by
      refine List.forall_mem_cons.mpr ⟨?_, exists_entry ms hms hrest hkeys⟩
      obtain ⟨w, hw, rfl⟩ := exists_value v hv hd
        (entriesDistinctKeys_iff.mp hkeys _ (Lookup.mem_of_lookup hlookup))
      exact ⟨w, hw, hlookup⟩

end

/-! ## The same members -/

/-- A value has the data of another one, its members in any order. -/
structure Rearranged (v w : Value) : Prop where
  left : v.Plain
  right : w.Plain
  same : SameAs v.document w.document

theorem rearranged_items : ∀ {vs ws : List Value}, ItemsPlain vs → ItemsPlain ws →
    ItemsSame (itemDocuments vs) (itemDocuments ws) → List.Forall₂ Rearranged vs ws
  | [], [], _, _, _ => .nil
  | [], _ :: _, _, _, h => nomatch h
  | _ :: _, [], _, _, ⟨_, _, heq, _⟩ => nomatch heq
  | v :: vs, w :: ws, ⟨hv, hvs⟩, ⟨hw, hws⟩, ⟨_, _, heq, hsame, hrest⟩ => by
      obtain ⟨rfl, rfl⟩ := List.cons.inj heq
      exact .cons ⟨hv, hw, hsame⟩ (rearranged_items hvs hws hrest)

theorem rearranged_members {ms ns : List (String × Value)} (hms : MembersPlain ms)
    (hns : MembersPlain ns)
    (hsub : (memberDocuments ns).map (·.1) ⊆ (memberDocuments ms).map (·.1))
    (hsame : EntriesSame (memberDocuments ms) (memberDocuments ns)) (name : String) :
    Option.Rel Rearranged (ms.lookup name) (ns.lookup name) := by
  cases hv : ms.lookup name with
  | none =>
      have habsent : ns.lookup name = none := by
        rw [Lookup.lookup_eq_none, ← keys_memberDocuments] at hv ⊢
        exact fun hmem => hv (hsub hmem)
      rw [habsent]
      exact .none
  | some v =>
      have hmem := Lookup.mem_of_lookup hv
      have hentry : (name, v.document) ∈ memberDocuments ms := by
        rw [memberDocuments_eq_map]
        exact List.mem_map.mpr ⟨_, hmem, rfl⟩
      obtain ⟨d, hd, hsame⟩ := entriesSame_iff.mp hsame _ hentry
      rw [lookup_memberDocuments] at hd
      obtain ⟨w, hw, rfl⟩ := Option.map_eq_some_iff.mp hd
      rw [hw]
      exact .some ⟨membersPlain_iff.mp hms _ hmem,
        membersPlain_iff.mp hns _ (Lookup.mem_of_lookup hw), hsame⟩

/-- The same text, lists element by element, or objects with the same members below each name. -/
theorem rearranged_cases {v w : Value} (h : Rearranged v w) :
    (∃ s, v = .text s ∧ w = .text s) ∨
      (∃ vs ws, v = .list vs ∧ w = .list ws ∧ List.Forall₂ Rearranged vs ws) ∨
      ∃ ms ns, v = .object ms ∧ w = .object ns ∧
        ∀ name, Option.Rel Rearranged (ms.lookup name) (ns.lookup name) := by
  obtain ⟨hv, hw, hsame⟩ := h
  cases v with
  | text s =>
      cases w with
      | text s' =>
          obtain rfl : s' = s := Document.text.inj hsame
          exact .inl ⟨s', rfl, rfl⟩
      | list => cases hsame
      | object => cases hsame
      | _ => exact hw.elim
  | list vs =>
      obtain ⟨ds, heq, hsame⟩ := hsame
      cases w with
      | list ws =>
          obtain rfl := Document.list.inj heq
          exact .inr (.inl ⟨vs, ws, rfl, rfl, rearranged_items hv hw hsame⟩)
      | text => cases heq
      | object => cases heq
      | _ => exact hw.elim
  | object ms =>
      obtain ⟨es, heq, hsub, hsame⟩ := hsame
      cases w with
      | object ns =>
          obtain rfl := Document.table.inj heq
          exact .inr (.inr ⟨ms, ns, rfl, rfl, rearranged_members hv hw hsub hsame⟩)
      | text => cases heq
      | list => cases heq
      | _ => exact hw.elim
  | _ => exact hv.elim

section Rearranged

variable {v w : Value} {found found' : Option Value}

theorem rearranged_isObject (h : Rearranged v w) : v.IsObject ↔ w.IsObject := by
  obtain ⟨s, rfl, rfl⟩ | ⟨vs, ws, rfl, rfl, -⟩ | ⟨ms, ns, rfl, rfl, -⟩ := rearranged_cases h <;>
    exact Iff.rfl

theorem rearranged_member (h : Rearranged v w) (name : String) :
    Option.Rel Rearranged (v.member? name) (w.member? name) := by
  obtain ⟨s, rfl, rfl⟩ | ⟨vs, ws, rfl, rfl, -⟩ | ⟨ms, ns, rfl, rfl, hmembers⟩ := rearranged_cases h
  · exact .none
  · exact .none
  · exact hmembers name

theorem rearranged_elements (h : Option.Rel Rearranged found found') :
    List.Forall₂ Rearranged (Value.elements found) (Value.elements found') := by
  cases h with
  | none => exact .nil
  | some h =>
      obtain ⟨s, rfl, rfl⟩ | ⟨vs, ws, rfl, rfl, hitems⟩ | ⟨ms, ns, rfl, rfl, -⟩ :=
        rearranged_cases h
      · exact .nil
      · exact hitems
      · exact .nil

/-- Each element is one of the other list, rearranged. -/
theorem exists_element (h : Option.Rel Rearranged found found') :
    ∀ y ∈ Value.elements found', ∃ x ∈ Value.elements found, Rearranged x y := by
  have hitems := rearranged_elements h
  generalize Value.elements found = vs at hitems ⊢
  generalize Value.elements found' = ws at hitems ⊢
  induction hitems with
  | nil => exact nofun
  | cons hxy _ ih =>
      refine List.forall_mem_cons.mpr ⟨⟨_, List.mem_cons_self, hxy⟩, fun y hy => ?_⟩
      obtain ⟨x, hx, hrest⟩ := ih y hy
      exact ⟨x, List.mem_cons_of_mem _ hx, hrest⟩

theorem rearranged_text (h : Option.Rel Rearranged found found') (s : String) :
    found = some (.text s) ↔ found' = some (.text s) := by
  cases h with
  | none => exact Iff.rfl
  | some h =>
      obtain ⟨t, rfl, rfl⟩ | ⟨vs, ws, rfl, rfl, -⟩ | ⟨ms, ns, rfl, rfl, -⟩ := rearranged_cases h
      · exact Iff.rfl
      · exact iff_of_false nofun nofun
      · exact iff_of_false nofun nofun

end Rearranged

end CrudStack.Json
