/-
# `CrudStack.Proofs.Toml.Alike` — the same data in another order

The order of a table's entries is a matter of the text, and a TOML text leaves it open.  Two
documents are the same but for that order if they are built alike, with the same keys in every table
and the same below every key.
-/
import CrudStack.Proofs.Toml.Told
import Mathlib.Data.List.Forall2

namespace CrudStack

mutual

/-- A document has the data of another one, its tables in any order. -/
def SameAs : Document → Document → Prop
  | .list ds, x => ∃ ds', x = .list ds' ∧ ItemsSame ds ds'
  | .table es, x => ∃ es', x = .table es' ∧ es'.map (·.1) ⊆ es.map (·.1) ∧ EntriesSame es es'
  | d, x => x = d

/-- The elements of lists are the same, in their order. -/
def ItemsSame : List Document → List Document → Prop
  | [], ds' => ds' = []
  | d :: ds, ds' => ∃ d' rest, ds' = d' :: rest ∧ SameAs d d' ∧ ItemsSame ds rest

/-- The entries of a table are found in another one. -/
def EntriesSame : List (String × Document) → List (String × Document) → Prop
  | [], _ => True
  | (key, d) :: es, es' => (∃ d', es'.lookup key = some d' ∧ SameAs d d') ∧ EntriesSame es es'

end

theorem entriesSame_iff {es es' : List (String × Document)} :
    EntriesSame es es' ↔ ∀ e ∈ es, ∃ d', es'.lookup e.1 = some d' ∧ SameAs e.2 d' := by
  induction es with
  | nil => simp [EntriesSame]
  | cons e es ih => rw [EntriesSame, List.forall_mem_cons, ih]

namespace Toml

/-! ## Statements with the same data -/

/-- Pairs with the same path and the same data. -/
def PairAlike (p p' : Pair) : Prop := p'.1 = p.1 ∧ SameAs p.2 p'.2

/-- Sections with the same header and alike pairs. -/
structure SectionAlike (s s' : Section) : Prop where
  isElement : s'.isElement = s.isElement
  path : s'.path = s.path
  pairs : List.Forall₂ PairAlike s.pairs s'.pairs

section Below

variable {key : String}

/-- What is picked from alike lists is alike. -/
theorem forall₂_filterMap {A B : Type} {R : A → A → Prop} {S : B → B → Prop} {f : A → Option B}
    (h : ∀ x x', R x x' → Option.Rel S (f x) (f x')) {xs xs' : List A}
    (hxs : List.Forall₂ R xs xs') : List.Forall₂ S (xs.filterMap f) (xs'.filterMap f) :=
  List.rel_filterMap (fun {x x'} => h x x') hxs

/-- Alike statements are split where the others are. -/
theorem forall₂_split {A B : Type} {R : A → B → Prop} {xs ys : List A} {zs : List B}
    (h : List.Forall₂ R (xs ++ ys) zs) :
    ∃ xs' ys', zs = xs' ++ ys' ∧ List.Forall₂ R xs xs' ∧ List.Forall₂ R ys ys' := by
  induction xs generalizing zs with
  | nil => exact ⟨[], zs, rfl, .nil, h⟩
  | cons x xs ih =>
      obtain ⟨z, rest, hz, hrest, rfl⟩ := List.forall₂_cons_left_iff.mp h
      obtain ⟨xs', ys', rfl, hxs, hys⟩ := ih hrest
      exact ⟨z :: xs', ys', rfl, .cons hz hxs, hys⟩

theorem pairsBelow_alike {ps ps' : List Pair} (h : List.Forall₂ PairAlike ps ps') :
    List.Forall₂ PairAlike (pairsBelow key ps) (pairsBelow key ps') := by
  refine forall₂_filterMap ?_ h
  rintro ⟨path, d⟩ ⟨path', d'⟩ ⟨hpath, hd⟩
  obtain rfl : path' = path := hpath
  cases path' with
  | nil => exact .none
  | cons part path =>
      show Option.Rel _ (if _ then _ else _) (if _ then _ else _)
      split
      · exact .some ⟨rfl, hd⟩
      · exact .none

theorem sectionsBelow_alike {ss ss' : List Section} (h : List.Forall₂ SectionAlike ss ss') :
    List.Forall₂ SectionAlike (sectionsBelow key ss) (sectionsBelow key ss') := by
  refine forall₂_filterMap ?_ h
  rintro ⟨isElement, path, pairs⟩ ⟨isElement', path', pairs'⟩ ⟨hmark, hpath, hpairs⟩
  obtain rfl : isElement' = isElement := hmark
  obtain rfl : path' = path := hpath
  cases path' with
  | nil => exact .none
  | cons part path =>
      show Option.Rel _ (if _ then _ else _) (if _ then _ else _)
      split
      · exact .some ⟨rfl, rfl, hpairs⟩
      · exact .none

theorem pairsBeside_alike {ps ps' : List Pair} (h : List.Forall₂ PairAlike ps ps') :
    List.Forall₂ PairAlike (pairsBeside key ps) (pairsBeside key ps') :=
  List.rel_filter (fun {p p'} hp => by simp only [hp.1]) h

theorem sectionsBeside_alike {ss ss' : List Section} (h : List.Forall₂ SectionAlike ss ss') :
    List.Forall₂ SectionAlike (sectionsBeside key ss) (sectionsBeside key ss') :=
  List.rel_filter (fun {s s'} hs => by simp only [hs.path]) h

end Below

end Toml

end CrudStack
