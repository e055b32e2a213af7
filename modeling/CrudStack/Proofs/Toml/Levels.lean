/-
# `CrudStack.Proofs.Toml.Levels` — how deep the statements of a table go

A reader allows so many parts of a key and so many levels of lists and tables in a value.  Both are
bounded by the levels of the table that is told: what a path goes through is a level of the table,
and what the value behind it has comes below that.
-/
import CrudStack.Proofs.Toml.Told

namespace CrudStack

mutual

/-- The levels of lists and tables of a document. -/
def Document.levels : Document → Nat
  | .list ds => itemsLevels ds + 1
  | .table es => entriesLevels es + 1
  | _ => 0

/-- The levels of the deepest element. -/
def itemsLevels : List Document → Nat
  | [] => 0
  | d :: ds => max d.levels (itemsLevels ds)

/-- The levels of the deepest entry. -/
def entriesLevels : List (String × Document) → Nat
  | [] => 0
  | (_, d) :: es => max d.levels (entriesLevels es)

end

namespace Toml

/-- The path of a pair and the levels of its value are within a bound. -/
def PairWithin (bound : Nat) (p : Pair) : Prop := p.1.length + p.2.levels ≤ bound

/-- The path of a section and the pairs below it are within a bound. -/
structure SectionWithin (bound : Nat) (s : Section) : Prop where
  path : s.path.length ≤ bound
  pairs : ∀ p ∈ s.pairs, PairWithin (bound - s.path.length) p

/-- Statements are within a bound. -/
structure Within (bound : Nat) (early : List Section) (own : List Pair) (late : List Section) :
    Prop where
  early : ∀ s ∈ early, SectionWithin bound s
  own : ∀ p ∈ own, PairWithin bound p
  late : ∀ s ∈ late, SectionWithin bound s

section Within

variable {bound bound' : Nat} {key : String} {p : Pair} {s : Section} {pairs own : List Pair}
  {sections early late : List Section}

theorem SectionWithin.mono (h : SectionWithin bound s) (hle : bound ≤ bound') :
    SectionWithin bound' s := by
  refine ⟨Nat.le_trans h.path hle, fun p hp => ?_⟩
  have hpair := h.pairs p hp
  unfold PairWithin at hpair ⊢
  omega

theorem Within.mono (h : Within bound early own late) (hle : bound ≤ bound') :
    Within bound' early own late :=
  ⟨fun s hs => (h.early s hs).mono hle, fun p hp => Nat.le_trans (h.own p hp) hle,
    fun s hs => (h.late s hs).mono hle⟩

/-- A pair is about a key, and then it goes one level deeper than below the key, or it is not. -/
theorem pairWithin_of_parts (hbelow : ∀ p ∈ pairsBelow key pairs, PairWithin bound p)
    (hbeside : ∀ p ∈ pairsBeside key pairs, PairWithin (bound + 1) p) :
    ∀ p ∈ pairs, PairWithin (bound + 1) p := by
  intro p hp
  obtain ⟨path, d⟩ := p
  by_cases hkey : path.head? = some key
  · obtain ⟨path, rfl⟩ := List.head?_eq_some_iff.mp hkey
    have hpair := hbelow (path, d) (List.mem_filterMap.mpr ⟨_, hp, if_pos rfl⟩)
    unfold PairWithin at hpair ⊢
    simp only [List.length_cons] at hpair ⊢
    omega
  · exact hbeside _ (List.mem_filter.mpr ⟨hp, by simpa using hkey⟩)

/-- The same for a section. -/
theorem sectionWithin_of_parts (hbelow : ∀ s ∈ sectionsBelow key sections, SectionWithin bound s)
    (hbeside : ∀ s ∈ sectionsBeside key sections, SectionWithin (bound + 1) s) :
    ∀ s ∈ sections, SectionWithin (bound + 1) s := by
  intro s hs
  obtain ⟨mark, path, pairs⟩ := s
  by_cases hkey : path.head? = some key
  · obtain ⟨path, rfl⟩ := List.head?_eq_some_iff.mp hkey
    obtain ⟨hpath, hpairs⟩ :=
      hbelow ⟨mark, path, pairs⟩ (List.mem_filterMap.mpr ⟨_, hs, if_pos rfl⟩)
    refine ⟨Nat.succ_le_succ hpath, fun p hp => ?_⟩
    have hpair := hpairs p hp
    rwa [List.length_cons, Nat.add_sub_add_right]
  · exact hbeside _ (List.mem_filter.mpr ⟨hs, by simpa using hkey⟩)

theorem within_of_parts
    (hbelow : Within bound (sectionsBelow key early) (pairsBelow key own) (sectionsBelow key late))
    (hbeside : Within (bound + 1) (sectionsBeside key early) (pairsBeside key own)
      (sectionsBeside key late)) : Within (bound + 1) early own late :=
  ⟨sectionWithin_of_parts hbelow.early hbeside.early, pairWithin_of_parts hbelow.own hbeside.own,
    sectionWithin_of_parts hbelow.late hbeside.late⟩

/-- A header of its own goes nowhere. -/
theorem sectionWithin_here {isElement : Bool} (h : ∀ p ∈ pairs, PairWithin bound p) :
    SectionWithin bound ⟨isElement, [], pairs⟩ := ⟨Nat.zero_le _, h⟩

theorem within_value {d : Document} : Within d.levels [] [([], d)] [] :=
  ⟨nofun, fun p hp => by
    obtain rfl := List.mem_singleton.mp hp
    exact Nat.le_of_eq (Nat.zero_add _), nofun⟩

/-- Sections are within a bound wherever they are parted. -/
theorem within_append (h : ∀ s ∈ early ++ late, SectionWithin bound s) :
    Within bound early [] late :=
  ⟨fun s hs => h s (List.mem_append_left _ hs), nofun, fun s hs => h s (List.mem_append_right _ hs)⟩

end Within

mutual

/-- Statements about a key go as deep as its value. -/
theorem told_within : ∀ (d : Document) {early late : List Section} {own : List Pair},
    Told d early own late → Within d.levels early own late
  | .table es, early, late, _, h => by
      obtain ⟨rfl, rfl, rfl⟩ | ⟨rfl, -, h⟩ | ⟨rfl, -, h⟩ | ⟨rfl, before, pairs, after, heq, h⟩ := h
      · exact within_value
      · exact entries_within es h
      · exact within_append (entries_within es h).late
      · have hall := entries_within es h
        refine within_append ?_
        rw [heq]
        exact List.forall_mem_append.mpr ⟨hall.early,
          List.forall_mem_cons.mpr ⟨sectionWithin_here hall.own, hall.late⟩⟩
  | .list ds, early, late, _, h => by
      obtain ⟨rfl, rfl, rfl⟩ | ⟨rfl, -, h⟩ := h
      · exact within_value
      · exact within_append fun s hs => (elements_within ds h s hs).mono (Nat.le_succ _)
  | .null, _, _, _, ⟨rfl, rfl, rfl⟩ => within_value
  | .bool _, _, _, _, ⟨rfl, rfl, rfl⟩ => within_value
  | .integer _, _, _, _, ⟨rfl, rfl, rfl⟩ => within_value
  | .double _, _, _, _, ⟨rfl, rfl, rfl⟩ => within_value
  | .text _, _, _, _, ⟨rfl, rfl, rfl⟩ => within_value

theorem entries_within : ∀ (es : List (String × Document)) {early late : List Section}
    {own : List Pair}, EntriesTold es early own late → Within (entriesLevels es + 1) early own late
  | [], _, _, _, ⟨rfl, rfl, rfl⟩ => ⟨nofun, nofun, nofun⟩
  | (_, d) :: es, _, _, _, ⟨hd, hes⟩ => by
      rw [entriesLevels]
      exact within_of_parts ((told_within d hd).mono (Nat.le_max_left _ _))
        ((entries_within es hes).mono (Nat.succ_le_succ (Nat.le_max_right _ _)))

theorem elements_within : ∀ (ds : List Document) {sections : List Section},
    ElementsTold ds sections → ∀ s ∈ sections, SectionWithin (itemsLevels ds) s
  | [], _, rfl => nofun
  | .table es :: ds, _, h => by
      obtain ⟨pairs, inside, others, rfl, hes, hds⟩ := h
      have hall := entries_within es hes
      rw [itemsLevels]
      have hfirst : (Document.table es).levels ≤ max (Document.table es).levels (itemsLevels ds) :=
        Nat.le_max_left _ _
      refine List.forall_mem_cons.mpr ⟨(sectionWithin_here hall.own).mono hfirst,
        List.forall_mem_append.mpr ⟨fun s hs => (hall.late s hs).mono hfirst, fun s hs => ?_⟩⟩
      exact (elements_within ds hds s hs).mono (Nat.le_max_right _ _)

end

end Toml

end CrudStack
