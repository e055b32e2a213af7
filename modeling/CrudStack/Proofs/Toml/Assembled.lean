/-
# `CrudStack.Proofs.Toml.Assembled` — what is told is what is assembled

Statements are added one after the other, and each of them changes the item of one key.  So a run of
statements can be taken apart: the item of a key comes from the statements about that key, whatever
stands between them (`run_exists`).  What they say below the key is told by the same relation again,
and so it is shown level by level that the assembled document has the data that was told
(`assemble_told`).
-/
import CrudStack.Proofs.Toml.Alike
import CrudStack.Proofs.Toml.Distinct

namespace CrudStack.Toml

open Lookup

/-! ## Runs of statements -/

/-- A statement: what it adds, and where. -/
structure Insertion where
  addition : Addition
  path : List String

/-- A pair as a statement. -/
def Insertion.ofPair (p : Pair) : Insertion := ⟨.value p.2, p.1⟩

/-- A section as a statement. -/
def Insertion.ofSection (s : Section) : Insertion := ⟨.header s.isElement s.pairs, s.path⟩

/-- The statements of a table: the sections before its own pairs, those pairs, and the sections
behind them. -/
def insertions (early : List Section) (own : List Pair) (late : List Section) : List Insertion :=
  early.map .ofSection ++ (own.map .ofPair ++ late.map .ofSection)

/-- Adds statements to a table, one after the other. -/
def run (is : List Insertion) (es : Entries) : Option Entries :=
  is.foldlM (fun es i => i.addition.add false false i.path es) es

/-- What becomes of one item by statements about it. -/
def itemRun (is : List Insertion) (old : Option Item) : Option (Option Item) :=
  is.foldlM (fun old i => (i.addition.grown i.path old).map some) old

/-- The statements about a key, without that part of their paths. -/
def insertionsBelow (key : String) (is : List Insertion) : List Insertion :=
  is.filterMap fun i =>
    match i.path with
    | part :: path => if part = key then some ⟨i.addition, path⟩ else none
    | [] => none

/-- The statements that are not about a key. -/
def insertionsBeside (key : String) (is : List Insertion) : List Insertion :=
  is.filter fun i => i.path.head? ≠ some key

/-- Every statement is about some key. -/
def AboutKeys (is : List Insertion) : Prop := ∀ i ∈ is, i.path ≠ []

section Runs

variable {key name : String} {is is' : List Insertion} {es : Entries} {old : Option Item}

theorem run_append : run (is ++ is') es = (run is es).bind (run is') := List.foldlM_append

theorem itemRun_append : itemRun (is ++ is') old = (itemRun is old).bind (itemRun is') :=
  List.foldlM_append

theorem insertionsBelow_insertions (early : List Section) (own : List Pair) (late : List Section) :
    insertionsBelow key (insertions early own late) =
      insertions (sectionsBelow key early) (pairsBelow key own) (sectionsBelow key late) := by
  have hpairs : (own.map Insertion.ofPair).filterMap (fun i => match i.path with
      | part :: path => if part = key then some (⟨i.addition, path⟩ : Insertion) else none
      | [] => none) = (pairsBelow key own).map .ofPair := by
    rw [List.filterMap_map, pairsBelow, List.map_filterMap]
    refine List.filterMap_congr fun p _ => ?_
    obtain ⟨_ | ⟨part, path⟩, d⟩ := p
    · rfl
    · simp only [Function.comp_apply, Insertion.ofPair]
      split <;> rfl
  have hsections : ∀ ss : List Section, (ss.map Insertion.ofSection).filterMap
      (fun i => match i.path with
        | part :: path => if part = key then some (⟨i.addition, path⟩ : Insertion) else none
        | [] => none) = (sectionsBelow key ss).map .ofSection := fun ss => by
    rw [List.filterMap_map, sectionsBelow, List.map_filterMap]
    refine List.filterMap_congr fun s _ => ?_
    obtain ⟨mark, _ | ⟨part, path⟩, pairs⟩ := s
    · rfl
    · simp only [Function.comp_apply, Insertion.ofSection]
      split <;> rfl
  rw [insertionsBelow, insertions, List.filterMap_append, List.filterMap_append, hpairs, hsections,
    hsections, insertions]

theorem insertionsBeside_insertions (early : List Section) (own : List Pair) (late : List Section) :
    insertionsBeside key (insertions early own late) =
      insertions (sectionsBeside key early) (pairsBeside key own) (sectionsBeside key late) := by
  simp only [insertionsBeside, insertions, List.filter_append, List.filter_map]
  rfl

theorem insertionsBelow_beside (h : name ≠ key) :
    insertionsBelow name (insertionsBeside key is) = insertionsBelow name is := by
  rw [insertionsBelow, insertionsBeside, List.filterMap_filter]
  refine List.filterMap_congr fun i _ => ?_
  cases i.path with
  | nil => simp
  | cons part path =>
      by_cases hpart : part = key
      · subst hpart
        simp [Ne.symm h]
      · simp [hpart]

/-- A statement about a key or another one. -/
theorem insertionsBelow_cons (a : Addition) (path : List String) :
    insertionsBelow name (⟨a, key :: path⟩ :: is) =
      if key = name then ⟨a, path⟩ :: insertionsBelow name is else insertionsBelow name is := by
  simp only [insertionsBelow, List.filterMap_cons]
  by_cases h : key = name
  · rw [if_pos h, if_pos h]
  · rw [if_neg h, if_neg h]

theorem itemRun_cons (i : Insertion) :
    itemRun (i :: is) old =
      (i.addition.grown i.path old).bind fun item => itemRun is (some item) := by
  rw [itemRun, List.foldlM_cons]
  cases i.addition.grown i.path old <;> rfl

/-- Statements are added to a table if the statements about each key can be added to its item, and
then the items of the keys are what these make of them. -/
theorem run_exists (es : Entries) (his : AboutKeys is)
    (h : ∀ key, ∃ x, itemRun (insertionsBelow key is) (es.lookup key) = some x) :
    ∃ es', run is es = some es' ∧
      ∀ key, itemRun (insertionsBelow key is) (es.lookup key) = some (es'.lookup key) := by
  induction is generalizing es with
  | nil => exact ⟨es, rfl, fun key => rfl⟩
  | cons i is ih =>
      obtain ⟨a, path⟩ := i
      obtain ⟨hi, hrest⟩ := List.forall_mem_cons.mp his
      cases path with
      | nil => exact absurd rfl hi
      | cons key path =>
          obtain ⟨x, hx⟩ := h key
          rw [insertionsBelow_cons, if_pos rfl, itemRun_cons] at hx
          obtain ⟨item, hitem, hlater⟩ := Option.bind_eq_some_iff.mp hx
          have hadd : a.add false false (key :: path) es = some (a.settle path key item es) := by
            rw [Addition.add_cons, show a.isRefused false false path = false by
              cases a <;> cases path <;> rfl, if_neg Bool.false_ne_true, hitem]
            rfl
          have hlookup := (Addition.puts_settle a path key item es).lookup
          have hstep : ∀ name y, itemRun (insertionsBelow name (⟨a, key :: path⟩ :: is))
              (es.lookup name) = some y ↔ itemRun (insertionsBelow name is)
                ((a.settle path key item es).lookup name) = some y := by
            intro name y
            rw [insertionsBelow_cons, hlookup]
            by_cases hname : key = name
            · subst hname
              rw [if_pos rfl, if_pos rfl, itemRun_cons, hitem]
              rfl
            · rw [if_neg hname, if_neg (Ne.symm hname)]
          obtain ⟨es', hrun, hall⟩ := ih _ hrest fun name => by
            obtain ⟨y, hy⟩ := h name
            exact ⟨y, (hstep name y).mp hy⟩
          refine ⟨es', ?_, fun name => (hstep name _).mpr (hall name)⟩
          rw [run, List.foldlM_cons, hadd]
          exact hrun

/-! ## Statements below a key -/

/-- Into a table that dotted keys brought about, and for a section into any table, a statement goes
as if nothing had been passed on the way. -/
theorem add_eq {a : Addition} {inside dotted : Bool} (h : a.isDotted = false ∨ dotted = true)
    (path : List String) (es : Entries) :
    a.add inside dotted path es = a.add false false path es := by
  cases path with
  | nil => rw [Addition.add_nil, Addition.add_nil]
  | cons key path =>
      have hfree : a.isRefused inside dotted path = a.isRefused false false path := by
        cases a with
        | header isElement pairs => cases path <;> rfl
        | value v =>
            obtain h | rfl := h
            · cases h
            · cases path <;> simp [Addition.isRefused]
      rw [Addition.add_cons, Addition.add_cons, hfree]

/-- Statements below a table are added to its entries. -/
theorem itemRun_table {implicit dotted : Bool} {sub : Entries} (his : AboutKeys is)
    (h : ∀ i ∈ is, i.addition.isDotted = false ∨ implicit = true ∧ dotted = true) :
    itemRun is (some (.table implicit dotted sub)) =
      (run is sub).map fun sub => some (.table implicit dotted sub) := by
  induction is generalizing sub with
  | nil => rfl
  | cons i is ih =>
      obtain ⟨a, path⟩ := i
      obtain ⟨hi, hrest⟩ := List.forall_mem_cons.mp his
      obtain ⟨hown, hothers⟩ := List.forall_mem_cons.mp h
      cases path with
      | nil => exact absurd rfl hi
      | cons part path =>
          have hopen : (a.isDotted && !implicit) = false := by
            obtain hown | ⟨rfl, -⟩ := hown
            · rw [show a.isDotted = false from hown, Bool.false_and]
            · simp
          have hadd : a.add true dotted (part :: path) sub = a.add false false (part :: path) sub :=
            add_eq (hown.imp_right And.right) _ _
          rw [itemRun_cons, run, List.foldlM_cons, Addition.grown, Addition.passed, hopen,
            if_neg Bool.false_ne_true, hadd]
          cases a.add false false (part :: path) sub with
          | none => rfl
          | some sub' => exact ih hrest hothers

/-- The first statement below a key makes the table that the others go into. -/
theorem itemRun_opened {i : Insertion} (his : AboutKeys (i :: is))
    (h : ∀ j ∈ is, j.addition.isDotted = false ∨ i.addition.isDotted = true) :
    itemRun (i :: is) none =
      (run (i :: is) []).map fun sub => some (.table true i.addition.isDotted sub) := by
  obtain ⟨a, path⟩ := i
  obtain ⟨hi, hrest⟩ := List.forall_mem_cons.mp his
  cases path with
  | nil => exact absurd rfl hi
  | cons part path =>
      rw [itemRun_cons, run, List.foldlM_cons, Addition.grown, Addition.passed,
        add_eq (.inr rfl) (part :: path) []]
      cases a.add false false (part :: path) [] with
      | none => rfl
      | some sub => exact itemRun_table hrest fun j hj => (h j hj).imp_right fun h => ⟨rfl, h⟩

/-- What a list of tables is while it is empty, and then. -/
def tablesOf : List Entries → Option Item
  | [] => none
  | elements => some (.tables elements)

theorem tablesOf_concat (done : List Entries) (last : Entries) :
    tablesOf (done ++ [last]) = some (.tables (done ++ [last])) := by
  cases done <;> rfl

/-- Statements below the last element of a list of tables are added to it. -/
theorem itemRun_lastTable {done : List Entries} {last : Entries} (his : AboutKeys is)
    (h : ∀ i ∈ is, i.addition.isDotted = false) :
    itemRun is (tablesOf (done ++ [last])) =
      (run is last).map fun last => tablesOf (done ++ [last]) := by
  simp only [tablesOf_concat]
  induction is generalizing last with
  | nil => rfl
  | cons i is ih =>
      obtain ⟨a, path⟩ := i
      obtain ⟨hi, hrest⟩ := List.forall_mem_cons.mp his
      obtain ⟨hown, hothers⟩ := List.forall_mem_cons.mp h
      cases path with
      | nil => exact absurd rfl hi
      | cons part path =>
          rw [itemRun_cons, run, List.foldlM_cons, Addition.grown, Addition.passed,
            List.getLast?_concat, List.dropLast_concat]
          simp only [add_eq (.inl hown) (part :: path) last]
          cases a.add false false (part :: path) last with
          | none => rfl
          | some last' => exact ih hrest hothers

end Runs

/-! ## What is told -/

/-- Statements bring about a table with these entries: each is about one of the keys, no key comes
twice, and the statements about a key make an item with its data. -/
structure Yields (es : List (String × Document)) (is : List Insertion) : Prop where
  keys : (es.map (·.1)).Nodup
  about : AboutKeys is
  entry : ∀ key d, es.lookup key = some d →
    ∃ item, itemRun (insertionsBelow key is) none = some (some item) ∧ SameAs d item.document
  other : ∀ key, es.lookup key = none → insertionsBelow key is = []

section Yields

variable {key : String} {d : Document} {es : List (String × Document)} {is : List Insertion}

theorem yields_nil : Yields [] [] := ⟨List.nodup_nil, nofun, nofun, fun _ _ => rfl⟩

theorem insertionsBelow_beside_self : insertionsBelow key (insertionsBeside key is) = [] := by
  rw [insertionsBelow, insertionsBeside, List.filterMap_filter, List.filterMap_eq_nil_iff]
  intro i _
  cases i.path with
  | nil => simp
  | cons part path =>
      by_cases hpart : part = key
      · simp [hpart]
      · simp [hpart]

theorem yields_cons {item : Item} (hitem : itemRun (insertionsBelow key is) none = some (some item))
    (hsame : SameAs d item.document) (hrest : Yields es (insertionsBeside key is)) :
    Yields ((key, d) :: es) is := by
  have habsent : es.lookup key = none := by
    by_contra hne
    obtain ⟨d', hd'⟩ := Option.ne_none_iff_exists'.mp hne
    obtain ⟨item', hitem', -⟩ := hrest.entry key d' hd'
    rw [insertionsBelow_beside_self] at hitem'
    cases hitem'
  refine ⟨?_, fun i hi hpath => ?_, fun name d' hd' => ?_, fun name hname => ?_⟩
  · exact List.nodup_cons.mpr ⟨lookup_eq_none.mp habsent, hrest.keys⟩
  · exact hrest.about i (List.mem_filter.mpr ⟨hi, by simp [hpath]⟩) hpath
  · rw [lookup_cons] at hd'
    split at hd'
    · next heq =>
        cases hd'
        obtain rfl : name = key := heq
        exact ⟨item, hitem, hsame⟩
    · next hne =>
        have hentry := hrest.entry name d' hd'
        rwa [insertionsBelow_beside hne] at hentry
  · rw [lookup_cons] at hname
    split at hname
    · cases hname
    · next hne =>
        have hother := hrest.other name hname
        rwa [insertionsBelow_beside hne] at hother

theorem lookup_entriesDocument (es : Entries) (key : String) :
    (entriesDocument es).lookup key = (es.lookup key).map Item.document := by
  rw [entriesDocument_eq_map]
  induction es with
  | nil => rfl
  | cons e es ih =>
      rw [List.map_cons, lookup_cons, lookup_cons, ih]
      split <;> rfl

theorem run_of_yields (h : Yields es is) :
    ∃ es', run is [] = some es' ∧ SameAs (.table es) (.table (entriesDocument es')) := by
  obtain ⟨es', hrun, hitems⟩ := run_exists [] h.about fun key => by
    cases hd : es.lookup key with
    | none => exact ⟨none, by rw [h.other key hd]; rfl⟩
    | some d =>
        obtain ⟨item, hitem, -⟩ := h.entry key d hd
        exact ⟨_, hitem⟩
  refine ⟨es', hrun, _, rfl, fun key hkey => ?_, entriesSame_iff.mpr fun e he => ?_⟩
  · by_contra hnot
    have habsent : es'.lookup key = none := by
      have hitem := hitems key
      rw [h.other key (lookup_eq_none.mpr hnot)] at hitem
      exact (Option.some.inj hitem).symm
    rw [keys_entriesDocument] at hkey
    exact lookup_eq_none.mp habsent hkey
  · obtain ⟨item, hitem, hsame⟩ := h.entry e.1 e.2 (lookup_of_mem h.keys he)
    refine ⟨item.document, ?_, hsame⟩
    rw [lookup_entriesDocument, Option.some.inj ((hitems e.1).symm.trans hitem)]
    rfl

end Yields

/-! ## From what is told to what is assembled -/

section Told

variable {es : List (String × Document)} {ss before after early late : List Section}
  {own pairs : List Pair}

theorem run_pairs (es : Entries) : run (pairs.map .ofPair) es = addPairs pairs es :=
  List.foldlM_map

theorem run_sections (es : Entries) : run (ss.map .ofSection) es = ss.foldlM addSection es :=
  List.foldlM_map

theorem run_insertions (es : Entries) :
    run (insertions before pairs after) es =
      (run (before.map .ofSection) es).bind fun es =>
        (addPairs pairs es).bind (run (after.map .ofSection)) := by
  rw [insertions, run_append]
  refine Option.bind_congr fun es _ => ?_
  rw [run_append, run_pairs]

theorem isDotted_ofSection : ∀ i ∈ ss.map Insertion.ofSection, i.addition.isDotted = false :=
  List.forall_mem_map.mpr fun _ _ => rfl

/-- A value that is written out is the item. -/
theorem itemRun_value {d : Document} (hearly : List.Forall₂ SectionAlike [] early)
    (hown : List.Forall₂ PairAlike [([], d)] own) (hlate : List.Forall₂ SectionAlike [] late) :
    ∃ item, itemRun (insertions early own late) none = some (some item) ∧
      SameAs d item.document := by
  cases hearly
  cases hlate
  obtain ⟨⟨path, d'⟩, rest, ⟨hpath, hd⟩, hrest, rfl⟩ := List.forall₂_cons_left_iff.mp hown
  obtain rfl : path = [] := hpath
  cases hrest
  exact ⟨.value d', rfl, hd⟩

/-- Pairs, and sections behind them, make a dotted table. -/
theorem itemRun_dotted (hown : own ≠ []) (h : Yields es (insertions [] own late)) :
    ∃ item, itemRun (insertions [] own late) none = some (some item) ∧
      SameAs (.table es) item.document := by
  obtain ⟨es', hrun, hsame⟩ := run_of_yields h
  obtain ⟨p, ps, rfl⟩ := List.exists_cons_of_ne_nil hown
  have habout : AboutKeys (.ofPair p :: (ps.map .ofPair ++ late.map .ofSection)) := h.about
  refine ⟨.table true true es', ?_, hsame⟩
  rw [insertions, List.map_nil, List.nil_append, List.map_cons, List.cons_append,
    itemRun_opened habout fun _ _ => .inr rfl]
  exact congrArg (Option.map _) hrun

/-- Sections alone make an implied table. -/
theorem itemRun_implied {sub : Entries} (hss : ss ≠ []) (habout : AboutKeys (ss.map .ofSection))
    (hrun : run (ss.map .ofSection) [] = some sub) :
    itemRun (ss.map .ofSection) none = some (some (.table true false sub)) := by
  obtain ⟨s, rest, rfl⟩ := List.exists_cons_of_ne_nil hss
  rw [List.map_cons] at habout hrun ⊢
  rw [itemRun_opened habout fun j hj => .inl (isDotted_ofSection j hj), hrun]
  rfl

/-- A section of its own makes a headed table of what sections before it have made. -/
theorem itemRun_headed (h : Yields es (insertions before pairs after)) :
    ∃ item, itemRun ((before ++ ⟨false, [], pairs⟩ :: after).map .ofSection) none =
      some (some item) ∧ SameAs (.table es) item.document := by
  obtain ⟨es', hrun, hsame⟩ := run_of_yields h
  rw [run_insertions] at hrun
  obtain ⟨es₁, hbefore, hrun⟩ := Option.bind_eq_some_iff.mp hrun
  obtain ⟨es₂, hpairs, hafter⟩ := Option.bind_eq_some_iff.mp hrun
  have habout : AboutKeys (before.map .ofSection) ∧ AboutKeys (after.map .ofSection) := by
    obtain ⟨hbefore, hrest⟩ := List.forall_mem_append.mp h.about
    exact ⟨hbefore, (List.forall_mem_append.mp hrest).2⟩
  have hheader : ∃ old, itemRun (before.map .ofSection) none = some old ∧
      (Addition.header false pairs).placed old = some (.table false false es₂) := by
    obtain rfl | hne := eq_or_ne before []
    · cases hbefore
      exact ⟨none, rfl, by rw [Addition.placed, hpairs]; rfl⟩
    · exact ⟨_, itemRun_implied hne habout.1 hbefore, by rw [Addition.placed, hpairs]; rfl⟩
  obtain ⟨old, hold, hplaced⟩ := hheader
  refine ⟨.table false false es', ?_, hsame⟩
  rw [List.map_append, List.map_cons, itemRun_append, hold, Option.bind_some, itemRun_cons,
    Insertion.ofSection, Addition.grown, hplaced, Option.bind_some,
    itemRun_table habout.2 fun i hi => .inl (isDotted_ofSection i hi), hafter]
  rfl

/-- A section of an element adds it to the list, and the sections behind it are about it. -/
theorem itemRun_element {inside : List Section} (done : List Entries) (others : List Section)
    (h : Yields es (insertions [] pairs inside)) :
    ∃ last, SameAs (.table es) (.table (entriesDocument last)) ∧
      itemRun ((⟨true, [], pairs⟩ :: (inside ++ others)).map .ofSection) (tablesOf done) =
        itemRun (others.map .ofSection) (tablesOf (done ++ [last])) := by
  obtain ⟨es', hrun, hsame⟩ := run_of_yields h
  rw [insertions, List.map_nil, List.nil_append, run_append, run_pairs] at hrun
  obtain ⟨sub, hpairs, hinside⟩ := Option.bind_eq_some_iff.mp hrun
  have habout : AboutKeys (inside.map .ofSection) :=
    (List.forall_mem_append.mp (List.forall_mem_append.mp h.about).2).2
  have hplaced : (Addition.header true pairs).placed (tablesOf done) =
      some (.tables (done ++ [sub])) := by
    cases done with
    | nil => simp [tablesOf, Addition.placed, hpairs]
    | cons first rest => simp [tablesOf, Addition.placed, hpairs]
  refine ⟨es', hsame, ?_⟩
  rw [List.map_cons, List.map_append, itemRun_cons, Insertion.ofSection, Addition.grown, hplaced,
    Option.bind_some, ← tablesOf_concat, itemRun_append,
    itemRun_lastTable habout isDotted_ofSection, hinside]
  rfl

mutual

/-- What is told of a key is what becomes of its item, by recursion on the data. -/
theorem told_run : ∀ (d : Document) {early late early' late' : List Section} {own own' : List Pair},
    Told d early own late → List.Forall₂ SectionAlike early early' →
    List.Forall₂ PairAlike own own' → List.Forall₂ SectionAlike late late' →
    ∃ item, itemRun (insertions early' own' late') none = some (some item) ∧
      SameAs d item.document
  | .table es, early, late, early', late', _, _, h, hearly, hown, hlate => by
      have hsections : List.Forall₂ SectionAlike (early ++ late) (early' ++ late') :=
        List.rel_append hearly hlate
      obtain ⟨rfl, rfl, rfl⟩ | ⟨rfl, hne, h⟩ | ⟨rfl, hne, h⟩ |
        ⟨rfl, before, pairs, after, heq, h⟩ :=
        h
      · exact itemRun_value hearly hown hlate
      · cases hearly
        refine itemRun_dotted (fun hnil => hne ?_) (entries_run es h .nil hown hlate)
        subst hnil
        exact List.forall₂_nil_right_iff.mp hown
      · cases hown
        have hyields := entries_run es h .nil .nil hsections
        obtain ⟨es', hrun, hsame⟩ := run_of_yields hyields
        refine ⟨.table true false es', ?_, hsame⟩
        rw [insertions, List.map_nil, List.nil_append, ← List.map_append]
        refine itemRun_implied (fun hnil => hne ?_) hyields.about hrun
        rw [hnil] at hsections
        exact List.forall₂_nil_right_iff.mp hsections
      · cases hown
        rw [heq] at hsections
        obtain ⟨before', rest', heq', hbefore, hrest⟩ := forall₂_split hsections
        obtain ⟨⟨mark, path, pairs'⟩, after', ⟨hmark, hpath, hpairs⟩, hafter, rfl⟩ :=
          List.forall₂_cons_left_iff.mp hrest
        obtain rfl : mark = false := hmark
        obtain rfl : path = [] := hpath
        rw [insertions, List.map_nil, List.nil_append, ← List.map_append, heq']
        exact itemRun_headed (entries_run es h hbefore hpairs hafter)
  | .list ds, early, late, early', late', own, own', h, hearly, hown, hlate => by
      obtain ⟨rfl, rfl, rfl⟩ | ⟨rfl, hne, h⟩ := h
      · exact itemRun_value hearly hown hlate
      · cases hown
        obtain ⟨new, hrun, hsame⟩ := elements_run ds [] h (List.rel_append hearly hlate)
        rw [insertions, List.map_nil, List.nil_append, ← List.map_append]
        obtain ⟨first, rest, rfl⟩ : ∃ first rest, new = first :: rest := by
          refine List.exists_cons_of_ne_nil fun hnil => hne ?_
          subst hnil
          cases ds with
          | nil => exact h
          | cons d ds =>
              obtain ⟨d', ds', heq, -⟩ := hsame
              cases heq
        exact ⟨.tables (first :: rest), hrun, _, rfl, hsame⟩
  | .null, _, _, _, _, _, _, ⟨rfl, rfl, rfl⟩, hearly, hown, hlate =>
      itemRun_value hearly hown hlate
  | .bool _, _, _, _, _, _, _, ⟨rfl, rfl, rfl⟩, hearly, hown, hlate =>
      itemRun_value hearly hown hlate
  | .integer _, _, _, _, _, _, _, ⟨rfl, rfl, rfl⟩, hearly, hown, hlate =>
      itemRun_value hearly hown hlate
  | .double _, _, _, _, _, _, _, ⟨rfl, rfl, rfl⟩, hearly, hown, hlate =>
      itemRun_value hearly hown hlate
  | .text _, _, _, _, _, _, _, ⟨rfl, rfl, rfl⟩, hearly, hown, hlate =>
      itemRun_value hearly hown hlate

theorem entries_run : ∀ (es : List (String × Document)) {early late early' late' : List Section}
    {own own' : List Pair}, EntriesTold es early own late →
    List.Forall₂ SectionAlike early early' → List.Forall₂ PairAlike own own' →
    List.Forall₂ SectionAlike late late' → Yields es (insertions early' own' late')
  | [], _, _, _, _, _, _, ⟨rfl, rfl, rfl⟩, .nil, .nil, .nil => yields_nil
  | (key, d) :: es, _, _, _, _, _, _, ⟨hd, hes⟩, hearly, hown, hlate => by
      obtain ⟨item, hitem, hsame⟩ := told_run d hd (sectionsBelow_alike hearly)
        (pairsBelow_alike hown) (sectionsBelow_alike hlate)
      rw [← insertionsBelow_insertions] at hitem
      refine yields_cons hitem hsame ?_
      rw [insertionsBeside_insertions]
      exact entries_run es hes (sectionsBeside_alike hearly) (pairsBeside_alike hown)
        (sectionsBeside_alike hlate)

theorem elements_run : ∀ (ds : List Document) {ss ss' : List Section} (done : List Entries),
    ElementsTold ds ss → List.Forall₂ SectionAlike ss ss' →
    ∃ new, itemRun (ss'.map .ofSection) (tablesOf done) = some (tablesOf (done ++ new)) ∧
      ItemsSame ds (elementsDocument new)
  | [], _, _, done, rfl, .nil => ⟨[], by rw [List.append_nil]; rfl, rfl⟩
  | .table es :: ds, _, _, done, h, hss => by
      obtain ⟨pairs, inside, others, rfl, hinside, hothers⟩ := h
      obtain ⟨⟨mark, path, pairs'⟩, rest', ⟨hmark, hpath, hpairs⟩, hrest, rfl⟩ :=
        List.forall₂_cons_left_iff.mp hss
      obtain rfl : mark = true := hmark
      obtain rfl : path = [] := hpath
      obtain ⟨inside', others', rfl, hinside', hothers'⟩ := forall₂_split hrest
      obtain ⟨last, hlast, hrun⟩ := itemRun_element done others'
        (entries_run es hinside .nil hpairs hinside')
      obtain ⟨new, hnew, hsame⟩ := elements_run ds (done ++ [last]) hothers hothers'
      refine ⟨last :: new, ?_, _, _, rfl, hlast, hsame⟩
      rw [hrun, hnew, List.append_assoc, List.singleton_append]

end

/-- Statements that tell a table are assembled to a document with its data, and so are alike
ones. -/
theorem assemble_told {own' : List Pair} {ss' : List Section} (h : EntriesTold es [] own ss)
    (hown : List.Forall₂ PairAlike own own') (hss : List.Forall₂ SectionAlike ss ss') :
    ∃ d, assemble own' ss' = some d ∧ SameAs (.table es) d := by
  obtain ⟨es', hrun, hsame⟩ := run_of_yields (entries_run es h .nil hown hss)
  refine ⟨_, ?_, hsame⟩
  rw [insertions, List.map_nil, List.nil_append, run_append, run_pairs] at hrun
  obtain ⟨sub, hpairs, hsections⟩ := Option.bind_eq_some_iff.mp hrun
  rw [run_sections] at hsections
  rw [assemble, hpairs]
  simp [hsections]

/-- The same for a table of pairs alone. -/
theorem tableOfPairs_told {own' : List Pair} (h : EntriesTold es [] own [])
    (hown : List.Forall₂ PairAlike own own') :
    ∃ d, tableOfPairs own' = some d ∧ SameAs (.table es) d := by
  obtain ⟨d, hd, hsame⟩ := assemble_told h hown .nil
  refine ⟨d, ?_, hsame⟩
  rw [← hd, tableOfPairs, assemble]
  rfl

end Told

end CrudStack.Toml
