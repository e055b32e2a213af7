/-
# `CrudStack.Proofs.Toml.Distinct` — a TOML document has no key twice

However the statements of a text are spread, no table that comes out of it has two entries of one
key (`distinctKeys_of_parse`).  Each statement keeps that up, for the item that it changes and for
the table around it.
-/
import CrudStack.Proofs.Toml.Entries
import CrudStack.Toml.Parse

namespace CrudStack

/-! ## Documents -/

mutual

/-- No table of a document has two entries of one key. -/
def Document.DistinctKeys : Document → Prop
  | .list ds => ItemsDistinctKeys ds
  | .table es => (es.map (·.1)).Nodup ∧ EntriesDistinctKeys es
  | _ => True

/-- The same for the elements of a list. -/
def ItemsDistinctKeys : List Document → Prop
  | [] => True
  | d :: ds => d.DistinctKeys ∧ ItemsDistinctKeys ds

/-- The same for the entries of a table. -/
def EntriesDistinctKeys : List (String × Document) → Prop
  | [] => True
  | (_, d) :: es => d.DistinctKeys ∧ EntriesDistinctKeys es

end

theorem itemsDistinctKeys_iff {ds : List Document} :
    ItemsDistinctKeys ds ↔ ∀ d ∈ ds, d.DistinctKeys := by
  induction ds with
  | nil => simp [ItemsDistinctKeys]
  | cons d ds ih => rw [ItemsDistinctKeys, List.forall_mem_cons, ih]

theorem entriesDistinctKeys_iff {es : List (String × Document)} :
    EntriesDistinctKeys es ↔ ∀ e ∈ es, e.2.DistinctKeys := by
  induction es with
  | nil => simp [EntriesDistinctKeys]
  | cons e es ih => rw [EntriesDistinctKeys, List.forall_mem_cons, ih]

namespace Toml

/-! ## Tables under construction -/

/-- A table under construction has no key twice, however deep. -/
def Distinct (es : Entries) : Prop := (Document.table (entriesDocument es)).DistinctKeys

/-- The values of pairs have no key twice. -/
def PairsDistinct (pairs : List (List String × Document)) : Prop := ∀ p ∈ pairs, p.2.DistinctKeys

/-- Neither has what a statement puts at the end of its path. -/
def Addition.Distinct : Addition → Prop
  | .value v => v.DistinctKeys
  | .header _ pairs => PairsDistinct pairs

theorem entriesDocument_eq_map (es : Entries) :
    entriesDocument es = es.map fun e => (e.1, e.2.document) := by
  induction es with
  | nil => rfl
  | cons e es ih => rw [entriesDocument, List.map_cons, ih]

theorem elementsDocument_eq_map (elements : List Entries) :
    elementsDocument elements = elements.map fun es => .table (entriesDocument es) := by
  induction elements with
  | nil => rfl
  | cons es elements ih => rw [elementsDocument, List.map_cons, ih]

theorem keys_entriesDocument (es : Entries) :
    (entriesDocument es).map (·.1) = es.map (·.1) := by
  rw [entriesDocument_eq_map, List.map_map]
  rfl

theorem distinct_iff {es : Entries} :
    Distinct es ↔ (es.map (·.1)).Nodup ∧ ∀ e ∈ es, e.2.document.DistinctKeys := by
  rw [Distinct, Document.DistinctKeys, keys_entriesDocument, entriesDistinctKeys_iff,
    entriesDocument_eq_map, List.forall_mem_map]

theorem distinct_tables {elements : List Entries} :
    (Item.tables elements).document.DistinctKeys ↔ ∀ es ∈ elements, Distinct es := by
  rw [Item.document, Document.DistinctKeys, itemsDistinctKeys_iff, elementsDocument_eq_map,
    List.forall_mem_map]
  rfl

theorem distinct_nil : Distinct [] := distinct_iff.mpr ⟨List.nodup_nil, nofun⟩

theorem Puts.distinct {key : String} {item : Item} {es es' : Entries} (h : Puts key item es es')
    (hes : Distinct es) (hitem : item.document.DistinctKeys) : Distinct es' := by
  obtain ⟨hnodup, hall⟩ := distinct_iff.mp hes
  refine distinct_iff.mpr ⟨h.nodup hnodup, fun e he => ?_⟩
  obtain rfl | he := h.mem e he
  · exact hitem
  · exact hall e he

/-- The last element of a list of tables is replaced by one that has no key twice. -/
theorem distinct_replaceLast {elements : List Entries} {last : Entries}
    (h : ∀ es ∈ elements, Distinct es) (hlast : Distinct last) :
    (Item.tables (elements.dropLast ++ [last])).document.DistinctKeys :=
  distinct_tables.mpr fun es hes => by
    obtain hes | hes := List.mem_append.mp hes
    · exact h es (List.dropLast_subset _ hes)
    · exact (List.mem_singleton.mp hes) ▸ hlast

/-! ## Statements -/

/-- What a kind of step keeps up. -/
def Keeps (step : Entries → Option Entries) : Prop :=
  ∀ ⦃es es'⦄, step es = some es' → Distinct es → Distinct es'

section Steps

variable {a : Addition}

theorem keeps_foldlM {A : Type} {step : Entries → A → Option Entries} {as : List A}
    (h : ∀ x ∈ as, Keeps fun es => step es x) : Keeps fun es => as.foldlM step es := by
  induction as with
  | nil =>
      intro es es' heq hes
      cases heq
      exact hes
  | cons x as ih =>
      intro es es' heq hes
      obtain ⟨es₁, hfirst, hrest⟩ := Option.bind_eq_some_iff.mp heq
      exact ih (fun x hx => h x (List.mem_cons_of_mem _ hx)) hrest
        (h x List.mem_cons_self hfirst hes)

theorem distinct_passed {path : List String} {old : Option Item} {item : Item}
    (hstep : ∀ inside dotted, Keeps (a.add inside dotted path))
    (hold : ∀ i, old = some i → i.document.DistinctKeys)
    (h : a.passed path old = some item) : item.document.DistinctKeys := by
  rcases old with - | v | ⟨implicit, dotted, sub⟩ | elements
  · obtain ⟨sub, hsub, rfl⟩ := Option.map_eq_some_iff.mp h
    exact hstep _ _ hsub distinct_nil
  · cases h
  · rw [Addition.passed] at h
    split at h
    · cases h
    · obtain ⟨sub', hsub, rfl⟩ := Option.map_eq_some_iff.mp h
      exact hstep _ _ hsub (hold _ rfl)
  · have hall := distinct_tables.mp (hold _ rfl)
    rw [Addition.passed] at h
    cases hlast : elements.getLast? with
    | none =>
        rw [hlast] at h
        cases h
    | some last =>
        rw [hlast] at h
        obtain ⟨last', hsub, rfl⟩ := Option.map_eq_some_iff.mp h
        exact distinct_replaceLast hall
          (hstep _ _ hsub (hall last (List.mem_of_getLast? hlast)))

theorem distinct_placed {old : Option Item} {item : Item}
    (hpairs : ∀ isElement pairs, a = .header isElement pairs → Keeps (addPairs pairs))
    (ha : a.Distinct) (hold : ∀ i, old = some i → i.document.DistinctKeys)
    (h : a.placed old = some item) : item.document.DistinctKeys := by
  unfold Addition.placed at h
  split at h
  · cases h
    exact ha
  · cases h
  · obtain ⟨sub, hsub, rfl⟩ := Option.map_eq_some_iff.mp h
    exact hpairs _ _ rfl hsub distinct_nil
  · obtain ⟨sub, hsub, rfl⟩ := Option.map_eq_some_iff.mp h
    exact hpairs _ _ rfl hsub (hold _ rfl)
  · cases h
  · obtain ⟨sub, hsub, rfl⟩ := Option.map_eq_some_iff.mp h
    exact distinct_tables.mpr fun es hes =>
      (List.mem_singleton.mp hes) ▸ hpairs _ _ rfl hsub distinct_nil
  · obtain ⟨sub, hsub, rfl⟩ := Option.map_eq_some_iff.mp h
    refine distinct_tables.mpr fun es hes => ?_
    obtain hes | hes := List.mem_append.mp hes
    · exact distinct_tables.mp (hold _ rfl) es hes
    · exact (List.mem_singleton.mp hes) ▸ hpairs _ _ rfl hsub distinct_nil
  · cases h

theorem keeps_add (hpairs : ∀ isElement pairs, a = .header isElement pairs → Keeps (addPairs pairs))
    (ha : a.Distinct) (path : List String) (inside dotted : Bool) :
    Keeps (a.add inside dotted path) := by
  induction path generalizing inside dotted with
  | nil =>
      intro es es' h
      rw [Addition.add_nil] at h
      cases h
  | cons key path ih =>
      intro es es' h hes
      rw [Addition.add_cons] at h
      split at h
      · cases h
      · obtain ⟨item, hitem, rfl⟩ := Option.map_eq_some_iff.mp h
        have hold : ∀ i, es.lookup key = some i → i.document.DistinctKeys := fun i hi =>
          (distinct_iff.mp hes).2 _ (Lookup.mem_of_lookup hi)
        refine (Addition.puts_settle a path key item es).distinct hes ?_
        cases path with
        | nil => exact distinct_placed hpairs ha hold hitem
        | cons part path => exact distinct_passed ih hold hitem

theorem keeps_addPairs {pairs : List (List String × Document)} (h : PairsDistinct pairs) :
    Keeps (addPairs pairs) :=
  keeps_foldlM fun p hp =>
    keeps_add (a := .value p.2) (fun _ _ heq => nomatch heq) (h p hp) p.1 false false

theorem keeps_addSection {s : Section} (h : PairsDistinct s.pairs) :
    Keeps fun es => addSection es s :=
  keeps_add (a := .header s.isElement s.pairs)
    (fun _ _ heq => by cases heq; exact keeps_addPairs h) h s.path false false

end Steps

theorem distinctKeys_of_tableOfPairs {pairs : List (List String × Document)} {d : Document}
    (h : tableOfPairs pairs = some d) (hpairs : PairsDistinct pairs) : d.DistinctKeys := by
  obtain ⟨es, hes, h⟩ := Option.bind_eq_some_iff.mp h
  cases h
  exact keeps_addPairs hpairs hes distinct_nil

theorem distinctKeys_of_assemble {pairs : List (List String × Document)} {sections : List Section}
    {d : Document} (h : assemble pairs sections = some d) (hpairs : PairsDistinct pairs)
    (hsections : ∀ s ∈ sections, PairsDistinct s.pairs) : d.DistinctKeys := by
  obtain ⟨es, hes, h⟩ := Option.bind_eq_some_iff.mp h
  obtain ⟨es', hes', h⟩ := Option.bind_eq_some_iff.mp h
  cases h
  exact keeps_foldlM (fun s hs => keeps_addSection (hsections s hs)) hes'
    (keeps_addPairs hpairs hes distinct_nil)

/-! ## Values -/

/-- What is read has no key twice. -/
def ReadsDistinct (element : Reader) : Prop :=
  ∀ ⦃cs d rest⦄, element cs = some (d, rest) → d.DistinctKeys

section Readers

variable {element : Reader} {fuel : Nat} {cs rest : List Char}

theorem distinctKeys_of_listItems (he : ReadsDistinct element) {ds : List Document}
    (h : listItems element fuel cs = some (ds, rest)) : ItemsDistinctKeys ds := by
  induction fuel generalizing cs ds rest with
  | zero => cases h
  | succ fuel ih =>
      obtain ⟨cs₁, -, h⟩ := Option.bind_eq_some_iff.mp h
      split at h
      · cases h
        trivial
      · obtain ⟨⟨d, cs₂⟩, hd, h⟩ := Option.bind_eq_some_iff.mp h
        obtain ⟨cs₃, -, h⟩ := Option.bind_eq_some_iff.mp h
        split at h
        · obtain ⟨⟨others, cs₄⟩, hothers, h⟩ := Option.bind_eq_some_iff.mp h
          cases h
          exact ⟨he hd, ih hothers⟩
        · cases h
          exact ⟨he hd, trivial⟩
        · cases h

theorem distinctKeys_of_pair (he : ReadsDistinct element) {p : List String × Document}
    (h : pair element cs = some (p, rest)) : p.2.DistinctKeys := by
  obtain ⟨⟨path, cs₁⟩, -, h⟩ := Option.bind_eq_some_iff.mp h
  obtain ⟨cs₂, -, h⟩ := Option.bind_eq_some_iff.mp h
  obtain ⟨⟨d, cs₃⟩, hd, h⟩ := Option.bind_eq_some_iff.mp h
  cases h
  exact he hd

theorem pairsDistinct_cons {p : List String × Document} {ps : List (List String × Document)} :
    PairsDistinct (p :: ps) ↔ p.2.DistinctKeys ∧ PairsDistinct ps := List.forall_mem_cons

theorem distinctKeys_of_inlinePairs (he : ReadsDistinct element)
    {pairs : List (List String × Document)}
    (h : inlinePairs element fuel cs = some (pairs, rest)) : PairsDistinct pairs := by
  induction fuel generalizing cs pairs rest with
  | zero => cases h
  | succ fuel ih =>
      obtain ⟨⟨p, cs₁⟩, hp, h⟩ := Option.bind_eq_some_iff.mp h
      have hfirst := distinctKeys_of_pair he hp
      simp only at h
      split at h
      · obtain ⟨⟨others, cs₂⟩, hothers, h⟩ := Option.bind_eq_some_iff.mp h
        cases h
        exact pairsDistinct_cons.mpr ⟨hfirst, ih hothers⟩
      · cases h
        exact pairsDistinct_cons.mpr ⟨hfirst, nofun⟩
      · cases h

theorem distinctKeys_of_inlineTable (he : ReadsDistinct element) :
    ReadsDistinct (inlineTable element) := by
  intro cs d rest h
  rw [inlineTable] at h
  split at h
  · cases h
    exact ⟨List.nodup_nil, trivial⟩
  · obtain ⟨⟨pairs, cs₁⟩, hpairs, h⟩ := Option.bind_eq_some_iff.mp h
    obtain ⟨t, ht, h⟩ := Option.bind_eq_some_iff.mp h
    cases h
    exact distinctKeys_of_tableOfPairs ht (distinctKeys_of_inlinePairs he hpairs)

end Readers

/-! ## Single values and whole texts -/

theorem distinctKeys_of_doubleOf {negative : Bool} {whole fraction : List Char} {power : Int}
    {d : Document} (h : doubleOf negative whole fraction power = some d) : d.DistinctKeys := by
  rw [doubleOf] at h
  split at h <;> cases h
  trivial

theorem distinctKeys_of_integerOf {negative : Bool} {whole : List Char} {d : Document}
    (h : integerOf negative whole = some d) : d.DistinctKeys := by
  simp only [integerOf] at h
  split at h <;> split at h <;> cases h <;> trivial

theorem readsDistinct_unsignedDecimal (negative : Bool) :
    ReadsDistinct (unsignedDecimal negative) := by
  intro cs d rest h
  obtain ⟨⟨whole, cs₁⟩, -, h⟩ := Option.bind_eq_some_iff.mp h
  have hdouble : ∀ {fraction power rest'},
      (do return (← doubleOf negative whole fraction power, rest')) = some (d, rest) →
        d.DistinctKeys := fun h => by
    obtain ⟨x, hx, h⟩ := Option.bind_eq_some_iff.mp h
    cases h
    exact distinctKeys_of_doubleOf hx
  simp only at h
  split at h
  · obtain ⟨⟨fraction, cs₂⟩, -, h⟩ := Option.bind_eq_some_iff.mp h
    simp only at h
    split at h
    · obtain ⟨_, -, h⟩ := Option.bind_eq_some_iff.mp h
      exact hdouble h
    · obtain ⟨_, -, h⟩ := Option.bind_eq_some_iff.mp h
      exact hdouble h
    · exact hdouble h
  · obtain ⟨_, -, h⟩ := Option.bind_eq_some_iff.mp h
    exact hdouble h
  · obtain ⟨_, -, h⟩ := Option.bind_eq_some_iff.mp h
    exact hdouble h
  · obtain ⟨i, hi, h⟩ := Option.bind_eq_some_iff.mp h
    cases h
    exact distinctKeys_of_integerOf hi

theorem readsDistinct_markedInteger (base : Nat) (isDigit : Char → Bool) :
    ReadsDistinct (markedInteger base isDigit) := by
  intro cs d rest h
  obtain ⟨_, -, h⟩ := Option.bind_eq_some_iff.mp h
  simp only at h
  split at h <;> cases h
  trivial

theorem readsDistinct_number : ReadsDistinct number := by
  intro cs d rest h
  unfold number at h
  split at h
  · exact readsDistinct_markedInteger _ _ h
  · exact readsDistinct_markedInteger _ _ h
  · exact readsDistinct_markedInteger _ _ h
  · generalize sign _ = signed at h
    obtain ⟨negative, cs₁⟩ := signed
    simp only at h
    split at h
    · cases h
      trivial
    · cases h
      trivial
    · exact readsDistinct_unsignedDecimal _ h

theorem readsDistinct_dateTime : ReadsDistinct dateTime := by
  intro cs d rest h
  have hspelled : ∀ {key : String} {s : String},
      (Document.table [(key, .text s)]).DistinctKeys :=
    ⟨List.nodup_singleton _, trivial, trivial⟩
  unfold dateTime at h
  split at h
  · cases h
    exact hspelled
  · obtain ⟨_, -, h⟩ := Option.bind_eq_some_iff.mp h
    cases h
    exact hspelled

theorem readsDistinct_scalar : ReadsDistinct scalar := by
  intro cs d rest h
  unfold scalar at h
  split at h
  · cases h
    trivial
  · cases h
    trivial
  · obtain ⟨_, -, h⟩ := Option.map_eq_some_iff.mp h
    cases h
    trivial
  · obtain ⟨_, -, h⟩ := Option.map_eq_some_iff.mp h
    cases h
    trivial
  · split at h
    · next found hfound =>
        cases h
        exact readsDistinct_dateTime hfound
    · exact readsDistinct_number h

/-- A value has no key twice, by induction on the levels that are left. -/
theorem readsDistinct_value (levels : Nat) : ReadsDistinct (value levels) := by
  induction levels with
  | zero =>
      intro cs d rest h
      rw [value.eq_def] at h
      simp only at h
      split at h
      · cases h
      · cases h
      · exact readsDistinct_scalar h
  | succ levels ih =>
      intro cs d rest h
      rw [value.eq_def] at h
      simp only at h
      split at h
      · obtain ⟨⟨items, cs₁⟩, hitems, h⟩ := Option.bind_eq_some_iff.mp h
        cases h
        exact distinctKeys_of_listItems ih hitems
      · exact distinctKeys_of_inlineTable ih h
      · exact readsDistinct_scalar h

/-- The value of a statement has no key twice. -/
def StatementDistinct : Statement → Prop
  | .header _ _ => True
  | .pair _ d => d.DistinctKeys

theorem distinct_of_header {cs rest : List Char} {s : Statement}
    (h : header cs = some (s, rest)) : StatementDistinct s := by
  unfold header at h
  split at h
  · obtain ⟨_, -, h⟩ := Option.bind_eq_some_iff.mp h
    obtain ⟨_, -, h⟩ := Option.bind_eq_some_iff.mp h
    obtain ⟨_, -, h⟩ := Option.bind_eq_some_iff.mp h
    cases h
    trivial
  · obtain ⟨_, -, h⟩ := Option.bind_eq_some_iff.mp h
    obtain ⟨_, -, h⟩ := Option.bind_eq_some_iff.mp h
    cases h
    trivial

theorem distinct_of_statements {fuel : Nat} {cs : List Char} {ss : List Statement}
    (h : statements fuel cs = some ss) : ∀ s ∈ ss, StatementDistinct s := by
  induction fuel generalizing cs ss with
  | zero => cases h
  | succ fuel ih =>
      rw [statements] at h
      split at h
      · cases h
        exact nofun
      · obtain ⟨_, -, h⟩ := Option.bind_eq_some_iff.mp h
        exact ih h
      · exact ih h
      · exact ih h
      · obtain ⟨⟨first, cs₁⟩, hfirst, h⟩ := Option.bind_eq_some_iff.mp h
        obtain ⟨_, -, h⟩ := Option.bind_eq_some_iff.mp h
        obtain ⟨others, hothers, h⟩ := Option.bind_eq_some_iff.mp h
        cases h
        exact List.forall_mem_cons.mpr ⟨distinct_of_header hfirst, ih hothers⟩
      · obtain ⟨⟨p, cs₁⟩, hp, h⟩ := Option.bind_eq_some_iff.mp h
        obtain ⟨_, -, h⟩ := Option.bind_eq_some_iff.mp h
        obtain ⟨others, hothers, h⟩ := Option.bind_eq_some_iff.mp h
        cases h
        exact List.forall_mem_cons.mpr
          ⟨distinctKeys_of_pair (readsDistinct_value levelLimit) hp, ih hothers⟩

theorem distinct_sectionsOf {ss : List Statement} (h : ∀ s ∈ ss, StatementDistinct s) :
    PairsDistinct (sectionsOf ss).1 ∧ ∀ s ∈ (sectionsOf ss).2, PairsDistinct s.pairs := by
  induction ss with
  | nil => exact ⟨nofun, nofun⟩
  | cons s ss ih =>
      obtain ⟨hs, hss⟩ := List.forall_mem_cons.mp h
      obtain ⟨hpairs, hsections⟩ := ih hss
      cases s with
      | header isElement path => exact ⟨nofun, List.forall_mem_cons.mpr ⟨hpairs, hsections⟩⟩
      | pair path d => exact ⟨pairsDistinct_cons.mpr ⟨hs, hpairs⟩, hsections⟩

/-- A TOML text says a table. -/
theorem parse_table {text : String} {d : Document} (h : parse text = some d) :
    ∃ es, d = .table es := by
  obtain ⟨_, -, h⟩ := Option.bind_eq_some_iff.mp h
  obtain ⟨_, -, h⟩ := Option.bind_eq_some_iff.mp h
  obtain ⟨_, -, h⟩ := Option.bind_eq_some_iff.mp h
  cases h
  exact ⟨_, rfl⟩

/-- A document that a TOML text says has no key twice. -/
theorem distinctKeys_of_parse {text : String} {d : Document} (h : parse text = some d) :
    d.DistinctKeys := by
  obtain ⟨ss, hss, h⟩ := Option.bind_eq_some_iff.mp h
  obtain ⟨hpairs, hsections⟩ := distinct_sectionsOf (distinct_of_statements hss)
  exact distinctKeys_of_assemble h hpairs hsections

end Toml

end CrudStack
