/-
# `CrudStack.Proofs.Toml.Parsed` — the texts of a table are read

Whatever the grammar gives as the text of a table is read, as a document with the data of the table,
as long as the table has no more levels than the reader allows.  For each kind of thing that has
texts it is said what its reader finds in front of any rest (`ValueFound` and its companions), and
every rule of the grammar keeps that up.
-/
import CrudStack.Proofs.Toml.Assembled
import CrudStack.Proofs.Toml.Integer
import CrudStack.Proofs.Toml.Levels
import CrudStack.Proofs.Toml.Lexed

namespace CrudStack.Toml

open Text (Stops)

/-! ## What a reader finds -/

/-- A value begins with a character that nothing between the elements of a list begins with, and
that does not close a list. -/
def StartsValue (own : List Char) : Prop :=
  own ≠ [] ∧ StartsToken own ∧ own.head? ≠ some ']'

/-- In front of whatever may come behind a value, it is read. -/
structure ValueFound (d : Document) (own : List Char) : Prop where
  starts : StartsValue own
  found : ∀ {levels rest}, d.levels ≤ levels → levels ≤ levelLimit → EndsValue rest →
    ∃ d', value levels (own ++ rest) = some (d', rest) ∧ SameAs d d'

/-- In front of any text, the elements of a list are read with its closing bracket. -/
def ItemsFound (ds : List Document) (inside : List Char) : Prop :=
  ∀ {levels fuel} (rest), itemsLevels ds ≤ levels → levels ≤ levelLimit → inside.length < fuel →
    ∃ ds', listItems (value levels) fuel (inside ++ rest) = some (ds', rest) ∧ ItemsSame ds ds'

/-- A pair is read, whatever blanks are in front of it. -/
structure PairFound (p : Pair) (own : List Char) : Prop where
  path : p.1 ≠ []
  starts : StartsKey 1 own
  found : ∀ {levels cs rest}, p.1.length < keyLimit → p.2.levels ≤ levels → levels ≤ levelLimit →
    EndsValue rest → skipBlanks cs = skipBlanks (own ++ rest) →
    ∃ d', pair (value levels) cs = some ((p.1, d'), rest) ∧ SameAs p.2 d'

/-- The pairs of an inline table are read with its closing brace. -/
structure PairsFound (ps : List Pair) (inside : List Char) : Prop where
  paths : ∀ p ∈ ps, p.1 ≠ []
  starts : StartsKey ps.length inside
  found : ∀ {levels fuel cs} (rest), (∀ p ∈ ps, p.1.length < keyLimit ∧ p.2.levels ≤ levels) →
    levels ≤ levelLimit → ps.length < fuel → skipBlanks cs = skipBlanks (inside ++ rest) →
    ∃ ps', inlinePairs (value levels) fuel cs = some (ps', rest) ∧ List.Forall₂ PairAlike ps ps'

/-! ## Single values -/

section Values

variable {levels : Nat} {c : Char} {own rest : List Char}

theorem value_scalar (hlist : c ≠ '[') (htable : c ≠ '\x7b') (cs : List Char) :
    value levels (c :: cs) = scalar (c :: cs) := by
  cases levels with
  | zero =>
      rw [value]
      · rintro _ ⟨⟩
        exact hlist rfl
      · rintro _ ⟨⟩
        exact htable rfl
  | succ levels =>
      rw [value]
      · rintro _ ⟨⟩
        exact hlist rfl
      · rintro _ ⟨⟩
        exact htable rfl

theorem startsValue_cons (h : isBlank c = false ∧ c ≠ '\n' ∧ c ≠ '\r' ∧ c ≠ '#' ∧ c ≠ ']')
    (tail : List Char) : StartsValue (c :: tail) :=
  ⟨List.cons_ne_nil _ _, startsToken_cons.mpr ⟨h.1, h.2.1, h.2.2.1, h.2.2.2.1⟩,
    fun heq => h.2.2.2.2 (Option.some.inj heq)⟩

theorem EndsValue.string (h : EndsValue rest) : EndsString rest :=
  ⟨over_ne h.over (by decide), over_ne h.over (by decide)⟩

theorem stringSpelled_head {s : String} {cs : List Char} (h : StringSpelled s cs) :
    ∃ quote tail, cs = quote :: tail ∧ (quote = '"' ∨ quote = '\'') := by
  cases h with
  | short h => exact shortSpelled_head h
  | longBasic => exact ⟨_, _, rfl, .inl rfl⟩
  | longLiteral => exact ⟨_, _, rfl, .inr rfl⟩

theorem found_text {s : String} (h : StringSpelled s own) : ValueFound (.text s) own := by
  obtain ⟨quote, tail, rfl, hquote⟩ := stringSpelled_head h
  refine ⟨startsValue_cons ?_ tail, fun {levels rest} _ _ hrest => ?_⟩
  · obtain rfl | rfl := hquote <;> decide
  · have hstring := string_append h hrest.string
    refine ⟨.text s, ?_, rfl⟩
    rw [List.cons_append] at hstring ⊢
    obtain rfl | rfl := hquote
    · rw [value_scalar (by decide) (by decide), scalar, hstring]
      rfl
    · rw [value_scalar (by decide) (by decide), scalar, hstring]
      rfl

theorem found_yes : ValueFound (.bool true) ['t', 'r', 'u', 'e'] :=
  ⟨startsValue_cons (by decide) _, fun _ _ _ => ⟨.bool true, value_scalar (by decide) (by decide) _,
    rfl⟩⟩

theorem found_no : ValueFound (.bool false) ['f', 'a', 'l', 's', 'e'] :=
  ⟨startsValue_cons (by decide) _, fun _ _ _ =>
    ⟨.bool false, value_scalar (by decide) (by decide) _,
    rfl⟩⟩

theorem found_integer {i : Int} (h : IntegerSpelled i own) : ValueFound (.integer i) own := by
  obtain ⟨c, tail, rfl, hc⟩ := integer_head h
  have hne : ∀ d, Text.isAsciiDigit d = false → d ≠ '+' → d ≠ '-' → c ≠ d := by
    rintro d hd hplus hminus rfl
    rcases hc with hc | hc | hc
    · rw [hc] at hd
      cases hd
    · exact hplus hc
    · exact hminus hc
  have hblank : isBlank c = false := by
    rw [← Bool.not_eq_true, isBlank_iff, not_or]
    exact ⟨hne ' ' (by decide) (by decide) (by decide),
      hne '\t' (by decide) (by decide) (by decide)⟩
  refine ⟨startsValue_cons ⟨hblank, ?_⟩ tail, fun {levels rest} _ _ hrest => ?_⟩
  · refine ⟨?_, ?_, ?_, ?_⟩ <;> exact hne _ (by decide) (by decide) (by decide)
  · obtain ⟨hdate, hnumber⟩ := number_append h hrest.over
    refine ⟨.integer i, ?_, rfl⟩
    rw [List.cons_append] at hdate hnumber ⊢
    rw [value_scalar (hne _ (by decide) (by decide) (by decide))
      (hne _ (by decide) (by decide) (by decide)), scalar.eq_def]
    split
    · next heq => exact absurd (List.cons.inj heq).1 (hne _ (by decide) (by decide) (by decide))
    · next heq => exact absurd (List.cons.inj heq).1 (hne _ (by decide) (by decide) (by decide))
    · next heq => exact absurd (List.cons.inj heq).1 (hne _ (by decide) (by decide) (by decide))
    · next heq => exact absurd (List.cons.inj heq).1 (hne _ (by decide) (by decide) (by decide))
    · rw [hdate]
      exact hnumber

end Values

/-! ## Lists -/

section Lists

variable {d : Document} {ds : List Document} {before own after rest inside : List Char}

theorem found_list (h : ItemsFound ds inside) : ValueFound (.list ds) ('[' :: inside) := by
  refine ⟨startsValue_cons (by decide) _, fun {levels rest} hlevels hlimit _ => ?_⟩
  rw [Document.levels] at hlevels
  obtain ⟨levels, rfl⟩ := Nat.exists_eq_add_one.mpr (Nat.zero_lt_of_lt hlevels)
  have hfuel : inside.length < (inside ++ rest).length + 1 := by
    rw [List.length_append]
    omega
  obtain ⟨ds', hfound, hsame⟩ :=
    h rest (Nat.le_of_succ_le_succ hlevels) (Nat.le_of_succ_le hlimit) hfuel
  refine ⟨.list ds', ?_, ds', rfl, hsame⟩
  rw [List.cons_append, value, hfound]
  rfl

/-- What is read behind an element of a list. -/
def listRest (element : Reader) (fuel : Nat) (first : Document) :
    List Char → Option (List Document × List Char)
  | ',' :: rest => do
    let (others, rest) ← listItems element fuel rest
    return (first :: others, rest)
  | ']' :: rest => return ([first], rest)
  | _ => none

theorem endsValue_filler (h : Filler after) (hrest : EndsValue rest) :
    EndsValue (after ++ rest) := by
  cases h with
  | nil => exact hrest
  | blank hc =>
      obtain rfl | rfl := isBlank_iff.mp hc <;> exact endsValue_cons.mpr (by decide)
  | lineBreak hnl => cases hnl <;> exact endsValue_cons.mpr (by decide)
  | comment => exact endsValue_cons.mpr (by decide)

/-- An element is read, and what is behind it up to the next comma or bracket is passed. -/
theorem listItems_element (hbefore : Filler before) (hown : ValueFound d own)
    (hafter : Filler after) {levels : Nat} (hlevels : d.levels ≤ levels)
    (hlimit : levels ≤ levelLimit)
    (rest : List Char) (hrest : StartsToken rest) (hends : EndsValue rest) (fuel : Nat) :
    ∃ d', SameAs d d' ∧ listItems (value levels) (fuel + 1) (before ++ (own ++ (after ++ rest))) =
      listRest (value levels) fuel d' rest := by
  obtain ⟨⟨hne, htoken, hclose⟩, hfound⟩ := hown
  obtain ⟨d', hd', hsame⟩ := hfound hlevels hlimit (endsValue_filler hafter hends)
  obtain ⟨c, tail, rfl⟩ := List.exists_cons_of_ne_nil hne
  have hstart : StartsToken (c :: tail ++ (after ++ rest)) :=
    startsToken_cons.mpr (startsToken_cons.mp htoken)
  refine ⟨d', hsame, ?_⟩
  rw [listItems, filler_append hbefore hstart]
  simp only [Option.bind_eq_bind, Option.bind_some]
  split
  · next heq => exact absurd (by rw [(List.cons.inj heq).1]; rfl) hclose
  · rw [hd']
    simp only [Option.bind_some, filler_append hafter hrest]
    rfl

theorem found_close (hbefore : Filler before) : ItemsFound [] (before ++ [']']) := by
  intro levels fuel rest _ _ hfuel
  obtain ⟨fuel, rfl⟩ := Nat.exists_eq_add_one.mpr (Nat.zero_lt_of_lt hfuel)
  refine ⟨[], ?_, rfl⟩
  rw [List.append_assoc, List.singleton_append, listItems,
    filler_append hbefore (startsToken_cons.mpr (by decide))]
  rfl

theorem found_lastItem (hbefore : Filler before) (hown : ValueFound d own) (hafter : Filler after) :
    ItemsFound [d] (before ++ (own ++ (after ++ [']']))) := by
  intro levels fuel rest hlevels hlimit hfuel
  rw [itemsLevels] at hlevels
  obtain ⟨fuel, rfl⟩ := Nat.exists_eq_add_one.mpr (Nat.zero_lt_of_lt hfuel)
  obtain ⟨d', hsame, heq⟩ := listItems_element hbefore hown hafter
    (Nat.le_trans (Nat.le_max_left _ _) hlevels) hlimit (']' :: rest)
    (startsToken_cons.mpr (by decide))
    (endsValue_cons.mpr (by decide)) fuel
  refine ⟨[d'], ?_, d', [], rfl, hsame, rfl⟩
  simp only [List.append_assoc, List.singleton_append]
  exact heq

theorem found_moreItems (hbefore : Filler before) (hown : ValueFound d own) (hafter : Filler after)
    (hmore : ItemsFound ds rest) :
    ItemsFound (d :: ds) (before ++ (own ++ (after ++ ',' :: rest))) := by
  intro levels fuel rest' hlevels hlimit hfuel
  rw [itemsLevels] at hlevels
  obtain ⟨fuel, rfl⟩ := Nat.exists_eq_add_one.mpr (Nat.zero_lt_of_lt hfuel)
  obtain ⟨d', hsame, heq⟩ := listItems_element hbefore hown hafter
    (Nat.le_trans (Nat.le_max_left _ _) hlevels) hlimit (',' :: (rest ++ rest'))
    (startsToken_cons.mpr (by decide)) (endsValue_cons.mpr (by decide)) fuel
  have hshorter : rest.length < fuel := by
    simp only [List.length_append, List.length_cons] at hfuel
    omega
  obtain ⟨ds', hds', hsames⟩ := hmore rest'
    (Nat.le_trans (Nat.le_max_right _ _) hlevels) hlimit hshorter
  refine ⟨d' :: ds', ?_, d', ds', rfl, hsame, hsames⟩
  simp only [List.append_assoc, List.cons_append]
  rw [heq, listRest, hds']
  rfl

end Lists

/-! ## Inline tables -/

section Tables

variable {d : Document} {es : List (String × Document)} {p : Pair} {ps : List Pair}
  {path : List String} {key blanks own after rest inside : List Char}

theorem found_empty (hblanks : Blanks blanks) :
    ValueFound (.table []) ('\x7b' :: (blanks ++ ['\x7d'])) := by
  refine ⟨startsValue_cons (by decide) _, fun {levels rest} hlevels _ _ => ?_⟩
  obtain ⟨levels, rfl⟩ := Nat.exists_eq_add_one.mpr hlevels
  refine ⟨.table [], ?_, [], rfl, List.Subset.refl _, trivial⟩
  rw [List.cons_append, List.append_assoc, List.singleton_append, value, inlineTable,
    skipBlanks_append hblanks, skipBlanks_of_stops (Text.stops_cons.mpr (by decide))]
  rfl

theorem found_table (hinside : PairsFound ps inside) (hes : EntriesTold es [] ps []) :
    ValueFound (.table es) ('\x7b' :: inside) := by
  refine ⟨startsValue_cons (by decide) _, fun {levels rest} hlevels hlimit _ => ?_⟩
  have hwithin := (entries_within es hes).own
  rw [Document.levels] at hlevels
  obtain ⟨levels, rfl⟩ := Nat.exists_eq_add_one.mpr (Nat.zero_lt_of_lt hlevels)
  obtain ⟨c, tail, hc, hlength, hskip⟩ := hinside.starts
  have hbounds : ∀ p ∈ ps, p.1.length < keyLimit ∧ p.2.levels ≤ levels := by
    intro p hp
    have hpair := hwithin p hp
    have hpath : 0 < p.1.length := List.length_pos_iff.mpr (hinside.paths p hp)
    unfold PairWithin at hpair
    unfold levelLimit at hlimit
    unfold keyLimit
    omega
  have hcs : skipBlanks (c :: (tail ++ rest)) = skipBlanks (inside ++ rest) := by
    rw [hskip, skipBlanks_of_stops (Text.stops_cons.mpr (isBlank_of_isKeyStart hc))]
  have hfuel : ps.length < (c :: (tail ++ rest)).length + 1 := by
    rw [List.length_cons, List.length_append]
    omega
  obtain ⟨ps', hps', halike⟩ := hinside.found rest hbounds (Nat.le_of_succ_le hlimit) hfuel hcs
  obtain ⟨d', hd', hsame⟩ := tableOfPairs_told hes halike
  refine ⟨d', ?_, hsame⟩
  rw [List.cons_append, value, inlineTable, hskip]
  split
  · next heq =>
      obtain rfl := (List.cons.inj heq).1
      exact absurd hc (by decide)
  · rw [hps']
    simp [hd']

theorem found_pair (hkey : KeySpelled path key) (hblanks : Blanks blanks)
    (hown : ValueFound d own) :
    PairFound (path, d) (key ++ '=' :: (blanks ++ own)) := by
  refine ⟨path_ne_nil hkey, ?_, ?_⟩
  · have hpath : 1 ≤ path.length := List.length_pos_iff.mpr (path_ne_nil hkey)
    exact ((key_starts hkey).append (Nat.zero_le _)).mono hpath
  · intro levels cs rest hpath hlevels hlimit hrest hcs
    obtain ⟨d', hd', hsame⟩ := hown.found hlevels hlimit hrest
    refine ⟨d', ?_, hsame⟩
    rw [List.append_assoc, List.cons_append, List.append_assoc] at hcs
    have hends : EndsKey ('=' :: (blanks ++ (own ++ rest))) := fun c hc =>
      .inl (Option.some.inj hc).symm
    have hskip : skipBlanks (blanks ++ (own ++ rest)) = own ++ rest := by
      obtain ⟨hne, htoken, -⟩ := hown.starts
      obtain ⟨c, tail, rfl⟩ := List.exists_cons_of_ne_nil hne
      rw [skipBlanks_append hblanks]
      exact skipBlanks_of_stops (Text.stops_cons.mpr (startsToken_cons.mp htoken).1)
    rw [pair, key_append hkey hpath hends hcs]
    simp [expect, hskip, hd']

theorem endsValue_blanks (h : Blanks after) (hrest : EndsValue rest) :
    EndsValue (after ++ rest) := by
  cases after with
  | nil => exact hrest
  | cons c after =>
      obtain rfl | rfl := isBlank_iff.mp (List.all_eq_true.mp h c List.mem_cons_self) <;>
        exact endsValue_cons.mpr (by decide)

theorem found_lastPair (hp : PairFound p own) (hafter : Blanks after) :
    PairsFound [p] (own ++ (after ++ ['\x7d'])) := by
  refine ⟨List.forall_mem_singleton.mpr hp.path, hp.starts.append (Nat.zero_le _), ?_⟩
  intro levels fuel cs rest hbounds hlimit hfuel hcs
  obtain ⟨fuel, rfl⟩ := Nat.exists_eq_add_one.mpr (Nat.zero_lt_of_lt hfuel)
  obtain ⟨hpath, hlevels⟩ := hbounds p List.mem_cons_self
  rw [List.append_assoc, List.append_assoc, List.singleton_append] at hcs
  obtain ⟨d', hd', hsame⟩ := hp.found hpath hlevels hlimit
    (endsValue_blanks hafter (endsValue_cons.mpr (by decide))) hcs
  refine ⟨[(p.1, d')], ?_, .cons ⟨rfl, hsame⟩ .nil⟩
  rw [inlinePairs, hd']
  simp only [Option.bind_eq_bind, Option.bind_some, skipBlanks_append hafter]
  rw [skipBlanks_of_stops (Text.stops_cons.mpr (by decide))]
  rfl

theorem found_morePairs (hp : PairFound p own) (hafter : Blanks after)
    (hmore : PairsFound ps rest) :
    PairsFound (p :: ps) (own ++ (after ++ ',' :: rest)) := by
  refine ⟨List.forall_mem_cons.mpr ⟨hp.path, hmore.paths⟩, ?_, ?_⟩
  · have hlength := hmore.starts.le_length
    rw [List.length_cons, Nat.add_comm]
    refine hp.starts.append ?_
    rw [List.length_append, List.length_cons]
    omega
  · intro levels fuel cs rest' hbounds hlimit hfuel hcs
    obtain ⟨fuel, rfl⟩ := Nat.exists_eq_add_one.mpr (Nat.zero_lt_of_lt hfuel)
    obtain ⟨⟨hpath, hlevels⟩, hothers⟩ := List.forall_mem_cons.mp hbounds
    rw [List.append_assoc, List.append_assoc, List.cons_append] at hcs
    obtain ⟨d', hd', hsame⟩ := hp.found hpath hlevels hlimit
      (endsValue_blanks hafter (endsValue_cons.mpr (by decide))) hcs
    obtain ⟨ps', hps', halike⟩ :=
      hmore.found rest' hothers hlimit (Nat.lt_of_succ_lt_succ hfuel) rfl
    refine ⟨(p.1, d') :: ps', ?_, .cons ⟨rfl, hsame⟩ halike⟩
    rw [inlinePairs, hd']
    simp only [Option.bind_eq_bind, Option.bind_some, skipBlanks_append hafter]
    rw [skipBlanks_of_stops (Text.stops_cons.mpr (by decide))]
    simp [hps']

end Tables

/-! ## Every rule of the grammar -/

/-- The texts of a value are read. -/
theorem value_found {d : Document} {own : List Char} (h : Spelled d own) : ValueFound d own :=
  @Spelled.rec (fun d own _ => ValueFound d own) (fun ds inside _ => ItemsFound ds inside)
    (fun p own _ => PairFound p own) (fun ps inside _ => PairsFound ps inside)
    found_text found_yes found_no found_integer (fun _ => found_list) found_empty
    (fun _ hes hps => found_table hps hes) found_close
    (fun hbefore _ hafter hown => found_lastItem hbefore hown hafter)
    (fun hbefore _ hafter _ hown hmore => found_moreItems hbefore hown hafter hmore)
    (fun hkey hblanks _ hown => found_pair hkey hblanks hown)
    (fun _ hafter hp => found_lastPair hp hafter)
    (fun _ hafter _ hp hmore => found_morePairs hp hafter hmore) d own h

/-- The texts of a pair are read. -/
theorem pair_found {p : Pair} {own : List Char} (h : PairSpelled p own) : PairFound p own := by
  cases h with
  | pair hkey hblanks hown => exact found_pair hkey hblanks (value_found hown)

/-! ## Statements -/

/-- The same statement with the same data. -/
inductive StatementAlike : Statement → Statement → Prop
  | header {isElement : Bool} {path : List String} :
      StatementAlike (.header isElement path) (.header isElement path)
  | pair {path : List String} {d d' : Document} : SameAs d d' →
      StatementAlike (.pair path d) (.pair path d')

/-- A statement is within the bounds of a reader. -/
def StatementWithin : Statement → Prop
  | .header _ path => path.length < keyLimit
  | .pair path d => path.length < keyLimit ∧ d.levels ≤ levelLimit

section Statements

variable {s : Statement} {ss : List Statement} {path : List String} {d : Document}
  {before own tail nl rest cs key : List Char}

/-- A key does not look like the second bracket of an element. -/
theorem key_head (h : KeySpelled path key) (rest : List Char) : (key ++ rest).head? ≠ some '[' := by
  intro hhead
  obtain ⟨c, tail, hc, -, hskip⟩ := key_starts h
  obtain ⟨more, heq⟩ := List.head?_eq_some_iff.mp hhead
  have hskip := hskip rest
  rw [heq, skipBlanks_of_stops (Text.stops_cons.mpr (by decide))] at hskip
  obtain rfl := (List.cons.inj hskip).1
  exact absurd hc (by decide)

theorem endsKey_close (rest : List Char) : EndsKey (']' :: rest) := fun _ hc =>
  .inr (Option.some.inj hc).symm

theorem header_table (h : KeySpelled path key) (hpath : path.length < keyLimit) (rest : List Char) :
    header (key ++ ']' :: rest) = some (.header false path, rest) := by
  unfold header
  split
  · next heq => exact absurd (congrArg List.head? heq) (key_head h _)
  · rw [key_append h hpath (endsKey_close rest) rfl]
    rfl

theorem header_element (h : KeySpelled path key) (hpath : path.length < keyLimit)
    (rest : List Char) :
    header ('[' :: (key ++ ']' :: ']' :: rest)) = some (.header true path, rest) := by
  rw [header, key_append h hpath (endsKey_close (']' :: rest)) rfl]
  rfl

/-- A statement is read with the end of its line, whatever blanks are in front of it. -/
theorem statement_found (h : StatementSpelled s own) (hs : StatementWithin s)
    (hbefore : Blanks before) {next : List Char} (hends : EndsValue rest)
    (hrest : lineEnd? rest = some next) (fuel : Nat) :
    ∃ s', StatementAlike s s' ∧ statements (fuel + 1) (before ++ (own ++ rest)) =
      (statements fuel next).map (s' :: ·) := by
  cases h with
  | @table path key hkey =>
      refine ⟨_, .header, ?_⟩
      rw [List.cons_append, List.append_assoc, List.singleton_append, statements,
        skipBlanks_append hbefore, skipBlanks_of_stops (Text.stops_cons.mpr (by decide))]
      simp only [header_table hkey hs, hrest, Option.bind_eq_bind, Option.bind_some]
      cases statements fuel next <;> rfl
  | @element path key hkey =>
      refine ⟨_, .header, ?_⟩
      rw [List.cons_append, List.cons_append, List.append_assoc, List.cons_append,
        List.singleton_append, statements, skipBlanks_append hbefore,
        skipBlanks_of_stops (Text.stops_cons.mpr (by decide))]
      simp only [header_element hkey hs, hrest, Option.bind_eq_bind, Option.bind_some]
      cases statements fuel next <;> rfl
  | @pair path d own hpair =>
      have hfound := pair_found hpair
      obtain ⟨c, more, hc, -, hskip⟩ := hfound.starts
      have hcs : skipBlanks (c :: (more ++ rest)) = skipBlanks (own ++ rest) := by
        rw [hskip, skipBlanks_of_stops (Text.stops_cons.mpr (isBlank_of_isKeyStart hc))]
      obtain ⟨d', hd', hsame⟩ := hfound.found hs.1 hs.2 (Nat.le_refl _) hends hcs
      refine ⟨_, .pair hsame, ?_⟩
      rw [statements, skipBlanks_append hbefore, hskip]
      split
      · next heq => cases heq
      · next heq =>
          obtain rfl := (List.cons.inj heq).1
          exact absurd hc (by decide)
      · next heq =>
          obtain rfl := (List.cons.inj heq).1
          exact absurd hc (by decide)
      · next heq =>
          obtain rfl := (List.cons.inj heq).1
          exact absurd hc (by decide)
      · next heq =>
          obtain rfl := (List.cons.inj heq).1
          exact absurd hc (by decide)
      · simp only [hd', hrest, Option.bind_eq_bind, Option.bind_some]
        cases statements fuel next <;> rfl

theorem statementSpelled_ne_nil (h : StatementSpelled s own) : 0 < own.length := by
  cases h with
  | table => exact Nat.zero_lt_succ _
  | element => exact Nat.zero_lt_succ _
  | pair hpair => exact (pair_found hpair).starts.le_length

theorem endsValue_tail (h : LineTail tail) (hrest : EndsValue rest) : EndsValue (tail ++ rest) := by
  cases h with
  | blanks hblanks => exact endsValue_blanks hblanks hrest
  | comment hblanks =>
      rw [List.append_assoc]
      exact endsValue_blanks hblanks (endsValue_cons.mpr (by decide))

theorem endsValue_nil : EndsValue [] := fun _ hc => nomatch hc

theorem endsValue_lineBreak (h : LineBreak nl) (rest : List Char) : EndsValue (nl ++ rest) := by
  cases h <;> exact endsValue_cons.mpr (by decide)

theorem statements_nil (fuel : Nat) : statements (fuel + 1) [] = some [] := rfl

/-- A line without a statement is passed. -/
theorem statements_skip (htail : LineTail tail) (hnl : LineBreak nl) (fuel : Nat) :
    statements (fuel + 1) (tail ++ (nl ++ rest)) = statements fuel rest := by
  obtain ⟨hblank, hplain⟩ := stops_lineBreak hnl rest
  cases htail with
  | blanks hblanks =>
      rw [statements, skipBlanks_append hblanks, skipBlanks_of_stops hblank]
      cases hnl <;> rfl
  | @comment blanks body hblanks hbody =>
      rw [List.append_assoc, List.cons_append, statements, skipBlanks_append hblanks,
        skipBlanks_of_stops (Text.stops_cons.mpr (by decide))]
      simp only [Text.dropWhile_append (List.all_eq_true.mp hbody) hplain,
        lineBreakOrEnd?_append hnl, Option.bind_eq_bind, Option.bind_some]

/-- The last line without a statement ends the text. -/
theorem statements_last (htail : LineTail tail) {fuel : Nat} (hfuel : tail.length < fuel) :
    statements fuel tail = some [] := by
  obtain ⟨fuel, rfl⟩ := Nat.exists_eq_add_one.mpr (Nat.zero_lt_of_lt hfuel)
  cases htail with
  | blanks hblanks =>
      have hskip := skipBlanks_append hblanks []
      rw [List.append_nil] at hskip
      rw [statements, hskip]
      rfl
  | @comment blanks body hblanks hbody =>
      rw [List.length_append, List.length_cons] at hfuel
      obtain ⟨fuel, rfl⟩ := Nat.exists_eq_add_one.mpr (by omega : 0 < fuel)
      have hdrop := Text.dropWhile_append (List.all_eq_true.mp hbody) Text.stops_nil
      rw [List.append_nil] at hdrop
      rw [statements, skipBlanks_append hblanks,
        skipBlanks_of_stops (Text.stops_cons.mpr (by decide))]
      simp only [hdrop]
      rfl

/-- The texts of statements are read. -/
theorem lines_found (h : LinesSpelled ss cs) (hss : ∀ s ∈ ss, StatementWithin s) {fuel : Nat}
    (hfuel : cs.length < fuel) :
    ∃ ss', statements fuel cs = some ss' ∧ List.Forall₂ StatementAlike ss ss' := by
  induction h generalizing fuel with
  | none htail => exact ⟨[], statements_last htail hfuel, .nil⟩
  | @last s before own tail hbefore hs htail =>
      obtain ⟨fuel, rfl⟩ := Nat.exists_eq_add_one.mpr (Nat.zero_lt_of_lt hfuel)
      have hends := endsValue_tail htail endsValue_nil
      rw [List.append_nil] at hends
      obtain ⟨s', hsame, heq⟩ := statement_found hs (hss s List.mem_cons_self) hbefore hends
        (lineEnd?_last htail) fuel
      have hown := statementSpelled_ne_nil hs
      simp only [List.length_append] at hfuel
      obtain ⟨fuel, rfl⟩ := Nat.exists_eq_add_one.mpr (by omega : 0 < fuel)
      refine ⟨[s'], ?_, .cons hsame .nil⟩
      rw [heq, statements_nil]
      rfl
  | @skip ss tail nl rest htail hnl _ ih =>
      obtain ⟨fuel, rfl⟩ := Nat.exists_eq_add_one.mpr (Nat.zero_lt_of_lt hfuel)
      have hlength : 0 < nl.length := by cases hnl <;> exact Nat.zero_lt_succ _
      simp only [List.length_append] at hfuel
      rw [statements_skip htail hnl]
      exact ih hss (by omega)
  | @line s ss before own tail nl rest hbefore hs htail hnl _ ih =>
      obtain ⟨fuel, rfl⟩ := Nat.exists_eq_add_one.mpr (Nat.zero_lt_of_lt hfuel)
      obtain ⟨hfirst, hothers⟩ := List.forall_mem_cons.mp hss
      obtain ⟨s', hsame, heq⟩ := statement_found hs hfirst hbefore
        (endsValue_tail htail (endsValue_lineBreak hnl rest)) (lineEnd?_append htail hnl rest) fuel
      have hown := statementSpelled_ne_nil hs
      simp only [List.length_append] at hfuel
      obtain ⟨ss', hss', hsames⟩ := ih hothers (by omega : rest.length < fuel)
      refine ⟨s' :: ss', ?_, .cons hsame hsames⟩
      rw [heq, hss']
      rfl

end Statements

/-! ## Whole texts -/

section Texts

variable {ss ss' : List Statement} {es : List (String × Document)}

theorem sectionsOf_alike (h : List.Forall₂ StatementAlike ss ss') :
    List.Forall₂ PairAlike (sectionsOf ss).1 (sectionsOf ss').1 ∧
      List.Forall₂ SectionAlike (sectionsOf ss).2 (sectionsOf ss').2 := by
  induction h with
  | nil => exact ⟨.nil, .nil⟩
  | cons hs _ ih =>
      obtain ⟨hpairs, hsections⟩ := ih
      cases hs with
      | header => exact ⟨.nil, .cons ⟨rfl, rfl, hpairs⟩ hsections⟩
      | pair hd => exact ⟨.cons ⟨rfl, hd⟩ hpairs, hsections⟩

/-- Statements whose pairs and sections are within the bounds are so themselves. -/
theorem statementsWithin {bound : Nat} (hbound : bound ≤ levelLimit)
    (hpairs : ∀ p ∈ (sectionsOf ss).1, PairWithin bound p)
    (hsections : ∀ s ∈ (sectionsOf ss).2, SectionWithin bound s) :
    ∀ s ∈ ss, StatementWithin s := by
  have hlimits : levelLimit < keyLimit := by decide
  induction ss with
  | nil => exact nofun
  | cons s ss ih =>
      refine List.forall_mem_cons.mpr ?_
      cases s with
      | header isElement path =>
          obtain ⟨⟨hpath, hown⟩, hothers⟩ := List.forall_mem_cons.mp hsections
          refine ⟨Nat.lt_of_le_of_lt hpath (Nat.lt_of_le_of_lt hbound hlimits), ih ?_ hothers⟩
          exact fun p hp => Nat.le_trans (hown p hp) (Nat.sub_le _ _)
      | pair path d =>
          obtain ⟨hpair, hothers⟩ := List.forall_mem_cons.mp hpairs
          simp only [PairWithin] at hpair
          refine ⟨⟨?_, ?_⟩, ih hothers hsections⟩ <;> omega

/-- A byte order mark is no statement. -/
theorem statements_mark (fuel : Nat) (cs : List Char) :
    statements fuel ('\ufeff' :: cs) = none := by
  cases fuel with
  | zero => rfl
  | succ fuel =>
      have hskip : skipBlanks ('\ufeff' :: cs) = '\ufeff' :: cs :=
        skipBlanks_of_stops (Text.stops_cons.mpr (by decide))
      have hpart : keyPart ('\ufeff' :: cs) = none := by
        have hspan : ('\ufeff' :: cs).span isBareKeyChar = ([], '\ufeff' :: cs) := by
          rw [List.span_eq_takeWhile_dropWhile]
          rfl
        unfold keyPart
        simp only [hspan]
        rfl
      rw [statements, hskip]
      simp [pair, key, keyParts, hskip, hpart]

/-- A text of a table is read as a document with its data, if it has not too many levels. -/
theorem parse_of_isTextOf {text : String} (h : IsTextOf es text)
    (hlevels : (Document.table es).levels ≤ levelLimit) :
    ∃ d, parse text = some d ∧ SameAs (.table es) d := by
  obtain ⟨ss, cs, hlines, htext, hes⟩ := h
  have hwithin := entries_within es hes
  obtain ⟨ss', hss', halike⟩ := lines_found hlines
    (statementsWithin hlevels hwithin.own hwithin.late) (Nat.lt_succ_self _)
  have hmark : skipMark text.toList = cs := by
    obtain htext | htext := htext
    · rw [htext, skipMark.eq_def]
      split
      · rw [statements_mark] at hss'
        cases hss'
      · rfl
    · rw [htext]
      rfl
  obtain ⟨hpairs, hsections⟩ := sectionsOf_alike halike
  obtain ⟨d, hd, hsame⟩ := assemble_told hes hpairs hsections
  refine ⟨d, ?_, hsame⟩
  rw [parse, hmark, hss']
  exact hd

end Texts

end CrudStack.Toml
