/-
# `CrudStack.Proofs.Settings.Override` — texts from variables

In a file a text is a text because it stands between quotes.  A variable has no quotes around it,
and what its text looks like decides what it is: of the words of letters, digits and dots the truth
values, the whole numbers of 64 bits and the decimals with a point are no texts, and a key with a
text refuses them.  Every other word says the same in a variable as in a file (`load_word`).
-/
import CrudStack.Proofs.Settings.Layered
import CrudStack.Proofs.Text.Lowered
import CrudStack.Proofs.Text.Taken

namespace CrudStack.Settings

namespace Environment

/-! ## Words -/

/-- A letter, a digit or a dot of ASCII. -/
def IsWordChar (c : Char) : Prop := Text.isAsciiAlphanumeric c = true ∨ c = '.'

instance (c : Char) : Decidable (IsWordChar c) := inferInstanceAs (Decidable (_ ∨ _))

/-- Letters, digits and dots, at least one. -/
structure IsWord (cs : List Char) : Prop where
  ne_nil : cs ≠ []
  chars : ∀ c ∈ cs, IsWordChar c

/-- Digits, at least one. -/
def IsDigits (ds : List Char) : Prop := ds ≠ [] ∧ ds.all Text.isAsciiDigit = true

/-- A decimal with a point and, if there is one, an exponent. -/
inductive IsDecimal : List Char → Prop
  | plain {whole fraction : List Char} : IsDigits (whole ++ fraction) →
      IsDecimal (whole ++ '.' :: fraction)
  | exponent {whole fraction ds : List Char} {mark : Char} : IsDigits (whole ++ fraction) →
      mark = 'e' ∨ mark = 'E' → IsDigits ds → IsDecimal (whole ++ '.' :: (fraction ++ mark :: ds))

/-- A whole number of 64 bits. -/
def IsSmall (cs : List Char) : Prop := ∃ n, natOf? cs = some n ∧ n < Nat.pow 2 64

/-- A word that is a text: no truth value and no number. -/
structure IsPlainWord (v : String) : Prop where
  notTrue : v ≠ "true"
  notFalse : v ≠ "false"
  notDecimal : ¬ IsDecimal v.toList
  notSmall : ¬ IsSmall v.toList

section Words

variable {c : Char} {cs : List Char}

/-- What is true of all of ASCII is true of a character of a word. -/
theorem wordChar_induction {P : Char → Prop} (h : ∀ n < 128, IsWordChar (Char.ofNat n) →
    P (Char.ofNat n)) (hc : IsWordChar c) : P c := by
  have hsmall : c.toNat < 128 := by
    obtain hc | rfl := hc
    · exact Text.toNat_lt_of_alphanumeric hc
    · decide
  exact Text.ascii_induction (P := fun c => IsWordChar c → P c) h hsmall hc

theorem IsWord.head {rest : List Char} (h : IsWord (c :: rest)) : IsWordChar c :=
  h.chars c List.mem_cons_self

theorem dropWhile_of_forall {p : Char → Bool} (h : ∀ c ∈ cs, p c = false) :
    cs.dropWhile p = cs :=
  Text.dropWhile_of_stops fun c hc => h c (List.mem_of_head? hc)

theorem trimChars_word (h : IsWord cs) : Text.trimChars cs = cs := by
  have hblank : ∀ c ∈ cs, Text.isBlank c = false := fun c hc =>
    wordChar_induction (P := fun c => Text.isBlank c = false) (by decide +kernel) (h.chars c hc)
  rw [Text.trimChars, dropWhile_of_forall hblank,
    dropWhile_of_forall fun c hc => hblank c (List.mem_reverse.mp hc), List.reverse_reverse]

theorem skipBlanks_word (h : ∀ c ∈ cs, IsWordChar c) : skipBlanks cs = cs :=
  dropWhile_of_forall fun c hc =>
    wordChar_induction (P := fun c => Text.isAsciiBlank c = false) (by decide) (h c hc)

theorem span_word (h : IsWord cs) : (cs.span fun c => !isSeparator c) = (cs, []) := by
  have hall : ∀ c ∈ cs, (!isSeparator c) = true := fun c hc =>
    wordChar_induction (P := fun c => (!isSeparator c) = true) (by decide) (h.chars c hc)
  have hspan := Text.span_append hall Text.stops_nil
  rwa [List.append_nil] at hspan

theorem signOf_word (h : ∀ c ∈ cs, IsWordChar c) : signOf cs = (false, cs) := by
  have hsign : ∀ {c}, IsWordChar c → c ≠ '+' ∧ c ≠ '-' :=
    wordChar_induction (P := fun c => c ≠ '+' ∧ c ≠ '-') (by decide)
  unfold signOf
  split
  · exact absurd rfl (hsign (h _ List.mem_cons_self)).1
  · exact absurd rfl (hsign (h _ List.mem_cons_self)).2
  · rfl

/-! ## Numbers -/

theorem natOf?_isSome : (natOf? cs).isSome ↔ IsDigits cs := by
  rw [natOf?, IsDigits]
  cases cs <;> simp

theorem exponentOf?_isSome {tail : List Char} (h : ∀ c ∈ tail, IsWordChar c) :
    (exponentOf? tail).isSome ↔
      tail = [] ∨ ∃ mark ds, (mark = 'e' ∨ mark = 'E') ∧ IsDigits ds ∧ tail = mark :: ds := by
  cases tail with
  | nil => simp [exponentOf?]
  | cons mark ds =>
      rw [exponentOf?, signOf_word fun c hc => h c (List.mem_cons_of_mem _ hc)]
      simp only [Bool.or_eq_true, decide_eq_true_eq, List.cons.injEq, reduceCtorEq, false_or]
      by_cases hmark : mark = 'e' ∨ mark = 'E'
      · rw [if_pos hmark]
        have hdigits : (natOf? ds).isSome ↔ IsDigits ds := natOf?_isSome
        constructor
        · intro hsome
          refine ⟨mark, ds, hmark, hdigits.mp ?_, rfl, rfl⟩
          cases hn : natOf? ds with
          | none => rw [hn] at hsome; cases hsome
          | some n => rfl
        · rintro ⟨_, _, -, hds, rfl, rfl⟩
          obtain ⟨n, hn⟩ := Option.isSome_iff_exists.mp (hdigits.mpr hds)
          rw [hn]
          rfl
      · rw [if_neg hmark]
        refine iff_of_false nofun ?_
        rintro ⟨_, _, hmark', -, rfl, rfl⟩
        exact hmark hmark'

/-- A word is read as a decimal if and only if it is one. -/
theorem doubleOf?_isSome (h : ∀ c ∈ cs, IsWordChar c) : (doubleOf? cs).isSome ↔ IsDecimal cs := by
  have hpoint : ∀ {rest}, Text.Stops Text.isAsciiDigit ('.' :: rest) := fun {rest} =>
    Text.stops_cons.mpr (by decide)
  have htail : ∀ {tail : List Char}, (tail = [] ∨ ∃ mark ds, (mark = 'e' ∨ mark = 'E') ∧
      IsDigits ds ∧ tail = mark :: ds) → Text.Stops Text.isAsciiDigit tail := by
    rintro tail (rfl | ⟨mark, ds, rfl | rfl, -, rfl⟩)
    · exact Text.stops_nil
    · exact Text.stops_cons.mpr (by decide)
    · exact Text.stops_cons.mpr (by decide)
  have hdecimal : IsDecimal cs ↔ ∃ whole fraction tail, cs = whole ++ '.' :: (fraction ++ tail) ∧
      IsDigits (whole ++ fraction) ∧ (tail = [] ∨ ∃ mark ds, (mark = 'e' ∨ mark = 'E') ∧
        IsDigits ds ∧ tail = mark :: ds) := by
    constructor
    · rintro (@⟨whole, fraction, hdigits⟩ | @⟨whole, fraction, ds, mark, hdigits, hmark, hds⟩)
      · exact ⟨whole, fraction, [], by rw [List.append_nil], hdigits, .inl rfl⟩
      · exact ⟨whole, fraction, mark :: ds, rfl, hdigits, .inr ⟨mark, ds, hmark, hds, rfl⟩⟩
    · rintro ⟨whole, fraction, tail, rfl, hdigits, rfl | ⟨mark, ds, hmark, hds, rfl⟩⟩
      · rw [List.append_nil]
        exact .plain hdigits
      · exact .exponent hdigits hmark hds
  rw [hdecimal, doubleOf?, signOf_word h]
  constructor
  · intro hsome
    cases hspan : cs.span Text.isAsciiDigit with
    | mk whole rest =>
      obtain ⟨rfl, hwhole, -⟩ := Text.span_eq hspan
      simp only [hspan] at hsome
      split at hsome
      · next rest =>
          cases hspan' : rest.span Text.isAsciiDigit with
          | mk fraction tail =>
            obtain ⟨rfl, hfraction, -⟩ := Text.span_eq hspan'
            simp only [hspan'] at hsome
            refine ⟨whole, fraction, tail, rfl, ?_, (exponentOf?_isSome fun c hc => h c ?_).mp ?_⟩
            · cases hn : natOf? (whole ++ fraction) with
              | none => simp [hn] at hsome
              | some n => exact natOf?_isSome.mp (by rw [hn]; rfl)
            · simp [hc]
            · cases he : exponentOf? tail with
              | none => simp [he] at hsome
              | some e => rfl
      · cases hsome
  · rintro ⟨whole, fraction, tail, rfl, hdigits, htailed⟩
    have hall := List.all_eq_true.mp hdigits.2
    obtain ⟨n, hn⟩ := Option.isSome_iff_exists.mp (natOf?_isSome.mpr hdigits)
    have hexponent : (exponentOf? tail).isSome :=
      (exponentOf?_isSome fun c hc => h c (by simp [hc])).mpr htailed
    obtain ⟨e, he⟩ := Option.isSome_iff_exists.mp hexponent
    simp only [Text.span_append (fun c hc => hall c (List.mem_append_left _ hc)) hpoint,
      Text.span_append (fun c hc => hall c (List.mem_append_right _ hc)) (htail htailed), hn, he]
    rfl

/-- What a word says that is no truth value. -/
theorem plainOf_word (h : ∀ c ∈ cs, IsWordChar c) :
    (IsDecimal cs → ∃ x, plainOf cs = .double x) ∧
    (¬ IsDecimal cs → IsSmall cs → ∃ n, plainOf cs = .unsigned n) ∧
    (¬ IsDecimal cs → ¬ IsSmall cs → plainOf cs = .text (String.ofList cs)) := by
  have hpoint : IsDecimal cs → cs.contains '.' = true := by
    rintro (_ | _) <;> simp
  have hnone : ¬ IsDecimal cs → (if cs.contains '.' then doubleOf? cs else none) = none := by
    intro hdecimal
    split
    · rw [← doubleOf?_isSome h] at hdecimal
      exact Option.not_isSome_iff_eq_none.mp hdecimal
    · rfl
  refine ⟨fun hdecimal => ?_, fun hdecimal hsmall => ?_, fun hdecimal hsmall => ?_⟩
  · obtain ⟨x, hx⟩ := Option.isSome_iff_exists.mp ((doubleOf?_isSome h).mpr hdecimal)
    exact ⟨x, by rw [plainOf, if_pos (hpoint hdecimal), hx]⟩
  · obtain ⟨n, hn, hlimit⟩ := hsmall
    refine ⟨n, ?_⟩
    simp only [plainOf, hnone hdecimal, integerOf?, signOf_word h, hn]
    simp [hlimit]
  · simp only [plainOf, hnone hdecimal, integerOf?, signOf_word h]
    cases hn : natOf? cs with
    | none => rfl
    | some n =>
        have hlimit : ¬ n < Nat.pow 2 64 := fun hlimit => hsmall ⟨n, hn, hlimit⟩
        simp [hlimit]

/-- A word that begins with a letter is no number. -/
theorem plainOf_letter (h : ∀ c' ∈ c :: cs, IsWordChar c') (hc : Text.isAsciiDigit c = false)
    (hdot : c ≠ '.') : plainOf (c :: cs) = .text (String.ofList (c :: cs)) := by
  have hdigit : ∀ {ds : List Char}, IsDigits ds → ds.head? ≠ some c := fun hds hhead => by
    have := List.all_eq_true.mp hds.2 c (List.mem_of_head? hhead)
    rw [hc] at this
    cases this
  have hwhole : ∀ {whole fraction rest : List Char}, IsDigits (whole ++ fraction) →
      c :: cs ≠ whole ++ '.' :: rest := fun {whole _ _} hds heq => by
    cases whole with
    | nil => exact hdot (List.cons.inj heq).1
    | cons d whole => exact hdigit hds (by rw [(List.cons.inj heq).1]; rfl)
  refine (plainOf_word h).2.2 (fun hdecimal => ?_) fun ⟨n, hn, _⟩ => ?_
  · generalize hcs : c :: cs = all at hdecimal
    cases hdecimal with
    | plain hds => exact hwhole hds hcs
    | exponent hds => exact hwhole hds hcs
  · exact hdigit (natOf?_isSome.mp (by rw [hn]; rfl)) rfl

/-- What a word begins with: a truth value and something, or none. -/
theorem scalar_word (h : IsWord cs) :
    (∃ rest, cs = 't' :: 'r' :: 'u' :: 'e' :: rest ∧ scalar cs = some (.bool true, rest)) ∨
    (∃ rest, cs = 'f' :: 'a' :: 'l' :: 's' :: 'e' :: rest ∧
      scalar cs = some (.bool false, rest)) ∨
    ((∀ rest, cs ≠ 't' :: 'r' :: 'u' :: 'e' :: rest) ∧
      (∀ rest, cs ≠ 'f' :: 'a' :: 'l' :: 's' :: 'e' :: rest) ∧
      scalar cs = some (plainOf cs, [])) := by
  have hother : ∀ {c rest}, cs = c :: rest → IsWordChar c := fun heq =>
    h.chars _ (by rw [heq]; exact List.mem_cons_self)
  unfold scalar
  split
  · exact .inl ⟨_, rfl, rfl⟩
  · exact .inr (.inl ⟨_, rfl, rfl⟩)
  · exact absurd (hother rfl) (by decide)
  · exact absurd (hother rfl) (by decide)
  · exact absurd (hother rfl) (by decide)
  · next htrue hfalse _ _ _ =>
      refine .inr (.inr ⟨fun rest heq => htrue rest heq, fun rest heq => hfalse rest heq, ?_⟩)
      simp only [span_word h, trimChars_word h]

end Words

/-- What a word says in a variable. -/
theorem valueOf_word {v : String} (h : IsWord v.toList) :
    valueOf v = .leaf .environment
      (if v = "true" then .bool true else if v = "false" then .bool false
       else plainOf v.toList) := by
  have hword : ∀ c ∈ v.toList, IsWordChar c := h.chars
  have hvalue : ∀ fuel, value (fuel + 1) v.toList =
      (scalar v.toList).map fun r => (.leaf .environment r.1, skipBlanks r.2) := by
    intro fuel
    rw [value, skipBlanks_word hword]
    split
    · next heq => exact absurd (hword '[' (by rw [heq]; exact List.mem_cons_self)) (by decide)
    · next heq => exact absurd (hword '\x7b' (by rw [heq]; exact List.mem_cons_self)) (by decide)
    · cases scalar v.toList <;> rfl
  -- A truth value at the head of a longer word does not count.
  have hlonger : ∀ {c c' cs rest}, v.toList = c :: cs ++ c' :: rest →
      Text.isAsciiDigit c = false → c ≠ '.' → ∀ {found : Leaf}, scalar v.toList =
        some (found, c' :: rest) → valueOf v = .leaf .environment (plainOf v.toList) := by
    intro c c' cs rest hchars hdigit hdot found hscalar
    have hrest : skipBlanks (c' :: rest) = c' :: rest := skipBlanks_word fun d hd =>
      hword d (by rw [hchars]; exact List.mem_append_right _ hd)
    have hplain : plainOf v.toList = .text v := by
      have hletter := plainOf_letter (hchars ▸ hword) hdigit hdot
      have htext : String.ofList (c :: cs ++ c' :: rest) = v := hchars ▸ String.ofList_toList
      rw [hchars]
      exact hletter.trans (congrArg Leaf.text htext)
    rw [valueOf, hvalue, hscalar, Option.map_some, hrest, hplain]
  have hne : ∀ {w : String}, v.toList ≠ w.toList → v ≠ w := fun hne heq => hne (heq ▸ rfl)
  obtain ⟨rest, hchars, hscalar⟩ | ⟨rest, hchars, hscalar⟩ | ⟨htrue, hfalse, hscalar⟩ :=
    scalar_word h
  · cases rest with
    | nil =>
        have hv : v = "true" := String.toList_inj.mp hchars
        rw [if_pos hv, valueOf, hvalue, hscalar]
        rfl
    | cons c rest =>
        rw [if_neg (hne (by rw [hchars]; simp)), if_neg (hne (by rw [hchars]; simp))]
        exact @hlonger 't' c ['r', 'u', 'e'] rest hchars (by decide) (by decide) _ hscalar
  · cases rest with
    | nil =>
        have hv : v = "false" := String.toList_inj.mp hchars
        rw [if_neg (hne (by rw [hchars]; simp)), if_pos hv, valueOf, hvalue, hscalar]
        rfl
    | cons c rest =>
        rw [if_neg (hne (by rw [hchars]; simp)), if_neg (hne (by rw [hchars]; simp))]
        exact @hlonger 'f' c ['a', 'l', 's', 'e'] rest hchars (by decide) (by decide) _ hscalar
  · rw [if_neg (hne (w := "true") (htrue [])), if_neg (hne (w := "false") (hfalse [])), valueOf,
      hvalue, hscalar]
    rfl

end Environment

open Environment

/-! ## A text for one key -/

/-- A document below a path of tables. -/
def documentBelow (d : Document) : List String → Document
  | [] => d
  | part :: parts => .table [(part, documentBelow d parts)]

/-- A key whose value is a text. -/
def Key.IsText (k : Key) : Prop := k ≠ .serverPort ∧ k ≠ .devPort ∧ k ≠ .database

section Text

variable {k : Key} {v text : String}

theorem at?_documentBelow (k other : Key) (d : Document) :
    (documentBelow d k.path).at? other.path = if other = k then some d else none := by
  cases k <;> cases other <;> cases d <;> rfl

theorem distinctKeys_documentBelow {d : Document} (h : d.DistinctKeys) (path : List String) :
    (documentBelow d path).DistinctKeys := by
  induction path with
  | nil => exact h
  | cons part path ih => exact ⟨List.nodup_singleton _, ih, trivial⟩

theorem sectionsAreTables_documentBelow (k : Key) (d : Document) :
    SectionsAreTables (documentBelow d k.path) where
  root := by cases k <;> exact ⟨_, rfl⟩
  sections := by
    intro path hpath sub hsub
    simp only [sectionPaths, List.mem_cons, List.not_mem_nil, or_false] at hpath
    obtain rfl | rfl | rfl | rfl := hpath <;> cases k <;> cases hsub <;> exact ⟨_, rfl⟩

theorem Key.IsText.read (hk : k.IsText) (t : Tree) : k.read t = (textOf t).map .text := by
  obtain ⟨hserver, hdev, hdatabase⟩ := hk
  cases k with
  | serverPort => exact absurd rfl hserver
  | devPort => exact absurd rfl hdev
  | database => exact absurd rfl hdatabase
  | _ => rfl

/-- Over the defaults a document with one text says that text for its key. -/
theorem holds_text (k : Key) (v : String) :
    Holds (defaultLayer.mergeInto (.ofDocument .text (documentBelow (.text v) k.path)))
      fun other => if other = k then some (.leaf .text (.text v)) else none := by
  refine (holds_document (sectionsAreTables_documentBelow k _)
    (distinctKeys_documentBelow (d := .text v) trivial k.path) .text).congr fun other x => ?_
  rw [at?_documentBelow]
  split <;> exact Iff.rfl

/-- Over the defaults one variable says its value for its key. -/
theorem holds_variable {name : String} (hname : Names name k) :
    Holds (defaultLayer.mergeInto (Environment.layer [(name, v)]))
      fun other => if other = k then some (valueOf v) else none := by
  have hkeys : NamesKeys [(name, v)] :=
    ⟨fun _ hw => .inr ⟨k, List.mem_singleton.mp hw ▸ hname⟩, List.pairwise_singleton _ _⟩
  refine (holds_defaultLayer.variables hkeys).congr fun other x => ?_
  have hgiven : given? [(name, v)] other = if other = k then some (valueOf v) else none := by
    by_cases hother : other = k
    · subst hother
      simp [given?, hname]
    · have hnot : ¬ Names name other := fun h => hother (names_injective h hname)
      simp [given?, hnot, hother]
  rw [hgiven, Option.or_none]

end Text

/-! ## Words in variables -/

theorem not_isPlainWord_iff {v : String} : ¬ IsPlainWord v ↔
    v = "true" ∨ v = "false" ∨ IsDecimal v.toList ∨ IsSmall v.toList := by
  constructor
  · intro h
    by_contra hnone
    simp only [not_or] at hnone
    exact h ⟨hnone.1, hnone.2.1, hnone.2.2.1, hnone.2.2.2⟩
  · rintro (h | h | h | h) hplain
    · exact hplain.notTrue h
    · exact hplain.notFalse h
    · exact hplain.notDecimal h
    · exact hplain.notSmall h

/-- A plain word is a text in a variable. -/
theorem valueOf_plainWord {v : String} (hv : IsWord v.toList) (h : IsPlainWord v) :
    valueOf v = .leaf .environment (.text v) := by
  rw [valueOf_word hv, if_neg h.notTrue, if_neg h.notFalse,
    (plainOf_word hv.chars).2.2 h.notDecimal h.notSmall, String.ofList_toList]

/-- Any other word is refused by a key with a text. -/
theorem textOf_notPlainWord {v : String} (hv : IsWord v.toList) (h : ¬ IsPlainWord v) (s : String) :
    textOf (valueOf v) ≠ .ok s := by
  obtain ⟨hdouble, hunsigned, -⟩ := plainOf_word hv.chars
  rw [valueOf_word hv]
  split_ifs with htrue hfalse
  · nofun
  · nofun
  · by_cases hdecimal : IsDecimal v.toList
    · obtain ⟨x, hx⟩ := hdouble hdecimal
      rw [hx]
      nofun
    · have hsmall : IsSmall v.toList := by
        obtain hv | hv | hv | hv := not_isPlainWord_iff.mp h
        · exact absurd hv htrue
        · exact absurd hv hfalse
        · exact absurd hv hdecimal
        · exact hv
      obtain ⟨n, hn⟩ := hunsigned hdecimal hsmall
      rw [hn]
      nofun

/-- A text for a key, in a file's text and in a variable.  The text always gives the settings with
it.  A variable gives the same settings if the word is plain; a truth value or a number is
refused. -/
theorem load_word {k : Key} (hk : k.IsText) {name v text : String} (hname : Names name k)
    (hv : IsWord v.toList) (htext : Toml.parse text = some (documentBelow (.text v) k.path))
    {d : Disk} (hlocal : d.hasAny localFile = false) :
    (∃ c, ofToml text = .ok c ∧ k.get c = some (.text v) ∧
      ∀ other ≠ k, other.get c = other.get {}) ∧
    (IsPlainWord v → load d [(name, v)] none = ofToml text) ∧
    (¬ IsPlainWord v → ∃ fault, load d [(name, v)] none = .error (.misfit fault)) := by
  have hfile := holds_text k v
  have hvariable := holds_variable (v := v) hname
  have hofToml : ofToml text =
      (ofTree (defaultLayer.mergeInto
        (.ofDocument .text (documentBelow (.text v) k.path)))).mapError
        .misfit := by
    rw [ofToml, textLayer, htext]
    rfl
  have hload : load d [(name, v)] none =
      (ofTree (defaultLayer.mergeInto (Environment.layer [(name, v)]))).mapError .misfit := by
    rw [load, namedLayer, hlocal]
    rfl
  obtain ⟨c, hc⟩ := hfile.isOk fun other => by
    split
    · next heq =>
        subst heq
        exact ⟨.text v, hk.read _⟩
    · trivial
  have hvalues := hfile.ofTree_eq_ok.mp hc
  have hown : k.get c = some (.text v) := by
    have hvalue := hvalues k
    rw [if_pos rfl] at hvalue
    obtain ⟨s, hs, hget⟩ := hvalue
    rw [hk.read] at hs
    cases hs
    exact hget
  refine ⟨⟨c, by rw [hofToml, hc]; rfl, hown, fun other hne => ?_⟩, fun hplain => ?_,
    fun hplain => ?_⟩
  · have hvalue := hvalues other
    rw [if_neg hne] at hvalue
    exact hvalue
  · have hsame : ofTree (defaultLayer.mergeInto (Environment.layer [(name, v)])) = .ok c :=
      hvariable.ofTree_eq_ok.mpr fun other => by
        have hvalue := hvalues other
        split
        · next heq =>
            rw [if_pos heq] at hvalue
            subst heq
            rw [valueOf_plainWord hv hplain]
            exact ⟨.text v, hk.read _, hown⟩
        · next hne =>
            rw [if_neg hne] at hvalue
            exact hvalue
    rw [hload, hofToml, hsame, hc]
  · cases hresult : ofTree (defaultLayer.mergeInto (Environment.layer [(name, v)])) with
    | error fault => exact ⟨fault, by rw [hload, hresult]; rfl⟩
    | ok c' =>
        have hvalue := hvariable.ofTree_eq_ok.mp hresult k
        rw [if_pos rfl] at hvalue
        obtain ⟨s, hs, -⟩ := hvalue
        rw [hk.read] at hs
        obtain ⟨s, hs, -⟩ := map_eq_ok.mp hs
        exact absurd hs (textOf_notPlainWord hv hplain s)

/-! ## A version of digits -/

/-- A version as a text in TOML. -/
def versionText : String := "[backend]\njava_version = \"21\"\n"

theorem parse_versionText :
    Toml.parse versionText = some (documentBelow (.text "21") Key.javaVersion.path) := by
  have hchars : versionText.toList = ['[', 'b', 'a', 'c', 'k', 'e', 'n', 'd', ']', '\n', 'j', 'a',
      'v', 'a', '_', 'v', 'e', 'r', 's', 'i', 'o', 'n', ' ', '=', ' ', '"', '2', '1', '"',
      '\n'] := by
    decide +kernel
  rw [Toml.parse, hchars]
  rfl

theorem not_isPlainWord_version : ¬ IsPlainWord "21" := fun h =>
  h.notSmall ⟨21, by decide +kernel, by decide⟩

/-- The version is a text in a file, and in a variable it is refused. -/
theorem load_word_version :
    (∃ c, ofToml versionText = .ok c ∧ Key.javaVersion.get c = some (.text "21")) ∧
      ∃ fault, load Disk.empty [("OVELHA_BACKEND__JAVA_VERSION", "21")] none =
        .error (.misfit fault) := by
  have hname : Names "OVELHA_BACKEND__JAVA_VERSION" .javaVersion := by decide +kernel
  have hword : IsWord "21".toList :=
    ⟨List.cons_ne_nil _ _,
      List.forall_mem_cons.mpr ⟨.inl rfl, List.forall_mem_singleton.mpr (.inl rfl)⟩⟩
  obtain ⟨⟨c, hc, hvalue, -⟩, -, hrefused⟩ := load_word (by simp [Key.IsText]) hname hword
    parse_versionText (d := Disk.empty) (by decide +kernel)
  exact ⟨⟨c, hc, hvalue⟩, hrefused not_isPlainWord_version⟩

/-- What the key says of the number that it finds. -/
theorem load_version_variable :
    load Disk.empty [("OVELHA_BACKEND__JAVA_VERSION", "21")] none = .error (.misfit
      ⟨.wrongType "unsigned int `21`" "a string", ["backend", "java_version"], .environment⟩) := by
  decide +kernel

end CrudStack.Settings
