/-
# `CrudStack.Proofs.Naming.Plural` — the plural follows the spelling of the name

The ending that decides a plural is looked for in the lower case of the whole name, and the plural
is made of the name itself.  In between lie the tables of all of Unicode: a lower case may have more
characters than its text, other bytes, and another letter at its end.  None of this is seen in the
result.  The rule can be said of the name as it is spelled, for the letters of ASCII in either case
and with no lower case at all (`IsPlural`).

The one place where it could go wrong is the `y` that is taken off: it is cut off as a byte, after a
look at the lower case.  `pluralLabel?` computes the label that way, and fails where the cut would
go through a character.  It never does.

Main statement: `plural_by_spelling`.
-/
import CrudStack.Naming
import CrudStack.Proofs.Text.Lowered

namespace CrudStack.Naming

open Text

/-! ## The rule -/

/-- A text ends in an ending, the letters A to Z taken for small ones. -/
def EndsLike (text ending : String) : Prop :=
  ∃ front letters, text.toList = front ++ letters ∧ letters.map asciiLower = ending.toList

/-- A name that ends in a hissing sound. -/
def EndsInSibilant (name : String) : Prop :=
  ∃ ending ∈ ["s", "x", "z", "ch", "sh"], EndsLike name ending

/-- A name is a stem and a `y` in either case, and the last character of the stem is no vowel. -/
def ConsonantStem (name stem : String) : Prop :=
  (name = stem ++ "y" ∨ name = stem ++ "Y") ∧
    ∃ before, stem.toList.getLast? = some before ∧ asciiLower before ∉ ['a', 'e', 'i', 'o', 'u']

/-- The plurals of a name. -/
inductive IsPlural (name : String) : String → Prop
  | es (h : EndsInSibilant name) : IsPlural name (name ++ "es")
  | ies {stem : String} (h : ConsonantStem name stem) : IsPlural name (stem ++ "ies")
  | s (hes : ¬ EndsInSibilant name) (hies : ¬ ∃ stem, ConsonantStem name stem) :
      IsPlural name (name ++ "s")

/-! ## Bytes -/

/-- The text of the first bytes of a text, unless they end inside of a character. -/
def firstBytes? (s : String) (count : Nat) : Option String :=
  if h : (⟨count⟩ : String.Pos.Raw).IsValid s then some (s.sliceTo (s.pos ⟨count⟩ h)).copy else none

theorem firstBytes?_append (a b : String) : firstBytes? (a ++ b) a.utf8ByteSize = some a := by
  have hvalid : (⟨a.utf8ByteSize⟩ : String.Pos.Raw).IsValid (a ++ b) :=
    String.Pos.Raw.isValid_iff_exists_append.mpr ⟨a, b, rfl, rfl⟩
  have hsplits : ((a ++ b).pos ⟨a.utf8ByteSize⟩ hvalid).Splits a b := ⟨rfl, rfl⟩
  rw [firstBytes?, dif_pos hvalid, (String.Pos.splits _).eq_left hsplits]

theorem firstBytes?_append_one {a b : String} (h : b.utf8ByteSize = 1) :
    firstBytes? (a ++ b) ((a ++ b).utf8ByteSize - 1) = some a := by
  have hsize : (a ++ b).utf8ByteSize - 1 = a.utf8ByteSize := by
    rw [String.utf8ByteSize_append, h, Nat.add_sub_cancel]
  rw [hsize, firstBytes?_append]

/-- The label of a name, with the stem cut off by its bytes. -/
def pluralLabel? (name : String) : Option String :=
  let ending := (lowerChars name.toList).reverse
  if sibilants.any fun s => s.reverse.isPrefixOf ending then some (name ++ "es")
  else if endsInConsonantY ending then
    (firstBytes? name (name.utf8ByteSize - 1)).map (· ++ "ies")
  else some (name ++ "s")

/-! ## Endings -/

theorem suffix_lowerChars_iff {ending : String} (h : ∀ x ∈ ending.toList, x.toNat < 128 ∧ x ≠ 'k')
    {name : String} : ending.toList <:+ lowerChars name.toList ↔ EndsLike name ending :=
  suffix_lowerAfter_iff h

theorem any_sibilants_iff (name : String) :
    (sibilants.any fun s => s.reverse.isPrefixOf (lowerChars name.toList).reverse) = true ↔
      EndsInSibilant name := by
  have hascii : ∀ ending ∈ ["s", "x", "z", "ch", "sh"],
      ∀ x ∈ ending.toList, x.toNat < 128 ∧ x ≠ 'k' := by
    simp
  have hsame : sibilants = ["s", "x", "z", "ch", "sh"].map String.toList := rfl
  rw [hsame, List.any_map, List.any_eq_true, EndsInSibilant]
  refine exists_congr fun ending => and_congr_right fun hending => ?_
  rw [Function.comp_apply, List.isPrefixOf_iff_prefix, List.reverse_prefix,
    suffix_lowerChars_iff (hascii ending hending)]

/-- The last letter decides between the endings. -/
theorem not_endsInSibilant {name stem : String} (h : ConsonantStem name stem) :
    ¬ EndsInSibilant name := by
  rintro ⟨ending, hending, front, letters, hname, hletters⟩
  have hends : ∀ ending ∈ ["s", "x", "z", "ch", "sh"],
      ending.toList ≠ [] ∧ ending.toList.getLast? ≠ some 'y' := by
    decide
  obtain ⟨hsome, hlast⟩ := hends ending hending
  have hne : letters ≠ [] := by
    rintro rfl
    exact hsome hletters.symm
  have hy : name.toList.getLast?.map asciiLower = some 'y' := by
    rcases h.1 with rfl | rfl
    · rw [String.toList_append]
      exact congrArg (Option.map asciiLower) List.getLast?_concat
    · rw [String.toList_append]
      exact congrArg (Option.map asciiLower) List.getLast?_concat
  rw [hname, List.getLast?_append_of_ne_nil front hne, ← List.getLast?_map, hletters] at hy
  exact hlast hy

/-- The two characters that decide, read forwards. -/
theorem endsInConsonantY_reverse {cs : List Char} : endsInConsonantY cs.reverse = true ↔
    ∃ front before, cs = front ++ [before, 'y'] ∧ before ∉ vowels := by
  constructor
  · intro h
    unfold endsInConsonantY at h
    split at h
    · next before rest hreverse =>
        refine ⟨rest.reverse, before, ?_, by simpa using h⟩
        rw [← List.reverse_reverse cs, hreverse]
        simp
    · cases h
  · rintro ⟨front, before, rfl, hbefore⟩
    simpa [endsInConsonantY] using hbefore

theorem asciiLower_eq_y {c : Char} : asciiLower c = 'y' ↔ c = 'y' ∨ c = 'Y' := by
  by_cases hc : c.toNat < 128
  · exact ascii_induction (P := fun c => asciiLower c = 'y' ↔ c = 'y' ∨ c = 'Y')
      (by decide +kernel) hc
  · have hlarge : 128 ≤ c.toNat := Nat.le_of_not_lt hc
    rw [asciiLower_of_not_ascii hlarge]
    refine ⟨.inl, fun h => h.resolve_right ?_⟩
    rintro rfl
    exact absurd hlarge (by decide)

/-- A stem before a `y`, by the characters of the name. -/
theorem exists_consonantStem_iff {name : String} : (∃ stem, ConsonantStem name stem) ↔
    ∃ front before y, name.toList = front ++ [before, y] ∧ asciiLower y = 'y' ∧
      asciiLower before ∉ vowels := by
  constructor
  · rintro ⟨stem, hname, before, hlast, hbefore⟩
    obtain ⟨front, hstem⟩ := List.getLast?_eq_some_iff.mp hlast
    rcases hname with rfl | rfl
    · exact ⟨front, before, 'y', by simp [hstem], by decide, hbefore⟩
    · exact ⟨front, before, 'Y', by simp [hstem], by decide, hbefore⟩
  · rintro ⟨front, before, y, hname, hy, hbefore⟩
    refine ⟨String.ofList (front ++ [before]), ?_, before, by simp, hbefore⟩
    refine (asciiLower_eq_y.mp hy).imp ?_ ?_ <;>
    · rintro rfl
      exact String.toList_inj.mp (by simp [hname])

/-- The lower case ends in a `y` behind something that is no vowel just if the name does.  That the
character before is a vowel is a matter of two letters of ASCII, and so it can be told from the
name; what it is otherwise makes no difference. -/
theorem endsInConsonantY_iff (name : String) :
    endsInConsonantY (lowerChars name.toList).reverse = true ↔
      ∃ stem, ConsonantStem name stem := by
  have hy : ∀ x ∈ ['y'], x.toNat < 128 ∧ x ≠ 'k' := by simp
  have hvowel : ∀ v ∈ vowels, ∀ x ∈ [v, 'y'], x.toNat < 128 ∧ x ≠ 'k' := by simp [vowels]
  have hlength : name.toList.length ≤ (lowerChars name.toList).length := length_le_lowerAfter [] _
  rw [endsInConsonantY_reverse, exists_consonantStem_iff]
  constructor
  · rintro ⟨front, before, hlower, hbefore⟩
    have hend : ['y'] <:+ lowerChars name.toList := ⟨front ++ [before], by rw [hlower]; simp⟩
    obtain ⟨own, letters, hname, hletters⟩ := (suffix_lowerAfter_iff hy).mp hend
    obtain ⟨y, rfl, hyl⟩ := List.map_eq_singleton_iff.mp hletters
    rcases List.eq_nil_or_concat own with rfl | ⟨own, p, rfl⟩
    · -- A lone `y` has one character in lower case.
      have hone : lowerChars name.toList = ['y'] := by
        rw [hname]
        exact (lowerAfter_eq_iff hy).mpr hletters
      rw [hone] at hlower
      exact absurd (congrArg List.length hlower) (by simp)
    · refine ⟨own, p, y, by rw [hname]; simp, hyl, fun hp => hbefore ?_⟩
      have hsuffix : [asciiLower p, 'y'] <:+ lowerChars name.toList :=
        (suffix_lowerAfter_iff (hvowel _ hp)).mpr ⟨own, [p, y], by rw [hname]; simp, by simp [hyl]⟩
      obtain ⟨rest, hrest⟩ := hsuffix
      have hsame := List.append_inj_right' (hrest.trans hlower) rfl
      rw [List.cons.injEq] at hsame
      exact hsame.1 ▸ hp
  · rintro ⟨front, p, y, hname, hyl, hp⟩
    have hsuffix : ['y'] <:+ lowerChars name.toList :=
      (suffix_lowerAfter_iff hy).mpr ⟨front ++ [p], [y], by rw [hname]; simp, by simp [hyl]⟩
    obtain ⟨rest, hrest⟩ := hsuffix
    have hlower : lowerChars name.toList = rest ++ ['y'] := hrest.symm
    rcases List.eq_nil_or_concat rest with rfl | ⟨rest, before, rfl⟩
    · rw [hlower, hname] at hlength
      simp at hlength
    · refine ⟨rest, before, by rw [hlower]; simp, fun hbefore => hp ?_⟩
      have hsuffix : [before, 'y'] <:+ lowerChars name.toList := ⟨rest, by rw [← hrest]; simp⟩
      obtain ⟨own, letters, hname', hletters⟩ :=
        (suffix_lowerAfter_iff (hvowel _ hbefore)).mp hsuffix
      have htwo : letters.length = 2 := by
        rw [← List.length_map asciiLower, hletters]
        rfl
      have hsame := List.append_inj_right' (hname.symm.trans hname') htwo.symm
      rw [← hsame, List.map_cons, List.cons.injEq] at hletters
      exact hletters.1 ▸ hbefore

/-! ## Plurals -/

/-- The `y` that is taken off is a character of one byte. -/
theorem stem_of_consonantStem {name stem : String} (h : ConsonantStem name stem) :
    firstBytes? name (name.utf8ByteSize - 1) = some stem ∧
      String.ofList name.toList.dropLast = stem := by
  rcases h.1 with rfl | rfl
  · exact ⟨firstBytes?_append_one (by decide), by simp⟩
  · exact ⟨firstBytes?_append_one (by decide), by simp⟩

theorem pluralLabel_of_sibilant {name : String} (h : EndsInSibilant name) :
    pluralLabel name = name ++ "es" ∧ pluralLabel? name = some (name ++ "es") := by
  have htest := (any_sibilants_iff name).mpr h
  exact ⟨if_pos htest, if_pos htest⟩

theorem pluralLabel_of_consonantStem {name stem : String} (h : ConsonantStem name stem) :
    pluralLabel name = stem ++ "ies" ∧ pluralLabel? name = some (stem ++ "ies") := by
  have htest := mt (any_sibilants_iff name).mp (not_endsInSibilant h)
  have hends := (endsInConsonantY_iff name).mpr ⟨stem, h⟩
  obtain ⟨hcut, hdrop⟩ := stem_of_consonantStem h
  refine ⟨?_, ?_⟩
  · refine (if_neg htest).trans ((if_pos hends).trans ?_)
    rw [hdrop]
  · refine (if_neg htest).trans ((if_pos hends).trans ?_)
    rw [hcut]
    rfl

theorem pluralLabel_of_neither {name : String} (hes : ¬ EndsInSibilant name)
    (hies : ¬ ∃ stem, ConsonantStem name stem) :
    pluralLabel name = name ++ "s" ∧ pluralLabel? name = some (name ++ "s") := by
  have htest := mt (any_sibilants_iff name).mp hes
  have hends := mt (endsInConsonantY_iff name).mp hies
  exact ⟨(if_neg htest).trans (if_neg hends), (if_neg htest).trans (if_neg hends)⟩

/-- A plural begins with its name, or with what is left of it without a last `y`. -/
theorem IsPlural.kept {name label : String} (h : IsPlural name label) :
    ∃ kept ending, label = kept ++ ending ∧ ending ∈ ["es", "ies", "s"] ∧
      name ∈ [kept, kept ++ "y", kept ++ "Y"] := by
  cases h with
  | es => exact ⟨name, "es", rfl, by decide, List.mem_cons_self⟩
  | @ies stem h => exact ⟨stem, "ies", rfl, by decide, List.mem_cons_of_mem _ (by simpa using h.1)⟩
  | s => exact ⟨name, "s", rfl, by decide, List.mem_cons_self⟩

/-- For every name the label can be computed over the bytes, and it is the one plural that the
spelling of the name has.  So it keeps the name as it is, but for a last `y`. -/
theorem plural_by_spelling (name : String) :
    pluralLabel? name = some (pluralLabel name) ∧
      (∀ label, IsPlural name label ↔ label = pluralLabel name) ∧
      ∃ kept ending, pluralLabel name = kept ++ ending ∧ ending ∈ ["es", "ies", "s"] ∧
        name ∈ [kept, kept ++ "y", kept ++ "Y"] := by
  have hlabel : ∀ {label}, IsPlural name label →
      pluralLabel name = label ∧ pluralLabel? name = some label := by
    intro label h
    cases h with
    | es h => exact pluralLabel_of_sibilant h
    | ies h => exact pluralLabel_of_consonantStem h
    | s hes hies => exact pluralLabel_of_neither hes hies
  have hplural : IsPlural name (pluralLabel name) := by
    by_cases hes : EndsInSibilant name
    · rw [(pluralLabel_of_sibilant hes).1]
      exact .es hes
    · by_cases hies : ∃ stem, ConsonantStem name stem
      · obtain ⟨stem, hstem⟩ := hies
        rw [(pluralLabel_of_consonantStem hstem).1]
        exact .ies hstem
      · rw [(pluralLabel_of_neither hes hies).1]
        exact .s hes hies
  exact ⟨(hlabel hplural).2, fun label => ⟨fun h => (hlabel h).1.symm, fun h => h ▸ hplural⟩,
    hplural.kept⟩

/-- The lower case of the dotted capital ends in a mark, and that is no vowel. -/
example : pluralLabel "CİY" = "Cİies" ∧ pluralLabel "KIY" = "KIYs" := by
  decide +kernel

end CrudStack.Naming
