/-
# `CrudStack.Proofs.Naming.Words` — the words in the name of a table

The name of a table is the words of a name, in lower case and with underscores between them.  A word
may hold underscores itself, those that share a cluster with a letter.  Still the words can be read
back, because the underscores inside of a word are bound and the ones between words are not
(`readWords_intercalate`).

Main statement: two names are given the same table just if they have the same words in lower case
(`tableName_eq_iff`).
-/
import CrudStack.Naming
import CrudStack.Proofs.Text.Bound
import CrudStack.Proofs.Java.Package

namespace CrudStack.Naming

open Text

/-- The words of a name in lower case. -/
def loweredWords (name : String) : List (List Char) := (words name).map lowerChars

theorem toList_tableName (name : String) :
    (tableName name).toList = ['_'].intercalate (loweredWords name) := by
  rw [tableName, String.toList_intercalate, List.map_map]
  simp only [Function.comp_def, String.toList_ofList, loweredWords]
  rfl

/-! ## Words that keep their underscores -/

/-- Words whose underscores are bound, and nothing binds from a word to the next. -/
structure Separate (ws : List (List Char)) : Prop where
  bound : ∀ w ∈ ws, Bound false w
  apart : ws.IsChain Apart

theorem startsWithMark_of_prefix {v w : List Char} (h : v <+: w) (hw : startsWithMark w = false) :
    startsWithMark v = false := by
  obtain ⟨more, rfl⟩ := h
  exact Bool.eq_false_iff.mpr fun hv => Bool.eq_false_iff.mp hw (startsWithMark_append hv more)

/-- No mark starts what follows a cluster. -/
theorem startsWithMark_flatten {g : List Char} {rest : List (List Char)} (h : Parted (g :: rest)) :
    startsWithMark rest.flatten = false := by
  cases rest with
  | nil => rfl
  | cons next more =>
      have hmark := (List.isChain_cons_cons.mp h.apart).1.mark
      have hne := h.nonempty next (List.mem_cons_of_mem g List.mem_cons_self)
      obtain ⟨c, more, rfl⟩ := List.exists_cons_of_ne_nil hne
      exact hmark

theorem separate_wordsFrom {word : List Char} {gs : List (List Char)} (hgs : Parted gs)
    (hword : Bound false word) (hlast : gs ≠ [] → endsInSign word = false) :
    Separate (wordsFrom word gs) ∧
      ∀ w ∈ (wordsFrom word gs).head?, w <+: word ++ gs.flatten := by
  induction gs generalizing word with
  | nil =>
      refine ⟨⟨?_, List.isChain_singleton _⟩, ?_⟩
      · simpa [wordsFrom] using hword
      · simp [wordsFrom]
  | cons g rest ih =>
      have hg := hgs.lone g List.mem_cons_self
      have hne := hgs.nonempty g List.mem_cons_self
      -- A word that ends here is apart from the first one behind it.
      have hends : ∀ {w : List Char}, Bound false w → endsInSign w = false →
          Separate (w :: wordsFrom [] rest) := by
        intro w hw hsign
        have hnil : Bound false [] := trivial
        obtain ⟨⟨hbound, hchain⟩, hfirst⟩ := ih hgs.tail hnil fun _ => rfl
        refine ⟨List.forall_mem_cons.mpr ⟨hw, hbound⟩, List.isChain_cons.mpr ⟨?_, hchain⟩⟩
        exact fun v hv =>
          ⟨hsign, startsWithMark_of_prefix (hfirst v hv) (startsWithMark_flatten hgs)⟩
      have hgrown : isSeparator g = false → Bound false (word ++ g) := by
        intro hseparator
        have hbound : Bound false g := by
          refine hg.resolve_left fun hscore => ?_
          rw [hscore] at hseparator
          exact absurd hseparator (by decide)
        exact hword.append (hbound.of_false _)
      have hsign : rest ≠ [] → endsInSign (word ++ g) = false := by
        intro hrest
        obtain ⟨next, more, rfl⟩ := List.exists_cons_of_ne_nil hrest
        rw [endsInSign_append hne]
        exact (List.isChain_cons_cons.mp hgs.apart).1.sign
      unfold wordsFrom
      split
      · next hseparator =>
          refine ⟨hends hword (hlast (List.cons_ne_nil g rest)), ?_⟩
          rintro w ⟨⟩
          exact List.prefix_append _ _
      · next hseparator =>
          have hbound := hgrown (Bool.eq_false_iff.mpr hseparator)
          split
          · next hend =>
              have hrest : rest ≠ [] := by
                rintro rfl
                cases hend
              refine ⟨hends hbound (hsign hrest), ?_⟩
              rintro w ⟨⟩
              rw [List.flatten_cons, ← List.append_assoc]
              exact List.prefix_append _ _
          · obtain ⟨hseparate, hfirst⟩ := ih hgs.tail hbound hsign
            refine ⟨hseparate, fun w hw => ?_⟩
            rw [List.flatten_cons, ← List.append_assoc]
            exact hfirst w hw

/-- The words of a name in lower case keep their underscores. -/
theorem separate_loweredWords {name : String} (h : IsIdentifier name) :
    Separate (loweredWords name) := by
  have hnil : Bound false [] := trivial
  obtain ⟨⟨hbound, hapart⟩, -⟩ :=
    separate_wordsFrom (parted_clusters h.letters) hnil fun _ => rfl
  refine ⟨List.forall_mem_map.mpr fun w hw => bound_lowerAfter (hbound w hw) [], ?_⟩
  exact (List.isChain_map lowerChars).mpr (hapart.imp fun _ _ => apart_lowerChars)

/-- The iota below a letter joins the underscore before it, which then separates nothing. -/
example : loweredWords "a_\u0345b_c" = [['a', '_', '\u0345', 'b'], ['c']] := by
  decide +kernel

/-! ## Reading the words back -/

/-- The words of a text whose open word, backwards, is `word`: they end at the underscores with no
sign before and no mark behind. -/
def readWords (word : List Char) : List Char → List (List Char)
  | [] => [word.reverse]
  | c :: rest =>
    if c = '_' ∧ endsInSign word.reverse = false ∧ startsWithMark rest = false then
      word.reverse :: readWords [] rest
    else readWords (c :: word) rest

/-- A text with its underscores bound goes into the open word as a whole. -/
theorem readWords_append {w : List Char} (word rest : List Char)
    (h : Bound (endsInSign word.reverse) w) :
    readWords word (w ++ rest) = readWords (w.reverse ++ word) rest := by
  induction w generalizing word with
  | nil => rfl
  | cons c more ih =>
      have hmore : Bound (endsInSign (c :: word).reverse) more := by
        rw [List.reverse_cons, endsInSign_concat]
        exact h.2
      rw [List.cons_append, readWords, if_neg, ih _ hmore, List.reverse_cons, List.append_assoc]
      · rfl
      · rintro ⟨hc, hsign, hmark⟩
        rcases h.1 hc with hled | hmarked
        · exact Bool.eq_false_iff.mp hsign hled
        · exact Bool.eq_false_iff.mp hmark (startsWithMark_append hmarked rest)

theorem startsWithMark_intercalate {w : List Char} (h : startsWithMark w = false)
    (more : List (List Char)) : startsWithMark (['_'].intercalate (w :: more)) = false := by
  cases more with
  | nil => rwa [List.intercalate_singleton]
  | cons v more =>
      rw [List.intercalate_cons_cons]
      cases w with
      | nil => rw [List.nil_append, List.singleton_append, startsWithMark_cons, isMark_underscore]
      | cons c rest => exact h

theorem readWords_intercalate : ∀ {ws : List (List Char)}, ws ≠ [] → Separate ws →
    readWords [] (['_'].intercalate ws) = ws
  | [], hne, _ => absurd rfl hne
  | [w], _, h => by
      have hread := readWords_append [] [] (h.bound w List.mem_cons_self)
      rw [List.append_nil, List.append_nil] at hread
      rw [List.intercalate_singleton, hread, readWords, List.reverse_reverse]
  | w :: v :: more, _, h => by
      have ih := readWords_intercalate (List.cons_ne_nil v more)
        ⟨fun x hx => h.bound x (List.mem_cons_of_mem w hx), h.apart.tail⟩
      have hapart := (List.isChain_cons_cons.mp h.apart).1
      have hmark := startsWithMark_intercalate hapart.mark more
      rw [List.intercalate_cons_cons, List.append_assoc,
        readWords_append [] _ (h.bound w List.mem_cons_self), List.append_nil,
        List.singleton_append, readWords, List.reverse_reverse, if_pos ⟨rfl, hapart.sign, hmark⟩, ih]

theorem loweredWords_ne_nil (name : String) : loweredWords name ≠ [] := by
  have hwords : ∀ (gs : List (List Char)) (word : List Char), wordsFrom word gs ≠ [] := by
    intro gs
    induction gs with
    | nil => exact fun word => List.cons_ne_nil _ _
    | cons g rest ih =>
        intro word
        unfold wordsFrom
        split
        · exact List.cons_ne_nil _ _
        · split
          · exact List.cons_ne_nil _ _
          · exact ih _
  rw [loweredWords, Ne, List.map_eq_nil_iff]
  exact hwords _ _

/-- Two names are given the same table just if they have the same words in lower case. -/
theorem tableName_eq_iff {v w : String} (hv : IsIdentifier v) (hw : IsIdentifier w) :
    tableName v = tableName w ↔ loweredWords v = loweredWords w := by
  rw [← String.toList_inj, toList_tableName, toList_tableName]
  refine ⟨fun h => ?_, congrArg _⟩
  rw [← readWords_intercalate (loweredWords_ne_nil v) (separate_loweredWords hv), h,
    readWords_intercalate (loweredWords_ne_nil w) (separate_loweredWords hw)]

end CrudStack.Naming
