/-
# `CrudStack.Proofs.Json.Written` — a written value is one of its texts

The writer has no blanks, and it escapes fewer characters by their numbers than the compact text
does: those that have an escape of one letter are written with it.  What it writes for the data of a
value without numbers is a text of the value; a number is written as what it is worth and not digit
by digit.
-/
import CrudStack.Json.Writer
import CrudStack.Proofs.Json.Compact
import CrudStack.Proofs.Json.Denoted

namespace CrudStack.Json

/-! ## Strings -/

theorem controlEscape_eq : ∀ n < 0x20, controlEscape (Char.ofNat n) =
    ['\\', 'u', '0', '0', hexDigit (n / 16), hexDigit (n % 16)] := by
  decide +kernel

theorem charsSpelled_escapeChar (cs : List Char) : CharsSpelled cs (cs.flatMap escapeChar) := by
  induction cs with
  | nil => exact .nil
  | cons c cs ih =>
      rw [List.flatMap_cons, escapeChar]
      split
      · next h =>
          subst h
          exact .short rfl ih
      split
      · next h =>
          subst h
          exact .short rfl ih
      split
      · next h =>
          subst h
          exact .short rfl ih
      split
      · next h =>
          subst h
          exact .short rfl ih
      split
      · next h =>
          subst h
          exact .short rfl ih
      split
      · next h =>
          subst h
          exact .short rfl ih
      split
      · next h =>
          subst h
          exact .short rfl ih
      split
      · next hcontrol =>
          obtain ⟨hnumber, hlead, htrail⟩ := hexFour?_control c.toNat hcontrol
          have hspelled := CharsSpelled.code hnumber hlead htrail ih
          have heq := controlEscape_eq c.toNat hcontrol
          rw [Char.ofNat_toNat] at heq hspelled
          rw [heq]
          exact hspelled
      · next hquote hslash _ _ _ _ _ hcontrol =>
          exact .plain hquote hslash (Nat.le_of_not_lt hcontrol) ih

theorem stringSpelled_chars (s : String) : StringSpelled s (stringChars s) :=
  ⟨_, charsSpelled_escapeChar s.toList, rfl⟩

/-! ## Values -/

theorem entrySpelled_chars (key : String) {spelled : List Char → Prop} {cs : List Char}
    (h : spelled cs) : EntrySpelled key spelled (stringChars key ++ ':' :: cs) :=
  ⟨[], stringChars key, [], cs, rfl, stringSpelled_chars key, rfl, padded_bare h, rfl⟩

mutual

/-- What is written for the data of a value spells the value. -/
theorem spelled_chars : ∀ v : Value, v.numbers = [] → v.Spelled (chars v.document)
  | .null, _ => rfl
  | .bool true, _ => rfl
  | .bool false, _ => rfl
  | .number _, h => nomatch h
  | .text s, _ => stringSpelled_chars s
  | .list [], _ => ⟨[], rfl, rfl⟩
  | .list (v :: vs), h => by
      obtain ⟨hv, hvs⟩ := List.append_eq_nil_iff.mp h
      obtain ⟨tail, htail, heq⟩ := itemsSpelled_chars vs hvs
      refine ⟨_, tail, padded_bare (spelled_chars v hv), htail, ?_⟩
      rw [Value.document, itemDocuments, chars, heq]
  | .object [], _ => ⟨[], rfl, rfl⟩
  | .object ((key, v) :: ms), h => by
      obtain ⟨hv, hms⟩ := List.append_eq_nil_iff.mp h
      obtain ⟨tail, htail, heq⟩ := membersSpelled_chars ms hms
      refine ⟨_, tail, entrySpelled_chars key (spelled_chars v hv), htail, ?_⟩
      rw [Value.document, memberDocuments, chars, heq]
      simp

theorem itemsSpelled_chars : ∀ vs : List Value, itemsNumbers vs = [] →
    ∃ tail, ItemsSpelled vs tail ∧ itemChars (itemDocuments vs) = tail ++ [']']
  | [], _ => ⟨[], rfl, rfl⟩
  | v :: vs, h => by
      obtain ⟨hv, hvs⟩ := List.append_eq_nil_iff.mp h
      obtain ⟨tail, htail, heq⟩ := itemsSpelled_chars vs hvs
      refine ⟨_, ⟨_, tail, padded_bare (spelled_chars v hv), htail, rfl⟩, ?_⟩
      rw [itemDocuments, itemChars, heq]
      simp

theorem membersSpelled_chars : ∀ ms : List (String × Value), membersNumbers ms = [] →
    ∃ tail, MembersSpelled ms tail ∧ entryChars (memberDocuments ms) = tail ++ ['\x7d']
  | [], _ => ⟨[], rfl, rfl⟩
  | (key, v) :: ms, h => by
      obtain ⟨hv, hms⟩ := List.append_eq_nil_iff.mp h
      obtain ⟨tail, htail, heq⟩ := membersSpelled_chars ms hms
      refine ⟨_, ⟨_, tail, entrySpelled_chars key (spelled_chars v hv), htail, rfl⟩, ?_⟩
      rw [memberDocuments, entryChars, heq]
      simp

end

/-- A value without numbers is what its written data say. -/
theorem isTextOf_write {v : Value} (h : v.numbers = []) : v.IsTextOf (write v.document) := by
  rw [Value.IsTextOf, write, String.toList_ofList]
  exact padded_bare (spelled_chars v h)

end CrudStack.Json
