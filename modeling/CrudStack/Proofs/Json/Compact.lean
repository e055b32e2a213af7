/-
# `CrudStack.Proofs.Json.Compact` — every value has a text

The compact text of a value has no blanks, no sign that an exponent does not need, and no escape for
what a string can have as it is.  It spells the value, so the grammar leaves none out.
-/
import CrudStack.Proofs.Json.Grammar

namespace CrudStack.Json

/-! ## Strings -/

/-- A digit of base sixteen. -/
def hexDigit (n : Nat) : Char := if n < 10 then Char.ofNat (n + 0x30) else Char.ofNat (n + 0x57)

/-- The text of a character inside a string. -/
def escape (c : Char) : List Char :=
  if c = '"' then ['\\', '"']
  else if c = '\\' then ['\\', '\\']
  else if c.toNat < 0x20 then
    ['\\', 'u', '0', '0', hexDigit (c.toNat / 16), hexDigit (c.toNat % 16)]
  else [c]

/-- The text of a string. -/
def quoted (s : String) : List Char := '"' :: (s.toList.flatMap escape ++ ['"'])

/-- A control character is spelled by its number. -/
theorem hexFour?_control : ∀ n < 0x20,
    hexFour? '0' '0' (hexDigit (n / 16)) (hexDigit (n % 16)) = some n ∧ isLeading n = false ∧
      isTrailing n = false := by
  decide

theorem charsSpelled_escape (cs : List Char) : CharsSpelled cs (cs.flatMap escape) := by
  induction cs with
  | nil => exact .nil
  | cons c cs ih =>
      rw [List.flatMap_cons]
      by_cases hquote : c = '"'
      · subst hquote
        exact .short rfl ih
      by_cases hslash : c = '\\'
      · subst hslash
        exact .short rfl ih
      by_cases hcontrol : c.toNat < 0x20
      · obtain ⟨hnumber, hlead, htrail⟩ := hexFour?_control c.toNat hcontrol
        rw [escape, if_neg hquote, if_neg hslash, if_pos hcontrol]
        have := CharsSpelled.code hnumber hlead htrail ih
        rwa [Char.ofNat_toNat] at this
      · rw [escape, if_neg hquote, if_neg hslash, if_neg hcontrol]
        exact .plain hquote hslash (Nat.le_of_not_lt hcontrol) ih

theorem stringSpelled_quoted (s : String) : StringSpelled s (quoted s) :=
  ⟨_, charsSpelled_escape s.toList, rfl⟩

/-! ## Numbers -/

/-- The text of an exponent. -/
def exponentText : Option (Bool × List Char) → List Char
  | none => []
  | some (false, ds) => 'e' :: ds
  | some (true, ds) => 'e' :: '-' :: ds

theorem exponentSpelled_text : ∀ exponent, ExponentSpelled exponent (exponentText exponent)
  | none => .absent
  | some (false, _) => .unsigned (.inl rfl)
  | some (true, _) => .down (.inl rfl)

/-- The text of a number. -/
def Literal.compact (l : Literal) : List Char :=
  signText l.negative ++ (l.whole ++ (fractionText l.fraction ++ exponentText l.exponent))

/-! ## Values -/

mutual

/-- The compact text of a value. -/
def Value.compact : Value → List Char
  | .null => "null".toList
  | .bool true => "true".toList
  | .bool false => "false".toList
  | .number l => l.compact
  | .text s => quoted s
  | .list [] => ['[', ']']
  | .list (v :: vs) => '[' :: (v.compact ++ (itemsCompact vs ++ [']']))
  | .object [] => ['\x7b', '\x7d']
  | .object ((key, v) :: ms) =>
    '\x7b' :: ((quoted key ++ ':' :: v.compact) ++ (membersCompact ms ++ ['\x7d']))

/-- The compact text of the elements behind the first one. -/
def itemsCompact : List Value → List Char
  | [] => []
  | v :: vs => ',' :: (v.compact ++ itemsCompact vs)

/-- The compact text of the members behind the first one. -/
def membersCompact : List (String × Value) → List Char
  | [] => []
  | (key, v) :: ms => ',' :: ((quoted key ++ ':' :: v.compact) ++ membersCompact ms)

end

theorem padded_bare {spelled : List Char → Prop} {cs : List Char} (h : spelled cs) :
    Padded spelled cs := ⟨[], cs, [], rfl, h, rfl, (List.append_nil cs).symm⟩

theorem entrySpelled_bare (key : String) {spelled : List Char → Prop} {cs : List Char}
    (h : spelled cs) : EntrySpelled key spelled (quoted key ++ ':' :: cs) :=
  ⟨[], quoted key, [], cs, rfl, stringSpelled_quoted key, rfl, padded_bare h, rfl⟩

mutual

/-- The compact text spells its value, if the numbers are well-formed. -/
theorem spelled_compact : ∀ v : Value, (∀ l ∈ v.numbers, l.WellFormed) → v.Spelled v.compact
  | .null, _ => rfl
  | .bool true, _ => rfl
  | .bool false, _ => rfl
  | .number l, h => ⟨h l (List.mem_singleton_self l), _, exponentSpelled_text l.exponent, rfl⟩
  | .text s, _ => stringSpelled_quoted s
  | .list [], _ => ⟨[], rfl, rfl⟩
  | .list (v :: vs), h =>
      ⟨_, _, padded_bare (spelled_compact v fun l hl => h l (List.mem_append_left _ hl)),
        itemsSpelled_compact vs fun l hl => h l (List.mem_append_right _ hl), rfl⟩
  | .object [], _ => ⟨[], rfl, rfl⟩
  | .object ((key, v) :: ms), h =>
      ⟨_, _, entrySpelled_bare key (spelled_compact v fun l hl => h l (List.mem_append_left _ hl)),
        membersSpelled_compact ms fun l hl => h l (List.mem_append_right _ hl), rfl⟩

theorem itemsSpelled_compact : ∀ vs : List Value, (∀ l ∈ itemsNumbers vs, l.WellFormed) →
    ItemsSpelled vs (itemsCompact vs)
  | [], _ => rfl
  | v :: vs, h =>
      ⟨_, _, padded_bare (spelled_compact v fun l hl => h l (List.mem_append_left _ hl)),
        itemsSpelled_compact vs fun l hl => h l (List.mem_append_right _ hl), rfl⟩

theorem membersSpelled_compact : ∀ ms : List (String × Value),
    (∀ l ∈ membersNumbers ms, l.WellFormed) → MembersSpelled ms (membersCompact ms)
  | [], _ => rfl
  | (key, v) :: ms, h =>
      ⟨_, _, entrySpelled_bare key (spelled_compact v fun l hl => h l (List.mem_append_left _ hl)),
        membersSpelled_compact ms fun l hl => h l (List.mem_append_right _ hl), rfl⟩

end

/-- The compact text. -/
def Value.compactText (v : Value) : String := String.ofList v.compact

/-- Every value is what some text says. -/
theorem isTextOf_compactText {v : Value} (h : ∀ l ∈ v.numbers, l.WellFormed) :
    v.IsTextOf v.compactText := by
  rw [Value.IsTextOf, Value.compactText, String.toList_ofList]
  exact padded_bare (spelled_compact v h)

end CrudStack.Json
