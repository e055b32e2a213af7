/-
# `CrudStack.Proofs.Json.Scan` — scanning finds what a text says

The scanner goes through a text from left to right, and a value is followed by the rest of the list
or the object that it stands in.  So each lemma is about a text with something behind it, and says
that the scanner stops exactly there, with a node that stands for the value.
-/
import CrudStack.Proofs.Json.Lexed

namespace CrudStack.Json

/-! ## The first character of a value -/

/-- A number begins with a sign or a digit. -/
theorem number_head {l : Literal} {cs : List Char} (h : l.Spelled cs) :
    ∃ c tail, cs = c :: tail ∧ (c = '-' ∨ Text.isAsciiDigit c = true) := by
  obtain ⟨hl, tail, -, rfl⟩ := h
  cases l.negative with
  | true => exact ⟨'-', _, rfl, .inl rfl⟩
  | false =>
      obtain ⟨d, ds, hds⟩ := List.exists_cons_of_ne_nil hl.whole.1
      rw [hds]
      exact ⟨d, _, rfl, .inr (List.all_eq_true.mp hl.whole.2 d (hds ▸ List.mem_cons_self))⟩

/-- A sign and digits begin nothing but numbers. -/
theorem number_only {c : Char} (h : c = '-' ∨ Text.isAsciiDigit c = true) :
    isBlank c = false ∧ c ≠ 'n' ∧ c ≠ 't' ∧ c ≠ 'f' ∧ c ≠ '"' ∧ c ≠ '[' ∧ c ≠ '\x7b' ∧ c ≠ ']' := by
  have hother : ∀ d : Char, (decide (d = '-') || Text.isAsciiDigit d) = false → c ≠ d := by
    rintro d hd rfl
    obtain ⟨hminus, hdigit⟩ := Bool.or_eq_false_iff.mp hd
    rcases h with h | h
    · exact of_decide_eq_false hminus h
    · exact Bool.false_ne_true (hdigit.symm.trans h)
  simp only [isBlank, Bool.or_eq_false_iff, decide_eq_false_iff_not]
  refine ⟨⟨⟨⟨?_, ?_⟩, ?_⟩, ?_⟩, ?_, ?_, ?_, ?_, ?_, ?_, ?_⟩ <;> exact hother _ (by decide)

/-- What a value begins with. -/
theorem value_head : ∀ (v : Value) {cs : List Char}, v.Spelled cs →
    ∃ c tail, cs = c :: tail ∧ isBlank c = false ∧ c ≠ ']'
  | .null, _, h => ⟨'n', _, h, by decide⟩
  | .bool true, _, h => ⟨'t', _, h, by decide⟩
  | .bool false, _, h => ⟨'f', _, h, by decide⟩
  | .number l, _, h => by
      obtain ⟨c, tail, rfl, hc⟩ := number_head h
      obtain ⟨hblank, -, -, -, -, -, -, hclose⟩ := number_only hc
      exact ⟨c, tail, rfl, hblank, hclose⟩
  | .text s, _, h => by
      obtain ⟨body, -, rfl⟩ := h
      exact ⟨'"', _, rfl, by decide⟩
  | .list [], _, h => by
      obtain ⟨inside, -, rfl⟩ := h
      exact ⟨'[', _, rfl, by decide⟩
  | .list (v :: vs), _, h => by
      obtain ⟨own, tail, -, -, rfl⟩ := h
      exact ⟨'[', _, rfl, by decide⟩
  | .object [], _, h => by
      obtain ⟨inside, -, rfl⟩ := h
      exact ⟨'\x7b', _, rfl, by decide⟩
  | .object ((key, v) :: ms), _, h => by
      obtain ⟨own, tail, -, -, rfl⟩ := h
      exact ⟨'\x7b', _, rfl, by decide⟩

/-! ## What follows a value -/

theorem endsValue_append {blanks rest : List Char} (h : Blanks blanks) (hrest : EndsValue rest) :
    EndsValue (blanks ++ rest) := by
  intro c hc
  cases blanks with
  | nil => exact hrest c hc
  | cons b bs =>
      cases hc
      exact .inl (List.all_eq_true.mp h _ List.mem_cons_self)

theorem itemsTail_head {vs : List Value} {tail : List Char} (h : ItemsSpelled vs tail)
    (rest : List Char) : EndsValue (tail ++ ']' :: rest) := by
  intro c hc
  cases vs with
  | nil =>
      cases h
      cases hc
      exact .inr (.inr (.inl rfl))
  | cons v vs =>
      obtain ⟨own, more, -, -, rfl⟩ := h
      cases hc
      exact .inr (.inl rfl)

theorem membersTail_head {ms : List (String × Value)} {tail : List Char}
    (h : MembersSpelled ms tail) (rest : List Char) : EndsValue (tail ++ '\x7d' :: rest) := by
  intro c hc
  cases ms with
  | nil =>
      cases h
      cases hc
      exact .inr (.inr (.inr rfl))
  | cons m ms =>
      obtain ⟨own, more, -, -, rfl⟩ := h
      cases hc
      exact .inr (.inl rfl)

/-! ## Values

Every call of the scanner costs one unit of fuel, and there are at most three of them for a
character: hence the bounds. -/

/-- The scanner finds a value and stops behind it. -/
def ValueFound (v : Value) (own : List Char) : Prop :=
  ∀ ⦃fuel : Nat⦄ ⦃rest : List Char⦄, 3 * own.length ≤ fuel → EndsValue rest → ∀ offset,
    ∃ node next, scanValue fuel ⟨offset, own ++ rest⟩ = (node, ⟨next, rest⟩) ∧ Denotes v node

/-- The scanner finds the rest of a list, behind an element and blanks, and stops behind it. -/
def ItemsFound (vs : List Value) (tail : List Char) : Prop :=
  ∀ ⦃fuel : Nat⦄ ⦃blanks : List Char⦄, 3 * tail.length + 1 ≤ fuel → Blanks blanks →
    ∀ (rest : List Char) offset, ∃ items next,
      scanItems fuel false ⟨offset, blanks ++ (tail ++ ']' :: rest)⟩ = (items, ⟨next, rest⟩) ∧
        DenotesItems vs items

/-- The scanner finds the rest of an object, behind a member and blanks, and stops behind it. -/
def MembersFound (ms : List (String × Value)) (tail : List Char) : Prop :=
  ∀ ⦃fuel : Nat⦄ ⦃blanks : List Char⦄, 3 * tail.length + 1 ≤ fuel → Blanks blanks →
    ∀ (rest : List Char) offset, ∃ members next,
      scanMembers fuel false ⟨offset, blanks ++ (tail ++ '\x7d' :: rest)⟩ =
        (members, ⟨next, rest⟩) ∧ DenotesMembers ms members

/-! ### Elements -/

theorem scanItems_first {own before : List Char}
    (hstart : ∃ c cs, own = c :: cs ∧ isBlank c = false ∧ c ≠ ']') (hbefore : Blanks before)
    (fuel offset : Nat) (rest : List Char) :
    scanItems (fuel + 1) true ⟨offset, before ++ (own ++ rest)⟩ =
      scanItem fuel ⟨offset + before.length, own ++ rest⟩ := by
  obtain ⟨c, cs, rfl, hblank, hclose⟩ := hstart
  have hblanks := skipBlanks_append hbefore offset (c :: cs ++ rest)
  rw [List.cons_append, skipBlanks_of_not hblank] at hblanks
  simp only [scanItems, Cursor.afterBlanks, List.cons_append, hblanks, if_true]

theorem scanItems_comma {own blanks before : List Char}
    (hstart : ∃ c cs, own = c :: cs ∧ isBlank c = false ∧ c ≠ ']') (hskip : Blanks blanks)
    (hbefore : Blanks before) (fuel offset : Nat) (rest : List Char) :
    scanItems (fuel + 1) false ⟨offset, blanks ++ ',' :: (before ++ (own ++ rest))⟩ =
      scanItem fuel ⟨offset + blanks.length + 1 + before.length, own ++ rest⟩ := by
  obtain ⟨c, cs, rfl, hblank, hclose⟩ := hstart
  have hcomma := skipBlanks_append hskip offset (',' :: (before ++ (c :: cs ++ rest)))
  rw [skipBlanks_of_not (by decide)] at hcomma
  have hblanks := skipBlanks_append hbefore (offset + blanks.length + 1) (c :: cs ++ rest)
  rw [List.cons_append, skipBlanks_of_not hblank] at hblanks
  rw [List.cons_append] at hcomma
  simp only [scanItems, Cursor.afterBlanks, List.cons_append, hcomma, hblanks, Char.reduceEq,
    false_implies, if_true, Bool.false_eq_true, if_false]

theorem scanItems_close {blanks : List Char} (hskip : Blanks blanks) (fuel : Nat) (first : Bool)
    (offset : Nat) (rest : List Char) :
    scanItems (fuel + 1) first ⟨offset, blanks ++ ']' :: rest⟩ =
      (.close (offset + blanks.length + 1), ⟨offset + blanks.length + 1, rest⟩) := by
  have hclose := skipBlanks_append hskip offset (']' :: rest)
  rw [skipBlanks_of_not (by decide)] at hclose
  simp only [scanItems, Cursor.afterBlanks, hclose]

/-- An element is found with the rest of its list. -/
theorem scanItem_found {v : Value} {vs : List Value} {own after tail rest : List Char} {fuel : Nat}
    (hv : ValueFound v own) (hvs : ItemsFound vs tail) (hown : 3 * own.length ≤ fuel)
    (htail : 3 * tail.length + 1 ≤ fuel) (hafter : Blanks after)
    (hends : EndsValue (tail ++ ']' :: rest)) (offset : Nat) :
    ∃ items next,
      scanItem (fuel + 1) ⟨offset, own ++ (after ++ (tail ++ ']' :: rest))⟩ =
        (items, ⟨next, rest⟩) ∧ DenotesItems (v :: vs) items := by
  obtain ⟨node, behind, hnode, hdenotes⟩ := hv hown (endsValue_append hafter hends) offset
  obtain ⟨items, next, hitems, hothers⟩ := hvs htail hafter rest behind
  refine ⟨.item offset node items, next, ?_, offset, node, items, rfl, hdenotes, hothers⟩
  simp only [scanItem, hnode, hitems]

/-! ### Members -/

theorem scanMembers_first {before : List Char} (hbefore : Blanks before) (fuel offset : Nat)
    (rest : List Char) :
    scanMembers (fuel + 1) true ⟨offset, before ++ '"' :: rest⟩ =
      scanMember fuel ⟨offset + before.length + 1, rest⟩ := by
  have hblanks := skipBlanks_append hbefore offset ('"' :: rest)
  rw [skipBlanks_of_not (by decide)] at hblanks
  simp only [scanMembers, Cursor.afterBlanks, hblanks, Char.reduceEq, false_implies,
    if_true]

theorem scanMembers_comma {blanks before : List Char} (hskip : Blanks blanks)
    (hbefore : Blanks before) (fuel offset : Nat) (rest : List Char) :
    scanMembers (fuel + 1) false ⟨offset, blanks ++ ',' :: (before ++ '"' :: rest)⟩ =
      scanMember fuel ⟨offset + blanks.length + 1 + before.length + 1, rest⟩ := by
  have hcomma := skipBlanks_append hskip offset (',' :: (before ++ '"' :: rest))
  rw [skipBlanks_of_not (by decide)] at hcomma
  have hblanks := skipBlanks_append hbefore (offset + blanks.length + 1) ('"' :: rest)
  rw [skipBlanks_of_not (by decide)] at hblanks
  simp only [scanMembers, Cursor.afterBlanks, hcomma, hblanks, Char.reduceEq, false_implies,
    if_true, Bool.false_eq_true, if_false]

theorem scanMembers_close {blanks : List Char} (hskip : Blanks blanks) (fuel : Nat) (first : Bool)
    (offset : Nat) (rest : List Char) :
    scanMembers (fuel + 1) first ⟨offset, blanks ++ '\x7d' :: rest⟩ =
      (.close (offset + blanks.length + 1), ⟨offset + blanks.length + 1, rest⟩) := by
  have hclose := skipBlanks_append hskip offset ('\x7d' :: rest)
  rw [skipBlanks_of_not (by decide)] at hclose
  simp only [scanMembers, Cursor.afterBlanks, hclose]

/-- A member is found with the rest of its object, behind the quote before its key. -/
theorem scanMember_found {key : String} {v : Value} {ms : List (String × Value)}
    {body between before own after tail rest : List Char} {fuel : Nat}
    (hkey : CharsSpelled key.toList body) (hbetween : Blanks between) (hbefore : Blanks before)
    (hstart : ∃ c cs, own = c :: cs ∧ isBlank c = false ∧ c ≠ ']') (hv : ValueFound v own)
    (hms : MembersFound ms tail) (hown : 3 * own.length ≤ fuel)
    (htail : 3 * tail.length + 1 ≤ fuel) (hafter : Blanks after)
    (hends : EndsValue (tail ++ '\x7d' :: rest)) (offset : Nat) :
    ∃ members next,
      scanMember (fuel + 1) ⟨offset, body ++ '"' :: (between ++ ':' :: (before ++ (own ++
        (after ++ (tail ++ '\x7d' :: rest)))))⟩ = (members, ⟨next, rest⟩) ∧
        DenotesMembers ((key, v) :: ms) members := by
  obtain ⟨quoted, hquoted⟩ := lexString_append hkey offset
    (between ++ ':' :: (before ++ (own ++ (after ++ (tail ++ '\x7d' :: rest)))))
  have hcolon := skipBlanks_append hbetween quoted
    (':' :: (before ++ (own ++ (after ++ (tail ++ '\x7d' :: rest)))))
  rw [skipBlanks_of_not (by decide)] at hcolon
  have hblanks := skipBlanks_append hbefore (quoted + between.length + 1)
    (own ++ (after ++ (tail ++ '\x7d' :: rest)))
  obtain ⟨c, cs, rfl, hc, -⟩ := hstart
  rw [List.cons_append, skipBlanks_of_not hc, ← List.cons_append] at hblanks
  obtain ⟨node, behind, hnode, hdenotes⟩ := hv hown (endsValue_append hafter hends)
    (quoted + between.length + 1 + before.length)
  obtain ⟨members, next, hmembers, hothers⟩ := hms htail hafter rest behind
  refine ⟨.member (.ok key) (quoted + between.length) node members, next, ?_, _, node, members, rfl,
    hdenotes, hothers⟩
  simp only [scanMember, hquoted, Cursor.afterBlanks, hcolon, hblanks, hnode, hmembers]
  rfl

/-! ### Every value -/

/-- A value takes three units of fuel at least, because it has a first character. -/
theorem fuel_of_value {v : Value} {own : List Char} (h : v.Spelled own) {fuel : Nat}
    (hfuel : 3 * own.length ≤ fuel) : ∃ left, fuel = left + 3 := by
  obtain ⟨c, cs, rfl, -⟩ := value_head v h
  rw [List.length_cons] at hfuel
  exact Nat.exists_eq_add_of_le' (by omega)

theorem word_found {v : Value} {c : Char} {word : List Char} {value : Document}
    (h : v.Spelled (c :: word))
    (hscan : ∀ fuel offset rest, scanValue (fuel + 1) ⟨offset, c :: rest⟩ =
      (lexWord value (offset + 1) word rest).toNode .scalar)
    (hdenotes : ∀ stop, Denotes v (.scalar (.ok value) stop)) : ValueFound v (c :: word) := by
  intro fuel rest hfuel _ offset
  obtain ⟨fuel, rfl⟩ := fuel_of_value h hfuel
  refine ⟨_, offset + 1 + word.length, ?_, hdenotes (offset + 1 + word.length)⟩
  rw [List.cons_append, hscan, lexWord_append]
  rfl

theorem number_found {l : Literal} {own : List Char} (h : l.Spelled own) :
    ValueFound (.number l) own := by
  intro fuel rest hfuel hrest offset
  obtain ⟨fuel, rfl⟩ := fuel_of_value (v := .number l) h hfuel
  obtain ⟨a, b, next, hlexed⟩ := lexNumber_append h hrest offset
  obtain ⟨c, cs, rfl, hc⟩ := number_head h
  obtain ⟨-, hn, ht, hf, hquote, hlist, hobject, -⟩ := number_only hc
  refine ⟨.scalar (l.numeral a b).value next, next, ?_, a, b, next, rfl⟩
  have hstart : (decide (c = '-') || Text.isAsciiDigit c) = true := by
    simpa only [Bool.or_eq_true, decide_eq_true_eq] using hc
  rw [List.cons_append] at hlexed ⊢
  simp only [scanValue, hstart, if_true, hlexed]
  rfl

theorem text_found {s : String} {own : List Char} (h : StringSpelled s own) :
    ValueFound (.text s) own := by
  intro fuel rest hfuel _ offset
  obtain ⟨fuel, rfl⟩ := fuel_of_value (v := .text s) h hfuel
  obtain ⟨body, hbody, rfl⟩ := h
  obtain ⟨next, hlexed⟩ := lexString_append hbody (offset + 1) rest
  refine ⟨.text (.ok s) next, next, ?_, next, rfl⟩
  simp only [List.cons_append, List.append_assoc, List.nil_append, scanValue, hlexed]
  rfl

-- By recursion on the value, with the tails of lists and objects.  The blanks around an element are
-- taken by what stands before it, so that the element is found where it begins.
mutual

/-- The scanner finds every value. -/
theorem value_found : ∀ (v : Value) {own : List Char}, v.Spelled own → ValueFound v own
  | .null, _, h => by
      cases h
      exact word_found rfl (fun _ _ _ => rfl) fun stop => ⟨stop, rfl⟩
  | .bool true, _, h => by
      cases h
      exact word_found rfl (fun _ _ _ => rfl) fun stop => ⟨stop, rfl⟩
  | .bool false, _, h => by
      cases h
      exact word_found rfl (fun _ _ _ => rfl) fun stop => ⟨stop, rfl⟩
  | .number l, _, h => number_found h
  | .text s, _, h => text_found h
  | .list [], _, h => by
      intro fuel rest hfuel _ offset
      obtain ⟨fuel, rfl⟩ := fuel_of_value h hfuel
      obtain ⟨inside, hinside, rfl⟩ := h
      refine ⟨.list offset (.close (offset + 1 + inside.length + 1)),
        offset + 1 + inside.length + 1, ?_, offset, _, rfl, _, rfl⟩
      simp only [List.cons_append, List.append_assoc, List.nil_append, scanValue,
        scanItems_close hinside]
  | .list (v :: vs), _, h => by
      intro fuel rest hfuel _ offset
      obtain ⟨fuel, rfl⟩ := fuel_of_value h hfuel
      obtain ⟨_, tail, ⟨before, own, after, hbefore, hown, hafter, rfl⟩, htail, rfl⟩ := h
      simp only [List.length_cons, List.length_append] at hfuel
      obtain ⟨items, next, hscan, hitems⟩ := scanItem_found (value_found v hown)
        (items_found vs htail) (by omega : 3 * own.length ≤ fuel)
        (by omega : 3 * tail.length + 1 ≤ fuel) hafter (itemsTail_head htail rest)
        (offset + 1 + before.length)
      refine ⟨.list offset items, next, ?_, offset, items, rfl, hitems⟩
      simp only [List.cons_append, List.append_assoc, List.nil_append, scanValue,
        scanItems_first (value_head v hown) hbefore, hscan]
  | .object [], _, h => by
      intro fuel rest hfuel _ offset
      obtain ⟨fuel, rfl⟩ := fuel_of_value h hfuel
      obtain ⟨inside, hinside, rfl⟩ := h
      refine ⟨.object offset (.close (offset + 1 + inside.length + 1)),
        offset + 1 + inside.length + 1, ?_, offset, _, rfl, _, rfl⟩
      simp only [List.cons_append, List.append_assoc, List.nil_append, scanValue,
        scanMembers_close hinside]
  | .object ((key, v) :: ms), _, h => by
      intro fuel rest hfuel _ offset
      obtain ⟨fuel, rfl⟩ := fuel_of_value h hfuel
      obtain ⟨_, tail, ⟨before, _, between, _, hbefore, ⟨body, hbody, rfl⟩, hbetween,
        ⟨blanks, own, after, hblanks, hown, hafter, rfl⟩, rfl⟩, htail, rfl⟩ := h
      simp only [List.length_cons, List.length_append] at hfuel
      obtain ⟨members, next, hscan, hmembers⟩ := scanMember_found hbody hbetween hblanks
        (value_head v hown) (value_found v hown) (members_found ms htail)
        (by omega : 3 * own.length ≤ fuel) (by omega : 3 * tail.length + 1 ≤ fuel) hafter
        (membersTail_head htail rest) (offset + 1 + before.length + 1)
      refine ⟨.object offset members, next, ?_, offset, members, rfl, hmembers⟩
      simp only [List.cons_append, List.append_assoc, List.nil_append, scanValue,
        scanMembers_first hbefore, hscan]

theorem items_found : ∀ (vs : List Value) {tail : List Char}, ItemsSpelled vs tail →
    ItemsFound vs tail
  | [], _, h => by
      cases h
      intro fuel blanks hfuel hblanks rest offset
      obtain ⟨fuel, rfl⟩ := Nat.exists_eq_add_of_le' hfuel
      exact ⟨_, _, scanItems_close hblanks fuel false offset rest, _, rfl⟩
  | v :: vs, _, h => by
      intro fuel blanks hfuel hblanks rest offset
      obtain ⟨_, tail, ⟨before, own, after, hbefore, hown, hafter, rfl⟩, htail, rfl⟩ := h
      simp only [List.length_cons, List.length_append] at hfuel
      obtain ⟨fuel, rfl⟩ := Nat.exists_eq_add_of_le' (by omega : 2 ≤ fuel)
      obtain ⟨items, next, hscan, hitems⟩ := scanItem_found (value_found v hown)
        (items_found vs htail) (by omega : 3 * own.length ≤ fuel)
        (by omega : 3 * tail.length + 1 ≤ fuel) hafter (itemsTail_head htail rest)
        (offset + blanks.length + 1 + before.length)
      refine ⟨items, next, ?_, hitems⟩
      simp only [List.cons_append, List.append_assoc,
        scanItems_comma (value_head v hown) hblanks hbefore, hscan]

theorem members_found : ∀ (ms : List (String × Value)) {tail : List Char}, MembersSpelled ms tail →
    MembersFound ms tail
  | [], _, h => by
      cases h
      intro fuel blanks hfuel hblanks rest offset
      obtain ⟨fuel, rfl⟩ := Nat.exists_eq_add_of_le' hfuel
      exact ⟨_, _, scanMembers_close hblanks fuel false offset rest, _, rfl⟩
  | (key, v) :: ms, _, h => by
      intro fuel skipped hfuel hskipped rest offset
      obtain ⟨_, tail, ⟨before, _, between, _, hbefore, ⟨body, hbody, rfl⟩, hbetween,
        ⟨blanks, own, after, hblanks, hown, hafter, rfl⟩, rfl⟩, htail, rfl⟩ := h
      simp only [List.length_cons, List.length_append] at hfuel
      obtain ⟨fuel, rfl⟩ := Nat.exists_eq_add_of_le' (by omega : 2 ≤ fuel)
      obtain ⟨members, next, hscan, hmembers⟩ := scanMember_found hbody hbetween hblanks
        (value_head v hown) (value_found v hown) (members_found ms htail)
        (by omega : 3 * own.length ≤ fuel) (by omega : 3 * tail.length + 1 ≤ fuel) hafter
        (membersTail_head htail rest) (offset + skipped.length + 1 + before.length + 1)
      refine ⟨members, next, ?_, hmembers⟩
      simp only [List.cons_append, List.append_assoc, List.nil_append,
        scanMembers_comma hskipped hbefore, hscan]

end

/-! ## Texts -/

/-- A text is scanned to a node that stands for what the text says, with nothing behind it. -/
theorem scan_found {v : Value} {text : String} (h : v.IsTextOf text) :
    Denotes v (scan text).root ∧ (scan text).trailing = none := by
  obtain ⟨before, own, after, hbefore, hown, hafter, htext⟩ := h
  obtain ⟨c, cs, hcs, hc, -⟩ := value_head v hown
  have hends : EndsValue after := by
    have hnothing : EndsValue [] := fun c hc => by cases hc
    have := endsValue_append hafter hnothing
    rwa [List.append_nil] at this
  have hfuel : 3 * own.length ≤ 3 * text.toList.length + 3 := by
    rw [htext, List.length_append, List.length_append]
    omega
  obtain ⟨node, next, hscan, hdenotes⟩ := value_found v hown hfuel hends before.length
  have hstart : skipBlanks 0 text.toList = ⟨before.length, own ++ after⟩ := by
    rw [htext, skipBlanks_append hbefore, hcs, List.cons_append, skipBlanks_of_not hc,
      Nat.zero_add]
  have hover : (skipBlanks next after).rest = [] := by
    have := skipBlanks_append hafter next []
    rw [List.append_nil] at this
    rw [this]
    rfl
  rw [scan, hstart, hscan]
  refine ⟨hdenotes, ?_⟩
  simp only [Cursor.afterBlanks, hover]
  rfl

end CrudStack.Json
