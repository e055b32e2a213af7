/-
# `CrudStack.Proofs.Json.Denoted` — the nodes of a value, and what their readers make of them

A text is scanned into a node that has offsets and flaws in it.  `Denotes` forgets the offsets: a
node stands for a value if it has its structure and no flaw but for numbers, which are flawed if
they are out of range.

Two facts are all that anybody needs to know about such nodes.  They can be skipped, whatever
numbers they have and however deep they are (`skip_of_denotes`).  And if they are not too deep, they
are read as the data that the value stands for if and only if no number is out of range
(`read_eq_ok`).
-/
import CrudStack.Json.Node
import CrudStack.Proofs.Json.Grammar
import CrudStack.Proofs.Success

namespace CrudStack.Json

/-! ## Numbers -/

/-- A number with the offsets that its flaws are placed at. -/
def Literal.numeral (l : Literal) (exponentOffset stop : Nat) : Numeral :=
  ⟨l.negative, l.whole, l.fraction, l.exponent, exponentOffset, stop⟩

/-- A number has a value: it is an integer of 64 bits, or it is not beyond the greatest double.  How
large that lets a number be is said in `CrudStack.Proofs.Json.Range`. -/
def Literal.InRange (l : Literal) : Prop := ∃ d, (l.numeral 0 0).value = .ok d

/-- The data of a number; null if it is out of range. -/
def Literal.document (l : Literal) : Document :=
  match (l.numeral 0 0).value with
  | .ok d => d
  | .error _ => .null

theorem toDouble_eq_ok {l : Literal} {a b significand : Nat} {power : Int} {d : Document}
    (h : (l.numeral a b).toDouble significand power = .ok d) :
    (∃ x, d = .double x) ∧ ∀ a b, (l.numeral a b).toDouble significand power = .ok d := by
  unfold Numeral.toDouble at h ⊢
  split at h
  · next x hx =>
      cases h
      exact ⟨⟨_, rfl⟩, fun _ _ => rfl⟩
  · cases h

theorem wholeValue_number (n : Numeral) (significand : Nat) :
    (∃ i, n.wholeValue significand = .integer i) ∨ ∃ x, n.wholeValue significand = .double x := by
  unfold Numeral.wholeValue
  split
  · exact .inl ⟨_, rfl⟩
  · split
    · exact .inr ⟨_, rfl⟩
    · exact .inl ⟨_, rfl⟩

/-- The value of a number is a number, and does not depend on its place. -/
theorem value_eq_ok {l : Literal} {a b : Nat} {d : Document} (h : (l.numeral a b).value = .ok d) :
    ((∃ i, d = .integer i) ∨ ∃ x, d = .double x) ∧ ∀ a b, (l.numeral a b).value = .ok d := by
  have hdouble : ∀ {n power}, (l.numeral a b).toDouble n power = .ok d →
      ((∃ i, d = .integer i) ∨ ∃ x, d = .double x) ∧
        ∀ a b, (l.numeral a b).toDouble n power = .ok d := fun h =>
    (toDouble_eq_ok h).imp_left .inr
  obtain ⟨negative, whole, fraction, exponent⟩ := l
  unfold Literal.numeral at h hdouble ⊢
  rcases exponent with - | ⟨down, digits⟩
  · cases fraction with
    | none =>
        by_cases hfits : (absorb wordLimit 0 whole).2.isEmpty = true
        · simp only [Numeral.value, if_pos hfits, Except.ok.injEq] at h ⊢
          subst h
          exact ⟨wholeValue_number _ _, fun _ _ => rfl⟩
        · simp only [Numeral.value, if_neg hfits] at h ⊢
          exact hdouble h
    | some ds => exact hdouble h
  · by_cases hfits : (absorb exponentLimit 0 digits).2.isEmpty = true
    · simp only [Numeral.value, if_pos hfits] at h ⊢
      exact hdouble h
    · by_cases hlarge : (absorb wordLimit (absorb wordLimit 0 whole).1 (fraction.getD [])).1 ≠ 0 ∧
        (!down) = true
      · simp only [Numeral.value, if_neg hfits, if_pos hlarge] at h
        cases h
      · simp only [Numeral.value, if_neg hfits, if_neg hlarge, Except.ok.injEq] at h ⊢
        exact ⟨.inr ⟨_, h.symm⟩, fun _ _ => h⟩

/-- A number is read as its data if it is in range, and is refused otherwise. -/
theorem number_eq_ok {l : Literal} {a b : Nat} {d : Document} :
    (l.numeral a b).value = .ok d ↔ d = l.document ∧ l.InRange := by
  constructor
  · intro h
    have hplace := (value_eq_ok h).2 0 0
    exact ⟨by rw [Literal.document, hplace], d, hplace⟩
  · rintro ⟨rfl, d, hd⟩
    rw [(value_eq_ok hd).2 a b, Literal.document, hd]

/-- What stands for a number is no text, no list and no table. -/
theorem document_number (l : Literal) :
    l.document = .null ∨ (∃ i, l.document = .integer i) ∨ ∃ x, l.document = .double x := by
  unfold Literal.document
  split
  · next d hd => exact .inr (value_eq_ok hd).1
  · exact .inl rfl

/-! ## Integers of 64 bits -/

namespace Literal

theorem le_foldl_digits (ds : List Char) (n : Nat) :
    n ≤ ds.foldl (fun n c => n * 10 + digitValue c) n := by
  induction ds generalizing n with
  | nil => exact Nat.le_refl n
  | cons c ds ih =>
      have hstep := ih (n * 10 + digitValue c)
      rw [List.foldl_cons]
      omega

/-- Digits that stay within a limit are all absorbed. -/
theorem absorb_of_le {limit : Nat} : ∀ {ds : List Char} {n : Nat},
    ds.foldl (fun n c => n * 10 + digitValue c) n ≤ limit →
      absorb limit n ds = (ds.foldl (fun n c => n * 10 + digitValue c) n, [])
  | [], _, _ => rfl
  | c :: ds, n, h => by
      have hmore : n * 10 + digitValue c ≤ limit := Nat.le_trans (le_foldl_digits ds _) h
      rw [absorb, if_pos hmore]
      exact absorb_of_le h

/-- An integer of 64 bits is in range. -/
theorem inRange_of_integer {l : Literal} (hwhole : l.IsWhole)
    (hlow : -(Nat.pow 2 63 : Int) ≤ l.integer) (hhigh : l.integer < (Nat.pow 2 63 : Int)) :
    l.InRange := by
  obtain ⟨negative, whole, fraction, exponent⟩ := l
  obtain ⟨hfraction, hexponent⟩ := hwhole
  simp only at hfraction hexponent
  subst hfraction hexponent
  have hlimit : natural whole ≤ wordLimit := by
    have hhalf : Nat.pow 2 63 = 9223372036854775808 := rfl
    have hword : wordLimit = 18446744073709551615 := rfl
    unfold integer at hlow hhigh
    rw [hhalf] at hlow hhigh
    cases negative <;> simp only [if_true, Bool.false_eq_true, if_false] at hlow hhigh <;> omega
  have habsorbed : absorb wordLimit 0 whole = (natural whole, []) := absorb_of_le hlimit
  refine ⟨(numeral ⟨negative, whole, none, none⟩ 0 0).wholeValue (natural whole), ?_⟩
  unfold Numeral.value
  simp only [numeral, habsorbed]
  rfl

end Literal

/-! ## Nodes -/

mutual

/-- A node stands for a value. -/
def Denotes : Value → Node → Prop
  | .null, node => ∃ stop, node = .scalar (.ok .null) stop
  | .bool b, node => ∃ stop, node = .scalar (.ok (.bool b)) stop
  | .number l, node => ∃ a b stop, node = .scalar (l.numeral a b).value stop
  | .text s, node => ∃ stop, node = .text (.ok s) stop
  | .list vs, node => ∃ start items, node = .list start items ∧ DenotesItems vs items
  | .object ms, node => ∃ start members, node = .object start members ∧ DenotesMembers ms members

/-- The rest of a list stands for elements. -/
def DenotesItems : List Value → Items → Prop
  | [], items => ∃ stop, items = .close stop
  | v :: vs, items => ∃ start node rest, items = .item start node rest ∧ Denotes v node ∧
      DenotesItems vs rest

/-- The rest of an object stands for members. -/
def DenotesMembers : List (String × Value) → Members → Prop
  | [], members => ∃ stop, members = .close stop
  | (key, v) :: ms, members => ∃ settled node rest, members = .member (.ok key) settled node rest ∧
      Denotes v node ∧ DenotesMembers ms rest

end

mutual

/-- The data that a value stands for. -/
def Value.document : Value → Document
  | .null => .null
  | .bool b => .bool b
  | .number l => l.document
  | .text s => .text s
  | .list vs => .list (itemDocuments vs)
  | .object ms => .table (memberDocuments ms)

/-- The data that some elements stand for. -/
def itemDocuments : List Value → List Document
  | [] => []
  | v :: vs => v.document :: itemDocuments vs

/-- The data that some members stand for. -/
def memberDocuments : List (String × Value) → List (String × Document)
  | [] => []
  | (key, v) :: ms => (key, v.document) :: memberDocuments ms

end

/-! ## Skipping -/

mutual

/-- Whatever a node stands for can be skipped. -/
theorem skip_of_denotes : ∀ (v : Value) {node : Node}, Denotes v node → node.skip = .ok ()
  | .null, _, h => by
      obtain ⟨stop, rfl⟩ := h
      rfl
  | .bool b, _, h => by
      obtain ⟨stop, rfl⟩ := h
      rfl
  | .number l, _, h => by
      obtain ⟨a, b, stop, rfl⟩ := h
      rfl
  | .text s, _, h => by
      obtain ⟨stop, rfl⟩ := h
      rfl
  | .list vs, _, h => by
      obtain ⟨start, items, rfl, hitems⟩ := h
      exact skip_items vs hitems
  | .object ms, _, h => by
      obtain ⟨start, members, rfl, hmembers⟩ := h
      exact skip_members ms hmembers

theorem skip_items : ∀ (vs : List Value) {items : Items}, DenotesItems vs items →
    items.skip = .ok ()
  | [], _, h => by
      obtain ⟨stop, rfl⟩ := h
      rfl
  | v :: vs, _, h => by
      obtain ⟨start, node, rest, rfl, hnode, hrest⟩ := h
      rw [Items.skip, skip_of_denotes v hnode, skip_items vs hrest]
      rfl

theorem skip_members : ∀ (ms : List (String × Value)) {members : Members},
    DenotesMembers ms members → members.skip = .ok ()
  | [], _, h => by
      obtain ⟨stop, rfl⟩ := h
      rfl
  | (key, v) :: ms, _, h => by
      obtain ⟨settled, node, rest, rfl, hnode, hrest⟩ := h
      rw [Members.skip, skip_of_denotes v hnode, skip_members ms hrest]
      rfl

end

/-! ## Reading -/

/-- A level is left for what is inside. -/
theorem enter_eq_ok {depth inside : Nat} (start : Nat) (h : inside + 1 < depth) :
    enter depth start = .ok (depth - 1) := by
  match depth, h with
  | n + 2, _ => rfl

/-- What has no numbers is read as it is. -/
theorem leaf_eq_ok {A : Type} {numbers : List Literal} {a b : A} (h : ∀ l ∈ numbers, l.InRange) :
    (Except.ok a : Except Flaw A) = .ok b ↔ b = a ∧ ∀ l ∈ numbers, l.InRange :=
  ⟨fun heq => ⟨(Except.ok.inj heq).symm, h⟩, fun ⟨heq, _⟩ => congrArg _ heq.symm⟩

/-- No number of a value is out of range. -/
def Value.NumbersInRange (v : Value) : Prop := ∀ l ∈ v.numbers, l.InRange

mutual

/-- A node that is not too deep is read as what it stands for, if no number in it is out of range,
and is refused otherwise. -/
theorem read_eq_ok : ∀ (v : Value) {node : Node} {depth : Nat} {d : Document}, Denotes v node →
    v.depth < depth → (node.read depth = .ok d ↔ d = v.document ∧ v.NumbersInRange)
  | .null, _, _, _, h, _ => by
      obtain ⟨stop, rfl⟩ := h
      exact leaf_eq_ok nofun
  | .bool b, _, _, _, h, _ => by
      obtain ⟨stop, rfl⟩ := h
      exact leaf_eq_ok nofun
  | .number l, _, _, _, h, _ => by
      obtain ⟨a, b, stop, rfl⟩ := h
      rw [Node.read, number_eq_ok, Value.document, Value.NumbersInRange, Value.numbers,
        List.forall_mem_singleton]
  | .text s, _, _, _, h, _ => by
      obtain ⟨stop, rfl⟩ := h
      exact leaf_eq_ok nofun
  | .list vs, _, depth, _, h, hdepth => by
      obtain ⟨start, items, rfl, hitems⟩ := h
      rw [Value.depth] at hdepth
      rw [Node.read, enter_eq_ok start hdepth, ok_bind, bind_eq_ok]
      simp only [pure_eq_ok, readItems_eq_ok vs hitems (by omega : itemsDepth vs < depth - 1)]
      constructor
      · rintro ⟨_, ⟨rfl, hrange⟩, rfl⟩
        exact ⟨rfl, hrange⟩
      · rintro ⟨rfl, hrange⟩
        exact ⟨_, ⟨rfl, hrange⟩, rfl⟩
  | .object ms, _, depth, _, h, hdepth => by
      obtain ⟨start, members, rfl, hmembers⟩ := h
      rw [Value.depth] at hdepth
      rw [Node.read, enter_eq_ok start hdepth, ok_bind, bind_eq_ok]
      simp only [pure_eq_ok, readMembers_eq_ok ms hmembers (by omega : membersDepth ms < depth - 1)]
      constructor
      · rintro ⟨_, ⟨rfl, hrange⟩, rfl⟩
        exact ⟨rfl, hrange⟩
      · rintro ⟨rfl, hrange⟩
        exact ⟨_, ⟨rfl, hrange⟩, rfl⟩

theorem readItems_eq_ok : ∀ (vs : List Value) {items : Items} {depth : Nat} {ds : List Document},
    DenotesItems vs items → itemsDepth vs < depth →
      (items.read depth = .ok ds ↔ ds = itemDocuments vs ∧ ∀ l ∈ itemsNumbers vs, l.InRange)
  | [], _, _, _, h, _ => by
      obtain ⟨stop, rfl⟩ := h
      exact leaf_eq_ok nofun
  | v :: vs, _, depth, _, h, hdepth => by
      obtain ⟨start, node, rest, rfl, hnode, hrest⟩ := h
      rw [itemsDepth] at hdepth
      rw [Items.read, bind_eq_ok, itemsNumbers, List.forall_mem_append, itemDocuments]
      simp only [bind_eq_ok, pure_eq_ok, read_eq_ok v hnode (by omega : v.depth < depth),
        readItems_eq_ok vs hrest (by omega : itemsDepth vs < depth)]
      constructor
      · rintro ⟨_, ⟨rfl, hv⟩, _, ⟨rfl, hvs⟩, rfl⟩
        exact ⟨rfl, hv, hvs⟩
      · rintro ⟨rfl, hv, hvs⟩
        exact ⟨_, ⟨rfl, hv⟩, _, ⟨rfl, hvs⟩, rfl⟩

theorem readMembers_eq_ok : ∀ (ms : List (String × Value)) {members : Members} {depth : Nat}
    {ds : List (String × Document)}, DenotesMembers ms members → membersDepth ms < depth →
      (members.read depth = .ok ds ↔ ds = memberDocuments ms ∧ ∀ l ∈ membersNumbers ms, l.InRange)
  | [], _, _, _, h, _ => by
      obtain ⟨stop, rfl⟩ := h
      exact leaf_eq_ok nofun
  | (key, v) :: ms, _, depth, _, h, hdepth => by
      obtain ⟨settled, node, rest, rfl, hnode, hrest⟩ := h
      rw [membersDepth] at hdepth
      rw [Members.read, ok_bind, bind_eq_ok, membersNumbers, List.forall_mem_append,
        memberDocuments]
      simp only [bind_eq_ok, pure_eq_ok, read_eq_ok v hnode (by omega : v.depth < depth),
        readMembers_eq_ok ms hrest (by omega : membersDepth ms < depth)]
      constructor
      · rintro ⟨_, ⟨rfl, hv⟩, _, ⟨rfl, hms⟩, rfl⟩
        exact ⟨rfl, hv, hms⟩
      · rintro ⟨rfl, hv, hms⟩
        exact ⟨_, ⟨rfl, hv⟩, _, ⟨rfl, hms⟩, rfl⟩

end

end CrudStack.Json
