/-
# `CrudStack.Proofs.Template.Reading` — to read a template is to take it line by line

A template is registered as its text, and the text is read character by character: what is a tag and
what is text, which blocks are open, whether a tag is alone on its line.  The lines of the template
are gone by then.  Here they are found again: reading the text of a template and rendering what was
read is the same as rendering the template line by line, faults and their places included
(`render_ofText`).

The template has to be *plain*: no line of it may make braces of its own, by a character of text
that meets the next one, and no name may be anything but letters.  That is checked byte by byte,
once for each template.

`yields` is what a part of a text has contributed when it has been read, as a function of the data.
Each line, tag or block adds what it renders to (`Adds`), at the beginning of a line (`AtLine`) and
up to the beginning of another.
-/
import CrudStack.Template.Compiled
import CrudStack.Proofs.Template.Marked

namespace CrudStack.Template

/-! ## Plain templates -/

/-- Bytes of text between two tags, or between the last tag of a line and its end: no line break,
and no brace or backslash before a brace.  At the end of a line a brace may stand. -/
def isPlainText (last : Bool) : List UInt8 → Bool
  | [] => true
  | b :: rest =>
    b != 10 && (!(b == 123 || b == 92) || rest.head?.elim last fun next => next != 123) &&
      isPlainText last rest

/-- Bytes of a name: letters in lower case and underscores. -/
def isPlainName (name : List UInt8) : Bool :=
  !name.isEmpty && name != bytes "else" && name.all fun b => (97 ≤ b && b ≤ 122) || b == 95

/-- A line without braces but for those of its slots. -/
def isPlainLine : List Piece → Bool
  | [] => true
  | .text s :: rest => isPlainText rest.isEmpty (bytes s) && isPlainLine rest
  | .slot name :: rest => isPlainName (bytes name) && isPlainLine rest

mutual

/-- A block without braces but for those of its tags. -/
def isPlainBlock : Block → Bool
  | .line pieces => isPlainLine pieces
  | .each name body => isPlainName (bytes name) && isPlainBlocks body
  | .cond name yes no => isPlainName (bytes name) && isPlainBlocks yes && isPlainBlocks no

/-- Several blocks without braces but for those of their tags. -/
def isPlainBlocks : List Block → Bool
  | [] => true
  | block :: rest => isPlainBlock block && isPlainBlocks rest

end

/-! ## Bytes and characters -/

theorem bytes_eq (s : String) : bytes s = s.toList.flatMap String.utf8EncodeChar := by
  conv => lhs; rw [← String.ofList_toList (s := s)]
  rw [bytes, String.toByteArray_ofList, List.utf8Encode]
  simp

/-- A byte below 128 is a character of its own. -/
theorem toNat_of_mem_utf8EncodeChar {c : Char} {b : UInt8} (hb : b ∈ String.utf8EncodeChar c)
    (hlow : b.toNat < 128) : c.toNat = b.toNat := by
  unfold String.utf8EncodeChar at hb
  dsimp only at hb
  split at hb
  · simp only [List.mem_singleton] at hb
    subst hb
    rw [UInt8.toNat_ofNat', Nat.mod_eq_of_lt (by omega)]
    rfl
  -- the bytes of a longer character are 128 or more
  · split at hb
    · simp only [List.mem_cons, List.not_mem_nil, or_false] at hb
      rcases hb with rfl | rfl <;> simp at hlow <;> omega
    · split at hb
      · simp only [List.mem_cons, List.not_mem_nil, or_false] at hb
        rcases hb with rfl | rfl | rfl <;> simp at hlow <;> omega
      · simp only [List.mem_cons, List.not_mem_nil, or_false] at hb
        rcases hb with rfl | rfl | rfl | rfl <;> simp at hlow <;> omega

theorem isPlainText_of_append {last : Bool} (as : List UInt8) {bs : List UInt8}
    (h : isPlainText last (as ++ bs) = true) : isPlainText last bs = true := by
  induction as with
  | nil => exact h
  | cons a as ih =>
      rw [List.cons_append, isPlainText, Bool.and_eq_true] at h
      exact ih h.2

/-- What may follow a character of plain text. -/
structure PlainBefore (last : Bool) (c : Char) (rest : List Char) : Prop where
  unbroken : c ≠ '\n'
  next : c = '{' ∨ c = '\\' → rest.head? ≠ some '{'
  closed : c = '{' ∨ c = '\\' → rest = [] → last = true
  rest : isPlainText last (rest.flatMap String.utf8EncodeChar) = true

theorem plainBefore_of_isPlainText {last : Bool} {c : Char} {rest : List Char}
    (h : isPlainText last ((c :: rest).flatMap String.utf8EncodeChar) = true) :
    PlainBefore last c rest := by
  rw [List.flatMap_cons] at h
  have hbrace : String.utf8EncodeChar '{' = [123] := by decide
  have hslash : String.utf8EncodeChar '\\' = [92] := by decide
  have hopen : c = '{' ∨ c = '\\' →
      (rest.flatMap String.utf8EncodeChar).head?.elim last (fun next => next != 123) = true := by
    rintro (rfl | rfl)
    · rw [hbrace, List.singleton_append, isPlainText] at h
      simpa using (Bool.and_eq_true_iff.mp (Bool.and_eq_true_iff.mp h).1).2
    · rw [hslash, List.singleton_append, isPlainText] at h
      simpa using (Bool.and_eq_true_iff.mp (Bool.and_eq_true_iff.mp h).1).2
  refine ⟨?_, fun hc hnext => ?_, fun hc hrest => ?_, isPlainText_of_append _ h⟩
  · rintro rfl
    simp [show String.utf8EncodeChar '\n' = [10] by decide, isPlainText] at h
  · obtain ⟨more, rfl⟩ := List.head?_eq_some_iff.mp hnext
    have hfollow := hopen hc
    rw [List.flatMap_cons, hbrace] at hfollow
    simp at hfollow
  · subst hrest
    exact hopen hc

/-! ## Names and tags -/

theorem toNat_of_isPlainName {name : String} (h : isPlainName (bytes name) = true) {c : Char}
    (hc : c ∈ name.toList) : (97 ≤ c.toNat ∧ c.toNat ≤ 122) ∨ c.toNat = 95 := by
  rw [isPlainName, Bool.and_eq_true, Bool.and_eq_true, List.all_eq_true] at h
  obtain ⟨b, hb⟩ : ∃ b, b ∈ String.utf8EncodeChar c :=
    List.exists_mem_of_ne_nil _ (String.utf8EncodeChar_ne_nil)
  have hmem : b ∈ bytes name := by
    rw [bytes_eq]
    exact List.mem_flatMap.mpr ⟨c, hc, hb⟩
  have hrange := h.2 b hmem
  simp only [Bool.or_eq_true, Bool.and_eq_true, decide_eq_true_eq, beq_iff_eq,
    UInt8.le_iff_toNat_le, ← UInt8.toNat_inj] at hrange
  have hlow : b.toNat < 128 := by
    rcases hrange with ⟨-, hhigh⟩ | heq
    · exact Nat.lt_of_le_of_lt hhigh (by decide)
    · rw [heq]; decide
  rw [toNat_of_mem_utf8EncodeChar hb hlow]
  exact hrange

theorem notMem_of_isPlainName {name : String} (h : isPlainName (bytes name) = true) {c : Char}
    (hc : ¬((97 ≤ c.toNat ∧ c.toNat ≤ 122) ∨ c.toNat = 95)) : c ∉ name.toList :=
  fun hmem => hc (toNat_of_isPlainName h hmem)

theorem isName_of_isPlainName {name : String} (h : isPlainName (bytes name) = true) :
    Tag.isName name.toList = true := by
  have hne : name.toList ≠ [] := by
    intro hnil
    rw [isPlainName, bytes_eq, hnil] at h
    simp at h
  rw [Tag.isName, Bool.and_eq_true, Bool.not_eq_true', List.isEmpty_eq_false_iff,
    List.all_eq_true]
  refine ⟨hne, fun c hc => ?_⟩
  rcases toNat_of_isPlainName h hc with ⟨hlow, hhigh⟩ | hunder
  · simp [Text.isAsciiAlphanumeric, hlow, hhigh]
  · have : c = '_' := Char.toNat_inj.mp hunder
    simp [this]

theorem all_ne_blank {cs : List Char} (h : ' ' ∉ cs) : ∀ c ∈ cs, decide (c ≠ ' ') = true := by
  intro c hc
  simp only [ne_eq, decide_eq_true_eq]
  exact fun e => h (e ▸ hc)

theorem ofContent?_word {word : List Char} (hword : ' ' ∉ word) :
    Tag.ofContent? word = Tag.ofWord? word := by
  have hdrop : (word ++ []).dropWhile (· ≠ ' ') = [] :=
    List.dropWhile_append_of_pos (all_ne_blank hword)
  rw [List.append_nil] at hdrop
  rw [Tag.ofContent?, hdrop]

theorem ofContent?_words {word : List Char} (hword : ' ' ∉ word) (name : List Char) :
    Tag.ofContent? (word ++ ' ' :: name) = Tag.ofWords? word name := by
  rw [Tag.ofContent?, List.dropWhile_append_of_pos (all_ne_blank hword),
    List.takeWhile_append_of_pos (all_ne_blank hword)]
  simp

theorem ofContent?_name {name : String} (h : isPlainName (bytes name) = true) :
    Tag.ofContent? name.toList = some (.slot name) := by
  have hblank : ' ' ∉ name.toList := notMem_of_isPlainName h (by decide)
  have hslash : ∀ word : String, '/' ∈ word.toList → name.toList ≠ word.toList :=
    fun word hword e => notMem_of_isPlainName h (by decide) (e ▸ hword)
  have helse : name.toList ≠ "else".toList := by
    intro e
    rw [isPlainName, String.toList_inj.mp e] at h
    simp at h
  rw [ofContent?_word hblank]
  simp only [Tag.ofWord?, if_neg helse, if_neg (hslash "/each" (by decide)),
    if_neg (hslash "/if" (by decide)), isName_of_isPlainName h, if_true, String.ofList_toList]

theorem ofContent?_each {name : String} (h : isPlainName (bytes name) = true) :
    Tag.ofContent? ("#each " ++ name).toList = some (.each name) := by
  have hsplit : ("#each " ++ name).toList = "#each".toList ++ ' ' :: name.toList := by simp
  rw [hsplit, ofContent?_words (by decide), Tag.ofWords?]
  simp [isName_of_isPlainName h]

theorem ofContent?_cond {name : String} (h : isPlainName (bytes name) = true) :
    Tag.ofContent? ("#if " ++ name).toList = some (.cond name) := by
  have hsplit : ("#if " ++ name).toList = "#if".toList ++ ' ' :: name.toList := by simp
  rw [hsplit, ofContent?_words (by decide), Tag.ofWords?]
  simp [isName_of_isPlainName h]

/-! ## What reading adds -/

/-- The text of one part, then that of another. -/
def both (x y : Except Fault String) : Except Fault String := do
  let first ← x
  return first ++ (← y)

theorem both_assoc (x y z : Except Fault String) : both (both x y) z = both x (both y z) := by
  cases x with
  | error => rfl
  | ok a =>
      cases y with
      | error => rfl
      | ok b =>
          cases z with
          | error => rfl
          | ok c => exact congrArg Except.ok String.append_assoc

theorem both_empty (x : Except Fault String) : both x (.ok "") = x := by
  cases x with
  | error => rfl
  | ok a => exact congrArg Except.ok (String.append_empty)

theorem empty_both (x : Except Fault String) : both (.ok "") x = x := by
  cases x with
  | error => rfl
  | ok a => exact congrArg Except.ok (String.empty_append)

theorem both_ok (a b : String) : both (.ok a) (.ok b) = .ok (a ++ b) := rfl

theorem renderElements_cons (data : Document) (e : Element) (es : List Element) :
    renderElements data (e :: es) = both (renderElement data e) (renderElements data es) := by
  rw [renderElements]
  rfl

theorem renderElements_append (data : Document) (as bs : List Element) :
    renderElements data (as ++ bs) = both (renderElements data as) (renderElements data bs) := by
  induction as with
  | nil => rw [List.nil_append, renderElements, empty_both]
  | cons a as ih => rw [List.cons_append, renderElements_cons, renderElements_cons, ih, both_assoc]

theorem renderElements_singleton (data : Document) (e : Element) :
    renderElements data [e] = renderElement data e := by
  rw [renderElements_cons, renderElements, both_empty]

theorem renderBlocks_cons (data : Document) (line : Nat) (block : Block) (rest : List Block) :
    renderBlocks data line (block :: rest) =
      both (renderBlock data line block) (renderBlocks data (line + block.height) rest) := by
  rw [renderBlocks]
  rfl

namespace Reading

/-- What the innermost open block has contributed up to here. -/
def yields (r : Reading) (data : Document) : Except Fault String :=
  renderElements data (r.elements ++ [.text (String.ofList r.text.reverse)])

theorem yields_eq (r : Reading) (data : Document) :
    r.yields data =
      both (renderElements data r.elements) (.ok (String.ofList r.text.reverse)) := by
  rw [yields, renderElements_append, renderElements_singleton]
  rfl

/-- Reading on from `r` to `r'` has added `f` to the innermost open block. -/
structure Adds (r r' : Reading) (f : Document → Except Fault String) : Prop where
  opened : r'.opened = r.opened
  yields : ∀ data, r'.yields data = both (r.yields data) (f data)

theorem Adds.trans {r r' r'' : Reading} {f g : Document → Except Fault String}
    (h : Adds r r' f) (h' : Adds r' r'' g) : Adds r r'' fun data => both (f data) (g data) :=
  ⟨h'.opened.trans h.opened, fun data => by rw [h'.yields, h.yields, both_assoc]⟩

/-! ## Text -/

/-- Reads several characters of text. -/
def pushAll (r : Reading) (cs : List Char) : Reading := cs.foldl push r

/-- A character that makes no braces with what follows is text. -/
theorem readText_push {r : Reading} {c : Char} {rest : List Char}
    (h : c = '{' ∨ c = '\\' → rest.head? ≠ some '{') :
    readText r (c :: rest) = readText (r.push c) rest := by
  rw [readText]
  · rintro more hc rfl
    exact h (.inr hc) rfl
  · rintro more hc rfl
    exact h (.inl hc) rfl

/-- Plain text is read as text, up to a tag or up to the end of its line. -/
theorem readText_append {r : Reading} {last : Bool} {cs rest : List Char}
    (h : isPlainText last (cs.flatMap String.utf8EncodeChar) = true)
    (hlast : last = true → rest.head? ≠ some '{') :
    readText r (cs ++ rest) = readText (r.pushAll cs) rest := by
  induction cs generalizing r with
  | nil => rfl
  | cons c cs ih =>
      have hc := plainBefore_of_isPlainText h
      rw [List.cons_append, readText_push, ih hc.rest]
      · rfl
      · intro hopen
        cases cs with
        | nil => exact hlast (hc.closed hopen rfl)
        | cons d cs => exact hc.next hopen

/-- Text in a line moves on in the line and adds itself. -/
theorem pushAll_eq {r : Reading} (hr : r.skipping = false) {last : Bool} {cs : List Char}
    (h : isPlainText last (cs.flatMap String.utf8EncodeChar) = true) :
    (r.pushAll cs).line = r.line ∧ (r.pushAll cs).column = r.column + cs.length ∧
      (r.pushAll cs).text = cs.reverse ++ r.text ∧ (r.pushAll cs).skipping = false ∧
      (r.pushAll cs).elements = r.elements ∧ (r.pushAll cs).opened = r.opened := by
  induction cs generalizing r with
  | nil => simp [pushAll, hr]
  | cons c cs ih =>
      have hc := plainBefore_of_isPlainText h
      have hpush : (r.push c).skipping = false := by simp [push, hr]
      obtain ⟨hline, hcolumn, htext, hskip, helements, hopened⟩ := ih hpush hc.rest
      have hall : r.pushAll (c :: cs) = (r.push c).pushAll cs := rfl
      rw [hall, hline, hcolumn, htext, hskip, helements, hopened]
      refine ⟨by simp [push, hc.unbroken], ?_, by simp [push, hr], rfl, rfl, rfl⟩
      simp only [push, if_neg hc.unbroken, List.length_cons]
      omega

/-! ## Slots -/

theorem readTag_append {r : Reading} {content : List Char} (h : '}' ∉ content)
    (before rest : List Char) :
    readTag r before (content ++ '}' :: '}' :: rest) = (do
      readText (← r.take (before.reverse ++ content) rest) rest) := by
  induction content generalizing before with
  | nil => rw [List.nil_append, readTag, List.append_nil]
  | cons c content ih =>
      rw [List.mem_cons, not_or] at h
      rw [List.cons_append, readTag, ih h.2, List.reverse_cons, List.append_assoc,
        List.singleton_append]
      rintro more rfl
      exact absurd rfl h.1

/-- Braces around a content are read as its tag. -/
theorem readText_tag {r : Reading} {content : String} (h : '}' ∉ content.toList)
    (rest : List Char) :
    readText r ((tag content).toList ++ rest) = (do
      readText (← r.take content.toList rest) rest) := by
  have hbraces : (tag content).toList ++ rest =
      '{' :: '{' :: (content.toList ++ '}' :: '}' :: rest) := by
    simp [tag]
  rw [hbraces, readText, readTag_append h [] rest]
  rfl

theorem length_tag (content : String) : (tag content).length = content.toList.length + 4 := by
  have hbraces : "\x7b\x7b".length = 2 ∧ "\x7d\x7d".length = 2 := by decide
  simp only [tag, String.length_append, hbraces, String.length_toList]
  omega

theorem take_eq_ok {r next : Reading} {content rest : List Char} {tag : Tag}
    (htag : Tag.ofContent? content = some tag)
    (hnext : (r.settle (tag.isBlock && r.fresh && closesLine rest)).follow? tag = some next) :
    r.take content rest = .ok { next with column := r.column + content.length + 4 } := by
  rw [take, htag]
  simp only [hnext]

/-- A slot moves on in the line and adds its value. -/
theorem take_slot {r : Reading} {name : String} (h : isPlainName (bytes name) = true) :
    ∃ next, (∀ rest, r.take name.toList rest = .ok next) ∧ next.line = r.line ∧
      next.column = r.column + (tag name).length ∧ next.skipping = false ∧
      Adds r next fun data => slotOf data r.line r.column name := by
  let followed : Reading :=
    { r.settle false with
      elements := (r.settle false).elements ++ [.slot name r.line r.column] }
  have hfollow : (r.settle false).follow? (.slot name) = some followed := rfl
  refine ⟨_, fun _ => take_eq_ok (ofContent?_name h) hfollow, rfl, ?_, rfl, rfl, fun data => ?_⟩
  · rw [length_tag, ← Nat.add_assoc]
  · rw [yields_eq, yields_eq]
    simp only [followed, settle, Bool.false_eq_true, if_false, renderElements_append,
      renderElements_singleton, renderElement, List.reverse_nil]
    exact both_empty _

/-! ## Lines -/

/-- A line is read up to its end and adds what its pieces render to. -/
theorem readText_pieces : ∀ (pieces : List Piece) {r : Reading}, r.skipping = false →
    isPlainLine pieces = true →
      ∃ r', (∀ rest : List Char,
          readText r ((lineSource pieces).toList ++ '\n' :: rest) = readText r' ('\n' :: rest)) ∧
        r'.line = r.line ∧ r'.skipping = false ∧
        Adds r r' fun data => renderPieces data r.line r.column pieces
  | [], r, hskip, _ =>
      ⟨r, fun _ => rfl, rfl, hskip, rfl, fun data => (both_empty _).symm⟩
  | .text s :: pieces, r, hskip, h => by
      rw [isPlainLine, Bool.and_eq_true, bytes_eq] at h
      obtain ⟨hline, hcolumn, htext, hskip', helements, hopened⟩ := pushAll_eq hskip h.1
      obtain ⟨r', hread, hline', hskip', hadds⟩ := readText_pieces pieces hskip' h.2
      have hsource : (lineSource (.text s :: pieces)).toList =
          s.toList ++ (lineSource pieces).toList := by
        simp [lineSource, Piece.source]
      refine ⟨r', fun rest => ?_, hline'.trans hline, hskip', ?_⟩
      · rw [hsource, List.append_assoc, readText_append h.1, hread]
        intro hlast
        rw [List.isEmpty_iff.mp hlast]
        simp [lineSource]
      · have htextAdds : Adds r (r.pushAll s.toList) fun _ => .ok s := by
          refine ⟨hopened, fun data => ?_⟩
          rw [yields_eq, yields_eq, helements, htext, both_assoc, both_ok]
          simp
        rw [hline, hcolumn] at hadds
        exact htextAdds.trans hadds
  | .slot name :: pieces, r, hskip, h => by
      rw [isPlainLine, Bool.and_eq_true] at h
      have hbrace : '}' ∉ name.toList := notMem_of_isPlainName h.1 (by decide)
      obtain ⟨next, htake, hline, hcolumn, hskip', hslot⟩ :=
        take_slot (r := r) h.1
      obtain ⟨r', hread, hline', hskip', hadds⟩ := readText_pieces pieces hskip' h.2
      have hsource : (lineSource (.slot name :: pieces)).toList =
          (tag name).toList ++ (lineSource pieces).toList := by
        simp [lineSource, Piece.source]
      refine ⟨r', fun rest => ?_, hline'.trans hline, hskip', ?_⟩
      · rw [hsource, List.append_assoc, readText_tag hbrace, htake]
        exact hread rest
      · rw [hline, hcolumn] at hadds
        exact hslot.trans hadds

/-- Reading stands at the beginning of a line. -/
structure AtLine (r : Reading) : Prop where
  column : r.column = 1
  fresh : r.fresh = true
  skipping : r.skipping = false
  text : r.text.dropWhile isPadding = r.text

/-- Behind a line break a line begins. -/
theorem atLine_push (r : Reading) (h : r.skipping = true → r.text = []) :
    AtLine (r.push '\n') := by
  refine ⟨rfl, rfl, by simp [push], ?_⟩
  cases hskip : r.skipping with
  | true => simp [push, hskip, h hskip]
  | false => simp [push, hskip, isPadding]

theorem readText_lineBreak (r : Reading) (rest : List Char) :
    readText r ('\n' :: rest) = readText (r.push '\n') rest :=
  readText_push fun h => absurd h (by decide)

/-- From the beginning of a line to the beginning of another, so many lines below, reading has added
`f`. -/
structure Passes (r r' : Reading) (height : Nat) (f : Document → Except Fault String) : Prop
    extends Adds r r' f where
  atLine : AtLine r'
  line : r'.line = r.line + height

/-- Whatever comes behind it, a text takes reading from `r` to `r'`. -/
def Reads (r : Reading) (text : String) (r' : Reading) : Prop :=
  ∀ rest, readText r (text.toList ++ rest) = readText r' rest

theorem Reads.trans {r r' r'' : Reading} {a b : String} (h : Reads r a r') (h' : Reads r' b r'') :
    Reads r (a ++ b) r'' := fun rest => by
  rw [String.toList_append, List.append_assoc, h, h']

theorem reads_line {r : Reading} (hr : AtLine r) {pieces : List Piece}
    (h : isPlainLine pieces = true) :
    ∃ r', Reads r (lineSource pieces ++ "\n") r' ∧
      Passes r r' 1 fun data => renderBlock data r.line (.line pieces) := by
  obtain ⟨r', hread, hline, hskip, hadds⟩ := readText_pieces pieces hr.skipping h
  refine ⟨r'.push '\n', fun rest => ?_, ⟨hadds.opened, fun data => ?_⟩,
    atLine_push r' (by simp [hskip]), by simp [push, hline]⟩
  · rw [String.toList_append, List.append_assoc]
    exact (hread rest).trans (readText_lineBreak r' rest)
  · have hbreak : (r'.push '\n').yields data = both (r'.yields data) (.ok "\n") := by
      rw [yields_eq, yields_eq, both_assoc, both_ok]
      simp [push, hskip]
    rw [hbreak, hadds.yields, both_assoc, renderBlock, hr.column]
    rfl

/-! ## Tags of blocks -/

theorem follow?_keeps {r next : Reading} {tag : Tag} (h : r.follow? tag = some next) :
    next.line = r.line ∧ next.text = r.text ∧ next.skipping = r.skipping := by
  unfold follow? at h
  split at h <;> cases h <;> exact ⟨rfl, rfl, rfl⟩

/-- At the beginning of a line there are no blanks to give up. -/
theorem AtLine.renderElements_settle {r : Reading} (hr : AtLine r) (data : Document) :
    renderElements data (r.settle true).elements = r.yields data := by
  simp only [settle, if_true, hr.text]
  rfl

/-- From the beginning of a line to that of the next, where the open blocks are `opened` and the
innermost of them has contributed `f`. -/
structure Turns (r r' : Reading) (opened : List Opened) (f : Document → Except Fault String) :
    Prop where
  atLine : AtLine r'
  line : r'.line = r.line + 1
  opened : r'.opened = opened
  yields : ∀ data, r'.yields data = f data

/-- A tag of a block takes its line with it and does what it says. -/
theorem reads_tagLine {r next : Reading} (hr : AtLine r) (content : String) {t : Tag}
    (hbrace : '}' ∉ content.toList) (htag : Tag.ofContent? content.toList = some t)
    (hblock : t.isBlock = true) (hnext : (r.settle true).follow? t = some next) :
    ∃ r', Reads r (tag content ++ "\n") r' ∧
      Turns r r' next.opened fun data => renderElements data next.elements := by
  obtain ⟨hline, htext, hskip⟩ := follow?_keeps hnext
  have hempty : next.text = [] := htext
  have hskipping : next.skipping = true := hskip
  refine ⟨_, fun rest => ?_,
    atLine_push { next with column := r.column + content.toList.length + 4 }
    fun _ => hempty, congrArg (· + 1) hline, rfl, fun data => ?_⟩
  · have halone : (t.isBlock && r.fresh && closesLine ('\n' :: rest)) = true := by
      rw [hblock, hr.fresh]
      rfl
    have htake : r.take content.toList ('\n' :: rest) = _ :=
      take_eq_ok htag (by rw [halone]; exact hnext)
    rw [String.toList_append, List.append_assoc]
    refine (readText_tag hbrace _).trans ?_
    rw [show "\n".toList ++ rest = '\n' :: rest from rfl, htake]
    exact readText_lineBreak _ _
  · rw [yields_eq]
    simp only [push, hskipping, hempty, if_true, List.reverse_nil]
    exact both_empty _

section TagLines

variable {r : Reading} (hr : AtLine r)

include hr

theorem reads_each {name : String} (h : isPlainName (bytes name) = true) :
    ∃ r', Reads r (tag ("#each " ++ name) ++ "\n") r' ∧
      Turns r r' (.each name r.line 1 (r.settle true).elements :: r.opened) fun _ => .ok "" := by
  have hbrace : '}' ∉ ("#each " ++ name).toList := by
    simpa using notMem_of_isPlainName h (by decide)
  rw [← hr.column]
  exact reads_tagLine hr _ hbrace (ofContent?_each h) rfl rfl

theorem reads_cond {name : String} (h : isPlainName (bytes name) = true) :
    ∃ r', Reads r (tag ("#if " ++ name) ++ "\n") r' ∧
      Turns r r' (.yes name r.line 1 (r.settle true).elements :: r.opened) fun _ => .ok "" := by
  have hbrace : '}' ∉ ("#if " ++ name).toList := by
    simpa using notMem_of_isPlainName h (by decide)
  rw [← hr.column]
  exact reads_tagLine hr _ hbrace (ofContent?_cond h) rfl rfl

variable {name : String} {line column : Nat} {before : List Element} {opened : List Opened}

theorem reads_otherwise (h : r.opened = .yes name line column before :: opened) :
    ∃ r', Reads r (tag "else" ++ "\n") r' ∧
      Turns r r' (.no name line column before (r.settle true).elements :: opened)
        fun _ => .ok "" := by
  have hnext : (r.settle true).follow? .otherwise = some
      { r.settle true with
        elements := []
        opened := .no name line column before (r.settle true).elements :: opened } := by
    have hsettled : (r.settle true).opened = .yes name line column before :: opened := h
    simp only [follow?, hsettled]
  exact reads_tagLine hr _ (by decide) (by decide) rfl hnext

theorem reads_endEach (h : r.opened = .each name line column before :: opened) :
    ∃ r', Reads r (tag "/each" ++ "\n") r' ∧
      Turns r r' opened fun data => both (renderElements data before) (do
        let items ← elementsOf data line column name
        return String.join (← items.mapM r.yields)) := by
  have hnext : (r.settle true).follow? .endEach = some
      { r.settle true with
        elements := before ++ [.each name line column (r.settle true).elements]
        opened } := by
    have hsettled : (r.settle true).opened = .each name line column before :: opened := h
    simp only [follow?, hsettled]
  obtain ⟨r', hread, hturns⟩ :=
    reads_tagLine hr "/each" (by decide) (by decide) rfl hnext
  refine ⟨r', hread, hturns.atLine, hturns.line, hturns.opened, fun data => ?_⟩
  rw [hturns.yields, renderElements_append, renderElements_singleton, renderElement]
  simp only [hr.renderElements_settle]

theorem reads_endYes (h : r.opened = .yes name line column before :: opened) :
    ∃ r', Reads r (tag "/if" ++ "\n") r' ∧
      Turns r r' opened fun data => both (renderElements data before) (do
        if ← conditionOf data line column name then r.yields data else .ok "") := by
  have hnext : (r.settle true).follow? .endCond = some
      { r.settle true with
        elements := before ++ [.cond name line column (r.settle true).elements []]
        opened } := by
    have hsettled : (r.settle true).opened = .yes name line column before :: opened := h
    simp only [follow?, hsettled]
  obtain ⟨r', hread, hturns⟩ :=
    reads_tagLine hr "/if" (by decide) (by decide) rfl hnext
  refine ⟨r', hread, hturns.atLine, hturns.line, hturns.opened, fun data => ?_⟩
  rw [hturns.yields, renderElements_append, renderElements_singleton, renderElement]
  simp only [hr.renderElements_settle, renderElements]

theorem reads_endNo {yes : List Element}
    (h : r.opened = .no name line column before yes :: opened) :
    ∃ r', Reads r (tag "/if" ++ "\n") r' ∧
      Turns r r' opened fun data => both (renderElements data before) (do
        if ← conditionOf data line column name then renderElements data yes
        else r.yields data) := by
  have hnext : (r.settle true).follow? .endCond = some
      { r.settle true with
        elements := before ++ [.cond name line column yes (r.settle true).elements]
        opened } := by
    have hsettled : (r.settle true).opened = .no name line column before yes :: opened := h
    simp only [follow?, hsettled]
  obtain ⟨r', hread, hturns⟩ :=
    reads_tagLine hr "/if" (by decide) (by decide) rfl hnext
  refine ⟨r', hread, hturns.atLine, hturns.line, hturns.opened, fun data => ?_⟩
  rw [hturns.yields, renderElements_append, renderElements_singleton, renderElement]
  simp only [hr.renderElements_settle]

end TagLines

/-! ## Blocks

By the recursion of the blocks.  Inside a block reading starts from nothing, and what the block has
contributed is put behind what stood before it when its last tag is read. -/

/-- What a part contributes that began with nothing. -/
theorem Passes.yields_of_empty {r r' : Reading} {height : Nat}
    {f : Document → Except Fault String} (h : Passes r r' height f)
    (hr : ∀ data, r.yields data = .ok "") (data : Document) : r'.yields data = f data := by
  rw [h.yields, hr, empty_both]

mutual

theorem reads_block : ∀ (block : Block) {r : Reading}, AtLine r → isPlainBlock block = true →
    ∃ r', Reads r (joinLines (blockSource block)) r' ∧
      Passes r r' block.height fun data => renderBlock data r.line block
  | .line pieces, r, hr, h => by
      rw [blockSource, joinLines_cons, joinLines_nil, String.append_empty]
      exact reads_line hr h
  | .each name body, r, hr, h => by
      rw [isPlainBlock, Bool.and_eq_true] at h
      obtain ⟨r₁, hopen, hturns₁⟩ := reads_each hr h.1
      obtain ⟨r₂, hbody, hpasses⟩ := reads_blocks body hturns₁.atLine h.2
      obtain ⟨r₃, hclose, hturns₃⟩ :=
        reads_endEach hpasses.atLine (hpasses.opened.trans hturns₁.opened)
      refine ⟨r₃, ?_, ⟨hturns₃.opened, fun data => ?_⟩, hturns₃.atLine, ?_⟩
      · simpa [blockSource, String.append_assoc] using hopen.trans (hbody.trans hclose)
      · have hyields : r₂.yields = fun item => renderBlocks item (r.line + 1) body := by
          funext item
          rw [hpasses.yields_of_empty hturns₁.yields, hturns₁.line]
        rw [hturns₃.yields, hr.renderElements_settle, renderBlock, hyields]
      · rw [hturns₃.line, hpasses.line, hturns₁.line, Block.height, blockSource]
        simp
        omega
  | .cond name yes [], r, hr, h => by
      rw [isPlainBlock, Bool.and_eq_true, Bool.and_eq_true] at h
      obtain ⟨r₁, hopen, hturns₁⟩ := reads_cond hr h.1.1
      obtain ⟨r₂, hbody, hpasses⟩ := reads_blocks yes hturns₁.atLine h.1.2
      obtain ⟨r₃, hclose, hturns₃⟩ :=
        reads_endYes hpasses.atLine (hpasses.opened.trans hturns₁.opened)
      refine ⟨r₃, ?_, ⟨hturns₃.opened, fun data => ?_⟩, hturns₃.atLine, ?_⟩
      · simpa [blockSource, String.append_assoc] using hopen.trans (hbody.trans hclose)
      · rw [hturns₃.yields, hr.renderElements_settle, hpasses.yields_of_empty hturns₁.yields,
          hturns₁.line, renderBlock]
        simp only [renderBlocks]
      · rw [hturns₃.line, hpasses.line, hturns₁.line, Block.height, blockSource]
        simp
        omega
  | .cond name yes (block :: more), r, hr, h => by
      rw [isPlainBlock, Bool.and_eq_true, Bool.and_eq_true] at h
      obtain ⟨r₁, hopen, hturns₁⟩ := reads_cond hr h.1.1
      obtain ⟨r₂, hyes, hpassesYes⟩ := reads_blocks yes hturns₁.atLine h.1.2
      obtain ⟨r₃, helse, hturns₃⟩ :=
        reads_otherwise hpassesYes.atLine (hpassesYes.opened.trans hturns₁.opened)
      obtain ⟨r₄, hno, hpassesNo⟩ := reads_blocks (block :: more) hturns₃.atLine h.2
      obtain ⟨r₅, hclose, hturns₅⟩ :=
        reads_endNo hpassesNo.atLine (hpassesNo.opened.trans hturns₃.opened)
      refine ⟨r₅, ?_, ⟨hturns₅.opened, fun data => ?_⟩, hturns₅.atLine, ?_⟩
      · simpa [blockSource, String.append_assoc] using
          hopen.trans (hyes.trans (helse.trans (hno.trans hclose)))
      · have hline : r₃.line = r.line + 2 + (blocksSource yes).length := by
          rw [hturns₃.line, hpassesYes.line, hturns₁.line]
          omega
        rw [hturns₅.yields, hr.renderElements_settle, hpassesYes.atLine.renderElements_settle,
          hpassesYes.yields_of_empty hturns₁.yields, hturns₁.line,
          hpassesNo.yields_of_empty hturns₃.yields, hline, renderBlock]
      · rw [hturns₅.line, hpassesNo.line, hturns₃.line, hpassesYes.line, hturns₁.line,
          Block.height, blockSource]
        simp
        omega

theorem reads_blocks : ∀ (blocks : List Block) {r : Reading}, AtLine r →
    isPlainBlocks blocks = true →
      ∃ r', Reads r (joinLines (blocksSource blocks)) r' ∧
        Passes r r' (blocksSource blocks).length fun data => renderBlocks data r.line blocks
  | [], r, hr, _ => ⟨r, fun _ => rfl, ⟨rfl, fun data => (both_empty _).symm⟩, hr, rfl⟩
  | block :: blocks, r, hr, h => by
      rw [isPlainBlocks, Bool.and_eq_true] at h
      obtain ⟨r₁, hfirst, hpasses₁⟩ := reads_block block hr h.1
      obtain ⟨r₂, hrest, hpasses₂⟩ := reads_blocks blocks hpasses₁.atLine h.2
      refine ⟨r₂, ?_, ?_, hpasses₂.atLine, ?_⟩
      · rw [blocksSource, joinLines_append]
        exact hfirst.trans hrest
      · have hadds := hpasses₁.toAdds.trans hpasses₂.toAdds
        simp only [hpasses₁.line, ← renderBlocks_cons] at hadds
        exact hadds
      · rw [hpasses₂.line, hpasses₁.line, blocksSource, List.length_append, Nat.add_assoc,
          Block.height]

end

end Reading

/-! ## Templates -/

/-- What is read from the text of a plain template renders as the template does. -/
theorem render_ofText {t : Template} (h : isPlainBlocks t.blocks = true) :
    ∃ c, Compiled.ofText t.source = .ok c ∧ ∀ data, c.render data = t.render data := by
  have hstart : Reading.AtLine {} := ⟨rfl, rfl, rfl, rfl⟩
  obtain ⟨r, hread, hpasses⟩ := Reading.reads_blocks t.blocks hstart h
  have hopened : r.opened = [] := hpasses.opened
  have htext : Reading.readText {} t.source.toList = .ok r := by
    have hall := hread []
    rw [List.append_nil, Reading.readText] at hall
    exact hall
  refine ⟨⟨(r.settle false).elements⟩, ?_, fun data => ?_⟩
  · rw [Compiled.ofText, htext]
    simp only [Reading.finish, hopened, bind, Except.bind]
  · exact hpasses.yields_of_empty (fun _ => rfl) data

end CrudStack.Template
