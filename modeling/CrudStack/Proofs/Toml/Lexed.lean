/-
# `CrudStack.Proofs.Toml.Lexed` — the lexemes of a text are found

Whatever the grammar gives as the text of a string, a key or an integer is recognized as that, with
nothing left over and nothing else taken.  What follows matters where a lexeme has no mark of its
own end, and behind quotes, since a third one would make two of them an opening delimiter.
-/
import CrudStack.Proofs.Text.Taken
import CrudStack.Proofs.Toml.Grammar

namespace CrudStack.Toml

open Text (Stops)

/-! ## Blanks and ends of lines -/

section Blanks

variable {blanks nl tail cs rest : List Char}

theorem isBlank_iff {c : Char} : isBlank c = true ↔ c = ' ' ∨ c = '\t' := by simp [isBlank]

theorem skipBlanks_append (h : Blanks blanks) (rest : List Char) :
    skipBlanks (blanks ++ rest) = skipBlanks rest :=
  List.dropWhile_append_of_pos (List.all_eq_true.mp h)

theorem skipBlanks_of_stops (h : Stops isBlank rest) : skipBlanks rest = rest :=
  Text.dropWhile_of_stops h

theorem lineBreakOrEnd?_append (h : LineBreak nl) (rest : List Char) :
    lineBreakOrEnd? (nl ++ rest) = some rest := by
  cases h <;> rfl

theorem stops_lineBreak (h : LineBreak nl) (rest : List Char) :
    Stops isBlank (nl ++ rest) ∧ Stops isPlain (nl ++ rest) := by
  cases h <;> exact ⟨Text.stops_cons.mpr (by decide), Text.stops_cons.mpr (by decide)⟩

/-- Behind blanks and a comment, what ends the line decides. -/
theorem lineEnd?_tail (h : LineTail tail) (hblank : Stops isBlank rest)
    (hplain : Stops isPlain rest)
    (hmark : rest.head? ≠ some '#') : lineEnd? (tail ++ rest) = lineBreakOrEnd? rest := by
  cases h with
  | blanks hblanks =>
      rw [lineEnd?, skipBlanks_append hblanks, skipBlanks_of_stops hblank]
      split
      · next cs => exact absurd rfl hmark
      · rfl
  | @comment blanks body hblanks hbody =>
      rw [List.append_assoc, List.cons_append, lineEnd?, skipBlanks_append hblanks,
        skipBlanks_of_stops (Text.stops_cons.mpr (by decide))]
      simp only [Text.dropWhile_append (List.all_eq_true.mp hbody) hplain]

theorem lineEnd?_append (h : LineTail tail) (hnl : LineBreak nl) (rest : List Char) :
    lineEnd? (tail ++ (nl ++ rest)) = some rest := by
  obtain ⟨hblank, hplain⟩ := stops_lineBreak hnl rest
  rw [lineEnd?_tail h hblank hplain (by cases hnl <;> exact nofun), lineBreakOrEnd?_append hnl]

theorem lineEnd?_last (h : LineTail tail) : lineEnd? tail = some [] := by
  have hend := lineEnd?_tail h Text.stops_nil Text.stops_nil (by exact nofun)
  rwa [List.append_nil] at hend

end Blanks

/-! ## Between the elements of a list -/

/-- A text goes on with neither a blank nor a comment nor a line break. -/
def StartsToken (cs : List Char) : Prop :=
  ∀ c, cs.head? = some c → isBlank c = false ∧ c ≠ '\n' ∧ c ≠ '\r' ∧ c ≠ '#'

theorem startsToken_cons {c : Char} {cs : List Char} :
    StartsToken (c :: cs) ↔ isBlank c = false ∧ c ≠ '\n' ∧ c ≠ '\r' ∧ c ≠ '#' := by
  simp [StartsToken]

theorem filler_comment {body nl : List Char} (hbody : IsPlain body) (hnl : LineBreak nl)
    (rest : List Char) : filler true (body ++ (nl ++ rest)) = filler false rest := by
  induction body with
  | nil => cases hnl <;> rfl
  | cons c body ih =>
      rw [IsPlain, List.all_cons, Bool.and_eq_true] at hbody
      have hbreak : c ≠ '\n' ∧ c ≠ '\r' := by
        refine ⟨?_, ?_⟩ <;> rintro rfl <;> exact absurd hbody.1 (by decide)
      rw [List.cons_append, filler]
      · rw [if_pos rfl, if_pos hbody.1, ih hbody.2]
      · exact hbreak.1
      · exact fun _ h _ => hbreak.2 h

theorem filler_append {before rest : List Char} (h : Filler before) (hrest : StartsToken rest) :
    filler false (before ++ rest) = some rest := by
  induction h with
  | nil =>
      cases rest with
      | nil => rfl
      | cons c rest =>
          obtain ⟨hblank, hlf, hcr, hmark⟩ := startsToken_cons.mp hrest
          rw [List.nil_append, filler]
          · simp [hblank, hcr, hmark]
          · exact hlf
          · exact fun _ h _ => hcr h
  | @blank c cs hc _ ih =>
      obtain rfl | rfl := isBlank_iff.mp hc
      · exact ih
      · exact ih
  | lineBreak hnl _ ih =>
      cases hnl
      · exact ih
      · exact ih
  | @comment body nl cs hbody hnl _ ih =>
      rw [List.cons_append, List.append_assoc, List.append_assoc, filler]
      · exact (filler_comment hbody hnl (cs ++ rest)).trans ih
      · exact nofun
      · exact nofun

/-! ## Escapes -/

section Escapes

variable {c : Char} {e ds rest : List Char}

theorem hexNumber_append (n : Nat) (ds rest : List Char) :
    hexNumber n ds.length (ds ++ rest) =
      (ds.foldlM (fun n c => (Text.hexValue? c).map (n * 16 + ·)) n).map (·, rest) := by
  induction ds generalizing n with
  | nil => rfl
  | cons c ds ih =>
      rw [List.length_cons, List.cons_append, hexNumber, List.foldlM_cons]
      cases Text.hexValue? c with
      | none => rfl
      | some x => exact ih _

theorem escaped_append (h : EscapeSpelled c e) (rest : List Char) :
    escaped (e ++ rest) = some (c, rest) := by
  cases h with
  | short hmem =>
      simp only [shortEscapes, List.mem_cons, Prod.mk.injEq, List.not_mem_nil, or_false] at hmem
      rcases hmem with ⟨rfl, rfl⟩ | ⟨rfl, rfl⟩ | ⟨rfl, rfl⟩ | ⟨rfl, rfl⟩ | ⟨rfl, rfl⟩ | ⟨rfl, rfl⟩ |
        ⟨rfl, rfl⟩ <;> rfl
  | @code mark ds n hmem hds hc =>
      have hnumber : hexNumber 0 ds.length (ds ++ rest) = some (n, rest) := by
        rw [hexNumber_append, show ds.foldlM _ 0 = some n from hds]
        rfl
      simp only [codeEscapes, List.mem_cons, Prod.mk.injEq, List.not_mem_nil, or_false] at hmem
      rcases hmem with ⟨rfl, hlength⟩ | ⟨rfl, hlength⟩ <;> rw [hlength] at hnumber <;>
        simp [escaped, hnumber, hc]

/-- An escape begins with a letter, a quote or a backslash. -/
theorem escape_head (h : EscapeSpelled c e) :
    ∃ mark tail, e = mark :: tail ∧ isBlank mark = false ∧ mark ≠ '\n' ∧ mark ≠ '\r' := by
  cases h with
  | short hmem =>
      refine ⟨_, [], rfl, ?_⟩
      simp only [shortEscapes, List.mem_cons, Prod.mk.injEq, List.not_mem_nil, or_false] at hmem
      rcases hmem with ⟨rfl, -⟩ | ⟨rfl, -⟩ | ⟨rfl, -⟩ | ⟨rfl, -⟩ | ⟨rfl, -⟩ | ⟨rfl, -⟩ |
        ⟨rfl, -⟩ <;> decide
  | code hmem =>
      refine ⟨_, _, rfl, ?_⟩
      simp only [codeEscapes, List.mem_cons, Prod.mk.injEq, List.not_mem_nil, or_false] at hmem
      rcases hmem with ⟨rfl, -⟩ | ⟨rfl, -⟩ <;> decide

end Escapes

/-! ## Strings on one line -/

section Short

variable {s : String} {cs body read rest : List Char}

theorem basicString_append (h : BasicSpelled cs body) {fuel : Nat} (hfuel : body.length < fuel) :
    basicString fuel read (body ++ '"' :: rest) =
      some (String.ofList (read.reverse ++ cs), rest) := by
  induction h generalizing fuel read with
  | nil =>
      obtain ⟨fuel, rfl⟩ := Nat.exists_eq_add_one.mpr (Nat.zero_lt_of_lt hfuel)
      simp [basicString]
  | plain hquote hslash hplain _ ih =>
      rw [List.length_cons] at hfuel
      obtain ⟨fuel, rfl⟩ := Nat.exists_eq_add_one.mpr (Nat.zero_lt_of_lt hfuel)
      rw [List.cons_append, basicString, if_pos hplain, ih (Nat.lt_of_succ_lt_succ hfuel),
        List.reverse_cons, List.append_assoc, List.singleton_append]
      · exact hquote
      · exact hslash
  | @escape c e cs body he _ ih =>
      obtain ⟨mark, tail, rfl, -⟩ := escape_head he
      rw [List.length_cons, List.length_append, List.length_cons] at hfuel
      obtain ⟨fuel, rfl⟩ := Nat.exists_eq_add_one.mpr (Nat.zero_lt_of_lt hfuel)
      rw [List.cons_append, List.append_assoc, basicString, escaped_append he]
      simp only [Option.bind_eq_bind, Option.bind_some]
      rw [ih (by omega), List.reverse_cons, List.append_assoc, List.singleton_append]

theorem literalString_append (h : IsLiteral cs) :
    literalString read (cs ++ '\'' :: rest) = some (String.ofList (read.reverse ++ cs), rest) := by
  induction cs generalizing read with
  | nil => simp [literalString]
  | cons c cs ih =>
      obtain ⟨⟨hquote, hplain⟩, hcs⟩ := List.forall_mem_cons.mp h
      rw [List.cons_append, literalString, if_pos hplain, ih hcs, List.reverse_cons,
        List.append_assoc, List.singleton_append]
      exact hquote

theorem shortString_append (h : ShortSpelled s cs) (rest : List Char) :
    shortString (cs ++ rest) = some (s, rest) := by
  cases h with
  | @basic body hbody =>
      have hfuel : body.length < (body ++ '"' :: rest).length + 1 := by
        rw [List.length_append]
        omega
      rw [List.cons_append, List.append_assoc, List.singleton_append, shortString,
        basicString_append hbody hfuel, List.reverse_nil, List.nil_append, String.ofList_toList]
  | literal hs =>
      rw [List.cons_append, List.append_assoc, List.singleton_append, shortString,
        literalString_append hs, List.reverse_nil, List.nil_append, String.ofList_toList]

end Short

/-! ## Strings over several lines -/

section Long

variable {quote : Char} {cs body read rest : List Char}

theorem startsVisible_quote (rest : List Char) : StartsVisible ('"' :: rest) := by
  rintro c hc
  obtain rfl := Option.some.inj hc
  decide

theorem StartsVisible.append (h : StartsVisible body) (hrest : StartsVisible rest) :
    StartsVisible (body ++ rest) := by
  cases body with
  | nil => exact hrest
  | cons c body => exact h

theorem StartsVisible.stops (h : StartsVisible rest) : Stops isBlank rest := fun c hc => (h c hc).1

theorem skipBreaks_of_visible (h : StartsVisible rest) : skipBreaks rest = rest := by
  cases rest with
  | nil => rfl
  | cons c rest =>
      obtain ⟨hblank, hlf, hcr⟩ := h c rfl
      rw [skipBreaks]
      · simp [hblank, hlf]
      · exact fun _ h _ => hcr h

theorem skipBreaks_append {swallowed : List Char} (h : Swallowed swallowed)
    (hrest : StartsVisible rest) : skipBreaks (swallowed ++ rest) = rest := by
  induction h with
  | nil => exact skipBreaks_of_visible hrest
  | @blank c cs hc _ ih =>
      obtain rfl | rfl := isBlank_iff.mp hc
      · exact ih
      · exact ih
  | lineBreak hnl _ ih =>
      cases hnl
      · exact ih
      · exact ih

theorem continued?_append {blanks nl swallowed : List Char} (hblanks : Blanks blanks)
    (hnl : LineBreak nl) (hswallowed : Swallowed swallowed) (hrest : StartsVisible rest) :
    continued? (blanks ++ (nl ++ (swallowed ++ rest))) = some rest := by
  rw [continued?, skipBlanks_append hblanks,
    skipBlanks_of_stops (stops_lineBreak hnl _).1]
  cases hnl <;> simp [skipBreaks_append hswallowed hrest]

/-- An escape is no end of a line. -/
theorem continued?_escape {c : Char} {e : List Char} (h : EscapeSpelled c e) (rest : List Char) :
    continued? (e ++ rest) = none := by
  obtain ⟨mark, tail, rfl, hblank, hlf, hcr⟩ := escape_head h
  rw [continued?, List.cons_append, skipBlanks_of_stops (Text.stops_cons.mpr hblank)]
  split
  · next heq => exact absurd (List.cons.inj heq).1 hlf
  · next heq => exact absurd (List.cons.inj heq).1 hcr
  · rfl

/-- A character that neither closes nor escapes nor breaks the line is read as it is. -/
theorem longBasicString_plain {fuel : Nat} {c : Char} (hplain : isPlain c = true)
    (hquote : ¬ [ '"', '"', '"'] <+: c :: rest) (hslash : c ≠ '\\') :
    longBasicString (fuel + 1) read (c :: rest) = longBasicString fuel (c :: read) rest := by
  have hlf : c ≠ '\n' := by
    rintro rfl
    exact absurd hplain (by decide)
  have hcr : c ≠ '\r' := by
    rintro rfl
    exact absurd hplain (by decide)
  rw [longBasicString, if_pos hplain]
  · exact fun tail hc htail => hquote (by rw [hc, htail]; simp)
  · exact hslash
  · exact hlf
  · exact fun _ h _ => hcr h

theorem longBasicString_append (h : LongBasicSpelled cs body) {fuel : Nat}
    (hfuel : body.length < fuel) :
    longBasicString fuel read (body ++ delimited '"' rest) =
      some (closeLong '"' (cs.reverse ++ read) rest) := by
  induction h generalizing fuel read with
  | nil =>
      obtain ⟨fuel, rfl⟩ := Nat.exists_eq_add_one.mpr (Nat.zero_lt_of_lt hfuel)
      rfl
  | @plain c cs body hquote hslash hplain _ ih =>
      rw [List.length_cons] at hfuel
      obtain ⟨fuel, rfl⟩ := Nat.exists_eq_add_one.mpr (Nat.zero_lt_of_lt hfuel)
      rw [List.cons_append, longBasicString_plain hplain ?_ hslash,
        ih (Nat.lt_of_succ_lt_succ hfuel), List.reverse_cons, List.append_assoc,
        List.singleton_append]
      simp [Ne.symm hquote]
  | @escape c e cs body he _ ih =>
      obtain ⟨mark, tail, rfl, -⟩ := escape_head he
      rw [List.length_cons, List.length_append, List.length_cons] at hfuel
      obtain ⟨fuel, rfl⟩ := Nat.exists_eq_add_one.mpr (Nat.zero_lt_of_lt hfuel)
      rw [List.cons_append, List.append_assoc, longBasicString, continued?_escape he,
        escaped_append he]
      simp only [Option.bind_eq_bind, Option.bind_some]
      rw [ih (by omega), List.reverse_cons, List.append_assoc, List.singleton_append]
  | @lineBreak nl cs body hnl _ ih =>
      obtain ⟨fuel, rfl⟩ := Nat.exists_eq_add_one.mpr (Nat.zero_lt_of_lt hfuel)
      have hrest : body.length < fuel := by
        cases hnl <;> simp at hfuel <;> omega
      rw [List.append_assoc, List.reverse_cons, List.append_assoc cs.reverse, List.singleton_append,
        ← ih hrest]
      cases hnl <;> rfl
  | @continued blanks nl swallowed cs body hblanks hnl hswallowed hvisible _ ih =>
      have hcontinued := continued?_append hblanks hnl hswallowed
        (hvisible.append (startsVisible_quote ('"' :: '"' :: rest)))
      obtain ⟨fuel, rfl⟩ := Nat.exists_eq_add_one.mpr (Nat.zero_lt_of_lt hfuel)
      simp only [List.length_cons, List.length_append] at hfuel
      simp only [List.cons_append, List.append_assoc, delimited]
      rw [longBasicString, hcontinued]
      exact ih (by omega)
  | @quotes quotes cs body hquotes hne hapart _ ih =>
      obtain ⟨c, body, rfl⟩ := List.exists_cons_of_ne_nil hne
      have hc : '"' ≠ c := fun h => hapart (by rw [h]; rfl)
      obtain ⟨fuel, rfl⟩ := Nat.exists_eq_add_one.mpr (Nat.zero_lt_of_lt hfuel)
      obtain rfl | rfl := hquotes
      · rw [List.append_assoc, List.singleton_append,
          longBasicString_plain (by decide) (by simp [hc]) (by decide), ih (by simpa using hfuel)]
        simp
      · obtain ⟨fuel, rfl⟩ := Nat.exists_eq_add_one.mpr (by simp at hfuel; omega : 0 < fuel)
        rw [List.append_assoc, List.cons_append, List.singleton_append,
          longBasicString_plain (by decide) (by simp [hc]) (by decide),
          longBasicString_plain (by decide) (by simp [hc]) (by decide), ih (by simpa using hfuel)]
        simp

theorem longLiteralString_plain {c : Char} (hplain : isPlain c = true)
    (hquote : ¬ ['\'', '\'', '\''] <+: c :: rest) :
    longLiteralString read (c :: rest) = longLiteralString (c :: read) rest := by
  have hlf : c ≠ '\n' := by
    rintro rfl
    exact absurd hplain (by decide)
  have hcr : c ≠ '\r' := by
    rintro rfl
    exact absurd hplain (by decide)
  rw [longLiteralString, if_pos hplain]
  · exact fun tail hc htail => hquote (by rw [hc, htail]; simp)
  · exact hlf
  · exact fun _ h _ => hcr h

theorem longLiteralString_append (h : LongLiteralSpelled cs body) :
    longLiteralString read (body ++ delimited '\'' rest) =
      some (closeLong '\'' (cs.reverse ++ read) rest) := by
  induction h generalizing read with
  | nil => rfl
  | plain hquote hplain _ ih =>
      rw [List.cons_append, longLiteralString_plain hplain, ih, List.reverse_cons,
        List.append_assoc, List.singleton_append]
      simp [Ne.symm hquote]
  | @lineBreak nl cs body hnl _ ih =>
      rw [List.append_assoc, List.reverse_cons, List.append_assoc cs.reverse, List.singleton_append,
        ← ih]
      cases hnl <;> rfl
  | @quotes quotes cs body hquotes hne hapart _ ih =>
      obtain ⟨c, body, rfl⟩ := List.exists_cons_of_ne_nil hne
      have hc : '\'' ≠ c := fun h => hapart (by rw [h]; rfl)
      obtain rfl | rfl := hquotes
      · rw [List.append_assoc, List.singleton_append,
          longLiteralString_plain (by decide) (by simp [hc]), ih]
        simp
      · rw [List.append_assoc, List.cons_append, List.singleton_append,
          longLiteralString_plain (by decide) (by simp [hc]),
          longLiteralString_plain (by decide) (by simp [hc]), ih]
        simp

theorem startsApart_cons {c d : Char} : StartsApart c (d :: rest) ↔ d ≠ c := by
  simp [StartsApart]

theorem StartsApart.append {c : Char} (h : StartsApart c body) (hrest : StartsApart c rest) :
    StartsApart c (body ++ rest) := by
  cases body with
  | nil => exact hrest
  | cons d body => exact h

theorem skipFirstBreak_append {first : List Char} (h : FirstBreak first body)
    (hrest : StartsApart '\n' rest ∧ StartsApart '\r' rest) :
    skipFirstBreak (first ++ (body ++ rest)) = body ++ rest := by
  obtain h | ⟨rfl, hlf, hcr⟩ := h
  · cases h <;> rfl
  · have hlf := hlf.append hrest.1
    have hcr := hcr.append hrest.2
    rw [List.nil_append]
    generalize body ++ rest = cs at hlf hcr
    unfold skipFirstBreak
    split
    · exact absurd rfl hlf
    · exact absurd rfl hcr
    · rfl

/-- Quotes in front of a closing delimiter belong to the string. -/
theorem closeLong_append {quotes : List Char} (h : LastQuotes quote quotes)
    (hrest : StartsApart quote rest) :
    closeLong quote read (quotes ++ rest) = (String.ofList (read.reverse ++ quotes), rest) := by
  obtain rfl | rfl | rfl := h
  · cases rest with
    | nil => simp [closeLong]
    | cons c rest =>
        have hc := startsApart_cons.mp hrest
        cases rest <;> simp [closeLong, hc]
  · cases rest with
    | nil => simp [closeLong]
    | cons c rest =>
        have hc := startsApart_cons.mp hrest
        simp [closeLong, hc]
  · simp [closeLong]

/-- What may come behind a string: two quotes are no opening delimiter. -/
def EndsString (rest : List Char) : Prop := StartsApart '"' rest ∧ StartsApart '\'' rest

/-- A string on one line does not look like one over several lines. -/
theorem string_of_short {s : String} (h : ShortSpelled s cs) (hrest : EndsString rest) :
    string (cs ++ rest) = shortString (cs ++ rest) := by
  unfold string
  split
  · next more heq =>
      exfalso
      cases h with
      | basic hbody =>
          generalize s.toList = chars at hbody
          cases hbody with
          | nil =>
              have hrest' : rest = '"' :: more := by simpa using heq
              exact hrest.1 (congrArg List.head? hrest')
          | plain hquote => exact hquote (List.cons.inj (List.cons.inj heq).2).1
          | escape => simp at heq
      | literal => simp at heq
  · next more heq =>
      exfalso
      cases h with
      | basic => simp at heq
      | literal hs =>
          generalize s.toList = chars at hs heq
          cases chars with
          | nil =>
              have hrest' : rest = '\'' :: more := by simpa using heq
              exact hrest.2 (congrArg List.head? hrest')
          | cons c chars =>
              exact (hs c List.mem_cons_self).1 (List.cons.inj (List.cons.inj heq).2).1
  · rfl

/-- Quotes in front of a delimiter can stand behind it. -/
theorem contents_eq {first quotes : List Char} (hfirst : FirstBreak first (body ++ quotes))
    (hquotes : LastQuotes quote quotes) (hquote : quote ≠ '\n' ∧ quote ≠ '\r')
    (rest : List Char) :
    skipFirstBreak (first ++ (body ++ (quotes ++ delimited quote rest))) =
      body ++ delimited quote (quotes ++ rest) := by
  have hrest : StartsApart '\n' (delimited quote rest) ∧ StartsApart '\r' (delimited quote rest) :=
    ⟨startsApart_cons.mpr hquote.1, startsApart_cons.mpr hquote.2⟩
  rw [← List.append_assoc body, skipFirstBreak_append hfirst hrest, List.append_assoc]
  obtain rfl | rfl | rfl := hquotes <;> rfl

theorem delimited_append (first body quotes rest : List Char) :
    delimited quote (first ++ (body ++ (quotes ++ delimited quote []))) ++ rest =
      delimited quote (first ++ (body ++ (quotes ++ delimited quote rest))) := by
  simp [delimited]

theorem string_append {s : String} (h : StringSpelled s cs) (hrest : EndsString rest) :
    string (cs ++ rest) = some (s, rest) := by
  cases h with
  | short h => rw [string_of_short h hrest, shortString_append h]
  | @longBasic first cs body quotes hfirst hbody hquotes =>
      rw [delimited_append, delimited, string, contents_eq hfirst hquotes (by decide),
        longBasicString_append hbody (by simp; omega), closeLong_append hquotes hrest.1,
        List.append_nil, List.reverse_reverse]
  | @longLiteral first cs body quotes hfirst hbody hquotes =>
      rw [delimited_append, delimited, string, contents_eq hfirst hquotes (by decide),
        longLiteralString_append hbody, closeLong_append hquotes hrest.2, List.append_nil,
        List.reverse_reverse]

end Long

/-! ## Keys -/

section Keys

variable {part : String} {path : List String} {cs own text rest : List Char}

/-- A part of a key begins with a quote or with a character of a bare key. -/
def isKeyStart (c : Char) : Bool := c = '"' || c = '\'' || isBareKeyChar c

theorem shortSpelled_head {s : String} (h : ShortSpelled s cs) :
    ∃ quote tail, cs = quote :: tail ∧ (quote = '"' ∨ quote = '\'') := by
  cases h with
  | basic => exact ⟨_, _, rfl, .inl rfl⟩
  | literal => exact ⟨_, _, rfl, .inr rfl⟩

theorem keyPart_head (h : KeyPartSpelled part own) :
    ∃ c tail, own = c :: tail ∧ isKeyStart c = true := by
  cases h with
  | bare hne hall =>
      obtain ⟨c, tail, heq⟩ := List.exists_cons_of_ne_nil hne
      rw [heq, List.all_cons, Bool.and_eq_true] at hall
      exact ⟨c, tail, heq, by simp [isKeyStart, hall.1]⟩
  | quoted h =>
      obtain ⟨quote, tail, rfl, hquote⟩ := shortSpelled_head h
      exact ⟨quote, tail, rfl, by simp [isKeyStart]; tauto⟩

theorem isBlank_of_isKeyStart {c : Char} (h : isKeyStart c = true) : isBlank c = false := by
  rw [← Bool.not_eq_true, isBlank_iff]
  rintro (rfl | rfl) <;> exact absurd h (by decide)

theorem keyPart_append (h : KeyPartSpelled part own) (hrest : Stops isBareKeyChar rest) :
    keyPart (own ++ rest) = some (part, rest) := by
  cases h with
  | bare hne hall =>
      have hspan : (part.toList ++ rest).span isBareKeyChar = (part.toList, rest) :=
        Text.span_append (List.all_eq_true.mp hall) hrest
      obtain ⟨c, tail, heq⟩ := List.exists_cons_of_ne_nil hne
      rw [heq, List.all_cons, Bool.and_eq_true] at hall
      unfold keyPart
      split
      · next hcs =>
          rw [heq] at hcs
          obtain rfl := (List.cons.inj hcs).1
          exact absurd hall.1 (by decide)
      · next hcs =>
          rw [heq] at hcs
          obtain rfl := (List.cons.inj hcs).1
          exact absurd hall.1 (by decide)
      · rw [hspan]
        split
        · next hnil => exact absurd (congrArg Prod.fst hnil) hne
        · next hfound =>
            cases hfound
            rw [String.ofList_toList]
  | quoted h =>
      obtain ⟨quote, tail, heq, hquote⟩ := shortSpelled_head h
      have hfound := shortString_append h rest
      rw [heq] at hfound ⊢
      obtain rfl | rfl := hquote <;> exact hfound

/-- What comes behind a key. -/
def EndsKey (rest : List Char) : Prop := ∀ c, rest.head? = some c → c = '=' ∨ c = ']'

theorem EndsKey.stops (h : EndsKey rest) : Stops isBlank rest ∧ Stops isBareKeyChar rest := by
  refine ⟨fun c hc => ?_, fun c hc => ?_⟩ <;> obtain rfl | rfl := h c hc <;> decide

/-- Behind a part of a key and blanks comes nothing that the part could go on with. -/
theorem stops_after {after : List Char} (hafter : Blanks after) (hrest : Stops isBareKeyChar rest) :
    Stops isBareKeyChar (after ++ rest) := by
  cases after with
  | nil => exact hrest
  | cons c after =>
      obtain rfl | rfl := isBlank_iff.mp (List.all_eq_true.mp hafter c List.mem_cons_self) <;>
        exact Text.stops_cons.mpr (by decide)

/-- The blanks in front of a key do not matter. -/
theorem skipBlanks_keyPart {before : List Char} (hbefore : Blanks before)
    (h : KeyPartSpelled part own) (rest : List Char) :
    skipBlanks (before ++ (own ++ rest)) = own ++ rest := by
  obtain ⟨c, tail, rfl, hc⟩ := keyPart_head h
  exact (skipBlanks_append hbefore _).trans
    (skipBlanks_of_stops (Text.stops_cons.mpr (isBlank_of_isKeyStart hc)))

theorem keyParts_append (h : KeySpelled path text) (hrest : EndsKey rest) {fuel : Nat}
    (hfuel : path.length ≤ fuel) {cs : List Char}
    (hcs : skipBlanks cs = skipBlanks (text ++ rest)) :
    keyParts fuel cs = some (path, rest) := by
  induction h generalizing fuel cs with
  | @last part before own after hbefore hpart hafter =>
      obtain ⟨fuel, rfl⟩ := Nat.exists_eq_add_one.mpr hfuel
      have hfound := keyPart_append hpart (stops_after hafter hrest.stops.2)
      rw [List.append_assoc, List.append_assoc, skipBlanks_keyPart hbefore hpart] at hcs
      rw [keyParts, hcs, hfound]
      simp only [Option.bind_eq_bind, Option.bind_some, skipBlanks_append hafter,
        skipBlanks_of_stops hrest.stops.1]
      split
      · next tail => exact absurd (hrest '.' rfl) (by decide)
      · rfl
  | @dot part path before own after tail hbefore hpart hafter _ ih =>
      obtain ⟨fuel, rfl⟩ := Nat.exists_eq_add_one.mpr (Nat.zero_lt_of_lt hfuel)
      have hdot : Stops isBareKeyChar ('.' :: (tail ++ rest)) := Text.stops_cons.mpr (by decide)
      have hfound := keyPart_append hpart (stops_after hafter hdot)
      rw [List.append_assoc, List.append_assoc, List.append_assoc, List.cons_append,
        skipBlanks_keyPart hbefore hpart] at hcs
      rw [keyParts, hcs, hfound]
      simp only [Option.bind_eq_bind, Option.bind_some, skipBlanks_append hafter]
      rw [skipBlanks_of_stops (Text.stops_cons.mpr (by decide))]
      simp [ih (Nat.le_of_succ_le_succ hfuel) rfl]

/-- Behind blanks a text begins like a key, and goes on for so many characters at least. -/
def StartsKey (least : Nat) (text : List Char) : Prop :=
  ∃ c tail, isKeyStart c = true ∧ least ≤ tail.length + 1 ∧
    ∀ rest, skipBlanks (text ++ rest) = c :: (tail ++ rest)

theorem StartsKey.append {least more : Nat} (h : StartsKey least text) (hmore : more ≤ cs.length) :
    StartsKey (least + more) (text ++ cs) := by
  obtain ⟨c, tail, hc, hleast, hskip⟩ := h
  refine ⟨c, tail ++ cs, hc, ?_, fun rest => ?_⟩
  · rw [List.length_append]
    omega
  · rw [List.append_assoc, hskip, List.append_assoc]

theorem StartsKey.mono {least least' : Nat} (h : StartsKey least text) (hle : least' ≤ least) :
    StartsKey least' text := by
  obtain ⟨c, tail, hc, hleast, hskip⟩ := h
  exact ⟨c, tail, hc, Nat.le_trans hle hleast, hskip⟩

theorem StartsKey.le_length {least : Nat} (h : StartsKey least text) : least ≤ text.length := by
  obtain ⟨c, tail, -, hleast, hskip⟩ := h
  have hshorter : (skipBlanks text).length ≤ text.length := (List.dropWhile_suffix _).length_le
  have htext := hskip []
  rw [List.append_nil, List.append_nil] at htext
  rw [htext, List.length_cons] at hshorter
  omega

theorem keyPart_starts {before : List Char} (hbefore : Blanks before)
    (h : KeyPartSpelled part own) :
    StartsKey 1 (before ++ own) := by
  obtain ⟨c, tail, heq, hc⟩ := keyPart_head h
  refine ⟨c, tail, hc, Nat.le_add_left 1 _, fun rest => ?_⟩
  rw [List.append_assoc, skipBlanks_keyPart hbefore h, heq, List.cons_append]

/-- A key has a character for each of its parts. -/
theorem key_starts (h : KeySpelled path text) : StartsKey path.length text := by
  induction h with
  | last hbefore hpart _ =>
      rw [← List.append_assoc]
      exact (keyPart_starts hbefore hpart).append (Nat.zero_le _)
  | dot hbefore hpart _ _ ih =>
      rw [← List.append_assoc, List.length_cons, Nat.add_comm]
      refine (keyPart_starts hbefore hpart).append ?_
      have hrest := ih.le_length
      simp only [List.length_append, List.length_cons]
      omega

theorem key_append (h : KeySpelled path text) (hpath : path.length < keyLimit)
    (hrest : EndsKey rest) (hcs : skipBlanks cs = skipBlanks (text ++ rest)) :
    key cs = some (path, rest) := by
  obtain ⟨c, tail, -, hlength, hskip⟩ := key_starts h
  have hshorter : (skipBlanks cs).length ≤ cs.length := (List.dropWhile_suffix _).length_le
  rw [hcs, hskip, List.length_cons, List.length_append] at hshorter
  rw [key, keyParts_append h hrest (by omega) hcs]
  exact if_pos hpath

theorem path_ne_nil (h : KeySpelled path text) : path ≠ [] := by
  cases h <;> exact List.cons_ne_nil _ _

end Keys

end CrudStack.Toml
