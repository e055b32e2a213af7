/-
# `CrudStack.Json.Lexeme` — the lexemes of JSON

Words, numbers and strings are recognized in two ways.  *Reading* yields a value and is strict.
*Skipping* only finds the end: it ignores surrogates that stand alone and numbers that are out of
range, and it words some faults differently.  A text that can be read can be skipped, with the same
end.

A number keeps as many digits as fit in 64 bits; further digits only count.  Its value is that
significand, rounded to a double, multiplied or divided once by a power of ten — which is not always
the double next to the decimal.  A whole number without point and exponent stays exact if it fits
in 64 bits; `-0` does not count as one.
-/
import CrudStack.Document
import CrudStack.Json.Fault
import CrudStack.Text.Class
import CrudStack.Text.Digit

namespace CrudStack.Json

/-- A place in a text: the bytes before it and the characters after it. -/
structure Cursor where
  offset : Nat
  rest : List Char
  deriving Repr

/-- A flaw at the next byte, or at the end if there is none. -/
def Cursor.flawAhead (c : Cursor) (fault : Fault) : Flaw :=
  ⟨fault, if c.rest.isEmpty then c.offset else c.offset + 1⟩

/-- Number of bytes of a text. -/
def byteLength : List Char → Nat
  | [] => 0
  | c :: rest => c.utf8Size + byteLength rest

/-- A blank of JSON. -/
def isBlank (c : Char) : Bool := c = ' ' || c = '\n' || c = '\t' || c = '\r'

/-- Skips blanks. -/
def skipBlanks (offset : Nat) : List Char → Cursor
  | [] => ⟨offset, []⟩
  | c :: rest => if isBlank c then skipBlanks (offset + 1) rest else ⟨offset, c :: rest⟩

/-- The place behind the blanks. -/
def Cursor.afterBlanks (c : Cursor) : Cursor := skipBlanks c.offset c.rest

/-- What recognizing a lexeme yields: its reading and the place behind it, or the two flaws that
reading and skipping report. -/
inductive Lexed (Value : Type) where
  | found (reading : Except Flaw Value) (next : Cursor)
  | broken (reading skipping : Flaw)

/-! ## Words -/

/-- Recognizes the rest of a word; reading and skipping agree. -/
def lexWord (value : Document) (offset : Nat) : List Char → List Char → Lexed Document
  | [], rest => .found (.ok value) ⟨offset, rest⟩
  | _ :: _, [] => .broken ⟨.endInValue, offset⟩ ⟨.endInValue, offset⟩
  | w :: word, c :: rest =>
    if c = w then lexWord value (offset + 1) word rest
    else .broken ⟨.wordExpected, offset + 1⟩ ⟨.wordExpected, offset + 1⟩

/-! ## Numbers -/

/-- The parts of a number: sign, digits before and after the point, sign and digits of the exponent.
The offsets are those of the exponent's digits and of the end. -/
structure Numeral where
  negative : Bool
  whole : List Char
  fraction : Option (List Char)
  exponent : Option (Bool × List Char)
  exponentOffset : Nat
  stop : Nat

/-- The value of a digit. -/
def digitValue (c : Char) : Nat := c.toNat - 0x30

/-- Appends digits to a number while it stays within a limit; yields the digits left over. -/
def absorb (limit : Nat) (n : Nat) : List Char → Nat × List Char
  | [] => (n, [])
  | c :: rest =>
    let more := n * 10 + digitValue c
    if more ≤ limit then absorb limit more rest else (n, c :: rest)

/-- The greatest number of 64 bits. -/
def wordLimit : Nat := Nat.pow 2 64 - 1

/-- The greatest exponent that is not cut short. -/
def exponentLimit : Nat := Nat.pow 2 31 - 1

/-- The greatest power of ten that is a double. -/
def tenLimit : Nat := 308

/-- A double times a power of ten, in steps of the greatest power of ten if it is far below one;
none beyond the greatest double. -/
def scaleDouble : Nat → Double → Int → Option Double
  | 0, x, _ => some x
  | fuel + 1, x, power =>
    if power.natAbs ≤ tenLimit then
      if 0 ≤ power then
        let y := x.timesPowerOfTen power.natAbs
        if y.isInfinite then none else some y
      else some (x.overPowerOfTen power.natAbs)
    else if x.isZero then some x
    else if 0 ≤ power then none
    else scaleDouble fuel (x.overPowerOfTen tenLimit) (power + tenLimit)

namespace Numeral

/-- The double of a significand and a power of ten, or the flaw at the end of the number. -/
def toDouble (n : Numeral) (significand : Nat) (power : Int) : Except Flaw Document :=
  match scaleDouble 4 (.ofNat significand) power with
  | some x => .ok (.double (if n.negative then x.negate else x))
  | none => .error ⟨.numberOutOfRange, n.stop⟩

/-- The value of a whole number that fits in 64 bits without its sign. -/
def wholeValue (n : Numeral) (significand : Nat) : Document :=
  if !n.negative then .integer significand
  else if significand = 0 ∨ Nat.pow 2 63 < significand then
    .double (Double.ofNat significand).negate
  else .integer (-(significand : Int))

/-- The value of a number. -/
def value (n : Numeral) : Except Flaw Document :=
  let (significand, uncounted) := absorb wordLimit 0 n.whole
  match n.fraction, n.exponent with
  | none, none =>
    if uncounted.isEmpty then .ok (n.wholeValue significand)
    else n.toDouble significand uncounted.length
  | fraction, exponent =>
    let digits := fraction.getD []
    let (significand, left) := absorb wordLimit significand digits
    let power : Int := uncounted.length - (digits.length - left.length : Nat)
    match exponent with
    | none => n.toDouble significand power
    | some (down, exponentDigits) =>
      let (e, beyond) := absorb exponentLimit 0 exponentDigits
      if beyond.isEmpty then n.toDouble significand (if down then power - e else power + e)
      else if significand ≠ 0 ∧ !down then
        .error ⟨.numberOutOfRange, n.exponentOffset + (exponentDigits.length - beyond.length) + 1⟩
      else .ok (.double (.zero n.negative))

end Numeral

/-- The digits at the head of a text and what follows them. -/
def splitDigits (cs : List Char) : List Char × List Char := cs.span Text.isAsciiDigit

/-- A flaw of a number, of which reading alone tells that the text ended. -/
def numberFlaw {Value : Type} (c : Cursor) : Lexed Value :=
  .broken (c.flawAhead (if c.rest.isEmpty then .endInValue else .invalidNumber))
    (c.flawAhead .invalidNumber)

/-- Recognizes the exponent of a number, if there is one. -/
def lexExponent (n : Numeral) (c : Cursor) : Lexed Document :=
  match c.rest with
  | e :: rest =>
    if e = 'e' ∨ e = 'E' then
      let (down, signed, rest) : Bool × Nat × List Char :=
        match rest with
        | '+' :: r => (false, 1, r)
        | '-' :: r => (true, 1, r)
        | r => (false, 0, r)
      let offset := c.offset + 1 + signed
      match splitDigits rest with
      | ([], rest) => numberFlaw ⟨offset, rest⟩
      | (digits, rest) =>
        let stop := offset + digits.length
        let n := { n with exponent := some (down, digits), exponentOffset := offset, stop := stop }
        .found n.value ⟨stop, rest⟩
    else .found { n with stop := c.offset }.value c
  | [] => .found { n with stop := c.offset }.value c

/-- Recognizes the fraction of a number, if there is one, and what follows. -/
def lexFraction (n : Numeral) (c : Cursor) : Lexed Document :=
  match c.rest with
  | '.' :: rest =>
    match splitDigits rest with
    | ([], rest) => numberFlaw ⟨c.offset + 1, rest⟩
    | (digits, rest) =>
      lexExponent { n with fraction := some digits } ⟨c.offset + 1 + digits.length, rest⟩
  | _ => lexExponent n c

/-- Recognizes a number behind its sign.  A zero is followed by no digit. -/
def lexUnsigned (negative : Bool) (c : Cursor) : Lexed Document :=
  match splitDigits c.rest with
  | ([], _) => numberFlaw c
  | ('0' :: _ :: _, _) =>
    .broken ⟨.invalidNumber, c.offset + 2⟩ ⟨.invalidNumber, c.offset + 2⟩
  | (digits, rest) =>
    lexFraction ⟨negative, digits, none, none, 0, 0⟩ ⟨c.offset + digits.length, rest⟩

/-- Recognizes a number. -/
def lexNumber (c : Cursor) : Lexed Document :=
  match c.rest with
  | '-' :: rest => lexUnsigned true ⟨c.offset + 1, rest⟩
  | _ => lexUnsigned false c

/-! ## Strings -/

/-- The number of four digits of base sixteen. -/
def hexFour? (a b c d : Char) : Option Nat := do
  let a ← Text.hexValue? a
  let b ← Text.hexValue? b
  let c ← Text.hexValue? c
  let d ← Text.hexValue? d
  pure (((a * 16 + b) * 16 + c) * 16 + d)

/-- The flaw where four digits of base sixteen should stand: the text ends within four bytes, or
they are something else. -/
def hexFlaw (c : Cursor) : Flaw :=
  if byteLength (c.rest.take 4) < 4 then ⟨.endInString, c.offset + byteLength c.rest⟩
  else ⟨.invalidEscape, c.offset + 4⟩

/-- The character that a backslash and one letter stand for. -/
def shortEscape? : Char → Option Char
  | '"' => some '"'
  | '\\' => some '\\'
  | '/' => some '/'
  | 'b' => some '\x08'
  | 'f' => some '\x0c'
  | 'n' => some '\n'
  | 'r' => some '\r'
  | 't' => some '\t'
  | _ => none

/-- The first halves of surrogate pairs. -/
def isLeading (n : Nat) : Bool := 0xd800 ≤ n && n ≤ 0xdbff

/-- The second halves of surrogate pairs. -/
def isTrailing (n : Nat) : Bool := 0xdc00 ≤ n && n ≤ 0xdfff

/-- The character of a surrogate pair. -/
def pairChar (lead trail : Nat) : Char :=
  Char.ofNat ((lead - 0xd800) * 0x400 + (trail - 0xdc00) + 0x10000)

/-- Reads a string behind its opening quote. -/
def readString (offset : Nat) (read : List Char) : List Char → Except Flaw (String × Cursor)
  | [] => .error ⟨.endInString, offset⟩
  | '"' :: rest => .ok (String.ofList read.reverse, ⟨offset + 1, rest⟩)
  | '\\' :: [] => .error ⟨.endInString, offset + 1⟩
  | '\\' :: 'u' :: a :: b :: c :: d :: rest =>
    match hexFour? a b c d with
    | none => .error (hexFlaw ⟨offset + 2, a :: b :: c :: d :: rest⟩)
    | some n =>
      if isTrailing n then .error ⟨.loneSurrogate, offset + 6⟩
      else if isLeading n then
        match rest with
        | [] => .error ⟨.endInString, offset + 6⟩
        | '\\' :: [] => .error ⟨.endInString, offset + 7⟩
        | '\\' :: 'u' :: e :: f :: g :: h :: rest =>
          match hexFour? e f g h with
          | none => .error (hexFlaw ⟨offset + 8, e :: f :: g :: h :: rest⟩)
          | some m =>
            if isTrailing m then readString (offset + 12) (pairChar n m :: read) rest
            else .error ⟨.loneSurrogate, offset + 12⟩
        | '\\' :: 'u' :: rest => .error (hexFlaw ⟨offset + 8, rest⟩)
        | '\\' :: _ :: _ => .error ⟨.unfinishedPair, offset + 8⟩
        | _ :: _ => .error ⟨.unfinishedPair, offset + 7⟩
      else readString (offset + 6) (Char.ofNat n :: read) rest
  | '\\' :: 'u' :: rest => .error (hexFlaw ⟨offset + 2, rest⟩)
  | '\\' :: c :: rest =>
    match shortEscape? c with
    | some e => readString (offset + 2) (e :: read) rest
    | none => .error ⟨.invalidEscape, offset + 2⟩
  | c :: rest =>
    if c.toNat < 0x20 then .error ⟨.controlCharacter, offset + 1⟩
    else readString (offset + c.utf8Size) (c :: read) rest

/-- Skips a string behind its opening quote. -/
def skipString (offset : Nat) : List Char → Except Flaw Cursor
  | [] => .error ⟨.endInString, offset⟩
  | '"' :: rest => .ok ⟨offset + 1, rest⟩
  | '\\' :: [] => .error ⟨.endInString, offset + 1⟩
  | '\\' :: 'u' :: a :: b :: c :: d :: rest =>
    match hexFour? a b c d with
    | none => .error (hexFlaw ⟨offset + 2, a :: b :: c :: d :: rest⟩)
    | some _ => skipString (offset + 6) rest
  | '\\' :: 'u' :: rest => .error (hexFlaw ⟨offset + 2, rest⟩)
  | '\\' :: c :: rest =>
    match shortEscape? c with
    | some _ => skipString (offset + 2) rest
    | none => .error ⟨.invalidEscape, offset + 2⟩
  | c :: rest =>
    if c.toNat < 0x20 then .error ⟨.controlCharacter, offset⟩
    else skipString (offset + c.utf8Size) rest

/-- Recognizes a string behind its opening quote.  Where skipping fails, reading has failed at the
same place or before. -/
def lexString (c : Cursor) : Lexed String :=
  match readString c.offset [] c.rest, skipString c.offset c.rest with
  | .ok (s, next), _ => .found (.ok s) next
  | .error flaw, .ok next => .found (.error flaw) next
  | .error reading, .error skipping => .broken reading skipping

end CrudStack.Json
