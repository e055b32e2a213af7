/-
# `CrudStack.Proofs.Toml.Grammar` — the texts of TOML tables

The grammar gives the texts of keys, of values and of whole tables: blanks, comments and either line
break between the lines, keys with or without quotes, strings in all four spellings with any of
their escapes, lists over several lines, and tables by dotted keys, in braces or below headers, in
any order of the statements that lets each table be told (`CrudStack.Proofs.Toml.Told`).

Of the single values it covers strings, truth values and whole numbers in plain decimal digits.
-/
import CrudStack.Proofs.Toml.Told
import CrudStack.Toml.Parse

namespace CrudStack.Toml

/-! ## Blanks and lines -/

/-- Blanks inside a line. -/
def Blanks (cs : List Char) : Prop := cs.all isBlank = true

/-- What may stand in a comment. -/
def IsPlain (cs : List Char) : Prop := cs.all isPlain = true

/-- The break behind a line. -/
inductive LineBreak : List Char → Prop
  | lf : LineBreak ['\n']
  | crlf : LineBreak ['\r', '\n']

/-- What may stand behind a statement on its line: blanks and a comment. -/
inductive LineTail : List Char → Prop
  | blanks {cs : List Char} : Blanks cs → LineTail cs
  | comment {cs body : List Char} : Blanks cs → IsPlain body → LineTail (cs ++ '#' :: body)

/-- What may stand between the elements of a list. -/
inductive Filler : List Char → Prop
  | nil : Filler []
  | blank {c : Char} {cs : List Char} : isBlank c = true → Filler cs → Filler (c :: cs)
  | lineBreak {nl cs : List Char} : LineBreak nl → Filler cs → Filler (nl ++ cs)
  | comment {body nl cs : List Char} : IsPlain body → LineBreak nl → Filler cs →
      Filler ('#' :: (body ++ (nl ++ cs)))

/-! ## Strings -/

/-- The escapes of one letter, and what they denote. -/
def shortEscapes : List (Char × Char) :=
  [('b', '\x08'), ('t', '\t'), ('n', '\n'), ('f', '\x0c'), ('r', '\r'), ('"', '"'), ('\\', '\\')]

/-- The escapes by a code point, and how many digits it has. -/
def codeEscapes : List (Char × Nat) := [('u', 4), ('U', 8)]

/-- The number of some digits of base sixteen. -/
def hexDigits? (ds : List Char) : Option Nat :=
  ds.foldlM (fun n c => (Text.hexValue? c).map (n * 16 + ·)) 0

/-- The texts of an escaped character, behind the backslash. -/
inductive EscapeSpelled : Char → List Char → Prop
  | short {c e : Char} : (e, c) ∈ shortEscapes → EscapeSpelled c [e]
  | code {c mark : Char} {ds : List Char} {n : Nat} : (mark, ds.length) ∈ codeEscapes →
      hexDigits? ds = some n → Text.charOfCode? n = some c → EscapeSpelled c (mark :: ds)

/-- The texts of characters between double quotes. -/
inductive BasicSpelled : List Char → List Char → Prop
  | nil : BasicSpelled [] []
  | plain {c : Char} {cs body : List Char} : c ≠ '"' → c ≠ '\\' → isPlain c = true →
      BasicSpelled cs body → BasicSpelled (c :: cs) (c :: body)
  | escape {c : Char} {e cs body : List Char} : EscapeSpelled c e → BasicSpelled cs body →
      BasicSpelled (c :: cs) ('\\' :: (e ++ body))

/-- Characters that can stand between single quotes. -/
def IsLiteral (cs : List Char) : Prop := ∀ c ∈ cs, c ≠ '\'' ∧ isPlain c = true

/-- Blanks and line breaks, which a backslash at the end of a line swallows. -/
inductive Swallowed : List Char → Prop
  | nil : Swallowed []
  | blank {c : Char} {cs : List Char} : isBlank c = true → Swallowed cs → Swallowed (c :: cs)
  | lineBreak {nl cs : List Char} : LineBreak nl → Swallowed cs → Swallowed (nl ++ cs)

/-- A text does not begin with a character. -/
def StartsApart (c : Char) (cs : List Char) : Prop := cs.head? ≠ some c

/-- A text begins with neither a blank nor a line break. -/
def StartsVisible (cs : List Char) : Prop :=
  ∀ c, cs.head? = some c → isBlank c = false ∧ c ≠ '\n' ∧ c ≠ '\r'

/-- The texts of characters between three double quotes.  One or two quotes may stand there as they
are, in front of something else. -/
inductive LongBasicSpelled : List Char → List Char → Prop
  | nil : LongBasicSpelled [] []
  | plain {c : Char} {cs body : List Char} : c ≠ '"' → c ≠ '\\' → isPlain c = true →
      LongBasicSpelled cs body → LongBasicSpelled (c :: cs) (c :: body)
  | escape {c : Char} {e cs body : List Char} : EscapeSpelled c e → LongBasicSpelled cs body →
      LongBasicSpelled (c :: cs) ('\\' :: (e ++ body))
  | lineBreak {nl cs body : List Char} : LineBreak nl → LongBasicSpelled cs body →
      LongBasicSpelled ('\n' :: cs) (nl ++ body)
  | continued {blanks nl swallowed cs body : List Char} : Blanks blanks → LineBreak nl →
      Swallowed swallowed → StartsVisible body → LongBasicSpelled cs body →
      LongBasicSpelled cs ('\\' :: (blanks ++ (nl ++ (swallowed ++ body))))
  | quotes {quotes cs body : List Char} : quotes = ['"'] ∨ quotes = ['"', '"'] → body ≠ [] →
      StartsApart '"' body → LongBasicSpelled cs body →
      LongBasicSpelled (quotes ++ cs) (quotes ++ body)

/-- The texts of characters between three single quotes. -/
inductive LongLiteralSpelled : List Char → List Char → Prop
  | nil : LongLiteralSpelled [] []
  | plain {c : Char} {cs body : List Char} : c ≠ '\'' → isPlain c = true →
      LongLiteralSpelled cs body → LongLiteralSpelled (c :: cs) (c :: body)
  | lineBreak {nl cs body : List Char} : LineBreak nl → LongLiteralSpelled cs body →
      LongLiteralSpelled ('\n' :: cs) (nl ++ body)
  | quotes {quotes cs body : List Char} : quotes = ['\''] ∨ quotes = ['\'', '\''] → body ≠ [] →
      StartsApart '\'' body → LongLiteralSpelled cs body →
      LongLiteralSpelled (quotes ++ cs) (quotes ++ body)

/-- A line break behind an opening delimiter does not belong to the string. -/
def FirstBreak (first body : List Char) : Prop :=
  LineBreak first ∨ first = [] ∧ StartsApart '\n' body ∧ StartsApart '\r' body

/-- Up to two quotes, which may stand in front of a closing delimiter. -/
def LastQuotes (quote : Char) (quotes : List Char) : Prop :=
  quotes = [] ∨ quotes = [quote] ∨ quotes = [quote, quote]

/-- Three of a quote in front of a text. -/
def delimited (quote : Char) (cs : List Char) : List Char := quote :: quote :: quote :: cs

/-- The texts of a string on one line, with its quotes. -/
inductive ShortSpelled : String → List Char → Prop
  | basic {s : String} {body : List Char} : BasicSpelled s.toList body →
      ShortSpelled s ('"' :: (body ++ ['"']))
  | literal {s : String} : IsLiteral s.toList → ShortSpelled s ('\'' :: (s.toList ++ ['\'']))

/-- The texts of a string. -/
inductive StringSpelled : String → List Char → Prop
  | short {s : String} {cs : List Char} : ShortSpelled s cs → StringSpelled s cs
  | longBasic {first cs body quotes : List Char} : FirstBreak first (body ++ quotes) →
      LongBasicSpelled cs body → LastQuotes '"' quotes →
      StringSpelled (String.ofList (cs ++ quotes))
        (delimited '"' (first ++ (body ++ (quotes ++ delimited '"' []))))
  | longLiteral {first cs body quotes : List Char} : FirstBreak first (body ++ quotes) →
      LongLiteralSpelled cs body → LastQuotes '\'' quotes →
      StringSpelled (String.ofList (cs ++ quotes))
        (delimited '\'' (first ++ (body ++ (quotes ++ delimited '\'' []))))

/-! ## Keys -/

/-- The texts of a part of a key. -/
inductive KeyPartSpelled : String → List Char → Prop
  | bare {s : String} : s.toList ≠ [] → s.toList.all isBareKeyChar = true →
      KeyPartSpelled s s.toList
  | quoted {s : String} {cs : List Char} : ShortSpelled s cs → KeyPartSpelled s cs

/-- The texts of a key, with the blanks around its parts. -/
inductive KeySpelled : List String → List Char → Prop
  | last {part : String} {before own after : List Char} : Blanks before → KeyPartSpelled part own →
      Blanks after → KeySpelled [part] (before ++ (own ++ after))
  | dot {part : String} {path : List String} {before own after rest : List Char} : Blanks before →
      KeyPartSpelled part own → Blanks after → KeySpelled path rest →
      KeySpelled (part :: path) (before ++ (own ++ (after ++ '.' :: rest)))

/-! ## Values -/

/-- Decimal digits without a zero in front. -/
def IsWholeNumber (ds : List Char) : Prop :=
  ds ≠ [] ∧ ds.all Text.isAsciiDigit = true ∧ (ds.head? = some '0' → ds = ['0'])

/-- The texts of an integer of 64 bits. -/
inductive IntegerSpelled : Int → List Char → Prop
  | plain {ds : List Char} : IsWholeNumber ds → Text.digitsValue 10 ds < integerLimit →
      IntegerSpelled (Text.digitsValue 10 ds) ds
  | plus {ds : List Char} : IsWholeNumber ds → Text.digitsValue 10 ds < integerLimit →
      IntegerSpelled (Text.digitsValue 10 ds) ('+' :: ds)
  | minus {ds : List Char} : IsWholeNumber ds → Text.digitsValue 10 ds ≤ integerLimit →
      IntegerSpelled (-Text.digitsValue 10 ds) ('-' :: ds)

mutual

/-- The texts of a value. -/
inductive Spelled : Document → List Char → Prop
  | text {s : String} {cs : List Char} : StringSpelled s cs → Spelled (.text s) cs
  | yes : Spelled (.bool true) ['t', 'r', 'u', 'e']
  | no : Spelled (.bool false) ['f', 'a', 'l', 's', 'e']
  | integer {i : Int} {cs : List Char} : IntegerSpelled i cs → Spelled (.integer i) cs
  | list {ds : List Document} {inside : List Char} : ItemsSpelled ds inside →
      Spelled (.list ds) ('[' :: inside)
  | empty {blanks : List Char} : Blanks blanks →
      Spelled (.table []) ('\x7b' :: (blanks ++ ['\x7d']))
  | table {es : List (String × Document)} {pairs : List Pair} {inside : List Char} :
      PairsSpelled pairs inside → EntriesTold es [] pairs [] →
      Spelled (.table es) ('\x7b' :: inside)

/-- The texts of the elements of a list, with its closing bracket.  A comma may stand behind the
last one. -/
inductive ItemsSpelled : List Document → List Char → Prop
  | close {before : List Char} : Filler before → ItemsSpelled [] (before ++ [']'])
  | last {d : Document} {before own after : List Char} : Filler before → Spelled d own →
      Filler after → ItemsSpelled [d] (before ++ (own ++ (after ++ [']'])))
  | more {d : Document} {ds : List Document} {before own after rest : List Char} : Filler before →
      Spelled d own → Filler after → ItemsSpelled ds rest →
      ItemsSpelled (d :: ds) (before ++ (own ++ (after ++ ',' :: rest)))

/-- The texts of a pair. -/
inductive PairSpelled : Pair → List Char → Prop
  | pair {path : List String} {d : Document} {key blanks own : List Char} : KeySpelled path key →
      Blanks blanks → Spelled d own → PairSpelled (path, d) (key ++ '=' :: (blanks ++ own))

/-- The texts of the pairs of an inline table, with its closing brace. -/
inductive PairsSpelled : List Pair → List Char → Prop
  | last {p : Pair} {own after : List Char} : PairSpelled p own → Blanks after →
      PairsSpelled [p] (own ++ (after ++ ['\x7d']))
  | more {p : Pair} {ps : List Pair} {own after rest : List Char} : PairSpelled p own →
      Blanks after → PairsSpelled ps rest → PairsSpelled (p :: ps) (own ++ (after ++ ',' :: rest))

end

/-! ## Statements and texts -/

/-- The texts of a statement. -/
inductive StatementSpelled : Statement → List Char → Prop
  | table {path : List String} {key : List Char} : KeySpelled path key →
      StatementSpelled (.header false path) ('[' :: (key ++ [']']))
  | element {path : List String} {key : List Char} : KeySpelled path key →
      StatementSpelled (.header true path) ('[' :: '[' :: (key ++ [']', ']']))
  | pair {path : List String} {d : Document} {own : List Char} : PairSpelled (path, d) own →
      StatementSpelled (.pair path d) own

/-- The texts of statements, each on lines of its own. -/
inductive LinesSpelled : List Statement → List Char → Prop
  | none {tail : List Char} : LineTail tail → LinesSpelled [] tail
  | last {s : Statement} {before own tail : List Char} : Blanks before → StatementSpelled s own →
      LineTail tail → LinesSpelled [s] (before ++ (own ++ tail))
  | skip {ss : List Statement} {tail nl rest : List Char} : LineTail tail → LineBreak nl →
      LinesSpelled ss rest → LinesSpelled ss (tail ++ (nl ++ rest))
  | line {s : Statement} {ss : List Statement} {before own tail nl rest : List Char} :
      Blanks before → StatementSpelled s own → LineTail tail → LineBreak nl →
      LinesSpelled ss rest → LinesSpelled (s :: ss) (before ++ (own ++ (tail ++ (nl ++ rest))))

/-- A text is TOML, and this is the table that it says.  A byte order mark may stand in front. -/
def IsTextOf (es : List (String × Document)) (text : String) : Prop :=
  ∃ statements cs, LinesSpelled statements cs ∧
    (text.toList = cs ∨ text.toList = '\ufeff' :: cs) ∧
    EntriesTold es [] (sectionsOf statements).1 (sectionsOf statements).2

end CrudStack.Toml
