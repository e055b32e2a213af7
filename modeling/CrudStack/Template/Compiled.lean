/-
# `CrudStack.Template.Compiled` — templates read from their text

What runs is the text of a template, read from its first character to its last.  What stands between
double braces is a tag: a slot, or the beginning, the middle or the end of a block.  All else is
text, line breaks included; lines have no meaning of their own.

There is one exception.  A tag of a block that stands alone on its line takes the line with it:
neither the blanks around it nor the line break behind it are text.  Whether a tag stands alone is
judged by the text as it was written, so that such tags may follow each other line by line.

Only the part of the language that the templates of this library use is read.  Anything else, braces
behind a backslash included, is refused (`Malformed`).
-/
import CrudStack.Template
import CrudStack.Text.Class

namespace CrudStack.Template

/-- A part of a compiled template; everything but text knows line and column of its tag. -/
inductive Element where
  | text (text : String)
  | slot (name : String) (line column : Nat)
  | each (name : String) (line column : Nat) (body : List Element)
  | cond (name : String) (line column : Nat) (yes no : List Element)
  deriving Repr

/-- A template as it was read from its text. -/
structure Compiled where
  elements : List Element
  deriving Repr

/-- Why a text is no template, with line and column. -/
inductive Malformed where
  /-- Braces that nothing closes. -/
  | openTag (line column : Nat)
  /-- A tag of no known kind. -/
  | unknownTag (content : String) (line column : Nat)
  /-- A tag that goes on with a block, or ends it, where no such block is open. -/
  | strayTag (content : String) (line column : Nat)
  /-- A block that nothing ends. -/
  | openBlock (name : String) (line column : Nat)
  deriving DecidableEq, Repr

/-- The text of a reason, for the template of a certain title. -/
def Malformed.text (title : String) (m : Malformed) : String :=
  let report (what : String) (line column : Nat) : String :=
    what ++ " in \"" ++ title ++ "\" line " ++ toString line ++ ", col " ++ toString column
  match m with
  | openTag line column => report "unclosed tag" line column
  | unknownTag content line column => report ("unknown tag " ++ tag content) line column
  | strayTag content line column => report ("unexpected tag " ++ tag content) line column
  | openBlock name line column => report ("unclosed block " ++ name) line column

/-! ## Tags -/

/-- What a tag says. -/
inductive Tag where
  | slot (name : String)
  | each (name : String)
  | cond (name : String)
  | otherwise
  | endEach
  | endCond
  deriving DecidableEq, Repr

namespace Tag

/-- Whether a tag belongs to a block. -/
def isBlock : Tag → Bool
  | slot _ => false
  | _ => true

/-- Whether a name is made of letters, digits and underscores. -/
def isName (cs : List Char) : Bool :=
  !cs.isEmpty && cs.all fun c => Text.isAsciiAlphanumeric c || c = '_'

/-- The tag of one word. -/
def ofWord? (word : List Char) : Option Tag :=
  if word = "else".toList then some .otherwise
  else if word = "/each".toList then some .endEach
  else if word = "/if".toList then some .endCond
  else if isName word then some (.slot (String.ofList word))
  else none

/-- The tag that begins a block, of its word and the name behind it. -/
def ofWords? (word name : List Char) : Option Tag :=
  if !isName name then none
  else if word = "#each".toList then some (.each (String.ofList name))
  else if word = "#if".toList then some (.cond (String.ofList name))
  else none

/-- The tag between two pairs of braces. -/
def ofContent? (content : List Char) : Option Tag :=
  match content.dropWhile (· ≠ ' ') with
  | [] => ofWord? content
  | _ :: name => ofWords? (content.takeWhile (· ≠ ' ')) name

end Tag

/-! ## Reading -/

/-- A block that is open: its tag, what stands before it, and the part of it that has ended. -/
inductive Opened where
  | each (name : String) (line column : Nat) (before : List Element)
  | yes (name : String) (line column : Nat) (before : List Element)
  | no (name : String) (line column : Nat) (before yes : List Element)
  deriving Repr

/-- How far a text has been read: the place, what came since the last tag (last character first),
and the elements of the innermost open block. -/
structure Reading where
  line : Nat := 1
  column : Nat := 1
  text : List Char := []
  /-- Nothing but blanks has come since the line began. -/
  fresh : Bool := true
  /-- What is left of the line is no text: it belongs to a tag that stands alone. -/
  skipping : Bool := false
  elements : List Element := []
  opened : List Opened := []
  deriving Repr

/-- A character that may stand beside a tag that is alone on its line. -/
def isPadding (c : Char) : Bool := c = ' ' || c = '\t' || c = '\r'

/-- Whether nothing but blanks comes before the end of the line. -/
def closesLine (rest : List Char) : Bool :=
  match rest.dropWhile isPadding with
  | [] => true
  | c :: _ => c = '\n'

namespace Reading

/-- Reads a character of text. -/
def push (r : Reading) (c : Char) : Reading :=
  { r with
    line := if c = '\n' then r.line + 1 else r.line
    column := if c = '\n' then 1 else r.column + 1
    text := if r.skipping then r.text else c :: r.text
    fresh := c = '\n' || (r.fresh && isPadding c)
    skipping := r.skipping && c ≠ '\n' }

/-- Makes an element of the text before a tag, which may be alone on its line. -/
def settle (r : Reading) (alone : Bool) : Reading :=
  let text := if alone then r.text.dropWhile isPadding else r.text
  { r with
    text := []
    fresh := false
    skipping := alone
    elements := r.elements ++ [.text (String.ofList text.reverse)] }

/-- Does what a tag says, unless it goes on with or ends a block that is not open. -/
def follow? (r : Reading) (tag : Tag) : Option Reading :=
  match tag, r.opened with
  | .slot name, _ => some { r with elements := r.elements ++ [.slot name r.line r.column] }
  | .each name, opened =>
    some { r with elements := [], opened := .each name r.line r.column r.elements :: opened }
  | .cond name, opened =>
    some { r with elements := [], opened := .yes name r.line r.column r.elements :: opened }
  | .otherwise, .yes name line column before :: opened =>
    some { r with elements := [], opened := .no name line column before r.elements :: opened }
  | .endEach, .each name line column before :: opened =>
    some { r with elements := before ++ [.each name line column r.elements], opened }
  | .endCond, .yes name line column before :: opened =>
    some { r with elements := before ++ [.cond name line column r.elements []], opened }
  | .endCond, .no name line column before yes :: opened =>
    some { r with elements := before ++ [.cond name line column yes r.elements], opened }
  | _, _ => none

/-- Reads a tag with its braces; `rest` is what comes behind them. -/
def take (r : Reading) (content rest : List Char) : Except Malformed Reading :=
  match Tag.ofContent? content with
  | none => .error (.unknownTag (String.ofList content) r.line r.column)
  | some tag =>
    match (r.settle (tag.isBlock && r.fresh && closesLine rest)).follow? tag with
    | none => .error (.strayTag (String.ofList content) r.line r.column)
    | some next => .ok { next with column := r.column + content.length + 4 }

mutual

/-- Reads on in text. -/
def readText (r : Reading) : List Char → Except Malformed Reading
  | [] => .ok r
  | '\\' :: '{' :: '{' :: _ => .error (.unknownTag "\\" r.line r.column)
  | '{' :: '{' :: rest => readTag r [] rest
  | c :: rest => readText (r.push c) rest

/-- Reads on in a tag, whose content up to here comes last character first. -/
def readTag (r : Reading) (content : List Char) : List Char → Except Malformed Reading
  | [] => .error (.openTag r.line r.column)
  | '}' :: '}' :: rest => do readText (← r.take content.reverse rest) rest
  | c :: rest => readTag r (c :: content) rest

end

/-- The template that was read, if no block is open. -/
def finish (r : Reading) : Except Malformed Compiled :=
  match r.opened with
  | [] => .ok ⟨(r.settle false).elements⟩
  | .each name line column _ :: _ | .yes name line column _ :: _ | .no name line column _ _ :: _ =>
    .error (.openBlock name line column)

end Reading

/-- Reads a template from its text. -/
def Compiled.ofText (text : String) : Except Malformed Compiled := do
  (← Reading.readText {} text.toList).finish

/-! ## Rendering -/

mutual

/-- The text of an element. -/
def renderElement (data : Document) : Element → Except Fault String
  | .text s => .ok s
  | .slot name line column => slotOf data line column name
  | .each name line column body => do
    let items ← elementsOf data line column name
    return String.join (← items.mapM fun item => renderElements item body)
  | .cond name line column yes no => do
    if ← conditionOf data line column name then renderElements data yes
    else renderElements data no

/-- The text of several elements. -/
def renderElements (data : Document) : List Element → Except Fault String
  | [] => .ok ""
  | element :: rest => do
    let first ← renderElement data element
    return first ++ (← renderElements data rest)

end

/-- The text that a compiled template yields for data. -/
def Compiled.render (c : Compiled) (data : Document) : Except Fault String :=
  renderElements data c.elements

end CrudStack.Template
