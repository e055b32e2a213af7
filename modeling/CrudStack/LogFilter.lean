/-
# `CrudStack.LogFilter` — which events are shown

A filter is a list of directives: a level for everything, for a target, or for spans of a target.
What has no level shows all levels.  Directives stand in the order in which they are tried, longer
targets first; a later directive for the same scope replaces an earlier one.  A text that is not a
filter counts as none, and then the default applies.
-/
import CrudStack.Event
import CrudStack.Text.Class

namespace CrudStack.LogFilter

/-- The least urgent level that is shown. -/
inductive Threshold where
  | off | error | warn | info | debug | trace
  deriving DecidableEq, Repr

/-- All thresholds with their names. -/
def Threshold.names : List (String × Threshold) :=
  [("off", off), ("error", error), ("warn", warn), ("info", info), ("debug", debug),
   ("trace", trace)]

/-- The name of a threshold. -/
def Threshold.label : Threshold → String
  | off => "off"
  | error => "error"
  | warn => "warn"
  | info => "info"
  | debug => "debug"
  | trace => "trace"

/-- The threshold of a number from 0 to 5. -/
def Threshold.ofNumber? (n : Nat) : Option Threshold := (Threshold.names[n]?).map (·.2)

/-- The number that digits write; a plus may stand before them. -/
def numberOf? (cs : List Char) : Option Nat :=
  let digits := match cs with
    | '+' :: rest => rest
    | _ => cs
  if digits.isEmpty || !digits.all Text.isAsciiDigit then none
  else some (digits.foldl (fun n c => n * 10 + (c.toNat - 0x30)) 0)

/-- The threshold of a name, in any case, or of a number. -/
def Threshold.ofText? (cs : List Char) : Option Threshold :=
  match numberOf? cs with
  | some n => Threshold.ofNumber? n
  | none => names.lookup (String.ofList (cs.map Text.asciiLower))

/-- A condition on a field of a span: that it is there, or that it has a value. -/
structure FieldTest where
  name : String
  value : Option String
  deriving DecidableEq, Repr

/-- A threshold for a target, for spans of it, or for everything. -/
structure Directive where
  target : Option String
  span : Option String
  field : Option FieldTest
  threshold : Threshold
  deriving DecidableEq, Repr

/-- The text of a condition on a field. -/
def FieldTest.text (f : FieldTest) : String :=
  match f.value with
  | none => f.name
  | some v => f.name ++ "=" ++ v

/-- What a directive applies to. -/
def Directive.scope (d : Directive) : String :=
  let field := match d.field with
    | none => ""
    | some f => "\x7b" ++ f.text ++ "\x7d"
  d.target.getD "" ++
    if d.span.isSome || d.field.isSome then "[" ++ d.span.getD "" ++ field ++ "]" else ""

/-- Whether a directive applies to everything. -/
def Directive.isGlobal (d : Directive) : Bool :=
  d.target.isNone && d.span.isNone && d.field.isNone

/-- The text of a directive. -/
def Directive.text (d : Directive) : String :=
  if d.isGlobal then d.threshold.label else d.scope ++ "=" ++ d.threshold.label

/-! ## Reading directives -/

/-- A character that the name of a target may start with. -/
def isOpening (c : Char) : Bool := c = '-' || c = ':' || c = '_' || Text.isAlphanumeric c

/-- The threshold behind an equals sign; nothing there means all levels. -/
def thresholdAfter (cs : List Char) : Option Threshold :=
  if cs.isEmpty then some .trace else Threshold.ofText? cs

/-- Reads a condition on a field, without its braces. -/
def fieldOf? (cs : List Char) : Option FieldTest :=
  if cs.isEmpty then none
  else
    let name := String.ofList (cs.takeWhile (· ≠ '='))
    match cs.dropWhile (· ≠ '=') with
    | [] => some ⟨name, none⟩
    | _ :: value => some ⟨name, some (String.ofList (value.takeWhile (· ≠ '=')))⟩

/-- Reads the name of a span and the condition on a field in brackets, behind the opening one, and
gives what follows the closing one. -/
def spanOf? (cs : List Char) : Option ((Option String × Option FieldTest) × List Char) :=
  let name := String.ofList (cs.takeWhile fun c => c ≠ ']' && c ≠ '\x7b')
  match cs.dropWhile fun c => c ≠ ']' && c ≠ '\x7b' with
  | ']' :: rest => some ((some name, none), rest)
  | '\x7b' :: inner =>
    match inner.dropWhile (· ≠ '\x7d') with
    | _ :: ']' :: rest => do
      let field ← fieldOf? (inner.takeWhile (· ≠ '\x7d'))
      return ((if name.isEmpty then none else some name, some field), rest)
    | _ => none
  | _ => none

/-- Reads a directive.  Blanks around it are not skipped: those in front are refused where anything
but a name follows, and those behind belong to what they stand behind. -/
def directiveOf? (cs : List Char) : Option Directive := do
  let trimmed := Text.trimChars cs
  let behind := (cs.dropWhile Text.isBlank).drop trimmed.length
  let name := trimmed.takeWhile fun c => c ≠ '=' && c ≠ '['
  let target := if name.isEmpty then none else some (String.ofList name)
  let first ← trimmed.head?
  if !(first = '[' || isOpening first) then none
  match trimmed.drop name.length with
  | [] =>
    match Threshold.ofText? cs with
    | some t => return ⟨none, none, none, t⟩
    | none => return ⟨some (String.ofList cs), none, none, .trace⟩
  | mark :: rest =>
    if cs.head? ≠ some first then none
    if mark = '=' then return ⟨target, none, none, ← thresholdAfter (rest ++ behind)⟩
    let ((span, field), rest) ← spanOf? rest
    match rest with
    | [] => return ⟨target, span, field, .trace⟩
    | '=' :: level => return ⟨target, span, field, ← thresholdAfter (level ++ behind)⟩
    | _ => none

/-! ## The order of directives -/

/-- How specific a directive is: by the length of its target, by whether it names a span, and by
whether it tests a field. -/
def Directive.rank (d : Directive) : List Nat :=
  [match d.target with
    | none => 0
    | some t => t.utf8ByteSize + 1,
   if d.span.isSome then 1 else 0,
   if d.field.isSome then 1 else 0]

/-- The names in a directive. -/
def Directive.names (d : Directive) : List String :=
  [d.target.getD "", d.span.getD "", (d.field.map FieldTest.text).getD ""]

/-- Whether a directive is tried before another one: the more specific one, and of two equally
specific ones the one with the greater names. -/
def Directive.isBefore (a b : Directive) : Bool :=
  b.rank < a.rank || (a.rank == b.rank && b.names < a.names)

/-- Places a directive among others, in place of one for the same scope. -/
def place (d : Directive) : List Directive → List Directive
  | [] => [d]
  | e :: rest =>
    if d.target = e.target ∧ d.span = e.span ∧ d.field = e.field then d :: rest
    else if d.isBefore e then d :: e :: rest
    else e :: place d rest

/-- Directives in the order in which they are tried. -/
def arrange (directives : List Directive) : List Directive :=
  directives.foldl (fun ds d => place d ds) []

/-- Whether a directive can be decided without looking at a span. -/
def Directive.isStatic (d : Directive) : Bool :=
  d.span.isNone && (d.field.bind (·.value)).isNone

/-- Whether a directive looks at spans. -/
def Directive.isDynamic (d : Directive) : Bool := d.span.isSome || d.field.isSome

/-- The pieces between the commas of a text. -/
def splitCommas : List Char → List (List Char)
  | [] => [[]]
  | c :: rest =>
    if c = ',' then [] :: splitCommas rest
    else
      match splitCommas rest with
      | [] => [[c]]
      | piece :: more => (c :: piece) :: more

/-- Reads a filter: first what is decided without spans, then what looks at them. -/
def parse? (text : String) : Option (List Directive) := do
  let directives ← ((splitCommas text.toList).filter fun p => !p.isEmpty).mapM directiveOf?
  let all := arrange (directives.filter (·.isStatic)) ++ arrange (directives.filter (·.isDynamic))
  return if all.isEmpty then [⟨none, none, none, .error⟩] else all

/-- The filter without a text. -/
def default : List Directive := [⟨none, none, none, .info⟩]

/-- The filter of a text, if there is one and it is a filter. -/
def ofText (text : Option String) : List Directive := (text.bind parse?).getD default

/-- The text of a filter. -/
def text (directives : List Directive) : String :=
  ",".intercalate (directives.map Directive.text)

/-! ## Showing events -/

/-- How much a threshold shows. -/
def Threshold.reach : Threshold → Nat
  | off => 0
  | error => 1
  | warn => 2
  | info => 3
  | debug => 4
  | trace => 5

/-- How much has to be shown for a level to be seen. -/
def reachOf : Level → Nat
  | .error => 1
  | .warn => 2
  | .info => 3
  | .debug => 4
  | .trace => 5

/-- Whether a directive is about a target, outside of all spans. -/
def Directive.covers (target : String) (d : Directive) : Bool :=
  !d.isDynamic && (d.target.getD "").toList.isPrefixOf target.toList

/-- Whether a filter shows an event of a target: the first directive about the target decides. -/
def shows (directives : List Directive) (target : String) (e : Event) : Bool :=
  match directives.find? (·.covers target) with
  | some d => reachOf e.level ≤ d.threshold.reach
  | none => false

/-- What is said when events are shown in some way already. -/
def installedMessage : String :=
  "Observability error: a global default trace dispatcher has already been set"

end CrudStack.LogFilter
