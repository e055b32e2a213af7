/-
# `CrudStack.Json.Node` — the structure of a JSON text with its flaws in place

Whoever reads a JSON text for a purpose looks at it from left to right and stops at the first thing
that is wrong — wrong as JSON, or wrong for the purpose.  Which of two faults is met first depends
on the purpose, so the text is scanned once, without any purpose, into a tree that has its flaws
where they stand.  A reader then walks the tree in the order of the text.

Two readers that need no purpose are here: `Node.read` turns the tree into a document, and
`Node.skip` passes over a part that nobody asked for.
-/
import CrudStack.Json.Lexeme

namespace CrudStack.Json

/-- What can stand in a list where an element or the end is due.  `commaThenClose` and
`commaThenEnd` stand behind a comma. -/
inductive ListFault where
  | unclosed
  | missingComma
  | commaThenClose
  | commaThenEnd
  deriving DecidableEq, Repr

/-- What can stand in an object where a member or the end is due. -/
inductive ObjectFault where
  | unclosed
  | missingComma
  | commaThenClose
  | commaThenEnd
  | keyExpected
  deriving DecidableEq, Repr

mutual

/-- A value in a text. -/
inductive Node where
  /-- Null, a truth value or a number; `stop` is the offset behind it. -/
  | scalar (reading : Except Flaw Document) (stop : Nat)
  /-- A string. -/
  | text (reading : Except Flaw String) (stop : Nat)
  /-- A list; `start` is the offset before its bracket. -/
  | list (start : Nat) (items : Items)
  /-- An object. -/
  | object (start : Nat) (members : Members)
  /-- Something in which the text breaks off, with the flaws that reading and skipping report. -/
  | broken (reading skipping : Flaw)

/-- The rest of a list. -/
inductive Items where
  | close (stop : Nat)
  | broken (offset : Nat) (fault : ListFault)
  | item (start : Nat) (node : Node) (rest : Items)

/-- The rest of an object.  The offset `settled` of a member is that behind its key and the blanks
after it, and behind a closing brace if one stands there. -/
inductive Members where
  | close (stop : Nat)
  | broken (offset : Nat) (fault : ObjectFault)
  | brokenKey (reading skipping : Flaw)
  | member (key : Except Flaw String) (settled : Nat) (node : Node) (rest : Members)

end

/-! ## Flaws between the values -/

/-- A flaw at an offset, behind the byte there if there is one. -/
def flawAt (offset : Nat) (atEnd : Bool) (fault : Fault) : Flaw :=
  ⟨fault, if atEnd then offset else offset + 1⟩

/-- The flaw that reading reports in a list. -/
def ListFault.reading (offset : Nat) : ListFault → Flaw
  | .unclosed => flawAt offset true .endInList
  | .missingComma => flawAt offset false .listCommaExpected
  | .commaThenClose => flawAt offset false .trailingComma
  | .commaThenEnd => flawAt offset true .endInValue

/-- The flaw that skipping reports in a list. -/
def ListFault.skipping (offset : Nat) : ListFault → Flaw
  | .commaThenClose => flawAt offset false .valueExpected
  | f => f.reading offset

/-- The flaw in a list of which no more elements are wanted. -/
def ListFault.ending (offset : Nat) : ListFault → Flaw
  | .unclosed => flawAt offset true .endInList
  | .missingComma => flawAt offset false .trailingCharacters
  | .commaThenClose => flawAt offset false .trailingComma
  | .commaThenEnd => flawAt offset true .trailingCharacters

/-- The flaw that reading reports in an object. -/
def ObjectFault.reading (offset : Nat) : ObjectFault → Flaw
  | .unclosed => flawAt offset true .endInObject
  | .missingComma => flawAt offset false .objectCommaExpected
  | .commaThenClose => flawAt offset false .trailingComma
  | .commaThenEnd => flawAt offset true .endInValue
  | .keyExpected => flawAt offset false .keyExpected

/-- The flaw that skipping reports in an object. -/
def ObjectFault.skipping (offset : Nat) : ObjectFault → Flaw
  | .commaThenClose => flawAt offset false .keyExpected
  | .commaThenEnd => flawAt offset true .endInObject
  | f => f.reading offset

/-! ## Scanning -/

/-- The node of a lexeme.  Behind a broken one nothing is left to scan. -/
def Lexed.toNode {Value : Type} (leaf : Except Flaw Value → Nat → Node) :
    Lexed Value → Node × Cursor
  | .found reading next => (leaf reading next.offset, next)
  | .broken reading skipping => (.broken reading skipping, ⟨0, []⟩)

/-- A node that is broken in the same way for reading and skipping. -/
def brokenNode (flaw : Flaw) : Node × Cursor := (.broken flaw flaw, ⟨0, []⟩)

/-- The offset behind a key: behind the blanks, and behind a closing brace. -/
def settledOffset (c : Cursor) : Nat :=
  match c.rest with
  | '\x7d' :: _ => c.offset + 1
  | _ => c.offset

mutual

/-- Scans a value behind blanks. -/
def scanValue : Nat → Cursor → Node × Cursor
  | 0, c => brokenNode (c.flawAhead .endInValue)
  | fuel + 1, c =>
    match c.rest with
    | [] => brokenNode (c.flawAhead .endInValue)
    | 'n' :: rest => (lexWord .null (c.offset + 1) ['u', 'l', 'l'] rest).toNode .scalar
    | 't' :: rest => (lexWord (.bool true) (c.offset + 1) ['r', 'u', 'e'] rest).toNode .scalar
    | 'f' :: rest =>
      (lexWord (.bool false) (c.offset + 1) ['a', 'l', 's', 'e'] rest).toNode .scalar
    | '"' :: rest => (lexString ⟨c.offset + 1, rest⟩).toNode .text
    | '[' :: rest =>
      let (items, next) := scanItems fuel true ⟨c.offset + 1, rest⟩
      (.list c.offset items, next)
    | '\x7b' :: rest =>
      let (members, next) := scanMembers fuel true ⟨c.offset + 1, rest⟩
      (.object c.offset members, next)
    | d :: _ =>
      if d = '-' || Text.isAsciiDigit d then (lexNumber c).toNode .scalar
      else brokenNode (c.flawAhead .valueExpected)

/-- Scans the rest of a list, behind its bracket (`first`) or behind an element. -/
def scanItems : Nat → Bool → Cursor → Items × Cursor
  | 0, _, c => (.broken c.offset .unclosed, ⟨0, []⟩)
  | fuel + 1, first, c =>
    let here := c.afterBlanks
    match here.rest with
    | [] => (.broken here.offset .unclosed, here)
    | ']' :: rest => (.close (here.offset + 1), ⟨here.offset + 1, rest⟩)
    | d :: rest =>
      if first then scanItem fuel here
      else if d = ',' then
        let there := skipBlanks (here.offset + 1) rest
        match there.rest with
        | [] => (.broken there.offset .commaThenEnd, there)
        | ']' :: _ => (.broken there.offset .commaThenClose, ⟨0, []⟩)
        | _ :: _ => scanItem fuel there
      else (.broken here.offset .missingComma, ⟨0, []⟩)

/-- Scans an element and the rest of its list. -/
def scanItem : Nat → Cursor → Items × Cursor
  | 0, c => (.broken c.offset .unclosed, ⟨0, []⟩)
  | fuel + 1, c =>
    let (node, next) := scanValue fuel c
    let (rest, next) := scanItems fuel false next
    (.item c.offset node rest, next)

/-- Scans the rest of an object, behind its brace (`first`) or behind a member. -/
def scanMembers : Nat → Bool → Cursor → Members × Cursor
  | 0, _, c => (.broken c.offset .unclosed, ⟨0, []⟩)
  | fuel + 1, first, c =>
    let here := c.afterBlanks
    match here.rest with
    | [] => (.broken here.offset .unclosed, here)
    | '\x7d' :: rest => (.close (here.offset + 1), ⟨here.offset + 1, rest⟩)
    | d :: rest =>
      if first then
        if d = '"' then scanMember fuel ⟨here.offset + 1, rest⟩
        else (.broken here.offset .keyExpected, ⟨0, []⟩)
      else if d = ',' then
        let there := skipBlanks (here.offset + 1) rest
        match there.rest with
        | [] => (.broken there.offset .commaThenEnd, there)
        | '"' :: rest => scanMember fuel ⟨there.offset + 1, rest⟩
        | '\x7d' :: _ => (.broken there.offset .commaThenClose, ⟨0, []⟩)
        | _ :: _ => (.broken there.offset .keyExpected, ⟨0, []⟩)
      else (.broken here.offset .missingComma, ⟨0, []⟩)

/-- Scans a member behind the opening quote of its key, and the rest of its object. -/
def scanMember : Nat → Cursor → Members × Cursor
  | 0, c => (.broken c.offset .unclosed, ⟨0, []⟩)
  | fuel + 1, c =>
    match lexString c with
    | .broken reading skipping => (.brokenKey reading skipping, ⟨0, []⟩)
    | .found key next =>
      let colon := next.afterBlanks
      let (node, next) :=
        match colon.rest with
        | [] => brokenNode (colon.flawAhead .endInObject)
        | ':' :: rest => scanValue fuel (skipBlanks (colon.offset + 1) rest)
        | _ :: _ => brokenNode (colon.flawAhead .colonExpected)
      let (rest, next) := scanMembers fuel false next
      (.member key (settledOffset colon) node rest, next)

end

/-- A whole text: its value and the flaw of what follows the value, if something does. -/
structure Scanned where
  root : Node
  trailing : Option Flaw

/-- Scans a text. -/
def scan (text : String) : Scanned :=
  let cs := text.toList
  let (root, next) := scanValue (3 * cs.length + 3) (skipBlanks 0 cs)
  let behind := next.afterBlanks
  { root
    trailing :=
      if behind.rest.isEmpty then none else some (behind.flawAhead .trailingCharacters) }

/-! ## Skipping -/

/-- Passes if there is no flaw. -/
def orFlaw : Option Flaw → Except Flaw Unit
  | none => .ok ()
  | some flaw => .error flaw

mutual

/-- Passes over a value, whatever it is and however deep it goes. -/
def Node.skip : Node → Except Flaw Unit
  | .scalar _ _ | .text _ _ => .ok ()
  | .list _ items => items.skip
  | .object _ members => members.skip
  | .broken _ skipping => .error skipping

/-- Passes over the rest of a list. -/
def Items.skip : Items → Except Flaw Unit
  | .close _ => .ok ()
  | .broken offset fault => .error (fault.skipping offset)
  | .item _ node rest => do node.skip; rest.skip

/-- Passes over the rest of an object. -/
def Members.skip : Members → Except Flaw Unit
  | .close _ => .ok ()
  | .broken offset fault => .error (fault.skipping offset)
  | .brokenKey _ skipping => .error skipping
  | .member _ _ node rest => do node.skip; rest.skip

end

/-! ## Reading -/

/-- Levels of lists and objects that a text may have, and one more. -/
def depthLimit : Nat := 128

/-- The levels left inside a list or an object, or the flaw at its bracket. -/
def enter (depth start : Nat) : Except Flaw Nat :=
  match depth with
  | 0 | 1 => .error (flawAt start false .tooDeep)
  | left + 1 => .ok left

mutual

/-- Reads a value with so many levels left. -/
def Node.read (depth : Nat) : Node → Except Flaw Document
  | .scalar reading _ => reading
  | .text reading _ => reading.map .text
  | .list start items => do
    let depth ← enter depth start
    return .list (← items.read depth)
  | .object start members => do
    let depth ← enter depth start
    return .table (← members.read depth)
  | .broken reading _ => .error reading

/-- Reads the rest of a list. -/
def Items.read (depth : Nat) : Items → Except Flaw (List Document)
  | .close _ => .ok []
  | .broken offset fault => .error (fault.reading offset)
  | .item _ node rest => do
    let first ← node.read depth
    return first :: (← rest.read depth)

/-- Reads the rest of an object. -/
def Members.read (depth : Nat) : Members → Except Flaw (List (String × Document))
  | .close _ => .ok []
  | .broken offset fault => .error (fault.reading offset)
  | .brokenKey reading _ => .error reading
  | .member key _ node rest => do
    let key ← key
    let value ← node.read depth
    return (key, value) :: (← rest.read depth)

end

/-- The offset at which a list stands when its reader gives up behind an element: behind the closing
bracket, or behind a comma and blanks. -/
def Items.settled : Items → Nat
  | .close stop => stop
  | .broken offset _ => offset
  | .item start _ _ => start

/-- Expects the end of a list. -/
def Items.finish : Items → Except Flaw Unit
  | .close _ => .ok ()
  | .broken offset fault => .error (fault.ending offset)
  | .item start _ _ => .error (flawAt start false .trailingCharacters)

/-- Reads a whole text. -/
def parse (text : String) : Except Flaw Document := do
  let scanned := scan text
  let value ← scanned.root.read depthLimit
  orFlaw scanned.trailing
  return value

end CrudStack.Json
