/-
# `CrudStack.Template` — templates of lines and blocks

A template is a list of blocks: a line of text with slots, a part that is repeated for every element
of a list, or a part that is kept under a condition.  The tags of repetitions and conditions stand
on lines of their own, which do not appear in the result.

Rendering is strict: a slot or a repetition whose name the data does not have is a fault, placed at
the tag.  A condition never fails on a missing name.  A value is inserted as it is; nothing in it is
ever taken for a slot.  Inside a repetition only the element is in scope.

`Template.source` is the text of a template with its tags, `Template.render` the text it yields.
What is registered is the text, and how a text is read is the business of `Template.Compiled`.
-/
import CrudStack.Document
import CrudStack.Decimal.Text

namespace CrudStack

namespace Template

/-- A part of a line: text, or a slot for the value of a name. -/
inductive Piece where
  | text (text : String)
  | slot (name : String)
  deriving DecidableEq, Repr

instance : Coe String Piece := ⟨.text⟩

/-- A part of a template. -/
inductive Block where
  /-- A line. -/
  | line (pieces : List Piece)
  /-- A part that is repeated for every element of what the name stands for. -/
  | each (name : String) (body : List Block)
  /-- A part that is kept if the name stands for something, and one that is kept otherwise. -/
  | cond (name : String) (yes no : List Block)
  deriving Repr

end Template

/-- A text with slots, repetitions and conditions. -/
structure Template where
  blocks : List Template.Block
  deriving Repr

namespace Template

/-! ## Source -/

/-- A tag between double braces. -/
def tag (content : String) : String := "\x7b\x7b" ++ content ++ "\x7d\x7d"

/-- A part of a line with its tag. -/
def Piece.source : Piece → String
  | .text s => s
  | .slot name => tag name

/-- The text of a line with its tags, without its end. -/
def lineSource (pieces : List Piece) : String := String.join (pieces.map Piece.source)

mutual

/-- The lines of a block with their tags. -/
def blockSource : Block → List String
  | .line pieces => [lineSource pieces]
  | .each name body => tag ("#each " ++ name) :: (blocksSource body ++ [tag "/each"])
  | .cond name yes no =>
    tag ("#if " ++ name) :: (blocksSource yes ++
      (if no.isEmpty then [] else tag "else" :: blocksSource no) ++ [tag "/if"])

/-- The lines of several blocks with their tags. -/
def blocksSource : List Block → List String
  | [] => []
  | block :: rest => blockSource block ++ blocksSource rest

end

/-- Lines with their ends. -/
def joinLines (lines : List String) : String := String.join (lines.map (· ++ "\n"))

/-- The text of a template with its tags. -/
def source (t : Template) : String := joinLines (blocksSource t.blocks)

/-- Number of lines of a block in the text of its template. -/
def Block.height (b : Block) : Nat := (blockSource b).length

/-! ## Data -/

/-- Why a name has no value: the data is a list, which has no names, or it does not have this
one. -/
inductive Miss where
  | onList
  | absent
  deriving DecidableEq, Repr

/-- The value of a name; the last one if a table has several. -/
def valueOf (data : Document) (name : String) : Except Miss Document :=
  match data with
  | .table entries =>
    match entries.reverse.lookup name with
    | some value => .ok value
    | none => .error .absent
  | .list _ => .error .onList
  | _ => .error .absent

/-- Places an entry among entries in the order of their keys, in place of an entry with its key. -/
def insertEntry (key : String) (value : Document) :
    List (String × Document) → List (String × Document)
  | [] => [(key, value)]
  | (k, v) :: rest =>
    if key = k then (key, value) :: rest
    else if key < k then (key, value) :: (k, v) :: rest
    else (k, v) :: insertEntry key value rest

/-- The entries of a table in the order of their keys. -/
def sortEntries (entries : List (String × Document)) : List (String × Document) :=
  entries.foldl (fun sorted e => insertEntry e.1 e.2 sorted) []

/-- What a value is repeated over. -/
def elements? : Document → Option (List Document)
  | .list items => some items
  | .table entries => some ((sortEntries entries).map (·.2))
  | _ => none

/-- Whether a value counts as something under a condition. -/
def isSomething : Document → Bool
  | .null => false
  | .bool b => b
  | .integer i => i != 0
  | .double x => x.isNormal
  | .text s => !s.isEmpty
  | .list items => !items.isEmpty
  | .table entries => !entries.isEmpty

mutual

/-- The text that a slot takes for a value. -/
def inserted : Document → String
  | .null => ""
  | .bool b => if b then "true" else "false"
  | .integer i => toString i
  | .double x => x.scientific
  | .text s => s
  | .list items => "[" ++ insertedItems true items ++ "]"
  | .table _ => "[object]"

/-- The elements of a list with commas between them. -/
def insertedItems (first : Bool) : List Document → String
  | [] => ""
  | item :: rest => (if first then "" else ", ") ++ inserted item ++ insertedItems false rest

end

/-! ## Rendering -/

/-- A name without a value, with line and column of its tag. -/
structure Fault where
  miss : Miss
  name : String
  line : Nat
  column : Nat
  deriving DecidableEq, Repr

/-- The text of a fault in the template of a certain title. -/
def Fault.text (title : String) (f : Fault) : String :=
  "Error rendering \"" ++ title ++ "\" line " ++ toString f.line ++ ", col " ++ toString f.column ++
    ": " ++
  match f.miss with
  | .onList => "Cannot access array/vector with string index, " ++ f.name
  | .absent => "Failed to access variable in strict mode Some(\"" ++ f.name ++ "\")"

/-- The name that stands for the data itself. -/
def selfName : String := "this"

/-- The text of a slot at a place. -/
def slotOf (data : Document) (line column : Nat) (name : String) : Except Fault String := do
  let value ←
    if name = selfName then .ok data
    else (valueOf data name).mapError fun miss => ⟨miss, name, line, column⟩
  return inserted value

/-- The elements that a repetition at a place runs over. -/
def elementsOf (data : Document) (line column : Nat) (name : String) :
    Except Fault (List Document) :=
  match valueOf data name with
  | .error miss => .error ⟨miss, name, line, column⟩
  | .ok value =>
    match elements? value with
    | some items => .ok items
    | none => .error ⟨.absent, name, line, column⟩

/-- Whether a condition at a place holds. -/
def conditionOf (data : Document) (line column : Nat) (name : String) : Except Fault Bool :=
  match valueOf data name with
  | .error .onList => .error ⟨.onList, name, line, column⟩
  | .error .absent => .ok false
  | .ok value => .ok (isSomething value)

/-- The text of the parts of a line from a column on. -/
def renderPieces (data : Document) (line column : Nat) : List Piece → Except Fault String
  | [] => .ok ""
  | .text s :: rest => do
    return s ++ (← renderPieces data line (column + s.length) rest)
  | .slot name :: rest => do
    let first ← slotOf data line column name
    return first ++ (← renderPieces data line (column + (tag name).length) rest)

mutual

/-- The text of a block that starts at a line. -/
def renderBlock (data : Document) (line : Nat) : Block → Except Fault String
  | .line pieces => do return (← renderPieces data line 1 pieces) ++ "\n"
  | .each name body => do
    let items ← elementsOf data line 1 name
    return String.join (← items.mapM fun item => renderBlocks item (line + 1) body)
  | .cond name yes no => do
    if ← conditionOf data line 1 name then renderBlocks data (line + 1) yes
    else renderBlocks data (line + 2 + (blocksSource yes).length) no

/-- The text of several blocks that start at a line. -/
def renderBlocks (data : Document) (line : Nat) : List Block → Except Fault String
  | [] => .ok ""
  | block :: rest => do
    let first ← renderBlock data line block
    return first ++ (← renderBlocks data (line + block.height) rest)

end

/-- The text that a template yields for data. -/
def render (t : Template) (data : Document) : Except Fault String := renderBlocks data 1 t.blocks

end Template

end CrudStack
