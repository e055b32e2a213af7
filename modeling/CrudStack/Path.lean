/-
# `CrudStack.Path` — paths as texts, read by their parts

A path is kept exactly as it was written: messages and reports show it, and joining only adds text.
What a path means is read off its *parts*: the root, a leading `.`, each `..` and each name.
Doubled slashes, a slash at the end and every other `.` are spelling and carry no part.

All functions below go through one view, the pieces between the slashes after the head of the text.
-/
import CrudStack.Text.Class

namespace CrudStack

/-- A path as it was written. -/
structure Path where
  text : String
  deriving DecidableEq, Repr, Inhabited

namespace Path

/-! ## Pieces and parts -/

/-- Pieces with a slash between them. -/
def joinPieces (pieces : List (List Char)) : List Char := ['/'].intercalate pieces

/-- How a path begins: at the root, with a `.` of its own, or with its first piece. -/
inductive Head where
  | root
  | here
  | plain
  deriving DecidableEq, Repr

/-- Whether a path starts at the root. -/
def isAbsolute (p : Path) : Bool := p.text.toList.head? = some '/'

/-- The head of a path and the pieces after it. -/
def split (p : Path) : Head × List (List Char) :=
  match p.text.toList with
  | '/' :: rest => (.root, rest.splitOn '/')
  | cs =>
    match cs.splitOn '/' with
    | ['.'] :: rest => (.here, rest)
    | pieces => (.plain, pieces)

/-- The text of a head and the pieces after it. -/
def unsplit : Head → List (List Char) → Path
  | .root, pieces => ⟨String.ofList ('/' :: joinPieces pieces)⟩
  | .here, pieces => ⟨String.ofList (joinPieces (['.'] :: pieces))⟩
  | .plain, pieces => ⟨String.ofList (joinPieces pieces)⟩

/-- A piece that carries no part. -/
def isTrivial (piece : List Char) : Bool := piece = [] || piece = ['.']

/-- A part of a path. -/
inductive Part where
  | root
  | here
  | up
  | name (text : String)
  deriving DecidableEq, Repr

/-- The part of a head. -/
def Head.parts : Head → List Part
  | .root => [.root]
  | .here => [.here]
  | .plain => []

/-- The part that a piece after the head carries. -/
def pieceParts (piece : List Char) : List Part :=
  if isTrivial piece then []
  else if piece = ['.', '.'] then [.up]
  else [.name (String.ofList piece)]

/-- The parts of a path, in order. -/
def parts (p : Path) : List Part :=
  p.split.1.parts ++ p.split.2.flatMap pieceParts

/-- The text of a part. -/
def Part.text : Part → String
  | .root => "/"
  | .here => "."
  | .up => ".."
  | .name n => n

/-! ## Joining -/

/-- Whether a slash is due before something is appended to a path. -/
def needsSlash (p : Path) : Bool :=
  match p.text.toList.getLast? with
  | none => false
  | some c => c ≠ '/'

/-- One path below another.  A path that starts at the root replaces what stands before it. -/
def join (p q : Path) : Path :=
  if q.isAbsolute then q
  else if p.needsSlash then ⟨p.text ++ "/" ++ q.text⟩
  else ⟨p.text ++ q.text⟩

/-- A name or a longer text below a path. -/
def child (p : Path) (text : String) : Path := p.join ⟨text⟩

/-- Several texts below each other, starting from nothing. -/
def ofSegments (texts : List String) : Path := texts.foldl child ⟨""⟩

/-! ## Taking apart -/

/-- Removes the pieces at the end that carry no part. -/
def trimEnd (pieces : List (List Char)) : List (List Char) :=
  (pieces.reverse.dropWhile isTrivial).reverse

/-- The path without its last part; the root and the empty path have none. -/
def parent? (p : Path) : Option Path :=
  match p.split with
  | (head, pieces) =>
    match trimEnd pieces with
    | [] =>
      match head with
      | .here => some ⟨""⟩
      | .root | .plain => none
    | kept => some (unsplit head (trimEnd kept.dropLast))

/-- The last part, if it is a name. -/
def fileName? (p : Path) : Option String :=
  match p.parts.getLast? with
  | some (.name n) => some n
  | _ => none

/-- The texts before and after the last dot of a file name, if there is a dot that is not its first
character. -/
def splitAtDot (name : String) : Option (String × String) :=
  let reversed := name.toList.reverse
  let ending := reversed.takeWhile (· ≠ '.')
  match reversed.dropWhile (· ≠ '.') with
  | [] | [_] => none
  | _ :: stem => some (String.ofList stem.reverse, String.ofList ending.reverse)

/-- The file name up to its last dot. -/
def stem? (p : Path) : Option String :=
  p.fileName?.map fun n => (splitAtDot n).elim n (·.1)

/-- The file name after its last dot. -/
def ending? (p : Path) : Option String :=
  p.fileName?.bind fun n => (splitAtDot n).map (·.2)

/-- Drops pieces until that many parts are gone. -/
def dropParts : Nat → List (List Char) → List (List Char)
  | 0, pieces => pieces
  | _ + 1, [] => []
  | n + 1, piece :: rest =>
    if isTrivial piece then dropParts (n + 1) rest else dropParts n rest

/-- The path as it goes on after `base`, if its parts start with the parts of `base`.  The text that
is left keeps its spelling, but for pieces without a part at its two ends. -/
def relativeTo? (p base : Path) : Option Path :=
  if base.parts.isPrefixOf p.parts then
    match base.parts.length with
    | 0 => some (unsplit p.split.1 (trimEnd p.split.2))
    | n =>
      let rest := dropParts (n - p.split.1.parts.length) p.split.2
      some (unsplit .plain (trimEnd (rest.dropWhile isTrivial)))
  else none

/-- Whether the file name ends in a dot and `ending`, in any case of the letters A to Z. -/
def hasEnding (p : Path) (ending : String) : Bool :=
  p.ending?.any fun e => e.toList.map Text.asciiLower == ending.toList.map Text.asciiLower

end Path

end CrudStack
