/-
# `CrudStack.Disk` — directories and files

A disk says for every location whether a directory or a file is there.  A location is the list of
names from the root down; the root itself always is a directory.  Paths are resolved the way the
system does it: piece by piece from the working directory or the root, where each piece is looked up
in a directory that exists, `..` goes up, and a name or a path that is too long is refused.

Everything that a run does to a disk goes through `makeDirectory` and `writeFile`; `Disk.get?` is
the view in which their effects are stated.
-/
import CrudStack.Path

namespace CrudStack

/-- Names from the root down. -/
abbrev Location := List String

/-- What is at a location. -/
inductive DiskEntry where
  | directory
  | file (content : ByteArray)

/-- Two entries are the same if both are directories or both are files of the same bytes. -/
instance DiskEntry.decideEq : DecidableEq DiskEntry
  | .directory, .directory => isTrue rfl
  | .directory, .file _ => isFalse nofun
  | .file _, .directory => isFalse nofun
  | .file a, .file b =>
    match decEq a.data b.data with
    | isTrue h => isTrue (congrArg DiskEntry.file (ByteArray.ext h))
    | isFalse h => isFalse fun e => h (congrArg ByteArray.data (DiskEntry.file.inj e))

/-- Directories and files below the root, and the working directory. -/
structure Disk where
  workingDirectory : Location
  entries : List (Location × DiskEntry)

/-- Why the system refuses something. -/
inductive IoFault where
  | notFound
  | notDirectory
  | isDirectory
  | alreadyExists
  | nameTooLong
  | nulByte
  | invalidText
  deriving DecidableEq, Repr

/-- The text of a fault. -/
def IoFault.text : IoFault → String
  | notFound => "No such file or directory (os error 2)"
  | notDirectory => "Not a directory (os error 20)"
  | isDirectory => "Is a directory (os error 21)"
  | alreadyExists => "File exists (os error 17)"
  | nameTooLong => "File name too long (os error 36)"
  | nulByte => "file name contained an unexpected NUL byte"
  | invalidText => "stream did not contain valid UTF-8"

namespace Disk

/-! ## The view -/

/-- What is at a location. -/
def get? (d : Disk) (l : Location) : Option DiskEntry :=
  if l.isEmpty then some .directory else d.entries.lookup l

/-- Puts an entry at a location, in place of what was there. -/
def putEntry (l : Location) (e : DiskEntry) :
    List (Location × DiskEntry) → List (Location × DiskEntry)
  | [] => [(l, e)]
  | (k, old) :: rest => if l = k then (l, e) :: rest else (k, old) :: putEntry l e rest

/-- Puts an entry at a location. -/
def put (d : Disk) (l : Location) (e : DiskEntry) : Disk :=
  { d with entries := putEntry l e d.entries }

/-- Removes a location with everything below it. -/
def removeBelow (d : Disk) (l : Location) : Disk :=
  { d with entries := d.entries.filter fun e => !l.isPrefixOf e.1 }

/-- A disk with nothing but the working directory. -/
def empty : Disk := ⟨["work"], [(["work"], .directory)]⟩

/-! ## Resolving paths -/

/-- Bytes of a name, at most. -/
def nameLimit : Nat := 255

/-- Bytes of a path, and one more. -/
def pathLimit : Nat := 4096

/-- The pieces of a path that the system looks up. -/
def pieces (p : Path) : List String :=
  ((p.text.toList.splitOn '/').filter fun piece => !piece.isEmpty).map String.ofList

/-- Whether a slash stands behind the last piece. -/
def endsInSlash (p : Path) : Bool := p.text.toList.getLast? = some '/'

/-- The location at which a path begins. -/
def start (d : Disk) (p : Path) : Location :=
  if p.isAbsolute then [] else d.workingDirectory

/-- Refuses paths that no system call accepts. -/
def checkPath (p : Path) : Except IoFault Unit :=
  if p.text.toList.contains '\x00' then .error .nulByte
  else if pathLimit ≤ p.text.utf8ByteSize then .error .nameTooLong
  else .ok ()

/-- Requires a directory at a location. -/
def requireDirectory (d : Disk) (l : Location) : Except IoFault Unit :=
  match d.get? l with
  | none => .error .notFound
  | some (.file _) => .error .notDirectory
  | some .directory => .ok ()

/-- Whether a piece leads elsewhere than to a name. -/
def isDots (piece : String) : Bool := piece = "." || piece = ".."

/-- The location that a piece leads to from a directory. -/
def step (d : Disk) (l : Location) (piece : String) : Except IoFault Location := do
  d.requireDirectory l
  if piece = "." then return l
  else if piece = ".." then return l.dropLast
  else if nameLimit < piece.utf8ByteSize then throw .nameTooLong
  else return l ++ [piece]

/-- The location that pieces lead to. -/
def walk (d : Disk) (l : Location) (ps : List String) : Except IoFault Location :=
  ps.foldlM d.step l

/-- The location of something that exists, and what it is. -/
def lookup (d : Disk) (p : Path) : Except IoFault (Location × DiskEntry) := do
  checkPath p
  if p.text.isEmpty then throw .notFound
  let l ← d.walk (d.start p) (pieces p)
  match d.get? l with
  | none => throw .notFound
  | some (.file content) =>
    if endsInSlash p then throw .notDirectory else return (l, .file content)
  | some .directory => return (l, .directory)

/-- The location of something that may have to be created: its directory exists, and its last piece
is a name.  `onDots` is the fault if it is not, `onSlash` the one if a slash stands behind it. -/
def target (d : Disk) (p : Path) (onDots : IoFault) (onSlash : Option IoFault) :
    Except IoFault Location := do
  checkPath p
  if p.text.isEmpty then throw .notFound
  match (pieces p).getLast? with
  | none => throw onDots
  | some last =>
    let parent ← d.walk (d.start p) (pieces p).dropLast
    d.requireDirectory parent
    if isDots last then throw onDots
    match endsInSlash p, onSlash with
    | true, some fault => throw fault
    | _, _ => pure ()
    if nameLimit < last.utf8ByteSize then throw .nameTooLong
    return parent ++ [last]

/-! ## Queries -/

/-- Whether a path leads to anything. -/
def hasAny (d : Disk) (p : Path) : Bool := (d.lookup p).isOk

/-- Whether a path leads to a directory. -/
def hasDirectory (d : Disk) (p : Path) : Bool :=
  match d.lookup p with
  | .ok (_, .directory) => true
  | _ => false

/-- Whether a path leads to a file. -/
def hasFile (d : Disk) (p : Path) : Bool :=
  match d.lookup p with
  | .ok (_, .file _) => true
  | _ => false

/-- The content of a file. -/
def readBytes (d : Disk) (p : Path) : Except IoFault ByteArray := do
  match ← d.lookup p with
  | (_, .directory) => throw .isDirectory
  | (_, .file content) => return content

/-- The text of a file. -/
def readText (d : Disk) (p : Path) : Except IoFault String := do
  match String.fromUTF8? (← d.readBytes p) with
  | some text => return text
  | none => throw .invalidText

/-! ## Changes -/

/-- Makes one directory. -/
def makeDirectory (d : Disk) (p : Path) : Except IoFault Disk := do
  let l ← d.target p .alreadyExists none
  if (d.get? l).isSome then throw .alreadyExists
  return d.put l .directory

/-- Writes a file, in place of a file that was there. -/
def writeFile (d : Disk) (p : Path) (content : ByteArray) : Except IoFault Disk := do
  let l ← d.target p .isDirectory (some .isDirectory)
  match d.get? l with
  | some .directory => throw .isDirectory
  | _ => return d.put l (.file content)

/-- The outcome of a step that changes a disk: what it is now, and the fault that ended the step. -/
structure Changed where
  disk : Disk
  fault : Option IoFault := none

/-- Makes a directory unless it is there already. -/
def settleDirectory (d : Disk) (p : Path) : Changed :=
  match d.makeDirectory p with
  | .ok d => ⟨d, none⟩
  | .error .alreadyExists => ⟨d, if d.hasDirectory p then none else some .alreadyExists⟩
  | .error fault => ⟨d, some fault⟩

/-- Makes a directory and those around it that are missing, from the outside in.  The path is
shortened until a directory can be made or is there; `fuel` bounds its number of parts. -/
def ensureFrom : Nat → Disk → Path → Changed
  | 0, d, _ => ⟨d, none⟩
  | fuel + 1, d, p =>
    match p.parent? with
    | none => ⟨d, none⟩
    | some parent =>
      match d.makeDirectory p with
      | .error .notFound =>
        let around := ensureFrom fuel d parent
        match around.fault with
        | some _ => around
        | none => around.disk.settleDirectory p
      | _ => d.settleDirectory p

/-- Makes a directory and those around it that are missing. -/
def ensureDirectory (d : Disk) (p : Path) : Changed :=
  ensureFrom (p.parts.length + 1) d p

/-- Removes a file or a directory with everything in it. -/
def remove (d : Disk) (p : Path) : Except IoFault Disk := do
  let (l, _) ← d.lookup p
  return d.removeBelow l

/-- Everything below the working directory: its path from there, and its size if it is a file. -/
def tree (d : Disk) : List (String × Option Nat) :=
  d.entries.filterMap fun (l, e) =>
    let n := d.workingDirectory.length
    if d.workingDirectory.isPrefixOf l && n < l.length then
      some ("/".intercalate (l.drop n),
        match e with
        | .directory => none
        | .file content => some content.size)
    else none

end Disk

end CrudStack
