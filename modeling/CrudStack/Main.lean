/-
# `CrudStack.Main` — the program

Requests are carried out on a `Disk`, so the program only carries things over: it reads what a
request can touch into a disk, carries the request out there, and makes the same changes outside.
What a request can touch is found by carrying it out once on a disk that holds its inputs alone.
-/
import CrudStack.Command.Execute
import CrudStack.Json.Writer
import CrudStack.LogFilter

namespace CrudStack.Program

/-! ## Reading the file system -/

/-- The text of a location. -/
def locationText (l : Location) : String := "/" ++ "/".intercalate l

/-- The locations that a path passes, from the outside in. -/
def locationsOn (start : Location) (p : Path) : List Location :=
  let step := fun (passed : Location × List Location) (piece : String) =>
    let next :=
      if piece = "." then passed.1
      else if piece = ".." then passed.1.dropLast
      else passed.1 ++ [piece]
    (next, passed.2 ++ [next])
  ((Disk.pieces p).foldl step (start, [])).2

/-- What the file system has at a location, if its parent is a directory. -/
def probe (l : Location) : IO (Option DiskEntry) := do
  try
    return some (.file (← IO.FS.readBinFile (locationText l)))
  catch
    | .inappropriateType .. => return some .directory
    | _ => return none

/-- Adds what the file system has at a location. -/
def observe (d : Disk) (l : Location) : IO Disk := do
  if (d.get? l).isSome || d.get? l.dropLast ≠ some .directory then return d
  match ← probe l with
  | some e => return d.put l e
  | none => return d

/-- A disk with nothing but the working directory and those around it. -/
def workingDisk : IO Disk := do
  let here : Path := ⟨(← IO.currentDir).toString⟩
  let locations := locationsOn [] here
  let empty : Disk := ⟨Disk.pieces here, []⟩
  return locations.foldl (fun d l => d.put l .directory) empty

/-- The variables of the environment. -/
def readEnvironment : IO (List (String × String)) := do
  let bytes ← IO.FS.readBinFile "/proc/self/environ"
  let text := (String.fromUTF8? bytes).getD ""
  return (text.splitOn "\x00").filterMap fun entry =>
    match entry.splitOn "=" with
    | name :: first :: rest => some (name, "=".intercalate (first :: rest))
    | _ => none

/-! ## Changing the file system -/

/-- Makes the changes that lead from one disk to another; the later entries are the deeper ones. -/
def commit (before after : Disk) : IO Unit :=
  after.entries.forM fun (l, e) => do
    if before.get? l = some e then return
    match e with
    | .directory => IO.FS.createDir (locationText l)
    | .file content => IO.FS.writeBinFile (locationText l) content

/-! ## Reporting -/

/-- The target that the program reports under. -/
def eventTarget : String := "ovelha"

/-- An event on a line. -/
def eventLine (e : Event) : String :=
  let fields := e.fields.map fun (name, value) => " " ++ name ++ "=" ++ Json.write value
  e.level.label ++ " " ++ eventTarget ++ ": " ++ e.message ++ String.join fields

/-- How the program is called. -/
def usage : String :=
  "Usage: ovelha <COMMAND>\n\n" ++
  "Commands:\n" ++
  "  generate_back <SOURCE> [-d DIR] [--config FILE] [--database postgres|h2]\n" ++
  "  generate_front <SOURCE> [-d DIR] [--config FILE]\n"

/-- Reports a line that no request could be read from. -/
def reportUsage (fault : Command.UsageFault) : IO UInt32 := do
  match fault with
  | .helpWanted =>
    IO.print usage
    return 0
  | .versionWanted =>
    IO.println "ovelha 0.1.0"
    return 0
  | _ =>
    IO.eprint usage
    return 2

/-- Reports how a request ended. -/
def reportOutcome (done : Command.Execution) : IO UInt32 := do
  IO.print done.printed
  match done.outcome with
  | .ok _ => return 0
  | .error failure =>
    IO.eprintln ("Error: " ++ failure.context)
    match failure.cause with
    | none => pure ()
    | some cause => IO.eprintln ("\nCaused by:\n    " ++ cause)
    return 1

/-- Carries out a request on the file system. -/
def perform (r : Command.Request) : IO UInt32 := do
  let environment ← readEnvironment
  let here ← workingDisk
  let inputs := r.source :: Settings.lookedFor here (r.config.getD Settings.localFile)
  let passed := inputs.flatMap fun p => locationsOn (here.start p) p
  let bare ← passed.foldlM observe here
  let rehearsal := r.execute bare environment
  let before ← (rehearsal.disk.entries.map (·.1)).foldlM observe bare
  let done := r.execute before environment
  let filter := LogFilter.ofText (environment.lookup "RUST_LOG")
  for e in done.trace do
    if LogFilter.shows filter eventTarget e then IO.eprintln (eventLine e)
  commit before done.disk
  reportOutcome done

end CrudStack.Program

/-- Reads a command line and carries it out. -/
def main (arguments : List String) : IO UInt32 :=
  match CrudStack.Command.parse ("ovelha" :: arguments) with
  | .error fault => CrudStack.Program.reportUsage fault
  | .ok request => CrudStack.Program.perform request
