/-
# `CrudStack.Generation` — performing a plan on a disk

A run plans everything first, makes the directories of the layout, and then goes through the plan
from its first entry to its last: a file is written, with the directory around it made if need be,
and every entry leaves a record.  The first fault of the disk ends the run; what was written by then
stays.  The trace of a run holds everything that it reported, records included.  What was written
and what was skipped is counted entry by entry, for the report of a run that comes to its end.
-/
import CrudStack.Disk
import CrudStack.Plan

namespace CrudStack

/-- Why a run did not finish. -/
inductive RunFault where
  | render (error : Template.RenderError)
  | io (path : Path) (fault : IoFault)
  deriving DecidableEq, Repr

/-- The message of a fault. -/
def RunFault.message : RunFault → String
  | render e => e.message
  | io path fault => "Filesystem error at " ++ path.text ++ ": " ++ fault.text

/-- What a finished run has done. -/
structure Report where
  mode : Mode
  root : Path
  written : List Path
  skipped : List String
  deriving DecidableEq, Repr

/-- A part of a run: the disk behind it, what it reported, the paths that it wrote, the classes that
it skipped, and the fault that ended the run in it. -/
structure Progress where
  disk : Disk
  trace : List Event
  written : List Path
  skipped : List String
  fault : Option RunFault

namespace Progress

/-- Goes on with a next part unless the run has ended. -/
def andThen (p : Progress) (next : Disk → Progress) : Progress :=
  match p.fault with
  | some _ => p
  | none =>
    let q := next p.disk
    ⟨q.disk, p.trace ++ q.trace, p.written ++ q.written, p.skipped ++ q.skipped, q.fault⟩

/-- A part that leaves the disk as it is and neither reports nor counts anything. -/
def silent (d : Disk) : Progress := ⟨d, [], [], [], none⟩

/-- A part that only reports, and counts what was written or skipped. -/
def report (trace : List Event) (written : List Path) (skipped : List String) (d : Disk) :
    Progress := ⟨d, trace, written, skipped, none⟩

/-- Makes a directory and those around it. -/
def ensure (p : Path) (d : Disk) : Progress :=
  let c := d.ensureDirectory p
  ⟨c.disk, [], [], [], c.fault.map (.io p)⟩

/-- Makes several directories, in order. -/
def ensureAll : List Path → Disk → Progress
  | [], d => silent d
  | p :: rest, d => (ensure p d).andThen (ensureAll rest)

/-- Writes a text. -/
def write (p : Path) (content : String) (d : Disk) : Progress :=
  match d.writeFile p content.toUTF8 with
  | .ok d => silent d
  | .error fault => ⟨d, [], [], [], some (.io p fault)⟩

end Progress

/-- The record of an entry below a root. -/
def PlanEntry.record (root : Path) : PlanEntry → BuildRecord
  | .file f => ⟨f.kind, f.className, root.join f.path, .written⟩
  | .skip s => ⟨s.kind, some s.className, root.join s.path, .skipped s.reason⟩

/-- Performs an entry below a root. -/
def PlanEntry.perform (root : Path) (entry : PlanEntry) (d : Disk) : Progress :=
  match entry with
  | .file f =>
    let path := root.join f.path
    ((match path.parent? with
      | some parent => Progress.ensure parent d
      | none => Progress.silent d).andThen
        (Progress.write path f.content)).andThen
          (Progress.report [.wrote path f.description, .recorded (entry.record root)] [path] [])
  | .skip s => Progress.report [.recorded (entry.record root)] [] [s.className] d

/-- Performs entries below a root, in order. -/
def performAll (root : Path) : List PlanEntry → Disk → Progress
  | [], d => Progress.silent d
  | e :: rest, d => (e.perform root d).andThen (performAll root rest)

/-- A run: the disk behind it, its trace, and its report or the fault that ended it. -/
structure Run where
  disk : Disk
  trace : List Event
  outcome : Except RunFault Report

namespace Run

/-- The records of a run. -/
def log (r : Run) : BuildLog :=
  r.trace.filterMap fun
    | .recorded record => some record
    | _ => none

/-- What a run reported besides its records. -/
def events (r : Run) : List Event :=
  r.trace.filter fun
    | .recorded _ => false
    | _ => true

end Run

namespace Job

/-- What a run reports before it plans. -/
def opening (j : Job) : List Event :=
  .started j.mode j.project j.model.classes.length :: j.model.diagnostics.map .diagnosed

/-- Performs the plan below a destination. -/
def perform (j : Job) (p : Plan) (destination : Path) (d : Disk) : Progress :=
  let layout := j.layout destination
  (Progress.ensureAll layout.paths d).andThen (performAll layout.root p.entries)

/-- Generates the project below a destination. -/
def run (j : Job) (destination : Path) (d : Disk) : Run :=
  match j.planned with
  | (.error e, warnings) => ⟨d, j.opening ++ warnings, .error (.render e)⟩
  | (.ok p, warnings) =>
    let done := j.perform p destination d
    let trace := j.opening ++ warnings ++ done.trace
    match done.fault with
    | some fault => ⟨done.disk, trace, .error fault⟩
    | none =>
      let report : Report :=
        ⟨j.mode, (j.layout destination).root, done.written, done.skipped⟩
      ⟨done.disk, trace ++ [.finished report.root report.written.length report.skipped.length],
        .ok report⟩

end Job

end CrudStack
