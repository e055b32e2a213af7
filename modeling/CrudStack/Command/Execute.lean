/-
# `CrudStack.Command.Execute` — carrying out a request

The model is loaded first, then the settings, and then the project is generated.  Each of the three
can fail; the failure says what was being done and, if there is something to say, why it failed.
-/
import CrudStack.Command.Arguments
import CrudStack.Generation
import CrudStack.Model.Load
import CrudStack.Settings.Load

namespace CrudStack.Command

/-- Name of the directory that projects are generated into by default. -/
def defaultDirectory : String := "generated"

/-- Where a request generates: where it says, or else next to its source. -/
def Request.resolvedDestination (r : Request) : Path :=
  r.destination.getD ((r.source.parent?.getD ⟨""⟩).child defaultDirectory)

/-- What failed, and why. -/
structure Failure where
  context : String
  cause : Option String
  deriving DecidableEq, Repr

/-- A carried out request: the disk behind it, what it reported, and the line it prints. -/
structure Execution where
  disk : Disk
  trace : List Event
  outcome : Except Failure String

/-- What goes to the standard output: the line of a request that was carried out, and nothing
else. -/
def Execution.printed (x : Execution) : String :=
  match x.outcome with
  | .ok line => line ++ "\n"
  | .error _ => ""

/-- The settings of a request; the database of the command line counts more than any other. -/
def Request.settings (r : Request) (d : Disk) (environment : List (String × String)) :
    Except Settings.LoadError Settings := do
  let s ← Settings.load d environment r.config
  match r.database with
  | none => return s
  | some database => return { s with backend := { s.backend with database } }

/-- The line that a finished request prints.  It opens with a check mark, as on a terminal whose
locale is one of UTF-8; where no such locale is found the mark is left out. -/
def successLine (report : Report) : String :=
  "✓ " ++ report.mode.heading ++ " generated at " ++ report.root.text

/-- Generates what a request asks for from a model with settings. -/
def Request.generate (r : Request) (m : Model) (s : Settings) (d : Disk) : Execution :=
  let project := s.projectName r.source
  let destination := r.resolvedDestination
  let run := (Job.mk m s r.mode project).run destination d
  { disk := run.disk
    trace := .inputsResolved r.source destination project :: run.trace
    outcome :=
      match run.outcome with
      | .ok report => .ok (successLine report)
      | .error fault =>
        .error
          ⟨"Failed to generate " ++ r.mode.label ++ " into " ++ destination.text,
            some fault.message⟩ }

/-- Carries out a request. -/
def Request.execute (r : Request) (d : Disk) (environment : List (String × String)) : Execution :=
  match Model.load d r.source with
  | .error e => ⟨d, [], .error ⟨"Failed to load model: " ++ r.source.text, e.message?⟩⟩
  | .ok m =>
    match r.settings d environment with
    | .error e => ⟨d, [], .error ⟨"Failed to load configuration", e.message?⟩⟩
    | .ok s => r.generate m s d

end CrudStack.Command
