/-
# `CrudStack.Event` — what a run reports while it goes on

An event says what happened; its level, its message and its named fields are derived from that.
-/
import CrudStack.BuildLog
import CrudStack.Document
import CrudStack.Model

namespace CrudStack

/-- How urgent an event is. -/
inductive Level where
  | error | warn | info | debug | trace
  deriving DecidableEq, Repr

/-- The name of a level. -/
def Level.label : Level → String
  | error => "ERROR"
  | warn => "WARN"
  | info => "INFO"
  | debug => "DEBUG"
  | trace => "TRACE"

/-- Something that happened. -/
inductive Event where
  | inputsResolved (source destination : Path) (project : String)
  | started (mode : Mode) (project : String) (classes : Nat)
  | diagnosed (diagnostic : Diagnostic)
  | unknownType (className typeName : String)
  | wrote (path : Path) (description : String)
  | recorded (record : BuildRecord)
  | finished (root : Path) (written skipped : Nat)
  deriving DecidableEq, Repr

namespace Event

/-- The level of an event. -/
def level : Event → Level
  | inputsResolved .. => .debug
  | started .. => .info
  | diagnosed _ => .warn
  | unknownType .. => .warn
  | wrote .. => .debug
  | recorded r => if r.isWritten then .debug else .warn
  | finished .. => .info

/-- The message of an event. -/
def message : Event → String
  | inputsResolved .. => "Resolved generation inputs"
  | started .. => "Generating project"
  | diagnosed _ => "Model passed through unchanged"
  | unknownType .. => "Unknown type mapped to the permissive default"
  | wrote _ description => "Wrote " ++ description
  | recorded r => if r.isWritten then "Artifact written" else "Artifact skipped"
  | finished .. => "Generation complete"

/-- The fields of a record; a file of the whole project shows a dash for its class. -/
def recordFields (r : BuildRecord) : List (String × Document) :=
  [("kind", .text r.kind.label),
   ("class", .text (r.className.getD "-")),
   ("path", .text r.path.text)] ++
  match r.outcome with
  | .written => []
  | .skipped reason => [("reason", .text reason)]

/-- The named fields of an event. -/
def fields : Event → List (String × Document)
  | inputsResolved source destination project =>
    [("source", .text source.text), ("destination", .text destination.text),
     ("project", .text project)]
  | started mode project classes =>
    [("mode", .text mode.label), ("project", .text project), ("classes", .integer classes)]
  | diagnosed d => [("diagnostic", .text d.text)]
  | unknownType className typeName =>
    [("class", .text className), ("type_name", .text typeName)]
  | wrote path _ => [("path", .text path.text)]
  | recorded r => recordFields r
  | finished root written skipped =>
    [("root", .text root.text), ("written", .integer written), ("skipped", .integer skipped)]

end Event

end CrudStack
