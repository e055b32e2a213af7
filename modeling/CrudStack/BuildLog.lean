/-
# `CrudStack.BuildLog` — records of what became of each artifact

Every artifact of a run leaves one record: written, or skipped for a reason.
-/
import CrudStack.Artifact
import CrudStack.Path

namespace CrudStack

/-- What became of an artifact. -/
inductive Outcome where
  | written
  | skipped (reason : String)
  deriving DecidableEq, Repr

/-- One artifact of a run, its class if it belongs to one, and its place. -/
structure BuildRecord where
  kind : ArtifactKind
  className : Option String
  path : Path
  outcome : Outcome
  deriving DecidableEq, Repr

/-- Whether the artifact was written. -/
def BuildRecord.isWritten (r : BuildRecord) : Bool := r.outcome == .written

/-- The records of a run, in the order of its artifacts. -/
abbrev BuildLog := List BuildRecord

namespace BuildLog

/-- The records of written artifacts. -/
def written (log : BuildLog) : BuildLog := log.filter BuildRecord.isWritten

/-- The records of skipped artifacts. -/
def skipped (log : BuildLog) : BuildLog := log.filter fun r => !r.isWritten

end BuildLog

end CrudStack
