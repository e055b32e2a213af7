/-
# `CrudStack.Layout` — the directories of a generated project

A layout gives each role its directory below a destination.  A backend has the directories of a
Maven project, with the package spelled out as nested directories; a frontend has those of a Vite
project.  A role that the mode does not use stands for the root.
-/
import CrudStack.Artifact
import CrudStack.Path

namespace CrudStack

/-- The directories of one project by role, in the order in which they are created. -/
structure Layout where
  root : Path
  directories : List (Role × Path)
  deriving Repr

namespace Layout

/-- The nested directories of a package, one for each text between its dots. -/
def packagePath (package : String) : Path :=
  .ofSegments ((package.toList.splitOn '.').map String.ofList)

/-- A backend at `destination/project`, with its sources in the directories of `package`. -/
def backend (destination : Path) (project package : String) : Layout :=
  let root := destination.child project
  let sources := (root.child "src/main/java").join (packagePath package)
  { root
    directories :=
      [(.root, root),
       (.sources, sources),
       (.model, sources.child "model"),
       (.repository, sources.child "repository"),
       (.service, sources.child "service"),
       (.controller, sources.child "controller"),
       (.exception, sources.child "exception"),
       (.resources, root.child "src/main/resources"),
       (.testSources, (root.child "src/test/java").join (packagePath package))] }

/-- A frontend at `destination/project/frontend`. -/
def frontend (destination : Path) (project : String) : Layout :=
  let root := (destination.child project).child "frontend"
  let sources := root.child "src"
  { root
    directories :=
      [(.root, root), (.frontendSources, sources), (.components, sources.child "components")] }

/-- The directory of a role. -/
def directory (l : Layout) (role : Role) : Path :=
  (l.directories.lookup role).getD l.root

/-- All directories, in the order in which they are created. -/
def paths (l : Layout) : List Path := l.directories.map (·.2)

/-- Where a file of a role lies, seen from the root.  A directory outside the root is kept as it
is. -/
def locate (l : Layout) (role : Role) (fileName : String) : Path :=
  let directory := l.directory role
  ((directory.relativeTo? l.root).getD directory).child fileName

end Layout

end CrudStack
