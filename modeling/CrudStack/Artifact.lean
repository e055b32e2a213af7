/-
# `CrudStack.Artifact` — modes, kinds of artifacts and the roles of directories

Two modes share one list of artifact kinds.  Which kinds a mode emits, in which order, and into
which directory each kind goes is fixed here; everything else asks these tables.
-/

namespace CrudStack

/-- What is generated: the Spring Boot backend or the Vue frontend. -/
inductive Mode where
  | backend
  | frontend
  deriving DecidableEq, Repr

/-- The name of a mode. -/
def Mode.label : Mode → String
  | .backend => "backend"
  | .frontend => "frontend"

/-- The name of a mode at the head of a sentence. -/
def Mode.heading : Mode → String
  | .backend => "Backend"
  | .frontend => "Frontend"

/-- What a directory of a generated project is for.  The constructors stand in the order in which
the directories are created. -/
inductive Role where
  | root | sources | model | repository | service | controller | exception
  | resources | testSources | frontendSources | components
  deriving DecidableEq, Repr

/-- All roles, in order. -/
def Role.all : List Role :=
  [.root, .sources, .model, .repository, .service, .controller, .exception,
   .resources, .testSources, .frontendSources, .components]

/-- The kinds of generated files. -/
inductive ArtifactKind where
  | buildDescriptor | runtimeConfig | entryPoint | notFoundError
  | entity | repository | service | controller
  | hostPage | bundlerConfig | shell | router | bootstrap
  | component
  deriving DecidableEq, Repr

namespace ArtifactKind

/-- The name of a kind. -/
def label : ArtifactKind → String
  | buildDescriptor => "build descriptor"
  | runtimeConfig => "runtime config"
  | entryPoint => "entry point"
  | notFoundError => "not-found error"
  | entity => "entity"
  | repository => "repository"
  | service => "service"
  | controller => "controller"
  | hostPage => "host page"
  | bundlerConfig => "bundler config"
  | shell => "shell"
  | router => "router"
  | bootstrap => "bootstrap"
  | component => "component"

/-- The directory that a kind is written into. -/
def role (mode : Mode) : ArtifactKind → Role
  | runtimeConfig =>
    match mode with
    | .backend => .resources
    | .frontend => .root
  | buildDescriptor | hostPage | bundlerConfig => .root
  | entryPoint => .sources
  | notFoundError => .exception
  | entity => .model
  | repository => .repository
  | service => .service
  | controller => .controller
  | shell | router | bootstrap => .frontendSources
  | component => .components

end ArtifactKind

namespace Mode

/-- The kinds that a project has once, in the order of their files. -/
def projectKinds : Mode → List ArtifactKind
  | .backend => [.buildDescriptor, .runtimeConfig, .entryPoint, .notFoundError]
  | .frontend =>
    [.buildDescriptor, .hostPage, .bundlerConfig, .runtimeConfig, .shell, .bootstrap, .router]

/-- The kinds that every class has, in the order of their files. -/
def classKinds : Mode → List ArtifactKind
  | .backend => [.entity, .repository, .service, .controller]
  | .frontend => [.component]

end Mode

end CrudStack
