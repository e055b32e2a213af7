/-
# `CrudStack.Proofs.Run.Placement` — a run writes every file where its layout has a place for it

A plan is made without a destination: its paths are seen from the root of a layout that begins
nowhere.  A run puts them below the root of another layout.  That this is the place which the other
layout has for the file is plain as long as all names are plain.  But a project may be called
`/srv/shop`, which leaves the destination aside, and a group `com./opt`, which leaves even the
project aside; then there may be nothing that is seen from the root, and the plan keeps the
directory as it is.

A directory is a text below the root that does not depend on the destination (`below`), and whatever
that text is, it comes to the same parts on both ways (`file_parts`).  Main statement:
`files_in_layout`.
-/
import CrudStack.Proofs.Layout.Names
import CrudStack.Proofs.Path.Joined
import CrudStack.Proofs.Run.Record

namespace CrudStack

open Disk (Effect Settled)
open CrudStack.Path (Part joinParts)

/-! ## Directories below the root -/

namespace Layout

/-- The directory of a role, as it is put below the root of a layout. -/
def below (package : String) : Mode → Role → Path
  | .backend, .sources => sources
  | .backend, .model => sources.child "model"
  | .backend, .repository => sources.child "repository"
  | .backend, .service => sources.child "service"
  | .backend, .controller => sources.child "controller"
  | .backend, .exception => sources.child "exception"
  | .backend, .resources => ⟨"src/main/resources"⟩
  | .backend, .testSources => (⟨"src/test/java"⟩ : Path).join (packagePath package)
  | .frontend, .frontendSources => ⟨"src"⟩
  | .frontend, .components => (⟨"src"⟩ : Path).child "components"
  | _, _ => ⟨""⟩
where
  /-- The directory of the sources of a backend. -/
  sources : Path := (⟨"src/main/java"⟩ : Path).join (packagePath package)

theorem backend_parts (destination : Path) (project package : String) (role : Role) :
    ((backend destination project package).directory role).parts =
      ((backend destination project package).root.join (below package .backend role)).parts := by
  rw [backend_directory]
  cases role with
  | root => exact (Path.parts_join_nothing _).symm
  | frontendSources => exact (Path.parts_join_nothing _).symm
  | components => exact (Path.parts_join_nothing _).symm
  | resources => rfl
  | _ => simp only [below, below.sources, Path.child, Path.parts_join, Path.joinParts_assoc]

theorem frontend_parts (destination : Path) (project package : String) (role : Role) :
    ((frontend destination project).directory role).parts =
      ((frontend destination project).root.join (below package .frontend role)).parts := by
  rw [frontend_directory]
  cases role with
  | frontendSources => rfl
  | components => exact Path.parts_join_assoc _ _ _
  | _ => exact (Path.parts_join_nothing _).symm

/-- No directory begins with a dot of its own, which would be lost below a root. -/
theorem head?_below (package : String) (mode : Mode) (role : Role) :
    (below package mode role).parts.head? ≠ some .here := by
  have hmain : (⟨"src/main/java"⟩ : Path).parts = [.name "src", .name "main", .name "java"] := by
    decide +kernel
  have htest : (⟨"src/test/java"⟩ : Path).parts = [.name "src", .name "test", .name "java"] := by
    decide +kernel
  have hfixed : ∀ text ∈ ["", "src", "src/main/resources"],
      (⟨text⟩ : Path).parts.head? ≠ some .here := by
    decide +kernel
  have hsources : ∀ q : Path, ((below.sources package).join q).parts.head? ≠ some .here := by
    intro q
    rw [below.sources, Path.parts_join_assoc, Path.parts_join, hmain]
    exact Path.head?_joinParts _ _ _
  cases mode with
  | frontend =>
      cases role with
      | frontendSources => exact hfixed "src" (by simp)
      | components => exact Path.parts_join _ _ ▸ Path.head?_joinParts "src" [] _
      | _ => exact hfixed "" (by simp)
  | backend =>
      cases role with
      | sources =>
          rw [below, below.sources, Path.parts_join, hmain]
          exact Path.head?_joinParts _ _ _
      | testSources =>
          rw [below, Path.parts_join, htest]
          exact Path.head?_joinParts _ _ _
      | model => exact hsources ⟨"model"⟩
      | repository => exact hsources ⟨"repository"⟩
      | service => exact hsources ⟨"service"⟩
      | controller => exact hsources ⟨"controller"⟩
      | exception => exact hsources ⟨"exception"⟩
      | resources => exact hfixed "src/main/resources" (by simp)
      | _ => exact hfixed "" (by simp)

end Layout

namespace Job

variable (j : Job) (destination : Path)

/-- A directory of a job is below its root by a text that does not depend on the destination. -/
theorem directory_parts (role : Role) :
    ((j.layout destination).directory role).parts =
      ((j.layout destination).root.join
        (Layout.below (j.settings.basePackage j.project) j.mode role)).parts := by
  unfold layout
  cases j.mode with
  | backend => exact Layout.backend_parts destination j.project _ role
  | frontend => exact Layout.frontend_parts destination j.project _ role

/-- Only a project whose own name starts at the root does so without a destination, and such a name
leaves every destination aside. -/
theorem root_of_isAbsolute (h : (j.layout ⟨""⟩).root.isAbsolute = true) :
    (j.layout destination).root = (j.layout ⟨""⟩).root := by
  have hproject :
      ∀ p : Path, (⟨j.project⟩ : Path).isAbsolute = true → p.child j.project = ⟨j.project⟩ :=
    fun p habsolute => if_pos habsolute
  have hnowhere : (⟨""⟩ : Path).child j.project = ⟨j.project⟩ := Path.child_of_empty rfl
  unfold layout at h ⊢
  cases hmode : j.mode with
  | backend =>
      rw [hmode] at h
      have habsolute : (⟨j.project⟩ : Path).isAbsolute = true := hnowhere ▸ h
      exact (hproject destination habsolute).trans hnowhere.symm
  | frontend =>
      rw [hmode] at h
      have hplain : Path.IsPlain ⟨"frontend"⟩ := by decide +kernel
      have habsolute : (⟨j.project⟩ : Path).isAbsolute = true := by
        rw [← hnowhere, ← Path.isAbsolute_child _ hplain]
        exact h
      have hsame := (hproject destination habsolute).trans hnowhere.symm
      exact congrArg (Path.child · "frontend") hsame

/-! ## Files -/

/-- The path of a file, put below the root of a layout, comes to the directory that this layout has
for the kind of the file, whatever project, package and file are called. -/
theorem file_parts (kind : ArtifactKind) (fileName : String) :
    ((j.layout destination).root.join (j.relativePath kind fileName)).parts =
      (((j.layout destination).directory (kind.role j.mode)).child fileName).parts := by
  have hroot : (j.layout ⟨""⟩).root.isAbsolute = true →
      (j.layout destination).root.parts = (j.layout ⟨""⟩).root.parts :=
    fun h => congrArg Path.parts (j.root_of_isAbsolute destination h)
  have hmoved := Path.parts_join_relativeTo? (j.directory_parts ⟨""⟩ (kind.role j.mode))
    (Layout.head?_below _ j.mode _) hroot
  rw [← j.directory_parts] at hmoved
  rw [relativePath, Layout.locate, Path.child, Path.child, ← Path.parts_join_assoc]
  exact Path.parts_join_congr hmoved ⟨fileName⟩

/-- A group with a segment that starts at the root leaves the project aside, in a plan as in a
run. -/
example :
    (Layout.backend ⟨""⟩ "shop" "com./opt").locate .model "Task.java" = ⟨"/opt/model/Task.java"⟩ ∧
      (Layout.backend ⟨"out"⟩ "shop" "com./opt").directory .model = ⟨"/opt/model"⟩ := by
  decide +kernel

variable {j}

/-- A file whose name has no slash lies in the directory of its kind, and nowhere deeper. -/
theorem file_parent {f : PlannedFile} (hf : f ∈ j.fullPlan.files)
    (hslash : '/' ∉ (j.fileName f).toList) :
    ∃ parent, ((j.layout destination).root.join f.path).parent? = some parent ∧
      parent.parts = ((j.layout destination).directory (f.kind.role j.mode)).parts := by
  have hparts : ((j.layout destination).root.join f.path).parts =
      ((j.layout destination).directory (f.kind.role j.mode)).parts ++ [.name (j.fileName f)] := by
    rw [(mem_files hf).1, file_parts]
    exact Path.parts_child_name _ hslash (fileName_ne_empty hf) (isDots_fileName hf)
  exact Path.exists_parent? hparts

/-! ## The directories before the files -/

/-- All directories of the layout are there, nothing was written, and the entries of the plan are
still to be performed. -/
structure Prepared (j : Job) (p : Plan) (destination : Path) (d made : Disk) : Prop where
  effect : Effect [] d made
  settled : ∀ q ∈ (j.layout destination).paths, Settled made q
  perform : j.perform p destination d =
    performAll (j.layout destination).root p.entries made

/-- A run makes all its directories first, or ends there without a file. -/
theorem prepared_or_stopped (j : Job) (p : Plan) (destination : Path) (d : Disk) :
    (∃ made, j.Prepared p destination d made) ∨
      Progress.Stopped d (j.perform p destination d) := by
  rw [perform_eq]
  rcases Progress.ensureAll_cases (j.layout destination).paths d with
    ⟨made, hensure, heffect, hsettled⟩ | hstop
  · refine .inl ⟨made, heffect, hsettled, ?_⟩
    rw [perform_eq, hensure, Progress.silent_andThen]
  · rw [hstop.andThen]
    exact .inr hstop

end Job

/-- A plan and a run agree on where files go, for every destination, project and group.  The path of
a file, which was found without the destination, comes below the root of the run to the parts that
the layout of the run gives it; if its name has no slash it lies right in one of the directories of
this layout; and these are made before the first file, or no file is written. -/
theorem files_in_layout (j : Job) (destination : Path) :
    ∃ p, j.plan = .ok p ∧
      (∀ f ∈ p.files,
        f.path = (j.layout ⟨""⟩).locate (f.kind.role j.mode) (j.fileName f) ∧
        ((j.layout destination).root.join f.path).parts =
          (((j.layout destination).directory (f.kind.role j.mode)).child (j.fileName f)).parts ∧
        ('/' ∉ (j.fileName f).toList →
          ∃ parent, ((j.layout destination).root.join f.path).parent? = some parent ∧
            ∃ made ∈ (j.layout destination).paths, parent.parts = made.parts)) ∧
      ∀ d, (∃ made, j.Prepared p destination d made) ∨
        Progress.Stopped d (j.perform p destination d) := by
  refine ⟨j.fullPlan, j.plan_eq_ok, fun f hf => ⟨(Job.mem_files hf).1, ?_, fun hslash => ?_⟩, ?_⟩
  · rw [(Job.mem_files hf).1]
    exact j.file_parts destination f.kind (j.fileName f)
  · obtain ⟨parent, hparent, hparts⟩ := Job.file_parent destination hf hslash
    exact ⟨parent, hparent, _, j.directory_mem_paths destination _, hparts⟩
  · intro d
    exact j.prepared_or_stopped j.fullPlan destination d

end CrudStack
