/-
# `CrudStack.Proofs.Run.Destination` — a project in a directory of its own

A project that bears a name in the settings is put where this name leads.  All others are called
after the file of their model, and then the project lies right below the destination, a frontend one
directory further down.  What a run changes lies there and nowhere else: neither in the destination
itself nor above it (`Job.SetApart`).

There are two exceptions, and nothing in the program looks out for them.  A file name that is cut
behind one dot, like `..json`, makes the destination the directory of the project, and one that is
cut behind two dots makes it the directory above (`projects_set_apart`,
`project_above_destination`).
-/
import CrudStack.Proofs.Path.Joined
import CrudStack.Proofs.Path.Stem
import CrudStack.Proofs.Run.Frame

namespace CrudStack

/-! ## The name of a project -/

namespace Settings

/-- Without a name in the settings a project has the stem of the model's file. -/
theorem projectName_of_blank {s : Settings} (hblank : s.project.name.all isBlankText = true)
    (source : Path) : s.projectName source = source.stem?.getD "app" := by
  have hunset : s.project.name.filter (fun n => !isBlankText n) = none := by
    refine Option.filter_eq_none_iff.mpr ?_
    intro n hn
    rw [hn] at hblank
    simpa using hblank
  unfold projectName
  rw [hunset]
  dsimp only
  cases hstem : source.stem? with
  | none => rfl
  | some stem =>
      have hne : stem.isEmpty = false := by
        simpa using (Path.stem?_eq_some hstem).1
      rw [Option.filter_some, hne]
      rfl

section Blank

variable {s : Settings} (hblank : s.project.name.all isBlankText = true) (source : Path)

include hblank

/-- The name of a project is not empty and has no slash. -/
theorem projectName_eq_some : s.projectName source ≠ "" ∧ '/' ∉ (s.projectName source).toList := by
  rw [projectName_of_blank hblank]
  cases hstem : source.stem? with
  | none => exact ⟨by decide, by decide⟩
  | some stem => exact Path.stem?_eq_some hstem

/-- A project is called by one of the two dots just if the file name of its source is cut behind
them. -/
theorem projectName_eq_dots_iff {dots : String} (hdots : Disk.isDots dots = true) :
    s.projectName source = dots ↔ source.CutAfter dots := by
  rw [projectName_of_blank hblank, ← Path.stem?_eq_dots_iff hdots]
  cases hstem : source.stem? with
  | some stem => exact Option.some_inj.symm
  | none =>
      refine ⟨?_, nofun⟩
      rintro rfl
      cases hdots

end Blank

end Settings

/-! ## Below the destination -/

namespace Job

/-- The project of a job has a directory of its own below a destination. -/
structure SetApart (j : Job) (destination : Path) : Prop where
  /-- The root is named behind the destination: by the project, and in a frontend by one more
  name. -/
  parts : (j.layout destination).root.parts =
    destination.parts ++ (j.project :: j.rootNames).map Path.Part.name
  /-- On every disk it lies that far below the place of the destination. -/
  locate : ∀ d : Disk,
    d.locate (j.layout destination).root = d.locate destination ++ j.project :: j.rootNames
  /-- No file changes but below the root, if no group and no class has a slash in its name. -/
  files : '/' ∉ j.settings.backend.groupId.toList →
    (∀ c ∈ j.model.classes, '/' ∉ c.name.toList) →
    ∀ d l, (j.run destination d).disk.files l ≠ d.files l →
      d.locate (j.layout destination).root <+: l

theorem root_parts (j : Job) (destination : Path) : (j.layout destination).root.parts =
    (destination.child j.project).parts ++ j.rootNames.map Path.Part.name := by
  unfold layout rootNames
  cases j.mode with
  | backend => exact (List.append_nil _).symm
  | frontend => exact Path.parts_child_name _ (by decide) (by decide) (by decide)

section Named

variable {j : Job} (hslash : '/' ∉ j.project.toList) (hne : j.project ≠ "")
  (hdots : Disk.isDots j.project = false) (destination : Path)

include hslash hne hdots

theorem root_extends_destination :
    Disk.Extends destination (j.layout destination).root (j.project :: j.rootNames) :=
  (extends_child destination hslash hne hdots).trans (j.root_extends destination)

/-- A project that is called by a name is set apart. -/
theorem setApart_of_name : j.SetApart destination := by
  have hroot := root_extends_destination hslash hne hdots destination
  refine ⟨?_, hroot.locate, ?_⟩
  · rw [root_parts, Path.parts_child_name destination hslash hne hdots, List.append_assoc]
    rfl
  · intro hgroup hclasses d l hl
    obtain ⟨f, hf, rfl, -⟩ := (contents_run j destination d l).resolve_left hl
    rw [(j.root_extends destination).locate, (file_extends hf hgroup hclasses destination).1.locate,
      ← List.append_assoc]
    exact List.prefix_append _ _

end Named

end Job

/-- Without a name in the settings, the name of a project is neither empty nor has it a slash; it is
one of the two dots just if the file name of the source is cut behind them; and for all other
sources every run with these settings keeps to a directory right below its destination, or in a
frontend one further down. -/
theorem projects_set_apart {s : Settings}
    (hblank : s.project.name.all Settings.isBlankText = true) (source : Path) :
    s.projectName source ≠ "" ∧ '/' ∉ (s.projectName source).toList ∧
      (s.projectName source = "." ↔ source.CutAfter ".") ∧
      (s.projectName source = ".." ↔ source.CutAfter "..") ∧
      (¬source.CutAfter "." → ¬source.CutAfter ".." →
        ∀ j : Job, j.project = s.projectName source → ∀ destination, j.SetApart destination) := by
  obtain ⟨hne, hslash⟩ := Settings.projectName_eq_some hblank source
  have hhere : s.projectName source = "." ↔ source.CutAfter "." :=
    Settings.projectName_eq_dots_iff hblank source (by decide)
  have hup : s.projectName source = ".." ↔ source.CutAfter ".." :=
    Settings.projectName_eq_dots_iff hblank source (by decide)
  refine ⟨hne, hslash, hhere, hup, ?_⟩
  intro hnothere hnotup j hj destination
  have hdots : Disk.isDots (s.projectName source) = false := by
    rw [Disk.isDots, Bool.or_eq_false_iff, decide_eq_false_iff_not, decide_eq_false_iff_not]
    exact ⟨fun h => hnothere (hhere.mp h), fun h => hnotup (hup.mp h)⟩
  rw [← hj] at hne hslash hdots
  exact Job.setApart_of_name hslash hne hdots destination

/-- A job for a model with one class that has its name from a file. -/
def filedJob (s : Settings) (source : Path) (mode : Mode) : Job :=
  ⟨⟨[⟨"Book", [.attr ⟨"title", "text"⟩]⟩]⟩, s, mode, s.projectName source⟩

/-- A name of spaces counts for nothing, and dots in a file name do no harm by themselves. -/
theorem set_apart_hidden :
    let s : Settings := { project := { name := some "  " } }
    let source : Path := ⟨"../models/..v2.json/"⟩
    (s.project.name.all Settings.isBlankText = true ∧ s.projectName source = "..v2") ∧
      ∀ mode, (filedJob s source mode).SetApart ⟨"out"⟩ := by
  intro s source
  have hblank : s.project.name.all Settings.isBlankText = true := by decide +kernel
  have hname : s.projectName source = "..v2" := by decide +kernel
  obtain ⟨-, -, hhere, hup, hapart⟩ := projects_set_apart hblank source
  refine ⟨⟨hblank, hname⟩, fun mode => hapart ?_ ?_ _ rfl ⟨"out"⟩⟩
  · rw [← hhere, hname]
    decide
  · rw [← hup, hname]
    decide

/-- The file name is cut behind two dots, and the project gets into the directory above its
destination. -/
theorem project_above_destination :
    let j := filedJob {} ⟨"models/...json"⟩ .backend
    j.project = ".." ∧
      (j.layout ⟨"out"⟩).root.parts = Path.parts ⟨"out"⟩ ++ [.up] ∧
      Disk.empty.locate ⟨"out"⟩ = ["work", "out"] ∧
      Disk.empty.locate (j.layout ⟨"out"⟩).root = ["work"] := by
  decide +kernel

end CrudStack
