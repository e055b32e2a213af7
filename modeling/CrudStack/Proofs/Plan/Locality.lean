/-
# `CrudStack.Proofs.Plan.Locality` — the entries of a class depend on the class

After the files of the project a plan goes on block by block: the classes in the order of the model,
each with one entry per kind.  A block can be found by its index (`Plan.block`), and what is in it
follows from the class, the settings and the project name.  Of the rest of the model only one thing
counts, and only for the types that the class mentions: which of them are classes.

So the same class has the same block in two plans wherever it stands in their models, and to permute
the classes is to permute the blocks (`classes_local`).  The files that a backend has once do not
depend on the model at all.
-/
import CrudStack.Proofs.Plan.Influence
import CrudStack.Proofs.Plan.Sequence

namespace CrudStack

/-! ## Blocks -/

namespace Plan

/-- The entries for the project as a whole. -/
def shared (p : Plan) (mode : Mode) : List PlanEntry := p.entries.take mode.projectKinds.length

/-- The entries for the class at an index. -/
def block (p : Plan) (mode : Mode) (i : Nat) : List PlanEntry :=
  (p.entries.drop (mode.projectKinds.length + i * mode.classKinds.length)).take
    mode.classKinds.length

/-- The blocks of a number of classes, in order. -/
def blocks (p : Plan) (mode : Mode) (n : Nat) : List (List PlanEntry) :=
  (List.range n).map (p.block mode)

end Plan

/-- A list that is put together from parts of one length, cut at the parts. -/
theorem take_drop_flatMap {α β : Type} {f : α → List β} {k : Nat} (h : ∀ a, (f a).length = k) :
    ∀ {as : List α} {i : Nat} {a : α}, as[i]? = some a →
      ((as.flatMap f).drop (i * k)).take k = f a
  | [], _, _, ha => by cases ha
  | x :: xs, 0, a, ha => by
      obtain rfl : x = a := by simpa using ha
      rw [Nat.zero_mul, List.drop_zero, List.flatMap_cons, ← h x, List.take_left]
  | x :: xs, i + 1, a, ha => by
      have hrest : xs[i]? = some a := by simpa using ha
      rw [List.flatMap_cons, Nat.succ_mul, Nat.add_comm, ← List.drop_drop, List.drop_left' (h x),
        take_drop_flatMap h hrest]

namespace Job

/-- The entries of a class. -/
def classBlock (j : Job) (c : ClassDef) : List PlanEntry := j.mode.classKinds.map (j.classEntry c)

variable (j : Job)

theorem shared_fullPlan :
    j.fullPlan.shared j.mode =
      j.mode.projectKinds.map fun kind => PlanEntry.file (j.projectFile kind) := by
  unfold Plan.shared fullPlan
  rw [List.take_append_of_le_length (by simp), List.take_of_length_le (by simp)]

theorem block_fullPlan {i : Nat} {c : ClassDef} (h : j.model.classes[i]? = some c) :
    j.fullPlan.block j.mode i = j.classBlock c := by
  have hlength : ∀ c, (j.classBlock c).length = j.mode.classKinds.length := by
    intro c
    rw [classBlock, List.length_map]
  have hdrop : j.fullPlan.entries.drop j.mode.projectKinds.length =
      j.model.classes.flatMap j.classBlock := by
    unfold fullPlan
    rw [List.drop_left' (by rw [List.length_map])]
    rfl
  rw [Plan.block, ← List.drop_drop, hdrop, take_drop_flatMap hlength h]

theorem blocks_fullPlan :
    j.fullPlan.blocks j.mode j.model.classes.length = j.model.classes.map j.classBlock := by
  refine List.ext_getElem (by simp [Plan.blocks]) fun i hi hi' => ?_
  have hindex : i < j.model.classes.length := by simpa using hi'
  have hblock := j.block_fullPlan (List.getElem?_eq_getElem hindex)
  simpa [Plan.blocks] using hblock

/-- A plan is the files of the project and then its blocks. -/
theorem entries_fullPlan :
    j.fullPlan.entries =
      j.fullPlan.shared j.mode ++ (j.fullPlan.blocks j.mode j.model.classes.length).flatten := by
  rw [shared_fullPlan, blocks_fullPlan, ← List.flatMap_def]
  rfl

end Job

/-! ## Classes in two models -/

section Classes

variable {m m' : Model} (s : Settings) (project : String) (mode : Mode)

theorem classBlock_congr {c : ClassDef}
    (h : ∀ name ∈ c.typeNames, m.hasClass name = m'.hasClass name) :
    (Job.mk m s mode project).classBlock c = (Job.mk m' s mode project).classBlock c := by
  have hfile : ∀ kind, (Job.mk m s mode project).classFile c kind =
      (Job.mk m' s mode project).classFile c kind := by
    intro kind
    unfold Job.classFile Job.classLines Job.classSheet
    rw [classSheet_congr h s project]
    rfl
  unfold Job.classBlock Job.classEntry
  simp only [hfile]
  rfl

theorem classBlock_permuted (h : m.classes.Perm m'.classes) :
    (Job.mk m s mode project).classBlock = (Job.mk m' s mode project).classBlock := by
  funext c
  refine classBlock_congr s project mode fun name _ => hasClass_congr ?_
  exact (h.map _).mem_iff

end Classes

/-- What two plans of one mode say about the classes that their models share. -/
structure ClassesLocal (mode : Mode) (m m' : Model) (p p' : Plan) : Prop where
  /-- The plans are put together from the part of the project and one block for each class. -/
  entries : p.entries = p.shared mode ++ (p.blocks mode m.classes.length).flatten
  entries' : p'.entries = p'.shared mode ++ (p'.blocks mode m'.classes.length).flatten
  /-- The block at the index of a class carries its name, and has one entry for each of its
  kinds. -/
  labels : ∀ i c, m.classes[i]? = some c →
    (p.block mode i).map PlanEntry.label = classLabels mode c
  labels' : ∀ i c, m'.classes[i]? = some c →
    (p'.block mode i).map PlanEntry.label = classLabels mode c
  /-- A class that is in both models has the same block in both plans, if of the types that it
  mentions the same ones are classes. -/
  same : ∀ i i' c, m.classes[i]? = some c → m'.classes[i']? = some c →
    (∀ t ∈ c.typeNames, t ∈ m.classes.map (·.name) ↔ t ∈ m'.classes.map (·.name)) →
      p.block mode i = p'.block mode i'
  /-- If the classes are permuted, so are the blocks, and each class keeps its own. -/
  permuted : m.classes.Perm m'.classes →
    (p.blocks mode m.classes.length).Perm (p'.blocks mode m'.classes.length) ∧
      ∀ i i' c, m.classes[i]? = some c → m'.classes[i']? = some c →
        p.block mode i = p'.block mode i'
  /-- A backend has the same files for the project whatever the model is. -/
  shared : mode = .backend → p.shared mode = p'.shared mode

/-- A class has the same entries in the plans of all models that agree on the types it mentions,
whatever the order, the number and the features of the other classes are. -/
theorem classes_local (s : Settings) (project : String) (mode : Mode) (m m' : Model) :
    ∃ p p', (Job.mk m s mode project).plan = .ok p ∧ (Job.mk m' s mode project).plan = .ok p' ∧
      ClassesLocal mode m m' p p' := by
  refine ⟨_, _, Job.plan_eq_ok _, Job.plan_eq_ok _, ?_⟩
  have hlabels : ∀ (m : Model) i c, m.classes[i]? = some c →
      ((Job.mk m s mode project).fullPlan.block mode i).map PlanEntry.label =
        classLabels mode c := by
    intro m i c hc
    rw [Job.block_fullPlan ⟨m, s, mode, project⟩ hc]
    exact labels_classEntries ⟨m, s, mode, project⟩ c
  have hblock : ∀ i i' c, m.classes[i]? = some c → m'.classes[i']? = some c →
      (∀ t ∈ c.typeNames, m.hasClass t = m'.hasClass t) →
        (Job.mk m s mode project).fullPlan.block mode i =
          (Job.mk m' s mode project).fullPlan.block mode i' := by
    intro i i' c hc hc' htypes
    rw [Job.block_fullPlan ⟨m, s, mode, project⟩ hc, Job.block_fullPlan ⟨m', s, mode, project⟩ hc',
      classBlock_congr s project mode htypes]
  exact
    { entries := Job.entries_fullPlan _
      entries' := Job.entries_fullPlan _
      labels := hlabels m
      labels' := hlabels m'
      same := fun i i' c hc hc' htypes =>
        hblock i i' c hc hc' fun t ht => hasClass_congr (htypes t ht)
      permuted := fun hperm => by
        refine ⟨?_, fun i i' c hc hc' => hblock i i' c hc hc' fun t _ =>
          hasClass_congr (hperm.map _).mem_iff⟩
        rw [Job.blocks_fullPlan ⟨m, s, mode, project⟩, Job.blocks_fullPlan ⟨m', s, mode, project⟩,
          classBlock_permuted s project mode hperm]
        exact hperm.map _
      shared := by
        rintro rfl
        rw [Job.shared_fullPlan (backendJob m s project),
          Job.shared_fullPlan (backendJob m' s project)]
        exact List.map_congr_left fun kind hkind =>
          congrArg PlanEntry.file (projectFile_backend m m' s project hkind) }

/-- The library with a third class, and its classes in another order. -/
def branchModel : Model :=
  ⟨[⟨"Reader", [.attr ⟨"name", "text"⟩]⟩, ⟨"Branch", []⟩,
    ⟨"Book", [.attr ⟨"title", "text"⟩, .method ⟨"lend", "date", [⟨"to", "Reader"⟩]⟩]⟩]⟩

theorem local_lending :
    ∃ p p', (backendJob lendingModel {} "lib").plan = .ok p ∧
      (backendJob branchModel {} "lib").plan = .ok p' ∧
      p.block .backend 0 = p'.block .backend 2 := by
  obtain ⟨p, p', hp, hp', hlocal⟩ := classes_local {} "lib" .backend lendingModel branchModel
  refine ⟨p, p', hp, hp', hlocal.same 0 2 _ rfl rfl ?_⟩
  decide

end CrudStack
