/-
# `CrudStack.Proofs.Naming.Distinct` — routes and tables of different classes

The route of a class is its name in lower case, the table its words in lower case.  Neither keeps
all of the name: the route forgets the case and the table, in part, where the words were cut.  So
classes with different names may meet on a route (`XRay` and `xray`) or in a table (`XRay` and
`X_Ray`), and nothing in a plan keeps them apart (`endpoints_meet`).

Main statement: they meet nowhere else.  Routes are distinct just if the names differ in a letter
even in lower case, tables just if they differ in a word even in lower case, and paths of the router
are distinct where routes are.  Names that differ in more than case and underscores never meet
(`endpoints_distinct`).
-/
import CrudStack.Proofs.Naming.Words
import CrudStack.Proofs.Routes

namespace CrudStack

open Template

namespace Naming

open Text

/-! ## Routes -/

/-- The characters of a text in lower case, each at its place. -/
def imagesAfter (before : List Char) : List Char → List (List Char)
  | [] => []
  | c :: rest => imageAt before c rest :: imagesAfter (c :: before) rest

/-- The letters of a name in lower case. -/
def loweredLetters (name : String) : List (List Char) := imagesAfter [] name.toList

theorem flatten_imagesAfter (before cs : List Char) :
    (imagesAfter before cs).flatten = lowerAfter before cs := by
  induction cs generalizing before with
  | nil => rfl
  | cons c rest ih => rw [imagesAfter, List.flatten_cons, ih, lowerAfter_cons]

theorem toList_routeSegment (name : String) :
    (routeSegment name).toList = (loweredLetters name).flatten := by
  rw [loweredLetters, flatten_imagesAfter, routeSegment, lower, String.toList_ofList]
  rfl

/-- A letter, and the dot that may come with it. -/
def IsLetter (g : List Char) : Prop :=
  ∃ x, x ≠ combiningDot ∧ (g = [x] ∨ g = [x, combiningDot])

theorem isLetter_imageAt (before : List Char) {c : Char} (rest : List Char)
    (h : isAlphanumeric c = true ∨ c = '_') : IsLetter (imageAt before c rest) := by
  rcases imageAt_cases before c rest with himage | ⟨-, x, hx, himage⟩
  · refine ⟨c, ?_, .inl himage⟩
    rintro rfl
    exact absurd h (by decide +kernel)
  · refine ⟨x, ?_, himage⟩
    rintro rfl
    exact absurd hx.mark (by decide)

theorem isLetter_imagesAfter {cs : List Char} (h : ∀ c ∈ cs, isAlphanumeric c = true ∨ c = '_')
    (before : List Char) : ∀ g ∈ imagesAfter before cs, IsLetter g := by
  induction cs generalizing before with
  | nil => exact fun _ hg => nomatch hg
  | cons c rest ih =>
      rw [List.forall_mem_cons] at h
      exact List.forall_mem_cons.mpr ⟨isLetter_imageAt before rest h.1, ih h.2 (c :: before)⟩

theorem flatten_ne_dot {gs : List (List Char)} (h : ∀ g ∈ gs, IsLetter g) (more : List Char) :
    gs.flatten ≠ combiningDot :: more := by
  intro hflatten
  cases gs with
  | nil => cases hflatten
  | cons g gs =>
      obtain ⟨x, hx, rfl | rfl⟩ := h g List.mem_cons_self
      · exact hx (List.cons.inj hflatten).1
      · exact hx (List.cons.inj hflatten).1

/-- The dots tell where a letter ends. -/
theorem flatten_inj {gs hs : List (List Char)} (hg : ∀ g ∈ gs, IsLetter g)
    (hh : ∀ h ∈ hs, IsLetter h) (heq : gs.flatten = hs.flatten) : gs = hs := by
  induction gs generalizing hs with
  | nil =>
      cases hs with
      | nil => rfl
      | cons h hs => obtain ⟨x, -, rfl | rfl⟩ := hh h List.mem_cons_self <;> cases heq
  | cons g gs ih =>
      rw [List.forall_mem_cons] at hg
      obtain ⟨x, -, hx⟩ := hg.1
      cases hs with
      | nil => obtain rfl | rfl := hx <;> cases heq
      | cons h hs =>
          rw [List.forall_mem_cons] at hh
          obtain ⟨y, -, hy⟩ := hh.1
          obtain rfl | rfl := hx <;> obtain rfl | rfl := hy <;>
            obtain ⟨rfl, hrest⟩ := List.cons.inj heq
          · rw [ih hg.2 hh.2 hrest]
          · exact (flatten_ne_dot hg.2 _ hrest).elim
          · exact (flatten_ne_dot hh.2 _ hrest.symm).elim
          · rw [ih hg.2 hh.2 (List.cons.inj hrest).2]

/-- Two names are given the same route just if they have the same letters in lower case. -/
theorem routeSegment_eq_iff {v w : String} (hv : IsIdentifier v) (hw : IsIdentifier w) :
    routeSegment v = routeSegment w ↔ loweredLetters v = loweredLetters w := by
  rw [← String.toList_inj, toList_routeSegment, toList_routeSegment]
  refine ⟨flatten_inj (isLetter_imagesAfter hv.letters []) (isLetter_imagesAfter hw.letters []), ?_⟩
  exact congrArg List.flatten

/-! ## What routes and tables keep -/

/-- A letter of lower case without the form that a sigma takes at the end of a word. -/
def plainLetter (c : Char) : Char := if c = 'ς' then 'σ' else c

/-- A text without its underscores. -/
def bare (cs : List Char) : List Char := (cs.filter (· ≠ '_')).map plainLetter

/-- What is left of a text when case and underscores are ignored. -/
def coreOf (cs : List Char) : List Char := cs.flatMap fun c => bare (lowerChar c)

/-- What is left of a name when case and underscores are ignored. -/
def core (name : String) : List Char := coreOf name.toList

theorem bare_append (v w : List Char) : bare (v ++ w) = bare v ++ bare w := by
  rw [bare, List.filter_append, List.map_append, bare, bare]

/-- The place of a letter does not show in what is left of it. -/
theorem bare_imageAt (before : List Char) (c : Char) (rest : List Char) :
    bare (imageAt before c rest) = bare (lowerChar c) := by
  unfold imageAt
  split
  · next hc =>
      have hsigma : bare (lowerChar 'Σ') = ['σ'] ∧ bare ['ς'] = ['σ'] ∧ bare ['σ'] = ['σ'] := by
        decide
      rw [hc, hsigma.1]
      split
      · exact hsigma.2.1
      · exact hsigma.2.2
  · rfl

theorem bare_lowerAfter (before cs : List Char) : bare (lowerAfter before cs) = coreOf cs := by
  induction cs generalizing before with
  | nil => rfl
  | cons c rest ih =>
      rw [lowerAfter_cons, bare_append, bare_imageAt, ih]
      rfl

theorem bare_routeSegment (name : String) : bare (routeSegment name).toList = core name := by
  rw [routeSegment, lower, String.toList_ofList]
  exact bare_lowerAfter [] name.toList

theorem bare_intercalate : ∀ ws : List (List Char), bare (['_'].intercalate ws) = ws.flatMap bare
  | [] => rfl
  | [w] => by rw [List.intercalate_singleton, List.flatMap_singleton]
  | w :: v :: more => by
      have hscore : bare ['_'] = [] := by decide
      rw [List.intercalate_cons_cons, bare_append, bare_append, hscore, List.append_nil,
        bare_intercalate (v :: more)]
      rfl

theorem coreOf_append (v w : List Char) : coreOf (v ++ w) = coreOf v ++ coreOf w :=
  List.flatMap_append

/-- The words keep everything but the separators between them. -/
theorem coreOf_wordsFrom {gs : List (List Char)} (h : ∀ g ∈ gs, isSeparator g = true → g = ['_'])
    (word : List Char) : coreOf (wordsFrom word gs).flatten = coreOf (word ++ gs.flatten) := by
  induction gs generalizing word with
  | nil => rfl
  | cons g rest ih =>
      rw [List.forall_mem_cons] at h
      unfold wordsFrom
      split
      · next hseparator =>
          have hscore : coreOf ['_'] = [] := by decide
          rw [List.flatten_cons, List.flatten_cons, coreOf_append, ih h.2, List.nil_append,
            h.1 hseparator, coreOf_append, coreOf_append, hscore, List.nil_append]
      · split
        · rw [List.flatten_cons, List.flatten_cons, coreOf_append, ih h.2, List.nil_append,
            ← List.append_assoc, ← coreOf_append]
        · rw [ih h.2, List.flatten_cons, List.append_assoc]

theorem bare_tableName {name : String} (h : IsIdentifier name) :
    bare (tableName name).toList = core name := by
  have hseparator : ∀ g ∈ clusters name.toList, isSeparator g = true → g = ['_'] := by
    intro g hg hseparator
    have hmem : ∀ c ∈ g, c ∈ name.toList := by
      intro c hc
      rw [← flatten_clusters name.toList]
      exact List.mem_flatten_of_mem hg hc
    simp only [isSeparator, Bool.or_eq_true, decide_eq_true_eq] at hseparator
    rcases hseparator with (rfl | rfl) | rfl
    · rfl
    · exact (h.notMem (by decide +kernel) (by decide) (hmem '-' (List.mem_singleton_self _))).elim
    · exact (h.space (hmem ' ' (List.mem_singleton_self _))).elim
  have hlowered :
      ∀ ws : List (List Char), (ws.map lowerChars).flatMap bare = coreOf ws.flatten := by
    intro ws
    induction ws with
    | nil => rfl
    | cons w ws ih =>
        rw [List.map_cons, List.flatMap_cons, ih, lowerChars, bare_lowerAfter, List.flatten_cons,
          coreOf_append]
  rw [toList_tableName, bare_intercalate, loweredWords, hlowered, words,
    coreOf_wordsFrom hseparator, List.nil_append, flatten_clusters]
  rfl

end Naming

/-! ## Classes of a model -/

/-- The line of an entity that names its table. -/
def tableLine (table : String) : String := "@Table(name = \"" ++ table ++ "\")"

theorem picks_table : Picks "@Table(" Backend.entity
    [.line ["@Table(name = \"", .slot "table_name", "\")"]] := by
  decide

theorem marked_table (m : Model) (s : Settings) (project : String) (c : ClassDef) :
    marked "@Table(" ((backendJob m s project).classLines c .entity) =
      [tableLine (Naming.tableName c.name)] := by
  have htable : slotText ((backendJob m s project).classSheet c).data "table_name" =
      Naming.tableName c.name := rfl
  refine (marked_line rfl picks_table _).trans ?_
  unfold tableLine
  simp [fill, htable, String.append_assoc]

/-- Values are distinct just if what tells them apart is. -/
theorem nodup_map_iff {α β γ : Type} {f : α → β} {g : α → γ} {l : List α}
    (h : ∀ a ∈ l, ∀ b ∈ l, f a = f b ↔ g a = g b) :
    (l.map f).Nodup ↔ l.Pairwise fun a b => g a ≠ g b := by
  rw [List.Nodup, List.pairwise_map]
  exact List.Pairwise.iff_of_mem fun ha hb => not_congr (h _ ha _ hb)

/-- Where routes and tables stand in the plans of backend and frontend, and when they are
distinct. -/
structure EndpointsDistinct (m : Model) (s : Settings) (project : String) (back front : Plan) :
    Prop where
  controllers : back.filesOf .controller =
    m.classes.map fun c => (backendJob m s project).classFile c .controller
  entities : back.filesOf .entity =
    m.classes.map fun c => (backendJob m s project).classFile c .entity
  routerFile : front.filesOf .router = [(frontendJob m s project).projectFile .router]
  mapping : ∀ c, Shows ((backendJob m s project).classFile c .controller).content
    ((backendJob m s project).classLines c .controller) "@RequestMapping("
    [mappingLine (Naming.routeSegment c.name)]
  table : ∀ c, Shows ((backendJob m s project).classFile c .entity).content
    ((backendJob m s project).classLines c .entity) "@Table("
    [tableLine (Naming.tableName c.name)]
  paths : Shows ((frontendJob m s project).projectFile .router).content
    ((frontendJob m s project).projectLines .router) "    path: "
    (m.shown.map fun c => pathLine (Naming.routeSegment c.name))
  routes_iff : (m.classes.map fun c => Naming.routeSegment c.name).Nodup ↔
    m.classes.Pairwise fun c d => Naming.loweredLetters c.name ≠ Naming.loweredLetters d.name
  tables_iff : (m.classes.map fun c => Naming.tableName c.name).Nodup ↔
    m.classes.Pairwise fun c d => Naming.loweredWords c.name ≠ Naming.loweredWords d.name
  /-- The router has no path twice if no route is there twice. -/
  paths_nodup : (m.classes.map fun c => Naming.routeSegment c.name).Nodup →
    (m.shown.map fun c => Naming.routeSegment c.name).Nodup
  /-- Names that differ in more than case and underscores never meet. -/
  cores : (m.classes.Pairwise fun c d => Naming.core c.name ≠ Naming.core d.name) →
    (m.classes.map fun c => Naming.routeSegment c.name).Nodup ∧
      (m.classes.map fun c => Naming.tableName c.name).Nodup

/-- In the plans for a model whose classes are called by identifiers, classes meet on a route or in
a table just where their names have the same letters, or the same words, in lower case. -/
theorem endpoints_distinct (m : Model) (s : Settings) (project : String)
    (h : ∀ c ∈ m.classes, IsIdentifier c.name) :
    ∃ back front, (backendJob m s project).plan = .ok back ∧
      (frontendJob m s project).plan = .ok front ∧ EndpointsDistinct m s project back front := by
  refine ⟨_, _, Job.plan_eq_ok _, Job.plan_eq_ok _, ?_⟩
  exact
    { controllers := filesOf_backend m s project (by decide)
      entities := filesOf_backend m s project (by decide)
      routerFile := filesOf_frontend m s project (by decide)
      mapping := fun c => shows_classFile (marked_mapping m s project c)
      table := fun c => shows_classFile (marked_table m s project c)
      paths := shows_projectFile (marked_path m s project)
      routes_iff := nodup_map_iff fun c hc d hd => Naming.routeSegment_eq_iff (h c hc) (h d hd)
      tables_iff := nodup_map_iff fun c hc d hd => Naming.tableName_eq_iff (h c hc) (h d hd)
      paths_nodup := fun hroutes => hroutes.sublist (List.filter_sublist.map _)
      cores := by
        intro hcores
        constructor
        · refine List.pairwise_map.mpr (hcores.imp fun hcore hroute => hcore ?_)
          rw [← Naming.bare_routeSegment, hroute, Naming.bare_routeSegment]
        · refine List.pairwise_map.mpr (hcores.imp_of_mem fun hc hd hcore htable => hcore ?_)
          rw [← Naming.bare_tableName (h _ hc), htable, Naming.bare_tableName (h _ hd)] }

/-- Three classes on two routes and in two tables. -/
def meetingModel : Model := ⟨[⟨"XRay", []⟩, ⟨"X_Ray", []⟩, ⟨"xray", []⟩]⟩

/-- Different names are not enough for different routes, nor for different tables. -/
theorem endpoints_meet :
    (¬ ∀ (m : Model) (s : Settings) (project : String), (∀ c ∈ m.classes, IsIdentifier c.name) →
      (m.classes.map ClassDef.name).Nodup →
        (m.classes.map fun c =>
          marked "@RequestMapping(" ((backendJob m s project).classLines c .controller)).Nodup) ∧
    ¬ ∀ (m : Model) (s : Settings) (project : String), (∀ c ∈ m.classes, IsIdentifier c.name) →
      (m.classes.map ClassDef.name).Nodup →
        (m.classes.map fun c =>
          marked "@Table(" ((backendJob m s project).classLines c .entity)).Nodup := by
  have hnames : ∀ c ∈ meetingModel.classes, IsIdentifier c.name := by decide +kernel
  have hdistinct : (meetingModel.classes.map ClassDef.name).Nodup := by decide
  constructor
  · intro h
    have hroute : Naming.routeSegment "XRay" = Naming.routeSegment "xray" := by decide +kernel
    have hroutes := h meetingModel {} "clinic" hnames hdistinct
    simp [marked_mapping, meetingModel, hroute] at hroutes
  · intro h
    have htable : Naming.tableName "XRay" = Naming.tableName "X_Ray" := by decide +kernel
    have htables := h meetingModel {} "clinic" hnames hdistinct
    simp [marked_table, meetingModel, htable] at htables

/-- Pets and their owners, told apart by more than case. -/
def clinicModel : Model :=
  ⟨[⟨"Pet", [.attr ⟨"name", "string"⟩]⟩, ⟨"Owner", []⟩, ⟨"PetOwner", [.attr ⟨"since", "date"⟩]⟩]⟩

theorem endpoints_of_clinic :
    (∀ c ∈ clinicModel.classes, IsIdentifier c.name) ∧
      (clinicModel.classes.Pairwise fun c d => Naming.core c.name ≠ Naming.core d.name) ∧
        ∃ back front, (backendJob clinicModel {} "clinic").plan = .ok back ∧
          (frontendJob clinicModel {} "clinic").plan = .ok front ∧
            EndpointsDistinct clinicModel {} "clinic" back front := by
  have hnames : ∀ c ∈ clinicModel.classes, IsIdentifier c.name := by decide +kernel
  have hcores :
      clinicModel.classes.Pairwise fun c d => Naming.core c.name ≠ Naming.core d.name := by
    decide +kernel
  exact ⟨hnames, hcores, endpoints_distinct clinicModel {} "clinic" hnames⟩

end CrudStack
