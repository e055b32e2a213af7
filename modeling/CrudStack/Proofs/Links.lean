/-
# `CrudStack.Proofs.Links` — what router and shell say about the classes

Two files of a frontend list its classes: the router has an entry of five lines for each, the shell
a link of one line.  Both are repeated over the links of the project sheet, which stand for the
classes with attributes.  So the lists of both files are read off the model, class by class
(`router_lines`, `shell_lines`).

That some lines are all of their sort in a file is said by how they begin: no other line of the
template begins so, and a value cannot change how its line begins (`marked_linesOf`).
-/
import CrudStack.Proofs.Plan.ByKind
import CrudStack.Proofs.Template.Marked

namespace CrudStack

open Template

/-- The classes that the frontend shows, in the order of the model. -/
def Model.shown (m : Model) : List ClassDef := m.classes.filter ClassDef.hasAttributes

/-- The job that generates the frontend. -/
abbrev frontendJob (m : Model) (s : Settings) (project : String) : Job := ⟨m, s, .frontend, project⟩

/-! ## Files and skips of a frontend -/

theorem skips_component (c : ClassDef) : Job.skips c .component = !c.hasAttributes := by
  simp [Job.skips]

theorem filesOf_frontend (m : Model) (s : Settings) (project : String) {kind : ArtifactKind}
    (h : kind ∈ Mode.frontend.projectKinds) :
    (frontendJob m s project).fullPlan.filesOf kind =
      [(frontendJob m s project).projectFile kind] :=
  Job.filesOf_projectKind _ h

/-- The components of a frontend, in the order of the classes. -/
theorem filesOf_component (m : Model) (s : Settings) (project : String) :
    (frontendJob m s project).fullPlan.filesOf .component =
      m.shown.map fun c => (frontendJob m s project).classFile c .component := by
  have hkind : ArtifactKind.component ∈ Mode.frontend.classKinds := by decide
  rw [Job.filesOf_classKind _ hkind]
  simp only [skips_component, Bool.not_not, Model.shown]

/-- The skips of a frontend, in the order of the classes. -/
theorem skips_frontend (m : Model) (s : Settings) (project : String) :
    (frontendJob m s project).fullPlan.skips =
      (m.classes.filter fun c => !c.hasAttributes).map fun c =>
        (frontendJob m s project).classSkip c .component := by
  have hclass : ∀ c, ([ArtifactKind.component].filter (Job.skips c)).map
      ((frontendJob m s project).classSkip c) =
        (if !c.hasAttributes then some ((frontendJob m s project).classSkip c .component)
          else none).toList := by
    intro c
    rw [List.filter_singleton, skips_component]
    cases c.hasAttributes <;> rfl
  rw [Job.skips_fullPlan, ← Job.filterMap_ite, List.filterMap_eq_flatMap_toList]
  exact List.flatMap_congr fun c _ => hclass c

/-- After the files of the project a frontend has one entry for each class, in order. -/
theorem entries_frontend (m : Model) (s : Settings) (project : String) :
    (frontendJob m s project).fullPlan.entries =
      Mode.frontend.projectKinds.map
        (fun kind => .file ((frontendJob m s project).projectFile kind)) ++
      m.classes.map fun c =>
        if c.hasAttributes then .file ((frontendJob m s project).classFile c .component)
        else .skip ((frontendJob m s project).classSkip c .component) := by
  have hclass : ∀ c, (frontendJob m s project).classEntry c .component =
      if c.hasAttributes then .file ((frontendJob m s project).classFile c .component)
      else .skip ((frontendJob m s project).classSkip c .component) := by
    intro c
    unfold Job.classEntry
    rw [skips_component]
    cases c.hasAttributes <;> rfl
  have hclasses : (m.classes.flatMap fun c =>
      Mode.frontend.classKinds.map ((frontendJob m s project).classEntry c)) =
        m.classes.map fun c => (frontendJob m s project).classEntry c .component :=
    List.map_eq_flatMap.symm
  simp only [hclass] at hclasses
  rw [← hclasses]
  rfl

/-! ## Lines with a marker -/

theorem marked_linesOf {mode : Mode} {kind : ArtifactKind} {t : Template} {marker : String}
    {found : List Block} (ht : ofKind? mode kind = some t) (h : Picks marker t found)
    (data : Document) : marked marker (linesOf mode kind data) = expandBlocks data found := by
  rw [linesOf_eq ht, marked_expand h]

/-- A template with one line of a sort yields one such line. -/
theorem marked_line {mode : Mode} {kind : ArtifactKind} {t : Template} {marker : String}
    {pieces : List Piece} (ht : ofKind? mode kind = some t) (h : Picks marker t [.line pieces])
    (data : Document) : marked marker (linesOf mode kind data) = [fill data pieces] := by
  rw [marked_linesOf ht h, expandBlocks_line]

/-! ## The lines of a class -/

/-- The line of a router entry with its path. -/
def pathLine (route : String) : String := "    path: '/" ++ route ++ "',"

/-- The line of a router entry that imports a component. -/
def importLine (component : String) : String :=
  "    component: () => import('./components/" ++ component ++ ".vue'),"

/-- The entry of a class in the router. -/
def routerEntry (c : ClassDef) : List String :=
  ["  \x7b",
   pathLine (Naming.routeSegment c.name),
   "    name: '" ++ c.name ++ "',",
   importLine (Naming.componentName c.name),
   "  \x7d,"]

/-- The lines of the router before its entries. -/
def routerHead : List String :=
  ["import \x7b createRouter, createWebHistory \x7d from 'vue-router';", "", "const routes = ["]

/-- The lines of the router after its entries. -/
def routerTail : List String :=
  ["];", "", "export default createRouter(\x7b", "  history: createWebHistory(),", "  routes,",
   "\x7d);"]

/-- The line of the shell that links to a class. -/
def linkLine (c : ClassDef) : String :=
  "      <router-link class=\"me-3\" to=\"/" ++ Naming.routeSegment c.name ++ "\">" ++
    Naming.pluralLabel c.name ++ "</router-link>"

/-- What the router repeats. -/
def entryBlocks : List Block :=
  [.line ["  \x7b"],
   .line ["    path: '/", .slot "route_segment", "',"],
   .line ["    name: '", .slot "class_name", "',"],
   .line ["    component: () => import('./components/", .slot "component_name", ".vue'),"],
   .line ["  \x7d,"]]

/-- What the shell repeats. -/
def linkPieces : List Piece :=
  ["      <router-link class=\"me-3\" to=\"/", .slot "route_segment", "\">", .slot "plural_label",
    "</router-link>"]

section Slots

variable (c : ClassDef)

theorem slotText_link_class : slotText (LinkEntry.ofClass c).data "class_name" = c.name := rfl

theorem slotText_link_route :
    slotText (LinkEntry.ofClass c).data "route_segment" = Naming.routeSegment c.name := rfl

theorem slotText_link_label :
    slotText (LinkEntry.ofClass c).data "plural_label" = Naming.pluralLabel c.name := rfl

theorem slotText_link_component :
    slotText (LinkEntry.ofClass c).data "component_name" = Naming.componentName c.name := rfl

theorem fill_path : fill (LinkEntry.ofClass c).data
    ["    path: '/", .slot "route_segment", "',"] = pathLine (Naming.routeSegment c.name) := by
  unfold pathLine
  simp [fill, slotText_link_route, String.append_assoc]

theorem fill_import : fill (LinkEntry.ofClass c).data
    ["    component: () => import('./components/", .slot "component_name", ".vue'),"] =
      importLine (Naming.componentName c.name) := by
  unfold importLine
  simp [fill, slotText_link_component, String.append_assoc]

theorem fill_link : fill (LinkEntry.ofClass c).data linkPieces = linkLine c := by
  unfold linkPieces linkLine
  simp [fill, slotText_link_route, slotText_link_label, String.append_assoc]

theorem expand_entry : expandBlocks (LinkEntry.ofClass c).data entryBlocks = routerEntry c := by
  unfold entryBlocks routerEntry
  simp only [expandBlocks, expandBlock, fill_path, fill_import, List.append_nil, List.cons_append,
    List.nil_append]
  simp [fill, slotText_link_class, String.append_assoc]

end Slots

/-! ## The lists -/

section Lists

variable (m : Model) (s : Settings) (project : String)

/-- The links of the project sheet are those of the classes that are shown. -/
theorem elementsAt_classes :
    elementsAt (frontendJob m s project).projectSheet.data "classes" =
      m.shown.map fun c => (LinkEntry.ofClass c).data := by
  show ((m.classes.filter ClassDef.hasAttributes).map LinkEntry.ofClass).map LinkEntry.data = _
  rw [List.map_map]
  rfl

/-- A template that repeats one part over the classes yields that part for every class shown. -/
theorem expandBlocks_classes (before body after : List Block) :
    expandBlocks (frontendJob m s project).projectSheet.data
        (before ++ .each "classes" body :: after) =
      expandBlocks (frontendJob m s project).projectSheet.data before ++
        m.shown.flatMap (fun c => expandBlocks (LinkEntry.ofClass c).data body) ++
        expandBlocks (frontendJob m s project).projectSheet.data after := by
  rw [expandBlocks_append, expandBlocks, expandBlock, elementsAt_classes, List.flatMap_map,
    List.append_assoc]

theorem router_lines :
    (frontendJob m s project).projectLines .router =
      routerHead ++ m.shown.flatMap routerEntry ++ routerTail := by
  have h := expandBlocks_classes m s project
    (Frontend.router.blocks.take 3) entryBlocks (Frontend.router.blocks.drop 4)
  simp only [expand_entry] at h
  have hhead : ∀ data, expandBlocks data (Frontend.router.blocks.take 3) = routerHead := by
    intro data
    simp [Frontend.router, expandBlocks, expandBlock, fill, routerHead]
  have htail : ∀ data, expandBlocks data (Frontend.router.blocks.drop 4) = routerTail := by
    intro data
    simp [Frontend.router, expandBlocks, expandBlock, fill, routerTail]
  rw [hhead, htail] at h
  exact h

/-- The links stand in the navigation of the shell, and nothing else does. -/
theorem shell_lines :
    ∃ head tail, (frontendJob m s project).projectLines .shell =
      head ++ ["    <nav class=\"mb-4\">"] ++ m.shown.map linkLine ++ ["    </nav>"] ++ tail := by
  have h := expandBlocks_classes m s project
    (Frontend.shell.blocks.take 4) [.line linkPieces] (Frontend.shell.blocks.drop 5)
  simp only [expandBlocks_line, fill_link, ← List.map_eq_flatMap] at h
  have hnav : ∀ data, expandBlocks data (Frontend.shell.blocks.take 4) =
      expandBlocks data (Frontend.shell.blocks.take 3) ++ ["    <nav class=\"mb-4\">"] :=
    fun data => expandBlocks_append data (Frontend.shell.blocks.take 3) _
  have hend : ∀ data, expandBlocks data (Frontend.shell.blocks.drop 5) =
      ["    </nav>"] ++ expandBlocks data (Frontend.shell.blocks.drop 6) :=
    fun data => expandBlocks_append data [.line ["    </nav>"]] _
  rw [hnav, hend, ← List.append_assoc] at h
  exact ⟨_, _, h⟩

/-! ## All lines of a sort -/

theorem picks_path : Picks "    path: " Frontend.router
    [.each "classes" [.line ["    path: '/", .slot "route_segment", "',"]]] := by
  decide +kernel

theorem picks_import : Picks "    component: " Frontend.router
    [.each "classes" [.line ["    component: () => import('./components/",
      .slot "component_name", ".vue'),"]]] := by
  decide +kernel

theorem picks_link : Picks "      <router-link " Frontend.shell
    [.each "classes" [.line linkPieces]] := by
  decide +kernel

/-- The lines of a template that repeats one line over the classes. -/
theorem expandBlocks_classes_line (pieces : List Piece) :
    expandBlocks (frontendJob m s project).projectSheet.data [.each "classes" [.line pieces]] =
      m.shown.map fun c => fill (LinkEntry.ofClass c).data pieces := by
  rw [expandBlocks_each_line, elementsAt_classes, List.map_map]
  rfl

theorem marked_path :
    marked "    path: " ((frontendJob m s project).projectLines .router) =
      m.shown.map fun c => pathLine (Naming.routeSegment c.name) := by
  refine (marked_linesOf rfl picks_path _).trans ?_
  simp only [expandBlocks_classes_line, fill_path]

theorem marked_import :
    marked "    component: " ((frontendJob m s project).projectLines .router) =
      m.shown.map fun c => importLine (Naming.componentName c.name) := by
  refine (marked_linesOf rfl picks_import _).trans ?_
  simp only [expandBlocks_classes_line, fill_import]

theorem marked_link :
    marked "      <router-link " ((frontendJob m s project).projectLines .shell) =
      m.shown.map linkLine := by
  refine (marked_linesOf rfl picks_link _).trans ?_
  simp only [expandBlocks_classes_line, fill_link]

end Lists

end CrudStack
