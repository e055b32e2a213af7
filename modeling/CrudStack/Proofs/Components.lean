/-
# `CrudStack.Proofs.Components` — no component is missing and none is left over

Which classes have a component is decided twice: the links of the project sheet are filtered, and
the plan passes classes over.  How a component is called is said twice as well: in the import of the
router and in the path of the file.  Both agree for every list of classes (`components_linked`): the
router imports the files of the components, one by one and in order, the shell has a link for each,
and every class has either its component or its skip.

A component lies in `src/components` below the root of the frontend, whatever the project is called
(`relativePath_component`).  There is one exception, and it is no slip: names are taken as they are,
and a name that starts with a slash makes a path that starts at the root (`componentPath`).
-/
import CrudStack.Proofs.Links
import CrudStack.Proofs.Path.Below
import CrudStack.Proofs.Text.LineBreak

namespace CrudStack

open Template

/-! ## Where components lie -/

/-- The path of a component from the root of the project. -/
def componentPath (component : String) : Path :=
  if (⟨component⟩ : Path).isAbsolute then ⟨component ++ ".vue"⟩
  else ⟨"src/components/" ++ component ++ ".vue"⟩

/-- The root of a frontend ends in a directory of its own. -/
theorem frontend_root (destination : Path) (project : String) :
    (Layout.frontend destination project).root.needsSlash = true ∧
      (Layout.frontend destination project).root.parts ≠ [] := by
  have hname : (⟨"frontend"⟩ : Path).isAbsolute = false := by decide
  have hown : ("frontend".toList.splitOn '/').flatMap Path.pieceParts ≠ [] := by
    decide
  refine ⟨Path.needsSlash_child _ (by decide), ?_⟩
  show ((destination.child project).child "frontend").parts ≠ []
  by_cases hempty : (destination.child project).text = ""
  · rw [Path.child_of_empty hempty]
    decide
  · rw [Path.parts_child hempty hname]
    exact List.append_ne_nil_of_right_ne_nil _ hown

theorem frontend_components (destination : Path) (project : String) :
    (Layout.frontend destination project).directory .components =
      ((Layout.frontend destination project).root.child "src").child "components" := by
  have hroot : (Role.components == Role.root) = false := by decide
  have hsources : (Role.components == Role.frontendSources) = false := by decide
  simp [Layout.directory, Layout.frontend, List.lookup_cons, hroot, hsources]

/-- Components lie below `src/components`, whatever the project is called. -/
theorem relativePath_component (m : Model) (s : Settings) (project fileName : String) :
    (frontendJob m s project).relativePath .component fileName =
      (⟨"src/components"⟩ : Path).child fileName := by
  obtain ⟨hslash, hparts⟩ := frontend_root ⟨""⟩ project
  have hsrc : (⟨"src"⟩ : Path).needsSlash = true ∧ (⟨"src"⟩ : Path).isAbsolute = false := by
    decide
  have hcomponents : (⟨"components"⟩ : Path).isAbsolute = false := by decide
  have hdirectory := frontend_components ⟨""⟩ project
  rw [Path.child_of_needsSlash (Path.needsSlash_child _ hsrc.1) hcomponents,
    Path.child_of_needsSlash hslash hsrc.2, String.append_assoc, String.append_assoc] at hdirectory
  have hrest : Path.unsplit .plain (Path.trimEnd
      ((("src" ++ ("/" ++ "components")).toList.splitOn '/').dropWhile Path.isTrivial)) =
        ⟨"src/components"⟩ := by
    decide
  have hrelative := Path.relativeTo?_below hparts ("src" ++ ("/" ++ "components"))
  rw [hrest] at hrelative
  have hlocate : (frontendJob m s project).relativePath .component fileName =
      (Layout.frontend ⟨""⟩ project).locate .components fileName := rfl
  rw [hlocate, Layout.locate, hdirectory, hrelative]
  rfl

/-- A component that is called by a longer name than its class starts with a slash if the class
does. -/
theorem isAbsolute_append (name ending : String) (h : name ≠ "") :
    (⟨name ++ ending⟩ : Path).isAbsolute = (⟨name⟩ : Path).isAbsolute := by
  unfold Path.isAbsolute
  have hname : name.toList ≠ [] := fun e => h (String.toList_eq_nil_iff.mp e)
  rw [String.toList_append, List.head?_append_of_ne_nil _ hname]

theorem child_components {component : String} (h : component ≠ "") :
    (⟨"src/components"⟩ : Path).child (component ++ ".vue") = componentPath component := by
  unfold componentPath
  cases habsolute : (⟨component⟩ : Path).isAbsolute with
  | true =>
      rw [Path.child, Path.join, isAbsolute_append component ".vue" h, habsolute]
      rfl
  | false =>
      rw [Path.child_of_needsSlash (by decide)
        ((isAbsolute_append component ".vue" h).trans habsolute)]
      simp [← String.append_assoc]

theorem path_component (m : Model) (s : Settings) (project : String) (c : ClassDef) :
    ((frontendJob m s project).classFile c .component).path =
      componentPath (Naming.componentName c.name) := by
  have hne : Naming.componentName c.name ≠ "" := by
    unfold Naming.componentName
    simp
  rw [← child_components hne]
  exact relativePath_component m s project _

/-! ## The router, read line by line -/

theorem newline_notMem_entry {c : ClassDef} (h : '\n' ∉ c.name.toList) {line : String}
    (hline : line ∈ routerEntry c) : '\n' ∉ line.toList := by
  have hroute : '\n' ∉ (Naming.routeSegment c.name).toList := Text.newline_notMem_lower h
  simp only [routerEntry, List.mem_cons, List.not_mem_nil, or_false] at hline
  rcases hline with rfl | rfl | rfl | rfl | rfl
  · decide
  · unfold pathLine
    simp [hroute]
  · simp [h]
  · unfold importLine Naming.componentName
    simp [h]
  · decide

theorem newline_notMem_router {classes : List ClassDef}
    (h : ∀ c ∈ classes, '\n' ∉ c.name.toList) {line : String}
    (hline : line ∈ routerHead ++ classes.flatMap routerEntry ++ routerTail) :
    '\n' ∉ line.toList := by
  have hfixed : ∀ l ∈ routerHead ++ routerTail, '\n' ∉ l.toList := by decide
  rcases List.mem_append.mp hline with hline | htail
  · rcases List.mem_append.mp hline with hhead | hentries
    · exact hfixed line (List.mem_append_left _ hhead)
    · obtain ⟨c, hc, hentry⟩ := List.mem_flatMap.mp hentries
      exact newline_notMem_entry (h c hc) hentry
  · exact hfixed line (List.mem_append_right _ htail)

/-- The lines with a marker in a text that was put together from lines are those that were marked
before. -/
theorem marked_textLines {marker : String} {lines : List String}
    (h : ∀ line ∈ lines, '\n' ∉ line.toList) (hmarker : opensWith marker "" = false) :
    marked marker (textLines (joinLines lines)) = marked marker lines := by
  rw [textLines_joinLines h, marked, List.filter_append]
  simp [hmarker, marked]

/-! ## Router, files and skips -/

/-- What the plan of a frontend says about its components. -/
structure ComponentsLinked (m : Model) (s : Settings) (project : String) (p : Plan) : Prop where
  /-- After the files of the project comes every class once, in order, with its component or with
  its skip. -/
  entries : p.entries =
    Mode.frontend.projectKinds.map
      (fun kind => .file ((frontendJob m s project).projectFile kind)) ++
      m.classes.map fun c =>
        if c.hasAttributes then .file ((frontendJob m s project).classFile c .component)
        else .skip ((frontendJob m s project).classSkip c .component)
  /-- The components are those of the classes with attributes. -/
  components : p.filesOf .component =
    m.shown.map fun c => (frontendJob m s project).classFile c .component
  /-- The skips are those of the other classes. -/
  skips : p.skips = (m.classes.filter fun c => !c.hasAttributes).map fun c =>
    (frontendJob m s project).classSkip c .component
  /-- Each component lies where its name says. -/
  paths : (p.filesOf .component).map (·.path) =
    m.shown.map fun c => componentPath (Naming.componentName c.name)
  routerFile : p.filesOf .router = [(frontendJob m s project).projectFile .router]
  /-- The whole text of the router: one entry for each component. -/
  routerText : ((frontendJob m s project).projectFile .router).content =
    joinLines (routerHead ++ m.shown.flatMap routerEntry ++ routerTail)
  /-- The imports of the router are the names of the components, in order. -/
  imports : marked "    component: " (routerHead ++ m.shown.flatMap routerEntry ++ routerTail) =
    m.shown.map fun c => importLine (Naming.componentName c.name)
  /-- Read off the text itself, line by line, they are the same, unless a name breaks the line. -/
  importsRead : (∀ c ∈ m.shown, '\n' ∉ c.name.toList) →
    marked "    component: " (textLines ((frontendJob m s project).projectFile .router).content) =
      m.shown.map fun c => importLine (Naming.componentName c.name)
  shellFile : p.filesOf .shell = [(frontendJob m s project).projectFile .shell]
  /-- The navigation of the shell has one link for each component, in order, and there is no link
  outside it. -/
  links : ∃ lines head tail, ((frontendJob m s project).projectFile .shell).content =
    joinLines lines ∧
      lines =
        head ++ ["    <nav class=\"mb-4\">"] ++ m.shown.map linkLine ++ ["    </nav>"] ++ tail ∧
      marked "      <router-link " lines = m.shown.map linkLine

/-- The router imports the components one by one, the shell links to them one by one, and each class
has its component or its skip, whatever the classes of the model are and whatever they are
called. -/
theorem components_linked (m : Model) (s : Settings) (project : String) :
    ∃ p, (frontendJob m s project).plan = .ok p ∧ ComponentsLinked m s project p := by
  refine ⟨_, Job.plan_eq_ok _, ?_⟩
  obtain ⟨head, tail, hshell⟩ := shell_lines m s project
  have hcontent : ∀ kind, ((frontendJob m s project).projectFile kind).content =
      joinLines ((frontendJob m s project).projectLines kind) := fun _ => rfl
  exact
    { entries := entries_frontend m s project
      components := filesOf_component m s project
      skips := skips_frontend m s project
      paths := by
        rw [filesOf_component, List.map_map]
        exact List.map_congr_left fun c _ => path_component m s project c
      routerFile := filesOf_frontend m s project (by decide)
      routerText := by rw [hcontent, router_lines]
      imports := by rw [← router_lines m s project, marked_import]
      importsRead := fun hnames => by
        rw [hcontent, router_lines, marked_textLines (fun _ h => newline_notMem_router hnames h)
          (by decide +kernel), ← router_lines m s project, marked_import]
      shellFile := filesOf_frontend m s project (by decide)
      links := ⟨_, head, tail, hcontent .shell, hshell, marked_link m s project⟩ }

/-- A class whose name starts with a slash takes its component out of `src/components`. -/
theorem component_outside :
    ¬∀ (m : Model) (s : Settings) (project : String) (p : Plan),
      (frontendJob m s project).plan = .ok p → ∀ f ∈ p.filesOf .component,
        ∃ component, f.path = ⟨"src/components/" ++ component ++ ".vue"⟩ := by
  intro h
  have hfile := h ⟨[⟨"/x", [.attr ⟨"a", "text"⟩]⟩]⟩ {} "shop" _ (Job.plan_eq_ok _)
    ((frontendJob _ _ _).classFile ⟨"/x", [.attr ⟨"a", "text"⟩]⟩ .component)
    (by rw [filesOf_component]; exact List.mem_singleton_self _)
  obtain ⟨component, hpath⟩ := hfile
  rw [path_component] at hpath
  have hoccurs : (componentPath (Naming.componentName "/x")).text.toList.head? = some '/' := by
    decide +kernel
  rw [hpath] at hoccurs
  simp at hoccurs

end CrudStack
