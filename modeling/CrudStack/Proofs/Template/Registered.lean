/-
# `CrudStack.Proofs.Template.Registered` — the templates of a mode compile, and render as written

All sixteen templates are plain, so the registry of a mode always comes about, and what it renders
for a kind is what the template of the kind renders line by line: `Registry.ofMode` never fails
(`ofMode_eq_ok`), and `renderByLine` says the rest.

That the templates are plain is the one computation over their texts here.
-/
import CrudStack.Template.Catalog
import CrudStack.Proofs.Template.Reading

namespace CrudStack.Template

/-- The text of an artifact by the lines of its template, without compiling anything. -/
def renderByLine (mode : Mode) (kind : ArtifactKind) (data : Document) :
    Except RenderError String :=
  match ofKind? mode kind with
  | none => .error (.noTemplate mode kind)
  | some t => (t.render data).mapError (.fault mode kind)

theorem plain_sources (mode : Mode) :
    (sources mode).all (fun entry => isPlainBlocks entry.2.blocks) = true := by
  cases mode <;> decide +kernel

/-- A kind has a template among the sources of a mode just if it has one at all. -/
theorem lookup_sources (mode : Mode) (kind : ArtifactKind) :
    (sources mode).lookup kind = ofKind? mode kind := by
  cases mode <;> cases kind <;> rfl

theorem register_eq_ok (mode : Mode) {entry : ArtifactKind × Template}
    (h : isPlainBlocks entry.2.blocks = true) :
    ∃ c, register mode entry = .ok (entry.1, c) ∧
      ∀ data, c.render data = entry.2.render data := by
  obtain ⟨c, hread, hrender⟩ := render_ofText h
  refine ⟨c, ?_, hrender⟩
  rw [register, hread]

/-- Plain templates are compiled one by one, and a registry of them renders what they render. -/
theorem mapM_register (mode : Mode) : ∀ {entries : List (ArtifactKind × Template)},
    (∀ entry ∈ entries, isPlainBlocks entry.2.blocks = true) →
      ∃ templates, entries.mapM (register mode) = .ok templates ∧
        ∀ kind data, (Registry.mk mode templates).render kind data =
          match entries.lookup kind with
          | none => .error (.noTemplate mode kind)
          | some t => (t.render data).mapError (.fault mode kind)
  | [], _ => ⟨[], rfl, fun _ _ => rfl⟩
  | (own, t) :: entries, h => by
      obtain ⟨c, hfirst, hrender⟩ := register_eq_ok mode (h (own, t) List.mem_cons_self)
      obtain ⟨templates, hrest, hlookup⟩ :=
        mapM_register mode fun e he => h e (List.mem_cons_of_mem _ he)
      refine ⟨(own, c) :: templates, ?_, fun kind data => ?_⟩
      · rw [List.mapM_cons, hfirst, hrest]
        rfl
      · have hrest := hlookup kind data
        simp only [Registry.render, List.lookup_cons] at hrest ⊢
        cases kind == own with
        | true => simp only [hrender]
        | false => exact hrest

theorem ofMode_eq_ok (mode : Mode) :
    ∃ r, Registry.ofMode mode = .ok r ∧ ∀ kind data, r.render kind data =
      renderByLine mode kind data := by
  obtain ⟨templates, hcompile, hrender⟩ :=
    mapM_register mode (List.all_eq_true.mp (plain_sources mode))
  refine ⟨⟨mode, templates⟩, ?_, fun kind data => ?_⟩
  · rw [Registry.ofMode, hcompile]
    rfl
  · rw [hrender, lookup_sources]
    rfl

theorem renderKind_eq (mode : Mode) (kind : ArtifactKind) (data : Document) :
    renderKind mode kind data = renderByLine mode kind data := by
  obtain ⟨r, hmode, hrender⟩ := ofMode_eq_ok mode
  rw [renderKind, hmode]
  exact hrender kind data

end CrudStack.Template
