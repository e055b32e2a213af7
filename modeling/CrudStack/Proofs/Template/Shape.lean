/-
# `CrudStack.Proofs.Template.Shape` — templates that fit the shape of their data

Whether data supplies a template depends on its names, its flags and its nesting only.  A `Shape`
keeps just these, `Conforms` says that data has a shape, and `fitsAll` checks a template against a
shape; the check is a computation, so that each concrete template is settled by running it.

Main statement: data of a shape supplies every template that fits the shape (`suppliesAll_of_fits`).
A condition is checked in both of its parts: which one is kept is up to the data.
-/
import CrudStack.Proofs.Template.Expansion

namespace CrudStack.Template

/-- Names and nesting of data. -/
inductive Shape where
  /-- Anything that can be inserted. -/
  | value
  /-- A truth value. -/
  | flag
  /-- A list, with the shape of its elements. -/
  | list (item : Shape)
  /-- A table, with its names. -/
  | table (entries : List (String × Shape))
  deriving Repr

mutual

/-- Data has a shape. -/
def Conforms : Shape → Document → Prop
  | .value, _ => True
  | .flag, .bool _ => True
  | .list item, .list items => ∀ d ∈ items, Conforms item d
  | .table shapes, .table entries => ConformsEntries shapes entries
  | _, _ => False

/-- Entries have the names and shapes of a table, in order. -/
def ConformsEntries : List (String × Shape) → List (String × Document) → Prop
  | [], [] => True
  | (name, shape) :: shapes, (key, d) :: entries =>
    (key = name ∧ Conforms shape d) ∧ ConformsEntries shapes entries
  | _, _ => False

end

/-! ## Fitting -/

/-- The shape of what a name stands for; the last one if a table has several. -/
def Shape.at? : Shape → String → Option Shape
  | .table entries, name => entries.reverse.lookup name
  | _, _ => none

/-- A slot asks for a name of the shape. -/
def fitsPiece (shape : Shape) : Piece → Bool
  | .text _ => true
  | .slot name => name = selfName || (shape.at? name).isSome

mutual

/-- A block asks for names of the shape only. -/
def fits (shape : Shape) : Block → Bool
  | .line pieces => pieces.all (fitsPiece shape)
  | .each name body =>
    match shape.at? name with
    | some (.list item) => fitsAll item body
    | _ => false
  | .cond name yes no =>
    match shape.at? name with
    | some .flag => fitsAll shape yes && fitsAll shape no
    | _ => false

/-- Several blocks ask for names of the shape only. -/
def fitsAll (shape : Shape) : List Block → Bool
  | [] => true
  | block :: rest => fits shape block && fitsAll shape rest

end

/-! ## Look-up -/

theorem conformsEntries_append : ∀ {shapes shapes' : List (String × Shape)}
    {entries entries' : List (String × Document)},
    ConformsEntries shapes entries → ConformsEntries shapes' entries' →
      ConformsEntries (shapes ++ shapes') (entries ++ entries')
  | [], _, [], _, _, h' => h'
  | (_, _) :: _, _, (_, _) :: _, _, h, h' => ⟨h.1, conformsEntries_append h.2 h'⟩
  | [], _, _ :: _, _, h, _ => h.elim
  | _ :: _, _, [], _, h, _ => h.elim

theorem conformsEntries_reverse : ∀ {shapes : List (String × Shape)}
    {entries : List (String × Document)},
    ConformsEntries shapes entries → ConformsEntries shapes.reverse entries.reverse
  | [], [], _ => trivial
  | (_, _) :: _, (_, _) :: _, h => by
      rw [List.reverse_cons, List.reverse_cons]
      exact conformsEntries_append (conformsEntries_reverse h.2) ⟨h.1, trivial⟩
  | [], _ :: _, h => h.elim
  | _ :: _, [], h => h.elim

theorem lookup_of_conformsEntries {name : String} {shape : Shape} :
    ∀ {shapes : List (String × Shape)} {entries : List (String × Document)},
      ConformsEntries shapes entries → shapes.lookup name = some shape →
        ∃ d, entries.lookup name = some d ∧ Conforms shape d
  | [], [], _, hl => by simp at hl
  | (n, s) :: shapes, (k, d) :: entries, h, hl => by
      obtain ⟨⟨hk, hd⟩, hrest⟩ := h
      subst hk
      by_cases hn : name = k
      · subst hn
        simp only [List.lookup_cons_self, Option.some.injEq] at hl
        subst hl
        exact ⟨d, List.lookup_cons_self, hd⟩
      · have hne : (name == k) = false := by simpa using hn
        rw [List.lookup_cons, hne] at hl ⊢
        exact lookup_of_conformsEntries hrest hl
  | [], _ :: _, h, _ => h.elim
  | _ :: _, [], h, _ => h.elim

theorem entryAt_of_conforms {shape sub : Shape} {data : Document} {name : String}
    (h : Conforms shape data) (hname : shape.at? name = some sub) :
    ∃ d, entryAt data name = some d ∧ Conforms sub d := by
  match shape, data, h with
  | .table shapes, .table entries, h =>
      obtain ⟨d, hd, hsub⟩ :=
        lookup_of_conformsEntries (conformsEntries_reverse h) hname
      exact ⟨d, entryAt_eq_some_iff.mpr (by simp only [valueOf, hd]), hsub⟩
  | .value, _, _ => simp [Shape.at?] at hname
  | .flag, _, _ => simp [Shape.at?] at hname
  | .list _, _, _ => simp [Shape.at?] at hname

/-! ## Fitting templates are supplied -/

theorem suppliesPiece_of_fits {shape : Shape} {data : Document} (h : Conforms shape data) :
    ∀ {p : Piece}, fitsPiece shape p = true → SuppliesPiece data p
  | .text _, _ => trivial
  | .slot name, hp => by
      simp only [fitsPiece, Bool.or_eq_true, decide_eq_true_eq, Option.isSome_iff_exists] at hp
      rcases hp with hself | ⟨sub, hsub⟩
      · exact Or.inl hself
      · obtain ⟨d, hd, -⟩ := entryAt_of_conforms h hsub
        exact Or.inr ⟨d, hd⟩

mutual

theorem supplies_of_fits : ∀ (block : Block) {shape : Shape} {data : Document},
    Conforms shape data → fits shape block = true → Supplies data block
  | .line pieces, shape, data, h, hf => by
      intro p hp
      exact suppliesPiece_of_fits h (List.all_eq_true.mp hf p hp)
  | .each name body, shape, data, h, hf => by
      cases hsub : shape.at? name with
      | none => simp [fits, hsub] at hf
      | some sub =>
          obtain ⟨d, hd, hconf⟩ := entryAt_of_conforms h hsub
          match sub, d, hconf with
          | .list item, .list items, hconf =>
              have hbody : fitsAll item body = true := by simpa [fits, hsub] using hf
              refine ⟨⟨items, hd⟩, ?_⟩
              intro e he
              have he' : e ∈ items := by simpa [elementsAt, hd] using he
              exact suppliesAll_of_fits body (hconf e he') hbody
          | .value, _, _ => simp [fits, hsub] at hf
          | .flag, _, _ => simp [fits, hsub] at hf
          | .table _, _, _ => simp [fits, hsub] at hf
  | .cond name yes no, shape, data, h, hf => by
      cases hsub : shape.at? name with
      | none => simp [fits, hsub] at hf
      | some sub =>
          obtain ⟨d, hd, hconf⟩ := entryAt_of_conforms h hsub
          match sub, d, hconf with
          | .flag, .bool flag, _ =>
              have hparts : fitsAll shape yes = true ∧ fitsAll shape no = true := by
                simpa [fits, hsub] using hf
              refine ⟨⟨flag, hd⟩, ?_⟩
              split
              · exact suppliesAll_of_fits yes h hparts.1
              · exact suppliesAll_of_fits no h hparts.2
          | .value, _, _ => simp [fits, hsub] at hf
          | .list _, _, _ => simp [fits, hsub] at hf
          | .table _, _, _ => simp [fits, hsub] at hf

theorem suppliesAll_of_fits : ∀ (blocks : List Block) {shape : Shape} {data : Document},
    Conforms shape data → fitsAll shape blocks = true → SuppliesAll data blocks
  | [], _, _, _, _ => trivial
  | block :: rest, shape, data, h, hf => by
      simp only [fitsAll, Bool.and_eq_true] at hf
      exact ⟨supplies_of_fits block h hf.1, suppliesAll_of_fits rest h hf.2⟩

end

end CrudStack.Template
