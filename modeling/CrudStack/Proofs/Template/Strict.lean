/-
# `CrudStack.Proofs.Template.Strict` — a rendering fails just if a name is missing

What a template is filled with may be any data, not only the sheets of this library: no table at
all, a table that lacks a name, or one with a null, a list or another table where a text is
expected.  A template without blocks draws one line between these.  It is filled whenever the data
is a table that has every name the template asks for, whatever stands under the names and whatever
else there is.  Otherwise the first name that is missing, in the order of the text, is reported at
its tag.  A null is a value, and so it is never taken for a missing name.

Main statement: `render_strict`, for the ten kinds whose templates have slots and no blocks, and for
those that a mode has no template of.
-/
import CrudStack.Proofs.Template.Asked
import CrudStack.Proofs.Template.Registered

namespace CrudStack

/-- The kinds of a mode whose templates have slots, but no repetitions and no conditions. -/
def Mode.slottedKinds : Mode → List ArtifactKind
  | .backend => [.runtimeConfig, .entryPoint, .notFoundError, .repository, .service, .controller]
  | .frontend => [.buildDescriptor, .hostPage, .bundlerConfig, .runtimeConfig]

namespace Template

/-! ## Names of the data -/

/-- The data is a table with an entry of a name. -/
def HasName (data : Document) (name : String) : Prop :=
  ∃ entries, data = .table entries ∧ name ∈ entries.map Prod.fst

theorem hasName_iff {data : Document} {name : String} :
    HasName data name ↔ ∃ value, valueOf data name = .ok value := by
  constructor
  · rintro ⟨entries, rfl, hname⟩
    cases hlookup : entries.reverse.lookup name with
    | some value => exact ⟨value, by rw [valueOf, hlookup]⟩
    | none =>
        obtain ⟨e, he, rfl⟩ := List.mem_map.mp hname
        have hne := List.lookup_eq_none_iff.mp hlookup e (List.mem_reverse.mpr he)
        exact absurd hne (by simp)
  · rintro ⟨value, hvalue⟩
    cases data with
    | table entries =>
        cases hlookup : entries.reverse.lookup name with
        | some found =>
            obtain ⟨before, after, hsplit, -⟩ := List.lookup_eq_some_iff.mp hlookup
            have hmem : (name, found) ∈ entries := by
              rw [← List.mem_reverse, hsplit]
              exact List.mem_append_right _ List.mem_cons_self
            exact ⟨entries, rfl, List.mem_map_of_mem hmem⟩
        | none => simp [valueOf, hlookup] at hvalue
    | _ => simp [valueOf] at hvalue

/-- Data that has several names is one table with all of them. -/
theorem hasNames_iff {data : Document} {names : List String} (hne : names ≠ []) :
    (∀ name ∈ names, HasName data name) ↔
      ∃ entries, data = .table entries ∧ ∀ name ∈ names, name ∈ entries.map Prod.fst := by
  constructor
  · intro hall
    obtain ⟨first, hfirst⟩ := List.exists_mem_of_ne_nil _ hne
    obtain ⟨entries, rfl, -⟩ := hall first hfirst
    refine ⟨entries, rfl, fun name hname => ?_⟩
    obtain ⟨_, heq, hmem⟩ := hall name hname
    cases heq
    exact hmem
  · rintro ⟨entries, rfl, hall⟩ name hname
    exact ⟨entries, rfl, hall name hname⟩

/-- What has no value has no name, and the other way round. -/
theorem not_hasName_of_error {data : Document} {name : String} {miss : Miss}
    (h : valueOf data name = .error miss) : ¬ HasName data name := by
  rw [hasName_iff]
  rintro ⟨value, hvalue⟩
  rw [h] at hvalue
  cases hvalue

/-! ## Lines -/

/-- A block that is a line. -/
def Block.isLine : Block → Bool
  | .line _ => true
  | _ => false

/-- A template without repetitions and conditions. -/
def isFlat (t : Template) : Bool := t.blocks.all Block.isLine

/-- The first name that is missing in a line, and where its tag stands: what comes before it on the
line is filled. -/
structure MissingIn (data : Document) (pieces : List Piece) (line column : Nat) (f : Fault) :
    Prop where
  miss : valueOf data f.name = .error f.miss
  line : f.line = line
  tag : ∃ before after, pieces = before ++ .slot f.name :: after ∧
    (∀ name ∈ before.flatMap askedByPiece, HasName data name) ∧
      f.column = column + (lineSource before).length

theorem length_lineSource_cons (p : Piece) (pieces : List Piece) :
    (lineSource (p :: pieces)).length = p.source.length + (lineSource pieces).length := by
  simp [lineSource]

theorem MissingIn.cons {data : Document} {p : Piece} {pieces : List Piece} {line column : Nat}
    {f : Fault} (h : MissingIn data pieces line (column + p.source.length) f)
    (hp : ∀ name ∈ askedByPiece p, HasName data name) :
    MissingIn data (p :: pieces) line column f where
  miss := h.miss
  line := h.line
  tag := by
    obtain ⟨before, after, rfl, hbefore, hcolumn⟩ := h.tag
    refine ⟨p :: before, after, rfl, fun name hname => ?_, ?_⟩
    · rw [List.flatMap_cons, List.mem_append] at hname
      exact hname.elim (hp name) (hbefore name)
    · rw [hcolumn, length_lineSource_cons, Nat.add_assoc]

/-- A line that lacks a name is not rendered, and the fault is about the first name that it
lacks. -/
theorem exists_missingIn {data : Document} (line : Nat) :
    ∀ {pieces : List Piece} (column : Nat), selfName ∉ pieces.flatMap askedByPiece →
      (¬ ∀ name ∈ pieces.flatMap askedByPiece, HasName data name) →
        ∃ f, renderPieces data line column pieces = .error f ∧ MissingIn data pieces line column f
  | [], _, _, h => absurd nofun h
  | .text s :: rest, column, hself, h => by
      have hself' : selfName ∉ rest.flatMap askedByPiece := hself
      obtain ⟨f, hrest, hmissing⟩ := exists_missingIn line (column + s.length) hself' h
      refine ⟨f, ?_, hmissing.cons (p := .text s) nofun⟩
      rw [renderPieces, hrest]
      rfl
  | .slot name :: rest, column, hself, h => by
      have hself' : ¬ name = selfName ∧ selfName ∉ rest.flatMap askedByPiece := by
        simpa [askedByPiece, eq_comm] using hself
      cases hvalue : valueOf data name with
      | error miss =>
          refine ⟨⟨miss, name, line, column⟩, ?_, hvalue, rfl, [], rest, rfl, nofun, rfl⟩
          rw [renderPieces, slotOf, if_neg hself'.1, hvalue]
          rfl
      | ok value =>
          have hname : ∀ n ∈ askedByPiece (.slot name), HasName data n := fun n hn =>
            List.mem_singleton.mp hn ▸ hasName_iff.mpr ⟨value, hvalue⟩
          have hrest : ¬ ∀ n ∈ rest.flatMap askedByPiece, HasName data n := fun hrest =>
            h fun n hn => (List.mem_append.mp hn).elim (hname n) (hrest n)
          obtain ⟨f, hrest, hmissing⟩ :=
            exists_missingIn line (column + (tag name).length) hself'.2 hrest
          refine ⟨f, ?_, hmissing.cons (p := .slot name) hname⟩
          rw [renderPieces, slotOf_eq_ok line column (.inr ⟨value, entryAt_eq_some_iff.mpr hvalue⟩),
            hrest]
          rfl

/-! ## Templates of lines -/

/-- The first name that is missing in a template of lines: the lines above are filled, and the fault
gives the number of the line and the column in it. -/
structure FirstMissing (data : Document) (blocks : List Block) (start : Nat) (f : Fault) :
    Prop where
  absent : ¬ HasName data f.name
  tag : ∃ above pieces below, blocks = above ++ .line pieces :: below ∧
    (∀ name ∈ askedByBlocks above, HasName data name) ∧
      MissingIn data pieces (start + above.length) 1 f

theorem askedByBlocks_cons (b : Block) (blocks : List Block) :
    askedByBlocks (b :: blocks) = askedByBlock b ++ askedByBlocks blocks := rfl

/-- Lines have what they ask for as soon as the data has the names. -/
theorem suppliesPiece_of_hasName {data : Document} {pieces : List Piece}
    (h : ∀ name ∈ pieces.flatMap askedByPiece, HasName data name) :
    ∀ p ∈ pieces, SuppliesPiece data p
  | .text _, _ => trivial
  | .slot name, hp => by
      obtain ⟨value, hvalue⟩ := hasName_iff.mp <|
        h name (List.mem_flatMap.mpr ⟨.slot name, hp, List.mem_singleton_self name⟩)
      exact .inr ⟨value, entryAt_eq_some_iff.mpr hvalue⟩

theorem suppliesAll_of_hasName {data : Document} : ∀ {blocks : List Block},
    blocks.all Block.isLine = true → (∀ name ∈ askedByBlocks blocks, HasName data name) →
      SuppliesAll data blocks
  | [], _, _ => trivial
  | .line pieces :: rest, hflat, h => by
      have hflat' : rest.all Block.isLine = true := by simpa [Block.isLine] using hflat
      refine ⟨suppliesPiece_of_hasName fun name hname => h name (List.mem_append_left _ hname),
        suppliesAll_of_hasName hflat' fun name hname => h name (List.mem_append_right _ hname)⟩
  | .each _ _ :: _, hflat, _ => by simp [Block.isLine] at hflat
  | .cond _ _ _ :: _, hflat, _ => by simp [Block.isLine] at hflat

/-- Lines that lack a name are not rendered, and the fault is about the first name that they lack.
By the lines from the top: one that is filled moves the start by one. -/
theorem exists_firstMissing {data : Document} : ∀ {blocks : List Block} (start : Nat),
    blocks.all Block.isLine = true → selfName ∉ askedByBlocks blocks →
      (¬ ∀ name ∈ askedByBlocks blocks, HasName data name) →
        ∃ f, renderBlocks data start blocks = .error f ∧ FirstMissing data blocks start f
  | [], _, _, _, h => absurd nofun h
  | .line pieces :: rest, start, hflat, hself, h => by
      have hflat' : rest.all Block.isLine = true := by simpa [Block.isLine] using hflat
      rw [askedByBlocks_cons, List.mem_append, not_or] at hself
      by_cases hline : ∀ name ∈ pieces.flatMap askedByPiece, HasName data name
      · have hrest : ¬ ∀ name ∈ askedByBlocks rest, HasName data name := fun hrest =>
          h fun name hname => (List.mem_append.mp hname).elim (hline name) (hrest name)
        obtain ⟨f, hrest, habsent, above, found, below, rfl, habove, hmissing⟩ :=
          exists_firstMissing (start + 1) hflat' hself.2 hrest
        refine ⟨f, ?_, habsent, .line pieces :: above, found, below, rfl, fun name hname => ?_, ?_⟩
        · have hheight : (Block.line pieces).height = 1 := rfl
          rw [renderBlocks, renderBlock,
            renderPieces_eq_ok data start pieces 1 (suppliesPiece_of_hasName hline), hheight, hrest]
          rfl
        · rw [askedByBlocks_cons, List.mem_append] at hname
          exact hname.elim (hline name) (habove name)
        · rwa [List.length_cons, Nat.add_comm above.length, ← Nat.add_assoc]
      · obtain ⟨f, hfault, hmissing⟩ := exists_missingIn start 1 hself.1 hline
        refine ⟨f, ?_, not_hasName_of_error hmissing.miss, [], pieces, rest, rfl, nofun, hmissing⟩
        rw [renderBlocks, renderBlock, hfault]
        rfl
  | .each _ _ :: _, _, hflat, _, _ => by simp [Block.isLine] at hflat
  | .cond _ _ _ :: _, _, hflat, _, _ => by simp [Block.isLine] at hflat

/-! ## Contents -/

/-- Rendering a kind is strict.  Its template is one of lines, and it is filled just if the data is
a table with all the names that it asks for; what else the data has makes no difference. -/
structure StrictFor (mode : Mode) (kind : ArtifactKind) (t : Template)
    (render : Document → Except RenderError String) : Prop where
  /-- Filled is what has all names, with whatever values. -/
  filled : ∀ data, (∃ text, render data = .ok text) ↔
    ∃ entries, data = .table entries ∧ ∀ name ∈ t.asked, name ∈ entries.map Prod.fst
  /-- Everything else is refused, for the first name that is missing. -/
  refused : ∀ data, (¬ ∃ entries, data = .table entries ∧
      ∀ name ∈ t.asked, name ∈ entries.map Prod.fst) →
    ∃ f, render data = .error (.fault mode kind f) ∧ FirstMissing data t.blocks 1 f
  /-- What is filled in are the values of these names, and nothing else. -/
  settled : ∀ data data' text, render data = .ok text →
    (∀ name ∈ t.asked, valueOf data name = valueOf data' name) → render data' = .ok text

section Flat

variable {mode : Mode} {kind : ArtifactKind} {t : Template} (ht : ofKind? mode kind = some t)
  (hflat : t.isFlat = true) (hself : selfName ∉ t.asked)

include ht hflat hself

theorem renderByLine_refused {data : Document} (h : ¬ ∀ name ∈ t.asked, HasName data name) :
    ∃ f, renderByLine mode kind data = .error (.fault mode kind f) ∧
      FirstMissing data t.blocks 1 f := by
  obtain ⟨f, hfault, hfirst⟩ := exists_firstMissing 1 hflat hself h
  have hrender : t.render data = .error f := hfault
  refine ⟨f, ?_, hfirst⟩
  simp only [renderByLine, ht, hrender]
  rfl

/-- What is rendered has all names, and becomes the expansion. -/
theorem renderByLine_eq_ok_iff {data : Document} {text : String} :
    renderByLine mode kind data = .ok text ↔
      (∀ name ∈ t.asked, HasName data name) ∧ joinLines (t.expand data) = text := by
  by_cases hall : ∀ name ∈ t.asked, HasName data name
  · have hfilled : renderByLine mode kind data = .ok (joinLines (t.expand data)) := by
      simp only [renderByLine, ht, render_eq_ok (suppliesAll_of_hasName hflat hall)]
      rfl
    rw [hfilled, Except.ok.injEq, and_iff_right hall]
  · obtain ⟨f, hfault, -⟩ := renderByLine_refused ht hflat hself hall
    rw [hfault]
    exact iff_of_false nofun fun h => hall h.1

/-- A template of lines that asks for something, and not for the data itself, is rendered
strictly. -/
theorem strictFor_of_flat (hasks : t.asked ≠ []) :
    StrictFor mode kind t (renderByLine mode kind) where
  filled := by
    intro data
    rw [← hasNames_iff hasks]
    simp only [renderByLine_eq_ok_iff ht hflat hself, exists_and_left, exists_eq', and_true]
  refused := by
    intro data hnot
    exact renderByLine_refused ht hflat hself (mt (hasNames_iff hasks).mp hnot)
  settled := by
    intro data data' text htext hagree
    obtain ⟨hall, rfl⟩ := (renderByLine_eq_ok_iff ht hflat hself).mp htext
    have hsame : t.expand data = t.expand data' :=
      expand_congr fun name hname =>
        ⟨fun heq => hself (heq ▸ hname), entryAt_congr (hagree name hname)⟩
    refine (renderByLine_eq_ok_iff ht hflat hself).mpr ⟨fun name hname => ?_, by rw [hsame]⟩
    rw [hasName_iff, ← hagree name hname, ← hasName_iff]
    exact hall name hname

end Flat

/-- The kinds with slots and without blocks, by their templates; none of these asks for the data
itself. -/
theorem contains_slottedKinds (mode : Mode) (kind : ArtifactKind) :
    mode.slottedKinds.contains kind =
      (ofKind? mode kind).any fun t => t.isFlat && !t.asked.isEmpty := by
  cases mode <;> cases kind <;> rfl

theorem selfName_notMem_asked {mode : Mode} {kind : ArtifactKind} (h : kind ∈ mode.slottedKinds) :
    ∀ t, ofKind? mode kind = some t → selfName ∉ t.asked := by
  have hall : mode.slottedKinds.all (fun kind =>
      (ofKind? mode kind).all fun t => decide (selfName ∉ t.asked)) = true := by
    cases mode <;> decide +kernel
  intro t ht
  have hkind := List.all_eq_true.mp hall kind h
  rw [ht] at hkind
  exact of_decide_eq_true hkind

theorem mem_slottedKinds {mode : Mode} {kind : ArtifactKind} : kind ∈ mode.slottedKinds ↔
    ∃ t, ofKind? mode kind = some t ∧ t.isFlat = true ∧ t.asked ≠ [] := by
  rw [← List.contains_iff_mem, contains_slottedKinds, Option.any_eq_true]
  simp only [Bool.and_eq_true, Bool.not_eq_true', List.isEmpty_eq_false_iff]

theorem ofKind?_eq_none {mode : Mode} {kind : ArtifactKind}
    (h : kind ∉ mode.projectKinds ++ mode.classKinds) : ofKind? mode kind = none := by
  cases mode <;> cases kind <;> first | rfl | exact absurd (by decide) h

/-- The templates of a mode are compiled.  Those with slots and no blocks fail just on data that
lacks a name, with a fault that is about the first one; kinds without a template are refused for all
data. -/
theorem render_strict (mode : Mode) :
    ∃ templates, Registry.ofMode mode = .ok templates ∧
      (∀ kind, kind ∈ mode.slottedKinds ↔
        ∃ t, ofKind? mode kind = some t ∧ t.isFlat = true ∧ t.asked ≠ []) ∧
      (∀ kind ∈ mode.slottedKinds, ∃ t, ofKind? mode kind = some t ∧
        StrictFor mode kind t (templates.render kind)) ∧
      ∀ kind ∉ mode.projectKinds ++ mode.classKinds, ∀ data,
        templates.render kind data = .error (.noTemplate mode kind) := by
  obtain ⟨templates, hmode, hrender⟩ := ofMode_eq_ok mode
  have hkinds : ∀ kind, templates.render kind = renderByLine mode kind := fun kind =>
    funext (hrender kind)
  refine ⟨templates, hmode, fun kind => mem_slottedKinds, fun kind hkind => ?_,
    fun kind hkind data => ?_⟩
  · obtain ⟨t, ht, hflat, hasks⟩ := mem_slottedKinds.mp hkind
    rw [hkinds]
    exact ⟨t, ht, strictFor_of_flat ht hflat (selfName_notMem_asked hkind t ht) hasks⟩
  · rw [hkinds, renderByLine, ofKind?_eq_none hkind]

end Template

end CrudStack
