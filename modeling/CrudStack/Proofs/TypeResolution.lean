/-
# `CrudStack.Proofs.TypeResolution` — how a type name is understood

A type name is a class of the model if there is one of exactly this name, and else it spells a
primitive or nothing.  What it is does not depend on the stack, though every stack has types of its
own: the same name is a class, a primitive or unknown for both, and is edited in the same way.  The
return position differs from the others for the spellings of `void` alone.  A class that comes into
the model is seen by its own name and by no other (`types_classified`).

Primitives are found by trimming and lower case.  As no alias has a letter that another character
could stand for, the names that are found are the aliases between white space, in any case of the
letters A to Z (`ofAlias?_eq_some`).
-/
import CrudStack.Proofs.Lookup
import CrudStack.Proofs.Sheet.Mentioned
import CrudStack.Proofs.Text.Spelled

namespace CrudStack

open Text (Spells)

/-! ## Aliases -/

/-- The aliases that stand for the type of a value. -/
def valueAliases : List String :=
  ["text", "string", "char", "integer", "int", "long", "bigint", "boolean", "bool", "float",
    "double", "real", "decimal", "date", "datetime"]

namespace Primitive

theorem mem_valueAliases {word : String} :
    word ∈ valueAliases ↔ ∃ p, p ≠ .void ∧ (word, p) ∈ aliases := by
  have hvalues : valueAliases = (aliases.filter (·.2 ≠ .void)).map (·.1) := by decide +kernel
  rw [hvalues, List.mem_map]
  constructor
  · rintro ⟨⟨_, p⟩, h, rfl⟩
    obtain ⟨hmem, hvoid⟩ := List.mem_filter.mp h
    exact ⟨p, by simpa using hvoid, hmem⟩
  · rintro ⟨p, hvoid, hmem⟩
    exact ⟨(word, p), List.mem_filter.mpr ⟨hmem, by simpa using hvoid⟩, rfl⟩

theorem void_mem_aliases {word : String} : (word, Primitive.void) ∈ aliases ↔ word = "void" := by
  simp [aliases]

/-- A type name is found as a primitive just if it spells one of its aliases. -/
theorem ofAlias?_eq_some {t : String} {p : Primitive} :
    ofAlias? t = some p ↔ ∃ word, (word, p) ∈ aliases ∧ Spells t word := by
  have hletters : ∀ e ∈ aliases, e.1 ≠ "" ∧ (e.1.toList.all fun c => Text.IsSteady c) = true := by
    decide +kernel
  have hwords : ∀ e ∈ aliases, e.1 ≠ "" ∧ ∀ c ∈ e.1.toList, Text.IsSteady c := by
    intro e he
    obtain ⟨hne, hall⟩ := hletters e he
    refine ⟨hne, ?_⟩
    intro c hc
    exact of_decide_eq_true (List.all_eq_true.mp hall c hc)
  have hkeys : (aliases.map (·.1)).Nodup := by decide +kernel
  constructor
  · intro h
    have hmem := Lookup.mem_of_lookup h
    obtain ⟨hne, hsteady⟩ := hwords _ hmem
    exact ⟨_, hmem, (Text.lower_trim_eq_iff hne hsteady).mp rfl⟩
  · rintro ⟨word, hmem, hspells⟩
    obtain ⟨hne, hsteady⟩ := hwords _ hmem
    rw [ofAlias?, (Text.lower_trim_eq_iff hne hsteady).mpr hspells]
    exact Lookup.lookup_of_mem hkeys hmem

theorem spells_void {t : String} : Spells t "void" ↔ ofAlias? t = some .void := by
  rw [ofAlias?_eq_some]
  constructor
  · intro h
    exact ⟨"void", void_mem_aliases.mpr rfl, h⟩
  · rintro ⟨word, hmem, h⟩
    rwa [void_mem_aliases.mp hmem] at h

theorem spells_value {t : String} :
    (∃ word ∈ valueAliases, Spells t word) ↔ ∃ p, p ≠ .void ∧ ofAlias? t = some p := by
  constructor
  · rintro ⟨word, hword, h⟩
    obtain ⟨p, hvoid, hmem⟩ := mem_valueAliases.mp hword
    exact ⟨p, hvoid, ofAlias?_eq_some.mpr ⟨word, hmem, h⟩⟩
  · rintro ⟨p, hvoid, h⟩
    obtain ⟨word, hmem, h⟩ := ofAlias?_eq_some.mp h
    exact ⟨word, mem_valueAliases.mpr ⟨p, hvoid, hmem⟩, h⟩

end Primitive

/-! ## Meanings -/

/-- What a type name stands for, before a stack has a type for it. -/
inductive Meaning where
  | entity
  | primitive (p : Primitive)
  | unknown
  deriving DecidableEq

namespace Meaning

/-- The meaning in the place of a value, where `void` means nothing. -/
def ofValue : Meaning → Meaning
  | .primitive .void => .unknown
  | meaning => meaning

/-- The type of a stack for the meaning of a type name. -/
def target (typeName : String) : Meaning → Stack → TargetType
  | .entity => .entity typeName
  | .primitive p => p.target
  | .unknown => .fallback

/-- How a type name of a meaning is understood. -/
def resolution : Meaning → Resolution
  | .entity => .entity
  | .primitive _ => .primitive
  | .unknown => .fallback

/-- The input element for a value of a meaning. -/
def input : Meaning → String
  | .primitive p => p.input
  | .entity | .unknown => "text"

theorem resolution_target (meaning : Meaning) (t : String) (stack : Stack) :
    (meaning.target t stack).resolution = meaning.resolution := by
  cases meaning <;> cases stack <;> rfl

theorem input_target (meaning : Meaning) (t : String) (stack : Stack) :
    (meaning.target t stack).input = meaning.input := by
  cases meaning <;> cases stack <;> rfl

theorem resolution_eq_entity (meaning : Meaning) :
    meaning.ofValue.resolution = .entity ↔ meaning = .entity := by
  rcases meaning with - | p | -
  · exact iff_of_true rfl rfl
  · cases p <;> exact iff_of_false nofun nofun
  · exact iff_of_false nofun nofun

theorem resolution_eq_primitive (meaning : Meaning) :
    meaning.ofValue.resolution = .primitive ↔ ∃ p, p ≠ .void ∧ meaning = .primitive p := by
  rcases meaning with - | p | -
  · exact iff_of_false nofun nofun
  · cases p <;> simp [ofValue, resolution]
  · exact iff_of_false nofun nofun

/-- What is no `void` means the same everywhere, and a returned `void` is no fallback. -/
theorem target_ne_ofValue (meaning : Meaning) (t : String) (stack : Stack) :
    meaning.target t stack ≠ meaning.ofValue.target t stack ↔ meaning = .primitive .void := by
  constructor
  · intro h
    unfold ofValue at h
    split at h
    · rfl
    · exact absurd rfl h
  · rintro rfl h
    have hresolution := congrArg TargetType.resolution h
    rw [resolution_target, resolution_target] at hresolution
    cases hresolution

end Meaning

namespace Model

variable {m : Model} {t : String}

/-- What a type name means in a model: a class of this name, or else what it spells. -/
def meaning (m : Model) (t : String) : Meaning :=
  if m.hasClass t then .entity else (Primitive.ofAlias? t).elim .unknown .primitive

theorem resolveReturn_eq (stack : Stack) :
    m.resolveReturn t stack = (m.meaning t).target t stack := by
  unfold resolveReturn meaning
  split
  · rfl
  · cases Primitive.ofAlias? t <;> rfl

theorem resolve_eq (stack : Stack) : m.resolve t stack = (m.meaning t).ofValue.target t stack := by
  unfold resolve meaning
  split
  · rfl
  · rcases Primitive.ofAlias? t with - | p
    · rfl
    · cases p <;> rfl

theorem meaning_eq_entity : m.meaning t = .entity ↔ t ∈ m.classes.map (·.name) := by
  rw [← hasClass_iff]
  unfold meaning
  split
  · next hclass => exact iff_of_true rfl hclass
  · next hclass =>
      refine iff_of_false ?_ hclass
      cases Primitive.ofAlias? t <;> nofun

theorem meaning_eq_primitive {p : Primitive} :
    m.meaning t = .primitive p ↔ t ∉ m.classes.map (·.name) ∧ Primitive.ofAlias? t = some p := by
  rw [← hasClass_iff]
  unfold meaning
  split
  · next hclass => exact iff_of_false nofun fun h => h.1 hclass
  · next hclass =>
      rw [and_iff_right hclass]
      cases Primitive.ofAlias? t with
      | none => exact iff_of_false nofun nofun
      | some q => rw [Option.elim_some, Meaning.primitive.injEq, Option.some.injEq]

theorem meaning_congr {m' : Model}
    (h : t ∈ m.classes.map (·.name) ↔ t ∈ m'.classes.map (·.name)) :
    m.meaning t = m'.meaning t := by
  unfold meaning
  rw [hasClass_congr h]

end Model

/-! ## Classification -/

/-- How a type name is understood in a model, for a stack. -/
structure Classified (m : Model) (t : String) (stack : Stack) : Prop where
  /-- A class is one of exactly this name. -/
  entity : (m.resolve t stack).resolution = .entity ↔ t ∈ m.classes.map (·.name)
  /-- A primitive is what is no class and spells the alias of a value. -/
  primitive : (m.resolve t stack).resolution = .primitive ↔
    t ∉ m.classes.map (·.name) ∧ ∃ word ∈ valueAliases, Spells t word
  /-- Everything else is a fallback. -/
  fallback : (m.resolve t stack).resolution = .fallback ↔
    t ∉ m.classes.map (·.name) ∧ ∀ word ∈ valueAliases, ¬ Spells t word
  /-- A return type differs just for what is no class and spells `void`. -/
  returned : m.resolveReturn t stack ≠ m.resolve t stack ↔
    t ∉ m.classes.map (·.name) ∧ Spells t "void"

theorem classified (m : Model) (t : String) (stack : Stack) : Classified m t stack := by
  have hresolution : (m.resolve t stack).resolution = (m.meaning t).ofValue.resolution := by
    rw [m.resolve_eq, Meaning.resolution_target]
  have hentity : (m.resolve t stack).resolution = .entity ↔ t ∈ m.classes.map (·.name) := by
    rw [hresolution, ← Model.meaning_eq_entity, Meaning.resolution_eq_entity]
  have hprimitive : (m.resolve t stack).resolution = .primitive ↔
      t ∉ m.classes.map (·.name) ∧ ∃ word ∈ valueAliases, Spells t word := by
    rw [hresolution, Meaning.resolution_eq_primitive, Primitive.spells_value]
    simp only [Model.meaning_eq_primitive]
    constructor
    · rintro ⟨p, hvoid, hclass, halias⟩
      exact ⟨hclass, p, hvoid, halias⟩
    · rintro ⟨hclass, p, hvoid, halias⟩
      exact ⟨p, hvoid, hclass, halias⟩
  refine ⟨hentity, hprimitive, ?_, ?_⟩
  · have hother : (m.resolve t stack).resolution = .fallback ↔
        (m.resolve t stack).resolution ≠ .entity ∧ (m.resolve t stack).resolution ≠ .primitive := by
      cases (m.resolve t stack).resolution <;> decide
    rw [hother, Ne, Ne, hentity, hprimitive, not_and, not_exists]
    simp only [not_and]
    constructor
    · rintro ⟨hclass, hspells⟩
      exact ⟨hclass, hspells hclass⟩
    · rintro ⟨hclass, hspells⟩
      exact ⟨hclass, fun _ => hspells⟩
  · rw [m.resolve_eq, m.resolveReturn_eq, Meaning.target_ne_ofValue, Model.meaning_eq_primitive,
      Primitive.spells_void]

/-- Every type name of a model is a class, a primitive or unknown, and the same for both stacks;
what it is in the place of a return type differs for `void` alone; and a new class changes how its
own name is understood and no other. -/
theorem types_classified (m : Model) (t : String) :
    (∀ stack, Classified m t stack) ∧
    (∀ stack stack',
      (m.resolve t stack).resolution = (m.resolve t stack').resolution ∧
      (m.resolve t stack).input = (m.resolve t stack').input ∧
      (m.resolveReturn t stack).resolution = (m.resolveReturn t stack').resolution ∧
      (m.resolveReturn t stack).input = (m.resolveReturn t stack').input) ∧
    ∀ before c after stack, m.classes = before ++ after →
      ((⟨before ++ c :: after⟩ : Model).resolve t stack ≠ m.resolve t stack ∨
        (⟨before ++ c :: after⟩ : Model).resolveReturn t stack ≠ m.resolveReturn t stack) →
      t = c.name := by
  refine ⟨classified m t, ?_, ?_⟩
  · intro stack stack'
    simp only [m.resolve_eq, m.resolveReturn_eq, Meaning.resolution_target, Meaning.input_target,
      and_self]
  · intro before c after stack hclasses hchanged
    by_contra hname
    have hmeaning : (⟨before ++ c :: after⟩ : Model).meaning t = m.meaning t := by
      refine Model.meaning_congr ?_
      simp [hclasses, hname]
    simp only [Model.resolve_eq, Model.resolveReturn_eq, hmeaning, ne_eq, not_true_eq_false,
      or_self] at hchanged

/-- Blanks and capitals do not count, and neither a dotted capital nor an alias inside of a name is
taken for one. -/
example :
    (["\u2003DateTime\n", "b\u0130gint", "bigint ", "dates"].map fun t =>
      ((⟨[]⟩ : Model).resolve t .vue).resolution) =
        [.primitive, .fallback, .primitive, .fallback] := by
  decide +kernel

end CrudStack
