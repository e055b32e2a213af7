/-
# `CrudStack.Proofs.Toml.Told` — what pairs and headers say

The statements of a TOML text may come in almost any order, and a table can be spread over them.  So
what they say is not read from first to last here, but key by key: a key belongs to the statements
whose path begins with it, and below the key these statements are looked at without that part.

A value of a key is told in one of five ways:

* a *value* is written behind the key;
* a table is *dotted*: pairs go through it, and sections may go through it after them;
* a table is *implied*: sections go through it, and it has no header of its own;
* a table is *headed*: one section is its own, with the pairs that stand there, and others may go
  through it before and after;
* a list of tables has a section for each *element*, and the sections that follow it up to the next
  element are about that element.

For a table the sections are split at the place where its own pairs stand, into those before
(`early`) and those behind (`late`): a section may go below a table that dotted keys brought about,
but dotted keys may not extend a table that a section went through.
-/
import CrudStack.Toml.Assembly

namespace CrudStack.Toml

/-! ## Statements about a key -/

/-- A key with a value, as a pair says it. -/
abbrev Pair := List String × Document

/-- The pairs about a key, without that part of their paths. -/
def pairsBelow (key : String) (pairs : List Pair) : List Pair :=
  pairs.filterMap fun p =>
    match p.1 with
    | part :: path => if part = key then some (path, p.2) else none
    | [] => none

/-- The sections about a key, without that part of their paths. -/
def sectionsBelow (key : String) (sections : List Section) : List Section :=
  sections.filterMap fun s =>
    match s.path with
    | part :: path => if part = key then some ⟨s.isElement, path, s.pairs⟩ else none
    | [] => none

/-- The pairs that are not about a key. -/
def pairsBeside (key : String) (pairs : List Pair) : List Pair :=
  pairs.filter fun p => p.1.head? ≠ some key

/-- The sections that are not about a key. -/
def sectionsBeside (key : String) (sections : List Section) : List Section :=
  sections.filter fun s => s.path.head? ≠ some key

/-! ## What they say -/

mutual

/-- Statements about a key say that this is its value. -/
def Told : Document → (early : List Section) → (own : List Pair) → (late : List Section) → Prop
  | .table es, early, own, late =>
    (early = [] ∧ own = [([], .table es)] ∧ late = []) ∨
    (early = [] ∧ own ≠ [] ∧ EntriesTold es [] own late) ∨
    (own = [] ∧ early ++ late ≠ [] ∧ EntriesTold es [] [] (early ++ late)) ∨
    (own = [] ∧ ∃ before pairs after, early ++ late = before ++ ⟨false, [], pairs⟩ :: after ∧
      EntriesTold es before pairs after)
  | .list ds, early, own, late =>
    (early = [] ∧ own = [([], .list ds)] ∧ late = []) ∨
    (own = [] ∧ early ++ late ≠ [] ∧ ElementsTold ds (early ++ late))
  | d, early, own, late => early = [] ∧ own = [([], d)] ∧ late = []

/-- Statements say that these are the entries of a table. -/
def EntriesTold : List (String × Document) → (early : List Section) → (own : List Pair) →
    (late : List Section) → Prop
  | [], early, own, late => early = [] ∧ own = [] ∧ late = []
  | (key, d) :: es, early, own, late =>
    Told d (sectionsBelow key early) (pairsBelow key own) (sectionsBelow key late) ∧
      EntriesTold es (sectionsBeside key early) (pairsBeside key own) (sectionsBeside key late)

/-- Sections say that these are the tables of a list. -/
def ElementsTold : List Document → List Section → Prop
  | [], sections => sections = []
  | .table es :: ds, sections => ∃ pairs inside others,
      sections = ⟨true, [], pairs⟩ :: (inside ++ others) ∧ EntriesTold es [] pairs inside ∧
        ElementsTold ds others
  | _ :: _, _ => False

end

end CrudStack.Toml
