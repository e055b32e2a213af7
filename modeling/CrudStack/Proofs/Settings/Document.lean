/-
# `CrudStack.Proofs.Settings.Document` — documents as layers

A document becomes a layer entry by entry.  As no key of a TOML document repeats, a path finds in
the layer what it finds in the document (`at?_ofDocument`), and there are tables along it if there
are tables in the document.
-/
import CrudStack.Proofs.Settings.Keys
import CrudStack.Proofs.Toml.Distinct
import Mathlib.Data.List.Infix

namespace CrudStack

/-- What a path of keys leads to. -/
def Document.at? : Document → List String → Option Document
  | d, [] => some d
  | .table es, key :: path =>
    match es.lookup key with
    | some d => d.at? path
    | none => none
  | _, _ :: _ => none

namespace Settings

/-! ## Entries -/

section Entries

variable {source : Source} {es : List (String × Document)}

theorem increasing_ofEntries {placed : List (String × Tree)} (h : Tree.Increasing placed) :
    Tree.Increasing (Tree.ofEntries source es placed) := by
  induction es generalizing placed with
  | nil => exact h
  | cons e es ih => exact ih (Tree.increasing_place h)

/-- The entries of a table without repeated keys are found as they are. -/
theorem lookup_ofEntries (hkeys : (es.map (·.1)).Nodup) {placed : List (String × Tree)}
    (key : String) :
    (Tree.ofEntries source es placed).lookup key =
      ((es.lookup key).map (Tree.ofDocument source)).or (placed.lookup key) := by
  induction es generalizing placed with
  | nil => rfl
  | cons e es ih =>
      obtain ⟨name, d⟩ := e
      rw [List.map_cons, List.nodup_cons] at hkeys
      rw [Tree.ofEntries, ih hkeys.2, Tree.lookup_place, List.lookup_cons]
      by_cases hkey : key = name
      · subst hkey
        rw [Lookup.lookup_eq_none.mpr hkeys.1, beq_self_eq_true, if_pos rfl]
        rfl
      · rw [if_neg hkey, beq_eq_false_iff_ne.mpr hkey]

theorem lookup_ofDocument (hkeys : (Document.table es).DistinctKeys) (key : String) :
    (Tree.ofDocument source (.table es)).entries.lookup key =
      (es.lookup key).map (Tree.ofDocument source) := by
  rw [Tree.ofDocument, Tree.entries, lookup_ofEntries hkeys.1]
  exact Option.or_none

theorem distinctKeys_of_lookup (hkeys : (Document.table es).DistinctKeys) {key : String}
    {d : Document} (h : es.lookup key = some d) : d.DistinctKeys :=
  entriesDistinctKeys_iff.mp hkeys.2 (key, d) (Lookup.mem_of_lookup h)

end Entries

/-! ## Paths -/

section Paths

variable {source : Source} {d : Document} {path : List String}

theorem at?_ofDocument (hkeys : d.DistinctKeys) :
    (Tree.ofDocument source d).at? path = (d.at? path).map (Tree.ofDocument source) := by
  induction path generalizing d with
  | nil => cases d <;> rfl
  | cons key path ih =>
      cases d with
      | table es =>
          rw [Tree.at?, lookup_ofDocument hkeys, Document.at?]
          cases hsub : es.lookup key with
          | none => rfl
          | some sub => exact ih (distinctKeys_of_lookup hkeys hsub)
      | _ => rfl

/-- Where there are tables along a path in the document there are tables in the layer. -/
theorem leads_ofDocument (hkeys : d.DistinctKeys)
    (h : ∀ before key after, path = before ++ key :: after → ∀ sub, d.at? before = some sub →
      ∃ es, sub = .table es) : (Tree.ofDocument source d).Leads path := by
  induction path generalizing d with
  | nil => cases d <;> trivial
  | cons key path ih =>
      obtain ⟨es, rfl⟩ := h [] key path rfl d (by cases d <;> rfl)
      refine ⟨source, _, rfl, increasing_ofEntries List.Pairwise.nil, fun sub hsub => ?_⟩
      have hfound := (lookup_ofDocument hkeys key).symm.trans hsub
      obtain ⟨inner, hinner, rfl⟩ := Option.map_eq_some_iff.mp hfound
      refine ih (distinctKeys_of_lookup hkeys hinner) fun before name after hpath sub hsub => ?_
      refine h (key :: before) name after (by rw [hpath]; rfl) sub ?_
      rw [Document.at?, hinner]
      exact hsub

end Paths

/-! ## Sections -/

/-- The paths of sections. -/
def sectionPaths : List (List String) :=
  [["project"], ["backend"], ["backend", "datasource"], ["frontend"]]

/-- The document has tables where sections are, as far as it has anything there. -/
structure SectionsAreTables (d : Document) : Prop where
  root : ∃ es, d = .table es
  sections : ∀ path ∈ sectionPaths, ∀ sub, d.at? path = some sub → ∃ es, sub = .table es

/-- The way to a key leads through sections. -/
theorem mem_sectionPaths (k : Key) :
    ∀ before ∈ k.path.dropLast.inits, before = [] ∨ before ∈ sectionPaths := by
  cases k <;> decide

theorem SectionsAreTables.leads {d : Document} (h : SectionsAreTables d) (hkeys : d.DistinctKeys)
    (source : Source) (k : Key) : (Tree.ofDocument source d).Leads k.path := by
  refine leads_ofDocument hkeys fun before key after hpath sub hsub => ?_
  have hinit : before <+: k.path.dropLast := by
    rw [hpath, List.dropLast_append_of_ne_nil (List.cons_ne_nil key after)]
    exact List.prefix_append _ _
  obtain rfl | hsection := mem_sectionPaths k before ((List.mem_inits _ _).mpr hinit)
  · obtain ⟨es, rfl⟩ := h.root
    cases hsub
    exact ⟨es, rfl⟩
  · exact h.sections before hsection sub hsub

end Settings

end CrudStack
