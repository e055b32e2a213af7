/-
# `CrudStack.Proofs.Sheet.LineBreak` — values of a sheet that stay on one line

What the sources of a class insert above the declaration of their type comes from the name of the
class, from the package, from a port and from a fixed list of imports.  If name and package have no
line break, none of these values has one (`unbrokenAt_class`, `unbrokenAt_project`).

Of the names that are derived the table name is the one to look at: it is cut into clusters and put
together again from their lower case.
-/
import CrudStack.Proofs.Layout.Names
import CrudStack.Proofs.Path.Spelled
import CrudStack.Proofs.Sheet.Imports
import CrudStack.Proofs.Template.Unbroken

namespace CrudStack

open Template

/-! ## Table names -/

namespace Naming

/-- The words of a name are made of its characters. -/
theorem mem_wordsFrom {w : List Char} {c : Char} : ∀ {word : List Char} {gs : List (List Char)},
    w ∈ wordsFrom word gs → c ∈ w → c ∈ word ++ gs.flatten
  | word, [], hw, hc => by
      rw [List.mem_singleton.mp hw] at hc
      exact List.mem_append_left _ hc
  | word, g :: rest, hw, hc => by
      have hstep : ∀ {word' : List Char}, w ∈ wordsFrom word' rest → word' ⊆ word ++ g →
          c ∈ word ++ (g :: rest).flatten := by
        intro word' hw' hsub
        rw [List.flatten_cons, ← List.append_assoc]
        rcases List.mem_append.mp (mem_wordsFrom hw' hc) with hmem | hmem
        · exact List.mem_append_left _ (hsub hmem)
        · exact List.mem_append_right _ hmem
      rw [wordsFrom] at hw
      split at hw
      · rcases List.mem_cons.mp hw with rfl | hw
        · exact List.mem_append_left _ hc
        · exact hstep hw (List.nil_subset _)
      · split at hw
        · rcases List.mem_cons.mp hw with rfl | hw
          · rw [List.flatten_cons, ← List.append_assoc]
            exact List.mem_append_left _ hc
          · exact hstep hw (List.nil_subset _)
        · exact hstep hw (List.Subset.refl _)

theorem newline_notMem_tableName {name : String} (h : '\n' ∉ name.toList) :
    '\n' ∉ (tableName name).toList := by
  intro hmem
  rcases mem_intercalate hmem with hscore | ⟨text, htext, hmem⟩
  · exact absurd hscore (by decide)
  · obtain ⟨w, hw, rfl⟩ := List.mem_map.mp htext
    rw [String.toList_ofList] at hmem
    refine Text.newline_notMem_lowerAfter (fun hbreak => h ?_) [] hmem
    have hchars := mem_wordsFrom hw hbreak
    rwa [List.nil_append, Text.flatten_clusters] at hchars

end Naming

/-! ## Imports -/

theorem newline_notMem_imports {c : ClassDef} {m : Model} {n : String} (h : n ∈ c.imports m) :
    '\n' ∉ n.toList := by
  have hall : ∀ n ∈ importedTypes, '\n' ∉ n.toList := by decide +kernel
  exact hall n (mem_imports h)

/-! ## Sheets -/

theorem newline_notMem_frontendOrigin (s : Settings) : '\n' ∉ s.frontendOrigin.toList := by
  have horigin : s.frontendOrigin = "http://localhost:" ++ toString s.frontend.devPort.toNat := rfl
  intro hmem
  rw [horigin, String.toList_append, List.mem_append] at hmem
  rcases hmem with haddress | hport
  · exact absurd haddress (by decide +kernel)
  · have hdigits : (toString s.frontend.devPort.toNat).toList =
        Nat.toDigits 10 s.frontend.devPort.toNat := by simp
    rw [hdigits] at hport
    exact absurd (Nat.isDigit_of_mem_toDigits (by decide) (by decide) hport) (by decide)

/-- The names under which the sources of a class find single values above their declaration. -/
def classValues : List String :=
  ["base_package", "class_name", "table_name", "frontend_origin", "route_segment"]

/-- The names under which the sources of a project find single values above their declaration. -/
def projectValues : List String := ["base_package", "application_class"]

section Slots

variable (c : ClassSheet) (p : ProjectSheet)

theorem slotText_class_package : slotText c.data "base_package" = c.basePackage := rfl

theorem slotText_class_name : slotText c.data "class_name" = c.className := rfl

theorem slotText_class_table : slotText c.data "table_name" = c.tableName := rfl

theorem slotText_class_origin : slotText c.data "frontend_origin" = c.frontendOrigin := rfl

theorem slotText_class_segment : slotText c.data "route_segment" = c.routeSegment := rfl

theorem elementsAt_imports : elementsAt c.data "imports" = c.imports.map .text := rfl

theorem slotText_project_package : slotText p.data "base_package" = p.basePackage := rfl

theorem slotText_project_application :
    slotText p.data "application_class" = p.applicationClass := rfl

end Slots

section Sheets

variable (m : Model) (s : Settings) (project : String)

theorem slotText_make_package (c : ClassDef) :
    slotText (ClassSheet.make m s project c).data "base_package" = s.basePackage project := by
  simp only [slotText_class_package, ClassSheet.make_eq]

theorem slotText_make_name (c : ClassDef) :
    slotText (ClassSheet.make m s project c).data "class_name" = c.name := by
  simp only [slotText_class_name, ClassSheet.make_eq]

theorem slotText_makeProject_package :
    slotText (ProjectSheet.make m s project).data "base_package" = s.basePackage project := by
  simp only [slotText_project_package, ProjectSheet.make]

theorem slotText_makeProject_application :
    slotText (ProjectSheet.make m s project).data "application_class" =
      Naming.applicationClass project := by
  simp only [slotText_project_application, ProjectSheet.make]

variable {s project} (hpackage : '\n' ∉ (s.basePackage project).toList)

include hpackage

theorem unbrokenAt_class {c : ClassDef} (hname : '\n' ∉ c.name.toList) :
    UnbrokenAt classValues ["imports"] (ClassSheet.make m s project c).data where
  values := by
    intro name h
    simp only [classValues, List.mem_cons, List.not_mem_nil, or_false] at h
    rcases h with rfl | rfl | rfl | rfl | rfl
    · rw [slotText_make_package]
      exact hpackage
    · rw [slotText_make_name]
      exact hname
    · simpa only [slotText_class_table, ClassSheet.make_eq] using
        Naming.newline_notMem_tableName hname
    · simpa only [slotText_class_origin, ClassSheet.make_eq] using newline_notMem_frontendOrigin s
    · have hroute : '\n' ∉ (Naming.routeSegment c.name).toList := Text.newline_notMem_lower hname
      simpa only [slotText_class_segment, ClassSheet.make_eq] using hroute
  lists := by
    intro name h item hitem
    simp only [List.mem_singleton.mp h, elementsAt_imports, ClassSheet.make_eq] at hitem
    obtain ⟨n, hn, rfl⟩ := List.mem_map.mp hitem
    exact newline_notMem_imports hn

theorem unbrokenAt_project : UnbrokenAt projectValues [] (ProjectSheet.make m s project).data where
  values := by
    intro name h
    simp only [projectValues, List.mem_cons, List.not_mem_nil, or_false] at h
    rcases h with rfl | rfl
    · rw [slotText_makeProject_package]
      exact hpackage
    · have hname : '\n' ∉ (Naming.applicationClass project).toList := fun hmem =>
        absurd (alphanumeric_applicationClass project _ hmem) (by decide)
      rw [slotText_makeProject_application]
      exact hname
  lists := fun _ h => nomatch h

end Sheets

end CrudStack
