/-
# `CrudStack.Proofs.Settings.Named` — what becomes of a file that was named

A file that is found is layered between the defaults and the variables, and its settings exist only
if it can be read and is TOML.  That a file is found nowhere is not a fault, whether it was named or
not: it leaves no layer, and the settings are those of the variables over the defaults.
-/
import CrudStack.Proofs.Success
import CrudStack.Settings.Load

namespace CrudStack.Settings

section Named

variable {d : Disk} {environment : List (String × String)} {path : Path} {c : Settings}

/-- The layer of a file that is found is that of its text; one that is not found has none. -/
theorem fileLayer_eq_ok {layer : Option Tree} :
    fileLayer d path = .ok layer ↔
      (∃ found text document, (lookedFor d path).find? d.hasFile = some found ∧
        d.readText found = .ok text ∧ Toml.parse text = some document ∧
        layer = some (.ofDocument (.file found) document)) ∨
      ((lookedFor d path).find? d.hasFile = none ∧ layer = none) := by
  rw [fileLayer]
  cases hfound : (lookedFor d path).find? d.hasFile with
  | none => simp [eq_comm]
  | some found =>
      cases htext : d.readText found with
      | error fault => simp [htext]
      | ok text =>
          cases hparse : Toml.parse text with
          | none => simp [htext, textLayer, hparse, Except.map]
          | some document => simp [htext, textLayer, hparse, Except.map, eq_comm]

/-- With a named file settings are one of two things: its text between the defaults and the
variables, or, where there is no such file, the variables over the defaults. -/
theorem load_named_eq_ok :
    load d environment (some path) = .ok c ↔
      (∃ found text document, (lookedFor d path).find? d.hasFile = some found ∧
        d.readText found = .ok text ∧ Toml.parse text = some document ∧
        ofTree ((defaultLayer.mergeInto (.ofDocument (.file found) document)).mergeInto
          (Environment.layer environment)) = .ok c) ∨
      ((∀ place ∈ lookedFor d path, d.hasFile place = false) ∧
        ofTree (defaultLayer.mergeInto (Environment.layer environment)) = .ok c) := by
  have hnowhere : (lookedFor d path).find? d.hasFile = none ↔
      ∀ place ∈ lookedFor d path, d.hasFile place = false := by
    simp [List.find?_eq_none]
  rw [load, namedLayer, bind_eq_ok]
  simp only [fileLayer_eq_ok, mapError_eq_ok, hnowhere]
  constructor
  · rintro ⟨_, ⟨found, text, document, hfound, htext, hparse, rfl⟩ | ⟨hnone, rfl⟩, hread⟩
    · exact .inl ⟨found, text, document, hfound, htext, hparse, hread⟩
    · exact .inr ⟨hnone, hread⟩
  · rintro (⟨found, text, document, hfound, htext, hparse, hread⟩ | ⟨hnone, hread⟩)
    · exact ⟨_, .inl ⟨found, text, document, hfound, htext, hparse, rfl⟩, hread⟩
    · exact ⟨_, .inr ⟨hnone, rfl⟩, hread⟩

/-- A file is named that is not there, and the settings are the defaults. -/
theorem load_missing_file : load Disk.empty [] (some ⟨"missing.toml"⟩) = .ok {} := by
  decide +kernel

end Named

end CrudStack.Settings
