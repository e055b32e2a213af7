/-
# `CrudStack.Proofs.Disk.Texts` — texts of files

A text is read from a file if the path leads to a file whose bytes are its UTF-8 (`readText_eq_ok`).
-/
import CrudStack.Disk
import CrudStack.Proofs.Success

namespace CrudStack.Disk

variable {d : Disk} {p : Path} {text : String}

theorem fromUTF8?_eq_some {bytes : ByteArray} :
    String.fromUTF8? bytes = some text ↔ bytes = text.toUTF8 := by
  rw [String.fromUTF8?]
  constructor
  · intro h
    split at h
    · cases h
      rfl
    · cases h
  · rintro rfl
    exact dif_pos text.isValidUTF8

theorem readText_eq_ok :
    d.readText p = .ok text ↔ ∃ l, d.lookup p = .ok (l, .file text.toUTF8) := by
  have htext : d.readText p = .ok text ↔ d.readBytes p = .ok text.toUTF8 := by
    rw [readText, bind_eq_ok]
    constructor
    · rintro ⟨bytes, hbytes, h⟩
      cases hdecoded : String.fromUTF8? bytes with
      | none =>
          rw [hdecoded] at h
          cases h
      | some read =>
          rw [hdecoded] at h
          cases h
          rw [hbytes, fromUTF8?_eq_some.mp hdecoded]
    · intro h
      exact ⟨_, h, by rw [fromUTF8?_eq_some.mpr rfl]; rfl⟩
  rw [htext, readBytes, bind_eq_ok]
  constructor
  · rintro ⟨⟨l, e⟩, hlookup, h⟩
    cases e with
    | directory => cases h
    | file content =>
        cases h
        exact ⟨l, hlookup⟩
  · rintro ⟨l, hlookup⟩
    exact ⟨_, hlookup, rfl⟩

theorem hasFile_of_readText (h : d.readText p = .ok text) : d.hasFile p = true := by
  obtain ⟨l, hlookup⟩ := readText_eq_ok.mp h
  rw [hasFile, hlookup]

theorem hasAny_of_readText (h : d.readText p = .ok text) : d.hasAny p = true := by
  obtain ⟨l, hlookup⟩ := readText_eq_ok.mp h
  rw [hasAny, hlookup]
  rfl

end CrudStack.Disk
