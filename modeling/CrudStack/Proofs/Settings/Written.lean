/-
# `CrudStack.Proofs.Settings.Written` — settings that were written are read back

Settings are written as a TOML text without what is unset, and read by merging what a text says over
the defaults.  A text says the data of its document and nothing about their order
(`ofDocument_sameAs`), so the layer of a written text is the layer of the document
(`textLayer_of_isTextOf`); the layer of the defaults, which is taken for granted elsewhere, is the
one of their text too.

A key that is set has its value in that layer, and a key that is unset has none (`at?_document`).
What is read over the defaults is what was written, then, since a value is read as what it is
(`read_tree`) and every default of a key that can be unset is to be unset.  Main statement:
`ofToml_toToml`.
-/
import CrudStack.Proofs.Settings.Layered
import CrudStack.Proofs.Toml.Parsed
import CrudStack.Proofs.Toml.Written
import Mathlib.Data.List.Sort

namespace CrudStack.Settings

/-! ## The layer of a text -/

/-- Tables with increasing keys that find the same are the same. -/
theorem increasing_ext {es es' : List (String × Tree)} (h : Tree.Increasing es)
    (h' : Tree.Increasing es') (hsame : ∀ key, es.lookup key = es'.lookup key) : es = es' := by
  have hmem : ∀ {fs gs : List (String × Tree)}, Tree.Increasing fs →
      (∀ key, fs.lookup key = gs.lookup key) → ∀ e ∈ fs, e ∈ gs := by
    intro fs gs hfs heq e he
    have hfound : gs.lookup e.1 = some e.2 := by
      rw [← heq, Tree.lookup_of_mem_increasing hfs he]
    exact Lookup.mem_of_lookup hfound
  have hirrefl : Std.Irrefl fun a b : String × Tree => a.1 < b.1 := ⟨fun a => lt_irrefl a.1⟩
  have hantisymm : Std.Antisymm fun a b : String × Tree => a.1 < b.1 :=
    ⟨fun a b hab hba => absurd hba (lt_asymm hab)⟩
  refine List.Pairwise.eq_of_mem_iff h h' fun e => ⟨hmem h hsame e, hmem h' (fun key => ?_) e⟩
  exact (hsame key).symm

section SameAs

variable (source : Source)

mutual

/-- Documents with the same data make the same layer. -/
theorem ofDocument_sameAs : ∀ d d' : Document, SameAs d d' → d.DistinctKeys → d'.DistinctKeys →
    Tree.ofDocument source d' = Tree.ofDocument source d
  | .null, _, h, _, _ => congrArg _ h
  | .bool _, _, h, _, _ => congrArg _ h
  | .integer _, _, h, _, _ => congrArg _ h
  | .double _, _, h, _, _ => congrArg _ h
  | .text _, _, h, _, _ => congrArg _ h
  | .list ds, _, ⟨ds', hds', h⟩, hkeys, hkeys' => by
      subst hds'
      exact congrArg (Tree.list source) (ofItems_same ds ds' h hkeys hkeys')
  | .table es, _, ⟨es', hes', hnames, h⟩, hkeys, hkeys' => by
      subst hes'
      have hfound := ofEntries_same es es' h hkeys.2 hkeys'
      have hnone : ∀ key, es.lookup key = none → es'.lookup key = none := fun key hkey =>
        Lookup.lookup_eq_none.mpr fun hmem => Lookup.lookup_eq_none.mp hkey (hnames hmem)
      refine congrArg (Tree.table source) (increasing_ext (increasing_ofEntries List.Pairwise.nil)
        (increasing_ofEntries List.Pairwise.nil) fun key => ?_)
      rw [lookup_ofEntries hkeys.1, lookup_ofEntries hkeys'.1]
      cases hlookup : es.lookup key with
      | none => rw [hnone key hlookup]
      | some d =>
          obtain ⟨d', hd', hsame⟩ := hfound (key, d) (Lookup.mem_of_lookup hlookup)
          rw [hd', Option.map_some, Option.map_some, hsame]

/-- And so do lists of them. -/
theorem ofItems_same : ∀ ds ds' : List Document, ItemsSame ds ds' → ItemsDistinctKeys ds →
    ItemsDistinctKeys ds' → Tree.ofItems source ds' = Tree.ofItems source ds
  | [], _, h, _, _ => congrArg _ h
  | d :: ds, _, ⟨d', rest, hrest, hd, h⟩, hkeys, hkeys' => by
      subst hrest
      rw [Tree.ofItems, Tree.ofItems, ofDocument_sameAs d d' hd hkeys.1 hkeys'.1,
        ofItems_same ds rest h hkeys.2 hkeys'.2]

/-- The entries of a table are found in the other one with the same layers. -/
theorem ofEntries_same : ∀ es es' : List (String × Document), EntriesSame es es' →
    EntriesDistinctKeys es → (Document.table es').DistinctKeys →
    ∀ e ∈ es, ∃ d', es'.lookup e.1 = some d' ∧
      Tree.ofDocument source d' = Tree.ofDocument source e.2
  | [], _, _, _, _ => nofun
  | (key, d) :: es, es', ⟨⟨d', hd', hd⟩, h⟩, hkeys, hkeys' => by
      intro e he
      rcases List.mem_cons.mp he with rfl | he
      · exact ⟨d', hd', ofDocument_sameAs d d' hd hkeys.1 (distinctKeys_of_lookup hkeys' hd')⟩
      · exact ofEntries_same es es' h hkeys.2 hkeys' e he

end

end SameAs

/-- The layer of a text of a table is the layer of the table, whatever order the text has. -/
theorem textLayer_of_isTextOf {es : List (String × Document)} {text : String}
    (h : Toml.IsTextOf es text) (hlevels : (Document.table es).levels ≤ Toml.levelLimit)
    (hkeys : (Document.table es).DistinctKeys) (source : Source) :
    textLayer source text = .ok (.ofDocument source (.table es)) := by
  obtain ⟨d, hparse, hsame⟩ := Toml.parse_of_isTextOf h hlevels
  rw [textLayer, hparse,
    ← ofDocument_sameAs source _ d hsame hkeys (Toml.distinctKeys_of_parse hparse)]

/-! ## The document of settings -/

section Document

variable (s : Settings)

theorem writable_document : Toml.Writable s.document := by
  have hport : ∀ port : UInt16, -(Toml.integerLimit : Int) ≤ (port.toNat : Int) ∧
      (port.toNat : Int) < Toml.integerLimit := by
    intro port
    have hsmall := port.toNat_lt
    have hlimit : Toml.integerLimit = 2 ^ 63 := rfl
    omega
  obtain ⟨⟨name⟩, ⟨group, java, boot, port, database, ⟨url, username, password⟩⟩,
    ⟨apiBaseUrl, devPort, title⟩⟩ := s
  cases name <;> cases url <;> cases title <;>
    simp [document, documentEntries, optionalEntry, Toml.Writable, Toml.EntriesWritable, hport]

theorem levels_document : s.document.levels ≤ Toml.levelLimit := by
  obtain ⟨⟨name⟩, ⟨group, java, boot, port, database, ⟨url, username, password⟩⟩,
    ⟨apiBaseUrl, devPort, title⟩⟩ := s
  cases name <;> cases url <;> cases title <;>
    simp [document, documentEntries, optionalEntry, Document.levels, entriesLevels,
      Toml.levelLimit]

/-- The text of settings makes the layer of their document. -/
theorem textLayer_toToml (source : Source) :
    textLayer source s.toToml = .ok (.ofDocument source s.document) :=
  textLayer_of_isTextOf (Toml.isTextOf_write s.writable_document) s.levels_document
    s.distinctKeys_document source

end Document

/-! ## Values of keys -/

/-- A value as it stands in a document. -/
def Setting.document : Setting → Document
  | .text t => .text t
  | .port p => .integer p.toNat
  | .database d => .text d.label

/-- A key that is set has its value in the document, and a key that is unset is left out. -/
theorem at?_document (s : Settings) (k : Key) :
    s.document.at? k.path = (k.get s).map Setting.document := by
  obtain ⟨⟨name⟩, ⟨group, java, boot, port, database, ⟨url, username, password⟩⟩,
    ⟨apiBaseUrl, devPort, title⟩⟩ := s
  cases k with
  | projectName => cases name <;> rfl
  | datasourceUrl => cases url <;> rfl
  | datasourceUsername => cases url <;> rfl
  | datasourcePassword => cases url <;> rfl
  | title => cases title <;> rfl
  | _ => rfl

theorem portOf_toNat (source : Source) (port : UInt16) :
    portOf (.leaf source (.signed port.toNat)) = .ok port := by
  have hsmall := port.toNat_lt
  have hrange : 0 ≤ (port.toNat : Int) ∧ (port.toNat : Int) < 65536 := by omega
  have hback : UInt16.ofNat (port.toNat : Int).toNat = port := by
    rw [Int.toNat_natCast, UInt16.ofNat_toNat]
  rw [portOf, portOfInt, if_pos hrange, hback]

theorem ofLabel?_label (database : Database) :
    Database.ofLabel? database.label = some database := by
  cases database <;> rfl

/-- The value of a key is read as what it is. -/
theorem read_document (source : Source) {s : Settings} {k : Key} {value : Setting}
    (h : k.get s = some value) : k.read (.ofDocument source value.document) = .ok value := by
  have htext : ∀ found : Option String, found.map Setting.text = some value →
      (textOf (.ofDocument source value.document)).map Setting.text = .ok value := by
    intro found hfound
    obtain ⟨t, -, rfl⟩ := Option.map_eq_some_iff.mp hfound
    rfl
  have hport : ∀ port, Setting.port port = value →
      (portOf (.ofDocument source value.document)).map Setting.port = .ok value := by
    rintro port rfl
    exact congrArg _ (portOf_toNat source port)
  cases k with
  | serverPort => exact hport _ (Option.some.inj h)
  | devPort => exact hport _ (Option.some.inj h)
  | database =>
      obtain rfl := Option.some.inj h
      show (databaseNamed source s.backend.database.label).map _ = _
      rw [databaseNamed, ofLabel?_label]
      rfl
  | projectName => exact htext _ h
  | datasourceUrl => exact htext _ h
  | title => exact htext _ h
  | groupId => exact htext (some _) h
  | javaVersion => exact htext (some _) h
  | springBootVersion => exact htext (some _) h
  | datasourceUsername => exact htext (some _) h
  | datasourcePassword => exact htext (some _) h
  | apiBaseUrl => exact htext (some _) h

/-- A key that can be unset is unset by default. -/
theorem get_default {s : Settings} {k : Key} (h : k.get s = none) : k.get {} = none := by
  cases k <;> first | rfl | cases h

/-- The document of settings says for every key what the settings have. -/
theorem says_document (s : Settings) (k : Key) :
    k.Says ((s.document.at? k.path).map (.ofDocument .text)) (k.get s) := by
  rw [at?_document]
  cases hget : k.get s with
  | none => exact (get_default hget).symm
  | some value => exact ⟨value, read_document .text hget, rfl⟩

/-! ## Written and read -/

/-- Settings that were written as a text and read from it over the defaults are the same again: any
texts, any ports, any key set or unset.  The text is one of its document, in which just those keys
have a value that are set; and the defaults that it is read over are what their own text says. -/
theorem ofToml_toToml (s : Settings) :
    Toml.IsTextOf s.documentEntries s.toToml ∧
      (∀ k : Key, s.document.at? k.path = (k.get s).map Setting.document) ∧
      textLayer .text (toToml {}) = .ok defaultLayer ∧
      ofToml s.toToml = .ok s := by
  refine ⟨Toml.isTextOf_write s.writable_document, at?_document s, textLayer_toToml {} .text, ?_⟩
  have hholds := holds_document (sectionsAreTables_document s) (distinctKeys_document s) .text
  rw [ofToml, textLayer_toToml, ok_bind, mapError_eq_ok]
  exact hholds.ofTree_eq_ok.mpr (says_document s)

end CrudStack.Settings
