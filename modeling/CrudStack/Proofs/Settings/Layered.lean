/-
# `CrudStack.Proofs.Settings.Layered` — settings of a file and of variables, key by key

Settings come in three layers: the defaults, the file and the variables.  For each key on its own
the uppermost layer that has a value counts, and settings exist if and only if all these values can
be read (`load_layered`).  What stands below such a value does not count, whatever it is.
-/
import CrudStack.Proofs.Disk.Texts
import CrudStack.Proofs.Settings.Document
import CrudStack.Proofs.Settings.Unsourced
import CrudStack.Proofs.Settings.Variables
import CrudStack.Settings.Load

namespace CrudStack.Settings

/-! ## One value over another -/

section Overlaid

variable {k : Key} {s : Setting} {old new : Option Tree} {x : Option Setting}

/-- A table is no value of a key. -/
theorem read_table (k : Key) (source : Source) (es : List (String × Tree)) :
    k.read (.table source es) ≠ .ok s := by
  have hdatabase : ∀ db, databaseOf (.table source es) ≠ .ok db := fun db h => by
    cases es with
    | nil => cases h
    | cons e es =>
        rw [databaseOf] at h
        cases hnamed : databaseNamed source e.1 <;> rw [hnamed] at h <;> cases h
  intro h
  cases k with
  | database =>
      obtain ⟨db, hdb, -⟩ := map_eq_ok.mp h
      exact hdatabase db hdb
  | _ => cases h

/-- What a value is read as does not depend on the one below it. -/
theorem read_upon (k : Key) (old : Option Tree) (new : Tree) :
    k.read (Tree.upon old new) = .ok s ↔ k.read new = .ok s := by
  cases old with
  | none => exact Iff.rfl
  | some old =>
      cases new with
      | table source es => exact iff_of_false (read_table k _ _) (read_table k _ _)
      | _ => exact Iff.rfl

theorem says_overlaid : k.Says (Tree.overlaid old new) x ↔ k.Says (new.or old) x := by
  cases new with
  | none => exact Iff.rfl
  | some new => exact exists_congr fun s => and_congr_left fun _ => read_upon k old new

end Overlaid

/-! ## The layer of the defaults -/

/-- The layer of the defaults says for every key what the default is. -/
theorem says_defaultLayer (k : Key) {x : Option Setting} :
    k.Says (defaultLayer.at? k.path) x ↔ x = k.get {} := by
  have hread : ∀ {t s}, k.read t = .ok s → k.get {} = some s →
      (k.Says (some t) x ↔ x = k.get {}) := fun {t s} hs hdefault => by
    rw [hdefault]
    constructor
    · rintro ⟨s', hs', rfl⟩
      rw [Except.ok.inj (hs.symm.trans hs')]
    · rintro rfl
      exact ⟨s, hs, rfl⟩
  cases k with
  | projectName => exact Iff.rfl
  | groupId => exact hread rfl rfl
  | javaVersion => exact hread rfl rfl
  | springBootVersion => exact hread rfl rfl
  | serverPort => exact hread (t := .leaf .text (.signed 8080)) (s := .port 8080) rfl rfl
  | database => exact hread rfl rfl
  | datasourceUrl => exact Iff.rfl
  | datasourceUsername => exact hread rfl rfl
  | datasourcePassword => exact hread rfl rfl
  | apiBaseUrl => exact hread rfl rfl
  | devPort => exact hread (t := .leaf .text (.signed 5173)) (s := .port 5173) rfl rfl
  | title => exact Iff.rfl

theorem sectionsAreTables_document (s : Settings) : SectionsAreTables s.document where
  root := ⟨_, rfl⟩
  sections := by
    intro path hpath sub hsub
    simp only [sectionPaths, List.mem_cons, List.not_mem_nil, or_false] at hpath
    obtain rfl | rfl | rfl | rfl := hpath <;> (cases hsub; exact ⟨_, rfl⟩)

theorem distinctKeys_document (s : Settings) : s.document.DistinctKeys := by
  obtain ⟨⟨name⟩, ⟨group, java, boot, port, database, ⟨url, username, password⟩⟩,
    ⟨apiBaseUrl, devPort, title⟩⟩ := s
  cases name <;> cases url <;> cases title <;>
    simp [document, documentEntries, optionalEntry, Document.DistinctKeys, EntriesDistinctKeys]

theorem leads_defaultLayer (k : Key) : defaultLayer.Leads k.path :=
  (sectionsAreTables_document {}).leads (distinctKeys_document {}) .text k

/-! ## Layers over the defaults -/

/-- A layer has tables where sections are, and says for every key what was found for it, or else the
default. -/
structure Holds (t : Tree) (found : Key → Option Tree) : Prop where
  leads : ∀ k : Key, t.Leads k.path
  value : ∀ (k : Key) (x : Option Setting), k.Says (t.at? k.path) x ↔ k.Says (found k) x

theorem holds_defaultLayer : Holds defaultLayer fun _ => none :=
  ⟨leads_defaultLayer, fun k _ => says_defaultLayer k⟩

theorem says_or (k : Key) (upper : Option Tree) {lower lower' : Option Tree}
    (h : ∀ x, k.Says lower x ↔ k.Says lower' x) (x : Option Setting) :
    k.Says (upper.or lower) x ↔ k.Says (upper.or lower') x := by
  cases upper with
  | none => exact h x
  | some v => exact Iff.rfl

/-- A layer that is merged over another one counts first. -/
theorem Holds.mergeInto {t new : Tree} {found : Key → Option Tree} (h : Holds t found)
    (hleads : ∀ k : Key, new.Leads k.path) :
    Holds (t.mergeInto new) fun k => (new.at? k.path).or (found k) where
  leads := fun k => (Tree.at?_mergeInto (h.leads k) (hleads k)).2
  value := fun k x => by
    rw [(Tree.at?_mergeInto (h.leads k) (hleads k)).1, says_overlaid]
    exact says_or k _ (h.value k) x

theorem Holds.congr {t : Tree} {found found' : Key → Option Tree} (h : Holds t found)
    (hsame : ∀ (k : Key) (x : Option Setting), k.Says (found k) x ↔ k.Says (found' k) x) :
    Holds t found' :=
  ⟨h.leads, fun k x => (h.value k x).trans (hsame k x)⟩

theorem Holds.ofTree_eq_ok {t : Tree} {found : Key → Option Tree} (h : Holds t found)
    {c : Settings} : ofTree t = .ok c ↔ ∀ k : Key, k.Says (found k) (k.get c) :=
  (Settings.ofTree_eq_ok h.leads).trans (forall_congr' fun k => h.value k _)

theorem readable_iff {k : Key} {found : Option Tree} :
    Readable (fun t => k.read t) found ↔ ∃ x, k.Says found x := by
  cases found with
  | none => exact ⟨fun _ => ⟨_, rfl⟩, fun _ => trivial⟩
  | some t =>
      constructor
      · rintro ⟨s, hs⟩
        exact ⟨_, s, hs, rfl⟩
      · rintro ⟨x, s, hs, -⟩
        exact ⟨s, hs⟩

/-- Settings exist where everything that was found can be read. -/
theorem Holds.isOk {t : Tree} {found : Key → Option Tree} (h : Holds t found)
    (hread : ∀ k : Key, Readable (fun t => k.read t) (found k)) : ∃ c, ofTree t = .ok c :=
  ofTree_isOk h.leads fun k => by
    obtain ⟨x, hx⟩ := readable_iff.mp (hread k)
    exact readable_iff.mpr ⟨x, (h.value k x).mpr hx⟩

/-! ## The layer of the file -/

/-- The file of a load is TOML and has tables where sections are. -/
structure FileSays (d : Disk) (named : Option Path) (text : String) (document : Document) :
    Prop where
  read : d.readText (named.getD localFile) = .ok text
  parse : Toml.parse text = some document
  sections : SectionsAreTables document

section File

variable {d : Disk} {named : Option Path} {path : Path} {text : String} {document : Document}

/-- A file that is in the working directory is found there. -/
theorem find?_lookedFor (h : d.hasFile path = true) :
    (lookedFor d path).find? d.hasFile = some path := by
  rw [lookedFor]
  split
  · exact List.find?_cons_of_pos h
  · rw [List.range_succ_eq_map, List.map_cons]
    have hfirst : (⟨String.join (List.replicate 0 "../") ++ path.text⟩ : Path) = path := by
      simp [String.join]
    rw [hfirst]
    exact List.find?_cons_of_pos h

theorem fileLayer_of_readText (h : d.readText path = .ok text) :
    fileLayer d path = (textLayer (.file path) text).map some := by
  rw [fileLayer, find?_lookedFor (Disk.hasFile_of_readText h)]
  simp only [h]

theorem namedLayer_of_readText (h : d.readText (named.getD localFile) = .ok text) :
    namedLayer d named = (textLayer (.file (named.getD localFile)) text).map some := by
  cases named with
  | none =>
      have hlocal : d.hasAny localFile = true := Disk.hasAny_of_readText h
      rw [namedLayer, if_pos hlocal]
      exact fileLayer_of_readText h
  | some path => exact fileLayer_of_readText h

theorem FileSays.layer (h : FileSays d named text document) :
    namedLayer d named = .ok (some (.ofDocument (.file (named.getD localFile)) document)) := by
  rw [namedLayer_of_readText h.read, textLayer, h.parse]
  rfl

end File

/-! ## Three layers -/

/-- The value that counts for a key, if there is one above the defaults: what a variable gives to
it, or else what the document says. -/
def counting? (environment : List (String × String)) (document : Document) (k : Key) :
    Option Tree :=
  (Environment.given? environment k).or ((document.at? k.path).map (.ofDocument .text))

theorem impartial_read (k : Key) : IsImpartial fun t => k.read t := by
  have hput : ∀ {A : Type} {read : Tree → Except Fault A} {put : A → Setting},
      IsImpartial read → IsImpartial fun t => (read t).map put := fun {A read put} h t => by
    show (read t.unsourced).map put = ((read t).map put).mapError _
    rw [h t]
    cases read t <;> rfl
  cases k with
  | serverPort => exact hput impartial_portOf
  | devPort => exact hput impartial_portOf
  | database => exact hput impartial_databaseOf
  | _ => exact hput impartial_textOf

/-- What a document says for a key does not depend on where the document comes from. -/
theorem says_ofDocument (k : Key) (source : Source) (found : Option Document)
    {x : Option Setting} :
    k.Says (found.map (.ofDocument source)) x ↔ k.Says (found.map (.ofDocument .text)) x := by
  cases found with
  | none => exact Iff.rfl
  | some d =>
      refine exists_congr fun s => and_congr_left fun _ => ?_
      rw [← Tree.ofDocument_unsourced source d]
      exact (mapError_eq_ok.symm.trans (by rw [← impartial_read k]))

section Layers

variable {d d' : Disk} {named named' : Option Path} {text text' : String}
  {document document' : Document} {environment : List (String × String)}
  {c c' : Settings}

/-- Over the defaults a document says for each key what it has there. -/
theorem holds_document (hsections : SectionsAreTables document) (hkeys : document.DistinctKeys)
    (source : Source) :
    Holds (defaultLayer.mergeInto (.ofDocument source document)) fun k =>
      (document.at? k.path).map (.ofDocument .text) := by
  refine (holds_defaultLayer.mergeInto (hsections.leads hkeys source)).congr fun k x => ?_
  rw [at?_ofDocument hkeys, Option.or_none]
  exact says_ofDocument k source _

/-- Variables count before what they are layered over. -/
theorem Holds.variables {t : Tree} {found : Key → Option Tree} (h : Holds t found)
    (hvariables : Environment.NamesKeys environment) :
    Holds (t.mergeInto (Environment.layer environment)) fun k =>
      (Environment.given? environment k).or (found k) := by
  refine (h.mergeInto fun k => (Environment.at?_layer hvariables k).2).congr fun k x => ?_
  rw [(Environment.at?_layer hvariables k).1]

/-- Settings are, for each key, what the uppermost layer says that has a value. -/
theorem load_eq_ok (hfile : FileSays d named text document)
    (hvariables : Environment.NamesKeys environment) :
    load d environment named = .ok c ↔
      ∀ k : Key, k.Says (counting? environment document k) (k.get c) := by
  rw [load, hfile.layer, ok_bind, mapError_eq_ok]
  exact ((holds_document hfile.sections (Toml.distinctKeys_of_parse hfile.parse) _).variables
    hvariables).ofTree_eq_ok

/-- A layer of no variables changes no more than sources. -/
theorem layer_of_isForeign (h : ∀ v ∈ environment, Environment.IsForeign v.1) :
    Environment.layer environment = .table .environment [] := by
  suffices ∀ tree, Environment.extend tree environment = tree from this _
  intro tree
  induction environment generalizing tree with
  | nil => rfl
  | cons v rest ih =>
      obtain ⟨hv, hrest⟩ := List.forall_mem_cons.mp h
      rw [Environment.extend, List.foldl_cons, Environment.path?_of_isForeign hv]
      exact ih hrest tree

/-- An error that blames nobody in particular. -/
def LoadError.unsourced : LoadError → LoadError
  | misfit f => misfit f.unsourced
  | e => e

theorem unsourced_ofTree (t : Tree) :
    ((ofTree t).mapError LoadError.misfit).mapError LoadError.unsourced =
      (ofTree t.unsourced).mapError LoadError.misfit := by
  rw [ofTree_unsourced t]
  cases ofTree t <;> rfl

/-- Without variables settings are loaded from a file as they are read from its text, and a fault
differs only in the source that it names. -/
theorem load_eq_ofToml (hread : d.readText (named.getD localFile) = .ok text)
    (hforeign : ∀ v ∈ environment, Environment.IsForeign v.1) :
    (load d environment named).mapError LoadError.unsourced =
      (ofToml text).mapError LoadError.unsourced := by
  rw [load, namedLayer_of_readText hread, layer_of_isForeign hforeign, ofToml, textLayer, textLayer]
  cases hparse : Toml.parse text with
  | none => rfl
  | some document =>
      obtain ⟨es, rfl⟩ := Toml.parse_table hparse
      show ((ofTree _).mapError _).mapError _ = ((ofTree _).mapError _).mapError _
      rw [unsourced_ofTree, unsourced_ofTree]
      simp only [Tree.mergeInto_unsourced, Tree.ofDocument_unsourced]
      rfl

/-- Keys for which the same counts have the same value. -/
theorem get_eq_of_counting {k : Key} {found : Option Tree} {x x' : Option Setting}
    (h : k.Says found x) (h' : k.Says found x') : x' = x := by
  cases found with
  | none => exact h'.trans h.symm
  | some t =>
      obtain ⟨s, hs, rfl⟩ := h
      obtain ⟨s', hs', rfl⟩ := h'
      rw [Except.ok.inj (hs.symm.trans hs')]

/-- One more variable gives a value to its own key, and to no other one. -/
theorem given?_insert {before after : List (String × String)} {name value : String} {k other : Key}
    (hname : Environment.Names name k) (hne : other ≠ k) :
    Environment.given? (before ++ (name, value) :: after) other =
      Environment.given? (before ++ after) other := by
  have hnot : ¬ Environment.Names name other := fun h => hne (Environment.names_injective h hname)
  simp [Environment.given?, List.find?_append, hnot]

theorem namesKeys_insert {before after : List (String × String)} {name value : String} {k : Key}
    (h : Environment.NamesKeys (before ++ after)) (hname : Environment.Names name k)
    (hfree : ∀ v ∈ before ++ after, ¬ Environment.Names v.1 k) :
    Environment.NamesKeys (before ++ (name, value) :: after) := by
  have hown : ∀ {v}, v ∈ before ++ after → ∀ k', Environment.Names name k' →
      ¬ Environment.Names v.1 k' := fun hv k' hk' =>
    Environment.names_injective hname hk' ▸ hfree _ hv
  constructor
  · intro v hv
    obtain rfl | hv : v = (name, value) ∨ v ∈ before ++ after := by
      simpa [or_left_comm] using hv
    · exact .inr ⟨k, hname⟩
    · exact h.names v hv
  · have hsymm : ∀ {v w : String × String},
        (∀ k, Environment.Names v.1 k → ¬ Environment.Names w.1 k) →
          ∀ k, Environment.Names w.1 k → ¬ Environment.Names v.1 k :=
      fun h k hw hv => h k hv hw
    exact (List.pairwise_middle hsymm).mpr (List.pairwise_cons.mpr ⟨fun v hv => hown hv, h.apart⟩)

/-- Layering is pointwise.  For each key the value of a variable counts, or else that of the file,
or else the default, and settings exist if and only if all values that count can be read.  What the
file has for a key that a variable names makes no difference, whatever it is; one more key in the
variables or in the file makes none for the others; and without variables the settings, or the fault
but for its source, are those of the file's text. -/
theorem load_layered (hfile : FileSays d named text document)
    (hvariables : Environment.NamesKeys environment) :
    (∀ c, load d environment named = .ok c ↔
      ∀ k : Key, k.Says (counting? environment document k) (k.get c)) ∧
    (∀ {d' named' text' document'}, FileSays d' named' text' document' →
      (∀ k : Key, (∀ v ∈ environment, ¬ Environment.Names v.1 k) →
        document'.at? k.path = document.at? k.path) →
      ∀ c, load d' environment named' = .ok c ↔ load d environment named = .ok c) ∧
    (∀ {before after name value} {k : Key}, environment = before ++ after →
      Environment.Names name k → (∀ v ∈ environment, ¬ Environment.Names v.1 k) →
      ∀ {c c'}, load d environment named = .ok c →
        load d (before ++ (name, value) :: after) named = .ok c' →
        ∀ other ≠ k, other.get c' = other.get c) ∧
    (∀ {d' named' text' document'} {k : Key}, FileSays d' named' text' document' →
      (∀ other ≠ k, document'.at? other.path = document.at? other.path) →
      ∀ {c c'}, load d environment named = .ok c → load d' environment named' = .ok c' →
        ∀ other ≠ k, other.get c' = other.get c) ∧
    ((∀ v ∈ environment, Environment.IsForeign v.1) →
      (load d environment named).mapError LoadError.unsourced =
        (ofToml text).mapError LoadError.unsourced) := by
  refine ⟨fun c => load_eq_ok hfile hvariables, ?_, ?_, ?_, load_eq_ofToml hfile.read⟩
  · intro d' named' text' document' hfile' hsame c
    rw [load_eq_ok hfile hvariables, load_eq_ok hfile' hvariables]
    refine forall_congr' fun k => ?_
    rw [counting?, counting?]
    cases hgiven : Environment.given? environment k with
    | some v => exact Iff.rfl
    | none => rw [hsame k (Environment.given?_eq_none.mp hgiven)]
  · rintro before after name value k rfl hname hfree c c' hc hc' other hne
    have hvalue := (load_eq_ok hfile hvariables).mp hc other
    have hvalue' := (load_eq_ok hfile (namesKeys_insert hvariables hname hfree)).mp hc' other
    rw [counting?, given?_insert hname hne] at hvalue'
    exact get_eq_of_counting hvalue hvalue'
  · intro d' named' text' document' k hfile' hsame c c' hc hc' other hne
    have hvalue := (load_eq_ok hfile hvariables).mp hc other
    have hvalue' := (load_eq_ok hfile' hvariables).mp hc' other
    rw [counting?, hsame other hne] at hvalue'
    exact get_eq_of_counting hvalue hvalue'

end Layers

/-! ## A number where a text should be -/

/-- A text with a number for a key that wants a text. -/
def numberText : String := "[backend]\ngroup_id = 5\n"

/-- What it says. -/
def numberDocument : Document := .table [("backend", .table [("group_id", .integer 5)])]

/-- A disk with the text in the local file. -/
def numberDisk : Disk := Disk.empty.put ["work", "ovelha.toml"] (.file numberText.toUTF8)

/-- A variable for the same key. -/
def groupVariables : List (String × String) := [("OVELHA_BACKEND__GROUP_ID", "org.acme")]

theorem numberFile : FileSays numberDisk none numberText numberDocument where
  read := Disk.readText_eq_ok.mpr ⟨["work", "ovelha.toml"], rfl⟩
  parse := by
    have hchars : numberText.toList = ['[', 'b', 'a', 'c', 'k', 'e', 'n', 'd', ']', '\n', 'g', 'r',
        'o', 'u', 'p', '_', 'i', 'd', ' ', '=', ' ', '5', '\n'] := by decide +kernel
    rw [Toml.parse, hchars]
    rfl
  sections :=
    { root := ⟨_, rfl⟩
      sections := by
        intro path hpath sub hsub
        simp only [sectionPaths, List.mem_cons, List.not_mem_nil, or_false] at hpath
        obtain rfl | rfl | rfl | rfl := hpath <;> cases hsub
        exact ⟨_, rfl⟩ }

theorem groupVariables_names :
    Environment.Names "OVELHA_BACKEND__GROUP_ID" .groupId := by decide +kernel

theorem namesKeys_groupVariables : Environment.NamesKeys groupVariables where
  names := fun _ hv => .inr ⟨.groupId, List.mem_singleton.mp hv ▸ groupVariables_names⟩
  apart := List.pairwise_singleton _ _

/-- The variable counts, and the number below it is not even looked at. -/
theorem load_layered_number :
    FileSays numberDisk none numberText numberDocument ∧
      Environment.NamesKeys groupVariables ∧
      load numberDisk groupVariables none = .ok { backend := { groupId := "org.acme" } } := by
  refine ⟨numberFile, namesKeys_groupVariables,
    ((load_layered numberFile namesKeys_groupVariables).1 _).mpr fun k => ?_⟩
  have hvalue : Environment.valueOf "org.acme" = .leaf .environment (.text "org.acme") := by rfl
  by_cases hk : k = .groupId
  · subst hk
    have hgiven : Environment.given? groupVariables .groupId =
        some (.leaf .environment (.text "org.acme")) := by
      simp [Environment.given?, groupVariables, groupVariables_names, hvalue]
    rw [counting?, hgiven]
    exact ⟨.text "org.acme", rfl, rfl⟩
  · have hgiven : Environment.given? groupVariables k = none :=
      Environment.given?_eq_none.mpr fun v hv hname =>
        hk (Environment.names_injective hname (List.mem_singleton.mp hv ▸ groupVariables_names))
    rw [counting?, hgiven]
    cases k with
    | groupId => exact absurd rfl hk
    | _ => rfl

end CrudStack.Settings
