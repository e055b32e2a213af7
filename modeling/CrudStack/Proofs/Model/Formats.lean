/-
# `CrudStack.Proofs.Model.Formats` — the two formats say the same models

A tree of objects, lists and texts can be said in JSON and in TOML, and is then read as the same
model or refused twice.  The JSON text is read as the model that the tree has the shape of.  What
the TOML text says is the tree with its members in another order, and the shape of a model does not
depend on that order.

A model itself is such a tree, and either of the two texts that are written of it says this tree.
So both are read as the model again.
-/
import CrudStack.Model.Load
import CrudStack.Model.Writer
import CrudStack.Proofs.Disk.Texts
import CrudStack.Proofs.Json.Rearranged
import CrudStack.Proofs.Json.Written
import CrudStack.Proofs.Model.Data
import CrudStack.Proofs.Toml.Parsed
import CrudStack.Proofs.Toml.Written

namespace CrudStack.Model

open Json

/-! ## The shape in another order -/

section Rearranged

variable {v w : Value}

theorem listOf_rearranged {A : Type} {is : Value → A → Prop}
    (his : ∀ {v w}, Rearranged v w → ∀ a, is v a ↔ is w a) {found found' : Option Value}
    (h : Option.Rel Rearranged found found') (xs : List A) :
    ListOf is found xs ↔ ListOf is found' xs := by
  have hitems : ∀ {vs ws : List Value}, List.Forall₂ Rearranged vs ws → ∀ xs,
      List.Forall₂ is vs xs ↔ List.Forall₂ is ws xs := by
    intro vs ws hvs
    induction hvs with
    | nil => exact fun _ => Iff.rfl
    | cons hv _ ih =>
        intro xs
        simp only [List.forall₂_cons_left_iff, his hv, ih]
  cases h with
  | none => exact Iff.rfl
  | some h =>
      obtain ⟨s, rfl, rfl⟩ | ⟨vs, ws, rfl, rfl, hvs⟩ | ⟨ms, ns, rfl, rfl, -⟩ := rearranged_cases h
      · exact Iff.rfl
      · exact hitems hvs xs
      · exact Iff.rfl

theorem isSlot_rearranged (h : Rearranged v w) (s : Slot) : IsSlot v s ↔ IsSlot w s := by
  have hmember := rearranged_member h
  rw [isSlot_iff, isSlot_iff, rearranged_text (hmember _), rearranged_text (hmember _)]

theorem isMethod_rearranged (h : Rearranged v w) (m : Method) : IsMethod v m ↔ IsMethod w m := by
  have hmember := rearranged_member h
  rw [isMethod_iff, isMethod_iff, rearranged_text (hmember _), rearranged_text (hmember _),
    listOf_rearranged isSlot_rearranged (hmember _)]

theorem isFeature_rearranged (h : Rearranged v w) (f : Feature) :
    IsFeature v f ↔ IsFeature w f := by
  have hkind := rearranged_text (rearranged_member h "kind")
  constructor
  · rintro (⟨hk, hs⟩ | ⟨hk, hm⟩)
    · exact .attr ((hkind _).mp hk) ((isSlot_rearranged h _).mp hs)
    · exact .method ((hkind _).mp hk) ((isMethod_rearranged h _).mp hm)
  · rintro (⟨hk, hs⟩ | ⟨hk, hm⟩)
    · exact .attr ((hkind _).mpr hk) ((isSlot_rearranged h _).mpr hs)
    · exact .method ((hkind _).mpr hk) ((isMethod_rearranged h _).mpr hm)

theorem isClass_rearranged (h : Rearranged v w) (c : ClassDef) : IsClass v c ↔ IsClass w c := by
  have hmember := rearranged_member h
  rw [isClass_iff, isClass_iff, rearranged_text (hmember _),
    listOf_rearranged isFeature_rearranged (hmember _)]

/-- The shape of a model does not depend on the order of members. -/
theorem isModel_rearranged (h : Rearranged v w) (m : Model) : IsModel v m ↔ IsModel w m := by
  rw [isModel_iff, isModel_iff, rearranged_isObject h,
    listOf_rearranged isClass_rearranged (rearranged_member h _)]

theorem featureReady_rearranged (h : Rearranged v w) (hv : FeatureReady v) (hw : w.DistinctKeys) :
    FeatureReady w := by
  refine ⟨(rearranged_isObject h).mp hv.object, hw, fun hkind p hp => ?_⟩
  obtain ⟨q, hq, hpq⟩ := exists_element (rearranged_member h _) p hp
  exact (rearranged_isObject hpq).mp
    (hv.parameters ((rearranged_text (rearranged_member h _) _).mpr hkind) q hq)

theorem classReady_rearranged (h : Rearranged v w) (hv : ClassReady v) (hw : w.DistinctKeys) :
    ClassReady w := by
  refine ⟨(rearranged_isObject h).mp hv.object, hw, fun f hf => ?_⟩
  obtain ⟨g, hg, hfg⟩ := exists_element (rearranged_member h _) f hf
  exact featureReady_rearranged hfg (hv.features g hg) ((inside_element hf).keys hw)

/-- The data of a value, in any order of its members, are read as the model that the value has the
shape of. -/
theorem ofDocument_rearranged (h : Rearranged v w) (hobject : v.IsObject) (hw : w.DistinctKeys)
    (hvs : ∀ c ∈ classValues v, ClassReady c) {m : Model} :
    ofDocument w.document = .ok m ↔ IsModel v m := by
  rw [isModel_rearranged h]
  refine ofDocument_eq_ok ((rearranged_isObject h).mp hobject) hw fun c hc => ?_
  obtain ⟨b, hb, hbc⟩ := exists_element (rearranged_member h _) c hc
  exact classReady_rearranged hbc (hvs b hb) ((inside_element hc).keys hw)

end Rearranged

/-! ## Trees that both formats can say -/

/-- A tree of objects, lists and texts with distinct names and not too many levels, in which the
elements of a list that is read are objects. -/
structure Common (v : Value) : Prop where
  object : v.IsObject
  plain : v.Plain
  keys : v.DistinctKeys
  depth : v.depth ≤ 40
  classes : ∀ c ∈ classValues v, c.IsObject
  features : ∀ f ∈ featureValues v, f.IsObject
  parameters : ∀ f ∈ featureValues v, ∀ p ∈ Value.elements (f.member? "parameters"), p.IsObject

mutual

theorem numbers_of_plain : ∀ v : Value, v.Plain → v.numbers = []
  | .text _, _ => rfl
  | .list vs, h => numbers_of_itemsPlain vs h
  | .object ms, h => numbers_of_membersPlain ms h

theorem numbers_of_itemsPlain : ∀ vs : List Value, ItemsPlain vs → itemsNumbers vs = []
  | [], _ => rfl
  | v :: vs, h => List.append_eq_nil_iff.mpr
      ⟨numbers_of_plain v h.1, numbers_of_itemsPlain vs h.2⟩

theorem numbers_of_membersPlain : ∀ ms : List (String × Value), MembersPlain ms →
    membersNumbers ms = []
  | [], _ => rfl
  | (_, v) :: ms, h => List.append_eq_nil_iff.mpr
      ⟨numbers_of_plain v h.1, numbers_of_membersPlain ms h.2⟩

end

section Common

variable {v : Value} {ms : List (String × Value)} {text : String} {m : Model}

theorem Common.documented (h : Common v) : Documented v where
  object := h.object
  classes := h.classes
  features := h.features
  parameters := fun f hf _ => h.parameters f hf
  keys := h.keys
  depth := Nat.le_trans h.depth (by decide)
  integers := by
    rw [numbers_of_plain v h.plain]
    exact nofun

theorem Common.withinDoubles (h : Common v) : WithinDoubles v := by
  intro f hf l hl
  have hinside := (inside_feature hf).numbers l hl
  rw [numbers_of_plain v h.plain] at hinside
  cases hinside

/-- A JSON text of such a tree is read as the model that the tree has the shape of. -/
theorem ofJson_common (h : Common v) (htext : v.IsTextOf text) :
    ofJson text = .ok m ↔ IsModel v m := by
  rw [ofJson_eq_ok htext h.documented]
  exact and_iff_left h.withinDoubles

/-- And so is a TOML text. -/
theorem ofToml_common (h : Common (.object ms)) (htext : Toml.IsTextOf (memberDocuments ms) text) :
    ofToml text = .ok m ↔ IsModel (.object ms) m := by
  have hlevels : (Document.table (memberDocuments ms)).levels ≤ Toml.levelLimit := by
    rw [show (Document.table (memberDocuments ms)).levels = (Value.object ms).depth from
      levels_document (.object ms)]
    exact Nat.le_trans h.depth (by decide)
  obtain ⟨d, hd, hsame⟩ := Toml.parse_of_isTextOf htext hlevels
  have hkeys := Toml.distinctKeys_of_parse hd
  obtain ⟨w, hw, rfl⟩ := exists_value (.object ms) h.plain hsame hkeys
  rw [ofToml, hd]
  exact mapError_eq_ok.trans (ofDocument_rearranged ⟨h.plain, hw, hsame⟩ h.object
    ((distinctKeys_document w).mp hkeys) (classReady_of_documented h.documented))

end Common

mutual

/-- The data of a plain tree with distinct names can be written as TOML. -/
theorem writable_document : ∀ v : Value, v.Plain → v.DistinctKeys → Toml.Writable v.document
  | .text _, _, _ => trivial
  | .list vs, h, hkeys => writable_items vs h hkeys
  | .object ms, h, hkeys =>
      ⟨keys_memberDocuments ms ▸ hkeys.1, writable_members ms h hkeys.2⟩

theorem writable_items : ∀ vs : List Value, ItemsPlain vs → Json.ItemsDistinctKeys vs →
    Toml.ItemsWritable (itemDocuments vs)
  | [], _, _ => trivial
  | v :: vs, h, hkeys => ⟨writable_document v h.1 hkeys.1, writable_items vs h.2 hkeys.2⟩

theorem writable_members : ∀ ms : List (String × Value), MembersPlain ms → MembersDistinctKeys ms →
    Toml.EntriesWritable (memberDocuments ms)
  | [], _, _ => trivial
  | (_, v) :: ms, h, hkeys => ⟨writable_document v h.1 hkeys.1, writable_members ms h.2 hkeys.2⟩

end

section Written

variable {v : Value} {ms : List (String × Value)}

/-- Such a tree has a JSON text. -/
theorem Common.isTextOf_json (h : Common v) : v.IsTextOf (Json.write v.document) :=
  Json.isTextOf_write (numbers_of_plain v h.plain)

/-- And it has a TOML text. -/
theorem Common.isTextOf_toml (h : Common (.object ms)) :
    Toml.IsTextOf (memberDocuments ms) (Toml.write (memberDocuments ms)) :=
  Toml.isTextOf_write (writable_document (.object ms) h.plain h.keys)

end Written

/-! ## Models as trees -/

/-- A plain tree with distinct names and at most so many levels. -/
structure Tree (levels : Nat) (v : Value) : Prop where
  plain : v.Plain
  keys : v.DistinctKeys
  depth : v.depth ≤ levels

section Tree

variable {levels : Nat}

theorem tree_text (s : String) : Tree levels (.text s) := ⟨trivial, trivial, Nat.zero_le _⟩

theorem tree_list {vs : List Value} (h : ∀ v ∈ vs, Tree levels v) :
    Tree (levels + 1) (.list vs) := by
  induction vs with
  | nil => exact ⟨trivial, trivial, Nat.le_add_left 1 levels⟩
  | cons v vs ih =>
      obtain ⟨hv, hvs⟩ := List.forall_mem_cons.mp h
      have hrest := ih hvs
      exact ⟨⟨hv.plain, hrest.plain⟩, ⟨hv.keys, hrest.keys⟩,
        Nat.succ_le_succ (Nat.max_le.mpr ⟨hv.depth, Nat.le_of_succ_le_succ hrest.depth⟩)⟩

theorem tree_object {ms : List (String × Value)} (hkeys : (ms.map (·.1)).Nodup)
    (h : ∀ m ∈ ms, Tree levels m.2) : Tree (levels + 1) (.object ms) := by
  induction ms with
  | nil => exact ⟨trivial, ⟨hkeys, trivial⟩, Nat.le_add_left 1 levels⟩
  | cons m ms ih =>
      obtain ⟨hm, hms⟩ := List.forall_mem_cons.mp h
      have hrest := ih (List.nodup_cons.mp hkeys).2 hms
      exact ⟨⟨hm.plain, hrest.plain⟩, ⟨hkeys, hm.keys, hrest.keys.2⟩,
        Nat.succ_le_succ (Nat.max_le.mpr ⟨hm.depth, Nat.le_of_succ_le_succ hrest.depth⟩)⟩

end Tree

/-- A name with a type as a value. -/
def slotValue (s : Slot) : Value := .object [("name", .text s.name), ("type", .text s.typeName)]

/-- A feature as a value. -/
def featureValue : Feature → Value
  | .attr a =>
    .object [("kind", .text "attribute"), ("name", .text a.name), ("type", .text a.typeName)]
  | .method m =>
    .object
      [("kind", .text "method"), ("name", .text m.name), ("type", .text m.returnType),
       ("parameters", .list (m.parameters.map slotValue))]

/-- A class as a value. -/
def classValue (c : ClassDef) : Value :=
  .object [("name", .text c.name), ("features", .list (c.features.map featureValue))]

/-- The members of a model. -/
def members (m : Model) : List (String × Value) :=
  [("classes", .list (m.classes.map classValue))]

section Models

variable {A : Type}

/-! ### Their data -/

theorem itemDocuments_map {value : A → Value} {document : A → Document}
    (h : ∀ a, (value a).document = document a) (xs : List A) :
    itemDocuments (xs.map value) = xs.map document := by
  rw [itemDocuments_eq_map, List.map_map]
  exact List.map_congr_left fun a _ => h a

theorem document_slotValue (s : Slot) : (slotValue s).document = s.document := rfl

theorem document_featureValue (f : Feature) : (featureValue f).document = f.document := by
  cases f with
  | attr a => rfl
  | method m =>
      simp only [featureValue, Feature.document, Value.document, memberDocuments,
        itemDocuments_map document_slotValue]

theorem document_classValue (c : ClassDef) : (classValue c).document = c.document := by
  simp only [classValue, ClassDef.document, Value.document, memberDocuments,
    itemDocuments_map document_featureValue]

theorem memberDocuments_members (m : Model) : memberDocuments m.members = m.entries := by
  simp only [members, entries, Value.document, memberDocuments,
    itemDocuments_map document_classValue]

/-! ### Their levels -/

theorem tree_map {levels : Nat} {value : A → Value} (h : ∀ a, Tree levels (value a)) (xs : List A) :
    Tree (levels + 1) (.list (xs.map value)) :=
  tree_list (List.forall_mem_map.mpr fun a _ => h a)

theorem tree_slotValue (s : Slot) : Tree 1 (slotValue s) :=
  tree_object (by simp) (by simp [tree_text])

theorem tree_featureValue (f : Feature) : Tree 3 (featureValue f) := by
  cases f with
  | attr a => exact tree_object (by simp) (by simp [tree_text])
  | method m => exact tree_object (by simp) (by simp [tree_text, tree_map tree_slotValue])

theorem tree_classValue (c : ClassDef) : Tree 5 (classValue c) :=
  tree_object (by simp) (by simp [tree_text, tree_map tree_featureValue])

theorem tree_members (m : Model) : Tree 7 (.object m.members) :=
  tree_object (by simp [members]) (by simp [members, tree_map tree_classValue])

/-- A model as a tree can be said in both formats. -/
theorem common_members (m : Model) : Common (.object m.members) where
  object := trivial
  plain := (tree_members m).plain
  keys := (tree_members m).keys
  depth := Nat.le_trans (tree_members m).depth (by decide)
  classes := List.forall_mem_map.mpr fun _ _ => trivial
  features := fun f hf => by
    obtain ⟨c, hc, hf⟩ := List.mem_flatMap.mp hf
    obtain ⟨c, -, rfl⟩ := List.mem_map.mp hc
    obtain ⟨f, -, rfl⟩ := List.mem_map.mp hf
    cases f <;> trivial
  parameters := fun f hf p hp => by
    obtain ⟨c, hc, hf⟩ := List.mem_flatMap.mp hf
    obtain ⟨c, -, rfl⟩ := List.mem_map.mp hc
    obtain ⟨f, -, rfl⟩ := List.mem_map.mp hf
    cases f with
    | attr a => cases hp
    | method m =>
        obtain ⟨s, -, rfl⟩ := List.mem_map.mp hp
        trivial

/-! ### Their shape -/

theorem forall₂_map {is : Value → A → Prop} {value : A → Value} (h : ∀ a, is (value a) a)
    (xs : List A) : List.Forall₂ is (xs.map value) xs :=
  List.forall₂_map_left_iff.mpr (List.forall₂_same.mpr fun a _ => h a)

theorem isSlot_slotValue (s : Slot) : IsSlot (slotValue s) s := ⟨rfl, rfl⟩

theorem isFeature_featureValue (f : Feature) : IsFeature (featureValue f) f := by
  cases f with
  | attr a => exact .attr rfl ⟨rfl, rfl⟩
  | method m => exact .method rfl ⟨rfl, rfl, forall₂_map isSlot_slotValue _⟩

theorem isClass_classValue (c : ClassDef) : IsClass (classValue c) c :=
  ⟨rfl, forall₂_map isFeature_featureValue _⟩

/-- The tree of a model has the shape of this model. -/
theorem isModel_members (m : Model) : IsModel (.object m.members) m :=
  ⟨trivial, forall₂_map isClass_classValue _⟩

theorem isTextOf_toJson (m : Model) : (Value.object m.members).IsTextOf m.toJson := by
  have htext := (common_members m).isTextOf_json
  rwa [Value.document, memberDocuments_members] at htext

theorem isTextOf_toToml (m : Model) : Toml.IsTextOf (memberDocuments m.members) m.toToml := by
  have htext := (common_members m).isTextOf_toml
  rwa [memberDocuments_members] at htext ⊢

end Models

/-! ## Files -/

/-- A file with a JSON text, and without the ending of TOML. -/
structure JsonFile (d : Disk) (p : Path) (ms : List (String × Value)) (text : String) : Prop where
  read : d.readText p = .ok text
  ending : p.hasEnding "toml" = false
  spelled : (Value.object ms).IsTextOf text

/-- A file with a TOML text, and with its ending in any case. -/
structure TomlFile (d : Disk) (p : Path) (ms : List (String × Value)) (text : String) : Prop where
  read : d.readText p = .ok text
  ending : p.hasEnding "toml" = true
  spelled : Toml.IsTextOf (memberDocuments ms) text

section Files

variable {d : Disk} {p : Path} {ms : List (String × Value)} {text : String} {m : Model}

theorem load_json (hread : d.readText p = .ok text) (hending : p.hasEnding "toml" = false) :
    load d p = (ofJson text).mapError (.json text) := by
  simp only [load, hread, ofFile, hending]
  rfl

theorem load_toml (hread : d.readText p = .ok text) (hending : p.hasEnding "toml" = true) :
    load d p = (ofToml text).mapError .toml := by
  simp only [load, hread, ofFile, hending]
  rfl

/-- A JSON file is loaded as the model that its tree has the shape of. -/
theorem load_jsonFile (hv : Common (.object ms)) (h : JsonFile d p ms text) :
    load d p = .ok m ↔ IsModel (.object ms) m := by
  rw [load_json h.read h.ending, mapError_eq_ok, ofJson_common hv h.spelled]

/-- And so is a TOML file. -/
theorem load_tomlFile (hv : Common (.object ms)) (h : TomlFile d p ms text) :
    load d p = .ok m ↔ IsModel (.object ms) m := by
  rw [load_toml h.read h.ending, mapError_eq_ok, ofToml_common hv h.spelled]

theorem jsonFile_toJson (hread : d.readText p = .ok m.toJson)
    (hending : p.hasEnding "toml" = false) :
    JsonFile d p m.members m.toJson := ⟨hread, hending, isTextOf_toJson m⟩

theorem tomlFile_toToml (hread : d.readText p = .ok m.toToml)
    (hending : p.hasEnding "toml" = true) :
    TomlFile d p m.members m.toToml := ⟨hread, hending, isTextOf_toToml m⟩

end Files

/-- A tree is loaded from its files of either format as the same model or from neither, and a model
is loaded from either of its written texts. -/
theorem load_either_format :
    (∀ {d : Disk} {ms : List (String × Value)} {jsonPath tomlPath : Path}
        {jsonText tomlText : String}, Common (.object ms) → JsonFile d jsonPath ms jsonText →
        TomlFile d tomlPath ms tomlText →
        (∃ m, load d jsonPath = .ok m ∧ load d tomlPath = .ok m) ∨
          ∃ fault fault', load d jsonPath = .error (.json jsonText fault) ∧
            load d tomlPath = .error (.toml fault')) ∧
      ∀ (m : Model) {d : Disk} {p : Path},
        (d.readText p = .ok m.toJson → p.hasEnding "toml" = false → load d p = .ok m) ∧
          (d.readText p = .ok m.toToml → p.hasEnding "toml" = true → load d p = .ok m) := by
  refine ⟨?_, fun m d p => ⟨fun hread hending => ?_, fun hread hending => ?_⟩⟩
  · intro d ms jsonPath tomlPath jsonText tomlText hv hjson htoml
    by_cases hmodel : ∃ m, IsModel (.object ms) m
    · obtain ⟨m, hm⟩ := hmodel
      exact .inl ⟨m, (load_jsonFile hv hjson).mpr hm, (load_tomlFile hv htoml).mpr hm⟩
    · refine .inr ?_
      cases hofJson : ofJson jsonText with
      | ok m => exact absurd ⟨m, (ofJson_common hv hjson.spelled).mp hofJson⟩ hmodel
      | error fault =>
          cases hofToml : ofToml tomlText with
          | ok m => exact absurd ⟨m, (ofToml_common hv htoml.spelled).mp hofToml⟩ hmodel
          | error fault' =>
              refine ⟨fault, fault', ?_, ?_⟩
              · rw [load_json hjson.read hjson.ending, hofJson]
                rfl
              · rw [load_toml htoml.read htoml.ending, hofToml]
                rfl
  · exact (load_jsonFile (common_members m) (jsonFile_toJson hread hending)).mpr (isModel_members m)
  · exact (load_tomlFile (common_members m) (tomlFile_toToml hread hending)).mpr (isModel_members m)

/-! ### A disk with both files -/

/-- A disk with a text in a file for each format. -/
def twoFiles (jsonText tomlText : String) : Disk :=
  (Disk.empty.put ["work", "model.json"] (.file jsonText.toUTF8)).put ["work", "model.TOML"]
    (.file tomlText.toUTF8)

section TwoFiles

variable {jsonText tomlText : String}

theorem twoFiles_json : (twoFiles jsonText tomlText).readText ⟨"model.json"⟩ = .ok jsonText :=
  Disk.readText_eq_ok.mpr ⟨["work", "model.json"], rfl⟩

theorem twoFiles_toml : (twoFiles jsonText tomlText).readText ⟨"model.TOML"⟩ = .ok tomlText :=
  Disk.readText_eq_ok.mpr ⟨["work", "model.TOML"], rfl⟩

end TwoFiles

/-- A class with an attribute and a method. -/
def taskModel : Model :=
  ⟨[⟨"Task", [.attr ⟨"title", "text"⟩, .method ⟨"delay", "void", [⟨"days", "int"⟩]⟩]⟩]⟩

/-- A class without a name. -/
def namelessMembers : List (String × Value) := [("classes", .list [.object []])]

theorem common_nameless : Common (.object namelessMembers) where
  object := trivial
  plain := ⟨⟨trivial, trivial⟩, trivial⟩
  keys := by simp [namelessMembers, Value.DistinctKeys, MembersDistinctKeys, Json.ItemsDistinctKeys]
  depth := by decide
  classes := List.forall_mem_singleton.mpr trivial
  features := nofun
  parameters := nofun

theorem not_isModel_nameless (m : Model) : ¬ IsModel (.object namelessMembers) m := by
  rintro ⟨-, hclasses⟩
  obtain ⟨c, -, ⟨hname, -⟩, -⟩ := List.forall₂_cons_left_iff.mp hclasses
  cases hname

/-- The two texts of the class without a name. -/
def namelessFiles : Disk := twoFiles "\x7b\"classes\":[\x7b\x7d]\x7d" "[[classes]]\n"

theorem jsonEnding : Path.hasEnding ⟨"model.json"⟩ "toml" = false := by decide +kernel

theorem tomlEnding : Path.hasEnding ⟨"model.TOML"⟩ "toml" = true := by decide +kernel

theorem jsonFile_nameless :
    JsonFile namelessFiles ⟨"model.json"⟩ namelessMembers "\x7b\"classes\":[\x7b\x7d]\x7d" where
  read := twoFiles_json
  ending := jsonEnding
  spelled := by
    have hwritten : Json.write (Value.object namelessMembers).document =
        "\x7b\"classes\":[\x7b\x7d]\x7d" := by decide +kernel
    exact hwritten ▸ common_nameless.isTextOf_json

theorem tomlFile_nameless :
    TomlFile namelessFiles ⟨"model.TOML"⟩ namelessMembers "[[classes]]\n" where
  read := twoFiles_toml
  ending := tomlEnding
  spelled := by
    have hwritten : Toml.write (memberDocuments namelessMembers) = "[[classes]]\n" := by
      decide +kernel
    exact hwritten ▸ common_nameless.isTextOf_toml

/-- The class is loaded from both files, and one without a name from neither. -/
theorem load_either_format_task :
    (load (twoFiles taskModel.toJson taskModel.toToml) ⟨"model.json"⟩ = .ok taskModel ∧
        load (twoFiles taskModel.toJson taskModel.toToml) ⟨"model.TOML"⟩ = .ok taskModel) ∧
      Common (.object namelessMembers) ∧
      JsonFile namelessFiles ⟨"model.json"⟩ namelessMembers "\x7b\"classes\":[\x7b\x7d]\x7d" ∧
      TomlFile namelessFiles ⟨"model.TOML"⟩ namelessMembers "[[classes]]\n" ∧
      ∃ fault fault',
        load namelessFiles ⟨"model.json"⟩ =
          .error (.json "\x7b\"classes\":[\x7b\x7d]\x7d" fault) ∧
        load namelessFiles ⟨"model.TOML"⟩ = .error (.toml fault') := by
  refine ⟨⟨(load_either_format.2 taskModel).1 twoFiles_json jsonEnding,
    (load_either_format.2 taskModel).2 twoFiles_toml tomlEnding⟩, common_nameless,
    jsonFile_nameless, tomlFile_nameless, ?_⟩
  obtain ⟨m, hm, -⟩ | hfaults :=
    load_either_format.1 common_nameless jsonFile_nameless tomlFile_nameless
  · exact absurd ((load_jsonFile common_nameless jsonFile_nameless).mp hm) (not_isModel_nameless m)
  · exact hfaults

end CrudStack.Model
