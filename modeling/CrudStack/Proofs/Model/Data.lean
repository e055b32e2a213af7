/-
# `CrudStack.Proofs.Model.Data` — the data that are models

A document that is at hand is read as a model if it has the shape of one.  The readers are those of
the JSON walk without the text around them, and where they read members of a feature they are the
same.
-/
import CrudStack.Proofs.Model.Accepted

namespace CrudStack.Model

open Json

/-! ## Features -/

theorem kindOf_eq_ok {v : Value} {kind : Kind} :
    kindOf v.document = .ok kind ↔ v = .text kind.label := by
  cases v with
  | text s => rw [Value.document, kindOf, kindOfText_eq_ok, Value.text.injEq]
  | number l =>
      rcases document_number l with h | ⟨i, h⟩ | ⟨x, h⟩ <;> simp [Value.document, h, kindOf]
  | _ => simp [Value.document, kindOf]

/-- The kind is taken out of the members of a feature, and the others are left as they are. -/
theorem splitKind_eq_ok {ms : List (String × Value)} (hkeys : (ms.map (·.1)).Nodup)
    {kind : Option Kind} (hkind : Fresh kind (ms.lookup kindField)) {found : Kind}
    {others : List (String × Document)} :
    splitKind kind (memberDocuments ms) = .ok (found, others) ↔
      Held (fun v k => v = .text k.label) kind (ms.lookup kindField) (some found) ∧
        others = memberDocuments (otherMembers ms) := by
  induction ms generalizing kind found others with
  | nil =>
      simp only [memberDocuments, splitKind, bind_eq_ok, require_eq_ok, pure_eq_ok, Prod.mk.injEq,
        List.lookup_nil, Held, otherMembers, List.filter_nil]
      constructor
      · rintro ⟨_, hkind, rfl, rfl⟩
        exact ⟨hkind, rfl⟩
      · rintro ⟨hkind, rfl⟩
        exact ⟨_, hkind, rfl, rfl⟩
  | cons m ms ih =>
      obtain ⟨key, v⟩ := m
      have hothers := (List.nodup_cons.mp hkeys).2
      rw [memberDocuments, splitKind]
      by_cases hk : key = kindField
      · subst hk
        obtain rfl := fresh_none hkind
        rw [if_pos rfl, store_eq_ok, held_self hkeys, otherMembers_kind]
        exact exists_congr fun a => and_congr kindOf_eq_ok (ih hothers (fresh_rest hkeys))
      · rw [if_neg hk, held_other hk, otherMembers_cons hk, memberDocuments]
        simp only [bind_eq_ok, Prod.exists, pure_eq_ok, Prod.mk.injEq,
          ih hothers (fresh_other hk hkind)]
        constructor
        · rintro ⟨_, _, ⟨hheld, rfl⟩, rfl, rfl⟩
          exact ⟨hheld, rfl⟩
        · rintro ⟨hheld, rfl⟩
          exact ⟨_, _, ⟨hheld, rfl⟩, rfl, rfl⟩

/-- A feature is read if it is one. -/
theorem featureOfDocument_eq_ok {v : Value} (hv : FeatureReady v) {f : Feature} :
    featureOfDocument v.document = .ok f ↔ IsFeature v f := by
  cases v with
  | object ms =>
      have hheld : ∀ k, Held (fun v k => v = .text (Kind.label k)) none (ms.lookup kindField)
          (some k) ↔ ms.lookup kindField = some (.text k.label) := by
        intro k
        cases ms.lookup kindField <;> simp [Held]
      rw [Value.document, featureOfDocument]
      simp only [bind_eq_ok, Prod.exists, splitKind_eq_ok hv.keys.1 (fresh_nothing _), hheld]
      constructor
      · rintro ⟨kind, _, ⟨hkind, rfl⟩, hf⟩
        exact (featureOf_eq_ok hv hkind).mp hf
      · intro hf
        obtain ⟨kind, hkind⟩ := hf.kind
        exact ⟨kind, _, ⟨hkind, rfl⟩, (featureOf_eq_ok hv hkind).mpr hf⟩
  | _ => exact hv.object.elim

theorem featuresOf_eq_ok {v : Value} (hvs : ∀ f ∈ Value.elements (some v), FeatureReady f)
    {fs : List Feature} : featuresOf v.document = .ok fs ↔ ListOf IsFeature (some v) fs :=
  list_eq_ok (fun _ => rfl) (fun d xs hd h => by rw [featuresOf.eq_2 d hd] at h; cases h)
    fun f hf _ => featureOfDocument_eq_ok (hvs f hf)

/-! ## Classes -/

theorem classEntries_eq_ok {ms : List (String × Value)} (hkeys : (ms.map (·.1)).Nodup)
    (hvs : ∀ v, ms.lookup "features" = some v → ∀ fs,
      featuresOf v.document = .ok fs ↔ ListOf IsFeature (some v) fs)
    {name : Option String} {features : Option (List Feature)}
    (hname : Fresh name (ms.lookup "name")) (hlist : Fresh features (ms.lookup "features"))
    {c : ClassDef} :
    classEntries name features (memberDocuments ms) = .ok c ↔
      (∃ held, Held (fun v => ListOf IsFeature (some v)) features (ms.lookup "features") held ∧
        held.getD [] = c.features) ∧
      Held (· = .text ·) name (ms.lookup "name") (some c.name) := by
  induction ms generalizing name features with
  | nil =>
      obtain ⟨cname, fs⟩ := c
      simp only [memberDocuments, classEntries, bind_eq_ok, require_eq_ok, pure_eq_ok, Held,
        List.lookup_nil, ClassDef.mk.injEq, exists_eq_left']
      constructor
      · rintro ⟨_, hname, rfl, hfs⟩
        exact ⟨hfs.symm, hname⟩
      · rintro ⟨hfs, hname⟩
        exact ⟨_, hname, rfl, hfs.symm⟩
  | cons m ms ih =>
      obtain ⟨key, v⟩ := m
      have hothers := (List.nodup_cons.mp hkeys).2
      rw [memberDocuments, classEntries]
      by_cases hn : key = "name"
      · subst hn
        obtain rfl := fresh_none hname
        rw [lookup_other (by decide)] at hvs
        rw [if_pos rfl, store_eq_ok, and_comm, held_self hkeys, lookup_other (by decide)]
        exact exists_congr fun a => and_congr textOf_eq_ok
          ((ih hothers hvs (fresh_rest hkeys) (fresh_other (by decide) hlist)).trans and_comm)
      by_cases hf : key = "features"
      · subst hf
        obtain rfl := fresh_none hlist
        rw [if_neg (by decide), if_pos rfl, store_eq_ok, held_self_exists_and hkeys,
          lookup_other (by decide)]
        exact exists_congr fun a => and_congr (hvs v lookup_self a) (ih hothers
          (absent_rest hkeys) (fresh_other (by decide) hname) (fresh_rest hkeys))
      · rw [lookup_other hf] at hvs
        rw [if_neg hn, if_neg hf, lookup_other hn, lookup_other hf]
        exact ih hothers hvs (fresh_other hn hname) (fresh_other hf hlist)

/-- A class is read if it is one. -/
theorem classOf_eq_ok {v : Value} (hv : ClassReady v) {c : ClassDef} :
    classOf v.document = .ok c ↔ IsClass v c := by
  cases v with
  | object ms =>
      have hfeatures : ∀ w, ms.lookup "features" = some w → ∀ fs,
          featuresOf w.document = .ok fs ↔ ListOf IsFeature (some w) fs := by
        intro w hw fs
        refine featuresOf_eq_ok fun f hf => hv.features f ?_
        rw [Value.member?, hw]
        exact hf
      rw [Value.document, classOf, classEntries_eq_ok hv.keys.1 hfeatures (fresh_nothing _)
        (fresh_nothing _), held_text_iff, held_list_iff fun _ => Iff.rfl, and_comm]
      exact (isClass_iff (.object ms) c).symm
  | _ => exact hv.object.elim

theorem classesOf_eq_ok {v : Value} (hvs : ∀ c ∈ Value.elements (some v), ClassReady c)
    {cs : List ClassDef} : classesOf v.document = .ok cs ↔ ListOf IsClass (some v) cs :=
  list_eq_ok (fun _ => rfl) (fun d xs hd h => by rw [classesOf.eq_2 d hd] at h; cases h)
    fun c hc _ => classOf_eq_ok (hvs c hc)

/-! ## Models -/

theorem modelEntries_eq_ok {ms : List (String × Value)} (hkeys : (ms.map (·.1)).Nodup)
    (hvs : ∀ v, ms.lookup "classes" = some v → ∀ cs,
      classesOf v.document = .ok cs ↔ ListOf IsClass (some v) cs)
    {classes : Option (List ClassDef)} (hlist : Fresh classes (ms.lookup "classes")) {m : Model} :
    modelEntries classes (memberDocuments ms) = .ok m ↔
      ∃ held, Held (fun v => ListOf IsClass (some v)) classes (ms.lookup "classes") held ∧
        held.getD [] = m.classes := by
  induction ms generalizing classes with
  | nil =>
      obtain ⟨cs⟩ := m
      simp only [memberDocuments, modelEntries, Held, List.lookup_nil, Except.ok.injEq,
        Model.mk.injEq, exists_eq_left']
  | cons m' ms ih =>
      obtain ⟨key, v⟩ := m'
      have hothers := (List.nodup_cons.mp hkeys).2
      rw [memberDocuments, modelEntries]
      by_cases hc : key = "classes"
      · subst hc
        obtain rfl := fresh_none hlist
        rw [if_pos rfl, store_eq_ok, held_self_exists hkeys]
        exact exists_congr fun a => and_congr (hvs v lookup_self a) (ih hothers
          (absent_rest hkeys) (fresh_rest hkeys))
      · rw [lookup_other hc] at hvs
        rw [if_neg hc, lookup_other hc]
        exact ih hothers hvs (fresh_other hc hlist)

/-- A document is read as a model if it has the shape of one. -/
theorem ofDocument_eq_ok {v : Value} (hobject : v.IsObject) (hkeys : v.DistinctKeys)
    (hvs : ∀ c ∈ classValues v, ClassReady c) {m : Model} :
    ofDocument v.document = .ok m ↔ IsModel v m := by
  cases v with
  | object ms =>
      have hclasses : ∀ w, ms.lookup "classes" = some w → ∀ cs,
          classesOf w.document = .ok cs ↔ ListOf IsClass (some w) cs := by
        intro w hw cs
        refine classesOf_eq_ok fun c hc => hvs c ?_
        rw [classValues, Value.member?, hw]
        exact hc
      rw [Value.document, ofDocument, modelEntries_eq_ok hkeys.1 hclasses (fresh_nothing _),
        held_list_iff fun _ => Iff.rfl]
      exact (and_iff_right trivial).symm.trans (isModel_iff (.object ms) m).symm
  | _ => exact hobject.elim

end CrudStack.Model
