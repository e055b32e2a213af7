/-
# `CrudStack.Proofs.Model.Accepted` — the texts that are models

A JSON text is read as a model if and only if what it says has the shape of one, and then as that
model.  The walk over the scanned text is taken level by level: for a feature, a class and a model,
the reader of a node succeeds with exactly what the value of the node is.

The reading of numbers sets the one limit that the shape of a model does not show.  A feature is
taken in whole before it is looked at, with members that nobody asks for, and a number that no
double is large enough for is refused there.
-/
import CrudStack.Proofs.Json.Compact
import CrudStack.Proofs.Json.Range
import CrudStack.Proofs.Json.Scan
import CrudStack.Proofs.Model.Entries

namespace CrudStack.Model

open Json

/-! ## Features -/

/-- The name of a kind. -/
def Kind.label : Kind → String
  | .attr => "attribute"
  | .method => "method"

theorem kindOfText_eq_ok {s : String} {kind : Kind} :
    kindOfText s = .ok kind ↔ s = kind.label := by
  unfold kindOfText
  split
  · next h =>
      subst h
      cases kind <;> simp [Kind.label]
  · next h =>
      split
      · next h =>
          subst h
          cases kind <;> simp [Kind.label]
      · next h' => cases kind <;> simp [Kind.label, h, h']

/-- A node stands for a text, or neither it nor its value is one. -/
theorem text_or_not {v : Value} {node : Node} (h : Denotes v node) :
    (∃ s stop, v = .text s ∧ node = .text (.ok s) stop) ∨
      (∀ s, v ≠ .text s) ∧ ∀ reading stop, node ≠ .text reading stop := by
  cases v with
  | text s =>
      obtain ⟨stop, rfl⟩ := h
      exact .inl ⟨s, stop, rfl, rfl⟩
  | null | bool =>
      obtain ⟨stop, rfl⟩ := h
      exact .inr ⟨nofun, nofun⟩
  | number =>
      obtain ⟨a, b, stop, rfl⟩ := h
      exact .inr ⟨nofun, nofun⟩
  | list | object =>
      obtain ⟨start, inside, rfl, -⟩ := h
      exact .inr ⟨nofun, nofun⟩

/-- A node stands for a list, or neither it nor its value is one. -/
theorem list_or_not {v : Value} {node : Node} (h : Denotes v node) :
    (∃ vs start items, v = .list vs ∧ node = .list start items ∧ DenotesItems vs items) ∨
      (∀ vs, v ≠ .list vs) ∧ ∀ start items, node ≠ .list start items := by
  cases v with
  | list vs =>
      obtain ⟨start, items, rfl, hitems⟩ := h
      exact .inl ⟨vs, start, items, rfl, rfl, hitems⟩
  | null | bool | text =>
      obtain ⟨stop, rfl⟩ := h
      exact .inr ⟨nofun, nofun⟩
  | number =>
      obtain ⟨a, b, stop, rfl⟩ := h
      exact .inr ⟨nofun, nofun⟩
  | object =>
      obtain ⟨start, inside, rfl, -⟩ := h
      exact .inr ⟨nofun, nofun⟩

theorem textNode_eq_ok {v : Value} {node : Node} (h : Denotes v node) {s : String} :
    textNode node = .ok s ↔ v = .text s := by
  obtain ⟨s, stop, rfl, rfl⟩ | ⟨hv, hnode⟩ := text_or_not h
  · simp only [textNode, lexical, Except.ok.injEq, Value.text.injEq]
  · rw [textNode.eq_2 node hnode, refuse_eq_ok]
    exact ⟨False.elim, hv s⟩

theorem kindNode_eq_ok {v : Value} {node : Node} (h : Denotes v node) {kind : Kind} :
    kindNode node = .ok kind ↔ v = .text kind.label := by
  obtain ⟨s, stop, rfl, rfl⟩ | ⟨hv, hnode⟩ := text_or_not h
  · simp only [kindNode, bind_eq_ok, lexical, placed_eq_ok, kindOfText_eq_ok, Except.ok.injEq,
      exists_eq_left', Value.text.injEq]
  · rw [kindNode.eq_2 node hnode, refuse_eq_ok]
    exact ⟨False.elim, hv _⟩

/-- The members of a feature but for its kind. -/
def otherMembers (ms : List (String × Value)) : List (String × Value) :=
  ms.filter (·.1 ≠ kindField)

theorem otherMembers_kind (v : Value) (ms : List (String × Value)) :
    otherMembers ((kindField, v) :: ms) = otherMembers ms :=
  List.filter_cons_of_neg (by simp)

theorem otherMembers_cons {key : String} (h : key ≠ kindField) (v : Value)
    (ms : List (String × Value)) : otherMembers ((key, v) :: ms) = (key, v) :: otherMembers ms :=
  List.filter_cons_of_pos (by simpa using h)

/-- A feature is taken in: its kind is judged, and the others are read whatever they are. -/
theorem kindMembers_eq_ok {ms : List (String × Value)} {members : Members}
    (h : DenotesMembers ms members) (hkeys : (ms.map (·.1)).Nodup) {depth : Nat}
    (hdepth : membersDepth ms < depth) {kind : Option Kind}
    (hkind : Fresh kind (ms.lookup kindField)) {found : Kind} {others : List (String × Document)} :
    kindMembers depth kind members = .ok (found, others) ↔
      Held (fun v k => v = .text k.label) kind (ms.lookup kindField) (some found) ∧
        others = memberDocuments (otherMembers ms) ∧
          ∀ l ∈ membersNumbers (otherMembers ms), l.InRange := by
  induction ms generalizing members kind found others with
  | nil =>
      obtain ⟨stop, rfl⟩ := h
      cases kind <;>
        simp [kindMembers, placed, Held, otherMembers, memberDocuments, membersNumbers, eq_comm]
  | cons m ms ih =>
      obtain ⟨key, v⟩ := m
      obtain ⟨settled, node, rest, rfl, hnode, hrest⟩ := h
      have hothers := (List.nodup_cons.mp hkeys).2
      rw [membersDepth] at hdepth
      rw [kindMembers, lexical_bind]
      by_cases hk : key = kindField
      · subst hk
        obtain rfl := fresh_none hkind
        rw [if_pos rfl, hold_none, bind_eq_ok, held_self hkeys, otherMembers_kind]
        exact exists_congr fun a => and_congr (kindNode_eq_ok hnode)
          (ih hrest hothers (by omega) (fresh_rest hkeys))
      · rw [if_neg hk, held_other hk, otherMembers_cons hk, memberDocuments, membersNumbers,
          List.forall_mem_append]
        simp only [bind_eq_ok, lexical_eq_ok, read_eq_ok v hnode (by omega : v.depth < depth),
          Prod.exists, pure_eq_ok, Prod.mk.injEq,
          ih hrest hothers (by omega : membersDepth ms < depth) (fresh_other hk hkind)]
        constructor
        · rintro ⟨_, ⟨rfl, hv⟩, _, _, ⟨hheld, rfl, hms⟩, rfl, rfl⟩
          exact ⟨hheld, rfl, hv, hms⟩
        · rintro ⟨hheld, rfl, hv, hms⟩
          exact ⟨_, ⟨rfl, hv⟩, _, _, ⟨hheld, rfl, hms⟩, rfl, rfl⟩

theorem lookup_otherMembers {ms : List (String × Value)} {name : String} (h : name ≠ kindField) :
    (otherMembers ms).lookup name = ms.lookup name := by
  induction ms with
  | nil => rfl
  | cons m ms ih =>
      obtain ⟨key, v⟩ := m
      by_cases hk : key = kindField
      · rw [hk, otherMembers_kind, ih, lookup_other (Ne.symm h)]
      · rw [otherMembers_cons hk, List.lookup_cons, List.lookup_cons, ih]

/-- The other members of a feature are found where they were. -/
theorem member?_otherMembers {ms : List (String × Value)} {name : String} (h : name ≠ kindField) :
    (Value.object (otherMembers ms)).member? name = (Value.object ms).member? name :=
  lookup_otherMembers h

theorem distinctKeys_otherMembers {ms : List (String × Value)}
    (h : (Value.object ms).DistinctKeys) : (Value.object (otherMembers ms)).DistinctKeys := by
  refine ⟨h.1.sublist (List.filter_sublist.map _), ?_⟩
  exact membersDistinctKeys_iff.mpr fun m hm =>
    membersDistinctKeys_iff.mp h.2 m (List.mem_of_mem_filter hm)

theorem numbers_otherMembers {ms : List (String × Value)}
    (h : ∀ v, (kindField, v) ∈ ms → v.numbers = []) :
    membersNumbers (otherMembers ms) = membersNumbers ms := by
  induction ms with
  | nil => rfl
  | cons m ms ih =>
      obtain ⟨key, v⟩ := m
      have hrest := ih fun w hw => h w (List.mem_cons_of_mem _ hw)
      by_cases hk : key = kindField
      · subst hk
        rw [otherMembers_kind, hrest, membersNumbers, h v List.mem_cons_self, List.nil_append]
      · rw [otherMembers_cons hk, membersNumbers, membersNumbers, hrest]

/-- A kind is a text, so all numbers of a feature are in its other members. -/
theorem numbersInRange_otherMembers {ms : List (String × Value)} {s : String}
    (hkeys : (ms.map (·.1)).Nodup) (hkind : ms.lookup kindField = some (.text s)) :
    (∀ l ∈ membersNumbers (otherMembers ms), l.InRange) ↔ (Value.object ms).NumbersInRange := by
  rw [numbers_otherMembers]
  · rfl
  · intro v hv
    obtain rfl := Option.some.inj ((lookup_of_mem hkeys hv).symm.trans hkind)
    rfl

/-- What a reader of features needs of a value that may be one. -/
structure FeatureReady (v : Value) : Prop where
  object : v.IsObject
  keys : v.DistinctKeys
  parameters : v.member? "kind" = some (.text "method") →
    ∀ p ∈ Value.elements (v.member? "parameters"), p.IsObject

theorem takeFeature_eq_ok {ms : List (String × Value)} {node : Node}
    (h : Denotes (.object ms) node) (hkeys : (Value.object ms).DistinctKeys) {depth : Nat}
    (hdepth : (Value.object ms).depth < depth) {kind : Kind} {content : Document} :
    takeFeature depth node = .ok (kind, content) ↔
      (Value.object ms).member? "kind" = some (.text kind.label) ∧
        content = (Value.object (otherMembers ms)).document ∧
          (Value.object ms).NumbersInRange := by
  obtain ⟨start, members, rfl, hmembers⟩ := h
  rw [Value.depth] at hdepth
  have hheld : ∀ k, Held (fun v k => v = .text (Kind.label k)) none (ms.lookup kindField) (some k) ↔
      ms.lookup kindField = some (.text k.label) := by
    intro k
    cases ms.lookup kindField <;> simp [Held]
  rw [takeFeature, enter_eq_ok start hdepth, lexical_bind, bind_eq_ok]
  simp only [Prod.exists, pure_eq_ok, Prod.mk.injEq, kindMembers_eq_ok hmembers hkeys.1
    (by omega : membersDepth ms < depth - 1) (fresh_nothing _), hheld]
  constructor
  · rintro ⟨_, _, ⟨hkind, rfl, hrange⟩, rfl, rfl⟩
    exact ⟨hkind, rfl, (numbersInRange_otherMembers hkeys.1 hkind).mp hrange⟩
  · rintro ⟨hkind, rfl, hrange⟩
    exact ⟨_, _, ⟨hkind, rfl, (numbersInRange_otherMembers hkeys.1 hkind).mpr hrange⟩, rfl, rfl⟩

/-- The other members of a feature are read as what its kind asks for: they lack the kind, but no
reader of attributes or methods looks for that. -/
theorem featureOf_eq_ok {ms : List (String × Value)} (hv : FeatureReady (.object ms)) {kind : Kind}
    (hkind : (Value.object ms).member? "kind" = some (.text kind.label)) {f : Feature} :
    featureOf kind (Value.object (otherMembers ms)).document = .ok f ↔
      IsFeature (.object ms) f := by
  have hother := distinctKeys_otherMembers hv.keys
  cases kind with
  | attr =>
      have hslot : ∀ s, slotOf .attr (Value.object (otherMembers ms)).document = .ok s ↔
          IsSlot (.object ms) s := by
        intro s
        rw [slotOf_eq_ok (v := .object (otherMembers ms)) trivial hother, isSlot_iff, isSlot_iff,
          member?_otherMembers (by decide), member?_otherMembers (by decide)]
      rw [featureOf, map_eq_ok]
      constructor
      · rintro ⟨s, hs, rfl⟩
        exact .attr hkind ((hslot s).mp hs)
      · rintro (⟨-, hs⟩ | ⟨hkind', -⟩)
        · exact ⟨_, (hslot _).mpr hs, rfl⟩
        · have hlabel := hkind.symm.trans hkind'
          simp [Kind.label] at hlabel
  | method =>
      have hmethod : ∀ m, methodOf (Value.object (otherMembers ms)).document = .ok m ↔
          IsMethod (.object ms) m := by
        intro m
        have hps : ∀ p ∈ Value.elements ((Value.object (otherMembers ms)).member? "parameters"),
            p.IsObject ∧ p.DistinctKeys := by
          rw [member?_otherMembers (by decide)]
          exact fun p hp => ⟨hv.parameters hkind p hp, (inside_element hp).keys hv.keys⟩
        rw [methodOf_eq_ok (v := .object (otherMembers ms)) trivial hother hps, isMethod_iff,
          isMethod_iff, member?_otherMembers (by decide), member?_otherMembers (by decide),
          member?_otherMembers (by decide)]
      rw [featureOf, map_eq_ok]
      constructor
      · rintro ⟨m, hm, rfl⟩
        exact .method hkind ((hmethod m).mp hm)
      · rintro (⟨hkind', -⟩ | ⟨-, hm⟩)
        · have hlabel := hkind.symm.trans hkind'
          simp [Kind.label] at hlabel
        · exact ⟨_, (hmethod _).mpr hm, rfl⟩

/-- A feature says its kind. -/
theorem IsFeature.kind {v : Value} {f : Feature} (h : IsFeature v f) :
    ∃ kind : Kind, v.member? "kind" = some (.text kind.label) := by
  cases h with
  | attr hkind => exact ⟨.attr, hkind⟩
  | method hkind => exact ⟨.method, hkind⟩

/-- A feature is read if it is one and no number in it is out of range. -/
theorem feature_eq_ok {v : Value} {node : Node} (h : Denotes v node) (hv : FeatureReady v)
    {depth : Nat} (hdepth : v.depth < depth) {f : Feature} :
    (∃ kind content, takeFeature depth node = .ok (kind, content) ∧
      featureOf kind content = .ok f) ↔ IsFeature v f ∧ v.NumbersInRange := by
  cases v with
  | object ms =>
      simp only [takeFeature_eq_ok h hv.keys hdepth]
      constructor
      · rintro ⟨kind, _, ⟨hkind, rfl, hrange⟩, hf⟩
        exact ⟨(featureOf_eq_ok hv hkind).mp hf, hrange⟩
      · rintro ⟨hf, hrange⟩
        obtain ⟨kind, hkind⟩ := hf.kind
        exact ⟨kind, _, ⟨hkind, rfl, hrange⟩, (featureOf_eq_ok hv hkind).mpr hf⟩
  | _ => exact hv.object.elim

theorem featureItems_eq_ok {vs : List Value} {items : Items} (h : DenotesItems vs items)
    {depth : Nat} (hdepth : itemsDepth vs < depth) (hvs : ∀ v ∈ vs, FeatureReady v)
    {fs : List Feature} :
    featureItems depth items = .ok fs ↔
      List.Forall₂ IsFeature vs fs ∧ ∀ v ∈ vs, v.NumbersInRange := by
  induction vs generalizing items fs with
  | nil =>
      obtain ⟨stop, rfl⟩ := h
      simp [featureItems, eq_comm]
  | cons v vs ih =>
      obtain ⟨start, node, rest, rfl, hnode, hrest⟩ := h
      rw [itemsDepth] at hdepth
      have hfirst := fun f => feature_eq_ok hnode (hvs v List.mem_cons_self)
        (by omega : v.depth < depth) (f := f)
      have hothers : ∀ fs, featureItems depth rest = .ok fs ↔
          List.Forall₂ IsFeature vs fs ∧ ∀ v ∈ vs, v.NumbersInRange :=
        fun fs => ih hrest (by omega) fun v hv => hvs v (List.mem_cons_of_mem _ hv)
      rw [featureItems, List.forall₂_cons_left_iff, List.forall_mem_cons]
      simp only [bind_eq_ok, Prod.exists, placed_eq_ok, pure_eq_ok, hothers]
      constructor
      · rintro ⟨kind, content, htake, f, hf, fs, ⟨hfs, hranges⟩, rfl⟩
        obtain ⟨hv, hrange⟩ := (hfirst f).mp ⟨kind, content, htake, hf⟩
        exact ⟨⟨f, fs, hv, hfs, rfl⟩, hrange, hranges⟩
      · rintro ⟨⟨f, fs, hv, hfs, rfl⟩, hrange, hranges⟩
        obtain ⟨kind, content, htake, hf⟩ := (hfirst f).mpr ⟨hv, hrange⟩
        exact ⟨kind, content, htake, f, hf, fs, ⟨hfs, hranges⟩, rfl⟩

/-- Features that may be absent, without a number out of range. -/
def FeaturesRead (found : Option Value) (fs : List Feature) : Prop :=
  ListOf IsFeature found fs ∧ ∀ f ∈ Value.elements found, f.NumbersInRange

theorem featuresNode_eq_ok {v : Value} {node : Node} (h : Denotes v node) {depth : Nat}
    (hdepth : v.depth < depth) (hvs : ∀ f ∈ Value.elements (some v), FeatureReady f)
    {fs : List Feature} : featuresNode depth node = .ok fs ↔ FeaturesRead (some v) fs := by
  obtain ⟨vs, start, items, rfl, rfl, hitems⟩ | ⟨hv, hnode⟩ := list_or_not h
  · rw [Value.depth] at hdepth
    rw [featuresNode, enter_eq_ok start hdepth, lexical_bind]
    exact featureItems_eq_ok hitems (by omega) hvs
  · rw [featuresNode.eq_2 depth node hnode, refuse_eq_ok, FeaturesRead, ListOf.eq_3 _ _ _ hv,
      false_and]

/-! ## Classes -/

/-- What a reader of classes needs of a value that may be one. -/
structure ClassReady (v : Value) : Prop where
  object : v.IsObject
  keys : v.DistinctKeys
  features : ∀ f ∈ Value.elements (v.member? "features"), FeatureReady f

theorem classMembers_eq_ok {ms : List (String × Value)} {members : Members}
    (h : DenotesMembers ms members) (hkeys : (ms.map (·.1)).Nodup) {depth : Nat}
    (hvs : ∀ v, ms.lookup "features" = some v → ∀ node, Denotes v node → ∀ fs,
      featuresNode depth node = .ok fs ↔ FeaturesRead (some v) fs)
    {name : Option String} {features : Option (List Feature)}
    (hname : Fresh name (ms.lookup "name")) (hlist : Fresh features (ms.lookup "features"))
    {c : ClassDef} :
    classMembers depth name features members = .ok c ↔
      (∃ held, Held (fun v => FeaturesRead (some v)) features (ms.lookup "features") held ∧
        held.getD [] = c.features) ∧
      Held (· = .text ·) name (ms.lookup "name") (some c.name) := by
  induction ms generalizing members name features with
  | nil =>
      obtain ⟨stop, rfl⟩ := h
      obtain ⟨cname, fs⟩ := c
      simp only [classMembers, bind_eq_ok, placed_eq_ok, require_eq_ok, pure_eq_ok, Held,
        List.lookup_nil, ClassDef.mk.injEq, exists_eq_left']
      constructor
      · rintro ⟨_, hname, rfl, hfs⟩
        exact ⟨hfs.symm, hname⟩
      · rintro ⟨hfs, hname⟩
        exact ⟨_, hname, rfl, hfs.symm⟩
  | cons m ms ih =>
      obtain ⟨key, v⟩ := m
      obtain ⟨settled, node, rest, rfl, hnode, hrest⟩ := h
      have hothers := (List.nodup_cons.mp hkeys).2
      rw [classMembers, lexical_bind]
      by_cases hn : key = "name"
      · subst hn
        obtain rfl := fresh_none hname
        rw [lookup_other (by decide)] at hvs
        rw [if_pos rfl, hold_none, bind_eq_ok, and_comm, held_self hkeys, lookup_other (by decide)]
        exact exists_congr fun a => and_congr (textNode_eq_ok hnode)
          ((ih hrest hothers hvs (fresh_rest hkeys) (fresh_other (by decide) hlist)).trans and_comm)
      by_cases hf : key = "features"
      · subst hf
        obtain rfl := fresh_none hlist
        rw [if_neg (by decide), if_pos rfl, hold_none, bind_eq_ok, held_self_exists_and hkeys,
          lookup_other (by decide)]
        exact exists_congr fun a => and_congr (hvs v lookup_self node hnode a) (ih hrest hothers
          (absent_rest hkeys) (fresh_other (by decide) hname)
          (fresh_rest hkeys))
      · rw [lookup_other hf] at hvs
        rw [if_neg hn, if_neg hf, skip_of_denotes v hnode, lexical_bind, lookup_other hn,
          lookup_other hf]
        exact ih hrest hothers hvs (fresh_other hn hname) (fresh_other hf hlist)

/-- No feature of a class has a number out of range. -/
def ClassInRange (v : Value) : Prop :=
  ∀ f ∈ Value.elements (v.member? "features"), f.NumbersInRange

/-- A class is read if it is one and no number in its features is out of range. -/
theorem classNode_eq_ok {v : Value} {node : Node} (h : Denotes v node) (hv : ClassReady v)
    {depth : Nat} (hdepth : v.depth < depth) {c : ClassDef} :
    classNode depth node = .ok c ↔ IsClass v c ∧ ClassInRange v := by
  obtain ⟨hobject, hkeys, hfeatures⟩ := hv
  cases v with
  | object ms =>
      obtain ⟨start, members, rfl, hmembers⟩ := h
      have hlist : ∀ w, ms.lookup "features" = some w → ∀ node, Denotes w node → ∀ fs,
          featuresNode (depth - 1) node = .ok fs ↔ FeaturesRead (some w) fs := by
        intro w hw node hnode fs
        have hinside := (inside_member (v := .object ms) hw).depth
        refine featuresNode_eq_ok hnode (by omega) fun f hf => hfeatures f ?_
        rw [Value.member?, hw]
        exact hf
      have hnone : ∀ fs, FeaturesRead none fs ↔ fs = [] :=
        fun fs => and_iff_left fun f hf => absurd hf List.not_mem_nil
      rw [classNode, enter_eq_ok start hdepth, lexical_bind,
        classMembers_eq_ok hmembers hkeys.1 hlist (fresh_nothing _) (fresh_nothing _),
        held_text_iff, held_list_iff hnone, and_comm, FeaturesRead, ← and_assoc]
      exact and_congr_left' (isClass_iff (.object ms) c).symm
  | _ => exact hobject.elim

theorem classListItems_eq_ok {vs : List Value} {items : Items} (h : DenotesItems vs items)
    {depth : Nat} (hdepth : itemsDepth vs < depth) (hvs : ∀ v ∈ vs, ClassReady v)
    {cs : List ClassDef} :
    classListItems depth items = .ok cs ↔
      List.Forall₂ IsClass vs cs ∧ ∀ v ∈ vs, ClassInRange v := by
  induction vs generalizing items cs with
  | nil =>
      obtain ⟨stop, rfl⟩ := h
      simp [classListItems, eq_comm]
  | cons v vs ih =>
      obtain ⟨start, node, rest, rfl, hnode, hrest⟩ := h
      rw [itemsDepth] at hdepth
      rw [classListItems, List.forall₂_cons_left_iff, List.forall_mem_cons]
      simp only [bind_eq_ok, pure_eq_ok,
        classNode_eq_ok hnode (hvs v List.mem_cons_self) (by omega : v.depth < depth),
        ih hrest (by omega : itemsDepth vs < depth) fun v hv => hvs v (List.mem_cons_of_mem _ hv)]
      constructor
      · rintro ⟨c, ⟨hc, hrange⟩, cs, ⟨hcs, hranges⟩, rfl⟩
        exact ⟨⟨c, cs, hc, hcs, rfl⟩, hrange, hranges⟩
      · rintro ⟨⟨c, cs, hc, hcs, rfl⟩, hrange, hranges⟩
        exact ⟨c, ⟨hc, hrange⟩, cs, ⟨hcs, hranges⟩, rfl⟩

/-- Classes that may be absent, without a number out of range in a feature. -/
def ClassesRead (found : Option Value) (cs : List ClassDef) : Prop :=
  ListOf IsClass found cs ∧ ∀ c ∈ Value.elements found, ClassInRange c

theorem classesNode_eq_ok {v : Value} {node : Node} (h : Denotes v node) {depth : Nat}
    (hdepth : v.depth < depth) (hvs : ∀ c ∈ Value.elements (some v), ClassReady c)
    {cs : List ClassDef} : classesNode depth node = .ok cs ↔ ClassesRead (some v) cs := by
  obtain ⟨vs, start, items, rfl, rfl, hitems⟩ | ⟨hv, hnode⟩ := list_or_not h
  · rw [Value.depth] at hdepth
    rw [classesNode, enter_eq_ok start hdepth, lexical_bind]
    exact classListItems_eq_ok hitems (by omega) hvs
  · rw [classesNode.eq_2 depth node hnode, refuse_eq_ok, ClassesRead, ListOf.eq_3 _ _ _ hv,
      false_and]

/-! ## Models -/

theorem modelMembers_eq_ok {ms : List (String × Value)} {members : Members}
    (h : DenotesMembers ms members) (hkeys : (ms.map (·.1)).Nodup) {depth : Nat}
    (hvs : ∀ v, ms.lookup "classes" = some v → ∀ node, Denotes v node → ∀ cs,
      classesNode depth node = .ok cs ↔ ClassesRead (some v) cs)
    {classes : Option (List ClassDef)} (hlist : Fresh classes (ms.lookup "classes")) {m : Model} :
    modelMembers depth classes members = .ok m ↔
      ∃ held, Held (fun v => ClassesRead (some v)) classes (ms.lookup "classes") held ∧
        held.getD [] = m.classes := by
  induction ms generalizing members classes with
  | nil =>
      obtain ⟨stop, rfl⟩ := h
      obtain ⟨cs⟩ := m
      simp only [modelMembers, Held, List.lookup_nil, Except.ok.injEq, Model.mk.injEq,
        exists_eq_left']
  | cons m' ms ih =>
      obtain ⟨key, v⟩ := m'
      obtain ⟨settled, node, rest, rfl, hnode, hrest⟩ := h
      have hothers := (List.nodup_cons.mp hkeys).2
      rw [modelMembers, lexical_bind]
      by_cases hc : key = "classes"
      · subst hc
        obtain rfl := fresh_none hlist
        rw [if_pos rfl, hold_none, bind_eq_ok, held_self_exists hkeys]
        exact exists_congr fun a => and_congr (hvs v lookup_self node hnode a) (ih hrest hothers
          (absent_rest hkeys) (fresh_rest hkeys))
      · rw [lookup_other hc] at hvs
        rw [if_neg hc, skip_of_denotes v hnode, lexical_bind, lookup_other hc]
        exact ih hrest hothers hvs (fresh_other hc hlist)

theorem modelNode_eq_ok {v : Value} {node : Node} (h : Denotes v node) (hobject : v.IsObject)
    (hkeys : v.DistinctKeys) (hvs : ∀ c ∈ classValues v, ClassReady c) {depth : Nat}
    (hdepth : v.depth < depth) {m : Model} :
    modelNode depth node = .ok m ↔ IsModel v m ∧ ∀ c ∈ classValues v, ClassInRange c := by
  cases v with
  | object ms =>
      obtain ⟨start, members, rfl, hmembers⟩ := h
      have hlist : ∀ w, ms.lookup "classes" = some w → ∀ node, Denotes w node → ∀ cs,
          classesNode (depth - 1) node = .ok cs ↔ ClassesRead (some w) cs := by
        intro w hw node hnode cs
        have hinside := (inside_member (v := .object ms) hw).depth
        refine classesNode_eq_ok hnode (by omega) fun c hc => hvs c ?_
        rw [classValues, Value.member?, hw]
        exact hc
      have hnone : ∀ cs, ClassesRead none cs ↔ cs = [] :=
        fun cs => and_iff_left fun c hc => absurd hc List.not_mem_nil
      rw [modelNode, enter_eq_ok start hdepth, lexical_bind,
        modelMembers_eq_ok hmembers hkeys.1 hlist (fresh_nothing _), held_list_iff hnone]
      exact and_congr_left'
        ((and_iff_right trivial).symm.trans (isModel_iff (.object ms) m).symm)
  | _ => exact hobject.elim

/-! ## Texts -/

theorem classReady_of_documented {v : Value} (hv : Documented v) :
    ∀ c ∈ classValues v, ClassReady c := by
  intro c hc
  have hinside : Inside c v := inside_element hc
  refine ⟨hv.classes c hc, hinside.keys hv.keys, fun f hf => ?_⟩
  have hfeature : f ∈ featureValues v := List.mem_flatMap.mpr ⟨c, hc, hf⟩
  exact ⟨hv.features f hfeature, ((inside_element hf).trans hinside).keys hv.keys,
    hv.parameters f hfeature⟩

/-- A text is read as a model if what it says is that model, and if no number in a feature is beyond
the greatest double. -/
theorem ofJson_eq_ok {v : Value} {text : String} (h : v.IsTextOf text) (hv : Documented v)
    {m : Model} : ofJson text = .ok m ↔ IsModel v m ∧ WithinDoubles v := by
  obtain ⟨hroot, htrailing⟩ := scan_found h
  have hdepth : v.depth < depthLimit := Nat.lt_of_le_of_lt hv.depth (by decide)
  have hmodel := fun m =>
    modelNode_eq_ok hroot hv.object hv.keys (classReady_of_documented hv) hdepth (m := m)
  have hrange : (∀ c ∈ classValues v, ClassInRange c) ↔ WithinDoubles v := by
    rw [← withinDoubles_iff hv fun l hl => (h.fitsIn hl).wellFormed, featureValues,
      List.forall_mem_flatMap]
    rfl
  rw [ofJson]
  simp only [bind_eq_ok, pure_eq_ok, htrailing, orFlaw, lexical, hmodel, hrange]
  constructor
  · rintro ⟨m, hm, _, -, rfl⟩
    exact hm
  · exact fun hm => ⟨m, hm, (), trivial, rfl⟩

/-- The shape of a model is enough if no number is worth more than `Literal.reached`, which leaves
nothing to say about rounding. -/
theorem ofJson_eq_ok_of_magnitude {v : Value} {text : String} (h : v.IsTextOf text)
    (hv : Documented v) (hlength : text.toList.length ≤ Nat.pow 2 30)
    (hsize : ∀ l ∈ v.numbers, l.magnitude ≤ Literal.reached) {m : Model} :
    ofJson text = .ok m ↔ IsModel v m := by
  have hwithin : WithinDoubles v := by
    intro f hf l hl _
    have hnumber : l ∈ v.numbers := (inside_feature hf).numbers l hl
    exact .below ((h.fitsIn hnumber).digits.trans hlength) (hsize l hnumber)
  rw [ofJson_eq_ok h hv]
  exact and_iff_left hwithin

/-- A text is refused for a number in a feature that is worth `Literal.missed` or more. -/
theorem ofJson_error_of_magnitude {v f : Value} {text : String} (h : v.IsTextOf text)
    (hv : Documented v) (hlength : text.toList.length ≤ Nat.pow 2 30) (hf : f ∈ featureValues v)
    {l : Literal} (hl : l ∈ f.numbers) (hsize : (Literal.missed : ℚ) ≤ l.magnitude) :
    ∃ e, ofJson text = .error e := by
  have hfits := h.fitsIn ((inside_feature hf).numbers l hl)
  have hout : ¬ l.InRange :=
    Literal.not_inRange_of_le_magnitude hfits.wellFormed (hfits.digits.trans hlength) hsize
  cases hresult : ofJson text with
  | ok m =>
      have hwithin : WithinDoubles v := ((ofJson_eq_ok h hv).mp hresult).2
      have hnumbers := (withinDoubles_iff hv fun l hl => (h.fitsIn hl).wellFormed).mpr hwithin
      exact absurd (hnumbers f hf l hl) hout
  | error e => exact ⟨e, rfl⟩

/-- A JSON text in which names do not repeat and the elements that are read are objects is accepted
if and only if what it says has the shape of a model and no number in a feature is beyond the
greatest double, and then as exactly the model that it says.  All others are refused. -/
theorem ofJson_accepts {v : Value} {text : String} (htext : v.IsTextOf text) (hv : Documented v) :
    (∀ m, ofJson text = .ok m ↔ IsModel v m ∧ WithinDoubles v) ∧
      ((¬ ∃ m, IsModel v m ∧ WithinDoubles v) → ∃ e, ofJson text = .error e) := by
  have hread : ∀ m, ofJson text = .ok m ↔ IsModel v m ∧ WithinDoubles v :=
    fun m => ofJson_eq_ok htext hv
  refine ⟨hread, fun hnone => ?_⟩
  cases hresult : ofJson text with
  | ok m => exact absurd ⟨m, (hread m).mp hresult⟩ hnone
  | error e => exact ⟨e, rfl⟩

/-- A model whose features say their kind last, with members that nobody asks for. -/
def taskValue : Value :=
  .object [
    ("size", .number ⟨true, ['3'], none, none⟩),
    ("classes", .list [.object [
      ("features", .list [
        .object [("type", .text "text"), ("weight", .number ⟨false, ['1'], some ['5'], none⟩),
          ("name", .text "title"), ("kind", .text "attribute")],
        .object [("parameters", .list [.object [("type", .text "int"), ("name", .text "days")]]),
          ("kind", .text "method"), ("name", .text "delay"), ("type", .text "void")]]),
      ("name", .text "Task")]])]

theorem isTextOf_task : taskValue.IsTextOf taskValue.compactText := by
  refine isTextOf_compactText fun l hl => ?_
  obtain rfl | hl := List.mem_cons.mp hl
  · exact ⟨⟨by decide, by decide⟩, by decide, nofun, nofun⟩
  · obtain rfl := List.mem_singleton.mp hl
    refine ⟨⟨by decide, by decide⟩, by decide, ?_, nofun⟩
    rintro _ ⟨⟩
    exact ⟨by decide, by decide⟩

theorem documented_task : Documented taskValue where
  object := trivial
  classes := fun c hc => by
    obtain rfl := List.mem_singleton.mp hc
    trivial
  features := fun f hf => by
    obtain rfl | hf := List.mem_cons.mp hf
    · trivial
    · obtain rfl := List.mem_singleton.mp hf
      trivial
  parameters := fun f hf hkind p hp => by
    obtain rfl | hf := List.mem_cons.mp hf
    · cases hp
    · obtain rfl := List.mem_singleton.mp hf
      obtain rfl := List.mem_singleton.mp hp
      trivial
  keys := by simp [taskValue, Value.DistinctKeys, MembersDistinctKeys, ItemsDistinctKeys]
  depth := by decide
  integers := fun l hl hwhole => by
    obtain rfl | hl := List.mem_cons.mp hl
    · exact ⟨by decide, by decide⟩
    · obtain rfl := List.mem_singleton.mp hl
      cases hwhole.1

theorem withinDoubles_task : WithinDoubles taskValue := by
  intro f hf l hl _
  obtain rfl | hf := List.mem_cons.mp hf
  · obtain rfl := List.mem_singleton.mp hl
    have hsize : 15 ≤ Literal.reached := by decide +kernel
    refine .below (by decide) ?_
    calc (15 : Nat) * (10 : ℚ) ^ (-1 : Int) ≤ (15 : Nat) := by norm_num
      _ ≤ Literal.reached := Nat.cast_le.mpr hsize
  · obtain rfl := List.mem_singleton.mp hf
    cases hl

theorem ofJson_accepts_task :
    taskValue.IsTextOf taskValue.compactText ∧ Documented taskValue ∧
      ofJson taskValue.compactText = .ok ⟨[⟨"Task", [.attr ⟨"title", "text"⟩,
        .method ⟨"delay", "void", [⟨"days", "int"⟩]⟩]⟩]⟩ :=
  ⟨isTextOf_task, documented_task, ((ofJson_accepts isTextOf_task documented_task).1 _).mpr
    ⟨⟨trivial, .cons ⟨rfl, .cons (.attr rfl ⟨rfl, rfl⟩)
      (.cons (.method rfl ⟨rfl, rfl, .cons ⟨rfl, rfl⟩ .nil⟩) .nil)⟩ .nil⟩, withinDoubles_task⟩⟩

/-! ### A number that no double is large enough for -/

/-- One and 309 zeros, and a half. -/
def beyondDoubles : Literal := ⟨false, '1' :: List.replicate 309 '0', some ['5'], none⟩

/-- A model with that number in a member that nobody asks for. -/
def overflowingValue : Value :=
  .object [("classes", .list [.object [("name", .text "A"), ("features", .list [.object [
    ("kind", .text "attribute"), ("name", .text "a"), ("type", .text "text"),
    ("x", .number beyondDoubles)]])]])]

theorem not_fitsDouble_beyondDoubles : ¬ beyondDoubles.FitsDouble := by
  have hdigits : Literal.missed * 10 ≤ Literal.natural beyondDoubles.digits := by decide +kernel
  refine Literal.not_fitsDouble_of_le_magnitude (by decide +kernel) ?_
  calc (Literal.missed : ℚ) = (Literal.missed * 10 : Nat) * 10 ^ (-1 : Int) := by
        rw [Nat.cast_mul, mul_assoc]
        norm_num
    _ ≤ Literal.natural beyondDoubles.digits * 10 ^ (-1 : Int) :=
        mul_le_mul_of_nonneg_right (Nat.cast_le.mpr hdigits) (by norm_num)

theorem documented_overflowing : Documented overflowingValue where
  object := trivial
  classes := fun c hc => by
    obtain rfl := List.mem_singleton.mp hc
    trivial
  features := fun f hf => by
    obtain rfl := List.mem_singleton.mp hf
    trivial
  parameters := fun f hf hkind p hp => by
    obtain rfl := List.mem_singleton.mp hf
    cases hp
  keys := by simp [overflowingValue, Value.DistinctKeys, MembersDistinctKeys, ItemsDistinctKeys]
  depth := by decide
  integers := fun l hl hwhole => by
    obtain rfl := List.mem_singleton.mp hl
    cases hwhole.1

/-- The shape of a model is not enough: here is one that is refused for a number in a feature. -/
theorem ofJson_refuses_overflowing :
    overflowingValue.IsTextOf overflowingValue.compactText ∧ Documented overflowingValue ∧
      IsModel overflowingValue ⟨[⟨"A", [.attr ⟨"a", "text"⟩]⟩]⟩ ∧
        ∃ e, ofJson overflowingValue.compactText = .error e := by
  have hdigits : beyondDoubles.whole.all Text.isAsciiDigit = true := by
    rw [beyondDoubles, List.all_cons, List.all_replicate]
    decide
  have hwellFormed : beyondDoubles.WellFormed := by
    refine ⟨⟨nofun, hdigits⟩, ?_, ?_, nofun⟩
    · decide
    · rintro _ ⟨⟩
      exact ⟨by decide, by decide⟩
  have htext : overflowingValue.IsTextOf overflowingValue.compactText :=
    isTextOf_compactText fun l hl => List.mem_singleton.mp hl ▸ hwellFormed
  have hbeyond : ¬ WithinDoubles overflowingValue := fun h => not_fitsDouble_beyondDoubles
    (h _ List.mem_cons_self _ List.mem_cons_self fun hwhole => nomatch hwhole.1)
  refine ⟨htext, documented_overflowing,
    ⟨trivial, .cons ⟨rfl, .cons (.attr rfl ⟨rfl, rfl⟩) .nil⟩ .nil⟩, ?_⟩
  cases hresult : ofJson overflowingValue.compactText with
  | ok m => exact absurd ((ofJson_eq_ok htext documented_overflowing).mp hresult).2 hbeyond
  | error e => exact ⟨e, rfl⟩

end CrudStack.Model
