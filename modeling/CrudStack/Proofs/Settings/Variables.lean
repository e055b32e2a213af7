/-
# `CrudStack.Proofs.Settings.Variables` — which variables set which keys

The name of a key as a variable is its path in two underscores behind the prefix, and the case of
its letters does not matter: neither the prefix nor the parts are told apart by it
(`path?_of_names`).  The paths of keys do not lead through each other, so every variable adds a
value of its own to the layer (`at?_layer`).
-/
import CrudStack.Proofs.Settings.Keys
import CrudStack.Proofs.Text.Split
import CrudStack.Settings.Environment

namespace CrudStack.Settings

open Text (asciiLower)

/-! ## Letters -/

/-- A letter from A to Z and its small letter, or any other character and itself. -/
theorem asciiLower_induction {P : Char → Char → Prop}
    (letter : ∀ n < 26, P (Char.ofNat (0x41 + n)) (Char.ofNat (0x61 + n)))
    (other : ∀ c, asciiLower c = c → P c c) (c : Char) : P c (asciiLower c) := by
  by_cases h : 0x41 ≤ c.toNat ∧ c.toNat ≤ 0x5a
  · have hletter := letter (c.toNat - 0x41) (by omega)
    rw [show 0x41 + (c.toNat - 0x41) = c.toNat by omega, Char.ofNat_toNat,
      show 0x61 + (c.toNat - 0x41) = c.toNat + 0x20 by omega] at hletter
    rw [asciiLower, if_pos (by simpa using h)]
    exact hletter
  · have hsame : asciiLower c = c := by
      rw [asciiLower, if_neg (by simpa using h)]
    rw [hsame]
    exact other c hsame

theorem asciiLower_idem (c : Char) : asciiLower (asciiLower c) = asciiLower c :=
  asciiLower_induction (P := fun _ l => asciiLower l = l) (by decide) (fun _ h => h) c

theorem isBlank_asciiLower (c : Char) : Text.isBlank (asciiLower c) = Text.isBlank c :=
  asciiLower_induction (P := fun c l => Text.isBlank l = Text.isBlank c) (by decide +kernel)
    (fun _ _ => rfl) c

/-- A character that is no letter is not the small letter of another one. -/
theorem asciiLower_eq_iff {mark : Char} (h : mark = '_' ∨ mark = '.') (c : Char) :
    asciiLower c = mark ↔ c = mark := by
  obtain rfl | rfl := h
  · exact asciiLower_induction (P := fun c l => l = '_' ↔ c = '_') (by decide)
      (fun _ _ => Iff.rfl) c
  · exact asciiLower_induction (P := fun c l => l = '.' ↔ c = '.') (by decide)
      (fun _ _ => Iff.rfl) c

namespace Environment

/-! ## Names -/

section Lower

variable {cs : List Char}

theorem afterPrefix?_lower (start : List Char) :
    afterPrefix? start (cs.map asciiLower) = (afterPrefix? start cs).map (·.map asciiLower) := by
  induction start generalizing cs with
  | nil => rfl
  | cons c start ih =>
      cases cs with
      | nil => rfl
      | cons c' cs =>
          rw [List.map_cons, afterPrefix?, afterPrefix?, asciiLower_idem, ih]
          split <;> rfl

theorem dotted_lower : dotted (cs.map asciiLower) = (dotted cs).map asciiLower := by
  have hmark : ∀ c, asciiLower c = '_' ↔ c = '_' := asciiLower_eq_iff (.inl rfl)
  induction cs using dotted.induct with
  | case1 rest ih =>
      rw [List.map_cons, List.map_cons, show asciiLower '_' = '_' from rfl, dotted, dotted, ih]
      rfl
  | case2 c rest hpair ih =>
      rw [dotted.eq_2 c rest hpair, List.map_cons, List.map_cons, ← ih]
      refine dotted.eq_2 _ _ fun more hc hrest => ?_
      cases rest with
      | nil => cases hrest
      | cons c' rest =>
          obtain ⟨hc', -⟩ := List.cons.inj hrest
          exact hpair rest ((hmark c).mp hc) (by rw [(hmark c').mp hc'])
  | case3 => rfl

theorem trimChars_lower :
    Text.trimChars (cs.map asciiLower) = (Text.trimChars cs).map asciiLower := by
  have hblank : Text.isBlank ∘ asciiLower = Text.isBlank := funext isBlank_asciiLower
  rw [Text.trimChars, List.dropWhile_map, hblank, ← List.map_reverse, List.dropWhile_map, hblank,
    ← List.map_reverse]
  rfl

/-- The path of a variable does not depend on the case of its name. -/
theorem path?_lower (name : String) : path? (name.map asciiLower) = path? name := by
  have hempty : ∀ parts : List (List Char),
      (parts.map (·.map asciiLower)).any (·.isEmpty) = parts.any (·.isEmpty) := fun parts => by
    rw [List.any_map]
    refine congrArg parts.any (funext fun part => ?_)
    cases part <;> rfl
  have hpart : ∀ parts : List (List Char),
      (parts.map (·.map asciiLower)).map (fun part => String.ofList (part.map asciiLower)) =
        parts.map fun part => String.ofList (part.map asciiLower) := fun parts => by
    rw [List.map_map]
    refine List.map_congr_left fun part _ => congrArg String.ofList ?_
    rw [List.map_map]
    exact List.map_congr_left fun c _ => asciiLower_idem c
  unfold path?
  rw [String.toList_map, afterPrefix?_lower]
  cases afterPrefix? namePrefix name.toList with
  | none => rfl
  | some rest =>
      simp only [Option.map_some, Option.bind_eq_bind, Option.bind_some, dotted_lower,
        trimChars_lower, Text.splitOn_map (asciiLower_eq_iff (.inr rfl)), hempty, hpart]

end Lower

/-- The name of a key as a variable, in small letters. -/
def variableName (k : Key) : String := "ovelha_" ++ "__".intercalate k.path

/-- A name of a variable is that of a key, in whatever case. -/
def Names (name : String) (k : Key) : Prop := name.map asciiLower = variableName k

instance (name : String) (k : Key) : Decidable (Names name k) :=
  inferInstanceAs (Decidable (_ = _))

/-- A variable that is none of the settings. -/
def IsForeign (name : String) : Prop := ¬ "ovelha_".toList <+: (name.map asciiLower).toList

theorem path?_variableName (k : Key) : path? (variableName k) = some k.path := by
  cases k <;> decide +kernel

/-- A variable with the name of a key sets the value at its path. -/
theorem path?_of_names {name : String} {k : Key} (h : Names name k) : path? name = some k.path := by
  rw [← path?_lower, h, path?_variableName]

theorem path?_of_isForeign {name : String} (h : IsForeign name) : path? name = none := by
  have hnone : ∀ {p cs : List Char}, ¬ p.map asciiLower <+: cs.map asciiLower →
      afterPrefix? p cs = none := by
    intro p
    induction p with
    | nil => exact fun h => absurd List.nil_prefix h
    | cons c p ih =>
        intro cs h
        cases cs with
        | nil => rfl
        | cons c' cs =>
            rw [afterPrefix?]
            split
            · next heq =>
                exact ih fun hp => h (List.cons_prefix_cons.mpr ⟨heq, hp⟩)
            · rfl
  unfold path?
  rw [hnone (p := namePrefix) (by rwa [IsForeign, String.toList_map] at h)]
  rfl

theorem path_injective {k k' : Key} (h : k.path = k'.path) : k = k' := by
  revert h
  cases k <;> cases k' <;> decide

theorem names_injective {name : String} {k k' : Key} (h : Names name k) (h' : Names name k') :
    k = k' :=
  path_injective (Option.some.inj ((path?_of_names h).symm.trans (path?_of_names h')))

/-! ## Values below paths -/

section Nested

variable {value : Tree} {path other : List String}

theorem at?_nest_self : (nest value path).at? path = some value := by
  induction path with
  | nil => rfl
  | cons part path ih =>
      rw [nest, Tree.at?, Tree.entries, List.lookup_cons, beq_self_eq_true]
      exact ih

/-- A value below one path is not found along another one, unless one leads through the other. -/
theorem at?_nest_other (h : ¬ path <+: other) : (nest value path).at? other = none ∨
    other <+: path := by
  induction path generalizing other with
  | nil => exact absurd List.nil_prefix h
  | cons part path ih =>
      cases other with
      | nil => exact .inr List.nil_prefix
      | cons key other =>
          rw [nest, Tree.at?, Tree.entries, List.lookup_cons]
          by_cases hkey : key = part
          · subst hkey
            rw [beq_self_eq_true]
            exact (ih fun hpath => h (List.cons_prefix_cons.mpr ⟨rfl, hpath⟩)).imp_right
              fun hother => List.cons_prefix_cons.mpr ⟨rfl, hother⟩
          · rw [beq_eq_false_iff_ne.mpr hkey]
            exact .inl rfl

theorem leads_nest (h : path = other ∨ ¬ path <+: other) : (nest value path).Leads other := by
  induction path generalizing other with
  | nil =>
      obtain rfl | h := h
      · trivial
      · exact absurd List.nil_prefix h
  | cons part path ih =>
      cases other with
      | nil => trivial
      | cons key other =>
          refine ⟨.environment, _, rfl, List.pairwise_singleton _ _, fun sub hsub => ?_⟩
          rw [List.lookup_cons] at hsub
          by_cases hkey : key = part
          · subst hkey
            rw [beq_self_eq_true] at hsub
            cases hsub
            refine ih (h.imp (fun heq => (List.cons.inj heq).2) fun hnot hpath => hnot ?_)
            exact List.cons_prefix_cons.mpr ⟨rfl, hpath⟩
          · rw [beq_eq_false_iff_ne.mpr hkey] at hsub
            cases hsub

end Nested

/-- No key stands below another one. -/
theorem path_apart {k k' : Key} (h : k.path <+: k'.path) : k = k' := by
  revert h
  cases k <;> cases k' <;> decide

theorem at?_nest {value : Tree} {k k' : Key} :
    (nest value k.path).at? k'.path = if k = k' then some value else none := by
  split
  · next heq =>
      subst heq
      exact at?_nest_self
  · next hne =>
      exact (at?_nest_other fun h => hne (path_apart h)).resolve_right
        fun h => hne (path_apart h).symm

theorem leads_nest_path {value : Tree} (k k' : Key) : (nest value k.path).Leads k'.path := by
  by_cases h : k = k'
  · exact leads_nest (.inl (congrArg Key.path h))
  · exact leads_nest (.inr fun hpath => h (path_apart hpath))

/-! ## The layer -/

/-- Every variable of the settings names a key, and no two name the same one. -/
structure NamesKeys (environment : List (String × String)) : Prop where
  names : ∀ v ∈ environment, IsForeign v.1 ∨ ∃ k, Names v.1 k
  apart : environment.Pairwise fun v w => ∀ k, Names v.1 k → ¬ Names w.1 k

/-- The value that variables give to a key, if one of them names it. -/
def given? (environment : List (String × String)) (k : Key) : Option Tree :=
  (environment.find? fun v => Names v.1 k).map fun v => valueOf v.2

theorem given?_eq_none {environment : List (String × String)} {k : Key} :
    given? environment k = none ↔ ∀ v ∈ environment, ¬ Names v.1 k := by
  simp [given?]

/-- The tree that variables add to another one. -/
def extend (tree : Tree) (environment : List (String × String)) : Tree :=
  environment.foldl
    (fun tree v =>
      match path? v.1 with
      | some path => tree.mergeInto (nest (valueOf v.2) path)
      | none => tree) tree

/-- Variables add to the layer what they give to keys, and leave the rest. -/
theorem at?_extend {environment : List (String × String)} (h : NamesKeys environment) {tree : Tree}
    (hleads : ∀ k : Key, tree.Leads k.path)
    (hfree : ∀ k, (given? environment k).isSome → tree.at? k.path = none) (k : Key) :
    (extend tree environment).at? k.path = (given? environment k).or (tree.at? k.path) ∧
      (extend tree environment).Leads k.path := by
  induction environment generalizing tree with
  | nil => exact ⟨rfl, hleads k⟩
  | cons v rest ih =>
      obtain ⟨hfirst, hothers⟩ := List.pairwise_cons.mp h.apart
      have hrest : NamesKeys rest := ⟨fun w hw => h.names w (List.mem_cons_of_mem _ hw), hothers⟩
      have hgiven : ∀ k, given? (v :: rest) k =
          if Names v.1 k then some (valueOf v.2) else given? rest k := fun k => by
        rw [given?, List.find?_cons]
        by_cases hv : Names v.1 k <;> simp [hv, given?]
      rw [extend, List.foldl_cons]
      obtain hforeign | ⟨own, hown⟩ := h.names v List.mem_cons_self
      · have hnot : ∀ k, ¬ Names v.1 k := fun k hk => by
          have hpath := path?_of_names hk
          rw [path?_of_isForeign hforeign] at hpath
          cases hpath
        rw [path?_of_isForeign hforeign, hgiven, if_neg (hnot k)]
        exact ih hrest hleads fun k hk => hfree k (by rwa [hgiven, if_neg (hnot k)])
      · rw [path?_of_names hown]
        have hmerged : ∀ k' : Key, (tree.mergeInto (nest (valueOf v.2) own.path)).at? k'.path =
            if own = k' then some (valueOf v.2) else tree.at? k'.path := fun k' => by
          rw [(Tree.at?_mergeInto (hleads k') (leads_nest_path own k')).1, at?_nest]
          split
          · next heq =>
              subst heq
              have hnone : tree.at? own.path = none := hfree own (by simp [hgiven, hown])
              rw [hnone]
              rfl
          · rfl
        have hlater : given? rest own = none :=
          given?_eq_none.mpr fun w hw => hfirst w hw own hown
        have hrun := @ih hrest (tree.mergeInto (nest (valueOf v.2) own.path))
          (fun k' => (Tree.at?_mergeInto (hleads k') (leads_nest_path own k')).2)
          (fun k' hk' => by
            have hne : own ≠ k' := fun heq => by
              rw [← heq, hlater] at hk'
              cases hk'
            rw [hmerged, if_neg hne]
            refine hfree k' ?_
            rw [hgiven, if_neg fun hk => hne (names_injective hown hk)]
            exact hk')
        refine ⟨hrun.1.trans ?_, hrun.2⟩
        rw [hmerged, hgiven]
        by_cases heq : own = k
        · subst heq
          rw [hlater, if_pos hown, if_pos rfl]
          rfl
        · rw [if_neg heq, if_neg fun hk => heq (names_injective hown hk)]

/-- The layer of the environment has, for every key, what a variable gives to it. -/
theorem at?_layer {environment : List (String × String)} (h : NamesKeys environment) (k : Key) :
    (layer environment).at? k.path = given? environment k ∧ (layer environment).Leads k.path := by
  have hempty : ∀ k : Key, (Tree.table .environment []).at? k.path = none := fun k => by
    cases k <;> rfl
  have hleads : ∀ k : Key, (Tree.table .environment []).Leads k.path := fun k => by
    have hany : ∀ path, (Tree.table .environment []).Leads path := fun path => by
      cases path with
      | nil => trivial
      | cons key path => exact ⟨_, _, rfl, List.Pairwise.nil, nofun⟩
    exact hany k.path
  have hlayer := at?_extend h hleads (fun k _ => hempty k) k
  rwa [hempty, Option.or_none] at hlayer

end Environment

end CrudStack.Settings
