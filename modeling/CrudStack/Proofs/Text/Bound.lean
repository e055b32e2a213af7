/-
# `CrudStack.Proofs.Text.Bound` — underscores that share a cluster

An underscore between two letters is a cluster of its own.  It is none behind a sign that opens a
cluster, nor before a mark that joins whatever stands in front of it, and in the scripts that have
them such signs and marks count as letters.  So a name may hold underscores that stand alone and
others that do not, and the neighbours of an underscore tell which it is: it is bound if a sign
stands before it or a mark behind it.

Main statements: in the clusters of a name every underscore is bound unless it is the whole cluster,
and nothing binds across the end of a cluster (`parted_clusters`); the lower case changes none of
this (`bound_lowerAfter`, `apart_lowerChars`), because the letters that have another lower case
stand in blocks without signs and marks.
-/
import CrudStack.Proofs.Text.Lowered
import CrudStack.Text.Cluster
import Mathlib.Data.List.Chain

namespace CrudStack.Text

/-! ## Marks and signs -/

/-- A mark joins the cluster before it. -/
def isMark (c : Char) : Bool :=
  Binding.of c = .extend || Binding.of c = .joiner || Binding.of c = .spacing

/-- A sign takes the next character into its cluster. -/
def isSign (c : Char) : Bool := Binding.of c = .opening

def startsWithMark (cs : List Char) : Bool := cs.head?.any isMark

def endsInSign (cs : List Char) : Bool := cs.getLast?.any isSign

/-- What is known of a character by its binding: the character itself, or a table that has it. -/
def Binding.Holds (c : Char) : Binding → Prop
  | .carriage => c = '\r'
  | .feed => c = '\n'
  | .joiner => c = zeroWidthJoiner
  | .control => Stretch.anyHas controlStretches c = true
  | .extend => Stretch.anyHas extendStretches c = true
  | .opening => Stretch.anyHas prependStretches c = true
  | .spacing => Stretch.anyHas spacingMarkStretches c = true
  | _ => True

theorem Binding.holds_ite {c : Char} {p : Prop} [Decidable p] {a b : Binding} (ha : p → a.Holds c)
    (hb : b.Holds c) : (if p then a else b).Holds c := by
  split
  · next h => exact ha h
  · exact hb

theorem Binding.holds_of (c : Char) : (Binding.of c).Holds c := by
  unfold Binding.of
  refine holds_ite ?carriage <| holds_ite ?feed <| holds_ite ?joiner <| holds_ite ?regional <|
    holds_ite ?hangul <| holds_ite ?control <| holds_ite ?extend <| holds_ite ?opening <|
    holds_ite ?spacing <| holds_ite ?leading <| holds_ite ?vowel <| holds_ite ?trailing ?other
  case carriage | feed | joiner | control | extend | opening | spacing => exact fun h => h
  case regional | leading | vowel | trailing => exact fun _ => trivial
  case hangul =>
    intro _
    generalize (c.toNat - 0xac00) % 28 = place
    split
    · exact trivial
    · exact trivial
  case other => exact trivial

theorem Binding.holds {c : Char} {b : Binding} (h : Binding.of c = b) : b.Holds c :=
  h ▸ holds_of c

/-- An underscore is in none of the classes. -/
theorem underscore_unclassed : Binding.of '_' = .other ∧
    Stretch.anyHas conjunctStretches '_' = false ∧
      Stretch.anyHas pictographStretches '_' = false := by
  decide +kernel

theorem of_underscore : Binding.of '_' = .other := underscore_unclassed.1

/-- A name has no controls and no line ends. -/
theorem isolated_of_name {c : Char} (h : isAlphanumeric c = true ∨ c = '_') :
    (Binding.of c).isolated = false := by
  have htables : controlStretches.all (fun s =>
      (alphabeticStretches ++ numericStretches).all s.apart) = true := by
    decide +kernel
  have hends : isAlphanumeric '\r' = false ∧ isAlphanumeric '\n' = false := by decide +kernel
  rcases h with h | rfl
  · cases hbinding : Binding.of c with
    | carriage =>
        obtain rfl : c = '\r' := Binding.holds hbinding
        exact absurd (h.symm.trans hends.1) (by decide)
    | feed =>
        obtain rfl : c = '\n' := Binding.holds hbinding
        exact absurd (h.symm.trans hends.2) (by decide)
    | control =>
        obtain ⟨s, hs, hhas⟩ := List.any_eq_true.mp (Binding.holds hbinding)
        simp only [Stretch.has, Bool.and_eq_true, decide_eq_true_eq] at hhas
        have hnone := Stretch.anyHas_of_apart (List.all_eq_true.mp htables s hs) hhas.1
        rw [Stretch.anyHas, List.any_append] at hnone
        exact absurd (h.symm.trans hnone) (by decide)
    | _ => rfl
  · rw [of_underscore]
    rfl

/-! ## Letters of lower case -/

/-- The dot above an `i` that has lost its own. -/
def combiningDot : Char := '\u0307'

/-- A character that is no mark, no sign and no underscore. -/
structure Plain (c : Char) : Prop where
  mark : isMark c = false
  sign : isSign c = false
  underscore : c ≠ '_'

/-- Blocks that hold all letters with a lower case of one letter, and these. -/
def letterBlocks : List Stretch := [
  ⟨0x41, 0x5a, 1⟩, ⟨0x61, 0x29e, 1⟩, ⟨0x370, 0x481, 1⟩, ⟨0x48a, 0x586, 1⟩, ⟨0x10a0, 0x10ff, 1⟩,
  ⟨0x13a0, 0x13fd, 1⟩, ⟨0x1c89, 0x1cbf, 1⟩, ⟨0x1d79, 0x1d8e, 1⟩, ⟨0x1e00, 0x1ffc, 1⟩,
  ⟨0x2126, 0x2cee, 1⟩, ⟨0x2cf2, 0x2d2d, 1⟩, ⟨0xa640, 0xa66d, 1⟩, ⟨0xa680, 0xa69b, 1⟩,
  ⟨0xa722, 0xa7f6, 1⟩, ⟨0xab53, 0xabbf, 1⟩, ⟨0xff21, 0xff5a, 1⟩, ⟨0x10400, 0x105bc, 1⟩,
  ⟨0x10c80, 0x10cf2, 1⟩, ⟨0x10d50, 0x10d65, 1⟩, ⟨0x10d70, 0x10d85, 1⟩, ⟨0x118a0, 0x118df, 1⟩,
  ⟨0x16e40, 0x16ed3, 1⟩, ⟨0x1e900, 0x1e943, 1⟩]

/-- What `letterBlocks` leave out: the underscore, the joiner, marks and signs. -/
def bindingStretches : List Stretch :=
  ⟨0x5f, 0x5f, 1⟩ :: ⟨0x200d, 0x200d, 1⟩ ::
    (extendStretches ++ spacingMarkStretches ++ prependStretches)

theorem plain_of_unbinding {c : Char} (h : Stretch.anyHas bindingStretches c = false) :
    Plain c := by
  simp only [bindingStretches, Stretch.anyHas, List.any_cons, List.any_append,
    Bool.or_eq_false_iff] at h
  obtain ⟨hunderscore, hjoiner, ⟨hextend, hspacing⟩, hopening⟩ := h
  refine ⟨?_, ?_, ?_⟩
  · cases hbinding : Binding.of c with
    | extend => exact absurd ((Binding.holds hbinding).symm.trans hextend) (by decide)
    | spacing => exact absurd ((Binding.holds hbinding).symm.trans hspacing) (by decide)
    | joiner =>
        obtain rfl : c = zeroWidthJoiner := Binding.holds hbinding
        exact absurd hjoiner (by decide)
    | _ =>
        rw [isMark, hbinding]
        rfl
  · refine decide_eq_false fun hbinding => ?_
    exact absurd ((Binding.holds hbinding).symm.trans hopening) (by decide)
  · rintro rfl
    exact absurd hunderscore (by decide)

theorem plain_of_block {b : Stretch} (hb : b ∈ letterBlocks) {c : Char}
    (hc : b.first ≤ c.toNat ∧ c.toNat ≤ b.last) : Plain c := by
  have htables : letterBlocks.all (fun b => bindingStretches.all b.apart) = true := by
    decide +kernel
  exact plain_of_unbinding (Stretch.anyHas_of_apart (List.all_eq_true.mp htables b hb) hc)

theorem lowerShifts_blocks : ∀ s ∈ lowerShifts,
    (∃ b ∈ letterBlocks, b.first ≤ s.domain.first ∧ s.domain.last ≤ b.last) ∧
    ∃ b ∈ letterBlocks, b.first ≤ s.image ∧
      s.image + (s.domain.last - s.domain.first) ≤ b.last ∧
        Scalars s.image (s.image + (s.domain.last - s.domain.first)) := by
  decide +kernel

/-- The lower case of a character is the character itself, or both are plain and a dot may
follow. -/
theorem lowerChar_cases (c : Char) : lowerChar c = [c] ∨
    Plain c ∧ ∃ x, Plain x ∧ (lowerChar c = [x] ∨ lowerChar c = [x, combiningDot]) := by
  rw [lowerChar]
  rcases caseImage_cases lowerSpellings lowerShifts c with
    ⟨e, he, hcode, himage⟩ | ⟨s, hs, hhas, himage⟩ | himage
  · obtain rfl := List.mem_singleton.mp he
    obtain rfl : c = '\u0130' := Char.toNat_inj.mp hcode
    have hplain : Plain '\u0130' ∧ Plain 'i' :=
      ⟨plain_of_block (b := ⟨0x61, 0x29e, 1⟩) (by decide) (by decide),
        plain_of_block (b := ⟨0x61, 0x29e, 1⟩) (by decide) (by decide)⟩
    exact .inr ⟨hplain.1, 'i', hplain.2, .inr himage⟩
  · obtain ⟨⟨b, hb, hfirst, hlast⟩, b', hb', hfirst', hlast', hscalars⟩ := lowerShifts_blocks s hs
    simp only [Stretch.has, Bool.and_eq_true, decide_eq_true_eq] at hhas
    obtain ⟨⟨hle, hge⟩, -⟩ := hhas
    refine .inr ⟨plain_of_block hb (by omega), _, plain_of_block hb' ?_, .inl himage⟩
    rw [toNat_ofNat_of_scalars hscalars (by omega) (by omega)]
    omega
  · exact .inl himage

/-! ## What joins a cluster -/

theorem isMark_underscore : isMark '_' = false := by
  rw [isMark, of_underscore]
  rfl

theorem joinsCluster_of_mark {last c : Char} (hlast : (Binding.of last).isolated = false)
    (h : isMark c = true) (before : List Char) : joinsCluster (last :: before) c = true := by
  simp only [isMark, Bool.or_eq_true, decide_eq_true_eq] at h
  rcases h with (h | h) | h <;> simp +decide [joinsCluster, hlast, h]

theorem joinsCluster_of_sign {last c : Char} (hc : (Binding.of c).isolated = false)
    (h : isSign last = true) (before : List Char) : joinsCluster (last :: before) c = true := by
  have hlast := of_decide_eq_true h
  simp +decide [joinsCluster, hlast, hc]

/-- An underscore joins a cluster only behind a sign. -/
theorem sign_of_joinsCluster {last : Char} {before : List Char}
    (h : joinsCluster (last :: before) '_' = true) : isSign last = true := by
  obtain ⟨-, hconjunct, hpictograph⟩ := underscore_unclassed
  refine decide_eq_true ?_
  by_contra hlast
  simp [joinsCluster, of_underscore, hconjunct, hpictograph, hlast, Binding.isolated] at h

/-- Only a mark joins an underscore that opens a cluster. -/
theorem mark_of_joinsCluster {c : Char} (h : joinsCluster ['_'] c = true) : isMark c = true := by
  have hconsonant : awaitsConsonant false ['_'] = false := by decide +kernel
  have hpictograph : awaitsPictograph ['_'] = false := by decide +kernel
  simp [joinsCluster, of_underscore, hconsonant, hpictograph, Binding.isolated] at h
  simp [isMark, h]

/-! ## Bound underscores -/

/-- Every underscore of the text stands behind a sign or before a mark.  `led` tells whether a sign
stands before the text. -/
def Bound (led : Bool) : List Char → Prop
  | [] => True
  | c :: rest => (c = '_' → led = true ∨ startsWithMark rest = true) ∧ Bound (isSign c) rest

/-- Nothing binds from the end of one text to the start of another. -/
structure Apart (v w : List Char) : Prop where
  sign : endsInSign v = false
  mark : startsWithMark w = false

theorem Bound.of_false {cs : List Char} (h : Bound false cs) (led : Bool) : Bound led cs := by
  cases cs with
  | nil => trivial
  | cons c rest => exact ⟨fun hc => .inr ((h.1 hc).resolve_left Bool.false_ne_true), h.2⟩

theorem startsWithMark_cons (c : Char) (rest : List Char) :
    startsWithMark (c :: rest) = isMark c := rfl

theorem startsWithMark_append {v : List Char} (h : startsWithMark v = true) (w : List Char) :
    startsWithMark (v ++ w) = true := by
  cases v with
  | nil => cases h
  | cons c rest => exact h

theorem endsInSign_append {w : List Char} (hw : w ≠ []) (v : List Char) :
    endsInSign (v ++ w) = endsInSign w := by
  rw [endsInSign, List.getLast?_append_of_ne_nil v hw, endsInSign]

theorem endsInSign_concat (v : List Char) (c : Char) : endsInSign (v ++ [c]) = isSign c := by
  rw [endsInSign, List.getLast?_concat, Option.any_some]

/-- A text with its underscores bound is followed by one that may rely on its last character. -/
theorem Bound.append {led : Bool} {v w : List Char} (hv : Bound led v)
    (hw : Bound (if v = [] then led else endsInSign v) w) : Bound led (v ++ w) := by
  induction v generalizing led with
  | nil => exact hw
  | cons c rest ih =>
      refine ⟨fun hc => (hv.1 hc).imp_right fun h => startsWithMark_append h w, ih hv.2 ?_⟩
      rw [if_neg (List.cons_ne_nil c rest)] at hw
      cases rest with
      | nil => exact hw
      | cons d rest => exact hw

/-! ## Clusters of a name -/

/-- A cluster with its underscores bound, or the underscore that stands alone. -/
def Lone (g : List Char) : Prop := g = ['_'] ∨ Bound false g

theorem lone_singleton (c : Char) : Lone [c].reverse := by
  by_cases hc : c = '_'
  · exact .inl (congrArg (fun c => [c]) hc)
  · exact .inr ⟨fun h => absurd h hc, trivial⟩

/-- What joins a cluster leaves its underscores bound. -/
theorem lone_join {last c : Char} {before : List Char} (hopen : Lone (last :: before).reverse)
    (h : joinsCluster (last :: before) c = true) : Lone (c :: last :: before).reverse := by
  rw [List.reverse_cons]
  rcases hopen with hscore | hbound
  · obtain ⟨rfl, rfl⟩ : last = '_' ∧ before = [] := by
      simpa using congrArg List.reverse hscore
    have hmark := mark_of_joinsCluster h
    refine .inr ⟨fun _ => .inr hmark, fun hc => ?_, trivial⟩
    rw [hc, isMark_underscore] at hmark
    cases hmark
  · refine .inr (hbound.append ?_)
    rw [if_neg (by simp), List.reverse_cons, endsInSign_concat]
    refine ⟨fun hc => .inl ?_, trivial⟩
    rw [hc] at h
    exact sign_of_joinsCluster h

/-- Clusters that keep their underscores to themselves. -/
structure Parted (gs : List (List Char)) : Prop where
  nonempty : ∀ g ∈ gs, g ≠ []
  lone : ∀ g ∈ gs, Lone g
  apart : gs.IsChain Apart

theorem Parted.tail {g : List Char} {rest : List (List Char)} (h : Parted (g :: rest)) :
    Parted rest where
  nonempty := fun x hx => h.nonempty x (List.mem_cons_of_mem g hx)
  lone := fun x hx => h.lone x (List.mem_cons_of_mem g hx)
  apart := h.apart.tail

/-- The clusters from an open one on: the first of them begins like the open one. -/
theorem parted_clustersFrom {last : Char} {before cs : List Char}
    (hname : ∀ c ∈ last :: cs, (Binding.of c).isolated = false)
    (hopen : Lone (last :: before).reverse) :
    Parted (clustersFrom (last :: before) cs) ∧
      ∀ g ∈ (clustersFrom (last :: before) cs).head?, (last :: before).reverse <+: g := by
  induction cs generalizing last before with
  | nil =>
      refine ⟨⟨?_, ?_, List.isChain_singleton _⟩, ?_⟩
      · simp [clustersFrom]
      · simpa [clustersFrom] using hopen
      · simp [clustersFrom]
  | cons c rest ih =>
      rw [List.forall_mem_cons] at hname
      have hc := hname.2 c List.mem_cons_self
      unfold clustersFrom
      split
      · next hjoin =>
          obtain ⟨hparted, hfirst⟩ := ih hname.2 (lone_join hopen hjoin)
          refine ⟨hparted, fun g hg => ?_⟩
          have hlonger := hfirst g hg
          rw [List.reverse_cons] at hlonger
          exact (List.prefix_append _ _).trans hlonger
      · next hjoin =>
          obtain ⟨hparted, hfirst⟩ := ih hname.2 (lone_singleton c)
          refine ⟨⟨?_, ?_, List.isChain_cons.mpr ⟨fun g hg => ⟨?_, ?_⟩, hparted.apart⟩⟩, ?_⟩
          · exact List.forall_mem_cons.mpr ⟨by simp, hparted.nonempty⟩
          · exact List.forall_mem_cons.mpr ⟨hopen, hparted.lone⟩
          · rw [List.reverse_cons, endsInSign_concat]
            refine Bool.eq_false_iff.mpr fun hsign => hjoin ?_
            exact joinsCluster_of_sign hc hsign before
          · obtain ⟨more, rfl⟩ := hfirst g hg
            refine Bool.eq_false_iff.mpr fun hmark => hjoin ?_
            exact joinsCluster_of_mark hname.1 hmark before
          · rintro g ⟨⟩
            exact List.prefix_refl _

/-- The clusters of a name keep their underscores to themselves. -/
theorem parted_clusters {cs : List Char} (h : ∀ c ∈ cs, isAlphanumeric c = true ∨ c = '_') :
    Parted (clusters cs) := by
  cases cs with
  | nil => exact ⟨by simp [clusters], by simp [clusters], List.isChain_nil⟩
  | cons c rest =>
      exact (parted_clustersFrom (fun x hx => isolated_of_name (h x hx)) (lone_singleton c)).1

/-! ## Lower case -/

/-- The image of a character at its place is the character, or both are plain and a dot may
follow. -/
theorem imageAt_cases (before : List Char) (c : Char) (rest : List Char) :
    imageAt before c rest = [c] ∨ Plain c ∧ ∃ x, Plain x ∧
      (imageAt before c rest = [x] ∨ imageAt before c rest = [x, combiningDot]) := by
  unfold imageAt
  split
  · next hc =>
      have hplain : Plain 'Σ' ∧ Plain 'ς' ∧ Plain 'σ' :=
        ⟨plain_of_block (b := ⟨0x370, 0x481, 1⟩) (by decide) (by decide),
          plain_of_block (b := ⟨0x370, 0x481, 1⟩) (by decide) (by decide),
          plain_of_block (b := ⟨0x370, 0x481, 1⟩) (by decide) (by decide)⟩
      refine .inr ⟨hc ▸ hplain.1, _, ?_, .inl rfl⟩
      split
      · exact hplain.2.1
      · exact hplain.2.2
  · exact lowerChar_cases c

theorem startsWithMark_lowerAfter (before cs : List Char) :
    startsWithMark (lowerAfter before cs) = startsWithMark cs := by
  cases cs with
  | nil => rfl
  | cons c rest =>
      rw [lowerAfter_cons]
      rcases imageAt_cases before c rest with himage | ⟨hc, x, hx, himage | himage⟩
      · rw [himage]
        rfl
      · rw [himage]
        exact hx.mark.trans hc.mark.symm
      · rw [himage]
        exact hx.mark.trans hc.mark.symm

theorem combiningDot_plain : isSign combiningDot = false ∧ combiningDot ≠ '_' := by decide +kernel

theorem endsInSign_imageAt (before : List Char) (c : Char) (rest : List Char) :
    endsInSign (imageAt before c rest) = isSign c := by
  rcases imageAt_cases before c rest with himage | ⟨hc, x, hx, himage | himage⟩
  · rw [himage]
    rfl
  · rw [himage]
    exact hx.sign.trans hc.sign.symm
  · rw [himage, hc.sign]
    exact (endsInSign_concat [x] combiningDot).trans combiningDot_plain.1

theorem endsInSign_lowerAfter (before cs : List Char) :
    endsInSign (lowerAfter before cs) = endsInSign cs := by
  induction cs generalizing before with
  | nil => rfl
  | cons c rest ih =>
      rw [lowerAfter_cons]
      cases rest with
      | nil =>
          rw [lowerAfter, List.append_nil, endsInSign_imageAt]
          rfl
      | cons d rest =>
          have hne : lowerAfter (c :: before) (d :: rest) ≠ [] :=
            List.append_ne_nil_of_left_ne_nil (imageAt_ne_nil _ d rest) _
          rw [endsInSign_append hne, ih]
          rfl

/-- The lower case leaves underscores bound. -/
theorem bound_lowerAfter {led : Bool} {cs : List Char} (h : Bound led cs) (before : List Char) :
    Bound led (lowerAfter before cs) := by
  induction cs generalizing led before with
  | nil => trivial
  | cons c rest ih =>
      obtain ⟨hc, hrest⟩ := h
      have hmore := ih hrest (c :: before)
      rw [lowerAfter_cons]
      rcases imageAt_cases before c rest with himage | ⟨hplain, x, hx, himage | himage⟩
      · rw [himage]
        exact ⟨fun h => (hc h).imp_right (startsWithMark_lowerAfter (c :: before) rest).trans,
          hmore⟩
      · rw [himage]
        rw [hplain.sign, ← hx.sign] at hmore
        exact ⟨fun h => absurd h hx.underscore, hmore⟩
      · rw [himage]
        rw [hplain.sign, ← combiningDot_plain.1] at hmore
        exact ⟨fun h => absurd h hx.underscore, fun h => absurd h combiningDot_plain.2, hmore⟩

theorem apart_lowerChars {v w : List Char} (h : Apart v w) :
    Apart (lowerChars v) (lowerChars w) where
  sign := (endsInSign_lowerAfter [] v).trans h.sign
  mark := (startsWithMark_lowerAfter [] w).trans h.mark

end CrudStack.Text
