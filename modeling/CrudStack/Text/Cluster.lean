/-
# `CrudStack.Text.Cluster` — grapheme clusters

What a reader takes for one letter may be several characters: a base letter with combining marks,
two regional indicators that make a flag, the letters of a Hangul syllable.  `clusters` cuts a text
into these units by the extended rules of the standard.  A cut depends only on the cluster built so
far and on the next character, so the cutting is one recursion that carries the open cluster,
written backwards.

Nothing is lost: the clusters concatenate to the text (`flatten_clusters`).
-/
import CrudStack.Text.ClusterTable

namespace CrudStack.Text

/-- What a character does at a cluster boundary. -/
inductive Binding where
  | carriage | feed | control | extend | joiner | regional | opening | spacing
  | leading | vowel | trailing | openSyllable | closedSyllable | other
  deriving DecidableEq, Repr

/-- The zero width joiner. -/
def zeroWidthJoiner : Char := '\u200d'

/-- The binding of a character.  Hangul syllables without a final consonant stand at every 28th
place of their block. -/
def Binding.of (c : Char) : Binding :=
  if c = '\r' then .carriage
  else if c = '\n' then .feed
  else if c = zeroWidthJoiner then .joiner
  else if 0x1f1e6 ≤ c.toNat && c.toNat ≤ 0x1f1ff then .regional
  else if 0xac00 ≤ c.toNat && c.toNat ≤ 0xd7a3 then
    if (c.toNat - 0xac00) % 28 = 0 then .openSyllable else .closedSyllable
  else if Stretch.anyHas controlStretches c then .control
  else if Stretch.anyHas extendStretches c then .extend
  else if Stretch.anyHas prependStretches c then .opening
  else if Stretch.anyHas spacingMarkStretches c then .spacing
  else if Stretch.anyHas leadingJamoStretches c then .leading
  else if Stretch.anyHas vowelJamoStretches c then .vowel
  else if Stretch.anyHas trailingJamoStretches c then .trailing
  else .other

/-- Controls and line ends, which never share a cluster. -/
def Binding.isolated : Binding → Bool
  | .carriage | .feed | .control => true
  | _ => false

/-- A sign that makes a conjunct of the consonants around it. -/
def isLinker (c : Char) : Bool := Stretch.anyHas linkerStretches c

/-- A mark that may stand between the consonants of a conjunct. -/
def extendsConjunct (c : Char) : Bool :=
  c ≠ '\u200c' && (Binding.of c = .extend || Binding.of c = .joiner)

/-- Whether the open cluster ends in a consonant, a linker and other marks, so that a consonant
continues the conjunct.  `linked` tells whether a linker was seen. -/
def awaitsConsonant (linked : Bool) : List Char → Bool
  | [] => false
  | c :: before =>
    if isLinker c then awaitsConsonant true before
    else if extendsConjunct c then awaitsConsonant linked before
    else linked && Stretch.anyHas conjunctStretches c

/-- Whether the open cluster ends in a pictograph, marks and a joiner. -/
def awaitsPictograph : List Char → Bool
  | [] => false
  | c :: before =>
    c = zeroWidthJoiner &&
      match before.dropWhile (Binding.of · = .extend) with
      | [] => false
      | p :: _ => Stretch.anyHas pictographStretches p

/-- Whether `c` continues the open cluster, which is given backwards. -/
def joinsCluster (cluster : List Char) (c : Char) : Bool :=
  match cluster with
  | [] => false
  | last :: _ =>
    let left := Binding.of last
    let right := Binding.of c
    if left = .carriage && right = .feed then true
    else if left.isolated || right.isolated then false
    else if left = .leading && (right = .leading || right = .vowel || right = .openSyllable ||
        right = .closedSyllable)
      then true
    else if (left = .openSyllable || left = .vowel) &&
        (right = .vowel || right = .trailing) then true
    else if (left = .closedSyllable || left = .trailing) && right = .trailing then true
    else if right = .extend || right = .joiner || right = .spacing then true
    else if left = .opening then true
    else if Stretch.anyHas conjunctStretches c && awaitsConsonant false cluster then true
    else if Stretch.anyHas pictographStretches c && awaitsPictograph cluster then true
    else
      left = .regional && right = .regional &&
        (cluster.takeWhile (Binding.of · = .regional)).length % 2 = 1

/-- The clusters of a text whose open cluster, backwards, is `cluster`. -/
def clustersFrom (cluster : List Char) : List Char → List (List Char)
  | [] => [cluster.reverse]
  | c :: rest =>
    if joinsCluster cluster c then clustersFrom (c :: cluster) rest
    else cluster.reverse :: clustersFrom [c] rest

/-- The text cut into grapheme clusters. -/
def clusters : List Char → List (List Char)
  | [] => []
  | c :: rest => clustersFrom [c] rest

theorem flatten_clustersFrom (cluster cs : List Char) :
    (clustersFrom cluster cs).flatten = cluster.reverse ++ cs := by
  induction cs generalizing cluster with
  | nil => simp [clustersFrom]
  | cons c rest ih => unfold clustersFrom; split <;> simp [ih]

/-- Cutting loses nothing. -/
theorem flatten_clusters (cs : List Char) : (clusters cs).flatten = cs := by
  cases cs with
  | nil => rfl
  | cons c rest => simp [clusters, flatten_clustersFrom]

end CrudStack.Text
