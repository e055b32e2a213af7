/-
# `CrudStack.Naming` — names derived from a class, a field or a project

Every name that occurs in more than one artifact is derived here, from the name in the model alone.
Backend and frontend call the same functions, so that the route in a controller and the route in a
component cannot drift apart.

Two derivations cut a name into words.  A *label* (`fieldLabel`) is meant for readers: words start
with a capital, separators vanish.  A *table name* (`tableName`) is meant for the database: words
are in lower case and joined by underscores, and they are cut at separators and where the case or
the kind of the letters changes.
-/
import CrudStack.Text.Case
import CrudStack.Text.Cluster

namespace CrudStack.Naming

open Text

/-! ## Routes, plurals, labels -/

/-- Path segment under which the backend serves a class and the frontend finds it. -/
def routeSegment (className : String) : String := lower className

/-- The vowels that keep a final `y` in the plural. -/
def vowels : List Char := ['a', 'e', 'i', 'o', 'u']

/-- The endings that take `es` in the plural. -/
def sibilants : List (List Char) := [['s'], ['x'], ['z'], ['c', 'h'], ['s', 'h']]

/-- Whether a text, in lower case and read backwards, ends in `y` after something that is no
vowel. -/
def endsInConsonantY : List Char → Bool
  | 'y' :: before :: _ => !vowels.contains before
  | _ => false

/-- Plural of a class name by its ending: `Address` to `Addresses`, `Category` to `Categories`,
anything else with `s`.  The ending is judged in lower case; the name keeps its own letters. -/
def pluralLabel (className : String) : String :=
  let ending := (lowerChars className.toList).reverse
  if sibilants.any fun s => s.reverse.isPrefixOf ending then className ++ "es"
  else if endsInConsonantY ending then String.ofList className.toList.dropLast ++ "ies"
  else className ++ "s"

/-- Where a label stands between two characters: whether a new word is due, whether the label is
still empty of words, whether anything was kept, and the last letter inside a word. -/
structure LabelState where
  newWord : Bool
  firstWord : Bool
  found : Bool
  last : Char

/-- The label of the remaining characters.  A letter opens a word if one is due or if it is the
upper case after a lower case; a number always ends the word it stands in. -/
def labelFrom (s : LabelState) : List Char → List Char
  | [] => []
  | c :: rest =>
    if !isAlphanumeric c then
      labelFrom (if s.found then { s with newWord := true } else s) rest
    else if isNumeric c then
      c :: labelFrom { s with newWord := true, found := true } rest
    else if s.newWord || (isLowercase s.last && isUppercase c) then
      (if s.firstWord then [] else [' ']) ++
        asciiUpper c ::
          labelFrom { s with newWord := false, firstWord := false, found := true } rest
    else
      asciiLower c :: labelFrom { s with found := true, last := c } rest

/-- Label of a field: its words with capitals, or the name itself with a capital if it has no
letter and no number. -/
def fieldLabel (fieldName : String) : String :=
  let label := labelFrom ⟨true, true, false, ' '⟩ fieldName.toList
  if label.isEmpty then capitalize fieldName else String.ofList label

/-! ## Table names -/

/-- A cluster that has a case and stands in lower case. -/
def isLowerCluster (g : List Char) : Bool :=
  lowerChars g ≠ upperChars g && g = lowerChars g

/-- A cluster that has a case and stands in upper case. -/
def isUpperCluster (g : List Char) : Bool :=
  lowerChars g ≠ upperChars g && g = upperChars g

/-- A cluster that is a digit of ASCII. -/
def isDigitCluster (g : List Char) : Bool := g.all isAsciiDigit

/-- The clusters that separate words and belong to none. -/
def isSeparator (g : List Char) : Bool := g = ['_'] || g = ['-'] || g = [' ']

/-- Whether a word ends after `g`: where the case rises, where letters and digits meet, and before
the last capital of a run that starts a capitalized word. -/
def endsWord (g : List Char) : List (List Char) → Bool
  | [] => false
  | next :: more =>
    (isLowerCluster g && (isUpperCluster next || isDigitCluster next)) ||
    (isUpperCluster g && isDigitCluster next) ||
    (isDigitCluster g && (isLowerCluster next || isUpperCluster next)) ||
    (isUpperCluster g && isUpperCluster next && (more.head?.any isLowerCluster))

/-- The words of a sequence of clusters of which `word` is open. -/
def wordsFrom (word : List Char) : List (List Char) → List (List Char)
  | [] => [word]
  | g :: rest =>
    if isSeparator g then word :: wordsFrom [] rest
    else if endsWord g rest then (word ++ g) :: wordsFrom [] rest
    else wordsFrom (word ++ g) rest

/-- The words of a name, empty ones included. -/
def words (name : String) : List (List Char) := wordsFrom [] (clusters name.toList)

/-- Name of the table of a class: `PetOwner` to `pet_owner`. -/
def tableName (className : String) : String :=
  "_".intercalate ((words className).map fun w => String.ofList (lowerChars w))

/-! ## Names of source code -/

/-- The characters of a project name that may stand in an identifier. -/
def identifierPart (name : String) : String :=
  String.ofList (name.toList.filter isAsciiAlphanumeric)

/-- Name of the class that starts the generated application. -/
def applicationClass (projectName : String) : String :=
  capitalize (identifierPart projectName) ++ "Application"

/-- Name of a variable that holds an instance of a class. -/
def variableName (className : String) : String := lowerFirst className

/-- Name of a field as it stands inside the names of its accessors. -/
def capitalizedField (fieldName : String) : String := capitalize fieldName

/-- Name of the component of a class. -/
def componentName (className : String) : String := className ++ "Form"

end CrudStack.Naming
