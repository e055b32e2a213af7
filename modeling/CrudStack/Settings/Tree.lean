/-
# `CrudStack.Settings.Tree` — values of settings with their sources

Settings come in layers: the defaults, a text or a file, the environment.  Each layer is a tree
whose tables have their keys in increasing order, and every value in it knows where it came from, so
that a complaint can name the source.  Layers are merged key by key: where both have a table under a
key the tables are merged, and otherwise the newer value replaces the older one whatever it is.
-/
import CrudStack.Decimal.Text
import CrudStack.Document
import CrudStack.Path
import CrudStack.Text.Quoted

namespace CrudStack.Settings

/-- Where a value came from. -/
inductive Source where
  | text
  | file (path : Path)
  | environment
  deriving DecidableEq, Repr

/-- A single value. -/
inductive Leaf where
  | bool (value : Bool)
  | signed (value : Int)
  | unsigned (value : Nat)
  | double (value : Double)
  | text (value : String)
  | letter (value : Char)
  deriving DecidableEq, Repr

/-- A value with its source. -/
inductive Tree where
  | leaf (source : Source) (value : Leaf)
  | list (source : Source) (items : List Tree)
  | table (source : Source) (entries : List (String × Tree))
  deriving Repr

namespace Tree

instance : Inhabited Tree := ⟨.list .text []⟩

/-- Where a value came from. -/
def source : Tree → Source
  | .leaf s _ | .list s _ | .table s _ => s

/-- The entries of a table; anything else has none. -/
def entries : Tree → List (String × Tree)
  | .table _ es => es
  | _ => []

/-- Puts a value under a key, in the order of the keys and in place of an older value. -/
def place (key : String) (value : Tree) : List (String × Tree) → List (String × Tree)
  | [] => [(key, value)]
  | (k, v) :: rest =>
    if key = k then (key, value) :: rest
    else if key < k then (key, value) :: (k, v) :: rest
    else (k, v) :: place key value rest

mutual

/-- Merges a newer value over an older one. -/
def mergeInto (old : Tree) : Tree → Tree
  | .table source es => .table source (mergeEntries old.entries es)
  | newer => newer

/-- Merges newer entries over older ones. -/
def mergeEntries (old : List (String × Tree)) : List (String × Tree) → List (String × Tree)
  | [] => old
  | (key, value) :: rest =>
    let merged :=
      match old.lookup key with
      | some o => mergeInto o value
      | none => value
    mergeEntries (place key merged old) rest

end

/-! ## Trees from documents -/

mutual

/-- A document as a value of a source. -/
def ofDocument (source : Source) : Document → Tree
  | .null => .leaf source (.text "")
  | .bool b => .leaf source (.bool b)
  | .integer i => .leaf source (.signed i)
  | .double x => .leaf source (.double x)
  | .text s => .leaf source (.text s)
  | .list items => .list source (ofItems source items)
  | .table entries => .table source (ofEntries source entries [])

/-- The elements of a list as values of a source. -/
def ofItems (source : Source) : List Document → List Tree
  | [] => []
  | d :: rest => ofDocument source d :: ofItems source rest

/-- The entries of a table as values of a source, put among others. -/
def ofEntries (source : Source) :
    List (String × Document) → List (String × Tree) → List (String × Tree)
  | [], placed => placed
  | (key, d) :: rest, placed => ofEntries source rest (place key (ofDocument source d) placed)

end

/-! ## Complaints -/

/-- What a single value is called in a complaint. -/
def leafText : Leaf → String
  | .bool b => "bool " ++ (if b then "true" else "false")
  | .signed i => "signed int `" ++ toString i ++ "`"
  | .unsigned n => "unsigned int `" ++ toString n ++ "`"
  | .double x => "float `" ++ x.plain ++ "`"
  | .text s => "string " ++ Text.quote s
  | .letter c => "string " ++ Text.quote (String.singleton c)

/-- What a value is called in a complaint. -/
def foundText : Tree → String
  | .leaf _ v => leafText v
  | .list _ _ => "sequence"
  | .table _ _ => "map"

end Tree

end CrudStack.Settings
