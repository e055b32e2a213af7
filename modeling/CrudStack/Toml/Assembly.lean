/-
# `CrudStack.Toml.Assembly` — tables under construction

The statements of a TOML text build its tables piece by piece, and a table may be extended only in
the way in which it came about: a table that a header merely passed through may still get a header
of its own, one that dotted keys brought about may only be extended by dotted keys, and a table or a
list that was written as a value is complete.  While a text is read, its tables carry these marks.

A header that comes after the headers of its subtables takes its place at the end of the table
around it.
-/
import CrudStack.Document

namespace CrudStack.Toml

/-- What a key stands for while a text is read. -/
inductive Item where
  /-- A value that was written out. -/
  | value (value : Document)
  /-- A table; `implicit` if it has no header of its own, `dotted` if dotted keys brought it
  about. -/
  | table (implicit dotted : Bool) (entries : List (String × Item))
  /-- A list of tables that each have a header. -/
  | tables (elements : List (List (String × Item)))

/-- The entries of a table while a text is read. -/
abbrev Entries := List (String × Item)

/-- Puts another item in the place of a key. -/
def replaceItem (key : String) (item : Item) : Entries → Entries
  | [] => []
  | (k, i) :: rest => if k = key then (k, item) :: rest else (k, i) :: replaceItem key item rest

/-- Removes a key. -/
def removeItem (key : String) (entries : Entries) : Entries := entries.filter fun e => e.1 ≠ key

/-! ## Pairs -/

/-- Adds a key with a value to a table that does not have it. -/
def addValue (key : String) (value : Document) (entries : Entries) : Option Entries :=
  if (entries.lookup key).isSome then none else some (entries ++ [(key, .value value)])

/-- Adds a value under a dotted key.  `inside` tells whether the table was reached through a part of
that key, and `dotted` whether dotted keys brought it about; the last table on the way must be one
of those. -/
def addPair (value : Document) (inside dotted : Bool) :
    List String → Entries → Option Entries
  | [], _ => none
  | [key], entries => if inside && !dotted then none else addValue key value entries
  | part :: parts, entries =>
    match entries.lookup part with
    | none => do
      let sub ← addPair value true true parts []
      return entries ++ [(part, .table true true sub)]
    | some (.table implicit dotted sub) =>
      if implicit then do
        let sub ← addPair value true dotted parts sub
        return replaceItem part (.table implicit dotted sub) entries
      else none
    | some (.tables elements) =>
      match elements.getLast? with
      | none => none
      | some last => do
        let last ← addPair value true false parts last
        return replaceItem part (.tables (elements.dropLast ++ [last])) entries
    | some (.value _) => none

/-- Adds the pairs of a table, in order. -/
def addPairs (pairs : List (List String × Document)) (entries : Entries) : Option Entries :=
  pairs.foldlM (fun entries p => addPair p.2 false false p.1 entries) entries

/-! ## Headers -/

/-- Changes the table at the end of a path, making the tables on the way that are missing.  A list
of tables is passed through its last element. -/
def updateAt (change : Entries → Option Entries) : List String → Entries → Option Entries
  | [], entries => change entries
  | part :: parts, entries =>
    match entries.lookup part with
    | none => do
      let sub ← updateAt change parts []
      return entries ++ [(part, .table true false sub)]
    | some (.table implicit dotted sub) => do
      let sub ← updateAt change parts sub
      return replaceItem part (.table implicit dotted sub) entries
    | some (.tables elements) =>
      match elements.getLast? with
      | none => none
      | some last => do
        let last ← updateAt change parts last
        return replaceItem part (.tables (elements.dropLast ++ [last])) entries
    | some (.value _) => none

/-- Gives a table its header, with the pairs below it. -/
def openTable (key : String) (pairs : List (List String × Document)) (entries : Entries) :
    Option Entries :=
  match entries.lookup key with
  | none => do
    let sub ← addPairs pairs []
    return entries ++ [(key, .table false false sub)]
  | some (.table true false sub) => do
    let sub ← addPairs pairs sub
    return removeItem key entries ++ [(key, .table false false sub)]
  | some _ => none

/-- Adds an element to a list of tables, with the pairs below its header. -/
def openElement (key : String) (pairs : List (List String × Document)) (entries : Entries) :
    Option Entries :=
  match entries.lookup key with
  | none => do
    let sub ← addPairs pairs []
    return entries ++ [(key, .tables [sub])]
  | some (.tables elements) => do
    let sub ← addPairs pairs []
    return replaceItem key (.tables (elements ++ [sub])) entries
  | some _ => none

/-- A header with the pairs below it. -/
structure Section where
  isElement : Bool
  path : List String
  pairs : List (List String × Document)

/-- Adds a section to the whole. -/
def addSection (entries : Entries) (s : Section) : Option Entries :=
  match s.path.getLast? with
  | none => none
  | some key =>
    updateAt ((if s.isElement then openElement else openTable) key s.pairs) s.path.dropLast entries

/-! ## Completion -/

mutual

/-- An item without its marks. -/
def Item.document : Item → Document
  | .value v => v
  | .table _ _ entries => .table (entriesDocument entries)
  | .tables elements => .list (elementsDocument elements)

/-- The entries of a table without their marks. -/
def entriesDocument : List (String × Item) → List (String × Document)
  | [] => []
  | (key, item) :: rest => (key, item.document) :: entriesDocument rest

/-- The elements of a list of tables without their marks. -/
def elementsDocument : List (List (String × Item)) → List Document
  | [] => []
  | entries :: rest => .table (entriesDocument entries) :: elementsDocument rest

end

/-- The table that pairs alone make up. -/
def tableOfPairs (pairs : List (List String × Document)) : Option Document := do
  let entries ← addPairs pairs []
  return .table (entriesDocument entries)

/-- The table that pairs and sections make up. -/
def assemble (pairs : List (List String × Document)) (sections : List Section) :
    Option Document := do
  let entries ← addPairs pairs []
  let entries ← sections.foldlM addSection entries
  return .table (entriesDocument entries)

end CrudStack.Toml
