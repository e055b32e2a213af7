/-
# `CrudStack.Proofs.Toml.Written` — a written table is one of its texts

The writer goes through a table twice: its own values are written first, and then what comes below
headers, each header with its whole path.  As statements these are the pairs of the table and the
sections below its keys, and they tell the table again key by key (`told_written`).  The lines that
the writer puts are texts of the statements (`isTextOf_write`).
-/
import CrudStack.Proofs.Toml.Assembled
import CrudStack.Proofs.Toml.Quoted

namespace CrudStack.Toml

/-! ## What has a text -/

mutual

/-- A document without nulls and doubles, with integers of 64 bits and no key twice. -/
def Writable : Document → Prop
  | .null => False
  | .bool _ => True
  | .integer i => -(integerLimit : Int) ≤ i ∧ i < integerLimit
  | .double _ => False
  | .text _ => True
  | .list ds => ItemsWritable ds
  | .table es => (es.map (·.1)).Nodup ∧ EntriesWritable es

/-- The same for the elements of a list. -/
def ItemsWritable : List Document → Prop
  | [] => True
  | d :: ds => Writable d ∧ ItemsWritable ds

/-- The same for the entries of a table. -/
def EntriesWritable : List (String × Document) → Prop
  | [] => True
  | (_, d) :: es => Writable d ∧ EntriesWritable es

end

theorem entriesWritable_iff {es : List (String × Document)} :
    EntriesWritable es ↔ ∀ e ∈ es, Writable e.2 := by
  induction es with
  | nil => simp [EntriesWritable]
  | cons e es ih => rw [EntriesWritable, List.forall_mem_cons, ih]

/-! ## Statements below keys -/

/-- A pair below a key. -/
def pairUnder (key : String) (p : Pair) : Pair := (key :: p.1, p.2)

/-- A section below a key. -/
def sectionUnder (key : String) (s : Section) : Section := ⟨s.isElement, key :: s.path, s.pairs⟩

section Under

variable {key : String}

/-- Pairs below a key in front of pairs below others are told apart. -/
theorem pairs_under (own others : List Pair)
    (h : ∀ p ∈ others, p.1.head? ≠ some key) :
    pairsBelow key (own.map (pairUnder key) ++ others) = own ∧
      pairsBeside key (own.map (pairUnder key) ++ others) = others := by
  refine ⟨?_, ?_⟩
  · have hown : pairsBelow key (own.map (pairUnder key)) = own := by
      rw [pairsBelow, List.filterMap_map]
      refine (List.filterMap_congr fun p _ => ?_).trans List.filterMap_some
      simp [pairUnder]
    have hothers : pairsBelow key others = [] := List.filterMap_eq_nil_iff.mpr fun p hp => by
      have hne := h p hp
      obtain ⟨_ | ⟨part, path⟩, d⟩ := p
      · rfl
      · exact if_neg fun heq => hne (by rw [heq]; rfl)
    rw [pairsBelow, List.filterMap_append, ← pairsBelow, ← pairsBelow, hown, hothers,
      List.append_nil]
  · have hown : pairsBeside key (own.map (pairUnder key)) = [] :=
      List.filter_eq_nil_iff.mpr fun p hp => by
        obtain ⟨p, -, rfl⟩ := List.mem_map.mp hp
        simp [pairUnder]
    have hothers : pairsBeside key others = others :=
      List.filter_eq_self.mpr fun p hp => by simpa using h p hp
    rw [pairsBeside, List.filter_append, ← pairsBeside, ← pairsBeside, hown, hothers,
      List.nil_append]

/-- The same for sections. -/
theorem sections_under (late others : List Section)
    (h : ∀ s ∈ others, s.path.head? ≠ some key) :
    sectionsBelow key (late.map (sectionUnder key) ++ others) = late ∧
      sectionsBeside key (late.map (sectionUnder key) ++ others) = others := by
  refine ⟨?_, ?_⟩
  · have hlate : sectionsBelow key (late.map (sectionUnder key)) = late := by
      rw [sectionsBelow, List.filterMap_map]
      refine (List.filterMap_congr fun s _ => ?_).trans List.filterMap_some
      simp [sectionUnder]
    have hothers : sectionsBelow key others = [] := List.filterMap_eq_nil_iff.mpr fun s hs => by
      have hne := h s hs
      obtain ⟨mark, _ | ⟨part, path⟩, pairs⟩ := s
      · rfl
      · exact if_neg fun heq => hne (by rw [heq]; rfl)
    rw [sectionsBelow, List.filterMap_append, ← sectionsBelow, ← sectionsBelow, hlate, hothers,
      List.append_nil]
  · have hlate : sectionsBeside key (late.map (sectionUnder key)) = [] :=
      List.filter_eq_nil_iff.mpr fun s hs => by
        obtain ⟨s, -, rfl⟩ := List.mem_map.mp hs
        simp [sectionUnder]
    have hothers : sectionsBeside key others = others :=
      List.filter_eq_self.mpr fun s hs => by simpa using h s hs
    rw [sectionsBeside, List.filter_append, ← sectionsBeside, ← sectionsBeside, hlate, hothers,
      List.nil_append]

end Under

/-- The pairs of entries, each below its key. -/
def pairsOf (own : Document → List Pair) (es : List (String × Document)) : List Pair :=
  es.flatMap fun e => (own e.2).map (pairUnder e.1)

/-- The sections of entries, each below its key. -/
def sectionsAt (late : Document → List Section) (es : List (String × Document)) : List Section :=
  es.flatMap fun e => (late e.2).map (sectionUnder e.1)

/-- A table is told if each of its entries is, by statements below its key. -/
theorem entriesTold_of_each {es : List (String × Document)} (hkeys : (es.map (·.1)).Nodup)
    {own : Document → List Pair} {late : Document → List Section}
    (h : ∀ e ∈ es, Told e.2 [] (own e.2) (late e.2)) :
    EntriesTold es [] (pairsOf own es) (sectionsAt late es) := by
  induction es with
  | nil => exact ⟨rfl, rfl, rfl⟩
  | cons e es ih =>
      obtain ⟨key, d⟩ := e
      obtain ⟨hkey, hothers⟩ := List.nodup_cons.mp hkeys
      obtain ⟨hfirst, hrest⟩ := List.forall_mem_cons.mp h
      have hne : ∀ e ∈ es, e.1 ≠ key := fun e he heq => hkey (List.mem_map.mpr ⟨e, he, heq⟩)
      obtain ⟨hpairs, hpairs'⟩ := pairs_under (own d) (pairsOf own es) fun p hp => by
        obtain ⟨e, he, hp⟩ := List.mem_flatMap.mp hp
        obtain ⟨p, -, rfl⟩ := List.mem_map.mp hp
        exact fun heq => hne e he (Option.some.inj heq)
      obtain ⟨hsections, hsections'⟩ :=
        sections_under (late d) (sectionsAt late es) fun s hs => by
          obtain ⟨e, he, hs⟩ := List.mem_flatMap.mp hs
          obtain ⟨s, -, rfl⟩ := List.mem_map.mp hs
          exact fun heq => hne e he (Option.some.inj heq)
      refine ⟨?_, ?_⟩
      · rw [pairsOf, sectionsAt, List.flatMap_cons, List.flatMap_cons, ← pairsOf, ← sectionsAt,
          hpairs, hsections]
        exact hfirst
      · rw [pairsOf, sectionsAt, List.flatMap_cons, List.flatMap_cons, ← pairsOf, ← sectionsAt,
          hpairs', hsections']
        exact ih hothers hrest

/-- A value behind its key is told. -/
theorem told_value (d : Document) : Told d [] [([], d)] [] := by
  cases d with
  | list ds => exact .inl ⟨rfl, rfl, rfl⟩
  | table es => exact .inl ⟨rfl, rfl, rfl⟩
  | _ => exact ⟨rfl, rfl, rfl⟩

/-- Nothing tells nothing. -/
theorem not_told_nothing (d : Document) : ¬ Told d [] [] [] := fun h => by
  obtain ⟨item, hitem, -⟩ := told_run d h .nil .nil .nil
  cases hitem

/-! ## What the writer puts below headers -/

/-- The pair of an entry that is written on a line. -/
def ownOf (d : Document) : List Pair := if hasHeader d then [] else [([], d)]

/-- The pairs of a table's own values. -/
def ownPairs (es : List (String × Document)) : List Pair := pairsOf ownOf es

mutual

/-- The sections below the key of a value. -/
def sectionsUnder : Document → List Section
  | .table es =>
    (if (ownPairs es).isEmpty && !es.isEmpty then [] else [⟨false, [], ownPairs es⟩]) ++
      entrySections es
  | .list ds => if !ds.isEmpty && ds.all isTable then elementSections ds else []
  | _ => []

/-- The sections of a table's subtables. -/
def entrySections : List (String × Document) → List Section
  | [] => []
  | (key, d) :: es => (sectionsUnder d).map (sectionUnder key) ++ entrySections es

/-- The sections of the tables of a list. -/
def elementSections : List Document → List Section
  | [] => []
  | .table es :: ds => ⟨true, [], ownPairs es⟩ :: (entrySections es ++ elementSections ds)
  | _ :: ds => elementSections ds

end

theorem entrySections_eq (es : List (String × Document)) :
    entrySections es = sectionsAt sectionsUnder es := by
  induction es with
  | nil => rfl
  | cons e es ih => rw [entrySections, ih, sectionsAt, sectionsAt, List.flatMap_cons]

/-- A table is told by its own pairs and the sections of its subtables, if these are. -/
theorem told_table {es : List (String × Document)} (hkeys : (es.map (·.1)).Nodup)
    (h : ∀ e ∈ es, Told e.2 [] (ownOf e.2) (sectionsUnder e.2)) :
    EntriesTold es [] (ownPairs es) (entrySections es) := by
  rw [entrySections_eq]
  exact entriesTold_of_each hkeys h

mutual

/-- What is written of a value tells it. -/
theorem told_written : ∀ d : Document, Writable d → Told d [] (ownOf d) (sectionsUnder d)
  | .table es, h => by
      have hes := told_table h.1 (told_each es h.2)
      rw [ownOf, hasHeader, if_pos rfl, sectionsUnder]
      split
      · next hbare =>
          rw [Bool.and_eq_true, List.isEmpty_iff, Bool.not_eq_true',
            List.isEmpty_eq_false_iff] at hbare
          rw [hbare.1] at hes
          refine .inr (.inr (.inl ⟨rfl, fun hnil => ?_, hes⟩))
          obtain ⟨e, rest, rfl⟩ := List.exists_cons_of_ne_nil hbare.2
          have hnothing : entrySections (e :: rest) = [] := hnil
          rw [hnothing] at hes
          exact not_told_nothing e.2 hes.1
      · exact .inr (.inr (.inr ⟨rfl, [], _, _, rfl, hes⟩))
  | .list ds, h => by
      rw [ownOf, hasHeader, sectionsUnder]
      split
      · next hall =>
          rw [Bool.and_eq_true, Bool.not_eq_true', List.isEmpty_eq_false_iff] at hall
          obtain ⟨d, rest, rfl⟩ := List.exists_cons_of_ne_nil hall.1
          refine .inr ⟨rfl, ?_, told_elements (d :: rest) hall.2 h⟩
          have hd := List.all_eq_true.mp hall.2 d List.mem_cons_self
          cases d with
          | table es => exact List.cons_ne_nil _ _
          | _ => cases hd
      · exact told_value _
  | .null, h => h.elim
  | .double _, h => h.elim
  | .bool _, _ => told_value _
  | .integer _, _ => told_value _
  | .text _, _ => told_value _

theorem told_each : ∀ es : List (String × Document), EntriesWritable es →
    ∀ e ∈ es, Told e.2 [] (ownOf e.2) (sectionsUnder e.2)
  | [], _ => nofun
  | (_, d) :: es, h => List.forall_mem_cons.mpr ⟨told_written d h.1, told_each es h.2⟩

theorem told_elements : ∀ ds : List Document, ds.all isTable = true → ItemsWritable ds →
    ElementsTold ds (elementSections ds)
  | [], _, _ => rfl
  | .table es :: ds, hall, h =>
      ⟨_, _, _, rfl, told_table h.1.1 (told_each es h.1.2), told_elements ds hall h.2⟩

end

/-! ## Values on a line -/

/-- The entries of an inline table, each as a pair. -/
def inlineOf (d : Document) : List Pair := [([], d)]

theorem told_inline {es : List (String × Document)} (hkeys : (es.map (·.1)).Nodup) :
    EntriesTold es [] (pairsOf inlineOf es) [] := by
  have htold : EntriesTold es [] (pairsOf inlineOf es) (sectionsAt (fun _ => []) es) :=
    entriesTold_of_each hkeys fun e _ => told_value e.2
  have hnone : sectionsAt (fun _ => []) es = [] := List.flatMap_eq_nil_iff.mpr fun _ _ => rfl
  rwa [hnone] at htold

theorem blank_one : Blanks [' '] := rfl

/-- A key and a value are written with blanks around the equals sign. -/
theorem pairSpelled_chars {before : List Char} (hbefore : Blanks before) (key : String)
    {d : Document} (hd : Spelled d (valueChars d)) :
    PairSpelled ([key], d) (before ++ (keyChars key ++ ' ' :: '=' :: ' ' :: valueChars d)) := by
  have hpair := PairSpelled.pair (.last hbefore (keyPartSpelled_chars key) blank_one) blank_one hd
  rwa [List.append_assoc, List.append_assoc] at hpair

mutual

/-- A value is written on a line as one of its texts. -/
theorem spelled_chars : ∀ d : Document, Writable d → Spelled d (valueChars d)
  | .bool true, _ => .yes
  | .bool false, _ => .no
  | .integer _, h => .integer (integerSpelled_chars h.1 h.2)
  | .text s, _ => .text (stringSpelled_chars s)
  | .list [], _ => .list (.close .nil)
  | .list (d :: ds), h => .list (itemsSpelled_chars ds h.2 (spelled_chars d h.1) .nil)
  | .table [], _ => .empty blanks_nil
  | .table ((key, d) :: es), h =>
      .table (pairsSpelled_chars es h.2.2 key (spelled_chars d h.2.1)) (told_inline h.1)
  | .null, h => h.elim
  | .double _, h => h.elim

theorem itemsSpelled_chars : ∀ ds : List Document, ItemsWritable ds →
    ∀ {d : Document} {before own : List Char}, Spelled d own → Filler before →
      ItemsSpelled (d :: ds) (before ++ (own ++ itemChars ds ++ [']']))
  | [], _, d, before, own, hd, hbefore => by
      have hlast := ItemsSpelled.last hbefore hd .nil
      rwa [itemChars, List.append_nil]
  | d' :: ds, h, d, before, own, hd, hbefore => by
      have hrest := itemsSpelled_chars ds h.2 (spelled_chars d' h.1)
        (.blank (by decide : isBlank ' ' = true) .nil)
      have hmore := ItemsSpelled.more hbefore hd .nil hrest
      rw [itemChars]
      simpa using hmore

theorem pairsSpelled_chars : ∀ es : List (String × Document), EntriesWritable es →
    ∀ (key : String) {d : Document}, Spelled d (valueChars d) →
      PairsSpelled (pairsOf inlineOf ((key, d) :: es))
        (' ' :: (keyChars key ++ ' ' :: '=' :: ' ' :: (valueChars d ++ entryChars es ++
          [' ', '\x7d'])))
  | [], _, key, d, hd => by
      have hlast := PairsSpelled.last (pairSpelled_chars blank_one key hd) blank_one
      rw [show pairsOf inlineOf [(key, d)] = [([key], d)] from rfl, entryChars]
      simpa using hlast
  | (key', d') :: es, h, key, d, hd => by
      have hmore := PairsSpelled.more (pairSpelled_chars blank_one key hd) blanks_nil
        (pairsSpelled_chars es h.2 key' (spelled_chars d' h.1))
      rw [show pairsOf inlineOf ((key, d) :: (key', d') :: es) =
        ([key], d) :: pairsOf inlineOf ((key', d') :: es) from rfl, entryChars]
      simpa using hmore

end

/-! ## Lines -/

/-- The text of a statement. -/
def statementChars : Statement → List Char
  | .header false path => '[' :: (pathChars path ++ [']'])
  | .header true path => '[' :: '[' :: (pathChars path ++ [']', ']'])
  | .pair path d => pathChars path ++ ' ' :: '=' :: ' ' :: valueChars d

/-- The text of statements, a line each. -/
def linesChars (ss : List Statement) : List Char := ss.flatMap fun s => statementChars s ++ ['\n']

/-- A header with a path, or a key with something that has a text. -/
def StatementWritable : Statement → Prop
  | .header _ path => path ≠ []
  | .pair path d => ∃ key, path = [key] ∧ Writable d

/-- The statements of a section. -/
def Section.statements (s : Section) : List Statement :=
  .header s.isElement s.path :: s.pairs.map fun p => .pair p.1 p.2

section Lines

variable {ss : List Statement} {rest : List Char}

theorem statementSpelled_chars {s : Statement} (h : StatementWritable s) :
    StatementSpelled s (statementChars s) := by
  cases s with
  | header isElement path =>
      cases isElement
      · exact .table (keySpelled_path h)
      · exact .element (keySpelled_path h)
  | pair path d =>
      obtain ⟨key, rfl, hd⟩ := h
      have hpath : pathChars [key] = keyChars key := List.intercalate_singleton
      rw [statementChars, hpath]
      exact .pair (pairSpelled_chars blanks_nil key (spelled_chars d hd))

theorem linesSpelled_chars (hss : ∀ s ∈ ss, StatementWritable s) {others : List Statement}
    (h : LinesSpelled others rest) : LinesSpelled (ss ++ others) (linesChars ss ++ rest) := by
  induction ss with
  | nil => exact h
  | cons s ss ih =>
      obtain ⟨hs, hrest⟩ := List.forall_mem_cons.mp hss
      have hline :=
        LinesSpelled.line blanks_nil (statementSpelled_chars hs) (.blanks blanks_nil) .lf
        (ih hrest)
      simpa [linesChars] using hline

/-- Groups of lines have an empty line between them. -/
theorem linesSpelled_groups {groups : List (List Statement)}
    (hgroups : ∀ ss ∈ groups, ∀ s ∈ ss, StatementWritable s) :
    LinesSpelled groups.flatten (['\n'].intercalate (groups.map linesChars)) := by
  induction groups with
  | nil => exact .none (.blanks blanks_nil)
  | cons ss groups ih =>
      obtain ⟨hss, hothers⟩ := List.forall_mem_cons.mp hgroups
      have hend : LinesSpelled [] [] := .none (.blanks blanks_nil)
      cases groups with
      | nil => simpa using linesSpelled_chars hss hend
      | cons next groups =>
          have hskip := LinesSpelled.skip (.blanks blanks_nil) .lf (ih hothers)
          exact linesSpelled_chars hss hskip

theorem sectionsOf_pairs (ps : List Pair) (ss : List Statement) :
    sectionsOf (ps.map (fun p => .pair p.1 p.2) ++ ss) =
      (ps ++ (sectionsOf ss).1, (sectionsOf ss).2) := by
  induction ps with
  | nil => rfl
  | cons p ps ih => rw [List.map_cons, List.cons_append, sectionsOf, ih]; rfl

theorem sectionsOf_sections (sections : List Section) :
    sectionsOf (sections.flatMap Section.statements) = ([], sections) := by
  induction sections with
  | nil => rfl
  | cons s sections ih =>
      rw [List.flatMap_cons, Section.statements, List.cons_append, sectionsOf, sectionsOf_pairs, ih,
        List.append_nil]

end Lines

/-! ## Blocks -/

/-- The statements of a table's own pairs. -/
def ownStatements (es : List (String × Document)) : List Statement :=
  (ownPairs es).map fun p => .pair p.1 p.2

/-- The block of a section below a path. -/
def sectionBlock (path : List String) (s : Section) : List Char :=
  linesChars (Section.statements ⟨s.isElement, path ++ s.path, s.pairs⟩)

theorem ownLines_eq (es : List (String × Document)) :
    ownLines es = linesChars (ownStatements es) := by
  induction es with
  | nil => rfl
  | cons e es ih =>
      have hcons : ownStatements (e :: es) =
          (ownOf e.2).map (fun p => .pair (e.1 :: p.1) p.2) ++ ownStatements es := by
        rw [ownStatements, ownPairs, pairsOf, List.flatMap_cons, List.map_append, List.map_map]
        rfl
      rw [hcons, ownLines, linesChars, List.flatMap_append, ← linesChars, ← linesChars, ← ih,
        List.filter_cons, ownOf]
      cases hheader : hasHeader e.2 with
      | false => simp [linesChars, statementChars, pathChars, lineChars, ownLines]
      | true => simp [linesChars, ownLines]

theorem ownLines_isEmpty (es : List (String × Document)) :
    (ownLines es).isEmpty = (ownPairs es).isEmpty := by
  rw [ownLines_eq, ownStatements]
  cases ownPairs es with
  | nil => rfl
  | cons p ps => simp [linesChars]

theorem sectionBlock_header (isElement : Bool) (path : List String)
    (es : List (String × Document)) :
    sectionBlock path ⟨isElement, [], ownPairs es⟩ =
      statementChars (.header isElement path) ++ '\n' :: ownLines es := by
  rw [ownLines_eq, sectionBlock, List.append_nil, Section.statements, linesChars, List.flatMap_cons,
    List.append_assoc]
  rfl

mutual

/-- The blocks below a path are those of the sections. -/
theorem blocks_eq : ∀ (d : Document) (path : List String),
    blocks path d = (sectionsUnder d).map (sectionBlock path)
  | .table es, path => by
      rw [blocks, sectionsUnder, List.map_append, entryBlocks_eq es path, tableBlock,
        ownLines_isEmpty]
      split
      · rfl
      · rw [List.map_singleton, sectionBlock_header]
        simp [statementChars]
  | .list ds, path => by
      rw [blocks, sectionsUnder]
      split
      · exact elementBlocks_eq ds path
      · rfl
  | .null, _ => rfl
  | .bool _, _ => rfl
  | .integer _, _ => rfl
  | .double _, _ => rfl
  | .text _, _ => rfl

theorem entryBlocks_eq : ∀ (es : List (String × Document)) (path : List String),
    entryBlocks path es = (entrySections es).map (sectionBlock path)
  | [], _ => rfl
  | (key, d) :: es, path => by
      rw [entryBlocks, entrySections, List.map_append, List.map_map, blocks_eq d,
        entryBlocks_eq es path]
      congr 1
      refine List.map_congr_left fun s _ => ?_
      simp [sectionBlock, sectionUnder]

theorem elementBlocks_eq : ∀ (ds : List Document) (path : List String),
    elementBlocks path ds = (elementSections ds).map (sectionBlock path)
  | [], _ => rfl
  | .table es :: ds, path => by
      rw [elementBlocks, elementSections, List.map_cons, List.map_append, entryBlocks_eq es path,
        elementBlocks_eq ds path]
      rw [sectionBlock_header, elementBlock]
      simp [statementChars]
  | .null :: ds, path => elementBlocks_eq ds path
  | .bool _ :: ds, path => elementBlocks_eq ds path
  | .integer _ :: ds, path => elementBlocks_eq ds path
  | .double _ :: ds, path => elementBlocks_eq ds path
  | .text _ :: ds, path => elementBlocks_eq ds path
  | .list _ :: ds, path => elementBlocks_eq ds path

end

/-! ## Whole texts -/

/-- A key with something that has a text. -/
def PairWritable (p : Pair) : Prop := ∃ key, p.1 = [key] ∧ Writable p.2

theorem ownPairs_writable {es : List (String × Document)} (h : EntriesWritable es) :
    ∀ p ∈ ownPairs es, PairWritable p := by
  intro p hp
  obtain ⟨e, he, hp⟩ := List.mem_flatMap.mp hp
  rw [ownOf] at hp
  split at hp
  · cases hp
  · obtain rfl := List.mem_singleton.mp hp
    exact ⟨e.1, rfl, entriesWritable_iff.mp h e he⟩

mutual

theorem sectionsUnder_writable : ∀ d : Document, Writable d →
    ∀ s ∈ sectionsUnder d, ∀ p ∈ s.pairs, PairWritable p
  | .table es, h => by
      rw [sectionsUnder]
      refine List.forall_mem_append.mpr ⟨?_, entrySections_writable es h.2⟩
      split
      · exact nofun
      · exact List.forall_mem_singleton.mpr (ownPairs_writable h.2)
  | .list ds, h => by
      rw [sectionsUnder]
      split
      · exact elementSections_writable ds h
      · exact nofun
  | .bool _, _ => nofun
  | .integer _, _ => nofun
  | .text _, _ => nofun
  | .null, h => h.elim
  | .double _, h => h.elim

theorem entrySections_writable : ∀ es : List (String × Document), EntriesWritable es →
    ∀ s ∈ entrySections es, ∀ p ∈ s.pairs, PairWritable p
  | [], _ => nofun
  | (_, d) :: es, h =>
      List.forall_mem_append.mpr
        ⟨List.forall_mem_map.mpr (sectionsUnder_writable d h.1), entrySections_writable es h.2⟩

theorem elementSections_writable : ∀ ds : List Document, ItemsWritable ds →
    ∀ s ∈ elementSections ds, ∀ p ∈ s.pairs, PairWritable p
  | [], _ => nofun
  | .table es :: ds, h =>
      List.forall_mem_cons.mpr ⟨ownPairs_writable h.1.2, List.forall_mem_append.mpr
        ⟨entrySections_writable es h.1.2, elementSections_writable ds h.2⟩⟩
  | .bool _ :: ds, h => elementSections_writable ds h.2
  | .integer _ :: ds, h => elementSections_writable ds h.2
  | .text _ :: ds, h => elementSections_writable ds h.2
  | .list _ :: ds, h => elementSections_writable ds h.2
  | .null :: _, h => h.1.elim
  | .double _ :: _, h => h.1.elim

end

section Whole

variable {es : List (String × Document)}

/-- The statements of a whole text, block by block. -/
def blockStatements (es : List (String × Document)) : List (List Statement) :=
  (if (ownPairs es).isEmpty then [] else [ownStatements es]) ++
    (entrySections es).map Section.statements

theorem rootBlocks_eq (es : List (String × Document)) :
    rootBlocks es = (blockStatements es).map linesChars := by
  rw [rootBlocks, blockStatements, List.map_append, List.map_map, entryBlocks_eq, ownLines_isEmpty,
    ownLines_eq]
  split <;> rfl

theorem flatten_blockStatements (es : List (String × Document)) :
    (blockStatements es).flatten =
      ownStatements es ++ (entrySections es).flatMap Section.statements := by
  rw [blockStatements, List.flatten_append, ← List.flatMap_def]
  congr 1
  split
  · next hnone =>
      rw [ownStatements, List.isEmpty_iff.mp hnone]
      rfl
  · exact List.append_nil _

theorem blockStatements_writable (h : EntriesWritable es) :
    ∀ ss ∈ blockStatements es, ∀ s ∈ ss, StatementWritable s := by
  refine List.forall_mem_append.mpr ⟨?_, List.forall_mem_map.mpr fun s hs => ?_⟩
  · split
    · exact nofun
    · exact List.forall_mem_singleton.mpr (List.forall_mem_map.mpr (ownPairs_writable h))
  · refine List.forall_mem_cons.mpr ⟨?_, List.forall_mem_map.mpr (entrySections_writable es h s hs)⟩
    rw [entrySections_eq] at hs
    obtain ⟨e, -, hs⟩ := List.mem_flatMap.mp hs
    obtain ⟨s, -, rfl⟩ := List.mem_map.mp hs
    exact List.cons_ne_nil _ _

/-- A written table is one of its texts. -/
theorem isTextOf_write (h : Writable (.table es)) : IsTextOf es (write es) := by
  refine ⟨_, _, linesSpelled_groups (blockStatements_writable h.2), .inl ?_, ?_⟩
  · rw [write, String.toList_ofList, rootBlocks_eq]
  · rw [flatten_blockStatements, ownStatements, sectionsOf_pairs, sectionsOf_sections,
      List.append_nil]
    exact told_table h.1 (told_each es h.2)

end Whole

end CrudStack.Toml
