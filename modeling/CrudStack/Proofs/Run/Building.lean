/-
# `CrudStack.Proofs.Run.Building` — a plan is performed where there is room for it

All paths of a run lead from one directory down by names: the directories of the layout, and for
every file its directory and its own name (`Laid`).  Given that, whether the run succeeds is a
matter of room alone: no file may lie where a directory is due and no directory where a file is due,
and no location may be claimed as both.  If there is room, the run finishes, and what it leaves can
be written down: which locations are directories then, and which files have been written
(`perform_builds`).

The room is handed on from part to part, as each leaves room for those behind it (`Builds.room`).
-/
import CrudStack.Proofs.Disk.Descent
import CrudStack.Proofs.Run.Rerun

namespace CrudStack

open Disk

/-! ## Parts that build -/

/-- The locations on the way from a directory to some others below it. -/
def Under (r : Location) (ks : List Location) (l : Location) : Prop := ∃ k ∈ ks, Between r k l

theorem under_append {r : Location} {ks ks' : List Location} (l : Location) :
    Under r (ks ++ ks') l ↔ Under r ks l ∨ Under r ks' l := by
  simp [Under, or_and_right, exists_or]

theorem under_singleton {r k : Location} (l : Location) : Under r [k] l ↔ Between r k l := by
  simp [Under]

theorem under_nil {r : Location} (l : Location) : Under r [] l ↔ False := by simp [Under]

/-- A part of a run that finished, with what it reported and what it built. -/
structure Progress.Builds (made : Location → Prop) (writes : List Write) (trace : List Event)
    (d : Disk) (q : Progress) : Prop where
  fault : q.fault = none
  trace : q.trace = trace
  built : Built made writes d q.disk

namespace Progress

variable {r : Location} {d : Disk}

theorem Builds.andThen {r : Location} {ks ks' : List Location} {ws ws' : List Write}
    {trace trace' : List Event} {q : Progress} {next : Disk → Progress}
    (h : Builds (Under r ks) ws trace d q)
    (hnext : Builds (Under r ks') ws' trace' q.disk (next q.disk)) :
    Builds (Under r (ks ++ ks')) (ws ++ ws') (trace ++ trace') d (q.andThen next) := by
  rw [andThen_of_done h.fault]
  exact ⟨hnext.fault, by rw [h.trace, hnext.trace],
    (h.built.trans hnext.built).congr fun l => (under_append l).symm⟩

theorem report_builds (trace : List Event) (written : List Path) (skipped : List String)
    (d : Disk) : Builds (Under r []) [] trace d (report trace written skipped d) :=
  ⟨rfl, rfl, (Built.refl d).congr fun l => (under_nil l).symm⟩

theorem silent_builds (d : Disk) : Builds (Under r []) [] [] d (silent d) :=
  report_builds [] [] [] d

theorem ensure_builds {ns : List String} {p : Path} (h : Below d r ns p)
    (hfree : ∀ l, Between r (r ++ ns) l → ∀ content, d.get? l ≠ some (.file content)) :
    Builds (Under r [r ++ ns]) [] [] d (ensure p d) := by
  obtain ⟨d', hensure, hbuilt⟩ := ensureDirectory_below h hfree
  have hpart : ensure p d = silent d' := by
    rw [ensure, hensure]
    rfl
  rw [hpart]
  exact ⟨rfl, rfl, hbuilt.congr fun l => (under_singleton l).symm⟩

theorem around_builds {init : List String} {last : String} {p : Path}
    (h : Below d r (init ++ [last]) p)
    (hfree : ∀ l, Between r (r ++ init) l → ∀ content, d.get? l ≠ some (.file content)) :
    Builds (Under r [r ++ init]) [] [] d (around p d) := by
  obtain ⟨q, hparent, hq⟩ := h.parent
  rw [around, hparent]
  exact ensure_builds hq hfree

theorem write_builds {init : List String} {last : String} {p : Path}
    (h : Below d r (init ++ [last]) p)
    (hway : ∀ l, Between r (r ++ init) l → d.get? l = some .directory)
    (hslash : endsInSlash p = false)
    (hfree : d.get? (r ++ (init ++ [last])) ≠ some .directory) (content : String) :
    Builds (Under r []) [(d.locate p, content.toUTF8)] [] d (write p content d) := by
  obtain ⟨d', hwrite, hbuilt⟩ := writeFile_below h hway hslash hfree content.toUTF8
  rw [write, hwrite, h.locate]
  exact ⟨rfl, rfl, hbuilt.congr fun l => (under_nil l).symm⟩

end Progress

/-! ## Room -/

theorem Disk.Room.congr {made more : Location → Prop} {ws : List Write} {d : Disk}
    (h : Room made ws d) (hmade : ∀ l, more l → made l) : Room more ws d :=
  ⟨fun l hl => h.directories l (hmade l hl), h.files,
    fun w hw hmore => h.apart w hw (hmade w.1 hmore)⟩

section Room

variable {r : Location} {ks ks' : List Location} {ws ws' : List Write} {d : Disk}

theorem Disk.Room.before (h : Room (Under r (ks ++ ks')) (ws ++ ws') d) :
    Room (Under r ks) ws d :=
  (h.congr fun l => (under_append l).mpr).first

theorem Progress.Builds.room {trace : List Event} {q : Progress}
    (h : q.Builds (Under r ks) ws trace d) (hroom : Room (Under r (ks ++ ks')) (ws ++ ws') d) :
    Room (Under r ks') ws' q.disk :=
  (hroom.congr fun l => (under_append l).mpr).rest h.built

theorem Disk.Room.swap (h : Room (Under r (ks ++ ks')) (ws ++ ws') d) :
    Room (Under r (ks' ++ ks)) (ws' ++ ws) d := by
  have hmade : ∀ l, Under r (ks' ++ ks) l → Under r (ks ++ ks') l := fun l hl =>
    (under_append l).mpr ((under_append l).mp hl).symm
  have hwrites : ∀ w ∈ ws' ++ ws, w ∈ ws ++ ws' := fun w hw =>
    List.mem_append.mpr (List.mem_append.mp hw).symm
  exact ⟨fun l hl => h.directories l (hmade l hl), fun w hw => h.files w (hwrites w hw),
    fun w hw hl => h.apart w (hwrites w hw) (hmade w.1 hl)⟩

end Room

/-! ## Entries -/

namespace PlanEntry

/-- The directory of the file of an entry. -/
def place? (root : Path) (d : Disk) : PlanEntry → Option Location
  | .file f => some (d.locate (root.join f.path)).dropLast
  | .skip _ => none

/-- The path of a file leads down from a directory, to a name. -/
def Laid (root : Path) (d : Disk) (r : Location) : PlanEntry → Prop
  | .file f => endsInSlash (root.join f.path) = false ∧
      ∃ init last, Below d r (init ++ [last]) (root.join f.path)
  | .skip _ => True

theorem Laid.keeps {root : Path} {d d' : Disk} {r : Location} {e : PlanEntry} (hkeeps : Keeps d d')
    (h : e.Laid root d r) : e.Laid root d' r := by
  cases e with
  | skip s => trivial
  | file f =>
      obtain ⟨hslash, init, last, hbelow⟩ := h
      exact ⟨hslash, init, last, hbelow.keeps hkeeps⟩

end PlanEntry

/-- The directories of the files of entries, in order. -/
def placesOf (root : Path) (d : Disk) (entries : List PlanEntry) : List Location :=
  entries.filterMap (PlanEntry.place? root d)

theorem placesOf_append (root : Path) (d : Disk) (es fs : List PlanEntry) :
    placesOf root d (es ++ fs) = placesOf root d es ++ placesOf root d fs :=
  List.filterMap_append

theorem placesOf_keeps {d d' : Disk} (h : Keeps d d') (root : Path) (entries : List PlanEntry) :
    placesOf root d' entries = placesOf root d entries := by
  have hplace : PlanEntry.place? root d' = PlanEntry.place? root d := by
    funext e
    cases e with
    | file f => simp only [PlanEntry.place?, h.locate]
    | skip s => rfl
  unfold placesOf
  rw [hplace]

section Entries

variable {root : Path} {r : Location} {d : Disk}

theorem PlanEntry.perform_builds {e : PlanEntry} (h : e.Laid root d r)
    (hroom : Room (Under r (placesOf root d [e])) (writesOf root d [e]) d) :
    Progress.Builds (Under r (placesOf root d [e])) (writesOf root d [e]) (e.events root) d
      (e.perform root d) := by
  cases e with
  | skip s => exact Progress.report_builds _ _ _ d
  | file f =>
      obtain ⟨hslash, init, last, hbelow⟩ := h
      have hplaces : placesOf root d [.file f] = [r ++ init] := by
        show [(d.locate (root.join f.path)).dropLast] = _
        rw [hbelow.locate, ← List.append_assoc, List.dropLast_concat]
      have hwrites : writesOf root d [.file f] =
          [(d.locate (root.join f.path), f.content.toUTF8)] := rfl
      rw [hplaces, hwrites] at hroom ⊢
      have haround := Progress.around_builds hbelow fun l hl =>
        hroom.directories l ((under_singleton l).mpr hl)
      have hkeeps := haround.built.toKeeps
      have hfree : (Progress.around (root.join f.path) d).disk.get? (r ++ (init ++ [last])) ≠
          some .directory := by
        intro hdir
        rcases (haround.built.made _).mp hdir with hdir | hmade
        · refine hroom.files _ List.mem_cons_self ?_
          rwa [hbelow.locate]
        · exact not_between_concat ((under_singleton _).mp hmade)
      have hwrite := Progress.write_builds (hbelow.keeps hkeeps)
        (fun l hl => (haround.built.made l).mpr (.inr ((under_singleton l).mpr hl)))
        hslash hfree f.content
      rw [hkeeps.locate] at hwrite
      have hreport := (haround.andThen hwrite).andThen
        (Progress.report_builds ((PlanEntry.file f).events root) [root.join f.path] [] _)
      rw [PlanEntry.perform_file]
      simpa only [List.append_nil, List.nil_append] using hreport

theorem performAll_builds {entries : List PlanEntry} (h : ∀ e ∈ entries, e.Laid root d r)
    (hroom : Room (Under r (placesOf root d entries)) (writesOf root d entries) d) :
    Progress.Builds (Under r (placesOf root d entries)) (writesOf root d entries)
      (entries.flatMap (PlanEntry.events root)) d (performAll root entries d) := by
  induction entries generalizing d with
  | nil => exact Progress.silent_builds d
  | cons e rest ih =>
      have hplaces := placesOf_append root d [e] rest
      have hwrites := writesOf_append root d [e] rest
      rw [List.singleton_append] at hplaces hwrites
      rw [hplaces, hwrites] at hroom
      have hfirst := PlanEntry.perform_builds (h e List.mem_cons_self) hroom.before
      have hkeeps := hfirst.built.toKeeps
      have hleft := hfirst.room hroom
      rw [← placesOf_keeps hkeeps, ← writesOf_keeps hkeeps] at hleft
      have hrest := ih (fun e' he' => (h e' (List.mem_cons_of_mem e he')).keeps hkeeps) hleft
      rw [placesOf_keeps hkeeps, writesOf_keeps hkeeps] at hrest
      rw [hplaces, hwrites, List.flatMap_cons, performAll]
      exact hfirst.andThen hrest

theorem ensureAll_builds {paths : List Path} (h : ∀ q ∈ paths, ∃ ns, Below d r ns q)
    (hroom : Room (Under r (paths.map d.locate)) [] d) :
    Progress.Builds (Under r (paths.map d.locate)) [] [] d (Progress.ensureAll paths d) := by
  induction paths generalizing d with
  | nil => exact Progress.silent_builds d
  | cons p rest ih =>
      obtain ⟨ns, hp⟩ := h p List.mem_cons_self
      have hlocate : (p :: rest).map d.locate = [r ++ ns] ++ rest.map d.locate := by
        rw [List.map_cons, hp.locate]
        rfl
      rw [hlocate] at hroom
      have hall : Room (Under r ([r ++ ns] ++ rest.map d.locate)) ([] ++ []) d := hroom
      have hfirst := Progress.ensure_builds hp fun l hl =>
        hall.directories l ((under_append l).mpr (.inl ((under_singleton l).mpr hl)))
      have hkeeps := hfirst.built.toKeeps
      have hlocates : rest.map (Progress.ensure p d).disk.locate = rest.map d.locate :=
        List.map_congr_left fun q _ => hkeeps.locate q
      have hleft := hfirst.room hall
      rw [← hlocates] at hleft
      have hbelow : ∀ q ∈ rest, ∃ ns', Below (Progress.ensure p d).disk r ns' q := by
        intro q hq
        obtain ⟨ns', hq'⟩ := h q (List.mem_cons_of_mem p hq)
        exact ⟨ns', hq'.keeps hkeeps⟩
      have hrest := ih hbelow hleft
      rw [hlocates] at hrest
      rw [hlocate, Progress.ensureAll]
      exact hfirst.andThen hrest

end Entries

/-! ## Plans -/

namespace Job

variable {j : Job} {p : Plan} {destination : Path} {d : Disk} {r : Location}

/-- All paths of a run lead down from one directory. -/
structure Laid (j : Job) (p : Plan) (destination : Path) (d : Disk) (r : Location) : Prop where
  directories : ∀ q ∈ (j.layout destination).paths, ∃ ns, Below d r ns q
  entries : ∀ e ∈ p.entries, e.Laid (j.layout destination).root d r

/-- The directories that a run needs: those of the layout, and those of its files. -/
def places (j : Job) (p : Plan) (destination : Path) (d : Disk) : List Location :=
  (j.layout destination).paths.map d.locate ++
    placesOf (j.layout destination).root d p.entries

/-- The files that a run writes. -/
def writes (j : Job) (p : Plan) (destination : Path) (d : Disk) : List Write :=
  writesOf (j.layout destination).root d p.entries

theorem map_fst_writes :
    (j.writes p destination d).map Prod.fst =
      p.files.map fun f => d.locate ((j.layout destination).root.join f.path) := by
  rw [writes, writesOf_entries, List.map_map]
  rfl

theorem places_keeps {d' : Disk} (h : Keeps d d') :
    j.places p destination d' = j.places p destination d := by
  have hlocate : d'.locate = d.locate := funext h.locate
  rw [places, places, placesOf_keeps h, hlocate]

theorem writes_keeps {d' : Disk} (h : Keeps d d') :
    j.writes p destination d' = j.writes p destination d :=
  writesOf_keeps h _ _

theorem Laid.keeps {d' : Disk} (hkeeps : Keeps d d') (h : j.Laid p destination d r) :
    j.Laid p destination d' r := by
  refine ⟨fun q hq => ?_, fun e he => (h.entries e he).keeps hkeeps⟩
  obtain ⟨ns, hns⟩ := h.directories q hq
  exact ⟨ns, hns.keeps hkeeps⟩

/-- Where there is room, a plan is performed to its end, and this is what it leaves. -/
theorem perform_builds (h : j.Laid p destination d r)
    (hroom : Room (Under r (j.places p destination d)) (j.writes p destination d) d) :
    (j.perform p destination d).Builds (Under r (j.places p destination d))
      (j.writes p destination d)
      (p.entries.flatMap (PlanEntry.events (j.layout destination).root)) d := by
  have hall : Room (Under r ((j.layout destination).paths.map d.locate ++
      placesOf (j.layout destination).root d p.entries))
      ([] ++ writesOf (j.layout destination).root d p.entries) d := hroom
  have hfirst := ensureAll_builds h.directories hall.before
  have hkeeps := hfirst.built.toKeeps
  have hleft := hfirst.room hall
  rw [← placesOf_keeps hkeeps, ← writesOf_keeps hkeeps] at hleft
  have hrest := performAll_builds (fun e he => (h.entries e he).keeps hkeeps) hleft
  rw [placesOf_keeps hkeeps, writesOf_keeps hkeeps] at hrest
  rw [perform_eq, places, writes]
  exact hfirst.andThen hrest

end Job

end CrudStack
