/-
# `CrudStack.Proofs.Disk.Descent` — what is made below a directory

Most paths of a run lead from one directory down by names: no dots, nothing too long (`Below`).  Of
such a path it can be said beforehand what will come of it.  A directory is made just if no file is
in the way, and then the locations on the way are directories and nothing else has changed
(`ensureDirectory_below`); a file is written just if its directory is there and it is none itself
(`writeFile_below`).  Conversely, something that is there shows that its path leads down so
(`below_of_hasDirectory`, `below_of_placed`).

`Built` is `Effect` with the new directories named, so that two runs can be compared.  `Room` is
what has to be free before something is built, and it is handed on from one part to the next.
-/
import CrudStack.Proofs.Disk.Around

namespace CrudStack

namespace Disk

/-! ## The way down -/

/-- The locations below a directory on the way down to another location. -/
def Between (r k l : Location) : Prop := r <+: l ∧ l ≠ r ∧ l <+: k

theorem not_between_self {r l : Location} : ¬Between r r l := fun ⟨h, hne, h'⟩ =>
  hne (h'.eq_of_length_le h.length_le)

theorem between_concat {r l : Location} {init : List String} {last : String} :
    Between r (r ++ (init ++ [last])) l ↔
      Between r (r ++ init) l ∨ l = r ++ (init ++ [last]) := by
  rw [← List.append_assoc]
  constructor
  · rintro ⟨h, hne, hk⟩
    rcases List.prefix_concat_iff.mp hk with rfl | hk
    · exact .inr rfl
    · exact .inl ⟨h, hne, hk⟩
  · rintro (⟨h, hne, hk⟩ | rfl)
    · exact ⟨h, hne, hk.trans (List.prefix_append _ _)⟩
    · refine ⟨?_, by simp, List.prefix_refl _⟩
      rw [List.append_assoc]
      exact List.prefix_append _ _

theorem not_between_concat {r : Location} {init : List String} {last : String} :
    ¬Between r (r ++ init) (r ++ (init ++ [last])) := by
  rintro ⟨-, -, h⟩
  have hle := h.length_le
  simp only [List.length_append, List.length_singleton] at hle
  omega

/-! ## Directories by name -/

/-- What a part of a run does to a disk, with the locations of the directories that it leaves. -/
structure Built (made : Location → Prop) (writes : List Write) (d d' : Disk) : Prop
    extends Effect writes d d' where
  made : ∀ l, d'.get? l = some .directory ↔ d.get? l = some .directory ∨ made l

namespace Built

variable {made more : Location → Prop} {ws more' : List Write} {d d' d'' : Disk}

theorem refl (d : Disk) : Built (fun _ => False) [] d d := ⟨Effect.refl d, by simp⟩

theorem trans (h : Built made ws d d') (h' : Built more more' d' d'') :
    Built (fun l => made l ∨ more l) (ws ++ more') d d'' :=
  ⟨h.toEffect.trans h'.toEffect, fun l => by rw [h'.made, h.made, or_assoc]⟩

theorem congr (h : Built made ws d d') (hmade : ∀ l, made l ↔ more l) : Built more ws d d' :=
  ⟨h.toEffect, fun l => by rw [h.made, hmade]⟩

end Built

/-- There is room for directories and files: no file where a directory is due, no directory where a
file is due, and no location that both claim. -/
structure Room (made : Location → Prop) (writes : List Write) (d : Disk) : Prop where
  directories : ∀ l, made l → ∀ content, d.get? l ≠ some (.file content)
  files : ∀ w ∈ writes, d.get? w.1 ≠ some .directory
  apart : ∀ w ∈ writes, ¬made w.1

theorem Room.first {made more : Location → Prop} {ws more' : List Write} {d : Disk}
    (h : Room (fun l => made l ∨ more l) (ws ++ more') d) : Room made ws d :=
  ⟨fun l hl => h.directories l (.inl hl), fun w hw => h.files w (List.mem_append_left _ hw),
    fun w hw hmade => h.apart w (List.mem_append_left _ hw) (.inl hmade)⟩

/-- What has been built leaves room for the rest. -/
theorem Room.rest {made more : Location → Prop} {ws more' : List Write} {d d' : Disk}
    (h : Room (fun l => made l ∨ more l) (ws ++ more') d) (hbuilt : Built made ws d d') :
    Room more more' d' := by
  refine ⟨fun l hl content hfile => ?_, fun w hw hdir => ?_, fun w hw hmore => ?_⟩
  · have hfiles : overwrite d.files ws l = some content := by
      rw [← hbuilt.files, files_eq_some]
      exact hfile
    rw [overwrite_of_notMem, files_eq_some] at hfiles
    · exact h.directories l (.inr hl) content hfiles
    · intro hwritten
      obtain ⟨w, hw, rfl⟩ := List.mem_map.mp hwritten
      exact h.apart w (List.mem_append_left _ hw) (.inr hl)
  · rcases (hbuilt.made w.1).mp hdir with hdir | hmade
    · exact h.files w (List.mem_append_right _ hw) hdir
    · exact h.apart w (List.mem_append_right _ hw) (.inl hmade)
  · exact h.apart w (List.mem_append_right _ hw) (.inr hmore)

/-- What a run has left shows that there was room for it. -/
theorem room_of_effect {made : Location → Prop} {ws all : List Write} {d d' : Disk}
    (h : Effect all d d') (hmade : ∀ l, made l → d'.get? l = some .directory)
    (hwritten : ∀ w ∈ ws, ∃ content, d'.get? w.1 = some (.file content)) : Room made ws d := by
  refine ⟨fun l hl content hfile => ?_, fun w hw hdir => ?_, fun w hw hl => ?_⟩
  · obtain ⟨now, hnow⟩ := h.file_stays hfile
    rw [hmade l hl] at hnow
    cases hnow
  · obtain ⟨content, hfile⟩ := hwritten w hw
    rw [h.directories w.1 hdir] at hfile
    cases hfile
  · obtain ⟨content, hfile⟩ := hwritten w hw
    rw [hmade w.1 hl] at hfile
    cases hfile

/-! ## Paths below a directory -/

/-- A path leads from a directory down by names that can be made. -/
structure Below (d : Disk) (r : Location) (ns : List String) (q : Path) : Prop where
  check : checkPath q = .ok ()
  names : ∀ n ∈ ns, isDots n = false
  fits : ∀ n ∈ ns, n.utf8ByteSize ≤ nameLimit
  directory : d.get? r = some .directory
  walk : ∃ before, pieces q = before ++ ns ∧ d.walk (d.start q) before = .ok r

theorem ne_dot_of_isDots {n : String} (h : isDots n = false) : n ≠ "." := by
  rintro rfl
  cases h

namespace Below

variable {d : Disk} {r : Location} {q : Path}

theorem keeps {d' : Disk} (hkeeps : Keeps d d') {ns : List String} (h : Below d r ns q) :
    Below d' r ns q := by
  obtain ⟨before, hpieces, hwalk⟩ := h.walk
  rw [← hkeeps.start] at hwalk
  exact ⟨h.check, h.names, h.fits, hkeeps.directories r h.directory,
    before, hpieces, walk_keeps hkeeps hwalk⟩

/-- The parent leads down by all names but the last one. -/
theorem parent {init : List String} {last : String} (h : Below d r (init ++ [last]) q) :
    ∃ p, q.parent? = some p ∧ Below d r init p := by
  obtain ⟨before, hpieces, hwalk⟩ := h.walk
  have hlast : last ≠ "." := ne_dot_of_isDots (h.names last (by simp))
  cases hparent : q.parent? with
  | none =>
      refine absurd (Path.dots_of_parent?_none hparent last ?_) hlast
      simp [hpieces]
  | some p =>
      have hp := Path.parent_of_parent? hparent
      obtain ⟨dots, final, after, hsplit, hdots, hafter⟩ := hp.pieces
      have hinit : before ++ init = pieces p ++ dots := by
        rcases List.eq_nil_or_concat after with rfl | ⟨after, dot, rfl⟩
        · rw [hpieces, ← List.append_assoc] at hsplit
          exact (List.append_inj' hsplit rfl).1
        · have hends :
              before ++ init ++ [last] = pieces p ++ dots ++ (final :: after) ++ [dot] := by
            rw [List.append_assoc before, ← hpieces, hsplit]
            simp
          have hsame : last = dot := List.singleton_inj.mp (List.append_inj' hends rfl).2
          exact absurd (hsame.trans (hafter dot (by simp))) hlast
      refine ⟨p, rfl, checkPath_beginning hp.text h.check,
        fun n hn => h.names n (List.mem_append_left _ hn),
        fun n hn => h.fits n (List.mem_append_left _ hn), h.directory, ?_⟩
      rw [← start_congr d hp.isAbsolute] at hwalk
      rcases List.eq_nil_or_concat init with rfl | ⟨init, final, rfl⟩
      · rw [List.append_nil] at hinit
        rw [hinit] at hwalk
        exact ⟨pieces p, (List.append_nil _).symm, walk_dots hdots hwalk⟩
      · refine ⟨before, ?_, hwalk⟩
        rcases List.eq_nil_or_concat dots with rfl | ⟨dots, dot, rfl⟩
        · rw [List.append_nil] at hinit
          exact hinit.symm
        · have hsame : final = dot := by
            have hends := congrArg List.getLast? hinit
            simpa using hends
          have hdot := hsame.trans (hdots dot (by simp))
          exact absurd hdot (ne_dot_of_isDots (h.names final (by simp)))

theorem descend_names {ns : List String} (h : ∀ n ∈ ns, isDots n = false) (l : Location) :
    ns.foldl descend l = l ++ ns := by
  induction ns generalizing l with
  | nil => simp
  | cons n rest ih =>
      have hn := h n List.mem_cons_self
      simp only [isDots, Bool.or_eq_false_iff, decide_eq_false_iff_not] at hn
      rw [List.foldl_cons, descend, if_neg hn.1, if_neg hn.2,
        ih fun m hm => h m (List.mem_cons_of_mem _ hm), List.append_assoc]
      rfl

theorem locate {ns : List String} (h : Below d r ns q) : d.locate q = r ++ ns := by
  obtain ⟨before, hpieces, hwalk⟩ := h.walk
  rw [Disk.locate, hpieces, List.foldl_append, ← walk_location hwalk, descend_names h.names]

end Below

/-! ## Walking down -/

section Walk

variable {d : Disk} {r : Location} {ns : List String}

theorem directory_of_between (hr : d.get? r = some .directory)
    (hway : ∀ l, Between r (r ++ ns) l → d.get? l = some .directory) :
    d.get? (r ++ ns) = some .directory := by
  by_cases hnil : ns = []
  · rwa [hnil, List.append_nil]
  · exact hway _ ⟨List.prefix_append _ _, by simpa using hnil, List.prefix_refl _⟩

theorem walk_of_between (hr : d.get? r = some .directory) (hnames : ∀ n ∈ ns, isDots n = false)
    (hfits : ∀ n ∈ ns, n.utf8ByteSize ≤ nameLimit)
    (hway : ∀ l, Between r (r ++ ns) l → d.get? l = some .directory) :
    d.walk r ns = .ok (r ++ ns) := by
  induction ns using List.reverseRecOn with
  | nil => rw [List.append_nil]; rfl
  | append_singleton init last ih =>
      have hinit : ∀ l, Between r (r ++ init) l → d.get? l = some .directory :=
        fun l hl => hway l (between_concat.mpr (.inl hl))
      have hwalk := ih (fun n hn => hnames n (List.mem_append_left _ hn))
        (fun n hn => hfits n (List.mem_append_left _ hn)) hinit
      refine walk_concat_eq_ok.mpr ⟨r ++ init, hwalk, step_eq_ok.mpr
        ⟨directory_of_between hr hinit, fun _ => hfits last (by simp), ?_⟩⟩
      have hlast := hnames last (by simp)
      simp only [isDots, Bool.or_eq_false_iff, decide_eq_false_iff_not] at hlast
      rw [descend, if_neg hlast.1, if_neg hlast.2, List.append_assoc]

/-- A way that can be walked leads over directories. -/
theorem between_of_walk {k : Location} (hnames : ∀ n ∈ ns, isDots n = false)
    (h : d.walk r ns = .ok k) :
    k = r ++ ns ∧ (∀ n ∈ ns, n.utf8ByteSize ≤ nameLimit) ∧
      ∀ l, Between r k l → l = k ∨ d.get? l = some .directory := by
  induction ns using List.reverseRecOn generalizing k with
  | nil =>
      have hk : k = r := (Except.ok.inj h).symm
      exact ⟨by simp [hk], nofun, fun l hl => absurd (hk ▸ hl) not_between_self⟩
  | append_singleton init last ih =>
      obtain ⟨m, hwalk, hstep⟩ := walk_concat_eq_ok.mp h
      obtain ⟨hdir, hlast, hk⟩ := step_eq_ok.mp hstep
      obtain ⟨rfl, hfits, hway⟩ := ih (fun n hn => hnames n (List.mem_append_left _ hn)) hwalk
      have hname := hnames last (by simp)
      have hk' : k = r ++ (init ++ [last]) := by
        have hboth := hname
        simp only [isDots, Bool.or_eq_false_iff, decide_eq_false_iff_not] at hboth
        rw [hk, descend, if_neg hboth.1, if_neg hboth.2, List.append_assoc]
      refine ⟨hk', fun n hn => ?_, fun l hl => ?_⟩
      · rcases List.mem_append.mp hn with hn | hn
        · exact hfits n hn
        · rw [List.mem_singleton.mp hn]
          exact hlast hname
      · rw [hk'] at hl ⊢
        rcases between_concat.mp hl with hl | hl
        · rcases hway l hl with rfl | hdir'
          · exact .inr hdir
          · exact .inr hdir'
        · exact .inl hl

end Walk

/-! ## Building -/

/-- A directory is settled where no file is. -/
theorem settleDirectory_of_target {d : Disk} {q : Path} {k : Location}
    (ht : d.target q .alreadyExists none = .ok k)
    (hfree : ∀ content, d.get? k ≠ some (.file content)) :
    ∃ d', d.settleDirectory q = ⟨d', none⟩ ∧ Built (· = k) [] d d' := by
  cases hk : d.get? k with
  | none =>
      have hmake : d.makeDirectory q = .ok (d.put k .directory) :=
        makeDirectory_eq_ok.mpr ⟨k, ht, hk, rfl⟩
      refine ⟨_, by rw [settleDirectory, hmake], makeDirectory_effect hmake, fun l => ?_⟩
      rw [get?_put d (target_ne_nil ht)]
      by_cases hl : l = k
      · simp [hl]
      · simp [hl]
  | some e =>
      cases e with
      | file content => exact absurd hk (hfree content)
      | directory =>
          have hthere : d.hasDirectory q = true := by
            obtain ⟨hcheck, hempty, -⟩ := target_eq_ok.mp ht
            exact hasDirectory_iff.mpr ⟨k, lookup_eq_ok.mpr
              ⟨hcheck, hempty, walk_of_target ht, hk, fun hne => absurd rfl hne⟩⟩
          have hmake := makeDirectory_of_hasDirectory hthere
          refine ⟨d, by simp [settleDirectory, hmake, hthere], Effect.refl d, fun l => ?_⟩
          refine ⟨.inl, fun h => ?_⟩
          rcases h with h | rfl
          · exact h
          · exact hk

theorem Below.text_isEmpty {d : Disk} {r : Location} {init : List String} {last : String}
    {q : Path} (h : Below d r (init ++ [last]) q) : q.text.isEmpty = false := by
  obtain ⟨p, hparent, -⟩ := h.parent
  exact text_ne_empty_of_parent? hparent

/-- Once the directories on the way are there, a path leads to a place for something new. -/
theorem target_below {d : Disk} {r : Location} {init : List String} {last : String} {q : Path}
    (h : Below d r (init ++ [last]) q)
    (hway : ∀ l, Between r (r ++ init) l → d.get? l = some .directory) {onDots : IoFault}
    {onSlash : Option IoFault} (hslash : endsInSlash q = true → onSlash = none) :
    d.target q onDots onSlash = .ok (r ++ (init ++ [last])) := by
  obtain ⟨before, hpieces, hwalk⟩ := h.walk
  rw [← List.append_assoc] at hpieces
  have hdown := walk_of_between h.directory (fun n hn => h.names n (List.mem_append_left _ hn))
    (fun n hn => h.fits n (List.mem_append_left _ hn)) hway
  refine target_eq_ok.mpr ⟨h.check, h.text_isEmpty, last, by simp [hpieces], r ++ init, ?_,
    directory_of_between h.directory hway, h.names last (by simp), hslash,
    h.fits last (by simp), by rw [List.append_assoc]⟩
  rw [hpieces, List.dropLast_concat, walk_append, hwalk, ok_bind, hdown]

theorem settled_of_below {d : Disk} {r : Location} {q : Path} (h : Below d r [] q) :
    Settled d q := by
  obtain ⟨before, hpieces, hwalk⟩ := h.walk
  rw [List.append_nil] at hpieces
  rw [← hpieces] at hwalk
  cases hparent : q.parent? with
  | none => exact .inl hparent
  | some p =>
      exact .inr (hasDirectory_iff.mpr ⟨r, lookup_eq_ok.mpr
        ⟨h.check, text_ne_empty_of_parent? hparent, hwalk, h.directory,
          fun hne => absurd rfl hne⟩⟩)

/-- A directory below another is made, with those on the way, where no file is in the way. -/
theorem ensureDirectory_below {d : Disk} {r : Location} {ns : List String} {q : Path}
    (h : Below d r ns q)
    (hfree : ∀ l, Between r (r ++ ns) l → ∀ content, d.get? l ≠ some (.file content)) :
    ∃ d', d.ensureDirectory q = ⟨d', none⟩ ∧ Built (Between r (r ++ ns)) [] d d' := by
  induction ns using List.reverseRecOn generalizing q with
  | nil =>
      refine ⟨d, ensureDirectory_of_settled (settled_of_below h), (Built.refl d).congr fun l => ?_⟩
      rw [List.append_nil]
      exact ⟨False.elim, not_between_self⟩
  | append_singleton init last ih =>
      obtain ⟨p, hparent, hp⟩ := h.parent
      obtain ⟨d₁, hensure, hbuilt⟩ :=
        ih hp fun l hl => hfree l (between_concat.mpr (.inl hl))
      have htarget : d₁.target q .alreadyExists none = .ok (r ++ (init ++ [last])) :=
        target_below (h.keeps hbuilt.toKeeps) (fun l hl => (hbuilt.made l).mpr (.inr hl))
          fun _ => rfl
      have hplace : ∀ content, d₁.get? (r ++ (init ++ [last])) ≠ some (.file content) := by
        intro content hfile
        rw [← files_eq_some, hbuilt.files, overwrite_nil, files_eq_some] at hfile
        exact hfree _ (between_concat.mpr (.inr rfl)) content hfile
      obtain ⟨d₂, hsettle, hlast⟩ := settleDirectory_of_target htarget hplace
      refine ⟨d₂, ?_, (hbuilt.trans hlast).congr fun l => between_concat.symm⟩
      rw [ensureDirectory_of_parent hparent h.check (by rw [hensure]), hensure, hsettle]

/-- A file below a directory is written once its own directory is there. -/
theorem writeFile_below {d : Disk} {r : Location} {init : List String} {last : String} {q : Path}
    (h : Below d r (init ++ [last]) q)
    (hway : ∀ l, Between r (r ++ init) l → d.get? l = some .directory)
    (hslash : endsInSlash q = false)
    (hfree : d.get? (r ++ (init ++ [last])) ≠ some .directory) (content : ByteArray) :
    ∃ d', d.writeFile q content = .ok d' ∧
      Built (fun _ => False) [(r ++ (init ++ [last]), content)] d d' := by
  have htarget : d.target q .isDirectory (some .isDirectory) = .ok (r ++ (init ++ [last])) :=
    target_below h hway fun hend => by rw [hslash] at hend; cases hend
  have hwrite : d.writeFile q content =
      .ok (d.put (r ++ (init ++ [last])) (.file content)) :=
    writeFile_eq_ok.mpr ⟨_, htarget, hfree, rfl⟩
  refine ⟨_, hwrite, Effect.put_file (target_ne_nil htarget) hfree content, fun l => ?_⟩
  rw [get?_put d (target_ne_nil htarget)]
  by_cases hl : l = r ++ (init ++ [last])
  · subst hl
    simp [hfree]
  · simp [hl]

/-! ## What a path shows -/

/-- One path goes on from another by names. -/
structure Extends (base q : Path) (ns : List String) : Prop where
  isAbsolute : q.isAbsolute = base.isAbsolute
  pieces : pieces q = pieces base ++ ns
  names : ∀ n ∈ ns, isDots n = false

theorem Extends.refl (p : Path) : Extends p p [] := ⟨rfl, (List.append_nil _).symm, nofun⟩

theorem Extends.trans {p q r : Path} {ns ms : List String} (h : Extends p q ns)
    (h' : Extends q r ms) : Extends p r (ns ++ ms) := by
  refine ⟨h'.isAbsolute.trans h.isAbsolute, ?_, fun n hn => ?_⟩
  · rw [h'.pieces, h.pieces, List.append_assoc]
  · rcases List.mem_append.mp hn with hn | hn
    · exact h.names n hn
    · exact h'.names n hn

/-- Where a path leads, one that goes on from it leads by the names behind it. -/
theorem Extends.locate {base q : Path} {ns : List String} (h : Extends base q ns) (d : Disk) :
    d.locate q = d.locate base ++ ns := by
  rw [Disk.locate, h.pieces, List.foldl_append, start_congr d h.isAbsolute, ← Disk.locate,
    Below.descend_names h.names]

/-- A path that leads to a directory, seen as one without names below it. -/
theorem Below.walk_nil {d : Disk} {r : Location} {base : Path} (h : Below d r [] base) :
    d.walk (d.start base) (Disk.pieces base) = .ok r := by
  obtain ⟨before, hpieces, hwalk⟩ := h.walk
  rwa [hpieces, List.append_nil]

section Extends

variable {d : Disk} {r : Location} {base q : Path} {ns : List String} (hbase : Below d r [] base)
  (hq : Extends base q ns)

include hbase hq

/-- From a path that leads to a directory others lead down, if they are not too long. -/
theorem Below.extend (hcheck : checkPath q = .ok ())
    (hfits : ∀ n ∈ ns, n.utf8ByteSize ≤ nameLimit) : Below d r ns q := by
  refine ⟨hcheck, hq.names, hfits, hbase.directory, pieces base, hq.pieces, ?_⟩
  rw [start_congr d hq.isAbsolute]
  exact hbase.walk_nil

variable {d' : Disk} (hkeeps : Keeps d d')

include hkeeps

theorem below_of_lookup {k : Location} {e : DiskEntry} (h : d'.lookup q = .ok (k, e)) :
    Below d r ns q ∧ k = r ++ ns ∧
      ∀ l, Between r (r ++ ns) l → l = r ++ ns ∨ d'.get? l = some .directory := by
  obtain ⟨hcheck, -, hwalk, -, -⟩ := lookup_eq_ok.mp h
  have hbefore := (hbase.keeps hkeeps).walk_nil
  rw [← start_congr d' hq.isAbsolute] at hbefore
  rw [hq.pieces, walk_append, hbefore, ok_bind] at hwalk
  obtain ⟨hk, hfits, hway⟩ := between_of_walk hq.names hwalk
  rw [hk] at hway
  exact ⟨hbase.extend hq hcheck hfits, hk, hway⟩

/-- A directory that is there leads down from where it was before, and so do those on the way. -/
theorem below_of_hasDirectory (h : d'.hasDirectory q = true) :
    Below d r ns q ∧ ∀ l, Between r (r ++ ns) l → d'.get? l = some .directory := by
  obtain ⟨k, hk⟩ := hasDirectory_iff.mp h
  obtain ⟨hbelow, rfl, hway⟩ := below_of_lookup hbase hq hkeeps hk
  refine ⟨hbelow, fun l hl => ?_⟩
  rcases hway l hl with rfl | hdir
  · exact (lookup_eq_ok.mp hk).2.2.2.1
  · exact hdir

/-- A file that is there leads down from where it was before, over directories. -/
theorem below_of_placed (h : Placed d' q) :
    Below d r ns q ∧ endsInSlash q = false ∧
      (∃ content, d'.get? (r ++ ns) = some (.file content)) ∧
      ∀ l, Between r (r ++ ns) l → l = r ++ ns ∨ d'.get? l = some .directory := by
  obtain ⟨content, hlookup⟩ := lookup_of_placed h
  obtain ⟨hbelow, hk, hway⟩ := below_of_lookup hbase hq hkeeps hlookup
  obtain ⟨-, -, -, hfile, hslash⟩ := lookup_eq_ok.mp hlookup
  rw [hk] at hfile
  exact ⟨hbelow, hslash (by simp), ⟨content, hfile⟩, hway⟩

end Extends

end Disk

end CrudStack
