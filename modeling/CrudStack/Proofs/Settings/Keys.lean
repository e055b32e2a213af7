/-
# `CrudStack.Proofs.Settings.Keys` — what settings say, key by key

Settings have twelve keys with a value of their own.  Each has a path, a way to read its value and a
place in the record.  Where a layer has tables along these paths, its settings are what its values
say and the defaults for the rest, and they exist if and only if every value that is there can be
read (`ofTree_eq_ok`).
-/
import CrudStack.Proofs.Settings.Merged
import CrudStack.Proofs.Success
import CrudStack.Settings.Extract
import Mathlib.Tactic.SplitIfs

namespace CrudStack.Settings

/-! ## Keys -/

/-- A key with a value of its own. -/
inductive Key where
  | projectName
  | groupId
  | javaVersion
  | springBootVersion
  | serverPort
  | database
  | datasourceUrl
  | datasourceUsername
  | datasourcePassword
  | apiBaseUrl
  | devPort
  | title
  deriving DecidableEq, Repr

/-- The value of a key. -/
inductive Setting where
  | text (value : String)
  | port (value : UInt16)
  | database (value : Database)
  deriving DecidableEq, Repr

namespace Key

/-- Where the value of a key stands in a layer. -/
def path : Key → List String
  | projectName => ["project", "name"]
  | groupId => ["backend", "group_id"]
  | javaVersion => ["backend", "java_version"]
  | springBootVersion => ["backend", "spring_boot_version"]
  | serverPort => ["backend", "server_port"]
  | database => ["backend", "database"]
  | datasourceUrl => ["backend", "datasource", "url"]
  | datasourceUsername => ["backend", "datasource", "username"]
  | datasourcePassword => ["backend", "datasource", "password"]
  | apiBaseUrl => ["frontend", "api_base_url"]
  | devPort => ["frontend", "dev_port"]
  | title => ["frontend", "title"]

/-- The value of a key in a record; a key that may be unset can have none. -/
def get (s : Settings) : Key → Option Setting
  | projectName => s.project.name.map .text
  | groupId => some (.text s.backend.groupId)
  | javaVersion => some (.text s.backend.javaVersion)
  | springBootVersion => some (.text s.backend.springBootVersion)
  | serverPort => some (.port s.backend.serverPort)
  | database => some (.database s.backend.database)
  | datasourceUrl => s.backend.datasource.url.map .text
  | datasourceUsername => some (.text s.backend.datasource.username)
  | datasourcePassword => some (.text s.backend.datasource.password)
  | apiBaseUrl => some (.text s.frontend.apiBaseUrl)
  | devPort => some (.port s.frontend.devPort)
  | title => s.frontend.title.map .text

/-- Reads the value of a key. -/
def read (t : Tree) : Key → Except Fault Setting
  | serverPort | devPort => (portOf t).map .port
  | database => (databaseOf t).map .database
  | _ => (textOf t).map .text

/-- What a key is if this was found at its path: the value that is read from it, or the default. -/
def Says (k : Key) : Option Tree → Option Setting → Prop
  | some t, x => ∃ s, k.read t = .ok s ∧ x = some s
  | none, x => x = k.get {}

end Key

/-! ## Fields of a section

A section is read entry by entry.  Each field of its record is touched by the entries of one key
alone, and the keys of a table do not repeat. -/

section Fields

variable {Record Inner A : Type} {expected : String} {fields : List String}
  {set : Record → String → Tree → Except Fault Record} {defaults : Record}

/-- A field is set by the entry of one key, and by no other one. -/
def Sets (set : Record → String → Tree → Except Fault Record) (key : String)
    (reads : Tree → A → Prop) (get : Record → A) : Prop :=
  ∀ ⦃r name t r'⦄, set r name t = .ok r' →
    if name = key then reads t (get r') else get r' = get r

/-- What is held if this was found: what is read from it, or what was held before. -/
def HeldAfter (reads : Tree → A → Prop) (before : A) : Option Tree → A → Prop
  | some t, a => reads t a
  | none, a => a = before

/-- What is read along a path is held by a part of the record. -/
def Extracts (reader : Tree → Record → Prop) (path : List String) (reads : Tree → A → Prop)
    (get : Record → A) (before : A) : Prop :=
  ∀ ⦃t r⦄, t.Leads path → reader t r → HeldAfter reads before (t.at? path) (get r)

theorem heldAfter_foldlM {key : String} {reads : Tree → A → Prop} {get : Record → A}
    (hset : Sets set key reads get) {es : List (String × Tree)} (hes : Tree.Increasing es)
    {r r' : Record}
    (h : es.foldlM (fun r e => (set r e.1 e.2).mapError (·.under e.1)) r = .ok r') :
    HeldAfter reads (get r) (es.lookup key) (get r') := by
  induction es generalizing r with
  | nil =>
      rw [List.foldlM_nil, pure_eq_ok] at h
      exact congrArg get h
  | cons e es ih =>
      rw [List.foldlM_cons, bind_eq_ok] at h
      obtain ⟨r₁, hfirst, hrest⟩ := h
      have hstep := hset (mapError_eq_ok.mp hfirst)
      have hothers := ih (List.pairwise_cons.mp hes).2 hrest
      by_cases hkey : e.1 = key
      · subst hkey
        rw [if_pos rfl] at hstep
        rw [Tree.lookup_eq_none_of_increasing hes] at hothers
        rw [List.lookup_cons, beq_self_eq_true]
        exact (show get r' = get r₁ from hothers) ▸ hstep
      · rw [if_neg hkey] at hstep
        rw [List.lookup_cons, beq_eq_false_iff_ne.mpr (Ne.symm hkey), ← hstep]
        exact hothers

/-- What is read along a path below a section is held by a part of the section's record. -/
theorem extracts_section {key : String} {path : List String} {inner : Tree → Inner → Prop}
    {part : Record → Inner} {reads : Tree → A → Prop} {g : Inner → A}
    (hset : Sets set key inner part)
    (hinner : Extracts inner path reads g (g (part defaults))) :
    Extracts (fun t r => sectionOf expected fields set defaults t = .ok r) (key :: path) reads
      (fun r => g (part r)) (g (part defaults)) := by
  rintro _ r ⟨source, es, rfl, hes, hleads⟩ h
  have hheld := heldAfter_foldlM hset hes h
  rw [Tree.at?, Tree.entries]
  cases hsub : es.lookup key with
  | none =>
      rw [hsub] at hheld
      exact congrArg g hheld
  | some sub =>
      rw [hsub] at hheld
      exact hinner (hleads sub hsub) hheld

/-- A section of which every entry can be set is read. -/
theorem sectionOf_isOk {t : Tree} {key : String} {path : List String}
    (hleads : t.Leads (key :: path))
    (h : ∀ name sub, t.entries.lookup name = some sub → ∀ r, ∃ r', set r name sub = .ok r') :
    ∃ r, sectionOf expected fields set defaults t = .ok r := by
  obtain ⟨source, es, rfl, hes, -⟩ := hleads
  have hall : ∀ e ∈ es, ∀ r, ∃ r', set r e.1 e.2 = .ok r' :=
    fun e he => h e.1 e.2 (Tree.lookup_of_mem_increasing hes he)
  rw [sectionOf]
  clear h hes
  induction es generalizing defaults with
  | nil => exact ⟨defaults, rfl⟩
  | cons e es ih =>
      obtain ⟨r, hr⟩ := hall e List.mem_cons_self defaults
      obtain ⟨r', hr'⟩ := @ih r fun e he => hall e (List.mem_cons_of_mem _ he)
      refine ⟨r', ?_⟩
      rw [List.foldlM_cons, hr]
      exact hr'

/-- What is read is stored. -/
theorem stored_isOk {read : Except Fault A} {put : A → Record} (h : ∃ a, read = .ok a) :
    ∃ r, (do return put (← read)) = Except.ok (ε := Fault) r := by
  obtain ⟨a, ha⟩ := h
  exact ⟨put a, by rw [ha]; rfl⟩

end Fields

/-! ## The sections -/

/-- What is read from a value. -/
def Reads {A : Type} (read : Tree → Except Fault A) (t : Tree) (a : A) : Prop := read t = .ok a

/-- What is read from a value that may be unset. -/
def ReadsSome {A : Type} (read : Tree → Except Fault A) (t : Tree) (x : Option A) : Prop :=
  ∃ a, read t = .ok a ∧ x = some a

/-- A value can be read, if there is one. -/
def Readable {A : Type} (read : Tree → Except Fault A) : Option Tree → Prop
  | some t => ∃ a, read t = .ok a
  | none => True

theorem sets_name : Sets setProject "name" (ReadsSome textOf) (·.name) := by
  intro r name t r' h
  unfold setProject at h
  grind [bind_eq_ok, pure_eq_ok, ReadsSome]

theorem sets_url : Sets setDatasource "url" (ReadsSome textOf) (·.url) := by
  intro r name t r' h
  unfold setDatasource at h
  grind [bind_eq_ok, pure_eq_ok, ReadsSome]

theorem sets_username : Sets setDatasource "username" (Reads textOf) (·.username) := by
  intro r name t r' h
  unfold setDatasource at h
  grind [bind_eq_ok, pure_eq_ok, Reads]

theorem sets_password : Sets setDatasource "password" (Reads textOf) (·.password) := by
  intro r name t r' h
  unfold setDatasource at h
  grind [bind_eq_ok, pure_eq_ok, Reads]

theorem sets_groupId : Sets setBackend "group_id" (Reads textOf) (·.groupId) := by
  intro r name t r' h
  unfold setBackend at h
  grind [bind_eq_ok, pure_eq_ok, Reads]

theorem sets_javaVersion : Sets setBackend "java_version" (Reads textOf) (·.javaVersion) := by
  intro r name t r' h
  unfold setBackend at h
  grind [bind_eq_ok, pure_eq_ok, Reads]

theorem sets_springBootVersion :
    Sets setBackend "spring_boot_version" (Reads textOf) (·.springBootVersion) := by
  intro r name t r' h
  unfold setBackend at h
  grind [bind_eq_ok, pure_eq_ok, Reads]

theorem sets_serverPort : Sets setBackend "server_port" (Reads portOf) (·.serverPort) := by
  intro r name t r' h
  unfold setBackend at h
  grind [bind_eq_ok, pure_eq_ok, Reads]

theorem sets_database : Sets setBackend "database" (Reads databaseOf) (·.database) := by
  intro r name t r' h
  unfold setBackend at h
  grind [bind_eq_ok, pure_eq_ok, Reads]

theorem sets_datasource :
    Sets setBackend "datasource" (fun t d => datasourceOf t = .ok d) (·.datasource) := by
  intro r name t r' h
  unfold setBackend at h
  grind [bind_eq_ok, pure_eq_ok]

theorem sets_apiBaseUrl : Sets setFrontend "api_base_url" (Reads textOf) (·.apiBaseUrl) := by
  intro r name t r' h
  unfold setFrontend at h
  grind [bind_eq_ok, pure_eq_ok, Reads]

theorem sets_devPort : Sets setFrontend "dev_port" (Reads portOf) (·.devPort) := by
  intro r name t r' h
  unfold setFrontend at h
  grind [bind_eq_ok, pure_eq_ok, Reads]

theorem sets_title : Sets setFrontend "title" (ReadsSome textOf) (·.title) := by
  intro r name t r' h
  unfold setFrontend at h
  grind [bind_eq_ok, pure_eq_ok, ReadsSome]

theorem sets_project :
    Sets setSection "project" (fun t p => projectOf t = .ok p) (·.project) := by
  intro r name t r' h
  unfold setSection at h
  grind [bind_eq_ok, pure_eq_ok]

theorem sets_backend :
    Sets setSection "backend" (fun t b => backendOf t = .ok b) (·.backend) := by
  intro r name t r' h
  unfold setSection at h
  grind [bind_eq_ok, pure_eq_ok]

theorem sets_frontend :
    Sets setSection "frontend" (fun t f => frontendOf t = .ok f) (·.frontend) := by
  intro r name t r' h
  unfold setSection at h
  grind [bind_eq_ok, pure_eq_ok]

/-! ## From records to keys -/

section Values

variable {Record A : Type} {expected : String} {fields : List String}
  {set : Record → String → Tree → Except Fault Record} {defaults : Record} {key : String}
  {read : Tree → Except Fault A}

/-- What reads a value of a key. -/
def ReadsAs (read : Tree → Except Fault A) (put : A → Setting) (t : Tree) (x : Option Setting) :
    Prop := ∃ s, (read t).map put = .ok s ∧ x = some s

theorem extracts_value {part : Record → A} (hset : Sets set key (Reads read) part)
    (put : A → Setting) :
    Extracts (fun t r => sectionOf expected fields set defaults t = .ok r) [key]
      (ReadsAs read put) (fun r => some (put (part r))) (some (put (part defaults))) :=
  extracts_section (g := fun a => some (put a)) hset fun _ a _ h =>
    ⟨put a, map_eq_ok.mpr ⟨a, h, rfl⟩, rfl⟩

theorem extracts_optional {part : Record → Option A} (hset : Sets set key (ReadsSome read) part)
    (put : A → Setting) :
    Extracts (fun t r => sectionOf expected fields set defaults t = .ok r) [key]
      (ReadsAs read put) (fun r => (part r).map put) ((part defaults).map put) := by
  refine extracts_section (g := Option.map put) hset ?_
  rintro t x - ⟨a, ha, rfl⟩
  exact ⟨put a, map_eq_ok.mpr ⟨a, ha, rfl⟩, rfl⟩

end Values

section Sections

variable {A : Type} {path : List String} {reads : Tree → A → Prop}

theorem extracts_datasource {g : DatasourceSettings → A}
    (h : Extracts (fun t d => datasourceOf t = .ok d) path reads g (g {})) :
    Extracts (fun t b => backendOf t = .ok b) ("datasource" :: path) reads
      (fun b => g b.datasource) (g {}) :=
  extracts_section sets_datasource h

theorem extracts_project {g : ProjectSettings → A}
    (h : Extracts (fun t p => projectOf t = .ok p) path reads g (g {})) :
    Extracts (fun t c => ofTree t = .ok c) ("project" :: path) reads (fun c => g c.project)
      (g {}) :=
  extracts_section sets_project h

theorem extracts_backend {g : BackendSettings → A}
    (h : Extracts (fun t b => backendOf t = .ok b) path reads g (g {})) :
    Extracts (fun t c => ofTree t = .ok c) ("backend" :: path) reads (fun c => g c.backend)
      (g {}) :=
  extracts_section sets_backend h

theorem extracts_frontend {g : FrontendSettings → A}
    (h : Extracts (fun t f => frontendOf t = .ok f) path reads g (g {})) :
    Extracts (fun t c => ofTree t = .ok c) ("frontend" :: path) reads (fun c => g c.frontend)
      (g {}) :=
  extracts_section sets_frontend h

end Sections

/-- Settings of a layer say for every key what the layer says. -/
theorem says_of_ofTree {t : Tree} {c : Settings} (h : ofTree t = .ok c) (k : Key)
    (hleads : t.Leads k.path) : k.Says (t.at? k.path) (k.get c) := by
  have hkey : Extracts (fun t c => ofTree t = .ok c) k.path
      (fun t x => ∃ s, k.read t = .ok s ∧ x = some s) (fun c => k.get c) (k.get {}) := by
    cases k with
    | projectName => exact extracts_project (extracts_optional sets_name .text)
    | groupId => exact extracts_backend (extracts_value sets_groupId .text)
    | javaVersion => exact extracts_backend (extracts_value sets_javaVersion .text)
    | springBootVersion => exact extracts_backend (extracts_value sets_springBootVersion .text)
    | serverPort => exact extracts_backend (extracts_value sets_serverPort .port)
    | database => exact extracts_backend (extracts_value sets_database .database)
    | datasourceUrl =>
        exact extracts_backend (extracts_datasource (extracts_optional sets_url .text))
    | datasourceUsername =>
        exact extracts_backend (extracts_datasource (extracts_value sets_username .text))
    | datasourcePassword =>
        exact extracts_backend (extracts_datasource (extracts_value sets_password .text))
    | apiBaseUrl => exact extracts_frontend (extracts_value sets_apiBaseUrl .text)
    | devPort => exact extracts_frontend (extracts_value sets_devPort .port)
    | title => exact extracts_frontend (extracts_optional sets_title .text)
  have hheld := hkey hleads h
  cases hfound : t.at? k.path with
  | some v =>
      rw [hfound] at hheld
      exact hheld
  | none =>
      rw [hfound] at hheld
      exact hheld

/-! ## Settings exist where every value can be read -/

section Readable

variable {A : Type} {read : Tree → Except Fault A} {t sub : Tree} {name : String}
  {path : List String}

/-- What is found below a table is found from the table. -/
theorem at?_cons (hsub : t.entries.lookup name = some sub) :
    t.at? (name :: path) = sub.at? path := by
  rw [Tree.at?, hsub]

theorem leads_cons (h : t.Leads (name :: path)) (hsub : t.entries.lookup name = some sub) :
    sub.Leads path := by
  obtain ⟨source, es, rfl, -, hrest⟩ := h
  exact hrest sub hsub

theorem readable_entry (hsub : t.entries.lookup name = some sub)
    (h : Readable read (t.at? [name])) : ∃ a, read sub = .ok a := by
  rw [at?_cons hsub] at h
  exact h

/-- A value of a key that can be read can be read as what it is. -/
theorem readable_of_map {put : A → Setting} {found : Option Tree}
    (h : Readable (fun t => (read t).map put) found) : Readable read found := by
  cases found with
  | none => trivial
  | some v =>
      obtain ⟨_, hs⟩ := h
      obtain ⟨a, ha, -⟩ := map_eq_ok.mp hs
      exact ⟨a, ha⟩

theorem projectOf_isOk (hleads : t.Leads ["name"]) (hname : Readable textOf (t.at? ["name"])) :
    ∃ p, projectOf t = .ok p := by
  refine sectionOf_isOk hleads fun name sub hsub p => ?_
  unfold setProject
  split_ifs with h
  · subst h
    exact stored_isOk (readable_entry hsub hname)
  · exact ⟨p, rfl⟩

theorem datasourceOf_isOk (hleads : t.Leads ["url"]) (hurl : Readable textOf (t.at? ["url"]))
    (husername : Readable textOf (t.at? ["username"]))
    (hpassword : Readable textOf (t.at? ["password"])) : ∃ d, datasourceOf t = .ok d := by
  refine sectionOf_isOk hleads fun name sub hsub d => ?_
  unfold setDatasource
  split_ifs with h h h
  · subst h
    exact stored_isOk (readable_entry hsub hurl)
  · subst h
    exact stored_isOk (readable_entry hsub husername)
  · subst h
    exact stored_isOk (readable_entry hsub hpassword)
  · exact ⟨d, rfl⟩

theorem backendOf_isOk (hleads : t.Leads ["datasource"])
    (hgroup : Readable textOf (t.at? ["group_id"]))
    (hjava : Readable textOf (t.at? ["java_version"]))
    (hboot : Readable textOf (t.at? ["spring_boot_version"]))
    (hport : Readable portOf (t.at? ["server_port"]))
    (hdatabase : Readable databaseOf (t.at? ["database"]))
    (hdatasource : Readable datasourceOf (t.at? ["datasource"])) : ∃ b, backendOf t = .ok b := by
  refine sectionOf_isOk hleads fun name sub hsub b => ?_
  unfold setBackend
  split_ifs with h h h h h h
  · subst h
    exact stored_isOk (readable_entry hsub hgroup)
  · subst h
    exact stored_isOk (readable_entry hsub hjava)
  · subst h
    exact stored_isOk (readable_entry hsub hboot)
  · subst h
    exact stored_isOk (readable_entry hsub hport)
  · subst h
    exact stored_isOk (readable_entry hsub hdatabase)
  · subst h
    exact stored_isOk (readable_entry hsub hdatasource)
  · exact ⟨b, rfl⟩

theorem frontendOf_isOk (hleads : t.Leads ["title"])
    (hurl : Readable textOf (t.at? ["api_base_url"]))
    (hport : Readable portOf (t.at? ["dev_port"])) (htitle : Readable textOf (t.at? ["title"])) :
    ∃ f, frontendOf t = .ok f := by
  refine sectionOf_isOk hleads fun name sub hsub f => ?_
  unfold setFrontend
  split_ifs with h h h
  · subst h
    exact stored_isOk (readable_entry hsub hurl)
  · subst h
    exact stored_isOk (readable_entry hsub hport)
  · subst h
    exact stored_isOk (readable_entry hsub htitle)
  · exact ⟨f, rfl⟩

end Readable

theorem ofTree_isOk {t : Tree} (hleads : ∀ k : Key, t.Leads k.path)
    (hread : ∀ k : Key, Readable (fun t => k.read t) (t.at? k.path)) : ∃ c, ofTree t = .ok c := by
  have hvalue : ∀ {A : Type} {read : Tree → Except Fault A} {put : A → Setting} {name : String}
      {path : List String} {sub : Tree}, t.entries.lookup name = some sub →
      Readable (fun t => (read t).map put) (t.at? (name :: path)) →
        Readable read (sub.at? path) := by
    intro A read put name path sub hsub h
    rw [at?_cons hsub] at h
    exact readable_of_map h
  refine sectionOf_isOk (hleads .groupId) fun name sub hsub c => ?_
  unfold setSection
  split_ifs with h h h
  · subst h
    exact stored_isOk (projectOf_isOk (leads_cons (hleads .projectName) hsub)
      (hvalue hsub (hread .projectName)))
  · subst h
    have hdatasource : Readable datasourceOf (sub.at? ["datasource"]) := by
      cases hinner : sub.entries.lookup "datasource" with
      | none =>
          rw [Tree.at?, hinner]
          trivial
      | some d =>
          rw [at?_cons hinner]
          have hbelow : ∀ {path}, sub.at? ("datasource" :: path) = d.at? path := at?_cons hinner
          refine datasourceOf_isOk
            (leads_cons (leads_cons (hleads .datasourceUrl) hsub) hinner) ?_ ?_ ?_
          · exact hbelow ▸ hvalue hsub (hread .datasourceUrl)
          · exact hbelow ▸ hvalue hsub (hread .datasourceUsername)
          · exact hbelow ▸ hvalue hsub (hread .datasourcePassword)
    have hleadsDatasource : sub.Leads ["datasource"] := by
      obtain ⟨source, es, rfl, hes, -⟩ := leads_cons (hleads .groupId) hsub
      exact ⟨source, es, rfl, hes, fun _ _ => trivial⟩
    exact stored_isOk (backendOf_isOk hleadsDatasource (hvalue hsub (hread .groupId))
      (hvalue hsub (hread .javaVersion)) (hvalue hsub (hread .springBootVersion))
      (hvalue hsub (hread .serverPort)) (hvalue hsub (hread .database)) hdatasource)
  · subst h
    exact stored_isOk (frontendOf_isOk (leads_cons (hleads .title) hsub)
      (hvalue hsub (hread .apiBaseUrl)) (hvalue hsub (hread .devPort))
      (hvalue hsub (hread .title)))
  · exact ⟨c, rfl⟩

/-- Settings are the same if they are the same key by key. -/
theorem ext_of_keys {c c' : Settings} (h : ∀ k : Key, k.get c = k.get c') : c = c' := by
  have htext : ∀ {x y : Option String}, x.map Setting.text = y.map Setting.text → x = y :=
    fun heq => Option.map_injective (fun _ _ => Setting.text.inj) heq
  obtain ⟨⟨name⟩, ⟨group, java, boot, port, database, ⟨url, username, password⟩⟩,
    ⟨apiUrl, devPort, title⟩⟩ := c
  obtain ⟨⟨name'⟩, ⟨group', java', boot', port', database', ⟨url', username', password'⟩⟩,
    ⟨apiUrl', devPort', title'⟩⟩ := c'
  obtain rfl : name = name' := htext (h .projectName)
  obtain rfl : url = url' := htext (h .datasourceUrl)
  obtain rfl : title = title' := htext (h .title)
  cases h .groupId
  cases h .javaVersion
  cases h .springBootVersion
  cases h .serverPort
  cases h .database
  cases h .datasourceUsername
  cases h .datasourcePassword
  cases h .apiBaseUrl
  cases h .devPort
  rfl

/-- A layer with tables where sections are has these settings if and only if, for every key, they
are what the layer says. -/
theorem ofTree_eq_ok {t : Tree} (hleads : ∀ k : Key, t.Leads k.path) {c : Settings} :
    ofTree t = .ok c ↔ ∀ k : Key, k.Says (t.at? k.path) (k.get c) := by
  refine ⟨fun h k => says_of_ofTree h k (hleads k), fun h => ?_⟩
  obtain ⟨c', hc'⟩ := ofTree_isOk hleads fun k => by
    have hk := h k
    cases hfound : t.at? k.path with
    | none => trivial
    | some v =>
        rw [hfound] at hk
        obtain ⟨s, hs, -⟩ := hk
        exact ⟨s, hs⟩
  have hsame : c = c' := ext_of_keys fun k => by
    have hk := h k
    have hk' := says_of_ofTree hc' k (hleads k)
    cases hfound : t.at? k.path with
    | none =>
        rw [hfound] at hk hk'
        exact hk.trans hk'.symm
    | some v =>
        rw [hfound] at hk hk'
        obtain ⟨s, hs, hx⟩ := hk
        obtain ⟨s', hs', hx'⟩ := hk'
        rw [hx, hx', Except.ok.inj (hs.symm.trans hs')]
  exact hsame ▸ hc'

end CrudStack.Settings
