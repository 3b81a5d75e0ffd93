import Dataset.Proofs.Config.Sections

/-!
# What configuration files state

A configuration file is a JSON object with the sections `server` and `database`. What it states is said
value by value: by the one text that the value has in its section, or not at all, where the section or the
value is missing or `null`. Names that mean nothing say nothing.

* `serverSlots`, `databaseSlots`, `documentSlots`: the values of the sections, and the sections;
* `SectionGiven`: a section that may be missing or `null`, with its members, of which it then has none;
* `Layer`, `flatten`: what settings say, value by value;
* `FileMembers`, `Gives`: the texts of a file and of its sections, member by member, and what these state;
* `States`: a text is a configuration file that states a layer;
* **`states_iff`**: exactly the texts that state a layer are read, as settings that say it.
-/

namespace Dataset.Config

open Settings (Document)
open Json (Reads Stated Folds Value MembersText KeyText StringText NaturalText Blank)
open Dataset.Filter (named)

/-! ## 1. The slots of a file -/

variable {σ : Type}

/-- A value that is a text. -/
def textSlot (name : String) (get : σ → Option String) (keep : Option String → σ → σ)
    (get_keep : ∀ v t, get (keep v t) = v) : Slot σ :=
  ⟨name, String, Json.readText, StringText, get, keep, Json.reads_readText,
    fun _ _ text => text.definite, get_keep⟩

/-- A value that is a natural number up to a bound. -/
def numberSlot (name : String) {max : Nat} (small : max ≤ Json.maxSignificand) (kind : String)
    (get : σ → Option Nat) (keep : Option Nat → σ → σ) (get_keep : ∀ v t, get (keep v t) = v) :
    Slot σ :=
  ⟨name, Nat, Json.readNatural max kind, NaturalText max, get, keep, Json.reads_readNatural small kind,
    fun _ _ text => text.definite, get_keep⟩

/-- The values of the section about the server. -/
def serverSlots : List (Slot ServerSettings) :=
  [textSlot "host" (·.host) (fun v t => { t with host := v }) fun _ _ => rfl,
   numberSlot "port" (by decide : Nat.pow 2 16 - 1 ≤ _) "u16" (·.port) (fun v t => { t with port := v })
     fun _ _ => rfl]

/-- The values of the section about the database. -/
def databaseSlots : List (Slot DatabaseSettings) :=
  [textSlot "path" (·.path) (fun v t => { t with path := v }) fun _ _ => rfl,
   textSlot "table" (·.table) (fun v t => { t with table := v }) fun _ _ => rfl,
   numberSlot "max_connections" (by decide : Nat.pow 2 32 - 1 ≤ _) "u32" (·.maxConnections)
     (fun v t => { t with maxConnections := v }) fun _ _ => rfl,
   numberSlot "acquire_timeout_secs" (by decide : Nat.pow 2 64 - 1 ≤ _) "u64" (·.acquireTimeout)
     (fun v t => { t with acquireTimeout := v }) fun _ _ => rfl,
   numberSlot "busy_timeout_secs" (by decide : Nat.pow 2 64 - 1 ≤ _) "u64" (·.busyTimeout)
     (fun v t => { t with busyTimeout := v }) fun _ _ => rfl]

theorem makeUp_serverSlots : MakeUp serverSlots .none where
  nodup := by decide
  kept := by
    intro f hf g hg differs v t
    simp only [serverSlots, List.mem_cons, List.not_mem_nil, or_false] at hf hg
    rcases hf with rfl | rfl <;> rcases hg with rfl | rfl <;>
      first | exact absurd rfl differs | rfl
  empty := by
    simp only [serverSlots, List.forall_mem_cons]
    exact ⟨rfl, rfl, nofun⟩
  whole := by
    intro t u same
    simp only [serverSlots, List.forall_mem_cons] at same
    obtain ⟨host, port, -⟩ := same
    cases t
    cases u
    congr

theorem makeUp_databaseSlots : MakeUp databaseSlots .none where
  nodup := by decide
  kept := by
    intro f hf g hg differs v t
    simp only [databaseSlots, List.mem_cons, List.not_mem_nil, or_false] at hf hg
    rcases hf with rfl | rfl | rfl | rfl | rfl <;> rcases hg with rfl | rfl | rfl | rfl | rfl <;>
      first | exact absurd rfl differs | rfl
  empty := by
    simp only [databaseSlots, List.forall_mem_cons]
    exact ⟨rfl, rfl, rfl, rfl, rfl, nofun⟩
  whole := by
    intro t u same
    simp only [databaseSlots, List.forall_mem_cons] at same
    obtain ⟨path, table, maxConnections, acquireTimeout, busyTimeout, -⟩ := same
    cases t
    cases u
    congr

theorem field_serverSlots : serverSlots.map Slot.field = Settings.serverFields := rfl

theorem field_databaseSlots : databaseSlots.map Slot.field = Settings.databaseFields := rfl

/-- Exactly the texts of a section about the server are read as one. -/
theorem reads_serverSection (name : String) :
    Reads (Settings.readSection name Settings.serverFields .none) (SectionText serverSlots) :=
  field_serverSlots ▸ reads_readSection name makeUp_serverSlots

/-- Exactly the texts of a section about the database are read as one. -/
theorem reads_databaseSection (name : String) :
    Reads (Settings.readSection name Settings.databaseFields .none) (SectionText databaseSlots) :=
  field_databaseSlots ▸ reads_readSection name makeUp_databaseSlots

/-- The sections of a file. -/
def documentSlots : List (Slot Document) :=
  [⟨"server", ServerSettings, Settings.readSection "ServerFileConfig" Settings.serverFields .none,
      SectionText serverSlots, (·.settings.server),
      fun v d => { d with settings := { d.settings with server := v } },
      reads_serverSection _,
      fun _ _ text => text.definite, fun _ _ => rfl⟩,
    ⟨"database", DatabaseSettings,
      Settings.readSection "DatabaseFileConfig" Settings.databaseFields .none,
      SectionText databaseSlots, (·.settings.database),
      fun v d => { d with settings := { d.settings with database := v } },
      reads_databaseSection _,
      fun _ _ text => text.definite, fun _ _ => rfl⟩]

theorem field_documentSlots : documentSlots.map Slot.field = Settings.documentFields := rfl

theorem apart_documentSlots : Apart documentSlots where
  nodup := by decide
  kept := by
    intro f hf g hg differs v t
    simp only [documentSlots, List.mem_cons, List.not_mem_nil, or_false] at hf hg
    rcases hf with rfl | rfl <;> rcases hg with rfl | rfl <;>
      first | exact absurd rfl differs | rfl

/-! ## 2. Sections that may be missing -/

/-- The texts of a section that may be missing or `null`, with the texts of its members, of which it has
    none then. -/
inductive SectionGiven (names : List String) :
    List (List Char) → List (String × List Char) → Prop where
  | missing : SectionGiven names [] []
  | null : SectionGiven names [['n', 'u', 'l', 'l']] []
  | given {p : List Char} {ms : List (String × List Char)} : SectionMembers names p ms →
      SectionGiven names [p] ms

variable {slots : List (Slot σ)} {ps : List (List Char)}

/-- A section that is stated says what its members state. -/
theorem exists_given_of_stated {o : Option σ} (stated : Stated (SectionText slots) o ps) :
    ∃ ms, SectionGiven (slots.map Slot.name) ps ms ∧
      ∀ f ∈ slots, Stated f.Text (o.bind f.get) (named f.name ms) := by
  cases stated with
  | missing => exact ⟨[], .missing, fun f _ => .missing⟩
  | once text =>
    cases text with
    | null => exact ⟨[], .null, fun f _ => .missing⟩
    | given text =>
      obtain ⟨ms, members, each⟩ := text
      exact ⟨ms, .given members, each⟩

/-- Members that state something are those of a section that is stated. -/
theorem exists_stated_of_given (slots : List (Slot σ)) {t : σ} {ms : List (String × List Char)}
    (given : SectionGiven (slots.map Slot.name) ps ms)
    (each : ∀ f ∈ slots, Stated f.Text (f.get t) (named f.name ms)) :
    ∃ o, Stated (SectionText slots) o ps ∧ ∀ f ∈ slots, o.bind f.get = f.get t := by
  have nothing (none_given : ms = []) : ∀ f ∈ slots, none = f.get t := by
    intro f among
    have stated := each f among
    rw [none_given] at stated
    exact Stated.unique f.reads f.definite .missing stated
  cases given with
  | missing => exact ⟨none, .missing, nothing rfl⟩
  | null => exact ⟨none, .once .null, nothing rfl⟩
  | given members => exact ⟨some t, .once (.given ⟨ms, members, each⟩), fun _ _ => rfl⟩

/-! ## 3. Files -/

/-- The values that a configuration file may give, each `none` where the file leaves it out. -/
structure Layer where
  host : Option String
  port : Option Nat
  path : Option String
  table : Option String
  maxConnections : Option Nat
  acquireTimeout : Option Nat
  busyTimeout : Option Nat
  deriving DecidableEq, Repr

/-- What settings say, whether a section is missing or says nothing. -/
def flatten (s : Settings) : Layer :=
  ⟨s.server.bind (·.host), s.server.bind (·.port), s.database.bind (·.path), s.database.bind (·.table),
    s.database.bind (·.maxConnections), s.database.bind (·.acquireTimeout),
    s.database.bind (·.busyTimeout)⟩

/-- The names of the values in the section about the server. -/
def serverNames : List String := ["host", "port"]

/-- The names of the values in the section about the database. -/
def databaseNames : List String :=
  ["path", "table", "max_connections", "acquire_timeout_secs", "busy_timeout_secs"]

/-- The brackets that may be open at once inside a value that means nothing. -/
def unknownDepth : Nat := 126

/-- `text` is the text of a JSON object with the members `ms`, whose "server" and "database" have the members
    `server` and `database`. A member of another name has any value with at most `unknownDepth` brackets open
    at once. -/
structure FileMembers (text : List Char) (ms server database : List (String × List Char)) : Prop where
  object : ∃ front p back, Blank front ∧ Blank back ∧ text = front ++ ('{' :: p ++ back) ∧
    MembersText KeyText true ms p
  server : SectionGiven serverNames (named "server" ms) server
  database : SectionGiven databaseNames (named "database" ms) database
  others : ∀ m ∈ ms, m.1 ∉ ["server", "database"] → ∃ v, Value unknownDepth v m.2

/-- The members `server` and `database` of the two sections state each value of the layer `l`. -/
structure Gives (l : Layer) (server database : List (String × List Char)) : Prop where
  host : Stated StringText l.host (named "host" server)
  port : Stated (NaturalText 65535) l.port (named "port" server)
  path : Stated StringText l.path (named "path" database)
  table : Stated StringText l.table (named "table" database)
  maxConnections :
    Stated (NaturalText 4294967295) l.maxConnections (named "max_connections" database)
  acquireTimeout :
    Stated (NaturalText 18446744073709551615) l.acquireTimeout (named "acquire_timeout_secs" database)
  busyTimeout :
    Stated (NaturalText 18446744073709551615) l.busyTimeout (named "busy_timeout_secs" database)

/-- `text` is a configuration file whose sections give the layer `l`. -/
def States (text : List Char) (l : Layer) : Prop :=
  ∃ ms server database, FileMembers text ms server database ∧ Gives l server database

/-- The part of a layer that is about the server. -/
def Layer.server (l : Layer) : ServerSettings := ⟨l.host, l.port⟩

/-- The part of a layer that is about the database. -/
def Layer.database (l : Layer) : DatabaseSettings :=
  ⟨l.path, l.table, l.maxConnections, l.acquireTimeout, l.busyTimeout⟩

theorem Layer.eq_of_sections {l l' : Layer} (server : l.server = l'.server)
    (database : l.database = l'.database) : l = l' := by
  obtain ⟨host, port⟩ := ServerSettings.mk.inj server
  obtain ⟨path, table, maxConnections, acquireTimeout, busyTimeout⟩ := DatabaseSettings.mk.inj database
  cases l
  cases l'
  congr

/-- The values of a layer are those of the slots. -/
theorem gives_iff_slots {l : Layer} {server database : List (String × List Char)} :
    Gives l server database ↔
      (∀ f ∈ serverSlots, Stated f.Text (f.get l.server) (named f.name server)) ∧
        ∀ f ∈ databaseSlots, Stated f.Text (f.get l.database) (named f.name database) := by
  simp only [serverSlots, databaseSlots, List.forall_mem_cons]
  constructor
  · rintro ⟨host, port, path, table, maxConnections, acquireTimeout, busyTimeout⟩
    exact ⟨⟨host, port, nofun⟩, path, table, maxConnections, acquireTimeout, busyTimeout, nofun⟩
  · rintro ⟨⟨host, port, -⟩, path, table, maxConnections, acquireTimeout, busyTimeout, -⟩
    exact ⟨host, port, path, table, maxConnections, acquireTimeout, busyTimeout⟩

theorem get_flatten_server (s : Settings) :
    ∀ f ∈ serverSlots, f.get (flatten s).server = s.server.bind f.get := by
  simp only [serverSlots, List.forall_mem_cons]
  exact ⟨rfl, rfl, nofun⟩

theorem get_flatten_database (s : Settings) :
    ∀ f ∈ databaseSlots, f.get (flatten s).database = s.database.bind f.get := by
  simp only [databaseSlots, List.forall_mem_cons]
  exact ⟨rfl, rfl, rfl, rfl, rfl, nofun⟩

/-! ## 4. Reading -/

/-- A member `key` that no field reads: its value is put into `unknown`. -/
def Kept (key : String) (d : Document) (p : List Char) (d' : Document) : Prop :=
  ∃ v, Value unknownDepth v p ∧ d' = { d with unknown := Json.insertSorted key v d.unknown }

theorem reads_keepMember (key : String) (d : Document) :
    Reads (Settings.keepMember key d) fun d' p => Kept key d p d' := by
  have reads := (Json.reads_readValue unknownDepth).map fun v =>
    { d with unknown := Json.insertSorted key v d.unknown }
  constructor
  · intro s rest d' h
    obtain ⟨w, p, blank, split, v, same, text⟩ := reads.sound h
    exact ⟨w, p, blank, split, v, text, same⟩
  · intro w p rest d' blank kept ends
    obtain ⟨v, text, same⟩ := kept
    exact reads.complete blank ⟨v, same, text⟩ ends

theorem leaves_kept : Leaves documentSlots Kept := by
  intro f among key d p d' kept
  obtain ⟨v, -, rfl⟩ := kept
  simp only [documentSlots, List.mem_cons, List.not_mem_nil, or_false] at among
  rcases among with rfl | rfl <;> rfl

/-- An object is read as what its members make of a document without anything. -/
theorem reads_readDocument :
    Reads Settings.readDocument fun d p => ∃ ms q met, p = '{' :: q ∧ MembersText KeyText true ms q ∧
      Folds (Moves documentSlots Kept) ⟨⟨.none, []⟩, []⟩ ms ⟨d, met⟩ where
  sound {s rest d} h := by
    unfold Settings.readDocument at h
    split at h
    · rename_i tail start
      obtain ⟨w, blank, rfl⟩ := Json.of_skipSpace start
      obtain ⟨⟨r, rest'⟩, folded, done⟩ := exists_ok_of_bind h
      obtain ⟨rfl, rfl⟩ := Prod.mk.inj (Except.ok.inj done)
      obtain ⟨ms, p, rfl, members, folds⟩ :=
        Json.foldMembers_sound (reads_readMember apart_documentSlots.nodup reads_keepMember) folded
      exact ⟨w, '{' :: p, blank, rfl, ms, p, r.met, rfl, members, folds⟩
    · exact absurd h (Json.wrongKind_ne_ok _ _ _)
  complete {w p rest d} blank text ends := by
    obtain ⟨ms, q, met, rfl, members, folds⟩ := text
    have enough : q.length ≤ (q ++ rest).length + 1 := by
      rw [List.length_append]
      omega
    have folded := Json.foldMembers_complete
      (reads_readMember apart_documentSlots.nodup reads_keepMember) members rest folds enough
    rw [Settings.readDocument, List.cons_append, Json.skipSpace_append blank (by decide),
      ← field_documentSlots]
    simp only [folded, ok_bind]

variable {d : Document} {met : List String} {ms : List (String × List Char)}

/-- After all members the sections are what their texts state. -/
theorem sections_of_folds
    (folds : Folds (Moves documentSlots Kept) ⟨⟨.none, []⟩, []⟩ ms ⟨d, met⟩) :
    Stated (SectionText serverSlots) d.settings.server (named "server" ms) ∧
      Stated (SectionText databaseSlots) d.settings.database (named "database" ms) := by
  have each : ∀ f ∈ documentSlots, Stated f.Text (f.get d) (named f.name ms) := by
    intro f among
    refine states_of_folds apart_documentSlots leaves_kept folds among ?_
    simp only [documentSlots, List.mem_cons, List.not_mem_nil, or_false] at among
    rcases among with rfl | rfl <;> rfl
  simp only [documentSlots, List.forall_mem_cons] at each
  exact ⟨each.1, each.2.1⟩

/-- What was read states what its sections say. -/
theorem exists_gives_of_folds
    (folds : Folds (Moves documentSlots Kept) ⟨⟨.none, []⟩, []⟩ ms ⟨d, met⟩) :
    ∃ server database, SectionGiven serverNames (named "server" ms) server ∧
      SectionGiven databaseNames (named "database" ms) database ∧
      Gives (flatten d.settings) server database := by
  obtain ⟨stated, stated'⟩ := sections_of_folds folds
  obtain ⟨server, given, each⟩ := exists_given_of_stated stated
  obtain ⟨database, given', each'⟩ := exists_given_of_stated stated'
  refine ⟨server, database, given, given', gives_iff_slots.2 ⟨fun f among => ?_, fun f among => ?_⟩⟩
  · rw [get_flatten_server d.settings f among]
    exact each f among
  · rw [get_flatten_database d.settings f among]
    exact each' f among

/-- Members that state sections are read as settings with these. -/
theorem exists_folds_of_sections {server : Option ServerSettings} {database : Option DatabaseSettings}
    (stated : Stated (SectionText serverSlots) server (named "server" ms))
    (stated' : Stated (SectionText databaseSlots) database (named "database" ms))
    (others : ∀ m ∈ ms, m.1 ∉ ["server", "database"] → ∃ v, Value unknownDepth v m.2) :
    ∃ d met, Folds (Moves documentSlots Kept) ⟨⟨.none, []⟩, []⟩ ms ⟨d, met⟩ ∧
      d.settings = ⟨server, database⟩ := by
  have sections : ∀ f ∈ documentSlots, (f.name ∈ ([] : List String) → named f.name ms = []) ∧
      ∃ v, Stated f.Text v (named f.name ms) := by
    simp only [documentSlots, List.forall_mem_cons]
    exact ⟨⟨nofun, server, stated⟩, ⟨nofun, database, stated'⟩, nofun⟩
  have kept : ∀ m ∈ ms, m.1 ∉ documentSlots.map Slot.name → ∀ d, ∃ d', Kept m.1 d m.2 d' := by
    intro m hm unknown d
    obtain ⟨v, text⟩ := others m hm unknown
    exact ⟨_, v, text, rfl⟩
  obtain ⟨⟨d, met⟩, folds⟩ := exists_folds Kept (a := ⟨⟨.none, []⟩, []⟩) sections kept
  obtain ⟨found, found'⟩ := sections_of_folds folds
  have sameServer : d.settings.server = server :=
    found.unique (reads_serverSection "") (fun _ _ text => text.definite) stated
  have sameDatabase : d.settings.database = database :=
    found'.unique (reads_databaseSection "") (fun _ _ text => text.definite) stated'
  exact ⟨d, met, folds, by rw [← sameServer, ← sameDatabase]⟩

/-- Members that state a layer are read as settings that say it. -/
theorem exists_folds_of_gives {text : List Char} {l : Layer} {server database : List (String × List Char)}
    (members : FileMembers text ms server database) (gives : Gives l server database) :
    ∃ d met, Folds (Moves documentSlots Kept) ⟨⟨.none, []⟩, []⟩ ms ⟨d, met⟩ ∧
      flatten d.settings = l := by
  obtain ⟨each, each'⟩ := gives_iff_slots.1 gives
  obtain ⟨o, stated, told⟩ := exists_stated_of_given serverSlots members.server each
  obtain ⟨o', stated', told'⟩ := exists_stated_of_given databaseSlots members.database each'
  obtain ⟨d, met, folds, same⟩ := exists_folds_of_sections stated stated' members.others
  refine ⟨d, met, folds, ?_⟩
  rw [same]
  apply Layer.eq_of_sections
  · exact makeUp_serverSlots.whole _ _ fun f among => (get_flatten_server _ f among).trans (told f among)
  · exact makeUp_databaseSlots.whole _ _ fun f among => (get_flatten_database _ f among).trans (told' f among)

/-- **Exactly the texts that state a layer are read, as settings that say it.** -/
theorem states_iff {text : String} {l : Layer} :
    States text.toList l ↔
      ∃ s unknown, Settings.parse text = .ok (s, unknown) ∧ flatten s = l := by
  constructor
  · rintro ⟨ms, server, database, members, gives⟩
    obtain ⟨d, met, folds, told⟩ := exists_folds_of_gives members gives
    obtain ⟨front, p, back, before, behind, split, object⟩ := members.object
    have read := reads_readDocument.document_ok_iff.2
      ⟨front, '{' :: p, back, before, behind, split, ms, p, met, rfl, object, folds⟩
    exact ⟨d.settings, _, by rw [Settings.parse, read, ok_bind], told⟩
  · rintro ⟨s, unknown, parsed, rfl⟩
    obtain ⟨d, read, done⟩ := exists_ok_of_bind parsed
    obtain ⟨rfl, rfl⟩ := Prod.mk.inj (Except.ok.inj done)
    obtain ⟨front, _, back, before, behind, split, ms, p, met, rfl, object, folds⟩ :=
      reads_readDocument.document_ok_iff.1 read
    obtain ⟨server, database, given, given', gives⟩ := exists_gives_of_folds folds
    have others : ∀ m ∈ ms, m.1 ∉ ["server", "database"] → ∃ v, Value unknownDepth v m.2 := by
      intro m hm unknown
      obtain ⟨_, _, v, text, -⟩ := exists_other_of_folds folds m hm unknown
      exact ⟨v, text⟩
    exact ⟨ms, server, database,
      ⟨⟨front, p, back, before, behind, split, object⟩, given, given', others⟩, gives⟩

end Dataset.Config
