import Dataset.Config.Basic
import Dataset.Proofs.Config.Files

/-!
# The layers of a configuration

A configuration is put together value by value: each value is the one that the uppermost layer says which
says it at all, and only the whole is checked. So a value that the program could not run with does no harm
in a layer below another one that says something better.

* `layered_assoc`: layers may be put together in any grouping; `flatten_layered`: value by value;
* `FileStates`: the layer that a file states which may be missing; `addFile_of_states`: it is laid over what
  is below it, and nothing else is (`exists_states_of_addFile`);
* `merged`: the configuration of what was said on the command line and of two layers; `Valid`: the program
  can run with it, which is what is checked (`check_ok_iff`);
* `Mute`, `Silent`: the texts of a value and of a section that say nothing; `LeavesOut`: what a layer
  lacks then;
* `Alike`: the names of values stand for the same in two lists of members, whatever else stands among them;
  files whose sections are alike state the same layers (`states_of_alike`);
* **`load_of_states`**: the configuration that is loaded.
-/

namespace Dataset

/-! ## 1. Layers over layers -/

theorem ServerSettings.layered_none (s : ServerSettings) : s.layered .none = s := by
  simp only [layered, ServerSettings.none, Option.or_none]

theorem ServerSettings.layered_assoc (a b c : ServerSettings) :
    (a.layered b).layered c = a.layered (b.layered c) := by
  simp only [layered, Option.or_assoc]

theorem DatabaseSettings.layered_none (s : DatabaseSettings) : s.layered .none = s := by
  simp only [layered, DatabaseSettings.none, Option.or_none]

theorem DatabaseSettings.layered_assoc (a b c : DatabaseSettings) :
    (a.layered b).layered c = a.layered (b.layered c) := by
  simp only [layered, Option.or_assoc]

namespace Settings

/-- Sections may be put together in any grouping if what they say may, and if a section that says nothing
    leaves what is above it. -/
theorem layeredSection_assoc {σ : Type} {layer : σ → σ → σ} {nothing : σ}
    (assoc : ∀ a b c, layer (layer a b) c = layer a (layer b c))
    (unit : ∀ a, layer a nothing = a) (a b c : Option σ) :
    layeredSection layer nothing (layeredSection layer nothing a b) c =
      layeredSection layer nothing a (layeredSection layer nothing b c) := by
  cases a with
  | none => rfl
  | some a =>
    cases b with
    | none => simp only [layeredSection, Option.getD_none, unit]
    | some b => simp only [layeredSection, Option.getD_some, assoc]

/-- **Layers may be put together in any grouping.** -/
theorem layered_assoc (a b c : Settings) : (a.layered b).layered c = a.layered (b.layered c) := by
  simp only [layered,
    layeredSection_assoc ServerSettings.layered_assoc ServerSettings.layered_none,
    layeredSection_assoc DatabaseSettings.layered_assoc DatabaseSettings.layered_none]

end Settings

namespace Config

open Json (Stated Blank)
open Dataset.Filter (named)

/-- Nothing stated. -/
def Layer.empty : Layer := ⟨none, none, none, none, none, none, none⟩

/-- The layer `upper` over `lower`: each value from `upper` if it is there. -/
def Layer.layered (upper lower : Layer) : Layer :=
  ⟨upper.host.or lower.host, upper.port.or lower.port, upper.path.or lower.path,
    upper.table.or lower.table, upper.maxConnections.or lower.maxConnections,
    upper.acquireTimeout.or lower.acquireTimeout, upper.busyTimeout.or lower.busyTimeout⟩

theorem Layer.layered_empty (l : Layer) : l.layered .empty = l := by simp only [layered, empty, Option.or_none]

theorem Layer.empty_layered (l : Layer) : Layer.empty.layered l = l := by simp only [layered, empty, Option.none_or]

/-- A value of a section over another is the value of the upper one, if that is there. -/
theorem bind_layeredSection {σ α : Type} {layer : σ → σ → σ} {nothing : σ} {get : σ → Option α}
    (value : ∀ s t, get (layer s t) = (get s).or (get t)) (empty : get nothing = none)
    (upper lower : Option σ) :
    (Settings.layeredSection layer nothing upper lower).bind get =
      (upper.bind get).or (lower.bind get) := by
  cases upper with
  | none => exact (Option.none_or).symm
  | some s =>
    rw [Settings.layeredSection, Option.bind_some, value, Option.bind_some]
    cases lower with
    | none => rw [Option.getD_none, empty, Option.bind_none]
    | some t => rw [Option.getD_some, Option.bind_some]

/-- **Settings over others say what the layers say over each other.** -/
theorem flatten_layered (s s' : Settings) : flatten (s.layered s') = (flatten s).layered (flatten s') := by
  have server {α : Type} {get : ServerSettings → Option α}
      (value : ∀ t u : ServerSettings, get (t.layered u) = (get t).or (get u))
      (empty : get .none = none) := bind_layeredSection value empty s.server s'.server
  have database {α : Type} {get : DatabaseSettings → Option α}
      (value : ∀ t u : DatabaseSettings, get (t.layered u) = (get t).or (get u))
      (empty : get .none = none) := bind_layeredSection value empty s.database s'.database
  rw [flatten, flatten, flatten, Layer.layered, Layer.mk.injEq]
  exact ⟨server (fun _ _ => rfl) rfl, server (fun _ _ => rfl) rfl, database (fun _ _ => rfl) rfl,
    database (fun _ _ => rfl) rfl, database (fun _ _ => rfl) rfl, database (fun _ _ => rfl) rfl,
    database (fun _ _ => rfl) rfl⟩

/-! ## 2. Files -/

/-- The file at a path, read in `t`, states the layer; without a path it is `Layer.empty`. -/
inductive FileStates (e : Environment) (t : FileTree) : Option String → Layer → Prop where
  | missing : FileStates e t none .empty
  | read {path text : String} {l : Layer} : t.readText? e.directory path = some text →
      States text.toList l → FileStates e t (some path) l

variable {e : Environment} {t : FileTree} {o : Overrides} {path : Option String} {l low up : Layer}

/-- A file that states a layer is laid over what is below it. -/
theorem addFile_of_states (states : FileStates e t path l) (below : Settings × List (List String)) :
    ∃ s warnings, addFile e t path below = .ok (s, warnings) ∧
      flatten s = l.layered (flatten below.1) := by
  cases states with
  | missing => exact ⟨below.1, below.2, rfl, (Layer.empty_layered _).symm⟩
  | @read path text l found states =>
    obtain ⟨s, unknown, parsed, rfl⟩ := states_iff.1 states
    have read : readFile e t path = .ok (s, unknown) := by
      rw [readFile, found]
      simp only [parsed]
    exact ⟨s.layered below.1, _, by rw [addFile, read, ok_bind], flatten_layered s below.1⟩

/-- A file is laid over what is below it only if it states a layer. -/
theorem exists_states_of_addFile {below added : Settings × List (List String)}
    (done : addFile e t path below = .ok added) : ∃ l, FileStates e t path l := by
  cases path with
  | none => exact ⟨.empty, .missing⟩
  | some path =>
    obtain ⟨⟨s, unknown⟩, read, -⟩ := exists_ok_of_bind done
    rw [readFile] at read
    split at read
    · cases read
    · rename_i text found
      split at read
      · rename_i r parsed
        obtain rfl := Except.ok.inj read
        exact ⟨flatten s, .read found (states_iff.2 ⟨s, unknown, parsed, rfl⟩)⟩
      · cases read

/-! ## 3. The whole -/

/-- The first value that is present. -/
def first? {α : Type} (values : List (Option α)) : Option α := values.findSome? id

/-- The configuration of the overrides `o` over the layer `up` over the layer `low`, with the default where
    none has a value. -/
def merged (e : Environment) (o : Overrides) (up low : Layer) : Config where
  host := (first? [o.host, up.host, low.host]).getD "127.0.0.1"
  port := (first? [o.port, up.port, low.port]).getD 4000
  path := first? [o.database, up.path.map e.expandPath, low.path.map e.expandPath]
  table := (first? [o.table, up.table, low.table]).getD "electric_cars"
  maxConnections := (first? [up.maxConnections, low.maxConnections]).getD 10
  acquireTimeout := (first? [up.acquireTimeout, low.acquireTimeout]).getD 30
  busyTimeout := (first? [up.busyTimeout, low.busyTimeout]).getD 30

/-- The conditions that `Config.check` checks of `c`. -/
structure Valid (c : Config) : Prop where
  host : c.host ≠ ""
  port : c.port ≠ 0
  table : Sql.isPlain c.table = true
  maxConnections : 1 ≤ c.maxConnections
  acquireTimeout : 1 ≤ c.acquireTimeout

/-- **A check passes exactly the configurations that the program can run with.** -/
theorem check_ok_iff (c : Config) : c.check = .ok () ↔ c.Valid := by
  rw [check]
  split_ifs with host port table maxConnections acquireTimeout
  · exact ⟨nofun, fun valid => absurd (String.isEmpty_iff.1 host) valid.host⟩
  · exact ⟨nofun, fun valid => absurd port valid.port⟩
  · exact ⟨nofun, fun valid => absurd valid.table (by simpa using table)⟩
  · exact ⟨nofun, fun valid => absurd valid.maxConnections (by omega)⟩
  · exact ⟨nofun, fun valid => absurd valid.acquireTimeout (by omega)⟩
  · have named : c.host ≠ "" := fun none => host (String.isEmpty_iff.2 none)
    refine ⟨fun _ => ⟨named, port, by simpa using table, ?_, ?_⟩, fun _ => rfl⟩ <;> omega

theorem first?_cons {α : Type} (v : Option α) (values : List (Option α)) :
    first? (v :: values) = v.or (first? values) := by
  cases v <;> rfl

theorem first?_nil {α : Type} : first? ([] : List (Option α)) = none := rfl

/-- The configuration of what was said on the command line and of one layer. -/
def assembled (e : Environment) (o : Overrides) (l : Layer) : Config :=
  ⟨(o.host.or l.host).getD default.host, (o.port.or l.port).getD default.port,
    o.database.or (l.path.map e.expandPath), (o.table.or l.table).getD default.table,
    l.maxConnections.getD default.maxConnections, l.acquireTimeout.getD default.acquireTimeout,
    l.busyTimeout.getD default.busyTimeout⟩

/-- Two layers are merged as the upper one over the lower one is. -/
theorem merged_eq (e : Environment) (o : Overrides) (up low : Layer) :
    merged e o up low = assembled e o (up.layered low) := by
  simp only [merged, assembled, Layer.layered, first?_cons, first?_nil, Option.or_none, Option.map_or,
    default]

/-- A missing section is as good as one that says nothing. -/
theorem ofLayers_eq (e : Environment) (o : Overrides) (s : Settings) :
    ofLayers e o s = assembled e o (flatten s) := by
  obtain ⟨server, database⟩ := s
  cases server <;> cases database <;> rfl

/-- What is loaded is the merged configuration, if it passes the check. -/
theorem load_eq (below : FileStates e t (profile? e t) low) (named : overlay e t o = .ok path)
    (above : FileStates e t path up) :
    (load e t o).1 = (merged e o up low).check.map fun _ => merged e o up low := by
  obtain ⟨s, warnings, added, stated⟩ := addFile_of_states below (.none, [])
  obtain ⟨s', warnings', added', stated'⟩ := addFile_of_states above (s, warnings)
  have whole : ofLayers e o s' = merged e o up low := by
    have nothing : low.layered (flatten .none) = low := low.layered_empty
    rw [ofLayers_eq, merged_eq, stated', stated, nothing]
  rw [load, added]
  simp only [named, added', whole]

/-! ## 4. What does not count -/

/-- There is no text of a value in `ps`, or only `null`. -/
def Mute (ps : List (List Char)) : Prop := ps = [] ∨ ps = [['n', 'u', 'l', 'l']]

/-- There is no text of a section in `ps`, or only `null` or an object without members. -/
def Silent (ps : List (List Char)) : Prop :=
  Mute ps ∨ ∃ w, Blank w ∧ ps = ['{' :: (w ++ ['}'])]

/-- What says nothing states nothing. -/
theorem eq_none_of_mute {α : Type} {G : α → List Char → Prop} {v : Option α} {ps : List (List Char)}
    (stated : Stated G v ps) (definite : ∀ a p, G a p → Json.Definite p) (mute : Mute ps) :
    v = none := by
  rcases mute with rfl | rfl
  · cases stated
    rfl
  · obtain ⟨-, text⟩ := Json.stated_cons_iff.1 stated
    generalize word : ['n', 'u', 'l', 'l'] = p at text
    cases text with
    | null => rfl
    | given text =>
      obtain ⟨c, rest, rfl, -, other⟩ := definite _ _ text
      exact absurd (List.cons.inj word).1.symm other

theorem stated_of_mute {α : Type} {G : α → List Char → Prop} {ps : List (List Char)} (mute : Mute ps) :
    Stated G none ps := by
  rcases mute with rfl | rfl
  · exact .missing
  · exact .once .null

/-- An object without members has none. -/
theorem members_of_blank {names : List String} {w : List Char} (blank : Blank w)
    {ms : List (String × List Char)} (members : SectionMembers names ('{' :: (w ++ ['}'])) ms) :
    ms = [] := by
  generalize text : '{' :: (w ++ ['}']) = p at members
  cases members with
  | array => cases (List.cons.inj text).1
  | @object _ s members _ =>
    obtain rfl : w ++ ['}'] = s := (List.cons.inj text).2
    have closes := Json.nextKey_close true blank []
    generalize rest : w ++ ['}'] = s at members closes
    cases members with
    | close => rfl
    | member lead _ _ _ _ =>
      rw [Json.nextKey_lead lead] at closes
      cases closes

/-- A section that says nothing has no members, and may be any that says nothing. -/
theorem sectionGiven_iff_of_silent {names : List String} {ps : List (List Char)} (silent : Silent ps)
    {ms : List (String × List Char)} : SectionGiven names ps ms ↔ ms = [] := by
  rcases silent with (rfl | rfl) | ⟨w, blank, rfl⟩
  · constructor
    · intro given
      cases given
      rfl
    · rintro rfl
      exact .missing
  · constructor
    · intro given
      generalize word : [['n', 'u', 'l', 'l']] = ps at given
      cases given with
      | missing => rfl
      | null => rfl
      | given members =>
        obtain rfl := (List.cons.inj word).1
        cases members
    · rintro rfl
      exact .null
  · constructor
    · intro given
      generalize text : ['{' :: (w ++ ['}'])] = ps at given
      cases given with
      | missing => rfl
      | null => rfl
      | given members =>
        obtain rfl := (List.cons.inj text).1
        exact members_of_blank blank members
    · rintro rfl
      exact .given (.object (.close blank) nofun)

/-- Each value of the layer `l` is `none` where the texts of its member are `Mute`, and so is a whole section
    of it where the texts of the section are `Silent`. -/
structure LeavesOut (l : Layer) (ms server database : List (String × List Char)) : Prop where
  wholeServer : Silent (named "server" ms) → l.server = .none
  wholeDatabase : Silent (named "database" ms) → l.database = .none
  host : Mute (named "host" server) → l.host = none
  port : Mute (named "port" server) → l.port = none
  path : Mute (named "path" database) → l.path = none
  table : Mute (named "table" database) → l.table = none
  maxConnections : Mute (named "max_connections" database) → l.maxConnections = none
  acquireTimeout : Mute (named "acquire_timeout_secs" database) → l.acquireTimeout = none
  busyTimeout : Mute (named "busy_timeout_secs" database) → l.busyTimeout = none

variable {text text' : List Char} {ms ms' server server' database database' : List (String × List Char)}

/-- **What is missing, `null` or in a section without members is not stated.** -/
theorem leavesOut_of_gives (members : FileMembers text ms server database)
    (gives : Gives l server database) : LeavesOut l ms server database where
  wholeServer silent := by
    obtain rfl := (sectionGiven_iff_of_silent silent).1 members.server
    exact makeUp_serverSlots.whole _ _ fun f among =>
      ((gives_iff_slots.1 gives).1 f among).unique f.reads f.definite
        (makeUp_serverSlots.empty f among ▸ .missing)
  wholeDatabase silent := by
    obtain rfl := (sectionGiven_iff_of_silent silent).1 members.database
    exact makeUp_databaseSlots.whole _ _ fun f among =>
      ((gives_iff_slots.1 gives).2 f among).unique f.reads f.definite
        (makeUp_databaseSlots.empty f among ▸ .missing)
  host mute := eq_none_of_mute gives.host (fun _ _ text => text.definite) mute
  port mute := eq_none_of_mute gives.port (fun _ _ text => text.definite) mute
  path mute := eq_none_of_mute gives.path (fun _ _ text => text.definite) mute
  table mute := eq_none_of_mute gives.table (fun _ _ text => text.definite) mute
  maxConnections mute := eq_none_of_mute gives.maxConnections (fun _ _ text => text.definite) mute
  acquireTimeout mute := eq_none_of_mute gives.acquireTimeout (fun _ _ text => text.definite) mute
  busyTimeout mute := eq_none_of_mute gives.busyTimeout (fun _ _ text => text.definite) mute

/-- Each of `names` has the same texts in `ms` and in `ms'`, or is `Mute` in both. -/
def Alike (names : List String) (ms ms' : List (String × List Char)) : Prop :=
  ∀ name ∈ names, named name ms = named name ms' ∨ Mute (named name ms) ∧ Mute (named name ms')

/-- Slots hold the same where their names stand for the same. -/
theorem stated_of_alike {σ : Type} {slots : List (Slot σ)} {t : σ}
    (alike : Alike (slots.map Slot.name) ms ms')
    (each : ∀ f ∈ slots, Stated f.Text (f.get t) (named f.name ms)) :
    ∀ f ∈ slots, Stated f.Text (f.get t) (named f.name ms') := by
  intro f among
  have stated := each f among
  rcases alike f.name (List.mem_map_of_mem among) with same | ⟨mute, mute'⟩
  · rw [← same]
    exact stated
  · rw [eq_none_of_mute stated f.definite mute]
    exact stated_of_mute mute'

/-- **A file states what another one does whose sections have the same values**, whatever else the two
    say. -/
theorem states_of_alike (gives : Gives l server database)
    (members : FileMembers text' ms' server' database') (alike : Alike serverNames server server')
    (alike' : Alike databaseNames database database') : States text' l := by
  obtain ⟨each, each'⟩ := gives_iff_slots.1 gives
  exact ⟨ms', server', database', members,
    gives_iff_slots.2 ⟨stated_of_alike alike each, stated_of_alike alike' each'⟩⟩

/-! ## 5. What is loaded -/

/-- **`load` gives `merged`, if this is `Valid`, and fails otherwise.** `low` is the layer that the profile
    states, `up` that of the file which `overlay` chooses. Files that come to the same `layered` layer load
    the same; a text `States` a layer exactly if `Settings.parse` reads it and `flatten` gives the layer; a
    layer lacks what the members leave out, members that are `Alike` state the same layer, and laying
    settings over others is associative. -/
theorem load_of_states (below : FileStates e t (profile? e t) low) (named : overlay e t o = .ok path)
    (above : FileStates e t path up) :
    (∀ c, (load e t o).1 = .ok c ↔ c = merged e o up low ∧ (merged e o up low).Valid) ∧
      (∀ t' path' low' up', FileStates e t' (profile? e t') low' → overlay e t' o = .ok path' →
        FileStates e t' path' up' → up'.layered low' = up.layered low → (load e t' o).1 = (load e t o).1) ∧
      (∀ (text : String) (l : Layer), States text.toList l ↔
        ∃ s unknown, Settings.parse text = .ok (s, unknown) ∧ flatten s = l) ∧
      (∀ text l ms server database, FileMembers text ms server database → Gives l server database →
        LeavesOut l ms server database ∧
          ∀ text' ms' server' database', FileMembers text' ms' server' database' →
            Alike serverNames server server' → Alike databaseNames database database' →
            States text' l) ∧
      ∀ a b c : Settings, (a.layered b).layered c = a.layered (b.layered c) := by
  have loaded := load_eq below named above
  refine ⟨fun c => ?_, fun t' path' low' up' below' named' above' same => ?_, fun _ _ => states_iff,
    fun text l ms server database members gives => ⟨leavesOut_of_gives members gives,
      fun text' ms' server' database' members' => states_of_alike gives members'⟩,
    Settings.layered_assoc⟩
  · rw [loaded, ← check_ok_iff]
    cases (merged e o up low).check with
    | ok => exact ⟨fun done => ⟨(Except.ok.inj done).symm, rfl⟩, fun done => congrArg _ done.1.symm⟩
    | error => exact ⟨nofun, fun done => nomatch done.2⟩
  · rw [loaded, load_eq below' named' above', merged_eq, merged_eq, same]

/-- Files for a run from the directory `/w` by a person at home in `/h`, whose profile says what the program
    could not run with. -/
def household : FileTree :=
  ⟨[(["h"], .directory), (["h", ".rowgate"], .directory),
    (["h", ".rowgate", "rowgate.json"], .file (.text
      "\x7b\"server\":\x7b\"host\":\"\",\"port\":0\x7d,\"database\":\x7b\"path\":\"~/cars.db\",\"table\":\"a b\"\x7d\x7d")),
    (["w"], .directory),
    (["w", "rowgate.json"], .file (.text
      "\x7b\"more\":[],\"server\":\x7b\"host\":\"::1\",\"port\":null\x7d,\"database\":\x7b\"table\":\"cars\"\x7d\x7d"))]⟩

/-- What the profile says does no harm where something better is said over it. -/
theorem load_of_states_household :
    (load ⟨"/h", "/w", []⟩ household ⟨none, some 80, none, none, none⟩).1 =
      .ok ⟨"::1", 80, some "/h/cars.db", "cars", 10, 30, 30⟩ := by
  have profile : profile? ⟨"/h", "/w", []⟩ household = some "/h/.rowgate/rowgate.json" := by
    decide +kernel
  have low : FileStates ⟨"/h", "/w", []⟩ household (profile? ⟨"/h", "/w", []⟩ household)
      ⟨some "", some 0, some "~/cars.db", some "a b", none, none, none⟩ := by
    rw [profile]
    exact .read rfl (states_iff.2
      ⟨⟨some ⟨some "", some 0⟩, some ⟨some "~/cars.db", some "a b", none, none, none⟩⟩, [],
        eq_ok_of_toOption (by decide +kernel), rfl⟩)
  have up : FileStates ⟨"/h", "/w", []⟩ household (some fileName)
      ⟨some "::1", none, none, some "cars", none, none, none⟩ :=
    .read rfl (states_iff.2
      ⟨⟨some ⟨some "::1", none⟩, some ⟨none, some "cars", none, none, none⟩⟩, ["more"],
        eq_ok_of_toOption (by decide +kernel), rfl⟩)
  have named : overlay ⟨"/h", "/w", []⟩ household ⟨none, some 80, none, none, none⟩ =
      .ok (some fileName) := by decide +kernel
  refine ((load_of_states low named up).1 _).2 ⟨by decide +kernel, ?_⟩
  exact ⟨by decide +kernel, by decide +kernel, by decide +kernel, by decide +kernel, by decide +kernel⟩

end Config

end Dataset
