import RdGateway.Server.CertificateProperties
import RdGateway.Server.ServeConfig
import RdGateway.Server.TuiProperties

/-!
# The names from the management interface to the certificate

The interface keeps a list of names and saves it; the server reads it at its start, adds the
names of its command line and its own, and serves a certificate for all of them.
-/

set_option autoImplicit false

namespace RdGateway.Server

open Wirekit RdGateway.Core

/-! ## What a key does to the configuration -/

/-- A key removes one name, or adds one that is new and not empty, or leaves the names. -/
inductive SanChange (names : Option (List String)) : Option (List String) → Prop where
  | same : SanChange names names
  | removed (index : Nat) : SanChange names (some ((names.getD []).eraseIdx index))
  | added {name : String} (typed : name ≠ "") (new : name ∉ names.getD []) :
      SanChange names (some (names.getD [] ++ [name]))

namespace App

structure Configures (app : App) (context : KeyContext) (next : App) : Prop where
  names : SanChange app.tls.sanNames next.tls.sanNames
  saved : next.savedTls = app.savedTls ∨ next.savedTls = some app.tls ∨ context.configWrite ≠ .written

variable {self : App}

theorem Configures.of_same {context : KeyContext} {next : App} (tls : next.tls = self.tls)
    (saved : next.savedTls = self.savedTls) : self.Configures context next :=
  ⟨tls ▸ .same, .inl saved⟩

theorem Configures.write (context : KeyContext) (statement : Statement) {shown : App → App}
    (tls : ∀ other, (shown other).tls = other.tls) (saved : ∀ other, (shown other).savedTls = other.savedTls) :
    self.Configures context (self.write context statement shown).2 := by
  have written := self.write_written context statement shown
  generalize self.write context statement shown = result at written
  cases written with
  | refused => exact .of_same rfl rfl
  | unread => exact .of_same rfl rfl
  | shown => exact .of_same (tls _) (saved _)

theorem Configures.withField {context : KeyContext} {dialog : DialogState} {index : Nat}
    {next : String → Outcome TuiError Unit × App} (configures : ∀ value, self.Configures context (next value).2) :
    self.Configures context (self.withField dialog index next).2 := by
  unfold App.withField
  split
  · exact configures _
  · exact .of_same rfl rfl
  · exact .of_same rfl rfl

theorem configures_delete (context : KeyContext) : self.Configures context (self.handleDeleteAction context).2 := by
  unfold handleDeleteAction
  split
  · split
    · exact .write context _ (fun _ => rfl) fun _ => rfl
    · exact .of_same rfl rfl
  · split
    · exact .write context _ (fun _ => rfl) fun _ => rfl
    · exact .of_same rfl rfl
  · dsimp only
    split
    · exact ⟨.removed _, .inl rfl⟩
    · exact .of_same rfl rfl
  · exact .of_same rfl rfl
  · exact .of_same rfl rfl

theorem configures_moveSelection (context : KeyContext) (delta : Int) :
    self.Configures context (self.moveSelection delta) := by
  unfold moveSelection
  split <;> exact .of_same rfl rfl

theorem configures_startAddDialog (context : KeyContext) : self.Configures context self.startAddDialog := by
  unfold startAddDialog
  split <;> exact .of_same rfl rfl

theorem configures_startAssignGroupDialog (context : KeyContext) :
    self.Configures context self.startAssignGroupDialog := by
  unfold startAssignGroupDialog
  split <;> exact .of_same rfl rfl

theorem configures_normal (configPath : String) (context : KeyContext) (action : NormalAction) :
    self.Configures context (self.handleNormalKey configPath context action).2 := by
  cases action with
  | move delta => exact configures_moveSelection context delta
  | add => exact configures_startAddDialog context
  | delete => exact configures_delete context
  | assignGroup =>
      dsimp only [handleNormalKey]
      split
      · exact configures_startAssignGroupDialog context
      · exact .of_same rfl rfl
  | refresh =>
      dsimp only [handleNormalKey]
      split
      · unfold refreshSessions
        split <;> exact .of_same rfl rfl
      · exact .of_same rfl rfl
  | setCertPath =>
      dsimp only [handleNormalKey]
      split <;> exact .of_same rfl rfl
  | setKeyPath =>
      dsimp only [handleNormalKey]
      split <;> exact .of_same rfl rfl
  | save =>
      dsimp only [handleNormalKey]
      split
      · unfold saveConfig
        split
        · exact ⟨.same, .inr (.inl rfl)⟩
        · next failed => exact ⟨.same, .inr (.inr (failed ▸ ConfigWrite.noConfusion))⟩
      · exact .of_same rfl rfl
  | quit => exact .of_same rfl rfl
  | nextTab => exact .of_same rfl rfl
  | prevTab => exact .of_same rfl rfl
  | nothing => exact .of_same rfl rfl

theorem configures_submitSan (context : KeyContext) (dialog : DialogState) :
    self.Configures context (self.submitSan dialog).2 := by
  refine .withField fun san => ?_
  split
  · exact .of_same rfl rfl
  · next typed =>
    dsimp only
    split
    · exact .of_same rfl rfl
    · next new => exact ⟨.added typed new, .inl rfl⟩

theorem configures_submitPath (context : KeyContext) (dialog : DialogState) (subject : String)
    {set : Option String → TlsConfig} (same : ∀ path, (set path).sanNames = self.tls.sanNames) :
    self.Configures context (self.submitPath dialog subject set).2 := by
  refine .withField fun path => ?_
  split
  · exact ⟨(same none) ▸ .same, .inl rfl⟩
  · exact ⟨(same (some path)) ▸ .same, .inl rfl⟩

theorem configures_submit (prims : PortalPrimitives) (context : KeyContext) :
    self.Configures context (self.submitDialog prims context).2 := by
  unfold submitDialog
  split
  · exact .of_same rfl rfl
  · next dialog _ =>
    split
    · refine .withField fun username => .withField fun password => ?_
      split
      · exact .of_same rfl rfl
      · exact .write context _ (fun _ => rfl) fun _ => rfl
    · refine .withField fun name => ?_
      split
      · exact .of_same rfl rfl
      · exact .write context _ (fun _ => rfl) fun _ => rfl
    · unfold submitAclRule
      split
      · exact .write context _ (fun _ => rfl) fun _ => rfl
      · exact .of_same rfl rfl
      · exact .of_same rfl rfl
    · unfold submitAssignGroup
      split
      · refine .withField fun groupName => ?_
        split
        · exact .write context _ (fun _ => rfl) fun _ => rfl
        · exact .of_same rfl rfl
      · exact .of_same rfl rfl
    · exact .of_same rfl rfl
    · exact configures_submitSan context dialog
    · exact configures_submitPath context dialog _ fun _ => rfl
    · exact configures_submitPath context dialog _ fun _ => rfl

theorem configures_key (prims : PortalPrimitives) (configPath : String) (context : KeyContext) (key : Key) :
    self.Configures context (self.handleKey prims configPath (context, key)).2 := by
  have moved {next : App} (configures : (self.meanwhile context).Configures context next) :
      self.Configures context next := ⟨configures.names, configures.saved⟩
  by_cases quits : key = .ctrlC
  · rw [quits]
    exact .of_same rfl rfl
  · rw [handleKey_of_ne self prims configPath context quits]
    split
    · exact moved (configures_normal configPath context _)
    · refine moved ?_
      cases key with
      | code code =>
          cases code with
          | enter => exact configures_submit prims context
          | _ => exact .of_same rfl rfl
      | _ => exact .of_same rfl rfl

end App

/-! ## Runs of keys -/

/-- Each name is listed once, and none is empty. -/
def Tidy (names : Option (List String)) : Prop := (names.getD []).Nodup ∧ "" ∉ names.getD []

instance (names : Option (List String)) : Decidable (Tidy names) := inferInstanceAs (Decidable (_ ∧ _))

theorem SanChange.tidy {names changed : Option (List String)} (change : SanChange names changed) (tidy : Tidy names) :
    Tidy changed := by
  obtain ⟨once, named⟩ := tidy
  cases change with
  | same => exact ⟨once, named⟩
  | removed index =>
      refine ⟨once.sublist (List.eraseIdx_sublist _ _), fun empty => named ?_⟩
      exact (List.eraseIdx_sublist _ _).subset empty
  | @added name typed new =>
      rw [Tidy, Option.getD_some]
      refine ⟨List.nodup_append.mpr ⟨once, List.nodup_singleton _, ?_⟩, fun empty => ?_⟩
      · intro other there last added same
        rw [List.mem_singleton.mp added] at same
        exact new (same ▸ there)
      · rcases List.mem_append.mp empty with old | last
        · exact named old
        · exact typed (List.mem_singleton.mp last).symm

theorem loadAll_tls {db : GatewayDatabase} {tls : TlsConfig} {stored : Bool} {context : App.LoadContext}
    {start : App} (loaded : (App.new db tls stored).loadAll context = .ok start) :
    start.tls = tls ∧ start.savedTls = if stored then some tls else none := by
  have read {app next : App} {index : Nat} {store : App → App} (taken : app.read context index store = .ok next)
      (keeps : ∀ other, (store other).tls = other.tls ∧ (store other).savedTls = other.savedTls) :
      next.tls = app.tls ∧ next.savedTls = app.savedTls := by
    unfold App.read at taken
    split at taken
    · cases taken
    · cases taken
      exact keeps _
  have groups {users : List User} {index : Nat} {app next : App}
      (taken : App.loadUserGroups context index users app = .ok next) :
      next.tls = app.tls ∧ next.savedTls = app.savedTls := by
    induction users generalizing app index with
    | nil => cases taken; exact ⟨rfl, rfl⟩
    | cons user rest ih =>
        obtain ⟨between, first, later⟩ := Outcome.bind_eq_ok.mp taken
        have here := read first fun _ => ⟨rfl, rfl⟩
        have there := ih later
        exact ⟨there.1.trans here.1, there.2.trans here.2⟩
  unfold App.loadAll at loaded
  obtain ⟨users, first, loaded⟩ := Outcome.bind_eq_ok.mp loaded
  obtain ⟨_, second, loaded⟩ := Outcome.bind_eq_ok.mp loaded
  obtain ⟨rules, third, loaded⟩ := Outcome.bind_eq_ok.mp loaded
  obtain ⟨sessions, fourth, loaded⟩ := Outcome.bind_eq_ok.mp loaded
  have one := read first fun _ => ⟨rfl, rfl⟩
  have two := read second fun _ => ⟨rfl, rfl⟩
  have three := read third fun _ => ⟨rfl, rfl⟩
  have four := read fourth fun _ => ⟨rfl, rfl⟩
  have five := groups loaded
  dsimp only at five
  rw [five.1, five.2, four.1, four.2, three.1, three.2, two.1, two.2, one.1, one.2]
  exact ⟨rfl, rfl⟩

/-- The list that is shown, and the one in the file. -/
structure TidyBoth (app : App) : Prop where
  shown : Tidy app.tls.sanNames
  file : ∀ saved, app.savedTls = some saved → Tidy saved.sanNames

theorem TidyBoth.handleKey {app : App} (tidy : TidyBoth app) (prims : PortalPrimitives) (configPath : String)
    {context : KeyContext} (key : Key) (written : context.configWrite = .written) :
    TidyBoth (app.handleKey prims configPath (context, key)).2 ∧
      (app.savedTls ≠ none → (app.handleKey prims configPath (context, key)).2.savedTls ≠ none) := by
  obtain ⟨names, file⟩ := app.configures_key prims configPath context key
  rcases file with same | saves | failed
  · rw [same]
    exact ⟨⟨names.tidy tidy.shown, same ▸ tidy.file⟩, id⟩
  · rw [saves]
    refine ⟨⟨names.tidy tidy.shown, fun saved holds => ?_⟩, fun _ => Option.some_ne_none _⟩
    rw [← Option.some.inj (saves.symm.trans holds)]
    exact tidy.shown
  · exact absurd written failed

theorem TidyBoth.run {app : App} (tidy : TidyBoth app) (prims : PortalPrimitives) (configPath : String)
    {events : List (KeyContext × Key)} (written : ∀ event ∈ events, event.1.configWrite = .written) :
    TidyBoth (stateAfter (App.handleKey prims configPath) app events) ∧
      (app.savedTls ≠ none → (stateAfter (App.handleKey prims configPath) app events).savedTls ≠ none) := by
  induction events generalizing app with
  | nil => exact ⟨tidy, id⟩
  | cons event rest ih =>
      obtain ⟨here, later⟩ := List.forall_mem_cons.mp written
      obtain ⟨next, kept⟩ := tidy.handleKey prims configPath event.2 here
      obtain ⟨last, keeps⟩ := ih next later
      exact ⟨last, fun there => keeps (kept there)⟩

/-- In every run of keys from a list without duplicates and empty names: the list stays so,
and so does the one in the file, if no write of it fails. A file that is there stays there. -/
theorem san_names_tidy (prims : PortalPrimitives) (configPath : String) {db : GatewayDatabase} {tls : TlsConfig}
    {stored : Bool} {context : App.LoadContext} {start : App}
    (loaded : (App.new db tls stored).loadAll context = .ok start) (tidy : Tidy tls.sanNames)
    (events : List (KeyContext × Key)) :
    Tidy (stateAfter (App.handleKey prims configPath) start events).tls.sanNames ∧
      ((∀ event ∈ events, event.1.configWrite = .written) →
        TidyBoth (stateAfter (App.handleKey prims configPath) start events) ∧
          (stored = true → (stateAfter (App.handleKey prims configPath) start events).savedTls ≠ none)) := by
  obtain ⟨same, saved⟩ := loadAll_tls loaded
  have begins : Tidy start.tls.sanNames := same ▸ tidy
  constructor
  · refine invariant_after (fun app : App => Tidy app.tls.sanNames) begins (fun app event here => ?_) events
    exact (app.configures_key prims configPath event.1 event.2).names.tidy here
  · intro written
    have both : TidyBoth start := by
      refine ⟨begins, fun kept holds => ?_⟩
      rw [saved] at holds
      split at holds
      · rwa [← Option.some.inj holds]
      · cases holds
    obtain ⟨last, keeps⟩ := both.run prims configPath written
    refine ⟨last, fun there => keeps ?_⟩
    rw [saved, if_pos there]
    exact Option.some_ne_none _

/-- A name is added and the configuration saved. -/
def sanKeys : List (KeyContext × Key) :=
  [.backTab, .code (.char 'a'), .code (.char 'x'), .code .enter, .code (.char 's')].map fun key => (.idle, key)

theorem san_names_tidy_saved :
    TidyBoth (stateAfter (App.handleKey knownHashes "rdg-gateway.toml") freshApp sanKeys) ∧
      (stateAfter (App.handleKey knownHashes "rdg-gateway.toml") freshApp sanKeys).savedTls ≠ none := by
  have none : Tidy freshApp.tls.sanNames := by decide
  have written : ∀ event ∈ sanKeys, event.1.configWrite = .written := by
    intro event member
    obtain ⟨key, _, rfl⟩ := List.mem_map.mp member
    rfl
  obtain ⟨both, kept⟩ := (san_names_tidy knownHashes "rdg-gateway.toml" freshApp_loaded none sanKeys).2 written
  exact ⟨both, kept rfl⟩

example : (stateAfter (App.handleKey knownHashes "rdg-gateway.toml") freshApp sanKeys).savedTls.map
    TlsConfig.sanNames = some (some ["x"]) := by
  decide +kernel

/-! ## The certificate -/

/-- How often a name stands in the certificate of a start: once if the file or the command
line asks for it, and as often as the machine and the server's own name bring it. -/
def servedCount (startup : Startup) (tls : TlsConfig) (args : ServeArgs) (name : String) : Nat :=
  let own := (machineSans startup.serverName startup.machine).count name
  if name ∈ tls.sanNames.getD [] ∨ name ∈ args.sanNames then max 1 own else own

theorem startup_count {startup : Startup} {tls : TlsConfig} {args : ServeArgs}
    (configured : startup.tls = applyOverrides tls args) (name : String) :
    startup.sanNames.count name = servedCount startup tls args name := by
  have custom : name ∈ startup.tls.sanNames.getD [] ↔ name ∈ tls.sanNames.getD [] ∨ name ∈ args.sanNames := by
    rw [configured]
    exact mem_customSans
  rw [Startup.sanNames, desiredSans_eq, count_foldl_pushNew, servedCount]
  exact if_congr custom rfl rfl

/-- In every history of starts: the certificate of a start is asked for, or was when its files
were written, with exactly the names of the configuration file, the command line and the
machine, those of the first two once. -/
theorem served_names_counted (json : SanJson) (startups : List Startup) {past later : List CertExchange}
    {exchange : CertExchange}
    (split : exchanges (loadOrGenerateCert json) .empty startups = past ++ exchange :: later)
    {file : ConfigFile} {args : ServeArgs} {tls : TlsConfig} (read : loadConfig file = some tls)
    (served : serveConfig file args = some exchange.event.tls) :
    (∀ name, exchange.event.sanNames.count name = servedCount exchange.event tls args name) ∧
      ∀ certPem keyPem, exchange.output = .reused certPem keyPem → Settled json past exchange.before →
        ∃ earlier ∈ past, ∃ generated, generationIn json earlier = some generated ∧
          generated.certPem = certPem ∧ generated.keyPem = keyPem ∧
          ∀ name, earlier.event.sanNames.count name = servedCount exchange.event tls args name := by
  have configured : exchange.event.tls = applyOverrides tls args := by
    rw [serveConfig, read] at served
    exact (Option.some.inj served).symm
  refine ⟨startup_count configured, fun certPem keyPem reused settled => ?_⟩
  have kept : FilesKept json past exchange.before :=
    history_invariant_before (FilesKept json) .start (fun _ _ startup kept => kept.step startup) split
  have taken : exchange = Exchange.of (loadOrGenerateCert json) exchange.before exchange.event :=
    mem_exchanges (split ▸ List.mem_append_right _ List.mem_cons_self)
  have rightly : ReusesRightly json past exchange := by
    rw [taken]
    exact kept.reuses settled exchange.event
  obtain ⟨_, _, earlier, member, generated, made, cert, key, same⟩ := rightly certPem keyPem reused
  refine ⟨earlier, member, generated, made, cert, key, fun name => ?_⟩
  rw [same.count_eq, startup_count configured]

/-- A start without a configuration file, for one name of the command line. -/
def namedArgs : ServeArgs := { sanNames := ["desk.example"], tlsCert := none, tlsKey := none }

def namedStartup (mark : UInt8) : Startup :=
  { sampleStartup "old.example" mark .saved with tls := applyOverrides defaultTls namedArgs }

theorem served_names_counted_restart :
    let first := Exchange.of (loadOrGenerateCert jsonStrings) .empty (namedStartup 1)
    let second := Exchange.of (loadOrGenerateCert jsonStrings) first.after (namedStartup 2)
    (∀ name, second.event.sanNames.count name = servedCount (namedStartup 2) defaultTls namedArgs name) ∧
      ∃ earlier ∈ [first], ∃ generated, generationIn jsonStrings earlier = some generated ∧
        generated.certPem = [1, 1] ∧ generated.keyPem = [1, 2] ∧
        ∀ name, earlier.event.sanNames.count name = servedCount (namedStartup 2) defaultTls namedArgs name := by
  intro first second
  have split : exchanges (loadOrGenerateCert jsonStrings) .empty [namedStartup 1, namedStartup 2] =
      [first] ++ second :: [] := rfl
  have read : loadConfig .missing = some defaultTls := rfl
  have served : serveConfig .missing namedArgs = some second.event.tls := rfl
  obtain ⟨counted, reuse⟩ := served_names_counted jsonStrings _ split read served
  have reused : second.output = .reused [1, 1] [1, 2] := by decide +kernel
  have settled : Settled jsonStrings [first] second.before := by
    intro touching last
    have member := (List.mem_filter.mp (List.mem_of_getLast? last)).1
    rw [List.mem_singleton.mp member]
    exact ⟨⟨rfl, rfl⟩, .inl rfl⟩
  exact ⟨counted, reuse _ _ reused settled⟩

end RdGateway.Server
