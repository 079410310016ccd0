import RdGateway.Server.TuiProperties

/-!
# What keys do to the database

The database refuses a key only for a name that is taken. A key changes the row that is
shown as selected and no other, and its rules are for everyone.
-/

set_option autoImplicit false

namespace RdGateway.Server

open Wirekit RdGateway.Core

/-! ## Refusals -/

/-- Neither a statement of the key nor the write of the configuration fails. -/
structure KeyContext.Works (context : KeyContext) : Prop where
  write : context.writeFailure = none
  read : context.readFailure = none
  config : context.configWrite = .written

/-- The open dialog asks for a name that is stored already. -/
def App.TakenName (self : App) (db : GatewayDatabase) : Prop :=
  ∃ dialog name, self.dialog = some dialog ∧ dialog.fieldValue 0 = .ok name ∧
    ((self.inputMode = .addUser ∧ name ∈ db.users.rows.map User.username) ∨
      (self.inputMode = .addGroup ∧ name ∈ db.groups.rows.map Group.name))

theorem App.Shows.knows {self : App} (shows : self.Shows) {user : User}
    (shown : self.users[self.userIndex]? = some user) : self.db.users.HasId user.id := by
  obtain ⟨row, stored, same, _⟩ := shows.users user (List.mem_of_getElem? shown)
  exact ⟨row, stored, same⟩

/-- The constraints on rules and memberships always hold. -/
theorem App.Sends.refused {self : App} (sound : self.Sound) {statement : Statement} (sends : self.Sends statement)
    (none : self.db.exec statement = none) : self.TakenName self.db := by
  cases sends with
  | setUserEnabled => cases none
  | deleteAclRule => cases none
  | createUser ntHash mode opened typed =>
      exact ⟨_, _, opened, typed, .inl ⟨mode, GatewayDatabase.insertUser_eq_none none⟩⟩
  | createGroup mode opened typed =>
      exact ⟨_, _, opened, typed, .inr ⟨mode, GatewayDatabase.createGroup_eq_none none⟩⟩
  | createAclRule user group action =>
      obtain ⟨later, created⟩ := @GatewayDatabase.createAclRule_isSome self.db _ user group action
      rw [GatewayDatabase.exec, created] at none
      cases none
  | @addUserToGroup user group shown listed =>
      have stored := sound.shows.groups group listed
      obtain ⟨later, added⟩ := GatewayDatabase.addUserToGroup_isSome (sound.shows.knows shown) ⟨group, stored, rfl⟩
      rw [GatewayDatabase.exec, added] at none
      cases none

theorem App.Pressed.failed {self : App} {context : KeyContext} {result : Outcome TuiError Unit × App}
    (pressed : self.Pressed context result) (sound : self.Sound) (works : context.Works)
    (failed : result.1 ≠ .ok ()) : self.TakenName self.db ∧ result.2.db = self.db := by
  cases pressed with
  | quiet => exact absurd rfl failed
  | unread error fails => exact absurd works.read fails
  | unsaved error fails => exact absurd works.config fails
  | sends sends written =>
      cases written with
      | refused error unwritten => exact ⟨sends.refused sound (unwritten works.write), rfl⟩
      | unread error fails => exact absurd works.read fails
      | shown => exact absurd rfl failed

/-! ## The selected row -/

/-- The database that the first statement of the key finds. -/
def found (exchange : KeyExchange) : GatewayDatabase :=
  exchange.before.db.run exchange.event.1.earlier

/-- One statement of the key and what other processes did behind it. -/
def Executes (exchange : KeyExchange) (statement : Statement) (db : GatewayDatabase) : Prop :=
  (found exchange).exec statement = some db ∧ exchange.after.db = db.run exchange.event.1.between

def Deletes (exchange : KeyExchange) (tab : ActiveTab) : Prop :=
  exchange.event.2 = .code (.char 'd') ∧ exchange.before.inputMode = .normal ∧ exchange.before.activeTab = tab

def Submits (exchange : KeyExchange) (mode : InputMode) (dialog : DialogState) : Prop :=
  exchange.event.2 = .code .enter ∧ exchange.before.inputMode = mode ∧ exchange.before.dialog = some dialog

/-- The row with the id and the name that are shown is switched to the opposite of what is
shown, and no other row changes. -/
def SwitchesShown (exchange : KeyExchange) (user : User) : Prop :=
  ∃ db row, Executes exchange (.setUserEnabled user.id !user.enabled) db ∧ row.username = user.username ∧
    rowAt User.id (found exchange).users.rows user.id = some row ∧
    rowAt User.id db.users.rows =
      (rowAt User.id (found exchange).users.rows).insert user.id { row with enabled := !user.enabled }

/-- Of the stored rules exactly the one that is shown goes, if it is still there. -/
def DeletesShown (exchange : KeyExchange) (rule : AclRule) : Prop :=
  ∃ db, Executes exchange (.deleteAclRule rule.id) db ∧
    ∀ row, row ∈ db.aclRules.rows ↔ row ∈ (found exchange).aclRules.rows ∧ row ≠ rule

/-- The user that is shown becomes a member of the group with the selected name. -/
def AssignsShown (exchange : KeyExchange) (user : User) (dialog : DialogState) : Prop :=
  ∃ db row group, Executes exchange (.addUserToGroup user.id group.id) db ∧ row.username = user.username ∧
    rowAt User.id (found exchange).users.rows user.id = some row ∧ dialog.fieldValue 0 = .ok group.name ∧
    group ∈ (found exchange).groups.rows ∧ group ∈ exchange.after.db.getUserGroups user.id

namespace App

variable {self : App}

theorem Shows.row (shows : self.Shows) {user : User} (shown : self.users[self.userIndex]? = some user) :
    ∃ row, rowAt User.id self.db.users.rows user.id = some row ∧ row.username = user.username := by
  obtain ⟨row, stored, same, name⟩ := shows.users user (List.mem_of_getElem? shown)
  exact ⟨row, by rw [← same]; exact rowAt_of_mem self.db.userIds stored, name⟩

theorem Written.executes {context : KeyContext} {statement : Statement} {shown : App → App}
    {result : Outcome TuiError Unit × App} {db : GatewayDatabase}
    (written : self.Written context statement shown result)
    (same : ∀ other, (shown other).db = other.db) (works : context.writeFailure = none)
    (executed : self.db.exec statement = some db) : result.2.db = db.run context.between := by
  cases written with
  | refused error unwritten =>
      rw [unwritten works] at executed
      cases executed
  | unread error fails other =>
      rw [executed] at other
      cases other
      rfl
  | shown other =>
      rw [executed] at other
      cases other
      exact same _

/-- A statement that writes, and something that only changes what is shown. -/
def Sending (self : App) (context : KeyContext) (statement : Statement) (result : Outcome TuiError Unit × App) :
    Prop :=
  ∃ shown : App → App, (∀ other, (shown other).db = other.db) ∧ result = self.write context statement shown

theorem Sending.executes {context : KeyContext} {statement : Statement} {result : Outcome TuiError Unit × App}
    (sending : self.Sending context statement result) (works : context.writeFailure = none)
    {db : GatewayDatabase} (executed : self.db.exec statement = some db) :
    result.2.db = db.run context.between := by
  obtain ⟨shown, same, rfl⟩ := sending
  exact (self.write_written context statement shown).executes same works executed

theorem handleDeleteAction_user {context : KeyContext} {user : User} (tab : self.activeTab = .users)
    (shown : self.users[self.userIndex]? = some user) :
    self.Sending context (.setUserEnabled user.id !user.enabled) (self.handleDeleteAction context) := by
  rw [App.handleDeleteAction, tab]
  dsimp only
  rw [shown]
  refine ⟨_, ?_, rfl⟩
  exact fun _ => rfl

theorem handleDeleteAction_rule {context : KeyContext} {rule : AclRule} (tab : self.activeTab = .aclRules)
    (shown : self.aclRules[self.aclIndex]? = some rule) :
    self.Sending context (.deleteAclRule rule.id) (self.handleDeleteAction context) := by
  rw [App.handleDeleteAction, tab]
  dsimp only
  rw [shown]
  refine ⟨_, ?_, rfl⟩
  exact fun _ => rfl

theorem submitDialog_member {prims : PortalPrimitives} {context : KeyContext} {dialog : DialogState} {user : User}
    {group : Group} (mode : self.inputMode = .assignGroup) (opened : self.dialog = some dialog)
    (shown : self.users[self.userIndex]? = some user) (selected : dialog.fieldValue 0 = .ok group.name)
    (named : (self.groups.find? fun other => other.name = group.name) = some group) :
    self.Sending context (.addUserToGroup user.id group.id) (self.submitDialog prims context) := by
  rw [App.submitDialog, opened, mode]
  dsimp only
  rw [App.submitAssignGroup, shown]
  dsimp only
  rw [App.withField, selected]
  dsimp only
  rw [named]
  refine ⟨_, ?_, rfl⟩
  exact fun _ => rfl

theorem handleKey_delete (prims : PortalPrimitives) (configPath : String) (context : KeyContext)
    (normal : self.inputMode = .normal) :
    self.handleKey prims configPath (context, .code (.char 'd')) =
      (self.meanwhile context).handleDeleteAction context := by
  rw [handleKey_of_ne self prims configPath context (by intro same; cases same), if_pos normal]
  rfl

theorem handleKey_enter (prims : PortalPrimitives) (configPath : String) (context : KeyContext)
    (opened : self.inputMode ≠ .normal) :
    self.handleKey prims configPath (context, .code .enter) =
      (self.meanwhile context).submitDialog prims context := by
  rw [handleKey_of_ne self prims configPath context (by intro same; cases same), if_neg opened]
  rfl

/-- The selected name is the name of a group that is shown. -/
theorem Sound.selectedGroup (sound : self.Sound) {dialog : DialogState} (mode : self.inputMode = .assignGroup)
    (opened : self.dialog = some dialog) :
    ∃ group ∈ self.groups, dialog.fieldValue 0 = .ok group.name ∧
      (self.groups.find? fun other => other.name = group.name) = some group := by
  have offers := sound.fits.offers dialog opened
  rw [mode] at offers
  obtain ⟨field, member, options, value⟩ := offers.fieldValue 0 rfl
  have some : self.groups.map Group.name ≠ [] :=
    fun none => sound.fits.selects mode (List.map_eq_nil_iff.mp none)
  have chosen : field.value ∈ self.groups.map Group.name :=
    options ▸ offers.chosen field member (by rw [options]; exact some)
  obtain ⟨named, listed, same⟩ := List.mem_map.mp chosen
  have there : (self.groups.find? fun other => other.name = field.value).isSome :=
    List.find?_isSome.mpr ⟨named, listed, decide_eq_true same⟩
  obtain ⟨group, found⟩ := Option.isSome_iff_exists.mp there
  have name : group.name = field.value := by simpa using List.find?_some found
  exact ⟨group, List.mem_of_find?_eq_some found, by rw [value, name], by rw [name]; exact found⟩

end App

section Selected

variable {self : App} (prims : PortalPrimitives) (configPath : String) {context : KeyContext}

theorem switches_shown (sound : (self.meanwhile context).Sound) (works : context.writeFailure = none)
    (normal : self.inputMode = .normal) (tab : self.activeTab = .users) {user : User}
    (shown : self.users[self.userIndex]? = some user) :
    SwitchesShown (Exchange.of (App.handleKey prims configPath) self (context, .code (.char 'd'))) user := by
  obtain ⟨row, stored, name⟩ := sound.shows.row shown
  refine ⟨(self.meanwhile context).db.setUserEnabled user.id !user.enabled, row, ⟨rfl, ?_⟩, name, stored, ?_⟩
  · have sending : (self.meanwhile context).Sending context _ _ := App.handleDeleteAction_user tab shown
    rw [Exchange.of, self.handleKey_delete prims configPath context normal]
    exact sending.executes works rfl
  · let switched (row : User) : User := { row with enabled := !user.enabled }
    have keeps (row : User) : (switched row).id = row.id := rfl
    exact (rowAt_map_updateRow keeps _).trans (Store.modify_eq_insert stored switched)

theorem deletes_shown (sound : (self.meanwhile context).Sound) (works : context.writeFailure = none)
    (normal : self.inputMode = .normal) (tab : self.activeTab = .aclRules) {rule : AclRule}
    (shown : self.aclRules[self.aclIndex]? = some rule) :
    DeletesShown (Exchange.of (App.handleKey prims configPath) self (context, .code (.char 'd'))) rule := by
  refine ⟨(self.meanwhile context).db.deleteAclRule rule.id, ⟨rfl, ?_⟩, fun row => ?_⟩
  · have sending : (self.meanwhile context).Sending context _ _ := App.handleDeleteAction_rule tab shown
    rw [Exchange.of, self.handleKey_delete prims configPath context normal]
    exact sending.executes works rfl
  · -- an id that is shown belongs to the rule that is shown, or to none any more
    refine List.mem_filter.trans (and_congr_right fun stored => ?_)
    rw [decide_eq_true_iff]
    refine not_congr ⟨fun same => ?_, fun same => by rw [same]⟩
    exact sound.shows.rules rule (List.mem_of_getElem? shown) row stored same

theorem assigns_shown (sound : (self.meanwhile context).Sound) (works : context.writeFailure = none)
    {dialog : DialogState} (mode : self.inputMode = .assignGroup) (opened : self.dialog = some dialog) {user : User}
    (shown : self.users[self.userIndex]? = some user) :
    AssignsShown (Exchange.of (App.handleKey prims configPath) self (context, .code .enter)) user dialog := by
  obtain ⟨row, stored, name⟩ := sound.shows.row shown
  obtain ⟨group, listed, selected, named⟩ := sound.selectedGroup mode opened
  have inside := sound.shows.groups group listed
  obtain ⟨db, added⟩ := GatewayDatabase.addUserToGroup_isSome (sound.shows.knows shown) ⟨group, inside, rfl⟩
  have after : (Exchange.of (App.handleKey prims configPath) self (context, .code .enter)).after.db =
      db.run context.between := by
    have sending : (self.meanwhile context).Sending context _ (App.submitDialog prims _ context) :=
      App.submitDialog_member mode opened shown selected named
    rw [Exchange.of, self.handleKey_enter prims configPath context (by rw [mode]; exact InputMode.noConfusion)]
    exact sending.executes works added
  refine ⟨db, row, group, ⟨added, after⟩, name, stored, selected, inside, ?_⟩
  obtain ⟨_, _, groups, _, _, members⟩ := GatewayDatabase.addUserToGroup_eq_some added
  have later := db.run_later context.between
  rw [after, GatewayDatabase.mem_getUserGroups]
  exact ⟨later.groups group (groups ▸ inside), later.userGroups _ ((members _).mpr (.inr rfl))⟩

end Selected

/-! ## Rules for everyone -/

/-- The rule names neither a user nor a group. -/
def ForEveryone (rule : AclRule) : Prop := rule.userId = none ∧ rule.groupId = none

def AllForEveryone (db : GatewayDatabase) : Prop := ∀ rule ∈ db.aclRules.rows, ForEveryone rule

/-- Other processes create no rule but for everyone. -/
def KeyContext.Neutral (context : KeyContext) : Prop :=
  ∀ rule, .createAclRule rule ∈ context.earlier ++ context.between → ForEveryone rule

theorem AllForEveryone.exec {db later : GatewayDatabase} (all : AllForEveryone db) {statement : Statement}
    (neutral : ∀ rule, statement = .createAclRule rule → ForEveryone rule)
    (executed : db.exec statement = some later) : AllForEveryone later := by
  intro row stored
  rcases GatewayDatabase.exec_rules executed stored with old | ⟨rule, same, rfl⟩
  · exact all row old
  · exact neutral rule same

theorem AllForEveryone.run {db : GatewayDatabase} (all : AllForEveryone db) {statements : List Statement}
    (neutral : ∀ rule, .createAclRule rule ∈ statements → ForEveryone rule) :
    AllForEveryone (db.run statements) := by
  induction statements generalizing db with
  | nil => exact all
  | cons statement rest ih =>
      refine ih ?_ fun rule member => neutral rule (List.mem_cons_of_mem _ member)
      unfold GatewayDatabase.next
      cases executed : db.exec statement with
      | none => exact all
      | some later =>
          exact all.exec (fun rule same => neutral rule (same ▸ List.mem_cons_self)) executed

theorem App.Sends.neutral {self : App} {statement : Statement} (sends : self.Sends statement) :
    ∀ rule, statement = .createAclRule rule → ForEveryone rule := by
  intro rule same
  cases sends with
  | createAclRule user group action =>
      cases same
      exact ⟨user, group⟩
  | setUserEnabled => cases same
  | deleteAclRule => cases same
  | createUser => cases same
  | createGroup => cases same
  | addUserToGroup => cases same

theorem AllForEveryone.pressed {self : App} (all : AllForEveryone self.db) {context : KeyContext}
    (neutral : context.Neutral) {result : Outcome TuiError Unit × App} (pressed : self.Pressed context result) :
    AllForEveryone result.2.db := by
  have behind {db : GatewayDatabase} (here : AllForEveryone db) : AllForEveryone (db.run context.between) :=
    here.run fun rule member => neutral rule (List.mem_append_right _ member)
  cases pressed with
  | quiet sound same => exact same ▸ all
  | unread => exact all
  | unsaved error fails sound same => exact same ▸ all
  | sends sends written sound same =>
      cases written with
      | refused => exact all
      | unread error fails executed => exact behind (all.exec sends.neutral executed)
      | @shown db executed =>
          dsimp only
          rw [same]
          exact behind (all.exec sends.neutral executed)

/-- One key keeps it, and so a run does. -/
theorem AllForEveryone.keys (prims : PortalPrimitives) (configPath : String) {start : App} (sound : start.Sound)
    (all : AllForEveryone start.db) {events : List (KeyContext × Key)}
    (neutral : ∀ event ∈ events, KeyContext.Neutral event.1) :
    AllForEveryone (stateAfter (App.handleKey prims configPath) start events).db := by
  induction events generalizing start with
  | nil => exact all
  | cons event rest ih =>
      obtain ⟨context, key⟩ := event
      obtain ⟨here, later⟩ := List.forall_mem_cons.mp neutral
      have met : AllForEveryone (start.meanwhile context).db :=
        all.run fun rule member => here rule (List.mem_append_left _ member)
      have pressed := sound.handleKey prims configPath context key
      exact ih pressed.sound (met.pressed here pressed) later

theorem evaluateAcl_forEveryone {rules : List AclRule} (all : ∀ rule ∈ rules, ForEveryone rule)
    (userId otherId : Int) (groupIds otherIds : List Int) (targetHost : String) (targetPort : UInt16) :
    evaluateAcl rules userId groupIds targetHost targetPort =
      evaluateAcl rules otherId otherIds targetHost targetPort := by
  have same : rules.filter (ruleMatches · userId groupIds targetHost targetPort) =
      rules.filter (ruleMatches · otherId otherIds targetHost targetPort) := by
    apply List.filter_congr
    intro rule member
    obtain ⟨user, group⟩ := all rule member
    rw [ruleMatches, ruleMatches, user, group]
    rfl
  rw [evaluateAcl, evaluateAcl, same]

section Runs

variable (prims : PortalPrimitives) (configPath : String) {db : GatewayDatabase} {tls : TlsConfig}
  {stored : Bool} {context : App.LoadContext} {start : App}

/-- In every run: when no call of a key fails by itself, the key fails only for a new user or
group whose name the table holds already, and then it changes nothing. -/
theorem only_taken_names_refused (loaded : (App.new db tls stored).loadAll context = .ok start)
    (events : List (KeyContext × Key)) :
    ∀ exchange ∈ keyHistory prims configPath start events, exchange.event.1.Works →
      exchange.output ≠ .ok () →
        exchange.before.TakenName (exchange.before.db.run exchange.event.1.earlier) ∧
          exchange.after.db = exchange.before.db.run exchange.event.1.earlier := by
  intro exchange taken works failed
  have sound := keyHistory_sound (App.loadAll_starting loaded).sound taken
  have pressed := sound.handleKey prims configPath exchange.event.1 exchange.event.2
  rw [mem_exchanges taken] at failed ⊢
  exact pressed.failed (sound.meanwhile _) works failed

theorem only_taken_names_refused_groups :
    repeatedGroup.before.TakenName repeatedGroup.before.db ∧ repeatedGroup.after.db = repeatedGroup.before.db :=
  only_taken_names_refused knownHashes "rdg-gateway.toml" freshApp_loaded _ repeatedGroup repeatedGroup_taken
    ⟨rfl, rfl, rfl⟩ (by decide +kernel)

/-- In every run, whatever other processes do: the keys that act on the selected row act on
the row that is shown, and on no other. -/
theorem acts_on_shown (loaded : (App.new db tls stored).loadAll context = .ok start)
    (events : List (KeyContext × Key)) :
    ∀ exchange ∈ keyHistory prims configPath start events, exchange.event.1.writeFailure = none →
      (∀ user, exchange.before.users[exchange.before.userIndex]? = some user →
        Deletes exchange .users → SwitchesShown exchange user) ∧
      (∀ rule, exchange.before.aclRules[exchange.before.aclIndex]? = some rule →
        Deletes exchange .aclRules → DeletesShown exchange rule) ∧
      ∀ user dialog, exchange.before.users[exchange.before.userIndex]? = some user →
        Submits exchange .assignGroup dialog → AssignsShown exchange user dialog := by
  intro exchange taken works
  have sound := (keyHistory_sound (App.loadAll_starting loaded).sound taken).meanwhile exchange.event.1
  obtain ⟨self, ⟨context, key⟩, rfl⟩ : ∃ self event, exchange = Exchange.of _ self event :=
    ⟨_, _, mem_exchanges taken⟩
  refine ⟨?_, ?_, ?_⟩
  · intro user shown deletes
    obtain ⟨rfl, normal, tab⟩ := deletes
    exact switches_shown prims configPath sound works normal tab shown
  · intro rule shown deletes
    obtain ⟨rfl, normal, tab⟩ := deletes
    exact deletes_shown prims configPath sound works normal tab shown
  · intro user dialog shown submits
    obtain ⟨rfl, mode, opened⟩ := submits
    exact assigns_shown prims configPath sound works mode opened shown

/-- A rule is added and deleted again. -/
def ruleKeys : List (KeyContext × Key) :=
  [.code .tab, .code .tab, .code (.char 'a'), .code .enter, .code (.char 'd')].map fun key => (.idle, key)

def deletedRule : KeyExchange :=
  .of (App.handleKey knownHashes "rdg-gateway.toml")
    (stateAfter (App.handleKey knownHashes "rdg-gateway.toml") freshApp (ruleKeys.take 4)) (.idle, .code (.char 'd'))

theorem acts_on_shown_rule :
    ∃ rule, deletedRule.before.aclRules[deletedRule.before.aclIndex]? = some rule ∧ DeletesShown deletedRule rule := by
  have taken : deletedRule ∈ keyHistory knownHashes "rdg-gateway.toml" freshApp
      (ruleKeys.take 4 ++ [(.idle, .code (.char 'd'))]) := last_mem_exchanges _ _ _
  have shown : (deletedRule.before.aclRules[deletedRule.before.aclIndex]?).isSome = true := by decide +kernel
  obtain ⟨rule, shown⟩ := Option.isSome_iff_exists.mp shown
  have deletes : Deletes deletedRule .aclRules := ⟨rfl, by decide +kernel, by decide +kernel⟩
  have acts := acts_on_shown knownHashes "rdg-gateway.toml" freshApp_loaded _ deletedRule taken rfl
  exact ⟨rule, shown, acts.2.1 rule shown deletes⟩

/-- In every run in which other processes create no rule for single users or groups: the
access that the stored rules grant does not depend on the user or on any group. -/
theorem decisions_ignore_accounts (loaded : (App.new db tls stored).loadAll context = .ok start)
    (all : AllForEveryone start.db) (events : List (KeyContext × Key))
    (neutral : ∀ event ∈ events, KeyContext.Neutral event.1) (userId otherId : Int)
    (groupIds otherIds : List Int) (targetHost : String) (targetPort : UInt16) :
    let rules := (stateAfter (App.handleKey prims configPath) start events).db.aclRules.getAclRules
    evaluateAcl rules userId groupIds targetHost targetPort =
      evaluateAcl rules otherId otherIds targetHost targetPort := by
  have kept := all.keys prims configPath (App.loadAll_starting loaded).sound neutral
  exact evaluateAcl_forEveryone (fun rule member => kept rule (List.mem_mergeSort.mp member)) userId otherId
    groupIds otherIds targetHost targetPort

theorem decisions_ignore_accounts_rule :
    let rules := (stateAfter (App.handleKey knownHashes "rdg-gateway.toml") freshApp
      (ruleKeys.take 4)).db.aclRules.getAclRules
    evaluateAcl rules 1 [2] "desk" 3389 = evaluateAcl rules 3 [] "desk" 3389 := by
  have neutral : ∀ event ∈ ruleKeys.take 4, KeyContext.Neutral event.1 := by
    intro event member
    obtain ⟨key, _, rfl⟩ := List.mem_map.mp (List.mem_of_mem_take member)
    intro rule created
    cases created
  exact decisions_ignore_accounts knownHashes "rdg-gateway.toml" freshApp_loaded (List.forall_mem_nil _) _ neutral
    1 3 [2] [] "desk" 3389

end Runs

end RdGateway.Server
