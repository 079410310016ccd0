import RdGateway.Core.GatewayDatabaseProperties
import RdGateway.Server.PortalProperties
import RdGateway.Server.Tui
import RdGateway.Wirekit.Run

/-!
# Runs of the management interface

A dialog is open exactly in the modes that need one and has their fields, and what is
shown stays true of the database but for rows that are gone. So no key crashes.
-/

set_option autoImplicit false

namespace RdGateway.Server

open Wirekit RdGateway.Core

/-! ## Dialogs -/

/-- The value of a selection is one of its options. -/
def DialogField.Chosen (field : DialogField) : Prop := field.options ≠ [] → field.value ∈ field.options

/-- What a field of a dialog offers to select, by the mode; text fields offer nothing. -/
def InputMode.fieldOptions (groups : List Group) : InputMode → List (List String)
  | .normal => []
  | .addUser => [[], []]
  | .addGroup => [[]]
  | .addAclRule => [[], [], [], ["allow", "deny"]]
  | .assignGroup => [groups.map Group.name]
  | .addSan => [[]]
  | .setCertPath => [[]]
  | .setKeyPath => [[]]

structure DialogState.Offers (dialog : DialogState) (options : List (List String)) : Prop where
  options : dialog.fields.map DialogField.options = options
  chosen : ∀ field ∈ dialog.fields, field.Chosen

structure App.DialogFits (app : App) : Prop where
  normal : app.inputMode = .normal ↔ app.dialog = none
  offers : ∀ dialog ∈ app.dialog, dialog.Offers (app.inputMode.fieldOptions app.groups)
  selects : app.inputMode = .assignGroup → app.groups ≠ []

namespace DialogField

theorem selectOption_chosen (field : DialogField) (index : Fin field.options.length) :
    (field.selectOption index).Chosen := fun _ => List.get_mem _ _

theorem left_keeps (field : DialogField) (chosen : field.Chosen) :
    field.left.options = field.options ∧ field.left.Chosen := by
  unfold left
  split
  · exact ⟨rfl, field.selectOption_chosen _⟩
  · exact ⟨rfl, chosen⟩

theorem right_keeps (field : DialogField) (chosen : field.Chosen) :
    field.right.options = field.options ∧ field.right.Chosen := by
  unfold right
  split
  · exact ⟨rfl, field.selectOption_chosen _⟩
  · exact ⟨rfl, chosen⟩

theorem backspace_keeps (field : DialogField) (chosen : field.Chosen) :
    field.backspace.options = field.options ∧ field.backspace.Chosen := by
  unfold backspace
  split
  · next none => exact ⟨rfl, fun some => absurd none some⟩
  · exact ⟨rfl, chosen⟩

theorem char_keeps (c : Char) (field : DialogField) (chosen : field.Chosen) :
    (field.char c).options = field.options ∧ (field.char c).Chosen := by
  unfold char
  split
  · next none => exact ⟨rfl, fun some => absurd none some⟩
  · exact ⟨rfl, chosen⟩

theorem select_chosen (label : String) (options : List String) : (select label options).Chosen := by
  intro some
  cases options with
  | nil => exact absurd rfl some
  | cons first rest => exact List.mem_cons_self

theorem text_chosen {field : DialogField} (none : field.options = []) : field.Chosen :=
  fun some => absurd none some

end DialogField

namespace DialogState

variable {dialog : DialogState} {options : List (List String)}

theorem Offers.nextField (offers : dialog.Offers options) : dialog.nextField.Offers options :=
  ⟨offers.options, offers.chosen⟩

theorem Offers.modifyActive (offers : dialog.Offers options) {edit : DialogField → DialogField}
    (keeps : ∀ field, DialogField.Chosen field → (edit field).options = field.options ∧ (edit field).Chosen) :
    (dialog.modifyActive edit).Offers options where
  options := by
    rw [← offers.options, DialogState.modifyActive]
    apply List.ext_getElem?
    intro index
    rw [List.getElem?_map, List.getElem?_map, List.getElem?_modify]
    cases found : dialog.fields[index]? with
    | none => rfl
    | some field =>
        have chosen := offers.chosen field (List.mem_of_getElem? found)
        by_cases active : dialog.activeField = index
        · simp [active, (keeps field chosen).1]
        · simp [active]
  chosen := by
    intro field member
    obtain ⟨index, found⟩ := List.mem_iff_getElem?.mp member
    rw [DialogState.modifyActive, List.getElem?_modify] at found
    cases before : dialog.fields[index]? with
    | none => rw [before] at found; cases found
    | some old =>
        have chosen := offers.chosen old (List.mem_of_getElem? before)
        rw [before] at found
        cases found
        dsimp only
        split
        · exact (keeps old chosen).2
        · exact chosen

/-- The field behind an offer is there. -/
theorem Offers.fieldValue (offers : dialog.Offers options) (index : Nat) {offered : List String}
    (here : options[index]? = some offered) :
    ∃ field ∈ dialog.fields, field.options = offered ∧ dialog.fieldValue index = .ok field.value := by
  rw [← offers.options, List.getElem?_map] at here
  cases found : dialog.fields[index]? with
  | none => rw [found] at here; cases here
  | some field =>
      rw [found] at here
      cases here
      refine ⟨field, List.mem_of_getElem? found, rfl, ?_⟩
      rw [DialogState.fieldValue, found]

end DialogState

namespace App

/-! ## What is shown -/

/-- The rows that are shown are stored rows, but for users that were switched since and
rules that were deleted since. -/
structure Shows (app : App) : Prop where
  users : ∀ user ∈ app.users, ∃ row ∈ app.db.users.rows, row.id = user.id ∧ row.username = user.username
  groups : ∀ group ∈ app.groups, group ∈ app.db.groups.rows
  oldRules : ∀ rule ∈ app.aclRules, rule.id < app.db.aclRules.nextId
  rules : ∀ rule ∈ app.aclRules, ∀ row ∈ app.db.aclRules.rows, row.id = rule.id → row = rule
  userGroups : ∀ userId groups, app.userGroups userId = some groups →
    ∀ group ∈ groups, group ∈ app.db.getUserGroups userId

structure Sound (app : App) : Prop where
  fits : app.DialogFits
  shows : app.Shows

variable {self : App}

theorem Shows.later (shows : self.Shows) {db : GatewayDatabase} (later : GatewayDatabase.Later self.db db) :
    Shows { self with db } where
  users := by
    intro user shown
    obtain ⟨row, stored, id, name⟩ := shows.users user shown
    obtain ⟨now, kept, sameId, sameName⟩ := later.users row stored
    exact ⟨now, kept, sameId.trans id, sameName.trans name⟩
  groups := fun group shown => later.groups group (shows.groups group shown)
  oldRules := fun rule shown => Int.lt_of_lt_of_le (shows.oldRules rule shown) later.nextRuleId
  rules := by
    intro rule shown row stored same
    have old : row.id < self.db.aclRules.nextId := same ▸ shows.oldRules rule shown
    exact shows.rules rule shown row (later.oldRules row stored old) same
  userGroups := by
    intro userId groups cached group listed
    obtain ⟨stored, member⟩ :=
      GatewayDatabase.mem_getUserGroups.mp (shows.userGroups userId groups cached group listed)
    exact GatewayDatabase.mem_getUserGroups.mpr ⟨later.groups group stored, later.userGroups _ member⟩

theorem Sound.later (sound : self.Sound) {db : GatewayDatabase} (later : GatewayDatabase.Later self.db db) :
    Sound { self with db } :=
  ⟨{ sound.fits with }, sound.shows.later later⟩

theorem Shows.listUsers (shows : self.Shows) : Shows { self with users := self.db.users.listUsers } :=
  { shows with users := fun user stored => ⟨user, stored, rfl, rfl⟩ }

theorem Shows.listGroups (shows : self.Shows) : Shows { self with groups := self.db.groups.listGroups } :=
  { shows with groups := fun _ stored => stored }

theorem Shows.getAclRules (shows : self.Shows) :
    Shows { self with aclRules := self.db.aclRules.getAclRules } where
  users := shows.users
  groups := shows.groups
  oldRules := fun rule shown => self.db.aclRules.assigned rule (List.mem_mergeSort.mp shown)
  rules := fun _ shown _ stored same =>
    List.inj_on_of_nodup_map self.db.ruleIds stored (List.mem_mergeSort.mp shown) same
  userGroups := shows.userGroups

theorem Shows.getUserGroups (shows : self.Shows) (userId : Int) :
    Shows { self with userGroups := self.userGroups.insert userId (self.db.getUserGroups userId) } where
  users := shows.users
  groups := shows.groups
  oldRules := shows.oldRules
  rules := shows.rules
  userGroups := by
    intro other groups cached group listed
    rcases Store.insert_eq_some cached with ⟨rfl, rfl⟩ | ⟨_, before⟩
    · exact listed
    · exact shows.userGroups other groups before group listed

theorem Shows.closed (shows : self.Shows) : self.closed.Sound where
  fits :=
    { normal := iff_of_true rfl rfl
      offers := fun _ opened => by cases opened
      selects := fun mode => by cases mode }
  shows := { shows with }

/-! ## Results of a key -/

/-- How a statement that writes, and the read behind it, come out. -/
inductive Written (self : App) (context : KeyContext) (statement : Statement) (shown : App → App) :
    Outcome TuiError Unit × App → Prop where
  | refused (error : TuiError) (unwritten : context.writeFailure = none → self.db.exec statement = none) :
      Written self context statement shown (.err error, self)
  | unread {db : GatewayDatabase} (error : TuiError) (fails : context.readFailure ≠ none)
      (executed : self.db.exec statement = some db) :
      Written self context statement shown (.err error, { self with db := db.run context.between })
  | shown {db : GatewayDatabase} (executed : self.db.exec statement = some db) :
      Written self context statement shown (.ok (), shown { self with db := db.run context.between })

theorem write_written (self : App) (context : KeyContext) (statement : Statement) (shown : App → App) :
    Written self context statement shown (self.write context statement shown) := by
  unfold write
  cases failed : context.writeFailure with
  | some error => exact .refused _ fun works => by rw [failed] at works; cases works
  | none =>
      dsimp only
      cases executed : self.db.exec statement with
      | none => exact .refused _ fun _ => executed
      | some db =>
          dsimp only
          cases failed : context.readFailure with
          | some error => exact .unread _ (failed ▸ Option.some_ne_none error) executed
          | none => exact .shown executed

/-- The statements that keys send. -/
inductive Sends (app : App) : Statement → Prop where
  | setUserEnabled {user : User} (shown : app.users[app.userIndex]? = some user) :
      Sends app (.setUserEnabled user.id !user.enabled)
  | deleteAclRule {rule : AclRule} (shown : app.aclRules[app.aclIndex]? = some rule) :
      Sends app (.deleteAclRule rule.id)
  | createUser {dialog : DialogState} {username : String} (ntHash : Bytes) (mode : app.inputMode = .addUser)
      (opened : app.dialog = some dialog) (typed : dialog.fieldValue 0 = .ok username) :
      Sends app (.createUser username ntHash)
  | createGroup {dialog : DialogState} {name : String} (mode : app.inputMode = .addGroup)
      (opened : app.dialog = some dialog) (typed : dialog.fieldValue 0 = .ok name) :
      Sends app (.createGroup name)
  | createAclRule {rule : AclRule} (user : rule.userId = none) (group : rule.groupId = none)
      (action : rule.action = "allow" ∨ rule.action = "deny") : Sends app (.createAclRule rule)
  | addUserToGroup {user : User} {group : Group} (shown : app.users[app.userIndex]? = some user)
      (listed : group ∈ app.groups) : Sends app (.addUserToGroup user.id group.id)

/-- What a key comes to in a sound state. -/
inductive Pressed (app : App) (context : KeyContext) : Outcome TuiError Unit × App → Prop where
  | quiet {next : App} (sound : next.Sound) (same : next.db = app.db) : Pressed app context (.ok (), next)
  | unread (error : TuiError) (fails : context.readFailure ≠ none) (sound : app.Sound) :
      Pressed app context (.err error, app)
  | unsaved {next : App} (error : TuiError) (fails : context.configWrite ≠ .written) (sound : next.Sound)
      (same : next.db = app.db) : Pressed app context (.err error, next)
  | sends {statement : Statement} {shown : App → App} {result : Outcome TuiError Unit × App}
      (sends : app.Sends statement) (written : Written app context statement shown result)
      (sound : result.2.Sound) (same : ∀ other, (shown other).db = other.db) : Pressed app context result

theorem Pressed.survives {context : KeyContext} {result : Outcome TuiError Unit × App}
    (pressed : self.Pressed context result) : result.1 ≠ .panicked := by
  intro crashed
  cases pressed with
  | quiet => cases crashed
  | unread => cases crashed
  | unsaved => cases crashed
  | sends _ written =>
      cases written with
      | refused => cases crashed
      | unread => cases crashed
      | shown => cases crashed

theorem Pressed.sound {context : KeyContext} {result : Outcome TuiError Unit × App}
    (pressed : self.Pressed context result) : result.2.Sound := by
  cases pressed with
  | quiet sound => exact sound
  | unread _ _ sound => exact sound
  | unsaved _ _ sound => exact sound
  | sends _ _ sound => exact sound

theorem Sound.write (sound : self.Sound) {context : KeyContext} {statement : Statement} {shown : App → App}
    (sends : self.Sends statement) (same : ∀ other, (shown other).db = other.db)
    (keeps : ∀ db, Sound { self with db } → Sound (shown { self with db })) :
    self.Pressed context (self.write context statement shown) := by
  have later {db : GatewayDatabase} (executed : self.db.exec statement = some db) :
      GatewayDatabase.Later self.db (db.run context.between) :=
    (GatewayDatabase.exec_later executed).trans (db.run_later context.between)
  have written := self.write_written context statement shown
  refine .sends sends written ?_ same
  generalize self.write context statement shown = result at written
  cases written with
  | refused => exact sound
  | unread error fails executed => exact sound.later (later executed)
  | shown executed => exact keeps _ (sound.later (later executed))

theorem withField_pressed {context : KeyContext} {dialog : DialogState} {options : List (List String)}
    (offers : dialog.Offers options) (index : Nat) {offered : List String} (here : options[index]? = some offered)
    {next : String → Outcome TuiError Unit × App}
    (pressed : ∀ value, dialog.fieldValue index = .ok value → self.Pressed context (next value)) :
    self.Pressed context (self.withField dialog index next) := by
  obtain ⟨field, _, _, value⟩ := offers.fieldValue index here
  rw [App.withField, value]
  exact pressed field.value value

/-! ## One key -/

theorem Sound.openDialog (sound : self.Sound) {inputMode : InputMode} {dialog : DialogState}
    (opens : inputMode ≠ .normal) (selects : inputMode ≠ .assignGroup ∨ self.groups ≠ [])
    (offers : dialog.Offers (inputMode.fieldOptions self.groups)) :
    (self.openDialog inputMode dialog).Sound where
  fits :=
    { normal := iff_of_false opens (Option.some_ne_none dialog)
      offers := fun _ opened => by cases opened; exact offers
      selects := fun mode => selects.resolve_left fun other => other mode }
  shows := { sound.shows with }

theorem Sound.say (sound : self.Sound) (message : String) : (self.say message).Sound :=
  ⟨{ sound.fits with }, { sound.shows with }⟩

theorem moveSelection_db (self : App) (delta : Int) : (self.moveSelection delta).db = self.db := by
  unfold App.moveSelection
  cases self.activeTab <;> rfl

theorem startAddDialog_db (self : App) : self.startAddDialog.db = self.db := by
  unfold App.startAddDialog
  cases self.activeTab <;> rfl

theorem startAssignGroupDialog_db (self : App) : self.startAssignGroupDialog.db = self.db := by
  unfold App.startAssignGroupDialog
  split <;> rfl

theorem Sound.startAddDialog (sound : self.Sound) : self.startAddDialog.Sound := by
  have text (label : String) : (DialogField.text label).Chosen := DialogField.text_chosen rfl
  have password (label : String) : (DialogField.password label).Chosen := DialogField.text_chosen rfl
  unfold App.startAddDialog
  cases self.activeTab with
  | users =>
      refine sound.openDialog (by decide) (.inl (by decide)) ⟨rfl, ?_⟩
      exact List.forall_mem_cons.mpr ⟨text _, List.forall_mem_singleton.mpr (password _)⟩
  | groups => exact sound.openDialog (by decide) (.inl (by decide)) ⟨rfl, List.forall_mem_singleton.mpr (text _)⟩
  | aclRules =>
      refine sound.openDialog (by decide) (.inl (by decide)) ⟨rfl, ?_⟩
      refine List.forall_mem_cons.mpr ⟨text _, List.forall_mem_cons.mpr ⟨text _, ?_⟩⟩
      exact List.forall_mem_cons.mpr ⟨text _, List.forall_mem_singleton.mpr (DialogField.select_chosen _ _)⟩
  | sessions => exact sound
  | tls => exact sound.openDialog (by decide) (.inl (by decide)) ⟨rfl, List.forall_mem_singleton.mpr (text _)⟩

theorem Sound.startAssignGroupDialog (sound : self.Sound) : self.startAssignGroupDialog.Sound := by
  unfold App.startAssignGroupDialog
  split
  · exact sound.say _
  · next some =>
    have groups : self.groups ≠ [] := (not_or.mp some).2
    exact sound.openDialog (by decide) (.inr groups)
      ⟨rfl, List.forall_mem_singleton.mpr (DialogField.select_chosen _ _)⟩

theorem Sound.moveSelection (sound : self.Sound) (delta : Int) : (self.moveSelection delta).Sound := by
  unfold App.moveSelection
  cases self.activeTab with
  | users => exact ⟨{ sound.fits with }, { sound.shows with }⟩
  | groups => exact ⟨{ sound.fits with }, { sound.shows with }⟩
  | aclRules => exact ⟨{ sound.fits with }, { sound.shows with }⟩
  | sessions => exact ⟨{ sound.fits with }, { sound.shows with }⟩
  | tls => exact ⟨{ sound.fits with }, { sound.shows with }⟩

theorem Sound.handleDeleteAction (sound : self.Sound) (context : KeyContext) :
    self.Pressed context (self.handleDeleteAction context) := by
  unfold App.handleDeleteAction
  cases self.activeTab with
  | users =>
      cases shown : self.users[self.userIndex]? with
      | none => exact .quiet sound rfl
      | some user =>
          refine sound.write (.setUserEnabled shown) (fun _ => rfl) fun db here => ?_
          exact ⟨{ here.fits with }, { here.shows.listUsers with }⟩
  | aclRules =>
      cases shown : self.aclRules[self.aclIndex]? with
      | none => exact .quiet sound rfl
      | some rule =>
          refine sound.write (.deleteAclRule shown) (fun _ => rfl) fun db here => ?_
          exact ⟨{ here.fits with }, { here.shows.getAclRules with }⟩
  | tls =>
      dsimp only
      cases (self.tls.sanNames.getD [])[self.tlsSanIndex]? with
      | none => exact .quiet sound rfl
      | some removed => exact .quiet ⟨{ sound.fits with }, { sound.shows with }⟩ rfl
  | groups => exact .quiet sound rfl
  | sessions => exact .quiet sound rfl

theorem Sound.refreshSessions (sound : self.Sound) (context : KeyContext) :
    self.Pressed context (self.refreshSessions context) := by
  unfold App.refreshSessions
  cases failed : context.readFailure with
  | some error => exact .unread _ (failed ▸ Option.some_ne_none error) sound
  | none => exact .quiet ⟨{ sound.fits with }, { sound.shows with }⟩ rfl

theorem Sound.saveConfig (sound : self.Sound) (configPath : String) (context : KeyContext) :
    self.Pressed context (self.saveConfig configPath context) := by
  unfold App.saveConfig
  cases write : context.configWrite with
  | written => exact .quiet ⟨{ sound.fits with }, { sound.shows with }⟩ rfl
  | failed left =>
      refine .unsaved _ ?_ ⟨{ sound.fits with }, { sound.shows with }⟩ rfl
      rw [write]
      exact ConfigWrite.noConfusion

theorem Sound.startPathDialog (sound : self.Sound) {mode : InputMode} (label : String) (current : Option String)
    (opens : mode ≠ .normal) (path : mode ≠ .assignGroup) (one : mode.fieldOptions self.groups = [[]]) :
    (self.startPathDialog mode label current).Sound :=
  sound.openDialog opens (.inl path) ⟨one.symm, List.forall_mem_singleton.mpr (DialogField.text_chosen rfl)⟩

theorem Sound.handleNormalKey (sound : self.Sound) (configPath : String) (context : KeyContext)
    (action : NormalAction) : self.Pressed context (self.handleNormalKey configPath context action) := by
  cases action with
  | quit => exact .quiet ⟨{ sound.fits with }, { sound.shows with }⟩ rfl
  | nextTab => exact .quiet ⟨{ sound.fits with }, { sound.shows with }⟩ rfl
  | prevTab => exact .quiet ⟨{ sound.fits with }, { sound.shows with }⟩ rfl
  | move delta => exact .quiet (sound.moveSelection delta) (self.moveSelection_db delta)
  | add => exact .quiet sound.startAddDialog self.startAddDialog_db
  | delete => exact sound.handleDeleteAction context
  | assignGroup =>
      dsimp only [App.handleNormalKey]
      split
      · exact .quiet sound.startAssignGroupDialog self.startAssignGroupDialog_db
      · exact .quiet sound rfl
  | refresh =>
      dsimp only [App.handleNormalKey]
      split
      · exact sound.refreshSessions context
      · exact .quiet sound rfl
  | setCertPath =>
      dsimp only [App.handleNormalKey]
      split
      · exact .quiet (sound.startPathDialog _ _ (by decide) (by decide) rfl) rfl
      · exact .quiet sound rfl
  | setKeyPath =>
      dsimp only [App.handleNormalKey]
      split
      · exact .quiet (sound.startPathDialog _ _ (by decide) (by decide) rfl) rfl
      · exact .quiet sound rfl
  | save =>
      dsimp only [App.handleNormalKey]
      split
      · exact sound.saveConfig configPath context
      · exact .quiet sound rfl
  | nothing => exact .quiet sound rfl

theorem aclRule_ok {dialog : DialogState} {groups : List Group}
    (offers : dialog.Offers (InputMode.addAclRule.fieldOptions groups)) :
    ∃ rule, dialog.aclRule = .ok rule ∧ rule.userId = none ∧ rule.groupId = none ∧
      (rule.action = "allow" ∨ rule.action = "deny") := by
  obtain ⟨priority, _, _, first⟩ := offers.fieldValue 0 rfl
  obtain ⟨host, _, _, second⟩ := offers.fieldValue 1 rfl
  obtain ⟨port, _, _, third⟩ := offers.fieldValue 2 rfl
  obtain ⟨action, member, options, fourth⟩ := offers.fieldValue 3 rfl
  have chosen : action.value ∈ ["allow", "deny"] :=
    options ▸ offers.chosen action member (by rw [options]; exact List.cons_ne_nil _ _)
  have selected : action.value = "allow" ∨ action.value = "deny" := by simpa using chosen
  unfold DialogState.aclRule
  simp only [first, second, third, fourth, Outcome.ok_bind, Outcome.pure_eq]
  exact ⟨_, rfl, rfl, rfl, selected⟩

section Submit

variable {dialog : DialogState} (context : KeyContext)

theorem Sound.submitUser (sound : self.Sound) (prims : PortalPrimitives) (mode : self.inputMode = .addUser)
    (opened : self.dialog = some dialog) (offers : dialog.Offers [[], []]) :
    self.Pressed context (self.submitUser prims context dialog) := by
  refine withField_pressed offers 0 rfl fun username typed => ?_
  refine withField_pressed offers 1 rfl fun password _ => ?_
  split
  · exact .quiet (sound.say _) rfl
  · refine sound.write (.createUser _ mode opened typed) (fun _ => rfl) fun db here => ?_
    exact Shows.closed { here.shows.listUsers with }

theorem Sound.submitGroup (sound : self.Sound) (mode : self.inputMode = .addGroup)
    (opened : self.dialog = some dialog) (offers : dialog.Offers [[]]) :
    self.Pressed context (self.submitGroup context dialog) := by
  refine withField_pressed offers 0 rfl fun name typed => ?_
  split
  · exact .quiet (sound.say _) rfl
  · refine sound.write (.createGroup mode opened typed) (fun _ => rfl) fun db here => ?_
    exact Shows.closed { here.shows.listGroups with }

theorem Sound.submitAclRule (sound : self.Sound)
    (offers : dialog.Offers (InputMode.addAclRule.fieldOptions self.groups)) :
    self.Pressed context (self.submitAclRule context dialog) := by
  obtain ⟨rule, typed, user, group, action⟩ := aclRule_ok offers
  rw [App.submitAclRule, typed]
  refine sound.write (.createAclRule user group action) (fun _ => rfl) fun db here => ?_
  exact Shows.closed { here.shows.getAclRules with }

theorem Sound.submitAssignGroup (sound : self.Sound)
    (offers : dialog.Offers (InputMode.assignGroup.fieldOptions self.groups)) :
    self.Pressed context (self.submitAssignGroup context dialog) := by
  unfold App.submitAssignGroup
  cases shown : self.users[self.userIndex]? with
  | none => exact .quiet sound.shows.closed rfl
  | some user =>
      refine withField_pressed offers 0 rfl fun groupName _ => ?_
      cases found : self.groups.find? fun group => group.name = groupName with
      | none => exact .quiet sound.shows.closed rfl
      | some group =>
          have listed := List.mem_of_find?_eq_some found
          refine sound.write (.addUserToGroup shown listed) (fun _ => rfl) fun db here => ?_
          exact Shows.closed { here.shows.getUserGroups user.id with }

theorem Sound.submitSan (sound : self.Sound) (offers : dialog.Offers [[]]) :
    self.Pressed context (self.submitSan dialog) := by
  refine withField_pressed offers 0 rfl fun san _ => ?_
  split
  · exact .quiet (sound.say _) rfl
  · dsimp only
    split
    · exact .quiet (sound.say _).shows.closed rfl
    · exact .quiet (Shows.closed { sound.shows with }) rfl

theorem Sound.submitPath (sound : self.Sound) (offers : dialog.Offers [[]]) (subject : String)
    (set : Option String → TlsConfig) : self.Pressed context (self.submitPath dialog subject set) := by
  refine withField_pressed offers 0 rfl fun path _ => ?_
  split
  · exact .quiet (Shows.closed { sound.shows with }) rfl
  · exact .quiet (Shows.closed { sound.shows with }) rfl

end Submit

theorem Sound.submitDialog (sound : self.Sound) (prims : PortalPrimitives) (context : KeyContext) :
    self.Pressed context (self.submitDialog prims context) := by
  unfold App.submitDialog
  cases opened : self.dialog with
  | none => exact .quiet sound rfl
  | some dialog =>
      have offers := sound.fits.offers dialog opened
      cases mode : self.inputMode with
      | normal => exact .quiet sound.shows.closed rfl
      | addUser =>
          rw [mode] at offers
          exact sound.submitUser context prims mode opened offers
      | addGroup =>
          rw [mode] at offers
          exact sound.submitGroup context mode opened offers
      | addAclRule =>
          rw [mode] at offers
          exact sound.submitAclRule context offers
      | assignGroup =>
          rw [mode] at offers
          exact sound.submitAssignGroup context offers
      | addSan =>
          rw [mode] at offers
          exact sound.submitSan context offers
      | setCertPath =>
          rw [mode] at offers
          exact sound.submitPath context offers _ _
      | setKeyPath =>
          rw [mode] at offers
          exact sound.submitPath context offers _ _

theorem Sound.edited (sound : self.Sound) (context : KeyContext) {edit : DialogState → DialogState}
    (keeps : ∀ dialog options, DialogState.Offers dialog options → (edit dialog).Offers options) :
    self.Pressed context (self.edited edit) := by
  refine .quiet ⟨⟨?_, ?_, sound.fits.selects⟩, { sound.shows with }⟩ rfl
  · exact sound.fits.normal.trans Option.map_eq_none_iff.symm
  · intro dialog opened
    obtain ⟨before, old, rfl⟩ := Option.map_eq_some_iff.mp opened
    exact keeps before _ (sound.fits.offers before old)

theorem Sound.handleDialogKey (sound : self.Sound) (prims : PortalPrimitives) (context : KeyContext) (key : Key) :
    self.Pressed context (self.handleDialogKey prims context key) := by
  cases key with
  | ctrlC => exact .quiet sound rfl
  | backTab => exact .quiet sound rfl
  | up => exact .quiet sound rfl
  | down => exact .quiet sound rfl
  | code code =>
      cases code with
      | esc => exact .quiet ⟨{ sound.shows.closed.fits with }, { sound.shows with }⟩ rfl
      | tab => exact sound.edited context fun _ _ offers => offers.nextField
      | enter => exact sound.submitDialog prims context
      | left => exact sound.edited context fun _ _ offers => offers.modifyActive DialogField.left_keeps
      | right => exact sound.edited context fun _ _ offers => offers.modifyActive DialogField.right_keeps
      | backspace => exact sound.edited context fun _ _ offers => offers.modifyActive DialogField.backspace_keeps
      | char c => exact sound.edited context fun _ _ offers => offers.modifyActive (DialogField.char_keeps c)
      | other => exact .quiet sound rfl

/-- The state in which a key finds the database. -/
def meanwhile (self : App) (context : KeyContext) : App := { self with db := self.db.run context.earlier }

theorem Sound.meanwhile (sound : self.Sound) (context : KeyContext) : (self.meanwhile context).Sound :=
  sound.later (self.db.run_later context.earlier)

theorem handleKey_of_ne (self : App) (prims : PortalPrimitives) (configPath : String) (context : KeyContext)
    {key : Key} (other : key ≠ .ctrlC) :
    self.handleKey prims configPath (context, key) =
      if self.inputMode = .normal then
        (self.meanwhile context).handleNormalKey configPath context (normalAction key)
      else (self.meanwhile context).handleDialogKey prims context key := by
  cases key with
  | ctrlC => exact absurd rfl other
  | backTab => rfl
  | up => rfl
  | down => rfl
  | code code => rfl

theorem Sound.handleKey (sound : self.Sound) (prims : PortalPrimitives) (configPath : String)
    (context : KeyContext) (key : Key) :
    (self.meanwhile context).Pressed context (self.handleKey prims configPath (context, key)) := by
  have here := sound.meanwhile context
  by_cases quits : key = .ctrlC
  · rw [quits]
    exact .quiet ⟨{ here.fits with }, { here.shows with }⟩ rfl
  · rw [handleKey_of_ne self prims configPath context quits]
    split
    · exact here.handleNormalKey configPath context _
    · exact here.handleDialogKey prims context key

/-! ## Start -/

theorem Shows.new (db : GatewayDatabase) (tls : TlsConfig) (stored : Bool) : (App.new db tls stored).Shows where
  users := List.forall_mem_nil _
  groups := List.forall_mem_nil _
  oldRules := List.forall_mem_nil _
  rules := List.forall_mem_nil _
  userGroups := fun _ _ cached => by cases cached

/-- No dialog is open before the first key. -/
structure Starting (app : App) : Prop where
  normal : app.inputMode = .normal
  closed : app.dialog = none
  shows : app.Shows

theorem Starting.sound (starting : self.Starting) : self.Sound where
  fits :=
    { normal := iff_of_true starting.normal starting.closed
      offers := fun _ opened => by rw [starting.closed] at opened; cases opened
      selects := fun mode => by rw [starting.normal] at mode; cases mode }
  shows := starting.shows

theorem Starting.read (starting : self.Starting) {context : LoadContext} {index : Nat} {store : App → App}
    {next : App} (loaded : self.read context index store = .ok next)
    (keeps : ∀ app, Starting app → Starting (store app)) : next.Starting := by
  unfold App.read at loaded
  cases failed : context.failure index with
  | some error => rw [failed] at loaded; cases loaded
  | none =>
      rw [failed] at loaded
      cases loaded
      exact keeps _ ⟨starting.normal, starting.closed, starting.shows.later (self.db.run_later _)⟩

theorem Starting.loadUserGroups (starting : self.Starting) {context : LoadContext} {index : Nat}
    {users : List User} {next : App} (loaded : loadUserGroups context index users self = .ok next) :
    next.Starting := by
  induction users generalizing self index with
  | nil => cases loaded; exact starting
  | cons user rest ih =>
      obtain ⟨between, first, later⟩ := Outcome.bind_eq_ok.mp loaded
      have here := starting.read first fun app here =>
        ⟨here.normal, here.closed, here.shows.getUserGroups user.id⟩
      exact ih here later

theorem loadAll_starting {db : GatewayDatabase} {tls : TlsConfig} {stored : Bool} {context : LoadContext}
    {start : App} (loaded : (App.new db tls stored).loadAll context = .ok start) : start.Starting := by
  unfold loadAll at loaded
  obtain ⟨users, first, loaded⟩ := Outcome.bind_eq_ok.mp loaded
  obtain ⟨groups, second, loaded⟩ := Outcome.bind_eq_ok.mp loaded
  obtain ⟨rules, third, loaded⟩ := Outcome.bind_eq_ok.mp loaded
  obtain ⟨sessions, fourth, loaded⟩ := Outcome.bind_eq_ok.mp loaded
  have new : (App.new db tls stored).Starting := ⟨rfl, rfl, Shows.new db tls stored⟩
  have one := new.read first fun app here => ⟨here.normal, here.closed, here.shows.listUsers⟩
  have two := one.read second fun app here => ⟨here.normal, here.closed, here.shows.listGroups⟩
  have three := two.read third fun app here => ⟨here.normal, here.closed, here.shows.getAclRules⟩
  have four := three.read fourth fun app here => ⟨here.normal, here.closed, { here.shows with }⟩
  have none : Starting { sessions with userGroups := .empty } :=
    { normal := four.normal
      closed := four.closed
      shows :=
        { four.shows with
          userGroups := by
            intro userId groups cached
            exact absurd cached.symm (Option.some_ne_none groups) } }
  exact none.loadUserGroups loaded

end App

/-! ## Runs -/

abbrev KeyExchange := Exchange App (KeyContext × Key) (Outcome TuiError Unit)

def keyHistory (prims : PortalPrimitives) (configPath : String) (start : App)
    (events : List (KeyContext × Key)) : List KeyExchange :=
  exchanges (App.handleKey prims configPath) start events

theorem keyHistory_sound {prims : PortalPrimitives} {configPath : String} {start : App} (sound : start.Sound)
    {events : List (KeyContext × Key)} {exchange : KeyExchange}
    (taken : exchange ∈ keyHistory prims configPath start events) : exchange.before.Sound :=
  invariant_before App.Sound sound (fun _ event here => (here.handleKey prims configPath event.1 event.2).sound) taken

/-- Whatever keys are pressed, other processes do and statements fail: no key crashes, and a
dialog is open exactly in the modes that have one. -/
theorem keys_never_crash (prims : PortalPrimitives) (configPath : String) {db : GatewayDatabase} {tls : TlsConfig}
    {stored : Bool} {context : App.LoadContext} {start : App}
    (loaded : (App.new db tls stored).loadAll context = .ok start) (events : List (KeyContext × Key)) :
    ∀ exchange ∈ keyHistory prims configPath start events, exchange.output ≠ .panicked ∧
      (exchange.after.inputMode = .normal ↔ exchange.after.dialog = none) := by
  intro exchange taken
  have sound := keyHistory_sound (App.loadAll_starting loaded).sound taken
  have pressed := sound.handleKey prims configPath exchange.event.1 exchange.event.2
  rw [mem_exchanges taken]
  exact ⟨pressed.survives, pressed.sound.fits.normal⟩

/-! A fresh database, and keys with nothing beside them. -/

def App.LoadContext.idle : App.LoadContext := { earlier := fun _ => [], failure := fun _ => none }

def KeyContext.idle : KeyContext :=
  { earlier := [], between := [], writeFailure := none, readFailure := none
    refusal := .database "UNIQUE constraint failed", configWrite := .written }

def freshApp : App :=
  .new .empty { certPath := none, keyPath := none, autoGenerate := true, sanNames := none } true

theorem freshApp_loaded : freshApp.loadAll .idle = .ok freshApp := by
  have rules : GatewayDatabase.empty.aclRules.getAclRules = [] := List.mergeSort_nil
  unfold App.loadAll
  simp only [App.read, freshApp, App.new, App.LoadContext.idle, GatewayDatabase.run, List.foldl_nil,
    Outcome.ok_bind, rules]
  rfl

/-- Two groups of one name. -/
def groupKeys : List (KeyContext × Key) :=
  [.code .tab, .code (.char 'a'), .code (.char 'x'), .code .enter, .code (.char 'a'), .code (.char 'x'),
    .code .enter].map fun key => (.idle, key)

/-- The Enter key that asks for the second one. -/
def repeatedGroup : KeyExchange :=
  .of (App.handleKey knownHashes "rdg-gateway.toml")
    (stateAfter (App.handleKey knownHashes "rdg-gateway.toml") freshApp (groupKeys.take 6)) (.idle, .code .enter)

theorem repeatedGroup_taken :
    repeatedGroup ∈ keyHistory knownHashes "rdg-gateway.toml" freshApp (groupKeys.take 6 ++ [(.idle, .code .enter)]) :=
  last_mem_exchanges _ _ _

theorem keys_never_crash_groups :
    repeatedGroup.output ≠ .panicked ∧
      (repeatedGroup.after.inputMode = .normal ↔ repeatedGroup.after.dialog = none) :=
  keys_never_crash knownHashes "rdg-gateway.toml" freshApp_loaded _ repeatedGroup repeatedGroup_taken

end RdGateway.Server
