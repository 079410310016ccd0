import RdGateway.Core.GatewayDatabase
import RdGateway.Server.AclDialog
import RdGateway.Server.Certificate
import RdGateway.Server.PortalAuth

/-!
# The management interface

Every tab and dialog of the text interface. A key sends at most two statements, one that
writes and one that reads again what is shown; other processes use the database before and
between them.
-/

set_option autoImplicit false

namespace RdGateway.Server

open Wirekit RdGateway.Core

inductive ActiveTab where
  | users
  | groups
  | aclRules
  | sessions
  | tls
deriving Repr, DecidableEq

def ActiveTab.next : ActiveTab → ActiveTab
  | .users => .groups
  | .groups => .aclRules
  | .aclRules => .sessions
  | .sessions => .tls
  | .tls => .users

def ActiveTab.prev : ActiveTab → ActiveTab
  | .users => .tls
  | .groups => .users
  | .aclRules => .groups
  | .sessions => .aclRules
  | .tls => .sessions

inductive InputMode where
  | normal
  | addUser
  | addGroup
  | addAclRule
  | assignGroup
  | addSan
  | setCertPath
  | setKeyPath
deriving Repr, DecidableEq

/-- A key press; `ctrlC` is the key with the modifier, and the modifiers of other keys do not count. -/
inductive Key where
  | ctrlC
  | backTab
  | up
  | down
  | code (code : KeyCode)

inductive TuiError where
  | db (error : DbError)
  | config
deriving Repr, DecidableEq

/-- The configuration file after it is written, or what a failed write leaves there. -/
inductive ConfigWrite where
  | written
  | failed (left : Option TlsConfig)
deriving Repr, DecidableEq

/-- What other processes do around the statements of a key, and which of its calls fail. -/
structure KeyContext where
  earlier : List Statement
  between : List Statement
  writeFailure : Option DbError
  readFailure : Option DbError
  refusal : DbError
  configWrite : ConfigWrite
deriving Repr, DecidableEq

/-- The application and the database behind it. Of the configuration only the part for TLS
is used, and `savedTls` is what the file holds of it, if there is one. -/
structure App where
  db : GatewayDatabase
  tls : TlsConfig
  savedTls : Option TlsConfig
  activeTab : ActiveTab
  inputMode : InputMode
  dialog : Option DialogState
  statusMessage : Option String
  shouldQuit : Bool
  users : List User
  groups : List Group
  aclRules : List AclRule
  sessions : List Session
  userIndex : Nat
  groupIndex : Nat
  aclIndex : Nat
  sessionIndex : Nat
  tlsSanIndex : Nat
  userGroups : Store Int (List Group)

def DialogField.password (label : String) : DialogField := { DialogField.text label with masked := true }

namespace App

/-- `stored` tells whether there is a configuration file; without one `tls` is the default. -/
def new (db : GatewayDatabase) (tls : TlsConfig) (stored : Bool) : App :=
  { db, tls, savedTls := if stored then some tls else none, activeTab := .users, inputMode := .normal, dialog := none
    statusMessage := none, shouldQuit := false, users := [], groups := [], aclRules := [], sessions := []
    userIndex := 0, groupIndex := 0, aclIndex := 0, sessionIndex := 0, tlsSanIndex := 0, userGroups := .empty }

/-! ## Start -/

/-- What other processes do before each read of the start, and the reads that fail. -/
structure LoadContext where
  earlier : Nat → List Statement
  failure : Nat → Option DbError

def read (context : LoadContext) (index : Nat) (self : App) (store : App → App) : Outcome TuiError App :=
  match context.failure index with
  | some error => .err (.db error)
  | none => .ok (store { self with db := self.db.run (context.earlier index) })

def loadUserGroups (context : LoadContext) : Nat → List User → App → Outcome TuiError App
  | _, [], self => .ok self
  | index, user :: rest, self => do
      let self ← self.read context index fun self =>
        { self with userGroups := self.userGroups.insert user.id (self.db.getUserGroups user.id) }
      loadUserGroups context (index + 1) rest self

/-- The record of the certificate is for display only and left out. -/
def loadAll (self : App) (context : LoadContext) : Outcome TuiError App := do
  let self ← self.read context 0 fun self => { self with users := self.db.users.listUsers }
  let self ← self.read context 1 fun self => { self with groups := self.db.groups.listGroups }
  let self ← self.read context 2 fun self => { self with aclRules := self.db.aclRules.getAclRules }
  let self ← self.read context 3 fun self => { self with sessions := self.db.sessions.getActiveSessions }
  loadUserGroups context 4 self.users { self with userGroups := .empty }

/-! ## Statements of a key -/

/-- A statement that writes, and the read behind it. -/
def write (self : App) (context : KeyContext) (statement : Statement) (shown : App → App) :
    Outcome TuiError Unit × App :=
  match context.writeFailure with
  | some error => (.err (.db error), self)
  | none =>
      match self.db.exec statement with
      | none => (.err (.db context.refusal), self)
      | some db =>
          let self := { self with db := db.run context.between }
          match context.readFailure with
          | some error => (.err (.db error), self)
          | none => (.ok (), shown self)

def say (self : App) (message : String) : App := { self with statusMessage := some message }

/-! ## Selection -/

/-- `as i32`. -/
def asI32 (value : Int) : Int := value.bmod (2 ^ 32)

/-- The sum wraps, as in a release build; it stays exact up to 2^31 rows. -/
def moved (index len : Nat) (delta : Int) : Nat :=
  if len = 0 then index
  else
    let new := asI32 (asI32 index + delta)
    if new < 0 then len - 1 else if asI32 len ≤ new then 0 else new.toNat

def sanCount (self : App) : Nat := (self.tls.sanNames.getD []).length

def moveSelection (self : App) (delta : Int) : App :=
  match self.activeTab with
  | .users => { self with userIndex := moved self.userIndex self.users.length delta }
  | .groups => { self with groupIndex := moved self.groupIndex self.groups.length delta }
  | .aclRules => { self with aclIndex := moved self.aclIndex self.aclRules.length delta }
  | .sessions => { self with sessionIndex := moved self.sessionIndex self.sessions.length delta }
  | .tls => { self with tlsSanIndex := moved self.tlsSanIndex self.sanCount delta }

/-- Behind a deletion the index goes back to the last row. -/
def clamped (index len : Nat) : Nat := if 0 < index ∧ len ≤ index then len - 1 else index

/-! ## Opening a dialog -/

def openDialog (self : App) (inputMode : InputMode) (dialog : DialogState) : App :=
  { self with inputMode, dialog := some dialog }

def startAddDialog (self : App) : App :=
  match self.activeTab with
  | .users => self.openDialog .addUser (.new (.text "Username") [.password "Password"])
  | .groups => self.openDialog .addGroup (.new (.text "Group Name") [])
  | .aclRules => self.openDialog .addAclRule addAclRuleDialog
  | .sessions => self
  | .tls => self.openDialog .addSan (.new (.text "SAN Name (DNS or IP)") [])

def startAssignGroupDialog (self : App) : App :=
  if self.users = [] ∨ self.groups = [] then self.say "No users or groups available"
  else self.openDialog .assignGroup (.new (.select "Group" (self.groups.map Group.name)) [])

def startPathDialog (self : App) (inputMode : InputMode) (label : String) (current : Option String) : App :=
  self.openDialog inputMode (.new { DialogField.text label with value := current.getD "" } [])

/-! ## Keys without a dialog -/

def handleDeleteAction (self : App) (context : KeyContext) : Outcome TuiError Unit × App :=
  match self.activeTab with
  | .users =>
      match self.users[self.userIndex]? with
      | some user =>
          let newEnabled := !user.enabled
          self.write context (.setUserEnabled user.id newEnabled) fun self =>
            { self with users := self.db.users.listUsers }.say
              ("User " ++ user.username ++ " " ++ if newEnabled then "enabled" else "disabled")
      | none => (.ok (), self)
  | .aclRules =>
      match self.aclRules[self.aclIndex]? with
      | some rule =>
          self.write context (.deleteAclRule rule.id) fun self =>
            let aclRules := self.db.aclRules.getAclRules
            { self with aclRules, aclIndex := clamped self.aclIndex aclRules.length }.say "ACL rule deleted"
      | none => (.ok (), self)
  | .tls =>
      let sans := self.tls.sanNames.getD []
      match sans[self.tlsSanIndex]? with
      | some removed =>
          let left := sans.eraseIdx self.tlsSanIndex
          (.ok (),
            { self with
              tls := { self.tls with sanNames := some left }
              tlsSanIndex := clamped self.tlsSanIndex left.length }.say ("Removed SAN '" ++ removed ++ "'"))
      | none => (.ok (), self)
  | .groups => (.ok (), self)
  | .sessions => (.ok (), self)

def refreshSessions (self : App) (context : KeyContext) : Outcome TuiError Unit × App :=
  match context.readFailure with
  | some error => (.err (.db error), self)
  | none => (.ok (), { self with sessions := self.db.sessions.getActiveSessions }.say "Sessions refreshed")

def saveConfig (self : App) (configPath : String) (context : KeyContext) : Outcome TuiError Unit × App :=
  match context.configWrite with
  | .written => (.ok (), { self with savedTls := some self.tls }.say ("Config saved to " ++ configPath))
  | .failed left => (.err .config, { self with savedTls := left })

/-- What a key asks for while no dialog is open. -/
inductive NormalAction where
  | quit
  | nextTab
  | prevTab
  | move (delta : Int)
  | add
  | delete
  | assignGroup
  | refresh
  | setCertPath
  | setKeyPath
  | save
  | nothing
deriving Repr, DecidableEq

def normalChar : List (Char × NormalAction) :=
  [('q', .quit), ('j', .move 1), ('a', .add), ('d', .delete), ('g', .assignGroup), ('r', .refresh),
    ('e', .setCertPath), ('k', .setKeyPath), ('s', .save)]

def normalAction : Key → NormalAction
  | .ctrlC => .nothing
  | .backTab => .prevTab
  | .up => .move (-1)
  | .down => .move 1
  | .code .esc => .quit
  | .code .tab => .nextTab
  | .code (.char c) => (normalChar.lookup c).getD .nothing
  | .code _ => .nothing

def handleNormalKey (self : App) (configPath : String) (context : KeyContext) :
    NormalAction → Outcome TuiError Unit × App
  | .quit => (.ok (), { self with shouldQuit := true })
  | .nextTab => (.ok (), { self with activeTab := self.activeTab.next })
  | .prevTab => (.ok (), { self with activeTab := self.activeTab.prev })
  | .move delta => (.ok (), self.moveSelection delta)
  | .add => (.ok (), self.startAddDialog)
  | .delete => self.handleDeleteAction context
  | .assignGroup => (.ok (), if self.activeTab = .users then self.startAssignGroupDialog else self)
  | .refresh => if self.activeTab = .sessions then self.refreshSessions context else (.ok (), self)
  | .setCertPath =>
      (.ok (),
        if self.activeTab = .tls then
          self.startPathDialog .setCertPath "Certificate PEM path" self.tls.certPath
        else self)
  | .setKeyPath =>
      (.ok (),
        if self.activeTab = .tls then
          self.startPathDialog .setKeyPath "Private Key PEM path" self.tls.keyPath
        else self)
  | .save => if self.activeTab = .tls then self.saveConfig configPath context else (.ok (), self)
  | .nothing => (.ok (), self)

/-! ## Keys with a dialog -/

def closed (self : App) : App := { self with inputMode := .normal, dialog := none }

/-- A field that is not there crashes. -/
def withField (self : App) (dialog : DialogState) (index : Nat)
    (next : String → Outcome TuiError Unit × App) : Outcome TuiError Unit × App :=
  match dialog.fieldValue index with
  | .ok value => next value
  | .err error => (.err (.db error), self)
  | .panicked => (.panicked, self)

def submitUser (prims : PortalPrimitives) (self : App) (context : KeyContext) (dialog : DialogState) :
    Outcome TuiError Unit × App :=
  self.withField dialog 0 fun username =>
    self.withField dialog 1 fun password =>
      if username = "" ∨ password = "" then (.ok (), self.say "Username and password required")
      else
        self.write context (.createUser username (computeNtHash prims password)) fun self =>
          ({ self with users := self.db.users.listUsers }.say ("User '" ++ username ++ "' created")).closed

def submitGroup (self : App) (context : KeyContext) (dialog : DialogState) : Outcome TuiError Unit × App :=
  self.withField dialog 0 fun name =>
    if name = "" then (.ok (), self.say "Group name required")
    else
      self.write context (.createGroup name) fun self =>
        ({ self with groups := self.db.groups.listGroups }.say ("Group '" ++ name ++ "' created")).closed

def submitAclRule (self : App) (context : KeyContext) (dialog : DialogState) : Outcome TuiError Unit × App :=
  match dialog.aclRule with
  | .ok rule =>
      self.write context (.createAclRule rule) fun self =>
        ({ self with aclRules := self.db.aclRules.getAclRules }.say "ACL rule created").closed
  | .err error => (.err (.db error), self)
  | .panicked => (.panicked, self)

def submitAssignGroup (self : App) (context : KeyContext) (dialog : DialogState) : Outcome TuiError Unit × App :=
  match self.users[self.userIndex]? with
  | some user =>
      self.withField dialog 0 fun groupName =>
        match self.groups.find? fun group => group.name = groupName with
        | some group =>
            self.write context (.addUserToGroup user.id group.id) fun self =>
              let userGroups := self.userGroups.insert user.id (self.db.getUserGroups user.id)
              ({ self with userGroups }.say
                ("User '" ++ user.username ++ "' added to group '" ++ groupName ++ "'")).closed
        | none => (.ok (), self.closed)
  | none => (.ok (), self.closed)

def submitSan (self : App) (dialog : DialogState) : Outcome TuiError Unit × App :=
  self.withField dialog 0 fun san =>
    if san = "" then (.ok (), self.say "SAN name required")
    else
      let sans := self.tls.sanNames.getD []
      if san ∈ sans then (.ok (), (self.say ("SAN '" ++ san ++ "' already exists")).closed)
      else
        let tls := { self.tls with sanNames := some (sans ++ [san]) }
        (.ok (), ({ self with tls }.say ("Added SAN '" ++ san ++ "'")).closed)

/-- The two dialogs for a path; an empty one clears it. -/
def submitPath (self : App) (dialog : DialogState) (subject : String) (set : Option String → TlsConfig) :
    Outcome TuiError Unit × App :=
  self.withField dialog 0 fun path =>
    if path = "" then (.ok (), ({ self with tls := set none }.say (subject ++ " path cleared")).closed)
    else (.ok (), ({ self with tls := set (some path) }.say (subject ++ " path updated")).closed)

def submitDialog (prims : PortalPrimitives) (self : App) (context : KeyContext) : Outcome TuiError Unit × App :=
  match self.dialog with
  | none => (.ok (), self)
  | some dialog =>
      match self.inputMode with
      | .addUser => self.submitUser prims context dialog
      | .addGroup => self.submitGroup context dialog
      | .addAclRule => self.submitAclRule context dialog
      | .assignGroup => self.submitAssignGroup context dialog
      | .normal => (.ok (), self.closed)
      | .addSan => self.submitSan dialog
      | .setCertPath => self.submitPath dialog "Certificate" fun certPath => { self.tls with certPath }
      | .setKeyPath => self.submitPath dialog "Key" fun keyPath => { self.tls with keyPath }

def edited (self : App) (edit : DialogState → DialogState) : Outcome TuiError Unit × App :=
  (.ok (), { self with dialog := self.dialog.map edit })

def handleDialogKey (prims : PortalPrimitives) (self : App) (context : KeyContext) :
    Key → Outcome TuiError Unit × App
  | .code .esc => (.ok (), { self.closed with statusMessage := none })
  | .code .tab => self.edited .nextField
  | .code .enter => self.submitDialog prims context
  | .code .left => self.edited fun dialog => dialog.modifyActive .left
  | .code .right => self.edited fun dialog => dialog.modifyActive .right
  | .code .backspace => self.edited fun dialog => dialog.modifyActive .backspace
  | .code (.char c) => self.edited fun dialog => dialog.modifyActive (.char c)
  | _ => (.ok (), self)

/-- One key press. The program ends behind a key that quits or fails; here it need not. -/
def handleKey (prims : PortalPrimitives) (configPath : String) (self : App) (event : KeyContext × Key) :
    Outcome TuiError Unit × App :=
  let (context, key) := event
  let self := { self with db := self.db.run context.earlier }
  match key with
  | .ctrlC => (.ok (), { self with shouldQuit := true })
  | key =>
      if self.inputMode = .normal then self.handleNormalKey configPath context (normalAction key)
      else self.handleDialogKey prims context key

end App

end RdGateway.Server
