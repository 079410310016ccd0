import RdGateway.Server.PortalAuth
import RdGateway.Wirekit.Run
import RdGateway.Wirekit.Store

/-!
# The portal and the management TUI on one database

A step is one statement of a handler or of the TUI, with the code around it. Any
number of handlers run at once, and any statement may fail.
-/

set_option autoImplicit false

namespace RdGateway.Server

open Wirekit Proto RdGateway.Core

abbrev TaskId := Nat

/-- A sign-up or sign-in request, by the statements that it has behind it. -/
inductive AuthTask where
  | signupChecking (username password : String)
  | signupCreating (username password : String)
  | signinLooking (username password : String)
  | signinVerifying (password : String) (found : Except DbError (Option User))
  | answered (reply : AuthReply)

def AuthTask.ofSignup : Except AuthReply (String × String) → AuthTask
  | .ok (username, password) => .signupChecking username password
  | .error reply => .answered reply

def AuthTask.ofLookup (username password : String) : Option AuthReply → AuthTask
  | some reply => .answered reply
  | none => .signupCreating username password

structure Portal where
  users : UserTable
  tasks : Store TaskId AuthTask

def Portal.init : Portal := { users := .empty, tasks := .empty }

inductive Endpoint where
  | connections
  | guacamole
deriving Repr, DecidableEq

def authorises (prims : PortalPrimitives) (config : PortalConfig) (endpoint : Endpoint) (now : Nat)
    (cookieHeader : Option String) : Option Int :=
  match endpoint with
  | .connections => (checkSession prims config now cookieHeader).toOption
  | .guacamole =>
      if guacWsHandler prims config now cookieHeader = .upgraded then
        validateSessionCookie prims config now cookieHeader
      else none

inductive PortalAction where
  | createUser (username : String) (created : Option Int)
  | setUserEnabled (userId : Int) (enabled : Bool)
  | signup (task : TaskId)
  | signupCheck (task : TaskId)
  | signupCreate (task : TaskId) (username : String) (created : Option Int)
  | signin (task : TaskId)
  | signinLookUp (task : TaskId)
  | signinAnswer (task : TaskId)
  | request (endpoint : Endpoint) (cookieHeader : Option String) (now : Nat)
      (authorised : Option Int)
deriving Repr, DecidableEq

/-- A lookup gives what the table holds, or fails. -/
def Reads (users : UserTable) (username : String) (found : Except DbError (Option User)) : Prop :=
  ∀ user, found = .ok user → user = users.getUserByUsername username

namespace Portal

variable (prims : PortalPrimitives) (config : PortalConfig)

inductive Step : Portal → PortalAction → Portal → Prop where
  -- the TUI's dialog, which looks nothing up
  | createUser {portal : Portal} {username password : String} {user : User} {later : UserTable}
      (filled : username ≠ "" ∧ password ≠ "")
      (inserted : portal.users.createUser username (computeNtHash prims password) =
        some (user, later)) :
      Step portal (.createUser username (some user.id)) { portal with users := later }
  | createUserFails {portal : Portal} (username : String) :
      Step portal (.createUser username none) portal
  | setUserEnabled {portal : Portal} (userId : Int) (enabled : Bool) :
      Step portal (.setUserEnabled userId enabled)
        { portal with users := portal.users.setUserEnabled userId enabled }
  | signup {portal : Portal} {task : TaskId} (unused : portal.tasks task = none)
      (req : AuthRequest) :
      Step portal (.signup task)
        { portal with tasks := portal.tasks.insert task (.ofSignup (Server.signup req)) }
  | signupCheck {portal : Portal} {task : TaskId} {username password : String}
      (ready : portal.tasks task = some (.signupChecking username password))
      (found : Except DbError (Option User)) (read : Reads portal.users username found) :
      Step portal (.signupCheck task)
        { portal with
          tasks := portal.tasks.insert task (.ofLookup username password (signupFound found)) }
  | signupCreate {portal : Portal} {task : TaskId} {username password salt passwordHash : String}
      {ntHash : Bytes} {user : User} {later : UserTable}
      (ready : portal.tasks task = some (.signupCreating username password))
      (hashed : signupHashes prims salt password = .ok (ntHash, passwordHash))
      (inserted : portal.users.createUserWithPassword username ntHash passwordHash =
        some (user, later)) (now : Nat) :
      Step portal (.signupCreate task username (some user.id))
        { users := later
          tasks := portal.tasks.insert task
            (.answered (signupCreated prims config now (some user))) }
  | signupCreateFails {portal : Portal} {task : TaskId} {username password : String}
      (ready : portal.tasks task = some (.signupCreating username password)) (now : Nat) :
      Step portal (.signupCreate task username none)
        { portal with
          tasks := portal.tasks.insert task (.answered (signupCreated prims config now none)) }
  | signupHashFails {portal : Portal} {task : TaskId} {username password salt : String}
      {reply : AuthReply} (ready : portal.tasks task = some (.signupCreating username password))
      (hashed : signupHashes prims salt password = .error reply) :
      Step portal (.signupCreate task username none)
        { portal with tasks := portal.tasks.insert task (.answered reply) }
  | signin {portal : Portal} {task : TaskId} (unused : portal.tasks task = none)
      (req : AuthRequest) :
      Step portal (.signin task)
        { portal with
          tasks := portal.tasks.insert task
            (.signinLooking (trimName req.username) req.password) }
  | signinLookUp {portal : Portal} {task : TaskId} {username password : String}
      (ready : portal.tasks task = some (.signinLooking username password))
      (found : Except DbError (Option User)) (read : Reads portal.users username found) :
      Step portal (.signinLookUp task)
        { portal with tasks := portal.tasks.insert task (.signinVerifying password found) }
  | signinAnswer {portal : Portal} {task : TaskId} {password : String}
      {found : Except DbError (Option User)}
      (ready : portal.tasks task = some (.signinVerifying password found)) (now : Nat) :
      Step portal (.signinAnswer task)
        { portal with
          tasks := portal.tasks.insert task
            (.answered (signinFound prims config now password found)) }
  | request {portal : Portal} (endpoint : Endpoint) (cookieHeader : Option String) (now : Nat) :
      Step portal
        (.request endpoint cookieHeader now (authorises prims config endpoint now cookieHeader)) portal

end Portal

/-! ## The table and the labels -/

def PortalAction.stores : PortalAction → Option (String × Int)
  | .createUser username (some userId) => some (username, userId)
  | .signupCreate _ username (some userId) => some (username, userId)
  | _ => none

def PortalAction.switches : PortalAction → Option (Int × Bool)
  | .setUserEnabled userId enabled => some (userId, enabled)
  | _ => none

inductive TableChange (users : UserTable) : PortalAction → UserTable → Prop where
  | inserted {label : PortalAction} {user : User} {later : UserTable}
      (stored : label.stores = some (user.username, user.id)) (enabled : user.enabled = true)
      (free : user.username ∉ users.rows.map User.username)
      (rows : later.rows = users.rows ++ [user]) : TableChange users label later
  | enabled (userId : Int) (flag : Bool) :
      TableChange users (.setUserEnabled userId flag) (users.setUserEnabled userId flag)
  | same {label : PortalAction} (nothing : label.stores = none)
      (unswitched : label.switches = none) : TableChange users label users

theorem Portal.Step.tableChange {prims : PortalPrimitives} {config : PortalConfig}
    {portal next : Portal} {label : PortalAction} (taken : Portal.Step prims config portal label next) :
    TableChange portal.users label next.users := by
  cases taken with
  | createUser filled inserted =>
      obtain ⟨free, rows, rfl⟩ := UserTable.insert_eq_some inserted
      exact .inserted rfl rfl free rows
  | signupCreate ready hashed inserted now =>
      obtain ⟨free, rows, rfl⟩ := UserTable.insert_eq_some inserted
      exact .inserted rfl rfl free rows
  | setUserEnabled userId enabled => exact .enabled userId enabled
  | createUserFails => exact .same rfl rfl
  | signup => exact .same rfl rfl
  | signupCheck => exact .same rfl rfl
  | signupCreateFails => exact .same rfl rfl
  | signupHashFails => exact .same rfl rfl
  | signin => exact .same rfl rfl
  | signinLookUp => exact .same rfl rfl
  | signinAnswer => exact .same rfl rfl
  | request => exact .same rfl rfl

end RdGateway.Server
