import RdGateway.Core.AclTable
import RdGateway.Core.GroupTable
import RdGateway.Core.UserTable
import RdGateway.Wirekit.Rows

/-!
# The gateway's database

The tables of accounts, groups, rules and sessions with the constraints between them, and
the statements that change them. Foreign keys are enforced, as the driver switches them on.
-/

set_option autoImplicit false

namespace RdGateway.Core

open Wirekit

def UserTable.HasId (users : UserTable) (id : Int) : Prop := ∃ user ∈ users.rows, user.id = id

def GroupTable.HasId (groups : GroupTable) (id : Int) : Prop := ∃ group ∈ groups.rows, group.id = id

instance (users : UserTable) (id : Int) : Decidable (users.HasId id) :=
  inferInstanceAs (Decidable (∃ user ∈ users.rows, user.id = id))

instance (groups : GroupTable) (id : Int) : Decidable (groups.HasId id) :=
  inferInstanceAs (Decidable (∃ group ∈ groups.rows, group.id = id))

/-- The user and the group that a row of another table names are there. -/
structure References (users : UserTable) (groups : GroupTable) (userId groupId : Option Int) : Prop where
  user : ∀ id ∈ userId, users.HasId id
  group : ∀ id ∈ groupId, groups.HasId id

instance (users : UserTable) (groups : GroupTable) (userId groupId : Option Int) :
    Decidable (References users groups userId groupId) :=
  decidable_of_iff ((∀ id ∈ userId, users.HasId id) ∧ ∀ id ∈ groupId, groups.HasId id)
    ⟨fun holds => ⟨holds.1, holds.2⟩, fun references => ⟨references.user, references.group⟩⟩

structure GatewayDatabase where
  users : UserTable
  groups : GroupTable
  userGroups : List UserGroup
  aclRules : AclTable
  sessions : SessionTable
  userIds : (users.rows.map User.id).Nodup
  groupIds : (groups.rows.map Group.id).Nodup
  ruleIds : (aclRules.rows.map AclRule.id).Nodup
  membersOnce : userGroups.Nodup
  members : ∀ member ∈ userGroups, References users groups (some member.userId) (some member.groupId)
  ruleScopes : ∀ rule ∈ aclRules.rows, References users groups rule.userId rule.groupId
  sessionUsers : ∀ session ∈ sessions.rows, users.HasId session.userId

theorem References.mono {users laterUsers : UserTable} {groups laterGroups : GroupTable}
    {userId groupId : Option Int} (references : References users groups userId groupId)
    (users_kept : ∀ id, users.HasId id → laterUsers.HasId id)
    (groups_kept : ∀ id, groups.HasId id → laterGroups.HasId id) :
    References laterUsers laterGroups userId groupId :=
  ⟨fun id named => users_kept id (references.user id named),
    fun id named => groups_kept id (references.group id named)⟩

/-! ## Rows that are added -/

theorem UserTable.insert_ids {users later : UserTable} {username : String} {ntHash : Bytes}
    {passwordHash : Option String} {user : User} (distinct : (users.rows.map User.id).Nodup)
    (inserted : users.insert username ntHash passwordHash = some (user, later)) :
    (later.rows.map User.id).Nodup ∧ ∀ id, users.HasId id → later.HasId id := by
  obtain ⟨_, rows, rfl⟩ := UserTable.insert_eq_some inserted
  constructor
  · rw [rows]
    exact append_keys_nodup distinct fun other member => Int.ne_of_lt (users.assigned other member)
  · intro id known
    obtain ⟨user, member, same⟩ := known
    exact ⟨user, by rw [rows]; exact List.mem_append_left _ member, same⟩

theorem UserTable.setUserEnabled_ids (users : UserTable) (userId : Int) (enabled : Bool) :
    (users.setUserEnabled userId enabled).rows.map User.id = users.rows.map User.id := by
  rw [UserTable.setUserEnabled, List.map_map]
  exact List.map_congr_left fun user _ => UserTable.setEnabled_id userId enabled user

theorem UserTable.hasId_iff {users : UserTable} {id : Int} :
    users.HasId id ↔ id ∈ users.rows.map User.id := List.mem_map.symm

theorem GroupTable.createGroup_ids {groups later : GroupTable} {name : String} {group : Group}
    (distinct : (groups.rows.map Group.id).Nodup) (created : groups.createGroup name = some (group, later)) :
    (later.rows.map Group.id).Nodup ∧ ∀ id, groups.HasId id → later.HasId id := by
  obtain ⟨_, rows, rfl⟩ := GroupTable.createGroup_eq_some created
  constructor
  · rw [rows]
    exact append_keys_nodup distinct fun other member => Int.ne_of_lt (groups.assigned other member)
  · intro id known
    obtain ⟨group, member, same⟩ := known
    exact ⟨group, by rw [rows]; exact List.mem_append_left _ member, same⟩

/-! ## Statements -/

/-- The statements that write. -/
inductive Statement where
  | createUser (username : String) (ntHash : Bytes)
  | createUserWithPassword (username : String) (ntHash : Bytes) (passwordHash : String)
  | setUserEnabled (userId : Int) (enabled : Bool)
  | createGroup (name : String)
  | addUserToGroup (userId groupId : Int)
  | createAclRule (rule : AclRule)
  | deleteAclRule (ruleId : Int)
  | createSession (timestamp : String) (session : Session)
  | endSession (timestamp sessionId : String)
deriving Repr, DecidableEq

namespace GatewayDatabase

def empty : GatewayDatabase :=
  { users := .empty, groups := .empty, userGroups := [], aclRules := .empty, sessions := .empty
    userIds := List.nodup_nil, groupIds := List.nodup_nil, ruleIds := List.nodup_nil
    membersOnce := List.nodup_nil, members := List.forall_mem_nil _, ruleScopes := List.forall_mem_nil _
    sessionUsers := List.forall_mem_nil _ }

def withUsers (db : GatewayDatabase) (users : UserTable) (distinct : (users.rows.map User.id).Nodup)
    (kept : ∀ id, db.users.HasId id → users.HasId id) : GatewayDatabase :=
  { db with
    users
    userIds := distinct
    members := fun member listed => (db.members member listed).mono kept fun _ known => known
    ruleScopes := fun rule listed => (db.ruleScopes rule listed).mono kept fun _ known => known
    sessionUsers := fun session listed => kept _ (db.sessionUsers session listed) }

def withGroups (db : GatewayDatabase) (groups : GroupTable) (distinct : (groups.rows.map Group.id).Nodup)
    (kept : ∀ id, db.groups.HasId id → groups.HasId id) : GatewayDatabase :=
  { db with
    groups
    groupIds := distinct
    members := fun member listed => (db.members member listed).mono (fun _ known => known) kept
    ruleScopes := fun rule listed => (db.ruleScopes rule listed).mono (fun _ known => known) kept }

def insertUser (db : GatewayDatabase) (username : String) (ntHash : Bytes) (passwordHash : Option String) :
    Option GatewayDatabase :=
  match inserted : db.users.insert username ntHash passwordHash with
  | some (_, users) =>
      let ids := UserTable.insert_ids db.userIds inserted
      some (db.withUsers users ids.1 ids.2)
  | none => none

def setUserEnabled (db : GatewayDatabase) (userId : Int) (enabled : Bool) : GatewayDatabase :=
  let ids := db.users.setUserEnabled_ids userId enabled
  db.withUsers (db.users.setUserEnabled userId enabled) (ids ▸ db.userIds) fun _ known =>
    UserTable.hasId_iff.mpr (ids ▸ UserTable.hasId_iff.mp known)

def createGroup (db : GatewayDatabase) (name : String) : Option GatewayDatabase :=
  match created : db.groups.createGroup name with
  | some (_, groups) =>
      let ids := GroupTable.createGroup_ids db.groupIds created
      some (db.withGroups groups ids.1 ids.2)
  | none => none

/-- `INSERT OR IGNORE`: a row that is there already is no error, a missing user or group is one. -/
def addUserToGroup (db : GatewayDatabase) (userId groupId : Int) : Option GatewayDatabase :=
  let member : UserGroup := { userId, groupId }
  if known : db.users.HasId userId ∧ db.groups.HasId groupId then
    if new : member ∈ db.userGroups then some db
    else
      some
        { db with
          userGroups := db.userGroups ++ [member]
          membersOnce := by
            rw [← List.concat_eq_append]
            exact db.membersOnce.concat new
          members := by
            intro other listed
            rcases List.mem_append.mp listed with old | last
            · exact db.members other old
            · rw [List.mem_singleton.mp last]
              exact ⟨fun id same => Option.some.inj same ▸ known.1,
                fun id same => Option.some.inj same ▸ known.2⟩ }
  else none

def createAclRule (db : GatewayDatabase) (rule : AclRule) : Option GatewayDatabase :=
  if scopes : References db.users db.groups rule.userId rule.groupId then
    match created : db.aclRules.createAclRule rule with
    | some (newRule, aclRules) =>
        have stored := AclTable.createAclRule_eq_some created
        some
          { db with
            aclRules
            ruleIds := by
              rw [stored.1, stored.2]
              exact append_keys_nodup db.ruleIds fun other member =>
                Int.ne_of_lt (db.aclRules.assigned other member)
            ruleScopes := by
              intro other listed
              rw [stored.1] at listed
              rcases List.mem_append.mp listed with old | last
              · exact db.ruleScopes other old
              · rw [List.mem_singleton.mp last, stored.2]
                exact scopes }
    | none => none
  else none

def deleteAclRule (db : GatewayDatabase) (ruleId : Int) : GatewayDatabase :=
  { db with
    aclRules := db.aclRules.deleteAclRule ruleId
    ruleIds := filter_keys_nodup db.ruleIds _
    ruleScopes := fun rule listed => db.ruleScopes rule (List.mem_of_mem_filter listed) }

def createSession (db : GatewayDatabase) (timestamp : String) (session : Session) : Option GatewayDatabase :=
  if known : db.users.HasId session.userId then
    match created : db.sessions.createSession timestamp session with
    | some sessions =>
        some
          { db with
            sessions
            sessionUsers := by
              intro other listed
              rw [(SessionTable.createSession_eq_some created).2] at listed
              rcases List.mem_append.mp listed with old | last
              · exact db.sessionUsers other old
              · rw [List.mem_singleton.mp last]
                exact known }
    | none => none
  else none

def endSession (db : GatewayDatabase) (timestamp sessionId : String) : GatewayDatabase :=
  { db with
    sessions := db.sessions.endSession timestamp sessionId
    sessionUsers := by
      intro session listed
      obtain ⟨before, old, rfl⟩ := List.mem_map.mp listed
      rw [SessionTable.setDisconnected_userId]
      exact db.sessionUsers before old }

/-- `none` when a constraint refuses the statement. -/
def exec (db : GatewayDatabase) : Statement → Option GatewayDatabase
  | .createUser username ntHash => db.insertUser username ntHash none
  | .createUserWithPassword username ntHash passwordHash => db.insertUser username ntHash (some passwordHash)
  | .setUserEnabled userId enabled => some (db.setUserEnabled userId enabled)
  | .createGroup name => db.createGroup name
  | .addUserToGroup userId groupId => db.addUserToGroup userId groupId
  | .createAclRule rule => db.createAclRule rule
  | .deleteAclRule ruleId => some (db.deleteAclRule ruleId)
  | .createSession timestamp session => db.createSession timestamp session
  | .endSession timestamp sessionId => some (db.endSession timestamp sessionId)

/-- A refused statement changes nothing. -/
def next (db : GatewayDatabase) (statement : Statement) : GatewayDatabase := (db.exec statement).getD db

def run (db : GatewayDatabase) (statements : List Statement) : GatewayDatabase := statements.foldl next db

/-- The groups that a row of `user_groups` joins with the user, by id. -/
def getUserGroups (db : GatewayDatabase) (userId : Int) : List Group :=
  db.groups.rows.filter fun group => { userId, groupId := group.id } ∈ db.userGroups

end GatewayDatabase

end RdGateway.Core
