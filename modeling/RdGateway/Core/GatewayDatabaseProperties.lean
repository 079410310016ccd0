import RdGateway.Core.GatewayDatabase
import RdGateway.Wirekit.Since

/-!
# Runs of statements on the gateway's database

What each statement changes and what none undoes, and what the queries answer after any
run of statements.
-/

set_option autoImplicit false

namespace RdGateway.Core

open Wirekit

namespace GatewayDatabase

/-! ## One statement -/

theorem insertUser_eq_some {db later : GatewayDatabase} {username : String} {ntHash : Bytes}
    {passwordHash : Option String} (inserted : db.insertUser username ntHash passwordHash = some later) :
    ∃ users distinct kept, later = db.withUsers users distinct kept ∧
      username ∉ db.users.rows.map User.username ∧
      users.rows = db.users.rows ++
        [{ id := db.users.nextId, username, ntHash, enabled := true, passwordHash }] := by
  unfold insertUser at inserted
  split at inserted
  · next user users stored =>
    cases inserted
    obtain ⟨free, rows, rfl⟩ := UserTable.insert_eq_some stored
    exact ⟨users, _, _, rfl, free, rows⟩
  · cases inserted

theorem createGroup_eq_some {db later : GatewayDatabase} {name : String}
    (created : db.createGroup name = some later) :
    ∃ groups distinct kept, later = db.withGroups groups distinct kept ∧
      name ∉ db.groups.rows.map Group.name ∧
      groups.rows = db.groups.rows ++ [{ id := db.groups.nextId, name }] := by
  unfold createGroup at created
  split at created
  · next group groups stored =>
    cases created
    obtain ⟨free, rows, rfl⟩ := GroupTable.createGroup_eq_some stored
    exact ⟨groups, _, _, rfl, free, rows⟩
  · cases created

theorem insertUser_eq_none {db : GatewayDatabase} {username : String} {ntHash : Bytes}
    {passwordHash : Option String} (refused : db.insertUser username ntHash passwordHash = none) :
    username ∈ db.users.rows.map User.username := by
  unfold insertUser at refused
  split at refused
  · cases refused
  · next none =>
    unfold UserTable.insert at none
    split at none
    · next taken => exact taken
    · cases none

theorem createGroup_eq_none {db : GatewayDatabase} {name : String} (refused : db.createGroup name = none) :
    name ∈ db.groups.rows.map Group.name := by
  unfold createGroup at refused
  split at refused
  · cases refused
  · next none =>
    unfold GroupTable.createGroup at none
    split at none
    · next taken => exact taken
    · cases none

theorem addUserToGroup_eq_some {db later : GatewayDatabase} {userId groupId : Int}
    (added : db.addUserToGroup userId groupId = some later) :
    (db.users.HasId userId ∧ db.groups.HasId groupId) ∧ later.users = db.users ∧
      later.groups = db.groups ∧ later.aclRules = db.aclRules ∧ later.sessions = db.sessions ∧
      ∀ member, member ∈ later.userGroups ↔ member ∈ db.userGroups ∨ member = { userId, groupId } := by
  unfold addUserToGroup at added
  dsimp only at added
  split at added
  · next known =>
    refine ⟨known, ?_⟩
    split at added
    · next old =>
      cases added
      exact ⟨rfl, rfl, rfl, rfl, fun member => (or_iff_left_of_imp fun same => same ▸ old).symm⟩
    · cases added
      exact ⟨rfl, rfl, rfl, rfl, fun member => by rw [List.mem_append, List.mem_singleton]⟩
  · cases added

theorem addUserToGroup_isSome {db : GatewayDatabase} {userId groupId : Int}
    (user : db.users.HasId userId) (group : db.groups.HasId groupId) :
    ∃ later, db.addUserToGroup userId groupId = some later := by
  unfold addUserToGroup
  dsimp only
  rw [dif_pos ⟨user, group⟩]
  split
  · exact ⟨_, rfl⟩
  · exact ⟨_, rfl⟩

theorem createAclRule_eq_some {db later : GatewayDatabase} {rule : AclRule}
    (created : db.createAclRule rule = some later) :
    later.users = db.users ∧ later.groups = db.groups ∧ later.userGroups = db.userGroups ∧
      later.sessions = db.sessions ∧ later.aclRules.nextId = db.aclRules.nextId + 1 ∧
      later.aclRules.rows = db.aclRules.rows ++ [{ rule with id := db.aclRules.nextId }] := by
  unfold createAclRule at created
  split at created
  · split at created
    · next newRule aclRules stored =>
      cases created
      obtain ⟨rows, rfl⟩ := AclTable.createAclRule_eq_some stored
      exact ⟨rfl, rfl, rfl, rfl, AclTable.createAclRule_nextId stored, rows⟩
    · cases created
  · cases created

/-- A rule for everyone needs nothing but its action. -/
theorem createAclRule_isSome {db : GatewayDatabase} {rule : AclRule} (user : rule.userId = none)
    (group : rule.groupId = none) (action : rule.action = "allow" ∨ rule.action = "deny") :
    ∃ later, db.createAclRule rule = some later := by
  have scopes : References db.users db.groups rule.userId rule.groupId := by
    rw [user, group]
    exact ⟨fun id named => absurd named (Option.not_mem_none id),
      fun id named => absurd named (Option.not_mem_none id)⟩
  unfold createAclRule
  rw [dif_pos scopes]
  split
  · exact ⟨_, rfl⟩
  · next none =>
    unfold AclTable.createAclRule at none
    rw [dif_pos action] at none
    cases none

theorem createSession_eq_some {db later : GatewayDatabase} {timestamp : String} {session : Session}
    (created : db.createSession timestamp session = some later) :
    later.users = db.users ∧ later.groups = db.groups ∧ later.userGroups = db.userGroups ∧
      later.aclRules = db.aclRules ∧ session.id ∉ db.sessions.rows.map Session.id ∧
      later.sessions.rows =
        db.sessions.rows ++ [{ session with connectedAt := timestamp, disconnectedAt := none }] := by
  unfold createSession at created
  split at created
  · split at created
    · next sessions stored =>
      cases created
      obtain ⟨free, rows⟩ := SessionTable.createSession_eq_some stored
      exact ⟨rfl, rfl, rfl, rfl, free, rows⟩
    · cases created
  · cases created

/-! ## What no statement undoes -/

/-- Users keep their names, groups and memberships stay, and an id of a rule is not used again. -/
structure Later (earlier later : GatewayDatabase) : Prop where
  users : ∀ user ∈ earlier.users.rows, ∃ row ∈ later.users.rows,
    row.id = user.id ∧ row.username = user.username
  groups : ∀ group ∈ earlier.groups.rows, group ∈ later.groups.rows
  userGroups : ∀ member ∈ earlier.userGroups, member ∈ later.userGroups
  nextRuleId : earlier.aclRules.nextId ≤ later.aclRules.nextId
  oldRules : ∀ rule ∈ later.aclRules.rows, rule.id < earlier.aclRules.nextId → rule ∈ earlier.aclRules.rows

namespace Later

theorem refl (db : GatewayDatabase) : Later db db where
  users := fun user stored => ⟨user, stored, rfl, rfl⟩
  groups := fun _ stored => stored
  userGroups := fun _ stored => stored
  nextRuleId := Int.le_refl _
  oldRules := fun _ stored _ => stored

theorem trans {first second third : GatewayDatabase} (front : Later first second) (back : Later second third) :
    Later first third where
  users := by
    intro user stored
    obtain ⟨between, inside, id, name⟩ := front.users user stored
    obtain ⟨row, last, sameId, sameName⟩ := back.users between inside
    exact ⟨row, last, sameId.trans id, sameName.trans name⟩
  groups := fun group stored => back.groups group (front.groups group stored)
  userGroups := fun member stored => back.userGroups member (front.userGroups member stored)
  nextRuleId := Int.le_trans front.nextRuleId back.nextRuleId
  oldRules := fun rule stored old =>
    front.oldRules rule (back.oldRules rule stored (Int.lt_of_lt_of_le old front.nextRuleId)) old

/-- The tables of accounts only grow, and the rules stay. -/
theorem of_same_rules {earlier later : GatewayDatabase} (rules : later.aclRules = earlier.aclRules)
    (users : ∀ user ∈ earlier.users.rows, ∃ row ∈ later.users.rows,
      row.id = user.id ∧ row.username = user.username)
    (groups : ∀ group ∈ earlier.groups.rows, group ∈ later.groups.rows)
    (userGroups : ∀ member ∈ earlier.userGroups, member ∈ later.userGroups) : Later earlier later where
  users := users
  groups := groups
  userGroups := userGroups
  nextRuleId := by rw [rules]
  oldRules := fun _ stored _ => rules ▸ stored

/-- Only the rules change. -/
theorem of_same_accounts {earlier later : GatewayDatabase} (users : later.users = earlier.users)
    (groups : later.groups = earlier.groups) (userGroups : later.userGroups = earlier.userGroups)
    (nextRuleId : earlier.aclRules.nextId ≤ later.aclRules.nextId)
    (oldRules : ∀ rule ∈ later.aclRules.rows, rule.id < earlier.aclRules.nextId →
      rule ∈ earlier.aclRules.rows) : Later earlier later where
  users := fun user stored => ⟨user, users ▸ stored, rfl, rfl⟩
  groups := fun _ stored => groups ▸ stored
  userGroups := fun _ stored => userGroups ▸ stored
  nextRuleId := nextRuleId
  oldRules := oldRules

end Later

theorem insertUser_later {db later : GatewayDatabase} {username : String} {ntHash : Bytes}
    {passwordHash : Option String} (inserted : db.insertUser username ntHash passwordHash = some later) :
    Later db later := by
  obtain ⟨users, distinct, kept, rfl, _, rows⟩ := insertUser_eq_some inserted
  refine Later.of_same_rules rfl ?_ (fun _ stored => stored) fun _ stored => stored
  intro user stored
  exact ⟨user, by rw [withUsers, rows]; exact List.mem_append_left _ stored, rfl, rfl⟩

theorem setUserEnabled_later (db : GatewayDatabase) (userId : Int) (enabled : Bool) :
    Later db (db.setUserEnabled userId enabled) := by
  refine Later.of_same_rules rfl ?_ (fun _ stored => stored) fun _ stored => stored
  intro user stored
  exact ⟨_, List.mem_map_of_mem stored, UserTable.setEnabled_id _ _ user, UserTable.setEnabled_username _ _ user⟩

theorem exec_later {db later : GatewayDatabase} {statement : Statement}
    (executed : db.exec statement = some later) : Later db later := by
  have same {user : User} (stored : user ∈ db.users.rows) :
      ∃ row ∈ db.users.rows, row.id = user.id ∧ row.username = user.username := ⟨user, stored, rfl, rfl⟩
  cases statement with
  | createUser username ntHash => exact insertUser_later executed
  | createUserWithPassword username ntHash passwordHash => exact insertUser_later executed
  | setUserEnabled userId enabled =>
      cases executed
      exact db.setUserEnabled_later userId enabled
  | createGroup name =>
      obtain ⟨groups, distinct, kept, rfl, _, rows⟩ := createGroup_eq_some executed
      refine Later.of_same_rules rfl (fun _ => same) ?_ fun _ stored => stored
      intro group stored
      rw [withGroups, rows]
      exact List.mem_append_left _ stored
  | addUserToGroup userId groupId =>
      obtain ⟨_, users, groups, rules, _, members⟩ := addUserToGroup_eq_some executed
      exact Later.of_same_rules rules (fun _ stored => users ▸ same stored) (fun _ stored => groups ▸ stored)
        fun member stored => (members member).mpr (.inl stored)
  | createAclRule rule =>
      obtain ⟨users, groups, userGroups, _, nextId, rows⟩ := createAclRule_eq_some executed
      refine Later.of_same_accounts users groups userGroups (by omega) ?_
      intro other stored old
      rw [rows] at stored
      rcases List.mem_append.mp stored with before | last
      · exact before
      · rw [List.mem_singleton.mp last] at old
        exact absurd old (Int.lt_irrefl _)
  | deleteAclRule ruleId =>
      cases executed
      exact Later.of_same_accounts rfl rfl rfl (Int.le_refl _) fun _ stored _ => List.mem_of_mem_filter stored
  | createSession timestamp session =>
      obtain ⟨users, groups, userGroups, rules, _, _⟩ := createSession_eq_some executed
      exact Later.of_same_accounts users groups userGroups (by rw [rules]) fun _ stored _ => rules ▸ stored
  | endSession timestamp sessionId =>
      cases executed
      exact Later.of_same_accounts rfl rfl rfl (Int.le_refl _) fun _ stored _ => stored

theorem next_later (db : GatewayDatabase) (statement : Statement) : Later db (db.next statement) := by
  unfold next
  cases executed : db.exec statement with
  | none => exact .refl db
  | some later => exact exec_later executed

theorem run_later (db : GatewayDatabase) (statements : List Statement) : Later db (db.run statements) := by
  induction statements generalizing db with
  | nil => exact .refl db
  | cons statement rest ih => exact (db.next_later statement).trans (ih _)

/-- A rule that is stored behind a statement was stored before, or is the one it creates. -/
theorem exec_rules {db later : GatewayDatabase} {statement : Statement} (executed : db.exec statement = some later)
    {row : AclRule} (stored : row ∈ later.aclRules.rows) :
    row ∈ db.aclRules.rows ∨
      ∃ rule, statement = .createAclRule rule ∧ row = { rule with id := db.aclRules.nextId } := by
  cases statement with
  | createUser username ntHash =>
      obtain ⟨users, distinct, kept, rfl, _⟩ := insertUser_eq_some executed
      exact .inl stored
  | createUserWithPassword username ntHash passwordHash =>
      obtain ⟨users, distinct, kept, rfl, _⟩ := insertUser_eq_some executed
      exact .inl stored
  | setUserEnabled userId enabled => cases executed; exact .inl stored
  | createGroup name =>
      obtain ⟨groups, distinct, kept, rfl, _⟩ := createGroup_eq_some executed
      exact .inl stored
  | addUserToGroup userId groupId =>
      obtain ⟨_, _, _, rules, _⟩ := addUserToGroup_eq_some executed
      exact .inl (rules ▸ stored)
  | createAclRule rule =>
      obtain ⟨_, _, _, _, _, rows⟩ := createAclRule_eq_some executed
      rw [rows] at stored
      rcases List.mem_append.mp stored with old | last
      · exact .inl old
      · exact .inr ⟨rule, rfl, List.mem_singleton.mp last⟩
  | deleteAclRule ruleId => cases executed; exact .inl (List.mem_of_mem_filter stored)
  | createSession timestamp session =>
      obtain ⟨_, _, _, rules, _⟩ := createSession_eq_some executed
      exact .inl (rules ▸ stored)
  | endSession timestamp sessionId => cases executed; exact .inl stored

/-! ## The groups of a user -/

theorem mem_getUserGroups {db : GatewayDatabase} {userId : Int} {group : Group} :
    group ∈ db.getUserGroups userId ↔
      group ∈ db.groups.rows ∧ { userId, groupId := group.id } ∈ db.userGroups := by
  rw [getUserGroups, List.mem_filter, decide_eq_true_iff]

theorem getUserGroups_congr {db later : GatewayDatabase} (groups : later.groups = db.groups)
    (userGroups : later.userGroups = db.userGroups) (userId : Int) :
    later.getUserGroups userId = db.getUserGroups userId := by
  rw [getUserGroups, getUserGroups, groups, userGroups]

/-- The statement makes the user a member of the group. -/
def Assigns (userId : Int) (group : Group) (db : GatewayDatabase) (statement : Statement) : Prop :=
  statement = .addUserToGroup userId group.id ∧ db.users.HasId userId ∧ group ∈ db.groups.rows

theorem createGroup_getUserGroups {db later : GatewayDatabase} {name : String}
    (created : db.createGroup name = some later) (userId : Int) :
    later.getUserGroups userId = db.getUserGroups userId := by
  obtain ⟨groups, distinct, kept, rfl, _, rows⟩ := createGroup_eq_some created
  have unused : ¬ ({ userId, groupId := db.groups.nextId } : UserGroup) ∈ db.userGroups := by
    intro member
    obtain ⟨group, stored, same⟩ := (db.members _ member).group _ rfl
    exact absurd (db.groups.assigned group stored) (by rw [same]; exact Int.lt_irrefl _)
  rw [getUserGroups, withGroups, rows, List.filter_append]
  simp only [List.filter_cons, unused, decide_false, Bool.false_eq_true, if_false, List.filter_nil,
    List.append_nil]
  rfl

theorem next_getUserGroups (db : GatewayDatabase) (statement : Statement) (userId : Int) (group : Group) :
    group ∈ (db.next statement).getUserGroups userId ↔
      Assigns userId group db statement ∨ group ∈ db.getUserGroups userId := by
  have other {later : GatewayDatabase} (same : later.getUserGroups userId = db.getUserGroups userId)
      (different : ¬ Assigns userId group db statement) :
      group ∈ later.getUserGroups userId ↔
        Assigns userId group db statement ∨ group ∈ db.getUserGroups userId := by
    rw [same, or_iff_right different]
  unfold next
  cases executed : db.exec statement with
  | none =>
      refine other rfl fun assigns => ?_
      obtain ⟨rfl, user, stored⟩ := assigns
      obtain ⟨later, added⟩ := addUserToGroup_isSome user ⟨group, stored, rfl⟩
      rw [exec, added] at executed
      cases executed
  | some later =>
      rw [Option.getD_some]
      cases statement with
      | createUser username ntHash =>
          obtain ⟨users, distinct, kept, rfl, _⟩ := insertUser_eq_some executed
          exact other rfl fun assigns => by cases assigns.1
      | createUserWithPassword username ntHash passwordHash =>
          obtain ⟨users, distinct, kept, rfl, _⟩ := insertUser_eq_some executed
          exact other rfl fun assigns => by cases assigns.1
      | setUserEnabled id enabled =>
          cases executed
          exact other rfl fun assigns => by cases assigns.1
      | createGroup name =>
          exact other (createGroup_getUserGroups executed userId) fun assigns => by cases assigns.1
      | addUserToGroup id groupId =>
          obtain ⟨known, _, groups, _, _, members⟩ := addUserToGroup_eq_some executed
          rw [mem_getUserGroups, mem_getUserGroups, members, groups, and_or_left, or_comm]
          refine or_congr_left ?_
          constructor
          · intro last
            obtain ⟨stored, same⟩ := last
            cases same
            exact ⟨rfl, known.1, stored⟩
          · intro assigns
            obtain ⟨same, _, stored⟩ := assigns
            cases same
            exact ⟨stored, rfl⟩
      | createAclRule rule =>
          obtain ⟨_, groups, userGroups, _⟩ := createAclRule_eq_some executed
          exact other (getUserGroups_congr groups userGroups userId) fun assigns => by cases assigns.1
      | deleteAclRule ruleId =>
          cases executed
          exact other rfl fun assigns => by cases assigns.1
      | createSession timestamp session =>
          obtain ⟨_, groups, userGroups, _⟩ := createSession_eq_some executed
          exact other (getUserGroups_congr groups userGroups userId) fun assigns => by cases assigns.1
      | endSession timestamp sessionId =>
          cases executed
          exact other rfl fun assigns => by cases assigns.1

/-- After every run of statements the groups of a user are those that it was added to while
both were there, each once. -/
theorem getUserGroups_run (statements : List Statement) (userId : Int) :
    ((empty.run statements).getUserGroups userId).Nodup ∧
      ∀ group, group ∈ (empty.run statements).getUserGroups userId ↔
        ∃ before after, statements = before ++ .addUserToGroup userId group.id :: after ∧
          (empty.run before).users.HasId userId ∧ group ∈ (empty.run before).groups.rows := by
  refine ⟨(List.Nodup.of_map _ (empty.run statements).groupIds).filter _, fun group => ?_⟩
  let Member (db : GatewayDatabase) : Prop := group ∈ db.getUserGroups userId
  have nobody : ¬ Member empty := List.not_mem_nil
  -- nobody is taken out of a group
  have step (db : GatewayDatabase) (statement : Statement) : Member (db.next statement) ↔
      Assigns userId group db statement ∨ (Member db ∧ ¬ False) := by
    rw [not_false_eq_true, and_true]
    exact db.next_getUserGroups statement userId group
  refine (holds_iff_establishedSince nobody step statements).trans ?_
  constructor
  · intro established
    obtain ⟨before, _, after, rfl, ⟨rfl, user, stored⟩, _⟩ := established
    exact ⟨before, after, rfl, user, stored⟩
  · intro added
    obtain ⟨before, after, rfl, user, stored⟩ := added
    exact ⟨before, _, after, rfl, ⟨rfl, user, stored⟩, fun _ _ => not_false⟩

/-! ## Active sessions -/

/-- The statement stores the session, and nothing refuses it. -/
def Opens (session : Session) (db : GatewayDatabase) (statement : Statement) : Prop :=
  ∃ timestamp given, statement = .createSession timestamp given ∧ db.exec statement ≠ none ∧
    session = { given with connectedAt := timestamp, disconnectedAt := none }

def Ends (sessionId : String) (statement : Statement) : Prop :=
  ∃ timestamp, statement = .endSession timestamp sessionId

end GatewayDatabase

end RdGateway.Core
