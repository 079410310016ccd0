import Mathlib.Data.List.Nodup
import RdGateway.Core.Database

/-!
# The tables of groups and of open sessions

The statements that the SQLite provider sends to the table of groups and to the table of
sessions. The time of a row comes from the clock.
-/

set_option autoImplicit false

namespace RdGateway.Core

structure UserGroup where
  userId : Int
  groupId : Int
deriving Repr, DecidableEq

/-- The rows in the order of their ids, with the constraints of the schema. -/
structure GroupTable where
  rows : List Group
  nextId : Int
  unique : (rows.map Group.name).Nodup
  assigned : ∀ group ∈ rows, group.id < nextId

namespace GroupTable

def empty : GroupTable :=
  { rows := [], nextId := 1, unique := List.nodup_nil, assigned := List.forall_mem_nil _ }

def listGroups (groups : GroupTable) : List Group := groups.rows

/-- `INSERT INTO groups`, which a stored row with the same bytes in `name` refuses. -/
def createGroup (groups : GroupTable) (name : String) : Option (Group × GroupTable) :=
  if taken : name ∈ groups.rows.map Group.name then none
  else
    let group : Group := { id := groups.nextId, name }
    some (group,
      { rows := groups.rows ++ [group]
        nextId := groups.nextId + 1
        unique := by
          rw [List.map_append, List.map_singleton, ← List.concat_eq_append]
          exact groups.unique.concat taken
        assigned := by
          intro other member
          rcases List.mem_append.mp member with old | new
          · exact Int.lt_add_one_of_le (Int.le_of_lt (groups.assigned other old))
          · rw [List.mem_singleton.mp new]
            exact Int.lt_succ _ })

theorem createGroup_eq_some {groups later : GroupTable} {name : String} {group : Group}
    (created : groups.createGroup name = some (group, later)) :
    name ∉ groups.rows.map Group.name ∧ later.rows = groups.rows ++ [group] ∧
      group = { id := groups.nextId, name } := by
  unfold createGroup at created
  split at created
  · cases created
  · next free =>
    cases created
    exact ⟨free, rfl, rfl⟩

end GroupTable

/-! ## Sessions -/

structure Session where
  id : String
  userId : Int
  clientIp : String
  targetHost : Option String
  targetPort : Option Int
  connectedAt : String
  disconnectedAt : Option String
deriving Repr, DecidableEq

/-- `id` is the primary key. -/
structure SessionTable where
  rows : List Session
  unique : (rows.map Session.id).Nodup

namespace SessionTable

def empty : SessionTable := { rows := [], unique := List.nodup_nil }

/-- `INSERT INTO sessions`, which a stored row with the same id refuses. -/
def createSession (sessions : SessionTable) (timestamp : String) (session : Session) : Option SessionTable :=
  if taken : session.id ∈ sessions.rows.map Session.id then none
  else
    some
      { rows := sessions.rows ++ [{ session with connectedAt := timestamp, disconnectedAt := none }]
        unique := by
          rw [List.map_append, List.map_singleton, ← List.concat_eq_append]
          exact sessions.unique.concat taken }

def setDisconnected (sessionId timestamp : String) (session : Session) : Session :=
  if session.id = sessionId then { session with disconnectedAt := some timestamp } else session

@[simp] theorem setDisconnected_id (sessionId timestamp : String) (session : Session) :
    (setDisconnected sessionId timestamp session).id = session.id := by
  unfold setDisconnected
  split <;> rfl

@[simp] theorem setDisconnected_userId (sessionId timestamp : String) (session : Session) :
    (setDisconnected sessionId timestamp session).userId = session.userId := by
  unfold setDisconnected
  split <;> rfl

/-- `UPDATE sessions ... WHERE id = ?`, which no row has to meet. -/
def endSession (sessions : SessionTable) (timestamp sessionId : String) : SessionTable :=
  { rows := sessions.rows.map (setDisconnected sessionId timestamp)
    unique := by
      rw [List.map_map]
      exact (List.map_congr_left fun session _ => setDisconnected_id sessionId timestamp session) ▸
        sessions.unique }

theorem createSession_eq_some {sessions later : SessionTable} {timestamp : String} {session : Session}
    (created : sessions.createSession timestamp session = some later) :
    session.id ∉ sessions.rows.map Session.id ∧
      later.rows = sessions.rows ++ [{ session with connectedAt := timestamp, disconnectedAt := none }] := by
  unfold createSession at created
  split at created
  · cases created
  · next free =>
    cases created
    exact ⟨free, rfl⟩

/-- `WHERE disconnected_at IS NULL`. -/
def getActiveSessions (sessions : SessionTable) : List Session :=
  sessions.rows.filter fun session => session.disconnectedAt.isNone

end SessionTable

end RdGateway.Core
