import RdGateway.Core.Database
import Mathlib.Data.List.Basic
import Mathlib.Data.String.Basic

/-!
# The connections table

The statements that the SQLite provider sends to the table of connections. No column
restricts what a text holds.
-/

set_option autoImplicit false

namespace RdGateway.Core

structure Connection where
  id : Int
  name : String
  host : String
  port : Int
  description : Option String
  icon : String
  createdAt : String
  updatedAt : String
deriving Repr, DecidableEq

/-- The rows in the order of their ids. -/
structure ConnectionTable where
  rows : List Connection
  nextId : Int
  assigned : ∀ conn ∈ rows, conn.id < nextId

namespace ConnectionTable

def empty : ConnectionTable :=
  { rows := [], nextId := 1, assigned := fun _ member => nomatch member }

def getConnection (connections : ConnectionTable) (id : Int) : Option Connection :=
  connections.rows.find? fun conn => conn.id = id

/-- `ORDER BY name`, and among connections of one name by id. -/
def listConnections (connections : ConnectionTable) : List Connection :=
  connections.rows.mergeSort fun left right => left.name ≤ right.name

/-- The timestamps of the answer are empty; those of the row come from the clock. -/
def createConnection (connections : ConnectionTable) (timestamp name host : String) (port : Int)
    (description : Option String) (icon : String) : Connection × ConnectionTable :=
  let conn : Connection :=
    { id := connections.nextId, name, host, port, description, icon, createdAt := "", updatedAt := "" }
  (conn,
    { rows := connections.rows ++ [{ conn with createdAt := timestamp, updatedAt := timestamp }]
      nextId := connections.nextId + 1
      assigned := by
        intro other member
        rcases List.mem_append.mp member with old | new
        · exact Int.lt_add_one_of_le (Int.le_of_lt (connections.assigned other old))
        · rw [List.mem_singleton.mp new]
          exact Int.lt_succ _ })

def setFields (id : Int) (timestamp name host : String) (port : Int) (description : Option String)
    (icon : String) (conn : Connection) : Connection :=
  if conn.id = id then { conn with name, host, port, description, icon, updatedAt := timestamp } else conn

@[simp] theorem setFields_id (id : Int) (timestamp name host : String) (port : Int)
    (description : Option String) (icon : String) (conn : Connection) :
    (setFields id timestamp name host port description icon conn).id = conn.id := by
  unfold setFields
  split <;> rfl

/-- `UPDATE connections ... WHERE id = ?`, which no row has to meet. -/
def updateConnection (connections : ConnectionTable) (id : Int) (timestamp name host : String)
    (port : Int) (description : Option String) (icon : String) : ConnectionTable :=
  { rows := connections.rows.map (setFields id timestamp name host port description icon)
    nextId := connections.nextId
    assigned := by
      intro conn member
      obtain ⟨before, old, rfl⟩ := List.mem_map.mp member
      rw [setFields_id]
      exact connections.assigned before old }

def deleteConnection (connections : ConnectionTable) (id : Int) : ConnectionTable :=
  { rows := connections.rows.filter fun conn => conn.id ≠ id
    nextId := connections.nextId
    assigned := fun conn member => connections.assigned conn (List.mem_of_mem_filter member) }

theorem getConnection_eq_some {connections : ConnectionTable} {id : Int} {conn : Connection}
    (found : connections.getConnection id = some conn) : conn ∈ connections.rows ∧ conn.id = id :=
  ⟨List.mem_of_find?_eq_some found, by simpa using List.find?_some found⟩

theorem mem_updateConnection {connections : ConnectionTable} {id : Int} {timestamp name host icon : String}
    {port : Int} {description : Option String} {conn : Connection}
    (stored : conn ∈ (connections.updateConnection id timestamp name host port description icon).rows) :
    (conn ∈ connections.rows ∧ conn.id ≠ id) ∨
      (conn.id = id ∧ conn.name = name ∧ conn.host = host ∧ conn.port = port) := by
  obtain ⟨before, old, rfl⟩ := List.mem_map.mp stored
  unfold setFields
  split
  · next same => exact .inr ⟨same, rfl, rfl, rfl⟩
  · next other => exact .inl ⟨old, other⟩

end ConnectionTable

end RdGateway.Core
