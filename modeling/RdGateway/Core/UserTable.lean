import RdGateway.Core.Database
import Mathlib.Data.List.Nodup

/-!
# The users table

The statements that the SQLite provider sends to the table of users. A `TEXT UNIQUE`
column compares bytewise; `COLLATE NOCASE` folds the 26 upper-case letters of ASCII.
-/

set_option autoImplicit false

namespace RdGateway.Core

open Wirekit

/-- The rows in the order of their ids, with the constraints of the schema. -/
structure UserTable where
  rows : List User
  nextId : Int
  unique : (rows.map User.username).Nodup
  assigned : ∀ user ∈ rows, user.id < nextId

def foldNoCase (c : Char) : Char :=
  if 'A' ≤ c ∧ c ≤ 'Z' then Char.ofNat (c.toNat + 32) else c

/-- Equality under `COLLATE NOCASE`. -/
def SameNoCase (left right : String) : Prop :=
  left.toList.map foldNoCase = right.toList.map foldNoCase

instance (left right : String) : Decidable (SameNoCase left right) :=
  inferInstanceAs (Decidable (_ = _))

theorem SameNoCase.symm {left right : String} (same : SameNoCase left right) :
    SameNoCase right left := Eq.symm same

theorem SameNoCase.trans {first second third : String} (front : SameNoCase first second)
    (back : SameNoCase second third) : SameNoCase first third := Eq.trans front back

namespace UserTable

def empty : UserTable :=
  { rows := [], nextId := 1, unique := List.nodup_nil, assigned := fun _ member => nomatch member }

def listUsers (users : UserTable) : List User := users.rows

/-- `WHERE username = ? COLLATE NOCASE`, of which the first row is fetched. -/
def getUserByUsername (users : UserTable) (username : String) : Option User :=
  users.rows.find? fun user => SameNoCase user.username username

/-- `INSERT INTO users`, which a stored row with the same bytes in `username` refuses. -/
def insert (users : UserTable) (username : String) (ntHash : Bytes) (passwordHash : Option String) :
    Option (User × UserTable) :=
  if taken : username ∈ users.rows.map User.username then none
  else
    let user : User := { id := users.nextId, username, ntHash, enabled := true, passwordHash }
    some (user,
      { rows := users.rows ++ [user]
        nextId := users.nextId + 1
        unique := by
          rw [List.map_append, List.map_singleton, ← List.concat_eq_append]
          exact users.unique.concat taken
        assigned := by
          intro other member
          rcases List.mem_append.mp member with old | new
          · exact Int.lt_add_one_of_le (Int.le_of_lt (users.assigned other old))
          · rw [List.mem_singleton.mp new]
            exact Int.lt_succ _ })

def createUser (users : UserTable) (username : String) (ntHash : Bytes) : Option (User × UserTable) :=
  users.insert username ntHash none

def createUserWithPassword (users : UserTable) (username : String) (ntHash : Bytes)
    (passwordHash : String) : Option (User × UserTable) :=
  users.insert username ntHash (some passwordHash)

def setEnabled (userId : Int) (enabled : Bool) (user : User) : User :=
  if user.id = userId then { user with enabled } else user

@[simp] theorem setEnabled_id (userId : Int) (enabled : Bool) (user : User) :
    (setEnabled userId enabled user).id = user.id := by
  unfold setEnabled
  split <;> rfl

@[simp] theorem setEnabled_username (userId : Int) (enabled : Bool) (user : User) :
    (setEnabled userId enabled user).username = user.username := by
  unfold setEnabled
  split <;> rfl

def setUserEnabled (users : UserTable) (userId : Int) (enabled : Bool) : UserTable :=
  { rows := users.rows.map (setEnabled userId enabled)
    nextId := users.nextId
    unique := by
      rw [List.map_map]
      exact (List.map_congr_left fun user _ => setEnabled_username userId enabled user) ▸ users.unique
    assigned := by
      intro user member
      obtain ⟨before, old, rfl⟩ := List.mem_map.mp member
      rw [setEnabled_id]
      exact users.assigned before old }

theorem insert_eq_some {users later : UserTable} {username : String} {ntHash : Bytes}
    {passwordHash : Option String} {user : User}
    (inserted : users.insert username ntHash passwordHash = some (user, later)) :
    username ∉ users.rows.map User.username ∧ later.rows = users.rows ++ [user] ∧
      user = { id := users.nextId, username, ntHash, enabled := true, passwordHash } := by
  unfold insert at inserted
  split at inserted
  · cases inserted
  · next free =>
    cases inserted
    exact ⟨free, rfl, rfl⟩

end UserTable

end RdGateway.Core
