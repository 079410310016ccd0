import Mathlib.Logic.Function.Basic

/-!
# Maps with point updates

A `Store` is the content of a hash map: at most one value under each key.
-/

set_option autoImplicit false

namespace Wirekit

def Store (κ ν : Type) : Type := κ → Option ν

namespace Store

variable {κ ν : Type}

def empty : Store κ ν := fun _ => none

variable [DecidableEq κ]

def insert (store : Store κ ν) (key : κ) (value : ν) : Store κ ν :=
  Function.update store key (some value)

def remove (store : Store κ ν) (key : κ) : Store κ ν :=
  Function.update store key none

@[simp] theorem insert_self (store : Store κ ν) (key : κ) (value : ν) :
    store.insert key value key = some value :=
  Function.update_self _ _ _

@[simp] theorem remove_self (store : Store κ ν) (key : κ) : store.remove key key = none :=
  Function.update_self _ _ _

theorem insert_of_ne {store : Store κ ν} {key other : κ} (different : other ≠ key) (value : ν) :
    store.insert key value other = store other :=
  Function.update_of_ne different _ _

theorem remove_of_ne {store : Store κ ν} {key other : κ} (different : other ≠ key) :
    store.remove key other = store other :=
  Function.update_of_ne different _ _

theorem remove_of_none {store : Store κ ν} {key : κ} (absent : store key = none) :
    store.remove key = store :=
  Function.update_eq_self_iff.mpr absent.symm

theorem insert_eq_some {store : Store κ ν} {key other : κ} {value found : ν}
    (present : store.insert key value other = some found) :
    (other = key ∧ found = value) ∨ (other ≠ key ∧ store other = some found) := by
  by_cases same : other = key
  · subst same
    rw [insert_self] at present
    exact .inl ⟨rfl, (Option.some.inj present).symm⟩
  · rw [insert_of_ne same] at present
    exact .inr ⟨same, present⟩

theorem remove_eq_some {store : Store κ ν} {key other : κ} {found : ν}
    (present : store.remove key other = some found) : other ≠ key ∧ store other = some found := by
  by_cases same : other = key
  · subst same
    rw [remove_self] at present
    cases present
  · rw [remove_of_ne same] at present
    exact ⟨same, present⟩

end Store

end Wirekit
