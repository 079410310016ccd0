import Mathlib.Algebra.Order.Ring.Int
import Mathlib.Data.List.Basic

/-!
# Outcomes of code that can fail or crash

A computation ends with a value, with an error it reports, or by crashing: a
failed bounds check, a cursor read past the end, an arithmetic overflow.
`Outcome.Sat` is the rule language for "does not crash, and every value it
returns satisfies the postcondition".
-/

set_option autoImplicit false

namespace Wirekit

inductive Outcome (ε α : Type) where
  | ok (value : α)
  | err (error : ε)
  | panicked
deriving Repr, DecidableEq

namespace Outcome

variable {ε δ α β : Type}

protected def bind : Outcome ε α → (α → Outcome ε β) → Outcome ε β
  | .ok value, next => next value
  | .err error, _ => .err error
  | .panicked, _ => .panicked

instance : Monad (Outcome ε) where
  pure := .ok
  bind := Outcome.bind

@[simp] theorem pure_eq (value : α) : (pure value : Outcome ε α) = .ok value := rfl

@[simp] theorem ok_bind (value : α) (next : α → Outcome ε β) :
    (Outcome.ok value >>= next) = next value := rfl

@[simp] theorem err_bind (error : ε) (next : α → Outcome ε β) :
    (Outcome.err error >>= next) = .err error := rfl

@[simp] theorem panicked_bind (next : α → Outcome ε β) :
    ((Outcome.panicked : Outcome ε α) >>= next) = .panicked := rfl

/-- A sequence returns a value exactly when its first part does and the
continuation returns it from there. -/
theorem bind_eq_ok {computation : Outcome ε α} {next : α → Outcome ε β} {result : β} :
    (computation >>= next) = .ok result ↔
      ∃ value, computation = .ok value ∧ next value = .ok result := by
  cases computation with
  | ok value => simp
  | err error => simp
  | panicked => simp

theorem ne_ok_of_err {computation : Outcome ε α} {error : ε} (failed : computation = .err error)
    (value : α) : computation ≠ .ok value := by
  rw [failed]
  intro same
  cases same

theorem ne_ok_of_panicked {computation : Outcome ε α} (crashed : computation = .panicked)
    (value : α) : computation ≠ .ok value := by
  rw [crashed]
  intro same
  cases same

/-- Replace an error, but not a crash, by a value. -/
def unwrapOr (computation : Outcome ε α) (fallback : α) : Outcome δ α :=
  match computation with
  | .ok value => .ok value
  | .err _ => .ok fallback
  | .panicked => .panicked

def mapError (change : ε → δ) : Outcome ε α → Outcome δ α
  | .ok value => .ok value
  | .err error => .err (change error)
  | .panicked => .panicked

/-! ## Crash-free postconditions -/

/-- The computation does not crash, and a value it returns satisfies `post`. -/
def Sat (post : α → Prop) : Outcome ε α → Prop
  | .ok value => post value
  | .err _ => True
  | .panicked => False

abbrev Safe (computation : Outcome ε α) : Prop := Sat (fun _ => True) computation

@[simp] theorem sat_ok {post : α → Prop} {value : α} :
    Sat post (.ok value : Outcome ε α) ↔ post value := Iff.rfl

@[simp] theorem sat_err {post : α → Prop} {error : ε} :
    Sat post (.err error : Outcome ε α) := trivial

theorem Sat.bind {first : α → Prop} {post : β → Prop} {computation : Outcome ε α}
    {next : α → Outcome ε β} (sat : Sat first computation)
    (continued : ∀ value, first value → Sat post (next value)) :
    Sat post (computation >>= next) := by
  cases computation with
  | ok value => exact continued value sat
  | err error => trivial
  | panicked => exact sat.elim

theorem Sat.mono {first post : α → Prop} {computation : Outcome ε α}
    (sat : Sat first computation) (weaker : ∀ value, first value → post value) :
    Sat post computation := by
  cases computation with
  | ok value => exact weaker value sat
  | err error => trivial
  | panicked => exact sat.elim

theorem Sat.ite {post : α → Prop} {condition : Prop} [Decidable condition]
    {thenBranch elseBranch : Outcome ε α} (thenSat : condition → Sat post thenBranch)
    (elseSat : ¬ condition → Sat post elseBranch) :
    Sat post (if condition then thenBranch else elseBranch) := by
  split
  · exact thenSat ‹_›
  · exact elseSat ‹_›

theorem Sat.unwrapOr {post : α → Prop} {computation : Outcome ε α} {fallback : α}
    (sat : Sat post computation) (fallbackSat : post fallback) :
    Sat post (computation.unwrapOr fallback : Outcome δ α) := by
  cases computation with
  | ok value => exact sat
  | err error => exact fallbackSat
  | panicked => exact sat.elim

theorem Sat.ne_panicked {post : α → Prop} {computation : Outcome ε α}
    (sat : Sat post computation) : computation ≠ .panicked := by
  rintro rfl
  exact sat

theorem Sat.safe {post : α → Prop} {computation : Outcome ε α} (sat : Sat post computation) :
    Safe computation :=
  sat.mono fun _ _ => trivial

theorem Sat.post {post : α → Prop} {computation : Outcome ε α} {value : α}
    (sat : Sat post computation) (returned : computation = .ok value) : post value := by
  subst returned
  exact sat

end Outcome

/-! ## Guarded access and machine-word arithmetic -/

variable {ε α : Type}

/-- The half-open range `lo .. hi` of a slice; a range that is reversed or
leaves the slice crashes. -/
def slice (values : List α) (lo hi : Nat) : Outcome ε (List α) :=
  if lo ≤ hi ∧ hi ≤ values.length then .ok ((values.drop lo).take (hi - lo)) else .panicked

def index (values : List α) (position : Nat) : Outcome ε α :=
  match values[position]? with
  | some value => .ok value
  | none => .panicked

/-- Addition of 64-bit machine words with the overflow check. -/
def checkedAdd (left right : Nat) : Outcome ε Nat :=
  if left + right < 2 ^ 64 then .ok (left + right) else .panicked

/-- Subtraction of machine words with the underflow check. -/
def checkedSub (left right : Nat) : Outcome ε Nat :=
  if right ≤ left then .ok (left - right) else .panicked

theorem slice_eq {values : List α} {lo hi : Nat} (ordered : lo ≤ hi) (inside : hi ≤ values.length) :
    (slice values lo hi : Outcome ε (List α)) = .ok ((values.drop lo).take (hi - lo)) :=
  if_pos ⟨ordered, inside⟩

/-- A slice of the front of a longer buffer does not see what follows. -/
theorem slice_append_left {front back : List α} {lo hi : Nat}
    (ordered : lo ≤ hi) (inside : hi ≤ front.length) :
    (slice (front ++ back) lo hi : Outcome ε (List α)) = slice front lo hi := by
  rw [slice_eq ordered (by simp; omega), slice_eq ordered inside,
    List.drop_append_of_le_length (by omega), List.take_append_of_le_length (by simp; omega)]

theorem slice_front (front back : List α) :
    (slice (front ++ back) 0 front.length : Outcome ε (List α)) = .ok front := by
  rw [slice_eq (Nat.zero_le _) (by simp), List.drop_zero, Nat.sub_zero, List.take_left]

theorem slice_sat {values : List α} {lo hi : Nat} (ordered : lo ≤ hi) (inside : hi ≤ values.length) :
    Outcome.Sat (fun part => part.length = hi - lo) (slice values lo hi : Outcome ε (List α)) := by
  rw [slice_eq ordered inside]
  simp only [Outcome.sat_ok, List.length_take, List.length_drop]
  omega

theorem index_sat {values : List α} {position : Nat} (inside : position < values.length) :
    Outcome.Sat (fun value => values[position]? = some value)
      (index values position : Outcome ε α) := by
  have present : values[position]? = some values[position] := List.getElem?_eq_getElem inside
  simp only [index, present, Outcome.sat_ok]

theorem checkedAdd_sat {left right : Nat} (fits : left + right < 2 ^ 64) :
    Outcome.Sat (fun sum => sum = left + right) (checkedAdd left right : Outcome ε Nat) := by
  simp only [checkedAdd, if_pos fits, Outcome.sat_ok]

theorem checkedSub_sat {left right : Nat} (ordered : right ≤ left) :
    Outcome.Sat (fun difference => difference = left - right)
      (checkedSub left right : Outcome ε Nat) := by
  simp only [checkedSub, if_pos ordered, Outcome.sat_ok]

end Wirekit
