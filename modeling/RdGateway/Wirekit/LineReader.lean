import Mathlib.Data.List.Infix

/-!
# Taking lines off a stream

A line ends with its delimiter. A reader takes the first line of what has arrived; which
lines it takes in the end depends on the whole stream only. At the end of the stream the
rest counts as a line too.
-/

set_option autoImplicit false

namespace Wirekit

variable {α : Type} [DecidableEq α] {delimiter : α}

/-- The first line and what is behind it. -/
def takeLine (delimiter : α) : List α → Option (List α × List α)
  | [] => none
  | item :: rest =>
      if item = delimiter then some ([item], rest)
      else
        match takeLine delimiter rest with
        | some (line, later) => some (item :: line, later)
        | none => none

def linesOf (delimiter : α) (ended : Bool) : List α → List (List α)
  | [] => []
  | item :: rest =>
      if item = delimiter then [item] :: linesOf delimiter ended rest
      else
        match linesOf delimiter ended rest with
        | line :: lines => (item :: line) :: lines
        | [] => if ended then [[item]] else []

theorem takeLine_eq_none {stream : List α} : takeLine delimiter stream = none ↔ delimiter ∉ stream := by
  induction stream with
  | nil => simp [takeLine]
  | cons item rest ih =>
      rw [takeLine, List.mem_cons, not_or]
      by_cases same : item = delimiter
      · rw [if_pos same]
        exact iff_of_false (Option.some_ne_none _) fun neither => neither.1 same.symm
      · rw [if_neg same, ← ih, and_iff_right (Ne.symm same)]
        cases takeLine delimiter rest <;> simp

theorem takeLine_append {stream line later : List α} (taken : takeLine delimiter stream = some (line, later))
    (more : List α) : takeLine delimiter (stream ++ more) = some (line, later ++ more) := by
  induction stream generalizing line with
  | nil => cases taken
  | cons item rest ih =>
      rw [takeLine] at taken
      rw [List.cons_append, takeLine]
      by_cases same : item = delimiter
      · rw [if_pos same] at taken ⊢
        cases taken
        rfl
      · rw [if_neg same] at taken ⊢
        cases first : takeLine delimiter rest with
        | none =>
            rw [first] at taken
            cases taken
        | some pair =>
            rw [first] at taken
            cases taken
            rw [ih first]

theorem takeLine_length {stream line later : List α} (taken : takeLine delimiter stream = some (line, later)) :
    stream.length = line.length + later.length ∧ line ≠ [] := by
  induction stream generalizing line with
  | nil => cases taken
  | cons item rest ih =>
      rw [takeLine] at taken
      by_cases same : item = delimiter
      · rw [if_pos same] at taken
        cases taken
        exact ⟨Nat.add_comm _ _, List.cons_ne_nil _ _⟩
      · rw [if_neg same] at taken
        cases first : takeLine delimiter rest with
        | none =>
            rw [first] at taken
            cases taken
        | some pair =>
            rw [first] at taken
            cases taken
            have shorter := (ih first).1
            simp only [List.length_cons]
            exact ⟨by omega, List.cons_ne_nil _ _⟩

theorem linesOf_taken {stream line later : List α} (taken : takeLine delimiter stream = some (line, later))
    (ended : Bool) : linesOf delimiter ended stream = line :: linesOf delimiter ended later := by
  induction stream generalizing line with
  | nil => cases taken
  | cons item rest ih =>
      rw [takeLine] at taken
      rw [linesOf]
      by_cases same : item = delimiter
      · rw [if_pos same] at taken ⊢
        cases taken
        rfl
      · rw [if_neg same] at taken ⊢
        cases first : takeLine delimiter rest with
        | none =>
            rw [first] at taken
            cases taken
        | some pair =>
            rw [first] at taken
            cases taken
            rw [ih first]

/-- Without a delimiter only the end of the stream makes a line. -/
theorem linesOf_rest {stream : List α} (none : delimiter ∉ stream) (ended : Bool) :
    linesOf delimiter ended stream = if ended = true ∧ stream ≠ [] then [stream] else [] := by
  induction stream with
  | nil => simp [linesOf]
  | cons item rest ih =>
      rw [List.mem_cons, not_or] at none
      rw [linesOf, if_neg (Ne.symm none.1), ih none.2]
      cases ended with
      | false => rfl
      | true => cases rest <;> simp

theorem linesOf_front (ended : Bool) (front back : List α) :
    linesOf delimiter false front <+: linesOf delimiter ended (front ++ back) := by
  induction front with
  | nil => exact List.nil_prefix
  | cons item rest ih =>
      rw [List.cons_append, linesOf, linesOf]
      split
      · exact List.prefix_cons_inj _ |>.mpr ih
      · cases lines : linesOf delimiter false rest with
        | nil => exact List.nil_prefix
        | cons line later =>
            rw [lines] at ih
            obtain ⟨more, same⟩ := ih
            rw [← same]
            exact ⟨more, rfl⟩

/-- The lines that were taken off the stream, and what is left of it, whatever comes. -/
def TakenOff (delimiter : α) (stream : List α) (lines : List (List α)) (left : List α) : Prop :=
  ∀ ended more, linesOf delimiter ended (stream ++ more) = lines ++ linesOf delimiter ended (left ++ more)

theorem TakenOff.start (delimiter : α) : TakenOff delimiter [] [] [] := fun _ _ => rfl

theorem TakenOff.arrive {stream left : List α} {lines : List (List α)}
    (off : TakenOff delimiter stream lines left) (data : List α) :
    TakenOff delimiter (stream ++ data) lines (left ++ data) := by
  intro ended more
  rw [List.append_assoc, List.append_assoc]
  exact off ended (data ++ more)

theorem TakenOff.take {stream left line later : List α} {lines : List (List α)}
    (off : TakenOff delimiter stream lines left) (taken : takeLine delimiter left = some (line, later)) :
    TakenOff delimiter stream (lines ++ [line]) later := by
  intro ended more
  rw [off, linesOf_taken (takeLine_append taken more), List.append_assoc]
  rfl

end Wirekit
