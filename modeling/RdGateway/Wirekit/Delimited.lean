import Mathlib.Data.List.Basic

/-!
# Frames that announce their length

When the front of a frame says how long it is, a reader needs nothing else to cut a stream
of frames. It gets back the frames that were written.
-/

set_option autoImplicit false

namespace Wirekit

variable {α : Type} {announced : List α → Nat}

/-- The frames at the front of a stream, and what is behind them. -/
def cutFrames (announced : List α → Nat) (stream : List α) : List (List α) × List α :=
  if 0 < announced stream ∧ announced stream ≤ stream.length then
    let later := cutFrames announced (stream.drop (announced stream))
    (stream.take (announced stream) :: later.1, later.2)
  else ([], stream)
termination_by stream.length
decreasing_by
  rw [List.length_drop]
  omega

/-- The frame says how long it is, whatever follows it. -/
structure AnnouncesItself (announced : List α → Nat) (frame : List α) : Prop where
  nonempty : frame ≠ []
  length (rest : List α) : announced (frame ++ rest) = frame.length

theorem cutFrames_nil : cutFrames announced [] = ([], []) := by
  rw [cutFrames, if_neg]
  intro whole
  exact absurd (Nat.lt_of_lt_of_le whole.1 whole.2) (Nat.lt_irrefl 0)

theorem cutFrames_append {frame : List α} (announces : AnnouncesItself announced frame) (rest : List α) :
    cutFrames announced (frame ++ rest) =
      (frame :: (cutFrames announced rest).1, (cutFrames announced rest).2) := by
  rw [cutFrames, announces.length, List.take_left, List.drop_left, if_pos]
  exact ⟨List.length_pos_iff.mpr announces.nonempty, by rw [List.length_append]; exact Nat.le_add_right _ _⟩

theorem cutFrames_flatten {frames : List (List α)}
    (announce : ∀ frame ∈ frames, AnnouncesItself announced frame) :
    cutFrames announced frames.flatten = (frames, []) := by
  induction frames with
  | nil => exact cutFrames_nil
  | cons frame rest ih =>
      obtain ⟨first, later⟩ := List.forall_mem_cons.mp announce
      rw [List.flatten_cons, cutFrames_append first, ih later]

end Wirekit
