import Mathlib.Data.List.Basic
import Mathlib.Data.List.TakeWhile

/-!
# Logs and their interleavings

Logs are sequences that grow at their ends. `Interleaved left right merged`: the
elements of `merged` are those of `left` and those of `right`, each in their own
order, and nothing else.
-/

set_option autoImplicit false

namespace Wirekit

variable {α : Type}

/-- What a view of a log shows of one more entry. -/
theorem filterMap_append_singleton {β : Type} (view : α → Option β) (log : List α) (item : α) :
    (log ++ [item]).filterMap view = log.filterMap view ++ (view item).toList := by
  cases shown : view item <;> simp [shown]

inductive Interleaved : List α → List α → List α → Prop where
  | nil : Interleaved [] [] []
  | left {left right merged : List α} (item : α) (earlier : Interleaved left right merged) :
      Interleaved (left ++ [item]) right (merged ++ [item])
  | right {left right merged : List α} (item : α) (earlier : Interleaved left right merged) :
      Interleaved left (right ++ [item]) (merged ++ [item])

theorem Interleaved.mem {left right merged : List α} (interleaved : Interleaved left right merged)
    {item : α} (member : item ∈ merged) : item ∈ left ∨ item ∈ right := by
  induction interleaved with
  | nil => cases member
  | left last earlier ih =>
      rcases List.mem_append.mp member with inside | same
      · exact (ih inside).imp_left (List.mem_append_left _)
      · exact .inl (List.mem_append_right _ same)
  | right last earlier ih =>
      rcases List.mem_append.mp member with inside | same
      · exact (ih inside).imp_right (List.mem_append_left _)
      · exact .inr (List.mem_append_right _ same)

/-- What a view reads out of the merged log is what it reads out of the right one, if it
reads nothing out of the left one. -/
theorem Interleaved.flatMap_right {β : Type} {left right merged : List α} {view : α → List β}
    (interleaved : Interleaved left right merged) (silent : ∀ item ∈ left, view item = []) :
    merged.flatMap view = right.flatMap view := by
  induction interleaved with
  | nil => rfl
  | left item earlier ih =>
      obtain ⟨before, last⟩ := List.forall_mem_append.mp silent
      rw [List.flatMap_append, ih before, List.flatMap_singleton, List.forall_mem_singleton.mp last, List.append_nil]
  | right item earlier ih => rw [List.flatMap_append, ih silent, List.flatMap_append]

theorem takeWhile_grows {test : α → Bool} (front back : List α) :
    front.takeWhile test <+: (front ++ back).takeWhile test := by
  rw [List.takeWhile_append]
  split
  · exact (List.takeWhile_prefix test).trans (List.prefix_append front _)
  · exact List.prefix_refl _

/-- What stands in front of the first element that fails a test comes from the log whose
elements pass it. -/
theorem Interleaved.takeWhile_front {left right merged : List α} {test : α → Bool}
    (interleaved : Interleaved left right merged) (fails : ∀ item ∈ left, test item = false) :
    merged.takeWhile test <+: right.takeWhile test ∧ right.length ≤ merged.length := by
  induction interleaved with
  | nil => exact ⟨List.prefix_refl _, Nat.le_refl _⟩
  | @left left right merged item earlier ih =>
      obtain ⟨front, shorter⟩ := ih fun other member => fails other (List.mem_append_left _ member)
      have failed := fails item (List.mem_append_right _ (List.mem_singleton_self item))
      have same : (merged ++ [item]).takeWhile test = merged.takeWhile test := by
        rw [List.takeWhile_append, List.takeWhile_cons_of_neg (by simp [failed]), List.append_nil]
        split
        · next whole => exact ((List.takeWhile_prefix test).eq_of_length whole).symm
        · rfl
      rw [same, List.length_append]
      exact ⟨front, Nat.le_add_right_of_le shorter⟩
  | @right left right merged item earlier ih =>
      obtain ⟨front, shorter⟩ := ih fails
      rw [List.length_append, List.length_append]
      refine ⟨?_, Nat.add_le_add_right shorter _⟩
      rw [List.takeWhile_append]
      split
      · next whole =>
        -- everything passes so far, and nothing of the left log is there
        have all : merged.takeWhile test = merged := (List.takeWhile_prefix test).eq_of_length whole
        rw [all] at front
        have inside := (front.trans (List.takeWhile_prefix test)).eq_of_length_le shorter
        subst inside
        have same : (merged ++ [item]).takeWhile test = merged ++ [item].takeWhile test := by
          rw [List.takeWhile_append, if_pos whole]
        exact same ▸ List.prefix_refl _
      · exact front.trans (takeWhile_grows right [item])

end Wirekit
