import RdGateway.Wirekit.Run

/-!
# Systems that come to rest

When every step makes a measure smaller, each run is short, and some run ends in a state
that no step leaves.
-/

set_option autoImplicit false

namespace Wirekit

variable {State Label : Type} {relation : State → Label → State → Prop}

/-- No step leaves the state. -/
def Quiet (relation : State → Label → State → Prop) (state : State) : Prop :=
  ∀ label next, ¬ relation state label next

theorem Steps.append {start middle state : State} {front back : List Label}
    (earlier : Steps relation start front middle) (later : Steps relation middle back state) :
    Steps relation start (front ++ back) state := by
  induction later with
  | start => rw [List.append_nil]; exact earlier
  | step run taken ih => rw [← List.append_assoc]; exact ih.step taken

theorem Steps.length_le {measure : State → Nat}
    (decreases : ∀ state label next, relation state label next → measure next < measure state)
    {start state : State} {labels : List Label} (run : Steps relation start labels state) :
    labels.length + measure state ≤ measure start := by
  induction run with
  | start => exact Nat.le_of_eq (Nat.zero_add _)
  | step run taken ih =>
      have smaller := decreases _ _ _ taken
      rw [List.length_append, List.length_singleton]
      omega

theorem exists_quiet {measure : State → Nat}
    (decreases : ∀ state label next, relation state label next → measure next < measure state)
    (start : State) : ∃ labels state, Steps relation start labels state ∧ Quiet relation state := by
  induction size : measure start using Nat.strongRecOn generalizing start with
  | _ size ih =>
      by_cases quiet : Quiet relation start
      · exact ⟨[], start, .start, quiet⟩
      · obtain ⟨label, moves⟩ := not_forall.mp quiet
        obtain ⟨next, taken⟩ := not_forall_not.mp moves
        obtain ⟨labels, state, run, quiet⟩ := ih (measure next) (size ▸ decreases _ _ _ taken) next rfl
        exact ⟨[label] ++ labels, state, (Steps.single taken).append run, quiet⟩

end Wirekit
