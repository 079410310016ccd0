import RdGateway.Wirekit.Outcome

/-!
# Loops that use up a measure

A loop runs rounds until one is done. Each round that goes on leaves a state of a
smaller measure, so the loop always ends. Facts about the whole loop follow from
facts about one round.
-/

set_option autoImplicit false

namespace Wirekit

/-- A round ends the loop with a result, or goes on from another state. -/
inductive Round (σ ρ : Type) where
  | done (result : ρ)
  | next (state : σ)

structure Loop (σ ρ : Type) where
  round : σ → Round σ ρ
  measure : σ → Nat
  decreases : ∀ {state next : σ}, round state = .next next → measure next < measure state

namespace Loop

variable {σ τ ρ π : Type}

def run (loop : Loop σ ρ) (state : σ) : ρ :=
  match _taken : loop.round state with
  | .done result => result
  | .next next => loop.run next
termination_by loop.measure state
decreasing_by exact loop.decreases _taken

theorem run_done {loop : Loop σ ρ} {state : σ} {result : ρ}
    (taken : loop.round state = .done result) : loop.run state = result := by
  rw [run]
  split
  · next same => rw [taken] at same; cases same; rfl
  · next same => rw [taken] at same; cases same

theorem run_next {loop : Loop σ ρ} {state next : σ} (taken : loop.round state = .next next) :
    loop.run state = loop.run next := by
  rw [run]
  split
  · next same => rw [taken] at same; cases same
  · next same => rw [taken] at same; cases same; rfl

/-- What a last round establishes, and a round that goes on carries back, holds everywhere. -/
theorem induction (loop : Loop σ ρ) {motive : σ → Prop}
    (done : ∀ state result, loop.round state = .done result → motive state)
    (next : ∀ state next, loop.round state = .next next → motive next → motive state)
    (state : σ) : motive state := by
  induction measured : loop.measure state using Nat.strongRecOn generalizing state with
  | _ size ih =>
      cases taken : loop.round state with
      | done result => exact done state result taken
      | next later =>
          have smaller : loop.measure later < size := measured ▸ loop.decreases taken
          exact next state later taken (ih _ smaller later rfl)

/-- What every round keeps, and every last round turns into `post`, holds of the result. -/
theorem run_invariant {loop : Loop σ ρ} (Inv : σ → Prop) (post : ρ → Prop)
    (keeps : ∀ state next, Inv state → loop.round state = .next next → Inv next)
    (ends : ∀ state result, Inv state → loop.round state = .done result → post result)
    {state : σ} (initial : Inv state) : post (loop.run state) := by
  revert initial
  induction state using loop.induction with
  | done state result taken =>
      intro initial
      rw [run_done taken]
      exact ends state result initial taken
  | next state later taken ih =>
      intro initial
      rw [run_next taken]
      exact ih (keeps state later initial taken)

/-- Two loops whose rounds go hand in hand return results that go together. -/
theorem run_simulation {left : Loop σ ρ} {right : Loop τ π} (Related : σ → τ → Prop)
    (Same : ρ → π → Prop)
    (rounds : ∀ first second, Related first second →
      (∃ firstResult secondResult, left.round first = .done firstResult ∧
        right.round second = .done secondResult ∧ Same firstResult secondResult) ∨
      ∃ firstNext secondNext, left.round first = .next firstNext ∧
        right.round second = .next secondNext ∧ Related firstNext secondNext)
    {first : σ} {second : τ} (related : Related first second) :
    Same (left.run first) (right.run second) := by
  induction first using left.induction generalizing second with
  | done first result taken =>
      rcases rounds first second related with ⟨_, _, firstDone, secondDone, same⟩ | ⟨_, _, firstGoes, _⟩
      · rw [run_done firstDone, run_done secondDone]
        exact same
      · rw [taken] at firstGoes
        cases firstGoes
  | next first later taken ih =>
      rcases rounds first second related with ⟨_, _, firstDone, _⟩ | ⟨_, _, firstGoes, secondGoes, still⟩
      · rw [taken] at firstDone
        cases firstDone
      · rw [taken] at firstGoes
        cases firstGoes
        rw [run_next taken, run_next secondGoes]
        exact ih still

end Loop

/-- The loop whose rounds may crash ends from this state, and no round of it crashes or fails. -/
inductive Halts {ε σ ρ : Type} (round : σ → Outcome ε (Round σ ρ)) : σ → ρ → Prop where
  | done {state : σ} {result : ρ} (taken : round state = .ok (.done result)) : Halts round state result
  | next {state later : σ} {result : ρ} (taken : round state = .ok (.next later))
      (rest : Halts round later result) : Halts round state result

end Wirekit
