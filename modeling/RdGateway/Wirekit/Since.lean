import RdGateway.Wirekit.Run

/-!
# What holds since an event

A fact that some events establish and others end holds after a run exactly when an event
of the run established it and none ended it since.
-/

set_option autoImplicit false

namespace Wirekit

variable {State Event Output : Type}

/-- The event that established the fact, with nothing behind it that ends it. -/
def EstablishedSince (next : State → Event → State) (start : State) (Adds : State → Event → Prop)
    (Drops : Event → Prop) (events : List Event) : Prop :=
  ∃ before event after, events = before ++ event :: after ∧ Adds (before.foldl next start) event ∧
    ∀ later ∈ after, ¬ Drops later

variable {next : State → Event → State} {start : State} {Holds : State → Prop}
  {Adds : State → Event → Prop} {Drops : Event → Prop}

theorem not_establishedSince_nil : ¬ EstablishedSince next start Adds Drops [] := by
  intro since
  obtain ⟨before, event, after, split, _⟩ := since
  cases before <;> cases split

theorem establishedSince_append (events : List Event) (last : Event) :
    EstablishedSince next start Adds Drops (events ++ [last]) ↔
      Adds (events.foldl next start) last ∨ (EstablishedSince next start Adds Drops events ∧ ¬ Drops last) := by
  constructor
  · intro since
    obtain ⟨before, event, after, split, added, kept⟩ := since
    rcases append_singleton_split split with ⟨rfl, rfl, rfl⟩ | ⟨rest, rfl, rfl⟩
    · exact .inl added
    · obtain ⟨earlier, here⟩ := List.forall_mem_append.mp kept
      exact .inr ⟨⟨before, event, rest, rfl, added, earlier⟩, here last (List.mem_singleton_self last)⟩
  · intro holds
    rcases holds with added | ⟨⟨before, event, after, rfl, added, kept⟩, keeps⟩
    · exact ⟨events, last, [], rfl, added, List.forall_mem_nil _⟩
    · refine ⟨before, event, after ++ [last], by rw [List.append_assoc, List.cons_append], added, ?_⟩
      exact List.forall_mem_append.mpr ⟨kept, List.forall_mem_singleton.mpr keeps⟩

/-- One event decides with the state before it, so the run decides with its events. -/
theorem holds_iff_establishedSince (initial : ¬ Holds start)
    (step : ∀ state event, Holds (next state event) ↔ Adds state event ∨ (Holds state ∧ ¬ Drops event))
    (events : List Event) :
    Holds (events.foldl next start) ↔ EstablishedSince next start Adds Drops events := by
  induction events using List.reverseRecOn with
  | nil => exact iff_of_false initial not_establishedSince_nil
  | append_singleton events last ih =>
      rw [establishedSince_append, List.foldl_append, ← ih]
      exact step _ last

theorem stateAfter_eq_foldl (step : State → Event → Output × State) (state : State) (events : List Event) :
    stateAfter step state events = events.foldl (fun state event => (step state event).2) state := by
  induction events generalizing state with
  | nil => rfl
  | cons event rest ih => exact ih _

end Wirekit
