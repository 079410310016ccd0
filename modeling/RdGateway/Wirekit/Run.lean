import Mathlib.Data.List.Induction

/-!
# Runs of state machines

A deterministic machine answers each event with an output and a next state, and a
run is the list of these exchanges. A concurrent system is a labelled transition
relation, and a run is a sequence of its steps. The rules lift what one step
preserves to every run, for invariants of the state and for invariants that also
speak about the history.
-/

set_option autoImplicit false

namespace Wirekit

variable {State Event Output : Type}

structure Exchange (State Event Output : Type) where
  before : State
  event : Event
  output : Output
  after : State

def Exchange.of (step : State → Event → Output × State) (state : State) (event : Event) :
    Exchange State Event Output :=
  { before := state, event, output := (step state event).1, after := (step state event).2 }

def exchanges (step : State → Event → Output × State) :
    State → List Event → List (Exchange State Event Output)
  | _, [] => []
  | state, event :: rest => Exchange.of step state event :: exchanges step (step state event).2 rest

def stateAfter (step : State → Event → Output × State) : State → List Event → State
  | state, [] => state
  | state, event :: rest => stateAfter step (step state event).2 rest

variable {step : State → Event → Output × State}

theorem stateAfter_append (state : State) (first second : List Event) :
    stateAfter step state (first ++ second) =
      stateAfter step (stateAfter step state first) second := by
  induction first generalizing state with
  | nil => rfl
  | cons event rest ih => exact ih _

theorem exchanges_append (state : State) (first second : List Event) :
    exchanges step state (first ++ second) =
      exchanges step state first ++ exchanges step (stateAfter step state first) second := by
  induction first generalizing state with
  | nil => rfl
  | cons event rest ih => exact congrArg (Exchange.of step state event :: ·) (ih _)

theorem last_mem_exchanges (start : State) (events : List Event) (event : Event) :
    Exchange.of step (stateAfter step start events) event ∈ exchanges step start (events ++ [event]) := by
  rw [exchanges_append]
  exact List.mem_append_right _ List.mem_cons_self

/-- What holds at the start and survives each step, knowing the exchanges before
it, holds after every run. -/
theorem history_invariant (Inv : List (Exchange State Event Output) → State → Prop) {start : State}
    (initial : Inv [] start)
    (preserved : ∀ history state event, Inv history state →
      Inv (history ++ [Exchange.of step state event]) (step state event).2)
    (events : List Event) :
    Inv (exchanges step start events) (stateAfter step start events) := by
  induction events using List.reverseRecOn with
  | nil => exact initial
  | append_singleton events event ih =>
      rw [exchanges_append, stateAfter_append]
      exact preserved _ _ _ ih

theorem mem_exchanges {start : State} {events : List Event} {exchange : Exchange State Event Output}
    (taken : exchange ∈ exchanges step start events) :
    exchange = Exchange.of step exchange.before exchange.event := by
  induction events generalizing start with
  | nil => cases taken
  | cons event rest ih =>
      cases taken with
      | head => rfl
      | tail _ later => exact ih later

/-- An exchange of a run is the step from the state that the events before it leave. -/
theorem exchanges_split {start : State} {events : List Event}
    {past later : List (Exchange State Event Output)} {exchange : Exchange State Event Output}
    (split : exchanges step start events = past ++ exchange :: later) :
    ∃ earlier, past = exchanges step start earlier ∧
      exchange = Exchange.of step (stateAfter step start earlier) exchange.event := by
  induction past generalizing start events with
  | nil =>
      cases events with
      | nil => cases split
      | cons event rest =>
          have head := (List.cons.inj split).1
          exact ⟨[], rfl, by rw [← head]; rfl⟩
  | cons first past ih =>
      cases events with
      | nil => cases split
      | cons event rest =>
          obtain ⟨head, tail⟩ := List.cons.inj split
          obtain ⟨earlier, before, taken⟩ := ih tail
          refine ⟨event :: earlier, ?_, taken⟩
          rw [exchanges, ← head, before]

theorem exchanges_events (start : State) (events : List Event) :
    (exchanges step start events).map Exchange.event = events := by
  induction events generalizing start with
  | nil => rfl
  | cons event rest ih => exact congrArg (event :: ·) (ih _)

/-- A run is cut in two where its events are. -/
theorem exchanges_eq_append {start : State} {events : List Event}
    {past later : List (Exchange State Event Output)}
    (split : exchanges step start events = past ++ later) :
    ∃ before after, events = before ++ after ∧ past = exchanges step start before ∧
      later = exchanges step (stateAfter step start before) after := by
  induction past generalizing start events with
  | nil => exact ⟨[], events, rfl, rfl, split.symm⟩
  | cons first past ih =>
      cases events with
      | nil => cases split
      | cons event rest =>
          obtain ⟨head, tail⟩ := List.cons.inj split
          obtain ⟨before, after, rfl, front, back⟩ := ih tail
          exact ⟨event :: before, after, rfl, by rw [exchanges, head, front], back⟩

theorem exchanges_eq_cons {start : State} {events : List Event}
    {first : Exchange State Event Output} {later : List (Exchange State Event Output)}
    (split : exchanges step start events = first :: later) :
    ∃ event rest, events = event :: rest ∧ first = Exchange.of step start event ∧
      later = exchanges step (step start event).2 rest := by
  cases events with
  | nil => cases split
  | cons event rest =>
      obtain ⟨head, tail⟩ := List.cons.inj split
      exact ⟨event, rest, rfl, head.symm, tail.symm⟩

/-- A history invariant holds in front of every exchange of a run. -/
theorem history_invariant_before (Inv : List (Exchange State Event Output) → State → Prop)
    {start : State} (initial : Inv [] start)
    (preserved : ∀ history state event, Inv history state →
      Inv (history ++ [Exchange.of step state event]) (step state event).2)
    {events : List Event} {past later : List (Exchange State Event Output)}
    {exchange : Exchange State Event Output}
    (split : exchanges step start events = past ++ exchange :: later) :
    Inv past exchange.before := by
  obtain ⟨earlier, before, taken⟩ := exchanges_split split
  rw [taken, before]
  exact history_invariant Inv initial preserved earlier

/-- What every step keeps holds in front of every exchange of a run. -/
theorem invariant_before (Inv : State → Prop) {start : State} (initial : Inv start)
    (preserved : ∀ state event, Inv state → Inv (step state event).2) {events : List Event}
    {exchange : Exchange State Event Output} (taken : exchange ∈ exchanges step start events) :
    Inv exchange.before := by
  induction events generalizing start with
  | nil => cases taken
  | cons event rest ih =>
      cases taken with
      | head => exact initial
      | tail _ later => exact ih (preserved start event initial) later

theorem invariant_after (Inv : State → Prop) {start : State} (initial : Inv start)
    (preserved : ∀ state event, Inv state → Inv (step state event).2) (events : List Event) :
    Inv (stateAfter step start events) := by
  induction events generalizing start with
  | nil => exact initial
  | cons event rest ih => exact ih (preserved start event initial)

/-! ## Labelled transition relations -/

variable {Label : Type}

/-- An entry of a log that has grown by one is the new one, or one of before. -/
theorem append_singleton_split {Entry : Type} {log before after : List Entry}
    {last item : Entry}
    (split : log ++ [last] = before ++ item :: after) :
    (before = log ∧ item = last ∧ after = []) ∨
      ∃ rest, after = rest ++ [last] ∧ log = before ++ item :: rest := by
  rcases List.eq_nil_or_concat after with rfl | ⟨rest, other, rfl⟩
  · obtain ⟨rfl, same⟩ := List.append_inj' split rfl
    cases same
    exact .inl ⟨rfl, rfl, rfl⟩
  · rw [List.concat_eq_append, ← List.cons_append, ← List.append_assoc] at split
    obtain ⟨rfl, same⟩ := List.append_inj' split rfl
    cases same
    exact .inr ⟨rest, List.concat_eq_append, rfl⟩

/-- The states that a run from `start` reaches, with the labels of its steps in order. -/
inductive Steps (step : State → Label → State → Prop) (start : State) :
    List Label → State → Prop where
  | start : Steps step start [] start
  | step {labels : List Label} {state : State} {label : Label} {next : State}
      (run : Steps step start labels state) (taken : step state label next) :
      Steps step start (labels ++ [label]) next

/-- The rule of `history_invariant` for a relation: the history is the list of labels. -/
theorem Steps.invariant (Inv : List Label → State → Prop) {relation : State → Label → State → Prop}
    {start : State} (initial : Inv [] start)
    (preserved : ∀ labels state label next, Inv labels state → relation state label next →
      Inv (labels ++ [label]) next)
    {labels : List Label} {state : State} (run : Steps relation start labels state) :
    Inv labels state := by
  induction run with
  | start => exact initial
  | step run taken ih => exact preserved _ _ _ _ ih taken

/-- A run passes through a state in front of each of its steps. -/
theorem Steps.split {relation : State → Label → State → Prop} {start state : State}
    {before after : List Label} {label : Label}
    (run : Steps relation start (before ++ label :: after) state) :
    ∃ front next, Steps relation start before front ∧ relation front label next := by
  generalize joined : before ++ label :: after = labels at run
  induction run generalizing after with
  | start => cases before <;> cases joined
  | @step labels state last next run taken ih =>
      rcases append_singleton_split joined.symm with ⟨rfl, rfl, _⟩ | ⟨rest, _, earlier⟩
      · exact ⟨state, next, run, taken⟩
      · exact ih earlier.symm

theorem Steps.mono {narrow wide : State → Label → State → Prop} {start state : State}
    {labels : List Label} (run : Steps narrow start labels state)
    (wider : ∀ state label next, narrow state label next → wide state label next) :
    Steps wide start labels state := by
  induction run with
  | start => exact .start
  | step run taken ih => exact .step ih (wider _ _ _ taken)

/-- If a step keeps a property exactly when it is a good one, the runs that have the property are
those of good steps. -/
theorem Steps.iff_good {relation : State → Label → State → Prop} {start : State}
    {Holds : List Label → State → Prop} {Good : State → Label → Prop} (initial : Holds [] start)
    (kept : ∀ labels state label next, Steps relation start labels state → relation state label next →
      (Holds (labels ++ [label]) next ↔ Holds labels state ∧ Good state label))
    {labels : List Label} {state : State} (run : Steps relation start labels state) :
    Holds labels state ↔
      Steps (fun state label next => relation state label next ∧ Good state label) start labels state := by
  constructor
  · intro holds
    induction run with
    | start => exact .start
    | step run taken ih =>
        obtain ⟨before, good⟩ := (kept _ _ _ _ run taken).mp holds
        exact .step (ih before) ⟨taken, good⟩
  · intro good
    induction good with
    | start => exact initial
    | step earlier taken ih =>
        have before := earlier.mono fun _ _ _ both => both.1
        exact (kept _ _ _ _ before taken.1).mpr ⟨ih before, taken.2⟩

theorem Steps.single {relation : State → Label → State → Prop} {state next : State} {label : Label}
    (taken : relation state label next) : Steps relation state [label] next :=
  .step .start taken

end Wirekit
