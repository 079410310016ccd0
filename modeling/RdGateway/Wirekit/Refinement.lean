import RdGateway.Wirekit.Run

/-!
# Refinement of machines

A machine refines another one when related states answer every event alike and go on
in related states. Whole runs then have matching answers.
-/

set_option autoImplicit false

namespace Wirekit

variable {State Model Event Output Answer : Type}

/-- `Same` says which answer of the model an output stands for. -/
structure Refines (step : State → Event → Output × State) (model : Model → Event → Answer × Model)
    (Related : State → Model → Prop) (Same : Output → Answer → Prop) : Prop where
  answers : ∀ {state : State} {abstract : Model} (event : Event), Related state abstract →
    Same (step state event).1 (model abstract event).1
  goesOn : ∀ {state : State} {abstract : Model} (event : Event), Related state abstract →
    Related (step state event).2 (model abstract event).2

namespace Refines

variable {step : State → Event → Output × State} {model : Model → Event → Answer × Model}
  {Related : State → Model → Prop} {Same : Output → Answer → Prop}

theorem stateAfter (refines : Refines step model Related Same) {state : State} {abstract : Model}
    (related : Related state abstract) (events : List Event) :
    Related (Wirekit.stateAfter step state events) (Wirekit.stateAfter model abstract events) := by
  induction events generalizing state abstract with
  | nil => exact related
  | cons event rest ih => exact ih (refines.goesOn event related)

theorem outputs (refines : Refines step model Related Same) {state : State} {abstract : Model}
    (related : Related state abstract) (events : List Event) :
    List.Forall₂ Same ((exchanges step state events).map Exchange.output)
      ((exchanges model abstract events).map Exchange.output) := by
  induction events generalizing state abstract with
  | nil => exact .nil
  | cons event rest ih => exact .cons (refines.answers event related) (ih (refines.goesOn event related))

end Refines

end Wirekit
