import RdGateway.Server.RelayShutdown
import RdGateway.Wirekit.Progress

/-!
# The relay never gets stuck

The queue between the two tasks is bounded, and each task can have to wait for the other
one. The steps that they take on their own come to an end, and then everything that
arrived has been sent, unless a send has failed.
-/

set_option autoImplicit false

namespace RdGateway.Server

open Wirekit Proto RdGateway.Core

/-- A step of the relay, or one whose WebSocket send fails: of a read, or of a response. -/
inductive RelayEvent where
  | step (label : SystemLabel)
  | readUnsent (data : Bytes)
  | responseUnsent (response : Bytes)
deriving Repr, DecidableEq

def RelayEvent.label : RelayEvent → Option SystemLabel
  | .step label => some label
  | _ => none

/-- A step of one of the tasks: nothing comes from the client or from the backend. -/
def SystemLabel.ofTask : SystemLabel → Bool
  | .receive _ => false
  | .arrive _ => false
  | .close => false
  | .reset => false
  | _ => true

def RelayEvent.ofTask : RelayEvent → Bool
  | .step label => label.ofTask
  | _ => true

def receivedInput : SystemLabel → Option RelayInput
  | .receive input => some input
  | _ => none

def arrivedData : SystemLabel → Option Bytes
  | .arrive data => some data
  | _ => none

def takenData : SystemLabel → Option Bytes
  | .read data => some data
  | _ => none

namespace RelaySystem

/-- The loop stops behind a send that fails, and what it took for it is lost. -/
inductive FaultyStep : RelaySystem → RelayEvent → RelaySystem → Prop where
  | step {self next : RelaySystem} {label : SystemLabel} (taken : Step self label next) :
      FaultyStep self (.step label) next
  | readUnsent {self : RelaySystem} {data : Bytes} {relay : TcpToWs}
      (taken : TcpToWs.Step self.relay (.read data false) relay) :
      FaultyStep self (.readUnsent data) { self with relay }
  | responseUnsent {self : RelaySystem} {response : Bytes} {relay : TcpToWs}
      (taken : TcpToWs.Step self.relay (.recv response false) relay) :
      FaultyStep self (.responseUnsent response) { self with relay, earlyQueued := self.earlyQueued - 1 }

/-- A loop that has stopped sends nothing and stays where it is. -/
theorem Step.stopped {system next : RelaySystem} {label : SystemLabel} (taken : Step system label next)
    (stopped : system.relay.running = false) :
    next.relay.running = false ∧ next.relay.frames = system.relay.frames := by
  cases taken with
  | enqueue responds queued =>
      cases queued with
      | enqueue _ running room =>
          rw [running] at stopped
          cases stopped
  | read taken =>
      cases taken with
      | read _ running nonempty fits available =>
          rw [running] at stopped
          cases stopped
  | recv taken =>
      cases taken with
      | recv _ running queued =>
          rw [running] at stopped
          cases stopped
  | readEnds readable taken =>
      cases taken with
      | readEnds running => exact ⟨rfl, rfl⟩
  | _ => exact ⟨stopped, rfl⟩

theorem FaultyStep.fault {system next : RelaySystem} {event : RelayEvent} (taken : FaultyStep system event next)
    (failed : event.label = none) :
    system.relay.running = true ∧ next.relay.running = false ∧ next.relay.frames = system.relay.frames := by
  cases taken with
  | step taken => cases failed
  | readUnsent taken =>
      cases taken with
      | read _ running nonempty fits available => exact ⟨running, rfl, rfl⟩
  | responseUnsent taken =>
      cases taken with
      | recv _ running queued => exact ⟨running, rfl, rfl⟩

/-- What the client has got, it got in front of the send that failed. -/
theorem intact_front {events : List RelayEvent} {system : RelaySystem} (run : Steps FaultyStep start events system) :
    ∃ labels later front, events.filterMap RelayEvent.label = labels ++ later ∧ Steps Step start labels front ∧
      front.relay.frames = system.relay.frames ∧ (system.relay.running = true → later = [] ∧ front = system) := by
  induction run with
  | start => exact ⟨[], [], start, rfl, .start, rfl, fun _ => ⟨rfl, rfl⟩⟩
  | @step events system event next run taken ih =>
      obtain ⟨labels, later, front, split, fine, frames, intact⟩ := ih
      rw [filterMap_append_singleton, split, List.append_assoc]
      by_cases failed : event.label = none
      · obtain ⟨_, stopped, same⟩ := taken.fault failed
        refine ⟨labels, later, front, ?_, fine, frames.trans same.symm, fun running => ?_⟩
        · rw [failed, Option.toList_none, List.append_nil]
        · rw [stopped] at running
          cases running
      · cases taken with
        | readUnsent => exact absurd rfl failed
        | responseUnsent => exact absurd rfl failed
        | @step _ label taken =>
            cases running : system.relay.running with
            | true =>
                obtain ⟨rfl, rfl⟩ := intact running
                refine ⟨labels ++ [label], [], next, ?_, fine.step taken, rfl, fun _ => ⟨rfl, rfl⟩⟩
                rw [List.nil_append, List.append_nil]
                rfl
            | false =>
                obtain ⟨stopped, same⟩ := taken.stopped running
                refine ⟨labels, later ++ [label], front, rfl, fine, frames.trans same.symm, fun running => ?_⟩
                rw [stopped] at running
                cases running

/-- Shutting down twice is no step. -/
def TaskStep (system : RelaySystem) (event : RelayEvent) (next : RelaySystem) : Prop :=
  FaultyStep system event next ∧ event.ofTask = true ∧ next ≠ system

/-- At most this many steps of the tasks are left. A response takes one step into the
queue and one out of it. -/
def backlog (self : RelaySystem) : Nat :=
  2 * self.waiting.length + self.relay.control.length + self.relay.unread.length +
    self.relay.running.toNat + (!self.writeShut).toNat + (!self.sinkClosed).toNat

theorem Step.backlog_lt {system next : RelaySystem} {label : SystemLabel} (taken : Step system label next)
    (own : label.ofTask = true) (moved : next ≠ system) : next.backlog < system.backlog := by
  unfold backlog
  cases taken with
  | receive => cases own
  | arrive => cases own
  | close => cases own
  | reset => cases own
  | enqueue responds queued =>
      cases queued with
      | enqueue _ running room =>
          rw [responds]
          simp only [List.length_append, List.length_cons, List.length_nil]
          omega
  | drop responds stopped =>
      rw [responds]
      simp only [List.length_cons]
      omega
  | shutdown left idle =>
      cases shut : system.writeShut with
      | true =>
          refine absurd ?_ moved
          rw [← shut]
      | false =>
          simp only [Bool.not_false, Bool.not_true, Bool.toNat_true, Bool.toNat_false]
          omega
  | closeSink stopped =>
      cases closed : system.sinkClosed with
      | true =>
          refine absurd ?_ moved
          rw [← closed]
      | false =>
          simp only [Bool.not_false, Bool.not_true, Bool.toNat_true, Bool.toNat_false]
          omega
  | read taken =>
      cases taken with
      | read _ running nonempty fits available =>
          have some := List.length_pos_iff.mpr nonempty
          rw [available]
          simp only [TcpToWs.send, if_true, List.length_append]
          omega
  | recv taken =>
      cases taken with
      | recv _ running queued =>
          rw [queued]
          simp only [TcpToWs.send, if_true, List.length_cons]
          omega
  | readEnds readable taken =>
      cases taken with
      | readEnds running =>
          rw [running]
          simp only [Bool.toNat_true, Bool.toNat_false]
          omega

theorem TaskStep.backlog_lt {system next : RelaySystem} {event : RelayEvent}
    (works : TaskStep system event next) : next.backlog < system.backlog := by
  obtain ⟨taken, own, moved⟩ := works
  cases taken with
  | step taken => exact taken.backlog_lt own moved
  | readUnsent taken =>
      cases taken with
      | read _ running nonempty fits available =>
          have some := List.length_pos_iff.mpr nonempty
          simp only [backlog, available, TcpToWs.send, running, Bool.false_eq_true, if_false, List.length_append,
            Bool.toNat_true, Bool.toNat_false]
          omega
  | responseUnsent taken =>
      cases taken with
      | recv _ running queued =>
          simp only [backlog, queued, TcpToWs.send, running, Bool.false_eq_true, if_false, List.length_cons,
            Bool.toNat_true, Bool.toNat_false]
          omega

/-! ## Where no task has a step left -/

/-- No response waits. A running loop waits for the backend, with nothing unsent; a stopped
one has closed the sink. -/
structure AtRest (system : RelaySystem) : Prop where
  waiting : system.waiting = []
  running : system.relay.running = true →
    system.relay.control = [] ∧ system.relay.unread = [] ∧ system.backendEnded = false
  stopped : system.relay.running = false → system.sinkClosed = true
  shut : ∀ error, system.client = .ended error → system.writeShut = true

section Quiet

variable {system : RelaySystem} (quiet : Quiet TaskStep system)

include quiet

/-- A step of a task that is still possible changes nothing. -/
theorem same_of_quiet {label : SystemLabel} {next : RelaySystem} (taken : Step system label next)
    (own : label.ofTask = true) : next = system := by
  by_contra moved
  exact quiet (.step label) next ⟨.step taken, own, moved⟩

theorem control_of_quiet (running : system.relay.running = true) : system.relay.control = [] := by
  cases queued : system.relay.control with
  | nil => rfl
  | cons response rest =>
      have same := same_of_quiet quiet (.recv (.recv true running queued)) rfl
      have shorter := congrArg (fun next => next.relay.control.length) same
      simp only [TcpToWs.send, if_true, queued, List.length_cons] at shorter
      omega

theorem unread_of_quiet (running : system.relay.running = true) : system.relay.unread = [] := by
  by_contra some
  have nonempty : system.relay.unread.take readBufferSize ≠ [] := by
    rw [ne_eq, List.take_eq_nil_iff, not_or]
    exact ⟨by decide, some⟩
  have taken := TcpToWs.Step.read true running nonempty (List.length_take_le _ _)
    (List.take_append_drop readBufferSize system.relay.unread).symm
  have same := same_of_quiet quiet (.read taken) rfl
  have shorter := congrArg (fun next => next.relay.unread.length) same
  have long := List.length_pos_iff.mpr some
  simp only [TcpToWs.send, if_true, List.length_drop, readBufferSize] at shorter
  omega

theorem waiting_of_quiet : system.waiting = [] := by
  cases responds : system.waiting with
  | nil => rfl
  | cons response rest =>
      -- a full queue would have been taken from
      have ⟨label, next, taken, own, left⟩ : ∃ label next, Step system label next ∧ label.ofTask = true ∧
          next.waiting = rest := by
        cases running : system.relay.running with
        | true =>
            have room : system.relay.control.length < controlQueueSize := by
              rw [control_of_quiet quiet running]
              decide
            exact ⟨_, _, .enqueue responds (.enqueue response running room), rfl, rfl⟩
        | false => exact ⟨_, _, .drop responds running, rfl, rfl⟩
      rw [same_of_quiet quiet taken own, responds] at left
      exact absurd (congrArg List.length left) (by simp)

theorem atRest_of_quiet : system.AtRest := by
  have idle := waiting_of_quiet quiet
  refine ⟨idle, fun running => ?_, fun stopped => ?_, fun error left => ?_⟩
  · have drained := unread_of_quiet quiet running
    refine ⟨control_of_quiet quiet running, drained, ?_⟩
    cases ended : system.backendEnded with
    | false => rfl
    | true =>
        have same := same_of_quiet quiet (.readEnds ⟨ended, drained⟩ (.readEnds running)) rfl
        rw [← same] at running
        cases running
  · exact (congrArg sinkClosed (same_of_quiet quiet (.closeSink stopped) rfl)).symm
  · exact (congrArg writeShut (same_of_quiet quiet (.shutdown left idle) rfl)).symm

end Quiet

/-! ## What a running loop has sent -/

/-- The answers of the client-side task are queued or wait, and the backend's bytes are
read or unread. -/
structure Delivering (labels : List SystemLabel) (system : RelaySystem) : Prop where
  client : system.client = stateAfter SessionPhase.serve (.relaying .start) (labels.filterMap receivedInput)
  answers : system.relay.running = true →
    (SessionPhase.relaying .start).replies (labels.filterMap receivedInput) =
      labels.filterMap queuedResponse ++ system.waiting
  stream : system.backendEnded = false →
    (labels.filterMap arrivedData).flatten = (labels.filterMap takenData).flatten ++ system.relay.unread
  frames : ∃ dataFrames, Interleaved (labels.filterMap sentResponse) dataFrames system.relay.frames ∧
    List.Forall₂ CarriesRead (labels.filterMap takenData) dataFrames

/-- A step that concerns neither the answers nor the stream. -/
theorem Delivering.idle {labels : List SystemLabel} {system next : RelaySystem} {label : SystemLabel}
    (delivering : Delivering labels system) (unreceived : receivedInput label = none)
    (unqueued : queuedResponse label = none) (unsent : sentResponse label = none)
    (untaken : takenData label = none) (unarrived : arrivedData label = none)
    (client : next.client = system.client)
    (answers : next.relay.running = true → system.relay.running = true ∧ next.waiting = system.waiting)
    (stream : next.backendEnded = false → system.backendEnded = false ∧ next.relay.unread = system.relay.unread)
    (frames : next.relay.frames = system.relay.frames) : Delivering (labels ++ [label]) next := by
  constructor <;> simp only [filterMap_append_singleton, unreceived, unqueued, unsent, untaken, unarrived,
    Option.toList_none, List.append_nil]
  · exact client.trans delivering.client
  · intro running
    obtain ⟨before, same⟩ := answers running
    rw [same]
    exact delivering.answers before
  · intro sending
    obtain ⟨before, same⟩ := stream sending
    rw [same]
    exact delivering.stream before
  · rw [frames]
    exact delivering.frames

theorem Delivering.step {labels : List SystemLabel} {system next : RelaySystem} {label : SystemLabel}
    (delivering : Delivering labels system) (taken : Step system label next) :
    Delivering (labels ++ [label]) next := by
  cases taken with
  | drop responds stopped =>
      refine delivering.idle rfl rfl rfl rfl rfl rfl (fun running => ?_) (fun sending => ⟨sending, rfl⟩) rfl
      rw [stopped] at running
      cases running
  | shutdown left idle =>
      exact delivering.idle rfl rfl rfl rfl rfl rfl (fun running => ⟨running, rfl⟩) (fun sending => ⟨sending, rfl⟩) rfl
  | closeSink stopped =>
      exact delivering.idle rfl rfl rfl rfl rfl rfl (fun running => ⟨running, rfl⟩) (fun sending => ⟨sending, rfl⟩) rfl
  | close =>
      exact delivering.idle rfl rfl rfl rfl rfl rfl (fun running => ⟨running, rfl⟩)
        (fun sending => by cases sending) rfl
  | reset =>
      exact delivering.idle rfl rfl rfl rfl rfl rfl (fun running => ⟨running, rfl⟩)
        (fun sending => by cases sending) rfl
  | readEnds readable taken =>
      cases taken with
      | readEnds running =>
          exact delivering.idle rfl rfl rfl rfl rfl rfl (fun running => by cases running)
            (fun sending => ⟨sending, rfl⟩) rfl
  | @receive task reading idle input written =>
      obtain ⟨client, answers, stream, frames⟩ := delivering
      have phase : SessionPhase.relaying task =
          stateAfter SessionPhase.serve (.relaying .start) (labels.filterMap receivedInput) := reading ▸ client
      constructor <;> simp only [filterMap_append_singleton, receivedInput, queuedResponse, sentResponse, takenData,
        arrivedData, Option.toList_none, Option.toList_some, List.append_nil]
      · rw [stateAfter_append, ← phase]
        rfl
      · intro running
        rw [SessionPhase.replies_append, ← phase, answers running, idle, List.append_nil]
        exact congrArg (_ ++ ·) (List.append_nil _)
      · exact stream
      · exact frames
  | arrive sending =>
      obtain ⟨client, answers, stream, frames⟩ := delivering
      constructor <;> simp only [filterMap_append_singleton, receivedInput, queuedResponse, sentResponse, takenData,
        arrivedData, Option.toList_none, Option.toList_some, List.append_nil]
      · exact client
      · exact answers
      · intro _
        rw [List.flatten_concat, stream sending, List.append_assoc]
      · exact frames
  | @enqueue response rest relay responds queued =>
      cases queued with
      | enqueue _ running room =>
          obtain ⟨client, answers, stream, frames⟩ := delivering
          constructor <;> simp only [filterMap_append_singleton, receivedInput, queuedResponse, sentResponse,
            takenData, arrivedData, Option.toList_none, Option.toList_some, List.append_nil]
          · exact client
          · intro _
            rw [answers running, responds]
            exact List.append_cons _ _ _
          · exact stream
          · exact frames
  | @read data relay taken =>
      cases taken with
      | @read _ rest sent running nonempty fits available =>
          obtain ⟨client, answers, stream, dataFrames, interleaved, carried⟩ := delivering
          constructor <;> simp only [filterMap_append_singleton, receivedInput, queuedResponse, sentResponse,
            takenData, arrivedData, Option.toList_none, Option.toList_some, List.append_nil]
          · exact client
          · intro _
            exact answers running
          · intro sending
            rw [List.flatten_concat, stream sending, available, List.append_assoc]
            rfl
          · refine ⟨_, interleaved.right _, ?_⟩
            exact List.rel_append carried (.cons (encodeDataMessage_carries fits) .nil)
  | @recv response relay taken =>
      cases taken with
      | @recv _ rest sent running queued =>
          obtain ⟨client, answers, stream, dataFrames, interleaved, carried⟩ := delivering
          constructor <;> simp only [filterMap_append_singleton, receivedInput, queuedResponse, sentResponse,
            takenData, arrivedData, Option.toList_none, Option.toList_some, List.append_nil]
          · exact client
          · intro _
            exact answers running
          · exact stream
          · exact ⟨dataFrames, interleaved.left response, carried⟩

theorem delivering_of_run {labels : List SystemLabel} {system : RelaySystem}
    (run : Steps Step start labels system) : Delivering labels system := by
  have initial : Delivering [] start := ⟨rfl, fun _ => rfl, fun _ => rfl, [], .nil, .nil⟩
  exact run.invariant Delivering initial fun _ _ _ _ delivering taken => delivering.step taken

/-- The client has every answer to what the gateway received, and every byte that the
backend sent, each in order. -/
def Delivered (labels : List SystemLabel) (system : RelaySystem) : Prop :=
  ∃ reads dataFrames, (labels.filterMap arrivedData).flatten = reads.flatten ∧
    List.Forall₂ CarriesRead reads dataFrames ∧
    Interleaved ((SessionPhase.relaying .start).replies (labels.filterMap receivedInput)) dataFrames
      system.relay.frames

theorem Delivering.delivered {labels : List SystemLabel} {system : RelaySystem}
    (delivering : Delivering labels system) (accounted : Accounted labels system) (rests : system.AtRest)
    (running : system.relay.running = true) : Delivered labels system := by
  obtain ⟨control, unread, sending⟩ := rests.running running
  obtain ⟨dataFrames, interleaved, carried⟩ := delivering.frames
  refine ⟨labels.filterMap takenData, dataFrames, ?_, carried, ?_⟩
  · rw [delivering.stream sending, unread, List.append_nil]
  · rw [delivering.answers running, rests.waiting, accounted.queue, control, List.append_nil, List.append_nil]
    exact interleaved

/-- In every run, at every point, whichever sends fail: the tasks have a bounded number of steps
left, and however these are taken, nothing is stuck behind them: a loop that still runs has sent
every answer and every byte, and one that does not has closed the sink. -/
theorem tasks_come_to_rest {events : List RelayEvent} {system : RelaySystem}
    (run : Steps FaultyStep start events system) :
    (∃ own final, Steps TaskStep system own final ∧ Quiet TaskStep final) ∧
      ∀ own final, Steps TaskStep system own final → own.length ≤ system.backlog ∧
        (Quiet TaskStep final → final.AtRest ∧
          (final.relay.running = true → Delivered ((events ++ own).filterMap RelayEvent.label) final)) := by
  have smaller : ∀ state event next, TaskStep state event next → next.backlog < state.backlog :=
    fun _ _ _ works => works.backlog_lt
  refine ⟨exists_quiet smaller system, fun own final steps => ⟨?_, fun quiet => ?_⟩⟩
  · exact Nat.le_of_add_right_le (steps.length_le smaller)
  · have rests := atRest_of_quiet quiet
    refine ⟨rests, fun running => ?_⟩
    obtain ⟨labels, later, front, split, fine, _, intact⟩ :=
      intact_front (run.append (steps.mono fun _ _ _ taken => taken.1))
    obtain ⟨rfl, rfl⟩ := intact running
    rw [split, List.append_nil]
    exact (delivering_of_run fine).delivered (accounted_of_run fine) rests running

/-- A Keepalive is not answered yet, and two bytes of the backend are not read. -/
def busyEvents : List RelayEvent := [.step (.receive keepaliveInput), .step (.arrive [1, 2])]

theorem tasks_come_to_rest_keepalive :
    ∃ system, Steps FaultyStep start busyEvents system ∧ system.backlog = 7 ∧
      ∀ own final, Steps TaskStep system own final → own.length ≤ 7 ∧
        (Quiet TaskStep final → final.AtRest ∧
          (final.relay.running = true → Delivered ((busyEvents ++ own).filterMap RelayEvent.label) final)) := by
  have received := Steps.single (FaultyStep.step (@Step.receive start _ rfl rfl keepaliveInput (.inl rfl)))
  rw [serveRelay_keepalive WsToTcp.start (by decide)] at received
  have arrived := received.step (.step (@Step.arrive _ [1, 2] rfl))
  exact ⟨_, arrived, rfl, (tasks_come_to_rest arrived).2⟩

end RelaySystem

end RdGateway.Server
