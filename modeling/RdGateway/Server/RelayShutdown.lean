import RdGateway.Server.SessionControl

/-!
# The end of a relay

Both relay tasks, the queue between them and the backend as one system. The task that
writes to the client stops at the end of the backend's stream, and the `select!` that it
loops on does not look into the queue first.
-/

set_option autoImplicit false

namespace RdGateway.Server

open Wirekit Proto RdGateway.Core

structure RelaySystem where
  /-- The client-side task, with the responses that wait for room in the queue. -/
  client : SessionPhase
  waiting : List Bytes
  writeShut : Bool
  /-- The backend sends nothing more. -/
  backendEnded : Bool
  relay : TcpToWs
  sinkClosed : Bool
  /-- How many queued responses were queued before the end became readable. -/
  earlyQueued : Nat
deriving Repr, DecidableEq

/-- A step of the tasks or of the backend. An enqueued response is early if the end of the
backend's stream was not readable. -/
inductive SystemLabel where
  | receive (input : RelayInput)
  | enqueue (response : Bytes) (early : Bool)
  | drop (response : Bytes)
  | shutdown
  | arrive (data : Bytes)
  | close
  | reset
  | read (data : Bytes)
  | recv (response : Bytes)
  | readEnds
  | closeSink
deriving Repr, DecidableEq

namespace RelaySystem

def start : RelaySystem :=
  { client := .relaying .start, waiting := [], writeShut := false, backendEnded := false
    relay := .start [], sinkClosed := false, earlyQueued := 0 }

/-- The next read returns no bytes, or an error. -/
def EndReadable (self : RelaySystem) : Prop := self.backendEnded = true ∧ self.relay.unread = []

instance (self : RelaySystem) : Decidable self.EndReadable := inferInstanceAs (Decidable (_ ∧ _))

/-- No WebSocket send fails. The queue is the one of `TcpToWs.Step`. -/
inductive Step : RelaySystem → SystemLabel → RelaySystem → Prop where
  -- the flag of an item is for the write of a Data message: a response is queued below
  | receive {self : RelaySystem} {task : WsToTcp} (reading : self.client = .relaying task)
      (idle : self.waiting = []) (input : RelayInput)
      (written : input.ioOk = true ∨ ∃ d, parsed input.item = some (.data d)) :
      Step self (.receive input)
        { self with
          client := (SessionPhase.serveRelay task input).2
          waiting := (SessionPhase.serveRelay task input).1 }
  | enqueue {self : RelaySystem} {response : Bytes} {rest : List Bytes} {relay : TcpToWs}
      (responds : self.waiting = response :: rest)
      (queued : TcpToWs.Step self.relay (.enqueue response) relay) :
      Step self (.enqueue response (¬ self.EndReadable))
        { self with
          waiting := rest, relay
          earlyQueued := if self.EndReadable then self.earlyQueued else self.earlyQueued + 1 }
  -- nobody takes from the queue any more
  | drop {self : RelaySystem} {response : Bytes} {rest : List Bytes}
      (responds : self.waiting = response :: rest) (stopped : self.relay.running = false) :
      Step self (.drop response) { self with waiting := rest }
  | shutdown {self : RelaySystem} {error : Option SessionError} (left : self.client = .ended error)
      (idle : self.waiting = []) : Step self .shutdown { self with writeShut := true }
  | arrive {self : RelaySystem} {data : Bytes} (sending : self.backendEnded = false) :
      Step self (.arrive data)
        { self with relay := { self.relay with unread := self.relay.unread ++ data } }
  | close {self : RelaySystem} : Step self .close { self with backendEnded := true }
  | reset {self : RelaySystem} :
      Step self .reset
        { self with backendEnded := true, relay := { self.relay with unread := [] } }
  | read {self : RelaySystem} {data : Bytes} {relay : TcpToWs}
      (taken : TcpToWs.Step self.relay (.read data true) relay) :
      Step self (.read data) { self with relay }
  | recv {self : RelaySystem} {response : Bytes} {relay : TcpToWs}
      (taken : TcpToWs.Step self.relay (.recv response true) relay) :
      Step self (.recv response) { self with relay, earlyQueued := self.earlyQueued - 1 }
  | readEnds {self : RelaySystem} {relay : TcpToWs} (readable : self.EndReadable)
      (taken : TcpToWs.Step self.relay .readEnds relay) :
      Step self .readEnds { self with relay }
  | closeSink {self : RelaySystem} (stopped : self.relay.running = false) :
      Step self .closeSink { self with sinkClosed := true }

/-! ## The books of a run -/

def queuedResponse : SystemLabel → Option Bytes
  | .enqueue response _ => some response
  | _ => none

def earlyResponse : SystemLabel → Option Bytes
  | .enqueue response true => some response
  | _ => none

def sentResponse : SystemLabel → Option Bytes
  | .recv response => some response
  | _ => none

/-- The queue lies between what was queued and what was sent, and early responses are in
front of the others. -/
structure Accounted (labels : List SystemLabel) (system : RelaySystem) : Prop where
  queue : labels.filterMap queuedResponse = labels.filterMap sentResponse ++ system.relay.control
  front : labels.filterMap earlyResponse <+: labels.filterMap queuedResponse
  early : ¬ system.EndReadable → labels.filterMap earlyResponse = labels.filterMap queuedResponse
  count : system.earlyQueued =
    (labels.filterMap earlyResponse).length - (labels.filterMap sentResponse).length
  frames : ∃ dataFrames, Interleaved (labels.filterMap sentResponse) dataFrames system.relay.frames

theorem Accounted.sent_iff {labels : List SystemLabel} {system : RelaySystem}
    (accounted : Accounted labels system) :
    labels.filterMap earlyResponse <+: labels.filterMap sentResponse ↔ system.earlyQueued = 0 := by
  rw [accounted.count, Nat.sub_eq_zero_iff_le]
  constructor
  · exact List.IsPrefix.length_le
  · have sent : labels.filterMap sentResponse <+: labels.filterMap queuedResponse :=
      accounted.queue ▸ List.prefix_append _ _
    exact List.prefix_of_prefix_length_le accounted.front sent

/-- A step that queues and sends nothing leaves the books as they are, if it does not
make the end unreadable. -/
theorem Accounted.keep {labels : List SystemLabel} {system next : RelaySystem} {label : SystemLabel}
    (accounted : Accounted labels system) (unqueued : queuedResponse label = none)
    (unsent : sentResponse label = none) (control : next.relay.control = system.relay.control)
    (frames : ∀ sent dataFrames, Interleaved sent dataFrames system.relay.frames →
      ∃ dataFrames, Interleaved sent dataFrames next.relay.frames)
    (stays : system.EndReadable → next.EndReadable) (count : next.earlyQueued = system.earlyQueued) :
    Accounted (labels ++ [label]) next := by
  have late : earlyResponse label = none := by
    cases label with
    | enqueue response early => cases unqueued
    | _ => rfl
  obtain ⟨dataFrames, interleaved⟩ := accounted.frames
  constructor
  · simp only [filterMap_append_singleton, unqueued, unsent, Option.toList_none, List.append_nil, control]
    exact accounted.queue
  · simp only [filterMap_append_singleton, unqueued, late, Option.toList_none, List.append_nil]
    exact accounted.front
  · simp only [filterMap_append_singleton, unqueued, late, Option.toList_none, List.append_nil]
    exact fun unreadable => accounted.early fun readable => unreadable (stays readable)
  · simp only [filterMap_append_singleton, unsent, late, Option.toList_none, List.append_nil, count]
    exact accounted.count
  · simp only [filterMap_append_singleton, unsent, Option.toList_none, List.append_nil]
    exact frames _ _ interleaved

theorem Accounted.idle {labels : List SystemLabel} {system next : RelaySystem} {label : SystemLabel}
    (accounted : Accounted labels system) (unqueued : queuedResponse label = none)
    (unsent : sentResponse label = none) (control : next.relay.control = system.relay.control)
    (frames : next.relay.frames = system.relay.frames)
    (stays : system.EndReadable → next.EndReadable) (count : next.earlyQueued = system.earlyQueued) :
    Accounted (labels ++ [label]) next := by
  refine accounted.keep unqueued unsent control ?_ stays count
  intro sent dataFrames interleaved
  rw [frames]
  exact ⟨dataFrames, interleaved⟩

theorem Accounted.step {labels : List SystemLabel} {system next : RelaySystem} {label : SystemLabel}
    (accounted : Accounted labels system) (taken : Step system label next) :
    Accounted (labels ++ [label]) next := by
  cases taken with
  | receive reading idle input written =>
      exact accounted.idle rfl rfl rfl rfl id rfl
  | drop responds stopped =>
      exact accounted.idle rfl rfl rfl rfl id rfl
  | shutdown left idle =>
      exact accounted.idle rfl rfl rfl rfl id rfl
  | closeSink stopped =>
      exact accounted.idle rfl rfl rfl rfl id rfl
  | close =>
      exact accounted.idle rfl rfl rfl rfl (fun readable => ⟨rfl, readable.2⟩) rfl
  | reset =>
      exact accounted.idle rfl rfl rfl rfl (fun _ => ⟨rfl, rfl⟩) rfl
  | arrive sending =>
      refine accounted.idle rfl rfl rfl rfl ?_ rfl
      intro holds
      obtain ⟨ended, _⟩ := holds
      rw [ended] at sending
      cases sending
  | readEnds readable taken =>
      cases taken
      exact accounted.idle rfl rfl rfl rfl id rfl
  | read taken =>
      cases taken with
      | read sent running nonempty fits available =>
          refine accounted.keep rfl rfl rfl (fun _ dataFrames same => ⟨_, same.right _⟩) ?_ rfl
          intro holds
          obtain ⟨_, drained⟩ := holds
          rw [drained] at available
          exact absurd (List.append_eq_nil_iff.mp available.symm).1 nonempty
  | @recv response relay taken =>
      cases taken with
      | @recv _ rest sent running queued =>
          obtain ⟨queue, front, early, count, dataFrames, interleaved⟩ := accounted
          rw [queued] at queue
          constructor <;> simp only [filterMap_append_singleton, queuedResponse, earlyResponse,
            sentResponse, Option.toList_none, Option.toList_some, List.append_nil]
          · exact queue.trans (List.append_cons _ _ _)
          · exact front
          · exact early
          · rw [count, List.length_append]
            exact Nat.sub_sub _ _ _
          · exact ⟨dataFrames, interleaved.left response⟩
  | @enqueue response rest relay responds queued =>
      cases queued with
      | enqueue _ running room =>
          obtain ⟨queue, front, early, count, dataFrames, interleaved⟩ := accounted
          have grown : labels.filterMap queuedResponse ++ [response] =
              labels.filterMap sentResponse ++ (system.relay.control ++ [response]) := by
            rw [queue, List.append_assoc]
          by_cases readable : system.EndReadable
          · have late : decide (¬ system.EndReadable) = false := decide_eq_false (not_not_intro readable)
            rw [late, if_pos readable]
            constructor <;> simp only [filterMap_append_singleton, queuedResponse, earlyResponse,
              sentResponse, Option.toList_none, Option.toList_some, List.append_nil]
            · exact grown
            · exact front.trans (List.prefix_append _ _)
            · exact fun unreadable => absurd readable unreadable
            · exact count
            · exact ⟨dataFrames, interleaved⟩
          · have soon : decide (¬ system.EndReadable) = true := decide_eq_true readable
            have same := early readable
            have longer : (labels.filterMap sentResponse).length ≤
                (labels.filterMap earlyResponse).length := by
              rw [same, queue]
              exact (List.prefix_append _ _).length_le
            rw [soon, if_neg readable]
            constructor <;> simp only [filterMap_append_singleton, queuedResponse, earlyResponse,
              sentResponse, Option.toList_none, Option.toList_some, List.append_nil]
            · exact grown
            · exact same ▸ List.prefix_rfl
            · exact fun _ => congrArg (· ++ [response]) same
            · rw [count, List.length_append]
              exact (Nat.sub_add_comm longer).symm
            · exact ⟨dataFrames, interleaved⟩

theorem accounted_of_run {labels : List SystemLabel} {system : RelaySystem}
    (run : Steps Step start labels system) : Accounted labels system := by
  have initial : Accounted [] start := ⟨rfl, List.prefix_rfl, fun _ => rfl, rfl, [], .nil⟩
  exact run.invariant Accounted initial fun _ _ _ _ accounted taken => accounted.step taken

/-! ## The step that ends the loop -/

/-- The steps in which the end of the stream is taken once the early responses are sent. -/
def Drained (system : RelaySystem) (label : SystemLabel) (next : RelaySystem) : Prop :=
  Step system label next ∧ (label = .readEnds → system.earlyQueued = 0)

/-- The end of the stream is the one step that stops the loop, and a stopped loop neither
sends nor takes a response into the queue. -/
theorem Step.running {system next : RelaySystem} {label : SystemLabel}
    (taken : Step system label next) :
    (label = .readEnds ∧ system.relay.running = true ∧ next.relay.running = false) ∨
      (label ≠ .readEnds ∧ next.relay.running = system.relay.running ∧
        (system.relay.running = false → earlyResponse label = none ∧ sentResponse label = none)) := by
  cases taken with
  | readEnds readable taken =>
      cases taken with
      | readEnds running => exact .inl ⟨rfl, running, rfl⟩
  | enqueue responds queued =>
      cases queued with
      | enqueue _ running room =>
          refine .inr ⟨nofun, rfl, fun stopped => ?_⟩
          rw [running] at stopped
          cases stopped
  | recv taken =>
      cases taken with
      | recv _ running queued =>
          refine .inr ⟨nofun, rfl, fun stopped => ?_⟩
          rw [running] at stopped
          cases stopped
  | read taken =>
      cases taken with
      | read _ running nonempty fits available => exact .inr ⟨nofun, rfl, fun _ => ⟨rfl, rfl⟩⟩
  | _ => exact .inr ⟨nofun, rfl, fun _ => ⟨rfl, rfl⟩⟩

theorem closed_stopped {labels : List SystemLabel} {system : RelaySystem}
    (run : Steps Step start labels system) (closed : system.sinkClosed = true) :
    system.relay.running = false := by
  induction run with
  | start => cases closed
  | @step labels system label next run taken ih =>
      rcases taken.running with ⟨_, _, stopped⟩ | ⟨_, same, _⟩
      · exact stopped
      · cases taken with
        | closeSink stopped => exact stopped
        | enqueue => exact same.trans (ih closed)
        | read => exact same.trans (ih closed)
        | recv => exact same.trans (ih closed)
        | readEnds => exact same.trans (ih closed)
        | _ => exact ih closed

theorem drained_sends {labels : List SystemLabel} {system : RelaySystem}
    (run : Steps Drained start labels system) (stopped : system.relay.running = false) :
    labels.filterMap earlyResponse <+: labels.filterMap sentResponse := by
  induction run with
  | start => cases stopped
  | @step labels system label next run taken ih =>
      have accounted := accounted_of_run (run.mono fun _ _ _ taken => taken.1)
      rw [filterMap_append_singleton, filterMap_append_singleton]
      rcases taken.1.running with ⟨rfl, _, _⟩ | ⟨_, same, silent⟩
      · simp only [earlyResponse, sentResponse, Option.toList_none, List.append_nil]
        exact accounted.sent_iff.mpr (taken.2 rfl)
      · rw [same] at stopped
        obtain ⟨late, unsent⟩ := silent stopped
        rw [late, unsent, Option.toList_none, List.append_nil, List.append_nil]
        exact ih stopped

theorem drained_of_running {labels : List SystemLabel} {system : RelaySystem}
    (run : Steps Step start labels system) (running : system.relay.running = true) :
    Steps Drained start labels system := by
  induction run with
  | start => exact .start
  | @step labels system label next run taken ih =>
      rcases taken.running with ⟨_, _, stopped⟩ | ⟨other, same, _⟩
      · rw [stopped] at running
        cases running
      · exact .step (ih (same.symm.trans running)) ⟨taken, fun ends => absurd ends other⟩

theorem drained_of_sent {labels : List SystemLabel} {system : RelaySystem}
    (run : Steps Step start labels system)
    (sent : labels.filterMap earlyResponse <+: labels.filterMap sentResponse) :
    Steps Drained start labels system := by
  induction run with
  | start => exact .start
  | @step labels system label next run taken ih =>
      rw [filterMap_append_singleton, filterMap_append_singleton] at sent
      rcases taken.running with ⟨rfl, running, _⟩ | ⟨other, same, silent⟩
      · simp only [earlyResponse, sentResponse, Option.toList_none, List.append_nil] at sent
        exact .step (drained_of_running run running)
          ⟨taken, fun _ => (accounted_of_run run).sent_iff.mp sent⟩
      · refine .step ?_ ⟨taken, fun ends => absurd ends other⟩
        cases running : system.relay.running with
        | true => exact drained_of_running run running
        | false =>
            obtain ⟨late, unsent⟩ := silent running
            rw [late, unsent, Option.toList_none, List.append_nil, List.append_nil] at sent
            exact ih sent

/-- All responses that were queued before the end became readable were sent, in the order
of the queue and in front of the others. -/
def EarlySent (labels : List SystemLabel) (system : RelaySystem) : Prop :=
  labels.filterMap earlyResponse <+: labels.filterMap sentResponse ∧
    ∃ dataFrames, Interleaved (labels.filterMap sentResponse) dataFrames system.relay.frames

/-- When the sink is closed no early response is lost, exactly if none of them was in the
queue as the end of the stream was taken. -/
theorem earlySent_iff_drained {labels : List SystemLabel} {system : RelaySystem}
    (run : Steps Step start labels system) (closed : system.sinkClosed = true) :
    EarlySent labels system ↔ Steps Drained start labels system := by
  constructor
  · intro sent
    exact drained_of_sent run sent.1
  · intro drained
    exact ⟨drained_sends drained (closed_stopped run closed), (accounted_of_run run).frames⟩

def keepaliveInput : RelayInput := .succeeding (.binary writeKeepalive)

def closeChannelInput : RelayInput := .succeeding (.binary [14, 0, 0, 0, 12, 0, 0, 0, 0, 0, 0, 0])

theorem earlySent_iff_drained_keepalive :
    ∃ system, system.relay.frames = [writeKeepalive] ∧ system.sinkClosed = true ∧
      Steps Drained start [.receive keepaliveInput, .enqueue writeKeepalive true, .recv writeKeepalive,
        .close, .readEnds, .closeSink] system := by
  have parses : parsed keepaliveInput.item = some .keepalive := by decide
  have served := serveRelay_keepalive WsToTcp.start parses
  have received := Steps.single (@Step.receive start _ rfl rfl keepaliveInput (.inl rfl))
  rw [served] at received
  have queued := received.step (.enqueue rfl (.enqueue writeKeepalive rfl (by decide)))
  have sent := queued.step (.recv (.recv true rfl rfl))
  have ended := (sent.step .close).step (.readEnds ⟨rfl, rfl⟩ (.readEnds rfl))
  have closed := ended.step (.closeSink rfl)
  refine ⟨_, rfl, rfl, (earlySent_iff_drained closed rfl).mp ⟨List.prefix_rfl, [], ?_⟩⟩
  exact .left writeKeepalive .nil

/-- The backend closes when the task behind CloseChannel has shut its write half down, and
the loop takes the end of the stream first: the response is never sent. -/
theorem closeChannelResponse_lost :
    ¬ ∀ labels system, Steps Step start labels system → system.sinkClosed = true →
      EarlySent labels system := by
  intro sent
  have parses : parsed closeChannelInput.item = some (.closeChannel [0, 0, 0, 0]) := by decide
  have served := serveRelay_closeChannel WsToTcp.start parses
  have received := Steps.single (@Step.receive start _ rfl rfl closeChannelInput (.inl rfl))
  rw [served] at received
  have queued := received.step (.enqueue rfl (.enqueue writeCloseChannelResponse rfl (by decide)))
  have shut := queued.step (.shutdown rfl rfl)
  have ended := (shut.step .close).step (.readEnds ⟨rfl, rfl⟩ (.readEnds rfl))
  have closed := ended.step (.closeSink rfl)
  have lost := (sent _ _ closed rfl).1.length_le
  exact absurd lost (by decide)

end RelaySystem

end RdGateway.Server
