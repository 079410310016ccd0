import RdGateway.Server.RelayProgress
import RdGateway.Server.SessionFrames

/-!
# Answers to control messages

A session from its first item to the end of its relay, with the frames that go out to the
client. An answer in the relay is queued first, and the loop that sends it can stop before.
-/

set_option autoImplicit false

namespace RdGateway.Server

open Wirekit Proto RdGateway.Core SessionPhase

/-! ## The whole session -/

/-- The loop in front of the relay, and the relay; `sent` went out in front of it. -/
inductive SessionSystem where
  | control (session : GatewaySession) (sent : List Bytes)
  | relay (sent : List Bytes) (system : RelaySystem)
  | ended (error : Option SessionError) (sent : List Bytes)

inductive SessionLabel where
  | item (input : RelayInput)
  | relay (event : RelayEvent)
deriving Repr, DecidableEq

namespace SessionSystem

def start : SessionSystem := .control .new []

def ofPhase (sent : List Bytes) : SessionPhase → SessionSystem
  | .control session => .control session sent
  | .relaying task => .relay sent { RelaySystem.start with client := .relaying task }
  | .ended error => .ended error sent

inductive Step : SessionSystem → SessionLabel → SessionSystem → Prop where
  | item {session : GatewaySession} {sent : List Bytes} (input : RelayInput) :
      Step (.control session sent) (.item input)
        (ofPhase (sent ++ (serveControl session input).1) (serveControl session input).2)
  | relay {sent : List Bytes} {system next : RelaySystem} {event : RelayEvent}
      (taken : RelaySystem.FaultyStep system event next) :
      Step (.relay sent system) (.relay event) (.relay sent next)

def phase : SessionSystem → SessionPhase
  | .control session _ => .control session
  | .relay _ system => system.client
  | .ended error _ => .ended error

/-- What the client has got. -/
def frames : SessionSystem → List Bytes
  | .control _ sent => sent
  | .relay sent system => sent ++ system.relay.frames
  | .ended _ sent => sent

/-- Whether frames can still go out. -/
def sends : SessionSystem → Bool
  | .control _ _ => true
  | .relay _ system => system.relay.running
  | .ended _ _ => false

/-- What is still to go out. A loop that has stopped leaves it where it is. -/
def pending : SessionSystem → List Bytes
  | .relay _ system => if system.relay.running then system.relay.control ++ system.waiting else []
  | _ => []

theorem phase_ofPhase (sent : List Bytes) (phase : SessionPhase) : (ofPhase sent phase).phase = phase := by
  cases phase <;> rfl

theorem frames_ofPhase (sent : List Bytes) (phase : SessionPhase) : (ofPhase sent phase).frames = sent := by
  cases phase with
  | relaying task => exact List.append_nil sent
  | _ => rfl

theorem pending_ofPhase (sent : List Bytes) (phase : SessionPhase) : (ofPhase sent phase).pending = [] := by
  cases phase <;> rfl

end SessionSystem

def SessionLabel.received : SessionLabel → Option RelayInput
  | .item input => some input
  | .relay event => event.label.bind receivedInput

/-! ## Specification -/

def controlAnswer (item : WsItem) : List Bytes :=
  match parsed item with
  | some .keepalive => [writeKeepalive]
  | some (.closeChannel _) => [writeCloseChannelResponse]
  | _ => []

def isControlAnswer (frame : Bytes) : Bool := frame = writeKeepalive ∨ frame = writeCloseChannelResponse

/-- One answer to each control message that has come over an open channel. -/
def owedAnswers (inputs : List RelayInput) : List Bytes :=
  (exchanges serve SessionPhase.start inputs).flatMap fun exchange =>
    if exchange.before.InDataTransfer then controlAnswer exchange.event.item else []

/-- The session goes on behind a Keepalive and ends behind a CloseChannel, and the answers
that are owed, and no others, have gone out, or are about to. -/
structure ControlAnswered (labels : List SessionLabel) (system : SessionSystem) : Prop where
  taken : ∀ exchange ∈ exchanges serve SessionPhase.start (labels.filterMap SessionLabel.received),
    exchange.before.InDataTransfer → ControlTaken exchange
  given : owedAnswers (labels.filterMap SessionLabel.received) =
    system.frames.filter isControlAnswer ++ system.pending.filter isControlAnswer

def RelayEvent.stops : RelayEvent → Bool
  | .step .readEnds => true
  | .step _ => false
  | .readUnsent _ => true
  | .responseUnsent _ => true

/-- No control message comes between the ChannelResponse and the first Data message, or when
frames can no longer go out; and the loop does not stop with the answer to one on its way. -/
structure SparesAnswers (system : SessionSystem) (label : SessionLabel) : Prop where
  early : ∀ input, label = .item input → system.phase.AwaitsData → ¬ IsControl input.item
  late : ∀ input, label = .relay (.step (.receive input)) → system.sends = false → ¬ IsControl input.item
  queued : ∀ event, label = .relay event → event.stops = true → system.pending.filter isControlAnswer = []

theorem SparesAnswers.item {system : SessionSystem} {input : RelayInput}
    (early : system.phase.AwaitsData → ¬ IsControl input.item) : SparesAnswers system (.item input) := by
  constructor
  · intro other same
    cases same
    exact early
  · intro other same
    cases same
  · intro event same
    cases same

theorem SparesAnswers.receive {system : SessionSystem} {input : RelayInput}
    (late : system.sends = false → ¬ IsControl input.item) :
    SparesAnswers system (.relay (.step (.receive input))) := by
  constructor
  · intro other same
    cases same
  · intro other same
    cases same
    exact late
  · intro event same stops
    cases same
    cases stops

theorem SparesAnswers.event {system : SessionSystem} {event : RelayEvent}
    (nothing : event.label.bind receivedInput = none)
    (queued : event.stops = true → system.pending.filter isControlAnswer = []) :
    SparesAnswers system (.relay event) := by
  constructor
  · intro other same
    cases same
  · intro other same
    cases same
    cases nothing
  · intro other same
    cases same
    exact queued

/-! ## Which frames are answers -/

theorem controlAnswer_eq_nil {item : WsItem} : controlAnswer item = [] ↔ ¬ IsControl item := by
  unfold controlAnswer IsControl
  cases parsed item with
  | none => simp
  | some msg => cases msg <;> simp

theorem not_isControlAnswer {frame : Bytes} {msg : TsgMessage} (decoded : decodeWsMessage frame = .ok msg)
    (keepalive : msg ≠ .keepalive) (closeChannelResponse : msg ≠ .closeChannelResponse []) :
    isControlAnswer frame = false := by
  refine decide_eq_false fun answer => ?_
  rcases answer with rfl | rfl
  · exact keepalive (Outcome.ok.inj (decoded.symm.trans rfl))
  · exact closeChannelResponse (Outcome.ok.inj (decoded.symm.trans rfl))

theorem encodeDataMessage_notAnswer {data : Bytes} (fits : data.length ≤ readBufferSize) :
    isControlAnswer (encodeDataMessage data) = false := by
  obtain ⟨d, decoded, _⟩ := encodeDataMessage_carries fits
  exact not_isControlAnswer decoded TsgMessage.noConfusion TsgMessage.noConfusion

theorem processMessage_notAnswer {session : GatewaySession} {msg : TsgMessage} {response : Bytes}
    (replied : (session.processMessage msg).1 = .ok (some response)) : isControlAnswer response = false := by
  have transition := GatewaySession.processMessage_transition session msg
  generalize session.processMessage msg = result at transition replied
  cases transition with
  | handshake req waiting =>
      cases replied
      exact not_isControlAnswer (GatewaySession.handshakeReply_parse req) TsgMessage.noConfusion TsgMessage.noConfusion
  | tunnelCreate req waiting =>
      cases replied
      exact not_isControlAnswer (GatewaySession.tunnelReply_parse _) TsgMessage.noConfusion TsgMessage.noConfusion
  | tunnelAuth req waiting =>
      cases replied
      exact not_isControlAnswer GatewaySession.tunnelAuthReply_parse TsgMessage.noConfusion TsgMessage.noConfusion
  | channelCreate req waiting =>
      cases replied
      exact not_isControlAnswer (GatewaySession.channelReply_parse _) TsgMessage.noConfusion TsgMessage.noConfusion
  | data req transferring => cases replied
  | refused msg => cases replied

theorem serveControl_noAnswers (session : GatewaySession) (input : RelayInput) :
    (serveControl session input).1.filter isControlAnswer = [] := by
  unfold serveControl
  split
  · rfl
  · rfl
  · rfl
  · rfl
  · split
    · rfl
    · rfl
    · unfold serveMessage
      split
      · rfl
      · split
        · next response next replied =>
          have other := processMessage_notAnswer (congrArg Prod.fst replied)
          split
          · exact List.filter_cons_of_neg (by rw [other]; exact Bool.false_ne_true)
          · rfl
        · rfl
        · rfl

theorem inPipeSetupAck_notAnswer (payload : Bytes) :
    isControlAnswer (inPipeSetupAck typeInPipeSetup payload) = false := by
  have typed : (inPipeSetupAck typeInPipeSetup payload).head? = some 0x10 := rfl
  refine decide_eq_false fun answer => ?_
  rcases answer with same | same
  · rw [same] at typed
    exact absurd typed (by decide)
  · rw [same] at typed
    exact absurd typed (by decide)

/-- A round of the relay queues the answer to a control message, and no other answer. -/
theorem serveRelay_answers (task : WsToTcp) {input : RelayInput}
    (written : input.ioOk = true ∨ ∃ d, parsed input.item = some (.data d)) :
    (serveRelay task input).1.filter isControlAnswer = controlAnswer input.item := by
  change ((task.handleItem input).2.queued.drop task.queued.length).filter isControlAnswer = _
  have silent {other : WsToTcp} (same : other.queued = task.queued) :
      (other.queued.drop task.queued.length).filter isControlAnswer = [] := by
    rw [same, List.drop_length]
    rfl
  have sent {msg : TsgMessage} (message : parsed input.item = some msg) (undata : ∀ d, msg ≠ .data d)
      (frame : Bytes) : (task.send input.ioOk frame).queued.drop task.queued.length = [frame] := by
    rcases written with ok | ⟨d, data⟩
    · rw [drop_send, RelayInput.attempt, if_pos ok]
    · exact absurd (Option.some.inj (message.symm.trans data)) (undata d)
  have other {frame : Bytes} (notAnswer : isControlAnswer frame = false) : [frame].filter isControlAnswer = [] :=
    List.filter_cons_of_neg (by rw [notAnswer]; exact Bool.false_ne_true)
  cases message : parsed input.item with
  | none =>
      rw [handleItem_unparsed task message, controlAnswer, message]
      exact silent rfl
  | some msg =>
      rw [handleItem_message task message, controlAnswer, message]
      cases msg with
      | keepalive =>
          change ((task.send input.ioOk writeKeepalive).queued.drop _).filter _ = _
          rw [sent message fun _ => TsgMessage.noConfusion]
          rfl
      | closeChannel payload =>
          change ((task.send input.ioOk writeCloseChannelResponse).queued.drop _).filter _ = _
          rw [sent message fun _ => TsgMessage.noConfusion]
          rfl
      | channelCreate req =>
          change ((task.send input.ioOk relayChannelResponse.write).queued.drop _).filter _ = _
          rw [sent message fun _ => TsgMessage.noConfusion]
          have response := GatewaySession.channelReply_parse 1
          exact other (not_isControlAnswer response TsgMessage.noConfusion TsgMessage.noConfusion)
      | unknown msgType payload =>
          rw [WsToTcp.handleMessage]
          split
          · next setup =>
            subst setup
            rw [sent message fun _ => TsgMessage.noConfusion]
            exact other (inPipeSetupAck_notAnswer payload)
          · exact silent rfl
      | data d =>
          refine silent ?_
          unfold WsToTcp.handleMessage
          dsimp only
          split
          · rfl
          · split <;> rfl
      | _ => exact silent rfl

/-! ## The books of a run -/

/-- The phase is that of the machine, and while frames go out every owed answer is among those
that went out or that wait. -/
structure AnswersBooked (labels : List SessionLabel) (system : SessionSystem) : Prop where
  phase : system.phase = stateAfter serve SessionPhase.start (labels.filterMap SessionLabel.received)
  front : system.frames.filter isControlAnswer <+: owedAnswers (labels.filterMap SessionLabel.received)
  whole : system.sends = true → owedAnswers (labels.filterMap SessionLabel.received) =
    system.frames.filter isControlAnswer ++ system.pending.filter isControlAnswer

theorem owedAnswers_append (inputs : List RelayInput) (input : RelayInput) :
    owedAnswers (inputs ++ [input]) = owedAnswers inputs ++
      if (stateAfter serve SessionPhase.start inputs).InDataTransfer then controlAnswer input.item else [] := by
  rw [owedAnswers, exchanges_append, List.flatMap_append]
  exact congrArg (_ ++ ·) (List.append_nil _)

theorem taken_append {phase : SessionPhase} {inputs : List RelayInput} (input : RelayInput)
    (reached : phase = stateAfter serve SessionPhase.start inputs) :
    (∀ exchange ∈ exchanges serve SessionPhase.start (inputs ++ [input]),
        exchange.before.InDataTransfer → ControlTaken exchange) ↔
      (∀ exchange ∈ exchanges serve SessionPhase.start inputs,
        exchange.before.InDataTransfer → ControlTaken exchange) ∧ (phase.AwaitsData → ¬ IsControl input.item) := by
  rw [exchanges_append, List.forall_mem_append, ← reached]
  refine and_congr_right fun _ => ?_
  have single : exchanges serve phase [input] = [Exchange.of serve phase input] := rfl
  rw [single, List.forall_mem_singleton]
  constructor
  · intro taken awaits
    exact (controlTaken_iff awaits.opened input).mp (taken awaits.opened) awaits
  · intro spared opened
    exact (controlTaken_iff opened input).mpr spared

/-- A step of the relay that receives nothing, with what becomes of the answers on their way. -/
inductive AnswersMoved (system : RelaySystem) (event : RelayEvent) (next : RelaySystem) : Prop where
  | sending (running : system.relay.running = true) (runs : next.relay.running = true)
      (goes : event.stops = false)
      (same : (next.relay.frames ++ (next.relay.control ++ next.waiting)).filter isControlAnswer =
        (system.relay.frames ++ (system.relay.control ++ system.waiting)).filter isControlAnswer)
  | stopping (running : system.relay.running = true) (stops : event.stops = true)
      (stopped : next.relay.running = false) (same : next.relay.frames = system.relay.frames)
  | stopped (before : system.relay.running = false) (stopped : next.relay.running = false)
      (same : next.relay.frames = system.relay.frames)

theorem AnswersMoved.idle {system next : RelaySystem} {label : SystemLabel}
    (goes : RelayEvent.stops (.step label) = false) (running : next.relay.running = system.relay.running)
    (frames : next.relay.frames = system.relay.frames)
    (control : next.relay.control = system.relay.control) (waiting : next.waiting = system.waiting) :
    AnswersMoved system (.step label) next := by
  cases before : system.relay.running with
  | true => exact .sending before (running.trans before) goes (by rw [frames, control, waiting])
  | false => exact .stopped before (running.trans before) frames

theorem RelaySystem.Step.answersMoved {system next : RelaySystem} {label : SystemLabel}
    (taken : RelaySystem.Step system label next) (nothing : receivedInput label = none) :
    next.client = system.client ∧ AnswersMoved system (.step label) next := by
  cases taken with
  | receive => cases nothing
  | drop responds stopped => exact ⟨rfl, .stopped stopped stopped rfl⟩
  | shutdown => exact ⟨rfl, .idle rfl rfl rfl rfl rfl⟩
  | arrive => exact ⟨rfl, .idle rfl rfl rfl rfl rfl⟩
  | close => exact ⟨rfl, .idle rfl rfl rfl rfl rfl⟩
  | reset => exact ⟨rfl, .idle rfl rfl rfl rfl rfl⟩
  | closeSink => exact ⟨rfl, .idle rfl rfl rfl rfl rfl⟩
  | @enqueue response rest relay responds queued =>
      cases queued with
      | enqueue _ running room =>
          refine ⟨rfl, .sending running running rfl ?_⟩
          rw [responds, ← List.append_cons]
  | @read data relay taken =>
      cases taken with
      | read _ running nonempty fits available =>
          refine ⟨rfl, .sending running running rfl ?_⟩
          have other := encodeDataMessage_notAnswer fits
          simp only [TcpToWs.send, if_true, List.filter_append, List.filter_singleton, other, cond_false,
            List.append_nil]
  | @recv response relay taken =>
      cases taken with
      | @recv _ rest _ running queued =>
          refine ⟨rfl, .sending running running rfl ?_⟩
          simp only [TcpToWs.send, if_true, queued]
          rw [List.cons_append, ← List.append_cons]
  | readEnds readable taken =>
      cases taken with
      | readEnds running => exact ⟨rfl, .stopping running rfl rfl rfl⟩

theorem RelaySystem.FaultyStep.answersMoved {system next : RelaySystem} {event : RelayEvent}
    (taken : RelaySystem.FaultyStep system event next) (nothing : event.label.bind receivedInput = none) :
    next.client = system.client ∧ AnswersMoved system event next := by
  cases taken with
  | step taken => exact taken.answersMoved nothing
  | readUnsent taken =>
      cases taken with
      | read _ running nonempty fits available => exact ⟨rfl, .stopping running rfl rfl rfl⟩
  | responseUnsent taken =>
      cases taken with
      | recv _ running queued => exact ⟨rfl, .stopping running rfl rfl rfl⟩

section Books

variable {labels : List SessionLabel} {session : GatewaySession} {sent : List Bytes} {system next : RelaySystem}

theorem AnswersBooked.item (booked : AnswersBooked labels (.control session sent)) (input : RelayInput) :
    AnswersBooked (labels ++ [.item input])
        (.ofPhase (sent ++ (serveControl session input).1) (serveControl session input).2) ∧
      (ControlAnswered (labels ++ [.item input])
          (.ofPhase (sent ++ (serveControl session input).1) (serveControl session input).2) ↔
        ControlAnswered labels (.control session sent) ∧ SparesAnswers (.control session sent) (.item input)) := by
  obtain ⟨phase, front, whole⟩ := booked
  have exact := whole rfl
  have inputs : (labels ++ [SessionLabel.item input]).filterMap SessionLabel.received =
      labels.filterMap SessionLabel.received ++ [input] := filterMap_append_singleton _ _ _
  have owed := owedAnswers_append (labels.filterMap SessionLabel.received) input
  have frames : (SessionSystem.ofPhase (sent ++ (serveControl session input).1)
      (serveControl session input).2).frames.filter isControlAnswer = sent.filter isControlAnswer := by
    rw [SessionSystem.frames_ofPhase, List.filter_append, serveControl_noAnswers, List.append_nil]
  have unanswered : (if (control session).InDataTransfer then controlAnswer input.item else []) = [] ↔
      ((control session).AwaitsData → ¬ IsControl input.item) := by
    rw [ite_eq_right_iff, controlAnswer_eq_nil]
    rfl
  rw [← phase] at owed
  constructor
  · constructor
    · rw [inputs, stateAfter_append, ← phase, SessionSystem.phase_ofPhase]
      rfl
    · rw [inputs, owed, frames]
      exact front.trans (List.prefix_append _ _)
    · intro sends
      have none := unanswered.mpr fun awaits isControl => by
        obtain ⟨msgType, served⟩ := serve_awaitsData awaits isControl
        have left : (serveControl session input).2 = _ := congrArg Prod.snd served
        rw [left] at sends
        cases sends
      rw [inputs, owed, frames, SessionSystem.pending_ofPhase]
      exact (congrArg (_ ++ ·) none).trans ((List.append_nil _).trans exact)
  · constructor
    · intro answered
      have taken := answered.taken
      rw [inputs, taken_append input phase] at taken
      exact ⟨⟨taken.1, exact⟩, .item taken.2⟩
    · intro both
      obtain ⟨answered, spares⟩ := both
      have early := spares.early input rfl
      constructor
      · rw [inputs, taken_append input phase]
        exact ⟨answered.taken, early⟩
      · rw [inputs, owed, frames, SessionSystem.pending_ofPhase]
        exact (congrArg (_ ++ ·) (unanswered.mpr early)).trans ((List.append_nil _).trans exact)

theorem pending_running (runs : system.relay.running = true) :
    (SessionSystem.relay sent system).pending = system.relay.control ++ system.waiting := if_pos runs

theorem pending_stopped (stopped : system.relay.running = false) : (SessionSystem.relay sent system).pending = [] :=
  if_neg (by rw [stopped]; exact Bool.false_ne_true)

theorem AnswersBooked.receive (booked : AnswersBooked labels (.relay sent system)) {task : WsToTcp}
    (reading : system.client = .relaying task) (idle : system.waiting = []) {input : RelayInput}
    (written : input.ioOk = true ∨ ∃ d, parsed input.item = some (.data d))
    (client : next.client = (serveRelay task input).2) (waits : next.waiting = (serveRelay task input).1)
    (relay : next.relay = system.relay) :
    AnswersBooked (labels ++ [.relay (.step (.receive input))]) (.relay sent next) ∧
      (ControlAnswered (labels ++ [.relay (.step (.receive input))]) (.relay sent next) ↔
        ControlAnswered labels (.relay sent system) ∧
          SparesAnswers (.relay sent system) (.relay (.step (.receive input)))) := by
  obtain ⟨phase, front, whole⟩ := booked
  have inputs : (labels ++ [SessionLabel.relay (.step (.receive input))]).filterMap SessionLabel.received =
      labels.filterMap SessionLabel.received ++ [input] := filterMap_append_singleton _ _ _
  have owed := owedAnswers_append (labels.filterMap SessionLabel.received) input
  have reached : relaying task = _ := reading.symm.trans phase
  have opened : (relaying task).InDataTransfer := trivial
  rw [← reached, if_pos opened] at owed
  have spared : system.client.AwaitsData → ¬ IsControl input.item := by
    rw [reading]
    exact fun awaits => absurd awaits id
  have taken := taken_append input phase
  have frames : (SessionSystem.relay sent next).frames = (SessionSystem.relay sent system).frames := by
    rw [SessionSystem.frames, relay]
    rfl
  have kept (runs : system.relay.running = true) :
      owedAnswers (labels.filterMap SessionLabel.received ++ [input]) =
        (SessionSystem.relay sent next).frames.filter isControlAnswer ++
          (SessionSystem.relay sent next).pending.filter isControlAnswer := by
    have exact := whole runs
    rw [pending_running runs, idle, List.append_nil] at exact
    rw [frames, pending_running (relay ▸ runs), relay, waits, List.filter_append, serveRelay_answers task written, owed,
      exact, List.append_assoc]
  constructor
  · refine ⟨?_, ?_, fun sends => ?_⟩
    · rw [inputs, stateAfter_append, ← reached]
      exact client
    · rw [inputs, owed, frames]
      exact front.trans (List.prefix_append _ _)
    · have runs : next.relay.running = true := sends
      rw [inputs]
      exact kept (relay ▸ runs)
  · cases runs : system.relay.running with
    | true =>
        constructor
        · intro answered
          have before := answered.taken
          rw [inputs, taken] at before
          exact ⟨⟨before.1, whole runs⟩, .receive fun stopped => absurd (runs.symm.trans stopped) Bool.noConfusion⟩
        · intro both
          refine ⟨?_, inputs ▸ kept runs⟩
          rw [inputs, taken]
          exact ⟨both.1.taken, spared⟩
    | false =>
        have stopped : next.relay.running = false := relay ▸ runs
        constructor
        · intro answered
          obtain ⟨before, given⟩ := answered
          rw [inputs, taken] at before
          rw [inputs, owed, frames, pending_stopped stopped, List.filter_nil, List.append_nil] at given
          obtain ⟨more, owes⟩ := front
          rw [← owes, List.append_assoc] at given
          obtain ⟨rfl, none⟩ := List.append_eq_nil_iff.mp (List.append_right_eq_self.mp given)
          refine ⟨⟨before.1, ?_⟩, .receive fun _ => controlAnswer_eq_nil.mp none⟩
          rw [pending_stopped runs]
          exact owes.symm
        · intro both
          obtain ⟨⟨before, given⟩, spares⟩ := both
          have none : controlAnswer input.item = [] := controlAnswer_eq_nil.mpr (spares.late input rfl runs)
          rw [pending_stopped runs] at given
          constructor
          · rw [inputs, taken]
            exact ⟨before, spared⟩
          · rw [inputs, owed, none, List.append_nil, frames, pending_stopped stopped]
            exact given

theorem AnswersBooked.event (booked : AnswersBooked labels (.relay sent system)) {event : RelayEvent}
    (nothing : event.label.bind receivedInput = none) (client : next.client = system.client)
    (moved : AnswersMoved system event next) :
    AnswersBooked (labels ++ [.relay event]) (.relay sent next) ∧
      (ControlAnswered (labels ++ [.relay event]) (.relay sent next) ↔
        ControlAnswered labels (.relay sent system) ∧ SparesAnswers (.relay sent system) (.relay event)) := by
  obtain ⟨phase, front, whole⟩ := booked
  have inputs : (labels ++ [SessionLabel.relay event]).filterMap SessionLabel.received =
      labels.filterMap SessionLabel.received := by
    rw [filterMap_append_singleton, SessionLabel.received, nothing]
    exact List.append_nil _
  have reached : (SessionSystem.relay sent next).phase = _ := client.trans phase
  cases moved with
  | sending running runs goes same =>
      have exact := whole running
      have later : owedAnswers (labels.filterMap SessionLabel.received) =
          (SessionSystem.relay sent next).frames.filter isControlAnswer ++
            (SessionSystem.relay sent next).pending.filter isControlAnswer := by
        rw [pending_running running] at exact
        simp only [SessionSystem.frames, List.filter_append, List.append_assoc] at same exact
        rw [pending_running runs, exact, ← same]
        simp only [SessionSystem.frames, List.filter_append, List.append_assoc]
      refine ⟨⟨inputs ▸ reached, ?_, fun _ => inputs ▸ later⟩, ?_⟩
      · rw [inputs, later]
        exact List.prefix_append _ _
      · constructor
        · intro answered
          refine ⟨⟨inputs ▸ answered.taken, exact⟩, .event nothing fun stops => ?_⟩
          exact absurd (goes.symm.trans stops) Bool.noConfusion
        · intro both
          exact ⟨inputs ▸ both.1.taken, inputs ▸ later⟩
  | stopping running stops stopped same =>
      have frames : (SessionSystem.relay sent next).frames = (SessionSystem.relay sent system).frames :=
        congrArg (sent ++ ·) same
      have exact := whole running
      refine ⟨⟨inputs ▸ reached, ?_, fun sends => absurd (stopped.symm.trans sends) Bool.noConfusion⟩, ?_⟩
      · rw [inputs, frames]
        exact front
      · constructor
        · intro answered
          obtain ⟨taken, given⟩ := answered
          rw [inputs] at taken given
          rw [frames, pending_stopped stopped, List.filter_nil, List.append_nil, exact] at given
          exact ⟨⟨taken, exact⟩, .event nothing fun _ => List.append_right_eq_self.mp given⟩
        · intro both
          obtain ⟨⟨taken, _⟩, spares⟩ := both
          refine ⟨inputs ▸ taken, ?_⟩
          rw [inputs, frames, pending_stopped stopped, exact, spares.queued event rfl stops]
          rfl
  | stopped before stopped same =>
      have frames : (SessionSystem.relay sent next).frames = (SessionSystem.relay sent system).frames :=
        congrArg (sent ++ ·) same
      refine ⟨⟨inputs ▸ reached, ?_, fun sends => absurd (stopped.symm.trans sends) Bool.noConfusion⟩, ?_⟩
      · rw [inputs, frames]
        exact front
      · constructor
        · intro answered
          obtain ⟨taken, given⟩ := answered
          rw [inputs] at taken given
          rw [frames, pending_stopped stopped] at given
          refine ⟨⟨taken, ?_⟩, .event nothing fun _ => ?_⟩
          · rw [pending_stopped before]
            exact given
          · rw [pending_stopped before]
            rfl
        · intro both
          obtain ⟨taken, given⟩ := both.1
          rw [pending_stopped before] at given
          refine ⟨inputs ▸ taken, ?_⟩
          rw [inputs, frames, pending_stopped stopped]
          exact given

end Books

theorem AnswersBooked.step {labels : List SessionLabel} {system next : SessionSystem} {label : SessionLabel}
    (booked : AnswersBooked labels system) (taken : SessionSystem.Step system label next) :
    AnswersBooked (labels ++ [label]) next ∧
      (ControlAnswered (labels ++ [label]) next ↔ ControlAnswered labels system ∧ SparesAnswers system label) := by
  cases taken with
  | item input => exact booked.item input
  | @relay sent system next event taken =>
      cases receives : event.label.bind receivedInput with
      | none =>
          obtain ⟨client, moved⟩ := taken.answersMoved receives
          exact booked.event receives client moved
      | some input =>
          cases taken with
          | readUnsent => cases receives
          | responseUnsent => cases receives
          | step taken =>
              cases taken with
              | receive reading idle input written => exact booked.receive reading idle written rfl rfl rfl
              | _ => cases receives

theorem answersBooked_of_run {labels : List SessionLabel} {system : SessionSystem}
    (run : Steps SessionSystem.Step .start labels system) : AnswersBooked labels system := by
  have initial : AnswersBooked [] SessionSystem.start := ⟨rfl, List.prefix_rfl, fun _ => rfl⟩
  exact run.invariant AnswersBooked initial fun _ _ _ _ booked taken => (booked.step taken).1

/-! ## Runs -/

/-- Keepalive and CloseChannel are answered in a session, exactly if none of them comes before
the first Data message or behind the end of the sending loop, and none of their answers is on
its way when this loop stops. -/
theorem control_answered_iff {labels : List SessionLabel} {system : SessionSystem}
    (run : Steps SessionSystem.Step .start labels system) :
    ControlAnswered labels system ↔
      Steps (fun system label next => SessionSystem.Step system label next ∧ SparesAnswers system label) .start
        labels system := by
  have initial : ControlAnswered [] SessionSystem.start := ⟨List.forall_mem_nil _, rfl⟩
  exact run.iff_good initial fun _ _ _ _ earlier taken => ((answersBooked_of_run earlier).step taken).2

/-- Items without a control message that leave the session in front of its relay. -/
theorem SessionSystem.items_run {inputs : List RelayInput} {session : GatewaySession}
    (plain : ∀ input ∈ inputs, controlAnswer input.item = [])
    (reached : stateAfter serve SessionPhase.start inputs = .control session) :
    Steps (fun system label next => SessionSystem.Step system label next ∧ SparesAnswers system label) .start
      (inputs.map .item) (.control session (SessionPhase.start.replies inputs)) := by
  induction inputs using List.reverseRecOn generalizing session with
  | nil =>
      cases reached
      exact .start
  | append_singleton inputs input ih =>
      obtain ⟨before, last⟩ := List.forall_mem_append.mp plain
      rw [stateAfter_append] at reached
      rw [List.map_append, replies_append]
      cases phase : stateAfter serve SessionPhase.start inputs with
      | control earlier =>
          rw [phase] at reached
          have served : (serveControl earlier input).2 = .control session := reached
          have taken := @SessionSystem.Step.item earlier (SessionPhase.start.replies inputs) input
          rw [served] at taken
          have spared := controlAnswer_eq_nil.mp (last input List.mem_cons_self)
          have steps := (ih before phase).step ⟨taken, .item fun _ => spared⟩
          have same : (SessionPhase.control earlier).replies [input] = (serveControl earlier input).1 :=
            List.append_nil _
          rw [same]
          exact steps
      | relaying task =>
          rw [phase] at reached
          have left : (serveRelay task input).2 = .control session := reached
          unfold serveRelay at left
          dsimp only at left
          split at left <;> cases left
      | ended error =>
          rw [phase] at reached
          cases reached

def openingInputs : List RelayInput := (walkThrough.take 4).map .succeeding

def openedSession : GatewaySession :=
  { state := .dataTransfer, tunnelId := 1, channelId := 1, clientName := some "PC", targetHost := some "srv"
    targetPort := some 3389, nextTunnelId := 2, nextChannelId := 2 }

theorem openingInputs_run :
    Steps (fun system label next => SessionSystem.Step system label next ∧ SparesAnswers system label) .start
      (openingInputs.map .item) (.control openedSession (SessionPhase.start.replies openingInputs)) :=
  SessionSystem.items_run (by decide) (by decide)

def startingInput : RelayInput := .succeeding (.binary (DataMessage.write [1, 0, 7]))

/-- A Keepalive in the relay, and the end of the backend's stream behind its answer. -/
def keepaliveEvents : List RelayEvent :=
  [.step (.receive RelaySystem.keepaliveInput), .step (.enqueue writeKeepalive true), .step (.recv writeKeepalive),
    .step .close, .step .readEnds]

def keepaliveLabels : List SessionLabel :=
  openingInputs.map .item ++ .item startingInput :: keepaliveEvents.map .relay

theorem control_answered_iff_keepalive :
    ∃ system, system.frames = SessionPhase.start.replies openingInputs ++ [writeKeepalive] ∧
      system.sends = false ∧ ControlAnswered keepaliveLabels system := by
  have served : serveControl openedSession startingInput = ([], .relaying .start) := by decide
  have relays := @SessionSystem.Step.item openedSession (SessionPhase.start.replies openingInputs) startingInput
  rw [served, List.append_nil] at relays
  have started := openingInputs_run.step ⟨relays, .item fun _ => controlAnswer_eq_nil.mp (by decide)⟩
  have keepalive := serveRelay_keepalive WsToTcp.start (show parsed RelaySystem.keepaliveInput.item = _ by decide)
  have receives := @RelaySystem.Step.receive .start _ rfl rfl RelaySystem.keepaliveInput (.inl rfl)
  rw [keepalive] at receives
  have received := started.step ⟨.relay (.step receives), .receive fun stopped => by cases stopped⟩
  have queued := received.step
    ⟨.relay (.step (.enqueue rfl (.enqueue writeKeepalive rfl (by decide)))), .event rfl fun stops => by cases stops⟩
  have sent := queued.step ⟨.relay (.step (.recv (.recv true rfl rfl))), .event rfl fun stops => by cases stops⟩
  have closed := sent.step ⟨.relay (.step .close), .event rfl fun stops => by cases stops⟩
  have ended := closed.step ⟨.relay (.step (.readEnds ⟨rfl, rfl⟩ (.readEnds rfl))), .event rfl fun _ => rfl⟩
  have answered := (control_answered_iff (ended.mono fun _ _ _ both => both.1)).mpr ended
  simp only [List.append_assoc] at answered
  exact ⟨_, rfl, rfl, answered⟩

/-- The Keepalive behind the ChannelResponse ends the session without an answer. -/
theorem earlyKeepalive_unanswered :
    ¬ ∀ labels system, Steps SessionSystem.Step .start labels system → ControlAnswered labels system := by
  intro answered
  have opened := openingInputs_run.mono fun _ _ _ both => both.1
  have taken := (answered _ _ (opened.step (@SessionSystem.Step.item _ _ RelaySystem.keepaliveInput))).taken
  have inputs : (openingInputs.map SessionLabel.item ++ [SessionLabel.item RelaySystem.keepaliveInput]).filterMap
      SessionLabel.received = openingInputs ++ [RelaySystem.keepaliveInput] := by decide
  have reached : control openedSession = stateAfter serve SessionPhase.start openingInputs := by decide
  rw [inputs, taken_append _ reached] at taken
  exact taken.2 rfl (.inl (by decide))

end RdGateway.Server
