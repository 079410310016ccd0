import RdGateway.Server.RelayData

/-!
# Echo of unknown control messages

In the relay a message of unknown type is answered by a copy that is put together again
from its type and payload. The copy is the frame itself for one type only, and only where
nothing is lost in parsing.
-/

set_option autoImplicit false

namespace RdGateway.Server

open Wirekit Proto RdGateway.Core SessionPhase

/-! ## Unknown messages -/

theorem parsePayload_unknown {msgType foundType : UInt16} {payload found : Bytes}
    (dispatched : parsePayload msgType payload = .ok (.unknown foundType found)) :
    msgType = foundType ∧ payload = found := by
  unfold parsePayload at dispatched
  split at dispatched
  all_goals
    simp only [Outcome.bind_eq_ok, Outcome.pure_eq, Outcome.ok.injEq, reduceCtorEq, and_false,
      exists_false] at dispatched
  cases dispatched
  exact ⟨rfl, rfl⟩

/-- The header and the bytes of a frame that parses as an unknown message. -/
theorem parseMessage_unknown {frame payload : Bytes} {msgType : UInt16}
    (message : parseMessage frame = .ok (.unknown msgType payload)) :
    ∃ header rest, frame = MessageHeader.write header ++ rest ∧ header.msgType = msgType ∧
      headerSize ≤ header.length.toNat ∧ header.length.toNat ≤ headerSize + rest.length ∧
      payload = rest.take (header.length.toNat - headerSize) := by
  have complete : isCompleteMessage frame = true := by
    cases outcome : isCompleteMessage frame with
    | true => rfl
    | false =>
        obtain ⟨_, _, refused⟩ := parseMessage_incomplete outcome
        rw [refused] at message
        cases message
  obtain ⟨header, rest, rfl, held⟩ := isCompleteMessage_iff.mp complete
  rw [parseMessage_header] at message
  split at message
  · cases message
  split at message
  · cases message
  obtain ⟨typed, cut⟩ := parsePayload_unknown message
  exact ⟨header, rest, rfl, typed, by omega, held, cut.symm⟩

theorem MessageHeader.write_append_inj {first second : MessageHeader} {left right : Bytes}
    (same : first.write ++ left = second.write ++ right) : first = second ∧ left = right := by
  have headers := congrArg MessageHeader.parse same
  rw [MessageHeader.parse_write_append, MessageHeader.parse_write_append] at headers
  cases headers
  exact ⟨rfl, List.append_cancel_left same⟩

/-! ## The copy -/

/-- The frames whose copy loses nothing: pipe setup, without reserved bits, and as long
as the header says. -/
def KeptByCopy (frame : Bytes) : Prop :=
  ∃ header, MessageHeader.parse frame = .ok header ∧ header.msgType = typeInPipeSetup ∧
    header.reserved = 0 ∧ header.length.toNat = frame.length

theorem inPipeSetupAck_eq_frame (msgType : UInt16) (payload : Bytes) :
    inPipeSetupAck msgType payload = frame msgType 0 payload := rfl

theorem copy_eq_iff {received payload : Bytes} {msgType : UInt16}
    (message : parseMessage received = .ok (.unknown msgType payload)) :
    msgType = typeInPipeSetup ∧ inPipeSetupAck msgType payload = received ↔ KeptByCopy received := by
  obtain ⟨header, rest, rfl, rfl, whole, held, cut⟩ := parseMessage_unknown message
  have counted : (header.write ++ rest).length = headerSize + rest.length := by simp
  have bounded := header.length.toNat_lt
  rw [KeptByCopy, MessageHeader.parse_write_append, counted, inPipeSetupAck_eq_frame, frame]
  constructor
  · intro both
    obtain ⟨setup, copied⟩ := both
    obtain ⟨same, kept⟩ := MessageHeader.write_append_inj copied
    refine ⟨header, rfl, setup, (congrArg MessageHeader.reserved same).symm, ?_⟩
    have shorter := congrArg List.length (cut.symm.trans kept)
    rw [List.length_take] at shorter
    omega
  · intro lossless
    obtain ⟨_, ⟨⟩, setup, cleared, exact⟩ := lossless
    have kept : payload = rest := cut.trans (List.take_of_length_le (by omega))
    refine ⟨setup, ?_⟩
    rw [kept, ← exact, UInt32.ofNat_toNat, ← cleared]

/-! ## Echoes in a session -/

theorem handleItem_unknown (task : WsToTcp) {input : RelayInput} {msgType : UInt16} {payload : Bytes}
    (message : parsed input.item = some (.unknown msgType payload)) :
    task.handleItem input =
      (.proceed,
        if msgType = typeInPipeSetup then task.send input.ioOk (inPipeSetupAck msgType payload) else task) := by
  rw [handleItem_message task message, WsToTcp.handleMessage]
  exact (apply_ite (Prod.mk Flow.proceed) _ _ _).symm

theorem serveRelay_unknown (task : WsToTcp) {input : RelayInput} {msgType : UInt16} {payload : Bytes}
    (message : parsed input.item = some (.unknown msgType payload)) :
    (serveRelay task input).1 =
      if msgType = typeInPipeSetup then input.attempt (inPipeSetupAck msgType payload) else [] := by
  rw [serveRelay, handleItem_unknown task message]
  by_cases setup : msgType = typeInPipeSetup
  · simp only [if_pos setup]
    exact drop_send task input _
  · simp only [if_neg setup]
    exact List.drop_length

/-- A frame of unknown type in the relay, as the source answers it: a pipe setup message by its
payload behind a header of our own, any other not at all. None of them is forwarded. -/
structure AnsweredByType (exchange : SessionRound) (task : WsToTcp) (received : Bytes) (msgType : UInt16)
    (payload : Bytes) : Prop where
  setup : msgType = typeInPipeSetup → exchange.output = exchange.event.attempt (frame typeInPipeSetup 0 payload)
  verbatim : msgType = typeInPipeSetup → (frame typeInPipeSetup 0 payload = received ↔ KeptByCopy received)
  ignored : msgType ≠ typeInPipeSetup → exchange.output = [] ∧ exchange.after = .relaying task
  undelivered : exchange.before.delivered exchange.event = []
  goesOn : ∃ next, exchange.after = .relaying next ∧ next.skipNextData = task.skipNextData

theorem WsToTcp.send_skipNextData (task : WsToTcp) (ioOk : Bool) (frame : Bytes) :
    (task.send ioOk frame).skipNextData = task.skipNextData := by
  unfold WsToTcp.send
  split <;> rfl

/-- Every message of unknown type in the relay is acknowledged or ignored by its type. -/
theorem unknown_answered (inputs : List RelayInput) :
    ∀ exchange ∈ exchanges serve SessionPhase.start inputs, ∀ task received msgType payload,
      exchange.before = .relaying task → exchange.event.item = .binary received →
      parseMessage received = .ok (.unknown msgType payload) →
      AnsweredByType exchange task received msgType payload := by
  intro exchange taken task received msgType payload before item message
  have served := mem_exchanges taken
  have found : parsed exchange.event.item = some (.unknown msgType payload) :=
    parsed_eq_some.mpr ⟨received, item, message⟩
  have output : exchange.output = (serveRelay task exchange.event).1 := by
    rw [served, before]
    rfl
  have after : exchange.after = (serveRelay task exchange.event).2 := by
    rw [served, before]
    rfl
  rw [serveRelay_unknown task found] at output
  rw [serveRelay, handleItem_unknown task found] at after
  have copy := copy_eq_iff message
  constructor
  · rintro rfl
    rw [output, if_pos rfl, inPipeSetupAck_eq_frame]
  · rintro rfl
    rwa [and_iff_right rfl, inPipeSetupAck_eq_frame] at copy
  · intro other
    rw [output, if_neg other, after, if_neg other]
    exact ⟨rfl, rfl⟩
  · rw [before, delivered_relaying, found]
  · refine ⟨_, after, ?_⟩
    split
    · exact task.send_skipNextData _ _
    · rfl

/-- A pipe setup with a reserved value. -/
def reservedSetup : Bytes := [0x10, 0, 5, 0, 9, 0, 0, 0, 1]

theorem unknown_answered_reserved :
    let phase := stateAfter serve SessionPhase.start (walkThrough.map RelayInput.succeeding)
    let exchange := Exchange.of serve phase (RelayInput.succeeding (.binary reservedSetup))
    exchange.output = [[0x10, 0, 0, 0, 9, 0, 0, 0, 1]] ∧ exchange.before.delivered exchange.event = [] := by
  intro phase exchange
  have taken : exchange ∈ exchanges serve SessionPhase.start
      (walkThrough.map RelayInput.succeeding ++ [RelayInput.succeeding (.binary reservedSetup)]) :=
    last_mem_exchanges _ _ _
  have answered := unknown_answered _ exchange taken .start reservedSetup 0x10 [1] (by decide) rfl (by decide)
  exact ⟨answered.setup rfl, answered.undelivered⟩

/-- A frame of unknown type is answered in the relay by itself, and is not forwarded. -/
def EchoedVerbatim (exchange : SessionRound) : Prop :=
  ∀ task received msgType payload, exchange.before = .relaying task →
    exchange.event.item = .binary received → parseMessage received = .ok (.unknown msgType payload) →
    exchange.output = [received] ∧ exchange.before.delivered exchange.event = []

/-- The responses can still be queued, and the frame is one that the copy keeps. -/
def Echoable (exchange : SessionRound) : Prop :=
  ∀ task received msgType payload, exchange.before = .relaying task →
    exchange.event.item = .binary received → parseMessage received = .ok (.unknown msgType payload) →
    exchange.event.ioOk = true ∧ KeptByCopy received

theorem echoed_round {exchange : SessionRound}
    (served : exchange = Exchange.of serve exchange.before exchange.event) :
    EchoedVerbatim exchange ↔ Echoable exchange := by
  refine forall_congr' fun task => forall_congr' fun received => forall_congr' fun msgType =>
    forall_congr' fun payload => forall_congr' fun before => forall_congr' fun item =>
    forall_congr' fun message => ?_
  have found : parsed exchange.event.item = some (.unknown msgType payload) :=
    parsed_eq_some.mpr ⟨received, item, message⟩
  have silent : exchange.before.delivered exchange.event = [] := by
    rw [before, delivered_relaying, found]
  have output : exchange.output = (serveRelay task exchange.event).1 := by
    rw [served, before]
    rfl
  rw [output, serveRelay_unknown task found, and_iff_left silent, ← copy_eq_iff message, RelayInput.attempt]
  by_cases setup : msgType = typeInPipeSetup
  · cases takes : exchange.event.ioOk <;> simp [setup]
  · simp [setup]

/-- Unknown messages are echoed verbatim in the relay, exactly if all of them are pipe
setup messages that the copy keeps. -/
theorem unknown_echoed_iff (inputs : List RelayInput) :
    (∀ exchange ∈ exchanges serve SessionPhase.start inputs, EchoedVerbatim exchange) ↔
      ∀ exchange ∈ exchanges serve SessionPhase.start inputs, Echoable exchange :=
  forall₂_congr fun _ taken => echoed_round (mem_exchanges taken)

/-- A message of type 0x11, which no variant has. -/
def unknownFrame : Bytes := frame 0x11 0 [1]

theorem unknownFrame_dropped :
    ¬ ∀ inputs, ∀ exchange ∈ exchanges serve SessionPhase.start inputs, EchoedVerbatim exchange := by
  intro echoed
  let phase := stateAfter serve SessionPhase.start (walkThrough.map RelayInput.succeeding)
  let input := RelayInput.succeeding (.binary unknownFrame)
  have taken : Exchange.of serve phase input ∈ exchanges serve SessionPhase.start
      (walkThrough.map RelayInput.succeeding ++ [input]) := last_mem_exchanges _ _ _
  have answered := echoed _ _ taken .start unknownFrame 0x11 [1] (by decide) rfl (by decide)
  exact absurd answered.1 (by decide)

end RdGateway.Server
