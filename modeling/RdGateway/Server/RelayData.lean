import RdGateway.Proto.Framing
import RdGateway.Server.SessionControl

/-!
# What the relay does with each client message

`delivered` is what a round of the session machine writes to the backend. The laws of the
Data payload, of the echo and of the skipped duplicate are stated round by round over whole
sessions, each with the condition under which the code keeps it.
-/

set_option autoImplicit false

namespace RdGateway.Server

open Wirekit Proto RdGateway.Core SessionPhase

/-! ## The bytes of a round -/

namespace SessionPhase

/-- The first Data message is written by the session loop, the later ones by the relay
task. A write that fails counts as none. -/
def delivered (phase : SessionPhase) (input : RelayInput) : Bytes :=
  match phase with
  | .control session =>
      match (parsed input.item).bind (relaysData session) with
      | some dataMsg => if input.ioOk then rdpData dataMsg.data else []
      | none => []
  | .relaying task => (task.handleItem input).2.written.drop task.written.length
  | .ended _ => []

def deliveries (phase : SessionPhase) (inputs : List RelayInput) : Bytes :=
  (exchanges serve phase inputs).flatMap fun exchange => exchange.before.delivered exchange.event

theorem deliveries_cons (phase : SessionPhase) (input : RelayInput) (rest : List RelayInput) :
    phase.deliveries (input :: rest) = phase.delivered input ++ (phase.serve input).2.deliveries rest := rfl

theorem deliveries_append (phase : SessionPhase) (first second : List RelayInput) :
    phase.deliveries (first ++ second) =
      phase.deliveries first ++ (stateAfter serve phase first).deliveries second := by
  rw [deliveries, exchanges_append, List.flatMap_append]
  rfl

theorem deliveries_ended (error : Option SessionError) (inputs : List RelayInput) :
    (ended error).deliveries inputs = [] := by
  induction inputs with
  | nil => rfl
  | cons input rest ih => exact ih

end SessionPhase

/-- What the relay task does with a parsed message, apart from its responses. -/
theorem handleMessage_fields (task : WsToTcp) (ioOk : Bool) (msg : TsgMessage) :
    (task.handleMessage ioOk msg).2.written = task.written ++
        (match msg with
          | .data d => if ioOk = true ∧ task.skipNextData = false then rdpData d.data else []
          | _ => []) ∧
      ((task.handleMessage ioOk msg).1 = .proceed → (task.handleMessage ioOk msg).2.skipNextData =
        match msg with
          | .data _ => false
          | .channelCreate _ => true
          | _ => task.skipNextData) := by
  have sent (response : Bytes) : (task.send ioOk response).written = task.written ∧
      (task.send ioOk response).skipNextData = task.skipNextData := by
    unfold WsToTcp.send
    split <;> exact ⟨rfl, rfl⟩
  cases msg with
  | data d =>
      cases skips : task.skipNextData <;> cases ioOk <;> simp [WsToTcp.handleMessage, skips]
  | unknown msgType payload =>
      by_cases setup : msgType = typeInPipeSetup <;> simp [WsToTcp.handleMessage, setup, sent]
  | _ => simp [WsToTcp.handleMessage, sent]

theorem handleItem_message (task : WsToTcp) {input : RelayInput} {msg : TsgMessage}
    (message : parsed input.item = some msg) :
    task.handleItem input = task.handleMessage input.ioOk msg := by
  obtain ⟨item, ioOk⟩ := input
  obtain ⟨data, rfl, outcome⟩ := parsed_eq_some.mp message
  simp only [WsToTcp.handleItem, outcome]

theorem handleItem_unparsed (task : WsToTcp) {input : RelayInput} (unparsed : parsed input.item = none) :
    (task.handleItem input).2 = task := by
  obtain ⟨item, ioOk⟩ := input
  cases item with
  | binary data =>
      cases outcome : parseMessage data with
      | ok msg => simp [parsed, outcome] at unparsed
      | err error => simp [WsToTcp.handleItem, outcome]
      | panicked => simp [WsToTcp.handleItem, outcome]
  | _ => rfl

/-- Bytes are only added to those written before, and only those of a Data message. -/
theorem handleItem_appends (task : WsToTcp) (input : RelayInput) :
    (task.handleItem input).2.written = task.written ++
      match parsed input.item with
      | some (.data d) => if input.ioOk = true ∧ task.skipNextData = false then rdpData d.data else []
      | _ => [] := by
  cases message : parsed input.item with
  | none => rw [handleItem_unparsed task message, List.append_nil]
  | some msg =>
      rw [handleItem_message task message, (handleMessage_fields task input.ioOk msg).1]
      cases msg <;> rfl

theorem delivered_relaying (task : WsToTcp) (input : RelayInput) :
    (relaying task).delivered input =
      match parsed input.item with
      | some (.data d) => if input.ioOk = true ∧ task.skipNextData = false then rdpData d.data else []
      | _ => [] := by
  show (task.handleItem input).2.written.drop task.written.length = _
  rw [handleItem_appends, List.drop_left]

/-! ## The bytes of a session -/

theorem handleItem_written (task : WsToTcp) (input : RelayInput) :
    (task.handleItem input).2.written = task.written ++ (relaying task).delivered input := by
  rw [delivered_relaying]
  exact handleItem_appends task input

theorem run_delivered (task : WsToTcp) (inputs : List RelayInput) :
    (task.run inputs).written = task.written ++ (relaying task).deliveries inputs :=
  run_logged handleItem_written (fun _ => rfl) deliveries_cons deliveries_ended task inputs

/-- The relay of a loop starts behind the items that the machine has taken, with the
bytes that these have delivered. -/
def Handed (session : GatewaySession) (items : List WsItem) (relay : Option (Bytes × List WsItem)) : Prop :=
  ∀ payload rest, relay = some (payload, rest) → ∃ inputs, items = inputs.map RelayInput.item ++ rest ∧
    stateAfter serve (control session) inputs = .relaying .start ∧
    (control session).deliveries inputs = payload

theorem Handed.next {session next : GatewaySession} {items : List WsItem} {out : List Bytes}
    {relay : Option (Bytes × List WsItem)} (input : RelayInput)
    (served : serveControl session input = (out, .control next))
    (silent : (control session).delivered input = []) (later : Handed next items relay) :
    Handed session (input.item :: items) relay := by
  intro payload rest relayed
  obtain ⟨inputs, rfl, reached, delivered⟩ := later payload rest relayed
  refine ⟨input :: inputs, rfl, ?_, ?_⟩
  · rw [stateAfter, serve, served]
    exact reached
  · rw [deliveries_cons, silent, serve, served]
    exact delivered

theorem sessionLoop_handed (env : SessionEnv) (session : GatewaySession) (sent : List Bytes)
    (items : List WsItem) : Handed session items (sessionLoop env session sent items).relay := by
  induction items generalizing session sent with
  | nil => exact fun _ _ relayed => nomatch relayed
  | cons item rest ih =>
      have met := sessionLoop_met env session sent item rest
      generalize sessionLoop env session sent (item :: rest) = run at met ⊢
      cases met with
      | ends ioOk served same unrelayed =>
          rw [unrelayed]
          exact fun _ _ relayed => nomatch relayed
      | relays started served same relayed =>
          rw [relayed]
          intro payload left handed
          cases handed
          refine ⟨[⟨item, true⟩], rfl, ?_, ?_⟩
          · rw [stateAfter, serve, served]
            rfl
          · rw [deliveries_cons, delivered, started]
            exact List.append_nil _
      | next silent served =>
          have undelivered : (control session).delivered ⟨item, true⟩ = [] := by rw [delivered, silent]
          exact .next ⟨item, true⟩ served undelivered (ih _ _)

/-- The backend's bytes of a session, the first write and those of the relay, are what
the machine delivers over its items. -/
theorem session_delivered {state : AppState} {username : String} {env : SessionEnv}
    {items : List WsItem} {payload : Bytes} {relayInputs : List RelayInput}
    (relayed : (handleWsSession state username env items).relay =
      some (payload, relayInputs.map RelayInput.item)) :
    ∃ inputs, inputs.map RelayInput.item = items ∧
      SessionPhase.start.deliveries inputs = payload ++ (WsToTcp.start.run relayInputs).written := by
  obtain ⟨inputs, taken, reached, delivered⟩ :=
    sessionLoop_handed env GatewaySession.new [] items payload _ relayed
  refine ⟨inputs ++ relayInputs, by rw [taken, List.map_append], ?_⟩
  have written := run_delivered .start relayInputs
  rw [SessionPhase.start, deliveries_append, reached, delivered, written]
  rfl

/-! ## The declared payload -/

def cbDataLength (data : Bytes) : Nat := (u16Le.decode (data.take 2)).toNat

/-- The documented payload of a Data message: as many bytes as its prefix declares, and
none where it is shorter than that. -/
def declaredPayload (data : Bytes) : Bytes :=
  if 2 + cbDataLength data ≤ data.length then (data.drop 2).take (cbDataLength data) else []

theorem rdpData_eq_declared_iff (data : Bytes) :
    rdpData data = declaredPayload data ↔
      data = [] ∨ data.length = 2 ∨ data.length = 2 + cbDataLength data := by
  unfold rdpData declaredPayload
  by_cases held : 2 + cbDataLength data ≤ data.length
  · have left : (data.drop 2).length = data.length - 2 := List.length_drop
    rw [if_pos (by omega), if_pos held]
    constructor
    · intro whole
      have counted := congrArg List.length whole
      rw [List.length_take, left] at counted
      exact .inr (.inr (by omega))
    · intro sized
      symm
      apply List.take_of_length_le
      rw [left]
      rcases sized with rfl | two | exact
      · exact Nat.zero_le _
      · omega
      · omega
  · rw [if_neg held]
    split
    · rw [List.drop_eq_nil_iff]
      constructor
      · intro short
        exact .inr (.inl (by omega))
      · rintro (rfl | two | exact)
        · exact Nat.zero_le _
        · omega
        · omega
    · refine ⟨.inl, ?_⟩
      rintro (empty | two | exact)
      · exact empty
      · omega
      · omega

theorem declaredPayload_eq_nil_iff (data : Bytes) :
    declaredPayload data = [] ↔ cbDataLength data = 0 ∨ data.length < 2 + cbDataLength data := by
  unfold declaredPayload
  by_cases held : 2 + cbDataLength data ≤ data.length
  · rw [if_pos held, List.take_eq_nil_iff, List.drop_eq_nil_iff]
    omega
  · rw [if_neg held]
    exact iff_of_true rfl (.inr (by omega))

namespace SessionPhase

/-- The next Data message is skipped. -/
def skipsNext : SessionPhase → Bool
  | .relaying task => task.skipNextData
  | _ => false

/-- A Data message of this round is written: it is not skipped, and the backend takes it. -/
def Writes (phase : SessionPhase) (input : RelayInput) : Prop :=
  input.ioOk = true ∧ phase.skipsNext = false

instance (phase : SessionPhase) (input : RelayInput) : Decidable (phase.Writes input) :=
  inferInstanceAs (Decidable (_ ∧ _))

theorem delivered_data {phase : SessionPhase} (opened : phase.InDataTransfer) {input : RelayInput}
    {d : DataMessage} (message : parsed input.item = some (.data d)) :
    phase.delivered input = if phase.Writes input then rdpData d.data else [] := by
  cases phase with
  | control session =>
      have relays : relaysData session (.data d) = some d := if_pos opened
      rw [delivered, message, Option.bind_some, relays]
      exact if_congr (by simp [Writes, skipsNext]) rfl rfl
  | relaying task =>
      rw [delivered_relaying, message]
      rfl
  | ended error => cases opened

end SessionPhase

abbrev SessionRound := Exchange SessionPhase RelayInput (List Bytes)

/-- A Data message that is received as the first one or in the relay puts its declared
payload on the backend's connection, and nothing else. -/
def DeclaredWritten (exchange : SessionRound) : Prop :=
  ∀ d, exchange.before.InDataTransfer → parsed exchange.event.item = some (.data d) →
    exchange.before.delivered exchange.event = declaredPayload d.data

/-- A message that is written is empty, or a bare prefix, or holds just the bytes that it
declares; one that is not written declares none, or more than it holds. -/
def WellDeclared (exchange : SessionRound) : Prop :=
  ∀ d, exchange.before.InDataTransfer → parsed exchange.event.item = some (.data d) →
    if exchange.before.Writes exchange.event then
      d.data = [] ∨ d.data.length = 2 ∨ d.data.length = 2 + cbDataLength d.data
    else cbDataLength d.data = 0 ∨ d.data.length < 2 + cbDataLength d.data

theorem round_declaredWritten_iff (exchange : SessionRound) : DeclaredWritten exchange ↔ WellDeclared exchange := by
  refine forall_congr' fun d => forall_congr' fun opened => forall_congr' fun message => ?_
  rw [delivered_data opened message]
  split
  · exact rdpData_eq_declared_iff d.data
  · rw [eq_comm]
    exact declaredPayload_eq_nil_iff d.data

/-- Just the declared payloads reach the backend, exactly if every Data message is well declared. -/
theorem declared_written_iff (inputs : List RelayInput) :
    (∀ exchange ∈ exchanges serve SessionPhase.start inputs, DeclaredWritten exchange) ↔
      ∀ exchange ∈ exchanges serve SessionPhase.start inputs, WellDeclared exchange :=
  forall₂_congr fun exchange _ => round_declaredWritten_iff exchange

/-- A Data message that declares one byte and holds two. -/
def paddedData : WsItem := .binary (DataMessage.write [1, 0, 7, 9])

theorem paddedData_written_whole :
    ¬ ∀ inputs, ∀ exchange ∈ exchanges serve SessionPhase.start inputs, DeclaredWritten exchange := by
  intro declared
  let phase := stateAfter serve SessionPhase.start ((walkThrough.take 4).map RelayInput.succeeding)
  let input := RelayInput.succeeding paddedData
  have taken : Exchange.of serve phase input ∈ exchanges serve SessionPhase.start
      ((walkThrough.take 4).map RelayInput.succeeding ++ [input]) := last_mem_exchanges _ _ _
  have opened : phase.InDataTransfer := (show phase.AwaitsData by decide).opened
  have written := declared _ _ taken ⟨[1, 0, 7, 9]⟩ opened (by decide)
  exact absurd written (by decide)

/-! ## Skipped duplicates -/

def relayMessage (exchange : SessionRound) : Option TsgMessage :=
  match exchange.before with
  | .relaying _ => parsed exchange.event.item
  | _ => none

/-- The messages that the relay task has received. -/
def relayMessages (past : List SessionRound) : List TsgMessage := past.filterMap relayMessage

def firstData (exchange : SessionRound) : Option Bytes :=
  match exchange.before with
  | .control session =>
      ((parsed exchange.event.item).bind (relaysData session)).map DataMessage.data
  | _ => none

/-- The data of the message that the relay was started with. -/
def initialData (past : List SessionRound) : Option Bytes := past.findSome? firstData

/-- The skip flag is read off the messages before it. -/
def SkipFollows (past : List SessionRound) : SessionPhase → Prop
  | .control _ => relayMessages past = []
  | .relaying task => task.skipNextData = endsInCreate (relayMessages past)
  | .ended _ => True

theorem serveControl_phase (session : GatewaySession) (input : RelayInput) (task : WsToTcp)
    (served : (serveControl session input).2 = .relaying task) : task.skipNextData = false := by
  unfold serveControl serveMessage at served
  repeat' split at served
  all_goals cases served
  all_goals rfl

theorem skipFollows_step (past : List SessionRound) (phase : SessionPhase) (input : RelayInput)
    (follows : SkipFollows past phase) :
    SkipFollows (past ++ [Exchange.of serve phase input]) (phase.serve input).2 := by
  have grown : relayMessages (past ++ [Exchange.of serve phase input]) =
      relayMessages past ++ (relayMessage (Exchange.of serve phase input)).toList :=
    filterMap_append_singleton relayMessage past _
  cases phase with
  | control session =>
      have none : relayMessages (past ++ [Exchange.of serve (control session) input]) = [] := by
        rw [grown, follows]
        rfl
      cases served : (serveControl session input).2 with
      | control next =>
          rw [serve, served]
          exact none
      | relaying task =>
          rw [serve, served, SkipFollows, none, serveControl_phase session input task served]
          rfl
      | ended error =>
          rw [serve, served]
          trivial
  | relaying task =>
      have follows : task.skipNextData = endsInCreate (relayMessages past) := follows
      have received : relayMessage (Exchange.of serve (relaying task) input) = parsed input.item := rfl
      rw [received] at grown
      cases served : task.handleItem input with
      | mk flow next =>
      cases flow with
      | finish =>
          rw [serve, serveRelay, served]
          trivial
      | proceed =>
          rw [serve, serveRelay, served]
          show next.skipNextData = endsInCreate _
          rw [grown]
          cases message : parsed input.item with
          | none =>
              have same := handleItem_unparsed task message
              rw [served] at same
              rw [show next = task from same, follows, Option.toList_none, List.append_nil]
          | some msg =>
              have fields := (handleMessage_fields task input.ioOk msg).2
              rw [← handleItem_message task message, served] at fields
              have ends := endsInCreate_append_singleton (relayMessages past) msg
              rw [← follows] at ends
              exact (fields rfl).trans ends.symm
  | ended error => trivial

/-- What one relay round does with a Data message: a skipped one repeats the initial
data, and any other one is forwarded unless the backend does not take it. -/
def DuplicatesDropped (past : List SessionRound) (exchange : SessionRound) : Prop :=
  ∀ task d, exchange.before = .relaying task → parsed exchange.event.item = some (.data d) →
    if task.skipNextData then initialData past = some d.data
    else exchange.event.ioOk = true → exchange.before.delivered exchange.event = rdpData d.data

/-- A Data message that comes first behind a ChannelCreate repeats the initial data. -/
def RepeatsInitial (past : List SessionRound) (exchange : SessionRound) : Prop :=
  ∀ task d, exchange.before = .relaying task → parsed exchange.event.item = some (.data d) →
    endsInCreate (relayMessages past) = true → initialData past = some d.data

theorem duplicatesDropped_round {past : List SessionRound} {exchange : SessionRound}
    (follows : SkipFollows past exchange.before) :
    DuplicatesDropped past exchange ↔ RepeatsInitial past exchange := by
  refine forall_congr' fun task => forall_congr' fun d => forall_congr' fun before =>
    forall_congr' fun message => ?_
  rw [before] at follows ⊢
  have flag : task.skipNextData = endsInCreate (relayMessages past) := follows
  rw [← flag]
  cases skips : task.skipNextData with
  | true => simp
  | false =>
      have written : exchange.event.ioOk = true →
          (relaying task).delivered exchange.event = rdpData d.data := by
        intro takes
        rw [delivered_relaying, message]
        exact if_pos ⟨takes, skips⟩
      simpa using written

/-- The relay drops only duplicates of the initial data, exactly if every Data message
that comes first behind a ChannelCreate is one. -/
theorem duplicates_dropped_iff (inputs : List RelayInput) :
    (∀ past exchange later, exchanges serve SessionPhase.start inputs = past ++ exchange :: later →
      DuplicatesDropped past exchange) ↔
    ∀ past exchange later, exchanges serve SessionPhase.start inputs = past ++ exchange :: later →
      RepeatsInitial past exchange := by
  refine forall_congr' fun past => forall_congr' fun exchange => forall_congr' fun later =>
    forall_congr' fun split => ?_
  have initial : SkipFollows [] SessionPhase.start := rfl
  exact duplicatesDropped_round (history_invariant_before SkipFollows initial skipFollows_step split)

/-- A session that creates its channel once more in the relay. -/
def resumedRelay : List RelayInput :=
  (walkThrough ++ [WsItem.binary (ChannelCreate.write
    { numResources := 1, numAltResources := 0, port := 3389, protocol := 3, serverName := "srv" })]).map
    RelayInput.succeeding

theorem resumedRelay_loses_data :
    ¬ ∀ inputs past exchange later,
      exchanges serve SessionPhase.start inputs = past ++ exchange :: later →
      DuplicatesDropped past exchange := by
  intro dropped
  let last := RelayInput.succeeding (.binary (DataMessage.write [1, 0, 8]))
  have split : exchanges serve SessionPhase.start (resumedRelay ++ [last]) =
      exchanges serve SessionPhase.start resumedRelay ++
        Exchange.of serve (stateAfter serve SessionPhase.start resumedRelay) last :: [] :=
    exchanges_append _ _ _
  have repeated := dropped _ _ _ _ split ⟨true, [], [relayChannelResponse.write]⟩ ⟨[1, 0, 8]⟩
    (by decide) (by decide)
  exact absurd repeated (by decide)

end RdGateway.Server
