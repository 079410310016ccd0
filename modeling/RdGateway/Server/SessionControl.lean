import RdGateway.Server.RelayProperties
import RdGateway.Server.WebSocketProperties

/-!
# Control messages in the last state of the session

The state machine of the session has its last state twice: in `processMessage` until the
first Data message, and in the relay task behind it. `serve` is the session as one machine,
and the two loops are its runs.
-/

set_option autoImplicit false

namespace RdGateway.Server

open Wirekit Proto RdGateway.Core

inductive SessionPhase where
  | control (session : GatewaySession)
  | relaying (task : WsToTcp)
  | ended (error : Option SessionError)
deriving Repr, DecidableEq

namespace SessionPhase

def start : SessionPhase := .control GatewaySession.new

/-- A message before the relay. The flag of a Data message stands for the backend's
connection and the first write to it. -/
def serveMessage (session : GatewaySession) (ioOk : Bool) (tsgMsg : TsgMessage) :
    List Bytes × SessionPhase :=
  match relaysData session tsgMsg with
  | some _ => ([], if ioOk then .relaying .start else .ended none)
  | none =>
      match session.processMessage tsgMsg with
      | (.ok (some response), next) => if ioOk then ([response], .control next) else ([], .ended none)
      | (.ok none, next) => ([], .control next)
      | (.error error, _) => ([], .ended (some error))

def serveControl (session : GatewaySession) (input : RelayInput) : List Bytes × SessionPhase :=
  match input.item with
  | .close => ([], .ended none)
  | .error => ([], .ended none)
  | .ping _ => ([], .control session)
  | .other => ([], .control session)
  | .binary data =>
      match parseMessage data with
      | .err _ => ([], .ended none)
      | .panicked => ([], .ended none)
      | .ok tsgMsg => serveMessage session input.ioOk tsgMsg

/-- One round of the relay task, with the responses that it queues. -/
def serveRelay (task : WsToTcp) (input : RelayInput) : List Bytes × SessionPhase :=
  let (flow, next) := task.handleItem input
  (next.queued.drop task.queued.length,
    match flow with
    | .proceed => .relaying next
    | .finish => .ended none)

def serve : SessionPhase → RelayInput → List Bytes × SessionPhase
  | .control session, input => serveControl session input
  | .relaying task, input => serveRelay task input
  | .ended error, _ => ([], .ended error)

def replies (phase : SessionPhase) (inputs : List RelayInput) : List Bytes :=
  (exchanges serve phase inputs).flatMap Exchange.output

theorem serveControl_message {session : GatewaySession} {data : Bytes} {tsgMsg : TsgMessage}
    (message : parseMessage data = .ok tsgMsg) (ioOk : Bool) :
    serveControl session ⟨.binary data, ioOk⟩ = serveMessage session ioOk tsgMsg := by
  simp only [serveControl, message]

theorem replies_cons (phase : SessionPhase) (input : RelayInput) (rest : List RelayInput) :
    phase.replies (input :: rest) = (phase.serve input).1 ++ (phase.serve input).2.replies rest := rfl

theorem replies_append (phase : SessionPhase) (first second : List RelayInput) :
    phase.replies (first ++ second) = phase.replies first ++ (stateAfter serve phase first).replies second := by
  rw [replies, exchanges_append, List.flatMap_append]
  rfl

theorem replies_ended (error : Option SessionError) (inputs : List RelayInput) :
    (ended error).replies inputs = [] := by
  induction inputs with
  | nil => rfl
  | cons input rest ih => exact ih

end SessionPhase

open SessionPhase

/-! ## The two loops are runs of the machine -/

theorem handleItem_queued (task : WsToTcp) (input : RelayInput) :
    (task.handleItem input).2.queued =
      task.queued ++ (task.handleItem input).2.queued.drop task.queued.length := by
  have sent (response : Bytes) : task.queued <+: (task.send input.ioOk response).queued := by
    unfold WsToTcp.send
    split
    · exact List.prefix_append _ _
    · exact List.prefix_rfl
  suffices grown : task.queued <+: (task.handleItem input).2.queued from
    (List.prefix_iff_eq_append.mp grown).symm
  unfold WsToTcp.handleItem
  split
  · split
    · unfold WsToTcp.handleMessage
      split
      · split
        · exact List.prefix_rfl
        · split <;> exact List.prefix_rfl
      · exact sent _
      · exact sent _
      · split
        · exact sent _
        · exact List.prefix_rfl
      · exact sent _
      · exact List.prefix_rfl
    · exact List.prefix_rfl
    · exact List.prefix_rfl
  all_goals exact List.prefix_rfl

/-- A field of the task that each round extends, and the machine's log of what the rounds
put out, are the same list. -/
theorem run_logged {α : Type} {view : WsToTcp → List α} {out : SessionPhase → RelayInput → List α}
    {log : SessionPhase → List RelayInput → List α}
    (extended : ∀ task input, view (task.handleItem input).2 = view task ++ out (.relaying task) input)
    (empty : ∀ phase, log phase [] = [])
    (grows : ∀ phase input rest, log phase (input :: rest) = out phase input ++ log (phase.serve input).2 rest)
    (idles : ∀ error inputs, log (.ended error) inputs = []) (task : WsToTcp) (inputs : List RelayInput) :
    view (task.run inputs) = view task ++ log (.relaying task) inputs := by
  induction inputs generalizing task with
  | nil => rw [empty, List.append_nil, WsToTcp.run]
  | cons input rest ih =>
      rw [grows, ← List.append_assoc, ← extended, serve, serveRelay, WsToTcp.run]
      rcases task.handleItem input with ⟨flow, next⟩
      cases flow with
      | finish =>
          change view next = view next ++ log (.ended none) rest
          rw [idles, List.append_nil]
      | proceed => exact ih next

theorem run_served (task : WsToTcp) (inputs : List RelayInput) :
    (task.run inputs).queued = task.queued ++ (relaying task).replies inputs :=
  run_logged handleItem_queued (fun _ => rfl) replies_cons replies_ended task inputs

/-- What the next item comes to in the loop, with the round of the machine that it is. -/
inductive LoopMet (env : SessionEnv) (session : GatewaySession) (sent : List Bytes) (item : WsItem)
    (rest : List WsItem) : SessionRun → Prop where
  | ends {run : SessionRun} {error : Option SessionError} (ioOk : Bool)
      (served : serveControl session ⟨item, ioOk⟩ = ([], .ended error)) (same : run.sent = sent)
      (unrelayed : run.relay = none) : LoopMet env session sent item rest run
  | relays {run : SessionRun} {dataMsg : DataMessage}
      (started : (parsed item).bind (relaysData session) = some dataMsg)
      (served : serveControl session ⟨item, true⟩ = ([], .relaying .start)) (same : run.sent = sent)
      (relayed : run.relay = some (rdpData dataMsg.data, rest)) : LoopMet env session sent item rest run
  | next {next : GatewaySession} {out : List Bytes}
      (silent : (parsed item).bind (relaysData session) = none)
      (served : serveControl session ⟨item, true⟩ = (out, .control next)) :
      LoopMet env session sent item rest (sessionLoop env next (sent ++ out) rest)

theorem sessionLoop_met (env : SessionEnv) (session : GatewaySession) (sent : List Bytes) (item : WsItem)
    (rest : List WsItem) :
    LoopMet env session sent item rest (sessionLoop env session sent (item :: rest)) := by
  have stays {next : GatewaySession} (silent : (parsed item).bind (relaysData session) = none)
      (served : serveControl session ⟨item, true⟩ = ([], .control next)) :
      LoopMet env session sent item rest (sessionLoop env next sent rest) := by
    have met := @LoopMet.next env session sent item rest _ _ silent served
    rw [List.append_nil] at met
    exact met
  cases item with
  | close => exact .ends true rfl rfl rfl
  | error => exact .ends true rfl rfl rfl
  | ping data => exact stays rfl rfl
  | other => exact stays rfl rfl
  | binary data =>
      unfold sessionLoop
      cases message : parseMessage data with
      | err error =>
          have served : serveControl session ⟨.binary data, true⟩ = ([], .ended none) := by
            simp only [serveControl, message]
          exact .ends true served rfl rfl
      | panicked =>
          have served : serveControl session ⟨.binary data, true⟩ = ([], .ended none) := by
            simp only [serveControl, message]
          exact .ends true served rfl rfl
      | ok tsgMsg =>
          have received : parsed (.binary data) = some tsgMsg := by simp only [parsed, message]
          dsimp only
          cases relays : relaysData session tsgMsg with
          | some dataMsg =>
              have started : (parsed (.binary data)).bind (relaysData session) = some dataMsg := by
                rw [received, Option.bind_some, relays]
              have served (ioOk : Bool) : serveControl session ⟨.binary data, ioOk⟩ =
                  ([], if ioOk then .relaying .start else .ended none) := by
                rw [serveControl_message message, serveMessage, relays]
              dsimp only [startRelay]
              split
              · exact .ends false (served false) rfl rfl
              · cases written : env.initialWriteOk with
                | false => exact .ends false (served false) rfl rfl
                | true => exact .relays started (served true) rfl rfl
          | none =>
              have silent : (parsed (.binary data)).bind (relaysData session) = none := by
                rw [received, Option.bind_some, relays]
              have served (ioOk : Bool) : serveControl session ⟨.binary data, ioOk⟩ =
                  match session.processMessage tsgMsg with
                  | (.ok (some response), next) =>
                      if ioOk then ([response], .control next) else ([], .ended none)
                  | (.ok none, next) => ([], .control next)
                  | (.error error, _) => ([], .ended (some error)) := by
                rw [serveControl_message message, serveMessage, relays]
              revert served
              rcases session.processMessage tsgMsg with ⟨result, next⟩
              intro served
              rcases result with error | _ | response
              · exact .ends true (served true) rfl rfl
              · exact stays silent (served true)
              · dsimp only
                split
                · exact .next silent (served true)
                · exact .ends false (served false) rfl rfl

/-- The run of the loop is a run of the machine over the items that it takes. -/
def Served (session : GatewaySession) (sent : List Bytes) (items : List WsItem) (run : SessionRun) :
    Prop :=
  ∃ inputs rest, items = inputs.map RelayInput.item ++ rest ∧
    run.sent = sent ++ (control session).replies inputs ∧
    match stateAfter serve (control session) inputs with
    | .control left => rest = [] ∧ run = .stopped left run.sent
    | .relaying task => task = .start ∧ ∃ data, run.relay = some (data, rest)
    | .ended _ => run.relay = none

theorem Served.ends {session : GatewaySession} {sent : List Bytes} {rest : List WsItem}
    {run : SessionRun} {error : Option SessionError} (input : RelayInput)
    (served : serveControl session input = ([], .ended error)) (same : run.sent = sent)
    (unrelayed : run.relay = none) : Served session sent (input.item :: rest) run := by
  refine ⟨[input], rest, rfl, ?_, ?_⟩
  · rw [replies_cons, serve, served, same]
    exact (List.append_nil _).symm
  · rw [stateAfter, serve, served]
    exact unrelayed

theorem Served.relays {session : GatewaySession} {sent : List Bytes} {rest : List WsItem}
    {run : SessionRun} {payload : Bytes} (input : RelayInput)
    (served : serveControl session input = ([], .relaying .start)) (same : run.sent = sent)
    (relayed : run.relay = some (payload, rest)) : Served session sent (input.item :: rest) run := by
  refine ⟨[input], rest, rfl, ?_, ?_⟩
  · rw [replies_cons, serve, served, same]
    exact (List.append_nil _).symm
  · rw [stateAfter, serve, served]
    exact ⟨rfl, payload, relayed⟩

theorem Served.next {session next : GatewaySession} {sent out : List Bytes} {rest : List WsItem}
    {run : SessionRun} (input : RelayInput) (served : serveControl session input = (out, .control next))
    (later : Served next (sent ++ out) rest run) : Served session sent (input.item :: rest) run := by
  obtain ⟨inputs, untaken, items, replied, left⟩ := later
  refine ⟨input :: inputs, untaken, ?_, ?_, ?_⟩
  · rw [items]
    rfl
  · rw [replies_cons, serve, served, replied, List.append_assoc]
  · rw [stateAfter, serve, served]
    exact left

theorem sessionLoop_served (env : SessionEnv) (session : GatewaySession) (sent : List Bytes)
    (items : List WsItem) : Served session sent items (sessionLoop env session sent items) := by
  induction items generalizing session sent with
  | nil => exact ⟨[], [], rfl, (List.append_nil _).symm, rfl, rfl⟩
  | cons item rest ih =>
      have met := sessionLoop_met env session sent item rest
      generalize sessionLoop env session sent (item :: rest) = run at met ⊢
      cases met with
      | ends ioOk served same unrelayed => exact .ends ⟨item, ioOk⟩ served same unrelayed
      | relays started served same relayed => exact .relays ⟨item, true⟩ served same relayed
      | next silent served => exact .next ⟨item, true⟩ served (ih _ _)

/-- What a session sends before its relay and queues in it are the machine's replies to its items. -/
theorem session_served {state : AppState} {username : String} {env : SessionEnv} {items : List WsItem}
    {payload : Bytes} {relayInputs : List RelayInput}
    (relayed : (handleWsSession state username env items).relay =
      some (payload, relayInputs.map RelayInput.item)) :
    ∃ inputs, inputs.map RelayInput.item = items ∧ SessionPhase.start.replies inputs =
      (handleWsSession state username env items).sent ++ (WsToTcp.start.run relayInputs).queued := by
  have served := sessionLoop_served env GatewaySession.new [] items
  obtain ⟨inputs, rest, rfl, sent, phase⟩ := served
  change (sessionLoop env GatewaySession.new [] _).relay = _ at relayed
  cases reached : stateAfter serve (control GatewaySession.new) inputs with
  | control left =>
      rw [reached] at phase
      rw [phase.2] at relayed
      cases relayed
  | ended error =>
      rw [reached] at phase
      rw [phase] at relayed
      cases relayed
  | relaying task =>
      rw [reached] at phase
      obtain ⟨rfl, data, started⟩ := phase
      rw [started] at relayed
      cases relayed
      refine ⟨inputs ++ relayInputs, List.map_append, ?_⟩
      have queued := run_served .start relayInputs
      rw [SessionPhase.start, replies_append, reached, queued]
      exact congrArg (· ++ _) sent.symm

/-! ## Keepalive and CloseChannel -/

namespace SessionPhase

/-- The channel is open: a ChannelResponse was sent and nothing has ended the session. -/
def InDataTransfer : SessionPhase → Prop
  | .control session => session.isDataTransfer = true
  | .relaying _ => True
  | .ended _ => False

def AwaitsData : SessionPhase → Prop
  | .control session => session.isDataTransfer = true
  | _ => False

instance (phase : SessionPhase) : Decidable phase.InDataTransfer :=
  match phase with
  | .control session => inferInstanceAs (Decidable (session.isDataTransfer = true))
  | .relaying _ => inferInstanceAs (Decidable True)
  | .ended _ => inferInstanceAs (Decidable False)

instance (phase : SessionPhase) : Decidable phase.AwaitsData :=
  match phase with
  | .control session => inferInstanceAs (Decidable (session.isDataTransfer = true))
  | .relaying _ => inferInstanceAs (Decidable False)
  | .ended _ => inferInstanceAs (Decidable False)

theorem AwaitsData.opened {phase : SessionPhase} (awaits : phase.AwaitsData) : phase.InDataTransfer := by
  cases phase with
  | control session => exact awaits
  | relaying task => trivial
  | ended error => exact awaits

end SessionPhase

/-- The frame goes out unless the connection fails. -/
def RelayInput.attempt (input : RelayInput) (frame : Bytes) : List Bytes :=
  if input.ioOk then [frame] else []

def IsControl (item : WsItem) : Prop :=
  parsed item = some .keepalive ∨ ∃ payload, parsed item = some (.closeChannel payload)

/-- What the documented state machine makes of a control message in its last state. -/
structure ControlTaken (exchange : Exchange SessionPhase RelayInput (List Bytes)) : Prop where
  keepalive : parsed exchange.event.item = some .keepalive → exchange.after.InDataTransfer
  closeChannel : ∀ payload, parsed exchange.event.item = some (.closeChannel payload) →
    exchange.after = .ended none
  expected : IsControl exchange.event.item →
    ∀ msgType state, exchange.after ≠ .ended (some (.unexpectedMessage msgType state))

theorem parsed_eq_some {item : WsItem} {msg : TsgMessage} :
    parsed item = some msg ↔ ∃ data, item = .binary data ∧ parseMessage data = .ok msg := by
  cases item with
  | binary data =>
      constructor
      · intro found
        unfold parsed at found
        dsimp only at found
        split at found
        · next other message =>
          cases found
          exact ⟨data, rfl, message⟩
        · cases found
      · intro holds
        obtain ⟨_, ⟨⟩, message⟩ := holds
        simp only [parsed, message]
  | _ =>
      refine iff_of_false (fun found => by cases found) ?_
      intro holds
      obtain ⟨_, same, _⟩ := holds
      cases same

/-- Before the first Data message a control message ends the session with an error. -/
theorem serve_awaitsData {phase : SessionPhase} (awaits : phase.AwaitsData) {input : RelayInput}
    (control : IsControl input.item) :
    ∃ msgType, phase.serve input = ([], .ended (some (.unexpectedMessage msgType .dataTransfer))) := by
  cases phase with
  | control session =>
      have state : session.state = .dataTransfer := of_decide_eq_true awaits
      obtain ⟨_, _, _, _, _, _, _, _⟩ := session
      cases state
      obtain ⟨item, ioOk⟩ := input
      rcases control with keepalive | ⟨payload, closeChannel⟩
      · obtain ⟨data, rfl, message⟩ := parsed_eq_some.mp keepalive
        exact ⟨messageCode .keepalive, serveControl_message message ioOk⟩
      · obtain ⟨data, rfl, message⟩ := parsed_eq_some.mp closeChannel
        exact ⟨messageCode (.closeChannel payload), serveControl_message message ioOk⟩
  | relaying task => cases awaits
  | ended error => cases awaits

theorem drop_send (task : WsToTcp) (input : RelayInput) (response : Bytes) :
    (task.send input.ioOk response).queued.drop task.queued.length = input.attempt response := by
  unfold WsToTcp.send RelayInput.attempt
  split
  · exact List.drop_left
  · exact List.drop_length

theorem serveRelay_keepalive (task : WsToTcp) {input : RelayInput}
    (keepalive : parsed input.item = some .keepalive) :
    serveRelay task input =
      (input.attempt writeKeepalive, .relaying (task.send input.ioOk writeKeepalive)) := by
  obtain ⟨item, ioOk⟩ := input
  obtain ⟨data, rfl, message⟩ := parsed_eq_some.mp keepalive
  have handled : task.handleItem ⟨.binary data, ioOk⟩ =
      (.proceed, task.send ioOk writeKeepalive) := by
    simp only [WsToTcp.handleItem, message]
    rfl
  rw [serveRelay, handled]
  exact congrArg (·, _) (drop_send task ⟨_, ioOk⟩ _)

theorem serveRelay_closeChannel (task : WsToTcp) {input : RelayInput} {payload : Bytes}
    (closeChannel : parsed input.item = some (.closeChannel payload)) :
    serveRelay task input = (input.attempt writeCloseChannelResponse, .ended none) := by
  obtain ⟨item, ioOk⟩ := input
  obtain ⟨data, rfl, message⟩ := parsed_eq_some.mp closeChannel
  have handled : task.handleItem ⟨.binary data, ioOk⟩ =
      (.finish, task.send ioOk writeCloseChannelResponse) := by
    simp only [WsToTcp.handleItem, message]
    rfl
  rw [serveRelay, handled]
  exact congrArg (·, _) (drop_send task ⟨_, ioOk⟩ _)

theorem controlTaken_iff {phase : SessionPhase} (opened : phase.InDataTransfer) (input : RelayInput) :
    ControlTaken (.of serve phase input) ↔ (phase.AwaitsData → ¬ IsControl input.item) := by
  constructor
  · intro taken awaits control
    obtain ⟨msgType, served⟩ := serve_awaitsData awaits control
    exact taken.expected control msgType .dataTransfer (congrArg Prod.snd served)
  · intro spared
    cases phase with
    | control session =>
        have uncontrolled := spared opened
        exact ⟨fun keepalive => absurd (.inl keepalive) uncontrolled,
          fun payload closeChannel => absurd (.inr ⟨payload, closeChannel⟩) uncontrolled,
          fun control => absurd control uncontrolled⟩
    | relaying task =>
        have kept (keepalive : parsed input.item = some .keepalive) :
            (Exchange.of serve (relaying task) input).after = .relaying (task.send input.ioOk writeKeepalive) :=
          congrArg Prod.snd (serveRelay_keepalive task keepalive)
        have left {payload : Bytes} (closeChannel : parsed input.item = some (.closeChannel payload)) :
            (Exchange.of serve (relaying task) input).after = .ended none :=
          congrArg Prod.snd (serveRelay_closeChannel task closeChannel)
        refine ⟨fun keepalive => ?_, fun payload closeChannel => left closeChannel, ?_⟩
        · rw [kept keepalive]
          trivial
        · rintro (keepalive | ⟨payload, closeChannel⟩) msgType state
          · rw [kept keepalive]
            exact nofun
          · rw [left closeChannel]
            exact nofun
    | ended error => cases opened

end RdGateway.Server
