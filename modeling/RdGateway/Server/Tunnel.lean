import RdGateway.Server.RelayProgress
import RdGateway.Server.SessionFrames

/-!
# The tunnel from end to end

A client that opens the tunnel and sends its bytes in Data messages. The backend gets these
bytes, and the client finds the backend's bytes in the Data messages that it gets, both
without a gap and in order.
-/

set_option autoImplicit false

namespace RdGateway.Server

open Wirekit Proto RdGateway.Core GatewaySession SessionPhase

/-! ## The client -/

/-- The frames in order, and beside them only what the session does not look at. -/
inductive Framing : List Bytes → List WsItem → Prop where
  | nil : Framing [] []
  | frame {frames : List Bytes} {items : List WsItem} (data : Bytes) (later : Framing frames items) :
      Framing (data :: frames) (.binary data :: items)
  | ping {frames : List Bytes} {items : List WsItem} (data : Bytes) (later : Framing frames items) :
      Framing frames (.ping data :: items)
  | other {frames : List Bytes} {items : List WsItem} (later : Framing frames items) :
      Framing frames (.other :: items)

/-- The four requests for this target, each in a frame of its own. -/
structure Opens (opening : List WsItem) (host : String) (port : UInt16) : Prop where
  requests : ∃ frames req create auth channel, Framing frames opening ∧
    frames.map parseMessage = [TsgMessage.handshakeRequest req, .tunnelCreate create, .tunnelAuth auth,
      .channelCreate channel].map Outcome.ok ∧ channel.serverName = host ∧ channel.port = port

/-- The client puts each chunk into a Data message of its own. Keepalives, pings, pipe setups
and unknown messages can stand between them. -/
inductive Carrying : List Bytes → List WsItem → Prop where
  | nil : Carrying [] []
  | chunk {chunks : List Bytes} {items : List WsItem} (data : Bytes) (fits : data.length < 2 ^ 16)
      (later : Carrying chunks items) : Carrying (data :: chunks) (.binary (encodeDataMessage data) :: items)
  | beside {chunks : List Bytes} {items : List WsItem} {item : WsItem} (beside : significant item = false)
      (later : Carrying chunks items) : Carrying chunks (item :: items)

/-- What a client that strips the length of a Data message reads out of its frames. -/
def clientData (frame : Bytes) : Bytes :=
  match decodeWsMessage frame with
  | .ok (.data d) => rdpData d.data
  | _ => []

def clientStream (frames : List Bytes) : Bytes := frames.flatMap clientData

theorem CarriesRead.clientData {data frame : Bytes} (carries : CarriesRead data frame) :
    clientData frame = data := by
  obtain ⟨d, decoded, _, _, _, _, _, stripped⟩ := carries
  simp only [Server.clientData, decoded, stripped]

theorem ControlFrame.clientData {frame : Bytes} (control : ControlFrame frame) : clientData frame = [] := by
  obtain ⟨_, msg, decoded, undata⟩ := control
  unfold Server.clientData
  rw [decoded]
  cases msg with
  | data d => exact absurd rfl (undata d)
  | _ => rfl

/-! ## The session opens the tunnel -/

/-- The session answers these messages with these replies. -/
inductive Replies : GatewaySession → List TsgMessage → List Bytes → GatewaySession → Prop where
  | nil (session : GatewaySession) : Replies session [] [] session
  | cons {session next last : GatewaySession} {msg : TsgMessage} {response : Bytes}
      {messages : List TsgMessage} {replies : List Bytes} (silent : relaysData session msg = none)
      (replied : session.processMessage msg = (.ok (some response), next))
      (later : Replies next messages replies last) :
      Replies session (msg :: messages) (response :: replies) last

theorem sessionLoop_opening {env : SessionEnv} {frames : List Bytes} {opening : List WsItem}
    (framing : Framing frames opening) {session last : GatewaySession} {messages : List TsgMessage}
    {replies : List Bytes} (answers : Replies session messages replies last)
    (parsed : frames.map parseMessage = messages.map Outcome.ok) (sent : List Bytes)
    (goesOut : ∀ count < sent.length + replies.length, env.frameSent count = true) (rest : List WsItem) :
    sessionLoop env session sent (opening ++ rest) = sessionLoop env last (sent ++ replies) rest := by
  induction framing generalizing session messages replies sent with
  | nil =>
      cases answers with
      | nil => rw [List.append_nil]; rfl
      | cons silent replied later => cases parsed
  | ping data later ih => exact ih answers parsed sent goesOut
  | other later ih => exact ih answers parsed sent goesOut
  | @frame frames items data later ih =>
      cases answers with
      | nil => cases parsed
      | @cons _ next _ msg response messages replies silent replied answers =>
          obtain ⟨message, parsed⟩ := List.cons.inj parsed
          have out : env.frameSent sent.length = true := goesOut _ (by simp)
          have first : sessionLoop env session sent (.binary data :: (items ++ rest)) =
              sessionLoop env next (sent ++ [response]) (items ++ rest) := by
            rw [sessionLoop, message]
            simp only [silent, replied, out, if_true]
          have moreOut : ∀ count < (sent ++ [response]).length + replies.length, env.frameSent count = true := by
            intro count below
            refine goesOut count ?_
            rw [List.length_append, List.length_singleton] at below
            rw [List.length_cons]
            omega
          rw [List.cons_append, first, ih answers parsed _ moreOut, List.append_assoc]
          rfl

def openingReplies (req : HandshakeRequest) : List Bytes :=
  [(handshakeReply req).write, (tunnelReply 1).write, tunnelAuthReply.write, (channelReply 1).write]

/-- The opening leaves a session that waits for data, with the target of the channel. -/
theorem Opens.sessionLoop {opening : List WsItem} {host : String} {port : UInt16}
    (opens : Opens opening host port) {env : SessionEnv}
    (goesOut : ∀ count < 4, env.frameSent count = true) (rest : List WsItem) :
    ∃ req session, session.isDataTransfer = true ∧ session.targetHost = some host ∧
      session.targetPort = some port ∧
      Server.sessionLoop env GatewaySession.new [] (opening ++ rest) =
        Server.sessionLoop env session (openingReplies req) rest := by
  obtain ⟨frames, req, create, auth, channel, framing, parsed, rfl, rfl⟩ := opens.requests
  have answers : Replies GatewaySession.new
      [.handshakeRequest req, .tunnelCreate create, .tunnelAuth auth, .channelCreate channel] (openingReplies req) _ :=
    .cons rfl rfl (.cons rfl rfl (.cons rfl rfl (.cons rfl rfl (.nil _))))
  exact ⟨req, _, rfl, rfl, rfl, sessionLoop_opening framing answers parsed [] goesOut rest⟩

/-! ## The client's bytes in the relay -/

theorem serve_beside (task : WsToTcp) {input : RelayInput} (beside : significant input.item = false) :
    ∃ next, (serve (.relaying task) input).2 = .relaying next ∧ next.skipNextData = task.skipNextData ∧
      (relaying task).delivered input = [] := by
  have served {next : WsToTcp} (handled : task.handleItem input = (.proceed, next)) :
      (serve (.relaying task) input).2 = .relaying next := by
    rw [serve, serveRelay, handled]
  have sent (response : Bytes) : (task.send input.ioOk response).skipNextData = task.skipNextData := by
    unfold WsToTcp.send
    split <;> rfl
  rw [delivered_relaying]
  obtain ⟨item, ioOk⟩ := input
  cases item with
  | close => cases beside
  | error => cases beside
  | ping data => exact ⟨task, rfl, rfl, rfl⟩
  | other => exact ⟨task, rfl, rfl, rfl⟩
  | binary data =>
      cases outcome : parseMessage data with
      | panicked => exact absurd outcome (parseMessage_safe data).ne_panicked
      | err error =>
          have handled : task.handleItem ⟨.binary data, ioOk⟩ = (.proceed, task) := by
            simp only [WsToTcp.handleItem, outcome]
          exact ⟨task, served handled, rfl, by simp only [parsed, outcome]⟩
      | ok msg =>
          have received : parsed (.binary data) = some msg := by simp only [parsed, outcome]
          have handled := @handleItem_message task ⟨.binary data, ioOk⟩ _ received
          rw [received]
          cases msg with
          | data d => simp [significant, received, isDataOrCreate] at beside
          | channelCreate req => simp [significant, received, isDataOrCreate] at beside
          | closeChannel payload => simp [significant, endsRun, isCloseChannel, received] at beside
          | keepalive => exact ⟨_, served handled, sent _, rfl⟩
          | unknown msgType payload =>
              rw [WsToTcp.handleMessage] at handled
              split at handled
              · exact ⟨_, served handled, sent _, rfl⟩
              · exact ⟨_, served handled, rfl, rfl⟩
          | _ => exact ⟨_, served handled, rfl, rfl⟩

/-- A chunk is written whole, or its write fails and the task ends. -/
theorem serve_chunk {task : WsToTcp} (unskipped : task.skipNextData = false) {data : Bytes}
    (fits : data.length < 2 ^ 16) (ioOk : Bool) :
    let input : RelayInput := { item := .binary (encodeDataMessage data), ioOk }
    (ioOk = true → ∃ next, (serve (.relaying task) input).2 = .relaying next ∧ next.skipNextData = false ∧
      (relaying task).delivered input = data) ∧
    (ioOk = false → (serve (.relaying task) input).2 = .ended none ∧ (relaying task).delivered input = []) := by
  obtain ⟨d, decoded, _, _, _, _, _, stripped⟩ := encodeDataMessage_carries_of_lt fits
  have received : parsed (.binary (encodeDataMessage data)) = some (.data { data := d }) :=
    parsed_eq_some.mpr ⟨_, rfl, decoded⟩
  intro input
  have handled : task.handleItem input = task.handleMessage ioOk (.data { data := d }) :=
    handleItem_message task received
  rw [delivered_relaying, serve, serveRelay, handled, WsToTcp.handleMessage, unskipped]
  refine ⟨fun written => ?_, fun failed => ?_⟩
  · subst written
    refine ⟨_, rfl, rfl, ?_⟩
    rw [received]
    exact (if_pos ⟨rfl, rfl⟩).trans stripped
  · subst failed
    rw [received]
    exact ⟨rfl, if_neg fun both => Bool.false_ne_true both.1⟩

/-- What the relay task writes of the client's items is a front part of the chunks, and all
of them once all items are served and no write has failed. -/
theorem Carrying.deliveries {chunks : List Bytes} {items : List WsItem} (carrying : Carrying chunks items)
    {task : WsToTcp} (unskipped : task.skipNextData = false) {inputs : List RelayInput}
    (front : inputs.map RelayInput.item <+: items) :
    (relaying task).deliveries inputs <+: chunks.flatten ∧
      (inputs.map RelayInput.item = items → (∀ input ∈ inputs, input.ioOk = true) →
        (relaying task).deliveries inputs = chunks.flatten) := by
  induction carrying generalizing task inputs with
  | nil =>
      cases List.map_eq_nil_iff.mp (List.prefix_nil.mp front)
      exact ⟨List.prefix_rfl, fun _ _ => rfl⟩
  | @chunk chunks items data fits later ih =>
      cases inputs with
      | nil => exact ⟨List.nil_prefix, fun same _ => by cases same⟩
      | cons input rest =>
          obtain ⟨item, ioOk⟩ := input
          rw [List.map_cons, List.cons_prefix_cons] at front
          obtain ⟨rfl, front⟩ := front
          obtain ⟨written, failed⟩ := serve_chunk unskipped fits ioOk
          rw [deliveries_cons, List.flatten_cons]
          cases ioOk with
          | true =>
              obtain ⟨next, served, kept, delivered⟩ := written rfl
              obtain ⟨part, whole⟩ := ih kept front
              rw [served, delivered]
              refine ⟨(List.prefix_append_right_inj data).mpr part, fun same works => ?_⟩
              rw [whole (List.cons.inj same).2 fun input member => works input (List.mem_cons_of_mem _ member)]
          | false =>
              obtain ⟨served, delivered⟩ := failed rfl
              rw [served, delivered, deliveries_ended]
              exact ⟨List.nil_prefix, fun _ works => absurd (works _ List.mem_cons_self) Bool.false_ne_true⟩
  | @beside chunks items item beside later ih =>
      cases inputs with
      | nil => exact ⟨List.nil_prefix, fun same _ => by cases same⟩
      | cons input rest =>
          rw [List.map_cons, List.cons_prefix_cons] at front
          obtain ⟨rfl, front⟩ := front
          obtain ⟨next, served, kept, delivered⟩ := serve_beside task beside
          obtain ⟨part, whole⟩ := ih (kept.trans unskipped) front
          rw [deliveries_cons, served, delivered]
          exact ⟨part, fun same works => whole (List.cons.inj same).2 fun input member =>
            works input (List.mem_cons_of_mem _ member)⟩

/-! ## The backend's bytes at the client -/

namespace RelaySystem

/-- Every response, queued or not yet, is a message without data. -/
theorem responses_control {labels : List SystemLabel} {system : RelaySystem} (run : Steps Step start labels system) :
    ∀ response ∈ labels.filterMap queuedResponse ++ system.waiting, ControlFrame response := by
  refine run.invariant (fun labels system => ∀ response ∈ labels.filterMap queuedResponse ++ system.waiting,
    ControlFrame response) (List.forall_mem_nil _) fun labels system label next control taken => ?_
  cases taken with
  | @receive task reading idle input written =>
      simp only [filterMap_append_singleton, queuedResponse, Option.toList_none, List.append_nil]
      exact List.forall_mem_append.mpr ⟨(List.forall_mem_append.mp control).1, serveRelay_control task input⟩
  | @enqueue response rest relay responds enters =>
      simp only [filterMap_append_singleton, queuedResponse, Option.toList_some, List.append_assoc]
      rw [responds] at control
      exact control
  | @drop response rest responds stopped =>
      simp only [filterMap_append_singleton, queuedResponse, Option.toList_none, List.append_nil]
      rw [responds] at control
      obtain ⟨queued, waiting⟩ := List.forall_mem_append.mp control
      exact List.forall_mem_append.mpr ⟨queued, (List.forall_mem_cons.mp waiting).2⟩
  | _ =>
      simp only [filterMap_append_singleton, queuedResponse, Option.toList_none, List.append_nil]
      exact control

/-- What was read, and what can be read, comes from the backend in the order it was sent. -/
theorem taken_front {labels : List SystemLabel} {system : RelaySystem} (run : Steps Step start labels system) :
    (labels.filterMap takenData).flatten ++ system.relay.unread <+: (labels.filterMap arrivedData).flatten := by
  induction run with
  | start => exact List.prefix_rfl
  | @step labels system label next run taken front =>
      have untouched (notTaken : takenData label = none) (notArrived : arrivedData label = none)
          (unread : next.relay.unread = system.relay.unread) :
          ((labels ++ [label]).filterMap takenData).flatten ++ next.relay.unread <+:
            ((labels ++ [label]).filterMap arrivedData).flatten := by
        simp only [filterMap_append_singleton, notTaken, notArrived, unread, Option.toList_none, List.append_nil]
        exact front
      cases taken with
      | @arrive data sending =>
          simp only [filterMap_append_singleton, takenData, arrivedData, Option.toList_none, Option.toList_some,
            List.append_nil, List.flatten_concat]
          refine ⟨[], ?_⟩
          rw [List.append_nil, (delivering_of_run run).stream sending, List.append_assoc]
      | reset =>
          simp only [filterMap_append_singleton, takenData, arrivedData, Option.toList_none, List.append_nil]
          exact (List.prefix_append _ _).trans front
      | @read data relay taken =>
          cases taken with
          | @read _ rest sent running nonempty fits available =>
              simp only [filterMap_append_singleton, takenData, arrivedData, Option.toList_none,
                Option.toList_some, List.append_nil, List.flatten_concat, List.append_assoc]
              rw [available] at front
              exact front
      | enqueue responds queued =>
          cases queued
          exact untouched rfl rfl rfl
      | recv taken =>
          cases taken
          exact untouched rfl rfl rfl
      | readEnds readable taken =>
          cases taken
          exact untouched rfl rfl rfl
      | _ => exact untouched rfl rfl rfl

theorem clientStream_eq {labels : List SystemLabel} {system : RelaySystem} (run : Steps Step start labels system) :
    clientStream system.relay.frames = (labels.filterMap takenData).flatten := by
  obtain ⟨dataFrames, interleaved, carried⟩ := (delivering_of_run run).frames
  have queue := (accounted_of_run run).queue
  have silent : ∀ response ∈ labels.filterMap sentResponse, clientData response = [] := by
    intro response member
    refine (responses_control run response (List.mem_append_left _ ?_)).clientData
    rw [queue]
    exact List.mem_append_left _ member
  rw [clientStream, interleaved.flatMap_right silent]
  clear interleaved
  generalize labels.filterMap takenData = reads at carried
  induction carried with
  | nil => rfl
  | cons carries later ih => rw [List.flatMap_cons, List.flatten_cons, carries.clientData, ih]

/-- Behind a send that fails the client gets nothing more, so what it got is a front part. -/
theorem clientStream_front {events : List RelayEvent} {system : RelaySystem}
    (run : Steps FaultyStep start events system) :
    clientStream system.relay.frames <+: ((events.filterMap RelayEvent.label).filterMap arrivedData).flatten := by
  obtain ⟨labels, later, front, split, fine, frames, _⟩ := intact_front run
  have taken := (List.prefix_append _ _).trans (taken_front fine)
  rw [← frames, clientStream_eq fine, split, List.filterMap_append, List.flatten_append]
  exact taken.trans (List.prefix_append _ _)

end RelaySystem

/-! ## Both directions -/

/-- How far the bytes have come in a run of the relay: a front part in each direction, all of
the client's once every item is served, and all of the backend's when the tasks rest. -/
structure Transparent (first : Bytes) (chunks : List Bytes) (items : List WsItem) (labels : List SystemLabel)
    (system : RelaySystem) : Prop where
  toBackend : first ++ (relaying .start).deliveries (labels.filterMap receivedInput) <+: (first :: chunks).flatten
  served : (labels.filterMap receivedInput).map RelayInput.item = items →
    (∀ input ∈ labels.filterMap receivedInput, input.ioOk = true) →
    first ++ (relaying .start).deliveries (labels.filterMap receivedInput) = (first :: chunks).flatten
  toClient : clientStream system.relay.frames <+: (labels.filterMap arrivedData).flatten
  rested : Quiet RelaySystem.TaskStep system → system.relay.running = true →
    clientStream system.relay.frames = (labels.filterMap arrivedData).flatten

/-- A client that opens the tunnel and sends chunks gets one connection, to the target it
asked for, and a pipe to it: in every run of the relay, whichever sends fail, both streams
arrive as they were sent, with nothing of the protocol in them, up to what is still under way. -/
theorem tunnel_transparent {state : AppState} {username : String} {env : SessionEnv} {host : String}
    {port : UInt16} {opening items : List WsItem} {first : Bytes} {chunks : List Bytes}
    (opens : Opens opening host port) (network : NetworkAllows env host port)
    (written : env.initialWriteOk = true) (fits : first.length < 2 ^ 16) (carrying : Carrying chunks items) :
    let run := handleWsSession state username env (opening ++ .binary (encodeDataMessage first) :: items)
    (∃ req, run.sent = openingReplies req) ∧ run.connection = some (host, port) ∧ run.relay = some (first, items) ∧
      ∀ events system, Steps RelaySystem.FaultyStep .start events system →
        ((events.filterMap RelayEvent.label).filterMap receivedInput).map RelayInput.item <+: items →
        Transparent first chunks items (events.filterMap RelayEvent.label) system := by
  obtain ⟨goesOut, accepts⟩ := network
  obtain ⟨req, session, transferring, hostKept, portKept, opened⟩ :=
    opens.sessionLoop goesOut (.binary (encodeDataMessage first) :: items)
  obtain ⟨d, decoded, _, _, _, _, _, stripped⟩ := encodeDataMessage_carries_of_lt fits
  have message : parseMessage (encodeDataMessage first) = .ok (.data { data := d }) := decoded
  have started : sessionLoop env session (openingReplies req) (.binary (encodeDataMessage first) :: items) =
      { session, sent := openingReplies req, connection := some (host, port), relay := some (first, items) } := by
    rw [sessionLoop, message]
    simp only [relaysData, transferring, startRelay, hostKept, portKept, Option.getD_some, accepts, written,
      stripped, if_true, Bool.not_true, Bool.false_eq_true, if_false]
  intro run
  have reached : run = _ := opened.trans started
  rw [reached]
  refine ⟨⟨req, rfl⟩, rfl, rfl, fun events system steps front => ?_⟩
  have unskipped : WsToTcp.start.skipNextData = false := rfl
  obtain ⟨part, whole⟩ := carrying.deliveries unskipped front
  refine ⟨?_, fun all works => ?_, RelaySystem.clientStream_front steps, fun quiet running => ?_⟩
  · rw [List.flatten_cons]
    exact (List.prefix_append_right_inj first).mpr part
  · rw [List.flatten_cons, whole all works]
  · obtain ⟨labels, later, _, split, fine, _, intact⟩ := RelaySystem.intact_front steps
    obtain ⟨rfl, rfl⟩ := intact running
    obtain ⟨_, unread, sending⟩ := (RelaySystem.atRest_of_quiet quiet).running running
    rw [split, List.append_nil, RelaySystem.clientStream_eq fine, (RelaySystem.delivering_of_run fine).stream sending,
      unread, List.append_nil]

def deskItems : List WsItem := [.binary writeKeepalive, .binary (encodeDataMessage [8, 9])]

theorem tunnel_transparent_desk :
    (handleWsSession gatewayState "alice" soundNetwork
      (walkThrough.take 4 ++ .binary (encodeDataMessage [7]) :: deskItems)).connection = some ("srv", 3389) ∧
    ∃ system, Transparent [7] [[8, 9]] deskItems
      [.receive (.succeeding (.binary writeKeepalive)), .arrive [1, 2], .read [1, 2]] system := by
  have opens : Opens (walkThrough.take 4) "srv" 3389 :=
    ⟨_, { majorVersion := 1, minorVersion := 0, clientVersion := 0, extAuth := 0 },
      { capsFlags := 0, fieldsPresent := 0, reserved := 0, paaCookie := none },
      { fieldsPresent := 0, clientName := "PC" },
      { numResources := 1, numAltResources := 0, port := 3389, protocol := 3, serverName := "srv" },
      .frame _ (.frame _ (.frame _ (.frame _ .nil))), by decide, rfl, rfl⟩
  have carrying : Carrying [[8, 9]] deskItems := .beside (by decide) (.chunk _ (by decide) .nil)
  have received := Steps.single (RelaySystem.FaultyStep.step (@RelaySystem.Step.receive .start _ rfl rfl
    (.succeeding (.binary writeKeepalive)) (.inl rfl)))
  have arrived := received.step (.step (@RelaySystem.Step.arrive _ [1, 2] rfl))
  have read := arrived.step (.step (.read (.read true rfl (by decide) (by decide) (List.append_nil [1, 2]).symm)))
  obtain ⟨_, connection, _, transparent⟩ := @tunnel_transparent gatewayState "alice" soundNetwork "srv" 3389
    _ _ [7] _ opens ⟨fun _ _ => rfl, rfl⟩ rfl (by decide) carrying
  exact ⟨connection, _, transparent _ _ read ⟨_, rfl⟩⟩

end RdGateway.Server
