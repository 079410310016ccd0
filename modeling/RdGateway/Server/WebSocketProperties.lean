import RdGateway.Core.Acl
import RdGateway.Core.SessionProperties
import RdGateway.Server.WebSocket

/-!
# Sessions over WebSocket

The laws of a session run that the relay builds on, and which frame sequences make
a session open a backend connection.
-/

set_option autoImplicit false

namespace RdGateway.Server

open Wirekit Proto RdGateway.Core GatewaySession

/-! ## Session runs -/

/-- The laws of a session that was fed these messages, continuing after errors. -/
structure SessionLaws (msgs : List TsgMessage) : Prop where
  ordered : controlKinds (accepted (history msgs)) <+: lifecycle
  dataLast : ∀ before data after, accepted (history msgs) = before ++ .data data :: after →
    controlKinds before = lifecycle
  errorsKeep : ∀ exchange ∈ history msgs, ∀ error, exchange.output = .error error →
    exchange.after = exchange.before
  clientName : (sessionAfter msgs).clientName = (accepted (history msgs)).findSome? namedClient
  targetHost : (sessionAfter msgs).targetHost = (accepted (history msgs)).findSome? requestedHost
  targetPort : (sessionAfter msgs).targetPort = (accepted (history msgs)).findSome? requestedPort
  hostWhenTransferring :
    (sessionAfter msgs).targetHost.isSome ↔ (sessionAfter msgs).state = .dataTransfer
  portWhenTransferring :
    (sessionAfter msgs).targetPort.isSome ↔ (sessionAfter msgs).state = .dataTransfer
  fixed : ∀ later,
    ((sessionAfter msgs).clientName.isSome →
      (sessionAfter (msgs ++ later)).clientName = (sessionAfter msgs).clientName) ∧
    ((sessionAfter msgs).targetHost.isSome →
      (sessionAfter (msgs ++ later)).targetHost = (sessionAfter msgs).targetHost) ∧
    ((sessionAfter msgs).targetPort.isSome →
      (sessionAfter (msgs ++ later)).targetPort = (sessionAfter msgs).targetPort)
  answered : ∀ exchange ∈ history msgs, ∀ bytes, exchange.output = .ok (some bytes) →
    Answered exchange.event exchange.after bytes
  channelId : (sessionAfter msgs).state = .dataTransfer →
    (sessionAfter msgs).channelId = 1 ∧
      relayChannelResponse.channelId = some (sessionAfter msgs).channelId

theorem findSome_stays {α : Type} {view : TsgMessage → Option α} {msgs more : List TsgMessage}
    (found : (msgs.findSome? view).isSome) :
    (msgs ++ more).findSome? view = msgs.findSome? view := by
  obtain ⟨value, seen⟩ := Option.isSome_iff_exists.mp found
  rw [List.findSome?_append, seen]
  rfl

theorem session_laws (msgs : List TsgMessage) : SessionLaws msgs := by
  have reached := reached_sessionAfter msgs
  obtain ⟨clientName, targetHost, targetPort, hostIff, portIff⟩ := reached.fields
  refine
    { ordered := reached.controlKinds_prefix
      dataLast := fun before data after split => reached.data_after_lifecycle split
      errorsKeep := ?_, clientName, targetHost, targetPort
      hostWhenTransferring := hostIff, portWhenTransferring := portIff
      fixed := ?_, answered := ?_, channelId := ?_ }
  · intro exchange taken error failed
    rw [mem_exchanges taken] at failed ⊢
    exact processMessage_error failed
  · intro later
    have laterFields := (reached_sessionAfter (msgs ++ later)).fields
    obtain ⟨more, extended⟩ := accepted_history_append msgs later
    rw [extended] at laterFields
    obtain ⟨laterName, laterHost, laterPort, _, _⟩ := laterFields
    rw [laterName, laterHost, laterPort, clientName, targetHost, targetPort]
    exact ⟨findSome_stays, findSome_stays, findSome_stays⟩
  · intro exchange taken bytes replied
    rw [mem_exchanges taken] at replied ⊢
    exact processMessage_answered replied
  · intro transferring
    have one := reached.channelId transferring
    exact ⟨one, by rw [one]; rfl⟩

/-! ## Backend connections -/

/-- The payloads of the binary frames before the first Close or error. -/
def binaryFrames : List WsItem → List Bytes
  | [] => []
  | .binary data :: rest => data :: binaryFrames rest
  | .ping _ :: rest => binaryFrames rest
  | .other :: rest => binaryFrames rest
  | .close :: _ => []
  | .error :: _ => []

def connectionOf (env : SessionEnv) (session : GatewaySession) (sent : Nat) :
    List Bytes → Option (String × UInt16)
  | [] => none
  | data :: rest =>
      match parseMessage data with
      | .ok tsgMsg =>
          match relaysData session tsgMsg with
          | some _ =>
              let target := (session.targetHost.getD "", session.targetPort.getD 3389)
              if env.backendAccepts target.1 target.2 then some target else none
          | none =>
              match session.processMessage tsgMsg with
              | (.ok (some _), session) =>
                  if env.frameSent sent then connectionOf env session (sent + 1) rest else none
              | (.ok none, session) => connectionOf env session sent rest
              | (.error _, _) => none
      | _ => none

theorem sessionLoop_connection (env : SessionEnv) (session : GatewaySession) (sent : List Bytes)
    (items : List WsItem) :
    (sessionLoop env session sent items).connection =
      connectionOf env session sent.length (binaryFrames items) := by
  induction items generalizing session sent with
  | nil => rfl
  | cons item rest ih =>
      cases item with
      | binary data =>
          rw [sessionLoop, binaryFrames, connectionOf]
          cases parseMessage data with
          | err error => rfl
          | panicked => rfl
          | ok tsgMsg =>
              dsimp only
              cases relaysData session tsgMsg with
              | some dataMsg =>
                  dsimp only [startRelay]
                  cases env.backendAccepts (session.targetHost.getD "") (session.targetPort.getD 3389) <;> rfl
              | none =>
                  dsimp only
                  rcases session.processMessage tsgMsg with ⟨_ | _ | response, next⟩
                  · rfl
                  · exact ih next sent
                  · cases env.frameSent sent.length with
                    | false => rfl
                    | true =>
                        have counted : (sent ++ [response]).length = sent.length + 1 := by simp
                        rw [← counted]
                        exact ih next (sent ++ [response])
      | ping data => exact ih session sent
      | other => exact ih session sent
      | close => rfl
      | error => rfl

/-- One round before the relay: the next frame is the next message of the lifecycle. -/
theorem connectionOf_round {env : SessionEnv} {session : GatewaySession} {sent : Nat}
    {frames : List Bytes} {target : String × UInt16} {accepted : List TsgMessage}
    (reached : Reached accepted session) (early : accepted.length < 4)
    (connects : connectionOf env session sent frames = some target) :
    ∃ data rest msg next, frames = data :: rest ∧ parseMessage data = .ok msg ∧
      env.frameSent sent = true ∧ Reached (accepted ++ [msg]) next ∧
      connectionOf env next (sent + 1) rest = some target := by
  have waiting : session.state ≠ .dataTransfer := reached.waiting early
  cases frames with
  | nil => cases connects
  | cons data rest =>
      rw [connectionOf] at connects
      cases received : parseMessage data with
      | err error => simp [received] at connects
      | panicked => simp [received] at connects
      | ok msg =>
          have notRelayed : relaysData session msg = none := by
            cases msg <;> simp [relaysData, isDataTransfer, waiting]
          simp only [received, notRelayed] at connects
          rcases reached.processMessage msg with ⟨error, refused⟩ | ⟨reply, next, granted, extended⟩
          · simp [refused] at connects
          · simp only [granted] at connects
            cases reply with
            | none =>
                have transition := processMessage_transition session msg
                rw [granted] at transition
                cases transition with
                | data req transferring => exact absurd transferring waiting
            | some response =>
                cases goesOut : env.frameSent sent with
                | false => simp [goesOut] at connects
                | true =>
                    simp only [goesOut, if_true] at connects
                    exact ⟨data, rest, msg, next, rfl, received, rfl, extended, connects⟩

/-- The first five binary frames are the four steps of the lifecycle and Data, for
this target. -/
def RequestsRelay (items : List WsItem) (host : String) (port : UInt16) : Prop :=
  ∃ req create auth channel data,
    ((binaryFrames items).take 5).map parseMessage =
      [.ok (.handshakeRequest req), .ok (.tunnelCreate create), .ok (.tunnelAuth auth),
        .ok (.channelCreate channel), .ok (.data data)] ∧
      channel.serverName = host ∧ channel.port = port

/-- The network lets the four replies out and the backend accepts the connection. -/
def NetworkAllows (env : SessionEnv) (host : String) (port : UInt16) : Prop :=
  (∀ sent < 4, env.frameSent sent = true) ∧ env.backendAccepts host port = true

theorem requestsRelay_of_connection {state : AppState} {username : String} {env : SessionEnv}
    {items : List WsItem} {host : String} {port : UInt16}
    (connects : (handleWsSession state username env items).connection = some (host, port)) :
    RequestsRelay items host port ∧ NetworkAllows env host port := by
  rw [handleWsSession, sessionLoop_connection] at connects
  obtain ⟨data0, rest0, msg0, next0, frames0, parsed0, sent0, reached0, connects⟩ :=
    connectionOf_round .fresh (by decide) connects
  obtain ⟨data1, rest1, msg1, next1, rfl, parsed1, sent1, reached1, connects⟩ :=
    connectionOf_round reached0 (by simp) connects
  obtain ⟨data2, rest2, msg2, next2, rfl, parsed2, sent2, reached2, connects⟩ :=
    connectionOf_round reached1 (by simp) connects
  obtain ⟨data3, rest3, msg3, next3, rfl, parsed3, sent3, reached3, connects⟩ :=
    connectionOf_round reached2 (by simp) connects
  obtain ⟨req, create, auth, channel, messages, session⟩ := reached3.four rfl
  obtain ⟨rfl, rfl, rfl, rfl⟩ := messages
  subst session
  cases rest3 with
  | nil => cases connects
  | cons data4 rest4 =>
      rw [connectionOf] at connects
      cases parsed4 : parseMessage data4 with
      | err error => simp [parsed4] at connects
      | panicked => simp [parsed4] at connects
      | ok msg =>
          cases msg with
          | data data =>
              simp only [parsed4, relaysData, isDataTransfer, decide_true, if_true,
                Option.getD_some] at connects
              cases accepts : env.backendAccepts channel.serverName channel.port with
              | false => simp [accepts] at connects
              | true =>
                  simp only [accepts, if_true, Option.some.injEq, Prod.mk.injEq] at connects
                  obtain ⟨rfl, rfl⟩ := connects
                  refine ⟨⟨req, create, auth, channel, data, ?_, rfl, rfl⟩, ?_, accepts⟩
                  · simp [frames0, parsed0, parsed1, parsed2, parsed3, parsed4]
                  · intro sent below
                    match sent, below with
                    | 0, _ => exact sent0
                    | 1, _ => exact sent1
                    | 2, _ => exact sent2
                    | 3, _ => exact sent3
          | _ => simp [parsed4, relaysData, processMessage] at connects

theorem connection_of_requestsRelay {state : AppState} {username : String} {env : SessionEnv}
    {items : List WsItem} {host : String} {port : UInt16}
    (requests : RequestsRelay items host port) (network : NetworkAllows env host port) :
    (handleWsSession state username env items).connection = some (host, port) := by
  obtain ⟨req, create, auth, channel, data, parsed, rfl, rfl⟩ := requests
  obtain ⟨goesOut, accepts⟩ := network
  rw [handleWsSession, sessionLoop_connection]
  generalize binaryFrames items = frames at parsed ⊢
  rcases frames with _ | ⟨f0, _ | ⟨f1, _ | ⟨f2, _ | ⟨f3, _ | ⟨f4, rest⟩⟩⟩⟩⟩
  · simp at parsed
  · simp at parsed
  · simp at parsed
  · simp at parsed
  · simp at parsed
  · simp only [List.take_succ_cons, List.take_zero, List.map_cons, List.map_nil, List.cons.injEq,
      and_true] at parsed
    obtain ⟨parsed0, parsed1, parsed2, parsed3, parsed4⟩ := parsed
    simp [connectionOf, parsed0, parsed1, parsed2, parsed3, parsed4, relaysData, isDataTransfer,
      GatewaySession.new, processMessage, goesOut, accepts]

/-! ## Access control -/

def Authorised (db : DbProvider) (username host : String) (port : UInt16) : Prop :=
  ∃ user groups engine, db.getUserByUsername username = .ok (some user) ∧
    db.getUserGroups user.id = .ok groups ∧ AclEngine.fromDb db = .ok engine ∧
    engine.checkAccess user.id (groups.map (·.id)) host port = .allow

/-- A session consults no rule: its backend connection is authorised exactly when the
rules happen to allow every target that its frames can ask for. -/
theorem connection_authorised_iff (state : AppState) (username : String) (env : SessionEnv)
    (items : List WsItem) :
    (∀ host port, (handleWsSession state username env items).connection = some (host, port) →
      Authorised state.db username host port) ↔
    (∀ host port, RequestsRelay items host port → NetworkAllows env host port →
      Authorised state.db username host port) := by
  constructor
  · intro authorised host port requests network
    exact authorised host port (connection_of_requestsRelay requests network)
  · intro covered host port connects
    obtain ⟨requests, network⟩ := requestsRelay_of_connection connects
    exact covered host port requests network

def walkThrough : List WsItem :=
  [.binary (HandshakeRequest.write
      { majorVersion := 1, minorVersion := 0, clientVersion := 0, extAuth := 0 }),
    .binary (TunnelCreate.write
      { capsFlags := 0, fieldsPresent := 0, reserved := 0, paaCookie := none }),
    .binary (TunnelAuth.write { fieldsPresent := 0, clientName := "PC" }),
    .binary (ChannelCreate.write
      { numResources := 1, numAltResources := 0, port := 3389, protocol := 3, serverName := "srv" }),
    .binary (DataMessage.write [1, 0, 7])]

/-- With no rule at all, where everything is denied, the backend connection is opened. -/
theorem connection_without_any_rule :
    ¬ ∀ (state : AppState) (username : String) (env : SessionEnv) (items : List WsItem)
      (host : String) (port : UInt16),
      (handleWsSession state username env items).connection = some (host, port) →
        Authorised state.db username host port := by
  intro authorised
  let alice : User :=
    { id := 1, username := "alice", ntHash := [], enabled := true, passwordHash := none }
  let state : AppState :=
    { serverName := "gw", auth := { spn := none, keytabPath := none, openMode := false }
      db := { getUserByUsername := fun _ => .ok (some alice), getUserGroups := fun _ => .ok []
              getAclRules := .ok [] } }
  let env : SessionEnv :=
    { frameSent := fun _ => true, backendAccepts := fun _ _ => true, initialWriteOk := true }
  have requests : RequestsRelay walkThrough "srv" 3389 :=
    ⟨{ majorVersion := 1, minorVersion := 0, clientVersion := 0, extAuth := 0 },
      { capsFlags := 0, fieldsPresent := 0, reserved := 0, paaCookie := none },
      { fieldsPresent := 0, clientName := "PC" },
      { numResources := 1, numAltResources := 0, port := 3389, protocol := 3, serverName := "srv" },
      { data := [1, 0, 7] }, by decide, rfl, rfl⟩
  have connects : (handleWsSession state "alice" env walkThrough).connection = some ("srv", 3389) :=
    connection_of_requestsRelay requests ⟨fun _ _ => rfl, rfl⟩
  obtain ⟨user, groups, engine, _, _, loaded, allowed⟩ :=
    authorised state "alice" env walkThrough "srv" 3389 connects
  have noRules : AclEngine.fromDb state.db = .ok { rules := [] } := by
    simp [state, AclEngine.fromDb, sortedRules, bind, Except.bind, pure, Except.pure]
  rw [noRules] at loaded
  cases loaded
  cases allowed

end RdGateway.Server
