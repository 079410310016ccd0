import RdGateway.Core.Session
import RdGateway.Proto.MessagesProperties

/-!
# What a session has accepted

Each state of a session is reached by one order of messages only, and it fixes
every field of the session. All laws about whole runs are read off this relation.
-/

set_option autoImplicit false

namespace RdGateway.Core

open Wirekit Proto

namespace GatewaySession

inductive Transition (self : GatewaySession) :
    TsgMessage → Except SessionError (Option Bytes) × GatewaySession → Prop where
  | handshake (req : HandshakeRequest) (waiting : self.state = .awaitingHandshake) :
      Transition self (.handshakeRequest req)
        (.ok (some (handshakeReply req).write), { self with state := .awaitingTunnelCreate })
  | tunnelCreate (req : TunnelCreate) (waiting : self.state = .awaitingTunnelCreate) :
      Transition self (.tunnelCreate req)
        (.ok (some (tunnelReply self.nextTunnelId).write),
          { self with
            tunnelId := self.nextTunnelId
            nextTunnelId := self.nextTunnelId + 1
            state := .awaitingTunnelAuth })
  | tunnelAuth (req : TunnelAuth) (waiting : self.state = .awaitingTunnelAuth) :
      Transition self (.tunnelAuth req)
        (.ok (some tunnelAuthReply.write),
          { self with
            clientName := some req.clientName
            state := .awaitingChannelCreate })
  | channelCreate (req : ChannelCreate) (waiting : self.state = .awaitingChannelCreate) :
      Transition self (.channelCreate req)
        (.ok (some (channelReply self.nextChannelId).write),
          { self with
            targetHost := some req.serverName
            targetPort := some req.port
            channelId := self.nextChannelId
            nextChannelId := self.nextChannelId + 1
            state := .dataTransfer })
  | data (req : DataMessage) (transferring : self.state = .dataTransfer) :
      Transition self (.data req) (.ok none, self)
  | refused (msg : TsgMessage) :
      Transition self msg (.error (.unexpectedMessage (messageCode msg) self.state), self)

theorem processMessage_transition (self : GatewaySession) (msg : TsgMessage) :
    Transition self msg (self.processMessage msg) := by
  unfold processMessage
  split
  · next req waiting => exact .handshake req waiting
  · next req waiting => exact .tunnelCreate req waiting
  · next req waiting => exact .tunnelAuth req waiting
  · next req waiting => exact .channelCreate req waiting
  · next req transferring => exact .data req transferring
  · exact .refused _

theorem processMessage_error {self : GatewaySession} {msg : TsgMessage} {error : SessionError}
    (refused : (self.processMessage msg).1 = .error error) : (self.processMessage msg).2 = self := by
  have transition := processMessage_transition self msg
  generalize self.processMessage msg = result at transition refused
  cases transition <;> first | rfl | cases refused

theorem tunnelCreate_after_handshake {self shaken : GatewaySession} {req : HandshakeRequest}
    {reply : Option Bytes} (accepted : self.processMessage (.handshakeRequest req) = (.ok reply, shaken))
    (create : TunnelCreate) : ∃ answer, (shaken.processMessage (.tunnelCreate create)).1 = .ok answer := by
  have transition := processMessage_transition self (.handshakeRequest req)
  rw [accepted] at transition
  cases transition
  exact ⟨_, rfl⟩

/-! ## Replies -/

/-- The bytes are the reply of the step that left `after`, and they grant it. -/
def Answered (msg : TsgMessage) (after : GatewaySession) (bytes : Bytes) : Prop :=
  match msg with
  | .handshakeRequest _ =>
      ∃ response, parseMessage bytes = .ok (.handshakeResponse response) ∧ response.errorCode = 0
  | .tunnelCreate _ =>
      ∃ response, parseMessage bytes = .ok (.tunnelResponse response) ∧ response.errorCode = 0 ∧
        response.tunnelId = some after.tunnelId
  | .tunnelAuth _ =>
      ∃ response, parseMessage bytes = .ok (.tunnelAuthResponse response) ∧ response.errorCode = 0
  | .channelCreate _ =>
      ∃ response, parseMessage bytes = .ok (.channelResponse response) ∧ response.errorCode = 0 ∧
        response.channelId = some after.channelId
  | _ => False

theorem handshakeReply_parse (req : HandshakeRequest) :
    parseMessage (handshakeReply req).write = .ok (.handshakeResponse (handshakeReply req)) := by
  have framed := (handshakeReply req).write_framed
  refine List.append_nil (handshakeReply req).write ▸ (framed.parseMessage (fun payload parsed => ?_) []).1
  simp [parsePayload, parsed]

theorem tunnelReply_parse (tunnelId : UInt32) :
    parseMessage (tunnelReply tunnelId).write = .ok (.tunnelResponse (tunnelReply tunnelId)) := by
  have tunnelIdAnnounced : Announced (tunnelReply tunnelId).fieldsPresent
      httpTunnelResponseFieldTunnelId (tunnelReply tunnelId).tunnelId :=
    iff_of_true (show (httpTunnelResponseFieldTunnelId ||| httpTunnelResponseFieldCaps) &&& _ ≠ 0
      by decide) rfl
  have capsAnnounced : Announced (tunnelReply tunnelId).fieldsPresent
      httpTunnelResponseFieldCaps (tunnelReply tunnelId).caps :=
    iff_of_true (show (httpTunnelResponseFieldTunnelId ||| httpTunnelResponseFieldCaps) &&& _ ≠ 0
      by decide) rfl
  have framed := TunnelResponse.write_framed tunnelIdAnnounced capsAnnounced
  refine List.append_nil (tunnelReply tunnelId).write ▸
    (framed.parseMessage (fun payload parsed => ?_) []).1
  simp [parsePayload, parsed]

theorem tunnelAuthReply_parse :
    parseMessage tunnelAuthReply.write = .ok (.tunnelAuthResponse tunnelAuthReply) := by
  have framed := tunnelAuthReply.write_framed
  refine List.append_nil tunnelAuthReply.write ▸ (framed.parseMessage (fun payload parsed => ?_) []).1
  simp [parsePayload, parsed, tunnelAuthReply]

theorem channelReply_framed (channelId : UInt32) :
    Framed .channelResponse ChannelResponse.parse (channelReply channelId).write
      (channelReply channelId) := by
  refine ChannelResponse.write_framed ?_ ?_ ?_ ?_
  · exact iff_of_true (show httpChannelResponseFieldChannelid &&& _ ≠ 0 by decide) rfl
  · exact iff_of_false (show ¬ httpChannelResponseFieldChannelid &&& _ ≠ 0 by decide) Bool.false_ne_true
  · exact iff_of_false (show ¬ httpChannelResponseFieldChannelid &&& _ ≠ 0 by decide) Bool.false_ne_true
  · intro cookie present
    cases present

theorem channelReply_parse (channelId : UInt32) :
    parseMessage (channelReply channelId).write = .ok (.channelResponse (channelReply channelId)) := by
  have framed := channelReply_framed channelId
  refine List.append_nil (channelReply channelId).write ▸
    (framed.parseMessage (fun payload parsed => ?_) []).1
  simp [parsePayload, parsed]

theorem processMessage_answered {self : GatewaySession} {msg : TsgMessage} {bytes : Bytes}
    (replied : (self.processMessage msg).1 = .ok (some bytes)) :
    Answered msg (self.processMessage msg).2 bytes := by
  have transition := processMessage_transition self msg
  generalize self.processMessage msg = result at transition replied
  cases transition with
  | handshake req waiting =>
      cases replied
      exact ⟨_, handshakeReply_parse req, rfl⟩
  | tunnelCreate req waiting =>
      cases replied
      exact ⟨_, tunnelReply_parse _, rfl, rfl⟩
  | tunnelAuth req waiting =>
      cases replied
      exact ⟨_, tunnelAuthReply_parse, rfl⟩
  | channelCreate req waiting =>
      cases replied
      exact ⟨_, channelReply_parse _, rfl, rfl⟩
  | data req transferring => cases replied
  | refused msg => cases replied

/-! ## Runs -/

/-- The session that has accepted exactly these messages, in this order. -/
inductive Reached : List TsgMessage → GatewaySession → Prop where
  | fresh : Reached [] GatewaySession.new
  | handshaken (req : HandshakeRequest) :
      Reached [.handshakeRequest req] { GatewaySession.new with state := .awaitingTunnelCreate }
  | tunnelled (req : HandshakeRequest) (create : TunnelCreate) :
      Reached [.handshakeRequest req, .tunnelCreate create]
        { GatewaySession.new with state := .awaitingTunnelAuth, tunnelId := 1, nextTunnelId := 2 }
  | authorized (req : HandshakeRequest) (create : TunnelCreate) (auth : TunnelAuth) :
      Reached [.handshakeRequest req, .tunnelCreate create, .tunnelAuth auth]
        { GatewaySession.new with
          state := .awaitingChannelCreate, tunnelId := 1, nextTunnelId := 2
          clientName := some auth.clientName }
  | transferring (req : HandshakeRequest) (create : TunnelCreate) (auth : TunnelAuth)
      (channel : ChannelCreate) (data : List DataMessage) :
      Reached ([.handshakeRequest req, .tunnelCreate create, .tunnelAuth auth,
          .channelCreate channel] ++ data.map .data)
        { state := .dataTransfer, tunnelId := 1, channelId := 1
          clientName := some auth.clientName, targetHost := some channel.serverName
          targetPort := some channel.port, nextTunnelId := 2, nextChannelId := 2 }

/-- A message is either refused, and changes nothing, or it is the next accepted one. -/
theorem Reached.processMessage {accepted : List TsgMessage} {session : GatewaySession}
    (reached : Reached accepted session) (msg : TsgMessage) :
    (∃ error, session.processMessage msg = (.error error, session)) ∨
      ∃ reply next, session.processMessage msg = (.ok reply, next) ∧
        Reached (accepted ++ [msg]) next := by
  have transition := processMessage_transition session msg
  generalize session.processMessage msg = result at transition
  cases transition with
  | refused msg => exact .inl ⟨_, rfl⟩
  | handshake req waiting =>
      cases reached with
      | fresh => exact .inr ⟨_, _, rfl, .handshaken req⟩
      | _ => cases waiting
  | tunnelCreate create waiting =>
      cases reached with
      | handshaken req => exact .inr ⟨_, _, rfl, .tunnelled req create⟩
      | _ => cases waiting
  | tunnelAuth auth waiting =>
      cases reached with
      | tunnelled req create => exact .inr ⟨_, _, rfl, .authorized req create auth⟩
      | _ => cases waiting
  | channelCreate channel waiting =>
      cases reached with
      | authorized req create auth =>
          exact .inr ⟨_, _, rfl, .transferring req create auth channel []⟩
      | _ => cases waiting
  | data message waiting =>
      cases reached with
      | transferring req create auth channel data =>
          have extended := Reached.transferring req create auth channel (data ++ [message])
          rw [List.map_append, ← List.append_assoc] at extended
          exact .inr ⟨_, _, rfl, extended⟩
      | _ => cases waiting

abbrev SessionExchange :=
  Exchange GatewaySession TsgMessage (Except SessionError (Option Bytes))

def accepted (history : List SessionExchange) : List TsgMessage :=
  (history.filter (·.output.isOk)).map (·.event)

/-- Feed messages to a fresh session, continuing after errors. -/
def history (msgs : List TsgMessage) : List SessionExchange :=
  exchanges GatewaySession.processMessage GatewaySession.new msgs

def sessionAfter (msgs : List TsgMessage) : GatewaySession :=
  stateAfter GatewaySession.processMessage GatewaySession.new msgs

theorem reached_sessionAfter (msgs : List TsgMessage) :
    Reached (accepted (history msgs)) (sessionAfter msgs) := by
  refine history_invariant (fun past session => Reached (accepted past) session) .fresh
    (fun past session msg reached => ?_) msgs
  rcases reached.processMessage msg with ⟨error, refused⟩ | ⟨reply, next, granted, extended⟩
  · have unchanged : accepted (past ++ [Exchange.of GatewaySession.processMessage session msg]) =
        accepted past := by
      simp [accepted, Exchange.of, refused, Except.isOk, Except.toBool]
    rw [unchanged, refused]
    exact reached
  · have grown : accepted (past ++ [Exchange.of GatewaySession.processMessage session msg]) =
        accepted past ++ [msg] := by
      simp [accepted, Exchange.of, granted, Except.isOk, Except.toBool]
    rw [grown, granted]
    exact extended

/-! ## What the accepted messages determine -/

def kind : TsgMessage → Option MessageType
  | .handshakeRequest _ => some .handshakeRequest
  | .handshakeResponse _ => some .handshakeResponse
  | .tunnelCreate _ => some .tunnelCreate
  | .tunnelResponse _ => some .tunnelResponse
  | .tunnelAuth _ => some .tunnelAuth
  | .tunnelAuthResponse _ => some .tunnelAuthResponse
  | .channelCreate _ => some .channelCreate
  | .channelResponse _ => some .channelResponse
  | .data _ => some .data
  | .keepalive => some .keepalive
  | .closeChannel _ => some .closeChannel
  | .closeChannelResponse _ => some .closeChannelResponse
  | .unknown _ _ => none

def lifecycle : List (Option MessageType) :=
  [some .handshakeRequest, some .tunnelCreate, some .tunnelAuth, some .channelCreate]

/-- The kinds of the messages other than Data, in order. -/
def controlKinds (msgs : List TsgMessage) : List (Option MessageType) :=
  (msgs.map kind).filter (· ≠ some .data)

def namedClient : TsgMessage → Option String
  | .tunnelAuth auth => some auth.clientName
  | _ => none

def requestedHost : TsgMessage → Option String
  | .channelCreate channel => some channel.serverName
  | _ => none

def requestedPort : TsgMessage → Option UInt16
  | .channelCreate channel => some channel.port
  | _ => none

theorem controlKinds_append (first second : List TsgMessage) :
    controlKinds (first ++ second) = controlKinds first ++ controlKinds second := by
  simp [controlKinds]

theorem controlKinds_data (data : List DataMessage) : controlKinds (data.map .data) = [] := by
  simp [controlKinds, kind]

theorem Reached.controlKinds_prefix {accepted : List TsgMessage} {session : GatewaySession}
    (reached : Reached accepted session) : controlKinds accepted <+: lifecycle := by
  cases reached with
  | transferring req create auth channel data =>
      rw [controlKinds_append, controlKinds_data]
      exact List.prefix_rfl
  | fresh => exact List.take_prefix 0 lifecycle
  | handshaken req => exact List.take_prefix 1 lifecycle
  | tunnelled req create => exact List.take_prefix 2 lifecycle
  | authorized req create auth => exact List.take_prefix 3 lifecycle

/-- Data is accepted behind the whole lifecycle only. -/
theorem Reached.data_after_lifecycle {accepted before after : List TsgMessage} {data : DataMessage}
    {session : GatewaySession} (reached : Reached accepted session)
    (split : accepted = before ++ .data data :: after) : controlKinds before = lifecycle := by
  cases reached with
  | transferring req create auth channel messages =>
      rcases List.append_eq_append_iff.mp split with ⟨more, front, back⟩ | ⟨more, front, back⟩
      · rw [front, controlKinds_append]
        have onlyData : controlKinds (more ++ .data data :: after) = [] := by
          rw [← back, controlKinds_data]
        rw [controlKinds_append] at onlyData
        rw [(List.append_eq_nil_iff.mp onlyData).1]
        rfl
      · cases more with
        | nil =>
            rw [List.append_nil] at front
            rw [← front]
            rfl
        | cons head tail =>
            have first : TsgMessage.data data = head := (List.cons.inj back).1
            have member : head ∈ before ++ head :: tail := by simp
            rw [← front, ← first] at member
            simp at member
  | fresh => simp at split
  | handshaken req =>
      have member : TsgMessage.data data ∈ before ++ .data data :: after := by simp
      rw [← split] at member
      simp at member
  | tunnelled req create =>
      have member : TsgMessage.data data ∈ before ++ .data data :: after := by simp
      rw [← split] at member
      simp at member
  | authorized req create auth =>
      have member : TsgMessage.data data ∈ before ++ .data data :: after := by simp
      rw [← split] at member
      simp at member

/-- The fields that the relay reads are those of the accepted messages, and they are
there exactly in the states that need them. -/
theorem Reached.fields {accepted : List TsgMessage} {session : GatewaySession}
    (reached : Reached accepted session) :
    session.clientName = accepted.findSome? namedClient ∧
      session.targetHost = accepted.findSome? requestedHost ∧
      session.targetPort = accepted.findSome? requestedPort ∧
      (session.targetHost.isSome ↔ session.state = .dataTransfer) ∧
      (session.targetPort.isSome ↔ session.state = .dataTransfer) := by
  cases reached <;> refine ⟨rfl, rfl, rfl, ?_, ?_⟩ <;> simp [GatewaySession.new]

theorem Reached.channelId {accepted : List TsgMessage} {session : GatewaySession}
    (reached : Reached accepted session) (transferring : session.state = .dataTransfer) :
    session.channelId = 1 := by
  cases reached <;> first | rfl | cases transferring

theorem Reached.waiting {accepted : List TsgMessage} {session : GatewaySession}
    (reached : Reached accepted session) (early : accepted.length < 4) :
    session.state ≠ .dataTransfer := by
  cases reached with
  | transferring req create auth channel data =>
      simp only [List.length_append, List.length_cons, List.length_nil] at early
      omega
  | _ => exact SessionState.noConfusion

theorem Reached.four {first second third fourth : TsgMessage} {accepted : List TsgMessage}
    {session : GatewaySession} (reached : Reached accepted session)
    (listed : accepted = [first, second, third, fourth]) :
    ∃ req create auth channel,
      (.handshakeRequest req = first ∧ .tunnelCreate create = second ∧ .tunnelAuth auth = third ∧
        .channelCreate channel = fourth) ∧
      session =
        { state := .dataTransfer, tunnelId := 1, channelId := 1
          clientName := some auth.clientName, targetHost := some channel.serverName
          targetPort := some channel.port, nextTunnelId := 2, nextChannelId := 2 } := by
  cases reached with
  | transferring req create auth channel data =>
      simp only [List.cons_append, List.nil_append, List.cons.injEq] at listed
      obtain ⟨rfl, rfl, rfl, rfl, _⟩ := listed
      exact ⟨req, create, auth, channel, ⟨rfl, rfl, rfl, rfl⟩, rfl⟩
  | _ => cases listed

theorem accepted_history_append (msgs later : List TsgMessage) :
    ∃ more, accepted (history (msgs ++ later)) = accepted (history msgs) ++ more := by
  rw [history, exchanges_append, accepted, List.filter_append, List.map_append]
  exact ⟨_, rfl⟩

end GatewaySession

end RdGateway.Core
