import RdGateway.Server.RelayEcho

/-!
# What the client gets over the WebSocket

Each frame that a session sends is one whole TSG message, before the relay and in it. Data
messages carry what the backend sent, and every other message is a reply or a response.
-/

set_option autoImplicit false

namespace RdGateway.Server

open Wirekit Proto RdGateway.Core GatewaySession SessionPhase

/-- The frame is one message, from its first byte to its last. -/
structure OneMessage (frame : Bytes) : Prop where
  length : messageLength frame = .ok frame.length
  message : ∃ msg, decodeWsMessage frame = .ok msg

/-- One message that carries no data of the backend. -/
structure ControlFrame (frame : Bytes) : Prop where
  length : messageLength frame = .ok frame.length
  message : ∃ msg, decodeWsMessage frame = .ok msg ∧ ∀ data, msg ≠ .data data

theorem ControlFrame.oneMessage {frame : Bytes} (control : ControlFrame frame) : OneMessage frame := by
  obtain ⟨length, msg, decoded, _⟩ := control
  exact ⟨length, msg, decoded⟩

theorem CarriesRead.oneMessage {data frame : Bytes} (carries : CarriesRead data frame) : OneMessage frame := by
  obtain ⟨d, decoded, length, _⟩ := carries
  exact ⟨length, _, decoded⟩

theorem messageLength_of_header {frame : Bytes}
    (read : ∃ header, MessageHeader.parse frame = .ok header ∧ header.length.toNat = frame.length) :
    messageLength frame = .ok frame.length := by
  obtain ⟨header, parsed, sized⟩ := read
  rw [messageLength, parsed, Outcome.ok_bind, Outcome.pure_eq, sized]

theorem messageLength_of_framed {α : Type} {type : MessageType} {parse : Bytes → Outcome MessageError α}
    {bytes : Bytes} {msg : α} (framed : Framed type parse bytes msg) :
    messageLength bytes = .ok bytes.length := by
  obtain ⟨payload, rfl, fits, _⟩ := framed
  obtain ⟨header, parsed, _, sized⟩ := frame_header type.toU16 0 fits []
  rw [List.append_nil] at parsed
  exact messageLength_of_header ⟨header, parsed, sized⟩

/-! ## Before the relay -/

theorem tunnelReply_framed (tunnelId : UInt32) :
    Framed .tunnelResponse TunnelResponse.parse (tunnelReply tunnelId).write
      (tunnelReply tunnelId) := by
  refine TunnelResponse.write_framed ?_ ?_
  · exact iff_of_true (show (_ ||| _) &&& httpTunnelResponseFieldTunnelId ≠ 0 by decide) rfl
  · exact iff_of_true (show (_ ||| _) &&& httpTunnelResponseFieldCaps ≠ 0 by decide) rfl

theorem processMessage_control {session : GatewaySession} {msg : TsgMessage} {response : Bytes}
    (replied : (session.processMessage msg).1 = .ok (some response)) : ControlFrame response := by
  have transition := processMessage_transition session msg
  generalize session.processMessage msg = result at transition replied
  cases transition with
  | handshake req waiting =>
      cases replied
      exact ⟨messageLength_of_framed (handshakeReply req).write_framed, _, handshakeReply_parse req,
        fun _ => TsgMessage.noConfusion⟩
  | tunnelCreate req waiting =>
      cases replied
      exact ⟨messageLength_of_framed (tunnelReply_framed _), _, tunnelReply_parse _,
        fun _ => TsgMessage.noConfusion⟩
  | tunnelAuth req waiting =>
      cases replied
      exact ⟨messageLength_of_framed tunnelAuthReply.write_framed, _, tunnelAuthReply_parse,
        fun _ => TsgMessage.noConfusion⟩
  | channelCreate req waiting =>
      cases replied
      exact ⟨messageLength_of_framed (channelReply_framed _), _, channelReply_parse _,
        fun _ => TsgMessage.noConfusion⟩
  | data req transferring => cases replied
  | refused msg => cases replied

theorem serveControl_control (session : GatewaySession) (input : RelayInput) :
    ∀ response ∈ (serveControl session input).1, ControlFrame response := by
  intro response member
  unfold serveControl at member
  split at member
  · cases member
  · cases member
  · cases member
  · cases member
  · next data =>
    split at member
    · cases member
    · cases member
    · next tsgMsg =>
      unfold serveMessage at member
      split at member
      · cases member
      · split at member
        · next reply next replied =>
          split at member
          · cases List.mem_singleton.mp member
            exact processMessage_control (congrArg Prod.fst replied)
          · cases member
        · cases member
        · cases member

/-! ## In the relay -/

theorem inPipeSetupAck_control {payload : Bytes} (fits : headerSize + payload.length < 2 ^ 32) :
    ControlFrame (inPipeSetupAck typeInPipeSetup payload) := by
  rw [inPipeSetupAck_eq_frame]
  have decoded := @parseMessage_frame typeInPipeSetup 0 payload fits []
  obtain ⟨header, parsed, _, sized⟩ := frame_header typeInPipeSetup 0 fits []
  rw [List.append_nil] at decoded parsed
  exact ⟨messageLength_of_header ⟨header, parsed, sized⟩, _, decoded, fun _ => TsgMessage.noConfusion⟩

theorem writeKeepalive_control : ControlFrame writeKeepalive :=
  ⟨rfl, .keepalive, rfl, fun _ => TsgMessage.noConfusion⟩

theorem writeCloseChannelResponse_control : ControlFrame writeCloseChannelResponse :=
  ⟨rfl, .closeChannelResponse [], rfl, fun _ => TsgMessage.noConfusion⟩

theorem relayChannelResponse_control : ControlFrame relayChannelResponse.write :=
  ⟨messageLength_of_framed (channelReply_framed 1), _, channelReply_parse 1, fun _ => TsgMessage.noConfusion⟩

theorem serveRelay_control (task : WsToTcp) (input : RelayInput) :
    ∀ response ∈ (serveRelay task input).1, ControlFrame response := by
  intro response member
  change response ∈ (task.handleItem input).2.queued.drop task.queued.length at member
  have silent {other : WsToTcp} (same : other.queued = task.queued)
      (member : response ∈ other.queued.drop task.queued.length) : ControlFrame response := by
    rw [same, List.drop_length] at member
    cases member
  have sent {frame : Bytes} (control : ControlFrame frame)
      (member : response ∈ (task.send input.ioOk frame).queued.drop task.queued.length) :
      ControlFrame response := by
    rw [drop_send, RelayInput.attempt] at member
    split at member
    · cases List.mem_singleton.mp member
      exact control
    · cases member
  cases message : parsed input.item with
  | none =>
      rw [handleItem_unparsed task message] at member
      exact silent rfl member
  | some msg =>
      rw [handleItem_message task message] at member
      cases msg with
      | keepalive => exact sent writeKeepalive_control member
      | closeChannel payload => exact sent writeCloseChannelResponse_control member
      | channelCreate req => exact sent relayChannelResponse_control member
      | unknown msgType payload =>
          rw [WsToTcp.handleMessage] at member
          split at member
          · next setup =>
            subst setup
            obtain ⟨data, _, decoded⟩ := parsed_eq_some.mp message
            obtain ⟨header, rest, _, _, whole, held, rfl⟩ := parseMessage_unknown decoded
            refine sent (inPipeSetupAck_control ?_) member
            have bounded := header.length.toNat_lt
            rw [List.length_take]
            omega
          · exact silent rfl member
      | data d =>
          have kept : (task.handleMessage input.ioOk (.data d)).2.queued = task.queued := by
            unfold WsToTcp.handleMessage
            dsimp only
            split
            · rfl
            · split <;> rfl
          exact silent kept member
      | _ => exact silent rfl member

/-! ## Whole sessions -/

theorem replies_control (phase : SessionPhase) (inputs : List RelayInput) :
    ∀ response ∈ phase.replies inputs, ControlFrame response := by
  induction inputs generalizing phase with
  | nil => exact List.forall_mem_nil _
  | cons input rest ih =>
      rw [replies_cons]
      refine List.forall_mem_append.mpr ⟨?_, ih _⟩
      cases phase with
      | control session => exact serveControl_control session input
      | relaying task => exact serveRelay_control task input
      | ended error => exact List.forall_mem_nil _

/-- What waits in the queue and what has gone out. -/
def TcpToWs.Carries (P : Bytes → Prop) (self : TcpToWs) : Prop :=
  (∀ response ∈ self.control, P response) ∧ ∀ frame ∈ self.frames, P frame

theorem TcpToWs.Carries.send {P : Bytes → Prop} {self : TcpToWs} (carries : self.Carries P) {frame : Bytes}
    (holds : P frame) (ok : Bool) : (self.send ok frame).Carries P := by
  unfold TcpToWs.send
  split
  · exact ⟨carries.1, List.forall_mem_append.mpr ⟨carries.2, List.forall_mem_singleton.mpr holds⟩⟩
  · exact carries

/-- Nothing goes out but what the other task queued and frames that carry a read. -/
theorem TcpToWs.Step.carries {P : Bytes → Prop} {self next : TcpToWs} {label : RelayLabel}
    (taken : TcpToWs.Step self label next)
    (reads : ∀ data, data.length ≤ readBufferSize → P (encodeDataMessage data))
    (enqueues : ∀ response, label = .enqueue response → P response) (carries : self.Carries P) :
    next.Carries P := by
  obtain ⟨control, frames⟩ := carries
  cases taken with
  | enqueue response running room =>
      exact ⟨List.forall_mem_append.mpr ⟨control, List.forall_mem_singleton.mpr (enqueues response rfl)⟩, frames⟩
  | @read data rest ok running nonempty fits available =>
      have kept : TcpToWs.Carries P { self with unread := rest } := ⟨control, frames⟩
      exact kept.send (reads data fits) ok
  | @recv response rest ok running queued =>
      rw [queued] at control
      obtain ⟨first, later⟩ := List.forall_mem_cons.mp control
      have kept : TcpToWs.Carries P { self with control := rest } := ⟨later, frames⟩
      exact kept.send first ok
  | readEnds running => exact ⟨control, frames⟩

/-- Every frame of a session is one whole message, whatever the client and the backend send,
whichever sends fail and however the two relay tasks take turns. -/
theorem every_frame_one_message (state : AppState) (username : String) (env : SessionEnv) (items : List WsItem) :
    (∀ frame ∈ (handleWsSession state username env items).sent, OneMessage frame) ∧
      ∀ inputs stream labels self, Steps TcpToWs.Step (.start stream) labels self →
        labels.filterMap TcpToWs.enqueued <+: (WsToTcp.start.run inputs).queued →
        ∀ frame ∈ self.frames, OneMessage frame := by
  constructor
  · obtain ⟨inputs, rest, _, sent, _⟩ := sessionLoop_served env GatewaySession.new [] items
    intro frame member
    change frame ∈ (sessionLoop env GatewaySession.new [] items).sent at member
    rw [sent] at member
    exact (replies_control _ inputs frame member).oneMessage
  · intro inputs stream labels self run queued
    have responses : ∀ response ∈ labels.filterMap TcpToWs.enqueued, OneMessage response := by
      intro response member
      have among := queued.subset member
      rw [run_served] at among
      exact (replies_control _ inputs response among).oneMessage
    have reads (data : Bytes) (fits : data.length ≤ readBufferSize) : OneMessage (encodeDataMessage data) :=
      (encodeDataMessage_carries fits).oneMessage
    suffices carries : self.Carries OneMessage from carries.2
    clear queued
    induction run with
    | start => exact ⟨List.forall_mem_nil _, List.forall_mem_nil _⟩
    | @step labels self label next run taken ih =>
        rw [List.filterMap_append] at responses
        obtain ⟨earlier, last⟩ := List.forall_mem_append.mp responses
        refine taken.carries reads (fun response enqueues => last response ?_) (ih earlier)
        rw [enqueues]
        exact List.mem_cons_self

def gatewayState : AppState where
  serverName := "gw"
  auth := { spn := none, keytabPath := none, openMode := false }
  db := { getUserByUsername := fun _ => .ok none, getUserGroups := fun _ => .ok [], getAclRules := .ok [] }

/-- A network on which nothing fails. -/
def soundNetwork : SessionEnv where
  frameSent _ := true
  backendAccepts _ _ := true
  initialWriteOk := true

theorem every_frame_one_message_keepalive :
    OneMessage writeKeepalive ∧ OneMessage (encodeDataMessage [1, 2]) := by
  have queued := Steps.single (@TcpToWs.Step.enqueue (.start [1, 2]) writeKeepalive rfl (by decide))
  have answered := queued.step (.recv true rfl rfl)
  have read := answered.step (.read true rfl (by decide) (by decide) (List.append_nil [1, 2]).symm)
  have whole := (every_frame_one_message gatewayState "alice" soundNetwork walkThrough).2
    [.succeeding (.binary writeKeepalive)] [1, 2] _ _ read (by decide)
  obtain ⟨keepalive, later⟩ := List.forall_mem_cons.mp whole
  exact ⟨keepalive, List.forall_mem_singleton.mp later⟩

end RdGateway.Server
