import RdGateway.Proto.Messages

/-!
# TSG codec round trip

Every writer produces one frame: a header whose length is the length of the
frame, and a payload its own parser reads back. The names of `TunnelAuth` and
`ChannelCreate` come back cut at their first U+0000.
-/

set_option autoImplicit false

namespace RdGateway.Proto

open Wirekit

/-! ## Frames -/

def frame (msgType reserved : UInt16) (payload : Bytes) : Bytes :=
  MessageHeader.write { msgType, reserved, length := UInt32.ofNat (headerSize + payload.length) } ++
    payload

@[simp] theorem MessageHeader.write_length (header : MessageHeader) :
    header.write.length = headerSize := by
  simp [MessageHeader.write, headerSize]

@[simp] theorem frame_length (msgType reserved : UInt16) (payload : Bytes) :
    (frame msgType reserved payload).length = headerSize + payload.length := by
  simp [frame]

@[simp] theorem MessageHeader.parse_write_append (header : MessageHeader) (later : Bytes) :
    MessageHeader.parse (header.write ++ later) = .ok header := by
  have enough : ¬ (header.write ++ later).length < headerSize := by simp
  rw [MessageHeader.parse, if_neg enough]
  simp only [MessageHeader.write, List.append_assoc, FixedCodec.get_put_append, Outcome.ok_bind,
    Outcome.pure_eq]

/-- The header of a frame announces exactly the bytes of the frame. -/
theorem frame_header (msgType reserved : UInt16) {payload : Bytes}
    (fits : headerSize + payload.length < 2 ^ 32) (later : Bytes) :
    ∃ header, MessageHeader.parse (frame msgType reserved payload ++ later) = .ok header ∧
      header.msgType = msgType ∧ header.length.toNat = (frame msgType reserved payload).length := by
  refine ⟨_, by rw [frame, List.append_assoc, MessageHeader.parse_write_append], rfl, ?_⟩
  rw [frame_length, UInt32.toNat_ofNat', Nat.mod_eq_of_lt fits]

/-- Parsing a frame looks at its payload only, never at the bytes behind it. -/
theorem parseMessage_frame {msgType reserved : UInt16} {payload : Bytes}
    (fits : headerSize + payload.length < 2 ^ 32) (later : Bytes) :
    parseMessage (frame msgType reserved payload ++ later) = parsePayload msgType payload := by
  obtain ⟨header, parsed, typed, sized⟩ := frame_header msgType reserved fits later
  rw [frame_length] at sized
  have ordered : ¬ header.length.toNat < headerSize := by omega
  have inside : ¬ (frame msgType reserved payload ++ later).length < header.length.toNat := by
    rw [List.length_append, frame_length]
    omega
  have cut : (slice (frame msgType reserved payload ++ later) headerSize header.length.toNat :
      Outcome MessageError Bytes) = .ok payload := by
    rw [slice_append_left (by omega) (by rw [frame_length]; omega),
      slice_eq (by omega) (by rw [frame_length]; omega), frame,
      List.drop_left' (MessageHeader.write_length _), sized]
    simp
  simp only [parseMessage, parsed, Outcome.ok_bind, if_neg ordered, if_neg inside, cut, typed]

/-- The bytes are one frame of the type, and its payload parses to the message. -/
def Framed {α : Type} (type : MessageType) (parse : Bytes → Outcome MessageError α)
    (bytes : Bytes) (msg : α) : Prop :=
  ∃ payload, bytes = frame type.toU16 0 payload ∧ headerSize + payload.length < 2 ^ 32 ∧
    parse payload = .ok msg

theorem Framed.of_write {α : Type} {type : MessageType} {parse : Bytes → Outcome MessageError α}
    {payload : Bytes} {size : Nat} {msg : α} (sized : payload.length = size)
    (fits : headerSize + size < 2 ^ 32) (parsed : parse payload = .ok msg) :
    Framed type parse
      (MessageHeader.write
        { msgType := type.toU16, reserved := 0, length := UInt32.ofNat (headerSize + size) } ++
        payload) msg := by
  subst sized
  exact ⟨payload, rfl, fits, parsed⟩

theorem Framed.parseMessage {α : Type} {type : MessageType}
    {parse : Bytes → Outcome MessageError α} {bytes : Bytes} {msg : α} {received : TsgMessage}
    (framed : Framed type parse bytes msg)
    (dispatched : ∀ payload, parse payload = .ok msg →
      parsePayload type.toU16 payload = .ok received) (later : Bytes) :
    parseMessage (bytes ++ later) = .ok received ∧
      ∃ header, MessageHeader.parse (bytes ++ later) = .ok header ∧
        header.length.toNat = bytes.length := by
  obtain ⟨payload, rfl, fits, parsed⟩ := framed
  obtain ⟨header, headerParsed, _, sized⟩ := frame_header type.toU16 0 fits later
  exact ⟨(parseMessage_frame fits later).trans (dispatched payload parsed),
    header, headerParsed, sized⟩

/-! ## Names -/

/-- The part of a name that survives the wire. -/
def beforeNul (name : String) : String :=
  String.ofList (name.toList.takeWhile (· != '\x00'))

theorem encodeUtf16le_eq (name : String) :
    encodeUtf16le name = bytesOfUnits (encodeUtf16 name.toList ++ [0]) := by
  rw [bytesOfUnits_append]
  rfl

theorem readUtf16le_encodeUtf16le (name : String) :
    readUtf16le (encodeUtf16le name) = .ok (beforeNul name) := by
  have even : ¬ (encodeUtf16le name).length % 2 ≠ 0 := by
    rw [encodeUtf16le_eq, bytesOfUnits_length]
    omega
  have units : unitsOfBytes (encodeUtf16le name) = encodeUtf16 name.toList ++ [0] := by
    rw [encodeUtf16le_eq, unitsOfBytes_bytesOfUnits]
  have cut : (slice (encodeUtf16 name.toList ++ [0]) 0
      ((encodeUtf16 name.toList ++ [0]).findIdx (· == 0)) : Outcome MessageError (List UInt16)) =
      .ok (encodeUtf16 (name.toList.takeWhile (· != '\x00'))) := by
    rw [slice_eq (Nat.zero_le _) List.findIdx_le_length, List.drop_zero, Nat.sub_zero,
      ← takeWhile_encodeUtf16 name.toList [], List.takeWhile_eq_take_findIdx_not]
    simp [bne]
  rw [readUtf16le, if_neg even]
  simp only [units, cut, Outcome.ok_bind, fromUtf16_encode, beforeNul]

/-! ## Optional fields -/

/-- A field is on the wire exactly when its bit is set. -/
def Announced {α : Type} (fieldsPresent bit : UInt16) (field : Option α) : Prop :=
  fieldsPresent &&& bit ≠ 0 ↔ field.isSome

theorem readOptional_writeOptional {α : Type} (codec : FixedCodec α) {fieldsPresent bit : UInt16}
    {field : Option α} (announced : Announced fieldsPresent bit field) (rest : Bytes) :
    readOptional codec fieldsPresent bit (writeOptional codec field ++ rest) = .ok (field, rest) := by
  cases field with
  | none =>
      have absent : ¬ fieldsPresent &&& bit ≠ 0 := fun set => by simpa using announced.mp set
      rw [readOptional, if_neg absent]
      rfl
  | some value =>
      have present : fieldsPresent &&& bit ≠ 0 := announced.mpr rfl
      have enough : ¬ (codec.put value ++ rest).length < codec.width := by simp
      rw [readOptional, if_pos present, writeOptional, if_neg enough]
      simp only [FixedCodec.get_put_append, Outcome.ok_bind, Outcome.pure_eq]

theorem writeOptional_length {α : Type} (codec : FixedCodec α) (field : Option α) :
    (writeOptional codec field).length = if field.isSome then codec.width else 0 := by
  cases field <;> simp [writeOptional]

/-! ## Writers -/

theorem HandshakeRequest.write_framed (msg : HandshakeRequest) :
    Framed .handshakeRequest HandshakeRequest.parse msg.write msg := by
  rw [HandshakeRequest.write]
  refine Framed.of_write (by simp) (by decide) ?_
  rw [HandshakeRequest.parse, if_neg (by simp)]
  simp only [List.append_assoc, FixedCodec.get_put_append, FixedCodec.get_put, Outcome.ok_bind,
    Outcome.pure_eq]

theorem HandshakeResponse.write_framed (msg : HandshakeResponse) :
    Framed .handshakeResponse HandshakeResponse.parse msg.write msg := by
  rw [HandshakeResponse.write]
  refine Framed.of_write (by simp) (by decide) ?_
  rw [HandshakeResponse.parse, if_neg (by simp)]
  simp only [List.append_assoc, FixedCodec.get_put_append, FixedCodec.get_put, Outcome.ok_bind,
    Outcome.pure_eq]

theorem TunnelResponse.write_framed {msg : TunnelResponse}
    (tunnelIdAnnounced : Announced msg.fieldsPresent httpTunnelResponseFieldTunnelId msg.tunnelId)
    (capsAnnounced : Announced msg.fieldsPresent httpTunnelResponseFieldCaps msg.caps) :
    Framed .tunnelResponse TunnelResponse.parse msg.write msg := by
  rw [TunnelResponse.write]
  refine Framed.of_write ?_ ?_ ?_
  · simp only [List.length_append, FixedCodec.put_length, writeOptional_length, u16Le_width,
      u32Le_width]
  · simp only [headerSize]
    split <;> split <;> omega
  · have capsRead := readOptional_writeOptional u32Le capsAnnounced []
    rw [List.append_nil] at capsRead
    rw [TunnelResponse.parse, if_neg (by simp; omega)]
    simp only [List.append_assoc, FixedCodec.get_put_append, Outcome.ok_bind, Outcome.pure_eq,
      readOptional_writeOptional _ tunnelIdAnnounced, capsRead]

/-- A name written behind its 16-bit length is cut out again whole. -/
theorem name_read {name : Bytes} (rest : Bytes) (fits : name.length ≤ 65535) :
    (UInt16.ofNat name.length).toNat = name.length ∧
      (slice (name ++ rest) 0 name.length : Outcome MessageError Bytes) = .ok name :=
  ⟨by rw [UInt16.toNat_ofNat', Nat.mod_eq_of_lt (by omega)], slice_front name rest⟩

theorem TunnelAuth.write_framed {msg : TunnelAuth}
    (fits : (encodeUtf16le msg.clientName).length ≤ 65535) :
    Framed .tunnelAuth TunnelAuth.parse msg.write
      { msg with clientName := beforeNul msg.clientName } := by
  obtain ⟨sized, whole⟩ := name_read [] fits
  rw [List.append_nil] at whole
  rw [TunnelAuth.write]
  refine Framed.of_write (by simp; omega) (by simp only [headerSize]; omega) ?_
  rw [TunnelAuth.parse, if_neg (by simp; omega)]
  simp only [List.append_assoc, FixedCodec.get_put_append, Outcome.ok_bind, Outcome.pure_eq, sized,
    Nat.lt_irrefl, if_false, whole, readUtf16le_encodeUtf16le]

/-- The unwritten statement-of-health response is the only field that is lost. -/
theorem TunnelAuthResponse.write_framed (msg : TunnelAuthResponse) :
    Framed .tunnelAuthResponse TunnelAuthResponse.parse msg.write
      { msg with sohResponse := none } := by
  rw [TunnelAuthResponse.write]
  refine Framed.of_write (by simp) (by decide) ?_
  rw [TunnelAuthResponse.parse, if_neg (by simp)]
  simp only [List.append_assoc, FixedCodec.get_put_append, Outcome.ok_bind, Outcome.pure_eq]

theorem ChannelCreate.write_framed {msg : ChannelCreate}
    (fits : (encodeUtf16le msg.serverName).length ≤ 65535) :
    Framed .channelCreate ChannelCreate.parse msg.write
      { msg with serverName := beforeNul msg.serverName } := by
  obtain ⟨sized, whole⟩ := name_read [] fits
  rw [List.append_nil] at whole
  rw [ChannelCreate.write]
  refine Framed.of_write (by simp; omega) (by simp only [headerSize]; omega) ?_
  rw [ChannelCreate.parse, if_neg (by simp; omega)]
  simp only [List.append_assoc, FixedCodec.get_put_append, Outcome.ok_bind, Outcome.pure_eq, sized,
    Nat.lt_irrefl, if_false, whole, readUtf16le_encodeUtf16le]

theorem ChannelResponse.write_framed {msg : ChannelResponse}
    (channelIdAnnounced : Announced msg.fieldsPresent httpChannelResponseFieldChannelid msg.channelId)
    (udpPortAnnounced : Announced msg.fieldsPresent httpChannelResponseFieldUdpport msg.udpPort)
    (cookieAnnounced : Announced msg.fieldsPresent httpChannelResponseFieldAuthncookie msg.authCookie)
    (fits : ∀ cookie, msg.authCookie = some cookie → cookie.length ≤ 65535) :
    Framed .channelResponse ChannelResponse.parse msg.write msg := by
  rw [ChannelResponse.write]
  cases msg with
  | mk errorCode fieldsPresent reserved channelId udpPort authCookie =>
    simp only at channelIdAnnounced udpPortAnnounced cookieAnnounced fits ⊢
    cases authCookie with
    | none =>
      have absent : ¬ fieldsPresent &&& httpChannelResponseFieldAuthncookie ≠ 0 :=
        fun set => by simpa using cookieAnnounced.mp set
      have udpRead := readOptional_writeOptional u16Le udpPortAnnounced []
      rw [List.append_nil] at udpRead
      refine Framed.of_write ?_ ?_ ?_
      · simp [writeOptional_length]
        omega
      · simp only [headerSize]
        split <;> split <;> omega
      · rw [ChannelResponse.parse, if_neg (by simp; omega)]
        simp only [List.append_assoc, List.append_nil, FixedCodec.get_put_append, Outcome.ok_bind,
          Outcome.pure_eq, readOptional_writeOptional _ channelIdAnnounced, udpRead, if_neg absent]
    | some cookie =>
      have present : fieldsPresent &&& httpChannelResponseFieldAuthncookie ≠ 0 :=
        cookieAnnounced.mpr rfl
      have short := fits cookie rfl
      obtain ⟨sized, whole⟩ := name_read [] short
      rw [List.append_nil] at whole
      have lengthRead : ¬ (u16Le.put (UInt16.ofNat cookie.length) ++ cookie).length < 2 := by
        rw [List.length_append, FixedCodec.put_length, u16Le_width]
        omega
      have skipped : (advance cookie.length (cookie ++ []) : Outcome MessageError Bytes) = .ok [] :=
        advance_append [] rfl
      rw [List.append_nil] at skipped
      refine Framed.of_write ?_ ?_ ?_
      · simp [writeOptional_length]
        omega
      · simp only [headerSize]
        split <;> split <;> omega
      · rw [ChannelResponse.parse, if_neg (by simp; omega)]
        simp only [List.append_assoc, FixedCodec.get_put_append, Outcome.ok_bind, Outcome.pure_eq,
          readOptional_writeOptional _ channelIdAnnounced,
          readOptional_writeOptional _ udpPortAnnounced, if_pos present, if_neg lengthRead, sized,
          Nat.lt_irrefl, if_false, whole, skipped]

theorem DataMessage.write_eq_frame (data : Bytes) :
    DataMessage.write data = frame MessageType.data.toU16 0 data := rfl

theorem writeKeepalive_eq_frame : writeKeepalive = frame MessageType.keepalive.toU16 0 [] := by
  simp [writeKeepalive, frame]

/-! ## The whole format -/

/-- The messages that have both a faithful writer and a parser. `TunnelCreate` is
not one of them: its writer leaves the cookie out. -/
inductive WrittenMessage where
  | handshakeRequest (msg : HandshakeRequest)
  | handshakeResponse (msg : HandshakeResponse)
  | tunnelResponse (msg : TunnelResponse)
  | tunnelAuth (msg : TunnelAuth)
  | tunnelAuthResponse (msg : TunnelAuthResponse)
  | channelCreate (msg : ChannelCreate)
  | channelResponse (msg : ChannelResponse)
  | data (msg : DataMessage)
  | keepalive

def WrittenMessage.write : WrittenMessage → Bytes
  | .handshakeRequest msg => msg.write
  | .handshakeResponse msg => msg.write
  | .tunnelResponse msg => msg.write
  | .tunnelAuth msg => msg.write
  | .tunnelAuthResponse msg => msg.write
  | .channelCreate msg => msg.write
  | .channelResponse msg => msg.write
  | .data msg => DataMessage.write msg.data
  | .keepalive => writeKeepalive

/-- The variable parts fit their wire lengths, and the optional fields are the announced ones. -/
def WrittenMessage.Fits : WrittenMessage → Prop
  | .handshakeRequest _ => True
  | .handshakeResponse _ => True
  | .tunnelResponse msg =>
      Announced msg.fieldsPresent httpTunnelResponseFieldTunnelId msg.tunnelId ∧
        Announced msg.fieldsPresent httpTunnelResponseFieldCaps msg.caps
  | .tunnelAuth msg => (encodeUtf16le msg.clientName).length ≤ 65535
  | .tunnelAuthResponse msg => msg.sohResponse = none
  | .channelCreate msg => (encodeUtf16le msg.serverName).length ≤ 65535
  | .channelResponse msg =>
      Announced msg.fieldsPresent httpChannelResponseFieldChannelid msg.channelId ∧
        Announced msg.fieldsPresent httpChannelResponseFieldUdpport msg.udpPort ∧
        Announced msg.fieldsPresent httpChannelResponseFieldAuthncookie msg.authCookie ∧
        ∀ cookie, msg.authCookie = some cookie → cookie.length ≤ 65535
  | .data msg => (DataMessage.write msg.data).length ≤ 2 ^ 32 - 1
  | .keepalive => True

/-- What the reader gets: every field as written, a name up to its first U+0000. -/
def WrittenMessage.received : WrittenMessage → TsgMessage
  | .handshakeRequest msg => .handshakeRequest msg
  | .handshakeResponse msg => .handshakeResponse msg
  | .tunnelResponse msg => .tunnelResponse msg
  | .tunnelAuth msg => .tunnelAuth { msg with clientName := beforeNul msg.clientName }
  | .tunnelAuthResponse msg => .tunnelAuthResponse msg
  | .channelCreate msg => .channelCreate { msg with serverName := beforeNul msg.serverName }
  | .channelResponse msg => .channelResponse msg
  | .data msg => .data msg
  | .keepalive => .keepalive

/-- Writing a message and parsing it again gives the message back, whatever bytes
follow it, and the header written counts exactly the bytes written. -/
theorem parseMessage_write (msg : WrittenMessage) (fits : msg.Fits) (later : Bytes) :
    parseMessage (msg.write ++ later) = .ok msg.received ∧
      ∃ header, MessageHeader.parse (msg.write ++ later) = .ok header ∧
        header.length.toNat = msg.write.length := by
  cases msg with
  | handshakeRequest msg =>
      refine msg.write_framed.parseMessage (fun payload parsed => ?_) later
      simp [parsePayload, parsed, WrittenMessage.received]
  | handshakeResponse msg =>
      refine msg.write_framed.parseMessage (fun payload parsed => ?_) later
      simp [parsePayload, parsed, WrittenMessage.received]
  | tunnelResponse msg =>
      obtain ⟨tunnelIdAnnounced, capsAnnounced⟩ := fits
      refine (TunnelResponse.write_framed tunnelIdAnnounced capsAnnounced).parseMessage
        (fun payload parsed => ?_) later
      simp [parsePayload, parsed, WrittenMessage.received]
  | tunnelAuth msg =>
      refine (TunnelAuth.write_framed fits).parseMessage (fun payload parsed => ?_) later
      simp [parsePayload, parsed, WrittenMessage.received]
  | tunnelAuthResponse msg =>
      have same : { msg with sohResponse := none } = msg := by
        cases msg
        simp only [WrittenMessage.Fits] at fits
        rw [fits]
      refine msg.write_framed.parseMessage (fun payload parsed => ?_) later
      rw [same] at parsed
      simp [parsePayload, parsed, WrittenMessage.received]
  | channelCreate msg =>
      refine (ChannelCreate.write_framed fits).parseMessage (fun payload parsed => ?_) later
      simp [parsePayload, parsed, WrittenMessage.received]
  | channelResponse msg =>
      obtain ⟨channelIdAnnounced, udpPortAnnounced, cookieAnnounced, short⟩ := fits
      refine (ChannelResponse.write_framed channelIdAnnounced udpPortAnnounced cookieAnnounced
        short).parseMessage (fun payload parsed => ?_) later
      simp [parsePayload, parsed, WrittenMessage.received]
  | data msg =>
      have bounded : headerSize + msg.data.length < 2 ^ 32 := by
        simp only [WrittenMessage.Fits, DataMessage.write_eq_frame, frame_length] at fits
        omega
      simp only [WrittenMessage.write, DataMessage.write_eq_frame]
      obtain ⟨header, parsed, _, sized⟩ := frame_header MessageType.data.toU16 0 bounded later
      refine ⟨?_, header, parsed, sized⟩
      rw [parseMessage_frame bounded]
      simp [parsePayload, DataMessage.parse, WrittenMessage.received]
  | keepalive =>
      have bounded : headerSize + ([] : Bytes).length < 2 ^ 32 := by decide
      simp only [WrittenMessage.write, writeKeepalive_eq_frame]
      obtain ⟨header, parsed, _, sized⟩ := frame_header MessageType.keepalive.toU16 0 bounded later
      refine ⟨?_, header, parsed, sized⟩
      rw [parseMessage_frame bounded]
      simp [parsePayload, WrittenMessage.received]

theorem parseMessage_write_name_with_nul :
    parseMessage (TunnelAuth.write { fieldsPresent := 3, clientName := "PC\u0000x" } ++ [7]) =
      .ok (.tunnelAuth { fieldsPresent := 3, clientName := "PC" }) :=
  (parseMessage_write (.tunnelAuth { fieldsPresent := 3, clientName := "PC\u0000x" })
    (show (encodeUtf16le "PC\u0000x").length ≤ 65535 by decide) [7]).1

end RdGateway.Proto
