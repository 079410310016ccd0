import RdGateway.Wirekit.Utf16

/-!
# TSG messages

Message types, parsers and writers of the gateway protocol. Every message is
`[type: u16][reserved: u16][length: u32][payload]`, little-endian, and the
length counts the header. Parsers read a cursor `r`; a writer returns the bytes
it appends to the output buffer.
-/

set_option autoImplicit false

namespace RdGateway.Proto

open Wirekit

def headerSize : Nat := 8

inductive MessageType where
  | handshakeRequest
  | handshakeResponse
  | extendedAuthMsg
  | tunnelCreate
  | tunnelResponse
  | tunnelAuth
  | tunnelAuthResponse
  | channelCreate
  | channelResponse
  | data
  | serviceMessage
  | reauthMessage
  | keepalive
  | closeChannel
  | closeChannelResponse
deriving Repr, DecidableEq

def MessageType.toU16 : MessageType → UInt16
  | .handshakeRequest => 0x0001
  | .handshakeResponse => 0x0002
  | .extendedAuthMsg => 0x0003
  | .tunnelCreate => 0x0004
  | .tunnelResponse => 0x0005
  | .tunnelAuth => 0x0006
  | .tunnelAuthResponse => 0x0007
  | .channelCreate => 0x0008
  | .channelResponse => 0x0009
  | .data => 0x000A
  | .serviceMessage => 0x000B
  | .reauthMessage => 0x000C
  | .keepalive => 0x000D
  | .closeChannel => 0x000E
  | .closeChannelResponse => 0x000F

def MessageType.fromU16 (v : UInt16) : Option MessageType :=
  match v with
  | 0x0001 => some .handshakeRequest
  | 0x0002 => some .handshakeResponse
  | 0x0003 => some .extendedAuthMsg
  | 0x0004 => some .tunnelCreate
  | 0x0005 => some .tunnelResponse
  | 0x0006 => some .tunnelAuth
  | 0x0007 => some .tunnelAuthResponse
  | 0x0008 => some .channelCreate
  | 0x0009 => some .channelResponse
  | 0x000A => some .data
  | 0x000B => some .serviceMessage
  | 0x000C => some .reauthMessage
  | 0x000D => some .keepalive
  | 0x000E => some .closeChannel
  | 0x000F => some .closeChannelResponse
  | _ => none

@[simp] theorem MessageType.fromU16_toU16 (type : MessageType) :
    MessageType.fromU16 type.toU16 = some type := by
  cases type <;> rfl

inductive MessageError where
  | bufferTooShort (needed available : Nat)
  | unknownType (msgType : UInt16)
  | invalidLength (length : UInt32)
  | invalidUtf16
deriving Repr, DecidableEq

structure MessageHeader where
  msgType : UInt16
  reserved : UInt16
  length : UInt32
deriving Repr, DecidableEq

def MessageHeader.parse (buf : Bytes) : Outcome MessageError MessageHeader :=
  if buf.length < headerSize then .err (.bufferTooShort headerSize buf.length)
  else do
    let (msgType, r) ← u16Le.get buf
    let (reserved, r) ← u16Le.get r
    let (length, _) ← u32Le.get r
    pure { msgType, reserved, length }

def MessageHeader.write (header : MessageHeader) : Bytes :=
  u16Le.put header.msgType ++ u16Le.put header.reserved ++ u32Le.put header.length

/-! ## Strings on the wire -/

/-- `read_utf16le`: the units before the first zero unit, decoded strictly. -/
def readUtf16le (data : Bytes) : Outcome MessageError String :=
  if data.length % 2 ≠ 0 then .err .invalidUtf16
  else do
    let u16s := unitsOfBytes data
    let len := u16s.findIdx (· == 0)
    let units ← slice u16s 0 len
    match fromUtf16 units with
    | some scalars => .ok (String.ofList scalars)
    | none => .err .invalidUtf16

def encodeUtf16le (s : String) : Bytes :=
  bytesOfUnits (encodeUtf16 s.toList) ++ [0x00, 0x00]

/-! ## Handshake -/

structure HandshakeRequest where
  majorVersion : UInt8
  minorVersion : UInt8
  clientVersion : UInt16
  extAuth : UInt16
deriving Repr, DecidableEq

def HandshakeRequest.parse (payload : Bytes) : Outcome MessageError HandshakeRequest :=
  if payload.length < 6 then .err (.bufferTooShort 6 payload.length)
  else do
    let (majorVersion, r) ← u8.get payload
    let (minorVersion, r) ← u8.get r
    let (clientVersion, r) ← u16Le.get r
    let (extAuth, _) ← u16Le.get r
    pure { majorVersion, minorVersion, clientVersion, extAuth }

def HandshakeRequest.write (msg : HandshakeRequest) : Bytes :=
  let len := UInt32.ofNat (headerSize + 6)
  MessageHeader.write { msgType := MessageType.handshakeRequest.toU16, reserved := 0, length := len } ++
    (u8.put msg.majorVersion ++ u8.put msg.minorVersion ++ u16Le.put msg.clientVersion ++
      u16Le.put msg.extAuth)

structure HandshakeResponse where
  errorCode : UInt32
  majorVersion : UInt8
  minorVersion : UInt8
  serverVersion : UInt16
  extAuth : UInt16
deriving Repr, DecidableEq

def HandshakeResponse.write (msg : HandshakeResponse) : Bytes :=
  let len := UInt32.ofNat (headerSize + 10)
  MessageHeader.write { msgType := MessageType.handshakeResponse.toU16, reserved := 0, length := len } ++
    (u32Le.put msg.errorCode ++ u8.put msg.majorVersion ++ u8.put msg.minorVersion ++
      u16Le.put msg.serverVersion ++ u16Le.put msg.extAuth)

def HandshakeResponse.parse (payload : Bytes) : Outcome MessageError HandshakeResponse :=
  if payload.length < 10 then .err (.bufferTooShort 10 payload.length)
  else do
    let (errorCode, r) ← u32Le.get payload
    let (majorVersion, r) ← u8.get r
    let (minorVersion, r) ← u8.get r
    let (serverVersion, r) ← u16Le.get r
    let (extAuth, _) ← u16Le.get r
    pure { errorCode, majorVersion, minorVersion, serverVersion, extAuth }

/-! ## Tunnel creation -/

def httpTunnelPacketFieldPaaCookie : UInt16 := 0x0001

structure TunnelCreate where
  capsFlags : UInt32
  fieldsPresent : UInt16
  reserved : UInt16
  paaCookie : Option String
deriving Repr, DecidableEq

def TunnelCreate.parse (payload : Bytes) : Outcome MessageError TunnelCreate :=
  if payload.length < 8 then .err (.bufferTooShort 8 payload.length)
  else do
    let (capsFlags, r) ← u32Le.get payload
    let (fieldsPresent, r) ← u16Le.get r
    let (reserved, r) ← u16Le.get r
    -- a cookie that is announced but cut off is dropped, not refused
    let paaCookie ←
      if fieldsPresent &&& httpTunnelPacketFieldPaaCookie ≠ 0 ∧ 2 ≤ r.length then do
        let (cookieLen, r) ← u16Le.get r
        if cookieLen.toNat ≤ r.length then do
          let data ← slice r 0 cookieLen.toNat
          let s ← readUtf16le data
          pure (some s)
        else pure none
      else pure none
    pure { capsFlags, fieldsPresent, reserved, paaCookie }

def TunnelCreate.write (msg : TunnelCreate) : Bytes :=
  let payloadSize := 8
  let len := UInt32.ofNat (headerSize + payloadSize)
  MessageHeader.write { msgType := MessageType.tunnelCreate.toU16, reserved := 0, length := len } ++
    (u32Le.put msg.capsFlags ++ u16Le.put msg.fieldsPresent ++ u16Le.put msg.reserved)

def httpTunnelResponseFieldTunnelId : UInt16 := 0x0001
def httpTunnelResponseFieldCaps : UInt16 := 0x0002

/-- A fixed-width field that is on the wire when its bit of `fieldsPresent` is set. -/
def readOptional {α : Type} (codec : FixedCodec α) (fieldsPresent bit : UInt16) (r : Bytes) :
    Outcome MessageError (Option α × Bytes) :=
  if fieldsPresent &&& bit ≠ 0 then
    if r.length < codec.width then .err (.bufferTooShort codec.width r.length)
    else do
      let (value, r) ← codec.get r
      pure (some value, r)
  else pure (none, r)

def writeOptional {α : Type} (codec : FixedCodec α) : Option α → Bytes
  | some value => codec.put value
  | none => []

structure TunnelResponse where
  serverVersion : UInt16
  errorCode : UInt32
  fieldsPresent : UInt16
  reserved : UInt16
  tunnelId : Option UInt32
  caps : Option UInt32
deriving Repr, DecidableEq

def TunnelResponse.write (msg : TunnelResponse) : Bytes :=
  let payloadSize := 10 + (if msg.tunnelId.isSome then 4 else 0) + (if msg.caps.isSome then 4 else 0)
  let len := UInt32.ofNat (headerSize + payloadSize)
  MessageHeader.write { msgType := MessageType.tunnelResponse.toU16, reserved := 0, length := len } ++
    (u16Le.put msg.serverVersion ++ u32Le.put msg.errorCode ++ u16Le.put msg.fieldsPresent ++
      u16Le.put msg.reserved ++ writeOptional u32Le msg.tunnelId ++ writeOptional u32Le msg.caps)

def TunnelResponse.parse (payload : Bytes) : Outcome MessageError TunnelResponse :=
  if payload.length < 10 then .err (.bufferTooShort 10 payload.length)
  else do
    let (serverVersion, r) ← u16Le.get payload
    let (errorCode, r) ← u32Le.get r
    let (fieldsPresent, r) ← u16Le.get r
    let (reserved, r) ← u16Le.get r
    let (tunnelId, r) ← readOptional u32Le fieldsPresent httpTunnelResponseFieldTunnelId r
    let (caps, _) ← readOptional u32Le fieldsPresent httpTunnelResponseFieldCaps r
    pure { serverVersion, errorCode, fieldsPresent, reserved, tunnelId, caps }

/-! ## Tunnel authorization -/

structure TunnelAuth where
  fieldsPresent : UInt16
  clientName : String
deriving Repr, DecidableEq

def TunnelAuth.parse (payload : Bytes) : Outcome MessageError TunnelAuth :=
  if payload.length < 4 then .err (.bufferTooShort 4 payload.length)
  else do
    let (fieldsPresent, r) ← u16Le.get payload
    let (nameLen, r) ← u16Le.get r
    if r.length < nameLen.toNat then .err (.bufferTooShort nameLen.toNat r.length)
    else do
      let name ← slice r 0 nameLen.toNat
      let clientName ← readUtf16le name
      pure { fieldsPresent, clientName }

def TunnelAuth.write (msg : TunnelAuth) : Bytes :=
  let nameBytes := encodeUtf16le msg.clientName
  let payloadSize := 4 + nameBytes.length
  let len := UInt32.ofNat (headerSize + payloadSize)
  MessageHeader.write { msgType := MessageType.tunnelAuth.toU16, reserved := 0, length := len } ++
    (u16Le.put msg.fieldsPresent ++ u16Le.put (UInt16.ofNat nameBytes.length) ++ nameBytes)

structure TunnelAuthResponse where
  errorCode : UInt32
  flags : UInt16
  reserved : UInt16
  idleTimeout : UInt32
  sohResponse : Option Bytes
deriving Repr, DecidableEq

/-- The statement-of-health response is never written: its length field is 0. -/
def TunnelAuthResponse.write (msg : TunnelAuthResponse) : Bytes :=
  let len := UInt32.ofNat (headerSize + 16)
  MessageHeader.write { msgType := MessageType.tunnelAuthResponse.toU16, reserved := 0, length := len } ++
    (u32Le.put msg.errorCode ++ u16Le.put msg.flags ++ u16Le.put msg.reserved ++
      u32Le.put msg.idleTimeout ++ u32Le.put 0)

def TunnelAuthResponse.parse (payload : Bytes) : Outcome MessageError TunnelAuthResponse :=
  if payload.length < 12 then .err (.bufferTooShort 12 payload.length)
  else do
    let (errorCode, r) ← u32Le.get payload
    let (flags, r) ← u16Le.get r
    let (reserved, r) ← u16Le.get r
    let (idleTimeout, _) ← u32Le.get r
    pure { errorCode, flags, reserved, idleTimeout, sohResponse := none }

/-! ## Channel creation -/

structure ChannelCreate where
  numResources : UInt8
  numAltResources : UInt8
  port : UInt16
  protocol : UInt16
  serverName : String
deriving Repr, DecidableEq

def ChannelCreate.parse (payload : Bytes) : Outcome MessageError ChannelCreate :=
  if payload.length < 8 then .err (.bufferTooShort 8 payload.length)
  else do
    let (numResources, r) ← u8.get payload
    let (numAltResources, r) ← u8.get r
    let (port, r) ← u16Le.get r
    let (protocol, r) ← u16Le.get r
    let (nameLen, r) ← u16Le.get r
    if r.length < nameLen.toNat then .err (.bufferTooShort nameLen.toNat r.length)
    else do
      let name ← slice r 0 nameLen.toNat
      let serverName ← readUtf16le name
      pure { numResources, numAltResources, port, protocol, serverName }

def ChannelCreate.write (msg : ChannelCreate) : Bytes :=
  let nameBytes := encodeUtf16le msg.serverName
  let payloadSize := 8 + nameBytes.length
  let len := UInt32.ofNat (headerSize + payloadSize)
  MessageHeader.write { msgType := MessageType.channelCreate.toU16, reserved := 0, length := len } ++
    (u8.put msg.numResources ++ u8.put msg.numAltResources ++ u16Le.put msg.port ++
      u16Le.put msg.protocol ++ u16Le.put (UInt16.ofNat nameBytes.length) ++ nameBytes)

def httpChannelResponseFieldChannelid : UInt16 := 0x0001
def httpChannelResponseFieldUdpport : UInt16 := 0x0002
def httpChannelResponseFieldAuthncookie : UInt16 := 0x0004

structure ChannelResponse where
  errorCode : UInt32
  fieldsPresent : UInt16
  reserved : UInt16
  channelId : Option UInt32
  udpPort : Option UInt16
  authCookie : Option Bytes
deriving Repr, DecidableEq

def ChannelResponse.write (msg : ChannelResponse) : Bytes :=
  let payloadSize := 8 + (if msg.channelId.isSome then 4 else 0) +
    (if msg.udpPort.isSome then 2 else 0) +
    (match msg.authCookie with
      | some cookie => 2 + cookie.length
      | none => 0)
  let len := UInt32.ofNat (headerSize + payloadSize)
  MessageHeader.write { msgType := MessageType.channelResponse.toU16, reserved := 0, length := len } ++
    (u32Le.put msg.errorCode ++ u16Le.put msg.fieldsPresent ++ u16Le.put msg.reserved ++
      writeOptional u32Le msg.channelId ++ writeOptional u16Le msg.udpPort ++
      (match msg.authCookie with
        | some cookie => u16Le.put (UInt16.ofNat cookie.length) ++ cookie
        | none => []))

def ChannelResponse.parse (payload : Bytes) : Outcome MessageError ChannelResponse :=
  if payload.length < 8 then .err (.bufferTooShort 8 payload.length)
  else do
    let (errorCode, r) ← u32Le.get payload
    let (fieldsPresent, r) ← u16Le.get r
    let (reserved, r) ← u16Le.get r
    let (channelId, r) ← readOptional u32Le fieldsPresent httpChannelResponseFieldChannelid r
    let (udpPort, r) ← readOptional u16Le fieldsPresent httpChannelResponseFieldUdpport r
    let authCookie ←
      if fieldsPresent &&& httpChannelResponseFieldAuthncookie ≠ 0 then
        if r.length < 2 then .err (.bufferTooShort 2 r.length)
        else do
          let (len, r) ← u16Le.get r
          if r.length < len.toNat then .err (.bufferTooShort len.toNat r.length)
          else do
            let data ← slice r 0 len.toNat
            let _ ← advance len.toNat r
            pure (some data)
      else pure none
    pure { errorCode, fieldsPresent, reserved, channelId, udpPort, authCookie }

/-! ## Data and control -/

structure DataMessage where
  data : Bytes
deriving Repr, DecidableEq

def DataMessage.parse (payload : Bytes) : DataMessage :=
  { data := payload }

def DataMessage.write (data : Bytes) : Bytes :=
  let len := UInt32.ofNat (headerSize + data.length)
  MessageHeader.write { msgType := MessageType.data.toU16, reserved := 0, length := len } ++ data

def writeKeepalive : Bytes :=
  let len := UInt32.ofNat headerSize
  MessageHeader.write { msgType := MessageType.keepalive.toU16, reserved := 0, length := len }

def writeCloseChannelResponse : Bytes :=
  let len := UInt32.ofNat headerSize
  MessageHeader.write { msgType := MessageType.closeChannelResponse.toU16, reserved := 0, length := len }

/-! ## Parsed messages -/

inductive TsgMessage where
  | handshakeRequest (msg : HandshakeRequest)
  | handshakeResponse (msg : HandshakeResponse)
  | tunnelCreate (msg : TunnelCreate)
  | tunnelResponse (msg : TunnelResponse)
  | tunnelAuth (msg : TunnelAuth)
  | tunnelAuthResponse (msg : TunnelAuthResponse)
  | channelCreate (msg : ChannelCreate)
  | channelResponse (msg : ChannelResponse)
  | data (msg : DataMessage)
  | keepalive
  | closeChannel (payload : Bytes)
  | closeChannelResponse (payload : Bytes)
  | unknown (msgType : UInt16) (payload : Bytes)
deriving Repr, DecidableEq

/-- The dispatch of `parse_message` on the type code, once the payload is cut out.
Three known codes have no variant and end up as `unknown` with all others. -/
def parsePayload (msgType : UInt16) (payload : Bytes) : Outcome MessageError TsgMessage :=
  match MessageType.fromU16 msgType with
  | some .handshakeRequest => do pure (.handshakeRequest (← HandshakeRequest.parse payload))
  | some .handshakeResponse => do pure (.handshakeResponse (← HandshakeResponse.parse payload))
  | some .tunnelCreate => do pure (.tunnelCreate (← TunnelCreate.parse payload))
  | some .tunnelResponse => do pure (.tunnelResponse (← TunnelResponse.parse payload))
  | some .tunnelAuth => do pure (.tunnelAuth (← TunnelAuth.parse payload))
  | some .tunnelAuthResponse => do pure (.tunnelAuthResponse (← TunnelAuthResponse.parse payload))
  | some .channelCreate => do pure (.channelCreate (← ChannelCreate.parse payload))
  | some .channelResponse => do pure (.channelResponse (← ChannelResponse.parse payload))
  | some .data => .ok (.data (DataMessage.parse payload))
  | some .keepalive => .ok .keepalive
  | some .closeChannel => .ok (.closeChannel payload)
  | some .closeChannelResponse => .ok (.closeChannelResponse payload)
  | _ => .ok (.unknown msgType payload)

def parseMessage (buf : Bytes) : Outcome MessageError TsgMessage := do
  let header ← MessageHeader.parse buf
  let totalLen := header.length.toNat
  if totalLen < headerSize then .err (.invalidLength header.length)
  else if buf.length < totalLen then .err (.bufferTooShort totalLen buf.length)
  else do
    let payload ← slice buf headerSize totalLen
    parsePayload header.msgType payload

end RdGateway.Proto
