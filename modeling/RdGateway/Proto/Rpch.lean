import RdGateway.Proto.Rpc

/-!
# RPC-over-HTTP v2

RTS PDUs, the CONN/A1, CONN/B1 and CONN/C2 exchanges, and the virtual connection
that pairs an OUT channel with an IN channel.
-/

set_option autoImplicit false

namespace RdGateway.Proto

open Wirekit

def ptypeRts : UInt8 := 20
def packedDrepLittleEndian : Vector UInt8 4 := #[0x10, 0x00, 0x00, 0x00].toVector
def rpchProtocolVersion : UInt32 := 1
def defaultReceiveWindowSize : UInt32 := 262144
def defaultConnectionTimeout : UInt32 := 120000

def rtsHeaderLen : Nat := 20

def cmdReceiveWindowSize : UInt16 := 0x0000
def cmdFlowControlAck : UInt16 := 0x0001
def cmdConnectionTimeout : UInt16 := 0x0002
def cmdCookie : UInt16 := 0x0003
def cmdChannelLifetime : UInt16 := 0x0004
def cmdClientKeepalive : UInt16 := 0x0005
def cmdVersion : UInt16 := 0x0006
def cmdAssociationGroupId : UInt16 := 0x000D

inductive VirtualConnectionState where
  | waitingOutChannel
  | waitingInChannel
  | connectionEstablished
  | dataTransfer
deriving Repr, DecidableEq

inductive RpchError where
  | bufferTooShort (needed available : Nat)
  | invalidRpcVersion (major minor : UInt8)
  | invalidPtype (ptype : UInt8)
  | invalidPackedDrep (packedDrep : Vector UInt8 4)
  | invalidFragLength (declared actual : Nat)
  | unknownCommand (commandType : UInt16)
  | invalidUuid
  | invalidConnA1
  | invalidConnB1
  | unexpectedState (expected actual : VirtualConnectionState)
  | virtualConnectionCookieMismatch (expected actual : Uuid)
deriving Repr, DecidableEq

def ensureRemaining (available needed : Nat) : Outcome RpchError Unit :=
  if available < needed then .err (.bufferTooShort needed available) else .ok ()

/-- A read behind the length check that it needs. -/
def checkedGet {α : Type} (codec : FixedCodec α) (buf : Bytes) : Outcome RpchError (α × Bytes) := do
  ensureRemaining buf.length codec.width
  codec.get buf

/-- `from_slice_le` fails on slices of another length only, and this one has 16 bytes. -/
def getUuidLe (buf : Bytes) : Outcome RpchError (Uuid × Bytes) :=
  checkedGet uuidLe buf

/-! ## RTS commands -/

inductive RtsCommand where
  | receiveWindowSize (value : UInt32)
  | flowControlAck (bytesReceived availableWindow : UInt32) (channelCookie : Uuid)
  | connectionTimeout (value : UInt32)
  | cookie (value : Uuid)
  | channelLifetime (value : UInt32)
  | clientKeepalive (value : UInt32)
  | version (value : UInt32)
  | associationGroupId (value : Uuid)
deriving Repr, DecidableEq

def RtsCommand.encodedLen : RtsCommand → Nat
  | .receiveWindowSize _ => 2 + 4
  | .connectionTimeout _ => 2 + 4
  | .channelLifetime _ => 2 + 4
  | .clientKeepalive _ => 2 + 4
  | .version _ => 2 + 4
  | .flowControlAck _ _ _ => 2 + 4 + 4 + 16
  | .cookie _ => 2 + 16
  | .associationGroupId _ => 2 + 16

def RtsCommand.writeTo : RtsCommand → Bytes
  | .receiveWindowSize value => u16Le.put cmdReceiveWindowSize ++ u32Le.put value
  | .flowControlAck bytesReceived availableWindow channelCookie =>
      u16Le.put cmdFlowControlAck ++ u32Le.put bytesReceived ++ u32Le.put availableWindow ++
        uuidLe.put channelCookie
  | .connectionTimeout value => u16Le.put cmdConnectionTimeout ++ u32Le.put value
  | .cookie value => u16Le.put cmdCookie ++ uuidLe.put value
  | .channelLifetime value => u16Le.put cmdChannelLifetime ++ u32Le.put value
  | .clientKeepalive value => u16Le.put cmdClientKeepalive ++ u32Le.put value
  | .version value => u16Le.put cmdVersion ++ u32Le.put value
  | .associationGroupId value => u16Le.put cmdAssociationGroupId ++ uuidLe.put value

def RtsCommand.parse (buf : Bytes) : Outcome RpchError (RtsCommand × Bytes) := do
  let (commandType, buf) ← checkedGet u16Le buf
  if commandType = cmdReceiveWindowSize then do
    let (value, buf) ← checkedGet u32Le buf
    pure (.receiveWindowSize value, buf)
  else if commandType = cmdFlowControlAck then do
    ensureRemaining buf.length 24
    let (bytesReceived, buf) ← u32Le.get buf
    let (availableWindow, buf) ← u32Le.get buf
    let (channelCookie, buf) ← getUuidLe buf
    pure (.flowControlAck bytesReceived availableWindow channelCookie, buf)
  else if commandType = cmdConnectionTimeout then do
    let (value, buf) ← checkedGet u32Le buf
    pure (.connectionTimeout value, buf)
  else if commandType = cmdCookie then do
    let (value, buf) ← getUuidLe buf
    pure (.cookie value, buf)
  else if commandType = cmdChannelLifetime then do
    let (value, buf) ← checkedGet u32Le buf
    pure (.channelLifetime value, buf)
  else if commandType = cmdClientKeepalive then do
    let (value, buf) ← checkedGet u32Le buf
    pure (.clientKeepalive value, buf)
  else if commandType = cmdVersion then do
    let (value, buf) ← checkedGet u32Le buf
    pure (.version value, buf)
  else if commandType = cmdAssociationGroupId then do
    let (value, buf) ← getUuidLe buf
    pure (.associationGroupId value, buf)
  else .err (.unknownCommand commandType)

/-! ## RTS PDUs -/

structure RtsPdu where
  rpcVersion : UInt8
  rpcVersionMinor : UInt8
  ptype : UInt8
  pfcFlags : UInt8
  packedDrep : Vector UInt8 4
  authLength : UInt16
  callId : UInt32
  flags : UInt16
  commands : List RtsCommand
deriving Repr, DecidableEq

def RtsPdu.new (callId : UInt32) (flags : UInt16) (commands : List RtsCommand) : RtsPdu :=
  { rpcVersion := Proto.rpcVersion, rpcVersionMinor := Proto.rpcVersionMinor, ptype := ptypeRts,
    pfcFlags := 0, packedDrep := packedDrepLittleEndian, authLength := 0, callId, flags, commands }

/-- `for _ in 0..num_commands`. -/
def parseCommands (numCommands : Nat) (buf : Bytes) : Outcome RpchError (List RtsCommand × Bytes) :=
  getMany RtsCommand.parse numCommands buf

def RtsPdu.parse (data : Bytes) : Outcome RpchError RtsPdu := do
  ensureRemaining data.length rtsHeaderLen
  let (rpcVersion, buf) ← u8.get data
  let (rpcVersionMinor, buf) ← u8.get buf
  let (ptype, buf) ← u8.get buf
  let (pfcFlags, buf) ← u8.get buf
  let (packedDrep, buf) ← (byteArray 4).get buf
  let (fragLength, buf) ← u16Le.get buf
  let (authLength, buf) ← u16Le.get buf
  let (callId, buf) ← u32Le.get buf
  let (flags, buf) ← u16Le.get buf
  let (numCommands, buf) ← u16Le.get buf
  if rpcVersion ≠ Proto.rpcVersion ∨ rpcVersionMinor ≠ Proto.rpcVersionMinor then
    .err (.invalidRpcVersion rpcVersion rpcVersionMinor)
  else if ptype ≠ ptypeRts then .err (.invalidPtype ptype)
  else if packedDrep ≠ packedDrepLittleEndian then .err (.invalidPackedDrep packedDrep)
  else if fragLength.toNat ≠ data.length then
    .err (.invalidFragLength fragLength.toNat data.length)
  else do
    let (commands, buf) ← parseCommands numCommands.toNat buf
    if buf.length ≠ 0 then do
      let actual ← checkedSub data.length buf.length
      .err (.invalidFragLength fragLength.toNat actual)
    else
      pure { rpcVersion, rpcVersionMinor, ptype, pfcFlags, packedDrep, authLength, callId, flags,
             commands }

def RtsPdu.totalLen (pdu : RtsPdu) : Nat :=
  rtsHeaderLen + (pdu.commands.map RtsCommand.encodedLen).sum

def RtsPdu.toBytes (pdu : RtsPdu) : Bytes :=
  u8.put pdu.rpcVersion ++ u8.put pdu.rpcVersionMinor ++ u8.put pdu.ptype ++ u8.put pdu.pfcFlags ++
    (byteArray 4).put pdu.packedDrep ++ u16Le.put (UInt16.ofNat pdu.totalLen) ++
    u16Le.put pdu.authLength ++ u32Le.put pdu.callId ++ u16Le.put pdu.flags ++
    u16Le.put (UInt16.ofNat pdu.commands.length) ++ pdu.commands.flatMap RtsCommand.writeTo

/-! ## Connection set-up -/

structure ConnA1 where
  callId : UInt32
  version : UInt32
  virtualConnectionCookie : Uuid
  outChannelCookie : Uuid
  receiveWindowSize : UInt32
deriving Repr, DecidableEq

def ConnA1.fromPdu (pdu : RtsPdu) : Outcome RpchError ConnA1 :=
  if pdu.flags ≠ 0 ∨ pdu.commands.length ≠ 4 then .err .invalidConnA1
  else
    match pdu.commands with
    | [.version version, .cookie virtualConnectionCookie, .cookie outChannelCookie,
        .receiveWindowSize receiveWindowSize] =>
        .ok { callId := pdu.callId, version, virtualConnectionCookie, outChannelCookie,
              receiveWindowSize }
    | _ => .err .invalidConnA1

structure ConnB1 where
  callId : UInt32
  version : UInt32
  virtualConnectionCookie : Uuid
  inChannelCookie : Uuid
  channelLifetime : UInt32
  clientKeepalive : UInt32
  associationGroupId : Uuid
deriving Repr, DecidableEq

def ConnB1.fromPdu (pdu : RtsPdu) : Outcome RpchError ConnB1 :=
  if pdu.flags ≠ 0 ∨ pdu.commands.length ≠ 6 then .err .invalidConnB1
  else
    match pdu.commands with
    | [.version version, .cookie virtualConnectionCookie, .cookie inChannelCookie,
        .channelLifetime channelLifetime, .clientKeepalive clientKeepalive,
        .associationGroupId associationGroupId] =>
        .ok { callId := pdu.callId, version, virtualConnectionCookie, inChannelCookie,
              channelLifetime, clientKeepalive, associationGroupId }
    | _ => .err .invalidConnB1

def RtsPdu.connA1 (callId : UInt32) (virtualConnectionCookie outChannelCookie : Uuid) : RtsPdu :=
  RtsPdu.new callId 0
    [.version rpchProtocolVersion, .cookie virtualConnectionCookie, .cookie outChannelCookie,
      .receiveWindowSize defaultReceiveWindowSize]

def RtsPdu.connB1 (callId : UInt32) (virtualConnectionCookie inChannelCookie : Uuid)
    (associationGroupId : Uuid) : RtsPdu :=
  RtsPdu.new callId 0
    [.version rpchProtocolVersion, .cookie virtualConnectionCookie, .cookie inChannelCookie,
      .channelLifetime 1073741824, .clientKeepalive 300000, .associationGroupId associationGroupId]

structure ConnC2 where
  version : UInt32
  receiveWindowSize : UInt32
  connectionTimeout : UInt32
deriving Repr, DecidableEq

def ConnC2.default : ConnC2 :=
  { version := rpchProtocolVersion, receiveWindowSize := defaultReceiveWindowSize,
    connectionTimeout := defaultConnectionTimeout }

def ConnC2.toPdu (conn : ConnC2) (callId : UInt32) : RtsPdu :=
  RtsPdu.new callId 0
    [.version conn.version, .receiveWindowSize conn.receiveWindowSize,
      .connectionTimeout conn.connectionTimeout]

def RtsPdu.connC2 (callId : UInt32) : RtsPdu := ConnC2.default.toPdu callId

inductive ChannelType where
  | inChannel
  | outChannel
deriving Repr, DecidableEq

structure VirtualConnection where
  state : VirtualConnectionState
  version : Option UInt32
  virtualConnectionCookie : Option Uuid
  outChannelCookie : Option Uuid
  inChannelCookie : Option Uuid
  associationGroupId : Option Uuid
  receiveWindowSize : Option UInt32
  channelLifetime : Option UInt32
  clientKeepalive : Option UInt32
  outCallId : Option UInt32
  inCallId : Option UInt32
deriving Repr, DecidableEq

def VirtualConnection.new : VirtualConnection :=
  { state := .waitingOutChannel, version := none, virtualConnectionCookie := none,
    outChannelCookie := none, inChannelCookie := none, associationGroupId := none,
    receiveWindowSize := none, channelLifetime := none, clientKeepalive := none, outCallId := none,
    inCallId := none }

namespace VirtualConnection

/-- A method that takes `&mut self` returns its result and the connection it leaves. -/
def acceptOutChannel (self : VirtualConnection) (conn : ConnA1) :
    Outcome RpchError Unit × VirtualConnection :=
  if self.state ≠ .waitingOutChannel then
    (.err (.unexpectedState .waitingOutChannel self.state), self)
  else
    (.ok (),
      { self with
        version := some conn.version
        virtualConnectionCookie := some conn.virtualConnectionCookie
        outChannelCookie := some conn.outChannelCookie
        receiveWindowSize := some conn.receiveWindowSize
        outCallId := some conn.callId
        state := .waitingInChannel })

def acceptInChannel (self : VirtualConnection) (conn : ConnB1) :
    Outcome RpchError RtsPdu × VirtualConnection :=
  if self.state ≠ .waitingInChannel then
    (.err (.unexpectedState .waitingInChannel self.state), self)
  else
    match self.virtualConnectionCookie with
    | none => (.err (.unexpectedState .waitingInChannel .waitingOutChannel), self)
    | some expectedCookie =>
        if conn.virtualConnectionCookie ≠ expectedCookie then
          (.err (.virtualConnectionCookieMismatch expectedCookie conn.virtualConnectionCookie), self)
        else
          (.ok (ConnC2.default.toPdu (self.outCallId.getD conn.callId)),
            { self with
              version := some conn.version
              inChannelCookie := some conn.inChannelCookie
              associationGroupId := some conn.associationGroupId
              channelLifetime := some conn.channelLifetime
              clientKeepalive := some conn.clientKeepalive
              inCallId := some conn.callId
              state := .connectionEstablished })

def enterDataTransfer (self : VirtualConnection) : Outcome RpchError Unit × VirtualConnection :=
  if self.state ≠ .connectionEstablished then
    (.err (.unexpectedState .connectionEstablished self.state), self)
  else (.ok (), { self with state := .dataTransfer })

def processRts (self : VirtualConnection) (channel : ChannelType) (data : Bytes) :
    Outcome RpchError (Option RtsPdu) × VirtualConnection :=
  match RtsPdu.parse data with
  | .err error => (.err error, self)
  | .panicked => (.panicked, self)
  | .ok pdu =>
      match channel with
      | .outChannel =>
          match ConnA1.fromPdu pdu with
          | .err error => (.err error, self)
          | .panicked => (.panicked, self)
          | .ok conn =>
              let accepted := self.acceptOutChannel conn
              (accepted.1 >>= fun _ => .ok none, accepted.2)
      | .inChannel =>
          match ConnB1.fromPdu pdu with
          | .err error => (.err error, self)
          | .panicked => (.panicked, self)
          | .ok conn =>
              let accepted := self.acceptInChannel conn
              (accepted.1 >>= fun response => .ok (some response), accepted.2)

end VirtualConnection

end RdGateway.Proto
