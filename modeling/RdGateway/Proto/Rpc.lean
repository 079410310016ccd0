import RdGateway.Wirekit.Uuid

/-!
# DCE/RPC PDU framing

The common header, the bind and request parsers, and the bind-ack and response
encoders of the RPC-over-HTTP transport.
-/

set_option autoImplicit false

namespace RdGateway.Proto

open Wirekit

def rpcVersion : UInt8 := 5
def rpcVersionMinor : UInt8 := 0
def rpcHeaderSize : Nat := 16
def rpcCommonDataRepresentation : Vector UInt8 4 := #v[0x10, 0x00, 0x00, 0x00]

def pfcFirstFrag : UInt8 := 0x01
def pfcLastFrag : UInt8 := 0x02
def pfcFirstAndLastFrag : UInt8 := pfcFirstFrag ||| pfcLastFrag

def defaultMaxXmitFrag : UInt16 := 5840
def defaultMaxRecvFrag : UInt16 := 5840

def syntaxVersion (major minor : UInt16) : UInt32 :=
  (minor.toUInt32 <<< 16) ||| major.toUInt32

def tsgInterfaceUuid : Uuid :=
  { d1 := 0x44e265dd, d2 := 0x7daf, d3 := 0x42cd,
    d4 := #v[0x85, 0x60, 0x3c, 0xdb, 0x6e, 0x7a, 0x27, 0x29] }

def tsgInterfaceVersion : UInt32 := syntaxVersion 1 3

def ndrTransferSyntaxUuid : Uuid :=
  { d1 := 0x8a885d04, d2 := 0x1ceb, d3 := 0x11c9,
    d4 := #v[0x9f, 0xe8, 0x08, 0x00, 0x2b, 0x10, 0x48, 0x60] }

def ndrTransferSyntaxVersion : UInt32 := syntaxVersion 2 0

def bindFixedFieldsSize : Nat := 12
def requestFixedFieldsSize : Nat := 8
def responseFixedFieldsSize : Nat := 8
def syntaxIdSize : Nat := 20

def padTo4 (len : Nat) : Nat := (4 - len % 4) % 4

inductive RpcPduType where
  | request
  | response
  | bind
  | bindAck
  | bindNak
  | alterContext
  | alterContextResp
deriving Repr, DecidableEq

def RpcPduType.toU8 : RpcPduType → UInt8
  | .request => 0
  | .response => 2
  | .bind => 11
  | .bindAck => 12
  | .bindNak => 13
  | .alterContext => 14
  | .alterContextResp => 15

def RpcPduType.fromU8 (value : UInt8) : Option RpcPduType :=
  match value with
  | 0 => some .request
  | 2 => some .response
  | 11 => some .bind
  | 12 => some .bindAck
  | 13 => some .bindNak
  | 14 => some .alterContext
  | 15 => some .alterContextResp
  | _ => none

@[simp] theorem RpcPduType.fromU8_toU8 (type : RpcPduType) :
    RpcPduType.fromU8 type.toU8 = some type := by
  cases type <;> rfl

inductive RpcError where
  | bufferTooShort (needed available : Nat)
  | unknownPduType (value : UInt8)
  | unexpectedPduType (expected actual : RpcPduType)
  | invalidVersion (major minor : UInt8)
  | invalidFragmentLength (fragLength : UInt16)
  | invalidContextCount (count : UInt8)
  | invalidTransferSyntaxCount (count : UInt8)
deriving Repr, DecidableEq

structure RpcPduHeader where
  rpcVers : UInt8
  rpcVersMinor : UInt8
  ptype : RpcPduType
  pfcFlags : UInt8
  packedDrep : Vector UInt8 4
  fragLength : UInt16
  authLength : UInt16
  callId : UInt32
deriving Repr, DecidableEq

def RpcPduHeader.new (ptype : RpcPduType) (pfcFlags : UInt8) (fragLength authLength : UInt16)
    (callId : UInt32) : RpcPduHeader :=
  { rpcVers := rpcVersion, rpcVersMinor := rpcVersionMinor, ptype, pfcFlags,
    packedDrep := rpcCommonDataRepresentation, fragLength, authLength, callId }

/-- The header is refused while the buffer is shorter than the fragment it announces. -/
def RpcPduHeader.parse (buf : Bytes) : Outcome RpcError RpcPduHeader :=
  if buf.length < rpcHeaderSize then .err (.bufferTooShort rpcHeaderSize buf.length)
  else do
    let (rpcVers, r) ← u8.get buf
    let (rpcVersMinor, r) ← u8.get r
    if rpcVers ≠ rpcVersion ∨ rpcVersMinor ≠ rpcVersionMinor then
      .err (.invalidVersion rpcVers rpcVersMinor)
    else do
      let (code, r) ← u8.get r
      match RpcPduType.fromU8 code with
      | none => do
          let value ← index buf 2
          .err (.unknownPduType value)
      | some ptype => do
          let (pfcFlags, r) ← u8.get r
          let (packedDrep, r) ← (byteArray 4).get r
          let (fragLength, r) ← u16Le.get r
          if fragLength.toNat < rpcHeaderSize then .err (.invalidFragmentLength fragLength)
          else if buf.length < fragLength.toNat then
            .err (.bufferTooShort fragLength.toNat buf.length)
          else do
            let (authLength, r) ← u16Le.get r
            let (callId, _) ← u32Le.get r
            pure { rpcVers, rpcVersMinor, ptype, pfcFlags, packedDrep, fragLength, authLength, callId }

def RpcPduHeader.write (header : RpcPduHeader) : Bytes :=
  u8.put header.rpcVers ++ u8.put header.rpcVersMinor ++ u8.put header.ptype.toU8 ++
    u8.put header.pfcFlags ++ (byteArray 4).put header.packedDrep ++ u16Le.put header.fragLength ++
    u16Le.put header.authLength ++ u32Le.put header.callId

structure SyntaxId where
  uuid : Uuid
  version : UInt32
deriving Repr, DecidableEq

def SyntaxId.tsg : SyntaxId := { uuid := tsgInterfaceUuid, version := tsgInterfaceVersion }

def SyntaxId.ndr : SyntaxId := { uuid := ndrTransferSyntaxUuid, version := ndrTransferSyntaxVersion }

def SyntaxId.parse (buf : Bytes) : Outcome RpcError (SyntaxId × Bytes) :=
  if buf.length < syntaxIdSize then .err (.bufferTooShort syntaxIdSize buf.length)
  else do
    let (uuid, buf) ← uuidLe.get buf
    let (version, buf) ← u32Le.get buf
    pure ({ uuid, version }, buf)

def SyntaxId.write (syntaxId : SyntaxId) : Bytes :=
  uuidLe.put syntaxId.uuid ++ u32Le.put syntaxId.version

/-! ## Bind -/

structure BindPdu where
  header : RpcPduHeader
  maxXmitFrag : UInt16
  maxRecvFrag : UInt16
  assocGroupId : UInt32
  numContexts : UInt8
  contextId : UInt16
  numTransferSyntaxes : UInt8
  abstractSyntax : SyntaxId
  transferSyntax : SyntaxId
deriving Repr, DecidableEq

/-- The variables the context loop fills in its first round. -/
structure FirstContext where
  contextId : UInt16
  numTransferSyntaxes : UInt8
  abstractSyntax : Option SyntaxId
  transferSyntax : Option SyntaxId
deriving Repr, DecidableEq

def FirstContext.unset : FirstContext :=
  { contextId := 0, numTransferSyntaxes := 0, abstractSyntax := none, transferSyntax := none }

/-- `for transfer_index in 0..num_transfer_syntaxes`, with `remaining` rounds to go. -/
def parseTransferSyntaxes : Nat → Nat → Option SyntaxId → Bytes →
    Outcome RpcError (Option SyntaxId × Bytes)
  | 0, _, transferSyntax, r => .ok (transferSyntax, r)
  | remaining + 1, transferIndex, transferSyntax, r => do
      let (parsed, r) ← SyntaxId.parse r
      let transferSyntax := if transferIndex = 0 then some parsed else transferSyntax
      parseTransferSyntaxes remaining (transferIndex + 1) transferSyntax r

/-- `for context_index in 0..num_contexts`, with `remaining` rounds to go. -/
def parseContexts : Nat → Nat → FirstContext → Bytes → Outcome RpcError (FirstContext × Bytes)
  | 0, _, first, r => .ok (first, r)
  | remaining + 1, contextIndex, first, r =>
      if r.length < 4 then .err (.bufferTooShort 4 r.length)
      else do
        let (contextId, r) ← u16Le.get r
        let (numTransferSyntaxes, r) ← u8.get r
        if numTransferSyntaxes = 0 then .err (.invalidTransferSyntaxCount numTransferSyntaxes)
        else do
          let r ← advance 1 r
          let (abstractSyntax, r) ← SyntaxId.parse r
          let (transferSyntax, r) ← parseTransferSyntaxes numTransferSyntaxes.toNat 0 none r
          let first :=
            if contextIndex = 0 then
              { contextId, numTransferSyntaxes, abstractSyntax := some abstractSyntax, transferSyntax }
            else first
          parseContexts remaining (contextIndex + 1) first r

/-- The end of the body: the fragment less the authentication trailer. -/
def RpcPduHeader.bodyEnd (header : RpcPduHeader) : Outcome RpcError Nat :=
  if header.authLength.toNat ≤ header.fragLength.toNat then
    .ok (header.fragLength.toNat - header.authLength.toNat)
  else .err (.invalidFragmentLength header.fragLength)

def BindPdu.parse (buf : Bytes) : Outcome RpcError BindPdu := do
  let header ← RpcPduHeader.parse buf
  if header.ptype ≠ .bind then .err (.unexpectedPduType .bind header.ptype)
  else do
    let bodyEnd ← header.bodyEnd
    if bodyEnd < rpcHeaderSize + bindFixedFieldsSize then
      .err (.bufferTooShort (rpcHeaderSize + bindFixedFieldsSize) bodyEnd)
    else do
      let r ← slice buf rpcHeaderSize bodyEnd
      let (maxXmitFrag, r) ← u16Le.get r
      let (maxRecvFrag, r) ← u16Le.get r
      let (assocGroupId, r) ← u32Le.get r
      let (numContexts, r) ← u8.get r
      if numContexts = 0 then .err (.invalidContextCount numContexts)
      else do
        let r ← advance 3 r
        let (first, _) ← parseContexts numContexts.toNat 0 .unset r
        match first.abstractSyntax, first.transferSyntax with
        | none, _ => .err (.invalidContextCount 0)
        | some _, none => .err (.invalidTransferSyntaxCount 0)
        | some abstractSyntax, some transferSyntax =>
            pure { header, maxXmitFrag, maxRecvFrag, assocGroupId, numContexts,
                   contextId := first.contextId, numTransferSyntaxes := first.numTransferSyntaxes,
                   abstractSyntax, transferSyntax }

def BindPdu.isTsgBind (bind : BindPdu) : Bool :=
  bind.abstractSyntax = SyntaxId.tsg ∧ bind.transferSyntax = SyntaxId.ndr

structure BindAckPdu where
  header : RpcPduHeader
  maxXmitFrag : UInt16
  maxRecvFrag : UInt16
  assocGroupId : UInt32
  secAddr : Bytes
  result : UInt16
  reason : UInt16
  transferSyntax : SyntaxId
deriving Repr, DecidableEq

def BindAckPdu.accepted (callId assocGroupId : UInt32) (secAddr : Bytes) : BindAckPdu :=
  { header := RpcPduHeader.new .bindAck pfcFirstAndLastFrag 0 0 callId
    maxXmitFrag := defaultMaxXmitFrag
    maxRecvFrag := defaultMaxRecvFrag
    assocGroupId, secAddr, result := 0, reason := 0, transferSyntax := SyntaxId.ndr }

def BindAckPdu.encode (ack : BindAckPdu) : Bytes :=
  let secAddrLen := ack.secAddr.length
  let secAddrPadding := padTo4 (2 + secAddrLen)
  let fragLength :=
    rpcHeaderSize + 2 + 2 + 4 + 2 + secAddrLen + secAddrPadding + 1 + 3 + 2 + 2 + syntaxIdSize
  let header := { ack.header with fragLength := UInt16.ofNat fragLength, authLength := 0 }
  header.write ++ u16Le.put ack.maxXmitFrag ++ u16Le.put ack.maxRecvFrag ++
    u32Le.put ack.assocGroupId ++ u16Le.put (UInt16.ofNat secAddrLen) ++ ack.secAddr ++
    List.replicate secAddrPadding 0 ++ u8.put 1 ++ [0, 0, 0] ++ u16Le.put ack.result ++
    u16Le.put ack.reason ++ ack.transferSyntax.write

/-! ## Request and response -/

structure RequestPdu where
  header : RpcPduHeader
  allocHint : UInt32
  contextId : UInt16
  opnum : UInt16
  stubData : Bytes
deriving Repr, DecidableEq

def RequestPdu.parse (buf : Bytes) : Outcome RpcError RequestPdu := do
  let header ← RpcPduHeader.parse buf
  if header.ptype ≠ .request then .err (.unexpectedPduType .request header.ptype)
  else do
    let bodyEnd ← header.bodyEnd
    let needed := rpcHeaderSize + requestFixedFieldsSize
    if bodyEnd < needed then .err (.bufferTooShort needed bodyEnd)
    else do
      let r ← slice buf rpcHeaderSize bodyEnd
      let (allocHint, r) ← u32Le.get r
      let (contextId, r) ← u16Le.get r
      let (opnum, r) ← u16Le.get r
      pure { header, allocHint, contextId, opnum, stubData := r }

structure ResponsePdu where
  header : RpcPduHeader
  allocHint : UInt32
  contextId : UInt16
  cancelCount : UInt8
  reserved : UInt8
  stubData : Bytes
deriving Repr, DecidableEq

def ResponsePdu.new (callId : UInt32) (contextId : UInt16) (stubData : Bytes) : ResponsePdu :=
  { header := RpcPduHeader.new .response pfcFirstAndLastFrag 0 0 callId
    allocHint := UInt32.ofNat stubData.length
    contextId, cancelCount := 0, reserved := 0, stubData }

def ResponsePdu.encode (response : ResponsePdu) : Bytes :=
  let fragLength := rpcHeaderSize + responseFixedFieldsSize + response.stubData.length
  let header := { response.header with fragLength := UInt16.ofNat fragLength, authLength := 0 }
  header.write ++ u32Le.put response.allocHint ++ u16Le.put response.contextId ++
    u8.put response.cancelCount ++ u8.put response.reserved ++ response.stubData

end RdGateway.Proto
