import RdGateway.Proto.RpcBind

/-!
# PDUs of the server

The repository has no parser for the BindAck and the Response that it sends. The encoders
are checked against the parser of the common header and a reader of the layout.
-/

set_option autoImplicit false

namespace RdGateway.Proto

open Wirekit

/-! ## A reader of the BindAck layout -/

structure BindResult where
  result : UInt16
  reason : UInt16
  transferSyntax : SyntaxId
deriving Repr, DecidableEq

structure BindAckFields where
  header : RpcPduHeader
  maxXmitFrag : UInt16
  maxRecvFrag : UInt16
  assocGroupId : UInt32
  secAddr : Bytes
  results : List BindResult
deriving Repr, DecidableEq

def readBindResult (r : Bytes) : Outcome RpcError (BindResult × Bytes) := do
  let (result, r) ← u16Le.get r
  let (reason, r) ← u16Le.get r
  let (transferSyntax, r) ← SyntaxId.parse r
  pure ({ result, reason, transferSyntax }, r)

/-- The result list starts at the next multiple of 4, counted from the front of the PDU. -/
def readBindAck (buf : Bytes) : Outcome RpcError BindAckFields := do
  let header ← RpcPduHeader.parse buf
  let pdu := buf.take header.fragLength.toNat
  let r ← advance rpcHeaderSize pdu
  let (maxXmitFrag, r) ← u16Le.get r
  let (maxRecvFrag, r) ← u16Le.get r
  let (assocGroupId, r) ← u32Le.get r
  let (secAddrLen, r) ← u16Le.get r
  let secAddr ← slice r 0 secAddrLen.toNat
  let r ← advance secAddrLen.toNat r
  let offset := pdu.length - r.length
  let r ← advance ((4 - offset % 4) % 4) r
  let (numResults, r) ← u8.get r
  let r ← advance 3 r
  let (results, _) ← getMany readBindResult numResults.toNat r
  pure { header, maxXmitFrag, maxRecvFrag, assocGroupId, secAddr, results }

/-! ## Encoded PDUs -/

/-- The header as it is sent, in front of this many bytes. -/
def RpcPduHeader.sent (header : RpcPduHeader) (length : Nat) : RpcPduHeader :=
  { header with fragLength := UInt16.ofNat length, authLength := 0 }

/-- The header of the value is found, and it announces exactly these bytes. -/
def HeaderAccepted (header : RpcPduHeader) (bytes : Bytes) : Prop :=
  ∃ parsed, RpcPduHeader.parse bytes = .ok parsed ∧ parsed.fragLength.toNat = bytes.length ∧
    parsed.authLength = 0 ∧ parsed.callId = header.callId ∧ parsed.ptype = header.ptype

theorem RpcPduHeader.sent_parse {header : RpcPduHeader} {bytes rest : Bytes}
    (version : header.rpcVers = rpcVersion) (versionMinor : header.rpcVersMinor = rpcVersionMinor)
    (small : bytes.length ≤ 65535) (split : bytes = (header.sent bytes.length).write ++ rest) :
    RpcPduHeader.parse bytes = .ok (header.sent bytes.length) ∧
      (header.sent bytes.length).fragLength.toNat = bytes.length := by
  have size : (header.sent bytes.length).fragLength.toNat = bytes.length := by
    show (UInt16.ofNat bytes.length).toNat = bytes.length
    rw [UInt16.toNat_ofNat', Nat.mod_eq_of_lt (by omega)]
  have long : rpcHeaderSize ≤ bytes.length := by
    have counted := congrArg List.length split
    rw [List.length_append, RpcPduHeader.write_length] at counted
    omega
  refine ⟨RpcPduHeader.parse_eq_ok.mpr ⟨⟨version, versionMinor, ?_, ?_⟩, rest, split⟩, size⟩
  · rw [size]
    exact long
  · exact Nat.le_of_eq size

theorem RpcPduHeader.sent_accepted {header : RpcPduHeader} {bytes rest : Bytes}
    (version : header.rpcVers = rpcVersion) (versionMinor : header.rpcVersMinor = rpcVersionMinor)
    (small : bytes.length ≤ 65535) (split : bytes = (header.sent bytes.length).write ++ rest) :
    HeaderAccepted header bytes := by
  obtain ⟨parsed, size⟩ := RpcPduHeader.sent_parse version versionMinor small split
  exact ⟨_, parsed, size, rfl, rfl, rfl⟩

/-- The end of a BindAck: one result behind the count and its three reserved bytes. -/
def BindAckPdu.resultList (ack : BindAckPdu) : Bytes :=
  u8.put 1 ++ ([0, 0, 0] ++ (u16Le.put ack.result ++ (u16Le.put ack.reason ++ ack.transferSyntax.write)))

def BindAckPdu.padding (ack : BindAckPdu) : Nat := padTo4 (2 + ack.secAddr.length)

theorem BindAckPdu.encode_length (ack : BindAckPdu) :
    ack.encode.length = 26 + ack.secAddr.length + ack.padding + 28 := by
  simp only [BindAckPdu.encode, padding, List.length_append, RpcPduHeader.write_length,
    FixedCodec.put_length, SyntaxId.write_length, List.length_replicate, u8_width, u16Le_width,
    u32Le_width, rpcHeaderSize, syntaxIdSize, List.length_cons, List.length_nil]

/-- Everything behind the header. -/
def BindAckPdu.body (ack : BindAckPdu) : Bytes :=
  u16Le.put ack.maxXmitFrag ++ (u16Le.put ack.maxRecvFrag ++ (u32Le.put ack.assocGroupId ++
    (u16Le.put (UInt16.ofNat ack.secAddr.length) ++ (ack.secAddr ++
      (List.replicate ack.padding 0 ++ ack.resultList)))))

theorem BindAckPdu.encode_split (ack : BindAckPdu) :
    ack.encode = (ack.header.sent ack.encode.length).write ++ ack.body := by
  have sized : rpcHeaderSize + 2 + 2 + 4 + 2 + ack.secAddr.length + padTo4 (2 + ack.secAddr.length) +
      1 + 3 + 2 + 2 + syntaxIdSize = ack.encode.length := by
    rw [ack.encode_length, padding, rpcHeaderSize, syntaxIdSize]
  rw [RpcPduHeader.sent, ← sized]
  simp only [BindAckPdu.encode, body, resultList, padding, List.append_assoc]

theorem BindAckPdu.resultList_length (ack : BindAckPdu) : ack.resultList.length = 28 := by
  simp [resultList, SyntaxId.write_length, syntaxIdSize]

theorem BindAckPdu.encode_results (ack : BindAckPdu) :
    ack.encode.drop (26 + ack.secAddr.length + ack.padding) = ack.resultList := by
  have front : ((ack.header.sent ack.encode.length).write ++ u16Le.put ack.maxXmitFrag ++
      u16Le.put ack.maxRecvFrag ++ u32Le.put ack.assocGroupId ++
      u16Le.put (UInt16.ofNat ack.secAddr.length) ++ ack.secAddr ++
      List.replicate ack.padding 0).length = 26 + ack.secAddr.length + ack.padding := by
    simp only [List.length_append, RpcPduHeader.write_length, FixedCodec.put_length, u16Le_width,
      u32Le_width, rpcHeaderSize, List.length_replicate]
  have split := ack.encode_split
  simp only [BindAckPdu.body, ← List.append_assoc] at split
  generalize ack.encode = bytes at split front ⊢
  rw [split, List.drop_left' front]

theorem BindAckPdu.resultList_read (ack : BindAckPdu) :
    getMany readBindResult 1 (u16Le.put ack.result ++ (u16Le.put ack.reason ++ ack.transferSyntax.write)) =
      .ok ([⟨ack.result, ack.reason, ack.transferSyntax⟩], []) := by
  have written := SyntaxId.parse_write_append ack.transferSyntax []
  rw [List.append_nil] at written
  simp only [getMany, readBindResult, FixedCodec.get_put_append, Outcome.ok_bind, Outcome.pure_eq, written]

theorem readBindAck_encode {ack : BindAckPdu} (version : ack.header.rpcVers = rpcVersion)
    (versionMinor : ack.header.rpcVersMinor = rpcVersionMinor) (small : ack.encode.length ≤ 65535) :
    readBindAck ack.encode =
      .ok { header := ack.header.sent ack.encode.length, maxXmitFrag := ack.maxXmitFrag,
            maxRecvFrag := ack.maxRecvFrag, assocGroupId := ack.assocGroupId, secAddr := ack.secAddr,
            results := [⟨ack.result, ack.reason, ack.transferSyntax⟩] } := by
  obtain ⟨parsed, size⟩ := RpcPduHeader.sent_parse version versionMinor small ack.encode_split
  have total := ack.encode_length
  have entered : (advance rpcHeaderSize ack.encode : Outcome RpcError Bytes) = .ok ack.body := by
    rw [ack.encode_split]
    exact advance_append _ (RpcPduHeader.write_length _)
  have addressed : (UInt16.ofNat ack.secAddr.length).toNat = ack.secAddr.length := by
    rw [UInt16.toNat_ofNat', Nat.mod_eq_of_lt (by omega)]
  have addressSkipped : (advance ack.secAddr.length
      (ack.secAddr ++ (List.replicate ack.padding 0 ++ ack.resultList)) : Outcome RpcError Bytes) =
      .ok (List.replicate ack.padding 0 ++ ack.resultList) := advance_append _ rfl
  have left : (List.replicate ack.padding 0 ++ ack.resultList).length = ack.padding + 28 := by
    rw [List.length_append, List.length_replicate, ack.resultList_length]
  have aligned : (4 - (ack.encode.length - (ack.padding + 28)) % 4) % 4 = ack.padding := by
    rw [total, BindAckPdu.padding, padTo4]
    omega
  have paddingSkipped : (advance ack.padding
      (List.replicate ack.padding 0 ++ ack.resultList) : Outcome RpcError Bytes) = .ok ack.resultList :=
    advance_append _ List.length_replicate
  have reservedSkipped (rest : Bytes) :
      (advance 3 ([0, 0, 0] ++ rest) : Outcome RpcError Bytes) = .ok rest := advance_append _ rfl
  have one : (1 : UInt8).toNat = 1 := rfl
  rw [readBindAck, parsed, Outcome.ok_bind, size, List.take_length]
  dsimp only
  rw [entered, Outcome.ok_bind]
  simp only [BindAckPdu.body, FixedCodec.get_put_append, Outcome.ok_bind, addressed, slice_front,
    addressSkipped, left, aligned, paddingSkipped]
  simp only [BindAckPdu.resultList, FixedCodec.get_put_append, Outcome.ok_bind, reservedSkipped, one,
    ack.resultList_read, Outcome.pure_eq]

/-! ## Responses -/

theorem ResponsePdu.encode_length (response : ResponsePdu) :
    response.encode.length = 24 + response.stubData.length := by
  simp only [ResponsePdu.encode, List.length_append, RpcPduHeader.write_length, FixedCodec.put_length,
    u8_width, u16Le_width, u32Le_width, rpcHeaderSize]

theorem ResponsePdu.encode_split (response : ResponsePdu) :
    response.encode = (response.header.sent response.encode.length).write ++
      (u32Le.put response.allocHint ++ (u16Le.put response.contextId ++ (u8.put response.cancelCount ++
        (u8.put response.reserved ++ response.stubData)))) := by
  have sized : rpcHeaderSize + responseFixedFieldsSize + response.stubData.length =
      response.encode.length := by
    rw [response.encode_length, rpcHeaderSize, responseFixedFieldsSize]
  rw [RpcPduHeader.sent, ← sized]
  simp only [ResponsePdu.encode, List.append_assoc]

theorem ResponsePdu.encode_stub (response : ResponsePdu) :
    response.encode.drop 24 = response.stubData := by
  rw [response.encode_split]
  simp only [← List.append_assoc]
  exact List.drop_left' (by simp [RpcPduHeader.write_length, rpcHeaderSize])

/-- The PDUs of the server can be decoded. A BindAck is read back in every field, and its
result list is aligned; a Response has its stub behind 24 bytes. -/
theorem server_pdus_decodable :
    (∀ ack : BindAckPdu, ack.header.rpcVers = rpcVersion → ack.header.rpcVersMinor = rpcVersionMinor →
      ack.encode.length ≤ 65535 →
      HeaderAccepted ack.header ack.encode ∧
        (∃ offset, offset % 4 = 0 ∧ ack.encode.drop offset = ack.resultList) ∧
        readBindAck ack.encode =
          .ok { header := ack.header.sent ack.encode.length, maxXmitFrag := ack.maxXmitFrag,
                maxRecvFrag := ack.maxRecvFrag, assocGroupId := ack.assocGroupId,
                secAddr := ack.secAddr,
                results := [⟨ack.result, ack.reason, ack.transferSyntax⟩] }) ∧
    ∀ response : ResponsePdu, response.header.rpcVers = rpcVersion →
      response.header.rpcVersMinor = rpcVersionMinor → response.encode.length ≤ 65535 →
      HeaderAccepted response.header response.encode ∧ response.encode.drop 24 = response.stubData := by
  constructor
  · intro ack version versionMinor small
    refine ⟨RpcPduHeader.sent_accepted version versionMinor small ack.encode_split,
      ⟨26 + ack.secAddr.length + ack.padding, ?_, ack.encode_results⟩,
      readBindAck_encode version versionMinor small⟩
    rw [BindAckPdu.padding, padTo4]
    omega
  · intro response version versionMinor small
    exact ⟨RpcPduHeader.sent_accepted version versionMinor small response.encode_split,
      response.encode_stub⟩

theorem server_pdus_decodable_accepted :
    let ack := BindAckPdu.accepted 7 1 [0x34, 0x34, 0x33, 0]
    let response := ResponsePdu.new 7 0 [1, 2, 3]
    (HeaderAccepted ack.header ack.encode ∧ (readBindAck ack.encode).Sat (·.secAddr = [0x34, 0x34, 0x33, 0])) ∧
      HeaderAccepted response.header response.encode ∧ response.encode.drop 24 = [1, 2, 3] := by
  intro ack response
  obtain ⟨accepted, _, read⟩ := server_pdus_decodable.1 ack rfl rfl (by decide)
  refine ⟨⟨accepted, ?_⟩, server_pdus_decodable.2 response rfl rfl (by decide)⟩
  rw [read]
  rfl

end RdGateway.Proto
