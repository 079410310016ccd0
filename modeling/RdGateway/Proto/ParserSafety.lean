import RdGateway.Proto.Messages
import RdGateway.Proto.Rpch
import RdGateway.Proto.Ntlm

/-!
# Crash freedom of the wire parsers

No byte string makes a parser read past its cursor, cut a slice out of range or
overflow a length. Each read is covered by the length check that dominates it;
the cursor lengths are carried from read to read.
-/

set_option autoImplicit false

namespace RdGateway.Proto

open Wirekit Outcome

/-! ## TSG messages -/

theorem MessageHeader.parse_safe (buf : Bytes) : (MessageHeader.parse buf).Safe := by
  unfold MessageHeader.parse
  refine Sat.ite (fun _ => trivial) fun enough => ?_
  rw [headerSize] at enough
  refine u16Le.bind_sat u16Le_width (by omega) fun msgType r left => ?_
  refine u16Le.bind_sat u16Le_width (by omega) fun reserved r left => ?_
  refine u32Le.bind_sat u32Le_width (by omega) fun length r left => ?_
  trivial

theorem HandshakeRequest.parse_safe (payload : Bytes) : (HandshakeRequest.parse payload).Safe := by
  unfold HandshakeRequest.parse
  refine Sat.ite (fun _ => trivial) fun enough => ?_
  refine u8.bind_sat u8_width (by omega) fun majorVersion r left => ?_
  refine u8.bind_sat u8_width (by omega) fun minorVersion r left => ?_
  refine u16Le.bind_sat u16Le_width (by omega) fun clientVersion r left => ?_
  refine u16Le.bind_sat u16Le_width (by omega) fun extAuth r left => ?_
  trivial

theorem HandshakeResponse.parse_safe (payload : Bytes) : (HandshakeResponse.parse payload).Safe := by
  unfold HandshakeResponse.parse
  refine Sat.ite (fun _ => trivial) fun enough => ?_
  refine u32Le.bind_sat u32Le_width (by omega) fun errorCode r left => ?_
  refine u8.bind_sat u8_width (by omega) fun majorVersion r left => ?_
  refine u8.bind_sat u8_width (by omega) fun minorVersion r left => ?_
  refine u16Le.bind_sat u16Le_width (by omega) fun serverVersion r left => ?_
  refine u16Le.bind_sat u16Le_width (by omega) fun extAuth r left => ?_
  trivial

theorem readUtf16le_safe (data : Bytes) : (readUtf16le data).Safe := by
  unfold readUtf16le
  refine Sat.ite (fun _ => trivial) fun _ => ?_
  refine (slice_sat (Nat.zero_le _) List.findIdx_le_length).bind fun units _ => ?_
  cases fromUtf16 units <;> trivial

theorem TunnelCreate.parse_safe (payload : Bytes) : (TunnelCreate.parse payload).Safe := by
  unfold TunnelCreate.parse
  refine Sat.ite (fun _ => trivial) fun enough => ?_
  refine u32Le.bind_sat u32Le_width (by omega) fun capsFlags r left => ?_
  refine u16Le.bind_sat u16Le_width (by omega) fun fieldsPresent r left => ?_
  refine u16Le.bind_sat u16Le_width (by omega) fun reserved r left => ?_
  refine Sat.ite (fun announced => ?_) fun _ => trivial
  refine u16Le.bind_sat u16Le_width announced.2 fun cookieLen r left => ?_
  refine Sat.ite (fun inside => ?_) fun _ => trivial
  refine (slice_sat (Nat.zero_le _) inside).bind fun data _ => ?_
  exact (readUtf16le_safe data).bind fun _ _ => trivial

theorem readOptional_safe {α : Type} (codec : FixedCodec α) (fieldsPresent bit : UInt16) (r : Bytes) :
    (readOptional codec fieldsPresent bit r).Safe := by
  unfold readOptional
  refine Sat.ite (fun _ => ?_) fun _ => trivial
  refine Sat.ite (fun _ => trivial) fun enough => ?_
  exact codec.bind_sat rfl (by omega) fun _ _ _ => trivial

theorem TunnelResponse.parse_safe (payload : Bytes) : (TunnelResponse.parse payload).Safe := by
  unfold TunnelResponse.parse
  refine Sat.ite (fun _ => trivial) fun enough => ?_
  refine u16Le.bind_sat u16Le_width (by omega) fun serverVersion r left => ?_
  refine u32Le.bind_sat u32Le_width (by omega) fun errorCode r left => ?_
  refine u16Le.bind_sat u16Le_width (by omega) fun fieldsPresent r left => ?_
  refine u16Le.bind_sat u16Le_width (by omega) fun reserved r left => ?_
  refine (readOptional_safe _ _ _ _).bind fun _ _ => ?_
  exact (readOptional_safe _ _ _ _).bind fun _ _ => trivial

theorem TunnelAuth.parse_safe (payload : Bytes) : (TunnelAuth.parse payload).Safe := by
  unfold TunnelAuth.parse
  refine Sat.ite (fun _ => trivial) fun enough => ?_
  refine u16Le.bind_sat u16Le_width (by omega) fun fieldsPresent r left => ?_
  refine u16Le.bind_sat u16Le_width (by omega) fun nameLen r left => ?_
  refine Sat.ite (fun _ => trivial) fun inside => ?_
  refine (slice_sat (Nat.zero_le _) (by omega)).bind fun name _ => ?_
  exact (readUtf16le_safe name).bind fun _ _ => trivial

theorem TunnelAuthResponse.parse_safe (payload : Bytes) : (TunnelAuthResponse.parse payload).Safe := by
  unfold TunnelAuthResponse.parse
  refine Sat.ite (fun _ => trivial) fun enough => ?_
  refine u32Le.bind_sat u32Le_width (by omega) fun errorCode r left => ?_
  refine u16Le.bind_sat u16Le_width (by omega) fun flags r left => ?_
  refine u16Le.bind_sat u16Le_width (by omega) fun reserved r left => ?_
  refine u32Le.bind_sat u32Le_width (by omega) fun idleTimeout r left => ?_
  trivial

theorem ChannelCreate.parse_safe (payload : Bytes) : (ChannelCreate.parse payload).Safe := by
  unfold ChannelCreate.parse
  refine Sat.ite (fun _ => trivial) fun enough => ?_
  refine u8.bind_sat u8_width (by omega) fun numResources r left => ?_
  refine u8.bind_sat u8_width (by omega) fun numAltResources r left => ?_
  refine u16Le.bind_sat u16Le_width (by omega) fun port r left => ?_
  refine u16Le.bind_sat u16Le_width (by omega) fun protocol r left => ?_
  refine u16Le.bind_sat u16Le_width (by omega) fun nameLen r left => ?_
  refine Sat.ite (fun _ => trivial) fun inside => ?_
  refine (slice_sat (Nat.zero_le _) (by omega)).bind fun name _ => ?_
  exact (readUtf16le_safe name).bind fun _ _ => trivial

theorem ChannelResponse.parse_safe (payload : Bytes) : (ChannelResponse.parse payload).Safe := by
  unfold ChannelResponse.parse
  refine Sat.ite (fun _ => trivial) fun enough => ?_
  refine u32Le.bind_sat u32Le_width (by omega) fun errorCode r left => ?_
  refine u16Le.bind_sat u16Le_width (by omega) fun fieldsPresent r left => ?_
  refine u16Le.bind_sat u16Le_width (by omega) fun reserved r left => ?_
  refine (readOptional_safe _ _ _ _).bind fun _ _ => ?_
  refine (readOptional_safe _ _ _ _).bind fun _ _ => ?_
  refine Sat.ite (fun _ => ?_) fun _ => trivial
  refine Sat.ite (fun _ => trivial) fun room => ?_
  refine u16Le.bind_sat u16Le_width (by omega) fun len r left => ?_
  refine Sat.ite (fun _ => trivial) fun inside => ?_
  refine (slice_sat (Nat.zero_le _) (by omega)).bind fun data _ => ?_
  exact advance_bind_sat (by omega) fun _ _ => trivial

theorem parsePayload_safe (msgType : UInt16) (payload : Bytes) : (parsePayload msgType payload).Safe := by
  unfold parsePayload
  split
  · exact (HandshakeRequest.parse_safe payload).bind fun _ _ => trivial
  · exact (HandshakeResponse.parse_safe payload).bind fun _ _ => trivial
  · exact (TunnelCreate.parse_safe payload).bind fun _ _ => trivial
  · exact (TunnelResponse.parse_safe payload).bind fun _ _ => trivial
  · exact (TunnelAuth.parse_safe payload).bind fun _ _ => trivial
  · exact (TunnelAuthResponse.parse_safe payload).bind fun _ _ => trivial
  · exact (ChannelCreate.parse_safe payload).bind fun _ _ => trivial
  · exact (ChannelResponse.parse_safe payload).bind fun _ _ => trivial
  all_goals trivial

theorem parseMessage_safe (buf : Bytes) : (parseMessage buf).Safe := by
  unfold parseMessage
  refine (MessageHeader.parse_safe buf).bind fun header _ => ?_
  refine Sat.ite (fun _ => trivial) fun _ => ?_
  refine Sat.ite (fun _ => trivial) fun _ => ?_
  refine (slice_sat (by omega) (by omega)).bind fun payload _ => ?_
  exact parsePayload_safe header.msgType payload

/-! ## RPC PDUs -/

/-- A header that is accepted announces a fragment the buffer holds. -/
theorem RpcPduHeader.parse_sat (buf : Bytes) :
    (RpcPduHeader.parse buf).Sat fun header =>
      rpcHeaderSize ≤ header.fragLength.toNat ∧ header.fragLength.toNat ≤ buf.length := by
  unfold RpcPduHeader.parse
  refine Sat.ite (fun _ => trivial) fun enough => ?_
  rw [rpcHeaderSize] at enough
  refine u8.bind_sat u8_width (by omega) fun rpcVers r left => ?_
  refine u8.bind_sat u8_width (by omega) fun rpcVersMinor r left => ?_
  refine Sat.ite (fun _ => trivial) fun _ => ?_
  refine u8.bind_sat u8_width (by omega) fun code r left => ?_
  split
  next _ _ same =>
  cases same
  split
  · exact (index_sat (by omega)).bind fun _ _ => trivial
  refine u8.bind_sat u8_width (by omega) fun pfcFlags r left => ?_
  refine (byteArray 4).bind_sat (byteArray_width 4) (by omega) fun packedDrep r left => ?_
  refine u16Le.bind_sat u16Le_width (by omega) fun fragLength r left => ?_
  refine Sat.ite (fun _ => trivial) fun long => ?_
  refine Sat.ite (fun _ => trivial) fun held => ?_
  refine u16Le.bind_sat u16Le_width (by omega) fun authLength r left => ?_
  refine u32Le.bind_sat u32Le_width (by omega) fun callId r left => ?_
  exact ⟨Nat.le_of_not_lt long, Nat.le_of_not_lt held⟩

theorem RpcPduHeader.bodyEnd_sat (header : RpcPduHeader) :
    header.bodyEnd.Sat fun bodyEnd => bodyEnd ≤ header.fragLength.toNat := by
  unfold RpcPduHeader.bodyEnd
  exact Sat.ite (fun _ => Nat.sub_le _ _) fun _ => trivial

theorem SyntaxId.parse_safe (buf : Bytes) : (SyntaxId.parse buf).Safe := by
  unfold SyntaxId.parse
  refine Sat.ite (fun _ => trivial) fun enough => ?_
  rw [syntaxIdSize] at enough
  refine uuidLe.bind_sat uuidLe_width (by omega) fun uuid buf left => ?_
  refine u32Le.bind_sat u32Le_width (by omega) fun version buf left => ?_
  trivial

theorem parseTransferSyntaxes_safe (remaining transferIndex : Nat) (transferSyntax : Option SyntaxId)
    (r : Bytes) : (parseTransferSyntaxes remaining transferIndex transferSyntax r).Safe := by
  induction remaining generalizing transferIndex transferSyntax r with
  | zero => trivial
  | succ remaining ih =>
      unfold parseTransferSyntaxes
      exact (SyntaxId.parse_safe r).bind fun _ _ => ih _ _ _

theorem parseContexts_safe (remaining contextIndex : Nat) (first : FirstContext) (r : Bytes) :
    (parseContexts remaining contextIndex first r).Safe := by
  induction remaining generalizing contextIndex first r with
  | zero => trivial
  | succ remaining ih =>
      unfold parseContexts
      refine Sat.ite (fun _ => trivial) fun enough => ?_
      refine u16Le.bind_sat u16Le_width (by omega) fun contextId r left => ?_
      refine u8.bind_sat u8_width (by omega) fun numTransferSyntaxes r left => ?_
      refine Sat.ite (fun _ => trivial) fun _ => ?_
      refine advance_bind_sat (by omega) fun r left => ?_
      refine (SyntaxId.parse_safe r).bind fun _ _ => ?_
      refine (parseTransferSyntaxes_safe _ _ _ _).bind fun _ _ => ?_
      exact ih _ _ _

theorem BindPdu.parse_safe (buf : Bytes) : (BindPdu.parse buf).Safe := by
  unfold BindPdu.parse
  refine (RpcPduHeader.parse_sat buf).bind fun header announced => ?_
  refine Sat.ite (fun _ => trivial) fun _ => ?_
  refine header.bodyEnd_sat.bind fun bodyEnd inside => ?_
  refine Sat.ite (fun _ => trivial) fun enough => ?_
  rw [rpcHeaderSize, bindFixedFieldsSize] at enough
  refine (slice_sat (by rw [rpcHeaderSize]; omega) (by omega)).bind fun r cut => ?_
  rw [rpcHeaderSize] at cut
  refine u16Le.bind_sat u16Le_width (by omega) fun maxXmitFrag r left => ?_
  refine u16Le.bind_sat u16Le_width (by omega) fun maxRecvFrag r left => ?_
  refine u32Le.bind_sat u32Le_width (by omega) fun assocGroupId r left => ?_
  refine u8.bind_sat u8_width (by omega) fun numContexts r left => ?_
  refine Sat.ite (fun _ => trivial) fun _ => ?_
  refine advance_bind_sat (by omega) fun r left => ?_
  refine (parseContexts_safe _ _ _ _).bind fun contexts _ => ?_
  dsimp only
  cases contexts.1.abstractSyntax with
  | none => trivial
  | some abstractSyntax => cases contexts.1.transferSyntax <;> trivial

theorem RequestPdu.parse_safe (buf : Bytes) : (RequestPdu.parse buf).Safe := by
  unfold RequestPdu.parse
  refine (RpcPduHeader.parse_sat buf).bind fun header announced => ?_
  refine Sat.ite (fun _ => trivial) fun _ => ?_
  refine header.bodyEnd_sat.bind fun bodyEnd inside => ?_
  refine Sat.ite (fun _ => trivial) fun enough => ?_
  rw [rpcHeaderSize, requestFixedFieldsSize] at enough
  refine (slice_sat (by rw [rpcHeaderSize]; omega) (by omega)).bind fun r cut => ?_
  rw [rpcHeaderSize] at cut
  refine u32Le.bind_sat u32Le_width (by omega) fun allocHint r left => ?_
  refine u16Le.bind_sat u16Le_width (by omega) fun contextId r left => ?_
  refine u16Le.bind_sat u16Le_width (by omega) fun opnum r left => ?_
  trivial

/-! ## RTS PDUs -/

theorem ensureRemaining_sat (available needed : Nat) :
    (ensureRemaining available needed).Sat fun _ => needed ≤ available := by
  unfold ensureRemaining
  exact Sat.ite (fun _ => trivial) fun enough => Nat.le_of_not_lt enough

/-- A checked read never crashes, and it shortens the cursor. -/
theorem checkedGet_sat {α : Type} (codec : FixedCodec α) (buf : Bytes) :
    (checkedGet codec buf).Sat fun read => read.2.length ≤ buf.length := by
  unfold checkedGet
  refine (ensureRemaining_sat _ _).bind fun _ enough => ?_
  exact (codec.get_sat enough).mono fun read left => by omega

/-- A command leaves a cursor that is not longer than the one it was read from. -/
theorem RtsCommand.parse_sat (buf : Bytes) :
    (RtsCommand.parse buf).Sat fun read => read.2.length ≤ buf.length := by
  unfold RtsCommand.parse
  refine (checkedGet_sat u16Le buf).bind fun commandType typed => ?_
  have single {α : Type} (codec : FixedCodec α) (wrap : α → RtsCommand) :
      (checkedGet codec commandType.2 >>= fun read => Outcome.ok (wrap read.1, read.2)).Sat
        fun read => read.2.length ≤ buf.length :=
    (checkedGet_sat codec commandType.2).bind fun _ left => Nat.le_trans left typed
  refine Sat.ite (fun _ => single u32Le .receiveWindowSize) fun _ => ?_
  refine Sat.ite (fun _ => ?_) fun _ => ?_
  · refine (ensureRemaining_sat _ _).bind fun _ enough => ?_
    refine u32Le.bind_sat u32Le_width (by omega) fun bytesReceived rest left => ?_
    refine u32Le.bind_sat u32Le_width (by omega) fun availableWindow rest left => ?_
    refine (checkedGet_sat uuidLe rest).bind fun channelCookie shorter => ?_
    simp only [Outcome.pure_eq, Outcome.sat_ok]
    omega
  refine Sat.ite (fun _ => single u32Le .connectionTimeout) fun _ => ?_
  refine Sat.ite (fun _ => single uuidLe .cookie) fun _ => ?_
  refine Sat.ite (fun _ => single u32Le .channelLifetime) fun _ => ?_
  refine Sat.ite (fun _ => single u32Le .clientKeepalive) fun _ => ?_
  refine Sat.ite (fun _ => single u32Le .version) fun _ => ?_
  exact Sat.ite (fun _ => single uuidLe .associationGroupId) fun _ => trivial

theorem parseCommands_sat (numCommands : Nat) (buf : Bytes) :
    (parseCommands numCommands buf).Sat fun read => read.2.length ≤ buf.length :=
  getMany_sat RtsCommand.parse_sat numCommands buf

theorem RtsPdu.parse_safe (data : Bytes) : (RtsPdu.parse data).Safe := by
  unfold RtsPdu.parse
  refine (ensureRemaining_sat _ _).bind fun _ enough => ?_
  rw [rtsHeaderLen] at enough
  refine u8.bind_sat u8_width (by omega) fun rpcVersion buf left => ?_
  refine u8.bind_sat u8_width (by omega) fun rpcVersionMinor buf left => ?_
  refine u8.bind_sat u8_width (by omega) fun ptype buf left => ?_
  refine u8.bind_sat u8_width (by omega) fun pfcFlags buf left => ?_
  refine (byteArray 4).bind_sat (byteArray_width 4) (by omega) fun packedDrep buf left => ?_
  refine u16Le.bind_sat u16Le_width (by omega) fun fragLength buf left => ?_
  refine u16Le.bind_sat u16Le_width (by omega) fun authLength buf left => ?_
  refine u32Le.bind_sat u32Le_width (by omega) fun callId buf left => ?_
  refine u16Le.bind_sat u16Le_width (by omega) fun flags buf left => ?_
  refine u16Le.bind_sat u16Le_width (by omega) fun numCommands buf left => ?_
  refine Sat.ite (fun _ => trivial) fun _ => ?_
  refine Sat.ite (fun _ => trivial) fun _ => ?_
  refine Sat.ite (fun _ => trivial) fun _ => ?_
  refine Sat.ite (fun _ => trivial) fun _ => ?_
  refine (parseCommands_sat numCommands.toNat buf).bind fun read shorter => ?_
  refine Sat.ite (fun _ => ?_) fun _ => trivial
  exact (checkedSub_sat (by omega)).bind fun _ _ => trivial

/-! ## NTLM messages -/

namespace Ntlm

theorem wordAt_safe {α : Type} {codec : FixedCodec α} {data : Bytes} {size lo hi : Nat}
    (sized : codec.width = size) (exact : lo + size = hi) (inside : hi ≤ data.length) :
    (wordAt codec data lo hi).Safe := by
  unfold wordAt
  refine (slice_sat (by omega) inside).bind fun part cut => ?_
  have whole : part.length = codec.width := by omega
  rw [if_pos whole]
  trivial

/-- The offset and the length of a buffer come from the peer, as words of 32 and
16 bits: their sum stays far below the 64 bits it is computed in. -/
theorem readSecurityBufferRaw_safe (data : Bytes) {offset : Nat} (small : offset < 2 ^ 32) :
    (readSecurityBufferRaw data offset).Safe := by
  unfold readSecurityBufferRaw
  refine (checkedAdd_sat (by omega)).bind fun bufferEnd ends => ?_
  refine Sat.ite (fun _ => trivial) fun enough => ?_
  refine (wordAt_safe u16Le_width (by omega) (by omega)).bind fun len _ => ?_
  refine (wordAt_safe u32Le_width (by omega) (by omega)).bind fun bufOffset _ => ?_
  refine Sat.ite (fun _ => trivial) fun _ => ?_
  have lenBound := len.toNat_lt
  have offsetBound := bufOffset.toNat_lt
  refine (checkedAdd_sat (by omega)).bind fun contentEnd ends => ?_
  exact Sat.ite (fun _ => trivial) fun inside => (slice_sat (by omega) (by omega)).safe

theorem readSecurityBuffer_safe (data : Bytes) {offset : Nat} (small : offset < 2 ^ 32) :
    (readSecurityBuffer data offset).Safe := by
  unfold readSecurityBuffer
  refine (Sat.unwrapOr (readSecurityBufferRaw_safe data small) trivial).bind fun raw _ => ?_
  exact Sat.ite (fun _ => trivial) fun _ => Sat.ite (fun _ => trivial) fun _ => trivial

theorem parseNegotiate_safe (data : Bytes) : (parseNegotiate data).Safe := by
  unfold parseNegotiate
  refine Sat.ite (fun _ => trivial) fun enough => ?_
  refine (slice_sat (by omega) (by omega)).bind fun signature _ => ?_
  refine Sat.ite (fun _ => trivial) fun _ => ?_
  refine (wordAt_safe u32Le_width (by omega) (by omega)).bind fun msgType _ => ?_
  refine Sat.ite (fun _ => trivial) fun _ => ?_
  refine (wordAt_safe u32Le_width (by omega) (by omega)).bind fun flags _ => ?_
  refine (readSecurityBuffer_safe data (by decide)).bind fun domain _ => ?_
  exact (readSecurityBuffer_safe data (by decide)).bind fun _ _ => trivial

theorem parseAuthenticate_safe (data : Bytes) : (parseAuthenticate data).Safe := by
  unfold parseAuthenticate
  refine Sat.ite (fun _ => trivial) fun enough => ?_
  refine (slice_sat (by omega) (by omega)).bind fun signature _ => ?_
  refine Sat.ite (fun _ => trivial) fun _ => ?_
  refine (wordAt_safe u32Le_width (by omega) (by omega)).bind fun msgType _ => ?_
  refine Sat.ite (fun _ => trivial) fun _ => ?_
  refine (readSecurityBufferRaw_safe data (by decide)).bind fun lmResponse _ => ?_
  refine (readSecurityBufferRaw_safe data (by decide)).bind fun ntResponse _ => ?_
  refine (readSecurityBufferRaw_safe data (by decide)).bind fun domainBuf _ => ?_
  refine (readSecurityBufferRaw_safe data (by decide)).bind fun usernameBuf _ => ?_
  refine (readSecurityBufferRaw_safe data (by decide)).bind fun workstationBuf _ => ?_
  have sessionKey : (readSecurityBufferRaw data 52).Safe :=
    readSecurityBufferRaw_safe data (by decide)
  refine (Sat.unwrapOr sessionKey trivial).bind fun encryptedRandomSessionKey _ => ?_
  refine Sat.ite (fun room => ?_) fun _ => trivial
  exact (wordAt_safe u32Le_width (by omega) (by omega)).bind fun _ _ => trivial

end Ntlm

/-! ## All parsers -/

/-- Every parser of client bytes returns, with a value or an error, on every input. -/
theorem parsers_never_panic (data : Bytes) :
    parseMessage data ≠ .panicked ∧ RtsPdu.parse data ≠ .panicked ∧
      RpcPduHeader.parse data ≠ .panicked ∧ BindPdu.parse data ≠ .panicked ∧
      RequestPdu.parse data ≠ .panicked ∧ Ntlm.parseNegotiate data ≠ .panicked ∧
      Ntlm.parseAuthenticate data ≠ .panicked :=
  ⟨(parseMessage_safe data).ne_panicked, (RtsPdu.parse_safe data).ne_panicked,
    (RpcPduHeader.parse_sat data).ne_panicked, (BindPdu.parse_safe data).ne_panicked,
    (RequestPdu.parse_safe data).ne_panicked, (Ntlm.parseNegotiate_safe data).ne_panicked,
    (Ntlm.parseAuthenticate_safe data).ne_panicked⟩

end RdGateway.Proto
