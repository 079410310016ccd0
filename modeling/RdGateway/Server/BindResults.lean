import RdGateway.Proto.RpcEncoding
import RdGateway.Server.RpchChunkingProperties

/-!
# Results of a Bind

A client proposes up to 255 contexts in a Bind and finds the result of a context by its
position in the acknowledgement, which has room for one.
-/

set_option autoImplicit false

namespace RdGateway.Server

open Wirekit Proto

def AcceptsNdr (result : BindResult) : Prop :=
  result.result = 0 ∧ result.transferSyntax = SyntaxId.ndr

/-- One result for each proposed context, and the first context is accepted. -/
def ContextsAnswered (bind : BindPdu) (ack : Bytes) : Prop :=
  ∃ fields, readBindAck ack = .ok fields ∧ fields.results.length = bind.numContexts.toNat ∧
    ∃ first, fields.results.head? = some first ∧ AcceptsNdr first

/-- The count that a client writes in front of its contexts. -/
def contextCountOffset : Nat := rpcHeaderSize + 8

theorem BindPdu.parse_count {buf : Bytes} {bind : BindPdu} (parsed : BindPdu.parse buf = .ok bind) :
    buf[contextCountOffset]? = some bind.numContexts := by
  simp only [BindPdu.parse, Outcome.bind_eq_ok] at parsed
  obtain ⟨header, _, parsed⟩ := parsed
  split at parsed
  · cases parsed
  simp only [Outcome.bind_eq_ok] at parsed
  obtain ⟨bodyEnd, _, parsed⟩ := parsed
  split at parsed
  · cases parsed
  simp only [Outcome.bind_eq_ok, Prod.exists, FixedCodec.get_eq_ok] at parsed
  obtain ⟨body, sliced, maxXmitFrag, _, rfl, maxRecvFrag, _, rfl, assocGroupId, _, rfl, numContexts,
    contexts, rfl, parsed⟩ := parsed
  have counted : buf[contextCountOffset]? = some numContexts := by
    unfold slice at sliced
    split at sliced
    · have there : ((buf.drop rpcHeaderSize).take (bodyEnd - rpcHeaderSize))[8]? = some numContexts := by
        have front : (u16Le.put maxXmitFrag ++ (u16Le.put maxRecvFrag ++ u32Le.put assocGroupId)).length = 8 := by
          simp
        rw [Outcome.ok.inj sliced, ← List.append_assoc (u16Le.put maxRecvFrag), ← List.append_assoc,
          List.getElem?_append_right (Nat.le_of_eq front), front]
        rfl
      rw [List.getElem?_take] at there
      split at there
      · rw [← there, List.getElem?_drop]
        rfl
      · cases there
    · cases sliced
  split at parsed
  · cases parsed
  simp only [Outcome.bind_eq_ok, Prod.exists] at parsed
  obtain ⟨_, _, first, _, _, parsed⟩ := parsed
  split at parsed
  · cases parsed
  · cases parsed
  · cases parsed
    exact counted

/-! ## The acknowledgement -/

theorem BindAckPdu.accepted_read (callId assocGroupId : UInt32) :
    ∃ fields, readBindAck (BindAckPdu.accepted callId assocGroupId secondaryAddress).encode = .ok fields ∧
      fields.results = [⟨0, 0, SyntaxId.ndr⟩] := by
  have small : (BindAckPdu.accepted callId assocGroupId secondaryAddress).encode.length ≤ 65535 := by
    rw [BindAckPdu.encode_length]
    show 26 + 1 + padTo4 3 + 28 ≤ 65535
    decide
  exact ⟨_, readBindAck_encode rfl rfl small, rfl⟩

theorem contextsAnswered_accepted (bind : BindPdu) (callId assocGroupId : UInt32) :
    ContextsAnswered bind (BindAckPdu.accepted callId assocGroupId secondaryAddress).encode ↔
      bind.numContexts = 1 := by
  obtain ⟨fields, read, single⟩ := BindAckPdu.accepted_read callId assocGroupId
  constructor
  · intro answered
    obtain ⟨found, again, counted, _⟩ := answered
    rw [read] at again
    cases again
    rw [single] at counted
    exact UInt8.toNat_inj.mp counted.symm
  · intro one
    refine ⟨fields, read, ?_, ⟨0, 0, SyntaxId.ndr⟩, ?_, rfl, rfl⟩
    · rw [single, one]
      rfl
    · rw [single]
      rfl

/-- What a handled Bind has sent. -/
theorem handleBind_sent {accepts : Nat → Bool} {state next : RpcState} {pduData : Bytes}
    (handled : handleBind accepts state pduData = (.ok (), next)) :
    ∃ bind, BindPdu.parse pduData = .ok bind ∧ next.sent = state.sent ++
      [(BindAckPdu.accepted bind.header.callId bind.assocGroupId secondaryAddress).encode] := by
  unfold handleBind at handled
  cases parsed : BindPdu.parse pduData with
  | err error =>
      rw [parsed] at handled
      cases handled
  | panicked =>
      rw [parsed] at handled
      cases handled
  | ok bind =>
      refine ⟨bind, rfl, ?_⟩
      rw [parsed] at handled
      dsimp only at handled
      split at handled
      · cases handled
      split at handled
      · cases handled
      · cases handled
      · next vconn entered =>
        unfold RpcState.send at handled
        by_cases taken : accepts state.sent.length = true
        · simp only [taken, if_true, Prod.mk.injEq, true_and] at handled
          rw [← handled]
        · simp [taken] at handled

/-- In every round that a Bind is accepted in, whatever was read and sent before it: the
acknowledgement answers the proposed contexts when there is one. -/
theorem contexts_answered_iff {accepts : Nat → Bool} {input next : RpcInput} {pdu : RpcPdu}
    (read : readPdu input.buf input.body = .ok (some pdu)) (isBind : pdu.header.ptype = .bind)
    (goesOn : rpcRound accepts input = .next next) :
    ∃ bind ack, BindPdu.parse pdu.pduData = .ok bind ∧
      pdu.pduData[contextCountOffset]? = some bind.numContexts ∧
      next.state.sent = input.state.sent ++ [ack] ∧
      (ContextsAnswered bind ack ↔ pdu.pduData[contextCountOffset]? = some 1) := by
  unfold rpcRound at goesOn
  rw [read] at goesOn
  dsimp only at goesOn
  split at goesOn
  · cases goesOn
  · next state handled =>
    cases goesOn
    rw [handlePdu, isBind] at handled
    obtain ⟨bind, parsed, sent⟩ := handleBind_sent handled
    have counted := BindPdu.parse_count parsed
    refine ⟨bind, _, parsed, counted, sent, ?_⟩
    rw [contextsAnswered_accepted, counted, Option.some_inj]

/-- A connection that both channels have entered, with this Bind to be read. -/
def establishedInput (bind : Bytes) : RpcInput :=
  .established ((registeredBy sampleA1).acceptInChannel sampleB1).2 (RtsPdu.connC2 7) bind []

theorem contexts_answered_iff_sample :
    ∃ bind ack next, rpcRound (fun _ => true) (establishedInput sampleBindBytes) = .next next ∧
      next.state.sent = [(RtsPdu.connC2 7).toBytes, ack] ∧ ContextsAnswered bind ack := by
  obtain ⟨bind, ack, _, counted, sent, answered⟩ :=
    @contexts_answered_iff (fun _ => true) (establishedInput sampleBindBytes) _ _ rfl rfl rfl
  exact ⟨bind, ack, _, rfl, sent, answered.mpr rfl⟩

/-- A Bind that proposes the gateway interface twice. -/
def twoContextBind : Bytes :=
  (RpcPduHeader.new .bind pfcFirstAndLastFrag 116 0 1).write ++ u16Le.put 5840 ++ u16Le.put 5840 ++
    u32Le.put 0 ++ [2, 0, 0, 0] ++ u16Le.put 0 ++ [1, 0] ++ SyntaxId.tsg.write ++ SyntaxId.ndr.write ++
    u16Le.put 1 ++ [1, 0] ++ SyntaxId.tsg.write ++ SyntaxId.ndr.write

/-- Two contexts are proposed and both are walked over; the request goes on with one result. -/
theorem two_contexts_one_result :
    let result := (rpcLoop fun _ => true).run (establishedInput twoContextBind)
    let ack := (BindAckPdu.accepted 1 0 secondaryAddress).encode
    result.1 = .ok () ∧ result.2.sent = [(RtsPdu.connC2 7).toBytes, ack] ∧
      ∃ bind, BindPdu.parse twoContextBind = .ok bind ∧ bind.numContexts = 2 ∧
        ¬ ContextsAnswered bind ack := by
  refine ⟨by decide +kernel, by decide +kernel,
    { header := RpcPduHeader.new .bind pfcFirstAndLastFrag 116 0 1, maxXmitFrag := 5840
      maxRecvFrag := 5840, assocGroupId := 0, numContexts := 2, contextId := 0
      numTransferSyntaxes := 1, abstractSyntax := .tsg, transferSyntax := .ndr },
    by decide +kernel, rfl, fun answered => ?_⟩
  have single := (contextsAnswered_accepted _ 1 0).mp answered
  cases single

end RdGateway.Server
