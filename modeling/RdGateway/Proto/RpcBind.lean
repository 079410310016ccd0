import RdGateway.Proto.RpcProperties
import RdGateway.Wirekit.Reader

/-!
# Context lists of a Bind

The two loops of `BindPdu::parse` walk over every list of contexts. The first context is
what is returned; a list that is cut off, or has a count of zero in it, is refused.
-/

set_option autoImplicit false

namespace RdGateway.Proto

open Wirekit Reader

/-! ## Encoded contexts -/

structure BindContext where
  contextId : UInt16
  reserved : UInt8
  abstractSyntax : SyntaxId
  transferSyntaxes : List SyntaxId
  counted : transferSyntaxes.length ≤ 255

def BindContext.put (context : BindContext) : Bytes :=
  u16Le.put context.contextId ++ (u8.put (UInt8.ofNat context.transferSyntaxes.length) ++
    (u8.put context.reserved ++
      (context.abstractSyntax.write ++ context.transferSyntaxes.flatMap SyntaxId.write)))

/-- The body of a Bind, up to the end of its last context. -/
structure BindBody where
  maxXmitFrag : UInt16
  maxRecvFrag : UInt16
  assocGroupId : UInt32
  reserved : Vector UInt8 3
  contexts : List BindContext
  counted : contexts.length ≤ 255

def BindBody.put (body : BindBody) : Bytes :=
  u16Le.put body.maxXmitFrag ++ (u16Le.put body.maxRecvFrag ++ (u32Le.put body.assocGroupId ++
    (u8.put (UInt8.ofNat body.contexts.length) ++
      ((byteArray 3).put body.reserved ++ body.contexts.flatMap BindContext.put))))

/-- The header of a Bind PDU with this body, padding and authentication trailer. -/
structure BindHeader (header : RpcPduHeader) (body : BindBody) (padding trailer : Bytes) : Prop where
  version : header.rpcVers = rpcVersion
  versionMinor : header.rpcVersMinor = rpcVersionMinor
  ptype : header.ptype = .bind
  authLength : header.authLength.toNat = trailer.length
  fragLength : header.fragLength.toNat =
    rpcHeaderSize + body.put.length + padding.length + trailer.length

/-! ## Syntaxes -/

theorem SyntaxId.write_length (syntaxId : SyntaxId) : syntaxId.write.length = syntaxIdSize := by
  simp [SyntaxId.write, syntaxIdSize, uuidLe_width]

theorem SyntaxId.parse_write_append (syntaxId : SyntaxId) (rest : Bytes) :
    SyntaxId.parse (syntaxId.write ++ rest) = .ok (syntaxId, rest) := by
  have enough : ¬ (syntaxId.write ++ rest).length < syntaxIdSize := by
    rw [List.length_append, syntaxId.write_length]
    omega
  rw [SyntaxId.parse, if_neg enough]
  simp only [SyntaxId.write, List.append_assoc, FixedCodec.get_put_append, Outcome.ok_bind,
    Outcome.pure_eq]

theorem SyntaxId.parse_streaming : Streaming SyntaxId.parse := by
  unfold SyntaxId.parse
  apply Streaming.guarded
  refine (streaming_get uuidLe).bind fun uuid => ?_
  refine (streaming_get u32Le).bind fun version => ?_
  exact .pure _

theorem parseTransferSyntaxes_streaming (remaining transferIndex : Nat) (transferSyntax : Option SyntaxId) :
    Streaming fun r => parseTransferSyntaxes remaining transferIndex transferSyntax r := by
  induction remaining generalizing transferIndex transferSyntax with
  | zero => exact .pure transferSyntax
  | succ remaining ih =>
      unfold parseTransferSyntaxes
      exact SyntaxId.parse_streaming.bind fun _ => ih _ _

theorem parseContexts_streaming (remaining contextIndex : Nat) (first : FirstContext) :
    Streaming fun r => parseContexts remaining contextIndex first r := by
  induction remaining generalizing contextIndex first with
  | zero => exact .pure first
  | succ remaining ih =>
      unfold parseContexts
      apply Streaming.guarded
      refine (streaming_get u16Le).bind fun contextId => ?_
      refine (streaming_get u8).bind fun numTransferSyntaxes => ?_
      apply Streaming.checked
      apply Streaming.advanced
      refine SyntaxId.parse_streaming.bind fun abstractSyntax => ?_
      refine (parseTransferSyntaxes_streaming _ _ _).bind fun transferSyntax => ?_
      exact ih _ _

/-! ## The loops over encoded lists -/

/-- Behind the first round the loop only checks that the syntaxes are there. -/
theorem parseTransferSyntaxes_later (syntaxes : List SyntaxId) (transferIndex : Nat)
    (chosen : Option SyntaxId) (rest : Bytes) :
    parseTransferSyntaxes syntaxes.length (transferIndex + 1) chosen
      (syntaxes.flatMap SyntaxId.write ++ rest) = .ok (chosen, rest) := by
  induction syntaxes generalizing transferIndex with
  | nil => rfl
  | cons syntaxId syntaxes ih =>
      rw [List.length_cons, parseTransferSyntaxes, List.flatMap_cons, List.append_assoc,
        SyntaxId.parse_write_append, Outcome.ok_bind]
      exact ih (transferIndex + 1)

theorem parseTransferSyntaxes_head {syntaxes : List SyntaxId} (populated : syntaxes ≠ []) (rest : Bytes) :
    parseTransferSyntaxes syntaxes.length 0 none (syntaxes.flatMap SyntaxId.write ++ rest) =
      .ok (syntaxes.head?, rest) := by
  cases syntaxes with
  | nil => exact absurd rfl populated
  | cons syntaxId syntaxes =>
      rw [List.length_cons, parseTransferSyntaxes, List.flatMap_cons, List.append_assoc,
        SyntaxId.parse_write_append, Outcome.ok_bind]
      exact parseTransferSyntaxes_later syntaxes 0 _ rest

theorem count_toNat {count : Nat} (small : count ≤ 255) : (UInt8.ofNat count).toNat = count := by
  rw [UInt8.toNat_ofNat', Nat.mod_eq_of_lt (by omega)]

/-- What a context leaves when it is the first one. -/
def BindContext.chosen (context : BindContext) : FirstContext :=
  { contextId := context.contextId
    numTransferSyntaxes := UInt8.ofNat context.transferSyntaxes.length
    abstractSyntax := some context.abstractSyntax
    transferSyntax := context.transferSyntaxes.head? }

theorem BindContext.put_length (context : BindContext) : 4 ≤ context.put.length := by
  simp [BindContext.put]
  omega

theorem parseContexts_populated {context : BindContext} (populated : context.transferSyntaxes ≠ [])
    (remaining contextIndex : Nat) (first : FirstContext) (r : Bytes) :
    parseContexts (remaining + 1) contextIndex first (context.put ++ r) =
      parseContexts remaining (contextIndex + 1)
        (if contextIndex = 0 then context.chosen else first) r := by
  have long := context.put_length
  have enough : ¬ (context.put ++ r).length < 4 := by
    rw [List.length_append]
    omega
  have size := count_toNat context.counted
  have nonzero : UInt8.ofNat context.transferSyntaxes.length ≠ 0 := by
    intro zero
    rw [zero] at size
    exact populated (List.length_eq_zero_iff.mp size.symm)
  have skipped (rest : Bytes) :
      (advance 1 (u8.put context.reserved ++ rest) : Outcome RpcError Bytes) = .ok rest :=
    advance_append rest rfl
  rw [parseContexts, if_neg enough]
  simp only [BindContext.put, List.append_assoc, FixedCodec.get_put_append, Outcome.ok_bind, if_neg nonzero,
    skipped, SyntaxId.parse_write_append, size, parseTransferSyntaxes_head populated, BindContext.chosen]

theorem parseContexts_unpopulated {context : BindContext} (unpopulated : context.transferSyntaxes = [])
    (remaining contextIndex : Nat) (first : FirstContext) (r : Bytes) :
    parseContexts (remaining + 1) contextIndex first (context.put ++ r) =
      .err (.invalidTransferSyntaxCount 0) := by
  have long := context.put_length
  have enough : ¬ (context.put ++ r).length < 4 := by
    rw [List.length_append]
    omega
  have zero : UInt8.ofNat context.transferSyntaxes.length = 0 := by rw [unpopulated]; rfl
  rw [parseContexts, if_neg enough]
  simp only [BindContext.put, List.append_assoc, FixedCodec.get_put_append, Outcome.ok_bind, if_pos zero]
  rw [zero]

theorem parseContexts_later {contexts : List BindContext}
    (populated : ∀ context ∈ contexts, context.transferSyntaxes ≠ []) (contextIndex : Nat)
    (first : FirstContext) (rest : Bytes) :
    parseContexts contexts.length (contextIndex + 1) first
      (contexts.flatMap BindContext.put ++ rest) = .ok (first, rest) := by
  induction contexts generalizing contextIndex with
  | nil => rfl
  | cons context contexts ih =>
      obtain ⟨head, tail⟩ := List.forall_mem_cons.mp populated
      rw [List.length_cons, List.flatMap_cons, List.append_assoc, parseContexts_populated head]
      exact ih tail (contextIndex + 1)

/-- The first context is kept whatever stands in the later ones. -/
theorem parseContexts_head {first : BindContext} {others : List BindContext}
    (populated : ∀ context ∈ first :: others, context.transferSyntaxes ≠ []) (rest : Bytes) :
    parseContexts (first :: others).length 0 .unset ((first :: others).flatMap BindContext.put ++ rest) =
      .ok (first.chosen, rest) := by
  obtain ⟨head, tail⟩ := List.forall_mem_cons.mp populated
  rw [List.length_cons, List.flatMap_cons, List.append_assoc, parseContexts_populated head]
  exact parseContexts_later tail 0 _ rest

theorem parseContexts_zero {contexts : List BindContext}
    (zero : ∃ context ∈ contexts, context.transferSyntaxes = []) (contextIndex : Nat)
    (first : FirstContext) (rest : Bytes) :
    parseContexts contexts.length contextIndex first (contexts.flatMap BindContext.put ++ rest) =
      .err (.invalidTransferSyntaxCount 0) := by
  induction contexts generalizing contextIndex first with
  | nil =>
      obtain ⟨_, member, _⟩ := zero
      cases member
  | cons context contexts ih =>
      rw [List.length_cons, List.flatMap_cons, List.append_assoc]
      by_cases unpopulated : context.transferSyntaxes = []
      · exact parseContexts_unpopulated unpopulated _ _ _ _
      · obtain ⟨other, member, found⟩ := zero
        rw [parseContexts_populated unpopulated]
        cases member with
        | head => exact absurd found unpopulated
        | tail _ later => exact ih ⟨other, later, found⟩ _ _

/-! ## The body between header and trailer -/

section Encoded

variable {header : RpcPduHeader} {body : BindBody} {padding trailer : Bytes}

theorem BindBody.put_length (body : BindBody) :
    body.put.length = bindFixedFieldsSize + (body.contexts.flatMap BindContext.put).length := by
  simp only [BindBody.put, List.length_append, FixedCodec.put_length, u8_width, u16Le_width,
    u32Le_width, byteArray_width, bindFixedFieldsSize]
  omega

theorem BindHeader.parsed (encodes : BindHeader header body padding trailer) (later : Bytes) :
    RpcPduHeader.parse (header.write ++ (body.put ++ (padding ++ (trailer ++ later)))) = .ok header := by
  refine RpcPduHeader.parse_eq_ok.mpr ⟨⟨encodes.version, encodes.versionMinor, ?_, ?_⟩, _, rfl⟩
  · rw [encodes.fragLength]
    omega
  · rw [encodes.fragLength]
    simp only [List.length_append, header.write_length]
    omega

theorem BindHeader.bodyEnd (encodes : BindHeader header body padding trailer) :
    header.bodyEnd = .ok (rpcHeaderSize + (body.put ++ padding).length) := by
  rw [RpcPduHeader.bodyEnd, encodes.fragLength, encodes.authLength, if_pos (by omega), List.length_append]
  congr 1
  omega

/-- The slice that the body is read from. -/
theorem slice_body (header : RpcPduHeader) (body later : Bytes) :
    (slice (header.write ++ (body ++ later)) rpcHeaderSize (rpcHeaderSize + body.length) :
      Outcome RpcError Bytes) = .ok body := by
  rw [slice_eq (by omega) (by simp only [List.length_append, header.write_length]; omega),
    List.drop_left' header.write_length, Nat.add_sub_cancel_left, List.take_left]

theorem BindPdu.parse_encoded (encodes : BindHeader header body padding trailer)
    {first : BindContext} {others : List BindContext} (listed : body.contexts = first :: others)
    (populated : ∀ context ∈ body.contexts, context.transferSyntaxes ≠ []) {syntaxId : SyntaxId}
    {more : List SyntaxId} (offered : first.transferSyntaxes = syntaxId :: more) (later : Bytes) :
    BindPdu.parse (header.write ++ (body.put ++ (padding ++ (trailer ++ later)))) =
      .ok { header, maxXmitFrag := body.maxXmitFrag, maxRecvFrag := body.maxRecvFrag,
            assocGroupId := body.assocGroupId, numContexts := UInt8.ofNat body.contexts.length,
            contextId := first.contextId,
            numTransferSyntaxes := UInt8.ofNat first.transferSyntaxes.length,
            abstractSyntax := first.abstractSyntax, transferSyntax := syntaxId } := by
  have size := count_toNat body.counted
  have nonzero : UInt8.ofNat body.contexts.length ≠ 0 := by
    intro zero
    rw [zero, listed] at size
    cases size
  have fixed : ¬ rpcHeaderSize + (body.put ++ padding).length < rpcHeaderSize + bindFixedFieldsSize := by
    rw [List.length_append, body.put_length]
    omega
  have walked := parseContexts_head (listed ▸ populated) padding
  rw [← listed] at walked
  have skipped (rest : Bytes) :
      (advance 3 ((byteArray 3).put body.reserved ++ rest) : Outcome RpcError Bytes) = .ok rest :=
    advance_append rest ((byteArray 3).put_length _)
  have sliced := slice_body header (body.put ++ padding) (trailer ++ later)
  rw [List.append_assoc] at sliced
  rw [BindPdu.parse, encodes.parsed, Outcome.ok_bind, if_neg (not_not.mpr encodes.ptype), encodes.bodyEnd,
    Outcome.ok_bind, if_neg fixed, sliced, Outcome.ok_bind]
  simp only [BindBody.put, List.append_assoc, FixedCodec.get_put_append, Outcome.ok_bind,
    if_neg nonzero, skipped, size, walked, BindContext.chosen, offered, List.head?_cons, Outcome.pure_eq]

end Encoded

theorem RpcPduHeader.parse_write {header found : RpcPduHeader} {rest : Bytes}
    (parsed : RpcPduHeader.parse (header.write ++ rest) = .ok found) : found = header := by
  have long : ¬ (header.write ++ rest).length < rpcHeaderSize := by
    rw [List.length_append, header.write_length]
    omega
  rw [RpcPduHeader.parse, if_neg long] at parsed
  generalize (header.write ++ rest).length = length at parsed
  simp only [RpcPduHeader.write, List.append_assoc, FixedCodec.get_put_append, Outcome.ok_bind,
    RpcPduType.fromU8_toU8, Outcome.pure_eq] at parsed
  split at parsed
  · cases parsed
  split at parsed
  · cases parsed
  split at parsed
  · cases parsed
  cases parsed
  rfl

/-- An accepted body that agrees with an encoded one, as far as both go, has its context
count, and the loop has walked over the bytes behind it. -/
theorem BindPdu.parse_walked {header : RpcPduHeader} {front later more extra : Bytes} {bind : BindPdu}
    {body : BindBody}
    (cut : header.fragLength.toNat - header.authLength.toNat - rpcHeaderSize = front.length)
    (parsed : BindPdu.parse (header.write ++ (front ++ later)) = .ok bind)
    (same : front ++ more = body.put ++ extra) :
    body.contexts ≠ [] ∧ ∃ r first rest, parseContexts body.contexts.length 0 .unset r = .ok (first, rest) ∧
      r ++ more = body.contexts.flatMap BindContext.put ++ extra := by
  simp only [BindPdu.parse, Outcome.bind_eq_ok] at parsed
  obtain ⟨found, headerParsed, parsed⟩ := parsed
  cases RpcPduHeader.parse_write headerParsed
  split at parsed
  · cases parsed
  simp only [Outcome.bind_eq_ok] at parsed
  obtain ⟨bodyEnd, ended, parsed⟩ := parsed
  unfold RpcPduHeader.bodyEnd at ended
  split at ended
  next inside =>
    cases ended
    split at parsed
    · cases parsed
    next fixed =>
    have exact : header.fragLength.toNat - header.authLength.toNat = rpcHeaderSize + front.length := by
      rw [bindFixedFieldsSize] at fixed
      omega
    rw [exact, slice_body, Outcome.ok_bind] at parsed
    simp only [Outcome.bind_eq_ok, Prod.exists, FixedCodec.get_eq_ok] at parsed
    obtain ⟨maxXmitFrag, _, rfl, maxRecvFrag, _, rfl, assocGroupId, _, rfl, numContexts, _, rfl, parsed⟩ :=
      parsed
    split at parsed
    · cases parsed
    next nonzero =>
    simp only [Outcome.bind_eq_ok, Prod.exists, advance_eq_ok] at parsed
    obtain ⟨r, ⟨reserved, sized, rfl⟩, first, rest, walked, _⟩ := parsed
    simp only [BindBody.put, List.append_assoc] at same
    obtain ⟨_, same⟩ := List.append_inj same (by simp)
    obtain ⟨_, same⟩ := List.append_inj same (by simp)
    obtain ⟨_, same⟩ := List.append_inj same (by simp)
    obtain ⟨count, same⟩ := List.append_inj same (by simp)
    obtain ⟨_, same⟩ := List.append_inj same (by simp [sized])
    have counted : numContexts = UInt8.ofNat body.contexts.length := List.singleton_inj.mp count
    rw [counted, count_toNat body.counted] at walked
    refine ⟨fun none => nonzero ?_, r, first, rest, walked, same⟩
    rw [counted, none]
    rfl
  · cases ended

theorem BindPdu.err_of_unaccepted {buf : Bytes} (unaccepted : ∀ bind, BindPdu.parse buf ≠ .ok bind) :
    ∃ error, BindPdu.parse buf = .err error := by
  cases outcome : BindPdu.parse buf with
  | ok bind => exact absurd outcome (unaccepted bind)
  | err error => exact ⟨error, rfl⟩
  | panicked => exact absurd outcome (BindPdu.parse_safe buf).ne_panicked

def BindBody.HasZero (body : BindBody) : Prop :=
  body.contexts = [] ∨ ∃ context ∈ body.contexts, context.transferSyntaxes = []

theorem BindPdu.parse_zero {header : RpcPduHeader} {body : BindBody} {padding trailer : Bytes}
    (encodes : BindHeader header body padding trailer) (zero : body.HasZero) (later : Bytes) :
    ∃ error, BindPdu.parse (header.write ++ (body.put ++ (padding ++ (trailer ++ later)))) = .err error := by
  apply BindPdu.err_of_unaccepted
  intro bind parsed
  have cut : header.fragLength.toNat - header.authLength.toNat - rpcHeaderSize =
      (body.put ++ padding).length := by
    rw [encodes.fragLength, encodes.authLength, List.length_append]
    omega
  rw [← List.append_assoc body.put] at parsed
  obtain ⟨nonempty, r, first, rest, walked, same⟩ := BindPdu.parse_walked cut parsed (List.append_nil _)
  rw [List.append_nil] at same
  rcases zero with none | unpopulated
  · exact nonempty none
  · rw [same, parseContexts_zero unpopulated] at walked
    cases walked

/-- A body that is cut off anywhere is refused, whatever its counts are. -/
theorem BindPdu.parse_cut {header : RpcPduHeader} {body : BindBody} {front later : Bytes}
    (cut : header.fragLength.toNat - header.authLength.toNat - rpcHeaderSize = front.length)
    (starts : front <+: body.put) (shorter : front.length < body.put.length) :
    ∃ error, BindPdu.parse (header.write ++ (front ++ later)) = .err error := by
  apply BindPdu.err_of_unaccepted
  intro bind parsed
  obtain ⟨more, whole⟩ := starts
  have joined : front ++ more = body.put ++ [] := by rw [whole, List.append_nil]
  obtain ⟨nonempty, r, first, rest, walked, same⟩ := BindPdu.parse_walked cut parsed joined
  by_cases unpopulated : ∃ context ∈ body.contexts, context.transferSyntaxes = []
  · have extended := parseContexts_streaming _ _ _ _ _ _ walked more
    dsimp only at extended
    rw [same, parseContexts_zero unpopulated] at extended
    cases extended
  · have populated : ∀ context ∈ body.contexts, context.transferSyntaxes ≠ [] :=
      fun context member none => unpopulated ⟨context, member, none⟩
    cases listed : body.contexts with
    | nil => exact nonempty listed
    | cons head others =>
        have complete := parseContexts_head (listed ▸ populated) []
        rw [← listed, ← same] at complete
        have left : r.length < (r ++ more).length := by
          rw [← whole, List.length_append] at shorter
          rw [List.length_append]
          omega
        exact (parseContexts_streaming _ _ _).refuses_front complete (List.prefix_append r more) left _ _
          walked

/-- Every list of contexts is walked to its end: the first context is returned whatever
the later ones hold, and a count of zero or a body that ends too early is an error. -/
theorem bind_context_lists (header : RpcPduHeader) (body : BindBody) :
    (∀ padding trailer later, BindHeader header body padding trailer →
      (∀ first others syntaxId more, body.contexts = first :: others →
        first.transferSyntaxes = syntaxId :: more →
        (∀ context ∈ others, context.transferSyntaxes ≠ []) →
        BindPdu.parse (header.write ++ (body.put ++ (padding ++ (trailer ++ later)))) =
          .ok { header, maxXmitFrag := body.maxXmitFrag, maxRecvFrag := body.maxRecvFrag,
                assocGroupId := body.assocGroupId, numContexts := UInt8.ofNat body.contexts.length,
                contextId := first.contextId,
                numTransferSyntaxes := UInt8.ofNat first.transferSyntaxes.length,
                abstractSyntax := first.abstractSyntax, transferSyntax := syntaxId }) ∧
      (body.HasZero →
        ∃ error, BindPdu.parse (header.write ++ (body.put ++ (padding ++ (trailer ++ later)))) =
          .err error)) ∧
    ∀ front later, front <+: body.put → front.length < body.put.length →
      header.fragLength.toNat - header.authLength.toNat - rpcHeaderSize = front.length →
      ∃ error, BindPdu.parse (header.write ++ (front ++ later)) = .err error := by
  constructor
  · intro padding trailer later encodes
    constructor
    · intro first others syntaxId more listed offered populated
      have head : first.transferSyntaxes ≠ [] := by
        intro none
        rw [none] at offered
        cases offered
      have all : ∀ context ∈ body.contexts, context.transferSyntaxes ≠ [] := by
        rw [listed]
        exact List.forall_mem_cons.mpr ⟨head, populated⟩
      exact BindPdu.parse_encoded encodes listed all offered later
    · intro zero
      exact BindPdu.parse_zero encodes zero later
  · intro front later starts shorter cut
    exact BindPdu.parse_cut cut starts shorter

/-- Two contexts, of which the second has two syntaxes. -/
def sampleBind : BindBody :=
  { maxXmitFrag := 5840, maxRecvFrag := 5840, assocGroupId := 0, reserved := #v[0, 0, 0]
    contexts := [⟨0, 0, .tsg, [.ndr], by decide⟩, ⟨1, 0, .ndr, [.tsg, .ndr], by decide⟩]
    counted := by decide }

theorem bind_context_lists_two :
    let header := RpcPduHeader.new .bind pfcFirstAndLastFrag 138 1 7
    let shorter := RpcPduHeader.new .bind pfcFirstAndLastFrag 135 0 7
    BindPdu.parse (header.write ++ (sampleBind.put ++ ([0] ++ ([0xff] ++ [3])))) =
        .ok { header, maxXmitFrag := 5840, maxRecvFrag := 5840, assocGroupId := 0, numContexts := 2,
              contextId := 0, numTransferSyntaxes := 1, abstractSyntax := .tsg, transferSyntax := .ndr } ∧
      ∃ error, BindPdu.parse (shorter.write ++ (sampleBind.put.take 119 ++ [])) = .err error := by
  intro header shorter
  have sized : sampleBind.put.length = 120 := by decide +kernel
  have encodes : BindHeader header sampleBind [0] [0xff] := by
    constructor
    · rfl
    · rfl
    · rfl
    · rfl
    · rw [sized]
      rfl
  have front : (sampleBind.put.take 119).length = 119 := by rw [List.length_take, sized]; rfl
  refine ⟨((bind_context_lists header sampleBind).1 [0] [0xff] [3] encodes).1 _ _ _ _ rfl rfl (by simp), ?_⟩
  apply (bind_context_lists shorter sampleBind).2
  · exact List.take_prefix 119 sampleBind.put
  · rw [front, sized]
    decide
  · rw [front]
    rfl

end RdGateway.Proto
