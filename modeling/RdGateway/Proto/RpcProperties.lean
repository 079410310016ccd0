import RdGateway.Proto.ParserSafety

/-!
# The common header

`RpcPduHeader.parse` accepts exactly the buffers that begin with an encoded header
and already hold the whole fragment that it announces. More bytes behind a fragment
that is there change nothing.
-/

set_option autoImplicit false

namespace RdGateway.Proto

open Wirekit

theorem RpcPduType.fromU8_eq_some {code : UInt8} {ptype : RpcPduType} :
    RpcPduType.fromU8 code = some ptype ↔ code = ptype.toU8 := by
  constructor
  · intro known
    unfold RpcPduType.fromU8 at known
    split at known <;> cases known <;> rfl
  · intro coded
    rw [coded, RpcPduType.fromU8_toU8]

theorem RpcPduType.toU8_injective {first second : RpcPduType} (same : first.toU8 = second.toU8) :
    first = second := by
  have known := RpcPduType.fromU8_eq_some.mpr same
  rw [RpcPduType.fromU8_toU8] at known
  exact Option.some.inj known

theorem RpcPduHeader.write_length (header : RpcPduHeader) : header.write.length = rpcHeaderSize := by
  simp [RpcPduHeader.write, rpcHeaderSize]

/-- The headers that stand in front of a whole fragment. -/
structure RpcPduHeader.Announces (header : RpcPduHeader) (available : Nat) : Prop where
  version : header.rpcVers = rpcVersion
  versionMinor : header.rpcVersMinor = rpcVersionMinor
  fitsHeader : rpcHeaderSize ≤ header.fragLength.toNat
  available : header.fragLength.toNat ≤ available

theorem RpcPduHeader.parse_eq_ok {buf : Bytes} {header : RpcPduHeader} :
    RpcPduHeader.parse buf = .ok header ↔
      header.Announces buf.length ∧ ∃ rest, buf = header.write ++ rest := by
  constructor
  · intro parsed
    unfold RpcPduHeader.parse at parsed
    split at parsed
    · cases parsed
    · simp only [Outcome.bind_eq_ok, Prod.exists, FixedCodec.get_eq_ok] at parsed
      obtain ⟨rpcVers, r, spelled, rpcVersMinor, _, rfl, parsed⟩ := parsed
      split at parsed
      · cases parsed
      next versions =>
      simp only [Outcome.bind_eq_ok, Prod.exists, FixedCodec.get_eq_ok] at parsed
      obtain ⟨code, r, rfl, parsed⟩ := parsed
      split at parsed
      · simp only [Outcome.bind_eq_ok, reduceCtorEq, and_false, exists_false] at parsed
      next ptype known =>
      simp only [Outcome.bind_eq_ok, Prod.exists, FixedCodec.get_eq_ok] at parsed
      obtain ⟨pfcFlags, _, rfl, packedDrep, _, rfl, fragLength, r, rfl, parsed⟩ := parsed
      split at parsed
      · cases parsed
      next fits =>
      split at parsed
      · cases parsed
      next present =>
      simp only [Outcome.bind_eq_ok, Prod.exists, FixedCodec.get_eq_ok] at parsed
      obtain ⟨authLength, _, rfl, callId, rest, rfl, parsed⟩ := parsed
      cases parsed
      obtain ⟨version, versionMinor⟩ : rpcVers = rpcVersion ∧ rpcVersMinor = rpcVersionMinor := by
        simpa only [not_or, not_not] using versions
      refine ⟨⟨version, versionMinor, Nat.le_of_not_lt fits, Nat.le_of_not_lt present⟩, rest, ?_⟩
      rw [spelled, RpcPduType.fromU8_eq_some.mp known]
      simp only [RpcPduHeader.write, List.append_assoc]
  · intro spelled
    obtain ⟨⟨version, versionMinor, fits, available⟩, rest, rfl⟩ := spelled
    have long : ¬ (header.write ++ rest).length < rpcHeaderSize := by
      rw [List.length_append, header.write_length]
      omega
    rw [RpcPduHeader.parse, if_neg long]
    generalize (header.write ++ rest).length = length at available
    simp only [RpcPduHeader.write, List.append_assoc, FixedCodec.get_put_append, Outcome.ok_bind,
      version, versionMinor, ne_eq, not_true_eq_false, or_self, if_false, RpcPduType.fromU8_toU8,
      if_neg (Nat.not_lt.mpr fits), if_neg (Nat.not_lt.mpr available), Outcome.pure_eq]
    rw [← version, ← versionMinor]

theorem RpcPduHeader.parse_cases (buf : Bytes) :
    (∃ header, RpcPduHeader.parse buf = .ok header) ∨ ∀ header, RpcPduHeader.parse buf ≠ .ok header := by
  by_cases parsed : ∃ header, RpcPduHeader.parse buf = .ok header
  · exact .inl parsed
  · exact .inr (not_exists.mp parsed)

/-- The type code stands at offset 2 of the fragment. -/
theorem RpcPduHeader.parse_ptype {buf : Bytes} {header : RpcPduHeader}
    (parsed : RpcPduHeader.parse buf = .ok header) : buf[2]? = some header.ptype.toU8 := by
  obtain ⟨_, rest, rfl⟩ := RpcPduHeader.parse_eq_ok.mp parsed
  rfl

theorem RpcPduHeader.parse_fragLength {buf : Bytes} {header : RpcPduHeader}
    (parsed : RpcPduHeader.parse buf = .ok header) :
    header.fragLength = u16Le.decode ((buf.drop 8).take 2) := by
  obtain ⟨_, rest, rfl⟩ := RpcPduHeader.parse_eq_ok.mp parsed
  have spelled : header.write ++ rest = (u8.put header.rpcVers ++ u8.put header.rpcVersMinor ++
      u8.put header.ptype.toU8 ++ u8.put header.pfcFlags ++ (byteArray 4).put header.packedDrep) ++
      (u16Le.put header.fragLength ++ (u16Le.put header.authLength ++ u32Le.put header.callId ++ rest)) := by
    simp only [RpcPduHeader.write, List.append_assoc]
  rw [spelled]
  exact (u16Le.decode_at _ (by simp) header.fragLength _).symm

theorem RpcPduHeader.parse_append {front : Bytes} {header : RpcPduHeader} (back : Bytes)
    (parsed : RpcPduHeader.parse front = .ok header) :
    RpcPduHeader.parse (front ++ back) = .ok header := by
  obtain ⟨⟨version, versionMinor, fits, available⟩, rest, spelled⟩ := RpcPduHeader.parse_eq_ok.mp parsed
  refine RpcPduHeader.parse_eq_ok.mpr ⟨⟨version, versionMinor, fits, ?_⟩, rest ++ back, ?_⟩
  · rw [List.length_append]
    exact Nat.le_add_right_of_le available
  · rw [spelled, List.append_assoc]

/-- A shorter buffer gives the same header as long as the fragment is there. -/
theorem RpcPduHeader.parse_front {front back : Bytes} {header : RpcPduHeader}
    (parsed : RpcPduHeader.parse (front ++ back) = .ok header)
    (available : header.fragLength.toNat ≤ front.length) : RpcPduHeader.parse front = .ok header := by
  obtain ⟨⟨version, versionMinor, fits, _⟩, rest, spelled⟩ := RpcPduHeader.parse_eq_ok.mp parsed
  refine RpcPduHeader.parse_eq_ok.mpr ⟨⟨version, versionMinor, fits, available⟩, ?_⟩
  have inside : header.write.length ≤ front.length := by
    rw [header.write_length]
    exact Nat.le_trans fits available
  obtain ⟨rest, same⟩ := List.prefix_of_prefix_length_le
    ⟨rest, spelled.symm⟩ (List.prefix_append front back) inside
  exact ⟨rest, same.symm⟩

theorem RequestPdu.parse_ptype {buf : Bytes} {request : RequestPdu}
    (parsed : RequestPdu.parse buf = .ok request) : buf[2]? = some RpcPduType.request.toU8 := by
  simp only [RequestPdu.parse, Outcome.bind_eq_ok] at parsed
  obtain ⟨header, announced, parsed⟩ := parsed
  split at parsed
  · cases parsed
  next typed =>
  rw [RpcPduHeader.parse_ptype announced, Decidable.not_not.mp typed]

theorem BindPdu.parse_length {buf : Bytes} {bind : BindPdu} (parsed : BindPdu.parse buf = .ok bind) :
    rpcHeaderSize < buf.length := by
  simp only [BindPdu.parse, Outcome.bind_eq_ok] at parsed
  obtain ⟨header, announced, parsed⟩ := parsed
  have available := ((RpcPduHeader.parse_sat buf).post announced).2
  split at parsed
  · cases parsed
  simp only [Outcome.bind_eq_ok] at parsed
  obtain ⟨bodyEnd, ended, parsed⟩ := parsed
  have inside := header.bodyEnd_sat.post ended
  split at parsed
  · cases parsed
  next long =>
  rw [bindFixedFieldsSize] at long
  omega

end RdGateway.Proto
