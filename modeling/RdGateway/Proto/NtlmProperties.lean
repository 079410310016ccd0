import RdGateway.Proto.ParserSafety

/-!
# NTLMv2 validation is exact

The proof of possession is one HMAC value. `validate_ntlmv2` accepts a response
exactly when it starts with that value, and `parse_authenticate` finds the fields
wherever the security buffers point.
-/

set_option autoImplicit false

namespace RdGateway.Proto.Ntlm

open Wirekit

/-! ## Text -/

theorem fromUtf16leLossy_encode (s : String) : fromUtf16leLossy (encodeUtf16le s) = s := by
  rw [fromUtf16leLossy, encodeUtf16le, unitsOfBytes_bytesOfUnits, fromUtf16Lossy_encode,
    String.ofList_toList]

/-! ## Comparison of proofs -/

theorem foldl_or_eq_zero (bytes : Bytes) (acc : UInt8) :
    bytes.foldl (· ||| ·) acc = 0 ↔ acc = 0 ∧ ∀ byte ∈ bytes, byte = 0 := by
  induction bytes generalizing acc with
  | nil => simp
  | cons byte rest ih =>
      rw [List.foldl_cons, ih, UInt8.or_eq_zero_iff, List.forall_mem_cons, and_assoc]

theorem zipWith_xor_eq_zero {a b : Bytes} (sized : a.length = b.length) :
    (∀ byte ∈ List.zipWith (· ^^^ ·) a b, byte = 0) ↔ a = b := by
  induction a generalizing b with
  | nil =>
      have empty : b = [] := List.length_eq_zero_iff.mp sized.symm
      simp [empty]
  | cons first rest ih =>
      cases b with
      | nil => cases sized
      | cons other later =>
          have shorter : rest.length = later.length := Nat.succ.inj sized
          rw [List.zipWith_cons_cons, List.forall_mem_cons, ih shorter, UInt8.xor_eq_zero_iff,
            List.cons.injEq]

theorem constantTimeEq_iff (a b : Bytes) : constantTimeEq a b = true ↔ a = b := by
  unfold constantTimeEq
  by_cases sized : a.length = b.length
  · rw [if_neg (not_not_intro sized), decide_eq_true_iff, foldl_or_eq_zero, zipWith_xor_eq_zero sized]
    exact and_iff_right rfl
  · rw [if_pos sized]
    constructor
    · intro same
      cases same
    · rintro rfl
      exact absurd rfl sized

/-! ## The check -/

/-- HMAC(HMAC(hash, UTF-16LE(upper(user) ++ domain)), challenge ++ blob). -/
def ntProof (primitives : Primitives) (ntHash : Vector UInt8 16) (username domain : String)
    (serverChallenge : Vector UInt8 8) (blob : Bytes) : Vector UInt8 16 :=
  let responseKey :=
    primitives.hmacMd5 ntHash.toList (encodeUtf16le (primitives.toUppercase username ++ domain))
  primitives.hmacMd5 responseKey.toList (serverChallenge.toList ++ blob)

/-- A response is its proof, in the first 16 bytes, and the client's blob of 8 bytes or more. -/
theorem validateNtlmv2_eq_ok_iff (primitives : Primitives) (ntHash : Vector UInt8 16)
    (serverChallenge : Vector UInt8 8) (authenticate : NtlmAuthenticate) :
    validateNtlmv2 primitives ntHash serverChallenge authenticate = .ok () ↔
      24 ≤ authenticate.ntResponse.length ∧
        authenticate.ntResponse.take 16 =
          (ntProof primitives ntHash authenticate.username authenticate.domain serverChallenge
            (authenticate.ntResponse.drop 16)).toList := by
  unfold validateNtlmv2
  by_cases short : authenticate.ntResponse.length < 24
  · rw [if_pos short]
    constructor
    · intro accepted
      cases accepted
    · intro holds
      obtain ⟨long, _⟩ := holds
      omega
  · rw [if_neg short]
    have whole : (authenticate.ntResponse.drop 16).take (authenticate.ntResponse.length - 16) =
        authenticate.ntResponse.drop 16 :=
      List.take_of_length_le (Nat.le_of_eq List.length_drop)
    simp only [slice_eq (Nat.zero_le 16) (show 16 ≤ authenticate.ntResponse.length by omega),
      slice_eq (show 16 ≤ authenticate.ntResponse.length by omega) (Nat.le_refl _), Outcome.ok_bind,
      List.drop_zero, Nat.sub_zero, whole]
    change (if constantTimeEq _ (ntProof primitives ntHash authenticate.username
      authenticate.domain serverChallenge (authenticate.ntResponse.drop 16)).toList then _ else _) = _ ↔ _
    generalize ntProof primitives ntHash authenticate.username authenticate.domain serverChallenge
      (authenticate.ntResponse.drop 16) = proof
    by_cases same : authenticate.ntResponse.take 16 = proof.toList
    · rw [if_pos ((constantTimeEq_iff _ _).mpr same)]
      exact iff_of_true rfl ⟨by omega, same⟩
    · rw [if_neg fun equal => same ((constantTimeEq_iff _ _).mp equal)]
      exact iff_of_false (fun accepted => nomatch accepted) fun accepted => same accepted.2

/-! ## Layout of Type3 -/

/-- The security buffer at the offset points at the content, wherever it lies. -/
def PointsAt (message : Bytes) (offset : Nat) (content : Bytes) : Prop :=
  content.length < 2 ^ 16 ∧
    ∃ maxLen bufOffset fields behind,
      message.drop offset =
        u16Le.put (UInt16.ofNat content.length) ++ u16Le.put maxLen ++ u32Le.put bufOffset ++ fields ∧
      message.drop bufOffset.toNat = content ++ behind

structure IsType3 (message : Bytes) : Prop where
  long : 64 ≤ message.length
  signed : message.take 8 = ntlmsspSignature
  typed : (message.drop 8).take 4 = u32Le.put 3

theorem wordAt_of_cut {α : Type} {codec : FixedCodec α} {data : Bytes} {lo hi : Nat} {value : α}
    (ordered : lo ≤ hi) (inside : hi ≤ data.length)
    (cut : (data.drop lo).take (hi - lo) = codec.put value) : wordAt codec data lo hi = .ok value := by
  have sized : (codec.put value).length = codec.width := codec.put_length value
  rw [wordAt, slice_eq ordered inside, Outcome.ok_bind, cut, if_pos sized, codec.decode_put]
  rfl

theorem readSecurityBufferRaw_of_pointsAt {message content : Bytes} {offset : Nat}
    (inside : offset + 8 ≤ message.length) (small : offset < 2 ^ 32)
    (points : PointsAt message offset content) :
    readSecurityBufferRaw message offset = .ok content := by
  obtain ⟨short, maxLen, bufOffset, fields, behind, header, target⟩ := points
  have counted : (UInt16.ofNat content.length).toNat = content.length := by
    rw [UInt16.toNat_ofNat', Nat.mod_eq_of_lt short]
  have len : wordAt u16Le message offset (offset + 2) = .ok (UInt16.ofNat content.length) := by
    refine wordAt_of_cut (Nat.le_add_right _ _) (by omega) ?_
    rw [header, Nat.add_sub_cancel_left, List.append_assoc, List.append_assoc]
    exact List.take_left' (u16Le.put_length _)
  have position : wordAt u32Le message (offset + 4) (offset + 8) = .ok bufOffset := by
    refine wordAt_of_cut (by omega) inside ?_
    have width : offset + 8 - (offset + 4) = 4 := by omega
    have front : (u16Le.put (UInt16.ofNat content.length) ++ u16Le.put maxLen).length = 4 := by simp
    rw [width, ← List.drop_drop, header, List.append_assoc _ _ fields, List.drop_left' front]
    exact List.take_left' (u32Le.put_length _)
  unfold readSecurityBufferRaw
  rw [checkedAdd, if_pos (by omega), Outcome.ok_bind, if_neg (by omega), len, Outcome.ok_bind, position,
    Outcome.ok_bind]
  by_cases empty : UInt16.ofNat content.length = 0
  · rw [if_pos empty]
    rw [empty] at counted
    rw [List.length_eq_zero_iff.mp counted.symm]
  · have bounded := bufOffset.toNat_lt
    have reaches : bufOffset.toNat + content.length ≤ message.length := by
      have nonempty : content.length ≠ 0 := fun none => empty (by rw [none]; rfl)
      have sized := congrArg List.length target
      rw [List.length_drop, List.length_append] at sized
      omega
    rw [if_neg empty, counted, checkedAdd, if_pos (by omega), Outcome.ok_bind, if_neg (by omega),
      slice_eq (by omega) reaches, target, Nat.add_sub_cancel_left, List.take_left]

/-- The five buffers that are read strictly give the fields; the session key may be absent. -/
theorem parseAuthenticate_of_layout {message lm nt domain username workstation : Bytes}
    (type3 : IsType3 message) (lmAt : PointsAt message 12 lm) (ntAt : PointsAt message 20 nt)
    (domainAt : PointsAt message 28 domain) (usernameAt : PointsAt message 36 username)
    (workstationAt : PointsAt message 44 workstation) :
    ∃ flags sessionKey, parseAuthenticate message = .ok
      { flags, domain := fromUtf16leLossy domain, username := fromUtf16leLossy username
        workstation := fromUtf16leLossy workstation, lmResponse := lm, ntResponse := nt
        encryptedRandomSessionKey := sessionKey } := by
  have long := type3.long
  have signature : (slice message 0 8 : Outcome NtlmError Bytes) = .ok ntlmsspSignature := by
    rw [slice_eq (by omega) (by omega)]
    exact congrArg Outcome.ok type3.signed
  have msgType : wordAt u32Le message 8 12 = .ok 3 :=
    wordAt_of_cut (by omega) (by omega) type3.typed
  have flagWidth : ((message.drop 60).take (64 - 60)).length = u32Le.width := by
    rw [List.length_take, List.length_drop, u32Le_width]
    omega
  have flags : wordAt u32Le message 60 64 = .ok (u32Le.decode ((message.drop 60).take (64 - 60))) :=
    wordAt_of_cut (by omega) long (u32Le.put_decode _ flagWidth).symm
  obtain ⟨sessionKey, key⟩ : ∃ sessionKey, ((readSecurityBufferRaw message 52).unwrapOr [] :
      Outcome NtlmError Bytes) = .ok sessionKey := by
    have safe := readSecurityBufferRaw_safe message (show 52 < 2 ^ 32 by omega)
    cases read : readSecurityBufferRaw message 52 with
    | ok sessionKey => exact ⟨sessionKey, rfl⟩
    | err error => exact ⟨[], rfl⟩
    | panicked => exact absurd read safe.ne_panicked
  refine ⟨u32Le.decode ((message.drop 60).take (64 - 60)), sessionKey, ?_⟩
  unfold parseAuthenticate
  rw [if_neg (by omega), signature, Outcome.ok_bind, if_neg (not_not_intro rfl), msgType,
    Outcome.ok_bind, if_neg (not_not_intro rfl),
    readSecurityBufferRaw_of_pointsAt (by omega) (by omega) lmAt, Outcome.ok_bind,
    readSecurityBufferRaw_of_pointsAt (by omega) (by omega) ntAt, Outcome.ok_bind,
    readSecurityBufferRaw_of_pointsAt (by omega) (by omega) domainAt, Outcome.ok_bind,
    readSecurityBufferRaw_of_pointsAt (by omega) (by omega) usernameAt, Outcome.ok_bind,
    readSecurityBufferRaw_of_pointsAt (by omega) (by omega) workstationAt, Outcome.ok_bind,
    key, Outcome.ok_bind, if_pos long, flags, Outcome.ok_bind]
  rfl

/-! ## Layout of Type2 -/

theorem serializeChallenge_challenge (challenge : NtlmChallenge) :
    ((serializeChallenge challenge).drop 24).take 8 = challenge.serverChallenge.toList := by
  obtain ⟨header, behind, sized, layout⟩ : ∃ header behind : Bytes, header.length = 24 ∧
      serializeChallenge challenge =
        header ++ ((byteArray 8).put challenge.serverChallenge ++ behind) := by
    refine ⟨ntlmsspSignature ++ u32Le.put 2 ++ (_ ++ _ ++ u32Le.put _) ++ u32Le.put challenge.flags, _,
      ?_, by simp only [serializeChallenge, List.append_assoc]; rfl⟩
    simp [ntlmsspSignature]
  rw [layout, List.drop_left' sized]
  exact List.take_left' ((byteArray 8).put_length _)

/-- The target name stands behind the 56 bytes of the fixed header, and its length at offset 12. -/
theorem serializeChallenge_targetName (challenge : NtlmChallenge)
    (fits : (encodeUtf16le challenge.targetName).length < 2 ^ 16) :
    (u16Le.decode (((serializeChallenge challenge).drop 12).take 2)).toNat =
        (encodeUtf16le challenge.targetName).length ∧
      ((serializeChallenge challenge).drop 56).take (encodeUtf16le challenge.targetName).length =
        encodeUtf16le challenge.targetName := by
  have lengthAt : ∃ header behind : Bytes, header.length = 12 ∧ serializeChallenge challenge =
      header ++ (u16Le.put (UInt16.ofNat (encodeUtf16le challenge.targetName).length) ++ behind) := by
    refine ⟨ntlmsspSignature ++ u32Le.put 2, _, ?_,
      by simp only [serializeChallenge, List.append_assoc]; rfl⟩
    simp [ntlmsspSignature]
  have nameAt : ∃ header : Bytes, header.length = 56 ∧ serializeChallenge challenge =
      header ++ (encodeUtf16le challenge.targetName ++ challenge.targetInfo) := by
    refine ⟨_, ?_, by rw [serializeChallenge, List.append_assoc]⟩
    have challengeSized := (byteArray 8).put_length challenge.serverChallenge
    rw [byteArray_width] at challengeSized
    simp [ntlmsspSignature, challengeSized, u64Le, littleEndian]
  constructor
  · obtain ⟨header, behind, sized, layout⟩ := lengthAt
    have counted := u16Le.decode_at header sized
      (UInt16.ofNat (encodeUtf16le challenge.targetName).length) behind
    rw [u16Le_width] at counted
    rw [layout, counted, UInt16.toNat_ofNat', Nat.mod_eq_of_lt fits]
  · obtain ⟨header, sized, layout⟩ := nameAt
    rw [layout, List.drop_left' sized, List.take_left]

/-! ## Validation -/

/-- A client that knows the password is let in, wherever its message keeps the fields;
whoever is let in sent the proof for the stored hash and this challenge. -/
theorem ntlmv2_exact (primitives : Primitives) :
    (∀ (username domain password : String) (serverChallenge : Vector UInt8 8)
        (blob message lm workstation : Bytes),
      8 ≤ blob.length → IsType3 message → PointsAt message 12 lm →
      PointsAt message 20
        ((ntProof primitives (computeNtHash primitives password) username domain serverChallenge
          blob).toList ++ blob) →
      PointsAt message 28 (encodeUtf16le domain) → PointsAt message 36 (encodeUtf16le username) →
      PointsAt message 44 workstation →
      ∃ authenticate, parseAuthenticate message = .ok authenticate ∧
        validateNtlmv2 primitives (computeNtHash primitives password) serverChallenge authenticate =
          .ok ()) ∧
    ∀ (ntHash : Vector UInt8 16) (serverChallenge : Vector UInt8 8) (message : Bytes)
        (authenticate : NtlmAuthenticate),
      parseAuthenticate message = .ok authenticate →
      validateNtlmv2 primitives ntHash serverChallenge authenticate = .ok () →
      24 ≤ authenticate.ntResponse.length ∧
        authenticate.ntResponse.take 16 =
          (ntProof primitives ntHash authenticate.username authenticate.domain serverChallenge
            (authenticate.ntResponse.drop 16)).toList := by
  constructor
  · intro username domain password serverChallenge blob message lm workstation long type3 lmAt ntAt
      domainAt usernameAt workstationAt
    obtain ⟨flags, sessionKey, parsed⟩ :=
      parseAuthenticate_of_layout type3 lmAt ntAt domainAt usernameAt workstationAt
    refine ⟨_, parsed, ?_⟩
    rw [validateNtlmv2_eq_ok_iff, fromUtf16leLossy_encode, fromUtf16leLossy_encode]
    generalize ntProof primitives = proofs
    have sized (proof : Vector UInt8 16) : proof.toList.length = 16 := by simp
    rw [List.drop_left' (sized _), List.take_left' (sized _), List.length_append, sized]
    exact ⟨by omega, rfl⟩
  · intro ntHash serverChallenge message authenticate _ accepted
    exact (validateNtlmv2_eq_ok_iff _ _ _ _).mp accepted

def samplePrimitives : Primitives where
  md4 _ := #v[136, 70, 247, 234, 238, 143, 177, 23, 173, 6, 189, 216, 48, 183, 88, 108]
  toUppercase text := text.map Char.toUpper
  hmacMd5 _ message :=
    if message = [66, 0, 68, 0] then
      #v[56, 208, 149, 51, 200, 63, 167, 4, 244, 198, 208, 81, 178, 230, 162, 75]
    else #v[97, 15, 69, 192, 28, 7, 224, 34, 166, 231, 182, 182, 156, 15, 67, 158]

/-- The user `b` of the domain `D`, whose workstation buffer points at the domain too. -/
def sampleType3 : Bytes :=
  ntlmsspSignature ++ [3, 0, 0, 0, 0, 0, 0, 0, 0, 0, 0, 0, 24, 0, 24, 0, 68, 0, 0, 0, 2, 0, 2, 0, 64, 0,
    0, 0, 2, 0, 2, 0, 66, 0, 0, 0, 2, 0, 2, 0, 64, 0, 0, 0, 0, 0, 0, 0, 0, 0, 0, 0, 0, 0, 0, 0, 68, 0,
    98, 0, 97, 15, 69, 192, 28, 7, 224, 34, 166, 231, 182, 182, 156, 15, 67, 158, 1, 1, 1, 1, 1, 1, 1, 1]

theorem ntlmv2_exact_sample :
    ∃ authenticate, parseAuthenticate sampleType3 = .ok authenticate ∧
      validateNtlmv2 samplePrimitives (computeNtHash samplePrimitives "password")
        #v[8, 7, 6, 5, 4, 3, 2, 1] authenticate = .ok () := by
  refine (ntlmv2_exact samplePrimitives).1 "b" "D" "password" #v[8, 7, 6, 5, 4, 3, 2, 1]
    [1, 1, 1, 1, 1, 1, 1, 1] sampleType3 [] [68, 0] (by decide) ⟨by decide, rfl, rfl⟩ ?_ ?_ ?_ ?_ ?_
  · exact ⟨by decide, 0, 0, sampleType3.drop 20, sampleType3, by decide, by decide⟩
  · exact ⟨by decide, 24, 68, sampleType3.drop 28, [], by decide, by decide⟩
  · exact ⟨by decide, 2, 64, sampleType3.drop 36, sampleType3.drop 66, by decide, by decide⟩
  · exact ⟨by decide, 2, 66, sampleType3.drop 44, sampleType3.drop 68, by decide, by decide⟩
  · exact ⟨by decide, 2, 64, sampleType3.drop 52, sampleType3.drop 66, by decide, by decide⟩

end RdGateway.Proto.Ntlm
