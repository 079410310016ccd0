import RdGateway.Proto.NtlmProperties
import RdGateway.Wirekit.Tagged

/-!
# The Type2 message

Two payloads behind a header of 56 bytes, each with a security buffer that points at it.
The second is a list of tagged values.
-/

set_option autoImplicit false

namespace RdGateway.Proto.Ntlm

open Wirekit

def type2HeaderSize : Nat := 56

/-- The values up to the end of the list, and what stands behind it. -/
def readAvPairs (targetInfo : Bytes) : Option (List (UInt16 × Bytes) × Bytes) :=
  readTaggedList u16Le msvAvEol targetInfo.length targetInfo

/-- The length and the start that the security buffer at the offset names. -/
structure Names (message : Bytes) (offset start length : Nat) : Prop where
  length : (u16Le.decode ((message.drop offset).take 2)).toNat = length
  start : (u32Le.decode ((message.drop (offset + 4)).take 4)).toNat = start

/-- The payloads follow the header, one behind the other, and fill the message. -/
structure Type2Layout (message : Bytes) (nameStart nameLength infoStart infoLength : Nat) : Prop where
  targetName : Names message 12 nameStart nameLength
  targetInfo : Names message 40 infoStart infoLength
  behindHeader : type2HeaderSize ≤ nameStart
  apart : nameStart + nameLength ≤ infoStart
  ends : infoStart + infoLength = message.length

def targetInfoEntries (nameUtf16 : Bytes) (filetime : UInt64) : List (UInt16 × Bytes) :=
  [(msvAvNbComputerName, nameUtf16), (msvAvNbDomainName, nameUtf16), (msvAvDnsComputerName, nameUtf16),
    (msvAvDnsDomainName, nameUtf16), (msvAvTimestamp, u64Le.put filetime)]

structure WellFormedType2 (message : Bytes) (name : String) (serverChallenge : Vector UInt8 8)
    (filetime : UInt64) : Prop where
  challenge : (message.drop 24).take 8 = serverChallenge.toList
  targetName : readSecurityBufferRaw message 12 = .ok (encodeUtf16le name)
  targetInfo : ∃ info, readSecurityBufferRaw message 40 = .ok info ∧
    readAvPairs info = some (targetInfoEntries (encodeUtf16le name) filetime, [])
  layout : ∃ nameStart nameLength infoStart infoLength,
    Type2Layout message nameStart nameLength infoStart infoLength

/-! ## The target info -/

theorem buildTargetInfo_length (name : String) (unixSecs : UInt64) :
    (buildTargetInfo name unixSecs).length = 4 * (encodeUtf16le name).length + 32 := by
  simp only [buildTargetInfo, avPair, List.length_append, FixedCodec.put_length, u16Le_width, u64Le_width]
  omega

theorem readAvPairs_buildTargetInfo {name : String} (short : (encodeUtf16le name).length < 2 ^ 16)
    (unixSecs : UInt64) :
    readAvPairs (buildTargetInfo name unixSecs) =
      some (targetInfoEntries (encodeUtf16le name) (windowsFiletime unixSecs), []) := by
  have timestampShort : (u64Le.put (windowsFiletime unixSecs)).length < 2 ^ 16 := by
    rw [u64Le.put_length]
    decide
  let entries : List (Tagged UInt16) :=
    [⟨msvAvNbComputerName, encodeUtf16le name, short⟩, ⟨msvAvNbDomainName, encodeUtf16le name, short⟩,
      ⟨msvAvDnsComputerName, encodeUtf16le name, short⟩, ⟨msvAvDnsDomainName, encodeUtf16le name, short⟩,
      ⟨msvAvTimestamp, u64Le.put (windowsFiletime unixSecs), timestampShort⟩]
  have inside : ∀ entry ∈ entries, entry.tag ≠ msvAvEol := by
    have others : msvAvEol ∉ entries.map Tagged.tag := (by decide : (0 : UInt16) ∉ [1, 2, 3, 4, 7])
    exact fun entry member ends => others (ends ▸ List.mem_map_of_mem member)
  have written : buildTargetInfo name unixSecs =
      entries.flatMap (Tagged.put u16Le) ++ (Tagged.put u16Le ⟨msvAvEol, [], Nat.two_pow_pos 16⟩ ++ []) := by
    simp only [buildTargetInfo, avPair, entries, List.flatMap_cons, List.flatMap_nil, Tagged.put,
      FixedCodec.put_length, u64Le_width, List.append_assoc, List.append_nil]
    rfl
  have enough : entries.length < (buildTargetInfo name unixSecs).length := by
    rw [buildTargetInfo_length]
    simp only [entries, List.length_cons, List.length_nil]
    omega
  rw [readAvPairs]
  generalize (buildTargetInfo name unixSecs).length = fuel at enough
  rw [written, readTaggedList_put u16Le inside enough]
  rfl

/-! ## The message -/

def securityBuffer (length start : Nat) : Bytes :=
  u16Le.put (UInt16.ofNat length) ++ u16Le.put (UInt16.ofNat length) ++ u32Le.put (UInt32.ofNat start)

theorem securityBuffer_length (length start : Nat) : (securityBuffer length start).length = 8 := by
  simp [securityBuffer]

section Layout

variable (challenge : NtlmChallenge)

/-- What stands between the two security buffers. -/
def NtlmChallenge.middle : Bytes :=
  u32Le.put challenge.flags ++ ((byteArray 8).put challenge.serverChallenge ++ u64Le.put 0)

def NtlmChallenge.header : Bytes :=
  (ntlmsspSignature ++ u32Le.put 2) ++
    (securityBuffer (encodeUtf16le challenge.targetName).length type2HeaderSize ++
      (challenge.middle ++
        (securityBuffer challenge.targetInfo.length
            (type2HeaderSize + (encodeUtf16le challenge.targetName).length) ++
          [0x0a, 0x00, 0xf4, 0x65, 0x00, 0x00, 0x00, 0x0f])))

theorem NtlmChallenge.middle_length : challenge.middle.length = 20 := by
  simp [middle]

theorem NtlmChallenge.header_length : challenge.header.length = type2HeaderSize := by
  simp [header, ntlmsspSignature, securityBuffer_length, challenge.middle_length, type2HeaderSize]

theorem serializeChallenge_eq :
    serializeChallenge challenge =
      challenge.header ++ (encodeUtf16le challenge.targetName ++ challenge.targetInfo) := by
  simp only [serializeChallenge, securityBuffer, NtlmChallenge.header, NtlmChallenge.middle,
    type2HeaderSize, List.append_assoc]

theorem serializeChallenge_length :
    (serializeChallenge challenge).length =
      type2HeaderSize + (encodeUtf16le challenge.targetName).length + challenge.targetInfo.length := by
  rw [serializeChallenge_eq, List.length_append, List.length_append, challenge.header_length]
  omega

theorem serializeChallenge_nameBuffer :
    ∃ fields, (serializeChallenge challenge).drop 12 =
      securityBuffer (encodeUtf16le challenge.targetName).length type2HeaderSize ++ fields := by
  have front : (ntlmsspSignature ++ u32Le.put 2).length = 12 := by simp [ntlmsspSignature]
  rw [serializeChallenge_eq, NtlmChallenge.header, List.append_assoc, List.drop_left' front,
    List.append_assoc]
  exact ⟨_, rfl⟩

theorem serializeChallenge_infoBuffer :
    ∃ fields, (serializeChallenge challenge).drop 40 =
      securityBuffer challenge.targetInfo.length
        (type2HeaderSize + (encodeUtf16le challenge.targetName).length) ++ fields := by
  have front : ((ntlmsspSignature ++ u32Le.put 2) ++
      (securityBuffer (encodeUtf16le challenge.targetName).length type2HeaderSize ++
        challenge.middle)).length = 40 := by
    simp [ntlmsspSignature, securityBuffer_length, challenge.middle_length]
  rw [serializeChallenge_eq, NtlmChallenge.header, ← List.append_assoc (securityBuffer _ type2HeaderSize),
    ← List.append_assoc (ntlmsspSignature ++ u32Le.put 2), List.append_assoc _ _ (_ ++ challenge.targetInfo),
    List.drop_left' front, List.append_assoc]
  exact ⟨_, rfl⟩

end Layout

section Buffer

variable {message : Bytes} {offset start length : Nat} {fields : Bytes}

theorem Names.of_securityBuffer (buffer : message.drop offset = securityBuffer length start ++ fields)
    (lengthFits : length < 2 ^ 16) (startFits : start < 2 ^ 32) : Names message offset start length := by
  have lengthAt := u16Le.decode_at [] rfl (UInt16.ofNat length)
    (u16Le.put (UInt16.ofNat length) ++ (u32Le.put (UInt32.ofNat start) ++ fields))
  have front : (u16Le.put (UInt16.ofNat length) ++ u16Le.put (UInt16.ofNat length)).length = 4 := by simp
  have startAt := u32Le.decode_at _ front (UInt32.ofNat start) fields
  rw [List.length_nil, List.drop_zero, List.nil_append, u16Le_width] at lengthAt
  rw [u32Le_width] at startAt
  constructor
  · rw [buffer, securityBuffer, List.append_assoc, List.append_assoc, lengthAt, UInt16.toNat_ofNat',
      Nat.mod_eq_of_lt lengthFits]
  · rw [← List.drop_drop, buffer, securityBuffer, List.append_assoc, startAt, UInt32.toNat_ofNat',
      Nat.mod_eq_of_lt startFits]

theorem PointsAt.of_securityBuffer {content behind : Bytes}
    (buffer : message.drop offset = securityBuffer content.length start ++ fields)
    (fits : content.length < 2 ^ 16) (startFits : start < 2 ^ 32)
    (target : message.drop start = content ++ behind) : PointsAt message offset content := by
  refine ⟨fits, UInt16.ofNat content.length, UInt32.ofNat start, fields, behind, buffer, ?_⟩
  rw [UInt32.toNat_ofNat', Nat.mod_eq_of_lt startFits, target]

end Buffer

/-- For every name that the length fields can hold, with every challenge and every clock. -/
theorem type2_wellFormed (name : String) (serverChallenge : Vector UInt8 8) (unixSecs : UInt64)
    (fits : 4 * (encodeUtf16le name).length + 32 ≤ 65535) :
    WellFormedType2 (serializeChallenge (generateChallenge name serverChallenge unixSecs)) name
      serverChallenge (windowsFiletime unixSecs) := by
  let challenge := generateChallenge name serverChallenge unixSecs
  have nameFits : (encodeUtf16le name).length < 2 ^ 16 := by omega
  have infoLength : challenge.targetInfo.length = 4 * (encodeUtf16le name).length + 32 :=
    buildTargetInfo_length name unixSecs
  have infoFits : challenge.targetInfo.length < 2 ^ 16 := by omega
  have startFits : type2HeaderSize + (encodeUtf16le name).length < 2 ^ 32 := by
    rw [type2HeaderSize]
    omega
  have long : type2HeaderSize ≤ (serializeChallenge challenge).length := by
    rw [serializeChallenge_length, Nat.add_assoc]
    exact Nat.le_add_right _ _
  rw [type2HeaderSize] at long
  obtain ⟨_, nameBuffer⟩ := serializeChallenge_nameBuffer challenge
  obtain ⟨_, infoBuffer⟩ := serializeChallenge_infoBuffer challenge
  have nameBehind : (serializeChallenge challenge).drop type2HeaderSize =
      encodeUtf16le name ++ challenge.targetInfo := by
    rw [serializeChallenge_eq, List.drop_left' challenge.header_length]
    rfl
  have infoBehind : (serializeChallenge challenge).drop (type2HeaderSize + (encodeUtf16le name).length) =
      challenge.targetInfo ++ [] := by
    rw [← List.drop_drop, nameBehind, List.drop_left, List.append_nil]
  constructor
  · exact serializeChallenge_challenge challenge
  · exact readSecurityBufferRaw_of_pointsAt (Nat.le_trans (by decide) long) (by decide)
      (.of_securityBuffer nameBuffer nameFits (by decide) nameBehind)
  · refine ⟨challenge.targetInfo, ?_, readAvPairs_buildTargetInfo nameFits unixSecs⟩
    exact readSecurityBufferRaw_of_pointsAt (Nat.le_trans (by decide) long) (by decide)
      (.of_securityBuffer infoBuffer infoFits startFits infoBehind)
  · refine ⟨type2HeaderSize, (encodeUtf16le name).length,
      type2HeaderSize + (encodeUtf16le name).length, challenge.targetInfo.length, ?_⟩
    exact {
      targetName := .of_securityBuffer nameBuffer nameFits (by decide)
      targetInfo := .of_securityBuffer infoBuffer infoFits startFits
      behindHeader := Nat.le_refl _
      apart := Nat.le_refl _
      ends := (serializeChallenge_length challenge).symm }

theorem type2_wellFormed_gateway :
    WellFormedType2 (serializeChallenge (generateChallenge "gw" #v[1, 2, 3, 4, 5, 6, 7, 8] 1700000000)) "gw"
      #v[1, 2, 3, 4, 5, 6, 7, 8] (windowsFiletime 1700000000) :=
  type2_wellFormed "gw" #v[1, 2, 3, 4, 5, 6, 7, 8] 1700000000 (by decide)

end RdGateway.Proto.Ntlm
