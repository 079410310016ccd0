import RdGateway.Proto.Rpch

/-!
# The RTS codec

`RtsPdu.parse` and `RtsPdu.toBytes` are inverse: a byte string parses to a PDU
exactly when it is the encoding of that PDU. The declared count, the declared
length and the check for trailing bytes leave no second spelling.
-/

set_option autoImplicit false

namespace RdGateway.Proto

open Wirekit

theorem ensureRemaining_eq_ok {available needed : Nat} {result : Unit} :
    ensureRemaining available needed = .ok result ↔ needed ≤ available := by
  unfold ensureRemaining
  split
  · simp only [reduceCtorEq, false_iff]
    omega
  · simp only [true_iff]
    omega

/-- The check in front of a read asks for no more than the read itself. -/
theorem checkedGet_eq_ok {α : Type} {codec : FixedCodec α} {buf rest : Bytes} {value : α} :
    checkedGet codec buf = .ok (value, rest) ↔ buf = codec.put value ++ rest := by
  simp only [checkedGet, Outcome.bind_eq_ok, ensureRemaining_eq_ok, FixedCodec.get_eq_ok]
  constructor
  · intro holds
    obtain ⟨_, _, spelled⟩ := holds
    exact spelled
  · rintro rfl
    exact ⟨(), by simp, rfl⟩

theorem getUuidLe_eq_ok {buf rest : Bytes} {value : Uuid} :
    getUuidLe buf = .ok (value, rest) ↔ buf = uuidLe.put value ++ rest :=
  checkedGet_eq_ok

@[simp] theorem checkedGet_put_append {α : Type} (codec : FixedCodec α) (value : α) (rest : Bytes) :
    checkedGet codec (codec.put value ++ rest) = .ok (value, rest) :=
  checkedGet_eq_ok.mpr rfl

@[simp] theorem getUuidLe_put_append (value : Uuid) (rest : Bytes) :
    getUuidLe (uuidLe.put value ++ rest) = .ok (value, rest) :=
  checkedGet_put_append uuidLe value rest

/-! ## Commands -/

theorem RtsCommand.writeTo_length (command : RtsCommand) :
    command.writeTo.length = command.encodedLen := by
  cases command <;> simp [RtsCommand.writeTo, RtsCommand.encodedLen]

theorem RtsCommand.parse_writeTo (command : RtsCommand) (rest : Bytes) :
    RtsCommand.parse (command.writeTo ++ rest) = .ok (command, rest) := by
  cases command with
  | flowControlAck bytesReceived availableWindow channelCookie =>
      have room : ensureRemaining (u32Le.put bytesReceived ++ (u32Le.put availableWindow ++
          (uuidLe.put channelCookie ++ rest))).length 24 = .ok () := by
        rw [ensureRemaining_eq_ok]
        simp only [List.length_append, FixedCodec.put_length, u32Le_width, uuidLe_width]
        omega
      simp only [RtsCommand.parse, RtsCommand.writeTo, List.append_assoc, checkedGet_put_append,
        Outcome.ok_bind, room, FixedCodec.get_put_append, getUuidLe_put_append, Outcome.pure_eq]
      rfl
  | _ =>
      simp only [RtsCommand.parse, RtsCommand.writeTo, List.append_assoc, checkedGet_put_append,
        Outcome.ok_bind, getUuidLe_put_append, Outcome.pure_eq]
      rfl

/-- The shape of every command but one: a type code and a single value. -/
private theorem single_field {α : Type} {codec : FixedCodec α} {wrap : α → RtsCommand}
    {body rest : Bytes} {command : RtsCommand}
    (parsed : (do
      let (value, buf) ← checkedGet codec body
      pure (wrap value, buf)) = .ok (command, rest)) :
    ∃ value, command = wrap value ∧ body = codec.put value ++ rest := by
  simp only [Outcome.bind_eq_ok, Prod.exists, checkedGet_eq_ok, Outcome.pure_eq, Outcome.ok.injEq,
    Prod.mk.injEq] at parsed
  obtain ⟨value, _, spelled, rfl, rfl⟩ := parsed
  exact ⟨value, rfl, spelled⟩

theorem RtsCommand.parse_eq_ok {buf rest : Bytes} {command : RtsCommand} :
    RtsCommand.parse buf = .ok (command, rest) ↔ buf = command.writeTo ++ rest := by
  constructor
  · intro parsed
    simp only [RtsCommand.parse, Outcome.bind_eq_ok, Prod.exists, checkedGet_eq_ok] at parsed
    obtain ⟨commandType, body, rfl, parsed⟩ := parsed
    repeat' split at parsed
    · next typed =>
      obtain ⟨value, rfl, rfl⟩ := single_field parsed
      simp only [RtsCommand.writeTo, typed, List.append_assoc]
    · next typed =>
      simp only [Outcome.bind_eq_ok, Prod.exists, getUuidLe_eq_ok, FixedCodec.get_eq_ok,
        Outcome.pure_eq, Outcome.ok.injEq, Prod.mk.injEq] at parsed
      obtain ⟨_, _, bytesReceived, _, rfl, availableWindow, _, rfl, channelCookie, _, rfl, rfl, rfl⟩ :=
        parsed
      simp only [RtsCommand.writeTo, typed, List.append_assoc]
    · next typed =>
      obtain ⟨value, rfl, rfl⟩ := single_field parsed
      simp only [RtsCommand.writeTo, typed, List.append_assoc]
    · next typed =>
      obtain ⟨value, rfl, rfl⟩ := single_field parsed
      simp only [RtsCommand.writeTo, typed, List.append_assoc]
    · next typed =>
      obtain ⟨value, rfl, rfl⟩ := single_field parsed
      simp only [RtsCommand.writeTo, typed, List.append_assoc]
    · next typed =>
      obtain ⟨value, rfl, rfl⟩ := single_field parsed
      simp only [RtsCommand.writeTo, typed, List.append_assoc]
    · next typed =>
      obtain ⟨value, rfl, rfl⟩ := single_field parsed
      simp only [RtsCommand.writeTo, typed, List.append_assoc]
    · next typed =>
      obtain ⟨value, rfl, rfl⟩ := single_field parsed
      simp only [RtsCommand.writeTo, typed, List.append_assoc]
    · cases parsed
  · rintro rfl
    exact RtsCommand.parse_writeTo command rest

theorem parseCommands_eq_ok {count : Nat} {buf rest : Bytes} {commands : List RtsCommand} :
    parseCommands count buf = .ok (commands, rest) ↔
      commands.length = count ∧ buf = commands.flatMap RtsCommand.writeTo ++ rest :=
  getMany_eq_ok RtsCommand.parse_eq_ok

/-! ## PDUs -/

theorem flatMap_writeTo_length (commands : List RtsCommand) :
    (commands.flatMap RtsCommand.writeTo).length = (commands.map RtsCommand.encodedLen).sum := by
  induction commands with
  | nil => rfl
  | cons command rest ih =>
      simp only [List.flatMap_cons, List.length_append, RtsCommand.writeTo_length, ih, List.map_cons,
        List.sum_cons]

theorem RtsPdu.toBytes_length (pdu : RtsPdu) : pdu.toBytes.length = pdu.totalLen := by
  simp only [RtsPdu.toBytes, RtsPdu.totalLen, rtsHeaderLen, List.length_append, FixedCodec.put_length,
    flatMap_writeTo_length, u8_width, u16Le_width, u32Le_width, byteArray_width]

/-- Every command takes six bytes at least, so a PDU that fits its length field
also fits its count field. -/
theorem commands_length_le (commands : List RtsCommand) :
    6 * commands.length ≤ (commands.map RtsCommand.encodedLen).sum := by
  induction commands with
  | nil => simp
  | cons command rest ih =>
      have wide : 6 ≤ command.encodedLen := by
        cases command <;> simp only [RtsCommand.encodedLen] <;> omega
      simp only [List.length_cons, List.map_cons, List.sum_cons]
      omega

/-- What `parse` checks before it reads the commands. -/
theorem RtsPdu.parse_announced {data : Bytes} {pdu : RtsPdu} (parsed : RtsPdu.parse data = .ok pdu) :
    rtsHeaderLen ≤ data.length ∧ data[2]? = some ptypeRts ∧
      (u16Le.decode ((data.drop 8).take 2)).toNat = data.length := by
  unfold RtsPdu.parse at parsed
  obtain ⟨_, long, parsed⟩ := Outcome.bind_eq_ok.mp parsed
  obtain ⟨⟨version, _⟩, readVersion, parsed⟩ := Outcome.bind_eq_ok.mp parsed
  obtain ⟨⟨minor, _⟩, readMinor, parsed⟩ := Outcome.bind_eq_ok.mp parsed
  obtain ⟨⟨ptype, _⟩, readType, parsed⟩ := Outcome.bind_eq_ok.mp parsed
  obtain ⟨⟨pfcFlags, _⟩, readFlags, parsed⟩ := Outcome.bind_eq_ok.mp parsed
  obtain ⟨⟨drep, _⟩, readDrep, parsed⟩ := Outcome.bind_eq_ok.mp parsed
  obtain ⟨⟨fragLength, rest⟩, readLength, parsed⟩ := Outcome.bind_eq_ok.mp parsed
  obtain ⟨⟨_, _⟩, _, parsed⟩ := Outcome.bind_eq_ok.mp parsed
  obtain ⟨⟨_, _⟩, _, parsed⟩ := Outcome.bind_eq_ok.mp parsed
  obtain ⟨⟨_, _⟩, _, parsed⟩ := Outcome.bind_eq_ok.mp parsed
  obtain ⟨⟨_, _⟩, _, parsed⟩ := Outcome.bind_eq_ok.mp parsed
  dsimp only at parsed
  have spelled : data = (u8.put version ++ u8.put minor ++ u8.put ptype ++ u8.put pfcFlags ++
      (byteArray 4).put drep) ++ (u16Le.put fragLength ++ rest) := by
    rw [FixedCodec.get_eq_ok.mp readVersion, FixedCodec.get_eq_ok.mp readMinor, FixedCodec.get_eq_ok.mp readType,
      FixedCodec.get_eq_ok.mp readFlags, FixedCodec.get_eq_ok.mp readDrep, FixedCodec.get_eq_ok.mp readLength]
    simp only [List.append_assoc]
  split at parsed
  · cases parsed
  split at parsed
  · cases parsed
  next typed =>
  split at parsed
  · cases parsed
  split at parsed
  · cases parsed
  next sized =>
  refine ⟨ensureRemaining_eq_ok.mp long, ?_, ?_⟩
  · rw [spelled, ← not_not.mp typed]
    rfl
  · rw [← not_not.mp sized, spelled]
    exact congrArg UInt16.toNat (u16Le.decode_at _ (show _ = 8 by simp) fragLength rest)

/-- The PDUs that the wire format can carry: version 5.0, type 20, little-endian,
and a length that fits its field. The other fields and the commands are arbitrary. -/
structure RtsPdu.Encodable (pdu : RtsPdu) : Prop where
  version : pdu.rpcVersion = Proto.rpcVersion
  versionMinor : pdu.rpcVersionMinor = Proto.rpcVersionMinor
  ptype : pdu.ptype = ptypeRts
  packedDrep : pdu.packedDrep = packedDrepLittleEndian
  totalLen : pdu.totalLen ≤ 65535

/-- `parse` accepts exactly the encodings of encodable PDUs: such a PDU comes back
from its bytes, and no other byte string parses to it. -/
theorem RtsPdu.parse_eq_ok_iff (data : Bytes) (pdu : RtsPdu) :
    RtsPdu.parse data = .ok pdu ↔ pdu.Encodable ∧ pdu.toBytes = data := by
  constructor
  · intro parsed
    simp only [RtsPdu.parse, Outcome.bind_eq_ok, Prod.exists, ensureRemaining_eq_ok,
      FixedCodec.get_eq_ok] at parsed
    obtain ⟨_, _, version, _, rfl, minor, _, rfl, ptype, _, rfl, pfcFlags, _, rfl, drep, _, rfl,
      fragLength, _, rfl, authLength, _, rfl, callId, _, rfl, flags, _, rfl, numCommands, body, rfl,
      parsed⟩ := parsed
    split at parsed
    · cases parsed
    next versions =>
    split at parsed
    · cases parsed
    next typed =>
    split at parsed
    · cases parsed
    next little =>
    split at parsed
    · cases parsed
    next sized =>
    simp only [Outcome.bind_eq_ok, Prod.exists, parseCommands_eq_ok] at parsed
    obtain ⟨commands, trailing, ⟨counted, rfl⟩, parsed⟩ := parsed
    split at parsed
    · simp only [Outcome.bind_eq_ok, reduceCtorEq, and_false, exists_false] at parsed
    next empty =>
    cases parsed
    obtain ⟨rfl, rfl⟩ : version = Proto.rpcVersion ∧ minor = Proto.rpcVersionMinor := by
      simpa only [not_or, not_not] using versions
    obtain rfl : ptype = ptypeRts := not_not.mp typed
    obtain rfl : drep = packedDrepLittleEndian := not_not.mp little
    obtain rfl : trailing = [] := List.length_eq_zero_iff.mp (not_not.mp empty)
    have total : fragLength.toNat = rtsHeaderLen + (commands.map RtsCommand.encodedLen).sum := by
      rw [not_not.mp sized]
      simp only [List.length_append, FixedCodec.put_length, flatMap_writeTo_length, List.length_nil,
        rtsHeaderLen, u8_width, u16Le_width, u32Le_width, byteArray_width]
      omega
    have small := fragLength.toNat_lt
    refine ⟨⟨rfl, rfl, rfl, rfl, ?_⟩, ?_⟩
    · rw [RtsPdu.totalLen, ← total]
      omega
    · simp only [RtsPdu.toBytes, RtsPdu.totalLen, ← total, counted, UInt16.ofNat_toNat,
        List.append_assoc, List.append_nil]
  · intro holds
    obtain ⟨⟨version, versionMinor, ptype, packedDrep, totalLen⟩, rfl⟩ := holds
    have few := commands_length_le pdu.commands
    have room := totalLen
    rw [RtsPdu.totalLen, rtsHeaderLen] at room
    have length : pdu.toBytes.length = pdu.totalLen := pdu.toBytes_length
    have header : ensureRemaining pdu.toBytes.length rtsHeaderLen = .ok () := by
      rw [ensureRemaining_eq_ok, length, RtsPdu.totalLen]
      omega
    have sized : (UInt16.ofNat pdu.totalLen).toNat = pdu.totalLen := by
      rw [UInt16.toNat_ofNat', Nat.mod_eq_of_lt (by omega)]
    have counted : (UInt16.ofNat pdu.commands.length).toNat = pdu.commands.length := by
      rw [UInt16.toNat_ofNat', Nat.mod_eq_of_lt (by omega)]
    have commandsRead : parseCommands pdu.commands.length (pdu.commands.flatMap RtsCommand.writeTo) =
        .ok (pdu.commands, []) :=
      parseCommands_eq_ok.mpr ⟨rfl, (List.append_nil _).symm⟩
    rw [RtsPdu.parse, header, length]
    simp only [RtsPdu.toBytes, List.append_assoc, FixedCodec.get_put_append, Outcome.ok_bind, version,
      versionMinor, ptype, packedDrep, ne_eq, not_true_eq_false, or_self, if_false, sized, counted,
      commandsRead, List.length_nil, Outcome.pure_eq]
    simp [← version, ← versionMinor, ← ptype, ← packedDrep]

end RdGateway.Proto
