import RdGateway.Proto.MessagesProperties
import RdGateway.Proto.ParserSafety
import Mathlib.Data.List.TakeWhile

/-!
# Announced fields

Three messages announce their optional fields in a bit set. `TunnelResponse` and
`ChannelResponse` are refused when an announced field is cut off; the cookie of
`TunnelCreate` is not written at all, and it is dropped where it is cut off.
-/

set_option autoImplicit false

namespace RdGateway.Proto

open Wirekit

/-! ## The writer of TunnelCreate -/

/-- The values that the format can carry. -/
structure TunnelCreate.Writable (msg : TunnelCreate) : Prop where
  announced : Announced msg.fieldsPresent httpTunnelPacketFieldPaaCookie msg.paaCookie
  noNul : ∀ cookie, msg.paaCookie = some cookie → '\x00' ∉ cookie.toList
  fits : ∀ cookie, msg.paaCookie = some cookie → (encodeUtf16le cookie).length ≤ 65535

theorem beforeNul_eq {name : String} (noNul : '\x00' ∉ name.toList) : beforeNul name = name := by
  have whole : name.toList.takeWhile (· != '\x00') = name.toList := by
    apply List.takeWhile_eq_self_iff.mpr
    intro char member
    rw [bne_iff_ne]
    intro same
    exact noNul (same ▸ member)
  rw [beforeNul, whole, String.ofList_toList]

def TunnelCreate.cookieField : Option String → Bytes
  | some cookie => u16Le.put (UInt16.ofNat (encodeUtf16le cookie).length) ++ encodeUtf16le cookie
  | none => []

/-- The parser does read a cookie behind the fixed part. -/
theorem TunnelCreate.parse_cookie {msg : TunnelCreate} (writable : msg.Writable) (rest : Bytes) :
    TunnelCreate.parse (u32Le.put msg.capsFlags ++ (u16Le.put msg.fieldsPresent ++
      (u16Le.put msg.reserved ++ (cookieField msg.paaCookie ++ rest)))) = .ok msg := by
  obtain ⟨capsFlags, fieldsPresent, reserved, paaCookie⟩ := msg
  obtain ⟨announced, noNul, fits⟩ := writable
  dsimp only at announced noNul fits ⊢
  rw [TunnelCreate.parse, if_neg (by simp; omega)]
  simp only [FixedCodec.get_put_append, Outcome.ok_bind, Outcome.pure_eq]
  cases paaCookie with
  | none =>
      have unflagged : ¬ fieldsPresent &&& httpTunnelPacketFieldPaaCookie ≠ 0 :=
        fun flagged => by simpa using announced.mp flagged
      rw [if_neg fun both => unflagged both.1]
  | some cookie =>
      have flagged : fieldsPresent &&& httpTunnelPacketFieldPaaCookie ≠ 0 := announced.mpr rfl
      obtain ⟨sized, whole⟩ := name_read rest (fits cookie rfl)
      have room : 2 ≤ (cookieField (some cookie) ++ rest).length := by
        rw [cookieField, List.append_assoc, List.length_append, FixedCodec.put_length, u16Le_width]
        omega
      have inside : (encodeUtf16le cookie).length ≤ (encodeUtf16le cookie ++ rest).length := by simp
      rw [if_pos ⟨flagged, room⟩]
      simp only [cookieField, List.append_assoc, FixedCodec.get_put_append, Outcome.ok_bind, sized,
        if_pos inside, whole, readUtf16le_encodeUtf16le, beforeNul_eq (noNul cookie rfl)]

theorem TunnelCreate.write_framed (msg : TunnelCreate) :
    Framed .tunnelCreate TunnelCreate.parse msg.write { msg with paaCookie := none } := by
  rw [TunnelCreate.write]
  apply Framed.of_write (by simp) (by decide)
  rw [TunnelCreate.parse, if_neg (by simp)]
  have unread (flagged : Prop) : ¬ (flagged ∧ 2 ≤ ([] : Bytes).length) := fun both => by cases both.2
  simp only [List.append_assoc, FixedCodec.get_put_append, FixedCodec.get_put, Outcome.ok_bind,
    Outcome.pure_eq, if_neg (unread _)]

theorem TunnelCreate.parse_write (msg : TunnelCreate) :
    parseMessage msg.write = .ok (.tunnelCreate { msg with paaCookie := none }) := by
  refine List.append_nil msg.write ▸ (msg.write_framed.parseMessage (fun payload parsed => ?_) []).1
  simp [parsePayload, parsed]

/-- A `TunnelCreate` comes back as it was written exactly if it has no cookie. -/
theorem tunnelCreate_write_read_iff (msg : TunnelCreate) :
    parseMessage msg.write = .ok (.tunnelCreate msg) ↔ msg.paaCookie = none := by
  rw [msg.parse_write]
  constructor
  · intro same
    cases msg
    cases same
    rfl
  · intro cookieless
    cases msg
    cases cookieless
    rfl

def cookieRequest : TunnelCreate :=
  { capsFlags := 0, fieldsPresent := 1, reserved := 0, paaCookie := some "a" }

theorem cookieRequest_unread :
    ¬ ∀ msg : TunnelCreate, msg.Writable → parseMessage msg.write = .ok (.tunnelCreate msg) := by
  intro readBack
  have writable : cookieRequest.Writable := by
    constructor
    · exact iff_of_true (by decide) rfl
    · intro cookie same
      cases same
      decide
    · intro cookie same
      cases same
      decide
  have same := readBack cookieRequest writable
  rw [cookieRequest.parse_write] at same
  cases same

/-! ## The length that the bit set announces -/

def u16At (offset : Nat) (payload : Bytes) : UInt16 :=
  u16Le.decode ((payload.drop offset).take 2)

def announcedSize (fieldsPresent bit : UInt16) (size : Nat) : Nat :=
  if fieldsPresent &&& bit ≠ 0 then size else 0

/-- The fixed part, and behind a set bit the cookie with its length. -/
def TunnelCreate.announcedLength (payload : Bytes) : Nat :=
  8 + announcedSize (u16At 4 payload) httpTunnelPacketFieldPaaCookie (2 + (u16At 8 payload).toNat)

def TunnelResponse.announcedLength (payload : Bytes) : Nat :=
  10 + announcedSize (u16At 6 payload) httpTunnelResponseFieldTunnelId 4 +
    announcedSize (u16At 6 payload) httpTunnelResponseFieldCaps 4

def ChannelResponse.announcedLength (payload : Bytes) : Nat :=
  let fieldsPresent := u16At 4 payload
  let cookieOffset := 8 + announcedSize fieldsPresent httpChannelResponseFieldChannelid 4 +
    announcedSize fieldsPresent httpChannelResponseFieldUdpport 2
  cookieOffset +
    announcedSize fieldsPresent httpChannelResponseFieldAuthncookie (2 + (u16At cookieOffset payload).toNat)

/-- An accepted payload has the fields that it announces, and one that is too short
for them is refused. -/
structure PresentOrRefused {α : Type} (parse : Bytes → Outcome MessageError α) (announced : α → Prop)
    (announcedLength : Bytes → Nat) (payload : Bytes) : Prop where
  present : ∀ msg, parse payload = .ok msg → announced msg
  refused : payload.length < announcedLength payload → ∃ error, parse payload = .err error

theorem PresentOrRefused.of_ok {α : Type} {parse : Bytes → Outcome MessageError α}
    {announced : α → Prop} {announcedLength : Bytes → Nat} {payload : Bytes}
    (safe : (parse payload).Safe)
    (held : ∀ msg, parse payload = .ok msg → announced msg ∧ announcedLength payload ≤ payload.length) :
    PresentOrRefused parse announced announcedLength payload := by
  constructor
  · intro msg accepted
    exact (held msg accepted).1
  · intro short
    cases outcome : parse payload with
    | ok msg => exact absurd (held msg outcome).2 (Nat.not_le.mpr short)
    | err error => exact ⟨error, rfl⟩
    | panicked => exact absurd outcome safe.ne_panicked

/-! ## Reading announced fields -/

theorem readOptional_eq_ok {α : Type} {codec : FixedCodec α} {fieldsPresent bit : UInt16}
    {r rest : Bytes} {field : Option α} :
    readOptional codec fieldsPresent bit r = .ok (field, rest) ↔
      Announced fieldsPresent bit field ∧ r = writeOptional codec field ++ rest := by
  constructor
  · intro read
    unfold readOptional at read
    split at read
    · next flagged =>
      split at read
      · cases read
      · simp only [Outcome.bind_eq_ok, Prod.exists, FixedCodec.get_eq_ok, Outcome.pure_eq] at read
        obtain ⟨value, r, rfl, same⟩ := read
        cases same
        exact ⟨iff_of_true flagged rfl, rfl⟩
    · next unflagged =>
      cases read
      exact ⟨iff_of_false unflagged Bool.false_ne_true, rfl⟩
  · intro encoded
    obtain ⟨announced, rfl⟩ := encoded
    exact readOptional_writeOptional codec announced rest

theorem Announced.size {α : Type} {fieldsPresent bit : UInt16} {field : Option α}
    (announced : Announced fieldsPresent bit field) (size : Nat) :
    announcedSize fieldsPresent bit size = if field.isSome then size else 0 :=
  if_congr announced rfl rfl

theorem u16At_append {front : Bytes} {offset : Nat} (starts : front.length = offset) (rest : Bytes) :
    u16At offset (front ++ rest) = u16At 0 rest := by
  rw [u16At, u16At, List.drop_left' starts, List.drop_zero]

theorem u16At_put (value : UInt16) (rest : Bytes) : u16At 0 (u16Le.put value ++ rest) = value :=
  u16Le.decode_at [] rfl value rest

/-- A 16-bit length and the text behind it are as long as the length says, or longer. -/
theorem u16At_held {r : Bytes} {len : UInt16} {text : Bytes} (split : r = u16Le.put len ++ text)
    (inside : len.toNat ≤ text.length) : 2 + (u16At 0 r).toNat ≤ r.length := by
  subst split
  rw [u16At_put, List.length_append, FixedCodec.put_length, u16Le_width]
  omega

theorem TunnelResponse.parse_held {payload : Bytes} {msg : TunnelResponse}
    (parsed : TunnelResponse.parse payload = .ok msg) :
    (Announced msg.fieldsPresent httpTunnelResponseFieldTunnelId msg.tunnelId ∧
      Announced msg.fieldsPresent httpTunnelResponseFieldCaps msg.caps) ∧
      announcedLength payload ≤ payload.length := by
  unfold TunnelResponse.parse at parsed
  split at parsed
  · cases parsed
  simp only [Outcome.bind_eq_ok, Prod.exists, FixedCodec.get_eq_ok, readOptional_eq_ok,
    Outcome.pure_eq] at parsed
  obtain ⟨serverVersion, _, rfl, errorCode, _, rfl, fieldsPresent, _, rfl, reserved, _, rfl,
    tunnelId, _, ⟨tunnelIdAnnounced, rfl⟩, caps, rest, ⟨capsAnnounced, rfl⟩, same⟩ := parsed
  cases same
  refine ⟨⟨tunnelIdAnnounced, capsAnnounced⟩, ?_⟩
  have flags : u16At 6 (u16Le.put serverVersion ++ (u32Le.put errorCode ++ (u16Le.put fieldsPresent ++
      (u16Le.put reserved ++ (writeOptional u32Le tunnelId ++ (writeOptional u32Le caps ++ rest)))))) =
      fieldsPresent := by
    rw [← List.append_assoc (u16Le.put serverVersion), u16At_append (by simp), u16At_put]
  rw [announcedLength, flags, tunnelIdAnnounced.size, capsAnnounced.size]
  simp only [List.length_append, FixedCodec.put_length, writeOptional_length, u16Le_width, u32Le_width]
  omega

/-- In front of the cookie the announced length counts the bytes that are there. -/
theorem ChannelResponse.announcedLength_front {errorCode : UInt32} {fieldsPresent reserved : UInt16}
    {channelId : Option UInt32} {udpPort : Option UInt16}
    (channelIdAnnounced : Announced fieldsPresent httpChannelResponseFieldChannelid channelId)
    (udpPortAnnounced : Announced fieldsPresent httpChannelResponseFieldUdpport udpPort)
    {payload r : Bytes} (split : payload = u32Le.put errorCode ++ (u16Le.put fieldsPresent ++
      (u16Le.put reserved ++ (writeOptional u32Le channelId ++ (writeOptional u16Le udpPort ++ r))))) :
    announcedLength payload + r.length = payload.length +
      announcedSize fieldsPresent httpChannelResponseFieldAuthncookie (2 + (u16At 0 r).toNat) := by
  have flags : u16At 4 payload = fieldsPresent := by
    rw [split, u16At_append (by simp), u16At_put]
  have counted := congrArg List.length split
  simp only [List.length_append, FixedCodec.put_length, writeOptional_length, u16Le_width, u32Le_width,
    ← channelIdAnnounced.size, ← udpPortAnnounced.size] at counted
  have cookieLength : u16At (8 + announcedSize fieldsPresent httpChannelResponseFieldChannelid 4 +
      announcedSize fieldsPresent httpChannelResponseFieldUdpport 2) payload = u16At 0 r := by
    have front : payload = (u32Le.put errorCode ++ u16Le.put fieldsPresent ++ u16Le.put reserved ++
        writeOptional u32Le channelId ++ writeOptional u16Le udpPort) ++ r := by
      simp only [split, List.append_assoc]
    rw [front]
    apply u16At_append
    simp only [List.length_append, FixedCodec.put_length, writeOptional_length, u16Le_width, u32Le_width,
      ← channelIdAnnounced.size, ← udpPortAnnounced.size]
  simp only [announcedLength, flags, cookieLength, counted]
  omega

theorem ChannelResponse.parse_held {payload : Bytes} {msg : ChannelResponse}
    (parsed : ChannelResponse.parse payload = .ok msg) :
    (Announced msg.fieldsPresent httpChannelResponseFieldChannelid msg.channelId ∧
      Announced msg.fieldsPresent httpChannelResponseFieldUdpport msg.udpPort ∧
      Announced msg.fieldsPresent httpChannelResponseFieldAuthncookie msg.authCookie) ∧
      announcedLength payload ≤ payload.length := by
  unfold ChannelResponse.parse at parsed
  split at parsed
  · cases parsed
  simp only [Outcome.bind_eq_ok, Prod.exists, FixedCodec.get_eq_ok, readOptional_eq_ok,
    Outcome.pure_eq] at parsed
  obtain ⟨errorCode, _, split, fieldsPresent, _, rfl, reserved, _, rfl, channelId, _,
    ⟨channelIdAnnounced, rfl⟩, udpPort, r, ⟨udpPortAnnounced, rfl⟩, parsed⟩ := parsed
  have front := announcedLength_front channelIdAnnounced udpPortAnnounced split
  split at parsed
  · next flagged =>
    split at parsed
    · cases parsed
    simp only [Outcome.bind_eq_ok, Prod.exists, FixedCodec.get_eq_ok] at parsed
    obtain ⟨len, text, split, parsed⟩ := parsed
    split at parsed
    · cases parsed
    next inside =>
    simp only [Outcome.bind_eq_ok, Outcome.ok.injEq] at parsed
    obtain ⟨data, _, _, _, _, rfl, rfl⟩ := parsed
    refine ⟨⟨channelIdAnnounced, udpPortAnnounced, iff_of_true flagged rfl⟩, ?_⟩
    have held := u16At_held split (Nat.le_of_not_lt inside)
    rw [announcedSize, if_pos flagged] at front
    omega
  · next unflagged =>
    cases parsed
    refine ⟨⟨channelIdAnnounced, udpPortAnnounced, iff_of_false unflagged Bool.false_ne_true⟩, ?_⟩
    rw [announcedSize, if_neg unflagged] at front
    omega

/-! ## The cookie of TunnelCreate -/

theorem TunnelCreate.announcedLength_front {capsFlags : UInt32} {fieldsPresent reserved : UInt16}
    {payload r : Bytes}
    (split : payload = u32Le.put capsFlags ++ (u16Le.put fieldsPresent ++ (u16Le.put reserved ++ r))) :
    announcedLength payload + r.length = payload.length +
      announcedSize fieldsPresent httpTunnelPacketFieldPaaCookie (2 + (u16At 0 r).toNat) := by
  have flags : u16At 4 payload = fieldsPresent := by
    rw [split, u16At_append (by simp), u16At_put]
  have cookieLength : u16At 8 payload = u16At 0 r := by
    rw [split, ← List.append_assoc (u16Le.put fieldsPresent), ← List.append_assoc,
      u16At_append (by simp)]
  have counted := congrArg List.length split
  simp only [List.length_append, FixedCodec.put_length, u16Le_width, u32Le_width] at counted
  rw [announcedLength, flags, cookieLength, counted]
  omega

/-- The cookie does not fit behind the fixed part: its length is missing, or more than is left. -/
theorem TunnelCreate.parse_cut (capsFlags : UInt32) {fieldsPresent : UInt16} (reserved : UInt16) {r : Bytes}
    (flagged : fieldsPresent &&& httpTunnelPacketFieldPaaCookie ≠ 0)
    (cut : r.length < 2 + (u16At 0 r).toNat) :
    TunnelCreate.parse (u32Le.put capsFlags ++ (u16Le.put fieldsPresent ++ (u16Le.put reserved ++ r))) =
      .ok { capsFlags, fieldsPresent, reserved, paaCookie := none } := by
  rw [TunnelCreate.parse, if_neg (by simp; omega)]
  simp only [FixedCodec.get_put_append, Outcome.ok_bind, Outcome.pure_eq]
  by_cases room : 2 ≤ r.length
  · obtain ⟨cookieLen, text, rfl⟩ := u16Le.exists_put r room
    rw [u16At_put, List.length_append, FixedCodec.put_length, u16Le_width] at cut
    have long : ¬ cookieLen.toNat ≤ text.length := by omega
    simp only [if_pos (And.intro flagged room), FixedCodec.get_put_append, Outcome.ok_bind, if_neg long]
  · have unread : ¬ (fieldsPresent &&& httpTunnelPacketFieldPaaCookie ≠ 0 ∧ 2 ≤ r.length) :=
      fun both => room both.2
    rw [if_neg unread]

theorem TunnelCreate.parse_held {payload : Bytes} {msg : TunnelCreate}
    (held : announcedLength payload ≤ payload.length)
    (parsed : TunnelCreate.parse payload = .ok msg) :
    Announced msg.fieldsPresent httpTunnelPacketFieldPaaCookie msg.paaCookie := by
  unfold TunnelCreate.parse at parsed
  split at parsed
  · cases parsed
  simp only [Outcome.bind_eq_ok, Prod.exists, FixedCodec.get_eq_ok, Outcome.pure_eq] at parsed
  obtain ⟨capsFlags, _, split, fieldsPresent, _, rfl, reserved, r, rfl, parsed⟩ := parsed
  have front := announcedLength_front split
  split at parsed
  · next flagged =>
    rw [announcedSize, if_pos flagged.1] at front
    simp only [Outcome.bind_eq_ok, Prod.exists, FixedCodec.get_eq_ok] at parsed
    obtain ⟨cookieLen, text, rfl, parsed⟩ := parsed
    rw [u16At_put, List.length_append, FixedCodec.put_length, u16Le_width] at front
    have inside : cookieLen.toNat ≤ text.length := by omega
    simp only [if_pos inside, Outcome.bind_eq_ok, Outcome.ok.injEq] at parsed
    obtain ⟨data, _, cookie, _, _, rfl, rfl⟩ := parsed
    exact iff_of_true flagged.1 rfl
  · next unread =>
    cases parsed
    have unflagged : ¬ fieldsPresent &&& httpTunnelPacketFieldPaaCookie ≠ 0 := by
      intro flagged
      rw [announcedSize, if_pos flagged] at front
      exact unread ⟨flagged, by omega⟩
    exact iff_of_false unflagged Bool.false_ne_true

/-- `TunnelCreate` keeps the rule exactly where the announced cookie is there, or not
even the fixed part is. -/
theorem TunnelCreate.presentOrRefused_iff (payload : Bytes) :
    PresentOrRefused TunnelCreate.parse
        (fun msg => Announced msg.fieldsPresent httpTunnelPacketFieldPaaCookie msg.paaCookie)
        announcedLength payload ↔
      (8 ≤ payload.length → announcedLength payload ≤ payload.length) := by
  constructor
  · intro rule fixed
    by_contra short
    obtain ⟨capsFlags, r, split⟩ := u32Le.exists_put payload (by simp; omega)
    have counted := congrArg List.length split
    simp only [List.length_append, FixedCodec.put_length, u32Le_width] at counted
    obtain ⟨fieldsPresent, r, rfl⟩ := u16Le.exists_put r (by simp; omega)
    simp only [List.length_append, FixedCodec.put_length, u16Le_width] at counted
    obtain ⟨reserved, r, rfl⟩ := u16Le.exists_put r (by simp; omega)
    have front := announcedLength_front split
    have flagged : fieldsPresent &&& httpTunnelPacketFieldPaaCookie ≠ 0 := by
      intro unflagged
      rw [announcedSize, if_neg (not_not.mpr unflagged)] at front
      omega
    rw [announcedSize, if_pos flagged] at front
    have dropped := parse_cut capsFlags reserved flagged (show r.length < _ by omega)
    have cookie := (rule.present _ (split ▸ dropped)).mp flagged
    cases cookie
  · intro held
    by_cases fixed : 8 ≤ payload.length
    · exact .of_ok (TunnelCreate.parse_safe payload)
        fun msg parsed => ⟨parse_held (held fixed) parsed, held fixed⟩
    · have refused : TunnelCreate.parse payload = .err (.bufferTooShort 8 payload.length) :=
        if_pos (Nat.lt_of_not_le fixed)
      exact ⟨fun msg parsed => absurd parsed (Outcome.ne_ok_of_err refused msg), fun _ => ⟨_, refused⟩⟩

/-- Announced fields are present or the message is refused: always in the two responses,
and in `TunnelCreate` unless it drops a cookie that is cut off. -/
theorem announced_present_iff (payload : Bytes) :
    PresentOrRefused TunnelResponse.parse
        (fun msg => Announced msg.fieldsPresent httpTunnelResponseFieldTunnelId msg.tunnelId ∧
          Announced msg.fieldsPresent httpTunnelResponseFieldCaps msg.caps)
        TunnelResponse.announcedLength payload ∧
      PresentOrRefused ChannelResponse.parse
        (fun msg => Announced msg.fieldsPresent httpChannelResponseFieldChannelid msg.channelId ∧
          Announced msg.fieldsPresent httpChannelResponseFieldUdpport msg.udpPort ∧
          Announced msg.fieldsPresent httpChannelResponseFieldAuthncookie msg.authCookie)
        ChannelResponse.announcedLength payload ∧
      (PresentOrRefused TunnelCreate.parse
          (fun msg => Announced msg.fieldsPresent httpTunnelPacketFieldPaaCookie msg.paaCookie)
          TunnelCreate.announcedLength payload ↔
        (8 ≤ payload.length → TunnelCreate.announcedLength payload ≤ payload.length)) :=
  ⟨.of_ok (TunnelResponse.parse_safe payload) fun _ => TunnelResponse.parse_held,
    .of_ok (ChannelResponse.parse_safe payload) fun _ => ChannelResponse.parse_held,
    TunnelCreate.presentOrRefused_iff payload⟩

/-- A cookie of four bytes is announced, and two are there. -/
def cutCookie : Bytes := [0, 0, 0, 0, 1, 0, 0, 0, 4, 0, 0x61, 0]

theorem cutCookie_accepted :
    ¬ ∀ payload msg, TunnelCreate.parse payload = .ok msg →
      Announced msg.fieldsPresent httpTunnelPacketFieldPaaCookie msg.paaCookie := by
  intro announced
  have flagged : (1 : UInt16) &&& httpTunnelPacketFieldPaaCookie ≠ 0 := by decide
  have missing := (announced cutCookie ⟨0, 1, 0, none⟩ (by decide)).mp flagged
  cases missing

end RdGateway.Proto
