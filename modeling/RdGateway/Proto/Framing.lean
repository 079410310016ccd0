import RdGateway.Proto.MessagesProperties
import RdGateway.Proto.WebSocket

/-!
# TSG framing is local

Behind a header, parsing depends on the declared length and the payload in front of it.
A buffer that holds one whole message parses like every longer one, so that a reader
need not wait for more than `isCompleteMessage` asks for.
-/

set_option autoImplicit false

namespace RdGateway.Proto

open Wirekit

theorem MessageHeader.exists_write {buf : Bytes} (enough : headerSize ≤ buf.length) :
    ∃ header rest, buf = MessageHeader.write header ++ rest := by
  rw [headerSize] at enough
  obtain ⟨msgType, r, rfl⟩ := u16Le.exists_put buf (by simp; omega)
  simp only [List.length_append, FixedCodec.put_length, u16Le_width] at enough
  obtain ⟨reserved, r, rfl⟩ := u16Le.exists_put r (by simp; omega)
  simp only [List.length_append, FixedCodec.put_length, u16Le_width] at enough
  obtain ⟨length, rest, rfl⟩ := u32Le.exists_put r (by simp; omega)
  exact ⟨⟨msgType, reserved, length⟩, rest, by simp only [MessageHeader.write, List.append_assoc]⟩

/-- What parsing comes to behind a header, for every declared length. -/
theorem parseMessage_header (header : MessageHeader) (rest : Bytes) :
    parseMessage (header.write ++ rest) =
      if header.length.toNat < headerSize then .err (.invalidLength header.length)
      else if headerSize + rest.length < header.length.toNat then
        .err (.bufferTooShort header.length.toNat (headerSize + rest.length))
      else parsePayload header.msgType (rest.take (header.length.toNat - headerSize)) := by
  have counted : (header.write ++ rest).length = headerSize + rest.length := by simp
  rw [parseMessage, MessageHeader.parse_write_append, Outcome.ok_bind]
  dsimp only
  rw [counted]
  by_cases small : header.length.toNat < headerSize
  · rw [if_pos small, if_pos small]
  · rw [if_neg small, if_neg small]
    by_cases cut : headerSize + rest.length < header.length.toNat
    · rw [if_pos cut, if_pos cut]
    · rw [if_neg cut, if_neg cut, slice_eq (by omega) (by omega),
        List.drop_left' header.write_length, Outcome.ok_bind]

theorem messageLength_header (header : MessageHeader) (rest : Bytes) :
    messageLength (header.write ++ rest) = .ok header.length.toNat := by
  rw [messageLength, MessageHeader.parse_write_append, Outcome.ok_bind, Outcome.pure_eq]

theorem isCompleteMessage_header (header : MessageHeader) (rest : Bytes) :
    isCompleteMessage (header.write ++ rest) = true ↔ header.length.toNat ≤ headerSize + rest.length := by
  have counted : (header.write ++ rest).length = headerSize + rest.length := by simp
  rw [isCompleteMessage, counted, if_neg (by omega), MessageHeader.parse_write_append]
  exact decide_eq_true_iff

/-- A complete buffer holds a header and what the header declares. -/
theorem isCompleteMessage_iff {buf : Bytes} :
    isCompleteMessage buf = true ↔ ∃ header rest, buf = MessageHeader.write header ++ rest ∧
      header.length.toNat ≤ headerSize + rest.length := by
  constructor
  · intro complete
    have enough : headerSize ≤ buf.length := by
      unfold isCompleteMessage at complete
      split at complete
      · cases complete
      · omega
    obtain ⟨header, rest, rfl⟩ := MessageHeader.exists_write enough
    exact ⟨header, rest, rfl, (isCompleteMessage_header header rest).mp complete⟩
  · intro split
    obtain ⟨header, rest, rfl, held⟩ := split
    exact (isCompleteMessage_header header rest).mpr held

theorem parseMessage_append {buf : Bytes} (complete : isCompleteMessage buf = true) (later : Bytes) :
    parseMessage (buf ++ later) = parseMessage buf := by
  obtain ⟨header, rest, rfl, held⟩ := isCompleteMessage_iff.mp complete
  rw [List.append_assoc, parseMessage_header, parseMessage_header, List.length_append]
  by_cases small : header.length.toNat < headerSize
  · rw [if_pos small, if_pos small]
  · rw [if_neg small, if_neg small, if_neg (by omega), if_neg (by omega),
      List.take_append_of_le_length (by omega)]

theorem parseMessage_incomplete {buf : Bytes} (incomplete : isCompleteMessage buf = false) :
    ∃ needed available, parseMessage buf = .err (.bufferTooShort needed available) := by
  by_cases enough : headerSize ≤ buf.length
  · obtain ⟨header, rest, rfl⟩ := MessageHeader.exists_write enough
    have cut : headerSize + rest.length < header.length.toNat := by
      by_contra held
      rw [(isCompleteMessage_header header rest).mpr (by omega)] at incomplete
      cases incomplete
    exact ⟨_, _, by rw [parseMessage_header, if_neg (by omega), if_pos cut]⟩
  · have short : buf.length < headerSize := by omega
    exact ⟨_, _, by rw [parseMessage, MessageHeader.parse, if_pos short, Outcome.err_bind]⟩

theorem isCompleteMessage_take {buf : Bytes} {length : Nat} (complete : isCompleteMessage buf = true)
    (declared : messageLength buf = .ok length) (whole : headerSize ≤ length) :
    isCompleteMessage (buf.take length) = true := by
  obtain ⟨header, rest, rfl, held⟩ := isCompleteMessage_iff.mp complete
  rw [messageLength_header] at declared
  cases declared
  have front : (header.write ++ rest).take header.length.toNat =
      header.write ++ rest.take (header.length.toNat - headerSize) := by
    rw [List.take_append, header.write_length,
      List.take_of_length_le (by rw [header.write_length]; exact whole)]
  rw [front, isCompleteMessage_header, List.length_take]
  omega

/-- A reader that appends chunks until the buffer holds a message. -/
def accumulate : Bytes → List Bytes → Bytes
  | buf, [] => buf
  | buf, chunk :: rest => if isCompleteMessage buf then buf else accumulate (buf ++ chunk) rest

theorem parseMessage_accumulate (buf : Bytes) (chunks : List Bytes) :
    parseMessage (accumulate buf chunks) = parseMessage (buf ++ chunks.flatten) := by
  induction chunks generalizing buf with
  | nil => rw [accumulate, List.flatten_nil, List.append_nil]
  | cons chunk rest ih =>
      rw [accumulate]
      cases complete : isCompleteMessage buf with
      | true => exact (parseMessage_append complete _).symm
      | false =>
          rw [List.flatten_cons, ← List.append_assoc]
          exact ih (buf ++ chunk)

/-- The completeness test agrees with the parser. Behind a complete message nothing is
looked at, and behind a sound length only the declared bytes are; an incomplete one is
refused as too short. A reader that stops at the first complete buffer gets the answer
of one that has waited for everything. -/
theorem framing_local (buf : Bytes) :
    (isCompleteMessage buf = true →
      (∀ later, parseMessage (buf ++ later) = parseMessage buf) ∧
        ∀ length, messageLength buf = .ok length → headerSize ≤ length →
          ∀ other, other.take length = buf.take length → parseMessage other = parseMessage buf) ∧
      (isCompleteMessage buf = false →
        ∃ needed available, parseMessage buf = .err (.bufferTooShort needed available)) ∧
      ∀ chunks, parseMessage (accumulate buf chunks) = parseMessage (buf ++ chunks.flatten) := by
  refine ⟨fun complete => ⟨parseMessage_append complete, ?_⟩, parseMessage_incomplete,
    parseMessage_accumulate buf⟩
  intro length declared whole other same
  have front := isCompleteMessage_take complete declared whole
  have cut (full : Bytes) (starts : full.take length = buf.take length) :
      parseMessage full = parseMessage (buf.take length) := by
    rw [← List.take_append_drop length full, starts]
    exact parseMessage_append front _
  rw [cut other same, cut buf rfl]

theorem framing_local_keepalive :
    parseMessage (writeKeepalive ++ [1, 2]) = parseMessage writeKeepalive ∧
      ∃ needed available, parseMessage (writeKeepalive.take 7) = .err (.bufferTooShort needed available) :=
  ⟨((framing_local writeKeepalive).1 (by decide)).1 [1, 2],
    (framing_local (writeKeepalive.take 7)).2.1 (by decide)⟩

end RdGateway.Proto
