import RdGateway.Proto.RpcProperties
import RdGateway.Server.RpchPairing

/-!
# The IN channel and the frames of its body

`RpcPduHeader.parse` refuses a PDU that is not in the buffer yet, before the loop
waits for the rest of it. So the result of an IN request depends on where the frames
of its body end: a frame that ends inside a PDU, behind its header, ends the request.
-/

set_option autoImplicit false

namespace RdGateway.Server

open Wirekit Proto RdGateway.Core

def cutPdus (stream : Bytes) : List Bytes × Bytes :=
  match _parsed : RpcPduHeader.parse stream with
  | .ok header =>
      let later := cutPdus (stream.drop header.fragLength.toNat)
      (stream.take header.fragLength.toNat :: later.1, later.2)
  | _ => ([], stream)
termination_by stream.length
decreasing_by
  have announced := (RpcPduHeader.parse_sat stream).post _parsed
  rw [rpcHeaderSize] at announced
  rw [List.length_drop]
  omega

theorem cutPdus_parsed {stream : Bytes} {header : RpcPduHeader}
    (parsed : RpcPduHeader.parse stream = .ok header) :
    cutPdus stream =
      (stream.take header.fragLength.toNat :: (cutPdus (stream.drop header.fragLength.toNat)).1,
        (cutPdus (stream.drop header.fragLength.toNat)).2) := by
  rw [cutPdus]
  split
  · next same =>
    rw [parsed] at same
    cases same
    rfl
  · next refused => exact absurd parsed (refused header)

theorem cutPdus_unparsed {stream : Bytes}
    (refused : ∀ header, RpcPduHeader.parse stream ≠ .ok header) : cutPdus stream = ([], stream) := by
  rw [cutPdus]
  split
  · next header same => exact absurd same (refused header)
  · rfl

theorem cutPdus_flatten (stream : Bytes) : (cutPdus stream).1.flatten ++ (cutPdus stream).2 = stream := by
  induction stream using cutPdus.induct with
  | case1 stream header parsed ih =>
      rw [cutPdus_parsed parsed, List.flatten_cons, List.append_assoc, ih, List.take_append_drop]
  | case2 stream refused =>
      rw [cutPdus_unparsed refused]
      rfl

/-- A PDU in the list begins where the ones in front of it end. -/
theorem cutPdus_split {stream tail pdu : Bytes} {before after : List Bytes}
    (cut : cutPdus stream = (before ++ pdu :: after, tail)) :
    ∃ later header, stream = before.flatten ++ later ∧ RpcPduHeader.parse later = .ok header ∧
      pdu = later.take header.fragLength.toNat ∧
      cutPdus (later.drop header.fragLength.toNat) = (after, tail) := by
  rcases RpcPduHeader.parse_cases stream with ⟨header, parsed⟩ | refused
  · rw [cutPdus_parsed parsed] at cut
    cases before with
    | nil =>
        cases cut
        exact ⟨stream, header, rfl, parsed, rfl, rfl⟩
    | cons first before =>
        obtain ⟨pdus, same⟩ := Prod.mk.inj cut
        obtain ⟨rfl, rest⟩ := List.cons.inj pdus
        obtain ⟨later, found, spelled, facts⟩ := cutPdus_split (Prod.ext rest same)
        refine ⟨later, found, ?_, facts⟩
        rw [List.flatten_cons, List.append_assoc, ← spelled, List.take_append_drop]
  · rw [cutPdus_unparsed refused] at cut
    cases before <;> cases cut
termination_by before.length

/-! ## One PDU -/

section ReadPdu

variable {buf filled : Bytes} {body rest : List BodyFrame} {header : RpcPduHeader}

theorem readPdu_ended (ended : buf ++ bodyBytes body = []) : readPdu buf body = .ok none := by
  rcases fill_total rpcHeaderSize buf body with ⟨long, _⟩ | ⟨_, filled⟩
  · rw [ended] at long
    cases long
  · rw [readPdu, filled, ended]
    rfl

theorem readPdu_unparsed (more : buf ++ bodyBytes body ≠ [])
    (refused : ∀ header, RpcPduHeader.parse (buf ++ bodyBytes body) ≠ .ok header) :
    ∃ error, readPdu buf body = .error error := by
  rcases fill_total rpcHeaderSize buf body with ⟨_, filled, rest, enough⟩ | ⟨_, ended⟩
  · obtain ⟨_, same, _⟩ := fill_enough enough
    cases parsed : RpcPduHeader.parse filled with
    | ok header =>
        have whole := RpcPduHeader.parse_append (bodyBytes rest) parsed
        rw [same] at whole
        exact absurd whole (refused header)
    | err error => exact ⟨.headerParse error, by rw [readPdu, enough]; simp only [parsed]⟩
    | panicked => exact ⟨.crashed, by rw [readPdu, enough]; simp only [parsed]⟩
  · refine ⟨.bodyEndedMidHeader, ?_⟩
    rw [readPdu, ended]
    simp only [List.isEmpty_iff, more, if_false]

/-- A PDU that is in the buffer once the header can be read. -/
theorem readPdu_whole (parsed : RpcPduHeader.parse (buf ++ bodyBytes body) = .ok header)
    (enough : fill rpcHeaderSize buf body = .enough filled rest)
    (available : header.fragLength.toNat ≤ filled.length) :
    readPdu buf body =
      .ok (some
        { header, pduData := (buf ++ bodyBytes body).take header.fragLength.toNat
          buf := filled.drop header.fragLength.toNat, body := rest }) := by
  obtain ⟨_, same, _⟩ := fill_enough enough
  rw [← same] at parsed
  have front := RpcPduHeader.parse_front parsed available
  rw [readPdu, enough, ← same, List.take_append_of_le_length available]
  simp only [front, fill_of_le rest available]

theorem readPdu_buffered (parsed : RpcPduHeader.parse (buf ++ bodyBytes body) = .ok header)
    (inside : header.fragLength.toNat ≤ buf.length) :
    readPdu buf body =
      .ok (some
        { header, pduData := (buf ++ bodyBytes body).take header.fragLength.toNat
          buf := buf.drop header.fragLength.toNat, body }) := by
  have announced := (RpcPduHeader.parse_sat _).post parsed
  exact readPdu_whole parsed (fill_of_le body (Nat.le_trans announced.1 inside)) inside

theorem readPdu_alone (parsed : RpcPduHeader.parse buf = .ok header) :
    readPdu buf [] =
      .ok (some
        { header, pduData := buf.take header.fragLength.toNat
          buf := buf.drop header.fragLength.toNat, body := [] }) := by
  have alone : buf ++ bodyBytes [] = buf := List.append_nil buf
  have announced := (RpcPduHeader.parse_sat buf).post parsed
  rw [← alone] at parsed
  rw [readPdu_buffered parsed announced.2, alone]

/-- A PDU that is not: its header is refused, whatever is still to come. -/
theorem readPdu_short (parsed : RpcPduHeader.parse (buf ++ bodyBytes body) = .ok header)
    (enough : fill rpcHeaderSize buf body = .enough filled rest)
    (missing : filled.length < header.fragLength.toNat) :
    ∃ error, readPdu buf body = .error error := by
  obtain ⟨_, same, _⟩ := fill_enough enough
  cases front : RpcPduHeader.parse filled with
  | ok other =>
      have whole := RpcPduHeader.parse_append (bodyBytes rest) front
      rw [same, parsed] at whole
      cases whole
      exact absurd missing (Nat.not_lt.mpr ((RpcPduHeader.parse_sat filled).post front).2)
  | err error => exact ⟨.headerParse error, by rw [readPdu, enough]; simp only [front]⟩
  | panicked => exact ⟨.crashed, by rw [readPdu, enough]; simp only [front]⟩

theorem fill_header (parsed : RpcPduHeader.parse (buf ++ bodyBytes body) = .ok header) :
    ∃ filled rest, fill rpcHeaderSize buf body = .enough filled rest := by
  rcases fill_total rpcHeaderSize buf body with ⟨_, found⟩ | ⟨short, _⟩
  · exact found
  · have announced := (RpcPduHeader.parse_sat _).post parsed
    omega

end ReadPdu

/-! ## Runs before the bind -/

def IsBind (pdu : Bytes) : Prop := pdu[2]? = some RpcPduType.bind.toU8

instance (pdu : Bytes) : Decidable (IsBind pdu) := inferInstanceAs (Decidable (_ = _))

def isTsgBindPdu (pdu : Bytes) : Bool :=
  match BindPdu.parse pdu with
  | .ok bind => bind.isTsgBind
  | _ => false

theorem parse_isBind {stream : Bytes} {header : RpcPduHeader}
    (parsed : RpcPduHeader.parse stream = .ok header) :
    IsBind (stream.take header.fragLength.toNat) ↔ header.ptype = .bind := by
  have announced := (RpcPduHeader.parse_sat stream).post parsed
  have inside : 2 < header.fragLength.toNat := by
    rw [rpcHeaderSize] at announced
    omega
  rw [IsBind, List.getElem?_take_of_lt inside, RpcPduHeader.parse_ptype parsed, Option.some.injEq]
  constructor
  · exact RpcPduType.toU8_injective
  · intro same
    rw [same]

section Unbound

variable {accepts : Nat → Bool} {state : RpcState} {buf : Bytes} {body : List BodyFrame}

theorem handlePdu_unbound {header : RpcPduHeader} (unbound : state.bound = false) (pduData : Bytes)
    (other : header.ptype ≠ .bind) : handlePdu accepts state header pduData = (.ok (), state) := by
  unfold handlePdu
  split
  · next bind => exact absurd bind other
  · rw [unbound]
    rfl
  · rfl

theorem handleBind_refused {pduData : Bytes} (refused : isTsgBindPdu pduData = false) :
    ∃ error, handleBind accepts state pduData = (.error error, state) := by
  unfold handleBind
  unfold isTsgBindPdu at refused
  split
  · exact ⟨_, rfl⟩
  · exact ⟨_, rfl⟩
  · next bind parsed =>
    rw [parsed] at refused
    dsimp only at refused
    rw [refused]
    exact ⟨_, rfl⟩

theorem handleBind_taken {pduData : Bytes} (taken : isTsgBindPdu pduData = true)
    (established : state.vconn.state = .connectionEstablished) :
    ∃ after frame, handleBind (fun _ => true) state pduData = (.ok (), after) ∧
      after.sent = state.sent ++ [frame] := by
  unfold isTsgBindPdu at taken
  split at taken
  · next bind parsed =>
    simp only [handleBind, parsed, taken, VirtualConnection.enterDataTransfer, established,
      RpcState.send]
    exact ⟨_, _, rfl, rfl⟩
  · cases taken

/-- PDUs of other types in front of the bind are passed over once they are in the buffer. -/
theorem run_skip {before after : List Bytes} {tail : Bytes} (unbound : state.bound = false)
    (cut : cutPdus (buf ++ bodyBytes body) = (before ++ after, tail))
    (others : ∀ pdu ∈ before, ¬ IsBind pdu) (available : before.flatten.length ≤ buf.length) :
    (rpcLoop accepts).run { state, buf, body } =
      (rpcLoop accepts).run { state, buf := buf.drop before.flatten.length, body } := by
  induction before generalizing buf with
  | nil => rfl
  | cons pdu before ih =>
      have cut : cutPdus (buf ++ bodyBytes body) = ([] ++ pdu :: (before ++ after), tail) := cut
      obtain ⟨stream, header, spelled, parsed, rfl, rest⟩ := cutPdus_split cut
      have spelled : buf ++ bodyBytes body = stream := spelled
      have announced := (RpcPduHeader.parse_sat stream).post parsed
      have sized : (stream.take header.fragLength.toNat).length = header.fragLength.toNat := by
        rw [List.length_take]
        exact Nat.min_eq_left announced.2
      rw [List.flatten_cons, List.length_append, sized] at available
      have inside : header.fragLength.toNat ≤ buf.length := by omega
      have other : header.ptype ≠ .bind := by
        intro bind
        exact others _ List.mem_cons_self ((parse_isBind parsed).mpr bind)
      rw [← spelled] at parsed
      have read := readPdu_buffered parsed inside
      have round : (rpcLoop accepts).round { state, buf, body } =
          .next { state, buf := buf.drop header.fragLength.toNat, body } := by
        simp only [rpcLoop_round, rpcRound, read, handlePdu_unbound unbound _ other]
      have left : (buf.drop header.fragLength.toNat) ++ bodyBytes body =
          stream.drop header.fragLength.toNat := by
        rw [← spelled, List.drop_append_of_le_length inside]
      rw [Loop.run_next round, List.flatten_cons, List.length_append, sized, ← List.drop_drop]
      refine ih (by rw [left]; exact rest) (fun pdu member => ?_) ?_
      · exact others pdu (List.mem_cons_of_mem _ member)
      · rw [List.length_drop]
        omega

/-- No bind is accepted, and the stream does not end behind its last PDU. -/
def Fails (cut : List Bytes × Bytes) : Prop :=
  match cut.1.find? (fun pdu => IsBind pdu) with
  | some bind => isTsgBindPdu bind = false
  | none => cut.2 ≠ []

def Idles (cut : List Bytes × Bytes) : Prop :=
  (∀ pdu ∈ cut.1, ¬ IsBind pdu ∧ pdu.length = rpcHeaderSize) ∧ cut.2 = []

/-- A round that leaves the state alone: it keeps an invariant of the stream, or has an
outcome of one kind. -/
def Passes (accepts : Nat → Bool) (state : RpcState) (Inv : List Bytes × Bytes → Prop)
    (Ends : Except RpcProcessError Unit → Prop) (buf : Bytes) (body : List BodyFrame) : Prop :=
  (∃ outcome, rpcRound accepts { state, buf, body } = .done (outcome, state) ∧ Ends outcome) ∨
    ∃ later rest, rpcRound accepts { state, buf, body } = .next { state, buf := later, body := rest } ∧
      Inv (cutPdus (later ++ bodyBytes rest))

theorem round_fails (unbound : state.bound = false) (fails : Fails (cutPdus (buf ++ bodyBytes body))) :
    Passes accepts state Fails (fun outcome => ∃ error, outcome = .error error) buf body := by
  rcases RpcPduHeader.parse_cases (buf ++ bodyBytes body) with ⟨header, parsed⟩ | refused
  · obtain ⟨filled, rest, enough⟩ := fill_header parsed
    obtain ⟨_, same, _⟩ := fill_enough enough
    rcases Nat.lt_or_ge filled.length header.fragLength.toNat with missing | available
    · obtain ⟨error, read⟩ := readPdu_short parsed enough missing
      exact .inl ⟨_, by simp only [rpcRound, read], error, rfl⟩
    · have read := readPdu_whole parsed enough available
      rw [cutPdus_parsed parsed, Fails] at fails
      by_cases bind : header.ptype = .bind
      · rw [List.find?_cons_of_pos (by simpa using (parse_isBind parsed).mpr bind)] at fails
        obtain ⟨error, handled⟩ : ∃ error, handleBind accepts state _ = (.error error, state) :=
          handleBind_refused fails
        exact .inl ⟨_, by simp only [rpcRound, read, handlePdu, bind, handled], error, rfl⟩
      · rw [List.find?_cons_of_neg (by simpa using fun isBind => bind ((parse_isBind parsed).mp isBind))]
          at fails
        refine .inr ⟨filled.drop header.fragLength.toNat, rest, ?_, ?_⟩
        · simp only [rpcRound, read, handlePdu_unbound unbound _ bind]
        · rw [← List.drop_append_of_le_length available, same]
          exact fails
  · rw [cutPdus_unparsed refused] at fails
    obtain ⟨error, read⟩ := readPdu_unparsed fails refused
    exact .inl ⟨_, by simp only [rpcRound, read], error, rfl⟩

theorem round_idles (unbound : state.bound = false) (idles : Idles (cutPdus (buf ++ bodyBytes body))) :
    Passes accepts state Idles (fun outcome => outcome = .ok ()) buf body := by
  rcases RpcPduHeader.parse_cases (buf ++ bodyBytes body) with ⟨header, parsed⟩ | refused
  · have announced := (RpcPduHeader.parse_sat _).post parsed
    rw [cutPdus_parsed parsed] at idles
    obtain ⟨pdus, ended⟩ := idles
    obtain ⟨⟨noBind, alone⟩, others⟩ := List.forall_mem_cons.mp pdus
    rw [List.length_take, Nat.min_eq_left announced.2] at alone
    obtain ⟨filled, rest, enough⟩ := fill_header parsed
    obtain ⟨long, same, _⟩ := fill_enough enough
    have available : header.fragLength.toNat ≤ filled.length := by
      rw [alone]
      exact long
    have other : header.ptype ≠ .bind := fun bind => noBind ((parse_isBind parsed).mpr bind)
    refine .inr ⟨filled.drop header.fragLength.toNat, rest, ?_, ?_⟩
    · simp only [rpcRound, readPdu_whole parsed enough available, handlePdu_unbound unbound _ other]
    · rw [← List.drop_append_of_le_length available, same]
      exact ⟨others, ended⟩
  · rw [cutPdus_unparsed refused] at idles
    exact .inl ⟨_, by simp only [rpcRound, readPdu_ended idles.2], rfl⟩

theorem run_passes {Inv : List Bytes × Bytes → Prop} {Ends : Except RpcProcessError Unit → Prop}
    (rounds : ∀ buf body, Inv (cutPdus (buf ++ bodyBytes body)) →
      Passes accepts state Inv Ends buf body)
    (initial : Inv (cutPdus (buf ++ bodyBytes body))) :
    ∃ outcome, (rpcLoop accepts).run { state, buf, body } = (outcome, state) ∧ Ends outcome := by
  let Kept (input : RpcInput) : Prop :=
    input.state = state ∧ Inv (cutPdus (input.buf ++ bodyBytes input.body))
  let Post (result : RpcResult) : Prop := ∃ outcome, result = (outcome, state) ∧ Ends outcome
  have start : Kept { state, buf, body } := ⟨rfl, initial⟩
  refine (Loop.run_invariant Kept Post ?_ ?_ start : Post _)
  · intro input next kept taken
    obtain ⟨rfl, kept⟩ := kept
    rw [rpcLoop_round] at taken
    rcases rounds input.buf input.body kept with ⟨_, done, _⟩ | ⟨later, rest, goes, still⟩
    · rw [taken] at done
      cases done
    · rw [taken] at goes
      cases goes
      exact ⟨rfl, still⟩
  · intro input result kept taken
    obtain ⟨rfl, kept⟩ := kept
    rw [rpcLoop_round] at taken
    rcases rounds input.buf input.body kept with ⟨outcome, done, ends⟩ | ⟨_, _, goes, _⟩
    · rw [taken] at done
      cases done
      exact ⟨outcome, rfl, ends⟩
    · rw [taken] at goes
      cases goes

theorem run_fails (unbound : state.bound = false) (fails : Fails (cutPdus (buf ++ bodyBytes body))) :
    ∃ error, (rpcLoop accepts).run { state, buf, body } = (.error error, state) := by
  obtain ⟨_, result, error, rfl⟩ := run_passes (fun _ _ => round_fails unbound) fails
  exact ⟨error, result⟩

theorem run_idles (unbound : state.bound = false) (idles : Idles (cutPdus (buf ++ bodyBytes body))) :
    (rpcLoop accepts).run { state, buf, body } = (.ok (), state) := by
  obtain ⟨_, result, rfl⟩ := run_passes (fun _ _ => round_idles unbound) idles
  exact result

end Unbound

end RdGateway.Server
