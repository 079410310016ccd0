import RdGateway.Proto.RpchProperties
import RdGateway.Server.RpchChunking
import RdGateway.Server.RpchPairingProperties

/-!
# When the frames of the body matter

A stream shows how it was cut unless the loop does nothing that can be missed. For
all other streams there is a place to cut, right behind the header of a PDU.
Where no frame ends inside a PDU behind its header, the cut is not seen.
-/

set_option autoImplicit false

namespace RdGateway.Server

open Wirekit Proto RdGateway.Core

/-- What follows CONN/B1 holds no bind for the gateway's interface, and either ends
badly in any case or consists of PDUs that are a header alone. -/
def Harmless (stream : Bytes) : Prop :=
  match (cutPdus stream).1.find? (fun pdu => IsBind pdu) with
  | some bind => isTsgBindPdu bind = false
  | none => (cutPdus stream).2 ≠ [] ∨ ∀ pdu ∈ (cutPdus stream).1, pdu.length = rpcHeaderSize

theorem Harmless.fails_or_idles {stream : Bytes} (harmless : Harmless stream) :
    Fails (cutPdus stream) ∨ Idles (cutPdus stream) := by
  unfold Harmless at harmless
  unfold Fails
  cases found : (cutPdus stream).1.find? (fun pdu => IsBind pdu) with
  | some bind =>
      rw [found] at harmless
      exact .inl harmless
  | none =>
      rw [found] at harmless
      rcases harmless with trailing | alone
      · exact .inl trailing
      · by_cases ended : (cutPdus stream).2 = []
        · refine .inr ⟨fun pdu member => ⟨?_, alone pdu member⟩, ended⟩
          simpa using List.find?_eq_none.mp found pdu member
        · exact .inl ended

theorem cutPdus_length {stream tail pdu : Bytes} {before after : List Bytes}
    (cut : cutPdus stream = (before ++ pdu :: after, tail)) : rpcHeaderSize ≤ pdu.length := by
  obtain ⟨later, header, _, parsed, rfl, _⟩ := cutPdus_split cut
  have announced := (RpcPduHeader.parse_sat later).post parsed
  rw [List.length_take, Nat.min_eq_left announced.2]
  exact announced.1

theorem exists_of_not_harmless {stream : Bytes} (harmful : ¬ Harmless stream) :
    ∃ before pdu after tail, cutPdus stream = (before ++ pdu :: after, tail) ∧
      (∀ other ∈ before, ¬ IsBind other) ∧ rpcHeaderSize < pdu.length ∧
      ((IsBind pdu ∧ isTsgBindPdu pdu = true) ∨
        ((∀ other ∈ before ++ pdu :: after, ¬ IsBind other) ∧ tail = [])) := by
  rcases cut : cutPdus stream with ⟨pdus, tail⟩
  rw [Harmless, cut] at harmful
  dsimp only at harmful
  cases found : pdus.find? (fun pdu => IsBind pdu) with
  | some bind =>
      rw [found] at harmful
      obtain ⟨isBind, before, after, rfl, others⟩ := List.find?_eq_some_iff_append.mp found
      have taken : isTsgBindPdu bind = true := by simpa using harmful
      refine ⟨before, bind, after, tail, rfl, fun other member => ?_, ?_, .inl ⟨?_, taken⟩⟩
      · simpa using others other member
      · unfold isTsgBindPdu at taken
        split at taken
        · next parsed => exact BindPdu.parse_length parsed
        · cases taken
      · simpa using isBind
  | none =>
      rw [found] at harmful
      have none : ∀ other ∈ pdus, ¬ IsBind other := by
        intro other member
        simpa using List.find?_eq_none.mp found other member
      obtain ⟨ended, pdu, member, longer⟩ : tail = [] ∧ ∃ pdu ∈ pdus, pdu.length ≠ rpcHeaderSize := by
        simpa using harmful
      obtain ⟨before, after, rfl⟩ := List.append_of_mem member
      refine ⟨before, pdu, after, tail, rfl, fun other inside => ?_, ?_, .inr ⟨none, ended⟩⟩
      · exact none other (List.mem_append_left _ inside)
      · exact Nat.lt_of_le_of_ne (cutPdus_length cut) longer.symm

section Cut

variable {accepts : Nat → Bool} {state : RpcState} {stream tail pdu : Bytes}
  {before after : List Bytes}

/-- A frame that ends right behind the header of a longer PDU ends the request. -/
theorem run_cut (unbound : state.bound = false)
    (cut : cutPdus stream = (before ++ pdu :: after, tail))
    (others : ∀ other ∈ before, ¬ IsBind other) (long : rpcHeaderSize < pdu.length) :
    ∃ position error, position ≤ stream.length ∧
      (rpcLoop accepts).run
          { state, buf := stream.take position, body := [.data (stream.drop position)] } =
        (.error error, state) := by
  obtain ⟨later, header, spelled, parsed, rfl, _⟩ := cutPdus_split cut
  have announced := (RpcPduHeader.parse_sat later).post parsed
  rw [List.length_take, Nat.min_eq_left announced.2] at long
  have sized : stream.length = before.flatten.length + later.length := by
    rw [spelled, List.length_append]
  have inside : before.flatten.length + rpcHeaderSize ≤ stream.length := by omega
  have whole : stream.take (before.flatten.length + rpcHeaderSize) ++
      bodyBytes [.data (stream.drop (before.flatten.length + rpcHeaderSize))] = stream := by
    simp [bodyBytes]
  have skipped : (rpcLoop accepts).run
      { state, buf := stream.take (before.flatten.length + rpcHeaderSize)
        body := [.data (stream.drop (before.flatten.length + rpcHeaderSize))] } = _ :=
    run_skip unbound (by rw [whole]; exact cut) others (by rw [List.length_take]; omega)
  -- what the buffer holds now is the header alone
  have front : (stream.take (before.flatten.length + rpcHeaderSize)).drop before.flatten.length =
      later.take rpcHeaderSize := by
    rw [spelled, List.take_length_add_append, List.drop_left]
  have back : stream.drop (before.flatten.length + rpcHeaderSize) = later.drop rpcHeaderSize := by
    rw [spelled, List.drop_length_add_append]
  have header16 : (later.take rpcHeaderSize).length = rpcHeaderSize := by
    rw [List.length_take, Nat.min_eq_left (by omega)]
  have rejoined : later.take rpcHeaderSize ++ bodyBytes [.data (later.drop rpcHeaderSize)] = later := by
    simp [bodyBytes]
  have filled := fill_of_le [.data (later.drop rpcHeaderSize)] (Nat.le_of_eq header16.symm)
  obtain ⟨error, read⟩ := readPdu_short (by rw [rejoined]; exact parsed) filled (by omega)
  have round : (rpcLoop accepts).round
      { state, buf := later.take rpcHeaderSize, body := [.data (later.drop rpcHeaderSize)] } =
        .done (.error error, state) := by
    simp only [rpcLoop_round, rpcRound, read]
  refine ⟨before.flatten.length + rpcHeaderSize, error, inside, ?_⟩
  rw [skipped, front, back, Loop.run_done round]

theorem run_uncut_bind (unbound : state.bound = false)
    (established : state.vconn.state = .connectionEstablished)
    (cut : cutPdus stream = (before ++ pdu :: after, tail))
    (others : ∀ other ∈ before, ¬ IsBind other) (isBind : IsBind pdu)
    (taken : isTsgBindPdu pdu = true) :
    ((rpcLoop fun _ => true).run { state, buf := stream, body := [] }).2.sent ≠ state.sent := by
  obtain ⟨later, header, spelled, parsed, rfl, _⟩ := cutPdus_split cut
  have skipped : (rpcLoop fun _ => true).run { state, buf := stream, body := [] } = _ :=
    run_skip unbound (by rw [bodyBytes, List.append_nil]; exact cut) others
      (by rw [spelled, List.length_append]; omega)
  obtain ⟨bound, frame, handled, sent⟩ := handleBind_taken taken established
  have round : (rpcLoop fun _ => true).round { state, buf := later, body := [] } =
      .next { state := bound, buf := later.drop header.fragLength.toNat, body := [] } := by
    simp only [rpcLoop_round, rpcRound, readPdu_alone parsed, handlePdu, (parse_isBind parsed).mp isBind,
      handled]
  rw [skipped, spelled, List.drop_left, Loop.run_next round]
  obtain ⟨frames, grown, _⟩ := rpcLoop_extends (fun _ => true)
    { state := bound, buf := later.drop header.fragLength.toNat, body := [] }
  rw [grown, sent, List.append_assoc]
  intro same
  cases List.append_right_eq_self.mp same

theorem run_uncut_idle (unbound : state.bound = false) (cut : cutPdus stream = (before, []))
    (others : ∀ other ∈ before, ¬ IsBind other) :
    (rpcLoop accepts).run { state, buf := stream, body := [] } = (.ok (), state) := by
  have spelled := cutPdus_flatten stream
  rw [cut, List.append_nil] at spelled
  dsimp only at spelled
  have whole : cutPdus (stream ++ bodyBytes []) = (before ++ [], []) := by
    rw [bodyBytes, List.append_nil, List.append_nil]
    exact cut
  have skipped : (rpcLoop accepts).run { state, buf := stream, body := [] } = _ :=
    run_skip unbound whole others (Nat.le_of_eq (congrArg List.length spelled))
  have round : (rpcLoop accepts).round { state, buf := [], body := [] } = .done (.ok (), state) := by
    simp only [rpcLoop_round, rpcRound, readPdu_ended (rfl : [] ++ bodyBytes [] = [])]
  rw [skipped, ← spelled, List.drop_length, Loop.run_done round]

end Cut

/-! ## Cuts that spare the PDUs -/

/-- No frame ends inside a PDU behind its header, where the PDUs begin at `offset`. -/
def Spares (positions : List Nat) : Nat → List Bytes → Prop
  | _, [] => True
  | offset, pdu :: rest =>
      (∀ stop ∈ positions, stop < offset + rpcHeaderSize ∨ offset + pdu.length ≤ stop) ∧
        Spares positions (offset + pdu.length) rest

theorem Spares.shift {positions later : List Nat} {taken : Nat} {pdus : List Bytes}
    (moved : ∀ stop ∈ later, stop + taken ∈ positions) {offset : Nat}
    (spares : Spares positions (offset + taken) pdus) : Spares later offset pdus := by
  induction pdus generalizing offset with
  | nil => trivial
  | cons pdu rest ih =>
      obtain ⟨outside, others⟩ := spares
      refine ⟨fun stop member => ?_, ih ?_⟩
      · have apart := outside (stop + taken) (moved stop member)
        omega
      · rw [Nat.add_right_comm] at others
        exact others

/-- The request sees the bytes of `whole`, in frames that spare its PDUs. -/
structure Spared (input whole : RpcInput) : Prop where
  state : whole.state = input.state
  buf : whole.buf = input.buf ++ bodyBytes input.body
  body : whole.body = []
  spares : Spares (stops input.buf.length input.body) 0 (cutPdus whole.buf).1

/-- Two results that the response, the sender and the connection do not tell apart. -/
def SameResult (first second : RpcResult) : Prop :=
  ∀ pending, finishInChannel pending first = finishInChannel pending second

theorem spared_round {accepts : Nat → Bool} {input whole : RpcInput} (spared : Spared input whole) :
    (∃ result wholeResult, (rpcLoop accepts).round input = .done result ∧
      (rpcLoop accepts).round whole = .done wholeResult ∧ SameResult result wholeResult) ∨
    ∃ next wholeNext, (rpcLoop accepts).round input = .next next ∧
      (rpcLoop accepts).round whole = .next wholeNext ∧ Spared next wholeNext := by
  obtain ⟨state, buf, body⟩ := input
  obtain ⟨wholeState, stream, wholeBody⟩ := whole
  obtain ⟨rfl, spelled, rfl, spares⟩ := spared
  dsimp only at spelled spares
  simp only [rpcLoop_round]
  rcases RpcPduHeader.parse_cases stream with ⟨header, parsed⟩ | refused
  · have announced := (RpcPduHeader.parse_sat stream).post parsed
    have framed : RpcPduHeader.parse (buf ++ bodyBytes body) = .ok header := by
      rw [← spelled]
      exact parsed
    obtain ⟨filled, rest, enough⟩ := fill_header framed
    obtain ⟨long, same, within⟩ := fill_enough enough
    rw [cutPdus_parsed parsed] at spares
    obtain ⟨outside, others⟩ := spares
    have available : header.fragLength.toNat ≤ filled.length := by
      have apart := outside filled.length (within _ (self_mem_stops _ _))
      rw [List.length_take] at apart
      omega
    have read := readPdu_whole framed enough available
    rw [← spelled] at read
    simp only [rpcRound, read, readPdu_alone parsed]
    rcases handlePdu accepts wholeState header (stream.take header.fragLength.toNat) with
      ⟨_ | _, after⟩
    · exact .inl ⟨_, _, rfl, rfl, fun _ => rfl⟩
    · refine .inr ⟨_, _, rfl, rfl, rfl, ?_, rfl, ?_⟩
      · dsimp only
        rw [spelled, ← same, List.drop_append_of_le_length available]
      · dsimp only
        rw [List.length_take, Nat.min_eq_left announced.2] at others
        refine Spares.shift (fun stop member => within _ ?_) others
        rw [List.length_drop] at member
        exact mem_stops_drop available member
  · have alone : stream ++ bodyBytes [] = stream := List.append_nil stream
    by_cases ended : stream = []
    · refine .inl ⟨(.ok (), wholeState), (.ok (), wholeState), ?_, ?_, fun _ => rfl⟩
      · simp only [rpcRound, readPdu_ended (spelled.symm.trans ended)]
      · simp only [rpcRound, readPdu_ended (alone.trans ended)]
    · have more : stream ++ bodyBytes [] ≠ [] := by
        rw [alone]
        exact ended
      obtain ⟨error, read⟩ := readPdu_unparsed (spelled ▸ ended) (spelled ▸ refused)
      obtain ⟨wholeError, wholeRead⟩ := readPdu_unparsed more (by rw [alone]; exact refused)
      refine .inl ⟨(.error error, wholeState), (.error wholeError, wholeState), ?_, ?_, fun _ => rfl⟩
      · simp only [rpcRound, read]
      · simp only [rpcRound, wholeRead]

theorem run_spared {accepts : Nat → Bool} {input whole : RpcInput} (spared : Spared input whole) :
    SameResult ((rpcLoop accepts).run input) ((rpcLoop accepts).run whole) :=
  Loop.run_simulation Spared SameResult (fun _ _ => spared_round) spared

/-! ## CONN/B1 in front -/

/-- CONN/B1 at the front of a stream, and the length it announces. -/
def frontConnB1 (stream : Bytes) : Except StatusCode (ConnB1 × Nat) :=
  let fragLength := (u16Le.decode ((stream.drop 8).take 2)).toNat
  if stream.length < 20 ∨ stream.length < fragLength ∨ stream[2]? ≠ some ptypeRts then
    .error .badRequest
  else
    match RtsPdu.parse (stream.take fragLength) >>= ConnB1.fromPdu with
    | .ok connB1 => .ok (connB1, fragLength)
    | _ => .error .badRequest

theorem frontConnB1_eq_ok {stream : Bytes} {connB1 : ConnB1} {fragLength : Nat} :
    frontConnB1 stream = .ok (connB1, fragLength) ↔
      (u16Le.decode ((stream.drop 8).take 2)).toNat = fragLength ∧ 20 ≤ stream.length ∧
        fragLength ≤ stream.length ∧ stream[2]? = some ptypeRts ∧
        RtsPdu.parse (stream.take fragLength) >>= ConnB1.fromPdu = .ok connB1 := by
  unfold frontConnB1
  dsimp only
  constructor
  · intro front
    split at front
    · cases front
    · next room =>
      rw [not_or, not_or, Nat.not_lt, Nat.not_lt, not_not] at room
      split at front
      · next parsed =>
        cases front
        exact ⟨rfl, room.1, room.2.1, room.2.2, parsed⟩
      · cases front
  · intro holds
    obtain ⟨rfl, long, wide, rts, parsed⟩ := holds
    rw [if_neg (by rw [not_or, not_or, Nat.not_lt, Nat.not_lt, not_not]; exact ⟨long, wide, rts⟩), parsed]

structure ReadsB1 (body : List BodyFrame) (connB1 : ConnB1) (fragLength : Nat) (filled : Bytes)
    (rest : List BodyFrame) : Prop where
  front : frontConnB1 (bodyBytes body) = .ok (connB1, fragLength)
  read : readConnB1 body = .ok (connB1, filled.drop fragLength, rest)
  inside : fragLength ≤ filled.length
  same : filled ++ bodyBytes rest = bodyBytes body
  within : ∀ stop ∈ stops filled.length rest, stop ∈ stops 0 body

/-- Whether CONN/B1 is found depends on the bytes only. -/
theorem readConnB1_front (body : List BodyFrame) :
    (∃ status, frontConnB1 (bodyBytes body) = .error status ∧ readConnB1 body = .error status) ∨
      ∃ connB1 fragLength filled rest, ReadsB1 body connB1 fragLength filled rest := by
  rcases fill_total 20 [] body with ⟨long, front, later, enough⟩ | ⟨short, ended⟩
  · obtain ⟨frontLong, same, frontWithin⟩ := fill_enough enough
    rw [List.nil_append] at same long
    have announced : (front.drop 8).take 2 = ((bodyBytes body).drop 8).take 2 := by
      rw [← same, List.drop_append_of_le_length (by omega),
        List.take_append_of_le_length (by rw [List.length_drop]; omega)]
    have found := fill_total (u16Le.decode ((front.drop 8).take 2)).toNat front later
    rw [same] at found
    rcases found with ⟨wide, filled, rest, whole⟩ | ⟨narrow, ended⟩
    · obtain ⟨inside, wholeSame, within⟩ := fill_enough whole
      rw [same] at wholeSame
      have sized : 20 ≤ filled.length := by
        rcases Nat.lt_or_ge front.length (u16Le.decode ((front.drop 8).take 2)).toNat with more | here
        · omega
        · rw [fill_of_le later here] at whole
          cases whole
          exact frontLong
      have typed : filled[2]? = (bodyBytes body)[2]? := by
        rw [← wholeSame, List.getElem?_append_left (by omega)]
      have positions : ∀ stop ∈ stops filled.length rest, stop ∈ stops 0 body :=
        fun stop member => frontWithin stop (within stop member)
      rw [announced] at whole inside wide
      generalize fragLengthIs : (u16Le.decode (((bodyBytes body).drop 8).take 2)).toNat = fragLength
      rw [fragLengthIs] at whole inside wide
      have fragment : filled.take fragLength = (bodyBytes body).take fragLength := by
        rw [← wholeSame, List.take_append_of_le_length inside]
      by_cases rts : (bodyBytes body)[2]? = some ptypeRts
      · cases parsed : RtsPdu.parse ((bodyBytes body).take fragLength) >>= ConnB1.fromPdu with
        | ok connB1 =>
            have read : readConnB1 body = .ok (connB1, filled.drop fragLength, rest) := by
              simp only [readConnB1, enough, announced, fragLengthIs, whole, typed, rts, fragment, parsed,
                ne_eq, not_true_eq_false, if_false]
            have first := frontConnB1_eq_ok.mpr ⟨fragLengthIs, long, wide, rts, parsed⟩
            exact .inr ⟨connB1, fragLength, filled, rest, first, read, inside, wholeSame, positions⟩
        | err | panicked =>
            refine .inl ⟨.badRequest, ?_, ?_⟩
            · simp only [frontConnB1, fragLengthIs, parsed, ite_self]
            · simp only [readConnB1, enough, announced, fragLengthIs, whole, fragment, parsed, ite_self]
      · refine .inl ⟨.badRequest, ?_, ?_⟩
        · rw [frontConnB1, if_pos (.inr (.inr rts))]
        · simp only [readConnB1, enough, announced, fragLengthIs, whole, typed, rts, ne_eq,
            not_false_eq_true, if_true]
    · refine .inl ⟨.badRequest, ?_, ?_⟩
      · rw [frontConnB1, ← announced, if_pos (.inr (.inl narrow))]
      · rw [readConnB1, enough]
        simp only [ended]
  · rw [List.nil_append] at short
    refine .inl ⟨.badRequest, ?_, ?_⟩
    · rw [frontConnB1, if_pos (.inl short)]
    · rw [readConnB1, ended]

theorem ReadsB1.stream {body rest : List BodyFrame} {connB1 : ConnB1} {fragLength : Nat}
    {filled : Bytes} (reads : ReadsB1 body connB1 fragLength filled rest) :
    filled.drop fragLength ++ bodyBytes rest = (bodyBytes body).drop fragLength := by
  rw [← reads.same, List.drop_append_of_le_length reads.inside]

theorem frontConnB1_length {stream : Bytes} {connB1 : ConnB1} {fragLength : Nat}
    (front : frontConnB1 stream = .ok (connB1, fragLength)) : 20 ≤ fragLength := by
  obtain ⟨_, _, _, _, parsed⟩ := frontConnB1_eq_ok.mp front
  obtain ⟨pdu, decoded, _⟩ := Outcome.bind_eq_ok.mp parsed
  simp only [RtsPdu.parse, Outcome.bind_eq_ok, ensureRemaining_eq_ok] at decoded
  obtain ⟨_, long, _⟩ := decoded
  rw [rtsHeaderLen, List.length_take] at long
  exact Nat.le_trans long (Nat.min_le_left _ _)

theorem frontConnB1_take {stream : Bytes} {connB1 : ConnB1} {fragLength position : Nat}
    (front : frontConnB1 stream = .ok (connB1, fragLength)) (inside : fragLength ≤ position) :
    frontConnB1 (stream.take position) = .ok (connB1, fragLength) := by
  have long := frontConnB1_length front
  obtain ⟨announced, whole, wide, rts, parsed⟩ := frontConnB1_eq_ok.mp front
  refine frontConnB1_eq_ok.mpr ⟨?_, ?_, ?_, ?_, ?_⟩
  · rw [List.drop_take, List.take_take, Nat.min_eq_left (by omega), announced]
  · rw [List.length_take]
    exact Nat.le_min.mpr ⟨Nat.le_trans long inside, whole⟩
  · rw [List.length_take]
    exact Nat.le_min.mpr ⟨inside, wide⟩
  · rw [List.getElem?_take_of_lt (by omega), rts]
  · rw [List.take_take, Nat.min_eq_left inside, parsed]

theorem readConnB1_first {front : Bytes} {connB1 : ConnB1} {fragLength : Nat}
    (found : frontConnB1 front = .ok (connB1, fragLength)) (rest : List BodyFrame) :
    readConnB1 (.data front :: rest) = .ok (connB1, front.drop fragLength, rest) := by
  obtain ⟨announced, long, wide, rts, parsed⟩ := frontConnB1_eq_ok.mp found
  have enough : fill 20 [] (.data front :: rest) = .enough front rest := by
    rw [fill, if_neg (by decide), List.nil_append, fill_of_le rest long]
  simp only [readConnB1, enough, announced, fill_of_le rest wide, rts, ne_eq, not_true_eq_false,
    if_false, parsed]

theorem front_of_readConnB1 {stream buf : Bytes} {connB1 : ConnB1}
    (read : readConnB1 [.data stream] = .ok (connB1, buf, [])) :
    ∃ fragLength, frontConnB1 stream = .ok (connB1, fragLength) ∧ buf = stream.drop fragLength := by
  have bytes : bodyBytes [.data stream] = stream := List.append_nil stream
  rcases readConnB1_front [.data stream] with ⟨_, _, failed⟩ | ⟨found, fragLength, filled, rest, reads⟩
  · rw [read] at failed
    cases failed
  · have front := reads.front
    rw [bytes] at front
    have first := readConnB1_first front []
    rw [read] at first
    cases first
    exact ⟨fragLength, front, rfl⟩

/-! ## IN requests -/

theorem acceptInChannel_ok {self vconn : VirtualConnection} {connB1 : ConnB1} {connC2 : RtsPdu}
    (accepted : self.acceptInChannel connB1 = (.ok connC2, vconn)) :
    self.state = .waitingInChannel ∧
      self.virtualConnectionCookie = some connB1.virtualConnectionCookie ∧
      vconn.state = .connectionEstablished := by
  unfold VirtualConnection.acceptInChannel at accepted
  split at accepted
  · cases accepted
  · next waiting =>
    split at accepted
    · cases accepted
    · next expected present =>
      split at accepted
      · cases accepted
      · next same =>
        cases accepted
        rw [present, not_not.mp same]
        exact ⟨not_not.mp waiting, rfl, rfl⟩

theorem exists_acceptInChannel {self : VirtualConnection} {connB1 : ConnB1}
    (waiting : self.state = .waitingInChannel)
    (cookies : self.virtualConnectionCookie = some connB1.virtualConnectionCookie) :
    ∃ connC2 vconn, self.acceptInChannel connB1 = (.ok connC2, vconn) := by
  simp only [VirtualConnection.acceptInChannel, waiting, cookies, ne_eq, not_true_eq_false, if_false]
  exact ⟨_, _, rfl⟩

/-- The IN request whose body arrives in these frames. The sender takes everything. -/
def inResult (pending : PendingMap) (chunks : List Bytes) : InResult :=
  handleInChannel (fun _ => true) pending (chunks.map .data)

theorem inResult_accepted {pending : PendingMap} {chunks : List Bytes} {connB1 : ConnB1}
    {buf : Bytes} {rest : List BodyFrame} {entry : PendingConnection} {connC2 : RtsPdu}
    {vconn : VirtualConnection} (read : readConnB1 (chunks.map .data) = .ok (connB1, buf, rest))
    (present : pending connB1.virtualConnectionCookie = some entry)
    (accepted : entry.vconn.acceptInChannel connB1 = (.ok connC2, vconn)) :
    inResult pending chunks =
      finishInChannel (pending.remove connB1.virtualConnectionCookie)
        ((rpcLoop fun _ => true).run (.established vconn connC2 buf rest)) := by
  simp only [inResult, handleInChannel, read, present, accepted, if_true]

theorem inResult_congr {pending : PendingMap} {first second : List Bytes}
    (same : first.flatten = second.flatten)
    (runs : ∀ connB1 fragLength filled rest other otherRest entry connC2 vconn,
      ReadsB1 (first.map .data) connB1 fragLength filled rest →
      ReadsB1 (second.map .data) connB1 fragLength other otherRest →
      pending connB1.virtualConnectionCookie = some entry →
      entry.vconn.acceptInChannel connB1 = (.ok connC2, vconn) →
      SameResult
        ((rpcLoop fun _ => true).run (.established vconn connC2 (filled.drop fragLength) rest))
        ((rpcLoop fun _ => true).run (.established vconn connC2 (other.drop fragLength) otherRest))) :
    inResult pending first = inResult pending second := by
  have bytes : bodyBytes (first.map .data) = bodyBytes (second.map .data) := by
    rw [bodyBytes_map_data, bodyBytes_map_data, same]
  rcases readConnB1_front (first.map .data) with
    ⟨status, front, read⟩ | ⟨connB1, fragLength, filled, rest, reads⟩
  · rcases readConnB1_front (second.map .data) with ⟨other, otherFront, otherRead⟩ | ⟨_, _, _, _, other⟩
    · rw [bytes, otherFront] at front
      cases front
      simp only [inResult, handleInChannel, read, otherRead]
    · rw [bytes, other.front] at front
      cases front
  · rcases readConnB1_front (second.map .data) with ⟨_, otherFront, _⟩ | ⟨_, _, _, _, other⟩
    · rw [← bytes, reads.front] at otherFront
      cases otherFront
    · have fronts := reads.front
      rw [bytes, other.front] at fronts
      cases fronts
      cases present : pending connB1.virtualConnectionCookie with
      | none => simp only [inResult, handleInChannel, reads.read, other.read, present]
      | some entry =>
          rcases accepted : entry.vconn.acceptInChannel connB1 with ⟨_ | _ | _, vconn⟩
          · rw [inResult_accepted reads.read present accepted,
              inResult_accepted other.read present accepted]
            exact runs _ _ _ _ _ _ _ _ _ reads other present accepted _
          · simp only [inResult, handleInChannel, reads.read, other.read, present, accepted]
          · simp only [inResult, handleInChannel, reads.read, other.read, present, accepted]

theorem SameResult.symm {first second : RpcResult} (same : SameResult first second) :
    SameResult second first :=
  fun pending => (same pending).symm

theorem SameResult.trans {first second third : RpcResult} (front : SameResult first second)
    (back : SameResult second third) : SameResult first third :=
  fun pending => (front pending).trans (back pending)

theorem Harmless.same_result {accepts : Nat → Bool} {first second : RpcInput} {stream : Bytes}
    (harmless : Harmless stream) (unbound : first.state.bound = false)
    (state : second.state = first.state) (firstStream : first.buf ++ bodyBytes first.body = stream)
    (secondStream : second.buf ++ bodyBytes second.body = stream) :
    SameResult ((rpcLoop accepts).run first) ((rpcLoop accepts).run second) := by
  obtain ⟨state, buf, body⟩ := first
  obtain ⟨_, otherBuf, otherBody⟩ := second
  cases state
  rcases harmless.fails_or_idles with fails | idles
  · obtain ⟨error, run⟩ : ∃ error, (rpcLoop accepts).run { state, buf, body } = (.error error, state) :=
      run_fails unbound (by rw [firstStream]; exact fails)
    obtain ⟨other, otherRun⟩ : ∃ error,
        (rpcLoop accepts).run { state, buf := otherBuf, body := otherBody } = (.error error, state) :=
      run_fails unbound (by rw [secondStream]; exact fails)
    rw [run, otherRun]
    exact fun _ => rfl
  · rw [run_idles unbound (by rw [firstStream]; exact idles)]
    rw [run_idles unbound (by rw [secondStream]; exact idles)]
    exact fun _ => rfl

/-- A stream that is not harmless has a place where a cut changes the result. -/
theorem exists_cut_seen {state : RpcState} {stream : Bytes} (unbound : state.bound = false)
    (established : state.vconn.state = .connectionEstablished) (harmful : ¬ Harmless stream)
    (pending : PendingMap) :
    ∃ position, position ≤ stream.length ∧
      finishInChannel pending
          ((rpcLoop fun _ => true).run { state, buf := stream, body := [] }) ≠
        finishInChannel pending
          ((rpcLoop fun _ => true).run
            { state, buf := stream.take position, body := [.data (stream.drop position)] }) := by
  obtain ⟨before, pdu, after, tail, cut, others, long, kind⟩ := exists_of_not_harmless harmful
  obtain ⟨position, error, inside, run⟩ := run_cut unbound cut others long
  refine ⟨position, inside, fun same => ?_⟩
  rw [run] at same
  rcases kind with ⟨isBind, taken⟩ | ⟨none, rfl⟩
  · exact run_uncut_bind unbound established cut others isBind taken (congrArg InResult.sent same)
  · rw [run_uncut_idle unbound cut none] at same
    cases congrArg InResult.status same

/-- No frame ends inside a PDU behind its header. -/
def SparesPdus (chunks : List Bytes) : Prop :=
  ∀ connB1 rest, readConnB1 [.data chunks.flatten] = .ok (connB1, rest, []) →
    Spares (stops 0 (chunks.map .data)) (chunks.flatten.length - rest.length) (cutPdus rest).1

theorem SparesPdus.same_result {chunks : List Bytes} (spares : SparesPdus chunks) {connB1 : ConnB1}
    {fragLength : Nat} {filled : Bytes} {rest : List BodyFrame}
    (reads : ReadsB1 (chunks.map .data) connB1 fragLength filled rest) (vconn : VirtualConnection)
    (connC2 : RtsPdu) :
    SameResult
      ((rpcLoop fun _ => true).run (.established vconn connC2 (filled.drop fragLength) rest))
      ((rpcLoop fun _ => true).run
        (.established vconn connC2 (chunks.flatten.drop fragLength) [])) := by
  have front := reads.front
  have stream := reads.stream
  rw [bodyBytes_map_data] at front stream
  have wide := (frontConnB1_eq_ok.mp front).2.2.1
  have spared := spares connB1 _ (readConnB1_first front [])
  rw [List.length_drop, Nat.sub_sub_self wide] at spared
  have moved : ∀ stop ∈ stops (filled.drop fragLength).length rest,
      stop + fragLength ∈ stops 0 (chunks.map .data) := by
    intro stop member
    rw [List.length_drop] at member
    exact reads.within _ (mem_stops_drop reads.inside member)
  exact run_spared ⟨rfl, stream.symm, rfl, Spares.shift moved (by rw [Nat.zero_add]; exact spared)⟩

section Independence

variable {pending : PendingMap} {stream : Bytes}

theorem harmless_of_independent
    (independent : ∀ first second : List Bytes, first.flatten = stream → second.flatten = stream →
      inResult pending first = inResult pending second)
    {connB1 : ConnB1} {rest : Bytes} {entry : PendingConnection}
    (read : readConnB1 [.data stream] = .ok (connB1, rest, []))
    (present : pending connB1.virtualConnectionCookie = some entry)
    (waiting : entry.vconn.state = .waitingInChannel)
    (cookies : entry.vconn.virtualConnectionCookie = some connB1.virtualConnectionCookie) :
    Harmless rest := by
  by_contra harmful
  obtain ⟨connC2, vconn, accepted⟩ := exists_acceptInChannel waiting cookies
  obtain ⟨fragLength, front, rfl⟩ := front_of_readConnB1 read
  obtain ⟨_, _, established⟩ := acceptInChannel_ok accepted
  obtain ⟨position, inside, seen⟩ :=
    @exists_cut_seen (RpcInput.established vconn connC2 (stream.drop fragLength) []).state _ rfl
      established harmful (pending.remove connB1.virtualConnectionCookie)
  have whole : readConnB1 ([stream].map .data) = .ok (connB1, stream.drop fragLength, []) := read
  have cut : readConnB1
      ([stream.take (fragLength + position), stream.drop (fragLength + position)].map .data) =
      .ok (connB1, (stream.drop fragLength).take position,
        [.data ((stream.drop fragLength).drop position)]) := by
    rw [List.map_cons, readConnB1_first (frontConnB1_take front (Nat.le_add_right _ _)),
      List.drop_take, Nat.add_sub_cancel_left, List.drop_drop]
    rfl
  have same := independent [stream]
    [stream.take (fragLength + position), stream.drop (fragLength + position)]
    List.flatten_singleton (by simp)
  rw [inResult_accepted whole present accepted, inResult_accepted cut present accepted] at same
  exact seen same

theorem inResult_of_harmless
    (harmless : ∀ connB1 rest entry, readConnB1 [.data stream] = .ok (connB1, rest, []) →
      pending connB1.virtualConnectionCookie = some entry →
      entry.vconn.state = .waitingInChannel →
      entry.vconn.virtualConnectionCookie = some connB1.virtualConnectionCookie → Harmless rest)
    {first second : List Bytes} (firstBytes : first.flatten = stream)
    (secondBytes : second.flatten = stream) :
    inResult pending first = inResult pending second := by
  refine inResult_congr (firstBytes.trans secondBytes.symm) ?_
  intro connB1 fragLength filled rest other otherRest entry connC2 vconn reads otherReads present
    accepted
  obtain ⟨waiting, cookies, _⟩ := acceptInChannel_ok accepted
  have front := reads.front
  have firstStream := reads.stream
  have secondStream := otherReads.stream
  rw [bodyBytes_map_data, firstBytes] at front firstStream
  rw [bodyBytes_map_data, secondBytes] at secondStream
  have quiet := harmless connB1 _ entry (readConnB1_first front []) present waiting cookies
  exact quiet.same_result rfl rfl firstStream secondStream

theorem inResult_of_spares {first second : List Bytes} (firstBytes : first.flatten = stream)
    (secondBytes : second.flatten = stream) (firstSpares : SparesPdus first)
    (secondSpares : SparesPdus second) : inResult pending first = inResult pending second := by
  refine inResult_congr (firstBytes.trans secondBytes.symm) ?_
  intro connB1 fragLength filled rest other otherRest entry connC2 vconn reads otherReads _ _
  have firstSame := firstSpares.same_result reads vconn connC2
  have secondSame := secondSpares.same_result otherReads vconn connC2
  rw [firstBytes] at firstSame
  rw [secondBytes] at secondSame
  exact firstSame.trans secondSame.symm

end Independence

/-- All ways to cut a body into frames have the same result exactly when no CONN/C2
is sent or what follows CONN/B1 is harmless. Of any other body, the ways that end no
frame inside a PDU behind its header have the same result. -/
theorem chunking_independent_iff (pending : PendingMap) (stream : Bytes) :
    ((∀ first second : List Bytes, first.flatten = stream → second.flatten = stream →
        inResult pending first = inResult pending second) ↔
      ∀ connB1 rest entry, readConnB1 [.data stream] = .ok (connB1, rest, []) →
        pending connB1.virtualConnectionCookie = some entry →
        entry.vconn.state = .waitingInChannel →
        entry.vconn.virtualConnectionCookie = some connB1.virtualConnectionCookie →
        Harmless rest) ∧
    ∀ first second : List Bytes, first.flatten = stream → second.flatten = stream →
      SparesPdus first → SparesPdus second → inResult pending first = inResult pending second := by
  refine ⟨⟨?_, ?_⟩, ?_⟩
  · intro independent connB1 rest entry read present waiting cookies
    exact harmless_of_independent independent read present waiting cookies
  · intro harmless first second firstBytes secondBytes
    exact inResult_of_harmless harmless firstBytes secondBytes
  · intro first second firstBytes secondBytes firstSpares secondSpares
    exact inResult_of_spares firstBytes secondBytes firstSpares secondSpares

/-! ## A bind in two frames -/

def samplePending : PendingMap :=
  (handleOutChannel .empty 0 [.data (RtsPdu.connA1 7 sampleCookie sampleCookie).toBytes]).2

def sampleB1Bytes : Bytes := (RtsPdu.connB1 8 sampleCookie sampleCookie sampleCookie).toBytes

def sampleBindBytes : Bytes :=
  (RpcPduHeader.new .bind pfcFirstAndLastFrag 72 0 1).write ++ u16Le.put 5840 ++ u16Le.put 5840 ++
    u32Le.put 0 ++ [1, 0, 0, 0] ++ u16Le.put 0 ++ [1, 0] ++ SyntaxId.tsg.write ++ SyntaxId.ndr.write

/-- In one frame the bind is acknowledged, in two frames the request fails. -/
theorem bind_in_two_frames :
    let one := [sampleB1Bytes ++ sampleBindBytes]
    let two := [sampleB1Bytes ++ sampleBindBytes.take 16, sampleBindBytes.drop 16]
    one.flatten = two.flatten ∧
      (inResult samplePending one).status = .ok ∧ (inResult samplePending one).sent.length = 2 ∧
      (inResult samplePending two).status = .internalServerError ∧
      (inResult samplePending two).sent = [(RtsPdu.connC2 7).toBytes] := by
  decide +kernel

end RdGateway.Server
