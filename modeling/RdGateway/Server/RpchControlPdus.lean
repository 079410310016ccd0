import RdGateway.Server.RpchDialogue

/-!
# Control PDUs on an established IN channel

The type table of the header has no RTS PDU, so the loop cannot read one behind CONN/B1:
the request fails there, though `RtsPdu.parse` accepts the PDU. What the client loses is
the part of the dialogue behind it.
-/

set_option autoImplicit false

namespace RdGateway.Server

open Wirekit Proto RdGateway.Core

/-- A PDU that is as long as its header announces. -/
def CompletePdu (pdu : Bytes) : Prop :=
  rpcHeaderSize ≤ pdu.length ∧ (u16Le.decode ((pdu.drop 8).take 2)).toNat = pdu.length

instance (pdu : Bytes) : Decidable (CompletePdu pdu) := inferInstanceAs (Decidable (_ ∧ _))

def isKnown (pdu : Bytes) : Bool :=
  match RpcPduHeader.parse pdu with
  | .ok _ => true
  | _ => false

theorem isKnown_iff {pdu : Bytes} :
    isKnown pdu = true ↔ ∃ header, RpcPduHeader.parse pdu = .ok header := by
  unfold isKnown
  split
  · next header parsed => exact iff_of_true rfl ⟨header, parsed⟩
  · next refused =>
    refine iff_of_false Bool.false_ne_true ?_
    intro holds
    obtain ⟨header, parsed⟩ := holds
    exact refused header parsed

/-- An RTS PDU is complete and has a type that `RpcPduType.fromU8` does not know. -/
theorem rts_unknown {data : Bytes} {pdu : RtsPdu} (parsed : RtsPdu.parse data = .ok pdu) :
    CompletePdu data ∧ isKnown data = false := by
  obtain ⟨long, rts, announced⟩ := RtsPdu.parse_announced parsed
  constructor
  · refine ⟨?_, announced⟩
    rw [rtsHeaderLen] at long
    rw [rpcHeaderSize]
    omega
  · rw [Bool.eq_false_iff, ne_eq, isKnown_iff]
    intro holds
    obtain ⟨header, read⟩ := holds
    have typed := RpcPduHeader.parse_ptype read
    rw [rts, Option.some.injEq] at typed
    have known := RpcPduType.fromU8_eq_some.mpr typed
    cases known

theorem CompletePdu.announces {pdu : Bytes} (complete : CompletePdu pdu) (rest : Bytes)
    {header : RpcPduHeader} (parsed : RpcPduHeader.parse (pdu ++ rest) = .ok header) :
    header.fragLength.toNat = pdu.length := by
  have long := complete.1
  rw [rpcHeaderSize] at long
  rw [RpcPduHeader.parse_fragLength parsed, List.drop_append_of_le_length (by omega),
    List.take_append_of_le_length (by rw [List.length_drop]; omega), complete.2]

/-! ## What the loop can read -/

/-- The PDUs that the loop can read from the frames, and whether the stream ends behind them. -/
def readPdus (buf : Bytes) (body : List BodyFrame) : List Bytes × Bool :=
  match _read : readPdu buf body with
  | .error _ => ([], false)
  | .ok none => ([], true)
  | .ok (some pdu) =>
      let later := readPdus pdu.buf pdu.body
      (pdu.pduData :: later.1, later.2)
termination_by buf.length + (bodyBytes body).length
decreasing_by
  obtain ⟨long, _, same⟩ := readPdu_some _read
  have counted := congrArg List.length same
  simp only [List.length_append] at counted
  rw [rpcHeaderSize] at long
  omega

section Reading

variable {buf : Bytes} {body : List BodyFrame}

theorem readPdus_error {error : RpcProcessError} (read : readPdu buf body = .error error) :
    readPdus buf body = ([], false) := by
  rw [readPdus]
  split
  · rfl
  · next same => rw [read] at same; cases same
  · next same => rw [read] at same; cases same

theorem readPdus_none (read : readPdu buf body = .ok none) : readPdus buf body = ([], true) := by
  rw [readPdus]
  split
  · next same => rw [read] at same; cases same
  · rfl
  · next same => rw [read] at same; cases same

theorem readPdus_some {pdu : RpcPdu} (read : readPdu buf body = .ok (some pdu)) :
    readPdus buf body =
      (pdu.pduData :: (readPdus pdu.buf pdu.body).1, (readPdus pdu.buf pdu.body).2) := by
  rw [readPdus]
  split
  · next same => rw [read] at same; cases same
  · next same => rw [read] at same; cases same
  · next same => rw [read] at same; cases same; rfl

/-- A PDU that is read is the front of the stream, with the header of the stream. -/
theorem readPdu_parsed {pdu : RpcPdu} (read : readPdu buf body = .ok (some pdu)) :
    RpcPduHeader.parse (buf ++ bodyBytes body) = .ok pdu.header ∧
      RpcPduHeader.parse pdu.pduData = .ok pdu.header ∧
      pdu.pduData = (buf ++ bodyBytes body).take pdu.header.fragLength.toNat ∧
      pdu.buf ++ bodyBytes pdu.body = (buf ++ bodyBytes body).drop pdu.header.fragLength.toNat := by
  have stream := (readPdu_some read).2.2
  have sized := (readPdu_some read).2.1
  have whole : RpcPduHeader.parse (buf ++ bodyBytes body) = .ok pdu.header := by
    rcases RpcPduHeader.parse_cases (buf ++ bodyBytes body) with ⟨header, parsed⟩ | refused
    · obtain ⟨filled, rest, enough⟩ := fill_header parsed
      rcases Nat.lt_or_ge filled.length header.fragLength.toNat with missing | available
      · obtain ⟨error, failed⟩ := readPdu_short parsed enough missing
        rw [read] at failed
        cases failed
      · have found := readPdu_whole parsed enough available
        rw [read] at found
        cases found
        exact parsed
    · by_cases ended : buf ++ bodyBytes body = []
      · rw [readPdu_ended ended] at read
        cases read
      · obtain ⟨error, failed⟩ := readPdu_unparsed ended refused
        rw [read] at failed
        cases failed
  refine ⟨whole, ?_, ?_, ?_⟩
  · rw [← stream] at whole
    exact RpcPduHeader.parse_front whole (Nat.le_of_eq sized.symm)
  · rw [← stream, ← sized, List.take_left]
  · rw [← stream, ← sized, List.drop_left]

/-- In a stream of complete PDUs, what can be read are PDUs in front of the first unknown one. -/
theorem readPdus_front {pdus : List Bytes} (complete : ∀ pdu ∈ pdus, CompletePdu pdu)
    (stream : buf ++ bodyBytes body = pdus.flatten) :
    (readPdus buf body).1 <+: pdus.takeWhile isKnown := by
  induction pdus generalizing buf body with
  | nil =>
      rw [readPdus_none (readPdu_ended stream)]
      exact List.nil_prefix
  | cons first rest ih =>
      obtain ⟨here, others⟩ := List.forall_mem_cons.mp complete
      rcases read : readPdu buf body with error | _ | pdu
      · rw [readPdus_error read]
        exact List.nil_prefix
      · rw [readPdus_none read]
        exact List.nil_prefix
      · obtain ⟨whole, alone, front, left⟩ := readPdu_parsed read
        have announced := here.announces rest.flatten (stream ▸ whole)
        rw [stream, List.flatten_cons, announced] at front left
        rw [List.take_left] at front
        rw [List.drop_left] at left
        rw [front] at alone
        rw [readPdus_some read, front, List.takeWhile_cons_of_pos (isKnown_iff.mpr ⟨_, alone⟩),
          List.prefix_cons_inj]
        exact ih others left

/-- A stream that is in the buffer is read up to the first unknown PDU. -/
theorem readPdus_buffered {pdus : List Bytes} (complete : ∀ pdu ∈ pdus, CompletePdu pdu) :
    readPdus pdus.flatten [] = (pdus.takeWhile isKnown, pdus.all isKnown) := by
  induction pdus with
  | nil => exact readPdus_none (readPdu_ended rfl)
  | cons first rest ih =>
      obtain ⟨here, others⟩ := List.forall_mem_cons.mp complete
      have stream : (first ++ rest.flatten) ++ bodyBytes [] = first ++ rest.flatten := List.append_nil _
      rw [List.flatten_cons]
      cases known : isKnown first with
      | true =>
          obtain ⟨header, parsed⟩ := isKnown_iff.mp known
          have whole := RpcPduHeader.parse_append rest.flatten parsed
          have read := readPdu_alone whole
          rw [here.announces rest.flatten whole, List.take_left, List.drop_left] at read
          rw [readPdus_some read, ih others, List.takeWhile_cons_of_pos known, List.all_cons, known,
            Bool.true_and]
      | false =>
          have refused : ∀ header,
              RpcPduHeader.parse ((first ++ rest.flatten) ++ bodyBytes []) ≠ .ok header := by
            intro header parsed
            rw [stream] at parsed
            have front := RpcPduHeader.parse_front parsed (Nat.le_of_eq (here.announces _ parsed))
            rw [isKnown_iff.mpr ⟨header, front⟩] at known
            cases known
          have more : (first ++ rest.flatten) ++ bodyBytes [] ≠ [] := by
            intro ended
            rw [stream, List.append_eq_nil_iff] at ended
            have long := here.1
            rw [ended.1] at long
            cases long
          obtain ⟨error, read⟩ := readPdu_unparsed more refused
          rw [readPdus_error read, List.takeWhile_cons_of_neg (by simp [known]), List.all_cons, known,
            Bool.false_and]

end Reading

/-! ## What comes of the PDUs that are read -/

/-- The loop over PDUs that are read already, behind which the stream ends or cannot be read. -/
inductive Hears (accepts : Nat → Bool) : RpcState → List Bytes → Bool → RpcResult → Prop where
  | ended {state : RpcState} : Hears accepts state [] true (.ok (), state)
  | unread {state : RpcState} (error : RpcProcessError) : Hears accepts state [] false (.error error, state)
  | failed {state left : RpcState} {pdu : Bytes} {header : RpcPduHeader} {error : RpcProcessError}
      {rest : List Bytes} {ended : Bool} (parsed : RpcPduHeader.parse pdu = .ok header)
      (handled : handlePdu accepts state header pdu = (.error error, left)) :
      Hears accepts state (pdu :: rest) ended (.error error, left)
  | handled {state next : RpcState} {pdu : Bytes} {header : RpcPduHeader} {rest : List Bytes}
      {ended : Bool} {result : RpcResult} (parsed : RpcPduHeader.parse pdu = .ok header)
      (handled : handlePdu accepts state header pdu = (.ok (), next))
      (later : Hears accepts next rest ended result) : Hears accepts state (pdu :: rest) ended result

theorem Hears.passed {accepts : Nat → Bool} {state next : RpcState} {pdu : Bytes} {header : RpcPduHeader}
    {rest : List Bytes} {ended : Bool} {result : RpcResult}
    (hears : Hears accepts state (pdu :: rest) ended result) (parsed : RpcPduHeader.parse pdu = .ok header)
    (passes : handlePdu accepts state header pdu = (.ok (), next)) :
    Hears accepts next rest ended result := by
  cases hears with
  | failed again fails =>
      rw [parsed] at again
      cases again
      rw [passes] at fails
      cases fails
  | handled again taken later =>
      rw [parsed] at again
      cases again
      rw [passes] at taken
      cases taken
      exact later

theorem Hears.stopped {accepts : Nat → Bool} {state left : RpcState} {pdu : Bytes} {header : RpcPduHeader}
    {rest : List Bytes} {ended : Bool} {result : RpcResult} {error : RpcProcessError}
    (hears : Hears accepts state (pdu :: rest) ended result) (parsed : RpcPduHeader.parse pdu = .ok header)
    (fails : handlePdu accepts state header pdu = (.error error, left)) :
    result = (.error error, left) := by
  cases hears with
  | failed again other =>
      rw [parsed] at again
      cases again
      rw [fails] at other
      cases other
      rfl
  | handled again taken later =>
      rw [parsed] at again
      cases again
      rw [fails] at taken
      cases taken

theorem hears_run (accepts : Nat → Bool) (state : RpcState) (buf : Bytes) (body : List BodyFrame) :
    Hears accepts state (readPdus buf body).1 (readPdus buf body).2
      ((rpcLoop accepts).run { state, buf, body }) := by
  induction buf, body using readPdus.induct generalizing state with
  | case1 buf body error read =>
      have round : (rpcLoop accepts).round { state, buf, body } = .done (.error error, state) := by
        simp only [rpcLoop_round, rpcRound, read]
      rw [readPdus_error read, Loop.run_done round]
      exact .unread error
  | case2 buf body read =>
      have round : (rpcLoop accepts).round { state, buf, body } = .done (.ok (), state) := by
        simp only [rpcLoop_round, rpcRound, read]
      rw [readPdus_none read, Loop.run_done round]
      exact .ended
  | case3 buf body pdu read ih =>
      have parsed := (readPdu_parsed read).2.1
      rw [readPdus_some read]
      rcases handled : handlePdu accepts state pdu.header pdu.pduData with ⟨error | _, next⟩
      · have round : (rpcLoop accepts).round { state, buf, body } = .done (.error error, next) := by
          simp only [rpcLoop_round, rpcRound, read, handled]
        rw [Loop.run_done round]
        exact .failed parsed handled
      · have round : (rpcLoop accepts).round { state, buf, body } =
            .next { state := next, buf := pdu.buf, body := pdu.body } := by
          simp only [rpcLoop_round, rpcRound, read, handled]
        rw [Loop.run_next round]
        exact .handled parsed handled (ih next)

theorem Hears.sent_extends {accepts : Nat → Bool} {state : RpcState} {pdus : List Bytes} {ended : Bool}
    {result : RpcResult} (hears : Hears accepts state pdus ended result) :
    ∃ frames, result.2.sent = state.sent ++ frames := by
  induction hears with
  | ended => exact ⟨[], (List.append_nil _).symm⟩
  | unread => exact ⟨[], (List.append_nil _).symm⟩
  | @failed state left pdu header _ _ _ parsed handled =>
      obtain ⟨frames, sent, _⟩ := handlePdu_extends accepts state header pdu
      rw [handled] at sent
      exact ⟨frames, sent⟩
  | @handled state next pdu header _ _ _ parsed handled later ih =>
      obtain ⟨frames, sent, _⟩ := handlePdu_extends accepts state header pdu
      rw [handled] at sent
      obtain ⟨more, grown⟩ := ih
      exact ⟨frames ++ more, by rw [grown, sent, List.append_assoc]⟩

/-! ## Two lists of PDUs, one of which goes on -/

/-- The dialogue over the PDUs of these exchanges, every answer of which the OUT channel takes. -/
inductive Conversed (accepts : Nat → Bool) : List PduExchange → Option GatewaySession → Prop where
  | start : Conversed accepts [] none
  | step {exchanges : List PduExchange} {talk later : Option GatewaySession} {exchange : PduExchange}
      (earlier : Conversed accepts exchanges talk) (answers : Answers talk exchange later)
      (taken : ∀ frame, exchange.reply = some frame →
        accepts ((exchanges.filterMap PduExchange.reply).length + 1) = true) :
      Conversed accepts (exchanges ++ [exchange]) later

theorem Conversed.dialogue {accepts : Nat → Bool} {exchanges : List PduExchange}
    {talk : Option GatewaySession} (conversed : Conversed accepts exchanges talk) :
    Steps Answers none exchanges talk := by
  induction conversed with
  | start => exact .start
  | step earlier answers taken ih => exact ih.step answers

theorem Conversed.last {accepts : Nat → Bool} {exchanges : List PduExchange}
    {talk : Option GatewaySession} {pdus : List Bytes} {pdu : Bytes} (conversed : Conversed accepts exchanges talk)
    (spelled : exchanges.map PduExchange.pdu = pdus ++ [pdu]) :
    ∃ before earlier reply, Conversed accepts before earlier ∧ before.map PduExchange.pdu = pdus ∧
      Answers earlier ⟨pdu, reply⟩ talk ∧ ∀ frame, reply = some frame →
        accepts ((before.filterMap PduExchange.reply).length + 1) = true := by
  cases conversed with
  | start =>
      rw [List.map_nil] at spelled
      cases List.append_ne_nil_of_right_ne_nil pdus (List.cons_ne_nil pdu []) spelled.symm
  | @step before earlier _ exchange run answers taken =>
      rw [List.map_append] at spelled
      obtain ⟨front, same⟩ := List.append_inj' spelled rfl
      obtain ⟨_, reply⟩ := exchange
      cases same
      exact ⟨before, earlier, reply, run, front, answers, taken⟩

/-- Two dialogues over the same PDUs are one, so the PDU behind them is answered in its state. -/
theorem Conversed.behind {accepts : Nat → Bool} {exchanges all : List PduExchange}
    {talk later : Option GatewaySession} {pdu : Bytes} (conversed : Conversed accepts exchanges talk)
    (longer : Conversed accepts all later)
    (spelled : all.map PduExchange.pdu = exchanges.map PduExchange.pdu ++ [pdu]) :
    ∃ reply, Answers talk ⟨pdu, reply⟩ later ∧ ∀ frame, reply = some frame →
      accepts ((exchanges.filterMap PduExchange.reply).length + 1) = true := by
  obtain ⟨before, earlier, reply, again, front, answers, taken⟩ := longer.last spelled
  obtain ⟨rfl, rfl⟩ := dialogue_unique conversed.dialogue again.dialogue front.symm
  exact ⟨reply, answers, taken⟩

/-- The PDUs that only the longer list has end no other way than the shorter list ends:
they are ignored, up to the end or up to one that fails before it changes anything. -/
inductive Unnoticed (accepts : Nat → Bool) (sent : Nat) (talk : Option GatewaySession) (short : Bool) :
    List Bytes → Bool → Prop where
  | ended : Unnoticed accepts sent talk short [] short
  | ignored {pdu : Bytes} {rest : List Bytes} {ended : Bool} (answers : Answers talk ⟨pdu, none⟩ talk)
      (others : Unnoticed accepts sent talk short rest ended) :
      Unnoticed accepts sent talk short (pdu :: rest) ended
  | offends {pdu : Bytes} {rest : List Bytes} {ended : Bool} (fails : short = false)
      (offends : Offends talk pdu) : Unnoticed accepts sent talk short (pdu :: rest) ended
  | refused {pdu frame : Bytes} {rest : List Bytes} {ended : Bool} (fails : short = false)
      (answers : Answers talk ⟨pdu, some frame⟩ talk) (refuses : accepts sent = false) :
      Unnoticed accepts sent talk short (pdu :: rest) ended

/-- A list of PDUs that goes on behind another one, where the dialogue over the shorter
stops inside it or the rest is not noticed. -/
def EndsUnnoticed (accepts : Nat → Bool) (short long : List Bytes × Bool) : Prop :=
  ∃ extra, long.1 = short.1 ++ extra ∧ ∀ exchanges talk, Conversed accepts exchanges talk →
    exchanges.map PduExchange.pdu = short.1 →
    Unnoticed accepts ((exchanges.filterMap PduExchange.reply).length + 1) talk short.2 extra long.2

theorem sameResult_iff {first second : RpcResult} :
    SameResult first second ↔ first.1.isOk = second.1.isOk ∧ first.2.sent = second.2.sent ∧
      first.2.vconn = second.2.vconn ∧ first.2.session = second.2.session := by
  have some : Nonempty PendingMap := ⟨.empty⟩
  obtain ⟨_ | _, state⟩ := first <;> obtain ⟨_ | _, other⟩ := second <;>
    simp [SameResult, finishInChannel, Except.isOk, Except.toBool]

section Compared

variable {accepts : Nat → Bool} {first : Bytes} {exchanges : List PduExchange}
  {talk : Option GatewaySession} {state : RpcState}

theorem Follows.entered_same (follows : Follows first exchanges talk state) {session : GatewaySession} :
    ((state.entered session).vconn = state.vconn ∧ (state.entered session).session = state.session) ↔
      some session = talk := by
  obtain ⟨_, connection, same, _⟩ := follows
  constructor
  · intro holds
    obtain ⟨connected, session⟩ := holds
    rw [← connected] at connection
    cases talk with
    | none => cases connection
    | some other => exact congrArg some (session.trans same)
  · rintro rfl
    refine ⟨?_, same.symm⟩
    have connected : state.vconn.state = .dataTransfer := connection
    rw [RpcState.entered, ← connected]

namespace Unnoticed

variable {sent : Nat} {short ended : Bool} {pdu : Bytes} {rest : List Bytes}

theorem nil_iff : Unnoticed accepts sent talk short [] ended ↔ short = ended := by
  constructor
  · intro unnoticed
    cases unnoticed
    rfl
  · rintro rfl
    exact .ended

theorem silent_iff (silent : Answers talk ⟨pdu, none⟩ talk) :
    Unnoticed accepts sent talk short (pdu :: rest) ended ↔ Unnoticed accepts sent talk short rest ended := by
  constructor
  · intro unnoticed
    cases unnoticed with
    | ignored _ others => exact others
    | offends fails offends => cases offends_iff.mp offends _ _ silent
    | refused fails answers => cases (answers.unique silent).1
  · exact .ignored silent

theorem offending_iff (offending : Offends talk pdu) :
    Unnoticed accepts sent talk short (pdu :: rest) ended ↔ short = false := by
  constructor
  · intro unnoticed
    cases unnoticed with
    | ignored answers => cases offends_iff.mp offending _ _ answers
    | offends fails => exact fails
    | refused fails answers => cases offends_iff.mp offending _ _ answers
  · exact fun fails => .offends fails offending

theorem answered_iff {frame : Bytes} {next : Option GatewaySession}
    (answered : Answers talk ⟨pdu, some frame⟩ next) :
    Unnoticed accepts sent talk short (pdu :: rest) ended ↔
      short = false ∧ accepts sent = false ∧ next = talk := by
  constructor
  · intro unnoticed
    cases unnoticed with
    | ignored silent => cases (answered.unique silent).1
    | offends fails offends => cases offends_iff.mp offends _ _ answered
    | refused fails answers refuses => exact ⟨fails, refuses, (answered.unique answers).2⟩
  · intro holds
    obtain ⟨fails, refuses, rfl⟩ := holds
    exact .refused fails answered refuses

end Unnoticed

theorem Hears.unnoticed_iff {pdus : List Bytes} {ended short : Bool} {result shortResult : RpcResult}
    (hears : Hears accepts state pdus ended result) (follows : Follows first exchanges talk state)
    (shorter : Hears accepts state [] short shortResult) :
    SameResult shortResult result ↔
      Unnoticed accepts ((exchanges.filterMap PduExchange.reply).length + 1) talk short pdus ended := by
  have shown : shortResult.1.isOk = short ∧ shortResult.2 = state := by
    cases shorter <;> exact ⟨rfl, rfl⟩
  obtain ⟨status, left⟩ := shown
  have counted : state.sent.length = (exchanges.filterMap PduExchange.reply).length + 1 := by
    rw [follows.sent, List.length_cons]
  rw [sameResult_iff, status, left, ← counted]
  clear shorter status left counted
  induction hears generalizing exchanges with
  | ended =>
      rw [Unnoticed.nil_iff]
      exact and_iff_left ⟨rfl, rfl, rfl⟩
  | unread error =>
      rw [Unnoticed.nil_iff]
      exact and_iff_left ⟨rfl, rfl, rfl⟩
  | @failed state left pdu header error rest ended parsed handled =>
      have met := @handlePdu_met accepts _ _ _ _ _ _ follows (RpcPduHeader.parse_ptype parsed)
      rw [handled] at met
      cases met with
      | offended _ offends =>
          rw [Unnoticed.offending_iff offends]
          exact and_iff_left ⟨rfl, rfl, rfl⟩
      | refused _ answers refuses =>
          rw [Unnoticed.answered_iff answers, ← follows.entered_same]
          constructor
          · intro holds
            obtain ⟨fails, _, connection, session⟩ := holds
            exact ⟨fails, refuses, connection.symm, session.symm⟩
          · intro holds
            obtain ⟨fails, _, connection, session⟩ := holds
            exact ⟨fails, rfl, connection.symm, session.symm⟩
  | @handled state next pdu header rest ended result parsed handled later ih =>
      have met := @handlePdu_met accepts _ _ _ _ _ _ follows (RpcPduHeader.parse_ptype parsed)
      rw [handled] at met
      cases met with
      | ignored answers => exact (ih (follows.ignored pdu)).trans (Unnoticed.silent_iff answers).symm
      | answered answers takes =>
          rw [Unnoticed.answered_iff answers, takes]
          refine iff_of_false ?_ (fun unnoticed => by cases unnoticed.2.1)
          intro holds
          obtain ⟨_, sent, _⟩ := holds
          obtain ⟨more, grown⟩ := later.sent_extends
          rw [grown, List.append_assoc] at sent
          cases List.append_right_eq_self.mp sent.symm

/-- Some PDUs in front are answered, all of them, or the loop stops in them. -/
theorem hears_front {start : RpcState} (follows : Follows first [] none start) {pdus : List Bytes}
    (known : ∀ pdu ∈ pdus, isKnown pdu = true) :
    (∃ exchanges talk state, Conversed accepts exchanges talk ∧ exchanges.map PduExchange.pdu = pdus ∧
      Follows first exchanges talk state ∧ ∀ extra ended result,
        Hears accepts start (pdus ++ extra) ended result → Hears accepts state extra ended result) ∨
    (∀ exchanges talk, Conversed accepts exchanges talk → exchanges.map PduExchange.pdu ≠ pdus) ∧
      ∃ stopped, ∀ extra ended result, Hears accepts start (pdus ++ extra) ended result →
        result = stopped := by
  induction pdus using List.reverseRecOn with
  | nil => exact .inl ⟨[], none, start, .start, rfl, follows, fun _ _ _ hears => hears⟩
  | append_singleton pdus pdu ih =>
      have earlierKnown := fun other member => known other (List.mem_append_left [pdu] member)
      have here := known pdu (List.mem_append_right _ (List.mem_singleton_self pdu))
      obtain ⟨header, parsed⟩ := isKnown_iff.mp here
      have parts (extra : List Bytes) : pdus ++ [pdu] ++ extra = pdus ++ pdu :: extra := by
        rw [List.append_assoc, List.singleton_append]
      rcases ih earlierKnown with
        ⟨exchanges, talk, state, run, rfl, follows, hears⟩ | ⟨stops, result, same⟩
      · have counted : state.sent.length = (exchanges.filterMap PduExchange.reply).length + 1 := by
          rw [follows.sent, List.length_cons]
        have behind (extra : List Bytes) (ended : Bool) (result : RpcResult)
            (heard : Hears accepts start (exchanges.map PduExchange.pdu ++ [pdu] ++ extra) ended result) :
            Hears accepts state (pdu :: extra) ended result := hears _ _ _ (parts extra ▸ heard)
        have met := @handlePdu_met accepts _ _ _ _ _ _ follows (RpcPduHeader.parse_ptype parsed)
        generalize handled : handlePdu accepts state header pdu = result at met
        cases met with
        | ignored answers =>
            refine .inl ⟨_, talk, state, run.step answers (fun _ none => nomatch none), List.map_append,
              follows.ignored pdu, fun extra ended result heard => ?_⟩
            exact (behind extra ended result heard).passed parsed handled
        | @answered frame session answers takes =>
            rw [counted] at takes
            refine .inl ⟨_, some session, _, run.step answers (fun _ _ => takes), List.map_append,
              follows.answered pdu frame session, fun extra ended result heard => ?_⟩
            exact (behind extra ended result heard).passed parsed handled
        | offended error offends =>
            refine .inr ⟨fun all later longer spelled => ?_, _, fun extra ended result heard =>
              (behind extra ended result heard).stopped parsed handled⟩
            obtain ⟨reply, answers, _⟩ := run.behind longer spelled
            exact offends_iff.mp offends _ _ answers
        | refused error answers refuses =>
            refine .inr ⟨fun all later longer spelled => ?_, _, fun extra ended result heard =>
              (behind extra ended result heard).stopped parsed handled⟩
            obtain ⟨reply, again, taken⟩ := run.behind longer spelled
            obtain ⟨rfl, _⟩ := answers.unique again
            rw [counted, taken _ rfl] at refuses
            cases refuses
      · refine .inr ⟨fun all later longer spelled => ?_, result, fun extra ended result heard => ?_⟩
        · obtain ⟨before, earlier, _, again, front, _⟩ := longer.last spelled
          exact stops _ _ again front
        · rw [parts] at heard
          exact same _ _ _ heard

theorem sameResult_iff_unnoticed {start : RpcState} (follows : Follows first [] none start)
    {short long : List Bytes × Bool} {shortResult longResult : RpcResult}
    (known : ∀ pdu ∈ short.1, isKnown pdu = true) (inside : short.1 <+: long.1)
    (shorter : Hears accepts start short.1 short.2 shortResult)
    (longer : Hears accepts start long.1 long.2 longResult) :
    SameResult shortResult longResult ↔ EndsUnnoticed accepts short long := by
  obtain ⟨extra, spelled⟩ := inside
  rw [← spelled] at longer
  have whole : Hears accepts start (short.1 ++ []) short.2 shortResult := by
    rw [List.append_nil]
    exact shorter
  rcases hears_front follows known with
    ⟨exchanges, talk, state, run, front, reached, hears⟩ | ⟨stops, result, same⟩
  · have compared := (hears _ _ _ longer).unnoticed_iff reached (hears _ _ _ whole)
    rw [compared]
    constructor
    · intro unnoticed
      refine ⟨extra, spelled.symm, fun others later again same => ?_⟩
      obtain ⟨rfl, rfl⟩ := dialogue_unique run.dialogue again.dialogue (front.trans same.symm)
      exact unnoticed
    · intro holds
      obtain ⟨others, split, unnoticed⟩ := holds
      rw [← spelled] at split
      cases List.append_cancel_left split
      exact unnoticed _ _ run front
  · have ends : SameResult shortResult longResult := by
      rw [same _ _ _ whole, same _ _ _ longer]
      exact fun _ => rfl
    refine iff_of_true ends ⟨extra, spelled.symm, fun others later again spelled => ?_⟩
    exact absurd spelled (stops _ _ again)

end Compared

/-- Of two lists of PDUs, the longer one ends like the shorter. -/
def EndAlike (accepts : Nat → Bool) (first second : List Bytes × Bool) : Prop :=
  EndsUnnoticed accepts first second ∨ EndsUnnoticed accepts second first

/-- The PDUs in front of the first unknown one, and whether these are all. -/
def knownPdus (pdus : List Bytes) : List Bytes × Bool := (pdus.takeWhile isKnown, pdus.all isKnown)

theorem sameResult_iff_endAlike {accepts : Nat → Bool} {first : Bytes} {start : RpcState}
    (follows : Follows first [] none start) {one other : List Bytes × Bool}
    {result otherResult : RpcResult}
    (known : ∀ pdu ∈ one.1, isKnown pdu = true) (otherKnown : ∀ pdu ∈ other.1, isKnown pdu = true)
    (nested : one.1 <+: other.1 ∨ other.1 <+: one.1) (hears : Hears accepts start one.1 one.2 result)
    (otherHears : Hears accepts start other.1 other.2 otherResult) :
    SameResult result otherResult ↔ EndAlike accepts one other := by
  constructor
  · intro same
    rcases nested with inside | inside
    · exact .inl ((sameResult_iff_unnoticed follows known inside hears otherHears).mp same)
    · exact .inr ((sameResult_iff_unnoticed follows otherKnown inside otherHears hears).mp same.symm)
  · rintro (unnoticed | unnoticed)
    · have inside : one.1 <+: other.1 := unnoticed.imp fun _ split => split.1.symm
      exact (sameResult_iff_unnoticed follows known inside hears otherHears).mpr unnoticed
    · have inside : other.1 <+: one.1 := unnoticed.imp fun _ split => split.1.symm
      exact ((sameResult_iff_unnoticed follows otherKnown inside otherHears hears).mpr unnoticed).symm

/-- Control PDUs between the PDUs of a stream change nothing exactly when the two lists of
PDUs that the loop can read end alike. In the buffer, what can be read of the longer stream
ends in front of the first control PDU. -/
theorem control_pdus_unnoticed_iff (accepts : Nat → Bool) {self vconn : VirtualConnection}
    {connB1 : ConnB1} {connC2 : RtsPdu} (accepted : self.acceptInChannel connB1 = (.ok connC2, vconn))
    {rts pdus mixed : List Bytes} (complete : ∀ pdu ∈ pdus, CompletePdu pdu)
    (control : ∀ data ∈ rts, ∃ pdu, RtsPdu.parse data = .ok pdu)
    (inserted : Interleaved rts pdus mixed) :
    (∀ buf body mixedBuf mixedBody, buf ++ bodyBytes body = pdus.flatten →
      mixedBuf ++ bodyBytes mixedBody = mixed.flatten →
        (SameResult ((rpcLoop accepts).run (.established vconn connC2 buf body))
            ((rpcLoop accepts).run (.established vconn connC2 mixedBuf mixedBody)) ↔
          EndAlike accepts (readPdus buf body) (readPdus mixedBuf mixedBody))) ∧
    (SameResult ((rpcLoop accepts).run (.established vconn connC2 pdus.flatten []))
        ((rpcLoop accepts).run (.established vconn connC2 mixed.flatten [])) ↔
      EndsUnnoticed accepts (knownPdus mixed) (knownPdus pdus)) := by
  have follows (buf : Bytes) (body : List BodyFrame) :
      Follows connC2.toBytes [] none (RpcInput.established vconn connC2 buf body).state :=
    ⟨rfl, (acceptInChannel_ok accepted).2.2, rfl, rfl⟩
  have unread : ∀ data ∈ rts, isKnown data = false := by
    intro data member
    obtain ⟨pdu, parsed⟩ := control data member
    exact (rts_unknown parsed).2
  have mixedComplete : ∀ pdu ∈ mixed, CompletePdu pdu := by
    intro pdu member
    rcases inserted.mem member with inside | inside
    · obtain ⟨_, parsed⟩ := control pdu inside
      exact (rts_unknown parsed).1
    · exact complete pdu inside
  have shorter := (inserted.takeWhile_front unread).1
  have known {pdus : List Bytes} {read : List Bytes} (front : read <+: pdus.takeWhile isKnown) :
      ∀ pdu ∈ read, isKnown pdu = true := fun pdu member => List.mem_takeWhile_imp (front.subset member)
  refine ⟨fun buf body mixedBuf mixedBody stream mixedStream => ?_, ?_⟩
  · have front := readPdus_front complete stream
    have mixedFront := readPdus_front mixedComplete mixedStream
    have nested := List.prefix_or_prefix_of_prefix front (mixedFront.trans shorter)
    exact sameResult_iff_endAlike (follows buf body) (known front) (known mixedFront) nested
      (hears_run accepts _ buf body) (hears_run accepts _ mixedBuf mixedBody)
  · have hears := hears_run accepts (RpcInput.established vconn connC2 [] []).state pdus.flatten []
    have mixedHears := hears_run accepts (RpcInput.established vconn connC2 [] []).state mixed.flatten []
    rw [readPdus_buffered complete] at hears
    rw [readPdus_buffered mixedComplete] at mixedHears
    have compared := sameResult_iff_unnoticed (follows [] []) (known (List.prefix_refl _)) shorter
      mixedHears hears
    exact Iff.trans ⟨SameResult.symm, SameResult.symm⟩ compared

/-! ## An acknowledgement in front of the bind -/

def sampleFlowControlAck : Bytes := (RtsPdu.new 9 2 [.flowControlAck 0 65536 sampleCookie]).toBytes

theorem sampleFlowControlAck_parse : ∃ pdu, RtsPdu.parse sampleFlowControlAck = .ok pdu :=
  ⟨RtsPdu.new 9 2 [.flowControlAck 0 65536 sampleCookie], by decide +kernel⟩

/-- The acknowledgement is noticed in front of the bind, and not behind it where the OUT channel has
refused the answer to the bind. -/
theorem control_pdus_unnoticed_iff_ack :
    ¬ EndsUnnoticed (fun _ => true) (knownPdus [sampleFlowControlAck, sampleBindBytes])
        (knownPdus [sampleBindBytes]) ∧
      EndsUnnoticed (fun _ => false) (knownPdus [sampleBindBytes, sampleFlowControlAck])
        (knownPdus [sampleBindBytes]) := by
  have accepted : (registeredBy sampleA1).acceptInChannel sampleB1 = (.ok (RtsPdu.connC2 7), _) := rfl
  have inFront : Interleaved [sampleFlowControlAck] [sampleBindBytes] [sampleFlowControlAck, sampleBindBytes] :=
    .right sampleBindBytes (.left sampleFlowControlAck .nil)
  have behind : Interleaved [sampleFlowControlAck] [sampleBindBytes] [sampleBindBytes, sampleFlowControlAck] :=
    .left sampleFlowControlAck (.right sampleBindBytes .nil)
  have complete : ∀ pdu ∈ [sampleBindBytes], CompletePdu pdu :=
    List.forall_mem_singleton.mpr (by decide +kernel)
  have control : ∀ data ∈ [sampleFlowControlAck], ∃ pdu, RtsPdu.parse data = .ok pdu :=
    List.forall_mem_singleton.mpr sampleFlowControlAck_parse
  constructor
  · rw [← (control_pdus_unnoticed_iff (fun _ => true) accepted complete control inFront).2, sameResult_iff]
    decide +kernel
  · rw [← (control_pdus_unnoticed_iff (fun _ => false) accepted complete control behind).2, sameResult_iff]
    decide +kernel

/-- A FlowControlAck in front of the bind: the request fails, and the bind has no answer. -/
theorem flow_control_ack_ends_request :
    let accepted := (registeredBy sampleA1).acceptInChannel sampleB1
    let mixed := [sampleFlowControlAck, sampleBindBytes]
    let plainResult := (rpcLoop fun _ => true).run
      (.established accepted.2 (RtsPdu.connC2 7) [sampleBindBytes].flatten [])
    let mixedResult := (rpcLoop fun _ => true).run
      (.established accepted.2 (RtsPdu.connC2 7) mixed.flatten [])
    (∃ pdu, RtsPdu.parse sampleFlowControlAck = .ok pdu) ∧ CompletePdu sampleBindBytes ∧
      Interleaved [sampleFlowControlAck] [sampleBindBytes] mixed ∧
      ¬ SameResult plainResult mixedResult ∧ plainResult.1.isOk = true ∧
      plainResult.2.sent.length = 2 ∧ mixedResult.1.isOk = false ∧ mixedResult.2.sent.length = 1 := by
  refine ⟨sampleFlowControlAck_parse, by decide +kernel,
    .right sampleBindBytes (.left sampleFlowControlAck .nil), ?_, ?_⟩
  · rw [sameResult_iff]
    decide +kernel
  · decide +kernel

end RdGateway.Server
