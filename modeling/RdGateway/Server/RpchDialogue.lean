import RdGateway.Core.SessionProperties
import RdGateway.Server.RpchChunkingProperties
import RdGateway.Wirekit.Interleave

/-!
# The dialogue on the IN channel

What the PDUs of a stream are answered with, as a relation that knows neither the buffer
nor the connection. The loop follows it up to the first PDU that has no answer.
-/

set_option autoImplicit false

namespace RdGateway.Server

open Wirekit Proto RdGateway.Core

def IsRequest (pdu : Bytes) : Prop := pdu[2]? = some RpcPduType.request.toU8

theorem IsBind.not_request {pdu : Bytes} (isBind : IsBind pdu) : ¬ IsRequest pdu := by
  intro isRequest
  have same := isBind.symm.trans isRequest
  exact absurd same (by decide)

structure PduExchange where
  pdu : Bytes
  reply : Option Bytes
deriving Repr, DecidableEq

/-- How PDUs are answered. There is no session before the Bind. -/
inductive Answers : Option GatewaySession → PduExchange → Option GatewaySession → Prop where
  -- a Request in front of the Bind, or a known PDU of another type
  | ignored {talk : Option GatewaySession} {pdu : Bytes} (noBind : ¬ IsBind pdu)
      (unasked : IsRequest pdu → talk = none) : Answers talk ⟨pdu, none⟩ talk
  | bind {pdu : Bytes} {bind : BindPdu} (isBind : IsBind pdu) (parsed : BindPdu.parse pdu = .ok bind)
      (tsg : bind.isTsgBind = true) :
      Answers none
        ⟨pdu, some (BindAckPdu.accepted bind.header.callId bind.assocGroupId secondaryAddress).encode⟩
        (some .new)
  | request {session next : GatewaySession} {pdu stub : Bytes} {request : RequestPdu}
      (isRequest : IsRequest pdu) (parsed : RequestPdu.parse pdu = .ok request)
      (served : processTsgOpnum request.opnum request.stubData session = (.ok stub, next)) :
      Answers (some session)
        ⟨pdu, some (ResponsePdu.new request.header.callId request.contextId stub).encode⟩ (some next)

inductive Offends : Option GatewaySession → Bytes → Prop where
  | malformedBind {talk : Option GatewaySession} {pdu : Bytes} (isBind : IsBind pdu)
      (malformed : ∀ bind, BindPdu.parse pdu ≠ .ok bind) : Offends talk pdu
  | foreignBind {talk : Option GatewaySession} {pdu : Bytes} {bind : BindPdu} (isBind : IsBind pdu)
      (parsed : BindPdu.parse pdu = .ok bind) (foreign : bind.isTsgBind = false) : Offends talk pdu
  | secondBind {session : GatewaySession} {pdu : Bytes} (isBind : IsBind pdu) :
      Offends (some session) pdu
  | malformedRequest {session : GatewaySession} {pdu : Bytes} (isRequest : IsRequest pdu)
      (malformed : ∀ request, RequestPdu.parse pdu ≠ .ok request) : Offends (some session) pdu
  | failingOpnum {session next : GatewaySession} {pdu : Bytes} {request : RequestPdu}
      {error : SessionError} (isRequest : IsRequest pdu) (parsed : RequestPdu.parse pdu = .ok request)
      (fails : processTsgOpnum request.opnum request.stubData session = (.error error, next)) :
      Offends (some session) pdu

theorem offends_iff {talk : Option GatewaySession} {pdu : Bytes} :
    Offends talk pdu ↔ ∀ reply next, ¬ Answers talk ⟨pdu, reply⟩ next := by
  constructor
  · intro offends reply next answers
    cases answers with
    | ignored noBind unasked =>
        cases offends with
        | malformedBind isBind malformed => exact noBind isBind
        | foreignBind isBind parsed foreign => exact noBind isBind
        | secondBind isBind => exact noBind isBind
        | malformedRequest isRequest malformed => cases unasked isRequest
        | failingOpnum isRequest parsed fails => cases unasked isRequest
    | bind isBind parsed tsg =>
        cases offends with
        | malformedBind _ malformed => exact malformed _ parsed
        | foreignBind _ found foreign =>
            rw [parsed] at found
            cases found
            rw [tsg] at foreign
            cases foreign
    | request isRequest parsed served =>
        cases offends with
        | malformedBind isBind malformed => exact isBind.not_request isRequest
        | foreignBind isBind found foreign => exact isBind.not_request isRequest
        | secondBind isBind => exact isBind.not_request isRequest
        | malformedRequest _ malformed => exact malformed _ parsed
        | failingOpnum _ found fails =>
            rw [parsed] at found
            cases found
            rw [served] at fails
            cases fails
  · intro unanswered
    by_cases isBind : IsBind pdu
    · cases parsed : BindPdu.parse pdu with
      | err error => exact .malformedBind isBind (Outcome.ne_ok_of_err parsed)
      | panicked => exact .malformedBind isBind (Outcome.ne_ok_of_panicked parsed)
      | ok bind =>
          cases tsg : bind.isTsgBind with
          | false => exact .foreignBind isBind parsed tsg
          | true =>
              cases talk with
              | none => exact absurd (.bind isBind parsed tsg) (unanswered _ _)
              | some session => exact .secondBind isBind
    · cases talk with
      | none => exact absurd (.ignored isBind fun _ => rfl) (unanswered _ _)
      | some session =>
          by_cases isRequest : IsRequest pdu
          · cases parsed : RequestPdu.parse pdu with
            | err error =>
                exact .malformedRequest isRequest (Outcome.ne_ok_of_err parsed)
            | panicked =>
                exact .malformedRequest isRequest (Outcome.ne_ok_of_panicked parsed)
            | ok request =>
                rcases served : processTsgOpnum request.opnum request.stubData session with ⟨result, next⟩
                cases result with
                | error error => exact .failingOpnum isRequest parsed served
                | ok stub => exact absurd (.request isRequest parsed served) (unanswered _ _)
          · exact absurd (.ignored isBind fun asked => absurd asked isRequest) (unanswered _ _)

theorem Answers.unique {talk first second : Option GatewaySession} {pdu : Bytes}
    {reply other : Option Bytes} (answers : Answers talk ⟨pdu, reply⟩ first)
    (again : Answers talk ⟨pdu, other⟩ second) : reply = other ∧ first = second := by
  cases answers with
  | ignored noBind unasked =>
      cases again with
      | ignored => exact ⟨rfl, rfl⟩
      | bind isBind => exact absurd isBind noBind
      | request isRequest => cases unasked isRequest
  | bind isBind parsed tsg =>
      cases again with
      | ignored noBind => exact absurd isBind noBind
      | bind _ found =>
          rw [parsed] at found
          cases found
          exact ⟨rfl, rfl⟩
  | request isRequest parsed served =>
      cases again with
      | ignored noBind unasked => cases unasked isRequest
      | request _ found answered =>
          rw [parsed] at found
          cases found
          rw [served] at answered
          cases answered
          exact ⟨rfl, rfl⟩

theorem dialogue_unique {exchanges others : List PduExchange} {talk other : Option GatewaySession}
    (dialogue : Steps Answers none exchanges talk) (again : Steps Answers none others other)
    (same : exchanges.map PduExchange.pdu = others.map PduExchange.pdu) :
    exchanges = others ∧ talk = other := by
  induction dialogue generalizing others other with
  | start =>
      cases again with
      | start => exact ⟨rfl, rfl⟩
      | step => simp at same
  | @step _ _ exchange _ _ answers ih =>
      cases again with
      | start => simp at same
      | @step _ _ second _ earlier answered =>
          simp only [List.map_append, List.map_singleton] at same
          obtain ⟨front, last⟩ := List.append_inj' same rfl
          obtain ⟨rfl, rfl⟩ := ih earlier front
          obtain ⟨pdu, reply⟩ := exchange
          obtain ⟨_, again⟩ := second
          cases last
          obtain ⟨rfl, rfl⟩ := answers.unique answered
          exact ⟨rfl, rfl⟩

/-- What one exchange owes to the type of its PDU and the exchanges before it. -/
structure RepliesAsAsked (before : List PduExchange) (exchange : PduExchange) : Prop where
  bind : IsBind exchange.pdu → (∀ earlier ∈ before, ¬ IsBind earlier.pdu) ∧
    ∃ bind, BindPdu.parse exchange.pdu = .ok bind ∧ bind.isTsgBind = true ∧ exchange.reply =
      some (BindAckPdu.accepted bind.header.callId bind.assocGroupId secondaryAddress).encode
  request : IsRequest exchange.pdu → (∃ earlier ∈ before, IsBind earlier.pdu) →
    ∃ request stub, RequestPdu.parse exchange.pdu = .ok request ∧ exchange.reply =
      some (ResponsePdu.new request.header.callId request.contextId stub).encode
  unbound : IsRequest exchange.pdu → (∀ earlier ∈ before, ¬ IsBind earlier.pdu) → exchange.reply = none
  other : ¬ IsBind exchange.pdu → ¬ IsRequest exchange.pdu → exchange.reply = none

theorem Answers.asAsked {talk later : Option GatewaySession} {before : List PduExchange}
    {exchange : PduExchange} (bound : talk.isSome = true ↔ ∃ earlier ∈ before, IsBind earlier.pdu)
    (answers : Answers talk exchange later) : RepliesAsAsked before exchange := by
  cases answers with
  | ignored noBind unasked =>
      refine ⟨fun isBind => absurd isBind noBind, fun isRequest isBound => ?_, fun _ _ => rfl, fun _ _ => rfl⟩
      rw [unasked isRequest] at bound
      cases bound.mpr isBound
  | bind isBind parsed tsg =>
      refine ⟨fun _ => ⟨fun earlier member other => ?_, _, parsed, tsg, rfl⟩,
        fun isRequest => absurd isRequest isBind.not_request,
        fun isRequest => absurd isRequest isBind.not_request, fun noBind => absurd isBind noBind⟩
      cases bound.mpr ⟨earlier, member, other⟩
  | request isRequest parsed served =>
      refine ⟨fun isBind => absurd isRequest isBind.not_request, fun _ _ => ⟨_, _, parsed, rfl⟩,
        fun _ unbound => ?_, fun _ noRequest => absurd isRequest noRequest⟩
      obtain ⟨earlier, member, isBind⟩ := bound.mp rfl
      exact absurd isBind (unbound earlier member)

theorem Answers.bound {talk later : Option GatewaySession} {before : List PduExchange}
    {exchange : PduExchange} (bound : talk.isSome = true ↔ ∃ earlier ∈ before, IsBind earlier.pdu)
    (answers : Answers talk exchange later) :
    later.isSome = true ↔ ∃ earlier ∈ before ++ [exchange], IsBind earlier.pdu := by
  simp only [List.mem_append, List.mem_singleton, or_and_right, exists_or, exists_eq_left, ← bound]
  cases answers with
  | ignored noBind unasked => exact (or_iff_left noBind).symm
  | bind isBind parsed tsg => exact iff_of_true rfl (.inr isBind)
  | request isRequest parsed served => exact iff_of_true rfl (.inl rfl)

theorem dialogue_asAsked {exchanges : List PduExchange} {talk : Option GatewaySession}
    (dialogue : Steps Answers none exchanges talk) :
    (talk.isSome = true ↔ ∃ earlier ∈ exchanges, IsBind earlier.pdu) ∧
      ∀ before exchange after, exchanges = before ++ exchange :: after →
        RepliesAsAsked before exchange := by
  induction dialogue with
  | start =>
      refine ⟨iff_of_false (fun same => nomatch same) ?_, fun before exchange after split => ?_⟩
      · intro holds
        obtain ⟨_, member, _⟩ := holds
        cases member
      · cases before <;> cases split
  | step dialogue answers ih =>
      obtain ⟨bound, asked⟩ := ih
      refine ⟨answers.bound bound, fun before exchange after split => ?_⟩
      rcases append_singleton_split split with ⟨rfl, rfl, _⟩ | ⟨rest, _, earlier⟩
      · exact answers.asAsked bound
      · exact asked before exchange rest earlier

/-! ## The loop follows the dialogue -/

structure Follows (first : Bytes) (exchanges : List PduExchange) (talk : Option GatewaySession)
    (state : RpcState) : Prop where
  bound : state.bound = talk.isSome
  connection : state.vconn.state = if talk.isSome then .dataTransfer else .connectionEstablished
  session : state.session = talk.getD .new
  sent : state.sent = first :: exchanges.filterMap PduExchange.reply

/-- A call that fails leaves the session as it was: behind a handshake, the tunnel is created. -/
theorem processTsgOpnum_error {opnum : UInt16} {stub : Bytes} {session next : GatewaySession}
    {error : SessionError} (fails : processTsgOpnum opnum stub session = (.error error, next)) :
    next = session := by
  have unchanged {msg : TsgMessage} {left : GatewaySession} {failure : SessionError}
      (failed : session.processMessage msg = (.error failure, left)) : left = session := by
    have same := GatewaySession.processMessage_error (congrArg Prod.fst failed)
    rw [failed] at same
    exact same
  unfold processTsgOpnum at fails
  split at fails
  · split at fails
    · next failed =>
      cases fails
      exact unchanged failed
    · next shaken =>
      have created := GatewaySession.tunnelCreate_after_handshake shaken tsgTunnelCreate
      split at fails
      · next failed =>
        rw [failed] at created
        obtain ⟨_, created⟩ := created
        cases created
      · cases fails
  · split at fails
    · split at fails
      · next failed =>
        cases fails
        exact unchanged failed
      · cases fails
    · split at fails
      · split at fails
        · next failed =>
          cases fails
          exact unchanged failed
        · cases fails
      · cases fails

/-- The state when an answer is ready, with the session that gave it. -/
def RpcState.entered (state : RpcState) (session : GatewaySession) : RpcState :=
  { state with vconn := { state.vconn with state := .dataTransfer }, session }

/-- What one PDU comes to, with the state that it leaves. -/
inductive PduMet (accepts : Nat → Bool) (talk : Option GatewaySession) (state : RpcState) (pdu : Bytes) :
    RpcResult → Prop where
  | ignored (answers : Answers talk ⟨pdu, none⟩ talk) : PduMet accepts talk state pdu (.ok (), state)
  | answered {frame : Bytes} {session : GatewaySession}
      (answers : Answers talk ⟨pdu, some frame⟩ (some session)) (takes : accepts state.sent.length = true) :
      PduMet accepts talk state pdu
        (.ok (), { state.entered session with bound := true, sent := state.sent ++ [frame] })
  | offended (error : RpcProcessError) (offends : Offends talk pdu) :
      PduMet accepts talk state pdu (.error error, state)
  | refused {frame : Bytes} {session : GatewaySession} (error : RpcProcessError)
      (answers : Answers talk ⟨pdu, some frame⟩ (some session))
      (refuses : accepts state.sent.length = false) :
      PduMet accepts talk state pdu (.error error, state.entered session)

/-- What becomes of a PDU: an answer, an error, or an answer that the OUT channel refuses. -/
inductive PduHandled (accepts : Nat → Bool) (first : Bytes) (exchanges : List PduExchange)
    (talk : Option GatewaySession) (pdu : Bytes) : RpcResult → Prop where
  | answered {reply : Option Bytes} {later : Option GatewaySession} {state : RpcState}
      (answers : Answers talk ⟨pdu, reply⟩ later)
      (follows : Follows first (exchanges ++ [⟨pdu, reply⟩]) later state) :
      PduHandled accepts first exchanges talk pdu (.ok (), state)
  | offended {error : RpcProcessError} {state : RpcState} (offends : Offends talk pdu)
      (sent : state.sent = first :: exchanges.filterMap PduExchange.reply) :
      PduHandled accepts first exchanges talk pdu (.error error, state)
  | refused {frame : Bytes} {later : Option GatewaySession} {error : RpcProcessError}
      {state : RpcState} (answers : Answers talk ⟨pdu, some frame⟩ later)
      (refuses : accepts state.sent.length = false)
      (sent : state.sent = first :: exchanges.filterMap PduExchange.reply) :
      PduHandled accepts first exchanges talk pdu (.error error, state)

section Handled

variable {accepts : Nat → Bool} {first pdu : Bytes} {exchanges : List PduExchange}
  {talk : Option GatewaySession} {state : RpcState}

theorem handleBind_met (follows : Follows first exchanges talk state) (isBind : IsBind pdu) :
    PduMet accepts talk state pdu (handleBind accepts state pdu) := by
  obtain ⟨bound, connection, session, _⟩ := follows
  unfold handleBind
  cases parsed : BindPdu.parse pdu with
  | err error => exact .offended _ (.malformedBind isBind (Outcome.ne_ok_of_err parsed))
  | panicked => exact .offended _ (.malformedBind isBind (Outcome.ne_ok_of_panicked parsed))
  | ok bind =>
      dsimp only
      cases tsg : bind.isTsgBind with
      | false => exact .offended _ (.foreignBind isBind parsed tsg)
      | true =>
          cases talk with
          | some session =>
              have entered : state.vconn.enterDataTransfer =
                  (.err (.unexpectedState .connectionEstablished state.vconn.state), state.vconn) := by
                rw [VirtualConnection.enterDataTransfer, connection]
                rfl
              rw [entered]
              exact .offended _ (.secondBind isBind)
          | none =>
              have entered : state.vconn.enterDataTransfer =
                  (.ok (), { state.vconn with state := .dataTransfer }) := by
                rw [VirtualConnection.enterDataTransfer, connection]
                rfl
              have fresh : state.session = GatewaySession.new := session
              have same : { state with vconn := { state.vconn with state := .dataTransfer } } =
                  state.entered .new := by
                rw [RpcState.entered, ← fresh]
              rw [entered]
              dsimp only
              rw [same]
              dsimp only [RpcState.send]
              have answers := Answers.bind isBind parsed tsg
              have counted : (state.entered .new).sent = state.sent := rfl
              rw [counted]
              cases accepted : accepts state.sent.length with
              | false => exact .refused _ answers accepted
              | true => exact .answered answers accepted

theorem handleRequest_met {session : GatewaySession} (follows : Follows first exchanges (some session) state)
    (isRequest : IsRequest pdu) :
    PduMet accepts (some session) state pdu (handleRequest accepts state pdu) := by
  obtain ⟨bound, connection, same, _⟩ := follows
  have same : state.session = session := same
  have connected : state.vconn.state = .dataTransfer := connection
  have bound : state.bound = true := bound
  unfold handleRequest
  cases parsed : RequestPdu.parse pdu with
  | err error => exact .offended _ (.malformedRequest isRequest (Outcome.ne_ok_of_err parsed))
  | panicked => exact .offended _ (.malformedRequest isRequest (Outcome.ne_ok_of_panicked parsed))
  | ok request =>
      dsimp only
      rw [same]
      rcases served : processTsgOpnum request.opnum request.stubData session with ⟨result, next⟩
      cases result with
      | error error =>
          have left := processTsgOpnum_error served
          rw [left, ← same]
          exact .offended _ (same ▸ .failingOpnum isRequest parsed served)
      | ok stub =>
          have entered : { state with session := next } = state.entered next := by
            rw [RpcState.entered, ← connected]
          dsimp only
          rw [entered]
          dsimp only [RpcState.send]
          have answers := Answers.request isRequest parsed served
          have counted : (state.entered next).sent = state.sent := rfl
          rw [counted]
          cases accepted : accepts state.sent.length with
          | false => exact .refused _ answers accepted
          | true =>
              have met := PduMet.answered answers accepted
              rw [← bound] at met
              exact met

theorem Follows.ignored (follows : Follows first exchanges talk state) (pdu : Bytes) :
    Follows first (exchanges ++ [⟨pdu, none⟩]) talk state := by
  refine ⟨follows.bound, follows.connection, follows.session, ?_⟩
  rw [filterMap_append_singleton]
  exact follows.sent.trans (List.append_nil _).symm

theorem Follows.answered (follows : Follows first exchanges talk state) (pdu frame : Bytes)
    (session : GatewaySession) :
    Follows first (exchanges ++ [⟨pdu, some frame⟩]) (some session)
      { state.entered session with bound := true, sent := state.sent ++ [frame] } := by
  refine ⟨rfl, rfl, rfl, ?_⟩
  rw [filterMap_append_singleton, ← List.cons_append, ← follows.sent]
  rfl

theorem handlePdu_met {header : RpcPduHeader} (follows : Follows first exchanges talk state)
    (typed : pdu[2]? = some header.ptype.toU8) :
    PduMet accepts talk state pdu (handlePdu accepts state header pdu) := by
  have isType {ptype : RpcPduType} (same : pdu[2]? = some ptype.toU8) : header.ptype = ptype :=
    RpcPduType.toU8_injective (Option.some.inj (typed.symm.trans same))
  unfold handlePdu
  split
  · next bind =>
    rw [bind] at typed
    exact handleBind_met follows typed
  · next request =>
    have noBind : ¬ IsBind pdu := by
      intro isBind
      rw [isType isBind] at request
      cases request
    rw [request] at typed
    cases talk with
    | none =>
        rw [follows.bound]
        exact .ignored (.ignored noBind fun _ => rfl)
    | some session =>
        rw [follows.bound]
        exact handleRequest_met follows typed
  · next noBind noRequest =>
    exact .ignored (.ignored (fun isBind => noBind (isType isBind))
      fun isRequest => absurd (isType isRequest) noRequest)

theorem handlePdu_handled {header : RpcPduHeader} (follows : Follows first exchanges talk state)
    (typed : pdu[2]? = some header.ptype.toU8) :
    PduHandled accepts first exchanges talk pdu (handlePdu accepts state header pdu) := by
  have met : PduMet accepts talk state pdu _ := handlePdu_met follows typed
  generalize handlePdu accepts state header pdu = result at met
  cases met with
  | ignored answers => exact .answered answers (follows.ignored pdu)
  | answered answers takes => exact .answered answers (follows.answered pdu _ _)
  | offended error offends => exact .offended offends follows.sent
  | refused error answers refuses => exact .refused answers refuses follows.sent

end Handled

/-- The PDU that the loop stops at has no answer, or the OUT channel does not take it. -/
def StopsAt (accepts : Nat → Bool) (exchanges : List PduExchange) (talk : Option GatewaySession)
    (pdu : Bytes) : Prop :=
  Offends talk pdu ∨ ∃ frame later, Answers talk ⟨pdu, some frame⟩ later ∧
    accepts ((exchanges.filterMap PduExchange.reply).length + 1) = false

/-- How the loop ends behind these exchanges, with the PDUs and the bytes that are left. -/
inductive Verdict (accepts : Nat → Bool) (exchanges : List PduExchange) (talk : Option GatewaySession)
    (left : List Bytes) (tail : Bytes) : Except RpcProcessError Unit → Prop where
  | complete (none : left = []) (ended : tail = []) : Verdict accepts exchanges talk left tail (.ok ())
  | trailing (error : RpcProcessError) (none : left = []) (trailing : tail ≠ []) :
      Verdict accepts exchanges talk left tail (.error error)
  | stopped (error : RpcProcessError) {pdu : Bytes} {later : List Bytes} (next : left = pdu :: later)
      (stops : StopsAt accepts exchanges talk pdu) : Verdict accepts exchanges talk left tail (.error error)

/-- The dialogue over the front of a stream, and what the loop did in it. -/
structure Spoken (accepts : Nat → Bool) (first stream : Bytes) (exchanges : List PduExchange)
    (talk : Option GatewaySession) (left : List Bytes) (result : RpcResult) : Prop where
  cut : (cutPdus stream).1 = exchanges.map PduExchange.pdu ++ left
  dialogue : Steps Answers none exchanges talk
  asAsked : ∀ before exchange after, exchanges = before ++ exchange :: after →
    RepliesAsAsked before exchange
  sent : result.2.sent = first :: exchanges.filterMap PduExchange.reply
  verdict : Verdict accepts exchanges talk left (cutPdus stream).2 result.1

structure InputReached (first stream : Bytes) (exchanges : List PduExchange) (talk : Option GatewaySession)
    (input : RpcInput) : Prop where
  cut : (cutPdus stream).1 = exchanges.map PduExchange.pdu ++ (cutPdus input.buf).1
  tail : (cutPdus stream).2 = (cutPdus input.buf).2
  body : input.body = []
  dialogue : Steps Answers none exchanges talk
  follows : Follows first exchanges talk input.state

theorem reached_round {accepts : Nat → Bool} {first stream : Bytes} {exchanges : List PduExchange}
    {talk : Option GatewaySession} {input : RpcInput}
    (reached : InputReached first stream exchanges talk input) :
    (∃ result left, rpcRound accepts input = .done result ∧
      Spoken accepts first stream exchanges talk left result) ∨
    ∃ next exchange later, rpcRound accepts input = .next next ∧
      InputReached first stream (exchanges ++ [exchange]) later next := by
  obtain ⟨state, buf, body⟩ := input
  obtain ⟨cut, tail, rfl, dialogue, follows⟩ := reached
  dsimp only at cut tail follows
  have asked := (dialogue_asAsked dialogue).2
  have alone : buf ++ bodyBytes [] = buf := List.append_nil buf
  rcases RpcPduHeader.parse_cases buf with ⟨header, parsed⟩ | refused
  · have typed : (buf.take header.fragLength.toNat)[2]? = some header.ptype.toU8 := by
      have announced := (RpcPduHeader.parse_sat buf).post parsed
      rw [rpcHeaderSize] at announced
      rw [List.getElem?_take_of_lt (by omega)]
      exact RpcPduHeader.parse_ptype parsed
    have handled : PduHandled accepts first exchanges talk _ _ := handlePdu_handled follows typed
    rw [cutPdus_parsed parsed] at cut tail
    simp only [rpcRound, readPdu_alone parsed]
    revert handled
    generalize handlePdu accepts state header (buf.take header.fragLength.toNat) = result
    intro handled
    cases handled with
    | @answered reply later state answers follows =>
        refine .inr ⟨_, ⟨_, reply⟩, later, rfl, ?_, tail, rfl, dialogue.step answers, follows⟩
        rw [cut, List.map_append, List.append_assoc]
        rfl
    | @offended error state offends sent =>
        exact .inl ⟨_, _, rfl, cut, dialogue, asked, sent, .stopped error rfl (.inl offends)⟩
    | @refused frame later error state answers refuses sent =>
        rw [sent, List.length_cons] at refuses
        exact .inl ⟨_, _, rfl, cut, dialogue, asked, sent,
          .stopped error rfl (.inr ⟨frame, later, answers, refuses⟩)⟩
  · rw [cutPdus_unparsed refused] at cut tail
    by_cases ended : buf = []
    · refine .inl ⟨(.ok (), state), [], ?_, cut, dialogue, asked, follows.sent, ?_⟩
      · simp only [rpcRound, readPdu_ended (alone.trans ended)]
      · exact .complete rfl (tail.trans ended)
    · have more : buf ++ bodyBytes [] ≠ [] := alone.symm ▸ ended
      obtain ⟨error, read⟩ := readPdu_unparsed more (alone.symm ▸ refused)
      refine .inl ⟨(.error error, state), [], ?_, cut, dialogue, asked, follows.sent, ?_⟩
      · simp only [rpcRound, read]
      · exact .trailing error rfl (tail.symm ▸ ended)

/-- No PDU of the stream offends behind the dialogue over the PDUs before it. -/
def Unoffending (stream : Bytes) : Prop :=
  ∀ exchanges talk pdu later, (cutPdus stream).1 = exchanges.map PduExchange.pdu ++ pdu :: later →
    Steps Answers none exchanges talk → ¬ Offends talk pdu

theorem Spoken.ok_iff {accepts : Nat → Bool} {first stream : Bytes} {exchanges : List PduExchange}
    {talk : Option GatewaySession} {left : List Bytes} {result : RpcResult}
    (spoken : Spoken accepts first stream exchanges talk left result)
    (takes : ∀ position, accepts position = true) :
    result.1 = .ok () ↔ (cutPdus stream).2 = [] ∧ Unoffending stream := by
  obtain ⟨cut, dialogue, _, _, verdict⟩ := spoken
  constructor
  · intro ok
    rw [ok] at verdict
    cases verdict with
    | complete none ended =>
        refine ⟨ended, fun others other pdu later split again => ?_⟩
        rw [cut, none, List.append_nil] at split
        obtain ⟨front, back, rfl, same, tail⟩ := List.map_eq_append_iff.mp split
        obtain ⟨exchange, after, rfl, rfl, _⟩ := List.map_eq_cons_iff.mp tail
        obtain ⟨mid, next, earlier, answers⟩ := dialogue.split
        obtain ⟨rfl, rfl⟩ := dialogue_unique earlier again same
        exact fun offends => offends_iff.mp offends _ _ answers
  · intro holds
    obtain ⟨ended, unoffending⟩ := holds
    generalize result.1 = outcome at verdict
    cases verdict with
    | complete => rfl
    | trailing _ _ trailing => exact absurd ended trailing
    | stopped _ next stops =>
        rw [next] at cut
        rcases stops with offends | ⟨_, _, _, refused⟩
        · exact absurd offends (unoffending _ _ _ _ cut dialogue)
        · rw [takes] at refused
          cases refused

theorem loop_spoken (accepts : Nat → Bool) {self vconn : VirtualConnection} {connB1 : ConnB1}
    {connC2 : RtsPdu} (accepted : self.acceptInChannel connB1 = (.ok connC2, vconn)) (stream : Bytes) :
    ∃ exchanges talk left, Spoken accepts connC2.toBytes stream exchanges talk left
      ((rpcLoop accepts).run (.established vconn connC2 stream [])) := by
  have established := (acceptInChannel_ok accepted).2.2
  let Inv (input : RpcInput) : Prop :=
    ∃ exchanges talk, InputReached connC2.toBytes stream exchanges talk input
  let post (result : RpcResult) : Prop :=
    ∃ exchanges talk left, Spoken accepts connC2.toBytes stream exchanges talk left result
  have initial : Inv (.established vconn connC2 stream []) :=
    ⟨[], none, rfl, rfl, rfl, .start, rfl, established, rfl, rfl⟩
  refine Loop.run_invariant Inv post ?_ ?_ initial
  · intro input next reached taken
    obtain ⟨exchanges, talk, reached⟩ := reached
    rw [rpcLoop_round] at taken
    rcases reached_round reached with ⟨_, _, done, _⟩ | ⟨later, exchange, after, goes, reached⟩
    · rw [taken] at done
      cases done
    · rw [taken] at goes
      cases goes
      exact ⟨_, _, reached⟩
  · intro input result reached taken
    obtain ⟨exchanges, talk, reached⟩ := reached
    rw [rpcLoop_round] at taken
    rcases reached_round reached with ⟨_, left, done, spoken⟩ | ⟨_, _, _, goes, _⟩
    · rw [taken] at done
      cases done
      exact ⟨_, _, left, spoken⟩
    · rw [taken] at goes
      cases goes

/-- The dialogue over a stream that is in the buffer behind CONN/B1. A round uses up 16
bytes, so the loop ends; it follows the dialogue over the PDUs of the stream, and stops
where a PDU has no answer or the OUT channel does not take one. -/
theorem rpc_dialogue (accepts : Nat → Bool) {self vconn : VirtualConnection} {connB1 : ConnB1}
    {connC2 : RtsPdu} (accepted : self.acceptInChannel connB1 = (.ok connC2, vconn)) (stream : Bytes) :
    (∀ input next, rpcRound accepts input = .next next →
      next.remaining + rpcHeaderSize ≤ input.remaining) ∧
    (∃ exchanges talk left, Spoken accepts connC2.toBytes stream exchanges talk left
      ((rpcLoop accepts).run (.established vconn connC2 stream []))) ∧
    ((∀ position, accepts position = true) →
      (((rpcLoop accepts).run (.established vconn connC2 stream [])).1 = .ok () ↔
        (cutPdus stream).2 = [] ∧ Unoffending stream)) := by
  have spoken := loop_spoken accepts accepted stream
  refine ⟨fun _ _ => rpcRound_consumes, spoken, ?_⟩
  obtain ⟨_, _, _, followed⟩ := spoken
  exact followed.ok_iff

theorem rpc_dialogue_bind :
    let accepted := (registeredBy sampleA1).acceptInChannel sampleB1
    let result := (rpcLoop fun _ => true).run
      (.established accepted.2 (RtsPdu.connC2 7) sampleBindBytes [])
    (∃ exchanges talk left, Spoken (fun _ => true) (RtsPdu.connC2 7).toBytes sampleBindBytes exchanges
      talk left result) ∧
    (result.1 = .ok () ↔ (cutPdus sampleBindBytes).2 = [] ∧ Unoffending sampleBindBytes) := by
  have accepted : (registeredBy sampleA1).acceptInChannel sampleB1 = (.ok (RtsPdu.connC2 7), _) := rfl
  obtain ⟨_, spoken, ok⟩ := rpc_dialogue (fun _ => true) accepted sampleBindBytes
  exact ⟨spoken, ok fun _ => rfl⟩

end RdGateway.Server
