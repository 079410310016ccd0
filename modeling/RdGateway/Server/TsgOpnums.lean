import RdGateway.Server.RpchDialogue

/-!
# TSG calls over RPC

`process_tsg_opnum` on the session of one connection, over every sequence of calls. Three
calls drive the session through its states, in one order and once each. The others, with
the one that sets up the receive pipe, do not look at it.
-/

set_option autoImplicit false

namespace RdGateway.Server

open Wirekit Proto RdGateway.Core

structure TsgCall where
  opnum : UInt16
  stubData : Bytes
deriving Repr, DecidableEq

abbrev TsgExchange := Exchange GatewaySession TsgCall (Except SessionError Bytes)

def serveCall (session : GatewaySession) (call : TsgCall) : Except SessionError Bytes × GatewaySession :=
  processTsgOpnum call.opnum call.stubData session

/-- TsgCreateTunnel, TsgAuthorizeTunnel and TsgCreateChannel. -/
def tsgLifecycle : List UInt16 := [1, 2, 4]

/-- The calls of the lifecycle that have succeeded. -/
def granted (past : List TsgExchange) : List UInt16 :=
  ((past.filter (·.output.isOk)).map (·.event.opnum)).filter (· ∈ tsgLifecycle)

/-! ## The sessions that are seen between calls -/

inductive Granted : List UInt16 → GatewaySession → Prop where
  | fresh : Granted [] .new
  | tunnelled :
      Granted [1]
        { GatewaySession.new with state := .awaitingTunnelAuth, tunnelId := 1, nextTunnelId := 2 }
  | authorized :
      Granted [1, 2]
        { GatewaySession.new with
          state := .awaitingChannelCreate, tunnelId := 1, nextTunnelId := 2
          clientName := some tsgTunnelAuth.clientName }
  | transferring :
      Granted [1, 2, 4]
        { state := .dataTransfer, tunnelId := 1, channelId := 1
          clientName := some tsgTunnelAuth.clientName, targetHost := some tsgChannelCreate.serverName
          targetPort := some tsgChannelCreate.port, nextTunnelId := 2, nextChannelId := 2 }

theorem Granted.ordered {opnums : List UInt16} {session : GatewaySession} (reached : Granted opnums session) :
    opnums <+: tsgLifecycle := by
  cases reached with
  | fresh => exact List.take_prefix 0 tsgLifecycle
  | tunnelled => exact List.take_prefix 1 tsgLifecycle
  | authorized => exact List.take_prefix 2 tsgLifecycle
  | transferring => exact List.prefix_rfl

theorem Granted.settled {opnums : List UInt16} {session : GatewaySession} (reached : Granted opnums session) :
    session.state ≠ .awaitingTunnelCreate := by
  cases reached <;> exact SessionState.noConfusion

theorem Granted.dataTransfer_iff {opnums : List UInt16} {session : GatewaySession}
    (reached : Granted opnums session) : session.state = .dataTransfer ↔ opnums = tsgLifecycle := by
  cases reached <;> decide

/-- What a call comes to behind the calls that have succeeded. -/
inductive CallMet (opnums : List UInt16) (session : GatewaySession) (opnum : UInt16) :
    Except SessionError Bytes × GatewaySession → Prop where
  | granted {stub : Bytes} {next : GatewaySession} (listed : opnum ∈ tsgLifecycle)
      (reached : Granted (opnums ++ [opnum]) next) : CallMet opnums session opnum (.ok stub, next)
  | refused (error : SessionError) (listed : opnum ∈ tsgLifecycle)
      (early : ¬ opnums ++ [opnum] <+: tsgLifecycle) : CallMet opnums session opnum (.error error, session)
  | answered (unlisted : opnum ∉ tsgLifecycle) :
      CallMet opnums session opnum (.ok (u32Le.put 0), session)

theorem Granted.met {opnums : List UInt16} {session : GatewaySession} (reached : Granted opnums session)
    (call : TsgCall) : CallMet opnums session call.opnum (serveCall session call) := by
  obtain ⟨opnum, stubData⟩ := call
  show CallMet opnums session opnum (processTsgOpnum opnum stubData session)
  by_cases create : opnum = 1
  · subst create
    cases reached with
    | fresh => exact .granted (by decide) .tunnelled
    | tunnelled => exact .refused _ (by decide) (by decide)
    | authorized => exact .refused _ (by decide) (by decide)
    | transferring => exact .refused _ (by decide) (by decide)
  by_cases authorize : opnum = 2
  · subst authorize
    cases reached with
    | tunnelled => exact .granted (by decide) .authorized
    | fresh => exact .refused _ (by decide) (by decide)
    | authorized => exact .refused _ (by decide) (by decide)
    | transferring => exact .refused _ (by decide) (by decide)
  by_cases channel : opnum = 4
  · subst channel
    cases reached with
    | authorized => exact .granted (by decide) .transferring
    | fresh => exact .refused _ (by decide) (by decide)
    | tunnelled => exact .refused _ (by decide) (by decide)
    | transferring => exact .refused _ (by decide) (by decide)
  · have unlisted : opnum ∉ tsgLifecycle := by simp [tsgLifecycle, create, authorize, channel]
    rw [processTsgOpnum, if_neg create, if_neg authorize, if_neg channel]
    exact .answered unlisted

theorem granted_append_singleton (past : List TsgExchange) (session : GatewaySession) (call : TsgCall) :
    granted (past ++ [Exchange.of serveCall session call]) = granted past ++
      if (serveCall session call).1.isOk = true ∧ call.opnum ∈ tsgLifecycle then [call.opnum] else [] := by
  rw [granted, List.filter_append, List.map_append, List.filter_append]
  refine congrArg (granted past ++ ·) ?_
  cases succeeded : (serveCall session call).1.isOk <;>
    by_cases listed : call.opnum ∈ tsgLifecycle <;>
      simp [Exchange.of, succeeded, listed]

theorem granted_step (past : List TsgExchange) (session : GatewaySession) (call : TsgCall)
    (reached : Granted (granted past) session) :
    Granted (granted (past ++ [Exchange.of serveCall session call])) (serveCall session call).2 := by
  have met := reached.met call
  have grown := granted_append_singleton past session call
  generalize serveCall session call = result at met grown ⊢
  cases met with
  | granted listed next =>
      rw [grown, if_pos ⟨rfl, listed⟩]
      exact next
  | refused error listed early =>
      rw [grown, if_neg (fun both => nomatch both.1), List.append_nil]
      exact reached
  | answered unlisted =>
      rw [grown, if_neg (fun both => unlisted both.2), List.append_nil]
      exact reached

/-- The session of a run is fixed by the calls that have succeeded in it. -/
theorem granted_run (calls : List TsgCall) :
    Granted (granted (exchanges serveCall .new calls)) (stateAfter serveCall .new calls) :=
  history_invariant (fun past session => Granted (granted past) session) .fresh granted_step calls

theorem granted_before {calls : List TsgCall} {past later : List TsgExchange} {exchange : TsgExchange}
    (split : exchanges serveCall .new calls = past ++ exchange :: later) :
    Granted (granted past) exchange.before :=
  history_invariant_before (fun past session => Granted (granted past) session) .fresh granted_step split

/-! ## Order and atomicity -/

/-- The ids in a stub of success are those that the session has stored. -/
theorem serveCall_ids {session next : GatewaySession} {call : TsgCall} {stub : Bytes}
    (served : serveCall session call = (.ok stub, next)) :
    (call.opnum = 1 → stub = u32Le.put next.tunnelId ++ u32Le.put 0) ∧
      (call.opnum = 4 → stub = u32Le.put next.channelId ++ u32Le.put 0) := by
  rw [serveCall, processTsgOpnum] at served
  constructor
  · intro create
    rw [if_pos create] at served
    repeat' split at served
    all_goals cases served
    rfl
  · intro channel
    rw [if_neg (by rw [channel]; decide), if_neg (by rw [channel]; decide), if_pos channel] at served
    split at served
    all_goals cases served
    rfl

/-- What one call owes to the calls before it. -/
structure InOrder (past : List TsgExchange) (exchange : TsgExchange) : Prop where
  next : exchange.event.opnum ∈ tsgLifecycle →
    (exchange.output.isOk = true ↔ granted past ++ [exchange.event.opnum] <+: tsgLifecycle)
  failed : ∀ error, exchange.output = .error error → exchange.after = exchange.before
  other : exchange.event.opnum ∉ tsgLifecycle → exchange.after = exchange.before
  settled : exchange.before.state ≠ .awaitingTunnelCreate ∧
    exchange.after.state ≠ .awaitingTunnelCreate
  tunnelId : exchange.event.opnum = 1 → ∀ stub, exchange.output = .ok stub →
    stub = u32Le.put exchange.after.tunnelId ++ u32Le.put 0
  channelId : exchange.event.opnum = 4 → ∀ stub, exchange.output = .ok stub →
    stub = u32Le.put exchange.after.channelId ++ u32Le.put 0

theorem Granted.inOrder {past : List TsgExchange} {session : GatewaySession}
    (reached : Granted (granted past) session) (call : TsgCall) :
    InOrder past (Exchange.of serveCall session call) := by
  have met := reached.met call
  have ids := fun stub next => @serveCall_ids session next call stub
  unfold Exchange.of
  generalize serveCall session call = result at met ids
  cases met with
  | @granted stub next listed later =>
      have named := ids _ _ rfl
      constructor
      · exact fun _ => iff_of_true rfl later.ordered
      · exact fun error failed => nomatch failed
      · exact fun unlisted => absurd listed unlisted
      · exact ⟨reached.settled, later.settled⟩
      · intro create _ succeeded
        cases succeeded
        exact named.1 create
      · intro channel _ succeeded
        cases succeeded
        exact named.2 channel
  | refused error listed early =>
      constructor
      · exact fun _ => iff_of_false Bool.false_ne_true early
      · exact fun _ _ => rfl
      · exact fun _ => rfl
      · exact ⟨reached.settled, reached.settled⟩
      · exact fun _ stub succeeded => nomatch succeeded
      · exact fun _ stub succeeded => nomatch succeeded
  | answered unlisted =>
      constructor
      · exact fun listed => absurd listed unlisted
      · exact fun _ _ => rfl
      · exact fun _ => rfl
      · exact ⟨reached.settled, reached.settled⟩
      · exact fun create => absurd (create ▸ by decide) unlisted
      · exact fun channel => absurd (channel ▸ by decide) unlisted

/-- The lifecycle calls succeed in order and once each, and every call is all or nothing. -/
theorem tsg_calls_in_order (calls : List TsgCall) :
    (granted (exchanges serveCall .new calls)).Nodup ∧
      ∀ past exchange later, exchanges serveCall .new calls = past ++ exchange :: later →
        InOrder past exchange := by
  constructor
  · exact (granted_run calls).ordered.sublist.nodup (by decide)
  · intro past exchange later split
    obtain ⟨earlier, _, taken⟩ := exchanges_split split
    have ordered := (granted_before split).inOrder exchange.event
    rw [taken] at ordered ⊢
    exact ordered

/-! ## Calls on a connection -/

/-- A call that fails gets no answer, and ends the connection. -/
def answerCall (talk : Option GatewaySession) (call : TsgCall) : Option Bytes × Option GatewaySession :=
  match talk with
  | none => (none, none)
  | some session =>
      match serveCall session call with
      | (.ok stub, next) => (some stub, some next)
      | (.error _, _) => (none, none)

/-- The calls of the lifecycle, in the order in which they come. -/
def lifecycleCalls (calls : List TsgCall) : List UInt16 :=
  (calls.map TsgCall.opnum).filter (· ∈ tsgLifecycle)

/-- The call in a Request that is answered. -/
def answeredCall (exchange : PduExchange) : Option TsgCall :=
  match exchange.reply, RequestPdu.parse exchange.pdu with
  | some _, .ok request => some { opnum := request.opnum, stubData := request.stubData }
  | _, _ => none

theorem answerCall_open {session : GatewaySession} {call : TsgCall} {stub : Bytes} {next : GatewaySession}
    (served : serveCall session call = (.ok stub, next)) : answerCall (some session) call = (some stub, some next) := by
  simp only [answerCall, served]

theorem answerCall_failed {session : GatewaySession} {call : TsgCall} {error : SessionError} {next : GatewaySession}
    (served : serveCall session call = (.error error, next)) : answerCall (some session) call = (none, none) := by
  simp only [answerCall, served]

theorem Answers.call_step {talk later : Option GatewaySession} {exchange : PduExchange}
    (answers : Answers talk exchange later) :
    stateAfter answerCall (some (talk.getD .new)) (answeredCall exchange).toList = some (later.getD .new) := by
  cases answers with
  | ignored noBind unasked => rfl
  | @bind pdu bind isBind parsed tsg =>
      cases asked : RequestPdu.parse pdu with
      | err error =>
          simp only [answeredCall, asked, Option.toList_none]
          rfl
      | panicked =>
          simp only [answeredCall, asked, Option.toList_none]
          rfl
      | ok request => exact absurd (RequestPdu.parse_ptype asked) isBind.not_request
  | @request session next pdu stub request isRequest parsed served =>
      simp only [answeredCall, parsed, Option.toList_some, stateAfter, Option.getD_some]
      exact congrArg Prod.snd (@answerCall_open session ⟨request.opnum, request.stubData⟩ stub next served)

/-- The PDUs that a connection has answered hold a run of calls, at whose end it is open. -/
theorem dialogue_calls {talk : Option GatewaySession} {exchanges : List PduExchange}
    (dialogue : Steps Answers none exchanges talk) :
    stateAfter answerCall (some .new) (exchanges.filterMap answeredCall) = some (talk.getD .new) := by
  induction dialogue with
  | start => rfl
  | step dialogue answers ih =>
      rw [filterMap_append_singleton, stateAfter_append, ih]
      exact answers.call_step

/-! ## The receive pipe -/

/-- A connection is open behind the beginning of the lifecycle, whatever else was asked for. -/
inductive Standing (asked : List UInt16) : Option GatewaySession → Prop where
  | opened {session : GatewaySession} (reached : Granted asked session) : Standing asked (some session)
  | ended (disordered : ¬ asked <+: tsgLifecycle) : Standing asked none

theorem Standing.step {asked : List UInt16} {talk : Option GatewaySession} (standing : Standing asked talk)
    (call : TsgCall) :
    Standing (asked ++ if call.opnum ∈ tsgLifecycle then [call.opnum] else []) (answerCall talk call).2 := by
  cases standing with
  | ended disordered => exact .ended fun ordered => disordered ((List.prefix_append _ _).trans ordered)
  | @opened session reached =>
      have met := reached.met call
      cases served : serveCall session call with
      | mk result next =>
          rw [served] at met
          cases met with
          | granted listed later =>
              rw [answerCall_open served, if_pos listed]
              exact .opened later
          | refused error listed early =>
              rw [answerCall_failed served, if_pos listed]
              exact .ended early
          | answered unlisted =>
              rw [answerCall_open served, if_neg unlisted, List.append_nil]
              exact .opened reached

theorem standing_run (calls : List TsgCall) :
    Standing (lifecycleCalls calls) (stateAfter answerCall (some .new) calls) := by
  induction calls using List.reverseRecOn with
  | nil => exact .opened .fresh
  | append_singleton calls call ih =>
      have grown : lifecycleCalls (calls ++ [call]) =
          lifecycleCalls calls ++ if call.opnum ∈ tsgLifecycle then [call.opnum] else [] := by
        rw [lifecycleCalls, List.map_append, List.filter_append, List.map_singleton, List.filter_singleton]
        by_cases listed : call.opnum ∈ tsgLifecycle
        · rw [if_pos listed, decide_eq_true listed]
          rfl
        · rw [if_neg listed, decide_eq_false listed]
          rfl
      rw [grown, stateAfter_append]
      exact ih.step call

/-- The PDU loop is in DataTransfer exactly if it has answered the three calls of the lifecycle. -/
theorem dialogue_dataTransfer_iff {session : GatewaySession} {exchanges : List PduExchange}
    (dialogue : Steps Answers none exchanges (some session)) :
    session.state = .dataTransfer ↔ lifecycleCalls (exchanges.filterMap answeredCall) = tsgLifecycle := by
  have standing := standing_run (exchanges.filterMap answeredCall)
  rw [dialogue_calls dialogue, Option.getD_some] at standing
  cases standing with
  | opened reached => exact reached.dataTransfer_iff

/-- On a connection that is open every call so far was answered. -/
theorem answered_of_open {calls : List TsgCall} {session : GatewaySession}
    (opened : stateAfter answerCall (some .new) calls = some session) :
    ∀ exchange ∈ exchanges answerCall (some .new) calls, exchange.output.isSome = true := by
  induction calls using List.reverseRecOn generalizing session with
  | nil => exact List.forall_mem_nil _
  | append_singleton calls call ih =>
      rw [stateAfter_append] at opened
      have last : (answerCall (stateAfter answerCall (some .new) calls) call).2 = some session := opened
      rw [exchanges_append, List.forall_mem_append]
      cases before : stateAfter answerCall (some .new) calls with
      | none =>
          rw [before] at last
          cases last
      | some earlier =>
          rw [before] at last
          refine ⟨ih before, List.forall_mem_singleton.mpr ?_⟩
          rcases served : serveCall earlier call with ⟨result, next⟩
          cases result with
          | ok stub => exact congrArg (fun answer => answer.1.isSome) (answerCall_open served)
          | error error =>
              rw [answerCall_failed served] at last
              cases last

/-- A receive pipe is set up only behind a tunnel, its authorization and a channel. -/
def OpensOnChannel (past : List (Exchange (Option GatewaySession) TsgCall (Option Bytes)))
    (exchange : Exchange (Option GatewaySession) TsgCall (Option Bytes)) : Prop :=
  exchange.event.opnum = 9 → exchange.output = some (u32Le.put 0) →
    (∀ opnum ∈ tsgLifecycle, ∃ earlier ∈ past, earlier.event.opnum = opnum ∧ earlier.output.isSome = true) ∧
      ∃ session, exchange.before = some session ∧ session.state = .dataTransfer

theorem opensOnChannel_round (calls : List TsgCall) (call : TsgCall) :
    OpensOnChannel (exchanges answerCall (some .new) calls)
        (.of answerCall (stateAfter answerCall (some .new) calls) call) ↔
      (call.opnum = 9 → lifecycleCalls calls <+: tsgLifecycle → lifecycleCalls calls = tsgLifecycle) := by
  refine forall_congr' fun receive => ?_
  have standing := standing_run calls
  have answered := @answered_of_open calls
  cases talk : stateAfter answerCall (some .new) calls with
  | none =>
      rw [talk] at standing
      cases standing with
      | ended disordered => exact iff_of_true (fun given => by cases given) fun ordered => absurd ordered disordered
  | some session =>
      rw [talk] at standing
      cases standing with
      | opened reached =>
          have asked : call.opnum = 9 := receive
          have given : (answerCall (some session) call).1 = some (u32Le.put 0) := by
            rw [answerCall, serveCall, asked]
            rfl
          constructor
          · intro opens _
            obtain ⟨_, _, same, transferring⟩ := opens given
            cases same
            exact reached.dataTransfer_iff.mp transferring
          · intro complete _
            have whole := complete reached.ordered
            refine ⟨fun opnum listed => ?_, session, rfl, reached.dataTransfer_iff.mpr whole⟩
            rw [← whole, lifecycleCalls, List.mem_filter, ← exchanges_events (some GatewaySession.new) calls,
              List.map_map] at listed
            obtain ⟨earlier, member, same⟩ := List.mem_map.mp listed.1
            exact ⟨earlier, member, same, answered talk earlier member⟩

/-- The receive pipe opens on a created channel only, exactly if in front of each request for it
the lifecycle calls are complete, or out of order, so that the connection has ended. -/
theorem receive_pipe_iff (calls : List TsgCall) :
    (∀ past exchange later, exchanges answerCall (some .new) calls = past ++ exchange :: later →
      OpensOnChannel past exchange) ↔
    ∀ before call after, calls = before ++ call :: after → call.opnum = 9 →
      lifecycleCalls before <+: tsgLifecycle → lifecycleCalls before = tsgLifecycle := by
  constructor
  · rintro guarded before call after rfl
    let talk := stateAfter answerCall (some .new) before
    refine (opensOnChannel_round before call).mp
      (guarded _ _ (exchanges answerCall (answerCall talk call).2 after) ?_)
    rw [exchanges_append]
    rfl
  · intro complete past exchange later split
    obtain ⟨before, rest, rfl, rfl, back⟩ := exchanges_eq_append split
    obtain ⟨call, after, rfl, rfl, _⟩ := exchanges_eq_cons back.symm
    exact (opensOnChannel_round before call).mpr (complete before call after rfl)

theorem receive_pipe_unguarded :
    ¬ ∀ calls past exchange later, exchanges answerCall (some .new) calls = past ++ exchange :: later →
      OpensOnChannel past exchange := by
  intro guarded
  have opens := guarded [⟨9, []⟩] [] _ [] rfl rfl rfl
  obtain ⟨_, member, _⟩ := opens.1 1 (by decide)
  cases member

end RdGateway.Server
