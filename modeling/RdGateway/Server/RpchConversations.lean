import RdGateway.Proto.RpcEncoding
import RdGateway.Server.RpchControlPdus
import RdGateway.Server.RpchHolding
import RdGateway.Wirekit.Delimited

/-!
# Every OUT body is a dialogue

Whatever requests run beside it, and however the frames of the bodies are cut: what an OUT
channel gets is its CONN/C2 and the answers to the PDUs of one IN request, which answers no
other OUT channel. Its client can cut the body into these PDUs again.
-/

set_option autoImplicit false

namespace RdGateway.Server

open Wirekit Proto RdGateway.Core

/-! ## PDUs in the OUT body -/

/-- The length that the PDU at the front of a stream announces. RTS PDUs have it in the same place. -/
def fragmentLength (stream : Bytes) : Nat := (u16Le.decode ((stream.drop 8).take 2)).toNat

theorem CompletePdu.announcesItself {pdu : Bytes} (complete : CompletePdu pdu) :
    AnnouncesItself fragmentLength pdu := by
  obtain ⟨long, announced⟩ := complete
  rw [rpcHeaderSize] at long
  constructor
  case nonempty =>
    intro empty
    rw [empty] at long
    cases long
  case length =>
    intro rest
    rw [fragmentLength, List.drop_append_of_le_length (by omega),
      List.take_append_of_le_length (by rw [List.length_drop]; omega), announced]

theorem RtsPdu.toBytes_complete {pdu : RtsPdu} (small : pdu.totalLen ≤ 65535) : CompletePdu pdu.toBytes := by
  have announced := u16Le.decode_at (u8.put pdu.rpcVersion ++ u8.put pdu.rpcVersionMinor ++ u8.put pdu.ptype ++
    u8.put pdu.pfcFlags ++ (byteArray 4).put pdu.packedDrep) (show _ = 8 by simp) (UInt16.ofNat pdu.totalLen)
    (u16Le.put pdu.authLength ++ u32Le.put pdu.callId ++ u16Le.put pdu.flags ++
      u16Le.put (UInt16.ofNat pdu.commands.length) ++ pdu.commands.flatMap RtsCommand.writeTo)
  simp only [← List.append_assoc] at announced
  have long : rtsHeaderLen ≤ pdu.totalLen := Nat.le_add_right _ _
  rw [rtsHeaderLen] at long
  constructor
  · rw [pdu.toBytes_length, rpcHeaderSize]
    omega
  · rw [pdu.toBytes_length]
    refine (congrArg UInt16.toNat announced).trans ?_
    rw [UInt16.toNat_ofNat', Nat.mod_eq_of_lt (by omega)]

theorem connC2_complete (callId : UInt32) : CompletePdu (RtsPdu.connC2 callId).toBytes :=
  RtsPdu.toBytes_complete (Nat.le_of_ble_eq_true rfl)

theorem RpcPduHeader.sent_complete {header : RpcPduHeader} {bytes rest : Bytes}
    (version : header.rpcVers = rpcVersion) (versionMinor : header.rpcVersMinor = rpcVersionMinor)
    (small : bytes.length ≤ 65535) (split : bytes = (header.sent bytes.length).write ++ rest) :
    CompletePdu bytes := by
  obtain ⟨parsed, size⟩ := RpcPduHeader.sent_parse version versionMinor small split
  have announced := (RpcPduHeader.parse_sat bytes).post parsed
  refine ⟨Nat.le_trans announced.1 announced.2, ?_⟩
  rw [← RpcPduHeader.parse_fragLength parsed, size]

theorem bindAck_complete (callId assocGroupId : UInt32) :
    CompletePdu (BindAckPdu.accepted callId assocGroupId secondaryAddress).encode := by
  refine RpcPduHeader.sent_complete rfl rfl ?_ (BindAckPdu.encode_split _)
  rw [BindAckPdu.encode_length]
  exact Nat.le_of_ble_eq_true rfl

/-- A stub of an answer has at most three words. -/
theorem processTsgOpnum_stub {opnum : UInt16} {stub reply : Bytes} {session next : GatewaySession}
    (served : processTsgOpnum opnum stub session = (.ok reply, next)) : reply.length ≤ 12 := by
  unfold processTsgOpnum at served
  split at served
  · split at served
    · cases served
    · split at served
      · cases served
      · cases served
        exact Nat.le_of_ble_eq_true rfl
  · split at served
    · split at served
      · cases served
      · cases served
        exact Nat.le_of_ble_eq_true rfl
    · split at served
      · split at served
        · cases served
        · cases served
          exact Nat.le_of_ble_eq_true rfl
      · cases served
        exact Nat.le_of_ble_eq_true rfl

theorem response_complete (callId : UInt32) (contextId : UInt16) {stub : Bytes} (small : stub.length ≤ 12) :
    CompletePdu (ResponsePdu.new callId contextId stub).encode := by
  refine RpcPduHeader.sent_complete rfl rfl ?_ (ResponsePdu.encode_split _)
  rw [ResponsePdu.encode_length]
  change 24 + stub.length ≤ 65535
  omega

theorem Answers.complete {talk later : Option GatewaySession} {exchange : PduExchange}
    (answers : Answers talk exchange later) : ∀ frame ∈ exchange.reply.toList, CompletePdu frame := by
  cases answers with
  | ignored noBind unasked => exact List.forall_mem_nil _
  | bind isBind parsed tsg => exact List.forall_mem_singleton.mpr (bindAck_complete _ _)
  | request isRequest parsed served =>
      exact List.forall_mem_singleton.mpr (response_complete _ _ (processTsgOpnum_stub served))

theorem replies_complete {exchanges : List PduExchange} {talk : Option GatewaySession}
    (dialogue : Steps Answers none exchanges talk) :
    ∀ frame ∈ exchanges.filterMap PduExchange.reply, CompletePdu frame := by
  induction dialogue with
  | start => exact List.forall_mem_nil _
  | step dialogue answers ih =>
      rw [filterMap_append_singleton]
      exact List.forall_mem_append.mpr ⟨ih, answers.complete⟩

/-! ## One round -/

/-- What is left of the IN stream. -/
def RpcInput.stream (input : RpcInput) : Bytes := input.buf ++ bodyBytes input.body

theorem readPdu_none {buf : Bytes} {body : List BodyFrame} (read : readPdu buf body = .ok none) :
    buf ++ bodyBytes body = [] := by
  unfold readPdu at read
  split at read
  · next filled ended =>
    split at read
    · next empty =>
      rw [← (fill_ended ended).2]
      exact List.isEmpty_iff.mp empty
    · cases read
  · split at read
    · cases read
    · cases read
    · dsimp only at read
      split at read <;> cases read

/-- A round behind this dialogue either has one exchange more, or it is the last one. -/
inductive RoundTold (first : Bytes) (exchanges : List PduExchange) (talk : Option GatewaySession)
    (stream : Bytes) : Round RpcInput RpcResult → Prop where
  | answered {exchange : PduExchange} {later : Option GatewaySession} {next : RpcInput}
      (answers : Answers talk exchange later) (follows : Follows first (exchanges ++ [exchange]) later next.state)
      (taken : exchange.pdu ++ next.stream = stream) : RoundTold first exchanges talk stream (.next next)
  | ended {state : RpcState} (sent : state.sent = first :: exchanges.filterMap PduExchange.reply)
      (complete : stream = []) : RoundTold first exchanges talk stream (.done (.ok (), state))
  | failed {error : RpcProcessError} {state : RpcState}
      (sent : state.sent = first :: exchanges.filterMap PduExchange.reply) :
      RoundTold first exchanges talk stream (.done (.error error, state))

theorem rpcRound_told (accepts : Nat → Bool) {first : Bytes} {exchanges : List PduExchange}
    {talk : Option GatewaySession} {input : RpcInput} (follows : Follows first exchanges talk input.state) :
    RoundTold first exchanges talk input.stream (rpcRound accepts input) := by
  unfold rpcRound
  cases read : readPdu input.buf input.body with
  | error error => exact .failed follows.sent
  | ok found =>
      cases found with
      | none => exact .ended follows.sent (readPdu_none read)
      | some pdu =>
          have typed := RpcPduHeader.parse_ptype (readPdu_parsed read).2.1
          have handled : PduHandled accepts first exchanges talk _ _ := handlePdu_handled follows typed
          dsimp only
          revert handled
          generalize handlePdu accepts input.state pdu.header pdu.pduData = result
          intro handled
          cases handled with
          | answered answers follows => exact .answered answers follows (readPdu_some read).2.2
          | offended offends sent => exact .failed sent
          | refused answers refuses sent => exact .failed sent

/-- The frames of a round are what makes up the sent frames behind it. -/
theorem sent_roundFrames (accepts : Nat → Bool) (input : RpcInput) :
    input.state.sent ++ roundFrames input (rpcRound accepts input) = (roundState (rpcRound accepts input)).sent := by
  obtain ⟨frames, sent, _⟩ := rpcRound_extends accepts input
  rw [roundFrames, sent, List.drop_left]

/-! ## One IN request for each OUT channel -/

/-- The request has sent its CONN/C2 to this sender. -/
def InChannel.Past (sender : SenderId) : InChannel → Prop
  | .streaming _ holder _ => holder = sender
  | .closed _ => True
  | _ => False

structure Coupled (labels : List Action) (ch : Channels) : Prop where
  past : ∀ thread connB1 sender, Action.sendC2 thread connB1 sender true ∈ labels →
    ch.log sender ≠ [] ∧ ∃ phase, ch.ins thread = some phase ∧ phase.Past sender
  alone : ∀ thread other connB1 otherB1 sender second, Action.sendC2 thread connB1 sender true ∈ labels →
    Action.sendC2 other otherB1 second true ∈ labels → (thread = other ↔ sender = second)

namespace Coupled

variable {labels : List Action} {ch : Channels}

theorem init : Coupled [] Channels.init :=
  ⟨fun _ _ _ member => absurd member List.not_mem_nil, fun _ _ _ _ _ _ member => absurd member List.not_mem_nil⟩

theorem of_label {label : Action} {thread : ThreadId} {connB1 : ConnB1} {sender : SenderId}
    (other : ∀ thread connB1 sender, label ≠ .sendC2 thread connB1 sender true)
    (member : Action.sendC2 thread connB1 sender true ∈ labels ++ [label]) :
    Action.sendC2 thread connB1 sender true ∈ labels := by
  rcases List.mem_append.mp member with old | new
  · exact old
  · exact absurd (List.mem_singleton.mp new).symm (other _ _ _)

/-- A step that sends no CONN/C2. -/
theorem kept (coupled : Coupled labels ch) {label : Action} {next : Channels}
    (other : ∀ thread connB1 sender, label ≠ .sendC2 thread connB1 sender true)
    (logs : ∀ sender, ch.log sender ≠ [] → next.log sender ≠ [])
    (phases : ∀ thread phase sender, ch.ins thread = some phase → phase.Past sender →
      ∃ later, next.ins thread = some later ∧ later.Past sender) : Coupled (labels ++ [label]) next := by
  constructor
  case past =>
    intro thread connB1 sender member
    obtain ⟨started, phase, present, isPast⟩ := coupled.past thread connB1 sender (of_label other member)
    exact ⟨logs sender started, phases thread phase sender present isPast⟩
  case alone =>
    intro thread second connB1 secondB1 sender taker member memberToo
    exact coupled.alone thread second connB1 secondB1 sender taker (of_label other member)
      (of_label other memberToo)

theorem moved {ins : Store ThreadId InChannel} {actor : ThreadId} {phase : InChannel}
    (moves : ∀ before sender, ins actor = some before → before.Past sender → phase.Past sender)
    (thread : ThreadId) (before : InChannel) (sender : SenderId) (present : ins thread = some before)
    (isPast : before.Past sender) :
    ∃ later, ins.insert actor phase thread = some later ∧ later.Past sender := by
  by_cases same : thread = actor
  · subst same
    exact ⟨phase, Store.insert_self _ _ _, moves before sender present isPast⟩
  · exact ⟨before, by rw [Store.insert_of_ne same, present], isPast⟩

theorem pushed_ne_nil (sender : SenderId) (frames : List Bytes) (other : SenderId)
    (started : ch.log other ≠ []) : pushFrames ch.log sender frames other ≠ [] := by
  by_cases same : other = sender
  · subst same
    rw [pushFrames_self]
    exact fun empty => started (List.append_eq_nil_iff.mp empty).1
  · rw [pushFrames_of_ne _ same]
    exact started

theorem sends (coupled : Coupled labels ch) (paired : Paired labels ch) {thread : ThreadId} {connB1 : ConnB1}
    {sender : SenderId} {connC2 : RtsPdu} {vconn : VirtualConnection} {buf : Bytes} {body : List BodyFrame}
    (ready : ch.ins thread = some (.answering connB1 sender connC2 vconn buf body)) :
    Coupled (labels ++ [.sendC2 thread connB1 sender true])
      { ch with
        log := pushFrames ch.log sender [connC2.toBytes]
        ins := ch.ins.insert thread (.streaming connB1 sender (.established vconn connC2 buf body)) } := by
  obtain ⟨connA1, _, _, _, silent⟩ := paired.phases _ _ ready
  have threadFresh (otherB1 : ConnB1) (other : SenderId) :
      Action.sendC2 thread otherB1 other true ∉ labels := by
    intro member
    obtain ⟨_, phase, present, isPast⟩ := coupled.past _ _ _ member
    rw [ready] at present
    cases present
    exact isPast
  have senderFresh (other : ThreadId) (otherB1 : ConnB1) :
      Action.sendC2 other otherB1 sender true ∉ labels :=
    fun member => (coupled.past _ _ _ member).1 silent
  constructor
  case past =>
    intro other otherB1 second member
    rcases List.mem_append.mp member with old | new
    · obtain ⟨started, phase, present, isPast⟩ := coupled.past _ _ _ old
      refine ⟨pushed_ne_nil _ _ _ started, moved ?_ other phase second present isPast⟩
      intro before taker found isPast
      cases ready.symm.trans found
      exact isPast.elim
    · cases List.mem_singleton.mp new
      refine ⟨?_, _, Store.insert_self _ _ _, rfl⟩
      change pushFrames ch.log sender _ sender ≠ []
      rw [pushFrames_self]
      exact List.append_ne_nil_of_right_ne_nil _ (List.cons_ne_nil _ _)
  case alone =>
    intro first second firstB1 secondB1 sender taker firstMember secondMember
    rcases List.mem_append.mp firstMember with firstOld | firstNew
    · rcases List.mem_append.mp secondMember with secondOld | secondNew
      · exact coupled.alone _ _ _ _ _ _ firstOld secondOld
      · cases List.mem_singleton.mp secondNew
        refine iff_of_false (fun same => ?_) fun same => ?_
        · exact threadFresh _ _ (same ▸ firstOld)
        · exact senderFresh _ _ (same ▸ firstOld)
    · cases List.mem_singleton.mp firstNew
      rcases List.mem_append.mp secondMember with secondOld | secondNew
      · refine iff_of_false (fun same => ?_) fun same => ?_
        · exact threadFresh _ _ (same.symm ▸ secondOld)
        · exact senderFresh _ _ (same.symm ▸ secondOld)
      · cases List.mem_singleton.mp secondNew
        exact iff_of_true rfl rfl

theorem step (coupled : Coupled labels ch) (paired : Paired labels ch) {label : Action} {next : Channels}
    (taken : Step ch label next) : Coupled (labels ++ [label]) next := by
  have same : ∀ thread phase sender, ch.ins thread = some phase → phase.Past sender →
      ∃ later, ch.ins thread = some later ∧ later.Past sender :=
    fun _ phase _ present isPast => ⟨phase, present, isPast⟩
  cases taken with
  | outRequest unused body =>
      exact coupled.kept (fun _ _ _ => Action.noConfusion) (fun _ started => started) same
  | insert ready => exact coupled.kept (fun _ _ _ => Action.noConfusion) (fun _ started => started) same
  | inRequest unused body =>
      refine coupled.kept (fun _ _ _ => Action.noConfusion) (fun _ started => started) (moved ?_)
      intro before sender present
      cases unused.symm.trans present
  | remove ready =>
      refine coupled.kept (fun _ _ _ => Action.noConfusion) (fun _ started => started) (moved ?_)
      intro before sender present isPast
      cases ready.symm.trans present
      exact isPast.elim
  | accept ready =>
      refine coupled.kept (fun _ _ _ => Action.noConfusion) (fun _ started => started) (moved ?_)
      intro before sender present isPast
      cases ready.symm.trans present
      exact isPast.elim
  | sendTaken ready => exact coupled.sends paired ready
  | sendLost ready =>
      refine coupled.kept (fun _ _ _ lost => ?_) (fun _ started => started) (moved fun _ _ _ _ => trivial)
      cases lost
  | @round thread connB1 sender input ready accepts =>
      refine coupled.kept (fun _ _ _ => Action.noConfusion) (pushed_ne_nil _ _) (moved ?_)
      intro before holder present isPast
      cases ready.symm.trans present
      cases rpcRound accepts input with
      | next => exact isPast
      | done result =>
          obtain ⟨result, state⟩ := result
          cases result <;> trivial

end Coupled

theorem coupled_of_run {labels : List Action} {ch : Channels} (run : Steps Step Channels.init labels ch) :
    Coupled labels ch := by
  induction run with
  | start => exact .init
  | step run taken ih => exact ih.step (paired_of_run run) taken

/-! ## Conversations -/

/-- A step in which an IN request comes with its own one of these bodies. -/
def StepWith (bodies : ThreadId → List BodyFrame) (ch : Channels) (label : Action) (next : Channels) : Prop :=
  Step ch label next ∧
    ∀ thread, label = .inRequest thread → next.ins thread = some (.start (readConnB1 (bodies thread)))

/-- The body of the IN request is this CONN/B1 and this stream. -/
def Arrives (bodies : ThreadId → List BodyFrame) (thread : ThreadId) (connB1 : ConnB1) (stream : Bytes) : Prop :=
  ∃ fragLength, frontConnB1 (bodyBytes (bodies thread)) = .ok (connB1, fragLength) ∧
    stream = (bodyBytes (bodies thread)).drop fragLength

/-- What an IN request and an OUT channel say, and the bytes of the IN stream behind it. -/
structure Conversation where
  thread : ThreadId
  connA1 : ConnA1
  connB1 : ConnB1
  exchanges : List PduExchange
  talk : Option GatewaySession
  left : Bytes

def Conversation.first (said : Conversation) : Bytes := (RtsPdu.connC2 said.connA1.callId).toBytes

structure Conversation.Heard (said : Conversation) (bodies : ThreadId → List BodyFrame) (labels : List Action)
    (ch : Channels) (sender : SenderId) : Prop where
  registered : ch.outs sender = some (.registered said.connA1)
  caused : Action.sendC2 said.thread said.connB1 sender true ∈ labels
  cookies : said.connA1.virtualConnectionCookie = said.connB1.virtualConnectionCookie
  arrives : Arrives bodies said.thread said.connB1
    ((said.exchanges.map PduExchange.pdu).flatten ++ said.left)
  dialogue : Steps Answers none said.exchanges said.talk
  log : ch.log sender = said.first :: said.exchanges.filterMap PduExchange.reply

section Conversing

variable {bodies : ThreadId → List BodyFrame} {labels : List Action} {ch : Channels}

theorem Conversation.Heard.later {said : Conversation} {sender : SenderId}
    (heard : said.Heard bodies labels ch sender) (label : Action) {next : Channels}
    (kept : ∀ connA1, ch.outs sender = some (.registered connA1) → next.outs sender = some (.registered connA1))
    (same : next.log sender = ch.log sender) : said.Heard bodies (labels ++ [label]) next sender where
  registered := kept _ heard.registered
  caused := List.mem_append_left _ heard.caused
  cookies := heard.cookies
  arrives := heard.arrives
  dialogue := heard.dialogue
  log := same.trans heard.log

/-- The request goes on, and what its sender took is the same. -/
theorem Conversation.Heard.relogged {said : Conversation} {sender : SenderId}
    (heard : said.Heard bodies labels ch sender) (label : Action) {log : SenderId → List Bytes}
    {ins : Store ThreadId InChannel} (spelled : log sender = said.first :: said.exchanges.filterMap PduExchange.reply) :
    said.Heard bodies (labels ++ [label]) { ch with log, ins } sender :=
  { heard.later label (fun _ registered => registered) rfl with log := spelled }

def PhaseTold (bodies : ThreadId → List BodyFrame) (labels : List Action) (ch : Channels) (thread : ThreadId) :
    InChannel → Prop
  | .waiting connB1 buf body => Arrives bodies thread connB1 (buf ++ bodyBytes body)
  | .matched connB1 _ buf body => Arrives bodies thread connB1 (buf ++ bodyBytes body)
  | .answering connB1 _ _ vconn buf body =>
      Arrives bodies thread connB1 (buf ++ bodyBytes body) ∧ vconn.state = .connectionEstablished
  | .streaming connB1 sender input => ∃ said : Conversation, said.Heard bodies labels ch sender ∧
      said.thread = thread ∧ said.connB1 = connB1 ∧ said.left = input.stream ∧
      Follows said.first said.exchanges said.talk input.state
  | .closed _ => True

theorem PhaseTold.later {thread : ThreadId} {phase : InChannel} (told : PhaseTold bodies labels ch thread phase)
    (label : Action) {next : Channels}
    (kept : ∀ sender connA1, ch.outs sender = some (.registered connA1) →
      next.outs sender = some (.registered connA1))
    (same : ∀ sender, phase.sender = some sender → next.log sender = ch.log sender) :
    PhaseTold bodies (labels ++ [label]) next thread phase := by
  cases phase with
  | waiting => exact told
  | matched => exact told
  | answering => exact told
  | streaming connB1 sender input =>
      obtain ⟨said, heard, rest⟩ := told
      exact ⟨said, heard.later label (kept sender) (same sender rfl), rest⟩
  | closed => trivial

structure Conversing (bodies : ThreadId → List BodyFrame) (labels : List Action) (ch : Channels) : Prop where
  phases : ∀ thread phase, ch.ins thread = some phase → PhaseTold bodies labels ch thread phase
  logs : ∀ sender, ch.log sender ≠ [] → ∃ said : Conversation, said.Heard bodies labels ch sender ∧
    (ch.ins said.thread = some (.closed .ok) → said.left = [])

namespace Conversing

theorem init : Conversing bodies [] Channels.init where
  phases _ _ present := nomatch present
  logs _ started := absurd rfl started

/-- OUT requests keep what the IN requests said. -/
theorem out_moves (conversing : Conversing bodies labels ch) (label : Action) {next : Channels}
    (ins : next.ins = ch.ins) (log : next.log = ch.log)
    (kept : ∀ sender connA1, ch.outs sender = some (.registered connA1) →
      next.outs sender = some (.registered connA1)) : Conversing bodies (labels ++ [label]) next := by
  constructor
  case phases =>
    intro thread phase present
    rw [ins] at present
    exact (conversing.phases thread phase present).later label kept fun sender _ => congrFun log sender
  case logs =>
    intro sender started
    rw [log] at started
    obtain ⟨said, heard, complete⟩ := conversing.logs sender started
    rw [ins]
    exact ⟨said, heard.later label (kept sender) (congrFun log sender), complete⟩

/-- An IN request moves on without a frame for its sender. -/
theorem in_moves (conversing : Conversing bodies labels ch) (label : Action) {pending : PendingMap}
    {thread : ThreadId} {phase : InChannel}
    (told : PhaseTold bodies (labels ++ [label]) { ch with pending, ins := ch.ins.insert thread phase } thread phase)
    (unfinished : phase ≠ .closed .ok) :
    Conversing bodies (labels ++ [label]) { ch with pending, ins := ch.ins.insert thread phase } := by
  constructor
  case phases =>
    intro other found present
    rcases Store.insert_eq_some present with ⟨rfl, rfl⟩ | ⟨_, earlier⟩
    · exact told
    · exact (conversing.phases other found earlier).later label (fun _ _ registered => registered) fun _ _ => rfl
  case logs =>
    intro sender started
    obtain ⟨said, heard, complete⟩ := conversing.logs sender started
    refine ⟨said, heard.later label (fun _ registered => registered) rfl, fun finished => ?_⟩
    rcases Store.insert_eq_some finished with ⟨_, same⟩ | ⟨_, earlier⟩
    · exact absurd same.symm unfinished
    · exact complete earlier

/-- An IN request lets its sender take frames. -/
theorem in_speaks (conversing : Conversing bodies labels ch) (paired : Paired labels ch) (label : Action)
    {thread : ThreadId} {sender : SenderId} {phase : InChannel} {frames : List Bytes}
    (held : Holds ch.ins thread sender)
    (alone : ∀ connB1 other, Action.sendC2 thread connB1 other true ∈ labels → other = sender)
    (told : PhaseTold bodies (labels ++ [label])
      { ch with log := pushFrames ch.log sender frames, ins := ch.ins.insert thread phase } thread phase)
    (spoken : ∃ said : Conversation, said.Heard bodies (labels ++ [label])
      { ch with log := pushFrames ch.log sender frames, ins := ch.ins.insert thread phase } sender ∧
      said.thread = thread ∧ (phase = .closed .ok → said.left = [])) :
    Conversing bodies (labels ++ [label])
      { ch with log := pushFrames ch.log sender frames, ins := ch.ins.insert thread phase } := by
  constructor
  case phases =>
    intro other found present
    rcases Store.insert_eq_some present with ⟨rfl, rfl⟩ | ⟨different, earlier⟩
    · exact told
    · refine (conversing.phases other found earlier).later label (fun _ _ registered => registered) ?_
      intro second named
      exact Paired.push_others held _ _ fun mine =>
        different (paired.unique other thread second ⟨found, earlier, named⟩ mine)
  case logs =>
    intro other started
    by_cases same : other = sender
    · subst same
      obtain ⟨said, heard, rfl, complete⟩ := spoken
      refine ⟨said, heard, fun finished => complete ?_⟩
      exact Option.some.inj ((Store.insert_self _ _ _).symm.trans finished)
    · have silent := pushFrames_of_ne ch.log same frames
      change pushFrames ch.log sender frames other ≠ [] at started
      rw [silent] at started
      obtain ⟨said, heard, complete⟩ := conversing.logs other started
      refine ⟨said, heard.later label (fun _ registered => registered) silent, fun finished => ?_⟩
      rcases Store.insert_eq_some finished with ⟨mine, _⟩ | ⟨_, earlier⟩
      · have caused := heard.caused
        rw [mine] at caused
        exact absurd (alone _ _ caused) same
      · exact complete earlier

theorem start_told (bodies : ThreadId → List BodyFrame) (labels : List Action) (ch : Channels) (thread : ThreadId) :
    PhaseTold bodies labels ch thread (.start (readConnB1 (bodies thread))) ∧
      InChannel.start (readConnB1 (bodies thread)) ≠ .closed .ok := by
  rcases readConnB1_front (bodies thread) with ⟨status, front, read⟩ | ⟨connB1, fragLength, filled, rest, reads⟩
  · rw [read]
    refine ⟨trivial, fun finished => ?_⟩
    cases finished
    unfold frontConnB1 at front
    dsimp only at front
    split at front
    · cases front
    · split at front <;> cases front
  · rw [reads.read]
    exact ⟨⟨fragLength, reads.front, reads.stream⟩, InChannel.noConfusion⟩

theorem answer_told {connB1 : ConnB1} {thread : ThreadId} {buf : Bytes} {body : List BodyFrame}
    (arrives : Arrives bodies thread connB1 (buf ++ bodyBytes body)) (entry : PendingConnection) (later : Channels) :
    PhaseTold bodies labels later thread (.answer connB1 entry buf body) ∧
      InChannel.answer connB1 entry buf body ≠ .closed .ok := by
  unfold InChannel.answer
  split
  · next connC2 vconn accepted => exact ⟨⟨arrives, (acceptInChannel_ok accepted).2.2⟩, InChannel.noConfusion⟩
  · exact ⟨trivial, fun finished => by cases finished⟩

theorem sends (conversing : Conversing bodies labels ch) (paired : Paired labels ch) (coupled : Coupled labels ch)
    {thread : ThreadId} {connB1 : ConnB1} {sender : SenderId} {connC2 : RtsPdu} {vconn : VirtualConnection}
    {buf : Bytes} {body : List BodyFrame}
    (ready : ch.ins thread = some (.answering connB1 sender connC2 vconn buf body)) :
    Conversing bodies (labels ++ [.sendC2 thread connB1 sender true])
      { ch with
        log := pushFrames ch.log sender [connC2.toBytes]
        ins := ch.ins.insert thread (.streaming connB1 sender (.established vconn connC2 buf body)) } := by
  obtain ⟨connA1, registered, cookies, rfl, silent⟩ := paired.phases _ _ ready
  obtain ⟨arrives, established⟩ := conversing.phases _ _ ready
  let said : Conversation :=
    { thread, connA1, connB1, exchanges := [], talk := none, left := buf ++ bodyBytes body }
  have heard : said.Heard bodies (labels ++ [.sendC2 thread connB1 sender true])
      { ch with
        log := pushFrames ch.log sender [(RtsPdu.connC2 connA1.callId).toBytes]
        ins := ch.ins.insert thread
          (.streaming connB1 sender (.established vconn (RtsPdu.connC2 connA1.callId) buf body)) } sender := by
    refine ⟨registered, List.mem_append_right _ (List.mem_singleton.mpr rfl), cookies, arrives, .start, ?_⟩
    change pushFrames ch.log sender _ sender = _
    rw [pushFrames_self, silent]
    rfl
  refine conversing.in_speaks paired _ ⟨_, ready, rfl⟩ (fun otherB1 other member => ?_)
    ⟨said, heard, rfl, rfl, rfl, rfl, established, rfl, rfl⟩
    ⟨said, heard, rfl, fun finished => by cases finished⟩
  obtain ⟨_, phase, present, isPast⟩ := coupled.past _ _ _ member
  cases ready.symm.trans present
  exact isPast.elim

theorem rounds (conversing : Conversing bodies labels ch) (paired : Paired labels ch) (coupled : Coupled labels ch)
    {thread : ThreadId} {connB1 : ConnB1} {sender : SenderId} {input : RpcInput}
    (ready : ch.ins thread = some (.streaming connB1 sender input)) (accepts : Nat → Bool) :
    Conversing bodies (labels ++ [.round thread sender])
      { ch with
        log := pushFrames ch.log sender (roundFrames input (rpcRound accepts input))
        ins := ch.ins.insert thread (.proceed connB1 sender (rpcRound accepts input)) } := by
  obtain ⟨said, heard, rfl, rfl, left, follows⟩ := conversing.phases _ _ ready
  have alone (otherB1 : ConnB1) (other : SenderId)
      (member : Action.sendC2 said.thread otherB1 other true ∈ labels) : other = sender :=
    (coupled.alone _ _ _ _ _ _ member heard.caused).mp rfl
  have told : RoundTold said.first said.exchanges said.talk input.stream _ := rpcRound_told accepts follows
  have logged : pushFrames ch.log sender (roundFrames input (rpcRound accepts input)) sender =
      (roundState (rpcRound accepts input)).sent := by
    rw [pushFrames_self, heard.log, ← follows.sent, sent_roundFrames]
  have caused : Action.sendC2 said.thread said.connB1 sender true ∈ labels ++ [.round said.thread sender] :=
    List.mem_append_left _ heard.caused
  have held : Holds ch.ins said.thread sender := ⟨_, ready, rfl⟩
  generalize rpcRound accepts input = round at told logged
  cases told with
  | @answered exchange talk next answers after taken =>
      let more : Conversation :=
        { said with exchanges := said.exchanges ++ [exchange], talk, left := next.stream }
      have arrives : Arrives bodies said.thread said.connB1
          ((more.exchanges.map PduExchange.pdu).flatten ++ next.stream) := by
        have before := heard.arrives
        rw [left, ← taken, ← List.append_assoc] at before
        rw [List.map_append, List.map_singleton, List.flatten_append, List.flatten_singleton]
        exact before
      have heardMore : more.Heard bodies (labels ++ [.round said.thread sender])
          { ch with
            log := pushFrames ch.log sender (roundFrames input (.next next))
            ins := ch.ins.insert said.thread (.proceed said.connB1 sender (.next next)) } sender :=
        ⟨heard.registered, caused, heard.cookies, arrives, heard.dialogue.step answers, logged.trans after.sent⟩
      exact conversing.in_speaks paired _ held alone ⟨more, heardMore, rfl, rfl, rfl, after⟩
        ⟨more, heardMore, rfl, fun finished => by cases finished⟩
  | ended sent complete =>
      exact conversing.in_speaks paired _ held alone trivial
        ⟨said, heard.relogged _ (logged.trans sent), rfl, fun _ => left.trans complete⟩
  | failed sent =>
      exact conversing.in_speaks paired _ held alone trivial
        ⟨said, heard.relogged _ (logged.trans sent), rfl, fun finished => by cases finished⟩

theorem step (conversing : Conversing bodies labels ch) (paired : Paired labels ch) (coupled : Coupled labels ch)
    {label : Action} {next : Channels} (taken : StepWith bodies ch label next) :
    Conversing bodies (labels ++ [label]) next := by
  obtain ⟨taken, comes⟩ := taken
  cases taken with
  | @outRequest sender unused body =>
      refine conversing.out_moves _ rfl rfl fun other connA1 registered => ?_
      have different : other ≠ sender := by
        intro same
        rw [same, unused] at registered
        cases registered
      exact (Store.insert_of_ne different _).trans registered
  | @insert sender connA1 vconn ready =>
      refine conversing.out_moves _ rfl rfl fun other otherA1 registered => ?_
      have different : other ≠ sender := by
        intro same
        rw [same, ready] at registered
        cases registered
      exact (Store.insert_of_ne different _).trans registered
  | @inRequest thread unused body =>
      have started := comes thread rfl
      have same : InChannel.start (readConnB1 body) = .start (readConnB1 (bodies thread)) :=
        Option.some.inj ((Store.insert_self ch.ins thread _).symm.trans started)
      rw [same]
      obtain ⟨told, unfinished⟩ := start_told bodies (labels ++ [.inRequest thread])
        { ch with ins := ch.ins.insert thread (.start (readConnB1 (bodies thread))) } thread
      exact conversing.in_moves _ told unfinished
  | @remove thread connB1 buf body ready =>
      have arrives : Arrives bodies thread connB1 (buf ++ bodyBytes body) := conversing.phases _ _ ready
      cases found : ch.pending connB1.virtualConnectionCookie with
      | none => exact conversing.in_moves _ trivial fun finished => by cases finished
      | some entry => exact conversing.in_moves _ arrives InChannel.noConfusion
  | @accept thread connB1 entry buf body ready =>
      have arrives : Arrives bodies thread connB1 (buf ++ bodyBytes body) := conversing.phases _ _ ready
      obtain ⟨told, unfinished⟩ := answer_told arrives entry { ch with
        ins := ch.ins.insert thread (.answer connB1 entry buf body) }
      exact conversing.in_moves _ told unfinished
  | sendTaken ready => exact conversing.sends paired coupled ready
  | sendLost ready => exact conversing.in_moves _ trivial fun finished => by cases finished
  | round ready accepts => exact conversing.rounds paired coupled ready accepts

end Conversing

theorem conversing_of_run (run : Steps (StepWith bodies) Channels.init labels ch) : Conversing bodies labels ch := by
  induction run with
  | start => exact .init
  | step run taken ih =>
      have earlier := run.mono fun _ _ _ both => both.1
      exact ih.step (paired_of_run earlier) (coupled_of_run earlier) taken

theorem Conversation.Heard.cut {said : Conversation} {sender : SenderId}
    (heard : said.Heard bodies labels ch sender) :
    cutFrames fragmentLength (ch.log sender).flatten = (ch.log sender, []) := by
  refine cutFrames_flatten ?_
  rw [heard.log]
  refine List.forall_mem_cons.mpr ⟨(connC2_complete _).announcesItself, fun frame member => ?_⟩
  exact (replies_complete heard.dialogue frame member).announcesItself

/-- In every run, what an OUT channel got is nothing, or one conversation: its CONN/C2 and the
answers to the first PDUs of one IN stream, of all of them when the IN request was answered with
200. The client can cut the bytes into these PDUs, and the IN request spoke to no other channel. -/
theorem out_bodies_are_dialogues (run : Steps (StepWith bodies) Channels.init labels ch) (sender : SenderId) :
    ch.log sender = [] ∨ ∃ said : Conversation, said.Heard bodies labels ch sender ∧
      cutFrames fragmentLength (ch.log sender).flatten = (ch.log sender, []) ∧
      (ch.ins said.thread = some (.closed .ok) → said.left = []) ∧
      ∀ other connB1 taker, Action.sendC2 other connB1 taker true ∈ labels →
        (other = said.thread ↔ taker = sender) := by
  by_cases silent : ch.log sender = []
  · exact .inl silent
  · obtain ⟨said, heard, complete⟩ := (conversing_of_run run).logs sender silent
    have coupled := coupled_of_run (run.mono fun _ _ _ both => both.1)
    exact .inr ⟨said, heard, heard.cut, complete,
      fun other connB1 taker member => coupled.alone _ _ _ _ _ _ member heard.caused⟩

end Conversing

theorem StepWith.of_step {bodies : ThreadId → List BodyFrame} {ch next : Channels} {label : Action}
    (taken : Step ch label next) (other : ∀ thread, label ≠ .inRequest thread) : StepWith bodies ch label next :=
  ⟨taken, fun thread same => absurd same (other thread)⟩

theorem out_bodies_are_dialogues_bind :
    ∃ ch, (ch.log 0).length = 2 ∧ ∃ said : Conversation,
      said.Heard (fun _ => [.data (sampleB1Bytes ++ sampleBindBytes)])
        [.outRequest 0, .insert 0 sampleA1, .inRequest 0, .remove 0 sampleB1 (some 0),
          .accept 0 sampleB1 (.ok (RtsPdu.connC2 7)), .sendC2 0 sampleB1 0 true, .round 0 0] ch 0 ∧
      cutFrames fragmentLength (ch.log 0).flatten = (ch.log 0, []) := by
  have readB1 : readConnB1 [.data (sampleB1Bytes ++ sampleBindBytes)] = .ok (sampleB1, sampleBindBytes, []) := by
    decide +kernel
  let input : RpcInput := .established ((registeredBy sampleA1).acceptInChannel sampleB1).2
    (RtsPdu.connC2 7) sampleBindBytes []
  have answered : (roundFrames input (rpcRound (fun _ => true) input)).length = 1 := by decide +kernel
  have first := Steps.single (@StepWith.of_step (fun _ => [.data (sampleB1Bytes ++ sampleBindBytes)]) _ _ _
    (Step.outRequest (rfl : Channels.init.outs 0 = none) sampleOutBody) fun _ => Action.noConfusion)
  rw [readConnA1_sample] at first
  have second := first.step (.of_step (.insert (Store.insert_self _ _ _)) fun _ => Action.noConfusion)
  have third := second.step ⟨@Step.inRequest _ 0 rfl [.data (sampleB1Bytes ++ sampleBindBytes)],
    fun thread same => Action.inRequest.inj same ▸ Store.insert_self Channels.init.ins 0 _⟩
  rw [readB1] at third
  have fourth := third.step (.of_step (.remove (Store.insert_self _ _ _)) fun _ => Action.noConfusion)
  have found : (Channels.init.pending.insert sampleA1.virtualConnectionCookie
      ⟨registeredBy sampleA1, 0⟩) sampleB1.virtualConnectionCookie = some ⟨registeredBy sampleA1, 0⟩ :=
    Store.insert_self _ _ _
  dsimp only at fourth
  rw [found] at fourth
  have fifth := fourth.step (.of_step (.accept (Store.insert_self _ _ _)) fun _ => Action.noConfusion)
  have answers : InChannel.answer sampleB1 ⟨registeredBy sampleA1, 0⟩ sampleBindBytes [] =
      .answering sampleB1 0 (RtsPdu.connC2 7) ((registeredBy sampleA1).acceptInChannel sampleB1).2
        sampleBindBytes [] := rfl
  rw [acceptInChannel_registered (rfl : sampleA1.virtualConnectionCookie = _), answers] at fifth
  have sixth := fifth.step (.of_step (.sendTaken (Store.insert_self _ _ _)) fun _ => Action.noConfusion)
  have seventh := sixth.step (.of_step (.round (Store.insert_self _ _ _) fun _ => true)
    fun _ => Action.noConfusion)
  have logged : ∀ frames : List Bytes, frames.length = 1 →
      (pushFrames (pushFrames Channels.init.log 0 [(RtsPdu.connC2 7).toBytes]) 0 frames 0).length = 2 := by
    intro frames one
    rw [pushFrames_self, pushFrames_self, List.length_append, one]
    rfl
  generalize reached : Channels.mk _ _ _ _ = ch at seventh
  have counted : (ch.log 0).length = 2 := by
    rw [← reached]
    exact logged _ answered
  rcases out_bodies_are_dialogues seventh 0 with silent | ⟨said, heard, cut, _⟩
  · rw [silent] at counted
    cases counted
  · exact ⟨ch, counted, said, heard, cut⟩

end RdGateway.Server
