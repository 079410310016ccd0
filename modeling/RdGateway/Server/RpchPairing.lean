import RdGateway.Server.Rpch
import RdGateway.Wirekit.Run

/-!
# Concurrent RPC-over-HTTP requests

Any number of OUT and IN requests share the pending map. A step is what one request
does between two points where the others can run: it reads its own body, takes the
lock of the map once, or sends one frame. A sender may lose its receiver at any time,
so every send may fail.
-/

set_option autoImplicit false

namespace RdGateway.Server

open Wirekit Proto RdGateway.Core

abbrev ThreadId := Nat

/-- A RPC_OUT_DATA request. Each one creates its sender, which also names it. -/
inductive OutChannel where
  | accepted (connA1 : ConnA1) (vconn : VirtualConnection)
  | registered (connA1 : ConnA1)
  | refused (status : StatusCode)
deriving Repr, DecidableEq

def OutChannel.start : Except StatusCode (ConnA1 × VirtualConnection) → OutChannel
  | .ok (connA1, vconn) => .accepted connA1 vconn
  | .error status => .refused status

/-- A RPC_IN_DATA request, by the lines of `handle_in_channel` that it has passed. -/
inductive InChannel where
  | waiting (connB1 : ConnB1) (buf : Bytes) (body : List BodyFrame)
  | matched (connB1 : ConnB1) (entry : PendingConnection) (buf : Bytes) (body : List BodyFrame)
  | answering (connB1 : ConnB1) (sender : SenderId) (connC2 : RtsPdu) (vconn : VirtualConnection)
      (buf : Bytes) (body : List BodyFrame)
  | streaming (connB1 : ConnB1) (sender : SenderId) (input : RpcInput)
  | closed (status : StatusCode)

namespace InChannel

def start : Except StatusCode (ConnB1 × Bytes × List BodyFrame) → InChannel
  | .ok (connB1, buf, body) => .waiting connB1 buf body
  | .error status => .closed status

def lookUp (connB1 : ConnB1) (buf : Bytes) (body : List BodyFrame) :
    Option PendingConnection → InChannel
  | some entry => .matched connB1 entry buf body
  | none => .closed .badRequest

def answer (connB1 : ConnB1) (entry : PendingConnection) (buf : Bytes) (body : List BodyFrame) :
    InChannel :=
  match entry.vconn.acceptInChannel connB1 with
  | (.ok connC2, vconn) => .answering connB1 entry.outSender connC2 vconn buf body
  | _ => .closed .internalServerError

def proceed (connB1 : ConnB1) (sender : SenderId) : Round RpcInput RpcResult → InChannel
  | .next input => .streaming connB1 sender input
  | .done (.ok _, _) => .closed .ok
  | .done (.error _, _) => .closed .internalServerError

def sender : InChannel → Option SenderId
  | .matched _ entry _ _ => some entry.outSender
  | .answering _ sender _ _ _ _ => some sender
  | .streaming _ sender _ => some sender
  | _ => none

end InChannel

structure Channels where
  pending : PendingMap
  outs : Store SenderId OutChannel
  ins : Store ThreadId InChannel
  log : SenderId → List Bytes

def Channels.init : Channels :=
  { pending := .empty, outs := .empty, ins := .empty, log := fun _ => [] }

def pushFrames (log : SenderId → List Bytes) (sender : SenderId) (frames : List Bytes) :
    SenderId → List Bytes :=
  Function.update log sender (log sender ++ frames)

inductive Action where
  | outRequest (sender : SenderId)
  | insert (sender : SenderId) (connA1 : ConnA1)
  | inRequest (thread : ThreadId)
  | remove (thread : ThreadId) (connB1 : ConnB1) (found : Option SenderId)
  | accept (thread : ThreadId) (connB1 : ConnB1) (result : Outcome RpchError RtsPdu)
  | sendC2 (thread : ThreadId) (connB1 : ConnB1) (sender : SenderId) (accepted : Bool)
  | round (thread : ThreadId) (sender : SenderId)
deriving DecidableEq

def roundState : Round RpcInput RpcResult → RpcState
  | .next input => input.state
  | .done result => result.2

def roundFrames (input : RpcInput) (round : Round RpcInput RpcResult) : List Bytes :=
  (roundState round).sent.drop input.state.sent.length

inductive Step : Channels → Action → Channels → Prop where
  | outRequest {ch : Channels} {sender : SenderId} (unused : ch.outs sender = none)
      (body : List BodyFrame) :
      Step ch (.outRequest sender)
        { ch with outs := ch.outs.insert sender (.start (readConnA1 body)) }
  | insert {ch : Channels} {sender : SenderId} {connA1 : ConnA1} {vconn : VirtualConnection}
      (ready : ch.outs sender = some (.accepted connA1 vconn)) :
      Step ch (.insert sender connA1)
        { ch with
          pending :=
            ch.pending.insert connA1.virtualConnectionCookie { vconn, outSender := sender }
          outs := ch.outs.insert sender (.registered connA1) }
  | inRequest {ch : Channels} {thread : ThreadId} (unused : ch.ins thread = none)
      (body : List BodyFrame) :
      Step ch (.inRequest thread)
        { ch with ins := ch.ins.insert thread (.start (readConnB1 body)) }
  | remove {ch : Channels} {thread : ThreadId} {connB1 : ConnB1} {buf : Bytes}
      {body : List BodyFrame} (ready : ch.ins thread = some (.waiting connB1 buf body)) :
      Step ch
        (.remove thread connB1
          ((ch.pending connB1.virtualConnectionCookie).map PendingConnection.outSender))
        { ch with
          pending := ch.pending.remove connB1.virtualConnectionCookie
          ins := ch.ins.insert thread
            (.lookUp connB1 buf body (ch.pending connB1.virtualConnectionCookie)) }
  | accept {ch : Channels} {thread : ThreadId} {connB1 : ConnB1} {entry : PendingConnection}
      {buf : Bytes} {body : List BodyFrame}
      (ready : ch.ins thread = some (.matched connB1 entry buf body)) :
      Step ch (.accept thread connB1 (entry.vconn.acceptInChannel connB1).1)
        { ch with ins := ch.ins.insert thread (.answer connB1 entry buf body) }
  | sendTaken {ch : Channels} {thread : ThreadId} {connB1 : ConnB1} {sender : SenderId}
      {connC2 : RtsPdu} {vconn : VirtualConnection} {buf : Bytes} {body : List BodyFrame}
      (ready : ch.ins thread = some (.answering connB1 sender connC2 vconn buf body)) :
      Step ch (.sendC2 thread connB1 sender true)
        { ch with
          log := pushFrames ch.log sender [connC2.toBytes]
          ins := ch.ins.insert thread
            (.streaming connB1 sender (.established vconn connC2 buf body)) }
  | sendLost {ch : Channels} {thread : ThreadId} {connB1 : ConnB1} {sender : SenderId}
      {connC2 : RtsPdu} {vconn : VirtualConnection} {buf : Bytes} {body : List BodyFrame}
      (ready : ch.ins thread = some (.answering connB1 sender connC2 vconn buf body)) :
      Step ch (.sendC2 thread connB1 sender false)
        { ch with ins := ch.ins.insert thread (.closed .internalServerError) }
  | round {ch : Channels} {thread : ThreadId} {connB1 : ConnB1} {sender : SenderId}
      {input : RpcInput} (ready : ch.ins thread = some (.streaming connB1 sender input))
      (accepts : Nat → Bool) :
      Step ch (.round thread sender)
        { ch with
          log := pushFrames ch.log sender (roundFrames input (rpcRound accepts input))
          ins := ch.ins.insert thread (.proceed connB1 sender (rpcRound accepts input)) }

/-! ## What the loop sends -/

def IsRts (frame : Bytes) : Prop := frame[2]? = some ptypeRts

instance (frame : Bytes) : Decidable (IsRts frame) := inferInstanceAs (Decidable (_ = _))

theorem header_not_rts {header : RpcPduHeader} (rest : Bytes) (other : header.ptype.toU8 ≠ ptypeRts) :
    ¬ IsRts (header.write ++ rest) := by
  intro rts
  have typed : (header.write ++ rest)[2]? = some header.ptype.toU8 := rfl
  rw [IsRts, typed] at rts
  exact other (Option.some.inj rts)

theorem bindAck_not_rts (callId assocGroupId : UInt32) (secAddr : Bytes) :
    ¬ IsRts (BindAckPdu.accepted callId assocGroupId secAddr).encode := by
  simp only [BindAckPdu.encode, List.append_assoc]
  exact header_not_rts _ (show RpcPduType.bindAck.toU8 ≠ ptypeRts by decide)

theorem response_not_rts (callId : UInt32) (contextId : UInt16) (stubData : Bytes) :
    ¬ IsRts (ResponsePdu.new callId contextId stubData).encode := by
  simp only [ResponsePdu.encode, List.append_assoc]
  exact header_not_rts _ (show RpcPduType.response.toU8 ≠ ptypeRts by decide)

/-- Between two states of the loop the sender took more frames, none of them RTS. -/
def Extends (before after : RpcState) : Prop :=
  ∃ frames, after.sent = before.sent ++ frames ∧ ∀ frame ∈ frames, ¬ IsRts frame

theorem Extends.refl (state : RpcState) : Extends state state :=
  ⟨[], (List.append_nil _).symm, fun _ member => nomatch member⟩

theorem Extends.of_sent {before after : RpcState} (same : after.sent = before.sent) :
    Extends before after :=
  ⟨[], by rw [same, List.append_nil], fun _ member => nomatch member⟩

theorem Extends.trans {first second third : RpcState} (front : Extends first second)
    (back : Extends second third) : Extends first third := by
  obtain ⟨frames, sent, noRts⟩ := front
  obtain ⟨more, later, laterNoRts⟩ := back
  refine ⟨frames ++ more, by rw [later, sent, List.append_assoc], fun frame member => ?_⟩
  rcases List.mem_append.mp member with old | new
  · exact noRts frame old
  · exact laterNoRts frame new

theorem RpcState.send_extends {accepts : Nat → Bool} {before state : RpcState} {frame : Bytes}
    (same : state.sent = before.sent) (noRts : ¬ IsRts frame) :
    Extends before (state.send accepts frame).2 := by
  unfold RpcState.send
  split
  · refine ⟨[frame], by rw [same], fun sent member => ?_⟩
    rw [List.mem_singleton.mp member]
    exact noRts
  · exact .of_sent same

theorem handleBind_extends (accepts : Nat → Bool) (state : RpcState) (pduData : Bytes) :
    Extends state (handleBind accepts state pduData).2 := by
  unfold handleBind
  split
  · exact .refl state
  · exact .refl state
  · next bind _ =>
    split
    · exact .refl state
    · split
      · exact .of_sent rfl
      · exact .of_sent rfl
      · next vconn _ =>
        have sends : Extends state (RpcState.send { state with vconn } accepts
            (BindAckPdu.accepted bind.header.callId bind.assocGroupId secondaryAddress).encode).2 :=
          RpcState.send_extends rfl (bindAck_not_rts _ _ _)
        dsimp only
        split
        · next result after taken =>
          rw [taken] at sends
          exact sends
        · next error after taken =>
          rw [taken] at sends
          exact sends

theorem handleRequest_extends (accepts : Nat → Bool) (state : RpcState) (pduData : Bytes) :
    Extends state (handleRequest accepts state pduData).2 := by
  unfold handleRequest
  split
  · exact .refl state
  · exact .refl state
  · split
    · exact .of_sent rfl
    · exact RpcState.send_extends rfl (response_not_rts _ _ _)

theorem handlePdu_extends (accepts : Nat → Bool) (state : RpcState) (header : RpcPduHeader)
    (pduData : Bytes) : Extends state (handlePdu accepts state header pduData).2 := by
  unfold handlePdu
  split
  · exact handleBind_extends accepts state pduData
  · split
    · exact handleRequest_extends accepts state pduData
    · exact .refl state
  · exact .refl state

theorem rpcRound_extends (accepts : Nat → Bool) (input : RpcInput) :
    Extends input.state (roundState (rpcRound accepts input)) := by
  unfold rpcRound
  split
  · exact .refl _
  · exact .refl _
  · next pdu _ =>
    have handled := handlePdu_extends accepts input.state pdu.header pdu.pduData
    split
    · next error after taken =>
      rw [taken] at handled
      exact handled
    · next after taken =>
      rw [taken] at handled
      exact handled

theorem rpcLoop_extends (accepts : Nat → Bool) (input : RpcInput) :
    Extends input.state ((rpcLoop accepts).run input).2 := by
  induction input using (rpcLoop accepts).induction with
  | done input result taken =>
      have added := rpcRound_extends accepts input
      rw [← rpcLoop_round, taken] at added
      rw [Loop.run_done taken]
      exact added
  | next input later taken ih =>
      have added := rpcRound_extends accepts input
      rw [← rpcLoop_round, taken] at added
      rw [Loop.run_next taken]
      exact added.trans ih

theorem roundFrames_not_rts {accepts : Nat → Bool} {input : RpcInput} {frame : Bytes}
    (member : frame ∈ roundFrames input (rpcRound accepts input)) : ¬ IsRts frame := by
  obtain ⟨frames, sent, noRts⟩ := rpcRound_extends accepts input
  rw [roundFrames, sent, List.drop_left] at member
  exact noRts frame member

/-! ## A request that runs alone -/

theorem pushFrames_self (log : SenderId → List Bytes) (sender : SenderId) (frames : List Bytes) :
    pushFrames log sender frames sender = log sender ++ frames :=
  Function.update_self _ _ _

theorem pushFrames_of_ne (log : SenderId → List Bytes) {sender other : SenderId}
    (different : other ≠ sender) (frames : List Bytes) :
    pushFrames log sender frames other = log other :=
  Function.update_of_ne different _ _

/-- The steps of an OUT request in a row are `handle_out_channel`. -/
theorem handleOutChannel_steps {ch : Channels} {sender : SenderId} (unused : ch.outs sender = none)
    (body : List BodyFrame) :
    ∃ labels final, Steps Step ch labels final ∧
      final.pending = (handleOutChannel ch.pending sender body).2 := by
  have first := Step.outRequest unused body
  cases read : readConnA1 body with
  | error status =>
      exact ⟨_, _, .single first, by rw [handleOutChannel, read]⟩
  | ok accepted =>
      rw [read] at first
      exact ⟨_, _, .step (.single first) (.insert (Store.insert_self _ _ _)),
        by rw [handleOutChannel, read]⟩

/-- The rounds of an IN request in a row are `process_rpc_pdus_streaming`. -/
theorem rpcLoop_steps (accepts : Nat → Bool) {thread : ThreadId} {connB1 : ConnB1}
    {sender : SenderId} (input : RpcInput) :
    ∀ {start ch : Channels} {past : List Action}, Steps Step start past ch →
      ch.ins thread = some (.streaming connB1 sender input) →
      ∃ labels final, Steps Step start labels final ∧ final.pending = ch.pending ∧
        final.ins thread =
          some (.closed (finishInChannel ch.pending ((rpcLoop accepts).run input)).status) ∧
        final.log sender =
          ch.log sender ++ ((rpcLoop accepts).run input).2.sent.drop input.state.sent.length := by
  induction input using (rpcLoop accepts).induction with
  | done input result taken =>
      intro start ch past run ready
      have stepped := run.step (.round ready accepts)
      rw [← rpcLoop_round, taken] at stepped
      refine ⟨_, _, stepped, rfl, ?_, ?_⟩
      · refine (Store.insert_self _ _ _).trans ?_
        rw [Loop.run_done taken]
        rcases result with ⟨_ | _, _⟩ <;> rfl
      · refine (pushFrames_self _ _ _).trans ?_
        rw [Loop.run_done taken]
        rfl
  | next input later taken ih =>
      intro start ch past run ready
      have stepped := run.step (.round ready accepts)
      rw [← rpcLoop_round, taken] at stepped
      obtain ⟨labels, final, run, pending, closed, log⟩ := ih stepped (Store.insert_self _ _ _)
      refine ⟨labels, final, run, pending, ?_, ?_⟩
      · rw [closed, Loop.run_next taken]
      · obtain ⟨frames, sent, _⟩ := rpcRound_extends accepts input
        rw [← rpcLoop_round, taken] at sent
        obtain ⟨more, laterSent, _⟩ := rpcLoop_extends accepts later
        have sent : later.state.sent = input.state.sent ++ frames := sent
        dsimp only at log
        rw [log, Loop.run_next taken, laterSent, List.drop_left, sent, List.append_assoc,
          List.drop_left, pushFrames_self, roundFrames, roundState, sent, List.drop_left,
          List.append_assoc]

theorem answering_steps (accepts : Nat → Bool) {start ch : Channels} {past : List Action}
    {thread : ThreadId} {connB1 : ConnB1} {sender : SenderId} {connC2 : RtsPdu}
    {vconn : VirtualConnection} {buf : Bytes} {body : List BodyFrame}
    (run : Steps Step start past ch)
    (ready : ch.ins thread = some (.answering connB1 sender connC2 vconn buf body)) :
    let result :=
      if accepts 0 then
        finishInChannel ch.pending ((rpcLoop accepts).run (.established vconn connC2 buf body))
      else
        { status := .internalServerError, pending := ch.pending, sent := [], vconn := some vconn
          session := none }
    ∃ labels final, Steps Step start labels final ∧ final.pending = result.pending ∧
      final.ins thread = some (.closed result.status) ∧
      final.log sender = ch.log sender ++ result.sent := by
  intro result
  by_cases takes : accepts 0 = true
  · have same : result = finishInChannel ch.pending _ := if_pos takes
    obtain ⟨labels, final, ran, pending, closed, log⟩ :=
      rpcLoop_steps accepts (.established vconn connC2 buf body) (run.step (.sendTaken ready))
        (Store.insert_self _ _ _)
    obtain ⟨frames, sent, _⟩ := rpcLoop_extends accepts (.established vconn connC2 buf body)
    refine ⟨labels, final, ran, ?_, ?_, ?_⟩
    · rw [same]
      exact pending
    · rw [same]
      exact closed
    · dsimp only at log
      rw [same, log, pushFrames_self, finishInChannel, sent, List.drop_left, List.append_assoc]
      rfl
  · have same : result = _ := if_neg takes
    refine ⟨_, _, run.step (.sendLost ready), ?_, ?_, ?_⟩
    · rw [same]
    · rw [same]
      exact Store.insert_self _ _ _
    · rw [same]
      exact (List.append_nil _).symm

/-- The steps of an IN request in a row are `handle_in_channel`. -/
theorem handleInChannel_steps (accepts : Nat → Bool) {ch : Channels} {thread : ThreadId}
    (unused : ch.ins thread = none) (body : List BodyFrame) :
    ∃ labels final, Steps Step ch labels final ∧
      final.pending = (handleInChannel accepts ch.pending body).pending ∧
      final.ins thread = some (.closed (handleInChannel accepts ch.pending body).status) ∧
      ∀ connB1 buf rest entry, readConnB1 body = .ok (connB1, buf, rest) →
        ch.pending connB1.virtualConnectionCookie = some entry →
        final.log entry.outSender =
          ch.log entry.outSender ++ (handleInChannel accepts ch.pending body).sent := by
  have first := Step.inRequest unused body
  cases read : readConnB1 body with
  | error status =>
      rw [read] at first
      refine ⟨_, _, .single first, ?_, ?_, fun _ _ _ _ same => nomatch same⟩
      · rw [handleInChannel, read]
      · refine (Store.insert_self _ _ _).trans ?_
        rw [handleInChannel, read]
        rfl
  | ok parsed =>
      obtain ⟨connB1, buf, rest⟩ := parsed
      rw [read] at first
      have second := (Steps.single first).step (.remove (Store.insert_self _ _ _))
      cases present : ch.pending connB1.virtualConnectionCookie with
      | none =>
          rw [present] at second
          refine ⟨_, _, second, ?_, ?_, fun _ _ _ entry same found => ?_⟩
          · simp only [handleInChannel, read, present]
            exact Store.remove_of_none present
          · refine (Store.insert_self _ _ _).trans ?_
            simp only [handleInChannel, read, present]
            rfl
          · cases same
            rw [present] at found
            cases found
      | some entry =>
          rw [present] at second
          have third := second.step (.accept (Store.insert_self _ _ _))
          rcases tried : entry.vconn.acceptInChannel connB1 with ⟨result, vconn⟩
          cases result with
          | ok connC2 =>
              rw [InChannel.answer, tried] at third
              obtain ⟨labels, final, run, pending, closed, log⟩ :=
                answering_steps accepts third (Store.insert_self _ _ _)
              refine ⟨labels, final, run, ?_, ?_, fun _ _ _ other same found => ?_⟩
              · simp only [handleInChannel, read, present, tried]
                exact pending
              · simp only [handleInChannel, read, present, tried]
                exact closed
              · cases same
                rw [present] at found
                cases found
                simp only [handleInChannel, read, present, tried]
                exact log
          | _ =>
              rw [InChannel.answer, tried] at third
              refine ⟨_, _, third, ?_, ?_, fun _ _ _ other same found => ?_⟩
              · simp only [handleInChannel, read, present, tried]
              · refine (Store.insert_self _ _ _).trans ?_
                simp only [handleInChannel, read, present, tried]
              · simp only [handleInChannel, read, present, tried]
                exact (List.append_nil _).symm

end RdGateway.Server
