import RdGateway.Proto.ParserSafety
import RdGateway.Wirekit.Run

/-!
# Runs of a virtual connection

Any sequence of method calls, with any arguments. A state of the connection is reached
by one order of accepted PDUs only, and these fix all of its fields. The laws about
whole runs are read off this relation.
-/

set_option autoImplicit false

namespace RdGateway.Proto

open Wirekit

/-! ## Calls -/

inductive ConnectionCall where
  | processRts (channel : ChannelType) (data : Bytes)
  | acceptOutChannel (conn : ConnA1)
  | acceptInChannel (conn : ConnB1)
  | enterDataTransfer
deriving Repr, DecidableEq

namespace ConnectionCall

def connA1 : ConnectionCall → Option ConnA1
  | .acceptOutChannel conn => some conn
  | .processRts .outChannel data =>
      match RtsPdu.parse data >>= ConnA1.fromPdu with
      | .ok conn => some conn
      | _ => none
  | _ => none

def connB1 : ConnectionCall → Option ConnB1
  | .acceptInChannel conn => some conn
  | .processRts .inChannel data =>
      match RtsPdu.parse data >>= ConnB1.fromPdu with
      | .ok conn => some conn
      | _ => none
  | _ => none

theorem connB1_of_connA1 {call : ConnectionCall} {conn : ConnA1} (offered : call.connA1 = some conn) :
    call.connB1 = none := by
  cases call with
  | processRts channel data =>
      cases channel with
      | inChannel => cases offered
      | outChannel => rfl
  | acceptOutChannel => rfl
  | acceptInChannel => cases offered
  | enterDataTransfer => rfl

theorem connA1_of_connB1 {call : ConnectionCall} {conn : ConnB1} (offered : call.connB1 = some conn) :
    call.connA1 = none := by
  cases given : call.connA1 with
  | none => rfl
  | some other =>
      rw [connB1_of_connA1 given] at offered
      cases offered

end ConnectionCall

abbrev ConnectionAnswer := Outcome RpchError (Option RtsPdu)

theorem ConnA1.fromPdu_safe (pdu : RtsPdu) : (ConnA1.fromPdu pdu).Safe := by
  unfold ConnA1.fromPdu
  split
  · trivial
  · split <;> trivial

theorem ConnB1.fromPdu_safe (pdu : RtsPdu) : (ConnB1.fromPdu pdu).Safe := by
  unfold ConnB1.fromPdu
  split
  · trivial
  · split <;> trivial

namespace VirtualConnection

/-- The methods under one result type. A method that returns no PDU answers `none`. -/
def call (self : VirtualConnection) : ConnectionCall → ConnectionAnswer × VirtualConnection
  | .processRts channel data => self.processRts channel data
  | .acceptOutChannel conn =>
      ((self.acceptOutChannel conn).1 >>= fun _ => .ok none, (self.acceptOutChannel conn).2)
  | .acceptInChannel conn =>
      ((self.acceptInChannel conn).1 >>= fun response => .ok (some response),
        (self.acceptInChannel conn).2)
  | .enterDataTransfer =>
      (self.enterDataTransfer.1 >>= fun _ => .ok none, self.enterDataTransfer.2)

/-! ## One call -/

inductive Answered (self : VirtualConnection) (call : ConnectionCall) :
    ConnectionAnswer × VirtualConnection → Prop where
  | refused (error : RpchError) : Answered self call (.err error, self)
  | outAccepted {conn : ConnA1} (offered : call.connA1 = some conn)
      (waiting : self.state = .waitingOutChannel) :
      Answered self call
        (.ok none,
          { self with
            version := some conn.version
            virtualConnectionCookie := some conn.virtualConnectionCookie
            outChannelCookie := some conn.outChannelCookie
            receiveWindowSize := some conn.receiveWindowSize
            outCallId := some conn.callId
            state := .waitingInChannel })
  | inAccepted {conn : ConnB1} (offered : call.connB1 = some conn)
      (waiting : self.state = .waitingInChannel)
      (cookies : self.virtualConnectionCookie = some conn.virtualConnectionCookie) :
      Answered self call
        (.ok (some (ConnC2.default.toPdu (self.outCallId.getD conn.callId))),
          { self with
            version := some conn.version
            inChannelCookie := some conn.inChannelCookie
            associationGroupId := some conn.associationGroupId
            channelLifetime := some conn.channelLifetime
            clientKeepalive := some conn.clientKeepalive
            inCallId := some conn.callId
            state := .connectionEstablished })
  | entered (called : call = .enterDataTransfer) (established : self.state = .connectionEstablished) :
      Answered self call (.ok none, { self with state := .dataTransfer })

theorem answered_acceptOutChannel (self : VirtualConnection) {call : ConnectionCall} {conn : ConnA1}
    (offered : call.connA1 = some conn) :
    Answered self call
      ((self.acceptOutChannel conn).1 >>= fun _ => .ok none, (self.acceptOutChannel conn).2) := by
  by_cases waiting : self.state = .waitingOutChannel
  · rw [acceptOutChannel, if_neg (not_not_intro waiting)]
    exact .outAccepted offered waiting
  · rw [acceptOutChannel, if_pos waiting]
    exact .refused _

theorem answered_acceptInChannel (self : VirtualConnection) {call : ConnectionCall} {conn : ConnB1}
    (offered : call.connB1 = some conn) :
    Answered self call
      ((self.acceptInChannel conn).1 >>= fun response => .ok (some response),
        (self.acceptInChannel conn).2) := by
  by_cases waiting : self.state = .waitingInChannel
  · rw [acceptInChannel, if_neg (not_not_intro waiting)]
    cases expected : self.virtualConnectionCookie with
    | none => exact .refused _
    | some cookie =>
        by_cases same : conn.virtualConnectionCookie = cookie
        · dsimp only
          rw [if_neg (not_not_intro same)]
          have accepted := Answered.inAccepted offered waiting (expected.trans (congrArg some same.symm))
          rw [expected] at accepted
          exact accepted
        · dsimp only
          rw [if_pos same]
          exact .refused _
  · rw [acceptInChannel, if_pos waiting]
    exact .refused _

theorem answered_processRts (self : VirtualConnection) (channel : ChannelType) (data : Bytes) :
    Answered self (.processRts channel data) (self.processRts channel data) := by
  unfold processRts
  cases parsed : RtsPdu.parse data with
  | panicked => exact absurd parsed (RtsPdu.parse_safe data).ne_panicked
  | err error => exact .refused error
  | ok pdu =>
      cases channel with
      | outChannel =>
          cases shaped : ConnA1.fromPdu pdu with
          | panicked => exact absurd shaped (ConnA1.fromPdu_safe pdu).ne_panicked
          | err error =>
              dsimp only
              rw [shaped]
              exact .refused error
          | ok conn =>
              dsimp only
              rw [shaped]
              refine answered_acceptOutChannel self ?_
              simp only [ConnectionCall.connA1, parsed, Outcome.ok_bind, shaped]
      | inChannel =>
          cases shaped : ConnB1.fromPdu pdu with
          | panicked => exact absurd shaped (ConnB1.fromPdu_safe pdu).ne_panicked
          | err error =>
              dsimp only
              rw [shaped]
              exact .refused error
          | ok conn =>
              dsimp only
              rw [shaped]
              refine answered_acceptInChannel self ?_
              simp only [ConnectionCall.connB1, parsed, Outcome.ok_bind, shaped]

theorem answered_enterDataTransfer (self : VirtualConnection) :
    Answered self .enterDataTransfer
      (self.enterDataTransfer.1 >>= fun _ => .ok none, self.enterDataTransfer.2) := by
  by_cases established : self.state = .connectionEstablished
  · rw [enterDataTransfer, if_neg (not_not_intro established)]
    exact .entered rfl established
  · rw [enterDataTransfer, if_pos established]
    exact .refused _

theorem call_answered (self : VirtualConnection) (call : ConnectionCall) :
    Answered self call (self.call call) := by
  cases call with
  | processRts channel data => exact answered_processRts self channel data
  | acceptOutChannel conn => exact answered_acceptOutChannel self rfl
  | acceptInChannel conn => exact answered_acceptInChannel self rfl
  | enterDataTransfer => exact answered_enterDataTransfer self

/-! ## The connections that are reached -/

def opened (connA1 : ConnA1) : VirtualConnection := (new.acceptOutChannel connA1).2

def joined (connA1 : ConnA1) (connB1 : ConnB1) : VirtualConnection :=
  { opened connA1 with
    version := some connB1.version
    inChannelCookie := some connB1.inChannelCookie
    associationGroupId := some connB1.associationGroupId
    channelLifetime := some connB1.channelLifetime
    clientKeepalive := some connB1.clientKeepalive
    inCallId := some connB1.callId
    state := .connectionEstablished }

/-- The connection that the accepted CONN/A1s and CONN/B1s lead to, with the CONN/C2s
that it has answered. -/
inductive Reached : List ConnA1 → List ConnB1 → List RtsPdu → VirtualConnection → Prop where
  | fresh : Reached [] [] [] new
  | opened (connA1 : ConnA1) : Reached [connA1] [] [] (opened connA1)
  | joined {connA1 : ConnA1} {connB1 : ConnB1}
      (cookies : connB1.virtualConnectionCookie = connA1.virtualConnectionCookie) :
      Reached [connA1] [connB1] [RtsPdu.connC2 connA1.callId] (joined connA1 connB1)
  | transferring {connA1 : ConnA1} {connB1 : ConnB1}
      (cookies : connB1.virtualConnectionCookie = connA1.virtualConnectionCookie) :
      Reached [connA1] [connB1] [RtsPdu.connC2 connA1.callId]
        { joined connA1 connB1 with state := .dataTransfer }

abbrev ConnectionExchange := Exchange VirtualConnection ConnectionCall ConnectionAnswer

def acceptedA1 (exchange : ConnectionExchange) : Option ConnA1 :=
  match exchange.output with
  | .ok _ => exchange.event.connA1
  | _ => none

def acceptedB1 (exchange : ConnectionExchange) : Option ConnB1 :=
  match exchange.output with
  | .ok _ => exchange.event.connB1
  | _ => none

def answeredC2 (exchange : ConnectionExchange) : Option RtsPdu :=
  match exchange.output with
  | .ok (some connC2) => some connC2
  | _ => none

def Fixed (history : List ConnectionExchange) (self : VirtualConnection) : Prop :=
  Reached (history.filterMap acceptedA1) (history.filterMap acceptedB1)
    (history.filterMap answeredC2) self

theorem Fixed.step (history : List ConnectionExchange) (self : VirtualConnection)
    (event : ConnectionCall) (fixed : Fixed history self) :
    Fixed (history ++ [Exchange.of call self event]) (self.call event).2 := by
  have answered := call_answered self event
  unfold Fixed at fixed ⊢
  simp only [List.filterMap_append, List.filterMap_cons, List.filterMap_nil, acceptedA1, acceptedB1,
    answeredC2, Exchange.of]
  generalize self.call event = result at answered ⊢
  generalize history.filterMap acceptedA1 = firsts at fixed ⊢
  generalize history.filterMap acceptedB1 = seconds at fixed ⊢
  generalize history.filterMap answeredC2 = thirds at fixed ⊢
  cases answered with
  | refused error =>
      simp only [List.append_nil]
      exact fixed
  | @outAccepted conn offered waiting =>
      simp only [offered, ConnectionCall.connB1_of_connA1 offered, List.append_nil]
      cases fixed with
      | fresh => exact .opened conn
      | opened => cases waiting
      | joined => cases waiting
      | transferring => cases waiting
  | @inAccepted conn offered waiting cookies =>
      simp only [offered, ConnectionCall.connA1_of_connB1 offered, List.append_nil]
      cases fixed with
      | fresh => cases waiting
      | opened connA1 => exact .joined (Option.some.inj cookies).symm
      | joined => cases waiting
      | transferring => cases waiting
  | entered called established =>
      subst called
      simp only [ConnectionCall.connA1, ConnectionCall.connB1, List.append_nil]
      cases fixed with
      | fresh => cases established
      | opened => cases established
      | joined cookies => exact .transferring cookies
      | transferring => cases established

def history (calls : List ConnectionCall) : List ConnectionExchange := exchanges call new calls

theorem fixed_of_run (calls : List ConnectionCall) :
    Fixed (history calls) (stateAfter call new calls) :=
  history_invariant Fixed .fresh Fixed.step calls

/-! ## Laws -/

end VirtualConnection

def VirtualConnectionState.next : VirtualConnectionState → Option VirtualConnectionState
  | .waitingOutChannel => some .waitingInChannel
  | .waitingInChannel => some .connectionEstablished
  | .connectionEstablished => some .dataTransfer
  | .dataTransfer => none

namespace VirtualConnection

/-- Which of the fields that CONN/A1 sets are set. -/
def outSide (self : VirtualConnection) : List Bool :=
  [self.version.isSome, self.virtualConnectionCookie.isSome, self.outChannelCookie.isSome,
    self.receiveWindowSize.isSome, self.outCallId.isSome]

/-- Which of the fields that only CONN/B1 sets are set. -/
def inSide (self : VirtualConnection) : List Bool :=
  [self.inChannelCookie.isSome, self.associationGroupId.isSome, self.channelLifetime.isSome,
    self.clientKeepalive.isSome, self.inCallId.isSome]

def cookies : List (VirtualConnection → Option Uuid) :=
  [virtualConnectionCookie, outChannelCookie, inChannelCookie, associationGroupId]

def KeepsCookies (earlier later : VirtualConnection) : Prop :=
  ∀ cookie ∈ cookies, ∀ value, cookie earlier = some value → cookie later = some value

theorem KeepsCookies.refl (self : VirtualConnection) : KeepsCookies self self :=
  fun _ _ _ set => set

theorem KeepsCookies.trans {first second third : VirtualConnection}
    (front : KeepsCookies first second) (back : KeepsCookies second third) :
    KeepsCookies first third :=
  fun cookie member value set => back cookie member value (front cookie member value set)

section Laws

variable {firsts : List ConnA1} {seconds : List ConnB1} {thirds : List RtsPdu}
  {self : VirtualConnection}

/-- A call sets a cookie only where none was set. -/
theorem Reached.keeps (reached : Reached firsts seconds thirds self) (event : ConnectionCall) :
    KeepsCookies self (self.call event).2 := by
  have answered := call_answered self event
  generalize self.call event = result at answered ⊢
  intro cookie member value set
  simp only [cookies, List.mem_cons, List.not_mem_nil, or_false] at member
  cases answered with
  | refused error => exact set
  | outAccepted offered waiting =>
      cases reached with
      | fresh => rcases member with rfl | rfl | rfl | rfl <;> cases set
      | opened => cases waiting
      | joined => cases waiting
      | transferring => cases waiting
  | inAccepted offered waiting same =>
      cases reached with
      | fresh => cases waiting
      | opened connA1 =>
          rcases member with rfl | rfl | rfl | rfl
          · exact set
          · exact set
          · cases set
          · cases set
      | joined => cases waiting
      | transferring => cases waiting
  | entered called established => rcases member with rfl | rfl | rfl | rfl <;> exact set

theorem Answered.forward {event : ConnectionCall} {result : ConnectionAnswer × VirtualConnection}
    (answered : Answered self event result) :
    result.2.state = self.state ∨ self.state.next = some result.2.state := by
  cases answered with
  | refused error => exact .inl rfl
  | outAccepted offered waiting =>
      rw [waiting]
      exact .inr rfl
  | inAccepted offered waiting same =>
      rw [waiting]
      exact .inr rfl
  | entered called established =>
      rw [established]
      exact .inr rfl

theorem Answered.atomic {event : ConnectionCall} {result : ConnectionAnswer × VirtualConnection}
    (answered : Answered self event result) (failed : ∀ response, result.1 ≠ .ok response) :
    result.2 = self := by
  cases answered with
  | refused error => rfl
  | outAccepted => exact absurd rfl (failed _)
  | inAccepted => exact absurd rfl (failed _)
  | entered => exact absurd rfl (failed _)

theorem Reached.outSide (reached : Reached firsts seconds thirds self) :
    ∀ set ∈ self.outSide, (set = true ↔ self.state ≠ .waitingOutChannel) := by
  cases reached <;> simp [VirtualConnection.outSide, new, VirtualConnection.opened, acceptOutChannel,
    VirtualConnection.joined]

theorem Reached.inSide (reached : Reached firsts seconds thirds self) :
    ∀ set ∈ self.inSide,
      (set = true ↔ self.state = .connectionEstablished ∨ self.state = .dataTransfer) := by
  cases reached <;> simp [VirtualConnection.inSide, new, VirtualConnection.opened, acceptOutChannel,
    VirtualConnection.joined]

theorem Reached.oneC2 (reached : Reached firsts seconds thirds self) :
    thirds = [] ∨ ∃ connA1 connB1, firsts = [connA1] ∧ seconds = [connB1] ∧
      thirds = [RtsPdu.connC2 connA1.callId] ∧
      connB1.virtualConnectionCookie = connA1.virtualConnectionCookie := by
  cases reached with
  | fresh => exact .inl rfl
  | opened => exact .inl rfl
  | joined same => exact .inr ⟨_, _, rfl, rfl, rfl, same⟩
  | transferring same => exact .inr ⟨_, _, rfl, rfl, rfl, same⟩

theorem Reached.waiting (reached : Reached firsts seconds thirds self)
    (waiting : self.state = .waitingInChannel) :
    ∃ connA1, firsts = [connA1] ∧
      self.virtualConnectionCookie = some connA1.virtualConnectionCookie ∧
      self.outCallId = some connA1.callId := by
  cases reached with
  | fresh => cases waiting
  | opened connA1 => exact ⟨connA1, rfl, rfl, rfl⟩
  | joined => cases waiting
  | transferring => cases waiting

end Laws

theorem keepsCookies_of_run (calls more : List ConnectionCall) :
    KeepsCookies (stateAfter call new calls) (stateAfter call new (calls ++ more)) := by
  induction more using List.reverseRecOn with
  | nil =>
      rw [List.append_nil]
      exact .refl _
  | append_singleton more last ih =>
      rw [← List.append_assoc, stateAfter_append]
      exact ih.trans ((fixed_of_run (calls ++ more)).keeps last)

/-- What holds after, and at every call of, a run on a fresh connection. The calls are
arbitrary, so the fields about the last state speak about every state. -/
structure ConnectionLaws (calls : List ConnectionCall) : Prop where
  forward : ∀ exchange ∈ history calls,
    exchange.after.state = exchange.before.state ∨
      exchange.before.state.next = some exchange.after.state
  atomic : ∀ exchange ∈ history calls, (∀ response, exchange.output ≠ .ok response) →
    exchange.after = exchange.before
  outSide : ∀ set ∈ (stateAfter call new calls).outSide,
    (set = true ↔ (stateAfter call new calls).state ≠ .waitingOutChannel)
  inSide : ∀ set ∈ (stateAfter call new calls).inSide,
    (set = true ↔ (stateAfter call new calls).state = .connectionEstablished ∨
      (stateAfter call new calls).state = .dataTransfer)
  cookies : ∀ more, KeepsCookies (stateAfter call new calls) (stateAfter call new (calls ++ more))
  oneC2 : (history calls).filterMap answeredC2 = [] ∨
    ∃ connA1 connB1, (history calls).filterMap acceptedA1 = [connA1] ∧
      (history calls).filterMap acceptedB1 = [connB1] ∧
      (history calls).filterMap answeredC2 = [RtsPdu.connC2 connA1.callId] ∧
      connB1.virtualConnectionCookie = connA1.virtualConnectionCookie
  -- the state in which `accept_in_channel` reads the two optional fields
  waiting : (stateAfter call new calls).state = .waitingInChannel →
    ∃ connA1, (history calls).filterMap acceptedA1 = [connA1] ∧
      (stateAfter call new calls).virtualConnectionCookie = some connA1.virtualConnectionCookie ∧
      (stateAfter call new calls).outCallId = some connA1.callId

theorem exchange_answered {calls : List ConnectionCall} {exchange : ConnectionExchange}
    (taken : exchange ∈ history calls) :
    Answered exchange.before exchange.event (exchange.output, exchange.after) := by
  rw [mem_exchanges taken]
  exact call_answered exchange.before exchange.event

theorem connection_laws (calls : List ConnectionCall) : ConnectionLaws calls where
  forward _ taken := (exchange_answered taken).forward
  atomic _ taken failed := (exchange_answered taken).atomic failed
  outSide := (fixed_of_run calls).outSide
  inSide := (fixed_of_run calls).inSide
  cookies := keepsCookies_of_run calls
  oneC2 := (fixed_of_run calls).oneC2
  waiting := (fixed_of_run calls).waiting

end VirtualConnection

end RdGateway.Proto
