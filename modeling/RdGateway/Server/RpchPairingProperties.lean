import RdGateway.Server.RpchPairing

/-!
# IN and OUT channels are paired safely

One invariant ties the key of an entry, the connection stored in it and the CONN/A1
of its sender together, and says that a sender is in one place only: in the map, or
with one IN request. Every step keeps it.
-/

set_option autoImplicit false

namespace RdGateway.Server

open Wirekit Proto RdGateway.Core

/-! ## The invariant -/

def registeredBy (connA1 : ConnA1) : VirtualConnection :=
  (VirtualConnection.new.acceptOutChannel connA1).2

theorem readConnA1_vconn {body : List BodyFrame} {connA1 : ConnA1} {vconn : VirtualConnection}
    (read : readConnA1 body = .ok (connA1, vconn)) : vconn = registeredBy connA1 := by
  unfold readConnA1 at read
  dsimp only at read
  split at read
  · cases read
  · split at read
    · cases read
    · split at read
      · split at read
        · next accepted =>
          cases read
          rw [registeredBy, accepted]
        · cases read
      · cases read

theorem acceptInChannel_registered {connA1 : ConnA1} {connB1 : ConnB1}
    (cookies : connA1.virtualConnectionCookie = connB1.virtualConnectionCookie) :
    ((registeredBy connA1).acceptInChannel connB1).1 = .ok (RtsPdu.connC2 connA1.callId) := by
  simp only [VirtualConnection.acceptInChannel, registeredBy, VirtualConnection.acceptOutChannel,
    VirtualConnection.new, cookies, ne_eq, not_true_eq_false, if_false]
  rfl

/-- An entry under its key: the sender was created by a CONN/A1 with this cookie. -/
def EntryOk (outs : Store SenderId OutChannel) (log : SenderId → List Bytes) (cookie : Uuid)
    (entry : PendingConnection) : Prop :=
  ∃ connA1, outs entry.outSender = some (.registered connA1) ∧
    connA1.virtualConnectionCookie = cookie ∧ entry.vconn = registeredBy connA1 ∧
    log entry.outSender = []

def PhaseOk (outs : Store SenderId OutChannel) (log : SenderId → List Bytes) : InChannel → Prop
  | .matched connB1 entry _ _ => EntryOk outs log connB1.virtualConnectionCookie entry
  | .answering connB1 sender connC2 _ _ _ =>
      ∃ connA1, outs sender = some (.registered connA1) ∧
        connA1.virtualConnectionCookie = connB1.virtualConnectionCookie ∧
        connC2 = RtsPdu.connC2 connA1.callId ∧ log sender = []
  | .streaming _ sender _ => log sender ≠ []
  | _ => True

/-- What a sender took: nothing, or one CONN/C2 and then no further RTS frame. -/
inductive LogOk (labels : List Action) (outs : Store SenderId OutChannel) (sender : SenderId) :
    List Bytes → Prop where
  | silent : LogOk labels outs sender []
  | answered {connA1 : ConnA1} {thread : ThreadId} {connB1 : ConnB1} {rest : List Bytes}
      (registered : outs sender = some (.registered connA1))
      (caused : Action.sendC2 thread connB1 sender true ∈ labels)
      (cookies : connA1.virtualConnectionCookie = connB1.virtualConnectionCookie)
      (noRts : ∀ frame ∈ rest, ¬ IsRts frame) :
      LogOk labels outs sender ((RtsPdu.connC2 connA1.callId).toBytes :: rest)

def Holds (ins : Store ThreadId InChannel) (thread : ThreadId) (sender : SenderId) : Prop :=
  ∃ phase, ins thread = some phase ∧ phase.sender = some sender

/-- The removals of the thread that took an entry out of the map. -/
def Action.consumes (thread : ThreadId) : Action → Bool
  | .remove actor _ (some _) => actor = thread
  | _ => false

def consumed : Option InChannel → Nat
  | none => 0
  | some (.waiting _ _ _) => 0
  | _ => 1

structure Paired (labels : List Action) (ch : Channels) : Prop where
  accepted : ∀ sender connA1 vconn, ch.outs sender = some (.accepted connA1 vconn) →
    vconn = registeredBy connA1
  entries : ∀ cookie entry, ch.pending cookie = some entry → EntryOk ch.outs ch.log cookie entry
  phases : ∀ thread phase, ch.ins thread = some phase → PhaseOk ch.outs ch.log phase
  apart : ∀ cookie entry thread, ch.pending cookie = some entry →
    ¬ Holds ch.ins thread entry.outSender
  unique : ∀ thread other sender, Holds ch.ins thread sender → Holds ch.ins other sender →
    thread = other
  logs : ∀ sender, LogOk labels ch.outs sender (ch.log sender)
  accepts : ∀ thread connB1 result, Action.accept thread connB1 result ∈ labels →
    ∃ connC2, result = .ok connC2
  removals : ∀ thread, labels.countP (Action.consumes thread) ≤ consumed (ch.ins thread)

theorem Paired.init : Paired [] Channels.init where
  accepted _ _ _ present := nomatch present
  entries _ _ present := nomatch present
  phases _ _ present := nomatch present
  apart _ _ _ present := nomatch present
  unique _ _ _ held := nomatch held.choose_spec.1
  logs _ := .silent
  accepts _ _ _ member := nomatch member
  removals _ := Nat.le_refl 0

/-! ## What survives a change elsewhere -/

section Frame

variable {outs laterOuts : Store SenderId OutChannel} {log laterLog : SenderId → List Bytes}

theorem EntryOk.frame {cookie : Uuid} {entry : PendingConnection}
    (kept : ∀ connA1, outs entry.outSender = some (.registered connA1) →
      laterOuts entry.outSender = some (.registered connA1))
    (same : laterLog entry.outSender = log entry.outSender) (ok : EntryOk outs log cookie entry) :
    EntryOk laterOuts laterLog cookie entry := by
  obtain ⟨connA1, registered, cookies, vconn, silent⟩ := ok
  exact ⟨connA1, kept connA1 registered, cookies, vconn, same.trans silent⟩

theorem PhaseOk.frame {phase : InChannel}
    (kept : ∀ sender connA1, outs sender = some (.registered connA1) →
      laterOuts sender = some (.registered connA1))
    (same : ∀ sender, phase.sender = some sender → laterLog sender = log sender)
    (ok : PhaseOk outs log phase) : PhaseOk laterOuts laterLog phase := by
  cases phase with
  | waiting => trivial
  | matched connB1 entry => exact EntryOk.frame (kept _) (same _ rfl) ok
  | answering connB1 sender connC2 =>
      obtain ⟨connA1, registered, cookies, answer, silent⟩ := ok
      exact ⟨connA1, kept _ _ registered, cookies, answer, (same _ rfl).trans silent⟩
  | streaming connB1 sender =>
      intro silent
      exact ok ((same _ rfl).symm.trans silent)
  | closed => trivial

theorem LogOk.frame {labels later : List Action} {sender : SenderId} {frames : List Bytes}
    (kept : ∀ connA1, outs sender = some (.registered connA1) →
      laterOuts sender = some (.registered connA1))
    (ok : LogOk labels outs sender frames) : LogOk (labels ++ later) laterOuts sender frames := by
  cases ok with
  | silent => exact .silent
  | answered registered caused cookies noRts =>
      exact .answered (kept _ registered) (List.mem_append_left _ caused) cookies noRts

theorem LogOk.extend {labels : List Action} {sender : SenderId} {frames more : List Bytes}
    (ok : LogOk labels outs sender frames) (started : frames ≠ [])
    (noRts : ∀ frame ∈ more, ¬ IsRts frame) : LogOk labels outs sender (frames ++ more) := by
  cases ok with
  | silent => exact absurd rfl started
  | answered registered caused cookies earlier =>
      refine .answered registered caused cookies fun frame member => ?_
      rcases List.mem_append.mp member with old | new
      · exact earlier frame old
      · exact noRts frame new

end Frame

theorem holds_insert {ins : Store ThreadId InChannel} {thread other : ThreadId} {phase : InChannel}
    {sender : SenderId} (held : Holds (ins.insert thread phase) other sender) :
    (other = thread ∧ phase.sender = some sender) ∨ (other ≠ thread ∧ Holds ins other sender) := by
  obtain ⟨found, present, named⟩ := held
  rcases Store.insert_eq_some present with ⟨rfl, rfl⟩ | ⟨different, before⟩
  · exact .inl ⟨rfl, named⟩
  · exact .inr ⟨different, found, before, named⟩

namespace Paired

variable {labels : List Action} {ch : Channels}

theorem held_registered (paired : Paired labels ch) {thread : ThreadId} {sender : SenderId}
    (held : Holds ch.ins thread sender) : ∃ connA1, ch.outs sender = some (.registered connA1) := by
  obtain ⟨phase, present, named⟩ := held
  have ok := paired.phases thread phase present
  cases phase with
  | waiting => cases named
  | matched =>
      cases named
      obtain ⟨connA1, registered, _⟩ := ok
      exact ⟨connA1, registered⟩
  | answering =>
      cases named
      obtain ⟨connA1, registered, _⟩ := ok
      exact ⟨connA1, registered⟩
  | streaming connB1 sender =>
      cases named
      have log := paired.logs sender
      cases sent : ch.log sender with
      | nil => exact absurd sent ok
      | cons =>
          rw [sent] at log
          cases log with
          | answered registered => exact ⟨_, registered⟩
  | closed => cases named

theorem unregistered_silent (paired : Paired labels ch) {sender : SenderId}
    (unregistered : ∀ connA1, ch.outs sender ≠ some (.registered connA1)) : ch.log sender = [] := by
  have log := paired.logs sender
  cases sent : ch.log sender with
  | nil => rfl
  | cons =>
      rw [sent] at log
      cases log with
      | answered registered => exact absurd registered (unregistered _)

theorem accepts_append (paired : Paired labels ch) {label : Action}
    (fine : ∀ thread connB1 result, label = .accept thread connB1 result →
      ∃ connC2, result = .ok connC2)
    (thread : ThreadId) (connB1 : ConnB1) (result : Outcome RpchError RtsPdu)
    (member : Action.accept thread connB1 result ∈ labels ++ [label]) :
    ∃ connC2, result = .ok connC2 := by
  rcases List.mem_append.mp member with old | new
  · exact paired.accepts thread connB1 result old
  · exact fine thread connB1 result (List.mem_singleton.mp new).symm

theorem removals_append (paired : Paired labels ch) {label : Action}
    (quiet : ∀ thread, label.consumes thread = false) (thread : ThreadId) :
    (labels ++ [label]).countP (Action.consumes thread) ≤ consumed (ch.ins thread) := by
  rw [List.countP_append, List.countP_singleton, quiet thread]
  exact paired.removals thread

/-! ## One step -/

theorem out_moves (paired : Paired labels ch) {label : Action} {sender : SenderId}
    {phase : OutChannel} (unregistered : ∀ connA1, ch.outs sender ≠ some (.registered connA1))
    (fine : ∀ connA1 vconn, phase = .accepted connA1 vconn → vconn = registeredBy connA1)
    (noAccept : ∀ thread connB1 result, label = .accept thread connB1 result →
      ∃ connC2, result = .ok connC2)
    (quiet : ∀ thread, label.consumes thread = false) :
    Paired (labels ++ [label]) { ch with outs := ch.outs.insert sender phase } := by
  have kept : ∀ other connA1, ch.outs other = some (.registered connA1) →
      ch.outs.insert sender phase other = some (.registered connA1) := by
    intro other connA1 registered
    by_cases same : other = sender
    · subst same
      exact absurd registered (unregistered connA1)
    · rw [Store.insert_of_ne same, registered]
  constructor
  case accepted =>
    intro other connA1 vconn present
    rcases Store.insert_eq_some present with ⟨_, moved⟩ | ⟨_, before⟩
    · exact fine connA1 vconn moved.symm
    · exact paired.accepted other connA1 vconn before
  case entries =>
    intro cookie entry present
    exact (paired.entries cookie entry present).frame (kept _) rfl
  case phases =>
    intro thread phase present
    exact (paired.phases thread phase present).frame kept fun _ _ => rfl
  case apart => exact paired.apart
  case unique => exact paired.unique
  case logs =>
    intro other
    exact (paired.logs other).frame (kept other)
  case accepts => exact paired.accepts_append noAccept
  case removals => exact paired.removals_append quiet

/-- The registered sender enters the map, where it replaces an entry with its cookie. -/
theorem out_inserts (paired : Paired labels ch) {sender : SenderId} {connA1 : ConnA1}
    {vconn : VirtualConnection} (ready : ch.outs sender = some (.accepted connA1 vconn)) :
    Paired (labels ++ [.insert sender connA1])
      { ch with
        pending := ch.pending.insert connA1.virtualConnectionCookie { vconn, outSender := sender }
        outs := ch.outs.insert sender (.registered connA1) } := by
  have unregistered : ∀ other, ch.outs sender ≠ some (.registered other) := by
    intro other registered
    rw [ready] at registered
    cases registered
  have moved : Paired (labels ++ [.insert sender connA1])
      { ch with outs := ch.outs.insert sender (.registered connA1) } :=
    paired.out_moves unregistered (fun _ _ same => nomatch same) (fun _ _ _ same => nomatch same)
      fun _ => rfl
  refine { moved with entries := ?_, apart := ?_ }
  · intro cookie entry present
    rcases Store.insert_eq_some present with ⟨rfl, rfl⟩ | ⟨_, before⟩
    · exact ⟨connA1, Store.insert_self _ _ _, rfl, paired.accepted _ _ _ ready,
        paired.unregistered_silent unregistered⟩
    · exact moved.entries cookie entry before
  · intro cookie entry thread present held
    rcases Store.insert_eq_some present with ⟨rfl, rfl⟩ | ⟨_, before⟩
    · obtain ⟨other, registered⟩ := paired.held_registered held
      exact unregistered other registered
    · exact moved.apart cookie entry thread before held

/-- An IN request moves on with the sender it holds, and only that sender takes frames. -/
theorem in_moves (paired : Paired labels ch) {label : Action} {thread : ThreadId}
    {phase : InChannel} {log : SenderId → List Bytes}
    (others : ∀ sender, ¬ Holds ch.ins thread sender → log sender = ch.log sender)
    (logs : ∀ sender, Holds ch.ins thread sender →
      LogOk (labels ++ [label]) ch.outs sender (log sender))
    (held : ∀ sender, phase.sender = some sender → Holds ch.ins thread sender)
    (ok : PhaseOk ch.outs log phase)
    (noAccept : ∀ thread connB1 result, label = .accept thread connB1 result →
      ∃ connC2, result = .ok connC2)
    (quiet : ∀ thread, label.consumes thread = false)
    (counted : consumed (ch.ins thread) ≤ consumed (some phase)) :
    Paired (labels ++ [label]) { ch with log, ins := ch.ins.insert thread phase } := by
  have before : ∀ {other sender}, Holds (ch.ins.insert thread phase) other sender →
      Holds ch.ins other sender := by
    intro other sender now
    rcases holds_insert now with ⟨rfl, named⟩ | ⟨_, earlier⟩
    · exact held sender named
    · exact earlier
  constructor
  case accepted => exact paired.accepted
  case entries =>
    intro cookie entry present
    exact (paired.entries cookie entry present).frame (fun _ registered => registered)
      (others _ (paired.apart cookie entry thread present))
  case phases =>
    intro other found present
    rcases Store.insert_eq_some present with ⟨rfl, rfl⟩ | ⟨different, earlier⟩
    · exact ok
    · refine (paired.phases other found earlier).frame (fun _ _ registered => registered) ?_
      intro sender named
      exact others sender fun mine =>
        different (paired.unique other thread sender ⟨found, earlier, named⟩ mine)
  case apart =>
    intro cookie entry other present now
    exact paired.apart cookie entry other present (before now)
  case unique =>
    intro other another sender first second
    exact paired.unique other another sender (before first) (before second)
  case logs =>
    intro sender
    by_cases mine : Holds ch.ins thread sender
    · exact logs sender mine
    · change LogOk (labels ++ [label]) ch.outs sender (log sender)
      rw [others sender mine]
      exact (paired.logs sender).frame fun _ registered => registered
  case accepts => exact paired.accepts_append noAccept
  case removals =>
    intro other
    have few := paired.removals_append quiet other
    by_cases same : other = thread
    · subst same
      change _ ≤ consumed (ch.ins.insert other phase other)
      rw [Store.insert_self]
      exact Nat.le_trans few counted
    · change _ ≤ consumed (ch.ins.insert thread phase other)
      rw [Store.insert_of_ne same]
      exact few

/-- An IN request takes an entry out of the map and becomes the holder of its sender. -/
theorem in_removes (paired : Paired labels ch) {thread : ThreadId} {connB1 : ConnB1} {buf : Bytes}
    {body : List BodyFrame} {entry : PendingConnection}
    (ready : ch.ins thread = some (.waiting connB1 buf body))
    (present : ch.pending connB1.virtualConnectionCookie = some entry) :
    Paired (labels ++ [.remove thread connB1 (some entry.outSender)])
      { ch with
        pending := ch.pending.remove connB1.virtualConnectionCookie
        ins := ch.ins.insert thread (.matched connB1 entry buf body) } := by
  have ok := paired.entries _ entry present
  have free : ∀ other, ¬ Holds ch.ins other entry.outSender :=
    fun other => paired.apart _ entry other present
  constructor
  case accepted => exact paired.accepted
  case entries =>
    intro cookie other found
    exact paired.entries cookie other (Store.remove_eq_some found).2
  case phases =>
    intro other phase found
    rcases Store.insert_eq_some found with ⟨rfl, rfl⟩ | ⟨_, earlier⟩
    · exact ok
    · exact paired.phases other phase earlier
  case apart =>
    intro cookie other actor found held
    obtain ⟨different, before⟩ := Store.remove_eq_some found
    rcases holds_insert held with ⟨rfl, named⟩ | ⟨_, earlier⟩
    · -- two entries of one sender would have the cookie of one CONN/A1
      obtain ⟨connA1, registered, cookies, _⟩ := ok
      obtain ⟨otherA1, otherRegistered, otherCookies, _⟩ := paired.entries cookie other before
      have named : entry.outSender = other.outSender := Option.some.inj named
      rw [← named, registered] at otherRegistered
      cases otherRegistered
      exact different (otherCookies.symm.trans cookies)
    · exact paired.apart cookie other actor before earlier
  case unique =>
    intro first second sender firstHeld secondHeld
    rcases holds_insert firstHeld with ⟨rfl, firstNamed⟩ | ⟨_, firstBefore⟩
    · rcases holds_insert secondHeld with ⟨rfl, _⟩ | ⟨_, secondBefore⟩
      · rfl
      · cases firstNamed
        exact absurd secondBefore (free second)
    · rcases holds_insert secondHeld with ⟨rfl, secondNamed⟩ | ⟨_, secondBefore⟩
      · cases secondNamed
        exact absurd firstBefore (free first)
      · exact paired.unique first second sender firstBefore secondBefore
  case logs =>
    intro sender
    exact (paired.logs sender).frame fun _ registered => registered
  case accepts => exact paired.accepts_append fun _ _ _ same => nomatch same
  case removals =>
    intro other
    have few := paired.removals other
    rw [List.countP_append, List.countP_singleton]
    by_cases same : other = thread
    · subst same
      rw [ready] at few
      change _ ≤ consumed (ch.ins.insert other _ other)
      rw [Store.insert_self]
      simp only [consumed] at few ⊢
      split <;> omega
    · have quiet : Action.consumes other (.remove thread connB1 (some entry.outSender)) = false :=
        decide_eq_false fun actor => same actor.symm
      change _ ≤ consumed (ch.ins.insert thread _ other)
      rw [Store.insert_of_ne same, quiet]
      exact few

/-- The holder of a sender lets it take the frames. -/
theorem push_others {thread : ThreadId} {sender : SenderId} (held : Holds ch.ins thread sender)
    (frames : List Bytes) (other : SenderId) (free : ¬ Holds ch.ins thread other) :
    pushFrames ch.log sender frames other = ch.log other := by
  refine pushFrames_of_ne _ ?_ _
  rintro rfl
  exact free held

theorem holds_one {thread : ThreadId} {sender other : SenderId} (held : Holds ch.ins thread sender)
    (second : Holds ch.ins thread other) : other = sender := by
  obtain ⟨phase, present, named⟩ := held
  obtain ⟨_, again, otherNamed⟩ := second
  rw [present] at again
  cases again
  rw [named] at otherNamed
  exact (Option.some.inj otherNamed).symm

theorem logs_kept (paired : Paired labels ch) (label : Action) (sender : SenderId) :
    LogOk (labels ++ [label]) ch.outs sender (ch.log sender) :=
  (paired.logs sender).frame fun _ registered => registered

theorem in_accepts (paired : Paired labels ch) {thread : ThreadId} {connB1 : ConnB1}
    {entry : PendingConnection} {buf : Bytes} {body : List BodyFrame}
    (ready : ch.ins thread = some (.matched connB1 entry buf body)) :
    Paired (labels ++ [.accept thread connB1 (entry.vconn.acceptInChannel connB1).1])
      { ch with ins := ch.ins.insert thread (.answer connB1 entry buf body) } := by
  obtain ⟨connA1, registered, cookies, vconn, silent⟩ := paired.phases _ _ ready
  have succeeds : (entry.vconn.acceptInChannel connB1).1 = .ok (RtsPdu.connC2 connA1.callId) := by
    rw [vconn]
    exact acceptInChannel_registered cookies
  obtain ⟨after, answers⟩ : ∃ after, InChannel.answer connB1 entry buf body =
      .answering connB1 entry.outSender (RtsPdu.connC2 connA1.callId) after buf body := by
    rcases tried : entry.vconn.acceptInChannel connB1 with ⟨result, after⟩
    rw [tried] at succeeds
    cases succeeds
    exact ⟨after, by rw [InChannel.answer, tried]⟩
  rw [answers]
  refine paired.in_moves (fun _ _ => rfl) (fun sender _ => paired.logs_kept _ sender)
    (fun sender named => ⟨_, ready, named⟩) ⟨connA1, registered, cookies, rfl, silent⟩
    (fun _ _ _ same => ?_) (fun _ => rfl) ?_
  · cases same
    exact ⟨_, succeeds⟩
  · rw [ready]
    exact Nat.le_refl _

theorem in_sends (paired : Paired labels ch) {thread : ThreadId} {connB1 : ConnB1}
    {sender : SenderId} {connC2 : RtsPdu} {vconn : VirtualConnection} {buf : Bytes}
    {body : List BodyFrame}
    (ready : ch.ins thread = some (.answering connB1 sender connC2 vconn buf body)) :
    Paired (labels ++ [.sendC2 thread connB1 sender true])
      { ch with
        log := pushFrames ch.log sender [connC2.toBytes]
        ins := ch.ins.insert thread
          (.streaming connB1 sender (.established vconn connC2 buf body)) } := by
  obtain ⟨connA1, registered, cookies, rfl, silent⟩ := paired.phases _ _ ready
  have held : Holds ch.ins thread sender := ⟨_, ready, rfl⟩
  have log : pushFrames ch.log sender [(RtsPdu.connC2 connA1.callId).toBytes] sender =
      [(RtsPdu.connC2 connA1.callId).toBytes] := by
    rw [pushFrames_self, silent, List.nil_append]
  have caused : Action.sendC2 thread connB1 sender true ∈
      labels ++ [.sendC2 thread connB1 sender true] :=
    List.mem_append_right _ (List.mem_singleton.mpr rfl)
  refine paired.in_moves (push_others held _) (fun other second => ?_)
    (fun other named => ⟨_, ready, named⟩) ?_ (fun _ _ _ same => nomatch same) (fun _ => rfl) ?_
  · cases holds_one held second
    rw [log]
    exact .answered registered caused cookies fun _ member => nomatch member
  · change pushFrames ch.log sender _ sender ≠ []
    rw [log]
    exact List.cons_ne_nil _ _
  · rw [ready]
    exact Nat.le_refl _

theorem in_rounds (paired : Paired labels ch) {thread : ThreadId} {connB1 : ConnB1}
    {sender : SenderId} {input : RpcInput}
    (ready : ch.ins thread = some (.streaming connB1 sender input)) (accepts : Nat → Bool) :
    Paired (labels ++ [.round thread sender])
      { ch with
        log := pushFrames ch.log sender (roundFrames input (rpcRound accepts input))
        ins := ch.ins.insert thread (.proceed connB1 sender (rpcRound accepts input)) } := by
  have started : ch.log sender ≠ [] := paired.phases _ _ ready
  have held : Holds ch.ins thread sender := ⟨_, ready, rfl⟩
  refine paired.in_moves (push_others held _) (fun other second => ?_) (fun other named => ?_)
    ?_ (fun _ _ _ same => nomatch same) (fun _ => rfl) ?_
  · cases holds_one held second
    rw [pushFrames_self]
    exact (paired.logs_kept _ sender).extend started fun _ member => roundFrames_not_rts member
  · refine ⟨_, ready, ?_⟩
    cases round : rpcRound accepts input with
    | next => rw [round] at named; exact named
    | done result => rw [round] at named; rcases result with ⟨_ | _, _⟩ <;> cases named
  · cases rpcRound accepts input with
    | next =>
        change pushFrames ch.log sender _ sender ≠ []
        rw [pushFrames_self]
        exact fun empty => started (List.append_eq_nil_iff.mp empty).1
    | done result => rcases result with ⟨_ | _, _⟩ <;> trivial
  · rw [ready]
    rcases rpcRound accepts input with ⟨_ | _, _⟩ | _ <;> exact Nat.le_refl _

theorem step (paired : Paired labels ch) {label : Action} {next : Channels}
    (taken : Step ch label next) : Paired (labels ++ [label]) next := by
  cases taken with
  | outRequest unused body =>
      refine paired.out_moves (fun _ registered => ?_) (fun connA1 vconn started => ?_)
        (fun _ _ _ same => nomatch same) fun _ => rfl
      · rw [unused] at registered
        cases registered
      · cases read : readConnA1 body with
        | error => rw [read] at started; cases started
        | ok accepted =>
            rw [read] at started
            cases started
            exact readConnA1_vconn read
  | insert ready => exact paired.out_inserts ready
  | inRequest unused body =>
      refine paired.in_moves (fun _ _ => rfl) (fun sender _ => paired.logs_kept _ sender)
        (fun sender named => ?_) ?_ (fun _ _ _ same => nomatch same) (fun _ => rfl) ?_
      · cases read : readConnB1 body <;> rw [read] at named <;> cases named
      · cases readConnB1 body <;> trivial
      · rw [unused]
        exact Nat.zero_le _
  | @remove thread connB1 buf body ready =>
      cases present : ch.pending connB1.virtualConnectionCookie with
      | some entry => exact paired.in_removes ready present
      | none =>
          rw [Store.remove_of_none present]
          refine paired.in_moves (fun _ _ => rfl) (fun sender _ => paired.logs_kept _ sender)
            (fun _ named => nomatch named) trivial (fun _ _ _ same => nomatch same) (fun _ => rfl) ?_
          rw [ready]
          exact Nat.zero_le _
  | accept ready => exact paired.in_accepts ready
  | sendTaken ready => exact paired.in_sends ready
  | sendLost ready =>
      refine paired.in_moves (fun _ _ => rfl) (fun sender _ => paired.logs_kept _ sender)
        (fun _ named => nomatch named) trivial (fun _ _ _ same => nomatch same) (fun _ => rfl) ?_
      rw [ready]
      exact Nat.le_refl _
  | round ready accepts => exact paired.in_rounds ready accepts

end Paired

theorem paired_of_run {labels : List Action} {ch : Channels}
    (run : Steps Step Channels.init labels ch) : Paired labels ch :=
  run.invariant Paired Paired.init fun _ _ _ _ paired taken => paired.step taken

/-! ## Safety -/

theorem LogOk.countP_le {labels : List Action} {outs : Store SenderId OutChannel}
    {sender : SenderId} {frames : List Bytes} (ok : LogOk labels outs sender frames) :
    frames.countP (fun frame => IsRts frame) ≤ 1 := by
  cases ok with
  | silent => exact Nat.zero_le 1
  | answered registered caused cookies noRts =>
      have none : List.countP (fun frame => decide (IsRts frame)) _ = 0 :=
        List.countP_eq_zero.mpr fun frame member => by simpa using noRts frame member
      rw [List.countP_cons, none]
      split <;> decide

theorem consumed_le (phase : Option InChannel) : consumed phase ≤ 1 := by
  rcases phase with _ | (_ | _ | _ | _ | _)
  all_goals first
    | exact Nat.zero_le 1
    | exact Nat.le_refl 1

/-- What a run through `labels` to `ch` has kept. The RTS frames that a sender takes
are its CONN/C2s. -/
structure PairingSafe (labels : List Action) (ch : Channels) : Prop where
  entries : ∀ cookie entry, ch.pending cookie = some entry →
    entry.vconn.state = .waitingInChannel ∧ entry.vconn.virtualConnectionCookie = some cookie
  accepts : ∀ thread connB1 result, Action.accept thread connB1 result ∈ labels →
    ∃ connC2, result = .ok connC2
  oneC2 : ∀ sender, (ch.log sender).countP (fun frame => IsRts frame) ≤ 1
  answers : ∀ sender frame, frame ∈ ch.log sender → IsRts frame →
    ∃ connA1 thread connB1, ch.outs sender = some (.registered connA1) ∧
      frame = (RtsPdu.connC2 connA1.callId).toBytes ∧
      Action.sendC2 thread connB1 sender true ∈ labels ∧
      connB1.virtualConnectionCookie = connA1.virtualConnectionCookie
  consumes : ∀ thread, labels.countP (Action.consumes thread) ≤ 1

/-- Whatever the requests send and however their steps interleave, the map holds
connections that wait for the IN channel of their own key, no `accept_in_channel`
fails, and every OUT channel gets at most one CONN/C2: its own. -/
theorem pairing_safe {labels : List Action} {ch : Channels}
    (run : Steps Step Channels.init labels ch) : PairingSafe labels ch where
  entries cookie entry present := by
    obtain ⟨connA1, _, cookies, vconn, _⟩ := (paired_of_run run).entries cookie entry present
    rw [vconn]
    exact ⟨rfl, congrArg some cookies⟩
  accepts := (paired_of_run run).accepts
  oneC2 sender := ((paired_of_run run).logs sender).countP_le
  answers sender frame member rts := by
    have log := (paired_of_run run).logs sender
    cases sent : ch.log sender with
    | nil =>
        rw [sent] at member
        cases member
    | cons first rest =>
        rw [sent] at log member
        cases log with
        | answered registered caused cookies noRts =>
            rcases List.mem_cons.mp member with rfl | later
            · exact ⟨_, _, _, registered, rfl, caused, cookies.symm⟩
            · exact absurd rts (noRts frame later)
  consumes thread := Nat.le_trans ((paired_of_run run).removals thread) (consumed_le _)

def sampleCookie : Uuid := { d1 := 1, d2 := 2, d3 := 3, d4 := #v[4, 5, 6, 7, 8, 9, 10, 11] }

def sampleA1 : ConnA1 :=
  { callId := 7, version := 1, virtualConnectionCookie := sampleCookie
    outChannelCookie := sampleCookie, receiveWindowSize := 262144 }

def sampleB1 : ConnB1 :=
  { callId := 8, version := 1, virtualConnectionCookie := sampleCookie
    inChannelCookie := sampleCookie, channelLifetime := 1073741824, clientKeepalive := 300000
    associationGroupId := sampleCookie }

theorem pairing_safe_one_pair :
    ∃ ch, ch.log 0 = [(RtsPdu.connC2 7).toBytes] ∧
      PairingSafe
        [.outRequest 0, .insert 0 sampleA1, .inRequest 0, .remove 0 sampleB1 (some 0),
          .accept 0 sampleB1 (.ok (RtsPdu.connC2 7)), .sendC2 0 sampleB1 0 true] ch := by
  have readA1 : readConnA1 [.data (RtsPdu.connA1 7 sampleCookie sampleCookie).toBytes] =
      .ok (sampleA1, registeredBy sampleA1) := rfl
  have readB1 : readConnB1 [.data (RtsPdu.connB1 8 sampleCookie sampleCookie sampleCookie).toBytes] =
      .ok (sampleB1, [], []) := rfl
  have first := Steps.single (@Step.outRequest Channels.init 0 rfl
    [.data (RtsPdu.connA1 7 sampleCookie sampleCookie).toBytes])
  rw [readA1] at first
  have second := first.step (.insert (Store.insert_self _ _ _))
  have third := second.step (@Step.inRequest _ 0 rfl
    [.data (RtsPdu.connB1 8 sampleCookie sampleCookie sampleCookie).toBytes])
  rw [readB1] at third
  have fourth := third.step (.remove (Store.insert_self _ _ _))
  have found : (Channels.init.pending.insert sampleA1.virtualConnectionCookie
      ⟨registeredBy sampleA1, 0⟩) sampleB1.virtualConnectionCookie =
        some ⟨registeredBy sampleA1, 0⟩ :=
    Store.insert_self _ _ _
  dsimp only at fourth
  rw [found] at fourth
  have fifth := fourth.step (.accept (Store.insert_self _ _ _))
  have answers : ∃ vconn, InChannel.answer sampleB1 ⟨registeredBy sampleA1, 0⟩ [] [] =
      .answering sampleB1 0 (RtsPdu.connC2 7) vconn [] [] := ⟨_, rfl⟩
  obtain ⟨vconn, answers⟩ := answers
  rw [acceptInChannel_registered (rfl : sampleA1.virtualConnectionCookie = _), answers] at fifth
  have sixth := fifth.step (.sendTaken (Store.insert_self _ _ _))
  exact ⟨_, rfl, pairing_safe sixth⟩

end RdGateway.Server
