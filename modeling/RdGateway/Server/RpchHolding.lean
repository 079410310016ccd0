import RdGateway.Server.RpchPairingProperties

/-!
# OUT channels are held until their CONN/B1

An answered OUT channel waits in the map under the cookie of its CONN/A1. A request
that takes it out has a CONN/B1 with that cookie. A second CONN/A1 with a cookie that
still waits is the one step that loses a sender: it overwrites the entry.
-/

set_option autoImplicit false

namespace RdGateway.Server

open Wirekit Proto RdGateway.Core

def Waits (pending : PendingMap) (sender : SenderId) (connA1 : ConnA1) : Prop :=
  ∃ entry, pending connA1.virtualConnectionCookie = some entry ∧ entry.outSender = sender

/-- A CONN/B1 with the cookie of the CONN/A1 was processed, and it found the sender. -/
def Matched (labels : List Action) (sender : SenderId) (connA1 : ConnA1) : Prop :=
  ∃ thread connB1, Action.remove thread connB1 (some sender) ∈ labels ∧
    connB1.virtualConnectionCookie = connA1.virtualConnectionCookie

/-- Every OUT channel that was answered with 200 waits until its CONN/B1 is processed. -/
def OutChannelsHeld (labels : List Action) (ch : Channels) : Prop :=
  ∀ sender connA1, ch.outs sender = some (.registered connA1) →
    Waits ch.pending sender connA1 ∨ Matched labels sender connA1

/-- If the step registers a CONN/A1, no OUT channel waits under its cookie yet. -/
def CookieFree (ch : Channels) (label : Action) : Prop :=
  ∀ sender connA1, label = .insert sender connA1 →
    ch.pending connA1.virtualConnectionCookie = none

def FreshStep (ch : Channels) (label : Action) (next : Channels) : Prop :=
  Step ch label next ∧ CookieFree ch label

theorem Matched.later {labels : List Action} {sender : SenderId} {connA1 : ConnA1}
    (found : Matched labels sender connA1) (label : Action) :
    Matched (labels ++ [label]) sender connA1 := by
  obtain ⟨thread, connB1, member, cookies⟩ := found
  exact ⟨thread, connB1, List.mem_append_left _ member, cookies⟩

theorem OutChannelsHeld.init : OutChannelsHeld [] Channels.init :=
  fun _ _ registered => nomatch registered

namespace OutChannelsHeld

variable {labels : List Action} {ch : Channels}

theorem kept (held : OutChannelsHeld labels ch) (label : Action) {next : Channels}
    (pending : next.pending = ch.pending)
    (outs : ∀ sender connA1, next.outs sender = some (.registered connA1) →
      ch.outs sender = some (.registered connA1)) :
    OutChannelsHeld (labels ++ [label]) next := by
  intro sender connA1 registered
  rcases held sender connA1 (outs sender connA1 registered) with waits | found
  · rw [pending]
    exact .inl waits
  · exact .inr (found.later label)

theorem inserted (held : OutChannelsHeld labels ch) {sender : SenderId} {connA1 : ConnA1}
    {vconn : VirtualConnection} (free : ch.pending connA1.virtualConnectionCookie = none) :
    OutChannelsHeld (labels ++ [.insert sender connA1])
      { ch with
        pending := ch.pending.insert connA1.virtualConnectionCookie { vconn, outSender := sender }
        outs := ch.outs.insert sender (.registered connA1) } := by
  intro other otherA1 registered
  rcases Store.insert_eq_some registered with ⟨rfl, same⟩ | ⟨_, before⟩
  · cases same
    exact .inl ⟨_, Store.insert_self _ _ _, rfl⟩
  · rcases held other otherA1 before with ⟨entry, present, named⟩ | found
    · have different : otherA1.virtualConnectionCookie ≠ connA1.virtualConnectionCookie := by
        intro same
        rw [same, free] at present
        cases present
      exact .inl ⟨entry, (Store.insert_of_ne different _).trans present, named⟩
    · exact .inr (found.later _)

theorem removed (held : OutChannelsHeld labels ch) (thread : ThreadId) (connB1 : ConnB1)
    (ins : Store ThreadId InChannel) :
    OutChannelsHeld
      (labels ++ [.remove thread connB1
        ((ch.pending connB1.virtualConnectionCookie).map PendingConnection.outSender)])
      { ch with pending := ch.pending.remove connB1.virtualConnectionCookie, ins } := by
  intro sender connA1 registered
  rcases held sender connA1 registered with ⟨entry, present, named⟩ | found
  · by_cases same : connA1.virtualConnectionCookie = connB1.virtualConnectionCookie
    · rw [same] at present
      refine .inr ⟨thread, connB1, List.mem_append_right _ ?_, same.symm⟩
      rw [present, Option.map_some, named]
      exact List.mem_singleton.mpr rfl
    · exact .inl ⟨entry, (Store.remove_of_ne same).trans present, named⟩
  · exact .inr (found.later _)

theorem step (held : OutChannelsHeld labels ch) {label : Action} {next : Channels}
    (taken : FreshStep ch label next) : OutChannelsHeld (labels ++ [label]) next := by
  obtain ⟨taken, free⟩ := taken
  cases taken with
  | outRequest unused body =>
      refine held.kept _ rfl fun sender connA1 registered => ?_
      rcases Store.insert_eq_some registered with ⟨_, started⟩ | ⟨_, before⟩
      · cases read : readConnA1 body <;> rw [read] at started <;> cases started
      · exact before
  | insert ready => exact held.inserted (free _ _ rfl)
  | remove ready => exact held.removed _ _ _
  | inRequest unused body => exact held.kept _ rfl fun _ _ registered => registered
  | accept ready => exact held.kept _ rfl fun _ _ registered => registered
  | sendTaken ready => exact held.kept _ rfl fun _ _ registered => registered
  | sendLost ready => exact held.kept _ rfl fun _ _ registered => registered
  | round ready accepts => exact held.kept _ rfl fun _ _ registered => registered

end OutChannelsHeld

/-- In every run in which no CONN/A1 comes with a cookie that still waits, an answered OUT
channel stays in the map until a CONN/B1 with its cookie takes it out. -/
theorem outChannels_held {labels : List Action} {ch : Channels}
    (run : Steps FreshStep Channels.init labels ch) : OutChannelsHeld labels ch :=
  run.invariant OutChannelsHeld OutChannelsHeld.init fun _ _ _ _ held taken => held.step taken

def sampleOutBody : List BodyFrame :=
  [.data (RtsPdu.connA1 7 sampleCookie sampleCookie).toBytes]

theorem readConnA1_sample : readConnA1 sampleOutBody = .ok (sampleA1, registeredBy sampleA1) := rfl

def sampleHeld : Channels :=
  { Channels.init with
    pending := Store.empty.insert sampleCookie { vconn := registeredBy sampleA1, outSender := 0 }
    outs := (Store.empty.insert 0 (.accepted sampleA1 (registeredBy sampleA1))).insert 0
      (.registered sampleA1) }

theorem sampleHeld_reached :
    Steps FreshStep Channels.init [.outRequest 0, .insert 0 sampleA1] sampleHeld := by
  have first : Steps FreshStep Channels.init [.outRequest 0] _ :=
    .single ⟨.outRequest rfl sampleOutBody, fun _ _ same => nomatch same⟩
  rw [readConnA1_sample] at first
  have second := first.step
    ⟨.insert (Store.insert_self _ _ _), fun _ _ same => by cases same; rfl⟩
  exact second

def otherCookie : Uuid := { sampleCookie with d1 := 9 }

def otherA1 : ConnA1 := { sampleA1 with virtualConnectionCookie := otherCookie }

/-- Two OUT channels wait, under two cookies. -/
def bothHeld : Channels :=
  { sampleHeld with
    pending := sampleHeld.pending.insert otherCookie { vconn := registeredBy otherA1, outSender := 1 }
    outs := (sampleHeld.outs.insert 1 (.accepted otherA1 (registeredBy otherA1))).insert 1 (.registered otherA1) }

/-- A CONN/B1 has taken the first of them out. -/
def oneTaken : Channels :=
  { bothHeld with
    pending := bothHeld.pending.remove sampleCookie
    ins := (Store.empty.insert 0 (.waiting sampleB1 [] [])).insert 0
      (.lookUp sampleB1 [] [] (some { vconn := registeredBy sampleA1, outSender := 0 })) }

def takingLabels : List Action :=
  [.outRequest 0, .insert 0 sampleA1, .outRequest 1, .insert 1 otherA1, .inRequest 0,
    .remove 0 sampleB1 (some 0)]

theorem oneTaken_reached : Steps FreshStep Channels.init takingLabels oneTaken := by
  have third := sampleHeld_reached.step
    ⟨@Step.outRequest sampleHeld 1 rfl [.data (RtsPdu.connA1 7 otherCookie sampleCookie).toBytes],
      (fun _ _ same => by cases same)⟩
  have readA1 : readConnA1 [.data (RtsPdu.connA1 7 otherCookie sampleCookie).toBytes] =
      .ok (otherA1, registeredBy otherA1) := rfl
  rw [readA1] at third
  have free : sampleHeld.pending otherCookie = none := rfl
  have fourth := third.step
    ⟨.insert (Store.insert_self _ _ _), (fun _ _ same => by cases same; exact free)⟩
  have fifth := fourth.step
    ⟨@Step.inRequest bothHeld 0 rfl [.data (RtsPdu.connB1 8 sampleCookie sampleCookie sampleCookie).toBytes],
      (fun _ _ same => by cases same)⟩
  have readB1 : readConnB1 [.data (RtsPdu.connB1 8 sampleCookie sampleCookie sampleCookie).toBytes] =
      .ok (sampleB1, [], []) := rfl
  rw [readB1] at fifth
  have sixth := fifth.step ⟨.remove (Store.insert_self _ _ _), (fun _ _ same => by cases same)⟩
  have found : bothHeld.pending sampleB1.virtualConnectionCookie =
      some { vconn := registeredBy sampleA1, outSender := 0 } := rfl
  dsimp only at sixth
  rw [found] at sixth
  exact sixth

theorem outChannels_held_one :
    Matched takingLabels 0 sampleA1 ∧ Waits oneTaken.pending 1 otherA1 := by
  have held := outChannels_held oneTaken_reached
  constructor
  · refine (held 0 sampleA1 rfl).resolve_left fun waits => ?_
    obtain ⟨entry, present, _⟩ := waits
    cases present
  · refine (held 1 otherA1 rfl).resolve_right fun matched => ?_
    obtain ⟨thread, connB1, member, _⟩ := matched
    simp [takingLabels] at member

/-- A second OUT request with the same CONN/A1 takes the place of the first in the map,
and no CONN/B1 was processed. -/
theorem second_connA1_replaces_sender :
    ¬ ∀ labels ch, Steps Step Channels.init labels ch → OutChannelsHeld labels ch := by
  intro held
  have first := sampleHeld_reached.mono fun _ _ _ taken => taken.1
  have second := first.step (@Step.outRequest sampleHeld 1 rfl sampleOutBody)
  rw [readConnA1_sample] at second
  have third := second.step (.insert (Store.insert_self _ _ _))
  rcases held _ _ third 0 sampleA1 rfl with ⟨entry, present, named⟩ | ⟨thread, connB1, member, _⟩
  · change (sampleHeld.pending.insert sampleCookie _) sampleCookie = some entry at present
    rw [Store.insert_self] at present
    cases present
    cases named
  · simp at member

end RdGateway.Server
