import RdGateway.Core.NegotiateProperties

/-!
# Answers that are sent again

A success leaves the challenge in the context, so it stays open to every answer that is
valid for it until the next Type1 call draws another one.
-/

set_option autoImplicit false

namespace RdGateway.Core

open Wirekit Proto

namespace NegotiateAuthContext

def NtlmSucceeds (base64 : Base64) (exchange : NegotiateExchange) : Prop :=
  tokenType base64 exchange.event = some .ntlm ∧ ∃ username, exchange.output = .ok (.success username)

/-- A Type1 call that is answered with the challenge drawn for it. -/
def IssuesChallenge (base64 : Base64) (exchange : NegotiateExchange) : Prop :=
  (ntlmMessage base64 1 exchange.event).isSome = true ∧
    ∃ type2, exchange.output = .ok (.challenge (base64.encode type2)) ∧
      (type2.drop 24).take 8 = exchange.event.serverChallenge.toList

/-- Between two successes through NTLM a challenge is issued. -/
def UsedOnce (base64 : Base64) (log : List NegotiateExchange) : Prop :=
  ∀ past first between second later, log = past ++ first :: (between ++ second :: later) →
    NtlmSucceeds base64 first → NtlmSucceeds base64 second →
    ∃ exchange ∈ between, IssuesChallenge base64 exchange

/-- The challenge drawn for the last Type1 among the calls. -/
def lastDrawn (base64 : Base64) (calls : List NegotiateCall) : Option (Vector UInt8 8) :=
  (calls.filter fun call => (ntlmMessage base64 1 call).isSome).getLast?.map NegotiateCall.serverChallenge

def HoldsAnswer (base64 : Base64) (primitives : Ntlm.Primitives) (challenge : Vector UInt8 8)
    (call : NegotiateCall) : Prop :=
  ∃ username, AnswersChallenge base64 primitives call challenge username

/-- What the clients send: up to the next Type1, at most one call holds a valid answer to
the challenge of the last one. -/
def AnsweredOnce (base64 : Base64) (primitives : Ntlm.Primitives) (calls : List NegotiateCall) : Prop :=
  ∀ past first between second later challenge, calls = past ++ first :: (between ++ second :: later) →
    lastDrawn base64 past = some challenge → (∀ call ∈ between, ntlmMessage base64 1 call = none) →
    HoldsAnswer base64 primitives challenge first → ¬ HoldsAnswer base64 primitives challenge second

/-! ## One call -/

section

variable {base64 : Base64} {primitives : Ntlm.Primitives} {call : NegotiateCall}

theorem ntlmMessage_eq_some {msgType : UInt32} {token : Bytes} :
    ntlmMessage base64 msgType call = some token ↔
      base64.decode call.base64Token = some token ∧ detectTokenType token = .ntlm ∧
        12 ≤ token.length ∧ u32Le.decode ((token.drop 8).take 4) = msgType := by
  simp only [ntlmMessage, Option.filter_eq_some_iff, decide_eq_true_eq]

theorem processToken_ntlm (self : NegotiateAuthContext) {msgType : UInt32} {token : Bytes}
    (message : ntlmMessage base64 msgType call = some token) :
    processToken base64 primitives self call = processNtlm base64 primitives self call token := by
  obtain ⟨decoded, ntlm, _, _⟩ := ntlmMessage_eq_some.mp message
  simp only [processToken, decoded, ntlm]

theorem processToken_type1 (self : NegotiateAuthContext) {token : Bytes}
    (message : ntlmMessage base64 1 call = some token) :
    ∃ ctx : NtlmAuthContext, ctx.serverChallenge = call.serverChallenge ∧
      processToken base64 primitives self call =
        (.ok (.challenge (base64.encode (Ntlm.serializeChallenge ctx.challengeMsg))),
          { self with ntlmCtx := some ctx }) ∧
      ctx.challengeMsg.serverChallenge = call.serverChallenge := by
  obtain ⟨_, _, long, type1⟩ := ntlmMessage_eq_some.mp message
  refine ⟨.new self.serverName call.serverChallenge call.unixSecs, rfl, ?_, rfl⟩
  rw [processToken_ntlm self message, processNtlm, if_pos long]
  dsimp only
  rw [if_pos type1]

/-- A valid answer to the challenge in the context is accepted, whatever came before it. -/
theorem processToken_answer (self : NegotiateAuthContext) {ctx : NtlmAuthContext} {username : String}
    (stored : self.ntlmCtx = some ctx)
    (answers : AnswersChallenge base64 primitives call ctx.serverChallenge username) :
    (processToken base64 primitives self call).1 = .ok (.success username) := by
  obtain ⟨token, auth, user, ntHash, message, parsed, rfl, found, enabled, hashed, validated⟩ := answers
  obtain ⟨_, _, long, type3⟩ := ntlmMessage_eq_some.mp message
  have notType1 : ¬ u32Le.decode ((token.drop 8).take 4) = 1 := by
    rw [type3]
    decide
  have checked := NtlmAuthContext.checkAnswer_valid found enabled hashed validated
  rw [processToken_ntlm self message, processNtlm, if_pos long]
  dsimp only
  rw [if_neg notType1, if_pos type3, stored]
  simp only [NtlmAuthContext.processAuthenticate, parsed, checked]

theorem AnswersChallenge.isNtlm {challenge : Vector UInt8 8} {username : String}
    (answers : AnswersChallenge base64 primitives call challenge username) :
    tokenType base64 call = some .ntlm ∧ ntlmMessage base64 1 call = none := by
  obtain ⟨token, _, _, _, message, _⟩ := answers
  obtain ⟨decoded, ntlm, _, type3⟩ := ntlmMessage_eq_some.mp message
  constructor
  · rw [tokenType, decoded, Option.map_some, ntlm]
  · refine ntlmMessage_eq_none decoded fun typed => ?_
    rw [type3] at typed
    exact absurd typed.2.2 (by decide)

def heldChallenge (self : NegotiateAuthContext) : Option (Vector UInt8 8) :=
  self.ntlmCtx.map NtlmAuthContext.serverChallenge

theorem heldChallenge_eq_some {self : NegotiateAuthContext} {challenge : Vector UInt8 8} :
    self.heldChallenge = some challenge ↔
      ∃ ctx, self.ntlmCtx = some ctx ∧ ctx.serverChallenge = challenge :=
  Option.map_eq_some_iff

theorem processToken_held (self : NegotiateAuthContext) (call : NegotiateCall) :
    (processToken base64 primitives self call).2.heldChallenge =
      if (ntlmMessage base64 1 call).isSome then some call.serverChallenge else self.heldChallenge := by
  cases message : ntlmMessage base64 1 call with
  | some token =>
      obtain ⟨ctx, drawn, processed, _⟩ := @processToken_type1 base64 primitives call self token message
      rw [processed, heldChallenge, Option.map_some, drawn]
      rfl
  | none =>
      have processed := @processToken_processed base64 primitives self call
      generalize processToken base64 primitives self call = result at processed
      cases processed with
      | challenged type1 embedded =>
          rw [message] at type1
          cases type1
      | answered notType1 stored kept answers =>
          rw [heldChallenge, heldChallenge, stored, Option.map_some, kept]
          rfl
      | other result notType1 noSuccess => rfl

/-- The success exits of the Type3 path, by what the context holds in front of the call. -/
theorem ntlmSucceeds_of {self : NegotiateAuthContext} :
    NtlmSucceeds base64 (Exchange.of (processToken base64 primitives) self call) ↔
      ∃ challenge, self.heldChallenge = some challenge ∧ HoldsAnswer base64 primitives challenge call := by
  constructor
  · intro succeeds
    obtain ⟨ntlm, username, output⟩ := succeeds
    have processed := @processToken_processed base64 primitives self call
    rw [Exchange.of] at ntlm output
    dsimp only at ntlm output
    generalize processToken base64 primitives self call = result at processed output
    cases processed with
    | challenged type1 embedded => cases output
    | answered notType1 stored kept answers =>
        exact ⟨_, heldChallenge_eq_some.mpr ⟨_, stored, rfl⟩, _, answers⟩
    | other result notType1 noSuccess => exact absurd output (noSuccess ntlm _)
  · intro answered
    obtain ⟨challenge, held, username, answers⟩ := answered
    obtain ⟨ctx, stored, rfl⟩ := heldChallenge_eq_some.mp held
    exact ⟨answers.isNtlm.1, username, processToken_answer self stored answers⟩

theorem issuesChallenge_of {self : NegotiateAuthContext} :
    IssuesChallenge base64 (Exchange.of (processToken base64 primitives) self call) ↔
      (ntlmMessage base64 1 call).isSome = true := by
  constructor
  · exact And.left
  · intro type1
    obtain ⟨token, message⟩ := Option.isSome_iff_exists.mp type1
    obtain ⟨ctx, _, processed, drawn⟩ := @processToken_type1 base64 primitives call self token message
    refine ⟨type1, _, congrArg Prod.fst processed, ?_⟩
    exact (Ntlm.serializeChallenge_challenge _).trans (congrArg Vector.toList drawn)

/-! ## Runs -/

theorem lastDrawn_append (calls : List NegotiateCall) (call : NegotiateCall) :
    lastDrawn base64 (calls ++ [call]) =
      if (ntlmMessage base64 1 call).isSome then some call.serverChallenge else lastDrawn base64 calls := by
  unfold lastDrawn
  rw [List.filter_append]
  cases type1 : (ntlmMessage base64 1 call).isSome with
  | true => simp [type1]
  | false => simp [type1]

/-- Calls of other types leave the last challenge as it was. -/
theorem lastDrawn_quiet (calls : List NegotiateCall) {quiet : List NegotiateCall}
    (noType1 : ∀ call ∈ quiet, ntlmMessage base64 1 call = none) :
    lastDrawn base64 (calls ++ quiet) = lastDrawn base64 calls := by
  unfold lastDrawn
  have none : quiet.filter (fun call => (ntlmMessage base64 1 call).isSome) = [] := by
    apply List.filter_eq_nil_iff.mpr
    intro call member
    rw [noType1 call member]
    simp
  rw [List.filter_append, none, List.append_nil]

theorem stateAfter_held (serverName : String) (spn : Option String) (calls : List NegotiateCall) :
    (stateAfter (processToken base64 primitives) (new serverName spn) calls).heldChallenge =
      lastDrawn base64 calls := by
  induction calls using List.reverseRecOn with
  | nil => rfl
  | append_singleton calls call ih =>
      rw [stateAfter_append, lastDrawn_append, ← ih]
      exact processToken_held _ call

/-- An answered call, at its place in a run. -/
theorem ntlmSucceeds_at {serverName : String} {spn : Option String} {past : List NegotiateCall} :
    NtlmSucceeds base64
        (Exchange.of (processToken base64 primitives)
          (stateAfter (processToken base64 primitives) (new serverName spn) past) call) ↔
      ∃ challenge, lastDrawn base64 past = some challenge ∧ HoldsAnswer base64 primitives challenge call := by
  rw [ntlmSucceeds_of, stateAfter_held]

theorem HoldsAnswer.not_type1 {challenge : Vector UInt8 8}
    (holds : HoldsAnswer base64 primitives challenge call) : ntlmMessage base64 1 call = none := by
  obtain ⟨_, answers⟩ := holds
  exact answers.isNtlm.2

theorem lastDrawn_between {past between : List NegotiateCall} {first : NegotiateCall}
    (notType1 : ntlmMessage base64 1 first = none)
    (quiet : ∀ call ∈ between, ntlmMessage base64 1 call = none) :
    lastDrawn base64 (past ++ first :: between) = lastDrawn base64 past :=
  lastDrawn_quiet past (List.forall_mem_cons.mpr ⟨notType1, quiet⟩)

/-- In every sequence of calls, with the database changing in any way: the challenges are
used once when, and only when, no second valid answer to one of them comes in. -/
theorem usedOnce_iff (base64 : Base64) (primitives : Ntlm.Primitives) (serverName : String)
    (spn : Option String) (calls : List NegotiateCall) :
    UsedOnce base64 (history base64 primitives serverName spn calls) ↔
      AnsweredOnce base64 primitives calls := by
  constructor
  · intro usedOnce past first between second later challenge split drawn quiet holds again
    subst split
    have kept := (lastDrawn_between holds.not_type1 quiet).trans drawn
    have firstSucceeds := (@ntlmSucceeds_at base64 primitives first serverName spn past).mpr
      ⟨challenge, drawn, holds⟩
    have secondSucceeds := (@ntlmSucceeds_at base64 primitives second serverName spn _).mpr
      ⟨challenge, kept, again⟩
    rw [stateAfter_append] at secondSucceeds
    have log : history base64 primitives serverName spn (past ++ first :: (between ++ second :: later)) = _ :=
      (exchanges_append _ past _).trans
        (congrArg (exchanges _ _ past ++ Exchange.of _ _ first :: ·) (exchanges_append _ between _))
    obtain ⟨exchange, member, issues⟩ := usedOnce _ _ _ _ _ log firstSucceeds secondSucceeds
    have sent : exchange.event ∈ between := by
      rw [← exchanges_events _ between]
      exact List.mem_map_of_mem member
    obtain ⟨type1, _⟩ := issues
    rw [quiet _ sent] at type1
    cases type1
  · intro answeredOnce past first between second later split firstSucceeds secondSucceeds
    obtain ⟨earlier, fromFirst, rfl, _, atFirst⟩ := exchanges_eq_append split
    obtain ⟨firstCall, behindFirst, rfl, rfl, behind⟩ := exchanges_eq_cons atFirst.symm
    obtain ⟨middle, fromSecond, rfl, rfl, atSecond⟩ := exchanges_eq_append behind.symm
    obtain ⟨secondCall, _, rfl, rfl, _⟩ := exchanges_eq_cons atSecond.symm
    by_contra unissued
    have quiet : ∀ call ∈ middle, ntlmMessage base64 1 call = none := by
      intro call member
      by_contra type1
      have taken := member
      rw [← exchanges_events _ middle] at taken
      obtain ⟨exchange, inLog, same⟩ := List.mem_map.mp taken
      rw [← same] at type1
      refine unissued ⟨exchange, inLog, ?_⟩
      rw [mem_exchanges inLog]
      exact issuesChallenge_of.mpr (Option.isSome_iff_ne_none.mpr type1)
    obtain ⟨challenge, drawn, holds⟩ := ntlmSucceeds_at.mp firstSucceeds
    have secondAt : NtlmSucceeds base64 (Exchange.of (processToken base64 primitives)
        (stateAfter (processToken base64 primitives) (new serverName spn)
          (earlier ++ firstCall :: middle)) secondCall) := by
      rw [stateAfter_append]
      exact secondSucceeds
    obtain ⟨other, kept, again⟩ := ntlmSucceeds_at.mp secondAt
    rw [lastDrawn_between holds.not_type1 quiet, drawn] at kept
    cases kept
    exact answeredOnce _ _ _ _ _ _ rfl drawn quiet holds again

end

/-! ## A replay -/

/-- The base64 texts of the run below. -/
def knownTokens : Base64 where
  encode _ :=
    "TlRMTVNTUAACAAAABAAEADgAAAA1goriCAcGBQQDAgEAAAAAAAAAADAAMAA8AAAACgD0ZQAAAA9nAHcAAQAEAGcAdwAC" ++
      "AAQAZwB3AAMABABnAHcABAAEAGcAdwAHAAgAAABtxkcX2gEAAAAA"
  decode text :=
    if text = "TlRMTVNTUAABAAAA" then some [78, 84, 76, 77, 83, 83, 80, 0, 1, 0, 0, 0]
    else if text =
        "TlRMTVNTUAADAAAAAAAAAAAAAAAYABgARAAAAAIAAgBAAAAAAgACAEIAAAACAAIAQAAAAAAAAAAAAAAAAAAAAEQAYgBh" ++
          "D0XAHAfgIqbntracD0OeAQEBAQEBAQE=" then
      some Ntlm.sampleType3
    else none

def callWith (base64Token : String) : NegotiateCall where
  base64Token
  db :=
    { getUserByUsername := fun username =>
        .ok (if username = "b" then
          some { id := 1, username := "b", enabled := true, passwordHash := none
                 ntHash := (Ntlm.computeNtHash Ntlm.samplePrimitives "password").toList }
        else none)
      getUserGroups := fun _ => .ok []
      getAclRules := .ok [] }
  serverChallenge := #v[8, 7, 6, 5, 4, 3, 2, 1]
  unixSecs := 1700000000
  kerberos := none

def type1Call : NegotiateCall := callWith "TlRMTVNTUAABAAAA"

def type3Call : NegotiateCall :=
  callWith ("TlRMTVNTUAADAAAAAAAAAAAAAAAYABgARAAAAAIAAgBAAAAAAgACAEIAAAACAAIAQAAAAAAAAAAAAAAAAAAAAEQAYgBh" ++
    "D0XAHAfgIqbntracD0OeAQEBAQEBAQE=")

/-- The same Type3 token succeeds a second time, with no Type1 between. -/
theorem replayed_answer_succeeds :
    let log := history knownTokens Ntlm.samplePrimitives "gw" none [type1Call, type3Call, type3Call]
    (log.map Exchange.output).drop 1 = [.ok (.success "b"), .ok (.success "b")] ∧ ¬ UsedOnce knownTokens log := by
  have outputs : ((history knownTokens Ntlm.samplePrimitives "gw" none
      [type1Call, type3Call, type3Call]).map Exchange.output).drop 1 =
        [.ok (.success "b"), .ok (.success "b")] := by
    decide +kernel
  refine ⟨outputs, fun usedOnce => ?_⟩
  have isNtlm : tokenType knownTokens type3Call = some .ntlm := by decide +kernel
  simp only [history, exchanges, List.map_cons, List.map_nil, List.drop_succ_cons, List.drop_zero,
    List.cons.injEq, and_true] at outputs
  obtain ⟨second, third⟩ := outputs
  obtain ⟨_, none, _⟩ := usedOnce [_] _ [] _ [] rfl ⟨isNtlm, _, second⟩ ⟨isNtlm, _, third⟩
  cases none

end NegotiateAuthContext

end RdGateway.Core
