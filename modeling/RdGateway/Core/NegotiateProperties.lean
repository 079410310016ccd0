import RdGateway.Core.AuthProperties
import RdGateway.Core.Negotiate
import RdGateway.Wirekit.Run

/-!
# The challenge that an answer is checked against

The challenge in the context is the one inside the Type2 of the last Type1 call, so an
answer that is accepted answers that Type2.
-/

set_option autoImplicit false

namespace RdGateway.Core

open Wirekit Proto

namespace NegotiateAuthContext

abbrev NegotiateExchange :=
  Exchange NegotiateAuthContext NegotiateCall (Outcome NegotiateError NegotiateResult)

def history (base64 : Base64) (primitives : Ntlm.Primitives) (serverName : String)
    (spn : Option String) (calls : List NegotiateCall) : List NegotiateExchange :=
  exchanges (processToken base64 primitives) (new serverName spn) calls

def tokenType (base64 : Base64) (call : NegotiateCall) : Option TokenType :=
  (base64.decode call.base64Token).map detectTokenType

def ntlmMessage (base64 : Base64) (msgType : UInt32) (call : NegotiateCall) : Option Bytes :=
  (base64.decode call.base64Token).filter fun token =>
    detectTokenType token = .ntlm ∧ 12 ≤ token.length ∧ u32Le.decode ((token.drop 8).take 4) = msgType

/-- The last Type1 call was answered with a Type2 that holds the challenge at offset 24. -/
def LastChallenge (base64 : Base64) (past : List NegotiateExchange)
    (challenge : Vector UInt8 8) : Prop :=
  ∃ before type1 after type2, past = before ++ type1 :: after ∧
    (ntlmMessage base64 1 type1.event).isSome ∧
    type1.output = .ok (.challenge (base64.encode type2)) ∧
    (type2.drop 24).take 8 = challenge.toList ∧
    ∀ exchange ∈ after, ntlmMessage base64 1 exchange.event = none

/-- The call carries a valid answer to the challenge, from an enabled account. -/
def AnswersChallenge (base64 : Base64) (primitives : Ntlm.Primitives) (call : NegotiateCall)
    (challenge : Vector UInt8 8) (username : String) : Prop :=
  ∃ token auth user, ∃ ntHash : Vector UInt8 16, ntlmMessage base64 3 call = some token ∧
    Ntlm.parseAuthenticate token = .ok auth ∧ auth.username = username ∧
    call.db.getUserByUsername username = .ok (some user) ∧ user.enabled = true ∧
    user.ntHash = ntHash.toList ∧ Ntlm.validateNtlmv2 primitives ntHash challenge auth = .ok ()

/-! ## One call -/

inductive Processed (base64 : Base64) (primitives : Ntlm.Primitives) (self : NegotiateAuthContext)
    (call : NegotiateCall) :
    Outcome NegotiateError NegotiateResult × NegotiateAuthContext → Prop where
  | challenged {type2 : Bytes} {ctx : NtlmAuthContext}
      (type1 : (ntlmMessage base64 1 call).isSome)
      (embedded : (type2.drop 24).take 8 = ctx.serverChallenge.toList) :
      Processed base64 primitives self call
        (.ok (.challenge (base64.encode type2)), { self with ntlmCtx := some ctx })
  | answered {ctx later : NtlmAuthContext} {username : String}
      (notType1 : ntlmMessage base64 1 call = none) (stored : self.ntlmCtx = some ctx)
      (kept : later.serverChallenge = ctx.serverChallenge)
      (answers : AnswersChallenge base64 primitives call ctx.serverChallenge username) :
      Processed base64 primitives self call
        (.ok (.success username), { self with ntlmCtx := some later })
  | other (result : Outcome NegotiateError NegotiateResult)
      (notType1 : ntlmMessage base64 1 call = none)
      (noSuccess : tokenType base64 call = some .ntlm → ∀ response, result ≠ .ok response) :
      Processed base64 primitives self call (result, self)

section

variable {base64 : Base64} {primitives : Ntlm.Primitives} {call : NegotiateCall} {token : Bytes}

theorem ntlmMessage_of_token {msgType : UInt32} (decoded : base64.decode call.base64Token = some token)
    (ntlm : detectTokenType token = .ntlm) (long : 12 ≤ token.length)
    (typed : u32Le.decode ((token.drop 8).take 4) = msgType) :
    ntlmMessage base64 msgType call = some token := by
  rw [ntlmMessage, decoded, Option.filter_some, if_pos (decide_eq_true ⟨ntlm, long, typed⟩)]

theorem ntlmMessage_eq_none {msgType : UInt32} (decoded : base64.decode call.base64Token = some token)
    (other : ¬ (detectTokenType token = .ntlm ∧ 12 ≤ token.length ∧
      u32Le.decode ((token.drop 8).take 4) = msgType)) :
    ntlmMessage base64 msgType call = none := by
  rw [ntlmMessage, decoded, Option.filter_some, if_neg (by simpa using other)]

theorem processNtlm_processed (self : NegotiateAuthContext)
    (decoded : base64.decode call.base64Token = some token) (ntlm : detectTokenType token = .ntlm) :
    Processed base64 primitives self call (processNtlm base64 primitives self call token) := by
  unfold processNtlm
  by_cases long : 12 ≤ token.length
  · rw [if_pos long]
    by_cases type1 : u32Le.decode ((token.drop 8).take 4) = 1
    · dsimp only
      rw [if_pos type1]
      exact .challenged (by rw [ntlmMessage_of_token decoded ntlm long type1]; rfl)
        (Ntlm.serializeChallenge_challenge _)
    · have notType1 := ntlmMessage_eq_none decoded fun typed => type1 typed.2.2
      dsimp only
      rw [if_neg type1]
      by_cases type3 : u32Le.decode ((token.drop 8).take 4) = 3
      · rw [if_pos type3]
        cases stored : self.ntlmCtx with
        | none => exact .other _ notType1 fun _ _ same => nomatch same
        | some ctx =>
            have checked := ctx.processAuthenticate_checked primitives token call.db
            dsimp only
            generalize ctx.processAuthenticate primitives token call.db = result at checked ⊢
            cases checked with
            | accepted parsed found enabled hashed validated =>
                exact .answered notType1 stored rfl
                  ⟨token, _, _, _, ntlmMessage_of_token decoded ntlm long type3, parsed, rfl, found,
                    enabled, hashed, validated⟩
            | refused result failed =>
                have same : ({ self with ntlmCtx := some ctx } : NegotiateAuthContext) = self := by
                  rw [← stored]
                cases result with
                | ok username => exact absurd rfl (failed username)
                | err error =>
                    dsimp only
                    rw [same]
                    exact .other _ notType1 fun _ _ same => nomatch same
                | panicked =>
                    dsimp only
                    rw [same]
                    exact .other _ notType1 fun _ _ same => nomatch same
      · rw [if_neg type3]
        exact .other _ notType1 fun _ _ same => nomatch same
  · rw [if_neg long]
    exact .other _ (ntlmMessage_eq_none decoded fun typed => long typed.2.1)
      fun _ _ same => nomatch same

theorem processToken_processed (self : NegotiateAuthContext) (call : NegotiateCall) :
    Processed base64 primitives self call (processToken base64 primitives self call) := by
  unfold processToken
  cases decoded : base64.decode call.base64Token with
  | none =>
      refine .other _ ?_ fun _ _ same => nomatch same
      rw [ntlmMessage, decoded]
      rfl
  | some token =>
      have notNtlm (other : detectTokenType token ≠ .ntlm) : ntlmMessage base64 1 call = none :=
        ntlmMessage_eq_none decoded fun typed => other typed.1
      cases detected : detectTokenType token with
      | ntlm =>
          dsimp only
          rw [detected]
          exact processNtlm_processed self decoded detected
      | kerberos =>
          dsimp only
          rw [detected]
          refine .other _ (notNtlm (by rw [detected]; exact TokenType.noConfusion)) fun ntlm => ?_
          rw [tokenType, decoded, Option.map_some, detected] at ntlm
          cases ntlm
      | unknown =>
          dsimp only
          rw [detected]
          exact .other _ (notNtlm (by rw [detected]; exact TokenType.noConfusion))
            fun _ _ same => nomatch same

/-! ## Runs -/

theorem LastChallenge.extend {past : List NegotiateExchange} {challenge : Vector UInt8 8}
    {exchange : NegotiateExchange} (last : LastChallenge base64 past challenge)
    (notType1 : ntlmMessage base64 1 exchange.event = none) :
    LastChallenge base64 (past ++ [exchange]) challenge := by
  obtain ⟨before, type1, after, type2, rfl, isType1, output, embedded, quiet⟩ := last
  refine ⟨before, type1, after ++ [exchange], type2, by simp, isType1, output, embedded, ?_⟩
  intro next member
  rcases List.mem_append.mp member with earlier | new
  · exact quiet next earlier
  · rw [List.mem_singleton.mp new]
    exact notType1

/-- The context keeps the challenge of the last Type1 call. -/
def ContextIssued (base64 : Base64) (past : List NegotiateExchange) (self : NegotiateAuthContext) :
    Prop :=
  ∀ ctx, self.ntlmCtx = some ctx → LastChallenge base64 past ctx.serverChallenge

theorem ContextIssued.step (past : List NegotiateExchange) (self : NegotiateAuthContext)
    (call : NegotiateCall) (issued : ContextIssued base64 past self) :
    ContextIssued base64 (past ++ [Exchange.of (processToken base64 primitives) self call])
      (processToken base64 primitives self call).2 := by
  intro ctx present
  have processed := @processToken_processed base64 primitives self call
  generalize answered : processToken base64 primitives self call = result at processed present
  cases processed with
  | @challenged type2 ctx type1 embedded =>
      cases present
      refine ⟨past, _, [], type2, rfl, type1, ?_, embedded, by simp⟩
      rw [Exchange.of, answered]
  | answered notType1 stored kept answers =>
      cases present
      rw [kept]
      exact (issued _ stored).extend notType1
  | other response notType1 noSuccess => exact (issued ctx present).extend notType1

/-- In every sequence of calls, with the database changing in any way, an NTLM success is
an answer to the challenge of the last Type1 call, and a call that fails leaves the
context, and the challenge in it, as it was. -/
theorem success_answers_last_challenge (base64 : Base64) (primitives : Ntlm.Primitives)
    (serverName : String) (spn : Option String) (calls : List NegotiateCall) :
    (∀ past exchange later username,
      history base64 primitives serverName spn calls = past ++ exchange :: later →
      tokenType base64 exchange.event = some .ntlm →
      exchange.output = .ok (.success username) →
      ∃ challenge, LastChallenge base64 past challenge ∧
        AnswersChallenge base64 primitives exchange.event challenge username) ∧
    ∀ exchange ∈ history base64 primitives serverName spn calls,
      (∀ response, exchange.output ≠ .ok response) → exchange.after = exchange.before := by
  have processed {exchange : NegotiateExchange}
      (taken : exchange ∈ history base64 primitives serverName spn calls) :
      Processed base64 primitives exchange.before exchange.event (exchange.output, exchange.after) := by
    rw [mem_exchanges taken]
    exact processToken_processed exchange.before exchange.event
  constructor
  · intro past exchange later username split ntlm success
    have issued : ContextIssued base64 past exchange.before :=
      history_invariant_before (ContextIssued base64) (fun _ present => by cases present)
        ContextIssued.step split
    have taken : exchange ∈ history base64 primitives serverName spn calls := by
      rw [split]
      simp
    have answer := processed taken
    rw [success] at answer
    generalize exchange.after = after at answer
    cases answer with
    | answered notType1 stored kept answers => exact ⟨_, issued _ stored, answers⟩
    | other result notType1 noSuccess => exact absurd rfl (noSuccess ntlm _)
  · intro exchange taken failed
    have answer := processed taken
    generalize exchange.output = output at answer failed
    generalize exchange.after = after at answer ⊢
    cases answer with
    | challenged => exact absurd rfl (failed _)
    | answered => exact absurd rfl (failed _)
    | other => rfl

end

end NegotiateAuthContext

end RdGateway.Core
