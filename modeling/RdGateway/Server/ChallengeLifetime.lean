import RdGateway.Server.AuthGate
import RdGateway.Wirekit.Since

/-!
# How long a challenge is kept

`rdg_handler` keeps one context for an address, from its last Type1 message to the next
Type3 message. Nothing else takes a context out, and no time limit does.
-/

set_option autoImplicit false

namespace RdGateway.Server

open Wirekit Proto RdGateway.Core

section Lifetime

variable (http : HttpPrimitives) (state : AppState)

/-- A Type1 message of the address, with the context that is made for it. -/
def Issues (addr : SocketAddr) (authCtx : NtlmAuthContext) (request : RdgRequest) : Prop :=
  request.addr = addr ∧ isNtlmType1 http request.authHeader = true ∧
    authCtx = NtlmAuthContext.new state.serverName request.serverChallenge request.unixSecs

/-- An NTLM message of the address that asks for a new context or gives one up. -/
def Replaces (addr : SocketAddr) (request : RdgRequest) : Prop :=
  request.addr = addr ∧
    (isNtlmType1 http request.authHeader = true ∨ isNtlmType3 http request.authHeader = true)

variable {http state}

theorem stored_type1 {request : RdgRequest} (challenges : ChallengeStore)
    (type1 : isNtlmType1 http request.authHeader = true) :
    (rdgHandler http state challenges request).2 =
      challenges.insert request.addr
        (NtlmAuthContext.new state.serverName request.serverChallenge request.unixSecs) :=
  congrArg Prod.snd (rdgHandler_type1 state challenges type1)

theorem stored_type3 {request : RdgRequest} (challenges : ChallengeStore)
    (type3 : isNtlmType3 http request.authHeader = true) :
    (rdgHandler http state challenges request).2 = challenges.remove request.addr :=
  congrArg Prod.snd (rdgHandler_type3 state challenges type3)

theorem stored_other {request : RdgRequest} (challenges : ChallengeStore)
    (type1 : ¬ isNtlmType1 http request.authHeader = true) (type3 : ¬ isNtlmType3 http request.authHeader = true) :
    (rdgHandler http state challenges request).2 = challenges := by
  unfold rdgHandler
  by_cases empty : request.authHeader.isEmpty = true
  · rw [if_pos empty]
  · rw [if_neg empty, if_neg type1, if_neg type3]

theorem rdgHandler_keeps_iff (challenges : ChallengeStore) (request : RdgRequest) (addr : SocketAddr)
    (authCtx : NtlmAuthContext) :
    (rdgHandler http state challenges request).2 addr = some authCtx ↔
      Issues http state addr authCtx request ∨ (challenges addr = some authCtx ∧ ¬ Replaces http addr request) := by
  by_cases same : addr = request.addr
  · subst same
    by_cases type1 : isNtlmType1 http request.authHeader = true
    · have replaces : Replaces http request.addr request := ⟨rfl, .inl type1⟩
      rw [stored_type1 challenges type1, Store.insert_self, Option.some_inj, eq_comm]
      constructor
      · exact fun made => .inl ⟨rfl, type1, made⟩
      · intro holds
        exact holds.elim (·.2.2) fun kept => absurd replaces kept.2
    · have issuesNot : ¬ Issues http state request.addr authCtx request := fun issues => type1 issues.2.1
      rw [or_iff_right issuesNot]
      by_cases type3 : isNtlmType3 http request.authHeader = true
      · have replaces : Replaces http request.addr request := ⟨rfl, .inr type3⟩
        rw [stored_type3 challenges type3, Store.remove_self]
        exact iff_of_false (Option.some_ne_none _).symm fun kept => kept.2 replaces
      · have spared : ¬ Replaces http request.addr request := fun replaces => replaces.2.elim type1 type3
        rw [stored_other challenges type1 type3, and_iff_left spared]
  · have issuesNot : ¬ Issues http state addr authCtx request := fun issues => same issues.1.symm
    have spared : ¬ Replaces http addr request := fun replaces => same replaces.1.symm
    rw [or_iff_right issuesNot, and_iff_left spared]
    by_cases type1 : isNtlmType1 http request.authHeader = true
    · rw [stored_type1 challenges type1, Store.insert_of_ne same]
    · by_cases type3 : isNtlmType3 http request.authHeader = true
      · rw [stored_type3 challenges type3, Store.remove_of_ne same]
      · rw [stored_other challenges type1 type3]

end Lifetime

/-- After every sequence of requests: a context is stored for an address exactly if one of
its Type1 messages was answered with it and no Type1 or Type3 message came from there since. -/
theorem challenge_stored_iff (http : HttpPrimitives) (state : AppState) (requests : List RdgRequest)
    (addr : SocketAddr) (authCtx : NtlmAuthContext) :
    stateAfter (rdgHandler http state) Store.empty requests addr = some authCtx ↔
      ∃ before issued after, requests = before ++ issued :: after ∧ Issues http state addr authCtx issued ∧
        ∀ later ∈ after, ¬ Replaces http addr later := by
  let Stored (challenges : ChallengeStore) : Prop := challenges addr = some authCtx
  have empty : ¬ Stored Store.empty := (Option.some_ne_none authCtx).symm
  rw [stateAfter_eq_foldl]
  exact holds_iff_establishedSince empty
    (fun challenges request => rdgHandler_keeps_iff challenges request addr authCtx) requests

end RdGateway.Server
