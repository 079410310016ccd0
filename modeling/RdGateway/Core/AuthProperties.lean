import RdGateway.Core.Auth
import RdGateway.Proto.NtlmProperties

/-!
# What the check of a Type3 answer establishes
-/

set_option autoImplicit false

namespace RdGateway.Core

open Wirekit Proto

namespace NtlmAuthContext

theorem checkAnswer_ok {primitives : Ntlm.Primitives} {challenge : Vector UInt8 8}
    {auth : Ntlm.NtlmAuthenticate} {db : DbProvider} {username : String}
    (accepted : checkAnswer primitives challenge auth db = .ok username) :
    auth.username = username ∧
      ∃ user, ∃ ntHash : Vector UInt8 16, db.getUserByUsername auth.username = .ok (some user) ∧
        user.enabled = true ∧ user.ntHash = ntHash.toList ∧
        Ntlm.validateNtlmv2 primitives ntHash challenge auth = .ok () := by
  unfold checkAnswer at accepted
  cases found : db.getUserByUsername auth.username with
  | error error => simp [found] at accepted
  | ok result =>
      cases result with
      | none => simp [found] at accepted
      | some user =>
          simp only [found] at accepted
          cases enabled : user.enabled with
          | false => simp [enabled] at accepted
          | true =>
              simp only [enabled, Bool.not_true, Bool.false_eq_true, if_false] at accepted
              split at accepted
              · next sized =>
                obtain ⟨_, validated, returned⟩ := Outcome.bind_eq_ok.mp accepted
                refine ⟨Outcome.ok.inj returned, user, ⟨user.ntHash.toArray, by simpa using sized⟩,
                  rfl, enabled, by simp, ?_⟩
                cases checked : Ntlm.validateNtlmv2 primitives
                    ⟨user.ntHash.toArray, by simpa using sized⟩ challenge auth with
                | ok value => rfl
                | err error => simp [checked, ofNtlm] at validated
                | panicked => simp [checked, ofNtlm] at validated
              · cases accepted

theorem checkAnswer_valid {primitives : Ntlm.Primitives} {challenge : Vector UInt8 8}
    {auth : Ntlm.NtlmAuthenticate} {db : DbProvider} {user : User} {ntHash : Vector UInt8 16}
    (found : db.getUserByUsername auth.username = .ok (some user)) (enabled : user.enabled = true)
    (hashed : user.ntHash = ntHash.toList)
    (validated : Ntlm.validateNtlmv2 primitives ntHash challenge auth = .ok ()) :
    checkAnswer primitives challenge auth db = .ok auth.username := by
  have sized : user.ntHash.length = 16 := by
    rw [hashed, Vector.length_toList]
  have same : (⟨user.ntHash.toArray, by simpa using sized⟩ : Vector UInt8 16) = ntHash := by
    apply Vector.toList_inj.mp
    rw [← hashed]
    simp
  simp only [checkAnswer, found, enabled, Bool.not_true, Bool.false_eq_true, if_false]
  rw [dif_pos sized, same, validated]
  rfl

/-- What `process_authenticate` can do: accept a valid answer for an enabled account,
or fail and leave the context alone. -/
inductive Checked (self : NtlmAuthContext) (primitives : Ntlm.Primitives) (type3Bytes : Bytes)
    (db : DbProvider) : Outcome AuthError String × NtlmAuthContext → Prop where
  | accepted {auth : Ntlm.NtlmAuthenticate} {user : User} {ntHash : Vector UInt8 16}
      (parsed : Ntlm.parseAuthenticate type3Bytes = .ok auth)
      (found : db.getUserByUsername auth.username = .ok (some user)) (enabled : user.enabled = true)
      (hashed : user.ntHash = ntHash.toList)
      (validated : Ntlm.validateNtlmv2 primitives ntHash self.serverChallenge auth = .ok ()) :
      Checked self primitives type3Bytes db
        (.ok auth.username, { self with authenticatedUser := some auth.username })
  | refused (result : Outcome AuthError String) (failed : ∀ username, result ≠ .ok username) :
      Checked self primitives type3Bytes db (result, self)

theorem processAuthenticate_checked (self : NtlmAuthContext) (primitives : Ntlm.Primitives)
    (type3Bytes : Bytes) (db : DbProvider) :
    Checked self primitives type3Bytes db (self.processAuthenticate primitives type3Bytes db) := by
  unfold processAuthenticate
  cases parsed : Ntlm.parseAuthenticate type3Bytes with
  | err error => exact .refused _ fun _ same => nomatch same
  | panicked => exact .refused _ fun _ same => nomatch same
  | ok auth =>
      dsimp only
      cases checked : checkAnswer primitives self.serverChallenge auth db with
      | err error => exact .refused _ fun _ same => nomatch same
      | panicked => exact .refused _ fun _ same => nomatch same
      | ok name =>
          obtain ⟨rfl, user, ntHash, found, enabled, hashed, validated⟩ := checkAnswer_ok checked
          exact .accepted parsed found enabled hashed validated

end NtlmAuthContext

end RdGateway.Core
