import RdGateway.Server.AuthGate
import RdGateway.Server.PortalAuth

/-!
# Who can present a session cookie

A session token is accepted exactly if its payload is signed with the secret and not
older than a day. The secret is a function of the server's name, which every Type2
message carries.
-/

set_option autoImplicit false

namespace RdGateway.Server

open Wirekit Proto RdGateway.Core

/-! ## Accepted tokens -/

/-- A text that is signed with the secret and names the user and the time of issue. -/
def SignedToken (prims : PortalPrimitives) (secret : Bytes) (token : String) (userId : Int)
    (issuedAt : Nat) : Prop :=
  ∃ idField issuedField sigB64,
    token.toList = (idField ++ ':' :: issuedField) ++ '.' :: sigB64 ∧
    '.' ∉ sigB64 ∧ ':' ∉ idField ∧ ':' ∉ issuedField ∧
    parseI64 idField = some userId ∧ parseU64 issuedField = some issuedAt ∧
    prims.base64Url.decode (String.ofList sigB64) =
      some (prims.hmacSha256 secret (utf8Bytes (idField ++ ':' :: issuedField))).toList

theorem validateSessionToken_eq_some {prims : PortalPrimitives} {now : Nat} {token : String}
    {secret : Bytes} {userId : Int} :
    validateSessionToken prims now token secret = some userId ↔
      ∃ issuedAt, SignedToken prims secret token userId issuedAt ∧ now - issuedAt ≤ sessionTtlSecs := by
  unfold validateSessionToken
  simp only [Option.bind_eq_bind, Option.bind_eq_some_iff, Prod.exists]
  constructor
  · intro holds
    obtain ⟨payload, sigB64, cut, sig, decoded, accepted⟩ := holds
    obtain ⟨spelled, noDot⟩ := splitLast_eq_some.mp cut
    split at accepted
    · cases accepted
    · next signed =>
      split at accepted
      · next idField issuedField pieces =>
        obtain ⟨rfl, idClean, issuedClean⟩ := splitOn_eq_pair.mp pieces
        obtain ⟨user, idParsed, accepted⟩ := Option.bind_eq_some_iff.mp accepted
        obtain ⟨issuedAt, issuedParsed, accepted⟩ := Option.bind_eq_some_iff.mp accepted
        split at accepted
        · cases accepted
        · next fresh =>
          cases accepted
          refine ⟨issuedAt, ⟨idField, issuedField, sigB64, spelled, noDot, idClean, issuedClean,
            idParsed, issuedParsed, ?_⟩, Nat.le_of_not_lt fresh⟩
          rw [decoded, not_ne_iff.mp signed]
      · cases accepted
  · rintro ⟨issuedAt, ⟨idField, issuedField, sigB64, spelled, noDot, idClean, issuedClean, idParsed,
      issuedParsed, decoded⟩, fresh⟩
    refine ⟨_, _, splitLast_eq_some.mpr ⟨spelled, noDot⟩, _, decoded, ?_⟩
    rw [if_neg (not_not_intro rfl), splitOn_eq_pair.mpr ⟨rfl, idClean, issuedClean⟩]
    dsimp only
    rw [idParsed, Option.bind_some, issuedParsed, Option.bind_some, if_neg (Nat.not_lt_of_le fresh)]

theorem showInt_clean {c : Char} (notDigit : c.isDigit = false) (notMinus : c ≠ '-') (value : Int) :
    c ∉ showInt value := by
  have digits (number : Nat) : c ∉ Nat.toDigits 10 number := by
    intro member
    have digit := Nat.isDigit_of_mem_toDigits (by decide) (by decide) member
    rw [notDigit] at digit
    cases digit
  cases value with
  | ofNat number => exact digits number
  | negSucc number =>
      intro member
      rcases List.mem_cons.mp member with minus | later
      · exact notMinus minus
      · exact digits _ later

/-- What `sign_session` writes is a signed token, for every user id of 64 bits. -/
theorem signSession_signed {prims : PortalPrimitives}
    (roundTrip : ∀ bytes, prims.base64Url.decode (prims.base64Url.encode bytes) = some bytes)
    (noDot : ∀ bytes, '.' ∉ (prims.base64Url.encode bytes).toList)
    {userId : Int} (low : -2 ^ 63 ≤ userId) (high : userId < 2 ^ 63) {issuedAt : Nat}
    (fits : issuedAt < 2 ^ 64) (secret : Bytes) :
    SignedToken prims secret (signSession prims userId issuedAt secret) userId issuedAt := by
  refine ⟨showInt userId, Nat.toDigits 10 issuedAt, _, String.toList_ofList, noDot _,
    showInt_clean rfl (by decide) userId, showInt_clean rfl (by decide) (Int.ofNat issuedAt),
    parseI64_showInt low high, parseU64_toDigits fits, ?_⟩
  rw [String.ofList_toList, roundTrip]
  rfl

theorem signSession_accepted {prims : PortalPrimitives}
    (roundTrip : ∀ bytes, prims.base64Url.decode (prims.base64Url.encode bytes) = some bytes)
    (noDot : ∀ bytes, '.' ∉ (prims.base64Url.encode bytes).toList)
    {userId : Int} (low : -2 ^ 63 ≤ userId) (high : userId < 2 ^ 63) {issuedAt now : Nat}
    (fits : issuedAt < 2 ^ 64) (fresh : now - issuedAt ≤ sessionTtlSecs) (secret : Bytes) :
    validateSessionToken prims now (signSession prims userId issuedAt secret) secret = some userId :=
  validateSessionToken_eq_some.mpr
    ⟨issuedAt, signSession_signed roundTrip noDot low high fits secret, fresh⟩

/-! ## The secret -/

def secretFromType2 (type2 : Bytes) : Bytes :=
  let targetNameLen := (u16Le.decode ((type2.drop 12).take 2)).toNat
  sessionSecret (Ntlm.fromUtf16leLossy ((type2.drop 56).take targetNameLen))

/-- The target name of a Type2 message is the name that the secret is made from. -/
theorem secretFromType2_serialize {serverName : String}
    (fits : (Ntlm.encodeUtf16le serverName).length ≤ 65535) (serverChallenge : Vector UInt8 8)
    (unixSecs : UInt64) :
    secretFromType2 (Ntlm.serializeChallenge
      (NtlmAuthContext.new serverName serverChallenge unixSecs).challengeMsg) =
        sessionSecret serverName := by
  obtain ⟨counted, name⟩ := Ntlm.serializeChallenge_targetName
    (NtlmAuthContext.new serverName serverChallenge unixSecs).challengeMsg (Nat.lt_succ_of_le fits)
  rw [secretFromType2, counted, name]
  exact congrArg sessionSecret (Ntlm.fromUtf16leLossy_encode serverName)

/-- Every answer to a Type1 request hands out the secret that signs the sessions of the portal. -/
theorem type2_reveals_secret (http : HttpPrimitives) (state : AppState) (challenges : ChallengeStore)
    (req : RdgRequest) (fits : (Ntlm.encodeUtf16le state.serverName).length ≤ 65535)
    (type1 : isNtlmType1 http req.authHeader = true) :
    ∃ type2, (rdgHandler http state challenges req).1 =
        .unauthorized (negotiatePrefix ++ http.base64Encode type2) ∧
      secretFromType2 type2 = sessionSecret state.serverName := by
  refine ⟨_, ?_, secretFromType2_serialize fits req.serverChallenge req.unixSecs⟩
  rw [rdgHandler_type1 state challenges type1]

theorem type2_reveals_secret_gw :
    ∃ type2, (rdgHandler knownTexts singleAccount Store.empty type1Request).1 =
        .unauthorized (negotiatePrefix ++ knownTexts.base64Encode type2) ∧
      secretFromType2 type2 = sessionSecret "gw" :=
  type2_reveals_secret knownTexts singleAccount Store.empty type1Request (by decide) (by decide)

/-- One function on messages finds the secret of every server, whatever the challenge and the time. -/
theorem secret_determined_by_type2 :
    ∃ F : Bytes → Bytes, ∀ (serverName : String) (serverChallenge : Vector UInt8 8)
      (unixSecs : UInt64), (Ntlm.encodeUtf16le serverName).length ≤ 65535 →
      F (Ntlm.serializeChallenge
        (NtlmAuthContext.new serverName serverChallenge unixSecs).challengeMsg) =
          sessionSecret serverName :=
  ⟨secretFromType2, fun _ serverChallenge unixSecs fits =>
    secretFromType2_serialize fits serverChallenge unixSecs⟩

/-- So a client without an account can write a token for any user id. -/
theorem forged_session_accepted {prims : PortalPrimitives}
    (roundTrip : ∀ bytes, prims.base64Url.decode (prims.base64Url.encode bytes) = some bytes)
    (noDot : ∀ bytes, '.' ∉ (prims.base64Url.encode bytes).toList) {serverName : String}
    (fits : (Ntlm.encodeUtf16le serverName).length ≤ 65535) (serverChallenge : Vector UInt8 8)
    (unixSecs : UInt64) {userId : Int} (low : -2 ^ 63 ≤ userId) (high : userId < 2 ^ 63) {now : Nat}
    (clock : now < 2 ^ 64) :
    validateSessionToken prims now
      (signSession prims userId now (secretFromType2 (Ntlm.serializeChallenge
        (NtlmAuthContext.new serverName serverChallenge unixSecs).challengeMsg)))
      (sessionSecret serverName) = some userId := by
  rw [secretFromType2_serialize fits]
  exact signSession_accepted roundTrip noDot low high clock (by rw [Nat.sub_self]; exact Nat.zero_le _) _

end RdGateway.Server
