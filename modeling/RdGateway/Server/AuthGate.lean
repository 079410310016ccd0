import RdGateway.Core.AuthProperties
import RdGateway.Server.WebSocket
import RdGateway.Wirekit.Run

/-!
# The NTLM gate of the WebSocket upgrade

`rdgHandler` keeps the challenge of each client but never checks an answer against
it. An upgrade is authenticated in the runs in which the answers would pass the
check that is left out.
-/

set_option autoImplicit false

namespace RdGateway.Server

open Wirekit Proto RdGateway.Core

abbrev RdgExchange := Exchange ChallengeStore RdgRequest RdgResponse

def rdgHistory (http : HttpPrimitives) (state : AppState) (requests : List RdgRequest) :
    List RdgExchange :=
  exchanges (rdgHandler http state) Store.empty requests

/-- The address was sent this challenge, and has sent no answer since. -/
def Outstanding (http : HttpPrimitives) (history : List RdgExchange) (addr : SocketAddr)
    (challenge : Vector UInt8 8) : Prop :=
  ∃ before issued after msg, history = before ++ issued :: after ∧ issued.event.addr = addr ∧
    issued.output =
      .unauthorized (negotiatePrefix ++ http.base64Encode (Ntlm.serializeChallenge msg)) ∧
    msg.serverChallenge = challenge ∧
    ∀ exchange ∈ after, exchange.event.addr = addr →
      isNtlmType3 http exchange.event.authHeader = false

/-- The token answers the challenge for an enabled account of the database. -/
def Validates (primitives : Ntlm.Primitives) (db : DbProvider) (challenge : Vector UInt8 8)
    (token : Bytes) : Prop :=
  ∃ auth user, ∃ ntHash : Vector UInt8 16, Ntlm.parseAuthenticate token = .ok auth ∧
    db.getUserByUsername auth.username = .ok (some user) ∧ user.enabled = true ∧
    user.ntHash = ntHash.toList ∧ Ntlm.validateNtlmv2 primitives ntHash challenge auth = .ok ()

def RdgResponse.reachesUpgrade : RdgResponse → Bool
  | .upgraded _ _ => true
  | _ => false

/-- What the documentation promises of a request that is handed to the upgrade. -/
def Authenticated (http : HttpPrimitives) (primitives : Ntlm.Primitives) (db : DbProvider)
    (past : List RdgExchange) (request : RdgRequest) : Prop :=
  ∃ challenge, Outstanding http past request.addr challenge ∧
    Validates primitives db challenge (extractNtlmToken http request.authHeader)

/-- The check that the handler leaves out passes on the stored context. -/
def AnswerAccepted (http : HttpPrimitives) (primitives : Ntlm.Primitives) (db : DbProvider)
    (challenges : ChallengeStore) (request : RdgRequest) : Prop :=
  ∃ authCtx username, challenges request.addr = some authCtx ∧
    (authCtx.processAuthenticate primitives (extractNtlmToken http request.authHeader) db).1 =
      .ok username

/-! ## The check -/

theorem processAuthenticate_ok {authCtx : NtlmAuthContext} {primitives : Ntlm.Primitives}
    {token : Bytes} {db : DbProvider} {username : String}
    (accepted : (authCtx.processAuthenticate primitives token db).1 = .ok username) :
    Validates primitives db authCtx.serverChallenge token := by
  have checked := authCtx.processAuthenticate_checked primitives token db
  generalize authCtx.processAuthenticate primitives token db = result at accepted checked
  cases checked with
  | accepted parsed found enabled hashed validated =>
      exact ⟨_, _, _, parsed, found, enabled, hashed, validated⟩
  | refused result failed => exact absurd accepted (failed username)

/-! ## One request -/

theorem isNtlmType_empty (type : UInt8) (http : HttpPrimitives) : isNtlmType type http "" = false := by
  have noPrefix : stripPrefix negotiatePrefix "" = none := by decide
  simp [isNtlmType, negotiateToken, noPrefix]

theorem isNtlmType3_of_type1 {http : HttpPrimitives} {auth : String}
    (type1 : isNtlmType1 http auth = true) : isNtlmType3 http auth = false := by
  unfold isNtlmType1 isNtlmType at type1
  unfold isNtlmType3 isNtlmType
  cases token : negotiateToken http auth with
  | none => rfl
  | some d =>
      simp only [token, decide_eq_true_eq] at type1
      simp [type1.2.2]

theorem isNtlmType_nonempty {type : UInt8} {http : HttpPrimitives} {auth : String}
    (typed : isNtlmType type http auth = true) : ¬ auth.isEmpty = true := by
  intro empty
  have blank : auth = "" := by simpa using empty
  rw [blank, isNtlmType_empty] at typed
  cases typed

theorem rdgHandler_type1 {http : HttpPrimitives} {req : RdgRequest} (state : AppState)
    (challenges : ChallengeStore) (type1 : isNtlmType1 http req.authHeader = true) :
    rdgHandler http state challenges req =
      (.unauthorized (negotiatePrefix ++ http.base64Encode (Ntlm.serializeChallenge
          (NtlmAuthContext.new state.serverName req.serverChallenge req.unixSecs).challengeMsg)),
        challenges.insert req.addr
          (NtlmAuthContext.new state.serverName req.serverChallenge req.unixSecs)) := by
  rw [rdgHandler, if_neg (isNtlmType_nonempty type1), if_pos type1]

theorem rdgHandler_type3 {http : HttpPrimitives} {req : RdgRequest} (state : AppState)
    (challenges : ChallengeStore) (type3 : isNtlmType3 http req.authHeader = true) :
    rdgHandler http state challenges req =
      (.upgraded
          ((extractUsernameFromType3 (extractNtlmToken http req.authHeader)).getD "unknown")
          (doWebsocketUpgrade http req),
        challenges.remove req.addr) := by
  have notType1 : ¬ isNtlmType1 http req.authHeader = true := by
    intro type1
    rw [isNtlmType3_of_type1 type1] at type3
    cases type3
  rw [rdgHandler, if_neg (isNtlmType_nonempty type3), if_neg notType1, if_pos type3]

inductive Handled (http : HttpPrimitives) (state : AppState) (challenges : ChallengeStore)
    (req : RdgRequest) : RdgResponse × ChallengeStore → Prop where
  | challenged (authCtx : NtlmAuthContext)
      (created : authCtx = NtlmAuthContext.new state.serverName req.serverChallenge req.unixSecs)
      (notAnswer : isNtlmType3 http req.authHeader = false) :
      Handled http state challenges req
        (.unauthorized
          (negotiatePrefix ++ http.base64Encode (Ntlm.serializeChallenge authCtx.challengeMsg)),
          challenges.insert req.addr authCtx)
  | upgraded (username : String) (response : UpgradeResponse)
      (answer : isNtlmType3 http req.authHeader = true) :
      Handled http state challenges req (.upgraded username response, challenges.remove req.addr)
  | refused (response : RdgResponse) (stays : response.reachesUpgrade = false)
      (notAnswer : isNtlmType3 http req.authHeader = false) :
      Handled http state challenges req (response, challenges)

theorem rdgHandler_handled (http : HttpPrimitives) (state : AppState) (challenges : ChallengeStore)
    (req : RdgRequest) : Handled http state challenges req (rdgHandler http state challenges req) := by
  by_cases type1 : isNtlmType1 http req.authHeader = true
  · rw [rdgHandler_type1 state challenges type1]
    exact .challenged _ rfl (isNtlmType3_of_type1 type1)
  by_cases type3 : isNtlmType3 http req.authHeader = true
  · rw [rdgHandler_type3 state challenges type3]
    exact .upgraded _ _ type3
  have notAnswer : isNtlmType3 http req.authHeader = false := Bool.eq_false_iff.mpr type3
  unfold rdgHandler
  by_cases empty : req.authHeader.isEmpty = true
  · rw [if_pos empty]
    exact .refused _ rfl notAnswer
  · rw [if_neg empty, if_neg type1, if_neg type3]
    exact .refused _ rfl notAnswer

/-! ## Runs of the handler -/

theorem Outstanding.extend {http : HttpPrimitives} {history : List RdgExchange}
    {addr : SocketAddr} {challenge : Vector UInt8 8} {exchange : RdgExchange}
    (outstanding : Outstanding http history addr challenge)
    (unanswered : exchange.event.addr = addr →
      isNtlmType3 http exchange.event.authHeader = false) :
    Outstanding http (history ++ [exchange]) addr challenge := by
  obtain ⟨before, issued, after, msg, rfl, sender, answered, carried, quiet⟩ := outstanding
  refine ⟨before, issued, after ++ [exchange], msg, by simp, sender, answered, carried, ?_⟩
  intro next member same
  rcases List.mem_append.mp member with earlier | last
  · exact quiet next earlier same
  · rw [List.mem_singleton.mp last] at same ⊢
    exact unanswered same

/-- Every stored context belongs to a challenge that is still open for its address. -/
def StoreIssued (http : HttpPrimitives) (history : List RdgExchange) (store : ChallengeStore) :
    Prop :=
  ∀ addr authCtx, store addr = some authCtx →
    Outstanding http history addr authCtx.serverChallenge

theorem rdgHandler_storeIssued {http : HttpPrimitives} {state : AppState}
    {history : List RdgExchange} {store : ChallengeStore} (request : RdgRequest)
    (issued : StoreIssued http history store) :
    StoreIssued http (history ++ [Exchange.of (rdgHandler http state) store request])
      (rdgHandler http state store request).2 := by
  intro addr authCtx present
  have handled := rdgHandler_handled http state store request
  generalize answered : rdgHandler http state store request = result at handled present
  cases handled with
  | challenged created isNew notAnswer =>
      rcases Store.insert_eq_some present with ⟨rfl, rfl⟩ | ⟨different, stored⟩
      · refine ⟨history, _, [], authCtx.challengeMsg, rfl, rfl, ?_, ?_, by simp⟩
        · rw [Exchange.of, answered]
        · rw [isNew]
          rfl
      · exact (issued addr authCtx stored).extend fun _ => notAnswer
  | upgraded username response answer =>
      obtain ⟨different, stored⟩ := Store.remove_eq_some present
      exact (issued addr authCtx stored).extend fun same => absurd same.symm different
  | refused response stays notAnswer =>
      exact (issued addr authCtx present).extend fun _ => notAnswer

/-- In a run in which the check that is left out would accept every answer, each
request that reaches the upgrade is authenticated as documented. -/
theorem upgrade_authenticated (http : HttpPrimitives) (primitives : Ntlm.Primitives)
    (state : AppState) (requests : List RdgRequest)
    (accepted : ∀ exchange ∈ rdgHistory http state requests,
      isNtlmType3 http exchange.event.authHeader = true →
        AnswerAccepted http primitives state.db exchange.before exchange.event)
    {past later : List RdgExchange} {exchange : RdgExchange}
    (reached : rdgHistory http state requests = past ++ exchange :: later)
    (upgraded : exchange.output.reachesUpgrade = true) :
    Authenticated http primitives state.db past exchange.event := by
  have issued : StoreIssued http past exchange.before :=
    history_invariant_before (StoreIssued http) (fun addr authCtx present => by cases present)
      (fun history store request => rdgHandler_storeIssued request) reached
  have taken : exchange ∈ rdgHistory http state requests := by
    rw [reached]
    simp
  have handled := rdgHandler_handled http state exchange.before exchange.event
  have output : exchange.output = (rdgHandler http state exchange.before exchange.event).1 := by
    rw [mem_exchanges taken]
    rfl
  rw [output] at upgraded
  generalize rdgHandler http state exchange.before exchange.event = result at handled upgraded
  cases handled with
  | challenged authCtx isNew notAnswer => cases upgraded
  | refused response stays notAnswer => exact absurd upgraded (by simp [stays])
  | upgraded username response answer =>
      obtain ⟨authCtx, name, stored, validated⟩ := accepted exchange taken answer
      exact ⟨authCtx.serverChallenge, issued _ authCtx stored, processAuthenticate_ok validated⟩

/-! ## Runs without and with a check -/

/-- The base64 texts of the runs below, and the answers of the other crates to them. -/
def knownTexts : HttpPrimitives where
  base64Encode _ :=
    "TlRMTVNTUAACAAAABAAEADgAAAA1goriAQIDBAUGBwgAAAAAAAAAADAAMAA8AAAACgD0ZQAAAA9nAHcAAQAEAGcAdwAC" ++
      "AAQAZwB3AAMABABnAHcABAAEAGcAdwAHAAgAAIA+1d6xnQEAAAAA"
  base64Decode text :=
    if text = "TlRMTVNTUAABAAAA" then some [78, 84, 76, 77, 83, 83, 80, 0, 1, 0, 0, 0]
    else if text = "TlRMTVNTUAADAAAA" then some [78, 84, 76, 77, 83, 83, 80, 0, 3, 0, 0, 0]
    else if text =
        "TlRMTVNTUAADAAAAAAAAAAAAAAAYABgAQgAAAAAAAAAAAAAAAgACAEAAAAAAAAAAAAAAAAAAAAAAAAAAAAAAAGEA" ++
          "iN1DH/cT8Kpvg289HmtXugAAAAAAAAAA" then
      some [78, 84, 76, 77, 83, 83, 80, 0, 3, 0, 0, 0, 0, 0, 0, 0, 0, 0, 0, 0, 24, 0, 24, 0, 66, 0, 0, 0,
        0, 0, 0, 0, 0, 0, 0, 0, 2, 0, 2, 0, 64, 0, 0, 0, 0, 0, 0, 0, 0, 0, 0, 0, 0, 0, 0, 0, 0, 0, 0, 0,
        0, 0, 0, 0, 97, 0, 136, 221, 67, 31, 247, 19, 240, 170, 111, 131, 111, 61, 30, 107, 87, 186, 0,
        0, 0, 0, 0, 0, 0, 0]
    else none
  deriveAcceptKey _ := ""

def requestWith (authorization : String) : RdgRequest :=
  { addr := { ip := .v4 { octets := #v[192, 0, 2, 1] }, port := 50000 }
    authorization := some authorization, upgrade := none, connection := none
    secWebsocketKey := none, secWebsocketProtocol := none
    serverChallenge := #v[1, 2, 3, 4, 5, 6, 7, 8], unixSecs := 0 }

def singleAccount : AppState where
  serverName := "gw"
  auth := { spn := none, keytabPath := none, openMode := false }
  db :=
    { getUserByUsername := fun username =>
        .ok (if username = "a" then
          some { id := 1, username := "a", enabled := true, passwordHash := none
                 ntHash := [136, 70, 247, 234, 238, 143, 177, 23, 173, 6, 189, 216, 48, 183, 88, 108] }
        else none)
      getUserGroups := fun _ => .ok []
      getAclRules := .ok [] }

def knownMacs : Ntlm.Primitives where
  md4 _ := #[136, 70, 247, 234, 238, 143, 177, 23, 173, 6, 189, 216, 48, 183, 88, 108].toVector
  toUppercase text := text.map Char.toUpper
  hmacMd5 _ message :=
    if message = [65, 0] then
      #v[68, 125, 39, 16, 161, 215, 249, 52, 63, 15, 77, 138, 193, 211, 160, 186]
    else #v[136, 221, 67, 31, 247, 19, 240, 170, 111, 131, 111, 61, 30, 107, 87, 186]

/-- A first request with a bare Type3 signature is handed to the upgrade, with
`open_mode` off and no challenge ever sent. -/
theorem upgrade_without_challenge :
    ¬ ∀ (http : HttpPrimitives) (primitives : Ntlm.Primitives) (state : AppState)
      (requests : List RdgRequest) (past later : List RdgExchange) (exchange : RdgExchange),
      state.auth.openMode = false →
      rdgHistory http state requests = past ++ exchange :: later →
      exchange.output.reachesUpgrade = true →
      Authenticated http primitives state.db past exchange.event := by
  intro gate
  have authenticated := gate knownTexts knownMacs singleAccount
    [requestWith "Negotiate TlRMTVNTUAADAAAA"] [] [] _ rfl rfl (by decide)
  obtain ⟨challenge, ⟨before, issued, after, msg, listed, _⟩, _⟩ := authenticated
  simp at listed

def type1Request : RdgRequest := requestWith "Negotiate TlRMTVNTUAABAAAA"

def type3Request : RdgRequest :=
  requestWith ("Negotiate TlRMTVNTUAADAAAAAAAAAAAAAAAYABgAQgAAAAAAAAAAAAAAAgACAEAAAAAAAAAAAAAAAAAAAAAA" ++
    "AAAAAAAAAGEAiN1DH/cT8Kpvg289HmtXugAAAAAAAAAA")

theorem type3Request_accepted :
    AnswerAccepted knownTexts knownMacs singleAccount.db
      (rdgHandler knownTexts singleAccount Store.empty type1Request).2 type3Request := by
  refine ⟨NtlmAuthContext.new "gw" #v[1, 2, 3, 4, 5, 6, 7, 8] 0, "a", ?_, ?_⟩
  · rw [rdgHandler_type1 _ _ (by decide)]
    exact Store.insert_self (Store.empty : ChallengeStore) type1Request.addr _
  · decide +kernel

theorem upgrade_authenticated_with_password :
    Authenticated knownTexts knownMacs singleAccount.db
      (rdgHistory knownTexts singleAccount [type1Request]) type3Request := by
  have answer : isNtlmType3 knownTexts type3Request.authHeader = true := by decide +kernel
  have accepted : ∀ exchange ∈ rdgHistory knownTexts singleAccount [type1Request, type3Request],
      isNtlmType3 knownTexts exchange.event.authHeader = true →
        AnswerAccepted knownTexts knownMacs singleAccount.db exchange.before exchange.event := by
    intro exchange taken answer
    simp only [rdgHistory, exchanges, List.mem_cons, List.not_mem_nil, or_false] at taken
    rcases taken with rfl | rfl
    · exact absurd answer (by decide)
    · exact type3Request_accepted
  have split : rdgHistory knownTexts singleAccount [type1Request, type3Request] =
      rdgHistory knownTexts singleAccount [type1Request] ++
        Exchange.of (rdgHandler knownTexts singleAccount)
          (rdgHandler knownTexts singleAccount Store.empty type1Request).2 type3Request :: [] := by
    simp only [rdgHistory, exchanges, List.cons_append, List.nil_append]
  refine upgrade_authenticated knownTexts knownMacs singleAccount _ accepted split ?_
  rw [Exchange.of, rdgHandler_type3 _ _ answer]
  rfl

end RdGateway.Server
