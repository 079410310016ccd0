import RdGateway.Core.Auth
import RdGateway.Core.Session
import RdGateway.Server.Relay
import RdGateway.Wirekit.IpAddr
import RdGateway.Wirekit.Store

/-!
# The WebSocket transport

`rdgHandler` answers the requests of the NTLM exchange and hands the last one to
the WebSocket upgrade. `sessionLoop` is the session before the relay starts.
Request logging is left out.
-/

set_option autoImplicit false

namespace RdGateway.Server

open Wirekit Proto RdGateway.Core

/-! ## NTLM over HTTP -/

/-- The functions of other crates that the handler calls. -/
structure HttpPrimitives where
  base64Encode : Bytes → String
  base64Decode : String → Option Bytes
  deriveAcceptKey : String → String

structure SocketAddr where
  ip : IpAddr
  port : UInt16
deriving Repr, DecidableEq

/-- A request, with the headers that the handler reads. The challenge and the clock
are drawn when the request needs a new context. -/
structure RdgRequest where
  addr : SocketAddr
  authorization : Option String
  upgrade : Option String
  connection : Option String
  secWebsocketKey : Option String
  secWebsocketProtocol : Option String
  serverChallenge : Vector UInt8 8
  unixSecs : UInt64
deriving Repr, DecidableEq

inductive UpgradeResponse where
  | missingHeaders
  | switchingProtocols (accept : String) (protocol : Option String)
deriving Repr, DecidableEq

inductive RdgResponse where
  | unauthorized (wwwAuthenticate : String)
  | upgraded (username : String) (response : UpgradeResponse)
  | badRequest
deriving Repr, DecidableEq

structure AppState where
  serverName : String
  auth : AuthConfig
  db : DbProvider

abbrev ChallengeStore := Store SocketAddr NtlmAuthContext

def negotiatePrefix : String := "Negotiate "

/-- `str::strip_prefix`. -/
def stripPrefix (front text : String) : Option String :=
  if text.toList.take front.length = front.toList then
    some (String.ofList (text.toList.drop front.length))
  else none

def negotiateToken (http : HttpPrimitives) (auth : String) : Option Bytes :=
  (stripPrefix negotiatePrefix auth).bind http.base64Decode

/-- The shared shape of `is_ntlm_type1` and `is_ntlm_type3`. -/
def isNtlmType (type : UInt8) (http : HttpPrimitives) (auth : String) : Bool :=
  match negotiateToken http auth with
  | some d => 12 ≤ d.length ∧ d.take 8 = Ntlm.ntlmsspSignature ∧ d[8]? = some type
  | none => false

def isNtlmType1 (http : HttpPrimitives) (auth : String) : Bool := isNtlmType 1 http auth
def isNtlmType3 (http : HttpPrimitives) (auth : String) : Bool := isNtlmType 3 http auth

def extractNtlmToken (http : HttpPrimitives) (auth : String) : Bytes :=
  (negotiateToken http auth).getD []

def extractUsernameFromType3 (data : Bytes) : Option String :=
  match Ntlm.parseAuthenticate data with
  | .ok auth => some auth.username
  | _ => none

def lowercase (text : String) : String := String.ofList (text.toList.map Char.toLower)

/-- Header values are visible ASCII here, where the two ways to fold case agree. -/
def containsUpgrade (value : String) : Bool :=
  (lowercase value).toList.tails.any fun rest => rest.take 7 = "upgrade".toList

def doWebsocketUpgrade (http : HttpPrimitives) (req : RdgRequest) : UpgradeResponse :=
  let hasUpgrade := req.upgrade.any fun value => lowercase value = "websocket"
  let hasConnection := req.connection.any containsUpgrade
  match req.secWebsocketKey with
  | some wsKey =>
      if !hasUpgrade || !hasConnection then .missingHeaders
      else .switchingProtocols (http.deriveAcceptKey wsKey) req.secWebsocketProtocol
  | none => .missingHeaders

def RdgRequest.authHeader (req : RdgRequest) : String := req.authorization.getD ""

/-- The stored context is taken out and dropped: nothing is checked against it. -/
def rdgHandler (http : HttpPrimitives) (state : AppState) (challenges : ChallengeStore)
    (req : RdgRequest) : RdgResponse × ChallengeStore :=
  let authHeader := req.authHeader
  if authHeader.isEmpty then (.unauthorized "Negotiate", challenges)
  else if isNtlmType1 http authHeader then
    let authCtx := NtlmAuthContext.new state.serverName req.serverChallenge req.unixSecs
    let challengeB64 := http.base64Encode (Ntlm.serializeChallenge authCtx.challengeMsg)
    (.unauthorized (negotiatePrefix ++ challengeB64), challenges.insert req.addr authCtx)
  else if isNtlmType3 http authHeader then
    let type3Data := extractNtlmToken http authHeader
    let username := (extractUsernameFromType3 type3Data).getD "unknown"
    (.upgraded username (doWebsocketUpgrade http req), challenges.remove req.addr)
  else (.badRequest, challenges)

/-! ## The session before the relay -/

/-- What the network answers to the session: whether its n-th frame goes out, and
whether the backend accepts the connection and the first write. -/
structure SessionEnv where
  frameSent : Nat → Bool
  backendAccepts : String → UInt16 → Bool
  initialWriteOk : Bool

/-- How a session went: the replies it sent, the backend connection it opened, and
the initial data and remaining items of the relay it started. -/
structure SessionRun where
  session : GatewaySession
  sent : List Bytes
  connection : Option (String × UInt16)
  relay : Option (Bytes × List WsItem)
deriving Repr, DecidableEq

def SessionRun.stopped (session : GatewaySession) (sent : List Bytes) : SessionRun :=
  { session, sent, connection := none, relay := none }

def startRelay (env : SessionEnv) (session : GatewaySession) (sent : List Bytes)
    (dataMsg : DataMessage) (rest : List WsItem) : SessionRun :=
  let targetHost := session.targetHost.getD ""
  let targetPort := session.targetPort.getD 3389
  if !env.backendAccepts targetHost targetPort then .stopped session sent
  else
    let rdpData := rdpData dataMsg.data
    { session, sent, connection := some (targetHost, targetPort)
      relay := if env.initialWriteOk then some (rdpData, rest) else none }

def relaysData (session : GatewaySession) (msg : TsgMessage) : Option DataMessage :=
  match msg with
  | .data dataMsg => if session.isDataTransfer then some dataMsg else none
  | _ => none

def sessionLoop (env : SessionEnv) (session : GatewaySession) (sent : List Bytes) :
    List WsItem → SessionRun
  | [] => .stopped session sent
  | .close :: _ => .stopped session sent
  | .error :: _ => .stopped session sent
  | .ping _ :: rest => sessionLoop env session sent rest
  | .other :: rest => sessionLoop env session sent rest
  | .binary data :: rest =>
      match parseMessage data with
      | .err _ => .stopped session sent
      | .panicked => .stopped session sent
      | .ok tsgMsg =>
          match relaysData session tsgMsg with
          | some dataMsg => startRelay env session sent dataMsg rest
          | none =>
              match session.processMessage tsgMsg with
              | (.ok (some response), session) =>
                  if env.frameSent sent.length then
                    sessionLoop env session (sent ++ [response]) rest
                  else .stopped session sent
              | (.ok none, session) => sessionLoop env session sent rest
              | (.error _, session) => .stopped session sent

/-- The state and the user name reach the session, which uses them in log lines only. -/
def handleWsSession (_state : AppState) (_username : String) (env : SessionEnv)
    (items : List WsItem) : SessionRun :=
  sessionLoop env GatewaySession.new [] items

end RdGateway.Server
