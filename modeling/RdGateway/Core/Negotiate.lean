import RdGateway.Core.Auth

/-!
# The Negotiate context

`process_token` looks at the first bytes of a token and hands it to NTLM or to
Kerberos. The random challenge, the clock, the database and the answer of the Kerberos
library are inputs of a call.
-/

set_option autoImplicit false

namespace RdGateway.Core

open Wirekit Proto

/-- The standard alphabet with padding. -/
structure Base64 where
  encode : Bytes → String
  decode : String → Option Bytes

inductive NegotiateError where
  | invalidBase64
  | ntlm (error : AuthError)
  | kerberos (message : String)
  | kerberosNotAvailable
  | unsupportedToken
  | incomplete
deriving Repr, DecidableEq

inductive TokenType where
  | ntlm
  | kerberos
  | unknown
deriving Repr, DecidableEq

def spnegoOidPrefix : Bytes := [0x06, 0x06, 0x2b, 0x06, 0x01, 0x05, 0x05, 0x02]

/-- `token.windows(n).any(|w| w == part)` for a part of length `n`. -/
def hasWindow (token part : Bytes) : Bool :=
  token.tails.any fun rest => rest.take part.length = part

def detectTokenType (token : Bytes) : TokenType :=
  if 8 ≤ token.length ∧ token.take 8 = Ntlm.ntlmsspSignature then .ntlm
  else if token.head? = some 0x60 ∧ 10 < token.length ∧ hasWindow token spnegoOidPrefix then .kerberos
  else if token.head? = some 0x6E ∨ token.head? = some 0x60 then .kerberos
  else .unknown

inductive NegotiateResult where
  | success (principal : String)
  | challenge (token : String)
deriving Repr, DecidableEq

/-- What `ServerCtx::new` and `step` give for a token. -/
inductive KerberosStep where
  | createFailed (error : String)
  | finished (client : Option String)
  | continues (token : Bytes)
  | stepFailed (error : String)
deriving Repr, DecidableEq

structure NegotiateAuthContext where
  serverName : String
  ntlmCtx : Option NtlmAuthContext
  krbSpn : Option String
deriving Repr, DecidableEq

structure NegotiateCall where
  base64Token : String
  db : DbProvider
  serverChallenge : Vector UInt8 8
  unixSecs : UInt64
  /-- `none` without the feature `kerberos`. -/
  kerberos : Option (Option String → Bytes → KerberosStep)

namespace NegotiateAuthContext

def new (serverName : String) (spn : Option String) : NegotiateAuthContext :=
  { serverName, ntlmCtx := none, krbSpn := some (spn.getD ("HTTP/" ++ serverName)) }

def processNtlm (base64 : Base64) (primitives : Ntlm.Primitives) (self : NegotiateAuthContext)
    (call : NegotiateCall) (token : Bytes) :
    Outcome NegotiateError NegotiateResult × NegotiateAuthContext :=
  if 12 ≤ token.length then
    let msgType := u32Le.decode ((token.drop 8).take 4)
    if msgType = 1 then
      let ctx := NtlmAuthContext.new self.serverName call.serverChallenge call.unixSecs
      let challengeB64 := base64.encode (Ntlm.serializeChallenge ctx.challengeMsg)
      (.ok (.challenge challengeB64), { self with ntlmCtx := some ctx })
    else if msgType = 3 then
      match self.ntlmCtx with
      | none => (.err (.ntlm (.ntlm .bufferTooShort)), self)
      | some ctx =>
          match ctx.processAuthenticate primitives token call.db with
          | (.ok username, ctx) => (.ok (.success username), { self with ntlmCtx := some ctx })
          | (.err error, ctx) => (.err (.ntlm error), { self with ntlmCtx := some ctx })
          | (.panicked, ctx) => (.panicked, { self with ntlmCtx := some ctx })
    else (.err .unsupportedToken, self)
  else (.err .unsupportedToken, self)

def processKerberos (base64 : Base64) (self : NegotiateAuthContext) (call : NegotiateCall)
    (token : Bytes) : Outcome NegotiateError NegotiateResult :=
  match call.kerberos with
  | none => .err .kerberosNotAvailable
  | some accept =>
      match accept self.krbSpn token with
      | .createFailed error => .err (.kerberos ("failed to create server context: " ++ error))
      | .finished client => .ok (.success (client.getD ""))
      | .continues response => .ok (.challenge (base64.encode response))
      | .stepFailed error => .err (.kerberos ("authentication failed: " ++ error))

def processToken (base64 : Base64) (primitives : Ntlm.Primitives) (self : NegotiateAuthContext)
    (call : NegotiateCall) : Outcome NegotiateError NegotiateResult × NegotiateAuthContext :=
  match base64.decode call.base64Token with
  | none => (.err .invalidBase64, self)
  | some tokenBytes =>
      match detectTokenType tokenBytes with
      | .ntlm => processNtlm base64 primitives self call tokenBytes
      | .kerberos => (processKerberos base64 self call tokenBytes, self)
      | .unknown => (.err .unsupportedToken, self)

end NegotiateAuthContext

end RdGateway.Core
