import RdGateway.Core.Database
import RdGateway.Proto.Ntlm

/-!
# NTLM authentication context

The challenge issued to one client, and the check of its answer against the
database. The random challenge and the clock are inputs of `new`.
-/

set_option autoImplicit false

namespace RdGateway.Core

open Wirekit Proto

structure AuthConfig where
  spn : Option String
  keytabPath : Option String
  openMode : Bool
deriving Repr, DecidableEq

inductive AuthError where
  | ntlm (error : Ntlm.NtlmError)
  | userNotFound (username : String)
  | userDisabled (username : String)
  | database (message : String)
deriving Repr, DecidableEq

structure NtlmAuthContext where
  serverChallenge : Vector UInt8 8
  challengeMsg : Ntlm.NtlmChallenge
  negotiate : Option Ntlm.NtlmNegotiate
  authenticatedUser : Option String
deriving Repr, DecidableEq

namespace NtlmAuthContext

def new (serverName : String) (serverChallenge : Vector UInt8 8) (unixSecs : UInt64) :
    NtlmAuthContext :=
  { serverChallenge
    challengeMsg := Ntlm.generateChallenge serverName serverChallenge unixSecs
    negotiate := none, authenticatedUser := none }

/-- The `?` on a parser result. -/
def ofNtlm {α : Type} : Outcome Ntlm.NtlmError α → Outcome AuthError α
  | .ok value => .ok value
  | .err error => .err (.ntlm error)
  | .panicked => .panicked

def dbErrorText : DbError → String
  | .database message => "database error: " ++ message
  | .notFound what => "not found: " ++ what
  | .migration message => "migration error: " ++ message

/-- The account a parsed answer names, once the answer is checked against the challenge. -/
def checkAnswer (primitives : Ntlm.Primitives) (serverChallenge : Vector UInt8 8)
    (auth : Ntlm.NtlmAuthenticate) (db : DbProvider) : Outcome AuthError String :=
  match db.getUserByUsername auth.username with
  | .error error => .err (.database (dbErrorText error))
  | .ok none => .err (.userNotFound auth.username)
  | .ok (some user) =>
      if !user.enabled then .err (.userDisabled auth.username)
      else if sized : user.ntHash.length = 16 then do
        let ntHash : Vector UInt8 16 := ⟨user.ntHash.toArray, by simpa using sized⟩
        ofNtlm (Ntlm.validateNtlmv2 primitives ntHash serverChallenge auth)
        pure auth.username
      else .err (.database "invalid NT hash in database")

def processAuthenticate (self : NtlmAuthContext) (primitives : Ntlm.Primitives)
    (type3Bytes : Bytes) (db : DbProvider) : Outcome AuthError String × NtlmAuthContext :=
  match Ntlm.parseAuthenticate type3Bytes with
  | .err error => (.err (.ntlm error), self)
  | .panicked => (.panicked, self)
  | .ok auth =>
      match checkAnswer primitives self.serverChallenge auth db with
      | .ok username => (.ok username, { self with authenticatedUser := some username })
      | .err error => (.err error, self)
      | .panicked => (.panicked, self)

end NtlmAuthContext

end RdGateway.Core
