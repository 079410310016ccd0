import RdGateway.Core.Negotiate
import RdGateway.Core.UserTable
import RdGateway.Wirekit.Text

/-!
# Portal accounts and session cookies

Sign-up, sign-in and the check of session cookies. The clock is an input. A database
statement is an input too, as its result: the handlers run between two statements.
-/

set_option autoImplicit false

namespace RdGateway.Server

open Wirekit Proto RdGateway.Core

/-- The functions of other crates that the handlers call. -/
structure PortalPrimitives where
  hmacSha256 : Bytes → Bytes → Vector UInt8 32
  /-- The URL-safe alphabet without padding. -/
  base64Url : Base64
  md4 : Bytes → Vector UInt8 16
  hashPassword : String → String → Option String
  parsesHash : String → Bool
  verifyPassword : String → String → Bool

structure PortalConfig where
  serverName : String
  guacamoleEnabled : Bool
deriving Repr, DecidableEq

/-! ## Session tokens -/

def sessionCookieName : String := "rdg_session"
def sessionTtlSecs : Nat := 86400

def utf8Bytes (text : List Char) : Bytes := (String.ofList text).toUTF8.data.toList

def sessionSecret (serverName : String) : Bytes :=
  ("rdg-auth-session:" ++ serverName).toUTF8.data.toList

/-- `"{user_id}:{issued_at}"`. -/
def sessionPayload (userId : Int) (issuedAt : Nat) : List Char :=
  showInt userId ++ ':' :: Nat.toDigits 10 issuedAt

def signSession (prims : PortalPrimitives) (userId : Int) (issuedAt : Nat) (secret : Bytes) : String :=
  let payload := sessionPayload userId issuedAt
  let sig := prims.hmacSha256 secret (utf8Bytes payload)
  String.ofList (payload ++ '.' :: (prims.base64Url.encode sig.toList).toList)

def validateSessionToken (prims : PortalPrimitives) (now : Nat) (token : String) (secret : Bytes) :
    Option Int := do
  let (payload, sigB64) ← splitLast '.' token.toList
  let mac := prims.hmacSha256 secret (utf8Bytes payload)
  let sig ← prims.base64Url.decode (String.ofList sigB64)
  if sig ≠ mac.toList then none
  else
    match payload.splitOn ':' with
    | [idField, issuedField] => do
        let userId ← parseI64 idField
        let issuedAt ← parseU64 issuedField
        -- subtraction of natural numbers saturates like the one of the source
        if sessionTtlSecs < now - issuedAt then none else some userId
    | _ => none

def sessionToken (cookieHeader : Option String) : Option String := do
  let cookies ← cookieHeader
  let front := sessionCookieName.toList ++ ['=']
  let cookie ← ((cookies.toList.splitOn ';').map trim).find? fun cookie => cookie.take front.length = front
  let token ← stripChars front cookie
  some (String.ofList token)

def validateSessionCookie (prims : PortalPrimitives) (config : PortalConfig) (now : Nat)
    (cookieHeader : Option String) : Option Int := do
  let token ← sessionToken cookieHeader
  validateSessionToken prims now token (sessionSecret config.serverName)

def setSessionCookie (prims : PortalPrimitives) (config : PortalConfig) (now : Nat) (userId : Int) :
    String :=
  let secret := sessionSecret config.serverName
  let token := signSession prims userId now secret
  sessionCookieName ++ "=" ++ token ++ "; HttpOnly; Secure; SameSite=Strict; Path=/; Max-Age=" ++
    toString sessionTtlSecs

/-! ## Sign-up and sign-in -/

inductive AuthStatus where
  | ok
  | created
  | badRequest
  | unauthorized
  | forbidden
  | conflict
  | internalServerError
deriving Repr, DecidableEq

structure AuthReply where
  status : AuthStatus
  setCookie : String
  body : Except String (Int × String)
deriving DecidableEq

def AuthReply.refusal (status : AuthStatus) (error : String) : AuthReply :=
  { status, setCookie := "", body := .error error }

structure AuthRequest where
  username : String
  password : String
deriving Repr, DecidableEq

def trimName (name : String) : String := String.ofList (trim name.toList)

def computeNtHash (prims : PortalPrimitives) (password : String) : Bytes :=
  (prims.md4 (Ntlm.encodeUtf16le password)).toList

/-- `signup` up to its first statement: the trimmed name, and the password. -/
def signup (req : AuthRequest) : Except AuthReply (String × String) :=
  let username := trimName req.username
  if username = "" ∨ req.password.utf8ByteSize < 4 then
    .error (.refusal .badRequest "Username required, password must be at least 4 characters")
  else .ok (username, req.password)

/-- A failed lookup does not stop the sign-up. -/
def signupFound (found : Except DbError (Option User)) : Option AuthReply :=
  match found with
  | .ok (some _) => some (.refusal .conflict "Username already taken")
  | _ => none

/-- The row that `signup` asks the database to create. -/
def signupHashes (prims : PortalPrimitives) (salt password : String) :
    Except AuthReply (Bytes × String) :=
  match prims.hashPassword password salt with
  | none => .error (.refusal .internalServerError "Internal error")
  | some passwordHash => .ok (computeNtHash prims password, passwordHash)

def signupCreated (prims : PortalPrimitives) (config : PortalConfig) (now : Nat)
    (created : Option User) : AuthReply :=
  match created with
  | none => .refusal .internalServerError "Failed to create user"
  | some user =>
      { status := .created, setCookie := setSessionCookie prims config now user.id
        body := .ok (user.id, user.username) }

def signinFound (prims : PortalPrimitives) (config : PortalConfig) (now : Nat) (password : String)
    (found : Except DbError (Option User)) : AuthReply :=
  match found with
  | .ok (some user) =>
      if !user.enabled then .refusal .forbidden "Account disabled"
      else
        match user.passwordHash with
        | none => .refusal .unauthorized "Invalid credentials"
        | some passwordHash =>
            if !prims.parsesHash passwordHash then .refusal .internalServerError "Internal error"
            else if !prims.verifyPassword password passwordHash then
              .refusal .unauthorized "Invalid credentials"
            else
              { status := .ok, setCookie := setSessionCookie prims config now user.id
                body := .ok (user.id, user.username) }
  | _ => .refusal .unauthorized "Invalid credentials"

/-! ## Protected requests -/

/-- The guard of the connection and .rdp endpoints. -/
def checkSession (prims : PortalPrimitives) (config : PortalConfig) (now : Nat)
    (cookieHeader : Option String) : Except AuthStatus Int :=
  match validateSessionCookie prims config now cookieHeader with
  | some userId => .ok userId
  | none => .error .unauthorized

inductive GuacResponse where
  | unauthorized
  | serviceUnavailable
  | upgraded
deriving Repr, DecidableEq

def guacWsHandler (prims : PortalPrimitives) (config : PortalConfig) (now : Nat)
    (cookieHeader : Option String) : GuacResponse :=
  if (validateSessionCookie prims config now cookieHeader).isNone then .unauthorized
  else if !config.guacamoleEnabled then .serviceUnavailable
  else .upgraded

end RdGateway.Server
