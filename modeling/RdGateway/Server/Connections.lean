import RdGateway.Core.ConnectionTable
import RdGateway.Server.PortalAuth
import RdGateway.Wirekit.Run

/-!
# Stored connections and their .rdp files

The handlers behind `/api/connections`. The clock, the cookie and a failure of the
database are inputs of a call; the check of header values comes from outside and is a
parameter.
-/

set_option autoImplicit false

namespace RdGateway.Server

open Wirekit RdGateway.Core

structure WebUiConfig extends PortalConfig where
  listenPort : UInt16
  gatewayUrl : Option String

inductive ApiStatus where
  | unauthorized
  | notFound
  | internalServerError
deriving Repr, DecidableEq

structure ApiCall where
  cookieHeader : Option String
  now : Nat
  timestamp : String
  failure : Option DbError

structure ConnectionInput where
  name : String
  host : String
  port : Option Int
  description : Option String
  icon : Option String
deriving Repr, DecidableEq

inductive ApiReply where
  | created (conn : Connection)
  | found (conn : Connection)
  | noContent
  | refused (status : ApiStatus)
deriving Repr, DecidableEq

section Handlers

variable (prims : PortalPrimitives) (config : PortalConfig) (call : ApiCall)

/-- The session check of a handler, and the error or the result of its statement. -/
def guarded {α : Type} (statement : α) : Except ApiStatus α :=
  match checkSession prims config call.now call.cookieHeader with
  | .error _ => .error .unauthorized
  | .ok _ =>
      match call.failure with
      | some _ => .error .internalServerError
      | none => .ok statement

def ConnectionInput.portOrDefault (input : ConnectionInput) : Int := input.port.getD 3389

def ConnectionInput.iconOrDefault (input : ConnectionInput) : String := input.icon.getD "Desktop"

def createConnection (connections : ConnectionTable) (input : ConnectionInput) : ApiReply × ConnectionTable :=
  let statement := connections.createConnection call.timestamp input.name input.host input.portOrDefault
    input.description input.iconOrDefault
  match guarded prims config call statement with
  | .error status => (.refused status, connections)
  | .ok (conn, connections) => (.created conn, connections)

def getConnection (connections : ConnectionTable) (id : Int) : ApiReply :=
  match guarded prims config call (connections.getConnection id) with
  | .error status => .refused status
  | .ok none => .refused .notFound
  | .ok (some conn) => .found conn

def updateConnection (connections : ConnectionTable) (id : Int) (input : ConnectionInput) :
    ApiReply × ConnectionTable :=
  let statement := connections.updateConnection id call.timestamp input.name input.host input.portOrDefault
    input.description input.iconOrDefault
  match guarded prims config call statement with
  | .error status => (.refused status, connections)
  | .ok connections => (.noContent, connections)

def deleteConnection (connections : ConnectionTable) (id : Int) : ApiReply × ConnectionTable :=
  match guarded prims config call (connections.deleteConnection id) with
  | .error status => (.refused status, connections)
  | .ok connections => (.noContent, connections)

end Handlers

inductive ConnectionRequest where
  | create (input : ConnectionInput)
  | get (id : Int)
  | update (id : Int) (input : ConnectionInput)
  | delete (id : Int)

def handleConnections (prims : PortalPrimitives) (config : PortalConfig) (connections : ConnectionTable)
    (request : ApiCall × ConnectionRequest) : ApiReply × ConnectionTable :=
  let (call, request) := request
  match request with
  | .create input => createConnection prims config call connections input
  | .get id => (getConnection prims config call connections id, connections)
  | .update id input => updateConnection prims config call connections id input
  | .delete id => deleteConnection prims config call connections id

/-! ## The .rdp file -/

def gatewayHost (config : WebUiConfig) : String :=
  config.gatewayUrl.getD (config.serverName ++ ":" ++ decimal config.listenPort.toNat)

def rdpContent (host port gateway : String) : String :=
  "full address:s:" ++ host ++ ":" ++ port ++ "\r\n" ++
    ("server port:i:" ++ port ++ "\r\n") ++
    ("use redirection server name:i:1" ++ "\r\n") ++
    ("alternate full address:s:" ++ host ++ "\r\n") ++
    ("gatewayhostname:s:" ++ gateway ++ "\r\n") ++
    ("gatewayusagemethod:i:1" ++ "\r\n") ++
    ("gatewayprofileusagemethod:i:1" ++ "\r\n") ++
    ("gatewayaccesstoken:s:" ++ "\r\n") ++
    ("gatewaybrokeringtype:i:0" ++ "\r\n") ++
    ("prompt for credentials:i:1" ++ "\r\n") ++
    ("authentication level:i:2" ++ "\r\n")

def rdpFilename (name : String) : String :=
  String.ofList (name.toList.map fun c => if c = ' ' then '_' else c) ++ ".rdp"

def contentDisposition (name : String) : String :=
  "attachment; filename=\"" ++ rdpFilename name ++ "\""

structure RdpResponse where
  contentType : String
  contentDisposition : String
  body : String
deriving Repr, DecidableEq

/-- The bytes of a text as a header value. -/
def headerBytes (text : String) : Bytes := text.toUTF8.data.toList

/-- The builder keeps the first value that is not valid, and `unwrap` meets it. -/
def buildRdpResponse (validValue : Bytes → Bool) (response : RdpResponse) :
    Outcome ApiStatus RdpResponse :=
  if validValue (headerBytes response.contentType) ∧ validValue (headerBytes response.contentDisposition) then
    .ok response
  else .panicked

def downloadRdp (validValue : Bytes → Bool) (prims : PortalPrimitives) (config : WebUiConfig)
    (call : ApiCall) (connections : ConnectionTable) (id : Int) : Outcome ApiStatus RdpResponse :=
  match guarded prims config.toPortalConfig call (connections.getConnection id) with
  | .error status => .err status
  | .ok none => .err .notFound
  | .ok (some conn) =>
      buildRdpResponse validValue
        { contentType := "application/x-rdp"
          contentDisposition := contentDisposition conn.name
          body := rdpContent conn.host (String.ofList (showInt conn.port)) (gatewayHost config) }

end RdGateway.Server
