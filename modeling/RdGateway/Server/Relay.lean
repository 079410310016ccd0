import RdGateway.Proto.WebSocket
import RdGateway.Wirekit.Run

/-!
# The relay tasks of a WebSocket session

`WsToTcp` forwards client frames to the backend and queues control responses;
`TcpToWs` sends backend data and queued responses to the client. Counters that
only feed log lines are left out.
-/

set_option autoImplicit false

namespace RdGateway.Server

open Wirekit Proto

inductive WsItem where
  | binary (data : Bytes)
  | ping (data : Bytes)
  | close
  | error
  | other
deriving Repr, DecidableEq

/-- The data of a Data message without its 2-byte `cbDataLength`. -/
def rdpData (data : Bytes) : Bytes :=
  if 2 ≤ data.length then data.drop 2 else data

/-! ## Client to backend -/

structure WsToTcp where
  /-- After a ChannelCreate the next Data message is a duplicate of the first one. -/
  skipNextData : Bool
  written : Bytes
  queued : List Bytes
deriving Repr, DecidableEq

inductive Flow where
  | proceed
  | finish
deriving Repr, DecidableEq

structure RelayInput where
  item : WsItem
  ioOk : Bool
deriving Repr, DecidableEq

def typeInPipeSetup : UInt16 := 0x10

/-- The same type back, with the reserved bytes cleared. -/
def inPipeSetupAck (msgType : UInt16) (payload : Bytes) : Bytes :=
  let respLen := UInt32.ofNat (8 + payload.length)
  u16Le.put msgType ++ u16Le.put 0 ++ u32Le.put respLen ++ payload

def relayChannelResponse : ChannelResponse :=
  { errorCode := 0, fieldsPresent := httpChannelResponseFieldChannelid, reserved := 0
    channelId := some 1, udpPort := none, authCookie := none }

namespace WsToTcp

def start : WsToTcp := { skipNextData := false, written := [], queued := [] }

/-- A response that cannot be queued any more is dropped. -/
def send (self : WsToTcp) (ioOk : Bool) (response : Bytes) : WsToTcp :=
  if ioOk then { self with queued := self.queued ++ [response] } else self

def handleMessage (self : WsToTcp) (ioOk : Bool) (msg : TsgMessage) : Flow × WsToTcp :=
  match msg with
  | .data d =>
      if self.skipNextData then (.proceed, { self with skipNextData := false })
      else if ioOk then (.proceed, { self with written := self.written ++ rdpData d.data })
      else (.finish, self)
  | .keepalive => (.proceed, self.send ioOk writeKeepalive)
  | .closeChannel _ => (.finish, self.send ioOk writeCloseChannelResponse)
  | .unknown msgType payload =>
      if msgType = typeInPipeSetup then
        (.proceed, self.send ioOk (inPipeSetupAck msgType payload))
      else (.proceed, self)
  | .channelCreate _ =>
      (.proceed, { self.send ioOk relayChannelResponse.write with skipNextData := true })
  | _ => (.proceed, self)

def handleItem (self : WsToTcp) (input : RelayInput) : Flow × WsToTcp :=
  match input.item with
  | .binary data =>
      match parseMessage data with
      | .ok msg => self.handleMessage input.ioOk msg
      | .err _ => (.proceed, self)
      | .panicked => (.finish, self)
  | .ping _ => (.proceed, self)
  | .close => (.finish, self)
  | .error => (.finish, self)
  | .other => (.proceed, self)

def run (self : WsToTcp) : List RelayInput → WsToTcp
  | [] => self
  | input :: rest =>
      match self.handleItem input with
      | (.finish, next) => next
      | (.proceed, next) => next.run rest

end WsToTcp

/-! ## Backend to client -/

def readBufferSize : Nat := 16384
def controlQueueSize : Nat := 8

structure TcpToWs where
  running : Bool
  /-- What the backend has sent and the socket has not returned yet. -/
  unread : Bytes
  control : List Bytes
  frames : List Bytes
deriving Repr, DecidableEq

/-- A step of the `select!` loop, or of the other task on the shared queue. The
flag of a step says whether its WebSocket send succeeds. -/
inductive RelayLabel where
  | enqueue (response : Bytes)
  | read (data : Bytes) (sent : Bool)
  | recv (response : Bytes) (sent : Bool)
  | readEnds
deriving Repr, DecidableEq

namespace TcpToWs

def start (stream : Bytes) : TcpToWs :=
  { running := true, unread := stream, control := [], frames := [] }

/-- `ws_sink.send`; the loop ends when it fails. -/
def send (self : TcpToWs) (sent : Bool) (frame : Bytes) : TcpToWs :=
  if sent then { self with frames := self.frames ++ [frame] } else { self with running := false }

inductive Step : TcpToWs → RelayLabel → TcpToWs → Prop where
  | enqueue {self : TcpToWs} (response : Bytes) (running : self.running = true)
      (room : self.control.length < controlQueueSize) :
      Step self (.enqueue response) { self with control := self.control ++ [response] }
  | read {self : TcpToWs} {data rest : Bytes} (sent : Bool) (running : self.running = true)
      (nonempty : data ≠ []) (fits : data.length ≤ readBufferSize)
      (available : self.unread = data ++ rest) :
      Step self (.read data sent) ({ self with unread := rest }.send sent (encodeDataMessage data))
  | recv {self : TcpToWs} {response : Bytes} {rest : List Bytes} (sent : Bool)
      (running : self.running = true) (queued : self.control = response :: rest) :
      Step self (.recv response sent) ({ self with control := rest }.send sent response)
  -- end of stream or a read error
  | readEnds {self : TcpToWs} (running : self.running = true) :
      Step self .readEnds { self with running := false }

end TcpToWs

end RdGateway.Server
