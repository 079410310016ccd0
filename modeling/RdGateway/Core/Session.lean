import RdGateway.Proto.Messages
import RdGateway.Wirekit.Run

/-!
# TSG session state machine

The lifecycle of one gateway connection: handshake, tunnel, authorization,
channel, data. A method that takes `&mut self` returns its result and the session
it leaves.
-/

set_option autoImplicit false

namespace RdGateway.Core

open Wirekit Proto

inductive SessionState where
  | awaitingHandshake
  | awaitingTunnelCreate
  | awaitingTunnelAuth
  | awaitingChannelCreate
  | dataTransfer
  | closed
deriving Repr, DecidableEq

inductive SessionError where
  | unexpectedMessage (msgType : UInt16) (state : SessionState)
  | protocol (error : MessageError)
  | closed
deriving Repr, DecidableEq

structure GatewaySession where
  state : SessionState
  tunnelId : UInt32
  channelId : UInt32
  clientName : Option String
  targetHost : Option String
  targetPort : Option UInt16
  nextTunnelId : UInt32
  nextChannelId : UInt32
deriving Repr, DecidableEq

/-- The type code that an `UnexpectedMessage` error names. -/
def messageCode : TsgMessage → UInt16
  | .handshakeRequest _ => MessageType.handshakeRequest.toU16
  | .handshakeResponse _ => MessageType.handshakeResponse.toU16
  | .tunnelCreate _ => MessageType.tunnelCreate.toU16
  | .tunnelResponse _ => MessageType.tunnelResponse.toU16
  | .tunnelAuth _ => MessageType.tunnelAuth.toU16
  | .tunnelAuthResponse _ => MessageType.tunnelAuthResponse.toU16
  | .channelCreate _ => MessageType.channelCreate.toU16
  | .channelResponse _ => MessageType.channelResponse.toU16
  | .data _ => MessageType.data.toU16
  | .keepalive => MessageType.keepalive.toU16
  | .closeChannel _ => MessageType.closeChannel.toU16
  | .closeChannelResponse _ => MessageType.closeChannelResponse.toU16
  | .unknown msgType _ => msgType

namespace GatewaySession

def new : GatewaySession :=
  { state := .awaitingHandshake, tunnelId := 0, channelId := 0, clientName := none,
    targetHost := none, targetPort := none, nextTunnelId := 1, nextChannelId := 1 }

/-! ## Replies -/

def handshakeReply (req : HandshakeRequest) : HandshakeResponse :=
  { errorCode := 0, majorVersion := req.majorVersion, minorVersion := req.minorVersion,
    serverVersion := 0, extAuth := 0x0007 }

def tunnelReply (tunnelId : UInt32) : TunnelResponse :=
  { serverVersion := 0, errorCode := 0
    fieldsPresent := httpTunnelResponseFieldTunnelId ||| httpTunnelResponseFieldCaps
    reserved := 0, tunnelId := some tunnelId, caps := some 0x0d }

def tunnelAuthReply : TunnelAuthResponse :=
  { errorCode := 0, flags := 0x0003, reserved := 0, idleTimeout := 0, sohResponse := none }

def channelReply (channelId : UInt32) : ChannelResponse :=
  { errorCode := 0, fieldsPresent := httpChannelResponseFieldChannelid, reserved := 0
    channelId := some channelId, udpPort := none, authCookie := none }

/-! ## Transitions -/

def processMessage (self : GatewaySession) (msg : TsgMessage) :
    Except SessionError (Option Bytes) × GatewaySession :=
  match self.state, msg with
  | .awaitingHandshake, .handshakeRequest req =>
      (.ok (some (handshakeReply req).write), { self with state := .awaitingTunnelCreate })
  | .awaitingTunnelCreate, .tunnelCreate _ =>
      (.ok (some (tunnelReply self.nextTunnelId).write),
        { self with
          tunnelId := self.nextTunnelId
          nextTunnelId := self.nextTunnelId + 1
          state := .awaitingTunnelAuth })
  | .awaitingTunnelAuth, .tunnelAuth req =>
      (.ok (some tunnelAuthReply.write),
        { self with
          clientName := some req.clientName
          state := .awaitingChannelCreate })
  | .awaitingChannelCreate, .channelCreate req =>
      (.ok (some (channelReply self.nextChannelId).write),
        { self with
          targetHost := some req.serverName
          targetPort := some req.port
          channelId := self.nextChannelId
          nextChannelId := self.nextChannelId + 1
          state := .dataTransfer })
  -- data is for the relay, not for the state machine
  | .dataTransfer, .data _ => (.ok none, self)
  | state, msg => (.error (.unexpectedMessage (messageCode msg) state), self)

def isDataTransfer (self : GatewaySession) : Bool :=
  self.state = .dataTransfer

end GatewaySession

end RdGateway.Core
