import RdGateway.Core.Session
import RdGateway.Proto.ParserSafety
import RdGateway.Wirekit.BodyReader
import RdGateway.Wirekit.Loop
import RdGateway.Wirekit.Store

/-!
# The RPC-over-HTTP handler

The OUT channel registers a virtual connection; the IN channel takes it out of the
map, answers CONN/C2 and feeds the following DCE/RPC PDUs to a session. A sender is
the write half of an OUT channel; the texts of processing errors, which are only
logged, are constructors.
-/

set_option autoImplicit false

namespace RdGateway.Server

open Wirekit Proto RdGateway.Core

abbrev SenderId := Nat

structure PendingConnection where
  vconn : VirtualConnection
  outSender : SenderId
deriving Repr, DecidableEq

abbrev PendingMap := Store Uuid PendingConnection

inductive StatusCode where
  | ok
  | badRequest
  | methodNotAllowed
  | internalServerError
deriving Repr, DecidableEq

/-! ## OUT channel -/

def maxOutBody : Nat := 65536

/-- What `handle_out_channel` does before it touches the map. -/
def readConnA1 (body : List BodyFrame) : Except StatusCode (ConnA1 × VirtualConnection) :=
  let bodyBytes := bodyBytes body
  if body.contains .failed ∨ maxOutBody < bodyBytes.length then .error .badRequest
  else if bodyBytes.length < 20 then .error .badRequest
  else
    match RtsPdu.parse bodyBytes >>= ConnA1.fromPdu with
    | .ok connA1 =>
        match VirtualConnection.new.acceptOutChannel connA1 with
        | (.ok _, vconn) => .ok (connA1, vconn)
        | _ => .error .internalServerError
    | _ => .error .badRequest

def handleOutChannel (pending : PendingMap) (outSender : SenderId) (body : List BodyFrame) :
    StatusCode × PendingMap :=
  match readConnA1 body with
  | .error status => (status, pending)
  | .ok (connA1, vconn) =>
      (.ok, pending.insert connA1.virtualConnectionCookie { vconn, outSender })

/-! ## TSG opnums -/

def tsgHandshake : HandshakeRequest :=
  { majorVersion := 1, minorVersion := 0, clientVersion := 0, extAuth := 0 }

def tsgTunnelCreate : TunnelCreate :=
  { capsFlags := 0, fieldsPresent := 0, reserved := 0, paaCookie := none }

def tsgTunnelAuth : TunnelAuth := { fieldsPresent := 0, clientName := "MSTSC-CLIENT" }

/-- The target is fixed: the stub data is not parsed. -/
def tsgChannelCreate : ChannelCreate :=
  { numResources := 1, numAltResources := 0, port := 3389, protocol := 0, serverName := "localhost" }

def processTsgOpnum (opnum : UInt16) (_stubData : Bytes) (session : GatewaySession) :
    Except SessionError Bytes × GatewaySession :=
  if opnum = 1 then
    match session.processMessage (.handshakeRequest tsgHandshake) with
    | (.error error, session) => (.error error, session)
    | (.ok _, session) =>
        match session.processMessage (.tunnelCreate tsgTunnelCreate) with
        | (.error error, session) => (.error error, session)
        | (.ok _, session) => (.ok (u32Le.put session.tunnelId ++ u32Le.put 0), session)
  else if opnum = 2 then
    match session.processMessage (.tunnelAuth tsgTunnelAuth) with
    | (.error error, session) => (.error error, session)
    | (.ok _, session) => (.ok (u32Le.put 0 ++ u32Le.put 0x0003 ++ u32Le.put 0), session)
  else if opnum = 4 then
    match session.processMessage (.channelCreate tsgChannelCreate) with
    | (.error error, session) => (.error error, session)
    | (.ok _, session) => (.ok (u32Le.put session.channelId ++ u32Le.put 0), session)
  -- 9 is TsgSetupReceivePipe; the others are not handled
  else (.ok (u32Le.put 0), session)

/-! ## RPC PDUs on the IN channel -/

inductive RpcProcessError where
  | bodyEndedMidHeader
  | headerParse (error : RpcError)
  | bodyEndedMidPdu
  | bindParse (error : RpcError)
  | nonTsgInterface
  | stateTransition (error : RpchError)
  | outChannelClosed
  | requestParse (error : RpcError)
  | session (error : SessionError)
  | crashed
deriving Repr, DecidableEq

/-- The variables of the loop, without its input. `sent` is what the OUT sender took. -/
structure RpcState where
  vconn : VirtualConnection
  session : GatewaySession
  bound : Bool
  sent : List Bytes
deriving Repr, DecidableEq

/-- `out_tx.send`, where `accepts n` says whether the sender takes its n-th frame. -/
def RpcState.send (state : RpcState) (accepts : Nat → Bool) (frame : Bytes) :
    Except RpcProcessError Unit × RpcState :=
  if accepts state.sent.length then (.ok (), { state with sent := state.sent ++ [frame] })
  else (.error .outChannelClosed, state)

def secondaryAddress : Bytes := [0]

def handleBind (accepts : Nat → Bool) (state : RpcState) (pduData : Bytes) :
    Except RpcProcessError Unit × RpcState :=
  match BindPdu.parse pduData with
  | .err error => (.error (.bindParse error), state)
  | .panicked => (.error .crashed, state)
  | .ok bind =>
      if !bind.isTsgBind then (.error .nonTsgInterface, state)
      else
        match state.vconn.enterDataTransfer with
        | (.err error, vconn) => (.error (.stateTransition error), { state with vconn })
        | (.panicked, vconn) => (.error .crashed, { state with vconn })
        | (.ok _, vconn) =>
            let ack := BindAckPdu.accepted bind.header.callId bind.assocGroupId secondaryAddress
            match RpcState.send { state with vconn } accepts ack.encode with
            | (.ok _, state) => (.ok (), { state with bound := true })
            | (.error error, state) => (.error error, state)

def handleRequest (accepts : Nat → Bool) (state : RpcState) (pduData : Bytes) :
    Except RpcProcessError Unit × RpcState :=
  match RequestPdu.parse pduData with
  | .err error => (.error (.requestParse error), state)
  | .panicked => (.error .crashed, state)
  | .ok request =>
      match processTsgOpnum request.opnum request.stubData state.session with
      | (.error error, session) => (.error (.session error), { state with session })
      | (.ok responseStub, session) =>
          let response := ResponsePdu.new request.header.callId request.contextId responseStub
          RpcState.send { state with session } accepts response.encode

/-- The `match` on the PDU type; other types, and requests before the bind, are ignored. -/
def handlePdu (accepts : Nat → Bool) (state : RpcState) (header : RpcPduHeader) (pduData : Bytes) :
    Except RpcProcessError Unit × RpcState :=
  match header.ptype with
  | .bind => handleBind accepts state pduData
  | .request => if state.bound then handleRequest accepts state pduData else (.ok (), state)
  | _ => (.ok (), state)

structure RpcPdu where
  header : RpcPduHeader
  pduData : Bytes
  buf : Bytes
  body : List BodyFrame

/-- The next PDU of the stream, or `none` where it ends between PDUs. The header is
parsed before the wait for the rest of its PDU. -/
def readPdu (buf : Bytes) (body : List BodyFrame) : Except RpcProcessError (Option RpcPdu) :=
  match fill rpcHeaderSize buf body with
  | .ended buf => if buf.isEmpty then .ok none else .error .bodyEndedMidHeader
  | .enough buf body =>
      match RpcPduHeader.parse buf with
      | .err error => .error (.headerParse error)
      | .panicked => .error .crashed
      | .ok header =>
          let fragLen := header.fragLength.toNat
          match fill fragLen buf body with
          | .ended _ => .error .bodyEndedMidPdu
          | .enough buf body =>
              .ok (some { header, pduData := buf.take fragLen, buf := buf.drop fragLen, body })

structure RpcInput where
  state : RpcState
  buf : Bytes
  body : List BodyFrame

def RpcInput.remaining (input : RpcInput) : Nat := input.buf.length + (bodyBytes input.body).length

abbrev RpcResult := Except RpcProcessError Unit × RpcState

def rpcRound (accepts : Nat → Bool) (input : RpcInput) : Round RpcInput RpcResult :=
  match readPdu input.buf input.body with
  | .error error => .done (.error error, input.state)
  | .ok none => .done (.ok (), input.state)
  | .ok (some pdu) =>
      match handlePdu accepts input.state pdu.header pdu.pduData with
      | (.error error, state) => .done (.error error, state)
      | (.ok _, state) => .next { state, buf := pdu.buf, body := pdu.body }

/-- A PDU is the front of what was left, and its header announces its length. -/
theorem readPdu_some {buf : Bytes} {body : List BodyFrame} {pdu : RpcPdu}
    (read : readPdu buf body = .ok (some pdu)) :
    rpcHeaderSize ≤ pdu.pduData.length ∧ pdu.pduData.length = pdu.header.fragLength.toNat ∧
      pdu.pduData ++ (pdu.buf ++ bodyBytes pdu.body) = buf ++ bodyBytes body := by
  unfold readPdu at read
  split at read
  · split at read <;> cases read
  · next filledBuf filledBody filled =>
    split at read
    · cases read
    · cases read
    · next header parsed =>
      have announced := (RpcPduHeader.parse_sat filledBuf).post parsed
      dsimp only at read
      rw [fill_of_le filledBody announced.2] at read
      cases read
      obtain ⟨_, same, _⟩ := fill_enough filled
      have sized : (filledBuf.take header.fragLength.toNat).length = header.fragLength.toNat := by
        rw [List.length_take]
        omega
      refine ⟨by rw [sized]; exact announced.1, sized, ?_⟩
      rw [← List.append_assoc, List.take_append_drop, same]

theorem rpcRound_consumes {accepts : Nat → Bool} {input next : RpcInput}
    (goesOn : rpcRound accepts input = .next next) :
    next.remaining + rpcHeaderSize ≤ input.remaining := by
  unfold rpcRound at goesOn
  split at goesOn
  · cases goesOn
  · cases goesOn
  · next pdu read =>
    split at goesOn
    · cases goesOn
    · cases goesOn
      obtain ⟨long, _, same⟩ := readPdu_some read
      have counted := congrArg List.length same
      simp only [List.length_append] at counted
      simp only [RpcInput.remaining]
      omega

theorem rpcRound_remaining {accepts : Nat → Bool} {input next : RpcInput}
    (goesOn : rpcRound accepts input = .next next) : next.remaining < input.remaining := by
  have consumed := rpcRound_consumes goesOn
  rw [rpcHeaderSize] at consumed
  omega

/-- `process_rpc_pdus_streaming`. -/
def rpcLoop (accepts : Nat → Bool) : Loop RpcInput RpcResult where
  round := rpcRound accepts
  measure := RpcInput.remaining
  decreases := rpcRound_remaining

@[simp] theorem rpcLoop_round (accepts : Nat → Bool) (input : RpcInput) :
    (rpcLoop accepts).round input = rpcRound accepts input := rfl

/-! ## IN channel -/

/-- What `handle_in_channel` does before it touches the map: CONN/B1, and the input
behind it. -/
def readConnB1 (body : List BodyFrame) : Except StatusCode (ConnB1 × Bytes × List BodyFrame) :=
  match fill 20 [] body with
  | .ended _ => .error .badRequest
  | .enough buf body =>
      let fragLength := (u16Le.decode ((buf.drop 8).take 2)).toNat
      match fill fragLength buf body with
      | .ended _ => .error .badRequest
      | .enough buf body =>
          if buf[2]? ≠ some ptypeRts then .error .badRequest
          else
            match RtsPdu.parse (buf.take fragLength) >>= ConnB1.fromPdu with
            | .ok connB1 => .ok (connB1, buf.drop fragLength, body)
            | _ => .error .badRequest

/-- The response, the map, what the OUT sender took, and the states of the connection
and the session, where they were reached. -/
structure InResult where
  status : StatusCode
  pending : PendingMap
  sent : List Bytes
  vconn : Option VirtualConnection
  session : Option GatewaySession

/-- The loop's input once CONN/C2 is sent. -/
def RpcInput.established (vconn : VirtualConnection) (connC2 : RtsPdu) (buf : Bytes)
    (body : List BodyFrame) : RpcInput :=
  { state := { vconn, session := GatewaySession.new, bound := false, sent := [connC2.toBytes] }
    buf, body }

def finishInChannel (pending : PendingMap) (result : RpcResult) : InResult :=
  { status :=
      match result.1 with
      | .ok _ => .ok
      | .error _ => .internalServerError
    pending, sent := result.2.sent, vconn := some result.2.vconn
    session := some result.2.session }

def handleInChannel (accepts : Nat → Bool) (pending : PendingMap) (body : List BodyFrame) :
    InResult :=
  match readConnB1 body with
  | .error status => { status, pending, sent := [], vconn := none, session := none }
  | .ok (connB1, buf, body) =>
      match pending connB1.virtualConnectionCookie with
      | none => { status := .badRequest, pending, sent := [], vconn := none, session := none }
      | some entry =>
          let pending := pending.remove connB1.virtualConnectionCookie
          match entry.vconn.acceptInChannel connB1 with
          | (.ok connC2, vconn) =>
              if accepts 0 then
                finishInChannel pending ((rpcLoop accepts).run (.established vconn connC2 buf body))
              else
                { status := .internalServerError, pending, sent := [], vconn := some vconn
                  session := none }
          | (_, vconn) =>
              { status := .internalServerError, pending, sent := [], vconn := some vconn
                session := none }

end RdGateway.Server
