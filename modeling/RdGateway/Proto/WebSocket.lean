import RdGateway.Proto.Messages

/-!
# TSG messages in WebSocket frames

Each binary frame holds exactly one TSG message.
-/

set_option autoImplicit false

namespace RdGateway.Proto

open Wirekit

def decodeWsMessage (wsPayload : Bytes) : Outcome MessageError TsgMessage :=
  parseMessage wsPayload

def messageLength (wsPayload : Bytes) : Outcome MessageError Nat := do
  let header ← MessageHeader.parse wsPayload
  pure header.length.toNat

/-- The raw bytes behind their own 16-bit length, as one Data message. The
length wraps above 65535, where builds with debug assertions stop. -/
def encodeDataMessage (data : Bytes) : Bytes :=
  let cbLen := min (UInt16.ofNat data.length) 65535
  let payloadWithLen := u16Le.put cbLen ++ data
  DataMessage.write payloadWithLen

def isCompleteMessage (buf : Bytes) : Bool :=
  if buf.length < headerSize then false
  else
    match MessageHeader.parse buf with
    | .ok header => header.length.toNat ≤ buf.length
    | _ => false

end RdGateway.Proto
