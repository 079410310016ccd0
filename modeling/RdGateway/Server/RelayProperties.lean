import RdGateway.Proto.MessagesProperties
import RdGateway.Proto.ParserSafety
import RdGateway.Server.Relay
import RdGateway.Wirekit.Interleave
import Mathlib.Data.List.Forall2
import Mathlib.Data.List.Induction

/-!
# The relay is a transducer

The client-to-backend task is compared with a description of its two outputs that
has no running state: which Data messages are forwarded is read off the messages
before them. The backend-to-client task interleaves two sequences and changes
neither.
-/

set_option autoImplicit false

namespace RdGateway.Server

open Wirekit Proto

/-! ## The messages before the end of a run -/

/-- The message in a binary frame that parses. -/
def parsed : WsItem → Option TsgMessage
  | .binary data =>
      match parseMessage data with
      | .ok msg => some msg
      | _ => none
  | _ => none

def isCloseChannel (item : WsItem) : Bool :=
  match parsed item with
  | some (.closeChannel _) => true
  | _ => false

def endsRun (item : WsItem) : Bool :=
  item = .close ∨ item = .error ∨ isCloseChannel item

def messagesBeforeEnd (items : List WsItem) : List TsgMessage :=
  (items.takeWhile (!endsRun ·)).filterMap parsed

def endedByCloseChannel (items : List WsItem) : Bool :=
  (items.find? endsRun).any isCloseChannel

/-! ## What goes to the backend and into the control queue -/

def isDataOrCreate : TsgMessage → Bool
  | .data _ => true
  | .channelCreate _ => true
  | _ => false

def endsInCreate (messages : List TsgMessage) : Bool :=
  match (messages.filter isDataOrCreate).getLast? with
  | some (.channelCreate _) => true
  | _ => false

/-- The payload that the message at a position adds to the backend's bytes. -/
def forwardedAt (messages : List TsgMessage) (position : Nat) : Bytes :=
  match messages[position]? with
  | some (.data d) => if endsInCreate (messages.take position) then [] else rdpData d.data
  | _ => []

/-- The payloads of all Data messages in order, less the first after each ChannelCreate. -/
def forwarded (messages : List TsgMessage) : Bytes :=
  (List.range messages.length).flatMap (forwardedAt messages)

def controlReply : TsgMessage → Option Bytes
  | .keepalive => some writeKeepalive
  | .channelCreate _ => some relayChannelResponse.write
  | .unknown msgType payload =>
      if msgType = typeInPipeSetup then some (inPipeSetupAck msgType payload) else none
  | _ => none

theorem forwarded_append_singleton (messages : List TsgMessage) (msg : TsgMessage) :
    forwarded (messages ++ [msg]) =
      forwarded messages ++ forwardedAt (messages ++ [msg]) messages.length := by
  have earlier : ∀ position ∈ List.range messages.length,
      forwardedAt (messages ++ [msg]) position = forwardedAt messages position := by
    intro position inside
    rw [List.mem_range] at inside
    rw [forwardedAt, forwardedAt, List.getElem?_append_left inside,
      List.take_append_of_le_length (Nat.le_of_lt inside)]
  rw [forwarded, List.length_append, List.length_singleton, List.range_succ, List.flatMap_append,
    List.flatMap_congr earlier, forwarded]
  simp

theorem forwardedAt_length (messages : List TsgMessage) (msg : TsgMessage) :
    forwardedAt (messages ++ [msg]) messages.length =
      match msg with
      | .data d => if endsInCreate messages then [] else rdpData d.data
      | _ => [] := by
  rw [forwardedAt, List.getElem?_concat_length, List.take_left]
  cases msg <;> rfl

theorem endsInCreate_append_singleton (messages : List TsgMessage) (msg : TsgMessage) :
    endsInCreate (messages ++ [msg]) =
      match msg with
      | .data _ => false
      | .channelCreate _ => true
      | _ => endsInCreate messages := by
  cases msg <;> simp [endsInCreate, isDataOrCreate]

/-! ## One run -/

/-- The state of the task after these messages, had no other one ended the run. -/
def relayed (messages : List TsgMessage) : WsToTcp :=
  { skipNextData := endsInCreate messages, written := forwarded messages
    queued := messages.filterMap controlReply }

def RelayInput.succeeding (item : WsItem) : RelayInput := { item, ioOk := true }

theorem relayed_append_singleton (messages : List TsgMessage) (msg : TsgMessage)
    (continues : ∀ payload, msg ≠ .closeChannel payload) :
    (relayed messages).handleMessage true msg = (.proceed, relayed (messages ++ [msg])) := by
  have written := forwarded_append_singleton messages msg
  rw [forwardedAt_length] at written
  have skip := endsInCreate_append_singleton messages msg
  rw [relayed, relayed, written, skip, filterMap_append_singleton]
  cases msg with
  | data d =>
      cases skipping : endsInCreate messages <;>
        simp [WsToTcp.handleMessage, controlReply]
  | keepalive => simp [WsToTcp.handleMessage, WsToTcp.send, controlReply]
  | closeChannel payload => exact absurd rfl (continues payload)
  | unknown msgType payload =>
      by_cases setup : msgType = typeInPipeSetup <;>
        simp [WsToTcp.handleMessage, WsToTcp.send, controlReply, setup]
  | channelCreate req => simp [WsToTcp.handleMessage, WsToTcp.send, controlReply]
  | _ => simp [WsToTcp.handleMessage, controlReply]

theorem handleItem_continues {item : WsItem} (continues : endsRun item = false)
    (messages : List TsgMessage) :
    (relayed messages).handleItem (.succeeding item) =
      (.proceed, relayed (messages ++ (parsed item).toList)) := by
  cases item with
  | binary data =>
      cases outcome : parseMessage data with
      | ok msg =>
          have notClose : ∀ payload, msg ≠ .closeChannel payload := by
            intro payload close
            subst close
            simp [endsRun, isCloseChannel, parsed, outcome] at continues
          have taken := relayed_append_singleton messages msg notClose
          simpa [WsToTcp.handleItem, RelayInput.succeeding, parsed, outcome] using taken
      | err error => simp [WsToTcp.handleItem, RelayInput.succeeding, parsed, outcome]
      | panicked => exact absurd outcome (parseMessage_safe data).ne_panicked
  | ping data => simp [WsToTcp.handleItem, RelayInput.succeeding, parsed]
  | close => simp [endsRun] at continues
  | error => simp [endsRun] at continues
  | other => simp [WsToTcp.handleItem, RelayInput.succeeding, parsed]

/-- The item that ends a run writes nothing; a CloseChannel message queues its response. -/
theorem handleItem_ends {item : WsItem} (ends : endsRun item = true) (messages : List TsgMessage) :
    (relayed messages).handleItem (.succeeding item) =
      (.finish, { relayed messages with
        queued := messages.filterMap controlReply ++
          if isCloseChannel item then [writeCloseChannelResponse] else [] }) := by
  cases item with
  | binary data =>
      cases outcome : parseMessage data with
      | ok msg =>
          cases msg with
          | closeChannel payload =>
              simp [WsToTcp.handleItem, RelayInput.succeeding, outcome, WsToTcp.handleMessage,
                WsToTcp.send, isCloseChannel, parsed, relayed]
          | _ => simp [endsRun, isCloseChannel, parsed, outcome] at ends
      | err error => simp [endsRun, isCloseChannel, parsed, outcome] at ends
      | panicked => simp [endsRun, isCloseChannel, parsed, outcome] at ends
  | ping data => simp [endsRun, isCloseChannel, parsed] at ends
  | close => simp [WsToTcp.handleItem, RelayInput.succeeding, isCloseChannel, parsed, relayed]
  | error => simp [WsToTcp.handleItem, RelayInput.succeeding, isCloseChannel, parsed, relayed]
  | other => simp [endsRun, isCloseChannel, parsed] at ends

theorem run_relayed (items : List WsItem) (messages : List TsgMessage) :
    (relayed messages).run (items.map .succeeding) =
      { relayed (messages ++ messagesBeforeEnd items) with
        queued := (messages ++ messagesBeforeEnd items).filterMap controlReply ++
          if endedByCloseChannel items then [writeCloseChannelResponse] else [] } := by
  induction items generalizing messages with
  | nil => simp [WsToTcp.run, messagesBeforeEnd, endedByCloseChannel, relayed]
  | cons item rest ih =>
      cases ends : endsRun item with
      | true =>
          have stops : messagesBeforeEnd (item :: rest) = [] := by simp [messagesBeforeEnd, ends]
          have closes : endedByCloseChannel (item :: rest) = isCloseChannel item := by
            simp [endedByCloseChannel, ends]
          rw [List.map_cons, WsToTcp.run, handleItem_ends ends, stops, closes, List.append_nil]
      | false =>
          have grows : messagesBeforeEnd (item :: rest) =
              (parsed item).toList ++ messagesBeforeEnd rest := by
            cases received : parsed item <;> simp [messagesBeforeEnd, ends, received]
          have closes : endedByCloseChannel (item :: rest) = endedByCloseChannel rest := by
            simp [endedByCloseChannel, ends]
          rw [List.map_cons, WsToTcp.run, handleItem_continues ends, grows, closes,
            ← List.append_assoc]
          exact ih _

/-! ## Items that do not reach the backend -/

/-- Data, ChannelCreate and CloseChannel messages, Close items and stream errors. All
other items, such as pings, unknown types and unparsable frames, are not significant. -/
def significant (item : WsItem) : Bool :=
  endsRun item ∨ (parsed item).any isDataOrCreate

theorem endsInCreate_filter (messages : List TsgMessage) :
    endsInCreate (messages.filter isDataOrCreate) = endsInCreate messages := by
  rw [endsInCreate, List.filter_filter, endsInCreate]
  simp

theorem forwarded_filter (messages : List TsgMessage) :
    forwarded (messages.filter isDataOrCreate) = forwarded messages := by
  induction messages using List.reverseRecOn with
  | nil => rfl
  | append_singleton messages msg ih =>
      have last := forwarded_append_singleton messages msg
      rw [forwardedAt_length] at last
      rw [last, List.filter_append, ← ih]
      cases kept : isDataOrCreate msg with
      | true =>
          have filtered := forwarded_append_singleton (messages.filter isDataOrCreate) msg
          rw [forwardedAt_length, endsInCreate_filter] at filtered
          rw [List.filter_singleton, kept]
          exact filtered
      | false => cases msg <;> simp_all [isDataOrCreate]

theorem messagesBeforeEnd_filter (items : List WsItem) :
    (messagesBeforeEnd (items.filter significant)).filter isDataOrCreate =
      (messagesBeforeEnd items).filter isDataOrCreate := by
  induction items with
  | nil => rfl
  | cons item rest ih =>
      cases ends : endsRun item with
      | true =>
          have kept : significant item = true := by simp [significant, ends]
          simp [kept, messagesBeforeEnd, ends]
      | false =>
          cases received : parsed item with
          | none =>
              have dropped : significant item = false := by simp [significant, ends, received]
              simp only [messagesBeforeEnd] at ih
              simp [dropped, messagesBeforeEnd, ends, received, ih]
          | some msg =>
              have keeps : significant item = isDataOrCreate msg := by
                simp [significant, ends, received]
              simp only [messagesBeforeEnd] at ih
              cases kind : isDataOrCreate msg <;>
                simp [keeps, kind, messagesBeforeEnd, ends, received, ih]

/-- The task is the specified transducer. The bytes written after the initial data
are the forwarded payloads, the queue gets one response for each request, in order,
and a CloseChannelResponse last; items that are not significant can be put in or
left out anywhere without changing a byte. -/
theorem wsToTcp_transducer (items : List WsItem) :
    (WsToTcp.start.run (items.map .succeeding)).written = forwarded (messagesBeforeEnd items) ∧
      (WsToTcp.start.run (items.map .succeeding)).queued =
        (messagesBeforeEnd items).filterMap controlReply ++
          (if endedByCloseChannel items then [writeCloseChannelResponse] else []) ∧
      ∀ others : List WsItem, others.filter significant = items.filter significant →
        (WsToTcp.start.run (others.map .succeeding)).written =
          (WsToTcp.start.run (items.map .succeeding)).written := by
  have run (items : List WsItem) := run_relayed items []
  have fresh : relayed [] = WsToTcp.start := rfl
  simp only [fresh, List.nil_append] at run
  refine ⟨by rw [run items]; rfl, by rw [run items], fun others same => ?_⟩
  have written (items : List WsItem) : forwarded (messagesBeforeEnd items) =
      forwarded ((messagesBeforeEnd (items.filter significant)).filter isDataOrCreate) := by
    rw [messagesBeforeEnd_filter, forwarded_filter]
  rw [run others, run items]
  show forwarded (messagesBeforeEnd others) = forwarded (messagesBeforeEnd items)
  rw [written others, written items, same]

/-! ## Backend to client -/

/-- The data behind its own length, in one frame that the client reads as Data, and
from which the gateway's own strip recovers the data. -/
def CarriesRead (data frame : Bytes) : Prop :=
  ∃ d, decodeWsMessage frame = .ok (.data { data := d }) ∧
    messageLength frame = .ok frame.length ∧ 2 ≤ d.length ∧
    d.take 2 = u16Le.put (UInt16.ofNat (d.length - 2)) ∧ d.length - 2 < 2 ^ 16 ∧
    d.drop 2 = data ∧ rdpData d = data

theorem encodeDataMessage_carries_of_lt {data : Bytes} (fits : data.length < 2 ^ 16) :
    CarriesRead data (encodeDataMessage data) := by
  have small : (UInt16.ofNat data.length).toNat = data.length := by
    rw [UInt16.toNat_ofNat', Nat.mod_eq_of_lt (by omega)]
  have below : UInt16.ofNat data.length ≤ 65535 := by
    rw [UInt16.le_iff_toNat_le, small]
    show data.length ≤ 65535
    omega
  have unclipped : min (UInt16.ofNat data.length) 65535 = UInt16.ofNat data.length := if_pos below
  have encoded : encodeDataMessage data =
      frame MessageType.data.toU16 0 (u16Le.put (UInt16.ofNat data.length) ++ data) := by
    rw [encodeDataMessage, unclipped, DataMessage.write_eq_frame]
  have prefixed : (u16Le.put (UInt16.ofNat data.length) ++ data).length = 2 + data.length := by simp
  have bounded : headerSize + (u16Le.put (UInt16.ofNat data.length) ++ data).length < 2 ^ 32 := by
    rw [prefixed, headerSize]
    omega
  have stripped : (u16Le.put (UInt16.ofNat data.length) ++ data).drop 2 = data :=
    List.drop_left' (u16Le.put_length _)
  refine ⟨u16Le.put (UInt16.ofNat data.length) ++ data, ?_, ?_, ?_, ?_, ?_, stripped, ?_⟩
  · have dispatched : parseMessage (encodeDataMessage data ++ []) =
        parsePayload MessageType.data.toU16 (u16Le.put (UInt16.ofNat data.length) ++ data) := by
      rw [encoded]
      exact parseMessage_frame bounded []
    rw [List.append_nil] at dispatched
    rw [decodeWsMessage, dispatched]
    simp [parsePayload, DataMessage.parse]
  · obtain ⟨header, parsed, _, sized⟩ := frame_header MessageType.data.toU16 0 bounded []
    rw [List.append_nil] at parsed
    rw [messageLength, encoded, parsed]
    simp [sized]
  · omega
  · have counted : 2 + data.length - 2 = data.length := by omega
    rw [prefixed, counted]
    exact List.take_left' (u16Le.put_length _)
  · omega
  · rw [rdpData, if_pos (by omega), stripped]

theorem encodeDataMessage_carries {data : Bytes} (fits : data.length ≤ readBufferSize) :
    CarriesRead data (encodeDataMessage data) :=
  encodeDataMessage_carries_of_lt (Nat.lt_of_le_of_lt fits (by decide))

namespace TcpToWs

def sendSucceeds : RelayLabel → Bool
  | .read _ sent => sent
  | .recv _ sent => sent
  | _ => true

def enqueued : RelayLabel → Option Bytes
  | .enqueue response => some response
  | _ => none

def readData : RelayLabel → Option Bytes
  | .read data _ => some data
  | _ => none

/-- The frames are the responses taken from the queue and the frames of the reads,
interleaved; what was queued and read is all accounted for. -/
def Relaying (stream : Bytes) (labels : List RelayLabel) (self : TcpToWs) : Prop :=
  ∃ responses dataFrames, Interleaved responses dataFrames self.frames ∧
    labels.filterMap enqueued = responses ++ self.control ∧
    List.Forall₂ CarriesRead (labels.filterMap readData) dataFrames ∧
    stream = (labels.filterMap readData).flatten ++ self.unread

theorem step_relaying {stream : Bytes} {labels : List RelayLabel} {self next : TcpToWs}
    {label : RelayLabel} (relaying : Relaying stream labels self) (taken : Step self label next)
    (succeeds : sendSucceeds label = true) : Relaying stream (labels ++ [label]) next := by
  obtain ⟨responses, dataFrames, interleaved, queue, carried, whole⟩ := relaying
  simp only [Relaying, filterMap_append_singleton]
  cases taken with
  | enqueue response running room =>
      refine ⟨responses, dataFrames, interleaved, ?_, ?_, ?_⟩
      · simp [enqueued, queue]
      · simpa [readData] using carried
      · simpa [readData] using whole
  | @read data rest sent running nonempty fits available =>
      simp only [sendSucceeds] at succeeds
      subst succeeds
      refine ⟨responses, dataFrames ++ [encodeDataMessage data], interleaved.right _, ?_, ?_, ?_⟩
      · simpa [enqueued, send] using queue
      · exact List.rel_append carried (.cons (encodeDataMessage_carries fits) .nil)
      · rw [whole, available]
        simp [readData, send]
  | @recv response rest sent running queued =>
      simp only [sendSucceeds] at succeeds
      subst succeeds
      refine ⟨responses ++ [response], dataFrames, interleaved.left _, ?_, ?_, ?_⟩
      · simp [enqueued, send, queue, queued]
      · simpa [readData] using carried
      · simpa [readData, send] using whole
  | readEnds running =>
      refine ⟨responses, dataFrames, interleaved, ?_, ?_, ?_⟩
      · simpa [enqueued] using queue
      · simpa [readData] using carried
      · simpa [readData] using whole

/-- In every run whose sends succeed the client gets the queued responses in queue
order and one frame for each read, and nothing else. -/
theorem run_relaying {stream : Bytes} {labels : List RelayLabel} {self : TcpToWs}
    (run : Steps Step (start stream) labels self)
    (succeed : ∀ label ∈ labels, sendSucceeds label = true) : Relaying stream labels self := by
  induction run with
  | start => exact ⟨[], [], .nil, rfl, .nil, rfl⟩
  | @step labels self label next run taken ih =>
      have earlier : ∀ label ∈ labels, sendSucceeds label = true :=
        fun label member => succeed label (List.mem_append_left _ member)
      exact step_relaying (ih earlier) taken (succeed label (by simp))

theorem run_relaying_between_reads :
    Relaying [1, 2, 3] [.read [1, 2] true, .enqueue [9], .recv [9] true, .read [3] true]
      { running := true, unread := [], control := []
        frames := [encodeDataMessage [1, 2], [9], encodeDataMessage [3]] } := by
  have afterRead : Steps Step (start [1, 2, 3]) [.read [1, 2] true]
      { running := true, unread := [3], control := [], frames := [encodeDataMessage [1, 2]] } :=
    Steps.start.step (.read true rfl (by decide) (by decide) rfl)
  have queued := afterRead.step (.enqueue [9] rfl (by decide))
  have answered := queued.step (.recv true rfl rfl)
  exact run_relaying (answered.step (.read true rfl (by decide) (by decide) rfl)) (by decide)

end TcpToWs

end RdGateway.Server
