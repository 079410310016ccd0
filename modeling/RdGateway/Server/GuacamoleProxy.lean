import RdGateway.Server.Guacamole
import RdGateway.Wirekit.LineReader
import RdGateway.Wirekit.Progress
import RdGateway.Wirekit.Text

/-!
# The Guacamole proxy

`guac_proxy` as a system: the handshake with guacd, and the two tasks behind it that copy
lines to the browser and texts to guacd. What either side sends arrives at any time.
Logging is left out.
-/

set_option autoImplicit false

namespace RdGateway.Server

open Wirekit

def utf8 (text : String) : Bytes := text.toUTF8.data.toList

def fromUtf8 (bytes : Bytes) : Option String := String.fromUTF8? ⟨bytes.toArray⟩

/-- A message of the browser. The end of its stream is an error here: both end the task. -/
inductive GuacMessage where
  | text (text : String)
  | close
  | error
  | other
deriving Repr, DecidableEq

inductive GuacFrame where
  | text (text : String)
  | close
deriving Repr, DecidableEq

inductive GuacPhase where
  | connecting
  | readingArgs
  | readingReady
  /-- Which of the two tasks still run. -/
  | relaying (guacdToBrowser browserToGuacd : Bool)
  | returned
deriving Repr, DecidableEq

inductive GuacdStream where
  | sending
  | ended
  | failed
deriving Repr, DecidableEq

structure GuacProxy where
  phase : GuacPhase
  /-- What guacd has sent and no task has read yet. -/
  unread : Bytes
  guacd : GuacdStream
  inbox : List GuacMessage
  written : Bytes
  frames : List GuacFrame
deriving Repr, DecidableEq

/-- How the calls of one step go. A write that fails may have written a part; the Close frame is
sent whether or not the text in front of it was. -/
structure GuacIo where
  connected : Bool
  cut : Option Nat
  sent : Bool
  closed : Bool
deriving Repr, DecidableEq

def lineFeed : UInt8 := 10

def containsReady (line : String) : Bool :=
  line.toList.tails.any fun rest => rest.take 5 = "ready".toList

def trimmed (line : String) : String := String.ofList (trim line.toList)

def trimEndMatches (c : Char) (line : String) : String := String.ofList (line.toList.rdropWhile (· = c))

def connectInstruction (params : GuacConnectParams) : String :=
  buildConnectInstruction params (params.port.getD 3389) (params.width.getD 1024) (params.height.getD 768)
    (params.dpi.getD 96)

namespace GuacProxy

def start : GuacProxy :=
  { phase := .connecting, unread := [], guacd := .sending, inbox := [], written := [], frames := [] }

def go (self : GuacProxy) (phase : GuacPhase) : GuacProxy := { self with phase }

def writeAll (self : GuacProxy) (io : GuacIo) (data : Bytes) (next : GuacPhase) (otherwise : GuacPhase) : GuacProxy :=
  match io.cut with
  | none => { self with written := self.written ++ data, phase := next }
  | some count => { self with written := self.written ++ data.take count, phase := otherwise }

def send (self : GuacProxy) (io : GuacIo) (text : String) (next : GuacPhase) (otherwise : GuacPhase) : GuacProxy :=
  if io.sent then { self with frames := self.frames ++ [.text text], phase := next }
  else { self with phase := otherwise }

/-- `read_line`: nothing while the line is not complete, and an error when it is not UTF-8. -/
def readLine (self : GuacProxy) : Option (Option String × GuacProxy) :=
  match takeLine lineFeed self.unread with
  | some (line, rest) => some (fromUtf8 line, { self with unread := rest })
  | none =>
      match self.guacd with
      | .sending => none
      | .ended => some (fromUtf8 self.unread, { self with unread := [] })
      | .failed => some (none, { self with unread := [] })

/-- What goes out where guacd cannot be connected to. -/
def refusal (addr : String) (io : GuacIo) : List GuacFrame :=
  (if io.sent then [.text (guacdError addr)] else []) ++ if io.closed then [.close] else []

def handshake (addr : String) (params : GuacConnectParams) (io : GuacIo) (self : GuacProxy) : Option GuacProxy :=
  match self.phase with
  | .connecting =>
      if io.connected then some (self.writeAll io (utf8 selectInstruction) .readingArgs .returned)
      else some { self with frames := self.frames ++ refusal addr io, phase := .returned }
  | .readingArgs =>
      match self.readLine with
      | none => none
      | some (none, self) => some (self.go .returned)
      | some (some _, self) => some (self.writeAll io (utf8 (connectInstruction params)) .readingReady .returned)
  | .readingReady =>
      match self.readLine with
      | none => none
      | some (none, self) => some (self.go .returned)
      | some (some readyLine, self) =>
          if containsReady readyLine then
            some (self.send io (trimmed readyLine) (.relaying true true) .returned)
          else some (self.go .returned)
  | _ => none

/-- A round of the task from guacd to the browser. -/
def guacdToBrowser (io : GuacIo) (self : GuacProxy) : Option GuacProxy :=
  match self.phase with
  | .relaying true other =>
      match self.readLine with
      | none => none
      | some (none, self) => some (self.go (.relaying false other))
      | some (some buf, self) =>
          if buf = "" then some (self.go (.relaying false other))
          else some (self.send io (trimEndMatches '\n' buf) (.relaying true other) (.relaying false other))
  | _ => none

def browserToGuacd (io : GuacIo) (self : GuacProxy) : Option GuacProxy :=
  match self.phase with
  | .relaying other true =>
      match self.inbox with
      | [] => none
      | msg :: inbox =>
          let self := { self with inbox }
          match msg with
          | .text text =>
              some (self.writeAll io (utf8 text ++ [lineFeed]) (.relaying other true) (.relaying other false))
          | .close => some (self.go (.relaying other false))
          | .error => some (self.go (.relaying other false))
          | .other => some self
  | _ => none

end GuacProxy

/-- A step of a task, or something that arrives. The end of `guac_proxy` itself, as one of
the tasks ends, does not stop the other one. -/
inductive GuacLabel where
  | arrive (data : Bytes)
  | guacdEnds
  | guacdFails
  | browse (msg : GuacMessage)
  | handshake
  | guacdToBrowser
  | browserToGuacd
deriving Repr, DecidableEq

namespace GuacProxy

inductive Step (addr : String) (params : GuacConnectParams) : GuacProxy → GuacLabel → GuacProxy → Prop where
  | arrive {self : GuacProxy} (data : Bytes) (sending : self.guacd = .sending) :
      Step addr params self (.arrive data) { self with unread := self.unread ++ data }
  | guacdEnds {self : GuacProxy} (sending : self.guacd = .sending) :
      Step addr params self .guacdEnds { self with guacd := .ended }
  -- what was not read is lost in part
  | guacdFails {self : GuacProxy} (kept : Nat) (sending : self.guacd = .sending) :
      Step addr params self .guacdFails { self with guacd := .failed, unread := self.unread.take kept }
  | browse {self : GuacProxy} (msg : GuacMessage) :
      Step addr params self (.browse msg) { self with inbox := self.inbox ++ [msg] }
  | handshake {self next : GuacProxy} (io : GuacIo) (taken : self.handshake addr params io = some next) :
      Step addr params self .handshake next
  | guacdToBrowser {self next : GuacProxy} (io : GuacIo) (taken : self.guacdToBrowser io = some next) :
      Step addr params self .guacdToBrowser next
  | browserToGuacd {self next : GuacProxy} (io : GuacIo) (taken : self.browserToGuacd io = some next) :
      Step addr params self .browserToGuacd next

end GuacProxy

/-! ## What both sides get -/

def decodedLines : List Bytes → List String
  | [] => []
  | line :: rest =>
      match fromUtf8 line with
      | some text => text :: decodedLines rest
      | none => []

/-- The ready line without the white space around it, and each line behind it without its line feed. -/
def framesOf : List String → List GuacFrame
  | _ :: ready :: rest =>
      if containsReady ready then
        .text (trimmed ready) :: rest.map fun line => .text (trimEndMatches '\n' line)
      else []
  | _ => []

def browserFrames (ended : Bool) (stream : Bytes) : List GuacFrame :=
  framesOf (decodedLines (linesOf lineFeed ended stream))

def GuacMessage.goesOn : GuacMessage → Bool
  | .close => false
  | .error => false
  | _ => true

def GuacMessage.data : GuacMessage → Bytes
  | .text typed => utf8 typed ++ [lineFeed]
  | _ => []

def handshakeBytes (params : GuacConnectParams) : Bytes :=
  utf8 selectInstruction ++ utf8 (connectInstruction params)

/-- Both instructions, and each text of the browser with a line feed. -/
def guacdBytes (params : GuacConnectParams) (messages : List GuacMessage) : Bytes :=
  handshakeBytes params ++ (messages.takeWhile GuacMessage.goesOn).flatMap GuacMessage.data

def guacdSent : GuacLabel → Bytes
  | .arrive data => data
  | _ => []

def browsed : GuacLabel → Option GuacMessage
  | .browse msg => some msg
  | _ => none

end RdGateway.Server
