import RdGateway.Wirekit.Elements
import RdGateway.Wirekit.Utf8Bytes

/-!
# The handshake with guacd

The instructions that the proxy writes, and what a reader that counts code points makes
of them. The connect instruction is built from texts of the request.
-/

set_option autoImplicit false

namespace RdGateway.Server

open Wirekit

structure GuacConnectParams where
  host : String
  port : Option UInt16
  username : Option String
  password : Option String
  domain : Option String
  width : Option UInt32
  height : Option UInt32
  dpi : Option UInt32
  security : String
  ignoreCert : Bool
deriving Repr, DecidableEq

def defaultSecurity : String := "any"

def encodeGuacArg (value : String) : String := decimal value.utf8ByteSize ++ "." ++ value

def buildConnectInstruction (params : GuacConnectParams) (port : UInt16) (width height dpi : UInt32) :
    String :=
  let hostname := encodeGuacArg params.host
  let portStr := encodeGuacArg (decimal port.toNat)
  let domain := encodeGuacArg (params.domain.getD "")
  let username := encodeGuacArg (params.username.getD "")
  let password := encodeGuacArg (params.password.getD "")
  let widthS := encodeGuacArg (decimal width.toNat)
  let heightS := encodeGuacArg (decimal height.toNat)
  let dpiS := encodeGuacArg (decimal dpi.toNat)
  let security := encodeGuacArg params.security
  let ignoreCert := encodeGuacArg (if params.ignoreCert then "true" else "")
  "7.connect," ++ hostname ++ "," ++ portStr ++ "," ++ domain ++ "," ++ username ++ "," ++ password ++ "," ++
    widthS ++ "," ++ heightS ++ "," ++ dpiS ++ "," ++ security ++ "," ++ ignoreCert ++ ";\n"

def selectInstruction : String := "6.select,3.rdp;"

def cannotConnect (addr : String) : String := "Cannot connect to guacd at " ++ addr ++ " - is it running?"

/-- What the browser gets when guacd cannot be reached. -/
def guacdError (addr : String) : String :=
  "5.error," ++ decimal (cannotConnect addr).utf8ByteSize ++ "." ++ cannotConnect addr ++ ",3.519;"

/-! ## Reading -/

def IsAscii (text : String) : Prop := ∀ c ∈ text.toList, c.toNat < 128

instance (text : String) : Decidable (IsAscii text) :=
  List.decidableBAll (fun c : Char => c.toNat < 128) text.toList

/-- One instruction, with nothing behind it but this. -/
def ReadsAs (text : String) (elements : List String) (rest : List Char) : Prop :=
  readInstruction text.toList = some (elements.map String.toList, rest)

def connectArgs (params : GuacConnectParams) (port : UInt16) (width height dpi : UInt32) : List String :=
  [params.host, decimal port.toNat, params.domain.getD "", params.username.getD "",
    params.password.getD "", decimal width.toNat, decimal height.toNat, decimal dpi.toNat,
    params.security, if params.ignoreCert then "true" else ""]

/-- The arguments that come from the request as they are. -/
def userTexts (params : GuacConnectParams) : List String :=
  [params.host, params.domain.getD "", params.username.getD "", params.password.getD "", params.security]

/-- What `encode_guac_arg` takes for the length of an element. -/
def byteCount (value : List Char) : Nat := (String.ofList value).utf8ByteSize

theorem byteCount_eq_length {text : String} : byteCount text.toList = text.toList.length ↔ IsAscii text := by
  rw [byteCount, String.ofList_toList, utf8ByteSize_eq_length, IsAscii]

theorem decimal_ascii (value : Nat) : IsAscii (decimal value) := by
  intro c member
  have digit := Char.isDigit_iff_toNat.mp (isDigit_of_mem_decimal member)
  exact Nat.lt_of_le_of_lt digit.2 (by decide)

theorem encodeGuacArg_toList (value : String) :
    (encodeGuacArg value).toList = writeElement byteCount value.toList := by
  simp [encodeGuacArg, decimal, writeElement, byteCount]

theorem reads_iff {first : String} {values : List String} {text : String} {rest : List Char}
    (written : text.toList = writeElements byteCount first.toList (values.map String.toList) ++ rest) :
    ReadsAs text (first :: values) rest ↔ ∀ value ∈ first :: values, IsAscii value := by
  rw [ReadsAs, List.map_cons, written, readInstruction_write, ← List.map_cons, List.forall_mem_map]
  exact forall₂_congr fun value _ => byteCount_eq_length

theorem buildConnectInstruction_toList (params : GuacConnectParams) (port : UInt16)
    (width height dpi : UInt32) :
    (buildConnectInstruction params port width height dpi).toList =
      writeElements byteCount "connect".toList
        ((connectArgs params port width height dpi).map String.toList) ++ ['\n'] := by
  have opcode : "7.connect," = encodeGuacArg "connect" ++ "," := by decide +kernel
  have comma : ",".toList = [','] := by decide +kernel
  have finish : ";\n".toList = [';', '\n'] := by decide +kernel
  unfold buildConnectInstruction
  simp only [opcode, String.toList_append, encodeGuacArg_toList, comma, finish, writeElements, connectArgs,
    List.map_cons, List.map_nil, writeRest, List.append_assoc, List.cons_append, List.nil_append]

/-- For every request: guacd reads the opcode and the ten arguments, and nothing else,
exactly when the texts of the request are ASCII. -/
theorem connect_read_iff (params : GuacConnectParams) (port : UInt16) (width height dpi : UInt32) :
    ReadsAs (buildConnectInstruction params port width height dpi)
        ("connect" :: connectArgs params port width height dpi) ['\n'] ↔
      ∀ text ∈ userTexts params, IsAscii text := by
  have opcode : IsAscii "connect" := by decide +kernel
  have ignoreCert : IsAscii (if params.ignoreCert then "true" else "") := by
    cases params.ignoreCert <;> decide +kernel
  rw [reads_iff (buildConnectInstruction_toList params port width height dpi)]
  simp only [connectArgs, userTexts, List.forall_mem_cons, decimal_ascii, opcode, ignoreCert, true_and]

/-- A user name of four letters outside ASCII, and a password that spells the rest of an
instruction. -/
def smuggledParams : GuacConnectParams where
  host := "desk"
  port := none
  username := some "éééé"
  password := some ",0.,4.1024,3.768,2.96,3.any,4.true;"
  domain := none
  width := none
  height := none
  dpi := none
  security := defaultSecurity
  ignoreCert := false

/-- The reader ends inside the password, with the certificate check switched off. -/
theorem password_read_as_arguments :
    ReadsAs (buildConnectInstruction smuggledParams 3389 1024 768 96)
        ["connect", "desk", "3389", "", "éééé,35.", "", "1024", "768", "96", "any", "true"]
        ",4.1024,3.768,2.96,3.any,0.;\n".toList ∧
      ¬ ReadsAs (buildConnectInstruction smuggledParams 3389 1024 768 96)
        ("connect" :: connectArgs smuggledParams 3389 1024 768 96) ['\n'] := by
  unfold ReadsAs
  decide +kernel

end RdGateway.Server
