import RdGateway.Wirekit.Utf16
import RdGateway.Wirekit.Utf8

/-!
# NTLM messages

Parsing of Type1 and Type3, generation of Type2, and the NTLMv2 check. MD4,
HMAC-MD5 and Unicode upper-casing come from outside and are parameters.
-/

set_option autoImplicit false

namespace RdGateway.Proto.Ntlm

open Wirekit

def ntlmsspSignature : Bytes := [0x4E, 0x54, 0x4C, 0x4D, 0x53, 0x53, 0x50, 0x00]

def ntlmsspNegotiateUnicode : UInt32 := 0x00000001
def ntlmsspRequestTarget : UInt32 := 0x00000004
def ntlmsspNegotiateSign : UInt32 := 0x00000010
def ntlmsspNegotiateSeal : UInt32 := 0x00000020
def ntlmsspNegotiateNtlm : UInt32 := 0x00000200
def ntlmsspNegotiateAlwaysSign : UInt32 := 0x00008000
def ntlmsspTargetTypeServer : UInt32 := 0x00020000
def ntlmsspNegotiateExtendedSessionSecurity : UInt32 := 0x00080000
def ntlmsspNegotiateTargetInfo : UInt32 := 0x00800000
def ntlmsspNegotiateVersion : UInt32 := 0x02000000
def ntlmsspNegotiate128 : UInt32 := 0x20000000
def ntlmsspNegotiateKeyExch : UInt32 := 0x40000000
def ntlmsspNegotiate56 : UInt32 := 0x80000000

def msvAvEol : UInt16 := 0x0000
def msvAvNbComputerName : UInt16 := 0x0001
def msvAvNbDomainName : UInt16 := 0x0002
def msvAvDnsComputerName : UInt16 := 0x0003
def msvAvDnsDomainName : UInt16 := 0x0004
def msvAvTimestamp : UInt16 := 0x0007

/-- The functions of other crates that the module is built on. -/
structure Primitives where
  md4 : Bytes → Vector UInt8 16
  hmacMd5 : Bytes → Bytes → Vector UInt8 16
  toUppercase : String → String

inductive NtlmError where
  | invalidSignature
  | unexpectedType (msgType : UInt32)
  | bufferTooShort
  | hmacError
  | authFailed
deriving Repr, DecidableEq

structure NtlmNegotiate where
  flags : UInt32
  domain : String
  workstation : String
deriving Repr, DecidableEq

structure NtlmChallenge where
  targetName : String
  serverChallenge : Vector UInt8 8
  flags : UInt32
  targetInfo : Bytes
deriving Repr, DecidableEq

structure NtlmAuthenticate where
  flags : UInt32
  domain : String
  username : String
  workstation : String
  lmResponse : Bytes
  ntResponse : Bytes
  encryptedRandomSessionKey : Bytes
deriving Repr, DecidableEq

/-! ## Helpers -/

/-- `from_le_bytes(data[lo..hi].try_into().unwrap())`. -/
def wordAt {α : Type} (codec : FixedCodec α) (data : Bytes) (lo hi : Nat) : Outcome NtlmError α := do
  let part ← slice data lo hi
  if part.length = codec.width then pure (codec.decode part) else .panicked

def encodeUtf16le (s : String) : Bytes := bytesOfUnits (encodeUtf16 s.toList)

/-- `chunks_exact(2)` decoded with replacement characters. -/
def fromUtf16leLossy (data : Bytes) : String := String.ofList (fromUtf16Lossy (unitsOfBytes data))

def readSecurityBufferRaw (data : Bytes) (offset : Nat) : Outcome NtlmError Bytes := do
  let bufferEnd ← checkedAdd offset 8
  if data.length < bufferEnd then .err .bufferTooShort
  else do
    let len ← wordAt u16Le data offset (offset + 2)
    let bufOffset ← wordAt u32Le data (offset + 4) (offset + 8)
    if len = 0 then .ok []
    else do
      let contentEnd ← checkedAdd bufOffset.toNat len.toNat
      if data.length < contentEnd then .err .bufferTooShort
      else slice data bufOffset.toNat contentEnd

/-- The string of an optional security buffer, or the empty default. -/
def readSecurityBuffer (data : Bytes) (offset : Nat) : Outcome NtlmError String := do
  let raw ← (readSecurityBufferRaw data offset).unwrapOr []
  if raw.isEmpty then pure ""
  else if raw.length % 2 = 0 then pure (fromUtf16leLossy raw)
  else pure (String.ofList (decodeUtf8Lossy raw))

def constantTimeEq (a b : Bytes) : Bool :=
  if a.length ≠ b.length then false
  else (List.zipWith (· ^^^ ·) a b).foldl (· ||| ·) 0 = 0

/-! ## Type1 -/

def parseNegotiate (data : Bytes) : Outcome NtlmError NtlmNegotiate :=
  if data.length < 32 then .err .bufferTooShort
  else do
    let signature ← slice data 0 8
    if signature ≠ ntlmsspSignature then .err .invalidSignature
    else do
      let msgType ← wordAt u32Le data 8 12
      if msgType ≠ 1 then .err (.unexpectedType msgType)
      else do
        let flags ← wordAt u32Le data 12 16
        let domain ← readSecurityBuffer data 16
        let workstation ← readSecurityBuffer data 24
        pure { flags, domain, workstation }

/-! ## Type2 -/

/-- 100 ns intervals since 1601 for a clock that shows `unixSecs`. -/
def windowsFiletime (unixSecs : UInt64) : UInt64 := (unixSecs + 11644473600) * 10000000

def avPair (id : UInt16) (value : Bytes) : Bytes :=
  u16Le.put id ++ u16Le.put (UInt16.ofNat value.length) ++ value

def buildTargetInfo (serverName : String) (unixSecs : UInt64) : Bytes :=
  let nameUtf16 := encodeUtf16le serverName
  avPair msvAvNbComputerName nameUtf16 ++ avPair msvAvNbDomainName nameUtf16 ++
    avPair msvAvDnsComputerName nameUtf16 ++ avPair msvAvDnsDomainName nameUtf16 ++
    (u16Le.put msvAvTimestamp ++ u16Le.put 8 ++ u64Le.put (windowsFiletime unixSecs)) ++
    (u16Le.put msvAvEol ++ u16Le.put 0)

def generateChallenge (targetName : String) (serverChallenge : Vector UInt8 8) (unixSecs : UInt64) :
    NtlmChallenge :=
  { targetName, serverChallenge
    flags := ntlmsspNegotiateUnicode ||| ntlmsspRequestTarget ||| ntlmsspNegotiateNtlm |||
      ntlmsspNegotiateAlwaysSign ||| ntlmsspTargetTypeServer |||
      ntlmsspNegotiateExtendedSessionSecurity ||| ntlmsspNegotiateTargetInfo |||
      ntlmsspNegotiateVersion ||| ntlmsspNegotiate128 ||| ntlmsspNegotiateKeyExch |||
      ntlmsspNegotiate56 ||| ntlmsspNegotiateSeal ||| ntlmsspNegotiateSign
    targetInfo := buildTargetInfo targetName unixSecs }

def serializeChallenge (challenge : NtlmChallenge) : Bytes :=
  let targetNameBytes := encodeUtf16le challenge.targetName
  let targetInfo := challenge.targetInfo
  let headerSize := 56
  let targetNameOffset := headerSize
  let targetInfoOffset := targetNameOffset + targetNameBytes.length
  ntlmsspSignature ++ u32Le.put 2 ++
    (u16Le.put (UInt16.ofNat targetNameBytes.length) ++
      u16Le.put (UInt16.ofNat targetNameBytes.length) ++
      u32Le.put (UInt32.ofNat targetNameOffset)) ++
    u32Le.put challenge.flags ++ (byteArray 8).put challenge.serverChallenge ++ u64Le.put 0 ++
    (u16Le.put (UInt16.ofNat targetInfo.length) ++ u16Le.put (UInt16.ofNat targetInfo.length) ++
      u32Le.put (UInt32.ofNat targetInfoOffset)) ++
    [0x0a, 0x00, 0xf4, 0x65, 0x00, 0x00, 0x00, 0x0f] ++ targetNameBytes ++ targetInfo

/-! ## Type3 -/

def parseAuthenticate (data : Bytes) : Outcome NtlmError NtlmAuthenticate :=
  if data.length < 64 then .err .bufferTooShort
  else do
    let signature ← slice data 0 8
    if signature ≠ ntlmsspSignature then .err .invalidSignature
    else do
      let msgType ← wordAt u32Le data 8 12
      if msgType ≠ 3 then .err (.unexpectedType msgType)
      else do
        let lmResponse ← readSecurityBufferRaw data 12
        let ntResponse ← readSecurityBufferRaw data 20
        let domainBuf ← readSecurityBufferRaw data 28
        let usernameBuf ← readSecurityBufferRaw data 36
        let workstationBuf ← readSecurityBufferRaw data 44
        -- a session key buffer that is out of bounds counts as absent
        let encryptedRandomSessionKey ← (readSecurityBufferRaw data 52).unwrapOr []
        let flags ← if 64 ≤ data.length then wordAt u32Le data 60 64 else pure 0
        pure { flags, domain := fromUtf16leLossy domainBuf, username := fromUtf16leLossy usernameBuf,
               workstation := fromUtf16leLossy workstationBuf, lmResponse, ntResponse,
               encryptedRandomSessionKey }

def computeNtHash (primitives : Primitives) (password : String) : Vector UInt8 16 :=
  primitives.md4 (encodeUtf16le password)

/-- HMAC takes keys of every length, so the `HmacError` exits are not reached. -/
def validateNtlmv2 (primitives : Primitives) (ntHash : Vector UInt8 16)
    (serverChallenge : Vector UInt8 8) (authenticate : NtlmAuthenticate) : Outcome NtlmError Unit :=
  if authenticate.ntResponse.length < 24 then .err .authFailed
  else do
    let userUpper := primitives.toUppercase authenticate.username
    let identityBytes := encodeUtf16le (userUpper ++ authenticate.domain)
    let responseKey := primitives.hmacMd5 ntHash.toList identityBytes
    let ntProofStr ← slice authenticate.ntResponse 0 16
    let ntClientChallenge ← slice authenticate.ntResponse 16 authenticate.ntResponse.length
    let verifyInput := serverChallenge.toList ++ ntClientChallenge
    let expected := primitives.hmacMd5 responseKey.toList verifyInput
    if constantTimeEq ntProofStr expected.toList then .ok () else .err .authFailed

end RdGateway.Proto.Ntlm
