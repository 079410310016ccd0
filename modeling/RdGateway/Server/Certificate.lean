import Mathlib.Data.List.Sort
import RdGateway.Wirekit.Codec
import RdGateway.Wirekit.Run

/-!
# The self-signed certificate

`load_or_generate_cert` keeps a certificate and its key in two files, and the names it is
for in a row of the database. The three are written one after another, and a startup may
fail or stop at each write.
-/

set_option autoImplicit false

namespace RdGateway.Server

open Wirekit

structure TlsConfig where
  certPath : Option String
  keyPath : Option String
  autoGenerate : Bool
  sanNames : Option (List String)
deriving Repr, DecidableEq

structure CertificateInfo where
  id : Nat
  thumbprint : String
  subject : String
  sanNames : String
  notBefore : String
  notAfter : String
  certPath : String
  keyPath : String
  autoGenerated : Bool
  createdAt : String
deriving Repr, DecidableEq

/-- `serde_json` on a list of strings. -/
structure SanJson where
  toString : List String → String
  fromStr : String → Option (List String)
  fromStr_toString : ∀ names, fromStr (toString names) = some names

/-! ## Names -/

/-- What a startup finds out about its machine; `outboundIp` is the address of a socket
that is connected to the outside, and the interfaces are listed in order. -/
structure Machine where
  computerName : Option String
  outboundIp : Option String
  interfaceIps : List String
deriving Repr, DecidableEq

def pushNew (sanNames : List String) (name : String) : List String :=
  if name ∈ sanNames then sanNames else sanNames ++ [name]

def desiredSans (serverName : String) (tls : TlsConfig) (machine : Machine) : List String :=
  let sanNames := [serverName]
  let sanNames :=
    match machine.computerName with
    | some hostname => if hostname ≠ serverName then pushNew sanNames hostname else sanNames
    | none => sanNames
  let sanNames :=
    match machine.outboundIp with
    | some ip => sanNames ++ [ip]
    | none => sanNames
  let external := machine.interfaceIps.filter fun ip => !ip.startsWith "127."
  let sanNames := external.foldl pushNew sanNames
  let sanNames := sanNames ++ ["localhost"]
  match tls.sanNames with
  | some customSans => customSans.foldl pushNew sanNames
  | none => sanNames

/-! ## One startup -/

/-- What `rcgen` makes for a list of names; the thumbprint is the hash of the certificate. -/
structure Generated where
  certPem : Bytes
  keyPem : Bytes
  thumbprint : String
deriving Repr, DecidableEq

/-- A write that fails, or in which the process stops, leaves the file as it was or cut off. -/
inductive FileWrite where
  | written
  | failed (cut : Option Nat)
deriving Repr, DecidableEq

def FileWrite.leaves (write : FileWrite) (file : Option Bytes) (contents : Bytes) : Option Bytes :=
  match write with
  | .written => some contents
  | .failed none => file
  | .failed (some count) => some (contents.take count)

inductive SaveOutcome where
  | saved
  | failed
  | stopped
deriving Repr, DecidableEq

/-- The configuration of one startup, and what its calls come to. -/
structure Startup where
  serverName : String
  tls : TlsConfig
  machine : Machine
  /-- What the files at the configured paths hold, where they can be read. -/
  configured : Option Bytes × Option Bytes
  lookup : Bool
  readsCert : Bool
  readsKey : Bool
  generated : Option Generated
  createsDir : Bool
  certWrite : FileWrite
  keyWrite : FileWrite
  save : SaveOutcome
  notBefore : String
  notAfter : String
  createdAt : String
deriving Repr, DecidableEq

def Startup.sanNames (startup : Startup) : List String :=
  desiredSans startup.serverName startup.tls startup.machine

structure CertStore where
  certFile : Option Bytes
  keyFile : Option Bytes
  certificates : List CertificateInfo
deriving Repr, DecidableEq

def CertStore.empty : CertStore := { certFile := none, keyFile := none, certificates := [] }

/-- `ORDER BY id DESC LIMIT 1`: the ids ascend and no row is deleted. -/
def CertStore.getCertificate (store : CertStore) : Option CertificateInfo := store.certificates.getLast?

def CertStore.saveCertificate (store : CertStore) (createdAt : String) (cert : CertificateInfo) : CertStore :=
  { store with
    certificates := store.certificates ++ [{ cert with id := store.certificates.length + 1, createdAt }] }

/-- How `load_or_generate_cert` comes by what it returns; a startup that stops returns nothing. -/
inductive CertOutcome where
  | configured (certPem keyPem : Bytes)
  | reused (certPem keyPem : Bytes)
  | generated (certPem keyPem : Bytes)
  | failed
deriving Repr, DecidableEq

/-- A text that is not a list of strings counts as the empty list. -/
def existingSans (json : SanJson) (existing : CertificateInfo) : List String :=
  (json.fromStr existing.sanNames).getD []

/-- The test in front of the reuse of the files. -/
def isPersisted (json : SanJson) (store : CertStore) (startup : Startup) : Bool :=
  match if startup.lookup then store.getCertificate else none with
  | some existing =>
      let sortedExisting := (existingSans json existing).insertionSort (· ≤ ·)
      let sortedDesired := startup.sanNames.insertionSort (· ≤ ·)
      sortedExisting = sortedDesired && store.certFile.isSome && store.keyFile.isSome
  | none => false

def reuseCert (store : CertStore) (startup : Startup) : CertOutcome :=
  match store.certFile, store.keyFile with
  | some certPem, some keyPem =>
      if startup.readsCert && startup.readsKey then .reused certPem keyPem else .failed
  | _, _ => .failed

def certInfo (json : SanJson) (startup : Startup) (generated : Generated) : CertificateInfo :=
  { id := 0, thumbprint := generated.thumbprint, subject := "CN=" ++ startup.serverName
    sanNames := json.toString startup.sanNames, notBefore := startup.notBefore
    notAfter := startup.notAfter, certPath := "certs/gateway.crt", keyPath := "certs/gateway.key"
    autoGenerated := true, createdAt := "" }

/-- A record that cannot be saved is logged; the certificate is used all the same. -/
def persistCert (json : SanJson) (store : CertStore) (startup : Startup) (generated : Generated) :
    CertOutcome × CertStore :=
  let store := { store with certFile := startup.certWrite.leaves store.certFile generated.certPem }
  if startup.certWrite ≠ .written then (.failed, store)
  else
    let store := { store with keyFile := startup.keyWrite.leaves store.keyFile generated.keyPem }
    if startup.keyWrite ≠ .written then (.failed, store)
    else
      match startup.save with
      | .saved =>
          (.generated generated.certPem generated.keyPem,
            store.saveCertificate startup.createdAt (certInfo json startup generated))
      | .failed => (.generated generated.certPem generated.keyPem, store)
      | .stopped => (.failed, store)

/-- `load_or_generate_cert`. The line that logs the front of the thumbprint is left out. -/
def loadOrGenerateCert (json : SanJson) (store : CertStore) (startup : Startup) :
    CertOutcome × CertStore :=
  match startup.tls.certPath, startup.tls.keyPath with
  | some _, some _ =>
      match startup.configured with
      | (some certPem, some keyPem) => (.configured certPem keyPem, store)
      | _ => (.failed, store)
  | _, _ =>
      if startup.tls.autoGenerate then
        if isPersisted json store startup then (reuseCert store startup, store)
        else
          match startup.generated with
          | some generated =>
              if startup.createsDir then persistCert json store startup generated else (.failed, store)
          | none => (.failed, store)
      else (.failed, store)

end RdGateway.Server
