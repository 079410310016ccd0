import RdGateway.Server.Connections
import RdGateway.Server.PortalProperties
import RdGateway.Wirekit.Lines
import RdGateway.Wirekit.Utf8Bytes

/-!
# Soundness of a downloaded .rdp file

The name of a stored connection goes into a header, its host into two lines of the
file. Nothing on the way from a request to the file looks at the characters of either.
-/

set_option autoImplicit false

namespace RdGateway.Server

open Wirekit RdGateway.Core

/-! ## Specification -/

def settingLines (host port gateway : String) : List String :=
  ["full address:s:" ++ host ++ ":" ++ port,
    "server port:i:" ++ port,
    "use redirection server name:i:1",
    "alternate full address:s:" ++ host,
    "gatewayhostname:s:" ++ gateway,
    "gatewayusagemethod:i:1",
    "gatewayprofileusagemethod:i:1",
    "gatewayaccesstoken:s:",
    "gatewaybrokeringtype:i:0",
    "prompt for credentials:i:1",
    "authentication level:i:2"]

def settingKey (line : List Char) : List Char := line.takeWhile (· ≠ ':')

/-- The file holds the eleven lines, each key once, and the address of the connection. -/
structure SoundBody (host port gateway : String) (body : List Char) : Prop where
  lines : splitCrlf body = (settingLines host port gateway).map String.toList ++ [[]]
  keysOnce : ((splitCrlf body).dropLast.map settingKey).Nodup
  fullAddress : ∀ line ∈ splitCrlf body, settingKey line = "full address".toList →
    line = ("full address:s:" ++ host ++ ":" ++ port).toList

def SoundDownload (input : ConnectionInput) (gateway : String) (outcome : Outcome ApiStatus RdpResponse) :
    Prop :=
  ∃ response, outcome = .ok response ∧
    SoundBody input.host (String.ofList (showInt input.portOrDefault)) gateway response.body.toList

def ControlCode (code : Nat) : Prop := (code < 32 ∧ code ≠ 9) ∨ code = 127

instance (code : Nat) : Decidable (ControlCode code) := inferInstanceAs (Decidable (_ ∨ _))

def ControlFree (text : String) : Prop := ∀ c ∈ text.toList, ¬ ControlCode c.toNat

instance (text : String) : Decidable (ControlFree text) :=
  List.decidableBAll (fun c : Char => ¬ ControlCode c.toNat) text.toList

/-- What is assumed of the header values of the http crate. -/
def RejectsControls (validValue : Bytes → Bool) : Prop :=
  ∀ value, validValue value = false ↔ ∃ byte ∈ value, ControlCode byte.toNat

/-- What of a connection stands in its file. -/
structure HasTexts (conn : Connection) (input : ConnectionInput) : Prop where
  name : conn.name = input.name
  host : conn.host = input.host
  port : conn.port = input.portOrDefault

/-- What a request has written to the connection of this id, if it was accepted. -/
def acceptedInput (id : Int) (request : ConnectionRequest) (reply : ApiReply) : Option ConnectionInput :=
  match request, reply with
  | .create input, .created conn => if conn.id = id then some input else none
  | .update updated input, .noContent => if updated = id then some input else none
  | _, _ => none

/-- The last create or update of the id that was accepted. -/
def lastAccepted (log : List (Exchange ConnectionTable (ApiCall × ConnectionRequest) ApiReply)) (id : Int) :
    Option ConnectionInput :=
  (log.filterMap fun exchange => acceptedInput id exchange.event.2 exchange.output).getLast?

theorem lastAccepted_append (log : List (Exchange ConnectionTable (ApiCall × ConnectionRequest) ApiReply))
    (exchange : Exchange ConnectionTable (ApiCall × ConnectionRequest) ApiReply) (id : Int) :
    lastAccepted (log ++ [exchange]) id =
      (acceptedInput id exchange.event.2 exchange.output).or (lastAccepted log id) := by
  rw [lastAccepted, List.filterMap_append, List.getLast?_append]
  refine congrArg (Option.or · _) ?_
  cases accepted : acceptedInput id exchange.event.2 exchange.output with
  | none => simp only [List.filterMap_cons, accepted, List.filterMap_nil, List.getLast?_nil]
  | some input => simp only [List.filterMap_cons, accepted, List.filterMap_nil, List.getLast?_singleton]

/-! ## The body -/

section Body

variable {host port gateway : String}

theorem rdpContent_toList (host port gateway : String) :
    (rdpContent host port gateway).toList =
      joinCrlf ((settingLines host port gateway).map String.toList) := by
  have crlf : "\r\n".toList = ['\r', '\n'] := by decide +kernel
  unfold rdpContent settingLines
  simp only [String.toList_append, List.map_cons, List.map_nil, joinCrlf, List.flatMap_cons,
    List.flatMap_nil, crlf, List.append_assoc, List.append_nil]

/-- Line breaks of a host are line breaks of both lines that it stands in. -/
theorem settingLines_clean (portCr : '\r' ∉ port.toList) (portLf : '\n' ∉ port.toList)
    (oneLine : ¬ HasCrlf gateway.toList) :
    (∀ line ∈ (settingLines host port gateway).map String.toList, ¬ HasCrlf line) ↔
      ¬ HasCrlf host.toList := by
  have address : HasCrlf ("full address:s:" ++ host ++ ":" ++ port).toList ↔ HasCrlf host.toList := by
    have back : '\n' ∉ ":".toList ++ port.toList := by
      rw [List.mem_append, not_or]
      exact ⟨by decide +kernel, portLf⟩
    rw [String.toList_append, String.toList_append, String.toList_append, List.append_assoc,
      hasCrlf_append_left back, hasCrlf_append_right (by decide +kernel)]
  have alternate : HasCrlf ("alternate full address:s:" ++ host).toList ↔ HasCrlf host.toList := by
    rw [String.toList_append, hasCrlf_append_right (by decide +kernel)]
  have portLine : '\r' ∉ ("server port:i:" ++ port).toList := by
    rw [String.toList_append, List.mem_append, not_or]
    exact ⟨by decide +kernel, portCr⟩
  have gatewayLine : ¬ HasCrlf ("gatewayhostname:s:" ++ gateway).toList := by
    rwa [String.toList_append, hasCrlf_append_right (by decide +kernel)]
  have fixed (text : String) (noCr : '\r' ∉ text.toList) : ¬ HasCrlf text.toList := not_hasCrlf_of_noCr noCr
  unfold settingLines
  simp only [List.map_cons, List.map_nil, List.forall_mem_cons]
  constructor
  · intro clean
    exact mt address.mpr clean.1
  · intro clean
    exact ⟨mt address.mp clean, fixed _ portLine, fixed _ (by decide +kernel), mt alternate.mp clean,
      gatewayLine, fixed _ (by decide +kernel), fixed _ (by decide +kernel),
      fixed _ (by decide +kernel), fixed _ (by decide +kernel), fixed _ (by decide +kernel),
      fixed _ (by decide +kernel), nofun⟩

/-- The keys of the eleven lines, whatever the texts in them are. -/
def settingKeys : List (List Char) :=
  ["full address".toList, "server port".toList, "use redirection server name".toList,
    "alternate full address".toList, "gatewayhostname".toList, "gatewayusagemethod".toList,
    "gatewayprofileusagemethod".toList, "gatewayaccesstoken".toList, "gatewaybrokeringtype".toList,
    "prompt for credentials".toList, "authentication level".toList]

theorem settingKey_append {front : List Char} (colon : ':' ∈ front) (text : List Char) :
    settingKey (front ++ text) = settingKey front := by
  induction front with
  | nil => cases colon
  | cons c front ih =>
      by_cases same : c = ':'
      · rw [same]
        rfl
      · have later : ':' ∈ front := (List.mem_cons.mp colon).resolve_left (Ne.symm same)
        unfold settingKey at ih ⊢
        rw [List.cons_append, List.takeWhile_cons_of_pos (by simpa using same),
          List.takeWhile_cons_of_pos (by simpa using same), ih later]

theorem settingLines_keys (host port gateway : String) :
    ((settingLines host port gateway).map String.toList).map settingKey = settingKeys := by
  have keyOf (front : String) (colon : ':' ∈ front.toList) (text : String) :
      settingKey (front ++ text).toList = settingKey front.toList := by
    rw [String.toList_append, settingKey_append colon]
  unfold settingLines
  rw [String.append_assoc, String.append_assoc]
  simp only [List.map_cons, List.map_nil, keyOf "full address:s:" (by decide +kernel),
    keyOf "server port:i:" (by decide +kernel), keyOf "alternate full address:s:" (by decide +kernel),
    keyOf "gatewayhostname:s:" (by decide +kernel)]
  decide +kernel

theorem soundBody_iff (portCr : '\r' ∉ port.toList) (portLf : '\n' ∉ port.toList)
    (oneLine : ¬ HasCrlf gateway.toList) :
    SoundBody host port gateway (rdpContent host port gateway).toList ↔ ¬ HasCrlf host.toList := by
  rw [rdpContent_toList]
  constructor
  · intro sound
    exact (settingLines_clean portCr portLf oneLine).mp ((splitCrlf_join _).mp sound.lines)
  · intro clean
    have lines := (splitCrlf_join _).mpr ((settingLines_clean portCr portLf oneLine).mpr clean)
    have keys := settingLines_keys host port gateway
    have keysOnce : settingKeys.Nodup := by decide +kernel
    refine ⟨lines, ?_, ?_⟩
    · rw [lines, List.dropLast_concat, keys]
      exact keysOnce
    · intro line member key
      rw [lines] at member
      rcases List.mem_append.mp member with setting | last
      · rw [← keys] at keysOnce
        refine List.inj_on_of_nodup_map keysOnce setting List.mem_cons_self ?_
        exact key.trans (List.cons.inj keys).1.symm
      · rw [List.mem_singleton.mp last] at key
        cases key

end Body

/-! ## The header -/

section Header

variable {validValue : Bytes → Bool}

theorem controlCode_lt {code : Nat} (control : ControlCode code) : code < 128 := by
  rcases control with low | delete
  · omega
  · omega

theorem validValue_iff (rejects : RejectsControls validValue) (text : String) :
    validValue (headerBytes text) = true ↔ ControlFree text := by
  rw [← Bool.not_eq_false, rejects, headerBytes, not_exists]
  simp only [not_and]
  constructor
  · intro clean c member control
    have code : (UInt8.ofNat c.toNat).toNat = c.toNat := by
      rw [UInt8.toNat_ofNat', Nat.mod_eq_of_lt (Nat.lt_trans (controlCode_lt control) (by decide))]
    have ascii := controlCode_lt control
    rw [← code] at control ascii
    exact clean _ ((mem_utf8_bytes ascii).mpr ⟨c, member, code.symm⟩) control
  · intro clean byte member control
    obtain ⟨c, inText, code⟩ := (mem_utf8_bytes (controlCode_lt control)).mp member
    exact clean c inText (code ▸ control)

/-- Blanks become underscores, and every other character of the name is in the header. -/
theorem contentDisposition_clean (name : String) :
    ControlFree (contentDisposition name) ↔ ControlFree name := by
  have front : ControlFree "attachment; filename=\"" := by decide +kernel
  have extension : ControlFree ".rdp" := by decide +kernel
  have quote : ControlFree "\"" := by decide +kernel
  have replaced (c : Char) : ControlCode (if c = ' ' then '_' else c).toNat ↔ ControlCode c.toNat := by
    split
    · next blank =>
      rw [blank]
      decide
    · exact Iff.rfl
  unfold ControlFree at front extension quote ⊢
  unfold contentDisposition rdpFilename
  simp only [String.toList_append, List.forall_mem_append, String.toList_ofList, List.forall_mem_map,
    replaced, and_iff_right front, and_iff_left extension, and_iff_left quote]

theorem buildRdpResponse_eq {response : RdpResponse} (rejects : RejectsControls validValue)
    (contentType : response.contentType = "application/x-rdp") :
    buildRdpResponse validValue response =
      if validValue (headerBytes response.contentDisposition) then .ok response else .panicked := by
  have typed : validValue (headerBytes "application/x-rdp") = true :=
    (validValue_iff rejects _).mpr (by decide +kernel)
  unfold buildRdpResponse
  simp only [contentType, typed, true_and]

end Header

/-! ## The stored connections -/

section Stored

variable {prims : PortalPrimitives} {config : PortalConfig}

theorem guarded_eq_ok {α : Type} {call : ApiCall} {statement result : α}
    (passed : guarded prims config call statement = .ok result) : result = statement := by
  unfold guarded at passed
  split at passed
  · cases passed
  · split at passed
    · cases passed
    · cases passed
      rfl

/-- A row of the table behind a request: one that it has left as it was, or one that holds its texts. -/
def RowKept (connections : ConnectionTable) (request : ConnectionRequest) (reply : ApiReply)
    (conn : Connection) : Prop :=
  match acceptedInput conn.id request reply with
  | none => conn ∈ connections.rows
  | some input => HasTexts conn input

section Rows

variable {call : ApiCall} {connections : ConnectionTable} {conn : Connection}

theorem mem_createConnection {input : ConnectionInput}
    (stored : conn ∈ (createConnection prims config call connections input).2.rows) :
    RowKept connections (.create input) (createConnection prims config call connections input).1 conn := by
  unfold createConnection at stored ⊢
  dsimp only at stored ⊢
  split at stored
  · exact stored
  · next made later passed =>
    cases guarded_eq_ok passed
    rcases List.mem_append.mp stored with old | new
    · have other : connections.nextId ≠ conn.id := (ne_of_lt (connections.assigned conn old)).symm
      simp only [RowKept, acceptedInput, if_neg other]
      exact old
    · cases List.mem_singleton.mp new
      simp only [RowKept, acceptedInput, if_true]
      exact ⟨rfl, rfl, rfl⟩

theorem mem_updateConnection {id : Int} {input : ConnectionInput}
    (stored : conn ∈ (updateConnection prims config call connections id input).2.rows) :
    RowKept connections (.update id input) (updateConnection prims config call connections id input).1 conn := by
  unfold updateConnection at stored ⊢
  dsimp only at stored ⊢
  split at stored
  · exact stored
  · next later passed =>
    rw [guarded_eq_ok passed] at stored
    rcases ConnectionTable.mem_updateConnection stored with ⟨old, other⟩ | ⟨same, name, host, port⟩
    · simp only [RowKept, acceptedInput, if_neg (Ne.symm other)]
      exact old
    · simp only [RowKept, acceptedInput, if_pos same.symm]
      exact ⟨name, host, port⟩

theorem mem_deleteConnection {id : Int}
    (stored : conn ∈ (deleteConnection prims config call connections id).2.rows) :
    conn ∈ connections.rows := by
  unfold deleteConnection at stored
  split at stored
  · exact stored
  · next later passed =>
    rw [guarded_eq_ok passed] at stored
    exact List.mem_of_mem_filter stored

theorem mem_handleConnections {request : ApiCall × ConnectionRequest}
    (stored : conn ∈ (handleConnections prims config connections request).2.rows) :
    RowKept connections request.2 (handleConnections prims config connections request).1 conn := by
  obtain ⟨call, request⟩ := request
  cases request with
  | get id => exact stored
  | delete id => exact mem_deleteConnection stored
  | create input => exact mem_createConnection stored
  | update id input => exact mem_updateConnection stored

end Rows

/-- Each row holds the texts that were accepted last for its id. -/
def AllWritten (log : List (Exchange ConnectionTable (ApiCall × ConnectionRequest) ApiReply))
    (connections : ConnectionTable) : Prop :=
  ∀ conn ∈ connections.rows, ∃ input, lastAccepted log conn.id = some input ∧ HasTexts conn input

theorem AllWritten.step (log : List (Exchange ConnectionTable (ApiCall × ConnectionRequest) ApiReply))
    (connections : ConnectionTable) (request : ApiCall × ConnectionRequest)
    (written : AllWritten log connections) :
    AllWritten (log ++ [Exchange.of (handleConnections prims config) connections request])
      (handleConnections prims config connections request).2 := by
  intro conn stored
  have kept := mem_handleConnections stored
  unfold RowKept at kept
  rw [lastAccepted_append]
  unfold Exchange.of
  split at kept
  · next nothing =>
    rw [nothing, Option.none_or]
    exact written conn kept
  · next input accepted =>
    rw [accepted, Option.some_or]
    exact ⟨input, rfl, kept⟩

/-- In every table that requests have led to, whatever their texts are. -/
theorem stored_written (requests : List (ApiCall × ConnectionRequest)) {id : Int} {conn : Connection}
    (stored : (stateAfter (handleConnections prims config) .empty requests).getConnection id = some conn) :
    ∃ input, lastAccepted (exchanges (handleConnections prims config) .empty requests) id = some input ∧
      HasTexts conn input := by
  have written : AllWritten (exchanges (handleConnections prims config) .empty requests)
      (stateAfter (handleConnections prims config) .empty requests) :=
    history_invariant AllWritten (fun _ member => by cases member) AllWritten.step requests
  obtain ⟨inRows, rfl⟩ := ConnectionTable.getConnection_eq_some stored
  exact written conn inRows

end Stored

/-! ## The download -/

section Download

variable {validValue : Bytes → Bool} {prims : PortalPrimitives} {config : WebUiConfig}

theorem not_mem_showInt {c : Char} (value : Int) (minus : c ≠ '-') (digit : ¬ c.isDigit = true) :
    c ∉ (String.ofList (showInt value)).toList := by
  rw [String.toList_ofList]
  intro member
  exact (mem_showInt member).elim minus digit

theorem downloadRdp_eq {call : ApiCall} {connections : ConnectionTable} {id userId : Int}
    {conn : Connection} (rejects : RejectsControls validValue)
    (stored : connections.getConnection id = some conn)
    (session : checkSession prims config.toPortalConfig call.now call.cookieHeader = .ok userId)
    (working : call.failure = none) :
    downloadRdp validValue prims config call connections id =
      if ControlFree conn.name then
        .ok
          { contentType := "application/x-rdp"
            contentDisposition := contentDisposition conn.name
            body := rdpContent conn.host (String.ofList (showInt conn.port)) (gatewayHost config) }
      else .panicked := by
  unfold downloadRdp guarded
  simp only [session, working, stored]
  rw [buildRdpResponse_eq rejects rfl]
  simp only [validValue_iff rejects, contentDisposition_clean]

/-- A stored connection gives a sound file of the request that wrote it last, exactly if no CRLF is in
its host and no control code in its name. -/
theorem rdp_download_iff (rejects : RejectsControls validValue)
    (requests : List (ApiCall × ConnectionRequest)) {id : Int} {conn : Connection}
    (stored : (stateAfter (handleConnections prims config.toPortalConfig) .empty requests).getConnection id =
      some conn)
    (call : ApiCall) {userId : Int}
    (session : checkSession prims config.toPortalConfig call.now call.cookieHeader = .ok userId)
    (working : call.failure = none) (oneLine : ¬ HasCrlf (gatewayHost config).toList) :
    ∃ input,
      lastAccepted (exchanges (handleConnections prims config.toPortalConfig) .empty requests) id = some input ∧
        (SoundDownload input (gatewayHost config)
            (downloadRdp validValue prims config call
              (stateAfter (handleConnections prims config.toPortalConfig) .empty requests) id) ↔
          ¬ HasCrlf input.host.toList ∧ ControlFree input.name) := by
  obtain ⟨input, accepted, texts⟩ := stored_written requests stored
  refine ⟨input, accepted, ?_⟩
  have portCr : '\r' ∉ _ := not_mem_showInt input.portOrDefault (by decide) (by decide)
  have portLf : '\n' ∉ _ := not_mem_showInt input.portOrDefault (by decide) (by decide)
  have body := @soundBody_iff input.host _ (gatewayHost config) portCr portLf oneLine
  rw [downloadRdp_eq rejects stored session working, texts.name, texts.host, texts.port, ← body]
  constructor
  · intro holds
    obtain ⟨response, answered, sound⟩ := holds
    split at answered
    · next clean =>
      cases answered
      exact ⟨sound, clean⟩
    · cases answered
  · intro holds
    obtain ⟨sound, clean⟩ := holds
    rw [if_pos clean]
    exact ⟨_, rfl, sound⟩

end Download

/-! ## Connections that are accepted -/

def gwWebUi : WebUiConfig := { gwPortal with listenPort := 443, gatewayUrl := none }

def aliceCall : ApiCall :=
  { cookieHeader := some aliceCookie, now := 1700000100, timestamp := "2023-11-14 22:15:00", failure := none }

theorem aliceCall_session :
    checkSession knownHashes gwWebUi.toPortalConfig aliceCall.now aliceCall.cookieHeader = .ok 1 := by
  decide +kernel

def visibleHeader (value : Bytes) : Bool := value.all fun byte => !decide (ControlCode byte.toNat)

theorem visibleHeader_rejects : RejectsControls visibleHeader := by
  intro value
  simp [visibleHeader]

theorem gwWebUi_oneLine : ¬ HasCrlf (gatewayHost gwWebUi).toList :=
  not_hasCrlf_of_noCr (by decide +kernel)

theorem guarded_alice {α : Type} (statement : α) :
    guarded knownHashes gwWebUi.toPortalConfig aliceCall statement = .ok statement := by
  unfold guarded
  rw [aliceCall_session]
  rfl

def afterCreate (input : ConnectionInput) : ConnectionTable :=
  stateAfter (handleConnections knownHashes gwWebUi.toPortalConfig) .empty [(aliceCall, .create input)]

def downloadAfterCreate (input : ConnectionInput) : Outcome ApiStatus RdpResponse :=
  downloadRdp visibleHeader knownHashes gwWebUi aliceCall (afterCreate input) 1

def storedAs (input : ConnectionInput) : Connection :=
  { id := 1, name := input.name, host := input.host, port := input.portOrDefault
    description := input.description, icon := input.iconOrDefault
    createdAt := aliceCall.timestamp, updatedAt := aliceCall.timestamp }

theorem create_accepted (input : ConnectionInput) :
    (handleConnections knownHashes gwWebUi.toPortalConfig .empty (aliceCall, .create input)).1 =
        .created { storedAs input with createdAt := "", updatedAt := "" } ∧
      (afterCreate input).getConnection 1 = some (storedAs input) := by
  change (createConnection knownHashes gwWebUi.toPortalConfig aliceCall .empty input).1 = _ ∧
    (createConnection knownHashes gwWebUi.toPortalConfig aliceCall .empty input).2.getConnection 1 = _
  unfold createConnection
  dsimp only
  rw [guarded_alice]
  exact ⟨rfl, rfl⟩

theorem downloadAfterCreate_eq (input : ConnectionInput) :
    downloadAfterCreate input =
      if ControlFree input.name then
        .ok
          { contentType := "application/x-rdp"
            contentDisposition := contentDisposition input.name
            body := rdpContent input.host (String.ofList (showInt input.portOrDefault))
              (gatewayHost gwWebUi) }
      else .panicked :=
  downloadRdp_eq visibleHeader_rejects (create_accepted input).2 aliceCall_session rfl

def desktopInput : ConnectionInput :=
  { name := "Desk top", host := "pc.corp", port := none, description := none, icon := none }

/-- A host that ends its line and brings a gateway of its own. -/
def overridingInput : ConnectionInput :=
  { desktopInput with host := "pc\r\ngatewayhostname:s:evil.example\r\nfull address:s:pc" }

def brokenNameInput : ConnectionInput := { desktopInput with name := "Desk\ntop" }

/-- The connection is created with a bad host, which an update replaces. -/
def repairingRequests : List (ApiCall × ConnectionRequest) :=
  [(aliceCall, .create overridingInput), (aliceCall, .update 1 desktopInput)]

theorem repaired :
    (stateAfter (handleConnections knownHashes gwWebUi.toPortalConfig) .empty repairingRequests).getConnection 1 =
        some (storedAs desktopInput) ∧
      lastAccepted (exchanges (handleConnections knownHashes gwWebUi.toPortalConfig) .empty repairingRequests) 1 =
        some desktopInput := by
  simp only [repairingRequests, stateAfter, exchanges, Exchange.of, handleConnections, createConnection,
    updateConnection, guarded_alice]
  exact ⟨rfl, rfl⟩

theorem rdp_download_iff_desktop :
    SoundDownload desktopInput (gatewayHost gwWebUi)
      (downloadRdp visibleHeader knownHashes gwWebUi aliceCall
        (stateAfter (handleConnections knownHashes gwWebUi.toPortalConfig) .empty repairingRequests) 1) := by
  obtain ⟨input, accepted, sound⟩ := rdp_download_iff visibleHeader_rejects repairingRequests repaired.1
    aliceCall aliceCall_session rfl gwWebUi_oneLine
  cases accepted.symm.trans repaired.2
  exact sound.mpr ⟨not_hasCrlf_of_noCr (by decide +kernel), by decide +kernel⟩

/-- One accepted host writes a second gateway into the file, one accepted name stops the handler. -/
theorem accepted_host_adds_settings :
    (handleConnections knownHashes gwWebUi.toPortalConfig .empty (aliceCall, .create overridingInput)).1 =
        .created { storedAs overridingInput with createdAt := "", updatedAt := "" } ∧
      (∃ response, downloadAfterCreate overridingInput = .ok response ∧
        "gatewayhostname:s:evil.example".toList ∈ splitCrlf response.body.toList ∧
        ¬ SoundBody overridingInput.host "3389" (gatewayHost gwWebUi) response.body.toList) ∧
      downloadAfterCreate brokenNameInput = .panicked := by
  have clean : ControlFree overridingInput.name := by decide +kernel
  have broken : ¬ ControlFree brokenNameInput.name := by decide +kernel
  have port : String.ofList (showInt overridingInput.portOrDefault) = "3389" := by decide +kernel
  have host : overridingInput.host.toList = "pc".toList ++ '\r' :: '\n' ::
      ("gatewayhostname:s:evil.example".toList ++ '\r' :: '\n' :: "full address:s:pc".toList) := by
    decide +kernel
  refine ⟨(create_accepted _).1, ?_, ?_⟩
  · rw [downloadAfterCreate_eq, if_pos clean, port]
    refine ⟨_, rfl, ?_, fun sound => ?_⟩
    · have address : "full address:s:".toList ++ "pc".toList = "full address:s:pc".toList := by decide +kernel
      unfold rdpContent
      simp only [String.toList_append, host, List.append_assoc, List.cons_append]
      rw [← List.append_assoc, address, splitCrlf_line (not_hasCrlf_of_noCr (by decide +kernel)),
        splitCrlf_line (not_hasCrlf_of_noCr (by decide +kernel))]
      exact List.mem_cons_of_mem _ List.mem_cons_self
    · have broken : HasCrlf overridingInput.host.toList := by
        rw [host]
        exact ⟨"pc".toList, _, List.append_assoc _ _ _⟩
      exact (soundBody_iff (by decide +kernel) (by decide +kernel) gwWebUi_oneLine).mp sound broken
  · rw [downloadAfterCreate_eq, if_neg broken]

end RdGateway.Server
