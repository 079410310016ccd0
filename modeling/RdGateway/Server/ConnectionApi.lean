import RdGateway.Server.Connections
import RdGateway.Wirekit.Refinement
import RdGateway.Wirekit.Rows

/-!
# The connections API as a map

Every request behind `/api/connections` as one machine over the table, and the map from
ids to connections that its clients work with. The machine refines the map.
-/

set_option autoImplicit false

namespace RdGateway.Server

open Wirekit RdGateway.Core

inductive ApiRequest where
  | connection (request : ConnectionRequest)
  | list
  | downloadRdp (id : Int)

inductive ApiAnswer where
  | connection (reply : ApiReply)
  | listed (conns : Except ApiStatus (List Connection))
  | rdp (response : Outcome ApiStatus RdpResponse)

def listConnections (prims : PortalPrimitives) (config : PortalConfig) (call : ApiCall)
    (connections : ConnectionTable) : Except ApiStatus (List Connection) :=
  guarded prims config call connections.listConnections

section Api

variable (validValue : Bytes → Bool) (prims : PortalPrimitives) (config : WebUiConfig)

def serveApi (connections : ConnectionTable) (request : ApiCall × ApiRequest) :
    ApiAnswer × ConnectionTable :=
  let (call, request) := request
  match request with
  | .connection request =>
      let (reply, connections) := handleConnections prims config.toPortalConfig connections (call, request)
      (.connection reply, connections)
  | .list => (.listed (listConnections prims config.toPortalConfig call connections), connections)
  | .downloadRdp id => (.rdp (downloadRdp validValue prims config call connections id), connections)

/-! ## The map -/

/-- The stored connections by id; ids are handed out in order and never again. -/
structure ConnectionMap where
  stored : Store Int Connection
  nextId : Int

inductive MapAnswer where
  | refused (status : ApiStatus)
  | created (conn : Connection)
  | found (conn : Connection)
  | noContent
  | contents (stored : Store Int Connection)
  | rdp (conn : Connection)

namespace ConnectionMap

def empty : ConnectionMap := { stored := .empty, nextId := 1 }

def lookup (self : ConnectionMap) (id : Int) (answer : Connection → MapAnswer) : MapAnswer :=
  match self.stored id with
  | some conn => answer conn
  | none => .refused .notFound

def edited (input : ConnectionInput) (timestamp : String) (conn : Connection) : Connection :=
  { conn with
    name := input.name
    host := input.host
    port := input.portOrDefault
    description := input.description
    icon := input.iconOrDefault
    updatedAt := timestamp }

def create (self : ConnectionMap) (input : ConnectionInput) (timestamp : String) : MapAnswer × ConnectionMap :=
  let conn : Connection :=
    { id := self.nextId
      name := input.name
      host := input.host
      port := input.portOrDefault
      description := input.description
      icon := input.iconOrDefault
      createdAt := timestamp
      updatedAt := timestamp }
  (.created { conn with createdAt := "", updatedAt := "" },
    { stored := self.stored.insert self.nextId conn, nextId := self.nextId + 1 })

/-- A request that is let in, and whose statement does not fail. -/
def serve (self : ConnectionMap) (timestamp : String) : ApiRequest → MapAnswer × ConnectionMap
  | .connection (.create input) => self.create input timestamp
  | .connection (.get id) => (self.lookup id .found, self)
  | .connection (.update id input) =>
      (.noContent, { self with stored := self.stored.modify id (edited input timestamp) })
  | .connection (.delete id) => (.noContent, { self with stored := self.stored.remove id })
  | .list => (.contents self.stored, self)
  | .downloadRdp id => (self.lookup id .rdp, self)

/-- A request without a valid session, or whose statement fails, changes nothing. -/
def serveApi (self : ConnectionMap) (request : ApiCall × ApiRequest) : MapAnswer × ConnectionMap :=
  match guarded prims config.toPortalConfig request.1 () with
  | .error status => (.refused status, self)
  | .ok () => self.serve request.1.timestamp request.2

end ConnectionMap

/-- The list has each stored connection once, in the order of the names. -/
structure ListsContents (conns : List Connection) (stored : Store Int Connection) : Prop where
  sorted : conns.Pairwise fun left right => left.name ≤ right.name
  once : (conns.map Connection.id).Nodup
  exact : ∀ conn, conn ∈ conns ↔ stored conn.id = some conn

inductive SameAnswer : ApiAnswer → MapAnswer → Prop where
  | refused (status : ApiStatus) : SameAnswer (.connection (.refused status)) (.refused status)
  | notListed (status : ApiStatus) : SameAnswer (.listed (.error status)) (.refused status)
  | notDownloaded (status : ApiStatus) : SameAnswer (.rdp (.err status)) (.refused status)
  | created (conn : Connection) : SameAnswer (.connection (.created conn)) (.created conn)
  | found (conn : Connection) : SameAnswer (.connection (.found conn)) (.found conn)
  | noContent : SameAnswer (.connection .noContent) .noContent
  | listed {conns : List Connection} {stored : Store Int Connection} (lists : ListsContents conns stored) :
      SameAnswer (.listed (.ok conns)) (.contents stored)
  | downloaded (conn : Connection) :
      SameAnswer
        (.rdp (buildRdpResponse validValue
          { contentType := "application/x-rdp"
            contentDisposition := contentDisposition conn.name
            body := rdpContent conn.host (String.ofList (showInt conn.port)) (gatewayHost config) }))
        (.rdp conn)

/-! ## Refinement -/

structure Represents (connections : ConnectionTable) (map : ConnectionMap) : Prop where
  stored : rowAt Connection.id connections.rows = map.stored
  nextId : connections.nextId = map.nextId
  once : (connections.rows.map Connection.id).Nodup

variable {validValue prims config} {connections : ConnectionTable} {map : ConnectionMap}

theorem updateConnection_rows (connections : ConnectionTable) (id : Int) (timestamp : String)
    (input : ConnectionInput) :
    (connections.updateConnection id timestamp input.name input.host input.portOrDefault input.description
        input.iconOrDefault).rows =
      connections.rows.map (updateRow Connection.id id (ConnectionMap.edited input timestamp)) := rfl

theorem Represents.fresh (holds : Represents connections map) :
    ∀ conn ∈ connections.rows, conn.id ≠ map.nextId := by
  intro conn member
  rw [← holds.nextId]
  exact Int.ne_of_lt (connections.assigned conn member)

theorem Represents.create (holds : Represents connections map) (input : ConnectionInput) (timestamp : String) :
    let created := connections.createConnection timestamp input.name input.host input.portOrDefault
      input.description input.iconOrDefault
    .created created.1 = (map.create input timestamp).1 ∧
      Represents created.2 (map.create input timestamp).2 := by
  intro created
  have fresh : ∀ conn ∈ connections.rows, conn.id ≠ connections.nextId := holds.nextId ▸ holds.fresh
  refine ⟨?_, ?_, ?_, ?_⟩
  · rw [ConnectionMap.create, ← holds.nextId]
    rfl
  · refine (rowAt_append fresh).trans ?_
    rw [holds.stored, ConnectionMap.create, ← holds.nextId]
  · exact congrArg (· + 1) holds.nextId
  · exact append_keys_nodup holds.once fresh

theorem Represents.update (holds : Represents connections map) (id : Int) (input : ConnectionInput)
    (timestamp : String) :
    Represents
      (connections.updateConnection id timestamp input.name input.host input.portOrDefault input.description
        input.iconOrDefault)
      { map with stored := map.stored.modify id (ConnectionMap.edited input timestamp) } := by
  have keeps : ∀ conn, (ConnectionMap.edited input timestamp conn).id = conn.id := fun _ => rfl
  refine ⟨?_, holds.nextId, ?_⟩
  · rw [updateConnection_rows, rowAt_map_updateRow keeps, holds.stored]
  · rw [updateConnection_rows, map_updateRow_keys keeps]
    exact holds.once

theorem Represents.delete (holds : Represents connections map) (id : Int) :
    Represents (connections.deleteConnection id) { map with stored := map.stored.remove id } :=
  ⟨by rw [← holds.stored]; exact rowAt_filter_ne id connections.rows, holds.nextId,
    filter_keys_nodup holds.once _⟩

theorem Represents.lookup (holds : Represents connections map) (id : Int) :
    connections.getConnection id = map.stored id :=
  congrFun holds.stored id

theorem Represents.lists (holds : Represents connections map) :
    ListsContents connections.listConnections map.stored where
  sorted := by
    have total (left right : Connection) : (left.name ≤ right.name) || (right.name ≤ left.name) := by
      simpa using le_total left.name right.name
    have trans (first second third : Connection) (front : decide (first.name ≤ second.name) = true)
        (back : decide (second.name ≤ third.name) = true) : decide (first.name ≤ third.name) = true := by
      simp only [decide_eq_true_eq] at front back ⊢
      exact front.trans back
    have sorted := List.pairwise_mergeSort trans total connections.rows
    exact sorted.imp fun ordered => of_decide_eq_true ordered
  once := ((List.mergeSort_perm _ _).map Connection.id).nodup_iff.mpr holds.once
  exact := by
    intro conn
    rw [ConnectionTable.listConnections, List.mem_mergeSort, mem_iff_rowAt holds.once, holds.stored]

theorem guarded_eq {α : Type} (call : ApiCall) (statement : α) :
    guarded prims config.toPortalConfig call statement =
      (guarded prims config.toPortalConfig call ()).map fun _ => statement := by
  unfold guarded
  cases checkSession prims config.toPortalConfig call.now call.cookieHeader with
  | error => rfl
  | ok =>
      cases call.failure with
      | some => rfl
      | none => rfl

/-- A request that is let in, by what it asks for. -/
theorem Represents.serve (holds : Represents connections map) {call : ApiCall}
    (guard : guarded prims config.toPortalConfig call () = .ok ()) (request : ApiRequest) :
    SameAnswer validValue config (Server.serveApi validValue prims config connections (call, request)).1
        (map.serve call.timestamp request).1 ∧
      Represents (Server.serveApi validValue prims config connections (call, request)).2
        (map.serve call.timestamp request).2 := by
  have letIn {α : Type} (statement : α) : guarded prims config.toPortalConfig call statement = .ok statement := by
    rw [guarded_eq, guard]
    rfl
  cases request with
  | connection request =>
      cases request with
      | create input =>
          obtain ⟨same, goesOn⟩ := holds.create input call.timestamp
          simp only [Server.serveApi, handleConnections, createConnection, letIn, ConnectionMap.serve]
          exact ⟨same ▸ .created _, goesOn⟩
      | get id =>
          simp only [Server.serveApi, handleConnections, getConnection, letIn, ConnectionMap.serve,
            ConnectionMap.lookup, holds.lookup]
          cases map.stored id with
          | some conn => exact ⟨.found conn, holds⟩
          | none => exact ⟨.refused .notFound, holds⟩
      | update id input =>
          simp only [Server.serveApi, handleConnections, updateConnection, letIn, ConnectionMap.serve]
          exact ⟨.noContent, holds.update id input call.timestamp⟩
      | delete id =>
          simp only [Server.serveApi, handleConnections, deleteConnection, letIn, ConnectionMap.serve]
          exact ⟨.noContent, holds.delete id⟩
  | list =>
      simp only [Server.serveApi, listConnections, letIn, ConnectionMap.serve]
      exact ⟨.listed holds.lists, holds⟩
  | downloadRdp id =>
      simp only [Server.serveApi, downloadRdp, letIn, ConnectionMap.serve, ConnectionMap.lookup,
        holds.lookup]
      cases map.stored id with
      | some conn => exact ⟨.downloaded conn, holds⟩
      | none => exact ⟨.notDownloaded .notFound, holds⟩

theorem serveApi_refused (connections : ConnectionTable) {call : ApiCall} {status : ApiStatus}
    (refused : guarded prims config.toPortalConfig call () = .error status) (request : ApiRequest) :
    SameAnswer validValue config (serveApi validValue prims config connections (call, request)).1
        (.refused status) ∧
      (serveApi validValue prims config connections (call, request)).2 = connections := by
  have stopped {α : Type} (statement : α) :
      guarded prims config.toPortalConfig call statement = .error status := by
    rw [guarded_eq, refused]
    rfl
  cases request with
  | connection request =>
      cases request with
      | create input =>
          simp only [serveApi, handleConnections, createConnection, stopped]
          exact ⟨.refused status, trivial⟩
      | get id =>
          simp only [serveApi, handleConnections, getConnection, stopped]
          exact ⟨.refused status, trivial⟩
      | update id input =>
          simp only [serveApi, handleConnections, updateConnection, stopped]
          exact ⟨.refused status, trivial⟩
      | delete id =>
          simp only [serveApi, handleConnections, deleteConnection, stopped]
          exact ⟨.refused status, trivial⟩
  | list =>
      simp only [serveApi, listConnections, stopped]
      exact ⟨.notListed status, trivial⟩
  | downloadRdp id =>
      simp only [serveApi, downloadRdp, stopped]
      exact ⟨.notDownloaded status, trivial⟩

theorem serveApi_refines :
    Refines (serveApi validValue prims config) (ConnectionMap.serveApi prims config) Represents
      (SameAnswer validValue config) := by
  have round {connections : ConnectionTable} {map : ConnectionMap} (request : ApiCall × ApiRequest)
      (holds : Represents connections map) :
      SameAnswer validValue config (serveApi validValue prims config connections request).1
          (map.serveApi prims config request).1 ∧
        Represents (serveApi validValue prims config connections request).2 (map.serveApi prims config request).2 := by
    obtain ⟨call, request⟩ := request
    rw [ConnectionMap.serveApi]
    cases guard : guarded prims config.toPortalConfig call () with
    | error status =>
        obtain ⟨same, unchanged⟩ := serveApi_refused connections guard request
        refine ⟨same, ?_⟩
        rw [unchanged]
        exact holds
    | ok => exact holds.serve guard request
  exact ⟨fun request holds => (round request holds).1, fun request holds => (round request holds).2⟩

theorem Represents.empty : Represents .empty .empty where
  stored := rfl
  nextId := rfl
  once := List.nodup_nil

/-- For every sequence of requests, whatever their cookies and whichever of their statements
fail: the answers are those of a map from ids to connections. -/
theorem api_answers (validValue : Bytes → Bool) (prims : PortalPrimitives) (config : WebUiConfig)
    (requests : List (ApiCall × ApiRequest)) :
    List.Forall₂ (SameAnswer validValue config)
      ((exchanges (serveApi validValue prims config) .empty requests).map Exchange.output)
      ((exchanges (ConnectionMap.serveApi prims config) .empty requests).map Exchange.output) :=
  serveApi_refines.outputs Represents.empty requests

end Api

end RdGateway.Server
