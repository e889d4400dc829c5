import AshiatoSync.Server

/-!
# The clients of the server

A client is connected before it is ready for updates, and only a remote client that
is ready has a replicator.  `clients_` is indexed by the clients' ids and by the
peers of the remote ones, and a client leaves it by the last one taking its place.
-/

namespace AshiatoSync

/-- `ReplicationServer::ClientState` -/
structure ClientState where
  id : ClientId
  peer : PeerId := invalidPeerId
  isLocal : Bool := false
  readyForUpdates : Bool := false
  replication : Option ServerClientReplicator := none

structure ConnectedServer where
  core : ServerCore
  clients : List ClientState := []
  clientToIndex : ClientId → Option Nat := fun _ => none
  peerToIndex : PeerId → Option Nat := fun _ => none
  nextConnectClientId : ClientId := 1
  localClient : ClientId := invalidClientId

namespace ConnectedServer

/-! ## Joining -/

/-- The attempts of `find_next_available_client_id`. -/
def availableFrom (taken : ClientId → Bool) : Nat → ClientId → ClientId
  | 0, _ => invalidClientId
  | attempts + 1, candidate =>
    if candidate != invalidClientId && !taken candidate then candidate
    else availableFrom taken attempts (if candidate ≥ maxClientEntityNetworkIdClient then 1 else candidate + 1)

def findNextAvailableClientId (server : ConnectedServer) : ClientId :=
  availableFrom (fun id => (server.clientToIndex id).isSome) maxClientEntityNetworkIdClient server.nextConnectClientId

def createClientReplicator (core : ServerCore) (client : ClientState) : ClientState :=
  if client.isLocal || client.replication.isSome then client
  else
    let replication : ServerClientReplicator := { id := client.id, peer := client.peer }
    { client with replication := some (replication.initializeMarkingAllDirty core core.frame) }

/-- `add_client_state`: no server when it refuses. -/
def addClientState (server : ConnectedServer) (state : ClientState) : Option ConnectedServer :=
  if state.id = invalidClientId || state.id > maxClientEntityNetworkIdClient ||
      (server.clientToIndex state.id).isSome then none
  else if !state.isLocal && (state.peer == invalidPeerId || (server.peerToIndex state.peer).isSome) then none
  else
    let state := if !state.isLocal && state.readyForUpdates then createClientReplicator server.core state else state
    some { server with
      clients := server.clients ++ [state]
      clientToIndex := Function.update server.clientToIndex state.id (some server.clients.length)
      peerToIndex :=
        if state.isLocal then server.peerToIndex
        else Function.update server.peerToIndex state.peer (some server.clients.length)
      nextConnectClientId :=
        if state.id ≥ server.nextConnectClientId then
          if state.id ≥ maxClientEntityNetworkIdClient then 1 else state.id + 1
        else server.nextConnectClientId }

def addClientForPeer (server : ConnectedServer) (peer : PeerId) (client : ClientId) (readyForUpdates : Bool) :
    Option ConnectedServer :=
  if client = invalidClientId || client > maxClientEntityNetworkIdClient || peer = invalidPeerId ||
      (server.clientToIndex client).isSome || (server.peerToIndex peer).isSome then none
  else server.addClientState { id := client, peer, readyForUpdates }

/-- `add_client` -/
def addClient (server : ConnectedServer) (client : ClientId) : ConnectedServer :=
  (server.addClientForPeer client client true).getD server

def addLocalClient (server : ConnectedServer) : ConnectedServer :=
  if server.localClient ≠ invalidClientId then server
  else
    let localClient := server.findNextAvailableClientId
    if localClient = invalidClientId then server
    else
      match server.addClientState { id := localClient, isLocal := true, readyForUpdates := true } with
      | none => server
      | some server => { server with localClient }

/-- `process_connect_request_packet`: the handler sees the proposed id, and accepts or not, with that id or another. -/
def processConnectRequest (server : ConnectedServer) (peer : PeerId) (handler : ClientId → Bool × ClientId) :
    ConnectedServer :=
  if (server.peerToIndex peer).isSome then server
  else
    let (accepted, acceptedClient) := handler server.findNextAvailableClientId
    if !accepted || acceptedClient = invalidClientId || acceptedClient > maxClientEntityNetworkIdClient then server
    else (server.addClientForPeer peer acceptedClient false).getD server

/-- `process_connection_request_ack_packet`, from the peer's packet. -/
def processConnectionRequestAck (server : ConnectedServer) (peer : PeerId) (ackedClient : ClientId) : ConnectedServer :=
  match server.peerToIndex peer with
  | none => server
  | some index =>
    { server with clients := server.clients.modify index fun client =>
        if ackedClient = client.id ∧ client.readyForUpdates = false then
          createClientReplicator server.core { client with readyForUpdates := true }
        else client }

/-! ## Leaving -/

def clearReplication (server : ConnectedServer) (client : ClientState) : ConnectedServer :=
  match client.replication with
  | none => server
  | some replication => { server with core := (replication.clearAll server.core).1 }

def moveLast (server : ConnectedServer) (index : Nat) (last : ClientState) : ConnectedServer :=
  if index = server.clients.length - 1 then server
  else
    { server with
      clients := server.clients.set index last
      clientToIndex := Function.update server.clientToIndex last.id (some index)
      peerToIndex :=
        if last.isLocal then server.peerToIndex else Function.update server.peerToIndex last.peer (some index) }

/-- `remove_client` -/
def removeClient (server : ConnectedServer) (client : ClientId) : ConnectedServer :=
  match server.clientToIndex client with
  | none => server
  | some index =>
    match server.clients[index]?, server.clients.getLast? with
    | some removed, some last =>
      let server := (server.clearReplication removed).moveLast index last
      let server := { server with
        clients := server.clients.dropLast
        clientToIndex := Function.update server.clientToIndex client none }
      if removed.isLocal then { server with localClient := invalidClientId }
      else { server with peerToIndex := Function.update server.peerToIndex removed.peer none }
    | _, _ => server

/-- The loop of `disconnect_timed_out_clients` from `index` on; `timedOut` compares a client's idle time with the limit.
-/
def disconnectFrom (timedOut : ClientState → Bool) : Nat → Nat → ConnectedServer → ConnectedServer
  | 0, _, server => server
  | fuel + 1, index, server =>
    match server.clients[index]? with
    | none => server
    | some client =>
      if client.isLocal then disconnectFrom timedOut fuel (index + 1) server
      else if timedOut client then disconnectFrom timedOut fuel index (server.removeClient client.id)
      else disconnectFrom timedOut fuel (index + 1) server

def disconnectTimedOutClients (server : ConnectedServer) (timedOut : ClientState → Bool) : ConnectedServer :=
  disconnectFrom timedOut server.clients.length 0 server

/-! ## Replication -/

def replicators (server : ConnectedServer) : ReplicationServer :=
  { core := server.core, clients := server.clients.filterMap fun client => client.replication }

def withReplicators : List ClientState → List ServerClientReplicator → List ClientState
  | [], _ => []
  | client :: rest, replications =>
    match client.replication, replications with
    | some _, replication :: replications =>
      { client with replication := some replication } :: withReplicators rest replications
    | _, replications => client :: withReplicators rest replications

def restore (server : ConnectedServer) (replicated : ReplicationServer) : ConnectedServer :=
  { server with core := replicated.core, clients := withReplicators server.clients replicated.clients }

end ConnectedServer

/-- One call on the server.  A discovery or a send that throws has made some of the single calls on slots before. -/
inductive ConnectedOp where
  | addClient (client : ClientId)
  | addLocalClient
  | connectRequest (peer : PeerId) (handler : ClientId → Bool × ClientId)
  | connectionRequestAck (peer : PeerId) (ackedClient : ClientId)
  | removeClient (client : ClientId)
  | disconnectTimedOutClients (timedOut : ClientState → Bool)
  | upsertReplicated (registry : Registry) (entity : Entity) (archetype : SyncArchetypeId)
  | deactivateReplicated (slot : Nat)
  | deactivateEntityIndex (entityIndex : Nat)
  | rediscoverAll (registry : Registry)
  | advance (frame : SyncFrame) (registry : Registry) (dirty : DirtyView) (cues : List QueuedSyncCue)
  | send (client : ClientId) (registry : Registry) (inputAckFrame : SyncFrame) (available : Nat)
      (decider : Entity → EntityReplicationDecision)
  | acks (client : ClientId) (packetIds : List Nat)

namespace ConnectedServer

def exec (server : ConnectedServer) : ConnectedOp → Except StdException ConnectedServer
  | .addClient client => .ok (server.addClient client)
  | .addLocalClient => .ok server.addLocalClient
  | .connectRequest peer handler => .ok (server.processConnectRequest peer handler)
  | .connectionRequestAck peer ackedClient => .ok (server.processConnectionRequestAck peer ackedClient)
  | .removeClient client => .ok (server.removeClient client)
  | .disconnectTimedOutClients timedOut => .ok (server.disconnectTimedOutClients timedOut)
  | .upsertReplicated registry entity archetype =>
    (server.replicators.upsertReplicated registry entity archetype).map server.restore
  | .deactivateReplicated slot => .ok (server.restore (server.replicators.deactivateReplicated slot))
  | .deactivateEntityIndex entityIndex => .ok (server.restore (server.replicators.deactivateEntityIndex entityIndex))
  | .rediscoverAll registry => (server.replicators.exec (.rediscoverAll registry)).map server.restore
  | .advance frame registry dirty cues =>
    (server.replicators.exec (.advance frame registry dirty cues)).map server.restore
  | .send client registry inputAckFrame available decider =>
    (server.replicators.exec (.send client registry inputAckFrame available decider)).map server.restore
  | .acks client packetIds => (server.replicators.exec (.acks client packetIds)).map server.restore

def start (options : ReplicationServerOptions) (settings : SyncSettings) : ConnectedServer :=
  { core := { options, settings } }

inductive Reachable (options : ReplicationServerOptions) (settings : SyncSettings) : ConnectedServer → Prop where
  | start : Reachable options settings (start options settings)
  | step {server server' : ConnectedServer} (op : ConnectedOp) :
      Reachable options settings server → server.exec op = .ok server' → Reachable options settings server'

end ConnectedServer

end AshiatoSync
