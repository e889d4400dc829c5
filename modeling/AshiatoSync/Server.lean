import AshiatoSync.UpdateScheduler

/-!
# The server as a state machine

One fixed step (`advance`), one flush of a client (`send`), one packet of
acknowledgements (`acks`), and the connection of clients.  `exec` is one of them;
a run is a sequence of those that do not throw.
-/

namespace AshiatoSync

namespace ReplicationServer

/-! ## Dirty generations -/

def nextGeneration (generation : Nat) : Nat :=
  if (generation + 1) % 2 ^ 64 = 0 then 1 else (generation + 1) % 2 ^ 64

def bumpGenerations (core : ServerCore) (slot : Nat) (which : SyncArchetype → List Nat) : ServerCore :=
  match core.replicated[slot]? with
  | none => core
  | some replicated =>
    match core.settings.archetypes[replicated.archetype]? with
    | none => core
    | some archetype =>
      if !replicated.active then core
      else { core with
        replicated := core.replicated.set slot { replicated with
          componentDirtyGenerations :=
            (which archetype).foldl (fun generations i => generations.modify i nextGeneration)
            (replicated.componentDirtyGenerations ++
              List.replicate (syncSlotCount archetype - replicated.componentDirtyGenerations.length) 1) } }

/-- `mark_dirty_component`: the first component of the archetype with that id. -/
def markDirtyComponent (core : ServerCore) (slot : Nat) (component : ComponentId) : ServerCore :=
  bumpGenerations core slot fun archetype =>
    ((archetype.components.findIdx? fun c => c.component == component).map (· + 1)).toList

/-- `mark_dirty_tag`, through `mark_dirty_tags`. -/
def markDirtyTag (core : ServerCore) (slot : Nat) (tag : ComponentId) : ServerCore :=
  match core.replicated[slot]? with
  | none => core
  | some replicated =>
    match core.settings.archetypes[replicated.archetype]? with
    | none => core
    | some archetype =>
      if archetype.tags.any fun t => t.tag == tag then bumpGenerations core slot fun _ => [0] else core

/-- `mark_owner_visibility_dirty` -/
def markOwnerVisibilityDirty (core : ServerCore) (slot : Nat) : ServerCore :=
  bumpGenerations core slot fun archetype =>
    (if archetype.tags.any fun t => t.audience != .all then [0] else []) ++
    (archetype.components.zipIdx.filter fun c => c.1.audience != .all).map fun c => c.2 + 1

/-- One `each_dirty` and one `each_removed` loop of `capture_dirty_generations`. -/
def captureKey (dirty : DirtyView) (key : DirtyKey) (mark : ServerCore → Nat → ServerCore) (core : ServerCore) :
    ServerCore :=
  let core := (dirty.dirty key).foldl (fun core entity =>
    match core.entityToReplicatedIndex entity with
    | some slot => mark core slot
    | none => core) core
  (dirty.removed key).foldl (fun core entity =>
    match core.entityIndexToReplicatedIndex entity.index with
    | some slot => mark core slot
    | none => core) core

/-- `capture_dirty_generations` -/
def captureDirtyGenerations (core : ServerCore) (dirty : DirtyView) : ServerCore :=
  let core := (core.settings.archetypes.flatMap fun a => a.tags.map (·.tag)).foldl
    (fun core tag => captureKey dirty (.component tag) (fun core slot => markDirtyTag core slot tag) core) core
  let core := core.settings.componentOps.foldl
    (fun core component => captureKey dirty (.component component)
      (fun core slot => markDirtyComponent core slot component) core) core
  captureKey dirty .networkOwner markOwnerVisibilityDirty core

/-! ## Dirty slots -/

/-- The slots one key of the dirty view marks, in the order `dirty`, `added`, `removed`. -/
def keySlots (core : ServerCore) (dirty : DirtyView) (key : DirtyKey) : List Nat :=
  (dirty.dirty key).filterMap core.entityToReplicatedIndex ++
  (dirty.added key).filterMap core.entityToReplicatedIndex ++
  (dirty.removed key).filterMap fun entity => core.entityIndexToReplicatedIndex entity.index

/-- `each_dirty_replicated_slot` -/
def dirtyReplicatedSlots (core : ServerCore) (dirty : DirtyView) : List Nat :=
  keySlots core dirty .replicated ++
  (core.settings.archetypes.flatMap fun a => a.tags.flatMap fun t => keySlots core dirty (.component t.tag)) ++
  (core.settings.componentOps.flatMap fun component => keySlots core dirty (.component component)) ++
  keySlots core dirty .networkOwner

/-- `broadcast_registry_dirty_frame`: every client marks the dirty slots at the server's frame. -/
def broadcastRegistryDirtyFrame (server : ReplicationServer) (dirty : DirtyView) : ReplicationServer :=
  let slots := dirtyReplicatedSlots server.core dirty
  server.overClients fun core client =>
    (core, slots.foldl (fun client slot => client.markDirty core slot core.frame) client)

/-! ## Cues -/

def cuePayload (core : ServerCore) (client : ServerClientReplicator) (slot : Nat) (ops : SyncCueOps)
    (cue : QueuedSyncCue) : Except StdException (ServerClientReplicator × Bits) :=
  match cue.value with
  | none => .ok (client, cue.payload)
  | some value => runRecordWriter core slot ops.referencesEntities (ops.serialize value) client

def pushCue (core : ServerCore) (client : ServerClientReplicator) (slot : Nat) (cue : PendingCue) :
    ServerClientReplicator :=
  match client.states[slot]? with
  | none => client
  | some state =>
    let client := client.modifyState slot fun s => { s with pendingCues := s.pendingCues ++ [cue] }
    (client.logCall (.attachCue slot cue state.pending)).markDirty core slot core.frame

/-- One client's share of `attach_cue_to_clients`. -/
def attachCueToClient (registry : Registry) (core : ServerCore) (slot : Nat) (ops : SyncCueOps)
    (cue : QueuedSyncCue) (expireFrame : SyncFrame) (client : ServerClientReplicator) :
    Except StdException ServerClientReplicator := do
  if cue.onlyReplicateToOwner && registry.networkOwner cue.entity != some client.id then return client
  if client.states[slot]?.isNone then return client
  let (client, payload) ← cuePayload core client slot ops cue
  if payload.length > maxCuePayloadBits then return client
  return pushCue core client slot {
    frame := cue.frame, expireFrame, type := cue.type, relevanceSeconds := cue.relevanceSeconds, payload }

/-- The cue's last frame: `cue_relevance_fits_frame_range`, then `cue.frame + relevance_frames`. -/
def cueExpireFrame (floats : FloatOps) (cue : QueuedSyncCue) : Option SyncFrame :=
  if cue.frame = 0 then none
  else
    match floats.relevanceFrames cue.relevanceSeconds with
    | none => none
    | some frames => if frames ≤ 2 ^ 32 - 1 - cue.frame then some (cue.frame + frames) else none

/-- `attach_cue_to_clients` -/
def attachCueToClients (server : ReplicationServer) (registry : Registry) (slot : Nat) (cue : QueuedSyncCue) :
    Except StdException ReplicationServer := do
  if !server.core.replicatedSlotActive slot then return server
  match server.core.settings.cueOps[cue.type]?, cueExpireFrame server.core.options.floats cue with
  | some ops, some expireFrame =>
    let clients ← server.clients.mapM (attachCueToClient registry server.core slot ops cue expireFrame)
    return { server with clients }
  | _, _ => return server

/-- `capture_queued_cues` -/
def captureQueuedCues (server : ReplicationServer) (registry : Registry) (cues : List QueuedSyncCue) :
    Except StdException ReplicationServer :=
  cues.foldlM (fun server cue =>
    match server.core.entityToReplicatedIndex cue.entity with
    | none => .ok server
    | some slot => server.attachCueToClients registry slot cue) server

/-! ## Steps -/

/-- A server frame number set to `frame`, and `on_registry_dirty_frame` for it. -/
def advanceFrame (server : ReplicationServer) (frame : SyncFrame) (registry : Registry) (dirty : DirtyView)
    (cues : List QueuedSyncCue) : Except StdException ReplicationServer := do
  let server := { server with core := { server.core with frame } }
  let server ← server.rediscoverReplicatedEntities registry dirty
  let server := { server with core := captureDirtyGenerations server.core dirty }
  let server := server.broadcastRegistryDirtyFrame dirty
  server.captureQueuedCues registry cues

/-- The position of a client, as `client_to_index_` has it. -/
def clientIndex? (server : ReplicationServer) (client : ClientId) : Option Nat :=
  server.clients.findIdx? fun replication => replication.id == client

/-- `process_client_acks_from_packet` for one client. -/
def processClientAcks (server : ReplicationServer) (c : Nat) (packetIds : List Nat) : ReplicationServer :=
  match server.clients[c]? with
  | none => server
  | some client =>
    let (core, client) := client.processClientAcks server.core packetIds
    server.setClient c core client

/-- `add_client_for_peer` of a client that is ready for updates. -/
def addClient (server : ReplicationServer) (peer : PeerId) (client : ClientId) : ReplicationServer :=
  if client = invalidClientId || client > maxClientEntityNetworkIdClient || peer = invalidPeerId ||
      server.clients.any fun r => r.id == client || r.peer == peer then server
  else
    let replication : ServerClientReplicator := { id := client, peer }
    { server with clients := server.clients ++ [replication.initializeMarkingAllDirty server.core server.core.frame] }

/-- `clients_` without position `c`: the last client takes its place. -/
def swapRemove (clients : List ServerClientReplicator) (c : Nat) : List ServerClientReplicator :=
  match clients.getLast? with
  | none => clients
  | some last => (clients.set c last).dropLast

/-- `remove_client` -/
def removeClient (server : ReplicationServer) (client : ClientId) : ReplicationServer :=
  match server.clientIndex? client with
  | none => server
  | some c =>
    match server.clients[c]? with
    | none => server
    | some replication =>
      { core := (replication.clearAll server.core).1, clients := swapRemove server.clients c }

end ReplicationServer

inductive ServerOp where
  | advance (frame : SyncFrame) (registry : Registry) (dirty : DirtyView) (cues : List QueuedSyncCue)
  | rediscoverAll (registry : Registry)
  | send (client : ClientId) (registry : Registry) (inputAckFrame : SyncFrame) (available : Nat)
      (decider : Entity → EntityReplicationDecision)
  | acks (client : ClientId) (packetIds : List Nat)
  | addClient (peer : PeerId) (client : ClientId)
  | removeClient (client : ClientId)

namespace ReplicationServer

def exec (server : ReplicationServer) : ServerOp → Except StdException ReplicationServer
  | .advance frame registry dirty cues => server.advanceFrame frame registry dirty cues
  | .rediscoverAll registry => server.rediscoverAllReplicatedEntities registry
  | .send client registry inputAckFrame available decider =>
    match server.clientIndex? client with
    | none => .ok server
    | some c => (server.sendClient c registry inputAckFrame available decider).map Prod.fst
  | .acks client packetIds =>
    match server.clientIndex? client with
    | none => .ok server
    | some c => .ok (server.processClientAcks c packetIds)
  | .addClient peer client => .ok (server.addClient peer client)
  | .removeClient client => .ok (server.removeClient client)

def start (options : ReplicationServerOptions) (settings : SyncSettings) : ReplicationServer :=
  { core := { options, settings } }

/-- The states of every run that does not throw. -/
inductive Reachable (options : ReplicationServerOptions) (settings : SyncSettings) : ReplicationServer → Prop where
  | start : Reachable options settings (start options settings)
  | step {server server' : ReplicationServer} (op : ServerOp) :
      Reachable options settings server → server.exec op = .ok server' → Reachable options settings server'

end ReplicationServer

end AshiatoSync
