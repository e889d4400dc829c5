import AshiatoSync.UpdateWriter

/-!
# The server's slots over all clients

A slot is activated when an entity becomes replicated and deactivated when it
stops being so; both reach into every client's replicator.
-/

namespace AshiatoSync

/-- `ReplicationServer`, with the replicators of the clients that have one. -/
structure ReplicationServer where
  core : ServerCore
  clients : List ServerClientReplicator := []

def eachClient (f : ServerCore → ServerClientReplicator → ServerCore × ServerClientReplicator) :
    ServerCore → List ServerClientReplicator → ServerCore × List ServerClientReplicator
  | core, [] => (core, [])
  | core, client :: rest =>
    let (core, client) := f core client
    let (core, rest) := eachClient f core rest
    (core, client :: rest)

namespace ReplicationServer

def overClients (server : ReplicationServer)
    (f : ServerCore → ServerClientReplicator → ServerCore × ServerClientReplicator) : ReplicationServer :=
  let (core, clients) := eachClient f server.core server.clients
  { core, clients }

/-! ## Deactivation -/

/-- The shared part of `deactivate_replicated`. -/
def deactivateSlot (core : ServerCore) (slot : Nat) (entity : Entity) : ServerCore :=
  { core with
    entityToReplicatedIndex := Function.update core.entityToReplicatedIndex entity none
    entityIndexToReplicatedIndex := Function.update core.entityIndexToReplicatedIndex entity.index none
    replicated := core.replicated.modify slot fun r => { r with
      active := false, quantizedFrames := [], sameFrameQuantizedFrame := none
      sameFrameQuantizedFrameFrame := 0, sameFrameCacheable := false }
    freeReplicatedIndices := slot :: core.freeReplicatedIndices
    activeReplicatedCount := core.activeReplicatedCount - 1 }

/-- `deactivate_replicated` -/
def deactivateReplicated (server : ReplicationServer) (slot : Nat) : ReplicationServer :=
  match server.core.replicated[slot]? with
  | none => server
  | some replicated =>
    if !replicated.active then server
    else
      let server := { server with core := deactivateSlot server.core slot replicated.entity }
      let server := server.overClients fun core client =>
        client.enqueueDestroy core slot replicated.entity core.frame
      -- `remove_replicated_from_client_replicators`
      server.overClients fun core client => (core, client.clearDirty slot)

def deactivateEntityIndex (server : ReplicationServer) (entityIndex : Nat) : ReplicationServer :=
  match server.core.entityIndexToReplicatedIndex entityIndex with
  | none => server
  | some slot => server.deactivateReplicated slot

/-! ## Activation -/

/-- `allocate_replicated_slot` -/
def allocateReplicatedSlot (core : ServerCore) (entity : Entity) (archetype : SyncArchetypeId) :
    Except StdException (ServerCore × Nat) :=
  match core.freeReplicatedIndices with
  | slot :: rest =>
    .ok ({ core with
      freeReplicatedIndices := rest
      replicated := core.replicated.set slot { entity, archetype, active := true } }, slot)
  | [] =>
    if core.replicated.length > 2 ^ 32 - 1 then
      .error (.lengthError "Ashiato Sync replicated slot space exhausted")
    else
      .ok ({ core with replicated := core.replicated ++ [{ entity, archetype, active := true }] },
        core.replicated.length)

/-- `archetype_is_same_frame_cacheable` -/
def archetypeIsSameFrameCacheable (archetype : SyncArchetype) : Bool :=
  archetype.tags.all (fun t => t.audience == .all) && archetype.components.all fun c => c.audience == .all

def initializeSlot (core : ServerCore) (slot : Nat) (entity : Entity) (definition : SyncArchetype) : ServerCore :=
  { core with
    replicated := core.replicated.modify slot fun r => { r with
      sameFrameCacheable := archetypeIsSameFrameCacheable definition
      componentDirtyGenerations := List.replicate (syncSlotCount definition) 1 }
    entityToReplicatedIndex := Function.update core.entityToReplicatedIndex entity (some slot)
    entityIndexToReplicatedIndex := Function.update core.entityIndexToReplicatedIndex entity.index (some slot)
    activeReplicatedCount := core.activeReplicatedCount + 1 }

def startReplicating (slot : Nat) (core : ServerCore) (client : ServerClientReplicator) :
    ServerCore × ServerClientReplicator :=
  let client := client.ensureCapacity core.replicated.length
  let (core, client) := client.clearState core slot
  (core, client.markDirty core slot core.frame)

def forgetEntity (core : ServerCore) (entity : Entity) : ServerCore :=
  { core with
    entityToReplicatedIndex := Function.update core.entityToReplicatedIndex entity none
    entityIndexToReplicatedIndex := Function.update core.entityIndexToReplicatedIndex entity.index none }

/-- The part of `upsert_replicated` that gives the entity a slot. -/
def activateReplicated (server : ReplicationServer) (entity : Entity) (archetype : SyncArchetypeId)
    (definition : SyncArchetype) : Except StdException ReplicationServer := do
  let server := server.deactivateEntityIndex entity.index
  let (core, slot) ← allocateReplicatedSlot server.core entity archetype
  return ({ server with core := initializeSlot core slot entity definition }).overClients (startReplicating slot)

/-- `upsert_replicated` -/
def upsertReplicated (server : ReplicationServer) (registry : Registry) (entity : Entity)
    (archetype : SyncArchetypeId) : Except StdException ReplicationServer :=
  match server.core.settings.archetypes[archetype]? with
  | none => .ok (server.deactivateEntityIndex entity.index)
  | some definition =>
    if !registry.alive entity then .ok (server.deactivateEntityIndex entity.index)
    else
      match server.core.entityToReplicatedIndex entity with
      | none => server.activateReplicated entity archetype definition
      | some slot =>
        match server.core.replicated[slot]? with
        | none => ({ server with core := forgetEntity server.core entity }).activateReplicated
            entity archetype definition
        | some replicated =>
          if !replicated.active then
            ({ server with core := forgetEntity server.core entity }).activateReplicated entity archetype definition
          else if replicated.archetype ≠ archetype then
            .error (.logicError "replicated entity archetype cannot change while syncing")
          else .ok server

/-! ## Rediscovery -/

def upsertAll (server : ReplicationServer) (registry : Registry) (entities : List Entity) :
    Except StdException ReplicationServer :=
  entities.foldlM (fun server entity =>
    match registry.replicated entity with
    | none => .ok server
    | some archetype => server.upsertReplicated registry entity archetype) server

def setInitialized (server : ReplicationServer) : ReplicationServer :=
  { server with core := { server.core with replicatedInitialized := true } }

/-- `rediscover_all_replicated_entities` -/
def rediscoverAllReplicatedEntities (server : ReplicationServer) (registry : Registry) :
    Except StdException ReplicationServer :=
  if !server.core.replicatedInitialized then
    (server.upsertAll registry registry.replicatedView).map setInitialized
  else
    let server := (List.range server.core.replicated.length).foldl (fun server slot =>
      if server.core.replicatedSlotActive slot && !server.core.replicatedIsReplicable registry slot then
        server.deactivateReplicated slot
      else server) server
    server.upsertAll registry registry.replicatedView

/-- `rediscover_replicated_entities` -/
def rediscoverReplicatedEntities (server : ReplicationServer) (registry : Registry) (dirty : DirtyView) :
    Except StdException ReplicationServer := do
  if !server.core.replicatedInitialized then
    (server.upsertAll registry registry.replicatedView).map setInitialized
  else
    let server := (dirty.removed .replicated).foldl
      (fun server entity => server.deactivateEntityIndex entity.index) server
    let server ← server.upsertAll registry (dirty.added .replicated)
    server.upsertAll registry (dirty.dirty .replicated)

end ReplicationServer

end AshiatoSync
