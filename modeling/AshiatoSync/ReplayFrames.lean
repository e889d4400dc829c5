import AshiatoSync.ReplayWriter
import AshiatoSync.ReplayWorld
import AshiatoSync.UpdateReader

/-!
# Replay frames

A replay writer listens to the dirty frames of a server.  When one is due it writes
what changed since the frame it wrote before, or, in a full frame, all that is
replicated; behind the records stand the cues.
-/

namespace AshiatoSync

open BitCodec

/-! ## Dirty frames -/

namespace ReplicationServer

/-- What `deactivate_entity_index` adds to `post_tick_destroyed_slots_`. -/
def destroyedByIndex (core : ServerCore) (entityIndex : Nat) : List (Nat × Entity) :=
  match core.entityIndexToReplicatedIndex entityIndex with
  | none => []
  | some slot =>
    match core.replicated[slot]? with
    | none => []
    | some replicated => if replicated.active then [(slot, replicated.entity)] else []

/-- What `upsert_replicated` adds to it; index entries that lead to no active slot are forgotten first. -/
def destroyedByUpsert (core : ServerCore) (registry : Registry) (entity : Entity) (archetype : SyncArchetypeId) :
    List (Nat × Entity) :=
  if core.settings.archetypes[archetype]?.isNone || !registry.alive entity ||
    (core.entityToReplicatedIndex entity).isNone then
    destroyedByIndex core entity.index
  else []

end ReplicationServer

structure Rediscovery where
  server : ReplicationServer
  destroyedSlots : List (Nat × Entity) := []

namespace Rediscovery

def deactivateEntityIndex (r : Rediscovery) (entityIndex : Nat) : Rediscovery where
  server := r.server.deactivateEntityIndex entityIndex
  destroyedSlots := r.destroyedSlots ++ ReplicationServer.destroyedByIndex r.server.core entityIndex

def upsert (r : Rediscovery) (registry : Registry) (entity : Entity) : Except StdException Rediscovery :=
  match registry.replicated entity with
  | none => .ok r
  | some archetype => (r.server.upsertReplicated registry entity archetype).map fun server => {
      server
      destroyedSlots :=
        r.destroyedSlots ++ ReplicationServer.destroyedByUpsert r.server.core registry entity archetype }

def upsertAll (r : Rediscovery) (registry : Registry) (entities : List Entity) : Except StdException Rediscovery :=
  entities.foldlM (fun r entity => r.upsert registry entity) r

end Rediscovery

/-- `rediscover_replicated_entities`, with the slots it destroys. -/
def ReplicationServer.rediscovered (server : ReplicationServer) (registry : Registry) (dirty : DirtyView) :
    Except StdException Rediscovery :=
  let r : Rediscovery := { server }
  if !server.core.replicatedInitialized then
    (r.upsertAll registry registry.replicatedView).map fun r => { r with server := r.server.setInitialized }
  else do
    let r := (dirty.removed .replicated).foldl (fun r entity => r.deactivateEntityIndex entity.index) r
    let r ← r.upsertAll registry (dirty.added .replicated)
    r.upsertAll registry (dirty.dirty .replicated)

structure ServerRegistryDirtyFrame where
  core : ServerCore
  registry : Registry
  dirty : DirtyView
  cues : List QueuedSyncCue
  destroyedSlots : List (Nat × Entity)

/-- What `on_registry_dirty_frame` broadcasts for a frame. -/
def ReplicationServer.dirtyFrame (server : ReplicationServer) (frame : SyncFrame) (registry : Registry)
    (dirty : DirtyView) (cues : List QueuedSyncCue) : Except StdException ServerRegistryDirtyFrame := do
  let r ← ({ server with core := { server.core with frame } } : ReplicationServer).rediscovered registry dirty
  return {
    core := captureDirtyGenerations r.server.core dirty, registry, dirty, cues
    destroyedSlots := r.destroyedSlots }

/-! ## What is written -/

def replayIdForSlot (slot : Nat) : Nat := (slot + 1) % 2 ^ 32

def invalidReplaySlot : Nat := 2 ^ 32 - 1

/-- `replay_network_id_for_entity` -/
def replayNetworkIdForEntity (core : ServerCore) (entity : Entity) : Nat :=
  match core.entityToReplicatedIndex entity with
  | none => 0
  | some slot => if core.replicatedSlotActive slot then replayIdForSlot slot else 0

def RecordWriter.bitsWith (networkIdFor : Entity → Nat) : RecordWriter → Bits
  | .done bits => bits
  | .lookup entity next => (next (networkIdFor entity)).bitsWith networkIdFor

def replaySerialized (core : ServerCore) (references : Bool) (writer : RecordWriter) : Bits :=
  writer.bitsWith fun entity => if references then replayNetworkIdForEntity core entity else 0

/-- `replay_tag_mask` -/
def replayTagMask (registry : Registry) (archetype : SyncArchetype) (entity : Entity) : Mask :=
  archetype.tags.zipIdx.foldl (fun mask (t, i) =>
    if registry.hasTag entity t.tag then mask ||| BitVec.twoPow 64 i else mask) 0

def quantizeReplayComponent (registry : Registry) (entity : Entity) (data : QuantizedFrameData)
    (component : ComponentReplication × Nat) : QuantizedFrameData :=
  match registry.get entity component.1.component with
  | none => data
  | some value => writeFrameComponent data component.2 (component.1.ops.quantize value)

/-- `quantize_replay_entity` -/
def quantizeReplayEntity (registry : Registry) (archetype : SyncArchetype) (entity : Entity) :
    Option QuantizedFrameData := do
  let data ← initFrameData archetype
  let data := if hasTagSlot archetype then { data with tagMask := replayTagMask registry archetype entity } else data
  let data := archetype.components.zipIdx.foldl (quantizeReplayComponent registry entity) data
  if data.presentMask = 0 && !hasTagSlot archetype then none else some data

/-! ## Cues -/

structure PendingReplayCueEntry where
  ownerReplayId : Nat
  frame : SyncFrame
  type : SyncCueTypeId
  relevanceSeconds : Float32Bits
  onlyReplicateToOwner : Bool
  payload : Bits
  deriving DecidableEq, Repr

/-- One cue of `append_cue_entries`. -/
def pendingReplayCueEntry (core : ServerCore) (cue : QueuedSyncCue) : Option PendingReplayCueEntry :=
  match core.settings.cueOps[cue.type]?, ReplicationServer.cueExpireFrame core.options.floats cue with
  | some ops, some _ =>
    let payload := match cue.value with
      | none => cue.payload
      | some value => replaySerialized core ops.referencesEntities (ops.serialize value)
    if payload.length > maxCuePayloadBits then none
    else some {
      ownerReplayId := (core.entityToReplicatedIndex cue.entity).elim 0 replayIdForSlot
      frame := cue.frame, type := cue.type, relevanceSeconds := cue.relevanceSeconds
      onlyReplicateToOwner := cue.onlyReplicateToOwner, payload }
  | _, _ => none

/-- `append_cue_entries` -/
def appendCueEntries (core : ServerCore) (cues : List QueuedSyncCue) (out : List PendingReplayCueEntry) :
    List PendingReplayCueEntry :=
  out ++ (cues.take (2 ^ 16 - 1)).filterMap (pendingReplayCueEntry core)

def PendingReplayCueEntry.bits (syncFrame : SyncFrame) (cue : PendingReplayCueEntry) : Bits :=
  unsignedBits cue.ownerReplayId 32 ++ writeCueFrame syncFrame cue.frame ++ unsignedBits cue.type 16 ++
    unsignedBits cue.relevanceSeconds.toNat 32 ++ [cue.onlyReplicateToOwner] ++
      unsignedBits cue.payload.length 16 ++ cue.payload

/-- `write_cue_entries` -/
def writeCueEntries (syncFrame : SyncFrame) (cues : List PendingReplayCueEntry) : Bits :=
  (cues.filter fun cue => decide (cue.payload.length ≤ maxCuePayloadBits)).flatMap
    (fun cue => true :: cue.bits syncFrame) ++ [false]

/-! ## Records -/

def replayComponentRecord (core : ServerCore) (data : QuantizedFrameData) (component : ComponentReplication × Nat) :
    Option Bits :=
  (frameComponentData data component.2).map fun current =>
    let payload := replaySerialized core component.1.ops.referencesEntities
      (component.1.ops.serialize none current { currentFrame := core.frame, previousFrame := 0 })
    unsignedBits component.2 16 ++ unsignedBits (min payload.length (2 ^ 16 - 1)) 16 ++ payload

def replayUpdateBody (core : ServerCore) (archetypeId : SyncArchetypeId) (archetype : SyncArchetype)
    (data : QuantizedFrameData) : Bits :=
  let components := archetype.components.zipIdx.filterMap (replayComponentRecord core data)
  unsignedBits archetypeId 32 ++ unsignedBits data.tagMask.toNat 64 ++ unsignedBits data.presentMask.toNat 64 ++
    unsignedBits components.length 16 ++ components.flatten

def replayRecordHeader (destroy : Bool) (slot : Nat) : Bits := destroy :: unsignedBits (replayIdForSlot slot) 32

/-- What stands behind the header of an active slot; nothing, when there is nothing to write. -/
def replaySlotBody (core : ServerCore) (registry : Registry) (slot : Nat) : Option Bits :=
  match core.replicated[slot]? with
  | none => none
  | some replicated =>
    match core.settings.archetypes[replicated.archetype]? with
    | none => none
    | some archetype => (quantizeReplayEntity registry archetype replicated.entity).map
        (replayUpdateBody core replicated.archetype archetype)

/-- The loop over the destroyed slots of a delta: the records, `emitted_destroyed_slots` and `record_count`. -/
def writeDestroyedSlots (core : ServerCore) : List (Nat × Entity) → List Nat → Nat → Bits × List Nat × Nat
  | [], emitted, count => ([], emitted, count)
  | (slot, _) :: rest, emitted, count =>
    if count = 2 ^ 16 - 1 then ([], emitted, count)
    else if emitted.contains slot then writeDestroyedSlots core rest emitted count
    else
      let (bits, emitted, count) :=
        writeDestroyedSlots core rest (if slot < core.replicated.length then slot :: emitted else emitted) (count + 1)
      (replayRecordHeader true slot ++ bits, emitted, count)

/-- The loop over `slots`: the records and `record_count`.  The header of an active slot is written before it is known
whether a record follows. -/
def writeSlots (core : ServerCore) (registry : Registry) (full : Bool) (emitted : List Nat) :
    List Nat → Nat → Bits × Nat
  | [], count => ([], count)
  | slot :: rest, count =>
    if slot = invalidReplaySlot || slot ≥ core.replicated.length then writeSlots core registry full emitted rest count
    else if !core.replicatedIsReplicable registry slot && (full || emitted.contains slot) then
      writeSlots core registry full emitted rest count
    else if count = 2 ^ 16 - 1 then ([], count)
    else if !core.replicatedIsReplicable registry slot then
      let (bits, count) := writeSlots core registry full emitted rest (count + 1)
      (replayRecordHeader true slot ++ bits, count)
    else
      match replaySlotBody core registry slot with
      | none =>
        let (bits, count) := writeSlots core registry full emitted rest count
        (replayRecordHeader false slot ++ bits, count)
      | some body =>
        let (bits, count) := writeSlots core registry full emitted rest (count + 1)
        (replayRecordHeader false slot ++ body ++ bits, count)

/-! ## The writer -/

/-- `ReplicationReplayWriter`, with its options; `write` is given what `onServerRegistryDirtyFrame` returns. -/
structure ReplicationReplayWriter where
  fullFrameIntervalFrames : SyncFrame := 60
  writeIntervalFrames : SyncFrame := 1
  pending : ReplayWriterSlots := {}
  pendingDestroyedSlots : List (Nat × Entity) := []
  pendingCues : List PendingReplayCueEntry := []
  hasWritten : Bool := false
  lastFullFrame : SyncFrame := 0
  deriving DecidableEq, Repr

namespace ReplicationReplayWriter

/-- What `on_server_registry_dirty_frame` takes over from a dirty frame. -/
def collect (writer : ReplicationReplayWriter) (frame : ServerRegistryDirtyFrame) : ReplicationReplayWriter :=
  { writer with
    pendingCues := appendCueEntries frame.core frame.cues writer.pendingCues
    pendingDestroyedSlots := writer.pendingDestroyedSlots ++ frame.destroyedSlots
    pending := writer.pending.collectDirtySlots frame.core frame.dirty }

def writeDue (writer : ReplicationReplayWriter) (syncFrame : SyncFrame) : Bool :=
  !writer.hasWritten || decide (writer.writeIntervalFrames ≤ 1) || syncFrame % writer.writeIntervalFrames == 0

def fullDue (writer : ReplicationReplayWriter) (syncFrame : SyncFrame) : Bool :=
  !writer.hasWritten || writer.fullFrameIntervalFrames != 0 &&
    decide (writer.fullFrameIntervalFrames ≤ (syncFrame + 2 ^ 32 - writer.lastFullFrame) % 2 ^ 32)

def fullSlots (frame : ServerRegistryDirtyFrame) : List Nat :=
  (List.range frame.core.replicated.length).filter (frame.core.replicatedIsReplicable frame.registry)

def replayFrame (writer : ReplicationReplayWriter) (frame : ServerRegistryDirtyFrame) : ReplicationReplayFrame :=
  let full := writer.fullDue frame.core.frame
  let (destroyed, emitted, count) :=
    if full then ([], [], 0) else writeDestroyedSlots frame.core writer.pendingDestroyedSlots [] 0
  let (records, count) := writeSlots frame.core frame.registry full emitted
    (if full then fullSlots frame else writer.pending.pendingSlots) count
  { frame := frame.core.frame
    kind := if full then .full else .delta
    payload := unsignedBits count 16 ++ destroyed ++ records ++ writeCueEntries frame.core.frame writer.pendingCues }

def written (writer : ReplicationReplayWriter) (syncFrame : SyncFrame) : ReplicationReplayWriter :=
  { writer with
    pending := {
      pendingDirtySlots := writer.pending.pendingDirtySlots.map fun _ => false
      pendingSlots := [] }
    pendingDestroyedSlots := []
    pendingCues := []
    hasWritten := true
    lastFullFrame := if writer.fullDue syncFrame then syncFrame else writer.lastFullFrame }

/-- `on_server_registry_dirty_frame` -/
def onServerRegistryDirtyFrame (writer : ReplicationReplayWriter) (frame : ServerRegistryDirtyFrame) :
    ReplicationReplayWriter × Option ReplicationReplayFrame :=
  let writer := writer.collect frame
  if writer.writeDue frame.core.frame then (writer.written frame.core.frame, some (writer.replayFrame frame))
  else (writer, none)

end ReplicationReplayWriter

/-! ## The cues of a frame -/

/-- One entry of `apply_cues`. -/
def readCueEntry (replayFrame : SyncFrame) : Reader PendingReplayCueEntry := do
  let ownerReplayId ← readBits 32
  let frame ← readCueFrame replayFrame
  let type ← readBits 16
  let relevanceSeconds ← readBits 32
  let onlyReplicateToOwner ← readBit
  let count ← readBits 16
  let payload ← readBufferBits count
  pure {
    ownerReplayId, frame, type, onlyReplicateToOwner, payload
    relevanceSeconds := BitVec.ofNat 32 relevanceSeconds }

/-- What `apply_cues` enqueues of an entry. -/
def replayedCue (settings : SyncSettings) (entities : List (Nat × Entity)) (entry : PendingReplayCueEntry) :
    Option QueuedSyncCue :=
  match entities.lookup entry.ownerReplayId, settings.cueOps[entry.type]? with
  | some entity, some ops =>
    let cue : QueuedSyncCue := {
      entity, frame := entry.frame, type := entry.type, relevanceSeconds := entry.relevanceSeconds
      payload := entry.payload, value := none, onlyReplicateToOwner := entry.onlyReplicateToOwner }
    if !ops.referencesEntities then some cue
    else
      match ops.deserialize with
      | none => none
      | some deserialize =>
        (replayDeserialized entities true
          (deserialize entry.payload { currentFrame := entry.frame, previousFrame := 0 })).map
          fun value => { cue with payload := [], value := some value }
  | _, _ => none

/-- The loop of `apply_cues`: the cues it hands to the dispatcher, and whether the entries end.  Each entry takes a bit.
-/
def applyCueEntries (settings : SyncSettings) (entities : List (Nat × Entity)) (replayFrame : SyncFrame) :
    Nat → Bits → List QueuedSyncCue × Bool
  | 0, _ => ([], false)
  | fuel + 1, stream =>
    match readBit stream with
    | none => ([], false)
    | some (false, _) => ([], true)
    | some (true, stream) =>
      match readCueEntry replayFrame stream with
      | none => ([], false)
      | some (entry, stream) =>
        let (cues, ended) := applyCueEntries settings entities replayFrame fuel stream
        ((replayedCue settings entities entry).toList ++ cues, ended)

/-- `apply_cues` -/
def applyCues (settings : SyncSettings) (entities : List (Nat × Entity)) (replayFrame : SyncFrame) (stream : Bits) :
    List QueuedSyncCue × Bool :=
  applyCueEntries settings entities replayFrame stream.length stream

/-- `apply_frame` with its cues: the result, the world, and what the dispatcher is given. -/
def ReplayWorld.applyFrameWithCues {R : Type} [ReplayRegistry R] (world : ReplayWorld R)
    (frame : ReplicationReplayFrame) :
    Bool × ReplayWorld R × List QueuedSyncCue :=
  match readBits 16 frame.payload with
  | none => (false, world, [])
  | some (count, stream) =>
    match world.applyRecords frame.frame count [] stream with
    | (world, _, none) => (false, world, [])
    | (world, fullReplayIds, some rest) =>
      let world := if frame.kind = .full then world.destroyStale fullReplayIds else world
      let (cues, ended) := applyCues world.server.core.settings world.entities frame.frame rest
      (ended, world, cues)

end AshiatoSync
