import AshiatoSync.ClientCues
import AshiatoSync.UpdateReader

/-!
# Applying update packets on the client

`applyUpdate` reads the records of a packet and applies each one in the mode of
its entity.  A rejected record ends the packet: what was applied before it stays,
and the packet is not acknowledged.
-/

namespace AshiatoSync

namespace ReplicationClient

section

variable {R : Type} [LocalRegistry R]

open LocalRegistry

abbrev Applied (R : Type) := ReplicationClient R × Option String

/-! ## Entity states -/

/-- `erase_entity_state` -/
def eraseEntityState (client : ReplicationClient R) (e : Nat) (destroyLocal : Bool) : ReplicationClient R :=
  match client.store.entities[e]? with
  | none => client
  | some state =>
    if state.clientEntityNetworkId = invalidClientEntityNetworkId then client
    else
      let registry := match state.localEntity with
        | some entity =>
          if destroyLocal && alive client.registry entity then destroy client.registry entity else client.registry
        | none => client.registry
      { ((client.setBufferedRing e []).setPredictedRing e []) with
        registry
        store := (client.store.unmapEntityState e).releaseEntityState e
        cueStore := client.cueStore.eraseForEntity e }

/-- `record_authoritative_present` with its membership update; `call` becomes the ghost entry of the stored record. -/
def recordPresent (client : ReplicationClient R) (e : Nat) (call : UpsertCall)
    (replacement : Option QuantizedFrameData) : ReplicationClient R :=
  let client :=
    (client.modifyEntity e
      (·.recordAuthoritativePresent call.frame call.archetype replacement)).syncEntityMemberships e
  client.logCall (.upsert { call with
    after := client.entity e
    shown := match client.archetypeOf e with
      | none => []
      | some definition => shownOn client.registry definition (client.entity e).localEntity })

/-- `record_authoritative_absent` with its membership update. -/
def recordAbsent (client : ReplicationClient R) (e : Nat) (frame : SyncFrame) : ReplicationClient R :=
  (client.modifyEntity e (·.recordAuthoritativeAbsent frame)).syncEntityMemberships e

/-- `ClientBufferedRuntime::ensure_entity` -/
def ensureBufferedRing (client : ReplicationClient R) (e : Nat) : ReplicationClient R :=
  client.setBufferedRing e ((client.bufferedRuntime.rings e).ensure client.options.bufferedFrameCapacity)

/-- `ClientPredictionRuntime::ensure_entity` -/
def ensurePredictedRing (client : ReplicationClient R) (e : Nat) : ReplicationClient R :=
  client.setPredictedRing e ((client.prediction.predictedFrames e).ensure client.options.predictionFrameCapacity)

/-- `validate_predicted_archetype`; where the source throws, the answer is also no. -/
def validatePredictedArchetype (client : ReplicationClient R) (archetype : SyncArchetypeId) : Bool :=
  match client.settings.archetypes[archetype]? with
  | none => false
  | some definition => definition.components.all fun c => c.ops.shouldRollBack.isSome

def applyPassedSample (client : ReplicationClient R) (e : Nat) (frame : SyncFrame) : ReplicationClient R × Bool :=
  match (client.bufferedRuntime.rings e).view frame with
  | none => (client, false)
  | some sample => client.applyBufferedSample e sample

def passed (client : ReplicationClient R) (frame : SyncFrame) : Bool :=
  client.bufferedRuntime.hasAppliedBufferedFrame && decide (frame ≤ client.bufferedRuntime.lastAppliedBufferedFrame)

/-! ## Upserts by mode -/

def removeStaleTags (client : ReplicationClient R) (e : Nat) (archetype : SyncArchetypeId) (full : Bool) :
    ReplicationClient R :=
  match (client.entity e).localEntity, client.archetypeOf e with
  | some entity, some previous =>
    if full && alive client.registry entity && (client.entity e).archetype != archetype then
      { client with registry := removeArchetypeTags entity previous client.registry }
    else client
  | _, _ => client

/-- `apply_snap_upsert` -/
def applySnapUpsert (client : ReplicationClient R) (e : Nat) (call : UpsertCall) (metadata : UpsertMetadata)
    (record : AuthoritativeUpsertRecord) (componentApplyMask : Mask) : Applied R :=
  let client := (client.removeStaleTags e metadata.archetype metadata.isFullUpsert).modifyEntity e fun s =>
    { s with archetype := metadata.archetype }
  match client.applySnapSample e record.authoritative componentApplyMask with
  | (client, false) => (client, some "snap_apply_sample_failed")
  | (client, true) =>
    ((client.playSnap e record.receivedCues).recordPresent e call
      (if metadata.isFullUpsert then none else some record.authoritative), none)

/-- `apply_buffered_upsert` -/
def applyBufferedUpsert (client : ReplicationClient R) (call : UpsertCall) (metadata : UpsertMetadata)
    (decoded : QuantizedFrameData) : Applied R :=
  if !client.validateBufferedArchetype metadata.archetype then (client, some "buffered_invalid_archetype")
  else
    match client.store.findByClientEntityNetworkId metadata.clientEntityNetworkId with
    | none => (client, some "buffered_missing_entity_state")
    | some (e, _) =>
      let client := (client.modifyEntity e fun s =>
        { s.markModeSelected .bufferedInterpolation with archetype := metadata.archetype }).ensureBufferedRing e
      match client.fillBufferedFrames e metadata.frame (some decoded) with
      | (client, false) => (client, some "buffered_fill_frames_failed")
      | (client, true) =>
        let client := client.recordPresent e call (some decoded)
        if client.passed metadata.frame then
          match client.applyPassedSample e metadata.frame with
          | (client, false) => (client, some "buffered_apply_sample_failed")
          | (client, true) => (client, none)
        else (client, none)

/-- `compare_predicted_frame` -/
def comparePredictedFrame (client : ReplicationClient R) (e : Nat) (frame : SyncFrame)
    (authoritative : QuantizedFrameData) : Bool :=
  match client.archetypeOf e, (client.prediction.predictedFrames e).view frame with
  | some archetype, some predicted =>
    !predicted.entityPresent || predicted.baseline.tagMask != authoritative.tagMask ||
      predicted.baseline.presentMask != authoritative.presentMask ||
      decide (authoritative.bytes.length < archetype.components.length) ||
      archetype.components.zipIdx.any fun (c, i) =>
        match frameComponentData authoritative i, c.ops.shouldRollBack with
        | some bytes, some shouldRollBack => shouldRollBack ((predicted.baseline.bytes[i]?).getD []) bytes
        | _, _ => false
  | _, _ => false

/-- `refresh_pending_rollback_frame` -/
def refreshPendingRollbackFrame (client : ReplicationClient R) : ReplicationClient R :=
  let frames := (client.store.members .predictionRollback).filterMap fun e =>
    match client.store.entities[e]? with
    | none => none
    | some state => if !state.rollbackPending || state.rollbackFrame = 0 then none else some state.rollbackFrame
  { client with prediction := { client.prediction with
      hasPendingRollback := !frames.isEmpty, pendingRollbackFrame := frames.min?.getD 0 } }

/-- `queue_rollback` -/
def queueRollback (client : ReplicationClient R) (e : Nat) (frame : SyncFrame) : ReplicationClient R :=
  ({ client with store := client.store.queuePredictionRollback e frame }).refreshPendingRollbackFrame

/-- `seed_first_authoritative_frame`; filling the input frames always succeeds. -/
def seedFirstAuthoritativeFrame (client : ReplicationClient R) (frame : SyncFrame) : ReplicationClient R :=
  if client.prediction.hasPredictedFrame then client
  else { client with prediction := { client.prediction with
      hasPredictedFrame := true, lastPredictedFrame := if frame ≠ 0 then frame - 1 else 0 } }

/-- `seed_existing_authoritative_frame` -/
def seedExistingAuthoritativeFrame (client : ReplicationClient R) (frame : SyncFrame) : ReplicationClient R :=
  if client.prediction.hasPredictedFrame then client
  else { client with prediction := { client.prediction with hasPredictedFrame := true, lastPredictedFrame := frame } }

def shows (client : ReplicationClient R) (e : Nat) : Bool :=
  match (client.entity e).localEntity with
  | some entity => alive client.registry entity
  | none => false

/-- `apply_predicted_upsert` -/
def applyPredictedUpsert (client : ReplicationClient R) (call : UpsertCall) (metadata : UpsertMetadata)
    (authoritative : QuantizedFrameData) : Applied R :=
  if !client.validatePredictedArchetype metadata.archetype then (client, some "predicted_invalid_archetype")
  else
    match client.store.findByClientEntityNetworkId metadata.clientEntityNetworkId with
    | none => (client, some "predicted_missing_entity_state")
    | some (e, state) =>
      let client := client.ensurePredictedRing e
      if (client.archetypeOf e).isSome && client.shows e && state.archetype != metadata.archetype then
        (client, some "predicted_archetype_mismatch")
      else
        let client := client.modifyEntity e fun s =>
          { s.markModeSelected .predict with archetype := metadata.archetype }
        let firstAuthoritative := state.frame == 0 || !client.shows e
        let client :=
          if client.comparePredictedFrame e metadata.frame authoritative then client.queueRollback e metadata.frame
          else client
        let client := client.recordPresent e call (some authoritative)
        match if firstAuthoritative then client.applyFrameData e metadata.frame true authoritative
          else (client, true) with
        | (client, false) => (client, some "predicted_first_apply_frame_failed")
        | (client, true) => (client.seedFirstAuthoritativeFrame metadata.frame, none)

/-- `apply_upsert_for_mode` -/
def applyUpsertForMode (client : ReplicationClient R) (e : Nat) (call : UpsertCall) (metadata : UpsertMetadata)
    (record : AuthoritativeUpsertRecord) (componentApplyMask : Mask) : Applied R :=
  match (client.entity e).mode with
  | .bufferedInterpolation =>
    match client.applyBufferedUpsert call metadata record.authoritative with
    | (client, some reason) => (client, some reason)
    | (client, none) => (client.storeAuthoritativeBuffered e metadata.frame record.receivedCues, none)
  | .predict =>
    match client.applyPredictedUpsert call metadata record.authoritative with
    | (client, some reason) => (client, some reason)
    | (client, none) => (client.reconcileAuthoritativePredicted e record.receivedCues metadata.frame, none)
  | .snap => client.applySnapUpsert e call metadata record componentApplyMask

/-! ## Upserts -/

def snapApplyMask (definition : SyncArchetype) (state : EntityState) (metadata : UpsertMetadata)
    (record : AuthoritativeUpsertRecord) : Mask :=
  if state.mode = .snap ∧ state.frame ≠ 0 ∧ state.archetype = metadata.archetype then
    if !metadata.isFullUpsert && metadata.baselineFrame == state.frame then record.changedSyncSlots >>> 1
    else changedPresentComponentMask definition state.baseline record.authoritative
  else record.authoritative.presentMask

/-- `apply_upsert_record` -/
def applyUpsertRecord (client : ReplicationClient R) (e : Nat) (call : UpsertCall) (metadata : UpsertMetadata)
    (record : AuthoritativeUpsertRecord) : Applied R :=
  match client.settings.archetypes[metadata.archetype]? with
  | none => (client, some "mode_apply_failed")
  | some definition =>
    client.applyUpsertForMode e call metadata record (snapApplyMask definition (client.entity e) metadata record)

/-- `build_upsert_mode_selector_updates` -/
def modeSelectorUpdates (definition : SyncArchetype) (record : AuthoritativeUpsertRecord) :
    List (ComponentId × Bytes) :=
  definition.components.zipIdx.filterMap fun (c, i) =>
    if record.changedSyncSlots.getLsbD (i + 1) then
      (frameComponentData record.authoritative i).map fun bytes => (c.component, bytes)
    else none

def modeNeedsSelection (client : ReplicationClient R) (metadata : UpsertMetadata) : Bool :=
  metadata.previousAbsent || match metadata.foundState with
    | none => true
    | some e => !(client.entity e).modeSelected

/-- `select_entity_mode` of a state that needs it, with the view `ensure_upsert_entity` builds. -/
def selectEntityMode (client : ReplicationClient R) (metadata : UpsertMetadata) (record : AuthoritativeUpsertRecord) :
    ReplicationClientMode :=
  match client.options.modeSelector with
  | none => client.options.defaultMode
  | some selector => selector {
      clientEntityNetworkId := metadata.clientEntityNetworkId
      localEntity := metadata.foundState.bind fun e => (client.entity e).localEntity
      archetype := metadata.archetype, frame := metadata.frame, tagMask := record.authoritative.tagMask
      components := match client.settings.archetypes[metadata.archetype]? with
        | none => []
        | some definition => modeSelectorUpdates definition record }

/-- `ensure_upsert_entity`; the `Predict` check that throws ends the packet. -/
def ensureUpsertEntity (client : ReplicationClient R) (metadata : UpsertMetadata) (record : AuthoritativeUpsertRecord) :
    ReplicationClient R × Except String Nat :=
  let needsSelection := client.modeNeedsSelection metadata
  let mode := if needsSelection then client.selectEntityMode metadata record else client.options.defaultMode
  if needsSelection && decide (mode = .predict) && !client.validatePredictedArchetype metadata.archetype then
    (client, .error "missing_prediction_rollback_trait")
  else
    match client.store.ensureEntityState metadata.clientEntityNetworkId metadata.wireNetworkId with
    | (store, none) => ({ client with store }, .error "ensure_entity_state_failed")
    | (store, some e) =>
      let client := { client with store }
      (if needsSelection then client.modifyEntity e (·.markModeSelected mode) else client, .ok e)

/-- `finish_upsert` -/
def finishUpsert (client : ReplicationClient R) (metadata : UpsertMetadata) : ReplicationClient R :=
  if metadata.isFullUpsert then
    { client with store := { client.store with
        destroyTombstones := client.store.destroyTombstones.erase metadata.wireNetworkId } }
  else client

/-- The ghost entry of a record, before it is stored. -/
def upsertCall (client : ReplicationClient R) (e : Nat) (metadata : UpsertMetadata)
    (record : AuthoritativeUpsertRecord) : UpsertCall where
  wireNetworkId := metadata.wireNetworkId
  clientEntityNetworkId := metadata.clientEntityNetworkId
  frame := metadata.frame
  baselineFrame := if metadata.isFullUpsert then none else some metadata.baselineFrame
  archetype := metadata.archetype
  index := e
  before := client.entity e
  decoded := record.authoritative

/-- The part of `apply_upsert` after its reads. -/
def applyUpsert (client : ReplicationClient R) (metadata : UpsertMetadata) (record : AuthoritativeUpsertRecord) :
    Applied R :=
  match client.ensureUpsertEntity metadata record with
  | (client, .error reason) => (client, some reason)
  | (client, .ok e) =>
    let call := client.upsertCall e metadata record
    let client :=
      if metadata.isFullUpsert then client
      else client.modifyEntity e (·.protectReferencedBaseline metadata.baselineFrame)
    match client.applyUpsertRecord e call metadata record with
    | (client, some reason) => (client, some reason)
    | (client, none) => (client.finishUpsert metadata, none)

/-! ## Destroys -/

def applyImmediateDestroy (client : ReplicationClient R) (e : Nat) (state : EntityState) (frame : SyncFrame)
    (reason : String) : Applied R :=
  if frame ≤ state.frame then (client, some reason) else (client.eraseEntityState e true, none)

/-- `apply_buffered_destroy` -/
def applyBufferedDestroy (client : ReplicationClient R) (e : Nat) (frame : SyncFrame) : Applied R :=
  let client := (client.modifyEntity e (·.markModeSelected .bufferedInterpolation)).ensureBufferedRing e
  match client.fillBufferedFrames e frame none with
  | (client, false) => (client, some "buffered_destroy_fill_frames_failed")
  | (client, true) =>
    let client := client.recordAbsent e frame
    if client.passed frame then
      match client.applyPassedSample e frame with
      | (client, false) => (client, some "buffered_destroy_apply_sample_failed")
      | (client, true) => (client.eraseEntityState e false, none)
    else (client, none)

/-- `apply_destroy_for_mode`; the handlers find the state again by the id it was found with. -/
def applyDestroyForMode (client : ReplicationClient R) (state : EntityState) (frame : SyncFrame) : Applied R :=
  match state.mode with
  | .bufferedInterpolation =>
    match client.store.findByClientEntityNetworkId state.clientEntityNetworkId with
    | none => (client, some "buffered_destroy_missing_entity_state")
    | some (e, _) => client.applyBufferedDestroy e frame
  | .predict =>
    match client.store.findByClientEntityNetworkId state.clientEntityNetworkId with
    | none => (client, some "predicted_destroy_missing_entity_state")
    | some (e, state) => client.applyImmediateDestroy e state frame "predicted_destroy_stale_frame"
  | .snap =>
    if frame ≤ state.frame then (client, some "snap_destroy_stale_frame")
    else
      match client.store.clientEntityIndices state.clientEntityNetworkId with
      | none => (client, none)
      | some e => (client.eraseEntityState e true, none)

/-- `advance_wire_network_id_version` -/
def advanceWireNetworkIdVersion (client : ReplicationClient R) (wireNetworkId : Nat) : ReplicationClient R :=
  if wireNetworkId = 0 ∨ wireNetworkId > maxClientLocalWireNetworkId then client
  else { client with store := client.store.advanceWireVersion wireNetworkId }

def recordDestroyTombstone (client : ReplicationClient R) (wireNetworkId : Nat) (frame : SyncFrame) :
    ReplicationClient R × DestroyTombstoneRecordResult :=
  let r := client.store.destroyTombstones.record wireNetworkId frame
  ({ client with store := { client.store with destroyTombstones := r.1 } }, r.2)

/-- The ghost entry of an applied destroy. -/
def destroyCall (client : ReplicationClient R) (wireNetworkId : Nat) (frame : SyncFrame) (found : Option EntityState) :
    ClientCall :=
  .destroy {
    wireNetworkId, frame, found
    tombstone := (client.store.destroyTombstones.tombstones.lookup wireNetworkId).map DestroyTombstone.frame
    version := (client.store.wireNetworkIds wireNetworkId).version }

/-- `apply_destroy` -/
def applyDestroy (client : ReplicationClient R) (frame : SyncFrame) (wireNetworkId : Nat) : Applied R :=
  match client.store.findByWireId wireNetworkId with
  | none =>
    match client.recordDestroyTombstone wireNetworkId frame with
    | (_, .ignored) => (client, some "destroy_tombstone_ignored")
    | (recorded, .inserted) =>
      ((recorded.advanceWireNetworkIdVersion wireNetworkId).logCall (client.destroyCall wireNetworkId frame none), none)
    | (recorded, .updated) => (recorded.logCall (client.destroyCall wireNetworkId frame none), none)
  | some (_, state) =>
    match client.applyDestroyForMode state frame with
    | (applied, some reason) => (applied, some reason)
    | (applied, none) =>
      (((applied.recordDestroyTombstone wireNetworkId frame).1.advanceWireNetworkIdVersion wireNetworkId).logCall
        (client.destroyCall wireNetworkId frame (some state)), none)

end

end ReplicationClient

/-! ## Packets -/

namespace ReadM

variable {R : Type}

def apply (f : ReplicationClient R → ReplicationClient R × Option String) : ReadM R Unit := fun (client, stream) =>
  match f client with
  | (client, none) => .ok () (client, stream)
  | (client, some reason) => .error reason (client, stream)

def inRecord (i : Nat) (m : ReadM R Unit) : ReadM R Unit := fun s =>
  match m s with
  | .ok a s => .ok a s
  | .error reason s => .error ("record_" ++ toString i ++ "_" ++ reason) s

end ReadM

section

variable {R : Type} [LocalRegistry R]

open ReadM

/-- One record of `apply_update`. -/
def applyRecord (frame : SyncFrame) : ReadM R Unit := do
  let protocol := (← client).options.protocol
  let (destroy, wireNetworkId) ← field "record_header_read_failed" (do
    let destroy ← BitCodec.readBit
    let wireNetworkId ← readNetworkEntityId protocol.networkEntityIdTier0Bits
    pure (destroy, wireNetworkId))
  if wireNetworkId = 0 then throw "zero_wire_network_id"
  if destroy then ReadM.apply fun client => client.applyDestroy frame wireNetworkId
  else
    let (metadata, record) ← readUpsert frame wireNetworkId
    ReadM.apply fun client => client.applyUpsert metadata record

/-- The loop of `apply_update` from record number `i` on. -/
def applyRecords (frame : SyncFrame) : Nat → Nat → ReadM R Unit
  | 0, _ => pure ()
  | count + 1, i => do
    inRecord i (applyRecord frame)
    applyRecords frame count (i + 1)

/-- `apply_update`: the client after the packet, and whether it was applied. -/
def ReplicationClient.applyUpdate (client : ReplicationClient R) (packetId : Nat) (frame : SyncFrame)
    (recordCount : Nat) (bits : Bits) : ReplicationClient R × Option String :=
  match applyRecords frame recordCount 0 (client, bits) with
  | .error reason (client, _) => (client, some reason)
  | .ok () (client, _) =>
    if recordCount = 0 then (client, some "empty_update")
    else ({ client with ackQueue := client.ackQueue ++ [packetId] }, none)

end

end AshiatoSync
