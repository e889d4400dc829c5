import AshiatoSync.ClientApply
import AshiatoSync.Lib.BitCodec

/-!
# Reading update records on the client

`readUpdateRecord` is what `apply_update` and `apply_upsert` read of one record:
its wire id, its metadata, its components and its cues.  A rejected record ends
the packet with the reason the source gives.
-/

namespace AshiatoSync

open BitCodec

/-- Reading a packet: the client, whose wire versions a callback may touch, and the bits left. -/
abbrev ReadM (R : Type) := EStateM String (ReplicationClient R × Bits)

/-! ## Fields -/

/-- `read_varint3_raw` of a network id. -/
def readNetworkEntityId (tier0Bits : Nat) : Reader Nat := do
  let wide ← readBit
  if wide then
    let full ← readBit
    readBits (if full then networkEntityIdBits else networkEntityIdTier1Bits)
  else readBits tier0Bits

/-- A frame relative to the transmitted one, as `read_baseline_frame` and `read_cue_frame` take it. -/
def readFrameBack (deltaBits : Nat) (current : SyncFrame) : Reader SyncFrame := do
  let full ← readBit
  if full then readBits 32
  else
    let delta ← readBits deltaBits
    if delta > current then failure else pure (current - delta)

def readBaselineFrame : SyncFrame → Reader SyncFrame := readFrameBack baselineFrameDeltaBits
def readCueFrame : SyncFrame → Reader SyncFrame := readFrameBack cueFrameDeltaBits

/-- `sync_slot_bit` -/
def syncSlotBit (slot : Nat) : Mask := BitVec.twoPow 64 slot

/-! ## Records -/

structure UpsertMetadata where
  isFullUpsert : Bool
  frame : SyncFrame
  baselineFrame : SyncFrame := 0
  wireNetworkId : Nat
  clientEntityNetworkId : ClientEntityNetworkId
  archetype : SyncArchetypeId
  foundState : Option Nat
  previousBaseline : Option QuantizedFrameData := none
  previousAbsent : Bool

structure AuthoritativeUpsertRecord where
  authoritative : QuantizedFrameData := {}
  changedSyncSlots : Mask := 0
  receivedCues : List EntityCue := []

namespace ReadM

variable {R : Type}

def field {α : Type} (reason : String) (read : Reader α) : ReadM R α := fun (client, stream) =>
  match read stream with
  | some (a, rest) => .ok a (client, rest)
  | none => .error reason (client, stream)

def client : ReadM R (ReplicationClient R) := fun s => .ok s.1 s

def stream : ReadM R Bits := fun s => .ok s.2 s

def setClient (client : ReplicationClient R) : ReadM R Unit := fun s => .ok () (client, s.2)

/-- `client_entity_network_id_for_wire` of the client. -/
def networkIdForWire (wireNetworkId : Nat) : ReadM R ClientEntityNetworkId := fun (client, stream) =>
  let r := client.store.clientEntityNetworkIdForWire client.clientId wireNetworkId
  .ok r.2 ({ client with store := r.1 }, stream)

/-- Runs a deserializer; one that was given no reference context gets no ids and no entities. -/
def deserialized (references : Bool) (reason : String) : RecordReader → ReadM R Bytes
  | .fail => throw reason
  | .done bytes rest => fun s => .ok bytes (s.1, rest)
  | .networkIdForWire wireNetworkId next => do
    let id ← if references then networkIdForWire wireNetworkId else pure invalidClientEntityNetworkId
    deserialized references reason (next id)
  | .localEntity id next => do
    let client ← client
    deserialized references reason (next (if references then client.store.localEntity id else none))

/-- One component: its deserializer over the rest of the packet. -/
def component (c : ComponentReplication) (reason : String) (previous : Option Bytes)
    (context : SerializationContext) : ReadM R Bytes := do
  let bits ← stream
  deserialized c.ops.referencesEntities reason (c.ops.deserialize previous bits context)

end ReadM

section

variable {R : Type}

open ReadM

/-- `reset_previously_absent_entity` -/
def ReplicationClient.resetPreviouslyAbsentEntity (client : ReplicationClient R) (e : Nat)
    (archetype : SyncArchetypeId) : ReplicationClient R :=
  (({ client with cueStore := client.cueStore.eraseForEntity e }).modifyEntity e
    (·.resetAbsent archetype)).syncEntityMemberships e

/-- The part of `read_upsert_metadata` after the flag of a full record. -/
def readFullMetadata (frame : SyncFrame) (wireNetworkId : Nat) (id : ClientEntityNetworkId) :
    ReadM R UpsertMetadata := do
  if (← client).store.destroyTombstones.blocks wireNetworkId frame then throw "full_destroy_tombstone_blocked"
  let found := (← client).store.findByClientEntityNetworkId id
  let archetype ← field "full_archetype_read_failed" (readBits 32)
  if archetype ≥ (← client).settings.archetypes.length then throw "full_invalid_archetype"
  match found with
  | none =>
    return { isFullUpsert := true, frame, wireNetworkId, clientEntityNetworkId := id, archetype
             foundState := none, previousAbsent := false }
  | some (e, state) =>
    if !state.absent && state.entityPresent && state.archetype != archetype then throw "full_archetype_mismatch"
    if !state.absent && decide (frame ≤ state.frame) then throw "full_stale_frame"
    if state.absent then setClient ((← client).resetPreviouslyAbsentEntity e archetype)
    return { isFullUpsert := true, frame, wireNetworkId, clientEntityNetworkId := id, archetype
             foundState := some e, previousAbsent := state.absent }

/-- The part of `read_upsert_metadata` after the flag of a delta record. -/
def readDeltaMetadata (frame : SyncFrame) (wireNetworkId : Nat) (id : ClientEntityNetworkId) :
    ReadM R UpsertMetadata := do
  match (← client).store.findByWireId wireNetworkId with
  | none => throw "delta_missing_entity_state"
  | some (e, state) =>
    if state.absent then throw "delta_missing_entity_state"
    if state.archetype ≥ (← client).settings.archetypes.length then throw "delta_invalid_archetype"
    if frame ≤ state.frame then throw "delta_stale_frame"
    let baselineFrame ← field "delta_baseline_frame_read_failed" (readBaselineFrame frame)
    match state.findBaseline baselineFrame with
    | none => throw "delta_missing_baseline"
    | some baseline =>
      return { isFullUpsert := false, frame, baselineFrame, wireNetworkId, clientEntityNetworkId := id
               archetype := state.archetype, foundState := some e, previousBaseline := some baseline
               previousAbsent := false }

/-- `read_upsert_metadata` -/
def readUpsertMetadata (frame : SyncFrame) (wireNetworkId : Nat) : ReadM R UpsertMetadata := do
  let full ← field "full_flag_read_failed" readBit
  let id ← networkIdForWire wireNetworkId
  if id = invalidClientEntityNetworkId then throw "invalid_client_entity_network_id"
  if full then readFullMetadata frame wireNetworkId id else readDeltaMetadata frame wireNetworkId id

/-- `read_slot` of `decode_full_upsert_record_payload`. -/
def readSlot (definition : SyncArchetype) (frame : SyncFrame) (record : AuthoritativeUpsertRecord) (slot : Nat) :
    ReadM R AuthoritativeUpsertRecord := do
  if slot ≥ syncSlotCount definition then throw "full_sync_slot_out_of_range"
  if slot = 0 then
    if !hasTagSlot definition then throw "full_tag_slot_unavailable"
    let tagMask ← field "full_tag_mask_read_failed" (readBits definition.tags.length)
    return { record with
      authoritative := { record.authoritative with tagMask := BitVec.ofNat 64 tagMask }
      changedSyncSlots := record.changedSyncSlots ||| syncSlotBit slot }
  else
    match definition.components[slot - 1]? with
    | none => throw "full_component_ops_missing"
    | some c =>
      let bytes ← component c "full_component_deserialize_failed" none ⟨frame, 0⟩
      return { record with
        authoritative := writeFrameComponent record.authoritative (slot - 1) bytes
        changedSyncSlots := record.changedSyncSlots ||| syncSlotBit slot }

def readSlots (definition : SyncArchetype) (frame : SyncFrame) :
    List Nat → AuthoritativeUpsertRecord → ReadM R AuthoritativeUpsertRecord
  | [], record => pure record
  | slot :: slots, record => do
    let record ← readSlot definition frame record slot
    readSlots definition frame slots record

def readListedSlots (definition : SyncArchetype) (frame : SyncFrame) :
    Nat → AuthoritativeUpsertRecord → ReadM R AuthoritativeUpsertRecord
  | 0, record => pure record
  | count + 1, record => do
    let slot ← field "full_sync_slot_read_failed" (readBits (bitsForRange (syncSlotCount definition)))
    let record ← readSlot definition frame record slot
    readListedSlots definition frame count record

/-- `decode_full_upsert_record_payload` -/
def decodeFullUpsertRecordPayload (definition : SyncArchetype) (frame : SyncFrame)
    (record : AuthoritativeUpsertRecord) : ReadM R AuthoritativeUpsertRecord := do
  let usesPresenceMask ← field "full_presence_mask_flag_read_failed" readBit
  if usesPresenceMask then
    let presenceMask ← field "full_presence_mask_read_failed" (readBits (syncSlotCount definition))
    readSlots definition frame ((List.range (syncSlotCount definition)).filter presenceMask.testBit) record
  else
    let count ← field "full_component_count_read_failed" (readBits 16)
    readListedSlots definition frame count record

def readChangedComponents (definition : SyncArchetype) (context : SerializationContext)
    (baseline : QuantizedFrameData) :
    List Nat → AuthoritativeUpsertRecord → ReadM R AuthoritativeUpsertRecord
  | [], record => pure record
  | i :: rest, record => do
    match definition.components[i]?, frameComponentData baseline i with
    | none, _ => throw "delta_component_ops_missing"
    | some _, none => throw "delta_component_storage_missing"
    | some c, some previous =>
      let bytes ← component c "delta_component_deserialize_failed" (some previous) context
      readChangedComponents definition context baseline rest
        { record with authoritative := writeFrameComponent record.authoritative i bytes }

/-- `decode_delta_upsert_record_payload` -/
def decodeDeltaUpsertRecordPayload (definition : SyncArchetype) (frame baselineFrame : SyncFrame)
    (baseline : QuantizedFrameData) : ReadM R AuthoritativeUpsertRecord := do
  let changedMask ← field "delta_changed_mask_read_failed" (readBits (syncSlotCount definition))
  let record : AuthoritativeUpsertRecord :=
    { authoritative := baseline, changedSyncSlots := BitVec.ofNat 64 changedMask }
  let record ←
    if changedMask.testBit 0 then do
      if !hasTagSlot definition then throw "delta_tag_slot_unavailable"
      let tagMask ← field "delta_tag_mask_read_failed" (readBits definition.tags.length)
      pure { record with authoritative := { record.authoritative with tagMask := BitVec.ofNat 64 tagMask } }
    else pure record
  readChangedComponents definition ⟨frame, baselineFrame⟩ baseline
    ((List.range definition.components.length).filter fun i => changedMask.testBit (i + 1)) record

/-- `decode_upsert_record` -/
def decodeUpsertRecord (metadata : UpsertMetadata) : ReadM R AuthoritativeUpsertRecord := do
  match (← client).settings.archetypes[metadata.archetype]? with
  | none => throw "upsert_decode_failed"
  | some definition =>
    match initFrameData definition with
    | none => throw "init_authoritative_frame_failed"
    | some data =>
      if metadata.isFullUpsert then
        decodeFullUpsertRecordPayload definition metadata.frame { authoritative := data }
      else
        match metadata.previousBaseline with
        | none => throw "delta_missing_baseline"
        | some baseline =>
          decodeDeltaUpsertRecordPayload definition metadata.frame metadata.baselineFrame baseline

/-- `read_cues`.  Every round reads at least its first bit, so the bits left at the start bound the rounds. -/
def readCues (frame : SyncFrame) : Nat → ReadM R (List EntityCue)
  | 0 => throw "cue_sentinel_read_failed"
  | fuel + 1 => do
    let hasCue ← field "cue_sentinel_read_failed" readBit
    if hasCue then
      let (cueFrame, type) ← field "cue_header_invalid" (do
        let cueFrame ← readCueFrame frame
        let type ← readBits 16
        pure (cueFrame, type))
      match (← client).settings.cueOps[type]? with
      | none => throw "cue_unknown"
      | some ops =>
        match ops.deserialize with
        | none => throw "cue_no_deserializer"
        | some deserialize =>
          let bits ← stream
          let value ← deserialized
            ops.referencesEntities "cue_deserialize_failed" (deserialize bits ⟨cueFrame, 0⟩)
          let cues ← readCues frame fuel
          return { frame := cueFrame, type, value } :: cues
    else return []

/-- The reads of `apply_upsert`. -/
def readUpsert (frame : SyncFrame) (wireNetworkId : Nat) :
    ReadM R (UpsertMetadata × AuthoritativeUpsertRecord) := do
  let metadata ← readUpsertMetadata frame wireNetworkId
  let record ← decodeUpsertRecord metadata
  let bits ← stream
  let receivedCues ← readCues frame (bits.length + 1)
  return (metadata, { record with receivedCues })

/-- A record that is no destroy: its wire id, then the reads of `apply_upsert`. -/
def readUpdateRecord (frame : SyncFrame) : ReadM R (UpsertMetadata × AuthoritativeUpsertRecord) := do
  let wireNetworkId ← field "record_header_read_failed"
    (readNetworkEntityId (← client).options.protocol.networkEntityIdTier0Bits)
  if wireNetworkId = 0 then throw "zero_wire_network_id"
  readUpsert frame wireNetworkId

end

end AshiatoSync
