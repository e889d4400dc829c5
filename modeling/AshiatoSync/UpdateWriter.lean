import AshiatoSync.PacketAck

/-!
# Quantizing an entity for a client and writing its record

`findOrCreateQuantizedFrame` quantizes what a client may see of a slot, or reuses
a frame that holds the same; `writeEntityRecord` lays it out as a full record or
as a delta against the client's acknowledged baseline.
-/

namespace AshiatoSync

/-! ## Quantization -/

/-- `visible_tag_mask` -/
def visibleTagMask (registry : Registry) (archetype : SyncArchetype) (entity : Entity) (client : ClientId) : Mask :=
  let owner := (registry.networkOwner entity).getD invalidClientId
  archetype.tags.zipIdx.foldl (fun mask (replication, i) =>
    if replicationAudienceMatches replication.audience owner client && registry.hasTag entity replication.tag then
      mask ||| BitVec.twoPow 64 i
    else mask) 0

/-- One component of `find_or_create_quantized_frame`: `none` when its storage is out of range. -/
def quantizeComponent (registry : Registry) (replicated : ReplicatedSlot) (client : ClientId)
    (baseline : Option QuantizedFrame) (scratch : QuantizedFrameData × List Nat)
    (component : ComponentReplication × Nat) : Option (QuantizedFrameData × List Nat) :=
  let (replication, i) := component
  let (data, generations) := scratch
  let owner := (registry.networkOwner replicated.entity).getD invalidClientId
  if !replicationAudienceMatches replication.audience owner client then some scratch
  else
    match registry.get replicated.entity replication.component with
    | none => some scratch
    | some value =>
      let generation := (replicated.componentDirtyGenerations[i + 1]?).getD 0
      let generations := generations.set (i + 1) generation
      let unchanged := match baseline with
        | some frame => frame.dirtyGenerations[i + 1]? == some generation && frameHasComponent frame.data i
        | none => false
      if unchanged then
        match baseline.bind fun frame => frame.data.bytes[i]? with
        | some bytes => some (writeFrameComponent data i bytes, generations)
        | none => none
      else some (writeFrameComponent data i (replication.ops.quantize value), generations)

def quantizeFrame (registry : Registry) (archetype : SyncArchetype) (replicated : ReplicatedSlot)
    (client : ClientId) (baseline : Option QuantizedFrame) : Option (QuantizedFrameData × List Nat) := do
  let data ← initFrameData archetype
  let generations := List.replicate (syncSlotCount archetype) 0
  let scratch :=
    if hasTagSlot archetype then
      ({ data with tagMask := visibleTagMask registry archetype replicated.entity client },
        generations.set 0 ((replicated.componentDirtyGenerations[0]?).getD 0))
    else (data, generations)
  let scratch ← archetype.components.zipIdx.foldlM (quantizeComponent registry replicated client baseline) scratch
  if scratch.1.presentMask = 0 && !hasTagSlot archetype then none else some scratch

/-- The frame cached for this slot and server frame, while it is still that frame. -/
def cachedQuantizedFrame (core : ServerCore) (replicated : ReplicatedSlot) (slot : Nat) (frame : SyncFrame) :
    Option Nat :=
  if replicated.sameFrameCacheable && replicated.sameFrameQuantizedFrameFrame == frame then
    match replicated.sameFrameQuantizedFrame with
    | none => none
    | some q =>
      match core.quantizedFrames[q]? with
      | none => none
      | some cached =>
        if cached.active && cached.slot == slot && cached.frame == frame &&
            cached.archetype == replicated.archetype then some q
        else none
  else none

def baselineQuantizedFrame (core : ServerCore) (client : ServerClientReplicator) (replicated : ReplicatedSlot)
    (slot : Nat) : Option QuantizedFrame :=
  match client.states[slot]? with
  | none => none
  | some state =>
    match state.baseline with
    | none => none
    | some q =>
      match core.quantizedFrames[q]? with
      | none => none
      | some frame => if frame.active && frame.archetype == replicated.archetype then some frame else none

def sameQuantizedFrame (core : ServerCore) (replicated : ReplicatedSlot) (slot : Nat) (frame : SyncFrame)
    (scratch : QuantizedFrameData × List Nat) : Option Nat :=
  replicated.quantizedFrames.find? fun q =>
    match core.quantizedFrames[q]? with
    | none => false
    | some f =>
      f.active && f.slot == slot && f.frame == frame && f.archetype == replicated.archetype &&
        sameQuantizedFrameComponents f scratch.1 scratch.2

def takeQuantizedFrameIndex (core : ServerCore) : Except StdException (ServerCore × Nat) :=
  match core.freeQuantizedFrames with
  | q :: rest => .ok ({ core with freeQuantizedFrames := rest }, q)
  | [] =>
    if core.quantizedFrames.length > 2 ^ 32 - 1 then
      .error (.lengthError "Ashiato Sync quantized frame space exhausted")
    else
      .ok ({ core with quantizedFrames := core.quantizedFrames ++ [{}] }, core.quantizedFrames.length)

/-- A slot's list of frames with `q` at its end, and `q` as its frame of this server frame. -/
def listQuantizedFrame (q : Nat) (frame : SyncFrame) (r : ReplicatedSlot) : ReplicatedSlot :=
  if r.sameFrameCacheable then
    { r with
      quantizedFrames := r.quantizedFrames ++ [q]
      sameFrameQuantizedFrame := some q, sameFrameQuantizedFrameFrame := frame }
  else { r with quantizedFrames := r.quantizedFrames ++ [q] }

def storeQuantizedFrame (core : ServerCore) (replicated : ReplicatedSlot) (slot q : Nat) (frame : SyncFrame)
    (scratch : QuantizedFrameData × List Nat) : ServerCore :=
  { core with
    quantizedFrames := core.quantizedFrames.set q {
      slot, frame, archetype := replicated.archetype, refCount := 0, active := true
      data := scratch.1, dirtyGenerations := scratch.2 }
    replicated := core.replicated.modify slot (listQuantizedFrame q frame) }

def createQuantizedFrame (core : ServerCore) (replicated : ReplicatedSlot) (slot : Nat) (frame : SyncFrame)
    (scratch : QuantizedFrameData × List Nat) : Except StdException (ServerCore × Nat) :=
  (takeQuantizedFrameIndex core).map fun (core, q) => (storeQuantizedFrame core replicated slot q frame scratch, q)

/-- `find_or_create_quantized_frame`; the caller has checked the slot's archetype. -/
def findOrCreateQuantizedFrame (registry : Registry) (core : ServerCore) (client : ServerClientReplicator)
    (slot : Nat) (frame : SyncFrame) : Except StdException (ServerCore × Option Nat) :=
  match core.replicated[slot]? with
  | none => .ok (core, none)
  | some replicated =>
    match core.settings.archetypes[replicated.archetype]? with
    | none => .ok (core, none)
    | some archetype =>
      match cachedQuantizedFrame core replicated slot frame with
      | some q => .ok (core, some q)
      | none =>
        match quantizeFrame registry archetype replicated client.id
            (baselineQuantizedFrame core client replicated slot) with
        | none => .ok (core, none)
        | some scratch =>
          match sameQuantizedFrame core replicated slot frame scratch with
          | some q => .ok (core, some q)
          | none => (createQuantizedFrame core replicated slot frame scratch).map fun (core, q) => (core, some q)

/-! ## References -/

/-- The `server_network_id_for_entity` callback of a record or cue of `sourceSlot`. -/
def serverNetworkIdForEntity (core : ServerCore) (client : ServerClientReplicator) (sourceSlot : Nat)
    (entity : Entity) : Except StdException (ServerClientReplicator × Nat) :=
  match core.entityToReplicatedIndex entity with
  | none => .ok (client, 0)
  | some referenceSlot =>
    if client.states[referenceSlot]?.isNone || !core.replicatedSlotActive referenceSlot then .ok (client, 0)
    else
      let client :=
        if referenceSlot ≠ sourceSlot then
          client.modifyState referenceSlot fun s => { s with referencePriorityBoostPending := true }
        else client
      client.networkIdFor referenceSlot

/-- The id a serializer is told; one that was given no reference context gets 0. -/
def lookupNetworkId (core : ServerCore) (client : ServerClientReplicator) (sourceSlot : Nat) (references : Bool)
    (entity : Entity) : Except StdException (ServerClientReplicator × Nat) :=
  if references then serverNetworkIdForEntity core client sourceSlot entity else .ok (client, 0)

def runRecordWriter (core : ServerCore) (sourceSlot : Nat) (references : Bool) :
    RecordWriter → ServerClientReplicator → Except StdException (ServerClientReplicator × Bits)
  | .done bits, client => .ok (client, bits)
  | .lookup entity next, client => do
    let (client, networkId) ← lookupNetworkId core client sourceSlot references entity
    runRecordWriter core sourceSlot references (next networkId) client

/-! ## Records -/

def serializeComponents (core : ServerCore) (slot : Nat) (archetype : SyncArchetype)
    (previous : Option QuantizedFrameData) (current : QuantizedFrameData) (context : SerializationContext) :
    List Nat → ServerClientReplicator → Except StdException (ServerClientReplicator × List (Nat × Bits))
  | [], client => .ok (client, [])
  | i :: rest, client =>
    match archetype.components[i]?, frameComponentData current i with
    | some replication, some bytes => do
      let previousBytes := previous.bind fun frame => frameComponentData frame i
      if previous.isSome && previousBytes.isNone then
        throw (.logicError "replicated quantized frame component bytes are missing")
      let (client, bits) ← runRecordWriter core slot replication.ops.referencesEntities
        (replication.ops.serialize previousBytes bytes context) client
      let (client, payloads) ← serializeComponents core slot archetype previous current context rest client
      return (client, (i, bits) :: payloads)
    | _, _ => .error (.logicError "replicated quantized frame component bytes are missing")

def enabledComponents (archetype : SyncArchetype) (current : QuantizedFrameData) (componentMask : Mask) : List Nat :=
  (List.range archetype.components.length).filter fun i =>
    frameHasComponent current i && componentMask.getLsbD i

def changedComponents (archetype : SyncArchetype) (baseline current : QuantizedFrameData) (componentMask : Mask) :
    List Nat :=
  (enabledComponents archetype current componentMask).filter fun i => current.bytes[i]? != baseline.bytes[i]?

/-- The baseline `write_entity_record` writes a delta against, with its frame. -/
def deltaBaseline (core : ServerCore) (state : ClientEntityState) (archetype : SyncArchetypeId)
    (current : QuantizedFrameData) : Option (SyncFrame × QuantizedFrameData) :=
  match state.baseline with
  | none => none
  | some q =>
    match core.quantizedFrames[q]? with
    | none => none
    | some baseline =>
      if baseline.active && baseline.archetype == archetype && baseline.data.presentMask == current.presentMask then
        some (baseline.frame, baseline.data)
      else none

structure SerializedEntity where
  quantizedFrame : Nat
  record : UpdateRecord
  fullState : Bool
  payloadBits : Nat

def writeDeltaBody (core : ServerCore) (client : ServerClientReplicator) (slot : Nat) (quantized : QuantizedFrame)
    (archetype : SyncArchetype) (baseline : SyncFrame × QuantizedFrameData) (componentMask : Mask) :
    Except StdException (ServerClientReplicator × UpdateBody) := do
  let n := archetype.tags.length
  let (client, payloads) ← serializeComponents core slot archetype (some baseline.2) quantized.data
    ⟨quantized.frame, baseline.1⟩ (changedComponents archetype baseline.2 quantized.data componentMask) client
  return (client, .delta baseline.1
    (if hasTagSlot archetype && lowBits n quantized.data.tagMask != lowBits n baseline.2.tagMask then
      some (lowBits n quantized.data.tagMask)
    else none) payloads)

def writeFullBody (core : ServerCore) (client : ServerClientReplicator) (slot : Nat) (quantized : QuantizedFrame)
    (archetype : SyncArchetype) (componentMask : Mask) :
    Except StdException (ServerClientReplicator × UpdateBody) := do
  let (client, payloads) ← serializeComponents core slot archetype none quantized.data
    ⟨quantized.frame, 0⟩ (enabledComponents archetype quantized.data componentMask) client
  return (client, .full quantized.archetype
    (if hasTagSlot archetype then some (lowBits archetype.tags.length quantized.data.tagMask) else none) payloads)

def writeBody (core : ServerCore) (client : ServerClientReplicator) (slot : Nat) (quantized : QuantizedFrame)
    (archetype : SyncArchetype) (baseline : Option (SyncFrame × QuantizedFrameData)) (componentMask : Mask) :
    Except StdException (ServerClientReplicator × UpdateBody) :=
  match baseline with
  | some baseline => writeDeltaBody core client slot quantized archetype baseline componentMask
  | none => writeFullBody core client slot quantized archetype componentMask

/-- `write_entity_record`: the record and whether it is a full one; `none` leaves the payload empty. -/
def writeEntityRecord (core : ServerCore) (client : ServerClientReplicator) (slot q : Nat) (componentMask : Mask) :
    Except StdException (ServerClientReplicator × Option SerializedEntity) :=
  match client.states[slot]?, core.quantizedFrames[q]? with
  | some state, some quantized => do
    if !quantized.active then return (client, none)
    let baseline := deltaBaseline core state quantized.archetype quantized.data
    let (client, networkId) ← client.networkIdFor slot
    if networkId = 0 then return (client, none)
    match core.settings.archetypes[quantized.archetype]? with
    | none => return (client, none)
    | some archetype =>
      let (client, body) ← writeBody core client slot quantized archetype baseline componentMask
      let record : UpdateRecord := {
        networkId, body, cues := state.pendingCues.map fun cue => ⟨cue.frame, cue.type, cue.payload⟩ }
      let payload := encodeUpdateRecord core.options.protocol.networkEntityIdTier0Bits archetype quantized.frame record
      return (client, some {
        quantizedFrame := q, record, fullState := baseline.isNone, payloadBits := payload.length })
  | _, _ => .ok (client, none)

/-- `serialize_entity` -/
def serializeEntity (registry : Registry) (core : ServerCore) (client : ServerClientReplicator) (slot : Nat)
    (frame : SyncFrame) (componentMask : Mask) :
    Except StdException (ServerCore × ServerClientReplicator × Option SerializedEntity) := do
  if client.states[slot]?.isNone then return (core, client, none)
  let (core, q) ← findOrCreateQuantizedFrame registry core client slot frame
  match q with
  | none => return (core, client, none)
  | some q =>
    let (client, serialized) ← writeEntityRecord core client slot q componentMask
    return (core, client, serialized)

end AshiatoSync
