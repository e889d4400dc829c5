import AshiatoSync.ClientState

/-!
# Showing frames on the client's local entities

What the client does to its registry: a frame's tags and components go to the
local entity of an entity state, either as an authoritative snap or as a sample
of the buffered timeline.  The ECS registry is a parameter with the behaviour the
client relies on.
-/

namespace AshiatoSync

/-! ## The local registry -/

class LocalRegistry (R : Type) where
  alive : R → Entity → Bool
  get : R → Entity → ComponentId → Option Bytes
  hasTag : R → Entity → ComponentId → Bool
  create : R → R × Entity
  destroy : R → Entity → R
  set : R → Entity → ComponentId → Bytes → R
  remove : R → Entity → ComponentId → R
  addTag : R → Entity → ComponentId → Option R
  removeTag : R → Entity → ComponentId → R
  create_fresh (r : R) : alive r (create r).2 = false
  alive_create (r : R) (e : Entity) : alive (create r).1 e = (decide (e = (create r).2) || alive r e)
  get_create (r : R) (e : Entity) (c : ComponentId) :
    get (create r).1 e c = if e = (create r).2 then none else get r e c
  hasTag_create (r : R) (e : Entity) (t : ComponentId) :
    hasTag (create r).1 e t = (!decide (e = (create r).2) && hasTag r e t)
  alive_destroy (r : R) (e e' : Entity) : alive (destroy r e) e' = (!decide (e' = e) && alive r e')
  get_destroy (r : R) (e e' : Entity) (c : ComponentId) : e' ≠ e → get (destroy r e) e' c = get r e' c
  hasTag_destroy (r : R) (e e' : Entity) (t : ComponentId) : e' ≠ e → hasTag (destroy r e) e' t = hasTag r e' t
  alive_set (r : R) (e e' : Entity) (c : ComponentId) (v : Bytes) : alive (set r e c v) e' = alive r e'
  get_set (r : R) (e e' : Entity) (c c' : ComponentId) (v : Bytes) :
    get (set r e c v) e' c' = if e' = e ∧ c' = c then some v else get r e' c'
  hasTag_set (r : R) (e e' : Entity) (c t : ComponentId) (v : Bytes) : hasTag (set r e c v) e' t = hasTag r e' t
  alive_remove (r : R) (e e' : Entity) (c : ComponentId) : alive (remove r e c) e' = alive r e'
  get_remove (r : R) (e e' : Entity) (c c' : ComponentId) :
    get (remove r e c) e' c' = if e' = e ∧ c' = c then none else get r e' c'
  hasTag_remove (r : R) (e e' : Entity) (c t : ComponentId) : hasTag (remove r e c) e' t = hasTag r e' t
  alive_addTag (r r' : R) (e e' : Entity) (t : ComponentId) : addTag r e t = some r' → alive r' e' = alive r e'
  get_addTag (r r' : R) (e e' : Entity) (t c : ComponentId) : addTag r e t = some r' → get r' e' c = get r e' c
  hasTag_addTag (r r' : R) (e e' : Entity) (t t' : ComponentId) : addTag r e t = some r' →
    hasTag r' e' t' = (decide (e' = e ∧ t' = t) || hasTag r e' t')
  alive_removeTag (r : R) (e e' : Entity) (t : ComponentId) : alive (removeTag r e t) e' = alive r e'
  get_removeTag (r : R) (e e' : Entity) (t c : ComponentId) : get (removeTag r e t) e' c = get r e' c
  hasTag_removeTag (r : R) (e e' : Entity) (t t' : ComponentId) :
    hasTag (removeTag r e t) e' t' = (!decide (e' = e ∧ t' = t) && hasTag r e' t')

/-! ## Frame rings -/

inductive FrameWriteSource where
  | unknown
  | bufferedFrame
  | predictedFrame
  | authoritativeSeed
  | resimulatedFrame
  | copiedFrame
  | presentationFrame
  deriving DecidableEq, Repr

structure EntityBufferedFrame where
  frame : SyncFrame := 0
  valid : Bool := false
  entityPresent : Bool := false
  componentApplyMask : Mask := 0
  writeSource : FrameWriteSource := .unknown
  baseline : QuantizedFrameData := {}
  deriving DecidableEq, Repr

/-- One entity's ring of `ClientFrameRingStore`; a sample's payload has the size of its archetype. -/
abbrev FrameRing := List EntityBufferedFrame

namespace FrameRing

def slotFor (ring : FrameRing) (frame : SyncFrame) : Nat := frame &&& (ring.length - 1)

def ensure (ring : FrameRing) (capacity : Nat) : FrameRing := if ring.isEmpty then List.replicate capacity {} else ring

def clear (ring : FrameRing) : FrameRing := ring.map fun _ => {}

def view (ring : FrameRing) (frame : SyncFrame) : Option EntityBufferedFrame :=
  (ring[ring.slotFor frame]?).filter fun sample => sample.valid && sample.frame == frame

def write (ring : FrameRing) (sample : EntityBufferedFrame) : FrameRing := ring.set (ring.slotFor sample.frame) sample

end FrameRing

/-! ## Cues -/

structure EntityCue where
  frame : SyncFrame
  type : SyncCueTypeId
  value : Bytes
  deriving DecidableEq, Repr

structure EntityPlayedCue where
  entityIndex : Nat
  cue : EntityCue
  confirmed : Bool
  seenResimGeneration : Nat
  deriving DecidableEq, Repr

structure BufferedEntityCue where
  entityIndex : Nat
  cue : EntityCue
  deriving DecidableEq, Repr

structure ClientCueStore where
  played : List EntityPlayedCue := []
  buffered : List BufferedEntityCue := []
  resimGeneration : Nat := 1
  deriving DecidableEq, Repr

/-- `erase_for_entity` -/
def ClientCueStore.eraseForEntity (store : ClientCueStore) (e : Nat) : ClientCueStore :=
  { store with
    played := store.played.filter fun cue => cue.entityIndex != e
    buffered := store.buffered.filter fun cue => cue.entityIndex != e }

/-! ## The client -/

structure ReplicatedEntityUpdateView where
  clientEntityNetworkId : ClientEntityNetworkId
  localEntity : Option Entity
  archetype : SyncArchetypeId
  frame : SyncFrame
  tagMask : Mask
  components : List (ComponentId × Bytes)

structure ReplicationClientOptions where
  defaultMode : ReplicationClientMode := .snap
  modeSelector : Option (ReplicatedEntityUpdateView → ReplicationClientMode) := none
  bufferedFrameCapacity : Nat := 64
  predictionFrameCapacity : Nat := 64
  rollbackAll : Bool := false
  protocol : ProtocolDescriptor := {}

structure ClientBufferedRuntime where
  rings : Nat → FrameRing := fun _ => []
  lastAppliedBufferedFrame : SyncFrame := 0
  hasAppliedBufferedFrame : Bool := false

structure ClientPredictionRuntime where
  predictedFrames : Nat → FrameRing := fun _ => []
  lastPredictedFrame : SyncFrame := 0
  hasPredictedFrame : Bool := false
  pendingRollbackFrame : SyncFrame := 0
  hasPendingRollback : Bool := false

abbrev Shown := List (Option Bytes)

/-- An update record the client stored, with the entity state before and after it and the frame it decoded to. -/
structure UpsertCall where
  wireNetworkId : Nat
  clientEntityNetworkId : ClientEntityNetworkId
  frame : SyncFrame
  baselineFrame : Option SyncFrame
  archetype : SyncArchetypeId
  index : Nat
  before : EntityState
  decoded : QuantizedFrameData
  after : EntityState := {}
  shown : Shown := []

structure DestroyCall where
  wireNetworkId : Nat
  frame : SyncFrame
  found : Option EntityState
  tombstone : Option SyncFrame
  version : Nat

structure SampleCall where
  index : Nat
  archetype : SyncArchetypeId
  before : EntityState
  sample : EntityBufferedFrame
  shownBefore : Shown
  shownAfter : Shown

structure PlayCall where
  index : Nat
  clientEntityNetworkId : ClientEntityNetworkId
  cue : EntityCue

inductive ClientCall where
  | upsert (call : UpsertCall)
  | destroy (call : DestroyCall)
  | sample (call : SampleCall)
  | play (call : PlayCall)

/-- `ReplicationClient`.  `trace` is ghost: what it did, newest first. -/
structure ReplicationClient (R : Type) where
  options : ReplicationClientOptions
  settings : SyncSettings
  clientId : ClientId
  registry : R
  store : ClientEntityStore := {}
  bufferedRuntime : ClientBufferedRuntime := {}
  prediction : ClientPredictionRuntime := {}
  cueStore : ClientCueStore := {}
  ackQueue : List Nat := []
  trace : List ClientCall := []

namespace ReplicationClient

variable {R : Type}

def logCall (client : ReplicationClient R) (call : ClientCall) : ReplicationClient R :=
  { client with trace := call :: client.trace }

def entity (client : ReplicationClient R) (e : Nat) : EntityState := (client.store.entities[e]?).getD {}

def modifyEntity (client : ReplicationClient R) (e : Nat) (f : EntityState → EntityState) : ReplicationClient R :=
  { client with store := client.store.modifyEntity e f }

def syncEntityMemberships (client : ReplicationClient R) (e : Nat) : ReplicationClient R :=
  { client with store := client.store.syncEntityMemberships e }

def setBufferedRing (client : ReplicationClient R) (e : Nat) (ring : FrameRing) : ReplicationClient R :=
  { client with bufferedRuntime := { client.bufferedRuntime with
      rings := Function.update client.bufferedRuntime.rings e ring } }

def setPredictedRing (client : ReplicationClient R) (e : Nat) (ring : FrameRing) : ReplicationClient R :=
  { client with prediction := { client.prediction with
      predictedFrames := Function.update client.prediction.predictedFrames e ring } }

def archetypeOf (client : ReplicationClient R) (e : Nat) : Option SyncArchetype :=
  client.settings.archetypes[(client.entity e).archetype]?

end ReplicationClient

/-! ## Frames on a local entity -/

/-- `changed_present_component_mask` -/
def changedPresentComponentMask (archetype : SyncArchetype) (current next : QuantizedFrameData) : Mask :=
  (List.range archetype.components.length).foldl (fun mask i =>
    let same := match frameComponentData current i, frameComponentData next i with
      | some a, some b => a == b
      | _, _ => false
    if frameHasComponent next i && !same then mask ||| BitVec.twoPow 64 i else mask) 0

/-- `valid_frame_archetype` -/
def validFrameArchetype (archetype : SyncArchetype) : Bool :=
  archetype.tags.length ≤ 64 && archetype.components.length ≤ 63

section

variable {R : Type} [LocalRegistry R]

open LocalRegistry

def shownOn (registry : R) (archetype : SyncArchetype) (local? : Option Entity) : Shown :=
  archetype.components.map fun c => local?.bind fun entity => get registry entity c.component

/-- `ensure_local_entity` -/
def ensureLocalEntity (registry : R) (local? : Option Entity) : R × Entity :=
  match local? with
  | some entity => if alive registry entity then (registry, entity) else create registry
  | none => create registry

/-- `apply_archetype_tags`, from tag number `i` on. -/
def applyArchetypeTags (entity : Entity) (tagMask : Mask) : List SyncTagReplication → Nat → R → R × Bool
  | [], _, registry => (registry, true)
  | t :: rest, i, registry =>
    if tagMask.getLsbD i then
      match addTag registry entity t.tag with
      | none => (registry, false)
      | some registry => applyArchetypeTags entity tagMask rest (i + 1) registry
    else applyArchetypeTags entity tagMask rest (i + 1) (removeTag registry entity t.tag)

/-- `remove_archetype_tags` -/
def removeArchetypeTags (entity : Entity) (archetype : SyncArchetype) (registry : R) : R :=
  archetype.tags.foldl (fun registry t => removeTag registry entity t.tag) registry

/-- `remove_missing_registry_components` -/
def removeMissingRegistryComponents (entity : Entity) (archetype : SyncArchetype) (previous next : Mask)
    (registry : R) : R :=
  archetype.components.zipIdx.foldl (fun registry (c, i) =>
    if previous.getLsbD i && !next.getLsbD i then remove registry entity c.component else registry) registry

/-- `for_each_present_component` with `push_to_registry`, from component number `i` on. -/
def pushPresentComponents (entity : Entity) (frame : QuantizedFrameData) :
    List ComponentReplication → Nat → R → R × Bool
  | [], _, registry => (registry, true)
  | c :: rest, i, registry =>
    if !frameHasComponent frame i then pushPresentComponents entity frame rest (i + 1) registry
    else
      match frameComponentData frame i with
      | none => (registry, false)
      | some bytes =>
        match c.ops.pushToRegistry bytes with
        | none => (registry, false)
        | some value => pushPresentComponents entity frame rest (i + 1) (set registry entity c.component value)

structure RegistryFrameApplyInfo where
  frameData : QuantizedFrameData
  previousPresentMask : Mask
  nextPresentMask : Mask

/-- `apply_registry_frame` on an entity that `ensure_local_entity` gave. -/
def applyRegistryFrame (archetype : SyncArchetype) (input : RegistryFrameApplyInfo) (entity : Entity)
    (registry : R) : R × Bool :=
  match applyArchetypeTags entity input.frameData.tagMask archetype.tags 0 registry with
  | (registry, false) => (registry, false)
  | (registry, true) =>
    pushPresentComponents entity input.frameData archetype.components 0
      (removeMissingRegistryComponents entity archetype input.previousPresentMask input.nextPresentMask registry)

namespace ReplicationClient

/-- `apply_registry_frame` for the entity state `e`. -/
def applyRegistryFrame (client : ReplicationClient R) (e : Nat) (archetype : SyncArchetype)
    (input : RegistryFrameApplyInfo) : ReplicationClient R × Bool :=
  let (registry, entity) := ensureLocalEntity client.registry (client.entity e).localEntity
  let (registry, applied) := AshiatoSync.applyRegistryFrame archetype input entity registry
  ({ client.modifyEntity e fun s => { s with localEntity := some entity } with registry }, applied)

def hideEntity (client : ReplicationClient R) (e : Nat) : ReplicationClient R :=
  let registry := match (client.entity e).localEntity with
    | some entity => if alive client.registry entity then destroy client.registry entity else client.registry
    | none => client.registry
  { client.modifyEntity e fun s => { s with localEntity := none, appliedPresentMask := 0 } with registry }

/-- The mark `apply_buffered_sample` leaves for samples of the buffered timeline. -/
def markApplied (client : ReplicationClient R) (e : Nat) (sample : EntityBufferedFrame) : ReplicationClient R :=
  if sample.writeSource = .bufferedFrame then
    client.modifyEntity e fun s => { s with lastAppliedBufferedFrame := sample.frame }
  else client

/-- The components of a sample that are pushed: all of them, unless the frame before it was applied last. -/
def sampleApplyMask (state : EntityState) (sample : EntityBufferedFrame) : Mask :=
  if sample.writeSource = .bufferedFrame && (state.lastAppliedBufferedFrame + 1) % 2 ^ 32 == sample.frame then
    sample.componentApplyMask
  else sample.baseline.presentMask

/-- `apply_buffered_sample` -/
def applyBufferedSample (client : ReplicationClient R) (e : Nat) (sample : EntityBufferedFrame) :
    ReplicationClient R × Bool :=
  if !sample.entityPresent then ((client.hideEntity e).markApplied e sample, true)
  else
    match client.archetypeOf e with
    | none => (client, false)
    | some archetype =>
      let before := client.entity e
      let mask := sampleApplyMask before sample
      let input : RegistryFrameApplyInfo := {
        frameData := { sample.baseline with presentMask := sample.baseline.presentMask &&& mask }
        previousPresentMask := before.appliedPresentMask
        nextPresentMask := sample.baseline.presentMask }
      match client.applyRegistryFrame e archetype input with
      | (applied, false) => (applied, false)
      | (applied, true) =>
        let applied := (applied.modifyEntity e fun s =>
          { s with appliedPresentMask := sample.baseline.presentMask }).markApplied e sample
        (applied.logCall (.sample {
          index := e, archetype := before.archetype, before, sample
          shownBefore := shownOn client.registry archetype before.localEntity
          shownAfter := shownOn applied.registry archetype (applied.entity e).localEntity }), true)

/-- `apply_frame_data` -/
def applyFrameData (client : ReplicationClient R) (e : Nat) (frame : SyncFrame) (entityPresent : Bool)
    (baseline : QuantizedFrameData) : ReplicationClient R × Bool :=
  client.applyBufferedSample e { frame, valid := true, entityPresent, writeSource := .unknown, baseline }

/-- The copy loop of `apply_snap_sample`: the pushed components go to the stored baseline. -/
def copyPresentComponents (archetype : SyncArchetype) (frame baseline : QuantizedFrameData) : QuantizedFrameData :=
  (List.range archetype.components.length).foldl (fun baseline i =>
    match frameComponentData frame i with
    | some bytes => writeFrameComponent baseline i bytes
    | none => baseline) baseline

/-- `apply_snap_sample` -/
def applySnapSample (client : ReplicationClient R) (e : Nat) (authoritative : QuantizedFrameData)
    (componentApplyMask : Mask) : ReplicationClient R × Bool :=
  match client.archetypeOf e with
  | none => (client, false)
  | some archetype =>
    let before := client.entity e
    let stored :=
      if before.baseline.bytes.length ≠ archetype.components.length then initFrameData archetype
      else some before.baseline
    match stored with
    | none => (client, false)
    | some stored =>
      let client := client.modifyEntity e fun s => { s with baseline := stored }
      let frame := { authoritative with presentMask := authoritative.presentMask &&& componentApplyMask }
      match client.applyRegistryFrame e archetype {
          frameData := frame, previousPresentMask := before.appliedPresentMask
          nextPresentMask := authoritative.presentMask } with
      | (client, false) => (client, false)
      | (client, true) =>
        let copied := copyPresentComponents archetype frame stored
        ((client.modifyEntity e fun s => { s with
          entityPresent := true
          baseline := { copied with tagMask := authoritative.tagMask, presentMask := authoritative.presentMask }
          appliedPresentMask := authoritative.presentMask }).syncEntityMemberships e, true)

/-! ## The buffered timeline -/

/-- `validate_buffered_archetype` -/
def validateBufferedArchetype (client : ReplicationClient R) (archetype : SyncArchetypeId) : Bool :=
  match client.settings.archetypes[archetype]? with
  | none => false
  | some definition => definition.components.all fun c => !c.interpolated || c.ops.interpolate.isSome

def interpolatedComponent (c : ComponentReplication) (i : Nat) (previous : Bytes) (target : Option QuantizedFrameData)
    (frame fromFrame toFrame : SyncFrame) : Option Bytes :=
  match target with
  | none => some previous
  | some target =>
    if !frameHasComponent target i || !c.interpolated then some previous
    else
      match c.ops.interpolate, frameComponentData target i with
      | some interpolate, some next =>
        if toFrame = fromFrame then none else some (interpolate previous next (frame - fromFrame) (toFrame - fromFrame))
      | _, _ => none

/-- The components of a frame between two received ones, from component number `i` on: what is written, and whether
nothing was missing. -/
def interpolatedComponents (source : QuantizedFrameData) (target : Option QuantizedFrameData)
    (frame fromFrame toFrame : SyncFrame) :
    List ComponentReplication → Nat → QuantizedFrameData → QuantizedFrameData × Bool
  | [], _, data => (data, true)
  | c :: rest, i, data =>
    if !frameHasComponent source i then interpolatedComponents source target frame fromFrame toFrame rest (i + 1) data
    else
      match frameComponentData source i with
      | none => (data, false)
      | some previous =>
        match interpolatedComponent c i previous target frame fromFrame toFrame with
        | none => (writeFrameComponent data i previous, false)
        | some value =>
          interpolatedComponents source target frame fromFrame toFrame rest (i + 1) (writeFrameComponent data i value)

def zeroedFrame (archetype : SyncArchetype) : QuantizedFrameData where
  bytes := archetype.components.map fun c => List.replicate c.ops.quantizedSize 0

/-- The data `write_buffered_frame` puts in a present sample, and whether nothing was missing. -/
def bufferedFrameData (archetype : SyncArchetype) (frame : SyncFrame) (source target : Option QuantizedFrameData)
    (fromFrame toFrame : SyncFrame) : QuantizedFrameData × Bool :=
  match target, source with
  | some data, source =>
    if frame = toFrame then
      if data.bytes.length ≠ archetype.components.length then
        ({ zeroedFrame archetype with tagMask := data.tagMask, presentMask := data.presentMask }, false)
      else (data, true)
    else
      match source with
      | none => (zeroedFrame archetype, true)
      | some source => interpolatedComponents source target frame fromFrame toFrame archetype.components 0
          { zeroedFrame archetype with tagMask := source.tagMask }
  | none, none => (zeroedFrame archetype, true)
  | none, some source => interpolatedComponents source none frame fromFrame toFrame archetype.components 0
      { zeroedFrame archetype with tagMask := source.tagMask }

/-- The mask `finish_buffered_frame` stores: the change against the frame before, when that one is there. -/
def bufferedApplyMask (archetype : SyncArchetype) (ring : FrameRing) (frame : SyncFrame) (data : QuantizedFrameData) :
    Mask :=
  match if frame = 0 then none else ring.view (frame - 1) with
  | some previous =>
    if previous.entityPresent then changedPresentComponentMask archetype previous.baseline data else data.presentMask
  | none => data.presentMask

/-- `write_buffered_frame`; a failure leaves what was written so far in the slot. -/
def writeBufferedFrame (archetype : SyncArchetype) (capacity : Nat) (ring : FrameRing) (frame : SyncFrame)
    (entityPresent : Bool) (source target : Option QuantizedFrameData) (fromFrame toFrame : SyncFrame) :
    FrameRing × Bool :=
  if !validFrameArchetype archetype then (ring, false)
  else
    let ring := ring.ensure capacity
    let sample : EntityBufferedFrame := { frame, valid := true, entityPresent, writeSource := .bufferedFrame }
    if !entityPresent then (ring.write sample, true)
    else
      match bufferedFrameData archetype frame source target fromFrame toFrame with
      | (data, false) => (ring.write { sample with baseline := data }, false)
      | (data, true) =>
        (ring.write { sample with
          baseline := data
          componentApplyMask := bufferedApplyMask archetype (ring.write sample) frame data }, true)

/-- The loop of `fill_buffered_frames` over `count` frames from `current` on. -/
def fillFrames (archetype : SyncArchetype) (capacity : Nat) (source : Option QuantizedFrameData)
    (sourcePresent : Bool) (target : Option QuantizedFrameData) (fromFrame toFrame : SyncFrame) :
    Nat → SyncFrame → FrameRing → FrameRing × Bool
  | 0, _, ring => (ring, true)
  | count + 1, current, ring =>
    let present := if current = toFrame then target.isSome else sourcePresent
    match writeBufferedFrame archetype capacity ring current present source target fromFrame toFrame with
    | (ring, false) => (ring, false)
    | (ring, true) =>
      fillFrames archetype capacity source sourcePresent target fromFrame toFrame count (current + 1) ring

/-- `fill_buffered_frames`; `target` is the decoded frame of a present entity. -/
def fillBufferedFrames (client : ReplicationClient R) (e : Nat) (frame : SyncFrame)
    (target : Option QuantizedFrameData) : ReplicationClient R × Bool :=
  let state := client.entity e
  if state.frame ≠ 0 ∧ frame ≤ state.frame then (client, false)
  else
    match client.archetypeOf e with
    | none => (client, false)
    | some archetype =>
      let source := if state.frame ≠ 0 then some state.baseline else none
      let sourcePresent := state.localEntity.isSome ||
        match source with
        | some data => data.presentMask != 0
        | none => false
      let first := if state.frame ≠ 0 then state.frame + 1 else frame
      let (ring, filled) := fillFrames archetype client.options.bufferedFrameCapacity source sourcePresent target
        state.frame frame (frame + 1 - first) first (client.bufferedRuntime.rings e)
      (client.setBufferedRing e ring, filled)

end ReplicationClient

end

end AshiatoSync
