import AshiatoSync.ReplayStreamer
import AshiatoSync.Serialization
import AshiatoSync.Server
import AshiatoSync.ClientApply

/-!
# What a replay session plays on

A session applies replay frames to a registry and keeps the entities it made under
their replay ids; a replay server then replicates them.  A frame's records change
the registry one after the other, while the rest of the frame is still unread.
-/

namespace AshiatoSync

open BitCodec

/-! ## The registry -/

structure Registry.SameOn (a b : Registry) (entity : Entity) : Prop where
  alive : b.alive entity = a.alive entity
  replicated : b.replicated entity = a.replicated entity
  networkOwner : b.networkOwner entity = a.networkOwner entity
  get : b.get entity = a.get entity
  hasTag : b.hasTag entity = a.hasTag entity

open LocalRegistry in
/-- What replay uses of the ECS registry besides: `view` is what a server reads of it, and every change is to one
entity. -/
class ReplayRegistry (R : Type) extends LocalRegistry R where
  view : R → Registry
  setReplicated : R → Entity → SyncArchetypeId → R
  view_alive (r : R) : (view r).alive = alive r
  visited (r : R) (e : Entity) : e ∈ (view r).replicatedView ↔ alive r e = true ∧ ((view r).replicated e).isSome
  alive_index (r : R) (a b : Entity) : alive r a = true → alive r b = true → a.index = b.index → a = b
  alive_setReplicated (r : R) (e e' : Entity) (a : SyncArchetypeId) : alive (setReplicated r e a) e' = alive r e'
  setReplicated_on (r : R) (e e' : Entity) (a : SyncArchetypeId) : e' ≠ e →
    (view r).SameOn (view (setReplicated r e a)) e'
  create_on (r : R) (e' : Entity) : e' ≠ (create r).2 → (view r).SameOn (view (create r).1) e'
  destroy_on (r : R) (e e' : Entity) : e' ≠ e → (view r).SameOn (view (destroy r e)) e'
  set_on (r : R) (e e' : Entity) (c : ComponentId) (v : Bytes) : e' ≠ e → (view r).SameOn (view (set r e c v)) e'
  remove_on (r : R) (e e' : Entity) (c : ComponentId) : e' ≠ e → (view r).SameOn (view (remove r e c)) e'
  addTag_on (r r' : R) (e e' : Entity) (t : ComponentId) : addTag r e t = some r' → e' ≠ e →
    (view r).SameOn (view r') e'
  removeTag_on (r : R) (e e' : Entity) (t : ComponentId) : e' ≠ e → (view r).SameOn (view (removeTag r e t)) e'

/-! ## The world of a session -/

/-- `entities` is the session's map of replay ids; `thrown` is what has left the call. -/
structure ReplayWorld (R : Type) where
  entities : List (Nat × Entity) := []
  registry : R
  server : ReplicationServer
  thrown : Option StdException := none

/-! ## Records -/

inductive ReplayRecordHeader where
  | destroy (replayId : Nat)
  | update (replayId : Nat) (archetype : SyncArchetypeId) (tagMask presentMask : Mask)
  deriving DecidableEq

def readReplayRecordHeader : Reader ReplayRecordHeader := do
  let destroy ← readBit
  let replayId ← readBits 32
  if destroy then return .destroy replayId
  let archetype ← readBits 32
  let tagMask ← readBits 64
  let presentMask ← readBits 64
  return .update replayId archetype (BitVec.ofNat 64 tagMask) (BitVec.ofNat 64 presentMask)

/-- `read_buffer_bits` -/
def readBufferBits (count : Nat) : Reader Bits := fun stream : Bits =>
  if stream.length < count then none else some (stream.take count, stream.drop count)

def readRecordComponent : Reader (Nat × Bits) := do
  let index ← readBits 16
  let count ← readBits 16
  let payload ← readBufferBits count
  return (index, payload)

/-- A deserializer of a replayed component, with the references of `make_reference_context`. -/
def replayDeserialized (entities : List (Nat × Entity)) (references : Bool) : RecordReader → Option Bytes
  | .fail => none
  | .done bytes _ => some bytes
  | .networkIdForWire wireNetworkId next =>
    replayDeserialized entities references
      (next (if references && wireNetworkId != 0 then makeClientEntityNetworkId 0 wireNetworkId 1 else 0))
  | .localEntity id next =>
    replayDeserialized entities references
      (next (if references then entities.lookup (id / 2 ^ 32 % 2 ^ 20) else none))

namespace ReplayWorld

variable {R : Type} [ReplayRegistry R]

open LocalRegistry ReplayRegistry

/-- `entity_for_replay_id` -/
def entityForReplayId (world : ReplayWorld R) (replayId : Nat) : Option (ReplayWorld R × Entity) :=
  if replayId = 0 then none
  else
    match (world.entities.lookup replayId).filter (alive world.registry) with
    | some entity => some (world, entity)
    | none =>
      let (registry, entity) := create world.registry
      some ({ world with
        registry
        entities := (replayId, entity) :: world.entities.filter fun entry => entry.1 != replayId }, entity)

/-- `destroy_replay_entity` -/
def destroyReplayEntity (world : ReplayWorld R) (replayId : Nat) : ReplayWorld R :=
  match world.entities.lookup replayId with
  | none => world
  | some entity =>
    { world with
      registry := destroy world.registry entity
      entities := world.entities.filter fun entry => entry.1 != replayId }

/-- `apply_tags`, from tag number `i` on; what `add_tag` answers is not looked at. -/
def applyTags (entity : Entity) (tagMask : Mask) : List SyncTagReplication → Nat → R → R
  | [], _, registry => registry
  | t :: rest, i, registry =>
    applyTags entity tagMask rest (i + 1)
      (if tagMask.getLsbD i then (addTag registry entity t.tag).getD registry else removeTag registry entity t.tag)

/-- The loop of `apply_components`: the registry, and what follows the components when none of them failed. -/
def applyRecordComponents (entity : Entity) (frame : SyncFrame) (archetype : SyncArchetype)
    (entities : List (Nat × Entity)) : Nat → R → Bits → R × Option Bits
  | 0, registry, stream => (registry, some stream)
  | count + 1, registry, stream =>
    match readRecordComponent stream with
    | none => (registry, none)
    | some ((index, payload), stream) =>
      match archetype.components[index]? with
      | none => applyRecordComponents entity frame archetype entities count registry stream
      | some c =>
        if c.ops.quantizedSize = 0 then applyRecordComponents entity frame archetype entities count registry stream
        else
          match (replayDeserialized entities c.ops.referencesEntities
              (c.ops.deserialize none payload { currentFrame := frame, previousFrame := 0 })).bind
                c.ops.pushToRegistry with
          | none => (registry, none)
          | some value =>
            applyRecordComponents entity frame archetype entities count (set registry entity c.component value) stream

def removeAbsent (entity : Entity) (archetype : SyncArchetype) (presentMask : Mask) (registry : R) : R :=
  archetype.components.zipIdx.foldl (fun registry (c, i) =>
    if presentMask.getLsbD i then registry else remove registry entity c.component) registry

/-- `apply_components` -/
def applyComponents (entity : Entity) (frame : SyncFrame) (archetype : SyncArchetype) (presentMask : Mask)
    (entities : List (Nat × Entity)) (registry : R) (stream : Bits) : R × Option Bits :=
  match readBits 16 stream with
  | none => (registry, none)
  | some (count, stream) =>
    match applyRecordComponents entity frame archetype entities count registry stream with
    | (registry, none) => (registry, none)
    | (registry, some stream) => (removeAbsent entity archetype presentMask registry, some stream)

/-- One record: the world, `full_replay_ids`, and what follows the record when it did not fail. -/
def applyRecord (frame : SyncFrame) (world : ReplayWorld R) (fullReplayIds : List Nat) (stream : Bits) :
    ReplayWorld R × List Nat × Option Bits :=
  match readReplayRecordHeader stream with
  | none => (world, fullReplayIds, none)
  | some (.destroy replayId, stream) => (world.destroyReplayEntity replayId, fullReplayIds, some stream)
  | some (.update replayId archetypeId tagMask presentMask, stream) =>
    let fullReplayIds := replayId :: fullReplayIds
    match world.server.core.settings.archetypes[archetypeId]? with
    | none => (world, fullReplayIds, none)
    | some archetype =>
      match world.entityForReplayId replayId with
      | none => (world, fullReplayIds, none)
      | some (world, entity) =>
        let registry := applyTags entity tagMask archetype.tags 0 (setReplicated world.registry entity archetypeId)
        let (registry, rest) := applyComponents entity frame archetype presentMask world.entities registry stream
        ({ world with registry }, fullReplayIds, rest)

/-- The loop of `apply_frame` over the records. -/
def applyRecords (frame : SyncFrame) :
    Nat → ReplayWorld R → List Nat → Bits → ReplayWorld R × List Nat × Option Bits
  | 0, world, fullReplayIds, stream => (world, fullReplayIds, some stream)
  | count + 1, world, fullReplayIds, stream =>
    match world.applyRecord frame fullReplayIds stream with
    | (world, fullReplayIds, none) => (world, fullReplayIds, none)
    | (world, fullReplayIds, some stream) => applyRecords frame count world fullReplayIds stream

def destroyStale (world : ReplayWorld R) (fullReplayIds : List Nat) : ReplayWorld R :=
  ((world.entities.map Prod.fst).filter fun replayId => !fullReplayIds.contains replayId).foldl
    destroyReplayEntity world

/-- `apply_frame` up to its cues. -/
def applyFrame (world : ReplayWorld R) (frame : ReplicationReplayFrame) : Bool × ReplayWorld R :=
  match readBits 16 frame.payload with
  | none => (false, world)
  | some (count, stream) =>
    match world.applyRecords frame.frame count [] stream with
    | (world, _, none) => (false, world)
    | (world, fullReplayIds, some _) =>
      (true, if frame.kind = .full then world.destroyStale fullReplayIds else world)

/-- `rediscover_all_replicated_entities` on the session's registry. -/
def rediscover (world : ReplayWorld R) : ReplayWorld R :=
  match world.server.rediscoverAllReplicatedEntities (view world.registry) with
  | .ok server => { world with server }
  | .error exception => { world with thrown := some exception }

/-- `set_frame_without_broadcast`; nothing is done after an exception. -/
def setFrameWithoutBroadcast (frame : SyncFrame) (world : ReplayWorld R) : Bool × ReplayWorld R :=
  if world.thrown.isSome || frame = 0 then (false, world)
  else (true, { world with server := { world.server with core := { world.server.core with frame } } })

end ReplayWorld

section

variable {R : Type} [ReplayRegistry R]

/-- What a session plays on; the cues of a frame and a tick of the replay server are given. -/
def replayStage (applyCues : ReplicationReplayFrame → ReplayWorld R → Bool × ReplayWorld R)
    (advanceFrame : SyncFrame → ReplayWorld R → Bool × ReplayWorld R) : ReplayStage (ReplayWorld R) where
  forgetEntities world := { world with entities := [] }
  applyFrame frame includeCues world :=
    match world.applyFrame frame with
    | (false, world) => (false, world)
    | (true, world) => if includeCues then applyCues frame world else (true, world)
  rediscoverAllReplicatedEntities := ReplayWorld.rediscover
  setFrameWithoutBroadcast := ReplayWorld.setFrameWithoutBroadcast
  advanceFrameWithoutSimulating := advanceFrame

/-! ## Network sessions -/

/-- `ReplicationReplayNetworkSessionOptions`, without the share that the budget is told. -/
structure ReplicationReplayNetworkSessionOptions where
  sourceServer : Option ReplicationServer
  client : ClientId

/-- `attach_network_session_bandwidth`: a client has a budget where it has a replicator. -/
def attachNetworkSessionBandwidth (replayServer : ReplicationServer)
    (options : ReplicationReplayNetworkSessionOptions) :
    Bool :=
  match options.sourceServer with
  | none => false
  | some source =>
    options.client != invalidClientId && (source.clientIndex? options.client).isSome &&
      (replayServer.clientIndex? options.client).isSome

/-- `begin_network_session` -/
def ReplicationReplayStreamer.beginNetworkSession (stage : ReplayStage (ReplayWorld R))
    (streamer : ReplicationReplayStreamer) (focusFrame : SyncFrame) (options : ReplicationReplayNetworkSessionOptions)
    (session : ReplicationReplayStreamSession) (world : ReplayWorld R) :
    Bool × ReplicationReplayStreamSession × ReplayWorld R :=
  match streamer.beginSession stage focusFrame session world with
  | (false, session, world) => (false, session, world)
  | (true, session, world) =>
    if attachNetworkSessionBandwidth world.server options then (true, session, world)
    else (false, {}, stage.forgetEntities world)

end

end AshiatoSync
