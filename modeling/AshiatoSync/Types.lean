import Mathlib.Algebra.Order.Ring.Nat
import Mathlib.Data.List.Basic

/-!
# The shared types of the replication library

Entities, masks, archetypes and the component operations a program registers.
A `uint32_t`/`uint64_t` counter is a `Nat`, with `% 2 ^ 32` where the source can
wrap; a 64-bit mask is a `BitVec 64`; an all-ones sentinel index is `none`.
`float` values are bit patterns, compared and added by the operations of
`FloatOps`.
-/

namespace AshiatoSync

abbrev SyncFrame := Nat
abbrev ClientId := Nat
abbrev PeerId := Nat
abbrev ComponentId := Nat
abbrev SyncArchetypeId := Nat
abbrev SyncCueTypeId := Nat
abbrev ClientEntityNetworkId := Nat
abbrev Mask := BitVec 64
abbrev Bytes := List UInt8
abbrev Bits := List Bool
abbrev Float32Bits := BitVec 32

def invalidClientId : ClientId := 255
def invalidPeerId : PeerId := 2 ^ 64 - 1
def maxClientEntityNetworkIdClient : ClientId := 254
def maxClientLocalWireNetworkId : Nat := 2 ^ 20 - 1
def allComponents : Mask := BitVec.allOnes 64

/-- `make_client_entity_network_id`: client (8 bits), wire id (20 bits), version (32 bits). -/
def makeClientEntityNetworkId (client : ClientId) (wireNetworkId version : Nat) : ClientEntityNetworkId :=
  (client % 2 ^ 8) * 2 ^ 52 + (wireNetworkId % 2 ^ 20) * 2 ^ 32 + version % 2 ^ 32

def networkIdClient (client : ClientId) : ClientId := if client = invalidClientId then 0 else client

/-- An ECS entity: its value is the pair, its index is what `entity_index` returns. -/
structure Entity where
  index : Nat
  version : Nat
  deriving DecidableEq, Repr, Inhabited

inductive StdException where
  | lengthError (what : String)
  | logicError (what : String)
  deriving DecidableEq, Repr

/-! ## Floats -/

structure FloatOps where
  lt : Float32Bits → Float32Bits → Bool
  add : Float32Bits → Float32Bits → Float32Bits
  sub : Float32Bits → Float32Bits → Float32Bits
  /-- `ceil(relevance_seconds / fixed_dt_seconds)`, `none` when invalid or not finite. -/
  relevanceFrames : Float32Bits → Option Nat

def floatZero : Float32Bits := 0
def floatMax : Float32Bits := 0x7f7fffff
def floatQuietNaN : Float32Bits := 0x7fc00000

/-! ## Component operations -/

/-- What a serializer writes: its bits, after the network ids it asks for. -/
inductive RecordWriter where
  | done (bits : Bits)
  | lookup (entity : Entity) (next : Nat → RecordWriter)

/-- What a deserializer reads: the bytes and the unread rest, after the ids and entities it resolves. -/
inductive RecordReader where
  | fail
  | done (bytes : Bytes) (rest : Bits)
  | networkIdForWire (wireNetworkId : Nat) (next : ClientEntityNetworkId → RecordReader)
  | localEntity (id : ClientEntityNetworkId) (next : Option Entity → RecordReader)

structure SerializationContext where
  currentFrame : SyncFrame
  previousFrame : SyncFrame
  deriving DecidableEq, Repr

/-- `SyncComponentOps`.  Component values are raw bytes on both sides of `quantize`. -/
structure SyncComponentOps where
  quantizedSize : Nat
  referencesEntities : Bool
  quantize : Bytes → Bytes
  serialize : Option Bytes → Bytes → SerializationContext → RecordWriter
  deserialize : Option Bytes → Bits → SerializationContext → RecordReader
  /-- The value `push_to_registry` writes, `none` when it refuses. -/
  pushToRegistry : Bytes → Option Bytes
  /-- `interpolate(from, to, alpha)`, with `alpha` the `float` quotient of the two frame distances. -/
  interpolate : Option (Bytes → Bytes → Nat → Nat → Bytes)
  /-- `should_roll_back(predicted, authoritative)`. -/
  shouldRollBack : Option (Bytes → Bytes → Bool)

inductive ReplicationAudience where
  | all
  | owner
  | everyoneExceptOwner
  deriving DecidableEq, Repr

def replicationAudienceMatches (audience : ReplicationAudience) (owner client : ClientId) : Bool :=
  match audience with
  | .owner => owner != invalidClientId && owner == client
  | .everyoneExceptOwner => owner == invalidClientId || owner != client
  | .all => true

structure SyncTagReplication where
  tag : ComponentId
  audience : ReplicationAudience

/-- A `ComponentReplication` with its entry of `component_ops`; `interpolated` is
`ComponentInterpolation::Interpolate`. -/
structure ComponentReplication where
  component : ComponentId
  audience : ReplicationAudience
  ops : SyncComponentOps
  interpolated : Bool := false

/-- `define_archetype` throws on duplicate components. -/
structure SyncArchetype where
  tags : List SyncTagReplication
  components : List ComponentReplication
  distinct : (components.map ComponentReplication.component).Nodup := by decide

structure SyncCueOps where
  serialize : Bytes → RecordWriter
  deserialize : Option (Bits → SerializationContext → RecordReader)
  equals : Option (Bytes → Bytes → Bool)
  play : Option (Entity → Bytes → SyncFrame → Bool)
  rollback : Option (Entity → Bytes → Bool)
  referencesEntities : Bool

structure SyncSettings where
  archetypes : List SyncArchetype
  /-- The keys of `component_ops`, in iteration order. -/
  componentOps : List ComponentId
  cueOps : List SyncCueOps

/-! ## Quantized frame data -/

/-- `QuantizedFrameData`, with `bytes` cut at the archetype's component offsets. -/
structure QuantizedFrameData where
  tagMask : Mask := 0
  presentMask : Mask := 0
  bytes : List Bytes := []
  deriving DecidableEq, Repr, Inhabited

def initFrameData (archetype : SyncArchetype) : Option QuantizedFrameData :=
  if archetype.tags.length > 64 || archetype.components.length > 63 then none
  else some { bytes := archetype.components.map fun c => List.replicate c.ops.quantizedSize 0 }

def syncSlotCount (archetype : SyncArchetype) : Nat := archetype.components.length + 1
def hasTagSlot (archetype : SyncArchetype) : Bool := !archetype.tags.isEmpty
def frameHasComponent (frame : QuantizedFrameData) (i : Nat) : Bool := frame.presentMask.getLsbD i

/-- `frame_component_data`: the component's bytes, when present. -/
def frameComponentData (frame : QuantizedFrameData) (i : Nat) : Option Bytes :=
  if frameHasComponent frame i then frame.bytes[i]? else none

/-- A write through `mutable_frame_component_data`. -/
def writeFrameComponent (frame : QuantizedFrameData) (i : Nat) (value : Bytes) : QuantizedFrameData :=
  { frame with
    presentMask := frame.presentMask ||| BitVec.twoPow 64 i
    bytes := frame.bytes.set i value }

/-- The low `n` bits of a mask: what writing `n` bits and reading them back leaves. -/
def lowBits (n : Nat) (m : Mask) : Mask := m &&& BitVec.ofNat 64 (2 ^ n - 1)

/-! ## Registry and dirty view -/

/-- What the server reads of the ECS registry. -/
structure Registry where
  alive : Entity → Bool
  replicated : Entity → Option SyncArchetypeId
  /-- The entities `view<const Replicated>` visits, in its order. -/
  replicatedView : List Entity
  networkOwner : Entity → Option ClientId
  get : Entity → ComponentId → Option Bytes
  hasTag : Entity → ComponentId → Bool

inductive DirtyKey where
  | replicated
  | networkOwner
  | component (id : ComponentId)
  deriving DecidableEq, Repr

structure DirtyView where
  dirty : DirtyKey → List Entity
  added : DirtyKey → List Entity
  removed : DirtyKey → List Entity

/-- A cue taken from the dispatcher: `value` is set when it is serialized per client. -/
structure QueuedSyncCue where
  entity : Entity
  frame : SyncFrame
  type : SyncCueTypeId
  relevanceSeconds : Float32Bits
  payload : Bits
  value : Option Bytes
  onlyReplicateToOwner : Bool

structure EntityReplicationDecision where
  priority : Float32Bits
  componentMask : Mask
  deriving DecidableEq, Repr

end AshiatoSync
