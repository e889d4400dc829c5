import AshiatoSync.Protocol

/-!
# The server's slots and quantized frames

`ServerCore` is the server without its clients: the replicated slots, the entity
indices over them and the reference-counted quantized frames the clients share.
Free lists are stacks with the back of the source's vector at the head.
-/

namespace AshiatoSync

/-! ## Options -/

structure BandwidthOptions where
  enabled : Bool := false
  transportOverheadBytesPerPacket : Nat := 28

structure ReplicationServerOptions where
  mtuBytes : Nat := 1200
  bandwidth : BandwidthOptions := {}
  protocol : ProtocolDescriptor := {}
  entityReplicationDecisionIntervalFrames : SyncFrame := 4
  maxBudgetRefusalsPerClientTick : Nat := 2
  floats : FloatOps

/-! ## State -/

structure ReplicatedSlot where
  entity : Entity
  archetype : SyncArchetypeId
  quantizedFrames : List Nat := []
  componentDirtyGenerations : List Nat := []
  sameFrameQuantizedFrame : Option Nat := none
  sameFrameQuantizedFrameFrame : SyncFrame := 0
  sameFrameCacheable : Bool := false
  active : Bool := false
  deriving DecidableEq, Repr

structure QuantizedFrame where
  slot : Nat := 0
  frame : SyncFrame := 0
  archetype : SyncArchetypeId := 0
  refCount : Nat := 0
  active : Bool := false
  data : QuantizedFrameData := {}
  dirtyGenerations : List Nat := []
  deriving DecidableEq, Repr

structure ServerCore where
  options : ReplicationServerOptions
  settings : SyncSettings
  frame : SyncFrame := 0
  replicated : List ReplicatedSlot := []
  freeReplicatedIndices : List Nat := []
  entityToReplicatedIndex : Entity → Option Nat := fun _ => none
  entityIndexToReplicatedIndex : Nat → Option Nat := fun _ => none
  activeReplicatedCount : Nat := 0
  replicatedInitialized : Bool := false
  quantizedFrames : List QuantizedFrame := []
  freeQuantizedFrames : List Nat := []

/-! ## Queries -/

def ServerCore.replicatedSlotActive (core : ServerCore) (slot : Nat) : Bool :=
  match core.replicated[slot]? with
  | some replicated => replicated.active
  | none => false

def ServerCore.quantizedFrameActive (core : ServerCore) (q : Nat) : Bool :=
  match core.quantizedFrames[q]? with
  | some frame => frame.active
  | none => false

def ServerCore.quantizedFrameFrame (core : ServerCore) (q : Nat) : SyncFrame :=
  match core.quantizedFrames[q]? with
  | some frame => frame.frame
  | none => 0

/-- `replicated_is_replicable` -/
def ServerCore.replicatedIsReplicable (core : ServerCore) (registry : Registry) (slot : Nat) : Bool :=
  match core.replicated[slot]? with
  | some replicated =>
    replicated.active && registry.alive replicated.entity && (registry.replicated replicated.entity).isSome
  | none => false

def ServerCore.chargedPacketBytes (core : ServerCore) (payloadBytes : Nat) : Nat :=
  payloadBytes +
    if core.options.bandwidth.enabled then core.options.bandwidth.transportOverheadBytesPerPacket else 0

/-! ## Reference counts -/

def ServerCore.retainQuantizedFrame (core : ServerCore) (q : Nat) : ServerCore :=
  { core with
    quantizedFrames := core.quantizedFrames.modify q fun f =>
      if f.active then { f with refCount := f.refCount + 1 } else f }

def ServerCore.releaseQuantizedFrame (core : ServerCore) (q : Nat) : ServerCore :=
  match core.quantizedFrames[q]? with
  | none => core
  | some current =>
    if !current.active then core
    else if 1 < current.refCount then
      { core with quantizedFrames := core.quantizedFrames.set q { current with refCount := current.refCount - 1 } }
    else
      -- the last reference, or a frame nobody retained: the index goes back to the free list
      { core with
        replicated := core.replicated.modify current.slot fun r =>
          { r with quantizedFrames := r.quantizedFrames.filter (· != q) }
        quantizedFrames := core.quantizedFrames.set q
          { current with refCount := 0, active := false, data := {}, dirtyGenerations := [] }
        freeQuantizedFrames := q :: core.freeQuantizedFrames }

def ServerCore.releaseBaseline (core : ServerCore) (baseline : Option Nat) : ServerCore :=
  match baseline with
  | some q => core.releaseQuantizedFrame q
  | none => core

/-- `same_quantized_frame_components` -/
def sameQuantizedFrameComponents (frame : QuantizedFrame) (data : QuantizedFrameData)
    (dirtyGenerations : List Nat) : Bool :=
  frame.data == data && frame.dirtyGenerations == dirtyGenerations

end AshiatoSync
