import AshiatoSync.ClientApply
import AshiatoSync.Lib.Rows

/-!
# The frame ring store, byte by byte

`frame_payload_ring.hpp` and `frame_ring_store.cpp`: an entity has a ring of frame
metadata and one array with the payloads of all slots, `payloadStride` bytes each.
-/

namespace AshiatoSync

structure FramePresentationOrigin where
  valid : Bool := false
  writeGeneration : Nat := 0
  writeSource : FrameWriteSource := .unknown
  payloadHash : Nat := 0
  boundaryCorrected : Bool := false
  deriving DecidableEq, Repr

structure FrameMetadata where
  frame : SyncFrame := 0
  valid : Bool := false
  entityPresent : Bool := false
  componentApplyMask : Mask := 0
  tagMask : Mask := 0
  presentMask : Mask := 0
  writeGeneration : Nat := 0
  writeSource : FrameWriteSource := .unknown
  presentationOrigin : FramePresentationOrigin := {}
  deriving DecidableEq, Repr

/-! ## One entity -/

structure FramePayloadRing where
  metadata : List FrameMetadata := []
  payloads : Bytes := []
  payloadStride : Nat := 0
  deriving Repr

namespace FramePayloadRing

def ensure (ring : FramePayloadRing) (capacity : Nat) : FramePayloadRing :=
  if ring.metadata.isEmpty then { ring with metadata := List.replicate capacity {} } else ring

def slotFor (ring : FramePayloadRing) (frame : SyncFrame) : Nat := frame &&& (ring.metadata.length - 1)

def metadataAt (ring : FramePayloadRing) (slot : Nat) : FrameMetadata := ring.metadata.getD slot {}

/-- `ensure_payload_stride`: a greater stride lays the payloads out anew. -/
def ensurePayloadStride (ring : FramePayloadRing) (payloadStride : Nat) : FramePayloadRing :=
  if payloadStride ≤ ring.payloadStride then
    if ring.payloads.length ≠ ring.metadata.length * ring.payloadStride then
      { ring with payloads := List.replicate (ring.metadata.length * ring.payloadStride) 0 }
    else ring
  else if ring.payloadStride = 0 then
    { ring with payloadStride, payloads := List.replicate (ring.metadata.length * payloadStride) 0 }
  else
    { ring with
      payloadStride
      payloads := Rows.widen 0 ring.payloads ring.metadata.length ring.payloadStride payloadStride }

def clearPayloads (ring : FramePayloadRing) : FramePayloadRing :=
  { ring with payloads := List.replicate ring.payloads.length 0 }

def payload (ring : FramePayloadRing) (slot : Nat) : Option Bytes :=
  if ring.payloadStride = 0 ∨ ring.payloads.isEmpty then none
  else some (Rows.row ring.payloads ring.payloadStride slot)

def storeMetadata (ring : FramePayloadRing) (slot : Nat) (f : FrameMetadata → FrameMetadata) : FramePayloadRing :=
  { ring with metadata := ring.metadata.modify slot f }

def storePayload (ring : FramePayloadRing) (slot : Nat) (bytes : Bytes) : FramePayloadRing :=
  { ring with payloads := Rows.store ring.payloads (slot * ring.payloadStride) bytes }

end FramePayloadRing

/-! ## The store -/

structure FrameRingCapacity where
  value : Nat := 64
  isPowerOfTwo : value ≠ 0 ∧ value &&& (value - 1) = 0 := by decide

structure ClientFrameRingStore where
  capacity : FrameRingCapacity := {}
  writeGenerationCounter : Nat := 0
  rings : List FramePayloadRing := []

structure FrameDataView where
  tagMask : Mask
  presentMask : Mask
  bytes : Option Bytes
  byteCount : Nat
  deriving DecidableEq, Repr

structure EntityFrameView where
  frame : SyncFrame
  valid : Bool
  entityPresent : Bool
  componentApplyMask : Mask
  writeGeneration : Nat
  writeSource : FrameWriteSource
  presentationCacheHit : Bool
  presentationOrigin : FramePresentationOrigin
  baseline : FrameDataView
  deriving DecidableEq, Repr

structure MutableEntityFrameView where
  slot : Nat
  hasBytes : Bool
  byteCount : Nat
  deriving DecidableEq, Repr

structure FrameSample where
  frame : SyncFrame
  valid : Bool
  entityPresent : Bool
  componentApplyMask : Mask
  tagMask : Mask
  presentMask : Mask
  bytes : Bytes
  deriving DecidableEq, Repr

def makeView (ring : FramePayloadRing) (slot : Nat) : EntityFrameView :=
  let sample := ring.metadataAt slot
  { frame := sample.frame, valid := sample.valid, entityPresent := sample.entityPresent
    componentApplyMask := sample.componentApplyMask, writeGeneration := sample.writeGeneration
    writeSource := sample.writeSource, presentationCacheHit := false, presentationOrigin := sample.presentationOrigin
    baseline := {
      tagMask := sample.tagMask, presentMask := sample.presentMask, bytes := ring.payload slot
      byteCount := ring.payloadStride } }

namespace ClientFrameRingStore

def ring (store : ClientFrameRingStore) (e : Nat) : FramePayloadRing := store.rings.getD e {}

def modifyRing (store : ClientFrameRingStore) (e : Nat) (f : FramePayloadRing → FramePayloadRing) :
    ClientFrameRingStore :=
  { store with rings := store.rings.modify e f }

def empty (store : ClientFrameRingStore) (e : Nat) : Bool :=
  decide (e ≥ store.rings.length) || (store.ring e).metadata.isEmpty

def ensure (store : ClientFrameRingStore) (e : Nat) : ClientFrameRingStore :=
  let store := if e ≥ store.rings.length then
      { store with rings := store.rings ++ List.replicate (e + 1 - store.rings.length) {} }
    else store
  store.modifyRing e (·.ensure store.capacity.value)

def clear (store : ClientFrameRingStore) (e : Nat) : ClientFrameRingStore :=
  if e ≥ store.rings.length then store
  else store.modifyRing e fun ring => { ring with metadata := ring.metadata.map fun _ => {} }.clearPayloads

def reset (store : ClientFrameRingStore) (e : Nat) : ClientFrameRingStore :=
  if e ≥ store.rings.length then store else store.modifyRing e fun _ => {}

def clearAll (store : ClientFrameRingStore) : ClientFrameRingStore :=
  (List.range store.rings.length).foldl clear store

/-! ### Reads -/

def contains (store : ClientFrameRingStore) (e : Nat) (frame : SyncFrame) : Bool :=
  if store.empty e then false
  else
    let sample := (store.ring e).metadataAt ((store.ring e).slotFor frame)
    sample.valid && sample.frame == frame

def view (store : ClientFrameRingStore) (e : Nat) (frame : SyncFrame) : Option EntityFrameView :=
  if !store.contains e frame then none else some (makeView (store.ring e) ((store.ring e).slotFor frame))

/-- One slot of the loop of `latest_present`. -/
def laterPresent (ring : FramePayloadRing) (latest : Option Nat) (slot : Nat) : Option Nat :=
  let sample := ring.metadataAt slot
  if !sample.valid || !sample.entityPresent then latest
  else
    match latest with
    | none => some slot
    | some latestSlot => if sample.frame > (ring.metadataAt latestSlot).frame then some slot else latest

def latestPresent (store : ClientFrameRingStore) (e : Nat) : Option EntityFrameView :=
  if store.empty e then none
  else
    let ring := store.ring e
    ((List.range ring.metadata.length).foldl (laterPresent ring) none).map (makeView ring)

/-! ### Writes -/

def startMetadata (frame : SyncFrame) (generation : Nat) (source : FrameWriteSource) : FrameMetadata :=
  { frame, valid := true, writeGeneration := generation, writeSource := source }

def beginWrite (store : ClientFrameRingStore) (e : Nat) (frame : SyncFrame) (payloadSize : Nat)
    (source : FrameWriteSource) : ClientFrameRingStore × MutableEntityFrameView :=
  let store := (store.ensure e).modifyRing e (·.ensurePayloadStride payloadSize)
  let ring := store.ring e
  let slot := ring.slotFor frame
  let generation := store.writeGenerationCounter + 1
  let store := { store with writeGenerationCounter := generation }.modifyRing e
    (·.storeMetadata slot fun _ => startMetadata frame generation source)
  let hasBytes := (ring.payload slot).isSome
  let store := if hasBytes then
      store.modifyRing e (·.storePayload slot (List.replicate ring.payloadStride 0))
    else store
  (store, { slot, hasBytes, byteCount := ring.payloadStride })

/-- What a caller stores through the view: it cannot reach the frame, and no byte past the slot. -/
def storeThrough (store : ClientFrameRingStore) (e : Nat) (view : MutableEntityFrameView)
    (stores : FrameMetadata → FrameMetadata) (bytes : Bytes) : ClientFrameRingStore :=
  let store := store.modifyRing e (·.storeMetadata view.slot fun m => { stores m with frame := m.frame })
  if view.hasBytes then store.modifyRing e (·.storePayload view.slot (bytes.take view.byteCount)) else store

def sampleMetadata (sample : FrameSample) (origin : FramePresentationOrigin) (m : FrameMetadata) : FrameMetadata :=
  { m with
    valid := sample.valid, entityPresent := sample.entityPresent, componentApplyMask := sample.componentApplyMask
    presentationOrigin := origin, tagMask := sample.tagMask, presentMask := sample.presentMask }

def write (store : ClientFrameRingStore) (e : Nat) (sample : FrameSample) (source : FrameWriteSource)
    (origin : FramePresentationOrigin) : ClientFrameRingStore × Except String Unit :=
  let (store, view) := store.beginWrite e sample.frame sample.bytes.length source
  let store := store.modifyRing e (·.storeMetadata view.slot (sampleMetadata sample origin))
  if view.byteCount ≠ 0 then
    if !view.hasBytes then (store, .error "frame payload storage is unavailable")
    else if !sample.bytes.isEmpty then (store.modifyRing e (·.storePayload view.slot sample.bytes), .ok ())
    else (store, .ok ())
  else (store, .ok ())

end ClientFrameRingStore

end AshiatoSync
