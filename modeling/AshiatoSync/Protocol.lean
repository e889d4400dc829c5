import AshiatoSync.Types

/-!
# The server update format

Records as the update writer lays them out, and their encoding, from which the
scheduler takes every size it compares with the MTU and the byte budget.
`BitBuffer` is LSB-first.
-/

namespace AshiatoSync

/-! ## Constants -/

def messageBits : Nat := 3
def networkEntityIdBits : Nat := 32
def networkEntityIdTier1Bits : Nat := 23
def networkEntityIdTier1Max : Nat := 2 ^ networkEntityIdTier1Bits - 1
def baselineFrameDeltaBits : Nat := 5
def maxBaselineFrameDelta : Nat := 2 ^ baselineFrameDeltaBits - 1
def cueFrameDeltaBits : Nat := 7
def maxCueFrameDelta : Nat := 2 ^ cueFrameDeltaBits - 1
def baselineRetentionCount : Nat := 64
def maxCuePayloadBits : Nat := 64 * 8

/-- `protocol::Descriptor`: the fields the server reads. -/
structure ProtocolDescriptor where
  maxPendingPacketAcksPerClient : Nat := 255
  networkEntityIdTier0Bits : Nat := 11

def bytesForBits (bits : Nat) : Nat := (bits + 7) / 8

/-- `bits_for_range`: the bit length of `value_count - 1`, at least 1. -/
def bitsForRange (valueCount : Nat) : Nat :=
  if valueCount ≤ 1 then 1 else Nat.log2 (valueCount - 1) + 1

def packetIdBitsForMaxPending (maxPending : Nat) : Nat :=
  if maxPending ≥ 2 ^ 32 - 1 then 32
  else
    let bits := bitsForRange (maxPending + 1)
    if bits > 32 then 32 else bits

def packetIdBits (descriptor : ProtocolDescriptor) : Nat :=
  packetIdBitsForMaxPending descriptor.maxPendingPacketAcksPerClient

def packetIdMask (bits : Nat) : Nat := if bits ≥ 32 then 2 ^ 32 - 1 else 2 ^ bits - 1

def serverUpdateHeaderBits (descriptor : ProtocolDescriptor) : Nat :=
  messageBits + 32 + packetIdBits descriptor + 32 + 16

/-! ## Fields -/

/-- `write_unsigned_bits`: the low `n` bits, least significant first. -/
def unsignedBits (value n : Nat) : Bits := (List.range n).map value.testBit

def networkEntityIdTier0Max (tier0Bits : Nat) : Nat := 2 ^ tier0Bits - 1

def networkEntityIdEncodedBits (networkId tier0Bits : Nat) : Nat :=
  if networkId ≤ networkEntityIdTier0Max tier0Bits then tier0Bits + 1
  else if networkId ≤ networkEntityIdTier1Max then 25
  else 34

def writeNetworkEntityId (networkId tier0Bits : Nat) : Bits :=
  if networkId ≤ networkEntityIdTier0Max tier0Bits then false :: unsignedBits networkId tier0Bits
  else if networkId ≤ networkEntityIdTier1Max then
    true :: false :: unsignedBits networkId networkEntityIdTier1Bits
  else true :: true :: unsignedBits networkId networkEntityIdBits

/-- `serialize_varint2_raw` of a frame relative to the transmitted one. -/
def writeFrameBack (maxDelta deltaBits : Nat) (current earlier : SyncFrame) : Bits :=
  if earlier ≤ current ∧ current - earlier ≤ maxDelta then
    false :: unsignedBits (current - earlier) deltaBits
  else true :: unsignedBits earlier 32

def writeBaselineFrame : SyncFrame → SyncFrame → Bits :=
  writeFrameBack maxBaselineFrameDelta baselineFrameDeltaBits

def writeCueFrame : SyncFrame → SyncFrame → Bits :=
  writeFrameBack maxCueFrameDelta cueFrameDeltaBits

/-! ## Records -/

structure WireCue where
  frame : SyncFrame
  type : SyncCueTypeId
  payload : Bits
  deriving DecidableEq, Repr

/-- The part of an update record after its network id, with the tag mask and the
component payloads that are on the wire. -/
inductive UpdateBody where
  | full (archetype : SyncArchetypeId) (tagMask : Option Mask) (components : List (Nat × Bits))
  | delta (baselineFrame : SyncFrame) (tagMask : Option Mask) (components : List (Nat × Bits))
  deriving DecidableEq, Repr

structure UpdateRecord where
  networkId : Nat
  body : UpdateBody
  cues : List WireCue
  deriving DecidableEq, Repr

inductive WireRecord where
  | destroy (networkId : Nat)
  | update (record : UpdateRecord)
  deriving DecidableEq, Repr

def destroyRecordBits (networkId tier0Bits : Nat) : Nat :=
  1 + networkEntityIdEncodedBits networkId tier0Bits

def writePendingCues (frame : SyncFrame) (cues : List WireCue) : Bits :=
  (cues.flatMap fun cue => true :: (writeCueFrame frame cue.frame ++ unsignedBits cue.type 16 ++ cue.payload))
    ++ [false]

/-- The sync slots of a full record: slot 0 for the tags, slot `i + 1` for component `i`. -/
def presentSyncSlots (tagMask : Option Mask) (components : List (Nat × Bits)) : List Nat :=
  (if tagMask.isSome then [0] else []) ++ components.map fun c => c.1 + 1

def encodeFullBody (archetype : SyncArchetype) (tagMask : Option Mask) (components : List (Nat × Bits)) :
    Bits :=
  let syncSlots := syncSlotCount archetype
  let slotBits := bitsForRange syncSlots
  let present := presentSyncSlots tagMask components
  let usePresenceMask := decide (syncSlots < 16 + present.length * slotBits)
  let slotField (slot : Nat) := if usePresenceMask then [] else unsignedBits slot slotBits
  usePresenceMask ::
    ((if usePresenceMask then (List.range syncSlots).map fun slot => decide (slot ∈ present)
      else unsignedBits present.length 16) ++
    (match tagMask with
      | some mask => slotField 0 ++ unsignedBits mask.toNat archetype.tags.length
      | none => []) ++
    components.flatMap fun c => slotField (c.1 + 1) ++ c.2)

def encodeDeltaBody (archetype : SyncArchetype) (tagMask : Option Mask) (components : List (Nat × Bits)) :
    Bits :=
  tagMask.isSome ::
    (((List.range archetype.components.length).map fun i => decide (i ∈ components.map Prod.fst)) ++
    (match tagMask with
      | some mask => unsignedBits mask.toNat archetype.tags.length
      | none => []) ++
    components.flatMap fun c => c.2)

/-- The payload `write_entity_record` produces at `frame`. -/
def encodeUpdateRecord (tier0Bits : Nat) (archetype : SyncArchetype) (frame : SyncFrame) (record : UpdateRecord) :
    Bits :=
  writeNetworkEntityId record.networkId tier0Bits ++
  (match record.body with
    | .full id tagMask components =>
      true :: (unsignedBits id 32 ++ encodeFullBody archetype tagMask components)
    | .delta baselineFrame tagMask components =>
      false :: (writeBaselineFrame frame baselineFrame ++ encodeDeltaBody archetype tagMask components)) ++
  writePendingCues frame record.cues

end AshiatoSync
