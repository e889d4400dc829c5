import AshiatoSync.Lib.Monadic
import AshiatoSync.Server

/-!
# What a server call is made of

Every call of `exec` is a sequence of moves: small changes of one replicator and
the shared frames, or of the slots with no client involved.  An invariant of the
server is proved move by move; `Decompose` shows that calls are made of moves.

A move of a `strict` run also knows what the frame numbers promise: a frame is
never sent twice to a client.
-/

namespace AshiatoSync

/-! ## Frames and records -/

structure WellFormedData (archetype : SyncArchetype) (data : QuantizedFrameData) : Prop where
  tagCount : archetype.tags.length ≤ 64
  componentCount : archetype.components.length ≤ 63
  blocks : data.bytes.length = archetype.components.length
  tagMask : ∀ i, archetype.tags.length ≤ i → data.tagMask.getLsbD i = false
  presentMask : ∀ i, archetype.components.length ≤ i → data.presentMask.getLsbD i = false
  quantized : ∀ i c bytes, archetype.components[i]? = some c → frameComponentData data i = some bytes →
    ∃ value, bytes = c.ops.quantize value

inductive Obtained (core : ServerCore) (slot : Nat) : ServerCore → Nat → Prop where
  | reuse {q : Nat} {f : QuantizedFrame} {r : ReplicatedSlot} :
      core.replicated[slot]? = some r → core.quantizedFrames[q]? = some f → f.active = true →
      f.slot = slot → f.frame = core.frame → f.archetype = r.archetype → Obtained core slot core q
  | create {core' : ServerCore} {q : Nat} {r : ReplicatedSlot} {archetype : SyncArchetype}
      {scratch : QuantizedFrameData × List Nat} :
      core.replicated[slot]? = some r → core.settings.archetypes[r.archetype]? = some archetype →
      WellFormedData archetype scratch.1 →
      createQuantizedFrame core r slot core.frame scratch = .ok (core', q) → Obtained core slot core' q

inductive RecordWriter.Outputs : RecordWriter → Bits → Prop where
  | done (bits : Bits) : Outputs (.done bits) bits
  | lookup {entity : Entity} {next : Nat → RecordWriter} {bits : Bits} (networkId : Nat) :
      Outputs (next networkId) bits → Outputs (.lookup entity next) bits

structure ComponentsWritten (archetype : SyncArchetype) (previous : Option QuantizedFrameData)
    (current : QuantizedFrameData) (context : SerializationContext) (indices : List Nat)
    (payloads : List (Nat × Bits)) : Prop where
  indices : payloads.map Prod.fst = indices
  written : ∀ p ∈ payloads, ∃ c bytes, archetype.components[p.1]? = some c ∧
    frameComponentData current p.1 = some bytes ∧
    (previous.isSome → (previous.bind fun frame => frameComponentData frame p.1).isSome) ∧
    (c.ops.serialize (previous.bind fun frame => frameComponentData frame p.1) bytes context).Outputs p.2

inductive BodyWritten (core : ServerCore) (state : ClientEntityState) (quantized : QuantizedFrame)
    (archetype : SyncArchetype) (componentMask : Mask) : UpdateBody → Bool → Prop where
  | full {payloads : List (Nat × Bits)} :
      deltaBaseline core state quantized.archetype quantized.data = none →
      ComponentsWritten archetype none quantized.data ⟨quantized.frame, 0⟩
        (enabledComponents archetype quantized.data componentMask) payloads →
      BodyWritten core state quantized archetype componentMask
        (.full quantized.archetype
          (if hasTagSlot archetype then some (lowBits archetype.tags.length quantized.data.tagMask) else none)
          payloads) true
  | delta {baselineFrame : SyncFrame} {previous : QuantizedFrameData} {payloads : List (Nat × Bits)} :
      deltaBaseline core state quantized.archetype quantized.data = some (baselineFrame, previous) →
      ComponentsWritten archetype (some previous) quantized.data ⟨quantized.frame, baselineFrame⟩
        (changedComponents archetype previous quantized.data componentMask) payloads →
      BodyWritten core state quantized archetype componentMask
        (.delta baselineFrame
          (if hasTagSlot archetype && lowBits archetype.tags.length quantized.data.tagMask !=
              lowBits archetype.tags.length previous.tagMask then
            some (lowBits archetype.tags.length quantized.data.tagMask)
          else none) payloads) false

structure RecordWritten (core : ServerCore) (state : ClientEntityState) (q : Nat) (componentMask : Mask)
    (serialized : SerializedEntity) : Prop where
  frame : serialized.quantizedFrame = q
  networkId : serialized.record.networkId = state.networkId
  cues : serialized.record.cues = state.pendingCues.map fun cue => WireCue.mk cue.frame cue.type cue.payload
  body : ∃ quantized archetype, core.quantizedFrames[q]? = some quantized ∧
    core.settings.archetypes[quantized.archetype]? = some archetype ∧
    BodyWritten core state quantized archetype componentMask serialized.record.body serialized.fullState

def WrittenRecord.ackRecord (w : WrittenRecord) : PacketAckRecord where
  entity := w.entity
  frame := w.frame
  destroy := match w.content with
    | .destroy => true
    | .update .. => false
  written := w

def WrittenRecord.slot? (w : WrittenRecord) : Option Nat :=
  match w.content with
  | .destroy => none
  | .update slot _ _ _ _ _ _ => some slot

def ServerClientReplicator.logWritten (client : ServerClientReplicator) (w : WrittenRecord) :
    ServerClientReplicator :=
  { client with trace := { client.trace with written := w :: client.trace.written } }

structure ServerClientReplicator.InPacket (client : ServerClientReplicator) (frame : SyncFrame) (w : WrittenRecord) :
    Prop where
  written : w ∈ client.trace.written
  frame : w.frame = frame
  queued : w.content = .destroy → ∃ d ∈ client.destroys,
    d.entity = w.entity ∧ d.networkId = w.networkId ∧ d.networkVersion = w.networkVersion

/-! ## Moves of one replicator -/

inductive LocalMove (strict : Prop) (core : ServerCore) (client : ServerClientReplicator) :
    ServerCore → ServerClientReplicator → Prop where
  | ensureCapacity : LocalMove strict core client core (client.ensureCapacity core.replicated.length)
  | markDirty {slot : Nat} : core.replicatedSlotActive slot = true →
      LocalMove strict core client core (client.markDirty core slot core.frame)
  | clearUnsent {slot : Nat} : client.states[slot]? = some {} →
      LocalMove strict core client (client.clearState core slot).1 (client.clearState core slot).2
  | enqueueDestroy {slot : Nat} {r : ReplicatedSlot} :
      core.replicated[slot]? = some r → r.active = true →
      LocalMove strict core client (client.enqueueDestroy core slot r.entity core.frame).1
        (client.enqueueDestroy core slot r.entity core.frame).2
  | clearDirty {slot : Nat} : core.replicatedSlotActive slot = false →
      LocalMove strict core client core (client.clearDirty slot)
  | beginSend (inputAckFrame : SyncFrame) :
      LocalMove strict core client core { client with epoch := client.epoch + 1, inputAckFrame }
  | expireCues : LocalMove strict core client core (client.expirePendingCues core.frame)
  | storeDecision {slot : Nat} (decision : EntityReplicationDecision) : core.replicatedSlotActive slot = true →
      LocalMove strict core client (client.storeDecision core slot decision).1
        (client.storeDecision core slot decision).2
  | accumulate {slot : Nat} : core.replicatedSlotActive slot = true → LocalMove strict core client core
      (client.modifyEntry slot (ServerClientReplicator.accumulatePriority core.options.floats))
  | boost {slot : Nat} : core.replicatedSlotActive slot = true → LocalMove strict core client core
      (client.modifyState slot fun s => { s with referencePriorityBoostPending := true })
  | allocate {slot networkId : Nat} {state : ClientEntityState} {client' : ServerClientReplicator} :
      core.replicatedSlotActive slot = true → client.states[slot]? = some state → state.hasNetworkId = false →
      client.allocateNetworkIdFor slot = .ok (client', networkId) → LocalMove strict core client core client'
  | sendDestroy {index : Nat} {destroy : ClientDestroyState} : client.destroys[index]? = some destroy →
      LocalMove strict core client core
        (({ client with destroys := client.destroys.set index { destroy with
            frame := core.frame, resetEpoch := client.epoch } }).logWritten {
          entity := destroy.entity, networkId := destroy.networkId, networkVersion := destroy.networkVersion
          frame := core.frame, content := .destroy })
  | refuse {core' : ServerCore} {slot q : Nat} : core.replicatedSlotActive slot = true →
      Obtained core slot core' q →
      LocalMove strict core client ((core'.retainQuantizedFrame q).releaseQuantizedFrame q) client
  | accept {core' : ServerCore} {slot q : Nat} {r : ReplicatedSlot} {state : ClientEntityState}
      {quantized : QuantizedFrame} {componentMask : Mask} {serialized : SerializedEntity} {w : WrittenRecord} :
      core.replicated[slot]? = some r → r.active = true → Obtained core slot core' q →
      client.states[slot]? = some state → state.hasNetworkId = true →
      core'.quantizedFrames[q]? = some quantized → RecordWritten core' state q componentMask serialized →
      w = { entity := r.entity, networkId := state.networkId, networkVersion := state.networkVersion
            frame := core.frame
            content := .update slot q quantized.archetype quantized.data componentMask serialized.record
              state.pendingCues } →
      (strict → 0 < core.frame ∧ core.frame + 1 < 2 ^ 32 ∧ componentMask = state.componentMask ∧
        ∀ v ∈ client.trace.written, v.slot? ≠ none → v.slot? = some slot ∨ v.networkId = state.networkId →
          v.frame < core.frame) →
      LocalMove strict core client
        (SendLoop.recordSent (core'.retainQuantizedFrame q) (client.logWritten w) slot serialized).1
        (SendLoop.recordSent (core'.retainQuantizedFrame q) (client.logWritten w) slot serialized).2
  | sendPacket {entityCount recordsBits : Nat} {records : List WrittenRecord} :
      (∀ w ∈ records, client.InPacket core.frame w) → entityCount = records.length % 2 ^ 16 →
      (strict → 0 < core.frame ∧ core.frame + 1 < 2 ^ 32) →
      LocalMove strict core client core (client.sendPacket core core.frame entityCount records recordsBits
        (records.map WrittenRecord.ackRecord))
  | cleanupQueue : LocalMove strict core client core client.cleanupDirtyQueue
  | acknowledge {packet : PendingPacketAck} {record : PacketAckRecord} :
      packet ∈ client.ackTracker.pendingPacketAcks → record ∈ packet.records →
      LocalMove strict core client (client.acknowledgeRecord core packet record).1
        (client.acknowledgeRecord core packet record).2.1
  | forgetPackets {acks : List PendingPacketAck} (budget : List BudgetEvent) :
      acks.Sublist client.ackTracker.pendingPacketAcks →
      LocalMove strict core client core ({ client with budget }.setPacketAcks acks)
  | pushCue {slot : Nat} {state : ClientEntityState} (cue : PendingCue) : core.replicatedSlotActive slot = true →
      client.states[slot]? = some state →
      LocalMove strict core client core
        ((client.modifyState slot fun s => { s with pendingCues := s.pendingCues ++ [cue] }).logCall
          (.attachCue slot cue state.pending))

/-! ## Moves of the server -/

structure Activated (core : ServerCore) (entity : Entity) (slot : Nat) (core' : ServerCore) : Prop where
  allocated : ∃ archetype definition core₁, core.settings.archetypes[archetype]? = some definition ∧
    ReplicationServer.allocateReplicatedSlot core entity archetype = .ok (core₁, slot) ∧
    core' = ReplicationServer.initializeSlot core₁ slot entity definition

inductive Move (strict : Prop) : ReplicationServer → ReplicationServer → Prop where
  | setFrame {s : ReplicationServer} {frame : SyncFrame} : (strict → s.core.frame < frame) →
      Move strict s { s with core := { s.core with frame } }
  | generations {s : ReplicationServer} {slot : Nat} {which : SyncArchetype → List Nat} :
      Move strict s { s with core := ReplicationServer.bumpGenerations s.core slot which }
  | initialized {s : ReplicationServer} : Move strict s s.setInitialized
  | forget {s : ReplicationServer} {entity : Entity} :
      Move strict s { s with core := ReplicationServer.forgetEntity s.core entity }
  | activate {s : ReplicationServer} {entity : Entity} {slot : Nat} {core' : ServerCore} :
      Activated s.core entity slot core' → Move strict s { s with core := core' }
  | deactivate {s : ReplicationServer} {slot : Nat} {r : ReplicatedSlot} :
      s.core.replicated[slot]? = some r → r.active = true →
      (∀ client ∈ s.clients, ∀ state, client.states[slot]? = some state → state = {}) →
      (∀ client ∈ s.clients, ∀ entry, client.dirtyQueue.entries[slot]? = some entry →
        entry = { listed := entry.listed }) →
      Move strict s { s with core := ReplicationServer.deactivateSlot s.core slot r.entity }
  | client {s : ReplicationServer} {c : Nat} {client client' : ServerClientReplicator} {core' : ServerCore} :
      s.clients[c]? = some client → LocalMove strict s.core client core' client' →
      Move strict s (s.setClient c core' client')
  | connect {s : ReplicationServer} (peer : PeerId) (id : ClientId) :
      Move strict s { s with clients := s.clients ++ [{ id, peer }] }
  | disconnect {s : ReplicationServer} {c : Nat} {client : ServerClientReplicator} :
      s.clients[c]? = some client →
      Move strict s { core := (client.clearAll s.core).1, clients := ReplicationServer.swapRemove s.clients c }

def Moves (strict : Prop) : ReplicationServer → ReplicationServer → Prop := Relation.ReflTransGen (Move strict)

end AshiatoSync
