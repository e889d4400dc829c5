import Mathlib.Algebra.Order.Ring.Nat
import Mathlib.Data.List.Sort
import AshiatoSync.ServerState

/-!
# Sending a client its updates

`sendClient` is `UpdateScheduler::send_client`: candidates from the dirty queue,
ordered by accumulated priority behind the destroys, written into packets until
the client's byte budget or the refusal limit stops it.
-/

namespace AshiatoSync

/-! ## Priorities -/

def saturatingAdd (floats : FloatOps) (a b : Float32Bits) : Float32Bits :=
  if floats.lt (floats.sub floatMax a) b then floatMax else floats.add a b

def isFilteredPriority (floats : FloatOps) (priority : Float32Bits) : Bool := !floats.lt floatZero priority

/-- `reference_priority_boost`: half of the largest float. -/
def referencePriorityBoost : Float32Bits := 0x7effffff

def boostedCandidatePriority (floats : FloatOps) (age priority : Float32Bits) (referenceBoostPending : Bool) :
    Float32Bits :=
  let age := saturatingAdd floats age priority
  if referenceBoostPending then saturatingAdd floats age referencePriorityBoost else age

/-! ## Candidates -/

inductive SerializedCandidate where
  | update (slot : Nat) (priority : Float32Bits) (componentMask : Mask)
  | destroy (index : Nat)
  deriving DecidableEq, Repr

def SerializedCandidate.priority : SerializedCandidate → Float32Bits
  | .update _ priority _ => priority
  | .destroy _ => floatZero

namespace ServerClientReplicator

def decidedEntry (decision : EntityReplicationDecision) (entry : DirtyEntry) : DirtyEntry :=
  { entry with lastPriority := decision.priority, componentMask := decision.componentMask }

def decidedState (decision : EntityReplicationDecision) (state : ClientEntityState) : ClientEntityState :=
  { state with lastPriority := decision.priority, componentMask := decision.componentMask }

def storeDecision (core : ServerCore) (client : ServerClientReplicator) (slot : Nat)
    (decision : EntityReplicationDecision) : ServerCore × ServerClientReplicator :=
  match client.states[slot]? with
  | none => (core, client.modifyEntry slot (decidedEntry decision))
  | some state =>
    let client := (client.modifyEntry slot (decidedEntry decision)).modifyState slot (decidedState decision)
    -- reopened components require a full update to restore a shared baseline
    if decision.componentMask &&& ~~~state.componentMask ≠ 0 then client.invalidateEntityBaseline core slot
    else (core, client)

/-- `refresh_replication_decision_if_due` -/
def refreshReplicationDecisionIfDue (core : ServerCore) (client : ServerClientReplicator) (slot : Nat)
    (entry : DirtyEntry) (decider : Entity → EntityReplicationDecision) : ServerCore × ServerClientReplicator :=
  let interval := core.options.entityReplicationDecisionIntervalFrames
  let bucketDue := interval == 0 || slot % interval == core.frame % interval
  if !isFilteredPriority core.options.floats entry.lastPriority && !bucketDue then (core, client)
  else
    match core.replicated[slot]? with
    | none => (core, client)
    | some replicated => client.storeDecision core slot (decider replicated.entity)

def accumulatePriority (floats : FloatOps) (entry : DirtyEntry) : DirtyEntry :=
  { entry with priorityAccumulator := saturatingAdd floats entry.priorityAccumulator entry.lastPriority }

/-- The candidate of a replicable slot: refresh its decision, skip it when filtered, age it. -/
def updateCandidate (core : ServerCore) (client : ServerClientReplicator) (slot : Nat) (entry : DirtyEntry)
    (decider : Entity → EntityReplicationDecision) :
    ServerCore × ServerClientReplicator × Option SerializedCandidate :=
  let (core, client) := client.refreshReplicationDecisionIfDue core slot entry decider
  match client.dirtyQueue.entries[slot]? with
  | none => (core, client, none)
  | some entry =>
    if isFilteredPriority core.options.floats entry.lastPriority then (core, client, none)
    else
      let client := client.modifyEntry slot (accumulatePriority core.options.floats)
      match client.states[slot]? with
      | none => (core, client, none)
      | some state =>
        (core, client, some (.update slot
          (boostedCandidatePriority core.options.floats
            (accumulatePriority core.options.floats entry).priorityAccumulator floatZero
            state.referencePriorityBoostPending)
          entry.componentMask))

/-- `cleanup_dirty_queue` -/
def cleanupDirtyQueue (client : ServerClientReplicator) : ServerClientReplicator :=
  let entries := client.dirtyQueue.entries
  let keep (slot : Nat) := match entries[slot]? with
    | some entry => entry.queued
    | none => false
  { client with dirtyQueue := {
      entries := (client.dirtyQueue.dirtyReplicatedIndices.filter fun slot => !keep slot).foldl
        (fun entries slot => entries.modify slot fun e => { e with listed := false }) entries
      dirtyReplicatedIndices := client.dirtyQueue.dirtyReplicatedIndices.filter keep } }

end ServerClientReplicator

namespace ReplicationServer

def setClient (server : ReplicationServer) (c : Nat) (core : ServerCore) (client : ServerClientReplicator) :
    ReplicationServer :=
  { core, clients := server.clients.set c client }

/-- One step of the candidate loop: a slot that stopped being replicable is deactivated instead. -/
def collectCandidate (registry : Registry) (decider : Entity → EntityReplicationDecision) (c : Nat)
    (acc : ReplicationServer × List SerializedCandidate) (slot : Nat) :
    ReplicationServer × List SerializedCandidate :=
  let (server, candidates) := acc
  match server.clients[c]? with
  | none => acc
  | some client =>
    match client.dirtyQueue.entries[slot]? with
    | none => acc
    | some entry =>
      if !entry.queued || decide (entry.baselineFrame ≥ entry.dirtyFrame) then acc
      else if !server.core.replicatedIsReplicable registry slot then
        (if server.core.replicatedSlotActive slot then server.deactivateReplicated slot else server, candidates)
      else
        let (core, client, candidate) := client.updateCandidate server.core slot entry decider
        (server.setClient c core client, candidates ++ candidate.toList)

end ReplicationServer

/-- `stable_sort` by descending priority. -/
def sortByPriority (floats : FloatOps) (candidates : List SerializedCandidate) : List SerializedCandidate :=
  candidates.insertionSort fun a b => floats.lt a.priority b.priority = false

def destroyOrder (destroys : List ClientDestroyState) : List Nat :=
  (List.range destroys.length).insertionSort fun i j =>
    (destroys[i]?.map (·.resetEpoch)).getD 0 < (destroys[j]?.map (·.resetEpoch)).getD 0 ∨
    ((destroys[i]?.map (·.resetEpoch)).getD 0 = (destroys[j]?.map (·.resetEpoch)).getD 0 ∧ i ≤ j)

/-! ## Packets -/

structure SendLoop where
  core : ServerCore
  client : ServerClientReplicator
  remaining : Nat
  packetEntities : Nat := 0
  budgetRefusals : Nat := 0
  records : List WrittenRecord := []
  recordsBits : Nat := 0
  packetAckRecords : List PacketAckRecord := []
  chargedBytes : Nat := 0
  stoppedForBudget : Bool := false
  /-- Set by the `break` on too many refusals. -/
  broken : Bool := false

namespace SendLoop

def packetBytes (l : SendLoop) (moreBits : Nat) : Nat :=
  bytesForBits (serverUpdateHeaderBits l.core.options.protocol + l.recordsBits + moreBits)

def flush (l : SendLoop) : SendLoop :=
  let chargedBytes := l.core.chargedPacketBytes (l.packetBytes 0)
  { l with
    client := l.client.sendPacket l.core l.core.frame l.packetEntities l.records l.recordsBits l.packetAckRecords
    remaining := l.remaining - chargedBytes
    chargedBytes := l.chargedBytes + chargedBytes
    records := [], recordsBits := 0, packetAckRecords := [], packetEntities := 0 }

def flushIfFull (l : SendLoop) (nextBits : Nat) : SendLoop :=
  if !l.records.isEmpty && decide (l.packetBytes nextBits > l.core.options.mtuBytes) then l.flush else l

def appendRecord (l : SendLoop) (written : WrittenRecord) (bits : Nat) (destroy : Bool) : SendLoop :=
  { l with
    records := l.records ++ [written]
    recordsBits := l.recordsBits + bits
    packetAckRecords := l.packetAckRecords ++ [{
      entity := written.entity, frame := written.frame, destroy, written }]
    packetEntities := (l.packetEntities + 1) % 2 ^ 16
    client := { l.client with trace := { l.client.trace with written := written :: l.client.trace.written } } }

def sendDestroy (l : SendLoop) (index : Nat) : SendLoop :=
  match l.client.destroys[index]? with
  | none => l
  | some destroy =>
    let bits := destroyRecordBits destroy.networkId l.core.options.protocol.networkEntityIdTier0Bits
    let l := l.flushIfFull bits
    let packetBytes := l.packetBytes bits
    if packetBytes > l.core.options.mtuBytes then l
    else if l.core.chargedPacketBytes packetBytes > l.remaining then { l with stoppedForBudget := true }
    else
      let l := { l with client := { l.client with
        destroys := l.client.destroys.set index { destroy with
          frame := l.core.frame, resetEpoch := l.client.epoch } } }
      l.appendRecord {
        entity := destroy.entity, networkId := destroy.networkId, networkVersion := destroy.networkVersion
        frame := l.core.frame, content := .destroy } bits true

def refuseUpdate (l : SendLoop) (q packetBytes : Nat) : SendLoop :=
  let l := { l with core := l.core.releaseQuantizedFrame q }
  if packetBytes > l.core.options.mtuBytes then l
  else
    let budgetRefusals := l.budgetRefusals + 1
    { l with
      stoppedForBudget := true, budgetRefusals
      broken := decide (budgetRefusals ≥ l.core.options.maxBudgetRefusalsPerClientTick) }

/-- The pending list with a new frame, and the frames that overflow it. -/
def pushPending (state : ClientEntityState) (q : Nat) (frame : SyncFrame) :
    List PendingQuantizedFrame × List PendingQuantizedFrame :=
  let pending := state.pending ++ [{
    quantizedFrame := q, frame, baselineEpochWhenSent := state.baselineEpoch }]
  (pending.drop (pending.length - baselineRetentionCount), pending.take (pending.length - baselineRetentionCount))

def sentEntry (frame : SyncFrame) (entry : DirtyEntry) : DirtyEntry :=
  { entry with dirtyFrame := frame, priorityAccumulator := floatZero }

def dropBaseline (core : ServerCore) (client : ServerClientReplicator) (slot : Nat) (fullState : Bool) :
    ServerCore × ServerClientReplicator :=
  if fullState && ((client.states[slot]?.bind (·.baseline)).isSome) then client.invalidateEntityBaseline core slot
  else (core, client)

def queuePending (core : ServerCore) (client : ServerClientReplicator) (slot q : Nat) :
    ServerCore × ServerClientReplicator :=
  match client.states[slot]? with
  | none => (core, client)
  | some state =>
    let (pending, overflow) := pushPending state q core.frame
    (overflow.foldl (fun core p => core.releaseQuantizedFrame p.quantizedFrame) core,
      (client.modifyState slot fun s => { s with referencePriorityBoostPending := false, pending }).logCall
        (.pushPending slot core.frame state.baselineEpoch pending))

/-- The client side of an accepted update: entry, baseline, boost and pending list. -/
def recordSent (core : ServerCore) (client : ServerClientReplicator) (slot : Nat) (serialized : SerializedEntity) :
    ServerCore × ServerClientReplicator :=
  let client := client.modifyEntry slot (sentEntry core.frame)
  let (core, client) := dropBaseline core client slot serialized.fullState
  queuePending core client slot serialized.quantizedFrame

def updateWritten (l : SendLoop) (slot : Nat) (componentMask : Mask) (serialized : SerializedEntity) :
    Option WrittenRecord :=
  match l.core.replicated[slot]?, l.client.states[slot]?, l.core.quantizedFrames[serialized.quantizedFrame]? with
  | some replicated, some state, some quantized => some {
      entity := replicated.entity, networkId := state.networkId, networkVersion := state.networkVersion
      frame := l.core.frame
      content := .update slot serialized.quantizedFrame quantized.archetype quantized.data componentMask
        serialized.record state.pendingCues }
  | _, _, _ => none

def acceptUpdate (l : SendLoop) (slot : Nat) (componentMask : Mask) (serialized : SerializedEntity) : SendLoop :=
  match l.updateWritten slot componentMask serialized with
  | none => l
  | some written =>
    let l := l.appendRecord written (1 + serialized.payloadBits) false
    let (core, client) := recordSent l.core l.client slot serialized
    { l with core, client }

def sendUpdate (registry : Registry) (l : SendLoop) (slot : Nat) (componentMask : Mask) :
    Except StdException SendLoop := do
  if !l.core.replicatedIsReplicable registry slot then return l
  let (core, client, serialized) ← serializeEntity registry l.core l.client slot l.core.frame componentMask
  let l := { l with core, client }
  match serialized with
  | none => return l
  | some serialized =>
    let l := { l with core := l.core.retainQuantizedFrame serialized.quantizedFrame }
    let bits := 1 + serialized.payloadBits
    let l := l.flushIfFull bits
    let packetBytes := l.packetBytes bits
    if packetBytes > l.core.options.mtuBytes ∨ l.core.chargedPacketBytes packetBytes > l.remaining then
      return l.refuseUpdate serialized.quantizedFrame packetBytes
    else return l.acceptUpdate slot componentMask serialized

def sendCandidate (registry : Registry) (l : SendLoop) (candidate : SerializedCandidate) :
    Except StdException SendLoop :=
  if l.broken then .ok l
  else
    match candidate with
    | .destroy index => .ok (l.sendDestroy index)
    | .update slot _ componentMask => l.sendUpdate registry slot componentMask

def finish (l : SendLoop) : SendLoop :=
  if l.records.isEmpty then l
  else if l.core.chargedPacketBytes (l.packetBytes 0) ≤ l.remaining then l.flush
  else { l with stoppedForBudget := true }

end SendLoop

structure ReplicationSendResult where
  chargedBytes : Nat := 0
  hadPendingData : Bool := false
  stoppedForBudget : Bool := false
  deriving DecidableEq, Repr

namespace ReplicationServer

/-- The start of `send_client`: the epoch, the expired cues and the room for every slot. -/
def beginSend (core : ServerCore) (client : ServerClientReplicator) (inputAckFrame : SyncFrame) :
    ServerClientReplicator :=
  (({ client with epoch := client.epoch + 1, inputAckFrame }).expirePendingCues core.frame).ensureCapacity
    core.replicated.length

/-- `send_client` for the client at position `c`, with `available` bytes to send. -/
def sendClient (server : ReplicationServer) (c : Nat) (registry : Registry) (inputAckFrame : SyncFrame)
    (available : Nat) (decider : Entity → EntityReplicationDecision) :
    Except StdException (ReplicationServer × ReplicationSendResult) := do
  match server.clients[c]? with
  | none => return (server, {})
  | some client =>
    let client := beginSend server.core client inputAckFrame
    let server := server.setClient c server.core client
    let (server, updates) := client.dirtyQueue.dirtyReplicatedIndices.foldl
      (collectCandidate registry decider c) (server, [])
    match server.clients[c]? with
    | none => return (server, {})
    | some client =>
      let candidates := (destroyOrder client.destroys).map SerializedCandidate.destroy ++
        sortByPriority server.core.options.floats updates
      let l ← candidates.foldlM (SendLoop.sendCandidate registry)
        { core := server.core, client, remaining := available }
      let l := l.finish
      return (server.setClient c l.core l.client.cleanupDirtyQueue, {
        chargedBytes := l.chargedBytes, hadPendingData := !candidates.isEmpty
        stoppedForBudget := l.stoppedForBudget })

end ReplicationServer

end AshiatoSync
