import AshiatoSync.QuantizedFrame

/-!
# One client's replicator on the server

The dirty queue, the per-slot entity states, the destroy queue and the client's
network ids, each operation acting on one replicator and, where it holds
references, on the shared quantized frames.  `Trace` is ghost state: the records
written and the calls made, read by no operation.
-/

namespace AshiatoSync

/-! ## State -/

structure PendingQuantizedFrame where
  quantizedFrame : Nat
  frame : SyncFrame
  baselineEpochWhenSent : Nat
  deriving DecidableEq, Repr

structure PendingCue where
  frame : SyncFrame
  expireFrame : SyncFrame
  type : SyncCueTypeId
  relevanceSeconds : Float32Bits
  payload : Bits
  deriving DecidableEq, Repr

structure ClientEntityState where
  baseline : Option Nat := none
  baselineEpoch : Nat := 0
  networkId : Nat := 0
  networkVersion : Nat := 0
  lastPriority : Float32Bits := floatQuietNaN
  componentMask : Mask := allComponents
  referencePriorityBoostPending : Bool := false
  hasNetworkId : Bool := false
  pending : List PendingQuantizedFrame := []
  pendingCues : List PendingCue := []
  deriving DecidableEq, Repr

structure DirtyEntry where
  dirtyFrame : SyncFrame := 0
  baselineFrame : SyncFrame := 0
  priorityAccumulator : Float32Bits := floatZero
  lastPriority : Float32Bits := floatQuietNaN
  componentMask : Mask := allComponents
  queued : Bool := false
  listed : Bool := false
  deriving DecidableEq, Repr

structure ClientDirtyQueue where
  entries : List DirtyEntry := []
  dirtyReplicatedIndices : List Nat := []
  deriving DecidableEq, Repr

structure ClientDestroyState where
  entity : Entity
  frame : SyncFrame
  resetEpoch : Nat
  networkId : Nat
  networkVersion : Nat
  deriving DecidableEq, Repr

/-- `NetworkIds::Entry`: the first field is the slot of an active id and the next free id of a free one. -/
structure NetworkIdEntry where
  replicatedIndexOrNextFreeNetworkId : Nat := 0
  version : Nat := 0
  active : Bool := false
  pendingDestroy : Bool := false
  deriving DecidableEq, Repr

def invalidReplicatedIndexOrFreeNetworkId : Nat := 2 ^ 32 - 1

structure NetworkIds where
  entries : List NetworkIdEntry := []
  freeNetworkId : Nat := 0
  deriving DecidableEq, Repr

/-! ## Ghost trace -/

inductive WrittenContent where
  | destroy
  | update (slot quantizedFrame : Nat) (archetype : SyncArchetypeId) (data : QuantizedFrameData)
      (componentMask : Mask) (record : UpdateRecord) (cues : List PendingCue)
  deriving DecidableEq, Repr

/-- A record that `send_client` put in a packet. -/
structure WrittenRecord where
  entity : Entity
  networkId : Nat
  networkVersion : Nat
  frame : SyncFrame
  content : WrittenContent
  deriving DecidableEq, Repr

def WrittenRecord.wire (w : WrittenRecord) : WireRecord :=
  match w.content with
  | .destroy => .destroy w.networkId
  | .update _ _ _ _ _ record _ => .update record

/-- `PacketAckRecord`, with the record it stands for as ghost. -/
structure PacketAckRecord where
  entity : Entity
  frame : SyncFrame
  destroy : Bool
  written : WrittenRecord
  deriving DecidableEq, Repr

structure PendingPacketAck where
  packetId : Nat
  sentFrame : SyncFrame
  chargedBytes : Nat
  records : List PacketAckRecord
  deriving DecidableEq, Repr

/-- A call on the replicator, with the part of the state it met. -/
inductive Call where
  | markDirty (slot : Nat) (frame : SyncFrame)
  | clearDirty (slot : Nat)
  | clearState (slot : Nat)
  | acknowledgeEntity (slot : Nat) (frame : SyncFrame) (baselineEligible : Bool) (state : ClientEntityState)
  | expireCues (frame : SyncFrame)
  | enqueueDestroy (entity : Entity) (networkId networkVersion : Nat) (queued : List ClientDestroyState)
      (tracked : List PendingPacketAck)
  | retireDestroy (destroy : ClientDestroyState) (packet : PendingPacketAck)
  | pushPending (slot : Nat) (frame : SyncFrame) (baselineEpoch : Nat) (pending : List PendingQuantizedFrame)
  | attachCue (slot : Nat) (cue : PendingCue) (pending : List PendingQuantizedFrame)
  deriving DecidableEq, Repr

/-- A packet given to the transport, with the records tracked for its acknowledgement. -/
structure SentPacket where
  frame : SyncFrame
  packetId : Nat
  inputAckFrame : SyncFrame
  entityCount : Nat
  records : List WrittenRecord
  ackRecords : List PacketAckRecord
  deriving DecidableEq, Repr

inductive BudgetEvent where
  | packetSent (chargedBytes : Nat)
  | spend (chargedBytes : Nat)
  | packetAcked (sentFrame ackFrame : SyncFrame) (chargedBytes : Nat)
  | packetLost (frame : SyncFrame) (chargedBytes : Nat)
  deriving DecidableEq, Repr

structure Trace where
  calls : List Call := []
  written : List WrittenRecord := []
  deriving DecidableEq, Repr

structure AckTracker where
  nextPacketId : Nat := 1
  pendingPacketAcks : List PendingPacketAck := []
  deriving DecidableEq, Repr

/-- `ServerClientReplicator`.  `transport` and `budget` are what it told its transport and its
bandwidth budget, newest first. -/
structure ServerClientReplicator where
  id : ClientId
  peer : PeerId
  epoch : Nat := 0
  inputAckFrame : SyncFrame := 0
  dirtyQueue : ClientDirtyQueue := {}
  states : List ClientEntityState := []
  destroys : List ClientDestroyState := []
  networkIds : NetworkIds := {}
  ackTracker : AckTracker := {}
  transport : List SentPacket := []
  budget : List BudgetEvent := []
  trace : Trace := {}
  deriving DecidableEq, Repr

namespace ServerClientReplicator

def logCall (client : ServerClientReplicator) (call : Call) : ServerClientReplicator :=
  { client with trace := { client.trace with calls := call :: client.trace.calls } }

def modifyState (client : ServerClientReplicator) (slot : Nat) (f : ClientEntityState → ClientEntityState) :
    ServerClientReplicator :=
  { client with states := client.states.modify slot f }

def modifyEntry (client : ServerClientReplicator) (slot : Nat) (f : DirtyEntry → DirtyEntry) :
    ServerClientReplicator :=
  { client with dirtyQueue := { client.dirtyQueue with entries := client.dirtyQueue.entries.modify slot f } }

def ensureCapacity (client : ServerClientReplicator) (replicatedCount : Nat) : ServerClientReplicator :=
  { client with
    states := client.states ++ List.replicate (replicatedCount - client.states.length) {}
    dirtyQueue := { client.dirtyQueue with
      entries := client.dirtyQueue.entries ++
        List.replicate (replicatedCount - client.dirtyQueue.entries.length) {} } }

/-! ## Dirty queue -/

/-- The part of `mark_dirty` that queues an entry again from the entity state. -/
def requeueEntry (core : ServerCore) (state : Option ClientEntityState) (entry : DirtyEntry) : DirtyEntry :=
  if entry.queued then entry
  else
    let entry := { entry with
      queued := true, priorityAccumulator := floatZero, componentMask := allComponents
      lastPriority := floatQuietNaN }
    match state with
    | none => entry
    | some state =>
      let entry := { entry with lastPriority := state.lastPriority, componentMask := state.componentMask }
      match state.baseline with
      | some q =>
        if core.quantizedFrameActive q then { entry with baselineFrame := core.quantizedFrameFrame q } else entry
      | none => entry

def raiseDirtyFrame (entry : DirtyEntry) (frame : SyncFrame) : DirtyEntry :=
  let dirtyFrame := max entry.dirtyFrame frame
  { entry with
    listed := true
    dirtyFrame := if dirtyFrame ≤ entry.baselineFrame then (entry.baselineFrame + 1) % 2 ^ 32 else dirtyFrame }

def markDirty (core : ServerCore) (client : ServerClientReplicator) (slot : Nat) (frame : SyncFrame) :
    ServerClientReplicator :=
  if slot ≥ core.replicated.length then client
  else
    let client := client.ensureCapacity core.replicated.length
    let state := client.states[slot]?
    let listed := match client.dirtyQueue.entries[slot]? with
      | some entry => entry.listed
      | none => false
    let client := client.modifyEntry slot fun entry => raiseDirtyFrame (requeueEntry core state entry) frame
    let client := { client with dirtyQueue := { client.dirtyQueue with
      dirtyReplicatedIndices :=
        if listed then client.dirtyQueue.dirtyReplicatedIndices
        else client.dirtyQueue.dirtyReplicatedIndices ++ [slot] } }
    client.logCall (.markDirty slot frame)

def clearDirty (client : ServerClientReplicator) (slot : Nat) : ServerClientReplicator :=
  (client.modifyEntry slot fun entry => { listed := entry.listed }).logCall (.clearDirty slot)

/-- `initialize_marking_all_dirty` -/
def initializeMarkingAllDirty (core : ServerCore) (client : ServerClientReplicator) (frame : SyncFrame) :
    ServerClientReplicator :=
  (List.range core.replicated.length).foldl
    (fun client slot => if core.replicatedSlotActive slot then client.markDirty core slot frame else client)
    (client.ensureCapacity core.replicated.length)

/-! ## Entity states -/

def releaseEntityState (core : ServerCore) (state : ClientEntityState) : ServerCore :=
  state.pending.foldl (fun core p => core.releaseQuantizedFrame p.quantizedFrame)
    (core.releaseBaseline state.baseline)

/-- `EntityStates::clear`, with `clear_client_entity_state`. -/
def clearState (core : ServerCore) (client : ServerClientReplicator) (slot : Nat) :
    ServerCore × ServerClientReplicator :=
  match client.states[slot]? with
  | none => (core, client)
  | some state =>
    (releaseEntityState core state, (client.modifyState slot fun _ => {}).logCall (.clearState slot))

/-- `EntityStates::clear_all` -/
def clearAll (core : ServerCore) (client : ServerClientReplicator) : ServerCore × ServerClientReplicator :=
  (client.states.foldl releaseEntityState core, { client with states := client.states.map fun _ => {} })

/-- `EntityStates::expire_pending_cues` -/
def expirePendingCues (client : ServerClientReplicator) (frame : SyncFrame) : ServerClientReplicator :=
  let states := client.states.map fun state : ClientEntityState =>
    { state with pendingCues := state.pendingCues.filter fun cue => !decide (frame > cue.expireFrame) }
  ({ client with states }).logCall (.expireCues frame)

/-- `invalidate_entity_baseline` -/
def invalidateEntityBaseline (core : ServerCore) (client : ServerClientReplicator) (slot : Nat) :
    ServerCore × ServerClientReplicator :=
  match client.states[slot]? with
  | none => (core, client)
  | some state =>
    (core.releaseBaseline state.baseline,
      client.modifyState slot fun s => { s with baseline := none, baselineEpoch := s.baselineEpoch + 1 })

/-! ## Network ids -/

/-- `NetworkIds::try_get`: id 0 is never an id. -/
def networkIdEntry? (client : ServerClientReplicator) (networkId : Nat) : Option NetworkIdEntry :=
  if networkId = 0 then none else client.networkIds.entries[networkId]?

def takeNetworkId (ids : NetworkIds) (slot : Nat) : Except StdException (NetworkIds × Nat) :=
  let entries := if ids.entries.isEmpty then [{}] else ids.entries
  if ids.freeNetworkId ≠ 0 then
    let next := match entries[ids.freeNetworkId]? with
      | some entry => entry.replicatedIndexOrNextFreeNetworkId
      | none => 0
    .ok ({
      entries := entries.modify ids.freeNetworkId fun entry => { entry with
        replicatedIndexOrNextFreeNetworkId := slot, active := true, pendingDestroy := false }
      freeNetworkId := next }, ids.freeNetworkId)
  else if entries.length > maxClientLocalWireNetworkId then
    .error (.lengthError "Ashiato Sync client-local network id space exhausted")
  else
    .ok ({
      entries := entries ++ [{
        replicatedIndexOrNextFreeNetworkId := slot, version := 1, active := true, pendingDestroy := false }]
      freeNetworkId := 0 }, entries.length)

/-- `NetworkIds::allocate_for` -/
def allocateNetworkIdFor (client : ServerClientReplicator) (slot : Nat) :
    Except StdException (ServerClientReplicator × Nat) :=
  match client.states[slot]? with
  | none => .ok (client, 0)
  | some _ =>
    (takeNetworkId client.networkIds slot).map fun (networkIds, networkId) =>
      let version := match networkIds.entries[networkId]? with
        | some entry => entry.version
        | none => 0
      (({ client with networkIds }).modifyState slot fun state =>
        { state with networkId, networkVersion := version, hasNetworkId := true }, networkId)

/-- `NetworkIds::network_id_for` -/
def networkIdFor (client : ServerClientReplicator) (slot : Nat) :
    Except StdException (ServerClientReplicator × Nat) :=
  match client.states[slot]? with
  | none => .ok (client, 0)
  | some state => if state.hasNetworkId then .ok (client, state.networkId) else client.allocateNetworkIdFor slot

def nextVersion (version : Nat) : Nat :=
  if (version + 1) % 2 ^ 32 = 0 then 1 else (version + 1) % 2 ^ 32

/-- `NetworkIds::free` -/
def freeNetworkId (client : ServerClientReplicator) (networkId : Nat) : ServerClientReplicator :=
  match client.networkIdEntry? networkId with
  | none => client
  | some entry =>
    if !entry.pendingDestroy then client
    else { client with networkIds := {
      entries := client.networkIds.entries.set networkId {
        replicatedIndexOrNextFreeNetworkId := client.networkIds.freeNetworkId
        version := nextVersion entry.version, active := false, pendingDestroy := false }
      freeNetworkId := networkId } }

/-- `NetworkIds::mark_pending_destroy` -/
def markPendingDestroy (client : ServerClientReplicator) (networkId : Nat) : ServerClientReplicator × Bool :=
  match client.networkIdEntry? networkId with
  | none => (client, false)
  | some entry =>
    ({ client with networkIds := { client.networkIds with
      entries := client.networkIds.entries.set networkId { entry with
        active := false, pendingDestroy := true
        replicatedIndexOrNextFreeNetworkId := invalidReplicatedIndexOrFreeNetworkId } } }, true)

/-! ## Destroys -/

/-- `DestroyQueue::enqueue` -/
def enqueueDestroyState (client : ServerClientReplicator) (entity : Entity) (frame : SyncFrame)
    (networkId networkVersion : Nat) : ServerClientReplicator :=
  let client' := client.logCall
    (.enqueueDestroy entity networkId networkVersion client.destroys client.ackTracker.pendingPacketAcks)
  if client.destroys.any fun d => d.entity == entity && d.networkId == networkId then client'
  else { client' with destroys := client.destroys ++ [{ entity, frame, resetEpoch := 0, networkId, networkVersion }] }

/-- `DestroyQueue::acknowledge` -/
def acknowledgeDestroy (client : ServerClientReplicator) (entity : Entity) (frame : SyncFrame) :
    ServerClientReplicator × Bool :=
  match client.destroys.findIdx? fun d => d.entity == entity && decide (frame ≤ d.frame) with
  | none => (client, false)
  | some i =>
    let networkId := match client.destroys[i]? with
      | some d => d.networkId
      | none => 0
    (({ client with destroys := client.destroys.eraseIdx i }).freeNetworkId networkId, true)

/-- `DestroyQueue::contains_ack_record` -/
def containsDestroyAckRecord (client : ServerClientReplicator) (entity : Entity) (frame : SyncFrame) : Bool :=
  client.destroys.any fun d => d.entity == entity && decide (frame ≤ d.frame)

/-- `ServerClientReplicator::enqueue_destroy` -/
def enqueueDestroy (core : ServerCore) (client : ServerClientReplicator) (slot : Nat) (entity : Entity)
    (frame : SyncFrame) : ServerCore × ServerClientReplicator :=
  let networkId := (client.states[slot]?.map (·.networkId)).getD 0
  let networkVersion := (client.states[slot]?.map (·.networkVersion)).getD 0
  let (core, client) := client.clearState core slot
  let client := client.clearDirty slot
  let (client, marked) := client.markPendingDestroy networkId
  if marked then (core, client.enqueueDestroyState entity frame networkId networkVersion) else (core, client)

/-! ## Acknowledgements -/

/-- `acknowledge_cues` -/
def acknowledgeCues (state : ClientEntityState) (frame : SyncFrame) : ClientEntityState :=
  { state with pendingCues := state.pendingCues.filter fun cue => !decide (cue.frame ≤ frame) }

def settleEntry (frame : SyncFrame) (entry : DirtyEntry) : DirtyEntry :=
  if frame ≥ entry.dirtyFrame then
    { entry with baselineFrame := frame, queued := false, priorityAccumulator := floatZero }
  else { entry with baselineFrame := frame }

def adoptBaseline (core : ServerCore) (baseline : Option Nat) (q : Nat) : ServerCore :=
  if baseline = some q then core else (core.releaseBaseline baseline).retainQuantizedFrame q

def acknowledgedState (eligible : Bool) (q : Nat) (frame : SyncFrame) (state : ClientEntityState) : ClientEntityState :=
  acknowledgeCues { state with
    baseline := if eligible then some q else state.baseline
    pending := state.pending.filter fun p => !decide (p.frame ≤ frame) } frame

/-- `ServerClientReplicator::acknowledge_entity` -/
def acknowledgeEntity (core : ServerCore) (client : ServerClientReplicator) (slot : Nat) (frame : SyncFrame) :
    ServerCore × ServerClientReplicator × Bool :=
  match client.states[slot]? with
  | none => (core, client, false)
  | some state =>
    match state.pending.find? fun p => p.frame == frame with
    | none => (core, client, false)
    | some found =>
      if !core.quantizedFrameActive found.quantizedFrame then (core, client, false)
      else
        let eligible := found.baselineEpochWhenSent == state.baselineEpoch
        let core := if eligible then adoptBaseline core state.baseline found.quantizedFrame else core
        let client := if eligible then client.modifyEntry slot (settleEntry frame) else client
        let core := (state.pending.filter fun p => decide (p.frame ≤ frame)).foldl
          (fun core p => core.releaseQuantizedFrame p.quantizedFrame) core
        let client := client.modifyState slot (acknowledgedState eligible found.quantizedFrame frame)
        (core, client.logCall (.acknowledgeEntity slot frame eligible state), true)

end ServerClientReplicator

end AshiatoSync
