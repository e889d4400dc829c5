import AshiatoSync.Runs

/-!
# A send that runs out of network ids

`allocate_for` throws when a client has had every id its wire can name.  The
exception leaves `send_client` between the creation of a quantized frame and its
first reference.
-/

namespace AshiatoSync

open ReplicationServer ServerClientReplicator

/-! ## The state a throwing send leaves -/

/-- The loop where the first candidate's `network_id_for` throws: its frame is found or created and not yet retained. -/
def SendLoop.exhausted (registry : Registry) (l : SendLoop) : List SerializedCandidate → Option SendLoop
  | [] => none
  | candidate :: rest =>
    match l.sendCandidate registry candidate with
    | .ok l => l.exhausted registry rest
    | .error _ =>
      match candidate with
      | .destroy _ => none
      | .update slot _ _ =>
        match findOrCreateQuantizedFrame registry l.core l.client slot l.core.frame, l.client.networkIdFor slot with
        | .ok (core, some _), .error _ => some { l with core }
        | _, _ => none

theorem SendLoop.exhausted_cons {registry : Registry} {l l' : SendLoop} {candidate : SerializedCandidate}
    {rest : List SerializedCandidate} (h : l.sendCandidate registry candidate = .ok l') :
    l.exhausted registry (candidate :: rest) = l'.exhausted registry rest := by
  simp only [exhausted, h]

namespace ReplicationServer

/-- The candidate loop of `sendClient`: the slots of the dirty list that are queued, with their decisions. -/
def collectCandidates (server : ReplicationServer) (c : Nat) (registry : Registry) (inputAckFrame : SyncFrame)
    (decider : Entity → EntityReplicationDecision) : ReplicationServer × List SerializedCandidate :=
  match server.clients[c]? with
  | none => (server, [])
  | some client =>
    let client := beginSend server.core client inputAckFrame
    client.dirtyQueue.dirtyReplicatedIndices.foldl (collectCandidate registry decider c)
      (server.setClient c server.core client, [])

def sendCandidates (c : Nat) (registry : Registry) (available : Nat)
    (collected : ReplicationServer × List SerializedCandidate) :
    Except StdException (ReplicationServer × ReplicationSendResult) := do
  let (server, updates) := collected
  match server.clients[c]? with
  | none => return (server, {})
  | some client =>
    let candidates := (destroyOrder client.destroys).map SerializedCandidate.destroy ++
      sortByPriority server.core.options.floats updates
    let l ← candidates.foldlM (SendLoop.sendCandidate registry)
      { core := server.core, client, remaining := available }
    let l := l.finish
    return (server.setClient c l.core l.client.cleanupDirtyQueue, {
      chargedBytes := l.chargedBytes, hadPendingData := !candidates.isEmpty
      stoppedForBudget := l.stoppedForBudget })

theorem sendClient_eq (server : ReplicationServer) (c : Nat) (registry : Registry) (inputAckFrame : SyncFrame)
    (available : Nat) (decider : Entity → EntityReplicationDecision) :
    server.sendClient c registry inputAckFrame available decider =
      sendCandidates c registry available (server.collectCandidates c registry inputAckFrame decider) := by
  unfold sendClient collectCandidates sendCandidates
  cases hc : server.clients[c]? with
  | none => simp [hc]
  | some client => rfl

/-- What a `send_client` that runs out of network ids leaves: nothing after the throw is run. -/
def sendExhausted (server : ReplicationServer) (c : Nat) (registry : Registry) (inputAckFrame : SyncFrame)
    (available : Nat) (decider : Entity → EntityReplicationDecision) : Option ReplicationServer :=
  let (server, updates) := server.collectCandidates c registry inputAckFrame decider
  match server.clients[c]? with
  | none => none
  | some client =>
    let candidates := (destroyOrder client.destroys).map SerializedCandidate.destroy ++
      sortByPriority server.core.options.floats updates
    let l : SendLoop := { core := server.core, client, remaining := available }
    (l.exhausted registry candidates).map fun l => server.setClient c l.core l.client

theorem sendClient_of_exhausted {server server' : ReplicationServer} {c : Nat} {registry : Registry}
    {inputAckFrame : SyncFrame} {available : Nat} {decider : Entity → EntityReplicationDecision}
    (h : server.sendExhausted c registry inputAckFrame available decider = some server') :
    ∃ e, server.sendClient c registry inputAckFrame available decider = .error e := by
  have herror : ∀ (candidates : List SerializedCandidate) (l l' : SendLoop),
      l.exhausted registry candidates = some l' →
      ∃ e, candidates.foldlM (SendLoop.sendCandidate registry) l = .error e := by
    intro candidates
    induction candidates with
    | nil => intro l l' h; cases h
    | cons candidate rest ih =>
      intro l l' h
      cases hsend : l.sendCandidate registry candidate with
      | ok l₁ =>
        rw [SendLoop.exhausted_cons hsend] at h
        rw [List.foldlM_cons, hsend]
        exact ih l₁ l' h
      | error e => exact ⟨e, by rw [List.foldlM_cons, hsend]; rfl⟩
  rw [sendClient_eq]
  unfold sendExhausted at h
  generalize server.collectCandidates c registry inputAckFrame decider = collected at h ⊢
  obtain ⟨t, updates⟩ := collected
  unfold sendCandidates
  dsimp only at h ⊢
  split at h
  · cases h
  · rename_i client hclient
    obtain ⟨l', hl, -⟩ := Option.map_eq_some_iff.mp h
    obtain ⟨e, he⟩ := herror _ _ _ hl
    exact ⟨e, by rw [he]; rfl⟩

inductive ExhaustReachable (options : ReplicationServerOptions) (settings : SyncSettings) :
    ReplicationServer → Prop where
  | start : ExhaustReachable options settings (start options settings)
  | step {server server' : ReplicationServer} (op : ServerOp) :
      ExhaustReachable options settings server → server.exec op = .ok server' →
      ExhaustReachable options settings server'
  | exhausted {server server' : ReplicationServer} {c : Nat} (client : ClientId) (registry : Registry)
      (inputAckFrame : SyncFrame) (available : Nat) (decider : Entity → EntityReplicationDecision) :
      ExhaustReachable options settings server → server.clientIndex? client = some c →
      (∃ e, server.sendClient c registry inputAckFrame available decider = .error e) →
      server.sendExhausted c registry inputAckFrame available decider = some server' →
      ExhaustReachable options settings server'

end ReplicationServer

/-! ## Sends without budget -/

namespace SendLoop

theorem chargedPacketBytes_pos (l : SendLoop) {bits : Nat} (h : 0 < bits) :
    0 < l.core.chargedPacketBytes (l.packetBytes bits) := by
  unfold ServerCore.chargedPacketBytes packetBytes bytesForBits
  omega

/-- Without budget a destroy only reports that the budget stopped it. -/
theorem sendDestroy_unpaid (l : SendLoop) (index : Nat) (hremaining : l.remaining = 0) (hrecords : l.records = []) :
    ∃ stoppedForBudget, l.sendDestroy index = { l with stoppedForBudget } := by
  unfold sendDestroy
  split
  · exact ⟨l.stoppedForBudget, rfl⟩
  · rename_i destroy _
    have hfull (bits : Nat) : l.flushIfFull bits = l := by simp [flushIfFull, hrecords]
    have hbits : 0 < destroyRecordBits destroy.networkId l.core.options.protocol.networkEntityIdTier0Bits := by
      unfold destroyRecordBits
      omega
    have hcharged := hremaining ▸ chargedPacketBytes_pos l hbits
    simp only [hfull]
    split
    · exact ⟨l.stoppedForBudget, rfl⟩
    · exact ⟨true, rfl⟩

theorem foldlM_sendDestroy (registry : Registry) : ∀ (indices : List Nat) (l : SendLoop), l.remaining = 0 →
    l.records = [] → l.broken = false → ∃ stoppedForBudget,
      (indices.map SerializedCandidate.destroy).foldlM (sendCandidate registry) l = .ok { l with stoppedForBudget }
  | [], l, _, _, _ => ⟨l.stoppedForBudget, rfl⟩
  | index :: indices, l, hremaining, hrecords, hbroken => by
    obtain ⟨stopped, hstopped⟩ := sendDestroy_unpaid l index hremaining hrecords
    obtain ⟨stopped', hrest⟩ := foldlM_sendDestroy registry indices
      { l with stoppedForBudget := stopped } hremaining hrecords hbroken
    have hcandidate : sendCandidate registry l (.destroy index) = .ok { l with stoppedForBudget := stopped } := by
      simp [sendCandidate, hbroken, hstopped]
    refine ⟨stopped', ?_⟩
    rw [List.map_cons, List.foldlM_cons, hcandidate]
    exact hrest

/-- Without budget an update is refused, after its slot got an id. -/
theorem sendUpdate_unpaid {registry : Registry} {l : SendLoop} {slot : Nat} {componentMask : Mask} {core : ServerCore}
    {client : ServerClientReplicator} {serialized : SerializedEntity} (hremaining : l.remaining = 0)
    (hrecords : l.records = []) (hslot : l.core.replicatedIsReplicable registry slot = true)
    (h : serializeEntity registry l.core l.client slot l.core.frame componentMask =
      .ok (core, client, some serialized)) :
    ∃ packetBytes, l.sendUpdate registry slot componentMask = .ok (refuseUpdate
      { l with core := core.retainQuantizedFrame serialized.quantizedFrame, client }
      serialized.quantizedFrame packetBytes) := by
  have hcharged := chargedPacketBytes_pos
    { l with core := core.retainQuantizedFrame serialized.quantizedFrame, client }
    (Nat.add_pos_left Nat.one_pos serialized.payloadBits)
  refine ⟨packetBytes { l with core := core.retainQuantizedFrame serialized.quantizedFrame, client }
    (1 + serialized.payloadBits), ?_⟩
  unfold sendUpdate
  simp only [hslot, Bool.not_true, Bool.false_eq_true, if_false, h]
  change (if _ ∨ _ then _ else _) = _
  simp only [flushIfFull, hrecords, List.isEmpty_nil, Bool.not_true, Bool.false_and, Bool.false_eq_true, if_false]
  split
  · rfl
  · rename_i hfit
    refine absurd (.inr ?_) hfit
    simpa only [hremaining, hrecords] using hcharged

theorem refuseUpdate_keeps (l : SendLoop) (q packetBytes : Nat) :
    (l.refuseUpdate q packetBytes).core = l.core.releaseQuantizedFrame q ∧
    (l.refuseUpdate q packetBytes).client = l.client ∧ (l.refuseUpdate q packetBytes).records = l.records := by
  unfold refuseUpdate
  dsimp only
  split <;> exact ⟨rfl, rfl, rfl⟩

theorem exhausted_append {registry : Registry} : ∀ {candidates : List SerializedCandidate} {l l' : SendLoop}
    (rest : List SerializedCandidate), candidates.foldlM (sendCandidate registry) l = .ok l' →
    l.exhausted registry (candidates ++ rest) = l'.exhausted registry rest
  | [], l, l', rest, h => by
    cases h
    rfl
  | candidate :: candidates, l, l', rest, h => by
    rw [List.foldlM_cons, Monadic.bind_eq_ok] at h
    obtain ⟨l₁, hsend, h⟩ := h
    rw [List.cons_append, exhausted_cons hsend]
    exact exhausted_append rest h

end SendLoop

theorem ServerClientReplicator.enqueueDestroyState_eq (client : ServerClientReplicator) (destroyed : Entity)
    (frame : SyncFrame) (networkId version : Nat) :
    client.enqueueDestroyState destroyed frame networkId version = { client.logCall
      (.enqueueDestroy destroyed networkId version client.destroys client.ackTracker.pendingPacketAcks) with
      destroys :=
        if client.destroys.any fun d => d.entity == destroyed && d.networkId == networkId then client.destroys
        else client.destroys ++ [⟨destroyed, frame, 0, networkId, version⟩] } := by
  unfold enqueueDestroyState
  split <;> rfl

/-! ## A client that has had every id

One entity is replicated, given an id by a send that has no budget, and stopped, over and over. -/

namespace Sample

def onRegistry : Registry := registry [entity] [some 7, some 9]

def offRegistry : Registry := registry [] []

def sendUnpaid : ServerOp := .send 1 onRegistry 0 0 (decider allComponents)

def idleCore : ServerCore where
  options
  settings
  replicatedInitialized := true
  replicated := [{ entity, archetype := 0, componentDirtyGenerations := [1, 1, 1] }]
  freeReplicatedIndices := [0]
  quantizedFrames := [{}]
  freeQuantizedFrames := [0]

def liveCore (tried : Option Nat) : ServerCore := { idleCore with
  replicated := [{
    entity, archetype := 0, componentDirtyGenerations := [1, 1, 1], sameFrameQuantizedFrame := tried
    sameFrameCacheable := true, active := true }]
  freeReplicatedIndices := [], activeReplicatedCount := 1
  entityToReplicatedIndex := Function.update (fun _ => none) entity (some 0)
  entityIndexToReplicatedIndex := Function.update (fun _ => none) 1 (some 0) }

def createdFrame : QuantizedFrame where
  active := true
  data := ⟨0, 3, [[7], [9]]⟩
  dirtyGenerations := [0, 1, 1]

def createdCore : ServerCore := { liveCore (some 0) with
  replicated := [{
    entity, archetype := 0, componentDirtyGenerations := [1, 1, 1], quantizedFrames := [0]
    sameFrameQuantizedFrame := some 0, sameFrameCacheable := true, active := true }]
  freeQuantizedFrames := []
  quantizedFrames := [createdFrame] }

def queued (accumulated lastPriority : Float32Bits) : ClientDirtyQueue where
  entries := [{
    dirtyFrame := 1, priorityAccumulator := accumulated, lastPriority, queued := true, listed := true }]
  dirtyReplicatedIndices := [0]

section

variable (epoch : Nat) (destroys : List ClientDestroyState) (entries : List NetworkIdEntry) (trace : Trace)

def idleClient : ServerClientReplicator where
  id := 1
  peer := 1
  epoch
  destroys
  networkIds := { entries }
  trace
  states := [{}]
  dirtyQueue := { entries := [{ listed := true }], dirtyReplicatedIndices := [0] }

def waitingClient : ServerClientReplicator :=
  { idleClient epoch destroys entries trace with dirtyQueue := queued floatZero floatQuietNaN }

def candidateClient : ServerClientReplicator :=
  { idleClient epoch destroys entries trace with
    states := [{ lastPriority := 0x3f800000 }], dirtyQueue := queued 0x3f800000 0x3f800000 }

def namedClient : ServerClientReplicator :=
  { idleClient epoch destroys (entries ++ [{ version := 1, active := true }]) trace with
    states := [{
      networkId := entries.length, networkVersion := 1, lastPriority := 0x3f800000, hasNetworkId := true }]
    dirtyQueue := queued 0x3f800000 0x3f800000 }

end

def expired (trace : Trace) : Trace := { trace with calls := .expireCues 0 :: trace.calls }

variable (epoch : Nat) (destroys : List ClientDestroyState) {entries : List NetworkIdEntry} (trace : Trace)

theorem idle_on (entries : List NetworkIdEntry) : ∃ trace',
    exec { core := idleCore, clients := [idleClient epoch destroys entries trace] } (.rediscoverAll onRegistry) =
      .ok { core := liveCore none, clients := [waitingClient epoch destroys entries trace'] } :=
  ⟨_, rfl⟩

theorem waiting_begin : beginSend (liveCore none) (waitingClient epoch destroys entries trace) 0 =
    waitingClient (epoch + 1) destroys entries (expired trace) := rfl

theorem waiting_candidate : collectCandidate onRegistry (decider allComponents) 0
    ({ core := liveCore none, clients := [waitingClient epoch destroys entries trace] }, []) 0 =
    ({ core := liveCore none, clients := [candidateClient epoch destroys entries trace] },
      [.update 0 0x3f800000 allComponents]) := by
  rfl

theorem waiting_collect :
    collectCandidates { core := liveCore none, clients := [waitingClient epoch destroys entries trace] }
    0 onRegistry 0 (decider allComponents) =
    ({ core := liveCore none, clients := [candidateClient (epoch + 1) destroys entries (expired trace)] },
      [.update 0 0x3f800000 allComponents]) := by
  simp only [collectCandidates, List.getElem?_cons_zero, waiting_begin]
  exact waiting_candidate ..

theorem candidate_frame : findOrCreateQuantizedFrame onRegistry (liveCore none)
    (candidateClient epoch destroys entries trace) 0 0 = .ok (createdCore, some 0) := by
  rfl

theorem candidate_named (h : entries ≠ []) (hn : entries.length ≤ maxClientLocalWireNetworkId) :
    (candidateClient epoch destroys entries trace).networkIdFor 0 =
      .ok (namedClient epoch destroys entries trace, entries.length) := by
  simp [networkIdFor, candidateClient, idleClient, allocateNetworkIdFor, takeNetworkId, h,
    Nat.not_lt.mpr hn, Except.map,
    modifyState, namedClient]

theorem candidate_unnamed (h : entries ≠ []) (hn : maxClientLocalWireNetworkId < entries.length) :
    (candidateClient epoch destroys entries trace).networkIdFor 0 =
      .error (.lengthError "Ashiato Sync client-local network id space exhausted") := by
  simp [networkIdFor, candidateClient, idleClient, allocateNetworkIdFor, takeNetworkId, h, hn, Except.map]

theorem candidate_serialized (h : entries ≠ []) (hn : entries.length ≤ maxClientLocalWireNetworkId) :
    ∃ record payloadBits, serializeEntity onRegistry (liveCore none) (candidateClient epoch destroys entries trace)
      0 0 allComponents =
        .ok (createdCore, namedClient epoch destroys entries trace, some ⟨0, record, true, payloadBits⟩) := by
  have hne : entries.length ≠ 0 := by simpa using h
  have hwrite : ∃ record payloadBits,
      writeEntityRecord createdCore (candidateClient epoch destroys entries trace) 0 0 allComponents =
        .ok (namedClient epoch destroys entries trace, some ⟨0, record, true, payloadBits⟩) := by
    have hstate : (candidateClient epoch destroys entries trace).states[0]? = some { lastPriority := 0x3f800000 } := rfl
    have hframe : createdCore.quantizedFrames[0]? = some createdFrame := rfl
    unfold writeEntityRecord
    rw [candidate_named _ _ _ h hn]
    simp only [hstate, hframe]
    change ∃ record payloadBits, (if entries.length = 0 then _ else _) = _
    rw [if_neg hne]
    exact ⟨_, _, rfl⟩
  obtain ⟨record, payloadBits, hwrite⟩ := hwrite
  refine ⟨record, payloadBits, ?_⟩
  unfold serializeEntity
  rw [candidate_frame]
  change (writeEntityRecord createdCore (candidateClient epoch destroys entries trace) 0 0 allComponents >>= fun x =>
    pure (createdCore, x.1, x.2)) = _
  rw [hwrite]
  rfl

/-- The destroys of a send without budget, before its one update. -/
theorem candidate_loop (epoch : Nat) (destroys : List ClientDestroyState) (entries : List NetworkIdEntry)
    (trace : Trace) :
    ∃ stoppedForBudget, ((destroyOrder destroys).map SerializedCandidate.destroy).foldlM
      (SendLoop.sendCandidate onRegistry)
      { core := liveCore none, client := candidateClient epoch destroys entries trace, remaining := 0 } = .ok {
        core := liveCore none, client := candidateClient epoch destroys entries trace, remaining := 0
        stoppedForBudget } :=
  SendLoop.foldlM_sendDestroy _ _ _ rfl rfl rfl

/-- An id is left: the update is refused, and the frame made for it released. -/
theorem candidate_refused (h : entries ≠ []) (hn : entries.length ≤ maxClientLocalWireNetworkId)
    (stoppedForBudget : Bool) : ∃ l, SendLoop.sendCandidate onRegistry {
        core := liveCore none, client := candidateClient epoch destroys entries trace, remaining := 0
        stoppedForBudget } (.update 0 0x3f800000 allComponents) = .ok l ∧
      l.core = liveCore (some 0) ∧ l.client = namedClient epoch destroys entries trace ∧ l.records = [] := by
  obtain ⟨record, payloadBits, hserialize⟩ :=
    candidate_serialized epoch destroys trace h hn
  obtain ⟨packetBytes, hupdate⟩ := SendLoop.sendUpdate_unpaid (l := {
    core := liveCore none, client := candidateClient epoch destroys entries trace, remaining := 0
    stoppedForBudget }) rfl rfl rfl hserialize
  exact ⟨_, hupdate, SendLoop.refuseUpdate_keeps ..⟩

theorem waiting_send (h : entries ≠ []) (hn : entries.length ≤ maxClientLocalWireNetworkId) :
    ∃ trace', exec { core := liveCore none, clients := [waitingClient epoch destroys entries trace] } sendUnpaid =
      .ok { core := liveCore (some 0), clients := [namedClient (epoch + 1) destroys entries trace'] } := by
  obtain ⟨stopped, hdestroys⟩ := candidate_loop (epoch + 1) destroys entries (expired trace)
  obtain ⟨l, hrefused, hcore, hclient, hrecords⟩ :=
    candidate_refused (epoch + 1) destroys (expired trace) h hn stopped
  have hloop : ((destroyOrder destroys).map SerializedCandidate.destroy ++
      [SerializedCandidate.update 0 0x3f800000 allComponents]).foldlM (SendLoop.sendCandidate onRegistry)
      { core := liveCore none, remaining := 0
        client := candidateClient (epoch + 1) destroys entries (expired trace) } = .ok l := by
    rw [List.foldlM_append, hdestroys]
    exact congrArg (· >>= pure) hrefused
  refine ⟨expired trace, ?_⟩
  change (sendClient _ 0 onRegistry 0 0 (decider allComponents)).map Prod.fst = _
  rw [sendClient_eq, waiting_collect]
  change Except.map Prod.fst (((destroyOrder destroys).map SerializedCandidate.destroy ++
    [SerializedCandidate.update 0 0x3f800000 allComponents]).foldlM (SendLoop.sendCandidate onRegistry) _ >>= _) = _
  erw [hloop]
  have hfinish : l.finish = l := by simp [SendLoop.finish, hrecords]
  change Except.ok (ReplicationServer.setClient _ 0 l.finish.core l.finish.client.cleanupDirtyQueue) = _
  rw [hfinish, hcore, hclient]
  rfl

theorem liveCore_off : deactivateSlot (liveCore (some 0)) 0 entity = idleCore := by
  simp [deactivateSlot, liveCore, idleCore, entity]

/-- The entity is stopped: its id waits for a destroy that is never acknowledged. -/
theorem named_off (h : entries ≠ []) : ∃ destroys' entries' trace',
    exec { core := liveCore (some 0), clients := [namedClient epoch destroys entries trace] }
      (.rediscoverAll offRegistry) =
        .ok { core := idleCore, clients := [idleClient epoch destroys' entries' trace'] } ∧
    entries'.length = entries.length + 1 := by
  have hne : entries.length ≠ 0 := by simpa using h
  have hoff : exec { core := liveCore (some 0), clients := [namedClient epoch destroys entries trace] }
      (.rediscoverAll offRegistry) =
        .ok (({ core := deactivateSlot (liveCore (some 0)) 0 entity
                clients := [namedClient epoch destroys entries trace] } : ReplicationServer).overClients
          (fun core client => client.enqueueDestroy core 0 entity 0) |>.overClients
          fun core client => (core, client.clearDirty 0)) := by
    rfl
  rw [hoff, liveCore_off]
  refine ⟨if destroys.any fun d => d.entity == entity && d.networkId == entries.length then destroys
      else destroys ++ [⟨entity, 0, 0, entries.length, 1⟩],
    entries ++ [⟨invalidReplicatedIndexOrFreeNetworkId, 1, false, true⟩],
    { trace with calls := .clearDirty 0 :: .enqueueDestroy entity entries.length 1 destroys [] :: .clearDirty 0 ::
      .clearState 0 :: trace.calls }, ?_, by simp⟩
  simp [overClients, eachClient, enqueueDestroy, namedClient, clearState, releaseEntityState,
    ServerCore.releaseBaseline, modifyState, logCall, clearDirty, modifyEntry, markPendingDestroy, networkIdEntry?, hne,
    queued, enqueueDestroyState_eq, idleClient]

theorem first_idle : ∃ epoch destroys entries trace,
    (ReplicationServer.start options settings).run [.addClient 1 1, .rediscoverAll onRegistry, sendUnpaid,
      .rediscoverAll offRegistry] =
        .ok { core := idleCore, clients := [idleClient epoch destroys entries trace] } ∧ entries.length = 2 := by
  have hrun : ∃ trace, (ReplicationServer.start options settings).run [.addClient 1 1, .rediscoverAll onRegistry,
      sendUnpaid, .rediscoverAll offRegistry] = .ok {
        core := deactivateSlot (liveCore (some 0)) 0 entity
        clients := [idleClient 1 [⟨entity, 0, 0, 1, 1⟩]
          [{}, ⟨invalidReplicatedIndexOrFreeNetworkId, 1, false, true⟩] trace] } := ⟨_, by rfl⟩
  obtain ⟨trace, hrun⟩ := hrun
  rw [liveCore_off] at hrun
  exact ⟨1, _, _, trace, hrun, rfl⟩

/-- Every count of used ids is reached, one cycle after the other. -/
theorem idle_reachable : ∀ n, n + 2 ≤ maxClientLocalWireNetworkId + 1 → ∃ epoch destroys entries trace,
    ExhaustReachable options settings { core := idleCore, clients := [idleClient epoch destroys entries trace] } ∧
    entries.length = n + 2
  | 0, _ => by
    obtain ⟨epoch, destroys, entries, trace, hrun, hlength⟩ := first_idle
    have hreach := Monadic.foldlM_inv (fun _ => ExhaustReachable options settings) _ _ _
      (fun op _ _ _ h hexec => .step op h hexec) .start hrun
    exact ⟨epoch, destroys, entries, trace, hreach, hlength⟩
  | n + 1, hn => by
    obtain ⟨epoch, destroys, entries, trace, hreach, hlength⟩ := idle_reachable n (by omega)
    have hne : entries ≠ [] := by
      rintro rfl
      cases hlength
    obtain ⟨trace₁, hon⟩ := idle_on epoch destroys trace entries
    obtain ⟨trace₂, hsend⟩ :=
      waiting_send epoch destroys trace₁ hne (by omega)
    obtain ⟨destroys', entries', trace', hoff, hlength'⟩ :=
      named_off (epoch + 1) destroys trace₂ hne
    exact ⟨_, _, _, _, ((hreach.step _ hon).step _ hsend).step _ hoff, by omega⟩

/-- No id is left: the update throws, with its frame made and not held. -/
theorem candidate_exhausted (h : entries ≠ []) (hn : maxClientLocalWireNetworkId < entries.length)
    (stoppedForBudget : Bool) : SendLoop.exhausted onRegistry {
        core := liveCore none, client := candidateClient epoch destroys entries trace, remaining := 0
        stoppedForBudget } [.update 0 0x3f800000 allComponents] = some {
        core := createdCore, client := candidateClient epoch destroys entries trace, remaining := 0
        stoppedForBudget } := by
  have hunnamed := candidate_unnamed epoch destroys trace h hn
  have hthrow : SendLoop.sendCandidate onRegistry {
      core := liveCore none, client := candidateClient epoch destroys entries trace, remaining := 0
      stoppedForBudget } (.update 0 0x3f800000 allComponents) =
        .error (.lengthError "Ashiato Sync client-local network id space exhausted") := by
    change (serializeEntity onRegistry (liveCore none) (candidateClient epoch destroys entries trace) 0 0
      allComponents >>= _) = _
    have hserialize : serializeEntity onRegistry (liveCore none) (candidateClient epoch destroys entries trace) 0 0
        allComponents = .error (.lengthError "Ashiato Sync client-local network id space exhausted") := by
      unfold serializeEntity
      rw [candidate_frame]
      change (writeEntityRecord createdCore (candidateClient epoch destroys entries trace) 0 0 allComponents >>= _) = _
      have hstate : (candidateClient epoch destroys entries trace).states[0]? =
          some { lastPriority := 0x3f800000 } := rfl
      have hframe : createdCore.quantizedFrames[0]? = some createdFrame := rfl
      unfold writeEntityRecord
      rw [hunnamed]
      simp only [hstate, hframe]
      rfl
    rw [hserialize]
    rfl
  have hframe : findOrCreateQuantizedFrame onRegistry (liveCore none) (candidateClient epoch destroys entries trace) 0
      (liveCore none).frame = .ok (createdCore, some 0) := candidate_frame ..
  simp only [SendLoop.exhausted, hthrow, hunnamed, hframe]

theorem waiting_exhausted (h : entries ≠ []) (hn : maxClientLocalWireNetworkId < entries.length) :
    sendExhausted { core := liveCore none, clients := [waitingClient epoch destroys entries trace] } 0 onRegistry 0 0
      (decider allComponents) =
        some { core := createdCore, clients := [candidateClient (epoch + 1) destroys entries (expired trace)] } := by
  obtain ⟨stopped, hdestroys⟩ := candidate_loop (epoch + 1) destroys entries (expired trace)
  have hloop := SendLoop.exhausted_append [SerializedCandidate.update 0 0x3f800000 allComponents] hdestroys
  rw [candidate_exhausted _ _ _ h hn stopped] at hloop
  unfold sendExhausted
  rw [waiting_collect]
  change Option.map _ (SendLoop.exhausted onRegistry _ ((destroyOrder destroys).map SerializedCandidate.destroy ++
    [SerializedCandidate.update 0 0x3f800000 allComponents])) = _
  erw [hloop]
  rfl

end Sample

/-! ## Frames that nobody holds -/

/-- With sends that run out of network ids a live frame may be held by nobody. -/
theorem quantizedFrames_unheld : ¬ ∀ server, ExhaustReachable Sample.options Sample.settings server →
    ∀ (q : Nat) (f : QuantizedFrame), server.core.quantizedFrames[q]? = some f →
      (f.active = true ↔ 0 < f.refCount) := by
  intro h
  obtain ⟨epoch, destroys, entries, trace, hreach, hlength⟩ :=
    Sample.idle_reachable (maxClientLocalWireNetworkId - 1) (by decide)
  obtain ⟨trace', hon⟩ :=
    Sample.idle_on epoch destroys trace entries
  have hne : entries ≠ [] := by
    rintro rfl
    cases hlength
  have hexhausted := Sample.waiting_exhausted epoch destroys trace' hne
    (by rw [hlength]; decide)
  have hlast := ExhaustReachable.exhausted 1 _ _ _ _ (hreach.step _ hon) rfl
    (sendClient_of_exhausted hexhausted) hexhausted
  exact absurd ((h _ hlast 0 Sample.createdFrame rfl).mp rfl) (by decide)

end AshiatoSync
