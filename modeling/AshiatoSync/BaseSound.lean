import AshiatoSync.QueueSound

/-!
# The base invariant

Slots, states and dirty queues stay in step through every move.
-/

namespace AshiatoSync

open ServerClientReplicator

/-! ## Moves of one replicator -/

theorem adoptBaseline_sameSlots (core : ServerCore) (b : Option Nat) (q : Nat) :
    SameSlots core (adoptBaseline core b q) := by
  unfold adoptBaseline
  split
  · exact .refl _
  · exact (releaseBaseline_sameSlots core b).trans (retain_sameSlots _ q)

theorem clearState_sameSlots (core : ServerCore) (client : ServerClientReplicator) (slot : Nat) :
    SameSlots core (client.clearState core slot).1 := by
  unfold clearState
  split
  · exact .refl _
  · exact releaseEntityState_sameSlots core _

theorem enqueueDestroy_core (core : ServerCore) (client : ServerClientReplicator) (slot : Nat) (entity : Entity)
    (frame : SyncFrame) : (client.enqueueDestroy core slot entity frame).1 = (client.clearState core slot).1 := by
  unfold enqueueDestroy
  simp only
  split <;> rfl

theorem storeDecision_sameSlots (core : ServerCore) (client : ServerClientReplicator) (slot : Nat)
    (decision : EntityReplicationDecision) : SameSlots core (client.storeDecision core slot decision).1 := by
  unfold storeDecision
  split
  · exact .refl _
  · simp only
    split
    · unfold invalidateEntityBaseline
      split
      · exact .refl _
      · exact releaseBaseline_sameSlots core _
    · exact .refl _

theorem acknowledgeEntity_sameSlots (core : ServerCore) (client : ServerClientReplicator) (slot : Nat)
    (frame : SyncFrame) : SameSlots core (client.acknowledgeEntity core slot frame).1 := by
  rcases acknowledgeEntity_spec core client slot frame with
    ⟨h, -⟩ | ⟨s, found, eligible, -, -, -, -, h, -⟩
  · rw [h]
    exact .refl _
  · rw [h]
    refine .trans ?_ (releases_sameSlots _ _)
    split
    · exact adoptBaseline_sameSlots core _ _
    · exact .refl _

theorem LocalMove.sameSlots {strict : Prop} {core core' : ServerCore} {client client' : ServerClientReplicator}
    (m : LocalMove strict core client core' client') : SameSlots core core' := by
  cases m with
  | ensureCapacity | markDirty | clearDirty | beginSend | expireCues | accumulate | boost | allocate
  | sendDestroy | sendPacket | cleanupQueue | forgetPackets | pushCue => exact .refl _
  | clearUnsent _ => exact clearState_sameSlots ..
  | enqueueDestroy _ _ =>
    rw [enqueueDestroy_core]
    exact clearState_sameSlots ..
  | storeDecision _ _ => exact storeDecision_sameSlots ..
  | refuse _ ho => exact (obtained_sameSlots ho).trans ((retain_sameSlots _ _).trans (release_sameSlots _ _))
  | accept _ _ ho _ _ _ _ _ _ =>
    exact (obtained_sameSlots ho).trans ((retain_sameSlots _ _).trans (recordSent_sameSlots _ _ _ _))
  | @acknowledge packet record _ _ =>
    unfold acknowledgeRecord
    split
    · exact .refl _
    · split
      · exact .refl _
      · exact acknowledgeEntity_sameSlots ..

theorem dirtyQueue_of_destroy (client : ServerClientReplicator) (packet : PendingPacketAck) (record : PacketAckRecord)
    (entity : Entity) (frame : SyncFrame) :
    ((client.logRetired packet record).acknowledgeDestroy entity frame).1.dirtyQueue = client.dirtyQueue := by
  obtain ⟨calls, h⟩ := logRetired_eq client packet record
  rw [h]
  unfold acknowledgeDestroy
  split
  · rfl
  · simp only [freeNetworkId]
    split
    · rfl
    · split <;> rfl

theorem enqueueDestroy_dirtyQueue (core : ServerCore) (client : ServerClientReplicator) (slot : Nat) (entity : Entity)
    (frame : SyncFrame) : (client.enqueueDestroy core slot entity frame).2.dirtyQueue =
      (client.modifyEntry slot fun e => { listed := e.listed }).dirtyQueue := by
  have hclear : (client.clearState core slot).2.dirtyQueue = client.dirtyQueue := by
    unfold clearState
    split <;> rfl
  have hmark : ∀ (c : ServerClientReplicator) (id : Nat), (c.markPendingDestroy id).1.dirtyQueue = c.dirtyQueue := by
    intro c id
    unfold markPendingDestroy
    split <;> rfl
  have hq : ∀ (c : ServerClientReplicator) (id v : Nat),
      (c.enqueueDestroyState entity frame id v).dirtyQueue = c.dirtyQueue := by
    intro c id v
    unfold enqueueDestroyState
    simp only
    split <;> rfl
  unfold enqueueDestroy
  simp only
  split
  · rw [hq, hmark]
    simp only [clearDirty, logCall, modifyEntry, hclear]
  · rw [hmark]
    simp only [clearDirty, logCall, modifyEntry, hclear]

theorem decidedStateFor_mask (decision : EntityReplicationDecision) (s : ClientEntityState) :
    (decidedStateFor decision s).componentMask = decision.componentMask := by
  unfold decidedStateFor
  split <;> rfl

theorem storeDecision_dirtyQueue (core : ServerCore) (client : ServerClientReplicator) (slot : Nat)
    (decision : EntityReplicationDecision) : (client.storeDecision core slot decision).2.dirtyQueue =
      (client.modifyEntry slot (decidedEntry decision)).dirtyQueue := by
  unfold storeDecision
  split
  · rfl
  · simp only
    split
    · unfold invalidateEntityBaseline
      split <;> rfl
    · rfl

theorem QueueInv.storeDecision {core : ServerCore} {client : ServerClientReplicator} (h : QueueInv core client)
    {slot : Nat} (decision : EntityReplicationDecision) (ha : core.replicatedSlotActive slot = true) :
    QueueInv core (client.storeDecision core slot decision).2 := by
  cases hs : client.states[slot]? with
  | none =>
    have he : client.dirtyQueue.entries[slot]? = none := by
      rw [List.getElem?_eq_none_iff] at hs ⊢
      have := h.lengths
      omega
    apply h.of_eq
    · unfold ServerClientReplicator.storeDecision
      simp only [hs]
      rfl
    · rw [storeDecision_dirtyQueue]
      simp only [ServerClientReplicator.modifyEntry]
      congr 1
      apply List.ext_getElem?
      intro i
      rw [List.getElem?_modify]
      by_cases hi : slot = i
      · subst hi; simp [he]
      · simp [hi]
  | some s =>
    -- the entry and the state take the decision's mask together
    have hstates := storeDecision_state core decision hs
    have hqueue := storeDecision_dirtyQueue core client slot decision
    have hget : ∀ {i : Nat} {e' : DirtyEntry},
        (client.storeDecision core slot decision).2.dirtyQueue.entries[i]? = some e' →
        ∃ e, client.dirtyQueue.entries[i]? = some e ∧
        (e' = e ∧ i ≠ slot ∨ i = slot ∧ e' = decidedEntry decision e) := by
      intro i e' he'
      rw [hqueue] at he'
      exact modifyEntry_get he'
    refine ⟨?_, ?_, ?_, ?_, ?_, ?_, ?_, ?_⟩
    · rw [hstates, hqueue]
      simpa [ServerClientReplicator.modifyState, ServerClientReplicator.modifyEntry] using h.lengths
    · rw [hstates]
      simpa [ServerClientReplicator.modifyState] using h.bounded
    · intro i s' hi hs'
      rw [hstates] at hs'
      obtain ⟨s₁, hget, rfl | ⟨rfl, rfl⟩⟩ := modifyState_get hs'
      · exact h.idleState i s' hi hget
      · simp [ha] at hi
    · intro i e' hi he'
      obtain ⟨e, he, ⟨rfl, -⟩ | ⟨rfl, rfl⟩⟩ := hget he'
      · exact h.idleEntry i e' hi he
      · simp [ha] at hi
    · intro i
      rw [hqueue]
      rw [show (client.modifyEntry slot (decidedEntry decision)).dirtyQueue.dirtyReplicatedIndices =
        client.dirtyQueue.dirtyReplicatedIndices from rfl, h.listed i]
      simp only [ServerClientReplicator.modifyEntry, List.getElem?_modify]
      cases client.dirtyQueue.entries[i]? with
      | none => simp
      | some e => by_cases hi : slot = i <;> simp [hi, decidedEntry]
    · rw [hqueue]
      exact h.nodup
    · intro i e' he' hqd
      obtain ⟨e, he, ⟨rfl, -⟩ | ⟨rfl, rfl⟩⟩ := hget he'
      · exact h.queued i e' he hqd
      · exact h.queued i e he hqd
    · intro i e' s' he' hs' hqd
      rw [hstates] at hs'
      obtain ⟨e, he, ⟨rfl, hne⟩ | ⟨rfl, rfl⟩⟩ := hget he'
      · obtain ⟨s₁, hget, rfl | ⟨rfl, rfl⟩⟩ := modifyState_get hs'
        · exact h.mask i e' s' he hget hqd
        · exact absurd rfl hne
      · simp only [ServerClientReplicator.modifyState, List.getElem?_modify_eq, hs, Option.map_eq_map,
          Option.map_some, Option.some.injEq] at hs'
        subst hs'
        rw [decidedStateFor_mask]
        rfl

theorem QueueInv.acknowledgeEntity {core : ServerCore} {client : ServerClientReplicator} (h : QueueInv core client)
    {slot : Nat} {frame : SyncFrame} (ha : core.replicatedSlotActive slot = true) :
    QueueInv core (client.acknowledgeEntity core slot frame).2.1 := by
  rcases acknowledgeEntity_spec core client slot frame with
    ⟨-, h'⟩ | ⟨s, found, eligible, hs, -, -, -, -, h'⟩
  · rw [h']
    exact h
  · rw [h']
    have hentry : QueueInv core
        (if eligible = true then client.modifyEntry slot (settleEntry frame) else client) := by
      split
      · refine h.modifyEntry ha ?_ ?_
        · intro e
          unfold settleEntry
          split <;> rfl
        · intro e hq
          unfold settleEntry at hq ⊢
          split at hq
          · simp at hq
          · rename_i hlt
            rw [if_neg hlt]
            exact ⟨hq, rfl⟩
      · exact h
    exact hentry.modifyState (f := acknowledgedState eligible found.quantizedFrame frame) ha (fun _ _ => rfl) rfl rfl

theorem recordSent_dirtyQueue (core : ServerCore) (client : ServerClientReplicator) (slot : Nat)
    (serialized : SerializedEntity) : (SendLoop.recordSent core client slot serialized).2.dirtyQueue =
      (client.modifyEntry slot (SendLoop.sentEntry core.frame)).dirtyQueue := by
  have hd : ∀ (c : ServerClientReplicator), (SendLoop.dropBaseline core c slot serialized.fullState).2.dirtyQueue =
      c.dirtyQueue := by
    intro c
    unfold SendLoop.dropBaseline
    split
    · unfold invalidateEntityBaseline
      split <;> rfl
    · rfl
  have hp : ∀ (core : ServerCore) (c : ServerClientReplicator) (q : Nat),
      (SendLoop.queuePending core c slot q).2.dirtyQueue = c.dirtyQueue := by
    intro core c q
    unfold SendLoop.queuePending
    split <;> rfl
  rw [recordSent_eq, hp, hd]

theorem QueueInv.recordSent {core : ServerCore} {client : ServerClientReplicator} (h : QueueInv core client)
    {slot : Nat} {serialized : SerializedEntity} {core' : ServerCore} {s : ClientEntityState}
    (hs : client.states[slot]? = some s) (ha : core.replicatedSlotActive slot = true) :
    QueueInv core (SendLoop.recordSent core' client slot serialized).2 := by
  obtain ⟨hsent, hother⟩ := recordSent_states core' _ serialized hs
  have hentry : QueueInv core (client.modifyEntry slot (SendLoop.sentEntry core'.frame)) :=
    h.modifyEntry ha (fun _ => rfl) fun _ hq => ⟨hq, rfl⟩
  refine hentry.modifyState
    (f := fun _ => sentState serialized.fullState serialized.quantizedFrame core'.frame s) ha ?_ ?_
    (recordSent_dirtyQueue ..)
  · intro s₁ hs₁
    rw [show (client.modifyEntry slot (SendLoop.sentEntry core'.frame)).states = client.states from rfl, hs] at hs₁
    obtain rfl := Option.some.inj hs₁
    simp only [sentState, droppedState]
    split <;> rfl
  · apply List.ext_getElem?
    intro i
    by_cases hi : i = slot
    · subst hi
      simp [hsent, ServerClientReplicator.modifyState, ServerClientReplicator.modifyEntry, hs]
    · simp [hother i hi, ServerClientReplicator.modifyState, ServerClientReplicator.modifyEntry, Ne.symm hi]

theorem LocalMove.queue {strict : Prop} {core core' : ServerCore} {client client' : ServerClientReplicator}
    (m : LocalMove strict core client core' client') (hslots : SlotsInv core) (h : QueueInv core client) :
    QueueInv core client' := by
  cases m with
  | ensureCapacity => exact h.ensureCapacity
  | markDirty ha => exact h.markDirty ha
  | @clearUnsent slot hs =>
    apply h.of_eq
    · rw [clearState_states]
      apply List.ext_getElem?
      intro i
      simp only [ServerClientReplicator.modifyState, List.getElem?_modify]
      by_cases hi : slot = i
      · subst hi; simp [hs]
      · simp [hi]
    · unfold clearState
      split <;> rfl
  | enqueueDestroy _ _ => exact h.blank (enqueueDestroy_states ..) (enqueueDestroy_dirtyQueue ..)
  | @clearDirty slot ha =>
    have hstates : (client.clearDirty slot).states = (client.modifyState slot fun _ => {}).states := by
      apply List.ext_getElem?
      intro i
      simp only [ServerClientReplicator.modifyState, List.getElem?_modify]
      show client.states[i]? = _
      by_cases hi : slot = i
      · subst hi
        cases hs : client.states[slot]? with
        | none => rfl
        | some s => simp [h.idleState slot s ha hs]
      · simp [hi]
    exact h.blank hstates rfl
  | beginSend _ => exact h.of_eq rfl rfl
  | expireCues =>
    refine { h with lengths := ?_, bounded := ?_, idleState := ?_, mask := ?_ }
    · simpa [expirePendingCues, logCall] using h.lengths
    · simpa [expirePendingCues, logCall] using h.bounded
    · intro i s' hi hs'
      simp only [expirePendingCues, logCall, List.getElem?_map, Option.map_eq_some_iff] at hs'
      obtain ⟨s, hs, rfl⟩ := hs'
      rw [h.idleState i s hi hs]
      rfl
    · intro i e s' he hs' hq
      simp only [expirePendingCues, logCall, List.getElem?_map, Option.map_eq_some_iff] at hs'
      obtain ⟨s, hs, rfl⟩ := hs'
      exact h.mask i e s he hs hq
  | storeDecision decision ha => exact h.storeDecision decision ha
  | accumulate ha => exact h.modifyEntry ha (fun _ => rfl) fun _ hq => ⟨hq, rfl⟩
  | boost ha =>
    exact h.modifyState (f := fun s => { s with referencePriorityBoostPending := true }) ha (fun _ _ => rfl) rfl rfl
  | @allocate slot networkId state _ ha hs _ hal =>
    obtain ⟨version, ids, -, -, rfl⟩ := allocate_states hs hal
    exact h.modifyState (f := fun state => { state with networkId, networkVersion := version, hasNetworkId := true }) ha
      (fun _ _ => rfl) rfl rfl
  | sendDestroy _ => exact h.of_eq rfl rfl
  | refuse _ _ => exact h
  | @accept core₁ slot q r state quantized mask serialized w hr hact _ hs _ _ _ _ _ =>
    have h' : QueueInv core (client.logWritten w) := h.of_eq rfl rfl
    exact h'.recordSent hs (by rw [slotActive_of_get hr]; exact hact)
  | sendPacket _ =>
    apply h.of_eq <;> rw [(sendPacket_spec ..).same]
  | cleanupQueue => exact h.cleanup
  | @acknowledge packet record _ _ =>
    unfold acknowledgeRecord
    split
    · exact h.of_eq (states_retireDestroy ..) (dirtyQueue_of_destroy ..)
    · split
      · exact h
      · rename_i slot hslot
        obtain ⟨r, hr, hact, -⟩ := hslots.entities _ _ hslot
        exact h.acknowledgeEntity (by rw [slotActive_of_get hr]; exact hact)
  | forgetPackets _ _ => exact h.of_eq rfl rfl
  | pushCue cue ha _ =>
    exact h.modifyState (f := fun s => { s with pendingCues := s.pendingCues ++ [cue] }) ha (fun _ _ => rfl) rfl rfl

/-! ## Moves of the server -/

structure BaseInv (s : ReplicationServer) : Prop where
  slots : SlotsInv s.core
  queues : ∀ client ∈ s.clients, QueueInv s.core client

theorem bumpGenerations_sameSlots (core : ServerCore) (slot : Nat) (which : SyncArchetype → List Nat) :
    SameSlots core (ReplicationServer.bumpGenerations core slot which) := by
  unfold ReplicationServer.bumpGenerations
  split
  · exact .refl _
  rename_i r hr
  split
  · exact .refl _
  split
  · exact .refl _
  refine ⟨rfl, rfl, rfl, ?_, rfl, rfl, rfl, rfl⟩
  apply List.ext_getElem?
  intro i
  simp only [slotView, List.getElem?_map, set_get hr]
  split
  · rename_i hi
    subst hi
    simp [hr]
  · rfl

theorem clearAll_sameSlots (core : ServerCore) (client : ServerClientReplicator) :
    SameSlots core (client.clearAll core).1 := by
  show SameSlots core (client.states.foldl releaseEntityState core)
  generalize client.states = states
  induction states generalizing core with
  | nil => exact .refl _
  | cons s states ih => exact (releaseEntityState_sameSlots core s).trans (ih _)

theorem mem_swapRemove {clients : List ServerClientReplicator} {c : Nat} {client : ServerClientReplicator}
    (h : client ∈ ReplicationServer.swapRemove clients c) : client ∈ clients := by
  unfold ReplicationServer.swapRemove at h
  split at h
  · exact h
  · rename_i last hl
    rcases List.mem_or_eq_of_mem_set (List.dropLast_subset _ h) with h | rfl
    · exact h
    · exact List.mem_of_getLast? hl

structure SlotTaken (core : ServerCore) (entity : Entity) (slot : Nat) (core' : ServerCore) : Prop where
  options : core'.options = core.options
  settings : core'.settings = core.settings
  frame : core'.frame = core.frame
  idle : core.replicatedSlotActive slot = false
  grown : core.replicated.length ≤ core'.replicated.length
  taken : ∃ r, core'.replicated[slot]? = some r ∧ r.active = true ∧ r.entity = entity
  other : ∀ i, i ≠ slot → core'.replicated[i]? = core.replicated[i]?
  entities : core'.entityToReplicatedIndex = Function.update core.entityToReplicatedIndex entity (some slot)
  indices : core'.entityIndexToReplicatedIndex =
    Function.update core.entityIndexToReplicatedIndex entity.index (some slot)
  free : core.freeReplicatedIndices = slot :: core'.freeReplicatedIndices ∨
    core.freeReplicatedIndices = [] ∧ core'.freeReplicatedIndices = []
  frames : core'.quantizedFrames = core.quantizedFrames
  freeFrames : core'.freeQuantizedFrames = core.freeQuantizedFrames
  count : core'.activeReplicatedCount = core.activeReplicatedCount + 1
  view : ∃ v : Entity × SyncArchetypeId × Bool, v.2.2 = true ∧
    (slot < core.replicated.length ∧ slotView core' = (slotView core).set slot v ∨
      slot = core.replicated.length ∧ slotView core' = slotView core ++ [v])

theorem Activated.taken {core core' : ServerCore} {entity : Entity} {slot : Nat} (hs : SlotsInv core)
    (h : Activated core entity slot core') : SlotTaken core entity slot core' := by
  obtain ⟨archetype, definition, core₁, -, halloc, rfl⟩ := h.allocated
  unfold ReplicationServer.allocateReplicatedSlot at halloc
  split at halloc
  · rename_i slot' rest hfree
    obtain ⟨rfl, rfl⟩ := Prod.mk.inj (Except.ok.inj halloc)
    obtain ⟨r, hr, hidle⟩ := hs.free slot' (by simp [hfree])
    have hlt := (List.getElem?_eq_some_iff.mp hr).1
    refine ⟨rfl, rfl, rfl, by rw [slotActive_of_get hr, hidle], ?_, ?_, ?_, rfl, rfl, .inl hfree, rfl, rfl, rfl,
      (entity, archetype, true), rfl, .inl ⟨hlt, ?_⟩⟩
    · simp [ReplicationServer.initializeSlot]
    · simp [ReplicationServer.initializeSlot, hlt]
    · intro i hi
      simp [ReplicationServer.initializeSlot, Ne.symm hi]
    · have hkeeps := map_modify_of_comp (fun r : ReplicatedSlot => (r.entity, r.archetype, r.active))
        (fun r => { r with
          sameFrameCacheable := ReplicationServer.archetypeIsSameFrameCacheable definition
          componentDirtyGenerations := List.replicate (syncSlotCount definition) 1 }) (fun _ => rfl)
      exact (hkeeps _ _).trans (List.map_set ..)
  · rename_i hfree
    split at halloc
    · cases halloc
    obtain ⟨rfl, rfl⟩ := Prod.mk.inj (Except.ok.inj halloc)
    refine ⟨rfl, rfl, rfl, ?_, ?_, ?_, ?_, rfl, rfl, .inr ⟨hfree, hfree⟩, rfl, rfl, rfl,
      (entity, archetype, true), rfl,
      .inr ⟨rfl, ?_⟩⟩
    · simp [ServerCore.replicatedSlotActive]
    · simp [ReplicationServer.initializeSlot]
    · simp [ReplicationServer.initializeSlot]
    · intro i hi
      simp only [ReplicationServer.initializeSlot, List.getElem?_modify, Ne.symm hi, if_false]
      rcases Nat.lt_or_gt_of_ne hi with hlt | hgt
      · simp [List.getElem?_append_left hlt]
      · have h1 : core.replicated[i]? = none := List.getElem?_eq_none (by omega)
        simp only [h1]
        rw [List.getElem?_eq_none (by simp; omega)]
        rfl
    · have hkeeps := map_modify_of_comp (fun r : ReplicatedSlot => (r.entity, r.archetype, r.active))
        (fun r => { r with
          sameFrameCacheable := ReplicationServer.archetypeIsSameFrameCacheable definition
          componentDirtyGenerations := List.replicate (syncSlotCount definition) 1 }) (fun _ => rfl)
      exact (hkeeps _ _).trans List.map_append

theorem SlotTaken.slotActive {core core' : ServerCore} {entity : Entity} {slot : Nat}
    (h : SlotTaken core entity slot core') {i : Nat} (hi : i ≠ slot) :
    core'.replicatedSlotActive i = core.replicatedSlotActive i := by
  simp [ServerCore.replicatedSlotActive, h.other i hi]

theorem SlotTaken.active {core core' : ServerCore} {entity : Entity} {slot : Nat}
    (h : SlotTaken core entity slot core') : core'.replicatedSlotActive slot = true := by
  obtain ⟨r, hr, ha, -⟩ := h.taken
  rw [slotActive_of_get hr, ha]

theorem SlotTaken.slots {core core' : ServerCore} {entity : Entity} {slot : Nat}
    (h : SlotTaken core entity slot core') (hs : SlotsInv core) : SlotsInv core' := by
  have hne : ∀ {i : Nat} {r : ReplicatedSlot}, core.replicated[i]? = some r → r.active = true → i ≠ slot := by
    rintro i r hr ha rfl
    have := h.idle
    rw [slotActive_of_get hr, ha] at this
    cases this
  obtain ⟨r₀, hr₀, ha₀, he₀⟩ := h.taken
  refine ⟨?_, ?_, ?_, ?_⟩
  · intro e i hi
    rw [h.entities, Function.update_apply] at hi
    split at hi
    · rename_i hee
      obtain rfl := Option.some.inj hi
      exact ⟨r₀, hr₀, ha₀, he₀.trans hee.symm⟩
    · obtain ⟨r, hr, ha, hre⟩ := hs.entities e i hi
      exact ⟨r, (h.other i (hne hr ha)).trans hr, ha, hre⟩
  · intro x i hi
    rw [h.indices, Function.update_apply] at hi
    split at hi
    · rename_i hee
      obtain rfl := Option.some.inj hi
      exact ⟨r₀, hr₀, ha₀, by rw [he₀, hee]⟩
    · obtain ⟨r, hr, ha, hre⟩ := hs.indices x i hi
      exact ⟨r, (h.other i (hne hr ha)).trans hr, ha, hre⟩
  · intro i hi
    rcases h.free with hf | ⟨-, hf⟩
    · have hnd := List.nodup_cons.mp (hf ▸ hs.freeNodup)
      obtain ⟨r, hr, ha⟩ := hs.free i (by simp [hf, hi])
      have hi' : i ≠ slot := by
        rintro rfl
        exact hnd.1 hi
      exact ⟨r, (h.other i hi').trans hr, ha⟩
    · simp [hf] at hi
  · rcases h.free with hf | ⟨-, hf⟩
    · exact (List.nodup_cons.mp (hf ▸ hs.freeNodup)).2
    · simp [hf]

theorem SlotTaken.queue {core core' : ServerCore} {entity : Entity} {slot : Nat} {client : ServerClientReplicator}
    (h : SlotTaken core entity slot core') (hq : QueueInv core client) : QueueInv core' client := by
  have hidle : ∀ {i : Nat}, core'.replicatedSlotActive i = false → core.replicatedSlotActive i = false := by
    intro i hi
    by_cases hne : i = slot
    · rw [hne]
      exact h.idle
    · rw [← h.slotActive hne]
      exact hi
  exact { hq with
    bounded := hq.bounded.trans h.grown
    idleState := fun i s hi => hq.idleState i s (hidle hi)
    idleEntry := fun i e hi => hq.idleEntry i e (hidle hi) }

theorem forgetEntity_slots {core : ServerCore} (h : SlotsInv core) (entity : Entity) :
    SlotsInv (ReplicationServer.forgetEntity core entity) := by
  refine ⟨?_, ?_, h.free, h.freeNodup⟩
  · intro e slot he
    simp only [ReplicationServer.forgetEntity, Function.update_apply] at he
    split at he
    · cases he
    · exact h.entities e slot he
  · intro i slot hi
    simp only [ReplicationServer.forgetEntity, Function.update_apply] at hi
    split at hi
    · cases hi
    · exact h.indices i slot hi

theorem deactivateSlot_get (core : ServerCore) (slot : Nat) (entity : Entity) {i : Nat} (hi : i ≠ slot) :
    (ReplicationServer.deactivateSlot core slot entity).replicated[i]? = core.replicated[i]? := by
  simp [ReplicationServer.deactivateSlot, Ne.symm hi]

theorem deactivateSlot_slots {core : ServerCore} {slot : Nat} {r : ReplicatedSlot} (h : SlotsInv core)
    (hr : core.replicated[slot]? = some r) (ha : r.active = true) :
    SlotsInv (ReplicationServer.deactivateSlot core slot r.entity) := by
  refine ⟨?_, ?_, ?_, ?_⟩
  · intro e i he
    simp only [ReplicationServer.deactivateSlot, Function.update_apply] at he
    split at he
    · cases he
    · rename_i hne
      obtain ⟨r', hr', ha', he'⟩ := h.entities e i he
      refine ⟨r', ?_, ha', he'⟩
      rw [deactivateSlot_get core slot _ ?_]
      · exact hr'
      · rintro rfl
        rw [hr] at hr'
        obtain rfl := Option.some.inj hr'
        exact hne he'.symm
  · intro x i hx
    simp only [ReplicationServer.deactivateSlot, Function.update_apply] at hx
    split at hx
    · cases hx
    · rename_i hne
      obtain ⟨r', hr', ha', he'⟩ := h.indices x i hx
      refine ⟨r', ?_, ha', he'⟩
      rw [deactivateSlot_get core slot _ ?_]
      · exact hr'
      · rintro rfl
        rw [hr] at hr'
        obtain rfl := Option.some.inj hr'
        exact hne he'.symm
  · intro i hi
    rcases List.mem_cons.mp hi with rfl | hi
    · simp [ReplicationServer.deactivateSlot, hr]
    · obtain ⟨r', hr', ha'⟩ := h.free i hi
      refine ⟨r', ?_, ha'⟩
      rw [deactivateSlot_get core slot _ ?_]
      · exact hr'
      · rintro rfl
        rw [hr] at hr'
        obtain rfl := Option.some.inj hr'
        simp [ha] at ha'
  · refine List.nodup_cons.mpr ⟨?_, h.freeNodup⟩
    intro hi
    obtain ⟨r', hr', ha'⟩ := h.free slot hi
    rw [hr] at hr'
    obtain rfl := Option.some.inj hr'
    simp [ha] at ha'

theorem deactivateSlot_queue {core : ServerCore} {slot : Nat} {entity : Entity} {client : ServerClientReplicator}
    (h : QueueInv core client) (hs : ∀ s, client.states[slot]? = some s → s = {})
    (he : ∀ e, client.dirtyQueue.entries[slot]? = some e → e = { listed := e.listed }) :
    QueueInv (ReplicationServer.deactivateSlot core slot entity) client := by
  have hidle : ∀ {i : Nat}, i ≠ slot →
      (ReplicationServer.deactivateSlot core slot entity).replicatedSlotActive i = core.replicatedSlotActive i := by
    intro i hi
    simp only [ServerCore.replicatedSlotActive, deactivateSlot_get core slot entity hi]
  refine { h with bounded := ?_, idleState := ?_, idleEntry := ?_ }
  · simpa [ReplicationServer.deactivateSlot] using h.bounded
  · intro i s hi hst
    by_cases hne : i = slot
    · exact hs s (hne ▸ hst)
    · exact h.idleState i s (hidle hne ▸ hi) hst
  · intro i e hi hen
    by_cases hne : i = slot
    · exact he e (hne ▸ hen)
    · exact h.idleEntry i e (hidle hne ▸ hi) hen

theorem Move.base {strict : Prop} {s s' : ReplicationServer} (m : Move strict s s') (h : BaseInv s) : BaseInv s' := by
  obtain ⟨hslots, hqueues⟩ := h
  cases m with
  | setFrame _ =>
    exact ⟨⟨hslots.entities, hslots.indices, hslots.free, hslots.freeNodup⟩, fun client hc =>
      { hqueues client hc with }⟩
  | @generations slot which =>
    have hsame := bumpGenerations_sameSlots s.core slot which
    exact ⟨hslots.of_sameSlots hsame, fun client hc => (hqueues client hc).of_sameSlots hsame⟩
  | initialized =>
    exact ⟨⟨hslots.entities, hslots.indices, hslots.free, hslots.freeNodup⟩, fun client hc =>
      { hqueues client hc with }⟩
  | forget => exact ⟨forgetEntity_slots hslots _, fun client hc => { hqueues client hc with }⟩
  | activate ha =>
    have ht := ha.taken hslots
    exact ⟨ht.slots hslots, fun client hc => ht.queue (hqueues client hc)⟩
  | deactivate hr ha hs he =>
    exact ⟨deactivateSlot_slots hslots hr ha,
      fun client hc => deactivateSlot_queue (hqueues client hc) (hs client hc) (he client hc)⟩
  | client hc hm =>
    have hsame := hm.sameSlots
    refine ⟨hslots.of_sameSlots hsame, fun client hmem => ?_⟩
    rcases List.mem_or_eq_of_mem_set hmem with hmem | rfl
    · exact (hqueues client hmem).of_sameSlots hsame
    · exact (hm.queue hslots (hqueues _ (List.mem_of_getElem? hc))).of_sameSlots hsame
  | connect peer id =>
    refine ⟨hslots, fun client hmem => ?_⟩
    rcases List.mem_append.mp hmem with hmem | hmem
    · exact hqueues client hmem
    · obtain rfl := List.mem_singleton.mp hmem
      constructor <;> simp
  | @disconnect c client hc =>
    have hsame := clearAll_sameSlots s.core client
    exact ⟨hslots.of_sameSlots hsame, fun other hmem =>
      (hqueues other (mem_swapRemove hmem)).of_sameSlots hsame⟩

theorem BaseInv.start (options : ReplicationServerOptions) (settings : SyncSettings) :
    BaseInv (ReplicationServer.start options settings) := by
  refine ⟨⟨?_, ?_, ?_, ?_⟩, ?_⟩ <;> simp [ReplicationServer.start]

end AshiatoSync
