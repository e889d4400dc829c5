import AshiatoSync.LocalRuns

/-!
# Slots come and go by moves

Deactivation, activation and rediscovery, the broadcast of dirty slots, cues,
acknowledgements and connections as sequences of moves.
-/

namespace AshiatoSync

open ServerClientReplicator

section

variable {strict : Prop}

theorem Move.settings {s s' : ReplicationServer} (hs : BaseInv s) (m : Move strict s s') :
    s'.core.settings = s.core.settings := by
  cases m.clientsMove hs with
  | around _ hset _ _ _ => exact hset
  | client _ hm _ => exact hm.sameSlots.settings
  | connect _ _ hcore _ => rw [hcore]
  | disconnect _ hcore _ =>
    rw [hcore]
    exact (clearAll_sameSlots _ _).settings

theorem Moves.settings {s s' : ReplicationServer} (hs : ServerInv s) (m : Moves strict s s') :
    s'.core.settings = s.core.settings := by
  induction m with
  | refl => rfl
  | tail ms m ih => exact (m.settings (hs.moves ms).base).trans ih

/-! ## Deactivation -/

theorem modify_comm {α : Type} (l : List α) (i j : Nat) (f g : α → α) (h : ∀ a, f (g a) = g (f a)) :
    (l.modify i f).modify j g = (l.modify j g).modify i f := by
  apply List.ext_getElem?
  intro k
  simp only [List.getElem?_modify]
  cases l[k]? with
  | none => rfl
  | some a => by_cases hi : i = k <;> by_cases hj : j = k <;> simp [hi, hj, h]

theorem release_deactivateSlot (core : ServerCore) (slot : Nat) (entity : Entity) (q : Nat) :
    (ReplicationServer.deactivateSlot core slot entity).releaseQuantizedFrame q =
      ReplicationServer.deactivateSlot (core.releaseQuantizedFrame q) slot entity := by
  unfold ServerCore.releaseQuantizedFrame
  rw [show (ReplicationServer.deactivateSlot core slot entity).quantizedFrames = core.quantizedFrames from rfl]
  split
  · rfl
  · split
    · rfl
    · split
      · rfl
      · simp only [ReplicationServer.deactivateSlot]
        rw [modify_comm]
        intro r
        simp

theorem releaseEntityState_deactivateSlot (core : ServerCore) (slot : Nat) (entity : Entity)
    (state : ClientEntityState) :
    releaseEntityState (ReplicationServer.deactivateSlot core slot entity) state =
      ReplicationServer.deactivateSlot (releaseEntityState core state) slot entity := by
  have hbase : (ReplicationServer.deactivateSlot core slot entity).releaseBaseline state.baseline =
      ReplicationServer.deactivateSlot (core.releaseBaseline state.baseline) slot entity := by
    cases state.baseline with
    | none => rfl
    | some q => exact release_deactivateSlot core slot entity q
  unfold releaseEntityState
  rw [hbase]
  generalize core.releaseBaseline state.baseline = core
  induction state.pending generalizing core with
  | nil => rfl
  | cons p l ih =>
    simp only [List.foldl_cons]
    rw [release_deactivateSlot]
    exact ih _

theorem enqueueDestroy_deactivateSlot (core : ServerCore) (client : ServerClientReplicator) (slot : Nat)
    (entity : Entity) (frame : SyncFrame) :
    client.enqueueDestroy (ReplicationServer.deactivateSlot core slot entity) slot entity frame =
      (ReplicationServer.deactivateSlot (client.enqueueDestroy core slot entity frame).1 slot entity,
        (client.enqueueDestroy core slot entity frame).2) := by
  have hclear : client.clearState (ReplicationServer.deactivateSlot core slot entity) slot =
      (ReplicationServer.deactivateSlot (client.clearState core slot).1 slot entity,
        (client.clearState core slot).2) := by
    unfold clearState
    split
    · rfl
    · rw [releaseEntityState_deactivateSlot]
  unfold enqueueDestroy
  rw [hclear]
  simp only
  split <;> rfl

def stopReplicating (slot : Nat) (entity : Entity) (core : ServerCore) (client : ServerClientReplicator) :
    ServerCore × ServerClientReplicator :=
  client.enqueueDestroy core slot entity core.frame

theorem eachClient_deactivateSlot (slot : Nat) (entity : Entity) (clients : List ServerClientReplicator)
    (core : ServerCore) :
    eachClient (stopReplicating slot entity) (ReplicationServer.deactivateSlot core slot entity) clients =
      (ReplicationServer.deactivateSlot (eachClient (stopReplicating slot entity) core clients).1 slot entity,
        (eachClient (stopReplicating slot entity) core clients).2) := by
  induction clients generalizing core with
  | nil => rfl
  | cons client rest ih =>
    simp only [eachClient, stopReplicating]
    rw [show (ReplicationServer.deactivateSlot core slot entity).frame = core.frame from rfl,
      enqueueDestroy_deactivateSlot]
    rw [ih]

theorem mem_eachClient {f : ServerCore → ServerClientReplicator → ServerCore × ServerClientReplicator}
    {clients : List ServerClientReplicator} {core : ServerCore} {client' : ServerClientReplicator}
    (h : client' ∈ (eachClient f core clients).2) :
    ∃ core client, client ∈ clients ∧ client' = (f core client).2 := by
  induction clients generalizing core with
  | nil => simp [eachClient] at h
  | cons client rest ih =>
    simp only [eachClient, List.mem_cons] at h
    rcases h with rfl | h
    · exact ⟨core, client, by simp, rfl⟩
    · obtain ⟨core₁, client₁, hmem, heq⟩ := ih h
      exact ⟨core₁, client₁, by simp [hmem], heq⟩

theorem eachClient_sameSlots {f : ServerCore → ServerClientReplicator → ServerCore × ServerClientReplicator}
    (hf : ∀ core client, SameSlots core (f core client).1) :
    ∀ (clients : List ServerClientReplicator) (core : ServerCore), SameSlots core (eachClient f core clients).1
  | [], core => .refl core
  | client :: rest, core => (hf core client).trans (eachClient_sameSlots hf rest _)

theorem deactivateReplicated_moves {s : ReplicationServer} {slot : Nat} (hs : ServerInv s) :
    Moves strict s (s.deactivateReplicated slot) := by
  unfold ReplicationServer.deactivateReplicated
  split
  · exact .refl
  rename_i r hr
  split
  · exact .refl
  rename_i hact
  have ha : r.active = true := by simpa using hact
  -- the destroys are queued while the slot is still active
  have m₁ : Moves strict s (s.overClients (stopReplicating slot r.entity)) := by
    refine overClients_moves strict hs fun client _ core _ hsame _ => ?_
    obtain ⟨r', hr', he, -, ha'⟩ := hsame.slot hr
    have m : LocalMove strict core client _ _ := .enqueueDestroy hr' (ha'.trans ha)
    rw [he] at m
    exact m.moves
  have hs₁ := hs.moves m₁
  have hsame : SameSlots s.core (s.overClients (stopReplicating slot r.entity)).core :=
    eachClient_sameSlots (fun core client => by
      unfold stopReplicating
      rw [enqueueDestroy_core]
      exact clearState_sameSlots ..) s.clients s.core
  obtain ⟨r', hr', he', -, ha'⟩ := hsame.slot hr
  have m₂ : Move strict (s.overClients (stopReplicating slot r.entity))
      { s.overClients (stopReplicating slot r.entity) with
        core := ReplicationServer.deactivateSlot (s.overClients (stopReplicating slot r.entity)).core slot
          r'.entity } := by
    refine .deactivate hr' (ha'.trans ha) ?_ ?_
    · intro client hc st hst
      obtain ⟨core, client₀, -, rfl⟩ := mem_eachClient hc
      simp only [stopReplicating, enqueueDestroy_states] at hst
      obtain ⟨st₀, hst₀, rfl | ⟨-, rfl⟩⟩ := modifyState_get hst
      · simp [modifyState, hst₀] at hst
        exact hst.symm
      · rfl
    · intro client hc e he
      obtain ⟨core, client₀, -, rfl⟩ := mem_eachClient hc
      simp only [stopReplicating, enqueueDestroy_dirtyQueue] at he
      obtain ⟨e₀, -, ⟨-, hne⟩ | ⟨-, rfl⟩⟩ := modifyEntry_get he
      · exact absurd rfl hne
      · rfl
  have hs₂ := hs₁.move m₂
  have hinactive : (ReplicationServer.deactivateSlot (s.overClients (stopReplicating slot r.entity)).core slot
      r'.entity).replicatedSlotActive slot = false := by
    simp [ServerCore.replicatedSlotActive, ReplicationServer.deactivateSlot, hr']
  have m₃ := overClients_moves strict (f := fun core client => (core, client.clearDirty slot)) hs₂
    fun client _ core _ hsame _ => (LocalMove.clearDirty (hsame.slotActive slot ▸ hinactive)).moves
  have heq : ({ s with core := ReplicationServer.deactivateSlot s.core slot r.entity } : ReplicationServer).overClients
      (stopReplicating slot r.entity) = { s.overClients (stopReplicating slot r.entity) with
        core := ReplicationServer.deactivateSlot (s.overClients (stopReplicating slot r.entity)).core slot
          r'.entity } := by
    simp only [ReplicationServer.overClients, eachClient_deactivateSlot, he']
  rw [← heq] at m₂ m₃
  exact (m₁.trans m₂.moves).trans m₃

theorem deactivateEntityIndex_moves {s : ReplicationServer} {i : Nat} (hs : ServerInv s) :
    Moves strict s (s.deactivateEntityIndex i) := by
  unfold ReplicationServer.deactivateEntityIndex
  split
  · exact .refl
  · exact deactivateReplicated_moves hs

/-! ## Activation -/

theorem startReplicating_moves {core : ServerCore} {client : ServerClientReplicator} {slot : Nat}
    (hact : core.replicatedSlotActive slot = true) (hst : ∀ st, client.states[slot]? = some st → st = {}) :
    LocalMoves strict core client (ReplicationServer.startReplicating slot core client).1
      (ReplicationServer.startReplicating slot core client).2 := by
  have m₁ : LocalMove strict core client core (client.ensureCapacity core.replicated.length) := .ensureCapacity
  unfold ReplicationServer.startReplicating
  simp only
  cases hs : (client.ensureCapacity core.replicated.length).states[slot]? with
  | none =>
    have hc : (client.ensureCapacity core.replicated.length).clearState core slot =
        (core, client.ensureCapacity core.replicated.length) := by
      unfold clearState
      simp only [hs]
    rw [hc]
    exact m₁.moves.trans (LocalMove.markDirty hact).moves
  | some st =>
    obtain rfl : st = {} := by
      rcases ensureCapacity_get hs with h | ⟨-, h⟩
      · exact hst st h
      · exact h
    have m₂ : LocalMove strict core (client.ensureCapacity core.replicated.length) _ _ := .clearUnsent hs
    have hsame := m₂.sameSlots
    have hact' := hsame.slotActive slot
    have m₃ : LocalMove strict _ ((client.ensureCapacity core.replicated.length).clearState core slot).2 _ _ :=
      .markDirty (hact'.trans hact)
    exact (m₁.moves.trans m₂.moves).trans m₃.moves

theorem activateReplicated_moves {s s' : ReplicationServer} {entity : Entity} {archetype : SyncArchetypeId}
    {definition : SyncArchetype} (hs : ServerInv s) (hdef : s.core.settings.archetypes[archetype]? = some definition)
    (h : s.activateReplicated entity archetype definition = .ok s') : Moves strict s s' := by
  have m₁ : Moves strict s (s.deactivateEntityIndex entity.index) := deactivateEntityIndex_moves hs
  have hs₁ := hs.moves m₁
  have hset := m₁.settings hs
  unfold ReplicationServer.activateReplicated at h
  simp only at h
  rw [Monadic.bind_eq_ok] at h
  obtain ⟨⟨core, slot⟩, halloc, h⟩ := h
  rw [Monadic.pure_eq_ok] at h
  subst h
  have hact : Activated (s.deactivateEntityIndex entity.index).core entity slot
      (ReplicationServer.initializeSlot core slot entity definition) :=
    ⟨archetype, definition, core, hset ▸ hdef, halloc, rfl⟩
  have htaken := hact.taken hs₁.base.slots
  have m₂ : Move strict (s.deactivateEntityIndex entity.index) _ := .activate hact
  refine (m₁.trans m₂.moves).trans (overClients_moves strict (hs₁.move m₂) fun client hc core' _ hsame _ => ?_)
  refine startReplicating_moves ((hsame.slotActive slot).trans htaken.active) fun st hst => ?_
  exact (hs₁.base.queues client hc).idleState slot st htaken.idle hst

theorem upsertReplicated_moves {s s' : ReplicationServer} {registry : Registry} {entity : Entity}
    {archetype : SyncArchetypeId} (hs : ServerInv s) (h : s.upsertReplicated registry entity archetype = .ok s') :
    Moves strict s s' := by
  unfold ReplicationServer.upsertReplicated at h
  split at h
  · obtain rfl := Except.ok.inj h
    exact deactivateEntityIndex_moves hs
  rename_i definition hdef
  have hforget : ∀ s', ({ s with core := ReplicationServer.forgetEntity s.core entity } :
      ReplicationServer).activateReplicated entity archetype definition = .ok s' → Moves strict s s' := by
    intro s' h
    have m : Move strict s { s with core := ReplicationServer.forgetEntity s.core entity } := .forget
    exact m.moves.trans (activateReplicated_moves (hs.move m) hdef h)
  split at h
  · obtain rfl := Except.ok.inj h
    exact deactivateEntityIndex_moves hs
  split at h
  · exact activateReplicated_moves hs hdef h
  split at h
  · exact hforget s' h
  split at h
  · exact hforget s' h
  split at h
  · cases h
  · obtain rfl := Except.ok.inj h
    exact .refl

theorem upsertAll_moves {s s' : ReplicationServer} {registry : Registry} {entities : List Entity} (hs : ServerInv s)
    (h : s.upsertAll registry entities = .ok s') : Moves strict s s' := by
  refine moves_foldlM hs ?_ h
  intro entity t t' ht hstep
  split at hstep
  · obtain rfl := Except.ok.inj hstep
    exact .refl
  · exact upsertReplicated_moves ht hstep

theorem initialize_moves {s s' : ReplicationServer} {registry : Registry} {entities : List Entity} (hs : ServerInv s)
    (h : (s.upsertAll registry entities).map ReplicationServer.setInitialized = .ok s') : Moves strict s s' := by
  obtain ⟨s₁, h₁, rfl⟩ := Monadic.Except_map_eq_ok.mp h
  exact (upsertAll_moves hs h₁).trans Move.initialized.moves

theorem rediscoverAll_moves {s s' : ReplicationServer} {registry : Registry} (hs : ServerInv s)
    (h : s.rediscoverAllReplicatedEntities registry = .ok s') : Moves strict s s' := by
  unfold ReplicationServer.rediscoverAllReplicatedEntities at h
  split at h
  · exact initialize_moves hs h
  · simp only at h
    have m₁ := moves_foldl strict (l := List.range s.core.replicated.length)
      (f := fun server slot =>
        if server.core.replicatedSlotActive slot && !server.core.replicatedIsReplicable registry slot then
          server.deactivateReplicated slot
        else server) hs fun slot _ t ht => by
      split
      · exact deactivateReplicated_moves ht
      · exact .refl
    exact m₁.trans (upsertAll_moves (hs.moves m₁) h)

theorem rediscover_moves {s s' : ReplicationServer} {registry : Registry} {dirty : DirtyView} (hs : ServerInv s)
    (h : s.rediscoverReplicatedEntities registry dirty = .ok s') : Moves strict s s' := by
  unfold ReplicationServer.rediscoverReplicatedEntities at h
  split at h
  · exact initialize_moves hs h
  · simp only at h
    rw [Monadic.bind_eq_ok] at h
    obtain ⟨s₂, h₂, h₃⟩ := h
    have m₁ := moves_foldl strict (l := dirty.removed .replicated)
      (f := fun server entity => server.deactivateEntityIndex entity.index) hs
      fun entity _ t ht => deactivateEntityIndex_moves ht
    have m₂ : Moves strict _ s₂ := upsertAll_moves (hs.moves m₁) h₂
    exact (m₁.trans m₂).trans (upsertAll_moves ((hs.moves m₁).moves m₂) h₃)

/-! ## Dirty slots -/

def GenerationMoves (strict : Prop) (core core' : ServerCore) : Prop :=
  ∀ clients, Moves strict ⟨core, clients⟩ ⟨core', clients⟩

theorem GenerationMoves.foldl {α : Type} {f : ServerCore → α → ServerCore} {l : List α} {core : ServerCore}
    (h : ∀ core a, GenerationMoves strict core (f core a)) : GenerationMoves strict core (l.foldl f core) := by
  induction l generalizing core with
  | nil => exact fun _ => .refl
  | cons a l ih => exact fun clients => (h core a clients).trans (ih clients)

theorem captureKey_moves {dirty : DirtyView} {key : DirtyKey} {mark : ServerCore → Nat → ServerCore}
    {core : ServerCore} (h : ∀ core slot, GenerationMoves strict core (mark core slot)) :
    GenerationMoves strict core (ReplicationServer.captureKey dirty key mark core) := by
  intro clients
  refine Moves.trans (GenerationMoves.foldl (fun core entity => ?_) clients)
    (GenerationMoves.foldl (fun core entity => ?_) clients)
  · cases core.entityToReplicatedIndex entity with
    | none => exact fun _ => .refl
    | some slot => exact h core slot
  · cases core.entityIndexToReplicatedIndex entity.index with
    | none => exact fun _ => .refl
    | some slot => exact h core slot

theorem captureDirtyGenerations_moves (strict : Prop) (s : ReplicationServer) (dirty : DirtyView) :
    Moves strict s { s with core := ReplicationServer.captureDirtyGenerations s.core dirty } := by
  have bump : ∀ core slot which, GenerationMoves strict core (ReplicationServer.bumpGenerations core slot which) :=
    fun core slot which clients => (Move.generations (s := ⟨core, clients⟩)).moves
  have htag : ∀ core slot tag, GenerationMoves strict core (ReplicationServer.markDirtyTag core slot tag) := by
    intro core slot tag clients
    unfold ReplicationServer.markDirtyTag
    split
    · exact .refl
    · split
      · exact .refl
      · split
        · exact bump core slot _ clients
        · exact .refl
  unfold ReplicationServer.captureDirtyGenerations
  refine Moves.trans (Moves.trans (GenerationMoves.foldl (fun core tag => ?_) s.clients)
    (GenerationMoves.foldl (fun core component => ?_) s.clients))
      (captureKey_moves (fun core slot => bump core slot _) s.clients)
  · exact captureKey_moves fun core slot => htag core slot tag
  · exact captureKey_moves fun core slot => bump core slot _

theorem dirtyReplicatedSlots_active {core : ServerCore} (hs : SlotsInv core) {dirty : DirtyView} {slot : Nat}
    (h : slot ∈ ReplicationServer.dirtyReplicatedSlots core dirty) : core.replicatedSlotActive slot = true := by
  have hkey : ∀ key, slot ∈ ReplicationServer.keySlots core dirty key →
      core.replicatedSlotActive slot = true := by
    intro key hk
    simp only [ReplicationServer.keySlots, List.mem_append, List.mem_filterMap] at hk
    rcases hk with (⟨e, -, he⟩ | ⟨e, -, he⟩) | ⟨e, -, he⟩
    · obtain ⟨r, hr, ha, -⟩ := hs.entities e slot he
      rw [slotActive_of_get hr, ha]
    · obtain ⟨r, hr, ha, -⟩ := hs.entities e slot he
      rw [slotActive_of_get hr, ha]
    · obtain ⟨r, hr, ha, -⟩ := hs.indices e.index slot he
      rw [slotActive_of_get hr, ha]
  simp only [ReplicationServer.dirtyReplicatedSlots, List.mem_append, List.mem_flatMap] at h
  rcases h with ((h | ⟨a, -, t, -, h⟩) | ⟨c, -, h⟩) | h
  all_goals exact hkey _ h

theorem broadcast_moves (strict : Prop) {s : ReplicationServer} (dirty : DirtyView) (hs : ServerInv s) :
    Moves strict s (s.broadcastRegistryDirtyFrame dirty) := by
  refine overClients_moves strict hs fun client _ core _ hsame _ => localMoves_foldl fun slot hslot client => ?_
  exact (LocalMove.markDirty ((hsame.slotActive slot).trans (dirtyReplicatedSlots_active hs.base.slots hslot))).moves

/-! ## Acknowledgements -/

theorem acknowledgeRecord_tracker (core : ServerCore) (client : ServerClientReplicator) (packet : PendingPacketAck)
    (record : PacketAckRecord) :
    (client.acknowledgeRecord core packet record).2.1.ackTracker = client.ackTracker := by
  unfold acknowledgeRecord
  split
  · obtain ⟨calls, hlog⟩ := logRetired_eq client packet record
    simp only [hlog, acknowledgeDestroy]
    split
    · rfl
    · simp only [freeNetworkId]
      split
      · rfl
      · split <;> rfl
  · split
    · rfl
    · rename_i slot _
      rcases acknowledgeEntity_spec core client slot record.frame with
        ⟨-, h⟩ | ⟨s, found, eligible, -, -, -, -, -, h⟩
      · rw [h]
      · rw [h]
        split <;> rfl

theorem acknowledgeRecords_moves (strict : Prop) {packet : PendingPacketAck} :
    ∀ (records : List PacketAckRecord) (core : ServerCore)
    (client : ServerClientReplicator) (valid : Bool), packet ∈ client.ackTracker.pendingPacketAcks →
    (∀ r ∈ records, r ∈ packet.records) →
    ∃ core' client' valid', records.foldl (fun (core, client, allValid) record =>
        ((client.acknowledgeRecord core packet record).1, (client.acknowledgeRecord core packet record).2.1,
          (client.acknowledgeRecord core packet record).2.2 && allValid)) (core, client, valid) =
            (core', client', valid') ∧
      LocalMoves strict core client core' client' ∧ client'.ackTracker = client.ackTracker
  | [], core, client, valid, _, _ => ⟨core, client, valid, rfl, .refl, rfl⟩
  | record :: records, core, client, valid, hp, hr => by
    have ht := acknowledgeRecord_tracker core client packet record
    obtain ⟨core', client', valid', heq, m, ht'⟩ := acknowledgeRecords_moves strict records
      (client.acknowledgeRecord core packet record).1 (client.acknowledgeRecord core packet record).2.1
      ((client.acknowledgeRecord core packet record).2.2 && valid) (by rw [ht]; exact hp) fun r h => hr r (by simp [h])
    have m₁ : LocalMove strict core client _ _ := .acknowledge hp (hr record (by simp))
    exact ⟨core', client', valid', heq, m₁.moves.trans m, ht'.trans ht⟩

theorem acknowledgePacket_moves (core : ServerCore) (client : ServerClientReplicator) (packetId : Nat) :
    LocalMoves strict core client (client.acknowledgePacket core packetId).1
      (client.acknowledgePacket core packetId).2.1 := by
  unfold acknowledgePacket
  split
  · exact .refl
  · rename_i found hfound
    obtain ⟨core', client', valid', heq, m, ht⟩ := acknowledgeRecords_moves strict found.records core client true
      (List.mem_of_find?_eq_some hfound) fun _ h => h
    have heq' : client.acknowledgeRecords core found = (core', client', valid') := heq
    simp only [heq']
    split
    · exact m.trans (LocalMove.forgetPackets _ (List.eraseP_sublist)).moves
    · exact m.trans (LocalMove.forgetPackets client'.budget (List.eraseP_sublist)).moves

theorem processClientAcks_moves (core : ServerCore) (client : ServerClientReplicator) (packetIds : List Nat) :
    LocalMoves strict core client (client.processClientAcks core packetIds).1
      (client.processClientAcks core packetIds).2 := by
  unfold ServerClientReplicator.processClientAcks
  -- the packets one after the other, then the old ones
  generalize hacks : packetIds.foldl _ (core, client) = acks
  have m : LocalMoves strict core client acks.1 acks.2 := by
    rw [← hacks]
    apply Monadic.foldl_inv
      (fun _ (acc : ServerCore × ServerClientReplicator) => LocalMoves strict core client acc.1 acc.2)
    · rintro packetId packetIds ⟨core', client'⟩ m
      exact m.trans (acknowledgePacket_moves core' client' packetId)
    · exact .refl
  obtain ⟨core', client'⟩ := acks
  obtain ⟨budget, acks, hc, hsub⟩ := cleanupPacketAcks_eq core' client'
  simp only [hc]
  exact m.trans (LocalMove.forgetPackets budget hsub).moves

/-! ## Connections -/

theorem initializeMarkingAllDirty_moves (strict : Prop) (core : ServerCore) (client : ServerClientReplicator) :
    LocalMoves strict core client core (client.initializeMarkingAllDirty core core.frame) := by
  unfold initializeMarkingAllDirty
  refine LocalMoves.trans LocalMove.ensureCapacity.moves (localMoves_foldl fun slot _ client => ?_)
  split
  · rename_i ha
    exact (LocalMove.markDirty ha).moves
  · exact .refl

theorem addClient_moves (s : ReplicationServer) (peer : PeerId) (id : ClientId) :
    Moves strict s (s.addClient peer id) := by
  unfold ReplicationServer.addClient
  split
  · exact .refl
  · have m : Move strict s _ := .connect peer id
    have hget : (s.clients ++ [({ id, peer } : ServerClientReplicator)])[s.clients.length]? = some { id, peer } := by
      simp
    have m' := (initializeMarkingAllDirty_moves strict s.core { id, peer }).lift
      (s := { s with clients := s.clients ++ [{ id, peer }] }) hget
    refine m.moves.trans ?_
    simpa [ReplicationServer.setClient] using m'

theorem removeClient_moves (s : ReplicationServer) (id : ClientId) : Moves strict s (s.removeClient id) := by
  unfold ReplicationServer.removeClient
  split
  · exact .refl
  · split
    · exact .refl
    · rename_i client hc
      exact (Move.disconnect hc).moves

end

end AshiatoSync
