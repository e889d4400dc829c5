import AshiatoSync.PacketAckSound
import AshiatoSync.RefCountSound

/-!
# Moves keep the reference counts exact

For one replicator, with the references of the other clients fixed; then for the
server, where `held` is the sum over all clients.
-/

namespace AshiatoSync

open ServerClientReplicator

/-! ## What a replicator holds after an operation -/

@[simp] theorem holds_default (q : Nat) : ({} : ClientEntityState).holds q = 0 := rfl

@[simp] theorem holds_logCall (client : ServerClientReplicator) (call : Call) (q : Nat) :
    (client.logCall call).holds q = client.holds q := rfl

@[simp] theorem holds_modifyEntry (client : ServerClientReplicator) (slot : Nat) (f : DirtyEntry → DirtyEntry)
    (q : Nat) : (client.modifyEntry slot f).holds q = client.holds q := rfl

@[simp] theorem holds_ensureCapacity (client : ServerClientReplicator) (n q : Nat) :
    (client.ensureCapacity n).holds q = client.holds q := by
  simp [ServerClientReplicator.holds, ensureCapacity]

@[simp] theorem holds_markDirty (core : ServerCore) (client : ServerClientReplicator) (slot : Nat) (frame : SyncFrame)
    (q : Nat) : (client.markDirty core slot frame).holds q = client.holds q := by
  unfold markDirty
  split
  · rfl
  · exact holds_ensureCapacity client _ q

@[simp] theorem holds_clearDirty (client : ServerClientReplicator) (slot q : Nat) :
    (client.clearDirty slot).holds q = client.holds q := rfl

theorem holds_modifyState {client : ServerClientReplicator} {slot : Nat} {state : ClientEntityState}
    (f : ClientEntityState → ClientEntityState) (h : client.states[slot]? = some state) (q : Nat) :
    (client.modifyState slot f).holds q + state.holds q = client.holds q + (f state).holds q :=
  Tally.sum_modify (fun s : ClientEntityState => s.holds q) h

theorem holds_modifyState_same (client : ServerClientReplicator) (slot : Nat)
    {f : ClientEntityState → ClientEntityState} (q : Nat) (h : ∀ s : ClientEntityState, (f s).holds q = s.holds q) :
    (client.modifyState slot f).holds q = client.holds q :=
  Tally.sum_modify_same (fun s : ClientEntityState => s.holds q) h

theorem holds_of_states {client client' : ServerClientReplicator} (h : client'.states = client.states) (q : Nat) :
    client'.holds q = client.holds q := by
  unfold ServerClientReplicator.holds
  rw [h]

theorem states_freeNetworkId (client : ServerClientReplicator) (networkId : Nat) :
    (client.freeNetworkId networkId).states = client.states := by
  unfold freeNetworkId
  split
  · rfl
  · split <;> rfl

theorem states_acknowledgeDestroy (client : ServerClientReplicator) (entity : Entity) (frame : SyncFrame) :
    (client.acknowledgeDestroy entity frame).1.states = client.states := by
  unfold acknowledgeDestroy
  split
  · rfl
  · exact states_freeNetworkId _ _

theorem states_retireDestroy (client : ServerClientReplicator) (packet : PendingPacketAck) (record : PacketAckRecord)
    (entity : Entity) (frame : SyncFrame) :
    ((client.logRetired packet record).acknowledgeDestroy entity frame).1.states = client.states := by
  obtain ⟨calls, h⟩ := logRetired_eq client packet record
  rw [states_acknowledgeDestroy, h]

theorem states_markPendingDestroy (client : ServerClientReplicator) (networkId : Nat) :
    (client.markPendingDestroy networkId).1.states = client.states := by
  unfold markPendingDestroy
  split <;> rfl

theorem states_enqueueDestroyState (client : ServerClientReplicator) (entity : Entity) (frame : SyncFrame)
    (networkId version : Nat) :
    (client.enqueueDestroyState entity frame networkId version).states = client.states := by
  unfold enqueueDestroyState
  simp only
  split <;> rfl

/-! ## Operations that move references -/

section

variable {core : ServerCore} {client : ServerClientReplicator} {others : Nat → Nat}

theorem clearState_ref (slot : Nat) (h : RefInv core fun i => others i + client.holds i) :
    RefInv (client.clearState core slot).1 fun i => others i + (client.clearState core slot).2.holds i := by
  unfold clearState
  split
  · exact h
  · rename_i state hs
    apply RefInv.releaseEntityState
    refine h.congr fun i => ?_
    have := holds_modifyState (fun _ => {}) hs i
    simp only [holds_default, Nat.add_zero] at this
    simp only [holds_logCall]
    omega

theorem invalidateEntityBaseline_ref {slot : Nat} (h : RefInv core fun i => others i + client.holds i) :
    RefInv (client.invalidateEntityBaseline core slot).1
      fun i => others i + (client.invalidateEntityBaseline core slot).2.holds i := by
  unfold invalidateEntityBaseline
  split
  · exact h
  · rename_i state hs
    apply RefInv.releaseBaseline
    refine h.congr fun i => ?_
    have := holds_modifyState (fun s => { s with baseline := none, baselineEpoch := s.baselineEpoch + 1 }) hs i
    simp only [holds_eq, baselineRefs_none] at this ⊢
    omega

theorem enqueueDestroy_ref {slot : Nat} {entity : Entity} {frame : SyncFrame}
    (h : RefInv core fun i => others i + client.holds i) :
    RefInv (client.enqueueDestroy core slot entity frame).1
      fun i => others i + (client.enqueueDestroy core slot entity frame).2.holds i := by
  have hc := clearState_ref slot h
  unfold enqueueDestroy
  simp only
  split
  · refine hc.congr fun i => ?_
    rw [holds_of_states (states_enqueueDestroyState ..), holds_of_states (states_markPendingDestroy ..)]
    simp
  · refine hc.congr fun i => ?_
    rw [holds_of_states (states_markPendingDestroy ..)]
    simp

theorem holds_decidedState (decision : EntityReplicationDecision) (state : ClientEntityState) (q : Nat) :
    (decidedState decision state).holds q = state.holds q := rfl

theorem storeDecision_ref {slot : Nat} {decision : EntityReplicationDecision}
    (h : RefInv core fun i => others i + client.holds i) :
    RefInv (client.storeDecision core slot decision).1
      fun i => others i + (client.storeDecision core slot decision).2.holds i := by
  unfold storeDecision
  split
  · exact h
  · have hm : RefInv core fun i => others i +
        ((client.modifyEntry slot (decidedEntry decision)).modifyState slot (decidedState decision)).holds i := by
      refine h.congr fun i => ?_
      rw [holds_modifyState_same _ _ i (fun s => holds_decidedState decision s i), holds_modifyEntry]
    simp only
    split
    · exact invalidateEntityBaseline_ref hm
    · exact hm

/-- A replicator's references are one entity state's and the rest. -/
theorem holds_rest {slot : Nat} {state : ClientEntityState} (hs : client.states[slot]? = some state) :
    ∃ rest : Nat → Nat, ∀ i, client.holds i = rest i + state.holds i := by
  refine ⟨fun i => client.holds i - state.holds i, fun i => ?_⟩
  have := Tally.le_sum_of_mem (fun s : ClientEntityState => s.holds i) (List.mem_of_getElem? hs)
  simp only [ServerClientReplicator.holds] at this ⊢
  omega

theorem adoptBaseline_ref {held : Nat → Nat} {baseline : Option Nat} {q : Nat} (hq : 0 < held q)
    (h : RefInv core fun i => held i + baselineRefs baseline i) :
    RefInv (adoptBaseline core baseline q) fun i => held i + baselineRefs (some q) i := by
  unfold adoptBaseline
  split
  · rename_i hb
    exact hb ▸ h
  · refine (h.releaseBaseline.retain hq).congr fun i => ?_
    rw [baselineRefs_some]

theorem acknowledgeEntity_ref {slot : Nat} {frame : SyncFrame} (h : RefInv core fun i => others i + client.holds i) :
    RefInv (client.acknowledgeEntity core slot frame).1
      fun i => others i + (client.acknowledgeEntity core slot frame).2.1.holds i := by
  unfold acknowledgeEntity
  split
  · exact h
  rename_i state hs
  split
  · exact h
  rename_i found hfound
  split
  · exact h
  have hpend : 0 < pendingRefs state.pending found.quantizedFrame :=
    List.countP_pos_iff.mpr ⟨found, List.mem_of_find?_eq_some hfound, by simp⟩
  obtain ⟨rest, hrest⟩ := holds_rest hs
  simp only
  set eligible := found.baselineEpochWhenSent == state.baselineEpoch
  have hbase : RefInv (if eligible = true then adoptBaseline core state.baseline found.quantizedFrame else core)
      fun i => others i + rest i + pendingRefs state.pending i +
        baselineRefs (if eligible then some found.quantizedFrame else state.baseline) i := by
    have hcur : RefInv core fun i => others i + rest i + pendingRefs state.pending i +
        baselineRefs state.baseline i := h.congr fun i => by rw [hrest, holds_eq]; omega
    cases eligible with
    | true => exact adoptBaseline_ref (by omega) hcur
    | false => exact hcur
  apply RefInv.releases
  refine hbase.congr fun i => ?_
  have hstates : (if eligible = true then client.modifyEntry slot (settleEntry frame) else client).states[slot]? =
      some state := by split <;> exact hs
  have hheld : (if eligible = true then client.modifyEntry slot (settleEntry frame) else client).holds i =
      client.holds i := by split <;> rfl
  have hmod := holds_modifyState (acknowledgedState eligible found.quantizedFrame frame) hstates i
  have hacked : (acknowledgedState eligible found.quantizedFrame frame state).holds i =
      baselineRefs (if eligible then some found.quantizedFrame else state.baseline) i +
        pendingRefs (state.pending.filter fun p => !decide (p.frame ≤ frame)) i := rfl
  have hsplit := pendingRefs_filter_not state.pending (fun p => decide (p.frame ≤ frame)) i
  rw [holds_logCall]
  rw [hheld, hrest, hacked] at hmod
  omega

theorem dropBaseline_ref (slot : Nat) (fullState : Bool) (h : RefInv core fun i => others i + client.holds i) :
    RefInv (SendLoop.dropBaseline core client slot fullState).1
      fun i => others i + (SendLoop.dropBaseline core client slot fullState).2.holds i := by
  unfold SendLoop.dropBaseline
  split
  · exact invalidateEntityBaseline_ref h
  · exact h

theorem invalidateEntityBaseline_state {slot : Nat} {state : ClientEntityState}
    (hs : client.states[slot]? = some state) :
    (client.invalidateEntityBaseline core slot).2.states[slot]? =
      some { state with baseline := none, baselineEpoch := state.baselineEpoch + 1 } := by
  unfold invalidateEntityBaseline
  simp [hs, modifyState]

theorem dropBaseline_state (core : ServerCore) (client : ServerClientReplicator) (slot : Nat) (fullState : Bool)
    {state : ClientEntityState}
    (hs : client.states[slot]? = some state) :
    (SendLoop.dropBaseline core client slot fullState).2.states[slot]? =
      some (if fullState && state.baseline.isSome then
        { state with baseline := none, baselineEpoch := state.baselineEpoch + 1 } else state) := by
  unfold SendLoop.dropBaseline
  simp only [hs, Option.bind_some]
  split
  · exact invalidateEntityBaseline_state hs
  · exact hs

theorem pushPending_refs (state : ClientEntityState) (q : Nat) (frame : SyncFrame) (i : Nat) :
    pendingRefs (SendLoop.pushPending state q frame).1 i + pendingRefs (SendLoop.pushPending state q frame).2 i =
      pendingRefs state.pending i + oneRef q i := by
  unfold SendLoop.pushPending
  simp only
  rw [Nat.add_comm, ← pendingRefs_append, List.take_append_drop]
  simp

theorem queuePending_ref {slot q : Nat} {state : ClientEntityState} (hs : client.states[slot]? = some state)
    (h : RefInv core fun i => others i + client.holds i + oneRef q i) :
    RefInv (SendLoop.queuePending core client slot q).1
      fun i => others i + (SendLoop.queuePending core client slot q).2.holds i := by
  unfold SendLoop.queuePending
  simp only [hs]
  apply RefInv.releases
  refine h.congr fun i => ?_
  have hm := holds_modifyState (fun s => { s with
    referencePriorityBoostPending := false, pending := (SendLoop.pushPending state q core.frame).1 }) hs i
  have hp := pushPending_refs state q core.frame i
  simp only [holds_eq] at hm
  simp only [holds_logCall]
  omega

theorem recordSent_eq (core : ServerCore) (client : ServerClientReplicator) (slot : Nat) (s : SerializedEntity) :
    SendLoop.recordSent core client slot s =
      SendLoop.queuePending
        (SendLoop.dropBaseline core (client.modifyEntry slot (SendLoop.sentEntry core.frame)) slot s.fullState).1
        (SendLoop.dropBaseline core (client.modifyEntry slot (SendLoop.sentEntry core.frame)) slot s.fullState).2
        slot s.quantizedFrame := rfl

theorem recordSent_ref {slot : Nat} {serialized : SerializedEntity} {state : ClientEntityState}
    (hs : client.states[slot]? = some state)
    (h : RefInv core fun i => others i + client.holds i + oneRef serialized.quantizedFrame i) :
    RefInv (SendLoop.recordSent core client slot serialized).1
      fun i => others i + (SendLoop.recordSent core client slot serialized).2.holds i := by
  rw [recordSent_eq]
  have hst := dropBaseline_state core (client.modifyEntry slot (SendLoop.sentEntry core.frame)) slot
    serialized.fullState hs
  have hentry : RefInv core fun i => (others i + oneRef serialized.quantizedFrame i) +
      (client.modifyEntry slot (SendLoop.sentEntry core.frame)).holds i :=
    h.congr fun i => by rw [holds_modifyEntry]; omega
  have hd := dropBaseline_ref slot serialized.fullState hentry
  generalize SendLoop.dropBaseline core (client.modifyEntry slot (SendLoop.sentEntry core.frame)) slot
    serialized.fullState = dropped at hd hst ⊢
  exact queuePending_ref hst (hd.congr fun i => by omega)

end

end AshiatoSync
