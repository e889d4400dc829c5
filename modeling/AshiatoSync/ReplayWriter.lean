import AshiatoSync.Server

/-!
# The slots a replay writer has to write

An attached `ReplicationReplayWriter` collects the dirty slots of the frames
between two written replay frames.
-/

namespace AshiatoSync

/-- The pending slots of `ReplicationReplayWriter::State`, each listed once. -/
structure ReplayWriterSlots where
  pendingDirtySlots : List Bool := []
  pendingSlots : List Nat := []
  deriving DecidableEq, Repr

namespace ReplayWriterSlots

/-- `pending_dirty_slots.resize(count, 0)` -/
def resize (slots : ReplayWriterSlots) (count : Nat) : ReplayWriterSlots :=
  { slots with
    pendingDirtySlots := slots.pendingDirtySlots.take count ++
      List.replicate (count - slots.pendingDirtySlots.length) false }

/-- `mark_pending_slot` -/
def markPendingSlot (slots : ReplayWriterSlots) (slot : Nat) : ReplayWriterSlots :=
  if slots.pendingDirtySlots[slot]? = some false then
    { pendingDirtySlots := slots.pendingDirtySlots.set slot true, pendingSlots := slots.pendingSlots ++ [slot] }
  else slots

/-- The part of `on_server_registry_dirty_frame` that collects dirty slots. -/
def collectDirtySlots (slots : ReplayWriterSlots) (core : ServerCore) (dirty : DirtyView) : ReplayWriterSlots :=
  (ReplicationServer.dirtyReplicatedSlots core dirty).foldl markPendingSlot (slots.resize core.replicated.length)

theorem markPendingSlot_self {slots : ReplayWriterSlots} {slot : Nat} (h : slot < slots.pendingDirtySlots.length) :
    (slots.markPendingSlot slot).pendingDirtySlots[slot]? = some true := by
  unfold markPendingSlot
  split
  · exact List.getElem?_set_self h
  · rename_i hnot
    rw [List.getElem?_eq_getElem h] at hnot ⊢
    cases hb : slots.pendingDirtySlots[slot] with
    | false => exact absurd (congrArg some hb) hnot
    | true => rfl

theorem markPendingSlot_length (slots : ReplayWriterSlots) (slot : Nat) :
    (slots.markPendingSlot slot).pendingDirtySlots.length = slots.pendingDirtySlots.length := by
  unfold markPendingSlot
  split
  · exact List.length_set ..
  · rfl

theorem markPendingSlot_keeps {slots : ReplayWriterSlots} {i : Nat} (slot : Nat)
    (h : slots.pendingDirtySlots[i]? = some true) : (slots.markPendingSlot slot).pendingDirtySlots[i]? = some true := by
  by_cases hi : slot = i
  · subst hi
    exact markPendingSlot_self (List.getElem?_eq_some_iff.mp h).1
  · unfold markPendingSlot
    split
    · exact (List.getElem?_set_ne hi).trans h
    · exact h

theorem markPendingSlots_mem (marked : List Nat) : ∀ (slots : ReplayWriterSlots) (slot : Nat),
    slot < slots.pendingDirtySlots.length → (slot ∈ marked ∨ slots.pendingDirtySlots[slot]? = some true) →
    (marked.foldl markPendingSlot slots).pendingDirtySlots[slot]? = some true := by
  induction marked with
  | nil => exact fun slots slot _ h => h.resolve_left List.not_mem_nil
  | cons m marked ih =>
    intro slots slot hlt h
    refine ih _ slot (by rwa [markPendingSlot_length]) ?_
    rcases h with hmem | hset
    · rcases List.mem_cons.mp hmem with rfl | hmem
      · exact .inr (markPendingSlot_self hlt)
      · exact .inl hmem
    · exact .inr (markPendingSlot_keeps m hset)

theorem resize_length (slots : ReplayWriterSlots) (count : Nat) :
    (slots.resize count).pendingDirtySlots.length = count := by
  simp only [resize, List.length_append, List.length_take, List.length_replicate]
  omega

theorem collectDirtySlots_pending (slots : ReplayWriterSlots) {core : ServerCore} {dirty : DirtyView} {slot : Nat}
    (hlt : slot < core.replicated.length) (hmem : slot ∈ ReplicationServer.dirtyReplicatedSlots core dirty) :
    (slots.collectDirtySlots core dirty).pendingDirtySlots[slot]? = some true :=
  markPendingSlots_mem _ _ slot (by rwa [resize_length]) (.inl hmem)

end ReplayWriterSlots

end AshiatoSync
