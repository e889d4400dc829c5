import AshiatoSync.StateMovesSound

/-!
# Slots, entity states and dirty entries in step

The entity indices lead to active slots, a slot that is not active has a blank
state and a blank entry with every client, and the dirty list names exactly the
listed entries, once each.
-/

namespace AshiatoSync

open ServerClientReplicator

/-! ## The invariants -/

structure SlotsInv (core : ServerCore) : Prop where
  entities : ∀ e slot, core.entityToReplicatedIndex e = some slot →
    ∃ r, core.replicated[slot]? = some r ∧ r.active = true ∧ r.entity = e
  indices : ∀ i slot, core.entityIndexToReplicatedIndex i = some slot →
    ∃ r, core.replicated[slot]? = some r ∧ r.active = true ∧ r.entity.index = i
  free : ∀ slot ∈ core.freeReplicatedIndices, ∃ r, core.replicated[slot]? = some r ∧ r.active = false
  freeNodup : core.freeReplicatedIndices.Nodup

structure QueueInv (core : ServerCore) (client : ServerClientReplicator) : Prop where
  lengths : client.states.length = client.dirtyQueue.entries.length
  bounded : client.states.length ≤ core.replicated.length
  idleState : ∀ (slot : Nat) (s : ClientEntityState), core.replicatedSlotActive slot = false →
    client.states[slot]? = some s → s = {}
  idleEntry : ∀ (slot : Nat) (e : DirtyEntry), core.replicatedSlotActive slot = false →
    client.dirtyQueue.entries[slot]? = some e → e = { listed := e.listed }
  listed : ∀ slot, slot ∈ client.dirtyQueue.dirtyReplicatedIndices ↔
    ∃ e, client.dirtyQueue.entries[slot]? = some e ∧ e.listed = true
  nodup : client.dirtyQueue.dirtyReplicatedIndices.Nodup
  queued : ∀ (slot : Nat) (e : DirtyEntry), client.dirtyQueue.entries[slot]? = some e → e.queued = true →
    e.listed = true
  mask : ∀ (slot : Nat) (e : DirtyEntry) (s : ClientEntityState), client.dirtyQueue.entries[slot]? = some e →
    client.states[slot]? = some s → e.queued = true → e.componentMask = s.componentMask

theorem QueueInv.of_sameSlots {core core' : ServerCore} {client : ServerClientReplicator} (h : QueueInv core client)
    (hs : SameSlots core core') : QueueInv core' client :=
  { h with
    bounded := hs.length ▸ h.bounded
    idleState := fun slot s ha => h.idleState slot s (hs.slotActive slot ▸ ha)
    idleEntry := fun slot e ha => h.idleEntry slot e (hs.slotActive slot ▸ ha) }

theorem SlotsInv.of_sameSlots {core core' : ServerCore} (h : SlotsInv core) (hs : SameSlots core core') :
    SlotsInv core' := by
  refine ⟨?_, ?_, ?_, hs.free ▸ h.freeNodup⟩
  · intro e slot he
    rw [hs.entities] at he
    obtain ⟨r, hr, ha, hre⟩ := h.entities e slot he
    obtain ⟨r', hr', he', -, ha'⟩ := hs.slot hr
    exact ⟨r', hr', ha'.trans ha, he'.trans hre⟩
  · intro i slot hi
    rw [hs.indices] at hi
    obtain ⟨r, hr, ha, hri⟩ := h.indices i slot hi
    obtain ⟨r', hr', he', -, ha'⟩ := hs.slot hr
    exact ⟨r', hr', ha'.trans ha, he' ▸ hri⟩
  · intro slot hslot
    rw [hs.free] at hslot
    obtain ⟨r, hr, ha⟩ := h.free slot hslot
    obtain ⟨r', hr', -, -, ha'⟩ := hs.slot hr
    exact ⟨r', hr', ha'.trans ha⟩

/-! ## Shapes of change -/

theorem slotActive_of_get {core : ServerCore} {slot : Nat} {r : ReplicatedSlot} (h : core.replicated[slot]? = some r) :
    core.replicatedSlotActive slot = r.active := by
  simp [ServerCore.replicatedSlotActive, h]

section

variable {core : ServerCore} {client client' : ServerClientReplicator}

theorem QueueInv.of_eq (h : QueueInv core client) (hs : client'.states = client.states)
    (hq : client'.dirtyQueue = client.dirtyQueue) : QueueInv core client' := by
  obtain ⟨h1, h2, h3, h4, h5, h6, h7, h8⟩ := h
  constructor <;> simp only [hq, hs] <;> assumption

theorem QueueInv.modifyState (h : QueueInv core client) {slot : Nat} {f : ClientEntityState → ClientEntityState}
    (ha : core.replicatedSlotActive slot = true)
    (hmask : ∀ s, client.states[slot]? = some s → (f s).componentMask = s.componentMask)
    (hs : client'.states = (client.modifyState slot f).states) (hq : client'.dirtyQueue = client.dirtyQueue) :
    QueueInv core client' := by
  refine ⟨?_, ?_, ?_, hq ▸ h.idleEntry, hq ▸ h.listed, hq ▸ h.nodup, hq ▸ h.queued, ?_⟩
  · rw [hs, hq]
    simpa [ServerClientReplicator.modifyState] using h.lengths
  · rw [hs]
    simpa [ServerClientReplicator.modifyState] using h.bounded
  · intro i s' hi hs'
    rw [hs] at hs'
    obtain ⟨s, hget, rfl | ⟨rfl, rfl⟩⟩ := modifyState_get hs'
    · exact h.idleState i s' hi hget
    · simp [ha] at hi
  · intro i e s' he hs' hqd
    rw [hq] at he
    rw [hs] at hs'
    obtain ⟨s, hget, rfl | ⟨rfl, rfl⟩⟩ := modifyState_get hs'
    · exact h.mask i e s' he hget hqd
    · rw [hmask s hget]
      exact h.mask i e s he hget hqd

theorem modifyEntry_get {slot i : Nat} {f : DirtyEntry → DirtyEntry} {e' : DirtyEntry}
    (h : (client.modifyEntry slot f).dirtyQueue.entries[i]? = some e') :
    ∃ e, client.dirtyQueue.entries[i]? = some e ∧ (e' = e ∧ i ≠ slot ∨ i = slot ∧ e' = f e) := by
  simp only [modifyEntry, List.getElem?_modify] at h
  cases he : client.dirtyQueue.entries[i]? with
  | none => simp [he] at h
  | some e =>
    refine ⟨e, rfl, ?_⟩
    by_cases hi : slot = i
    · simp only [he, hi, if_true, Option.map_eq_map, Option.map_some, Option.some.injEq] at h
      exact .inr ⟨hi.symm, h.symm⟩
    · simp only [he, hi, if_false, Option.map_eq_map, Option.map_some, Option.some.injEq] at h
      exact .inl ⟨h.symm, Ne.symm hi⟩

/-- One active slot's entry changed: still listed as before, and queued only as before. -/
theorem QueueInv.modifyEntry (h : QueueInv core client) {slot : Nat} {f : DirtyEntry → DirtyEntry}
    (ha : core.replicatedSlotActive slot = true) (hl : ∀ e, (f e).listed = e.listed)
    (hq : ∀ e, (f e).queued = true → e.queued = true ∧ (f e).componentMask = e.componentMask) :
    QueueInv core (client.modifyEntry slot f) := by
  refine ⟨?_, h.bounded, h.idleState, ?_, ?_, h.nodup, ?_, ?_⟩
  · simpa [ServerClientReplicator.modifyEntry] using h.lengths
  · intro i e' hi he'
    obtain ⟨e, he, ⟨rfl, -⟩ | ⟨rfl, rfl⟩⟩ := modifyEntry_get he'
    · exact h.idleEntry i e' hi he
    · simp [ha] at hi
  · intro i
    rw [show (client.modifyEntry slot f).dirtyQueue.dirtyReplicatedIndices =
      client.dirtyQueue.dirtyReplicatedIndices from rfl, h.listed i]
    simp only [ServerClientReplicator.modifyEntry, List.getElem?_modify]
    cases client.dirtyQueue.entries[i]? with
    | none => simp
    | some e => by_cases hi : slot = i <;> simp [hi, hl]
  · intro i e' he' hqd
    obtain ⟨e, he, ⟨rfl, -⟩ | ⟨rfl, rfl⟩⟩ := modifyEntry_get he'
    · exact h.queued i e' he hqd
    · rw [hl]
      exact h.queued i e he (hq e hqd).1
  · intro i e' s he' hs hqd
    obtain ⟨e, he, ⟨rfl, -⟩ | ⟨rfl, rfl⟩⟩ := modifyEntry_get he'
    · exact h.mask i e' s he hs hqd
    · obtain ⟨hqe, hm⟩ := hq e hqd
      rw [hm]
      exact h.mask i e s he hs hqe

theorem entries_capacity_get {n slot : Nat} {e' : DirtyEntry}
    (h : (client.ensureCapacity n).dirtyQueue.entries[slot]? = some e') :
    client.dirtyQueue.entries[slot]? = some e' ∨ client.dirtyQueue.entries[slot]? = none ∧ e' = {} := by
  simp only [ensureCapacity, List.getElem?_append] at h
  split at h
  · exact .inl h
  · rename_i hlt
    exact .inr ⟨List.getElem?_eq_none (by omega), (List.mem_replicate.mp (List.mem_of_getElem? h)).2⟩

theorem entries_capacity_of_get {n slot : Nat} {e : DirtyEntry} (h : client.dirtyQueue.entries[slot]? = some e) :
    (client.ensureCapacity n).dirtyQueue.entries[slot]? = some e := by
  simp only [ensureCapacity]
  rw [List.getElem?_append_left (List.getElem?_eq_some_iff.mp h).1]
  exact h

theorem QueueInv.ensureCapacity (h : QueueInv core client) :
    QueueInv core (client.ensureCapacity core.replicated.length) := by
  have hlen := h.lengths
  have hb := h.bounded
  refine ⟨?_, ?_, ?_, ?_, ?_, h.nodup, ?_, ?_⟩
  · simp only [ServerClientReplicator.ensureCapacity, List.length_append, List.length_replicate]
    omega
  · simp only [ServerClientReplicator.ensureCapacity, List.length_append, List.length_replicate]
    omega
  · intro slot s hi hs
    rcases ensureCapacity_get hs with hs | ⟨-, rfl⟩
    · exact h.idleState slot s hi hs
    · rfl
  · intro slot e hi he
    rcases entries_capacity_get he with he | ⟨-, rfl⟩
    · exact h.idleEntry slot e hi he
    · rfl
  · intro slot
    rw [show (client.ensureCapacity core.replicated.length).dirtyQueue.dirtyReplicatedIndices =
      client.dirtyQueue.dirtyReplicatedIndices from rfl, h.listed slot]
    constructor
    · rintro ⟨e, he, hl⟩
      exact ⟨e, entries_capacity_of_get he, hl⟩
    · rintro ⟨e, he, hl⟩
      rcases entries_capacity_get he with he | ⟨-, rfl⟩
      · exact ⟨e, he, hl⟩
      · simp at hl
  · intro slot e he hq
    rcases entries_capacity_get he with he | ⟨-, rfl⟩
    · exact h.queued slot e he hq
    · simp at hq
  · intro slot e s he hs hq
    rcases entries_capacity_get he with he | ⟨-, rfl⟩
    · rcases ensureCapacity_get hs with hs | ⟨hnone, -⟩
      · exact h.mask slot e s he hs hq
      · rw [List.getElem?_eq_none_iff] at hnone
        have := (List.getElem?_eq_some_iff.mp he).1
        omega
    · simp at hq

theorem requeueEntry_listed (core : ServerCore) (s : Option ClientEntityState) (e : DirtyEntry) :
    (requeueEntry core s e).listed = e.listed ∧ (requeueEntry core s e).dirtyFrame = e.dirtyFrame ∧
      (requeueEntry core s e).queued = true := by
  unfold requeueEntry
  split
  · rename_i hq
    exact ⟨rfl, rfl, hq⟩
  · simp only
    split
    · exact ⟨rfl, rfl, rfl⟩
    · split
      · split <;> exact ⟨rfl, rfl, rfl⟩
      · exact ⟨rfl, rfl, rfl⟩

theorem requeueEntry_mask (core : ServerCore) (s : ClientEntityState) (e : DirtyEntry)
    (h : e.queued = true → e.componentMask = s.componentMask) :
    (requeueEntry core (some s) e).componentMask = s.componentMask := by
  unfold requeueEntry
  split
  · rename_i hq
    exact h hq
  · simp only
    split
    · split <;> rfl
    · rfl

/-- `markDirty` on a slot that exists: the entry, and the dirty list. -/
theorem markDirty_eq {slot : Nat} {frame : SyncFrame} {e : DirtyEntry} (hlt : slot < core.replicated.length)
    (he : (client.ensureCapacity core.replicated.length).dirtyQueue.entries[slot]? = some e) :
    client.markDirty core slot frame =
      ({ (client.ensureCapacity core.replicated.length).modifyEntry slot fun entry =>
          raiseDirtyFrame (requeueEntry core (client.ensureCapacity core.replicated.length).states[slot]? entry) frame
        with dirtyQueue := {
          entries := ((client.ensureCapacity core.replicated.length).modifyEntry slot fun entry =>
            raiseDirtyFrame (requeueEntry core (client.ensureCapacity core.replicated.length).states[slot]? entry)
              frame).dirtyQueue.entries
          dirtyReplicatedIndices := if e.listed = true then client.dirtyQueue.dirtyReplicatedIndices
            else client.dirtyQueue.dirtyReplicatedIndices ++ [slot] } }).logCall (.markDirty slot frame) := by
  unfold markDirty
  simp only [ge_iff_le, Nat.not_le.mpr hlt, if_false, he]
  rfl

theorem capacity_entry_exists (h : QueueInv core client) {slot : Nat} (hlt : slot < core.replicated.length) :
    ∃ e, (client.ensureCapacity core.replicated.length).dirtyQueue.entries[slot]? = some e := by
  have hl : slot < (client.ensureCapacity core.replicated.length).dirtyQueue.entries.length := by
    have := h.lengths
    have := h.bounded
    simp only [ServerClientReplicator.ensureCapacity, List.length_append, List.length_replicate]
    omega
  exact ⟨_, List.getElem?_eq_getElem hl⟩

theorem QueueInv.markDirty (h : QueueInv core client) {slot : Nat} {frame : SyncFrame}
    (ha : core.replicatedSlotActive slot = true) : QueueInv core (client.markDirty core slot frame) := by
  rcases Nat.lt_or_ge slot core.replicated.length with hlt | hge
  · obtain ⟨e, he⟩ := capacity_entry_exists h hlt
    have hc := h.ensureCapacity
    rw [markDirty_eq hlt he]
    refine ⟨?_, hc.bounded, hc.idleState, ?_, ?_, ?_, ?_, ?_⟩
    · simpa [ServerClientReplicator.modifyEntry, logCall] using hc.lengths
    · intro i e' hi he'
      obtain ⟨e₁, he₁, ⟨rfl, -⟩ | ⟨rfl, rfl⟩⟩ := modifyEntry_get he'
      · exact hc.idleEntry i e' hi he₁
      · simp [ha] at hi
    · intro i
      have hlist := hc.listed i
      have hslot := hc.listed slot
      simp only [logCall, ServerClientReplicator.modifyEntry, List.getElem?_modify]
      rw [show (client.ensureCapacity core.replicated.length).dirtyQueue.dirtyReplicatedIndices =
        client.dirtyQueue.dirtyReplicatedIndices from rfl] at hlist hslot
      by_cases hi : slot = i
      · subst hi
        simp only [if_true, he, raiseDirtyFrame]
        split
        · rename_i hl
          simpa using hslot.mpr ⟨e, he, hl⟩
        · simp
      · have : i ∈ (if e.listed = true then client.dirtyQueue.dirtyReplicatedIndices
            else client.dirtyQueue.dirtyReplicatedIndices ++ [slot]) ↔
            i ∈ client.dirtyQueue.dirtyReplicatedIndices := by
          split
          · rfl
          · simp [Ne.symm hi]
        rw [this, hlist]
        simp [hi]
    · simp only [logCall]
      split
      · exact h.nodup
      · rename_i hl
        refine List.nodup_append.mpr ⟨h.nodup, by simp, ?_⟩
        rintro a ha' b hb rfl
        obtain rfl : a = slot := by simpa using hb
        obtain ⟨e₁, he₁, hl₁⟩ := (hc.listed a).mp ha'
        rw [he] at he₁
        obtain rfl := Option.some.inj he₁
        exact hl hl₁
    · intro i e' he' hqd
      obtain ⟨e₁, he₁, ⟨rfl, -⟩ | ⟨rfl, rfl⟩⟩ := modifyEntry_get he'
      · exact hc.queued i e' he₁ hqd
      · rfl
    · intro i e' s he' hs hqd
      obtain ⟨e₁, he₁, ⟨rfl, -⟩ | ⟨rfl, rfl⟩⟩ := modifyEntry_get he'
      · exact hc.mask i e' s he₁ hs hqd
      · have hs' : (client.ensureCapacity core.replicated.length).states[i]? = some s := hs
        show (requeueEntry core (client.ensureCapacity core.replicated.length).states[i]? e₁).componentMask = _
        rw [hs']
        exact requeueEntry_mask core s e₁ fun hq => hc.mask i e₁ s he₁ hs hq
  · unfold ServerClientReplicator.markDirty
    rw [if_pos hge]
    exact h

theorem QueueInv.blank (h : QueueInv core client) {slot : Nat}
    (hs : client'.states = (client.modifyState slot fun _ => {}).states)
    (hq : client'.dirtyQueue = (client.modifyEntry slot fun e => { listed := e.listed }).dirtyQueue) :
    QueueInv core client' := by
  refine ⟨?_, ?_, ?_, ?_, ?_, ?_, ?_, ?_⟩
  · rw [hs, hq]
    simpa [ServerClientReplicator.modifyState, ServerClientReplicator.modifyEntry] using h.lengths
  · rw [hs]
    simpa [ServerClientReplicator.modifyState] using h.bounded
  · intro i s' hi hs'
    rw [hs] at hs'
    obtain ⟨s, hget, rfl | ⟨rfl, rfl⟩⟩ := modifyState_get hs'
    · exact h.idleState i s' hi hget
    · rfl
  · intro i e' hi he'
    rw [hq] at he'
    obtain ⟨e, he, ⟨rfl, -⟩ | ⟨rfl, rfl⟩⟩ := modifyEntry_get he'
    · exact h.idleEntry i e' hi he
    · rfl
  · intro i
    rw [hq, show (client.modifyEntry slot fun e => { listed := e.listed }).dirtyQueue.dirtyReplicatedIndices =
      client.dirtyQueue.dirtyReplicatedIndices from rfl, h.listed i]
    simp only [ServerClientReplicator.modifyEntry, List.getElem?_modify]
    cases client.dirtyQueue.entries[i]? with
    | none => simp
    | some e => by_cases hi : slot = i <;> simp [hi]
  · rw [hq]
    exact h.nodup
  · intro i e' he' hqd
    rw [hq] at he'
    obtain ⟨e, he, ⟨rfl, -⟩ | ⟨rfl, rfl⟩⟩ := modifyEntry_get he'
    · exact h.queued i e' he hqd
    · simp at hqd
  · intro i e' s' he' hs' hqd
    rw [hq] at he'
    rw [hs] at hs'
    obtain ⟨e, he, ⟨rfl, hne⟩ | ⟨rfl, rfl⟩⟩ := modifyEntry_get he'
    · obtain ⟨s, hget, rfl | ⟨rfl, rfl⟩⟩ := modifyState_get hs'
      · exact h.mask i e' s' he hget hqd
      · exact absurd rfl hne
    · simp at hqd

theorem unlist_get (l : List Nat) (entries : List DirtyEntry) (i : Nat) :
    (l.foldl (fun entries slot => entries.modify slot fun e => { e with listed := false }) entries)[i]? =
      (entries[i]?).map fun e => if i ∈ l then { e with listed := false } else e := by
  induction l generalizing entries with
  | nil => simp
  | cons a l ih =>
    simp only [List.foldl_cons, ih, List.getElem?_modify]
    cases entries[i]? with
    | none => simp
    | some e =>
      by_cases ha : a = i
      · subst ha; simp
      · simp [ha, Ne.symm ha]

theorem unlist_length (l : List Nat) (entries : List DirtyEntry) :
    (l.foldl (fun entries slot => entries.modify slot fun e => { e with listed := false }) entries).length =
      entries.length := by
  induction l generalizing entries with
  | nil => rfl
  | cons a l ih => simp [ih]

def unlistedUnlessQueued (e : DirtyEntry) : DirtyEntry := if e.queued then e else { e with listed := false }

/-- The entries after `cleanupDirtyQueue`: the unqueued ones of the list are unlisted. -/
theorem cleanup_entries (h : QueueInv core client) (i : Nat) :
    client.cleanupDirtyQueue.dirtyQueue.entries[i]? =
      (client.dirtyQueue.entries[i]?).map unlistedUnlessQueued := by
  unfold cleanupDirtyQueue
  simp only [unlist_get, List.mem_filter]
  cases he : client.dirtyQueue.entries[i]? with
  | none => rfl
  | some e =>
    simp only [Option.map_some, Option.some.injEq, unlistedUnlessQueued]
    rcases Bool.eq_false_or_eq_true e.queued with hq | hq
    · simp [hq]
    · by_cases hm : i ∈ client.dirtyQueue.dirtyReplicatedIndices
      · simp [hm, hq]
      · have hl : e.listed = false := by
          by_contra hl
          exact hm ((h.listed i).mpr ⟨e, he, by simpa using hl⟩)
        cases e
        simp_all

theorem QueueInv.cleanup (h : QueueInv core client) : QueueInv core client.cleanupDirtyQueue := by
  have hget : ∀ {i : Nat} {e' : DirtyEntry}, client.cleanupDirtyQueue.dirtyQueue.entries[i]? = some e' →
      ∃ e, client.dirtyQueue.entries[i]? = some e ∧ unlistedUnlessQueued e = e' := by
    intro i e' he'
    rw [cleanup_entries h, Option.map_eq_some_iff] at he'
    exact he'
  have hqueued : ∀ {e : DirtyEntry}, (unlistedUnlessQueued e).queued = true →
      e.queued = true ∧ unlistedUnlessQueued e = e := by
    intro e hq
    unfold unlistedUnlessQueued at hq ⊢
    cases he : e.queued <;> simp_all
  refine ⟨?_, h.bounded, h.idleState, ?_, ?_, h.nodup.filter _, ?_, ?_⟩
  · simp only [cleanupDirtyQueue, unlist_length]
    exact h.lengths
  · intro i e' hi he'
    obtain ⟨e, he, rfl⟩ := hget he'
    rw [h.idleEntry i e hi he]
    rfl
  · intro i
    rw [cleanup_entries h]
    have hl := h.listed i
    show i ∈ client.dirtyQueue.dirtyReplicatedIndices.filter _ ↔ _
    simp only [List.mem_filter]
    cases he : client.dirtyQueue.entries[i]? with
    | none => simp
    | some e =>
      simp only [he, Option.some.injEq, exists_eq_left'] at hl
      simp only [Option.map_some, Option.some.injEq, exists_eq_left', hl, unlistedUnlessQueued]
      cases e.queued <;> simp
  · intro i e' he' hqd
    obtain ⟨e, he, rfl⟩ := hget he'
    obtain ⟨hq, heq⟩ := hqueued hqd
    rw [heq]
    exact h.queued i e he hq
  · intro i e' s he' hs hqd
    obtain ⟨e, he, rfl⟩ := hget he'
    obtain ⟨hq, heq⟩ := hqueued hqd
    rw [heq]
    exact h.mask i e s he hs hq

end

end AshiatoSync
