import AshiatoSync.Lib.FreeList
import AshiatoSync.ServerSound

/-!
# Network ids

Every id a client ever used is owned by one entity state, waits for the
acknowledgement of one destroy, or is on the free list.
-/

namespace AshiatoSync

open ServerClientReplicator FreeList

/-! ## The invariant -/

def nextFree (ids : NetworkIds) (id : Nat) : Option Nat :=
  ids.entries[id]?.map (·.replicatedIndexOrNextFreeNetworkId)

def NetworkIds.entry? (ids : NetworkIds) (id : Nat) : Option NetworkIdEntry :=
  if id = 0 then none else ids.entries[id]?

def ClientDestroyState.id (d : ClientDestroyState) : Nat × Nat := (d.networkId, d.networkVersion)

structure IdInv (client : ServerClientReplicator) : Prop where
  owner : ∀ (slot : Nat) (s : ClientEntityState), client.states[slot]? = some s → s.hasNetworkId = true →
    ∃ e, client.networkIds.entry? s.networkId = some e ∧ e.active = true ∧ e.pendingDestroy = false ∧
      e.replicatedIndexOrNextFreeNetworkId = slot ∧ e.version = s.networkVersion
  unowned : ∀ (slot : Nat) (s : ClientEntityState), client.states[slot]? = some s → s.hasNetworkId = false →
    s.networkId = 0
  active : ∀ (id : Nat) (e : NetworkIdEntry), client.networkIds.entry? id = some e → e.active = true →
    ∃ s, client.states[e.replicatedIndexOrNextFreeNetworkId]? = some s ∧ s.hasNetworkId = true ∧ s.networkId = id
  destroyed : ∀ d ∈ client.destroys, ∃ e, client.networkIds.entry? d.networkId = some e ∧ e.active = false ∧
    e.pendingDestroy = true ∧ e.version = d.networkVersion
  destroyNodup : (client.destroys.map (·.networkId)).Nodup
  pending : ∀ (id : Nat) (e : NetworkIdEntry), client.networkIds.entry? id = some e → e.pendingDestroy = true →
    id ∈ client.destroys.map (·.networkId)
  free : ∃ l, Linked (nextFree client.networkIds) client.networkIds.freeNetworkId l ∧ l.Nodup ∧
    ∀ id, id ∈ l ↔ ∃ e, client.networkIds.entry? id = some e ∧ e.active = false ∧ e.pendingDestroy = false
  bound : client.networkIds.entries.length ≤ maxClientLocalWireNetworkId + 1

theorem networkIdEntry?_eq (client : ServerClientReplicator) (id : Nat) :
    client.networkIdEntry? id = client.networkIds.entry? id := rfl

structure SameIds (client client' : ServerClientReplicator) : Prop where
  ids : client'.networkIds = client.networkIds
  destroys : client'.destroys.map ClientDestroyState.id = client.destroys.map ClientDestroyState.id
  kept : ∀ (slot : Nat) (s : ClientEntityState), client.states[slot]? = some s → s.hasNetworkId = true →
    ∃ s', client'.states[slot]? = some s' ∧ s'.networkId = s.networkId ∧ s'.networkVersion = s.networkVersion ∧
      s'.hasNetworkId = s.hasNetworkId
  back : ∀ (slot : Nat) (s' : ClientEntityState), client'.states[slot]? = some s' →
    (∃ s, client.states[slot]? = some s ∧ s'.networkId = s.networkId ∧ s'.networkVersion = s.networkVersion ∧
      s'.hasNetworkId = s.hasNetworkId) ∨ s'.networkId = 0 ∧ s'.hasNetworkId = false

theorem map_networkId_of_id {l l' : List ClientDestroyState}
    (h : l'.map ClientDestroyState.id = l.map ClientDestroyState.id) :
    l'.map (·.networkId) = l.map (·.networkId) := by
  have := congrArg (List.map Prod.fst) h
  simpa [ClientDestroyState.id, Function.comp_def] using this

theorem IdInv.of_same {client client' : ServerClientReplicator} (h : IdInv client) (hs : SameIds client client') :
    IdInv client' := by
  have hmap := map_networkId_of_id hs.destroys
  refine ⟨?_, ?_, ?_, ?_, hmap ▸ h.destroyNodup, ?_, hs.ids ▸ h.free, hs.ids ▸ h.bound⟩
  · intro slot s' hs' hid
    rcases hs.back slot s' hs' with ⟨s, hst, h1, h2, h3⟩ | ⟨-, h0⟩
    · rw [hs.ids, h1, h2]
      exact h.owner slot s hst (h3 ▸ hid)
    · simp [h0] at hid
  · intro slot s' hs' hid
    rcases hs.back slot s' hs' with ⟨s, hst, h1, -, h3⟩ | ⟨h0, -⟩
    · rw [h1]
      exact h.unowned slot s hst (h3 ▸ hid)
    · exact h0
  · intro id e he ha
    rw [hs.ids] at he
    obtain ⟨s, hst, hid, hnet⟩ := h.active id e he ha
    obtain ⟨s', hs', h1, -, h3⟩ := hs.kept _ s hst hid
    exact ⟨s', hs', h3.trans hid, h1.trans hnet⟩
  · intro d' hd'
    have : d'.id ∈ client.destroys.map ClientDestroyState.id := hs.destroys ▸ List.mem_map_of_mem hd'
    obtain ⟨d, hd, heq⟩ := List.mem_map.mp this
    obtain ⟨h1, h2⟩ := Prod.mk.inj heq
    rw [hs.ids, ← h1, ← h2]
    exact h.destroyed d hd
  · intro id e he hp
    rw [hmap]
    exact h.pending id e (hs.ids ▸ he) hp

theorem sameIds_of_states {client client' : ServerClientReplicator} (hi : client'.networkIds = client.networkIds)
    (hd : client'.destroys = client.destroys) (hs : client'.states = client.states) : SameIds client client' where
  ids := hi
  destroys := by rw [hd]
  kept slot s h _ := ⟨s, hs ▸ h, rfl, rfl, rfl⟩
  back slot s' h := .inl ⟨s', hs ▸ h, rfl, rfl, rfl⟩

theorem sameIds_modify {client client' : ServerClientReplicator} (slot : Nat)
    (f : ClientEntityState → ClientEntityState) (hi : client'.networkIds = client.networkIds)
    (hd : client'.destroys = client.destroys) (hs : client'.states = (client.modifyState slot f).states)
    (hf : ∀ s, client.states[slot]? = some s → (f s).networkId = s.networkId ∧
      (f s).networkVersion = s.networkVersion ∧ (f s).hasNetworkId = s.hasNetworkId) : SameIds client client' := by
  refine ⟨hi, by rw [hd], ?_, ?_⟩
  · intro i s h _
    by_cases hne : i = slot
    · subst hne
      obtain ⟨h1, h2, h3⟩ := hf s h
      exact ⟨f s, by simp [hs, modifyState, h], h1, h2, h3⟩
    · exact ⟨s, by simp [hs, modifyState, Ne.symm hne, h], rfl, rfl, rfl⟩
  · intro i s' h
    rw [hs] at h
    obtain ⟨s, hst, rfl | ⟨rfl, rfl⟩⟩ := modifyState_get h
    · exact .inl ⟨s', hst, rfl, rfl, rfl⟩
    · exact .inl ⟨s, hst, hf s hst⟩

theorem sameIds_capacity {client client' : ServerClientReplicator} {n : Nat}
    (hi : client'.networkIds = client.networkIds) (hd : client'.destroys = client.destroys)
    (hs : client'.states = (client.ensureCapacity n).states) : SameIds client client' := by
  refine ⟨hi, by rw [hd], ?_, ?_⟩
  · intro i s h _
    refine ⟨s, ?_, rfl, rfl, rfl⟩
    rw [hs]
    simp only [ensureCapacity]
    rw [List.getElem?_append_left (List.getElem?_eq_some_iff.mp h).1]
    exact h
  · intro i s' h
    rw [hs] at h
    rcases ensureCapacity_get h with h | ⟨-, rfl⟩
    · exact .inl ⟨s', h, rfl, rfl, rfl⟩
    · exact .inr ⟨rfl, rfl⟩

/-! ## Allocation -/

structure Taken (ids : NetworkIds) (slot : Nat) (free : List Nat) (ids' : NetworkIds) (id : Nat) (free' : List Nat) :
    Prop where
  entry : ∃ e, ids'.entry? id = some e ∧ e.active = true ∧ e.pendingDestroy = false ∧
    e.replicatedIndexOrNextFreeNetworkId = slot
  other : ∀ j, j ≠ id → ids'.entry? j = ids.entry? j
  free : free = id :: free' ∨ free = [] ∧ free' = [] ∧ ids.entry? id = none
  linked : Linked (nextFree ids') ids'.freeNetworkId free'
  bound : ids'.entries.length ≤ maxClientLocalWireNetworkId + 1

def normalizedEntries (entries : List NetworkIdEntry) : List NetworkIdEntry :=
  if entries.isEmpty then [{}] else entries

theorem normalizedEntries_get (entries : List NetworkIdEntry) {id : Nat} (h : id ≠ 0) :
    (normalizedEntries entries)[id]? = entries[id]? := by
  unfold normalizedEntries
  split
  · rename_i he
    rw [List.isEmpty_iff] at he
    subst he
    cases id with
    | zero => exact absurd rfl h
    | succ n => simp
  · rfl

theorem normalizedEntries_length (entries : List NetworkIdEntry) :
    0 < (normalizedEntries entries).length ∧ (normalizedEntries entries).length ≤ max 1 entries.length := by
  unfold normalizedEntries
  split
  · simp
  · rename_i h
    rw [List.isEmpty_iff, ← List.length_eq_zero_iff] at h
    omega

theorem takeNetworkId_spec {ids ids' : NetworkIds} {slot id : Nat} {free : List Nat}
    (hl : Linked (nextFree ids) ids.freeNetworkId free) (hnodup : free.Nodup)
    (hb : ids.entries.length ≤ maxClientLocalWireNetworkId + 1) (h : takeNetworkId ids slot = .ok (ids', id)) :
    ∃ free', Taken ids slot free ids' id free' := by
  have hn : ∀ {i : Nat}, i ≠ 0 → (normalizedEntries ids.entries)[i]? = ids.entries[i]? :=
    fun h0 => normalizedEntries_get _ h0
  have hlen := normalizedEntries_length ids.entries
  have hmax : 1 ≤ maxClientLocalWireNetworkId + 1 := by simp
  unfold takeNetworkId at h
  rw [show (if ids.entries.isEmpty then [{}] else ids.entries) = normalizedEntries ids.entries from rfl] at h
  simp only at h
  split at h
  · -- the head of the free list
    rename_i h0
    obtain ⟨rfl, rfl⟩ := Prod.mk.inj (Except.ok.inj h)
    obtain ⟨tail, rest, rfl, hnext, htail⟩ := hl.uncons h0
    simp only [nextFree, Option.map_eq_some_iff] at hnext
    obtain ⟨e, he, rfl⟩ := hnext
    have hget : (normalizedEntries ids.entries)[ids.freeNetworkId]? = some e := (hn h0).trans he
    refine ⟨rest, ?_, ?_, .inl rfl, ?_, ?_⟩
    · simp [NetworkIds.entry?, h0, hget]
    · intro j hj
      simp only [NetworkIds.entry?]
      by_cases hj0 : j = 0
      · simp [hj0]
      · simp [hj0, Ne.symm hj, hn hj0]
    · simp only [hget]
      refine htail.congr fun i hi => ?_
      have hne : ids.freeNetworkId ≠ i := fun heq => (List.nodup_cons.mp hnodup).1 (heq ▸ hi)
      simp [nextFree, hne, hn (htail.ne_zero i hi)]
    · simp only [List.length_modify]
      omega
  · rename_i h0
    split at h
    · cases h
    · -- a new id at the end
      rename_i hfull
      obtain ⟨rfl, rfl⟩ := Prod.mk.inj (Except.ok.inj h)
      simp only [ne_eq, not_not] at h0
      rw [h0] at hl
      have hnew : (normalizedEntries ids.entries).length ≠ 0 := by omega
      refine ⟨[], ?_, ?_, .inr ⟨hl.nil_of_zero, rfl, ?_⟩, .nil, ?_⟩
      · simp [NetworkIds.entry?, hnew]
      · intro j hj
        simp only [NetworkIds.entry?]
        by_cases hj0 : j = 0
        · simp [hj0]
        · simp only [hj0, if_false]
          rw [← hn hj0, List.getElem?_append]
          split
          · rfl
          · rename_i hge
            rw [List.getElem?_eq_none (by simp; omega), List.getElem?_eq_none (by omega)]
      · simp only [NetworkIds.entry?, hnew, if_false]
        rw [← hn hnew]
        simp
      · simp only [List.length_append, List.length_singleton]
        omega

theorem IdInv.allocate {client client' : ServerClientReplicator} {slot id : Nat} {s : ClientEntityState}
    (h : IdInv client) (hs : client.states[slot]? = some s) (hid : s.hasNetworkId = false)
    (hal : client.allocateNetworkIdFor slot = .ok (client', id)) : IdInv client' := by
  obtain ⟨version, ids, htake, hver, rfl⟩ := allocate_states hs hal
  obtain ⟨l, hl, hnodup, hmem⟩ := h.free
  obtain ⟨l', ht⟩ := takeNetworkId_spec hl hnodup h.bound htake
  obtain ⟨e, he, hea, hep, hes⟩ := ht.entry
  have hev : e.version = version := by
    have h0 : id ≠ 0 := by
      rintro rfl
      simp [NetworkIds.entry?] at he
    simp only [NetworkIds.entry?, h0, if_false] at he
    simp [hver, he]
  -- the id was free or new: nothing owned it and no destroy carries it
  have hfresh : ∀ e₀, client.networkIds.entry? id = some e₀ → e₀.active = false ∧
      e₀.pendingDestroy = false := by
    intro e₀ he₀
    rcases ht.free with hf | ⟨-, -, hnone⟩
    · obtain ⟨e₁, he₁, h1, h2⟩ := (hmem id).mp (by simp [hf])
      rw [he₀] at he₁
      obtain rfl := Option.some.inj he₁
      exact ⟨h1, h2⟩
    · rw [hnone] at he₀
      cases he₀
  refine ⟨?_, ?_, ?_, ?_, h.destroyNodup, ?_, ⟨l', ht.linked, ?_, ?_⟩, ht.bound⟩
  · intro i s' hs' hid'
    obtain ⟨s₁, hs₁, rfl | ⟨rfl, rfl⟩⟩ := modifyState_get hs'
    · obtain ⟨e₁, he₁, ha₁, hp₁, hsl₁, hv₁⟩ := h.owner i s' hs₁ hid'
      refine ⟨e₁, ?_, ha₁, hp₁, hsl₁, hv₁⟩
      show ids.entry? s'.networkId = some e₁
      rw [ht.other _ ?_]
      · exact he₁
      · intro heq
        have := (hfresh e₁ (heq ▸ he₁)).1
        simp [ha₁] at this
    · exact ⟨e, he, hea, hep, hes, hev⟩
  · intro i s' hs' hid'
    obtain ⟨s₁, hs₁, rfl | ⟨rfl, rfl⟩⟩ := modifyState_get hs'
    · exact h.unowned i s' hs₁ hid'
    · simp at hid'
  · intro j e₁ he₁ ha₁
    by_cases hj : j = id
    · subst hj
      have he₁ : ids.entry? j = some e₁ := he₁
      rw [he] at he₁
      obtain rfl := Option.some.inj he₁
      rw [hes]
      exact ⟨{ s with networkId := j, networkVersion := version, hasNetworkId := true },
        by simp [modifyState, hs], rfl, rfl⟩
    · have he₁ : ids.entry? j = some e₁ := he₁
      rw [ht.other j hj] at he₁
      obtain ⟨s₁, hs₁, h1, h2⟩ := h.active j e₁ he₁ ha₁
      have hne : slot ≠ e₁.replicatedIndexOrNextFreeNetworkId := by
        rintro heq
        rw [← heq, hs] at hs₁
        obtain rfl := Option.some.inj hs₁
        simp [hid] at h1
      exact ⟨s₁, by simp [modifyState, hne, hs₁], h1, h2⟩
  · intro d hd
    obtain ⟨e₁, he₁, ha₁, hp₁, hv₁⟩ := h.destroyed d hd
    refine ⟨e₁, ?_, ha₁, hp₁, hv₁⟩
    show ids.entry? d.networkId = some e₁
    rw [ht.other _ ?_]
    · exact he₁
    · intro heq
      have := (hfresh e₁ (heq ▸ he₁)).2
      simp [hp₁] at this
  · intro j e₁ he₁ hp₁
    have he₁ : ids.entry? j = some e₁ := he₁
    by_cases hj : j = id
    · rw [hj, he] at he₁
      obtain rfl := Option.some.inj he₁
      simp [hep] at hp₁
    · rw [ht.other j hj] at he₁
      exact h.pending j e₁ he₁ hp₁
  · rcases ht.free with hf | ⟨-, hf, -⟩
    · exact (List.nodup_cons.mp (hf ▸ hnodup)).2
    · simp [hf]
  · intro j
    show j ∈ l' ↔ ∃ e, ids.entry? j = some e ∧ _
    by_cases hj : j = id
    · subst hj
      rw [he]
      simp only [Option.some.injEq, exists_eq_left', hea, Bool.true_eq_false, false_and, iff_false]
      rcases ht.free with hf | ⟨-, hf, -⟩
      · exact (List.nodup_cons.mp (hf ▸ hnodup)).1
      · simp [hf]
    · rw [ht.other j hj, ← hmem j]
      rcases ht.free with hf | ⟨hf, hf', -⟩
      · simp [hf, hj]
      · simp [hf, hf']

/-! ## Destroys -/

theorem entry?_set {ids : NetworkIds} {id : Nat} {e : NetworkIdEntry} (e' : NetworkIdEntry) (free : Nat)
    (h : ids.entry? id = some e) (j : Nat) :
    NetworkIds.entry? { entries := ids.entries.set id e', freeNetworkId := free } j =
      if j = id then some e' else ids.entry? j := by
  have h0 : id ≠ 0 := by
    rintro rfl
    simp [NetworkIds.entry?] at h
  simp only [NetworkIds.entry?, h0, if_false] at h ⊢
  by_cases hj0 : j = 0
  · simp [hj0, Ne.symm h0]
  · simp only [hj0, if_false]
    rw [set_get h]

theorem nextFree_set {ids : NetworkIds} {id : Nat} {e' : NetworkIdEntry} {free : Nat} {j : Nat} (hj : j ≠ id) :
    nextFree { entries := ids.entries.set id e', freeNetworkId := free } j = nextFree ids j := by
  simp [nextFree, Ne.symm hj]

def clearCalls (client : ServerClientReplicator) (slot : Nat) : List Call :=
  .clearDirty slot :: if client.states[slot]?.isSome then [.clearState slot] else []

theorem enqueueDestroy_ids (core : ServerCore) {client : ServerClientReplicator} (slot : Nat) (entity : Entity)
    (frame : SyncFrame) (h : IdInv client) :
    (∃ s e, client.states[slot]? = some s ∧ s.hasNetworkId = true ∧
    client.networkIds.entry? s.networkId = some e ∧
      (client.enqueueDestroy core slot entity frame).2.networkIds = { client.networkIds with
        entries := client.networkIds.entries.set s.networkId { e with
          active := false, pendingDestroy := true
          replicatedIndexOrNextFreeNetworkId := invalidReplicatedIndexOrFreeNetworkId } } ∧
      (client.enqueueDestroy core slot entity frame).2.destroys = client.destroys ++ [{
        entity, frame, resetEpoch := 0, networkId := s.networkId, networkVersion := s.networkVersion }] ∧
      (client.enqueueDestroy core slot entity frame).2.trace = { client.trace with
        calls := .enqueueDestroy entity s.networkId s.networkVersion client.destroys
          client.ackTracker.pendingPacketAcks :: clearCalls client slot ++ client.trace.calls }) ∨
    (∀ s, client.states[slot]? = some s → s.hasNetworkId = false) ∧
      (client.enqueueDestroy core slot entity frame).2.networkIds = client.networkIds ∧
      (client.enqueueDestroy core slot entity frame).2.destroys = client.destroys ∧
      (client.enqueueDestroy core slot entity frame).2.trace = { client.trace with
        calls := clearCalls client slot ++ client.trace.calls } := by
  have hclear : (client.clearState core slot).2.networkIds = client.networkIds ∧
      (client.clearState core slot).2.destroys = client.destroys ∧
      (client.clearState core slot).2.ackTracker = client.ackTracker ∧
      ((client.clearState core slot).2.clearDirty slot).trace = { client.trace with
        calls := clearCalls client slot ++ client.trace.calls } := by
    unfold clearState clearCalls
    split
    · rename_i hnone
      exact ⟨rfl, rfl, rfl, by simp [clearDirty, logCall, modifyEntry, hnone]⟩
    · rename_i hsome
      exact ⟨rfl, rfl, rfl, by simp [clearDirty, logCall, modifyEntry, modifyState, hsome]⟩
  unfold enqueueDestroy
  simp only
  set cleared := (client.clearState core slot).2.clearDirty slot with hc
  have hids : cleared.networkIds = client.networkIds := hclear.1
  have hdes : cleared.destroys = client.destroys := hclear.2.1
  have hack : cleared.ackTracker = client.ackTracker := hclear.2.2.1
  have htrace := hclear.2.2.2
  cases hs : client.states[slot]? with
  | none =>
    right
    simp only [Option.map_none, Option.getD_none, markPendingDestroy, networkIdEntry?, if_true]
    exact ⟨by simp, hids, hdes, htrace⟩
  | some s =>
    simp only [Option.map_some, Option.getD_some]
    cases hid : s.hasNetworkId with
    | false =>
      right
      rw [h.unowned slot s hs hid]
      simp only [markPendingDestroy, networkIdEntry?, if_true]
      refine ⟨?_, hids, hdes, htrace⟩
      rintro s' hs'
      obtain rfl := Option.some.inj hs'
      exact hid
    | true =>
      left
      obtain ⟨e, he, hea, hep, -, -⟩ := h.owner slot s hs hid
      refine ⟨s, e, rfl, hid, he, ?_⟩
      have hentry : cleared.networkIdEntry? s.networkId = some e := by
        rw [networkIdEntry?_eq, hids]
        exact he
      -- no queued destroy carries an active id
      have hnew : ∀ d ∈ client.destroys, d.networkId ≠ s.networkId := by
        intro d hd heq
        obtain ⟨e₁, he₁, ha₁, -, -⟩ := h.destroyed d hd
        rw [heq, he] at he₁
        obtain rfl := Option.some.inj he₁
        simp [hea] at ha₁
      simp only [markPendingDestroy, hentry, if_true, enqueueDestroyState, hdes, hids]
      rw [if_neg]
      · refine ⟨rfl, rfl, ?_⟩
        simp only [logCall, hack, htrace]
        rfl
      · simp only [List.any_eq_true, Bool.and_eq_true, beq_iff_eq, not_exists, not_and]
        exact fun d hd _ => hnew d hd

theorem IdInv.enqueueDestroy {core : ServerCore} {client : ServerClientReplicator} {slot : Nat} {entity : Entity}
    {frame : SyncFrame} (h : IdInv client) : IdInv (client.enqueueDestroy core slot entity frame).2 := by
  have hst := enqueueDestroy_states core client slot entity frame
  have hids := enqueueDestroy_ids core slot entity frame h
  generalize (client.enqueueDestroy core slot entity frame).2 = client' at hst hids
  have hback : ∀ {i : Nat} {s' : ClientEntityState}, client'.states[i]? = some s' →
      client.states[i]? = some s' ∧ i ≠ slot ∨ s' = {} := by
    intro i s' hs'
    rw [hst] at hs'
    by_cases hi : i = slot
    · obtain ⟨s, hs, rfl | ⟨-, rfl⟩⟩ := modifyState_get hs'
      · simp [modifyState, hi, hi ▸ hs] at hs'
        exact .inr hs'.symm
      · exact .inr rfl
    · obtain ⟨s, hs, rfl | ⟨rfl, -⟩⟩ := modifyState_get hs'
      · exact .inl ⟨hs, hi⟩
      · exact absurd rfl hi
  have hkept : ∀ {i : Nat} {s : ClientEntityState}, client.states[i]? = some s → i ≠ slot →
      client'.states[i]? = some s := by
    intro i s hs hi
    simp [hst, modifyState, Ne.symm hi, hs]
  rcases hids with ⟨s, e, hs, hid, he, hn, hd, -⟩ | ⟨hnone, hn, hd, -⟩
  · obtain ⟨e₀, he₀, hea, hep, hes, hev⟩ := h.owner slot s hs hid
    rw [he] at he₀
    obtain rfl := Option.some.inj he₀
    have hentry := fun j => entry?_set { e with
      active := false, pendingDestroy := true
      replicatedIndexOrNextFreeNetworkId := invalidReplicatedIndexOrFreeNetworkId }
      client.networkIds.freeNetworkId he j
    simp only [← hn] at hentry
    obtain ⟨l, hl, hnodup, hmem⟩ := h.free
    have hnotfree : s.networkId ∉ l := by
      rw [hmem, he]
      simp [hea]
    have hnew : s.networkId ∉ client.destroys.map (·.networkId) := by
      intro hin
      obtain ⟨d, hdm, hdn⟩ := List.mem_map.mp hin
      obtain ⟨e₁, he₁, ha₁, -, -⟩ := h.destroyed d hdm
      rw [hdn, he] at he₁
      obtain rfl := Option.some.inj he₁
      simp [hea] at ha₁
    refine ⟨?_, ?_, ?_, ?_, ?_, ?_, ⟨l, ?_, hnodup, ?_⟩, ?_⟩
    · intro i s' hs' hid'
      rcases hback hs' with ⟨hs', hi⟩ | rfl
      · obtain ⟨e₁, he₁, ha₁, hp₁, hsl₁, hv₁⟩ := h.owner i s' hs' hid'
        refine ⟨e₁, ?_, ha₁, hp₁, hsl₁, hv₁⟩
        rw [hentry, if_neg]
        · exact he₁
        · intro heq
          rw [heq, he] at he₁
          obtain rfl := Option.some.inj he₁
          exact hi (hsl₁.symm.trans hes)
      · simp at hid'
    · intro i s' hs' hid'
      rcases hback hs' with ⟨hs', -⟩ | rfl
      · exact h.unowned i s' hs' hid'
      · rfl
    · intro j e₁ he₁ ha₁
      rw [hentry] at he₁
      split at he₁
      · obtain rfl := Option.some.inj he₁
        simp at ha₁
      · rename_i hj
        obtain ⟨s₁, hs₁, h1, h2⟩ := h.active j e₁ he₁ ha₁
        refine ⟨s₁, hkept hs₁ ?_, h1, h2⟩
        intro heq
        rw [heq, hs] at hs₁
        obtain rfl := Option.some.inj hs₁
        exact hj h2.symm
    · intro d hdm
      rw [hd] at hdm
      rcases List.mem_append.mp hdm with hdm | hdm
      · obtain ⟨e₁, he₁, ha₁, hp₁, hv₁⟩ := h.destroyed d hdm
        refine ⟨e₁, ?_, ha₁, hp₁, hv₁⟩
        rw [hentry, if_neg]
        · exact he₁
        · intro heq
          exact hnew (heq ▸ List.mem_map_of_mem hdm)
      · obtain rfl := List.mem_singleton.mp hdm
        exact ⟨_, (hentry _).trans (if_pos rfl), rfl, rfl, hev⟩
    · rw [hd, List.map_append]
      refine List.nodup_append.mpr ⟨h.destroyNodup, by simp, ?_⟩
      rintro a ha b hb rfl
      obtain rfl : a = s.networkId := by simpa using hb
      exact hnew ha
    · intro j e₁ he₁ hp₁
      rw [hentry] at he₁
      rw [hd, List.map_append]
      split at he₁
      · rename_i hj
        simp [hj]
      · exact List.mem_append_left _ (h.pending j e₁ he₁ hp₁)
    · rw [hn]
      exact hl.congr fun i hi => nextFree_set fun heq => hnotfree (heq ▸ hi)
    · intro j
      rw [hentry]
      split
      · rename_i hj
        simp [hj, hnotfree]
      · exact hmem j
    · rw [hn]
      simpa using h.bound
  · refine h.of_same ⟨hn, by rw [hd], ?_, ?_⟩
    · intro i s' hs' hid'
      have hi : i ≠ slot := by
        rintro rfl
        simp [hnone s' hs'] at hid'
      exact ⟨s', hkept hs' hi, rfl, rfl, rfl⟩
    · intro i s' hs'
      rcases hback hs' with ⟨hs', -⟩ | rfl
      · exact .inl ⟨s', hs', rfl, rfl, rfl⟩
      · exact .inr ⟨rfl, rfl⟩

def ServerClientReplicator.retired (client : ServerClientReplicator) (packet : PendingPacketAck) (i : Nat)
    (d : ClientDestroyState) (e : NetworkIdEntry) : ServerClientReplicator :=
  { client.logCall (.retireDestroy d packet) with
    destroys := client.destroys.eraseIdx i
    networkIds := {
      entries := client.networkIds.entries.set d.networkId {
        replicatedIndexOrNextFreeNetworkId := client.networkIds.freeNetworkId
        version := nextVersion e.version, active := false, pendingDestroy := false }
      freeNetworkId := d.networkId } }

/-- An acknowledged destroy record finds nothing, or retires the first destroy it matches. -/
theorem acknowledgeDestroy_spec {client : ServerClientReplicator} (packet : PendingPacketAck) (record : PacketAckRecord)
    (h : IdInv client) :
    ((client.logRetired packet record).acknowledgeDestroy record.entity record.frame).1 = client ∧
      (∀ d ∈ client.destroys, d.entity = record.entity → d.frame < record.frame) ∨
    ∃ (i : Nat) (d : ClientDestroyState) (e : NetworkIdEntry), client.destroys[i]? = some d ∧
      d.entity = record.entity ∧ record.frame ≤ d.frame ∧ client.networkIds.entry? d.networkId = some e ∧
      ((client.logRetired packet record).acknowledgeDestroy record.entity record.frame).1 =
        client.retired packet i d e := by
  cases hfind : client.destroys.findIdx? fun d => d.entity == record.entity && decide (record.frame ≤ d.frame) with
  | none =>
    left
    have hnone := List.findIdx?_eq_none_iff.mp hfind
    have hlog : client.logRetired packet record = client := by
      unfold logRetired
      rw [List.find?_eq_none.mpr fun d hd => by simp [hnone d hd]]
    refine ⟨by rw [hlog]; simp only [ServerClientReplicator.acknowledgeDestroy, hfind], fun d hd he => ?_⟩
    have := hnone d hd
    simp only [he, beq_self_eq_true, Bool.true_and, decide_eq_false_iff_not] at this
    exact Nat.lt_of_not_le this
  | some i =>
    right
    obtain ⟨hlt, hp, hfirst⟩ := List.findIdx?_eq_some_iff_getElem.mp hfind
    have hget : client.destroys[i]? = some client.destroys[i] := List.getElem?_eq_getElem hlt
    have hlog : client.logRetired packet record = client.logCall (.retireDestroy client.destroys[i] packet) := by
      have hfound : client.destroys.find? (fun d => d.entity == record.entity && decide (record.frame ≤ d.frame)) =
          some client.destroys[i] :=
        List.find?_eq_some_iff_getElem.mpr ⟨hp, i, hlt, rfl,
        fun j hj => by simpa [Decidable.imp_iff_not_or] using hfirst j hj⟩
      simp only [logRetired, hfound]
    obtain ⟨e, he, hea, hep, hev⟩ := h.destroyed _ (List.mem_of_getElem? hget)
    simp only [Bool.and_eq_true, beq_iff_eq, decide_eq_true_eq] at hp
    refine ⟨i, _, e, hget, hp.1, hp.2, he, ?_⟩
    rw [hlog]
    have hfind' : (client.logCall (.retireDestroy client.destroys[i] packet)).destroys.findIdx?
        (fun d => d.entity == record.entity && decide (record.frame ≤ d.frame)) = some i := hfind
    have hget' : (client.logCall (.retireDestroy client.destroys[i] packet)).destroys[i]? = some client.destroys[i] :=
      hget
    simp only [ServerClientReplicator.acknowledgeDestroy, hfind', hget', freeNetworkId]
    rw [show networkIdEntry? { client.logCall (.retireDestroy client.destroys[i] packet) with
      destroys := (client.logCall (.retireDestroy client.destroys[i] packet)).destroys.eraseIdx i }
        client.destroys[i].networkId = some e from he]
    simp only [hep]
    rfl

theorem IdInv.acknowledgeDestroy {client : ServerClientReplicator} {packet : PendingPacketAck}
    {record : PacketAckRecord} (h : IdInv client) :
    IdInv ((client.logRetired packet record).acknowledgeDestroy record.entity record.frame).1 := by
  rcases acknowledgeDestroy_spec packet record h with
    ⟨heq, -⟩ | ⟨i, d, e, hd, -, -, he, heq⟩
  · rw [heq]
    exact h
  rw [heq]
  unfold ServerClientReplicator.retired
  obtain ⟨e₀, he₀, hea, hep, -⟩ := h.destroyed d (List.mem_of_getElem? hd)
  rw [he] at he₀
  obtain rfl := Option.some.inj he₀
  have hentry := fun j => entry?_set {
    replicatedIndexOrNextFreeNetworkId := client.networkIds.freeNetworkId
    version := nextVersion e.version, active := false, pendingDestroy := false }
    d.networkId he j
  obtain ⟨l, hl, hnodup, hmem⟩ := h.free
  have hnotfree : d.networkId ∉ l := by
    rw [hmem, he]
    simp [hep]
  have h0 : d.networkId ≠ 0 := by
    intro h0
    simp [NetworkIds.entry?, h0] at he
  have hlt := (List.getElem?_eq_some_iff.mp hd).1
  have herase : ∀ {d' : ClientDestroyState}, d' ∈ client.destroys.eraseIdx i →
      d' ∈ client.destroys ∧ d'.networkId ≠ d.networkId := by
    intro d' hd'
    rw [List.mem_eraseIdx_iff_getElem?] at hd'
    obtain ⟨k, hk, hget⟩ := hd'
    refine ⟨List.mem_of_getElem? hget, fun hne => hk ?_⟩
    have hk' := (List.getElem?_eq_some_iff.mp hget).1
    apply (@List.Nodup.getElem_inj_iff _ _ h.destroyNodup k (by simpa) i (by simpa)).mp
    simp only [List.getElem_map]
    rw [List.getElem?_eq_getElem hk'] at hget
    rw [List.getElem?_eq_getElem hlt] at hd
    rw [Option.some.inj hget, Option.some.inj hd, hne]
  refine ⟨?_, h.unowned, ?_, ?_, ?_, ?_,
    ⟨d.networkId :: l, ?_, List.nodup_cons.mpr ⟨hnotfree, hnodup⟩, ?_⟩, ?_⟩
  · intro slot s hs hid
    obtain ⟨e₁, he₁, ha₁, hp₁, hsl₁, hv₁⟩ := h.owner slot s hs hid
    refine ⟨e₁, (hentry _).trans ((if_neg ?_).trans he₁), ha₁, hp₁, hsl₁, hv₁⟩
    intro heq'
    rw [heq', he] at he₁
    obtain rfl := Option.some.inj he₁
    simp [hp₁] at hep
  · intro j e₁ he₁ ha₁
    have he₁ := (hentry j).symm.trans he₁
    split at he₁
    · obtain rfl := Option.some.inj he₁
      simp at ha₁
    · exact h.active j e₁ he₁ ha₁
  · intro d' hd'
    obtain ⟨hmem', hne⟩ := herase hd'
    obtain ⟨e₁, he₁, ha₁, hp₁, hv₁⟩ := h.destroyed d' hmem'
    exact ⟨e₁, (hentry _).trans ((if_neg hne).trans he₁), ha₁, hp₁, hv₁⟩
  · exact h.destroyNodup.sublist ((List.eraseIdx_sublist _ _).map _)
  · intro j e₁ he₁ hp₁
    have he₁ := (hentry j).symm.trans he₁
    split at he₁
    · obtain rfl := Option.some.inj he₁
      simp at hp₁
    · rename_i hj
      obtain ⟨d', hd', rfl⟩ := List.mem_map.mp (h.pending j e₁ he₁ hp₁)
      obtain ⟨k, hk⟩ := List.getElem?_of_mem hd'
      refine List.mem_map_of_mem (List.mem_eraseIdx_iff_getElem?.mpr ⟨k, ?_, hk⟩)
      rintro rfl
      rw [hd] at hk
      obtain rfl := Option.some.inj hk
      exact hj rfl
  · refine .cons h0 ?_ (hl.congr fun j hj => nextFree_set fun heq' => hnotfree (heq' ▸ hj))
    simp only [NetworkIds.entry?, h0, if_false] at he
    simp [nextFree, (List.getElem?_eq_some_iff.mp he).1]
  · intro j
    rw [hentry j]
    split
    · rename_i hj
      simp [hj]
    · rename_i hj
      rw [← hmem j]
      simp [hj]
  · simpa using h.bound

/-! ## Every move -/

theorem decidedStateFor_ids (decision : EntityReplicationDecision) (s : ClientEntityState) :
    (decidedStateFor decision s).networkId = s.networkId ∧
      (decidedStateFor decision s).networkVersion = s.networkVersion ∧
      (decidedStateFor decision s).hasNetworkId = s.hasNetworkId := by
  unfold decidedStateFor
  split <;> exact ⟨rfl, rfl, rfl⟩

theorem sentState_ids (fullState : Bool) (q : Nat) (frame : SyncFrame) (s : ClientEntityState) :
    (sentState fullState q frame s).networkId = s.networkId ∧
      (sentState fullState q frame s).networkVersion = s.networkVersion ∧
      (sentState fullState q frame s).hasNetworkId = s.hasNetworkId := by
  simp only [sentState, droppedState]
  split <;> exact ⟨rfl, rfl, rfl⟩

theorem LocalMove.sameIds_or {strict : Prop} {core core' : ServerCore} {client client' : ServerClientReplicator}
    (m : LocalMove strict core client core' client') (h : IdInv client) : SameIds client client' ∨ IdInv client' := by
  cases m with
  | ensureCapacity => exact .inl (sameIds_capacity rfl rfl rfl)
  | markDirty _ =>
    left
    unfold ServerClientReplicator.markDirty
    split
    · exact sameIds_of_states rfl rfl rfl
    · exact sameIds_capacity rfl rfl rfl
  | @clearUnsent slot hs =>
    left
    have hst := clearState_states core client slot
    unfold clearState at hst ⊢
    simp only [hs] at hst ⊢
    refine sameIds_modify _ _ rfl rfl hst fun s hs' => ?_
    rw [hs] at hs'
    obtain rfl := Option.some.inj hs'
    exact ⟨rfl, rfl, rfl⟩
  | enqueueDestroy _ _ => exact .inr h.enqueueDestroy
  | clearDirty _ => exact .inl (sameIds_of_states rfl rfl rfl)
  | beginSend _ => exact .inl (sameIds_of_states rfl rfl rfl)
  | expireCues =>
    refine .inl ⟨rfl, rfl, ?_, ?_⟩
    · intro slot s hs _
      exact ⟨{ s with pendingCues := s.pendingCues.filter fun cue => !decide (core.frame > cue.expireFrame) },
        by simp [expirePendingCues, logCall, hs], rfl, rfl, rfl⟩
    · intro slot s' hs'
      simp only [expirePendingCues, logCall, List.getElem?_map, Option.map_eq_some_iff] at hs'
      obtain ⟨s, hs, rfl⟩ := hs'
      exact .inl ⟨s, hs, rfl, rfl, rfl⟩
  | @storeDecision slot decision _ =>
    left
    have hrest : (client.storeDecision core slot decision).2.networkIds = client.networkIds ∧
        (client.storeDecision core slot decision).2.destroys = client.destroys := by
      unfold ServerClientReplicator.storeDecision
      split
      · exact ⟨rfl, rfl⟩
      · simp only
        split
        · unfold invalidateEntityBaseline
          split <;> exact ⟨rfl, rfl⟩
        · exact ⟨rfl, rfl⟩
    cases hs : client.states[slot]? with
    | none =>
      refine sameIds_of_states hrest.1 hrest.2 ?_
      unfold ServerClientReplicator.storeDecision
      simp only [hs]
      rfl
    | some s =>
      refine sameIds_modify _ _ hrest.1 hrest.2 (storeDecision_state _ _ hs) fun s' hs' => ?_
      rw [hs] at hs'
      obtain rfl := Option.some.inj hs'
      exact decidedStateFor_ids decision s
  | accumulate _ => exact .inl (sameIds_of_states rfl rfl rfl)
  | boost _ => exact .inl (sameIds_modify _ _ rfl rfl rfl fun _ _ => ⟨rfl, rfl, rfl⟩)
  | allocate _ hs hid hal => exact .inr (h.allocate hs hid hal)
  | @sendDestroy index destroy hd =>
    refine .inl ⟨rfl, ?_, fun slot s hs _ => ⟨s, hs, rfl, rfl, rfl⟩,
      fun slot s hs => .inl ⟨s, hs, rfl, rfl, rfl⟩⟩
    apply List.ext_getElem?
    intro i
    simp only [logWritten, List.getElem?_map, set_get hd]
    by_cases hi : i = index
    · simp [hi, hd, ClientDestroyState.id]
    · simp [hi]
  | refuse _ _ => exact .inl (sameIds_of_states rfl rfl rfl)
  | @accept core₁ slot q r state quantized mask serialized w _ _ _ hs _ _ _ _ _ =>
    left
    obtain ⟨hsent, hother⟩ := recordSent_states (core₁.retainQuantizedFrame q) (client.logWritten w) serialized hs
    obtain ⟨calls, hrest⟩ := recordSent_rest (core₁.retainQuantizedFrame q) (client.logWritten w) slot serialized
    refine sameIds_modify slot (fun _ => sentState serialized.fullState serialized.quantizedFrame
      (core₁.retainQuantizedFrame q).frame state) (by rw [hrest]; rfl) (by rw [hrest]; rfl) ?_ ?_
    · apply List.ext_getElem?
      intro i
      by_cases hi : i = slot
      · subst hi
        simp [hsent, modifyState, hs]
      · rw [hother i hi]
        simp [modifyState, Ne.symm hi, logWritten]
    · intro s' hs'
      rw [hs] at hs'
      obtain rfl := Option.some.inj hs'
      exact sentState_ids ..
  | sendPacket _ =>
    left
    apply sameIds_of_states <;> rw [(sendPacket_spec ..).same]
  | cleanupQueue => exact .inl (sameIds_of_states rfl rfl rfl)
  | @acknowledge packet record _ _ =>
    unfold acknowledgeRecord
    split
    · exact .inr h.acknowledgeDestroy
    · left
      split
      · exact sameIds_of_states rfl rfl rfl
      · rename_i slot _
        rcases acknowledgeEntity_spec core client slot record.frame with
          ⟨-, h'⟩ | ⟨s, found, eligible, hs, -, -, -, -, h'⟩
        · rw [h']
          exact sameIds_of_states rfl rfl rfl
        · rw [h']
          refine sameIds_modify slot (acknowledgedState eligible found.quantizedFrame record.frame)
            ?_ ?_ ?_ fun _ _ => ⟨rfl, rfl, rfl⟩ <;> split <;> rfl
  | forgetPackets _ _ => exact .inl (sameIds_of_states rfl rfl rfl)
  | pushCue _ _ _ => exact .inl (sameIds_modify _ _ rfl rfl rfl fun _ _ => ⟨rfl, rfl, rfl⟩)

theorem LocalMove.ids {strict : Prop} {core core' : ServerCore} {client client' : ServerClientReplicator}
    (m : LocalMove strict core client core' client') (h : IdInv client) : IdInv client' := by
  rcases m.sameIds_or h with hs | h'
  · exact h.of_same hs
  · exact h'

theorem IdInv.new (peer : PeerId) (id : ClientId) : IdInv { id, peer } := by
  refine ⟨?_, ?_, ?_, ?_, ?_, ?_, ⟨[], .nil, ?_, ?_⟩, ?_⟩ <;> simp [NetworkIds.entry?]

theorem idRule (strict : Prop) : ClientRule strict fun _ client => IdInv client where
  new _ peer id := .new peer id
  own _ m h := m.ids h
  around _ _ _ h := h

end AshiatoSync
