import AshiatoSync.SettleSound

/-!
# The tables of the slots

In every state the server reaches, an active slot is found under its entity and
under its entity's index, and an inactive one is free: a new entity of the same
index takes the place of the old one, whose slot is deactivated first.  The tables
depend on nothing else, so a step need only keep them.
-/

namespace AshiatoSync

open ServerClientReplicator ReplicationServer

def SlotsIndexed (core : ServerCore) : Prop :=
  ∀ (slot : Nat) (r : ReplicatedSlot), core.replicated[slot]? = some r → r.active = true →
    core.entityToReplicatedIndex r.entity = some slot ∧ core.entityIndexToReplicatedIndex r.entity.index = some slot

structure SlotTables (core : ServerCore) : Prop extends SlotsInv core where
  indexed : SlotsIndexed core
  listed : ∀ (slot : Nat) (r : ReplicatedSlot), core.replicated[slot]? = some r → r.active = false →
    slot ∈ core.freeReplicatedIndices
  counted : core.activeReplicatedCount = (slotView core).countP fun v => v.2.2

section

variable {core core' : ServerCore}

theorem SlotsIndexed.unique (h : SlotsIndexed core) {i j : Nat} {r r' : ReplicatedSlot}
    (hr : core.replicated[i]? = some r) (ha : r.active = true) (hr' : core.replicated[j]? = some r')
    (ha' : r'.active = true) (hindex : r'.entity.index = r.entity.index) : j = i := by
  have hi := (h i r hr ha).2
  have hj := (h j r' hr' ha').2
  rw [hindex, hi] at hj
  exact (Option.some.inj hj).symm

theorem SlotsIndexed.of_sameSlots (h : SlotsIndexed core) (hsame : SameSlots core core') : SlotsIndexed core' := by
  intro slot r' hr' ha'
  obtain ⟨r, hr, he, -, ha⟩ := hsame.symm.slot hr'
  rw [hsame.entities, hsame.indices, ← he]
  exact h slot r hr (ha.trans ha')

theorem SlotTables.of_sameSlots (h : SlotTables core) (hsame : SameSlots core core') : SlotTables core' := by
  refine ⟨⟨fun e slot hslot => ?_, fun i slot hslot => ?_, fun slot hslot => ?_, ?_⟩, ?_, ?_, ?_⟩
  · rw [hsame.entities] at hslot
    obtain ⟨r, hr, ha, he⟩ := h.entities e slot hslot
    obtain ⟨r', hr', he', -, ha'⟩ := hsame.slot hr
    exact ⟨r', hr', ha'.trans ha, he'.trans he⟩
  · rw [hsame.indices] at hslot
    obtain ⟨r, hr, ha, he⟩ := h.indices i slot hslot
    obtain ⟨r', hr', he', -, ha'⟩ := hsame.slot hr
    exact ⟨r', hr', ha'.trans ha, he'.symm ▸ he⟩
  · rw [hsame.free] at hslot
    obtain ⟨r, hr, ha⟩ := h.free slot hslot
    obtain ⟨r', hr', -, -, ha'⟩ := hsame.slot hr
    exact ⟨r', hr', ha'.trans ha⟩
  · rw [hsame.free]
    exact h.freeNodup
  · exact h.indexed.of_sameSlots hsame
  · intro slot r' hr' ha'
    obtain ⟨r, hr, -, -, ha⟩ := hsame.symm.slot hr'
    rw [hsame.free]
    exact h.listed slot r hr (ha.trans ha')
  · rw [hsame.count, hsame.view]
    exact h.counted

theorem SlotTables.setFrame (h : SlotTables core) (frame : SyncFrame) : SlotTables { core with frame } :=
  ⟨⟨h.entities, h.indices, h.free, h.freeNodup⟩, h.indexed, h.listed, h.counted⟩

theorem countP_set {α : Type} (p : α → Bool) {l : List α} {i : Nat} {a b : α} (ha : l[i]? = some a) :
    (l.set i b).countP p + (if p a then 1 else 0) = l.countP p + if p b then 1 else 0 := by
  induction l generalizing i with
  | nil => cases ha
  | cons x l ih =>
    cases i with
    | zero =>
      obtain rfl := Option.some.inj ha
      rw [List.set_cons_zero, List.countP_cons, List.countP_cons]
      omega
    | succ i =>
      have hrest := ih (i := i) ha
      rw [List.set_cons_succ, List.countP_cons, List.countP_cons]
      omega

theorem SlotTables.deactivateSlot (h : SlotTables core) {slot : Nat} {r : ReplicatedSlot}
    (hr : core.replicated[slot]? = some r) (ha : r.active = true) :
    SlotTables (ReplicationServer.deactivateSlot core slot r.entity) := by
  have hlt := (List.getElem?_eq_some_iff.mp hr).1
  have hnot : slot ∉ core.freeReplicatedIndices := fun hin => by
    obtain ⟨r', hr', ha'⟩ := h.free slot hin
    rw [hr] at hr'
    rw [Option.some.inj hr', ha'] at ha
    cases ha
  have hgone : ∀ r', (ReplicationServer.deactivateSlot core slot r.entity).replicated[slot]? = some r' →
      r'.active = false := by
    intro r' hr'
    simp only [ReplicationServer.deactivateSlot, List.getElem?_modify_eq, hr, Option.map_eq_map, Option.map_some,
      Option.some.injEq] at hr'
    rw [← hr']
  have hkept : ∀ (i : Nat) (r' : ReplicatedSlot), i ≠ slot → core.replicated[i]? = some r' →
      (ReplicationServer.deactivateSlot core slot r.entity).replicated[i]? = some r' := fun i r' hi hr' => by
    rw [deactivateSlot_get core slot r.entity hi, hr']
  have hother : ∀ (i : Nat) (r' : ReplicatedSlot), i ≠ slot → core.replicated[i]? = some r' →
      r'.active = true →
      r'.entity.index ≠ r.entity.index ∧ r'.entity ≠ r.entity := fun i r' hi hr' ha' =>
    have hindex : r'.entity.index ≠ r.entity.index := fun heq => hi (h.indexed.unique hr ha hr' ha' heq)
    ⟨hindex, fun heq => hindex (congrArg Entity.index heq)⟩
  refine ⟨⟨fun e i hi => ?_, fun x i hi => ?_, fun i hi => ?_, ?_⟩, fun i r' hr' ha' => ?_,
    fun i r' hr' ha' => ?_, ?_⟩
  · simp only [ReplicationServer.deactivateSlot, Function.update_apply] at hi
    split at hi
    case isTrue => cases hi
    case isFalse he =>
      obtain ⟨r', hr', ha', he'⟩ := h.entities e i hi
      have hne : i ≠ slot := fun heq => by
        rw [heq, hr] at hr'
        exact he (he'.symm.trans (congrArg ReplicatedSlot.entity (Option.some.inj hr')).symm)
      exact ⟨r', hkept i r' hne hr', ha', he'⟩
  · simp only [ReplicationServer.deactivateSlot, Function.update_apply] at hi
    split at hi
    case isTrue => cases hi
    case isFalse he =>
      obtain ⟨r', hr', ha', he'⟩ := h.indices x i hi
      have hne : i ≠ slot := fun heq => by
        rw [heq, hr] at hr'
        rw [← Option.some.inj hr'] at he'
        exact he he'.symm
      exact ⟨r', hkept i r' hne hr', ha', he'⟩
  · rcases List.mem_cons.mp hi with rfl | hi
    · have hget : (ReplicationServer.deactivateSlot core i r.entity).replicated[i]? = _ :=
        (List.getElem?_modify_eq ..).trans (congrArg (Option.map _) hr)
      exact ⟨_, hget, hgone _ hget⟩
    · obtain ⟨r', hr', ha'⟩ := h.free i hi
      have hne : i ≠ slot := fun heq => hnot (heq ▸ hi)
      exact ⟨r', hkept i r' hne hr', ha'⟩
  · exact List.nodup_cons.mpr ⟨hnot, h.freeNodup⟩
  · have hi : i ≠ slot := fun heq => by
      rw [heq] at hr'
      rw [hgone r' hr'] at ha'
      cases ha'
    rw [deactivateSlot_get core slot r.entity hi] at hr'
    obtain ⟨hindex, hentity⟩ := hother i r' hi hr' ha'
    simp only [ReplicationServer.deactivateSlot, Function.update_of_ne hentity, Function.update_of_ne hindex]
    exact h.indexed i r' hr' ha'
  · by_cases hi : i = slot
    · exact List.mem_cons.mpr (.inl hi)
    · rw [deactivateSlot_get core slot r.entity hi] at hr'
      exact List.mem_cons_of_mem _ (h.listed i r' hr' ha')
  · have hview : slotView (ReplicationServer.deactivateSlot core slot r.entity) =
        (slotView core).set slot (r.entity, r.archetype, false) := by
      apply List.ext_getElem?
      intro i
      simp only [slotView, ReplicationServer.deactivateSlot, List.getElem?_map, List.getElem?_modify, List.getElem?_set,
        List.length_map]
      by_cases hi : slot = i
      · subst hi
        have hget : core.replicated[slot] = r := (List.getElem?_eq_some_iff.mp hr).2
        simp [hlt, hget]
      · cases core.replicated[i]? <;> simp [hi]
    have hcount := countP_set (fun v : Entity × SyncArchetypeId × Bool => v.2.2) (b := (r.entity, r.archetype, false))
      (slotView_get hr)
    rw [← hview, ha, ← h.counted] at hcount
    change core.activeReplicatedCount - 1 = _
    simp only [if_true, Bool.false_eq_true, if_false] at hcount
    omega

theorem SlotTables.taken (h : SlotTables core) {entity : Entity} {slot : Nat} (ht : SlotTaken core entity slot core')
    (hnone : core.entityIndexToReplicatedIndex entity.index = none) : SlotTables core' := by
  refine ⟨ht.slots h.toSlotsInv, ?_, ?_, ?_⟩
  · intro i r' hr' ha'
    rw [ht.entities, ht.indices]
    by_cases hi : i = slot
    · subst hi
      obtain ⟨r, hr, -, he⟩ := ht.taken
      rw [hr] at hr'
      obtain rfl := Option.some.inj hr'
      rw [he, Function.update_self, Function.update_self]
      exact ⟨rfl, rfl⟩
    · rw [ht.other i hi] at hr'
      obtain ⟨h1, h2⟩ := h.indexed i r' hr' ha'
      have hindex : r'.entity.index ≠ entity.index := by
        intro heq
        rw [heq, hnone] at h2
        cases h2
      have hentity : r'.entity ≠ entity := fun heq => hindex (congrArg Entity.index heq)
      rw [Function.update_of_ne hentity, Function.update_of_ne hindex]
      exact ⟨h1, h2⟩
  · intro i r' hr' ha'
    have hi : i ≠ slot := fun heq => by
      obtain ⟨r, hr, ha, -⟩ := ht.taken
      rw [heq, hr] at hr'
      rw [Option.some.inj hr', ha'] at ha
      cases ha
    rw [ht.other i hi] at hr'
    have hin := h.listed i r' hr' ha'
    rcases ht.free with hfree | ⟨hfree, -⟩
    · rw [hfree] at hin
      exact (List.mem_cons.mp hin).resolve_left hi
    · rw [hfree] at hin
      cases hin
  · rw [ht.count, h.counted]
    obtain ⟨v, hv, ⟨hlt, hview⟩ | ⟨-, hview⟩⟩ := ht.view
    · have hget := List.getElem?_eq_getElem hlt
      have hidle : core.replicated[slot].active = false := by
        have hnot := ht.idle
        rw [slotActive_of_get hget] at hnot
        exact hnot
      have hcount := countP_set (fun v : Entity × SyncArchetypeId × Bool => v.2.2) (b := v) (slotView_get hget)
      rw [hview, hidle, hv] at *
      simp only [if_true, Bool.false_eq_true, if_false] at hcount
      omega
    · rw [hview, List.countP_append, List.countP_singleton, hv]
      rfl

end

/-! ## Slots taken and given up -/

section

variable {s s' : ReplicationServer}

theorem deactivateReplicated_core (s : ReplicationServer) {slot : Nat} {r : ReplicatedSlot}
    (hr : s.core.replicated[slot]? = some r) (ha : r.active = true) :
    SameSlots (ReplicationServer.deactivateSlot s.core slot r.entity) (s.deactivateReplicated slot).core := by
  have hclear : ∀ clients core,
      (eachClient (fun core client => (core, client.clearDirty slot)) core clients).1 = core := by
    intro clients
    induction clients with
    | nil => exact fun _ => rfl
    | cons client rest ih => exact fun core => ih core
  unfold ReplicationServer.deactivateReplicated
  simp only [hr, ha, Bool.not_true, Bool.false_eq_true, if_false]
  show SameSlots _ (eachClient _ _ _).1
  rw [hclear]
  exact eachClient_sameSlots (f := stopReplicating slot r.entity) (fun core client => by
    unfold stopReplicating
    rw [enqueueDestroy_core]
    exact clearState_sameSlots ..) s.clients _

theorem SlotTables.deactivateReplicated (h : SlotTables s.core) (slot : Nat) :
    SlotTables (s.deactivateReplicated slot).core ∧ (s.deactivateReplicated slot).core.settings =
      s.core.settings := by
  cases hr : s.core.replicated[slot]? with
  | none =>
    unfold ReplicationServer.deactivateReplicated
    simp only [hr]
    exact ⟨h, trivial⟩
  | some r =>
    cases ha : r.active with
    | false =>
      unfold ReplicationServer.deactivateReplicated
      simp only [hr, ha, Bool.not_false, if_true]
      exact ⟨h, trivial⟩
    | true =>
      have hsame := deactivateReplicated_core s hr ha
      exact ⟨(h.deactivateSlot hr ha).of_sameSlots hsame, hsame.settings⟩

theorem SlotTables.deactivateEntityIndex (h : SlotTables s.core) (index : Nat) :
    SlotTables (s.deactivateEntityIndex index).core ∧ (s.deactivateEntityIndex index).core.settings =
      s.core.settings := by
  unfold ReplicationServer.deactivateEntityIndex
  split
  · exact ⟨h, rfl⟩
  · exact h.deactivateReplicated _

theorem deactivateEntityIndex_none (hs : SlotsInv s.core) (index : Nat) :
    (s.deactivateEntityIndex index).core.entityIndexToReplicatedIndex index = none := by
  unfold ReplicationServer.deactivateEntityIndex
  split
  · assumption
  · rename_i slot hslot
    obtain ⟨r, hr, ha, rfl⟩ := hs.indices index slot hslot
    rw [(deactivateReplicated_core s hr ha).indices]
    simp [ReplicationServer.deactivateSlot]

theorem SlotTables.activateReplicated (h : SlotTables s.core) {entity : Entity} {archetype : SyncArchetypeId}
    {definition : SyncArchetype} (hdef : s.core.settings.archetypes[archetype]? = some definition)
    (hstep : s.activateReplicated entity archetype definition = .ok s') : SlotTables s'.core := by
  obtain ⟨h₁, hsettings⟩ := h.deactivateEntityIndex entity.index
  unfold ReplicationServer.activateReplicated at hstep
  simp only [Monadic.bind_eq_ok, Monadic.pure_eq_ok] at hstep
  obtain ⟨⟨core, slot⟩, halloc, rfl⟩ := hstep
  have hact : Activated (s.deactivateEntityIndex entity.index).core entity slot
      (ReplicationServer.initializeSlot core slot entity definition) :=
    ⟨archetype, definition, core, hsettings ▸ hdef, halloc, rfl⟩
  have htaken := hact.taken h₁.toSlotsInv
  refine (h₁.taken htaken (deactivateEntityIndex_none h.toSlotsInv entity.index)).of_sameSlots ?_
  refine eachClient_sameSlots (fun core client => ?_) _ _
  unfold startReplicating
  exact clearState_sameSlots ..

theorem SlotTables.upsertReplicated (h : SlotTables s.core) {registry : Registry} {entity : Entity}
    {archetype : SyncArchetypeId} (hstep : s.upsertReplicated registry entity archetype = .ok s') :
    SlotTables s'.core := by
  unfold ReplicationServer.upsertReplicated at hstep
  split at hstep
  · obtain rfl := Except.ok.inj hstep
    exact (h.deactivateEntityIndex _).1
  rename_i definition hdef
  split at hstep
  · obtain rfl := Except.ok.inj hstep
    exact (h.deactivateEntityIndex _).1
  split at hstep
  · exact h.activateReplicated hdef hstep
  rename_i slot hslot
  -- the index never leads to a slot that is not active
  obtain ⟨r, hr, ha, -⟩ := h.entities entity slot hslot
  simp only [hr, ha, Bool.not_true, Bool.false_eq_true, if_false] at hstep
  split at hstep
  · cases hstep
  · exact Except.ok.inj hstep ▸ h

theorem SlotTables.upsertAll (h : SlotTables s.core) {registry : Registry} {entities : List Entity}
    (hstep : s.upsertAll registry entities = .ok s') : SlotTables s'.core := by
  refine Monadic.foldlM_inv (fun _ (t : ReplicationServer) => SlotTables t.core) entities s s' ?_ h hstep
  rintro entity - t t' ht hstep
  split at hstep
  · exact Except.ok.inj hstep ▸ ht
  · exact ht.upsertReplicated hstep

theorem SlotTables.initialize (h : SlotTables s.core) {registry : Registry} {entities : List Entity}
    (hstep : (s.upsertAll registry entities).map setInitialized = .ok s') : SlotTables s'.core := by
  obtain ⟨s₁, h₁, rfl⟩ := Monadic.Except_map_eq_ok.mp hstep
  exact (h.upsertAll h₁).of_sameSlots ⟨rfl, rfl, rfl, rfl, rfl, rfl, rfl, rfl⟩

theorem SlotTables.rediscover (h : SlotTables s.core) {registry : Registry} {dirty : DirtyView}
    (hstep : s.rediscoverReplicatedEntities registry dirty = .ok s') : SlotTables s'.core := by
  unfold ReplicationServer.rediscoverReplicatedEntities at hstep
  split at hstep
  · exact h.initialize hstep
  simp only [Monadic.bind_eq_ok] at hstep
  obtain ⟨s₁, h₁, h₂⟩ := hstep
  have hremoved := Monadic.foldl_inv (fun _ (t : ReplicationServer) => SlotTables t.core)
    (dirty.removed .replicated) s (f := fun server entity => server.deactivateEntityIndex entity.index)
    (fun entity _ t ht => (ht.deactivateEntityIndex entity.index).1) h
  exact (hremoved.upsertAll h₁).upsertAll h₂

theorem SlotTables.rediscoverAll (h : SlotTables s.core) {registry : Registry}
    (hstep : s.rediscoverAllReplicatedEntities registry = .ok s') : SlotTables s'.core := by
  unfold ReplicationServer.rediscoverAllReplicatedEntities at hstep
  split at hstep
  · exact h.initialize hstep
  simp only at hstep
  have hgone := Monadic.foldl_inv (fun _ (t : ReplicationServer) => SlotTables t.core)
    (List.range s.core.replicated.length) s
    (f := fun server slot =>
      if server.core.replicatedSlotActive slot && !server.core.replicatedIsReplicable registry slot then
        server.deactivateReplicated slot
      else server)
    (fun slot _ t ht => by
      split
      · exact (ht.deactivateReplicated slot).1
      · exact ht) h
  exact hgone.upsertAll hstep

end

/-! ## Sending -/

section

variable {s s' : ReplicationServer} {l l' : SendLoop}

theorem sendDestroy_core (l : SendLoop) (index : Nat) : (l.sendDestroy index).core = l.core := by
  have hfull : ∀ bits, (l.flushIfFull bits).core = l.core := by
    intro bits
    unfold SendLoop.flushIfFull
    split <;> rfl
  unfold SendLoop.sendDestroy
  split
  · rfl
  simp only
  split
  · exact hfull _
  split
  · exact hfull _
  · exact hfull _

theorem sendUpdate_sameSlots {registry : Registry} {slot : Nat} {mask : Mask}
    (hsend : l.sendUpdate registry slot mask = .ok l') : SameSlots l.core l'.core := by
  unfold SendLoop.sendUpdate at hsend
  split at hsend
  · rw [Monadic.pure_eq_ok] at hsend
    exact hsend ▸ .refl _
  rename_i hrep
  have hact : l.core.replicatedSlotActive slot = true := by
    simp only [ServerCore.replicatedIsReplicable, ServerCore.replicatedSlotActive] at hrep ⊢
    split <;> simp_all
  rw [Monadic.bind_eq_ok] at hsend
  obtain ⟨⟨core₁, client₁, serialized⟩, hserialize, hsend⟩ := hsend
  obtain ⟨hslots, -⟩ := serializeEntity_frame hact hserialize
  cases serialized with
  | none =>
    simp only [Monadic.pure_eq_ok] at hsend
    exact hsend ▸ hslots
  | some serialized =>
    simp only at hsend
    have hretain := hslots.trans (retain_sameSlots core₁ serialized.quantizedFrame)
    have hcore : (SendLoop.flushIfFull { l with
        core := core₁.retainQuantizedFrame serialized.quantizedFrame, client := client₁ }
        (1 + serialized.payloadBits)).core = core₁.retainQuantizedFrame serialized.quantizedFrame := by
      unfold SendLoop.flushIfFull
      split <;> rfl
    generalize SendLoop.flushIfFull { l with
      core := core₁.retainQuantizedFrame serialized.quantizedFrame, client := client₁ }
      (1 + serialized.payloadBits) = l₁ at hcore hsend
    rw [← hcore] at hretain
    split at hsend
    · rw [Monadic.pure_eq_ok] at hsend
      subst hsend
      unfold SendLoop.refuseUpdate
      simp only
      split <;> exact hretain.trans (release_sameSlots _ _)
    · rw [Monadic.pure_eq_ok] at hsend
      subst hsend
      unfold SendLoop.acceptUpdate
      cases l₁.updateWritten slot mask serialized with
      | none => exact hretain
      | some w => exact hretain.trans (recordSent_sameSlots ..)

theorem sendCandidate_sameSlots {registry : Registry} {a : SerializedCandidate}
    (hsend : SendLoop.sendCandidate registry l a = .ok l') : SameSlots l.core l'.core := by
  unfold SendLoop.sendCandidate at hsend
  split at hsend
  · exact Except.ok.inj hsend ▸ .refl _
  cases a with
  | destroy index =>
    obtain rfl := Except.ok.inj hsend
    rw [sendDestroy_core]
    exact .refl _
  | update slot priority mask => exact sendUpdate_sameSlots hsend

theorem finish_core (l : SendLoop) : l.finish.core = l.core := by
  unfold SendLoop.finish
  split
  · rfl
  · split <;> rfl

/-- A property of the slots that survives the deactivation of a slot survives a send. -/
theorem sendClient_keeps {P : ReplicationServer → Prop}
    (hsame : ∀ {s s' : ReplicationServer}, SameSlots s.core s'.core → P s → P s')
    (hdeactivate : ∀ (s : ReplicationServer) (slot : Nat), P s → P (s.deactivateReplicated slot)) {c : Nat}
    {registry : Registry} {inputAckFrame : SyncFrame} {available : Nat}
    {decider : Entity → EntityReplicationDecision} {result : ReplicationServer × ReplicationSendResult} (h : P s)
    (hsend : s.sendClient c registry inputAckFrame available decider = .ok result) : P result.1 := by
  rw [sendClient_eq] at hsend
  have hcollect : P (s.collectCandidates c registry inputAckFrame decider).1 := by
    unfold collectCandidates
    split
    · exact h
    rename_i client hc
    have hbegun : P (s.setClient c s.core (beginSend s.core client inputAckFrame)) :=
      @hsame s _ (SameSlots.refl s.core) h
    refine Monadic.foldl_inv (fun _ (acc : ReplicationServer × List SerializedCandidate) => P acc.1) _ _ ?_ hbegun
    rintro slot - ⟨t, candidates⟩ ht
    unfold collectCandidate
    simp only
    split
    · exact ht
    rename_i client hc
    split
    · exact ht
    rename_i entry hentry
    split
    · exact ht
    split
    · split
      · exact hdeactivate t slot ht
      · exact ht
    · obtain ⟨hslots, -⟩ := updateCandidate_elsewhere t.core client (Nat.succ_ne_self slot) entry decider
      exact hsame hslots ht
  generalize s.collectCandidates c registry inputAckFrame decider = collected at hcollect hsend
  obtain ⟨t, updates⟩ := collected
  unfold sendCandidates at hsend
  simp only at hsend
  split at hsend
  · rw [Monadic.pure_eq_ok] at hsend
    exact hsend ▸ hcollect
  rename_i client hc
  rw [Monadic.bind_eq_ok] at hsend
  obtain ⟨l, hloop, hsend⟩ := hsend
  rw [Monadic.pure_eq_ok] at hsend
  subst hsend
  have hl : SameSlots t.core l.core :=
    Monadic.foldlM_inv (fun _ l => SameSlots t.core l.core) _ _ _
      (fun a _ l l' hl hstep => hl.trans (sendCandidate_sameSlots hstep)) (.refl _) hloop
  rw [← finish_core l] at hl
  exact hsame (s := t) hl hcollect

/-! ## Every call -/

theorem captureQueuedCues_core {registry : Registry} {cues : List QueuedSyncCue}
    (h : s.captureQueuedCues registry cues = .ok s') : s'.core = s.core := by
  refine Monadic.foldlM_inv (fun _ (t : ReplicationServer) => t.core = s.core) cues s s' ?_ rfl h
  rintro cue - t t' ht hstep
  split at hstep
  · exact Except.ok.inj hstep ▸ ht
  unfold attachCueToClients at hstep
  split at hstep
  · rw [Monadic.pure_eq_ok] at hstep
    exact hstep ▸ ht
  split at hstep
  · rw [Monadic.bind_eq_ok] at hstep
    obtain ⟨clients, -, hstep⟩ := hstep
    rw [Monadic.pure_eq_ok] at hstep
    exact hstep ▸ ht
  · rw [Monadic.pure_eq_ok] at hstep
    exact hstep ▸ ht

theorem broadcast_core (s : ReplicationServer) (dirty : DirtyView) :
    (s.broadcastRegistryDirtyFrame dirty).core = s.core := by
  have hall : ∀ (f : ServerCore → ServerClientReplicator → ServerClientReplicator) clients core,
      (eachClient (fun core client => (core, f core client)) core clients).1 = core := by
    intro f clients
    induction clients with
    | nil => exact fun _ => rfl
    | cons client rest ih => exact fun core => ih core
  exact hall _ s.clients s.core

theorem foldl_marks_sameSlots {mark : ServerCore → Nat → ServerCore}
    (hmark : ∀ core slot, SameSlots core (mark core slot)) (find : ServerCore → Entity → Option Nat)
    (entities : List Entity) : ∀ core : ServerCore, SameSlots core (entities.foldl (fun core entity =>
      match find core entity with
      | some slot => mark core slot
      | none => core) core) := by
  induction entities with
  | nil => exact fun core => .refl core
  | cons entity entities ih =>
    intro core
    simp only [List.foldl_cons]
    refine SameSlots.trans ?_ (ih _)
    split
    · exact hmark _ _
    · exact .refl _

theorem captureKey_sameSlots {dirty : DirtyView} {key : DirtyKey} {mark : ServerCore → Nat → ServerCore}
    (hmark : ∀ core slot, SameSlots core (mark core slot)) (core : ServerCore) :
    SameSlots core (captureKey dirty key mark core) :=
  (foldl_marks_sameSlots hmark (fun core entity => core.entityToReplicatedIndex entity) (dirty.dirty key) core).trans
    (foldl_marks_sameSlots hmark (fun core entity => core.entityIndexToReplicatedIndex entity.index)
      (dirty.removed key) _)

theorem markDirtyTag_sameSlots (core : ServerCore) (slot : Nat) (tag : ComponentId) :
    SameSlots core (markDirtyTag core slot tag) := by
  unfold markDirtyTag
  split
  · exact .refl _
  split
  · exact .refl _
  split
  · exact bumpGenerations_sameSlots ..
  · exact .refl _

/-- What the bumping of generations keeps, `captureDirtyGenerations` keeps. -/
theorem captureDirtyGenerations_keeps {P : ServerCore → Prop}
    (hbump : ∀ core slot which, P core → P (bumpGenerations core slot which)) {core : ServerCore}
    (dirty : DirtyView) (h : P core) : P (captureDirtyGenerations core dirty) := by
  have htag : ∀ tag core slot, P core → P (markDirtyTag core slot tag) := by
    intro tag core slot hcore
    unfold markDirtyTag
    split
    · exact hcore
    split
    · exact hcore
    split
    · exact hbump core slot _ hcore
    · exact hcore
  have hkey : ∀ (key : DirtyKey) (mark : ServerCore → Nat → ServerCore),
      (∀ core slot, P core → P (mark core slot)) →
      ∀ core, P core → P (captureKey dirty key mark core) := by
    intro key mark hmark core hcore
    refine Monadic.foldl_inv (fun _ => P) (dirty.removed key) _ (fun entity _ core hcore => ?_)
      (Monadic.foldl_inv (fun _ => P) (dirty.dirty key) _ (fun entity _ core hcore => ?_) hcore)
    all_goals
      split
      · exact hmark _ _ hcore
      · exact hcore
  refine hkey .networkOwner markOwnerVisibilityDirty (fun core slot => hbump core slot _) _ ?_
  refine Monadic.foldl_inv (fun _ => P) _ _ (fun component _ core hcore =>
    hkey (.component component) _ (fun core slot => hbump core slot _) core hcore) ?_
  exact Monadic.foldl_inv (fun _ => P) _ _ (fun tag _ core hcore => hkey (.component tag) _ (htag tag) core hcore) h

theorem captureDirtyGenerations_sameSlots (core : ServerCore) (dirty : DirtyView) :
    SameSlots core (captureDirtyGenerations core dirty) :=
  captureDirtyGenerations_keeps (fun core' slot which h => h.trans (bumpGenerations_sameSlots core' slot which)) dirty
    (.refl core)

theorem SlotTables.exec (h : SlotTables s.core) {op : ServerOp} (hexec : s.exec op = .ok s') : SlotTables s'.core := by
  cases op with
  | advance frame registry dirty cues =>
    simp only [ReplicationServer.exec, advanceFrame, Monadic.bind_eq_ok] at hexec
    obtain ⟨s₁, h₁, h₂⟩ := hexec
    have h₀ : SlotTables ({ s with core := { s.core with frame } } : ReplicationServer).core := h.setFrame frame
    have hi := h₀.rediscover h₁
    rw [captureQueuedCues_core h₂, broadcast_core]
    exact hi.of_sameSlots (captureDirtyGenerations_sameSlots s₁.core dirty)
  | rediscoverAll registry => exact h.rediscoverAll hexec
  | send id registry inputAckFrame available decider =>
    simp only [ReplicationServer.exec] at hexec
    split at hexec
    · exact Except.ok.inj hexec ▸ h
    obtain ⟨result, hsend, rfl⟩ := Monadic.Except_map_eq_ok.mp hexec
    exact sendClient_keeps (P := fun s => SlotTables s.core) (fun hsame hi => hi.of_sameSlots hsame)
      (fun s slot hi => (hi.deactivateReplicated slot).1) h hsend
  | acks id packetIds =>
    simp only [ReplicationServer.exec] at hexec
    split at hexec
    · exact Except.ok.inj hexec ▸ h
    obtain rfl := Except.ok.inj hexec
    unfold ReplicationServer.processClientAcks
    split
    · exact h
    · rename_i client _
      have m : LocalMoves False s.core client _ _ := processClientAcks_moves s.core client packetIds
      exact h.of_sameSlots m.sameSlots
  | addClient peer id =>
    obtain rfl := Except.ok.inj hexec
    unfold ReplicationServer.addClient
    split <;> exact h
  | removeClient id =>
    obtain rfl := Except.ok.inj hexec
    unfold ReplicationServer.removeClient
    split
    · exact h
    · split
      · exact h
      · exact h.of_sameSlots (clearAll_sameSlots _ _)

theorem slotTables_start (options : ReplicationServerOptions) (settings : SyncSettings) :
    SlotTables (ReplicationServer.start options settings).core := by
  refine ⟨⟨fun e slot hslot => ?_, fun i slot hslot => ?_, fun slot hslot => ?_, List.nodup_nil⟩,
    fun slot r hr => ?_,
    fun slot r hr => ?_, rfl⟩
  · cases hslot
  · cases hslot
  · cases hslot
  · simp [ReplicationServer.start] at hr
  · simp [ReplicationServer.start] at hr

theorem slotTables_reachable {options : ReplicationServerOptions} {settings : SyncSettings}
    (h : Reachable options settings s) : SlotTables s.core := by
  induction h with
  | start => exact slotTables_start options settings
  | step op hr hexec ih => exact ih.exec hexec

end

end AshiatoSync
