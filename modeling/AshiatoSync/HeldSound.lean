import AshiatoSync.BaseSound

/-!
# References held by entity states

Through every move the reference counts are the references the clients hold, and
a held frame keeps its content and belongs to the slot that holds it.
-/

namespace AshiatoSync

open ServerClientReplicator

/-! ## Reference counts -/

theorem Obtained.retain_ref {core core₁ : ServerCore} {slot q : Nat} {held : Nat → Nat}
    (h : Obtained core slot core₁ q) (hr : RefInv core held) :
    RefInv (core₁.retainQuantizedFrame q) fun i => held i + oneRef q i := by
  cases h with
  | reuse _ hq ha _ _ _ => exact hr.retain (hr.alive_held hq ha)
  | create _ _ _ hc => exact hr.create (create_spec hc)

theorem RefInv.modifyState_same {core : ServerCore} {client : ServerClientReplicator} {others : Nat → Nat}
    {slot : Nat} {f : ClientEntityState → ClientEntityState} (h : RefInv core fun i => others i + client.holds i)
    (hf : ∀ s i, (f s).holds i = s.holds i) : RefInv core fun i => others i + (client.modifyState slot f).holds i :=
  h.congr fun i => by rw [holds_modifyState_same client slot i (hf · i)]

theorem acknowledgeRecord_ref {core : ServerCore} {client : ServerClientReplicator} {others : Nat → Nat}
    {record : PacketAckRecord} (h : RefInv core fun i => others i + client.holds i) :
    RefInv (client.acknowledgeRecord core packet record).1
      fun i => others i + (client.acknowledgeRecord core packet record).2.1.holds i := by
  unfold acknowledgeRecord
  split
  · exact h.congr fun i => by rw [holds_of_states (states_retireDestroy ..)]
  · split
    · exact h
    · exact acknowledgeEntity_ref h

theorem LocalMove.ref {strict : Prop} {core core' : ServerCore} {client client' : ServerClientReplicator}
    {others : Nat → Nat} (m : LocalMove strict core client core' client')
    (h : RefInv core fun i => others i + client.holds i) : RefInv core' fun i => others i + client'.holds i := by
  cases m with
  | ensureCapacity => exact h.congr fun i => by simp
  | markDirty _ => exact h.congr fun i => by simp
  | clearUnsent _ => exact clearState_ref _ h
  | enqueueDestroy _ _ => exact enqueueDestroy_ref h
  | clearDirty _ => exact h
  | beginSend _ => exact h
  | expireCues =>
    refine h.congr fun i => ?_
    simp only [ServerClientReplicator.holds, expirePendingCues, logCall, List.map_map]
    rfl
  | storeDecision _ _ => exact storeDecision_ref h
  | accumulate _ => exact h
  | boost _ => exact h.modifyState_same fun _ _ => rfl
  | allocate _ hs _ hal =>
    obtain ⟨version, ids, -, -, rfl⟩ := allocate_states hs hal
    have hids : RefInv core fun i => others i + ({ client with networkIds := ids } : ServerClientReplicator).holds i :=
      h
    exact hids.modifyState_same fun _ _ => rfl
  | sendDestroy _ => exact h
  | refuse _ ho => exact (ho.retain_ref h).release
  | accept _ _ ho hs _ _ hw _ _ =>
    refine recordSent_ref hs ((ho.retain_ref h).congr fun i => ?_)
    rw [hw.frame]
    rfl
  | sendPacket _ => exact h.congr fun i => by rw [holds_of_states]; rw [(sendPacket_spec ..).same]
  | cleanupQueue => exact h
  | acknowledge _ _ => exact acknowledgeRecord_ref h
  | forgetPackets _ _ => exact h
  | pushCue _ _ _ => exact h.modifyState_same fun _ _ => rfl

/-! ## Content -/

structure FreshFrame (core : ServerCore) (f : QuantizedFrame) : Prop where
  frame : f.frame = core.frame
  data : ∃ archetype, core.settings.archetypes[f.archetype]? = some archetype ∧ WellFormedData archetype f.data

def Evolves (core core' : ServerCore) : Prop :=
  ∀ (q : Nat) (f' : QuantizedFrame), core'.quantizedFrames[q]? = some f' → f'.active = true →
    (∃ f, core.quantizedFrames[q]? = some f ∧ f.active = true ∧ SameContent f f') ∨
    core.quantizedFrameActive q = false ∧ FreshFrame core f'

theorem Shrinks.evolves {core core' : ServerCore} (h : Shrinks core core') : Evolves core core' :=
  fun q f' hf ha => .inl (h q f' hf ha)

theorem Evolves.shrinks {core core₁ core' : ServerCore} (h : Evolves core core₁) (h' : Shrinks core₁ core') :
    Evolves core core' := by
  intro q f' hf' ha'
  obtain ⟨f₁, hf₁, ha₁, hc₁⟩ := h' q f' hf' ha'
  rcases h q f₁ hf₁ ha₁ with ⟨f, hf, ha, hc⟩ | ⟨hidle, hframe, archetype, hget, hwf⟩
  · exact .inl ⟨f, hf, ha, hc.trans hc₁⟩
  · refine .inr ⟨hidle, hc₁.frame.trans hframe, archetype, ?_, ?_⟩
    · rw [hc₁.archetype]
      exact hget
    · rw [hc₁.data]
      exact hwf

theorem Obtained.evolves {core core₁ : ServerCore} {slot q : Nat} {held : Nat → Nat}
    (h : Obtained core slot core₁ q) (hr : RefInv core held) : Evolves core core₁ := by
  cases h with
  | reuse _ _ _ _ _ _ => exact (Shrinks.refl core).evolves
  | @create _ _ r archetype scratch hr' harch hwf hc =>
    have hc := create_spec hc
    intro i f' hf' ha'
    by_cases hi : i = q
    · subst hi
      rw [hc.new (List.getElem?_eq_some_iff.mp hf').1] at hf'
      obtain rfl := Option.some.inj hf'
      refine .inr ⟨?_, rfl, archetype, harch, hwf⟩
      unfold ServerCore.quantizedFrameActive
      rcases hc.index with ⟨rfl, -, -, -⟩ | ⟨hfree, -⟩
      · simp
      · obtain ⟨f, hf, ha⟩ := (hr.free i).mp (by simp [hfree])
        simp [hf, ha]
    · rw [hc.other i hi] at hf'
      exact .inl ⟨f', hf', ha', .refl f'⟩

theorem clearState_shrinks (core : ServerCore) (client : ServerClientReplicator) (slot : Nat) :
    Shrinks core (client.clearState core slot).1 := by
  unfold clearState
  split
  · exact .refl _
  · exact releaseEntityState_shrinks core _

theorem storeDecision_shrinks (core : ServerCore) (client : ServerClientReplicator) (slot : Nat)
    (decision : EntityReplicationDecision) : Shrinks core (client.storeDecision core slot decision).1 := by
  unfold storeDecision
  split
  · exact .refl _
  · simp only
    split
    · unfold invalidateEntityBaseline
      split
      · exact .refl _
      · exact releaseBaseline_shrinks core _
    · exact .refl _

theorem acknowledgeEntity_shrinks (core : ServerCore) (client : ServerClientReplicator) (slot : Nat)
    (frame : SyncFrame) : Shrinks core (client.acknowledgeEntity core slot frame).1 := by
  rcases acknowledgeEntity_spec core client slot frame with
    ⟨h, -⟩ | ⟨s, found, eligible, -, -, -, -, h, -⟩
  · rw [h]
    exact .refl _
  · rw [h]
    refine .trans ?_ (releases_shrinks _ _)
    split
    · unfold adoptBaseline
      split
      · exact .refl _
      · exact (releaseBaseline_shrinks core _).trans (retain_shrinks _ _)
    · exact .refl _

theorem LocalMove.evolves {strict : Prop} {core core' : ServerCore} {client client' : ServerClientReplicator}
    {held : Nat → Nat} (m : LocalMove strict core client core' client') (hr : RefInv core held) :
    Evolves core core' := by
  cases m with
  | ensureCapacity | markDirty | clearDirty | beginSend | expireCues | accumulate | boost | allocate
  | sendDestroy | sendPacket | cleanupQueue | forgetPackets | pushCue => exact (Shrinks.refl core).evolves
  | clearUnsent _ => exact Shrinks.evolves (clearState_shrinks core client _)
  | enqueueDestroy _ _ =>
    rw [enqueueDestroy_core]
    exact Shrinks.evolves (clearState_shrinks core client _)
  | storeDecision _ _ => exact Shrinks.evolves (storeDecision_shrinks core client _ _)
  | refuse _ ho => exact (ho.evolves hr).shrinks ((retain_shrinks _ _).trans (release_shrinks _ _))
  | accept _ _ ho _ _ _ _ _ _ => exact (ho.evolves hr).shrinks ((retain_shrinks _ _).trans (recordSent_shrinks _ _ _ _))
  | @acknowledge packet record _ _ =>
    unfold acknowledgeRecord
    split
    · exact (Shrinks.refl core).evolves
    · split
      · exact (Shrinks.refl core).evolves
      · exact Shrinks.evolves (acknowledgeEntity_shrinks core client _ _)

/-! ## Held frames -/

structure HeldFrame (core : ServerCore) (slot q : Nat) (f : QuantizedFrame) : Prop where
  get : core.quantizedFrames[q]? = some f
  active : f.active = true
  ofSlot : f.slot = slot
  archetype : ∃ r, core.replicated[slot]? = some r ∧ f.archetype = r.archetype

structure HeldInv (core : ServerCore) (client : ServerClientReplicator) : Prop where
  pending : ∀ (slot : Nat) (s : ClientEntityState), client.states[slot]? = some s → ∀ p ∈ s.pending,
    ∃ f, HeldFrame core slot p.quantizedFrame f ∧ f.frame = p.frame
  baseline : ∀ (slot : Nat) (s : ClientEntityState) (q : Nat), client.states[slot]? = some s →
    s.baseline = some q → ∃ f, HeldFrame core slot q f

/-- A held frame seen from a later server state where its index is alive. -/
theorem HeldFrame.evolve {core core' : ServerCore} {slot q : Nat} {f : QuantizedFrame} (h : HeldFrame core slot q f)
    (he : Evolves core core') (hr : ∀ r, core.replicated[slot]? = some r →
      ∃ r', core'.replicated[slot]? = some r' ∧ r'.archetype = r.archetype)
    (ha : ∃ f', core'.quantizedFrames[q]? = some f' ∧ f'.active = true) :
    ∃ f', HeldFrame core' slot q f' ∧ SameContent f f' := by
  obtain ⟨f', hf', ha'⟩ := ha
  rcases he q f' hf' ha' with ⟨f₁, hf₁, -, hc⟩ | ⟨hidle, -⟩
  · rw [h.get] at hf₁
    obtain rfl := Option.some.inj hf₁
    obtain ⟨r, hget, harch⟩ := h.archetype
    obtain ⟨r', hr', har⟩ := hr r hget
    exact ⟨f', ⟨hf', ha', hc.slot.trans h.ofSlot, r', hr', by rw [hc.archetype, harch, har]⟩, hc⟩
  · simp [ServerCore.quantizedFrameActive, h.get, h.active] at hidle

theorem holds_of_pending {s : ClientEntityState} {p : PendingQuantizedFrame} (h : p ∈ s.pending) :
    0 < s.holds p.quantizedFrame := by
  have : 0 < pendingRefs s.pending p.quantizedFrame := List.countP_pos_iff.mpr ⟨p, h, by simp⟩
  rw [holds_eq]
  omega

theorem holds_of_baseline {s : ClientEntityState} {q : Nat} (h : s.baseline = some q) : 0 < s.holds q := by
  have : baselineRefs s.baseline q = 1 := by simp [h, oneRef]
  rw [holds_eq]
  omega

theorem HeldInv.holds {core : ServerCore} {client : ServerClientReplicator} (h : HeldInv core client) {slot q : Nat}
    {s : ClientEntityState} (hs : client.states[slot]? = some s) (hq : 0 < s.holds q) :
    ∃ f, HeldFrame core slot q f := by
  unfold ClientEntityState.holds at hq
  by_cases hb : s.baseline = some q
  · exact h.baseline slot s q hs hb
  · rw [if_neg hb, Nat.zero_add] at hq
    obtain ⟨p, hp, hpq⟩ := List.countP_pos_iff.mp hq
    obtain ⟨f, hf, -⟩ := h.pending slot s hs p hp
    exact ⟨f, beq_iff_eq.mp hpq ▸ hf⟩

theorem RefInv.state_alive {core : ServerCore} {client : ServerClientReplicator} {others : Nat → Nat}
    (h : RefInv core fun i => others i + client.holds i) {slot q : Nat} {s : ClientEntityState}
    (hs : client.states[slot]? = some s) (hq : 0 < s.holds q) :
    ∃ f, core.quantizedFrames[q]? = some f ∧ f.active = true := by
  apply h.held_alive
  have := Tally.le_sum_of_mem (fun s : ClientEntityState => s.holds q) (List.mem_of_getElem? hs)
  simp only [ServerClientReplicator.holds]
  omega

theorem HeldInv.evolve {core core' : ServerCore} {client : ServerClientReplicator} (h : HeldInv core client)
    (others : Nat → Nat) (he : Evolves core core')
    (hr : ∀ (slot : Nat) (s : ClientEntityState) (r : ReplicatedSlot), client.states[slot]? = some s → s ≠ {} →
      core.replicated[slot]? = some r → ∃ r', core'.replicated[slot]? = some r' ∧ r'.archetype = r.archetype)
    (href : RefInv core' fun i => others i + client.holds i) : HeldInv core' client := by
  refine ⟨?_, ?_⟩
  · intro slot s hs p hp
    obtain ⟨f, hf, hframe⟩ := h.pending slot s hs p hp
    have hne : s ≠ {} := by
      rintro rfl
      simp at hp
    obtain ⟨f', hf', hc⟩ := hf.evolve he (hr slot s · hs hne) (href.state_alive hs (holds_of_pending hp))
    exact ⟨f', hf', hc.frame.trans hframe⟩
  · intro slot s q hs hb
    obtain ⟨f, hf⟩ := h.baseline slot s q hs hb
    have hne : s ≠ {} := by
      rintro rfl
      simp at hb
    obtain ⟨f', hf', -⟩ := hf.evolve he (hr slot s · hs hne) (href.state_alive hs (holds_of_baseline hb))
    exact ⟨f', hf'⟩

/-! ## What a state move does to the references -/

theorem StateMove.pending {strict : Prop} {core : ServerCore} {client : ServerClientReplicator} {slot : Nat}
    {s s' : ClientEntityState} (m : StateMove strict core client slot s s') : ∀ p ∈ s'.pending, p ∈ s.pending ∨
      p.frame = core.frame ∧ ∀ f, core.quantizedFrames[p.quantizedFrame]? = some f → f.active = true →
      f.slot = slot ∧
        f.frame = core.frame ∧ ∃ r, core.replicated[slot]? = some r ∧ f.archetype = r.archetype := by
  intro p hp
  cases m with
  | keep hk => exact .inl (hk.pending ▸ hp)
  | clear => simp at hp
  | decide d =>
    unfold decidedStateFor at hp
    split at hp <;> exact .inl hp
  | allocate _ => exact .inl hp
  | acknowledge _ => exact .inl (List.mem_of_mem_filter hp)
  | send _ hsent =>
    have hp := List.mem_of_mem_drop hp
    rcases List.mem_append.mp hp with hp | hp
    · left
      unfold droppedState at hp
      split at hp <;> exact hp
    · obtain rfl := List.mem_singleton.mp hp
      refine .inr ⟨rfl, fun f hf ha => ?_⟩
      obtain ⟨h1, h2, -, -, h3⟩ := hsent.ofSlot f hf ha
      exact ⟨h1, h2, h3⟩

theorem StateMove.baseline {strict : Prop} {core : ServerCore} {client : ServerClientReplicator} {slot : Nat}
    {s s' : ClientEntityState} (m : StateMove strict core client slot s s') {q : Nat} (hq : s'.baseline = some q) :
    s.baseline = some q ∨ ∃ p ∈ s.pending, p.quantizedFrame = q := by
  cases m with
  | keep hk => exact .inl (hk.baseline ▸ hq)
  | clear => simp at hq
  | decide d =>
    unfold decidedStateFor at hq
    split at hq
    · simp at hq
    · exact .inl hq
  | allocate _ => exact .inl hq
  | acknowledge hf =>
    simp only [acknowledgedState, acknowledgeCues] at hq
    split at hq
    · exact .inr ⟨_, hf, Option.some.inj hq⟩
    · exact .inl hq
  | send _ _ =>
    left
    simp only [sentState, droppedState] at hq
    split at hq
    · simp at hq
    · exact hq

theorem LocalMove.held {strict : Prop} {core core' : ServerCore} {client client' : ServerClientReplicator}
    {others : Nat → Nat} (m : LocalMove strict core client core' client')
    (href : RefInv core fun i => others i + client.holds i) (h : HeldInv core client) : HeldInv core' client' := by
  have href' := m.ref href
  have he := m.evolves href
  have hslot : ∀ (slot : Nat) (r : ReplicatedSlot), core.replicated[slot]? = some r →
      ∃ r', core'.replicated[slot]? = some r' ∧ r'.archetype = r.archetype := by
    intro slot r hr
    obtain ⟨r', hr', -, ha, -⟩ := m.sameSlots.slot hr
    exact ⟨r', hr', ha⟩
  refine ⟨?_, ?_⟩
  · intro slot s' hs' p hp
    have halive := href'.state_alive hs' (holds_of_pending hp)
    rcases m.states slot s' hs' with ⟨s, hs, hm⟩ | ⟨-, rfl⟩
    · rcases hm.pending p hp with hp | ⟨hframe, hsent⟩
      · obtain ⟨f, hf, hpf⟩ := h.pending slot s hs p hp
        obtain ⟨f', hf', hc⟩ := hf.evolve he (hslot slot) halive
        exact ⟨f', hf', hc.frame.trans hpf⟩
      · obtain ⟨f', hf', ha'⟩ := halive
        obtain ⟨hfs, hff, hfa⟩ := hsent f' hf' ha'
        exact ⟨f', ⟨hf', ha', hfs, hfa⟩, hff.trans hframe.symm⟩
    · simp at hp
  · intro slot s' q hs' hb
    have halive := href'.state_alive hs' (holds_of_baseline hb)
    rcases m.states slot s' hs' with ⟨s, hs, hm⟩ | ⟨-, rfl⟩
    · rcases hm.baseline hb with hb | ⟨p, hp, rfl⟩
      · obtain ⟨f, hf⟩ := h.baseline slot s q hs hb
        obtain ⟨f', hf', -⟩ := hf.evolve he (hslot slot) halive
        exact ⟨f', hf'⟩
      · obtain ⟨f, hf, -⟩ := h.pending slot s hs p hp
        obtain ⟨f', hf', -⟩ := hf.evolve he (hslot slot) halive
        exact ⟨f', hf'⟩
    · simp at hb

end AshiatoSync
