import AshiatoSync.Runs

/-!
# Where baselines come from

In a run in order, every pending frame and every baseline of an entity state is
what some record was written from, for the same slot and network id; a frame that
is or may become the baseline was written with a mask that covers the current one.
-/

namespace AshiatoSync

open ServerClientReplicator

/-! ## What a move writes -/

theorem storeDecision_trace (core : ServerCore) (client : ServerClientReplicator) (slot : Nat)
    (decision : EntityReplicationDecision) : (client.storeDecision core slot decision).2.trace = client.trace := by
  unfold storeDecision
  split
  · rfl
  · simp only
    split
    · unfold invalidateEntityBaseline
      split <;> rfl
    · rfl

theorem acknowledgeDestroy_trace (client : ServerClientReplicator) (entity : Entity) (frame : SyncFrame) :
    (client.acknowledgeDestroy entity frame).1.trace = client.trace := by
  unfold acknowledgeDestroy
  split
  · rfl
  · simp only [freeNetworkId]
    split
    · rfl
    · split <;> rfl

theorem LocalMove.written {strict : Prop} {core core' : ServerCore} {client client' : ServerClientReplicator}
    (m : LocalMove strict core client core' client') : client'.trace.written = client.trace.written ∨
      ∃ w, client'.trace.written = w :: client.trace.written ∧ w.frame = core.frame := by
  cases m with
  | ensureCapacity | clearDirty | beginSend | expireCues | accumulate | boost | refuse | cleanupQueue
  | forgetPackets | pushCue => exact .inl rfl
  | markDirty _ =>
    left
    unfold ServerClientReplicator.markDirty
    split <;> rfl
  | clearUnsent _ =>
    left
    unfold clearState
    split <;> rfl
  | enqueueDestroy _ _ => exact .inl (enqueueDestroy_elsewhere ..).written
  | storeDecision _ _ => exact .inl (by rw [storeDecision_trace])
  | allocate _ hs _ hal =>
    obtain ⟨version, ids, -, -, rfl⟩ := allocate_states hs hal
    exact .inl rfl
  | sendDestroy _ => exact .inr ⟨_, rfl, rfl⟩
  | @accept core₁ slot q r state quantized mask serialized w _ _ _ _ _ _ _ hw _ =>
    right
    obtain ⟨calls, hrest⟩ := recordSent_rest (core₁.retainQuantizedFrame q) (client.logWritten w) slot serialized
    exact ⟨w, by rw [hrest]; rfl, by rw [hw]⟩
  | sendPacket _ =>
    left
    rw [(sendPacket_spec ..).same]
  | @acknowledge packet record _ _ =>
    left
    unfold acknowledgeRecord
    split
    · obtain ⟨calls, hlog⟩ := logRetired_eq client packet record
      simp only [acknowledgeDestroy_trace, hlog]
    · split
      · rfl
      · rename_i slot _
        rcases acknowledgeEntity_spec core client slot record.frame with
          ⟨-, h⟩ | ⟨s, found, eligible, -, -, -, -, -, h⟩
        · rw [h]
        · rw [h]
          split <;> rfl

theorem LocalMove.written_mono {strict : Prop} {core core' : ServerCore} {client client' : ServerClientReplicator}
    (m : LocalMove strict core client core' client') {w : WrittenRecord} (hw : w ∈ client.trace.written) :
    w ∈ client'.trace.written := by
  rcases m.written with h | ⟨v, h, -⟩
  · rw [h]
    exact hw
  · rw [h]
    exact List.mem_cons_of_mem _ hw

/-! ## The invariant -/

def MaskLe (m m' : Mask) : Prop := ∀ i, m.getLsbD i = true → m'.getLsbD i = true

theorem MaskLe.refl (m : Mask) : MaskLe m m := fun _ h => h

theorem MaskLe.trans {a b c : Mask} (h : MaskLe a b) (h' : MaskLe b c) : MaskLe a c := fun i hi => h' i (h i hi)

theorem maskLe_of_and_not {m m' : Mask} (h : m &&& ~~~m' = 0) : MaskLe m m' := by
  intro i hi
  have hlt : i < 64 := by
    by_contra hge
    simp [BitVec.getLsbD_of_ge m i (by omega)] at hi
  have := congrArg (·.getLsbD i) h
  simp only [BitVec.getLsbD_and, BitVec.getLsbD_not, hlt, decide_true, Bool.true_and, hi, BitVec.ofNat_eq_ofNat,
    BitVec.getLsbD_zero, Bool.not_eq_eq_eq_not, Bool.not_false] at this
  exact this

structure RecordOf (client : ServerClientReplicator) (slot : Nat) (st : ClientEntityState) (f : QuantizedFrame)
    (mask : Mask) (w : WrittenRecord) : Prop where
  written : w ∈ client.trace.written
  frame : w.frame = f.frame
  networkId : w.networkId = st.networkId
  networkVersion : w.networkVersion = st.networkVersion
  content : ∃ q record cues, w.content = .update slot q f.archetype f.data mask record cues

theorem RecordOf.mono {client client' : ServerClientReplicator} {slot : Nat} {st st' : ClientEntityState}
    {f f' : QuantizedFrame} {mask : Mask} {w : WrittenRecord} (h : RecordOf client slot st f mask w)
    (hw : w ∈ client.trace.written → w ∈ client'.trace.written) (hid : st'.networkId = st.networkId)
    (hv : st'.networkVersion = st.networkVersion) (hc : SameContent f f') : RecordOf client' slot st' f' mask w := by
  obtain ⟨q, record, cues, hcon⟩ := h.content
  exact ⟨hw h.written, h.frame.trans hc.frame.symm, h.networkId.trans hid.symm, h.networkVersion.trans hv.symm,
    q, record, cues, by rw [hc.archetype, hc.data]; exact hcon⟩

structure Sourced (core : ServerCore) (client : ServerClientReplicator) (slot : Nat) (st : ClientEntityState) (q : Nat)
    (f : QuantizedFrame) (mask : Mask) (w : WrittenRecord) : Prop where
  get : core.quantizedFrames[q]? = some f
  active : f.active = true
  record : RecordOf client slot st f mask w

structure BaselineInv (core : ServerCore) (client : ServerClientReplicator) : Prop where
  pending : ∀ (slot : Nat) (st : ClientEntityState), client.states[slot]? = some st → ∀ p ∈ st.pending,
    st.hasNetworkId = true ∧ p.baselineEpochWhenSent ≤ st.baselineEpoch ∧
      ∃ f mask w, Sourced core client slot st p.quantizedFrame f mask w ∧ f.frame = p.frame ∧
        (p.baselineEpochWhenSent = st.baselineEpoch → MaskLe st.componentMask mask)
  baseline : ∀ (slot : Nat) (st : ClientEntityState) (q : Nat), client.states[slot]? = some st →
    st.baseline = some q → st.hasNetworkId = true ∧
      ∃ f mask w, Sourced core client slot st q f mask w ∧ MaskLe st.componentMask mask

theorem Sourced.move {core core' : ServerCore} {client : ServerClientReplicator} {slot q : Nat}
    {st : ClientEntityState} {f : QuantizedFrame} {mask : Mask} {w : WrittenRecord}
    (h : Sourced core client slot st q f mask w) (client' : ServerClientReplicator) (st' : ClientEntityState)
    (he : Evolves core core')
    (hw : w ∈ client.trace.written → w ∈ client'.trace.written) (hid : st'.networkId = st.networkId)
    (hv : st'.networkVersion = st.networkVersion)
    (ha : ∃ f', core'.quantizedFrames[q]? = some f' ∧ f'.active = true) :
    ∃ f', Sourced core' client' slot st' q f' mask w ∧ SameContent f f' := by
  obtain ⟨f', hf', ha'⟩ := ha
  rcases he q f' hf' ha' with ⟨f₁, hf₁, -, hc⟩ | ⟨hidle, -⟩
  · rw [h.get] at hf₁
    obtain rfl := Option.some.inj hf₁
    exact ⟨f', ⟨hf', ha', h.record.mono hw hid hv hc⟩, hc⟩
  · simp [ServerCore.quantizedFrameActive, h.get, h.active] at hidle

/-- How a state keeps its ids and its pending list through a state move. -/
theorem StateMove.ids {strict : Prop} {core : ServerCore} {client : ServerClientReplicator} {slot : Nat}
    {s s' : ClientEntityState} (m : StateMove strict core client slot s s') (hid : s.hasNetworkId = true)
    (hne : s' ≠ {}) : s'.networkId = s.networkId ∧ s'.networkVersion = s.networkVersion ∧
    s'.hasNetworkId = true := by
  cases m with
  | keep hk => exact ⟨hk.networkId, hk.networkVersion, hk.hasNetworkId.trans hid⟩
  | clear => exact absurd rfl hne
  | decide d =>
    obtain ⟨h1, h2, h3⟩ := decidedStateFor_ids d s
    exact ⟨h1, h2, h3.trans hid⟩
  | allocate hno => simp [hid] at hno
  | acknowledge _ => exact ⟨rfl, rfl, hid⟩
  | send _ _ =>
    obtain ⟨h1, h2, h3⟩ := sentState_ids _ _ _ s
    exact ⟨h1, h2, h3.trans hid⟩

theorem StateMove.epoch {strict : Prop} {core : ServerCore} {client : ServerClientReplicator} {slot : Nat}
    {s s' : ClientEntityState} (m : StateMove strict core client slot s s') (hne : s' ≠ {}) :
    s.baselineEpoch ≤ s'.baselineEpoch ∧
      (s'.baselineEpoch = s.baselineEpoch → MaskLe s'.componentMask s.componentMask) := by
  cases m with
  | keep hk => exact ⟨Nat.le_of_eq hk.baselineEpoch.symm, fun _ => by rw [hk.componentMask]; exact .refl _⟩
  | clear => exact absurd rfl hne
  | decide d =>
    unfold decidedStateFor
    split
    · exact ⟨Nat.le_succ _, fun h => by simp at h⟩
    · rename_i hsub
      exact ⟨Nat.le_refl _, fun _ => maskLe_of_and_not (not_not.mp hsub)⟩
  | allocate _ => exact ⟨Nat.le_refl _, fun _ => .refl _⟩
  | acknowledge _ => exact ⟨Nat.le_refl _, fun _ => .refl _⟩
  | send _ _ =>
    simp only [sentState, droppedState]
    split
    · exact ⟨Nat.le_succ _, fun _ => .refl _⟩
    · exact ⟨Nat.le_refl _, fun _ => .refl _⟩

/-- The pending frames after a state move: the old ones, and the one just sent. -/
theorem StateMove.pending_cases {strict : Prop} {core : ServerCore} {client : ServerClientReplicator} {slot : Nat}
    {s s' : ClientEntityState} (m : StateMove strict core client slot s s') {p : PendingQuantizedFrame}
    (hp : p ∈ s'.pending) : p ∈ s.pending ∨
      ∃ w archetype data mask record, s.hasNetworkId = true ∧ p.frame = core.frame ∧
        p.baselineEpochWhenSent = s'.baselineEpoch ∧ s'.componentMask = s.componentMask ∧
        SentAs strict core client slot s p.quantizedFrame w archetype data mask record := by
  cases m with
  | keep hk => exact .inl (hk.pending ▸ hp)
  | clear => simp at hp
  | decide d =>
    unfold decidedStateFor at hp
    split at hp <;> exact .inl hp
  | allocate _ => exact .inl hp
  | acknowledge _ => exact .inl (List.mem_of_mem_filter hp)
  | @send fullState q w archetype data mask record hid hsent =>
    have hp := List.mem_of_mem_drop hp
    rcases List.mem_append.mp hp with hp | hp
    · left
      unfold droppedState at hp
      split at hp <;> exact hp
    · obtain rfl := List.mem_singleton.mp hp
      refine .inr ⟨w, archetype, data, mask, record, hid, rfl, rfl, ?_, hsent⟩
      simp only [sentState, droppedState]
      split <;> rfl

/-- The baseline after a state move: the old one within its mask, or an acknowledged frame of the current epoch. -/
theorem StateMove.baseline_cases {strict : Prop} {core : ServerCore} {client : ServerClientReplicator} {slot : Nat}
    {s s' : ClientEntityState} (m : StateMove strict core client slot s s') {q : Nat} (hq : s'.baseline = some q) :
    s.baseline = some q ∧ s'.baselineEpoch = s.baselineEpoch ∨ ∃ p ∈ s.pending, p.quantizedFrame = q ∧
      p.baselineEpochWhenSent = s.baselineEpoch ∧ s'.componentMask = s.componentMask := by
  cases m with
  | keep hk => exact .inl ⟨hk.baseline ▸ hq, hk.baselineEpoch⟩
  | clear => simp at hq
  | decide d =>
    unfold decidedStateFor at hq ⊢
    split at hq
    · simp at hq
    · rename_i hsub
      rw [if_neg hsub]
      exact .inl ⟨hq, rfl⟩
  | allocate _ => exact .inl ⟨hq, rfl⟩
  | @acknowledge found hf =>
    simp only [acknowledgedState, acknowledgeCues] at hq
    split at hq
    · rename_i he
      exact .inr ⟨found, hf, Option.some.inj hq, by simpa using he, rfl⟩
    · exact .inl ⟨hq, rfl⟩
  | send _ _ =>
    left
    simp only [sentState, droppedState] at hq ⊢
    split at hq
    · simp at hq
    · rename_i h
      rw [if_neg h]
      exact ⟨hq, rfl⟩

theorem BaselineInv.own {core core' : ServerCore} {client client' : ServerClientReplicator} {others : Nat → Nat}
    (hinv : ClientInv core client others) (m : LocalMove True core client core' client') (h : BaselineInv core client) :
    BaselineInv core' client' := by
  have href' := m.ref hinv.ref
  have he := m.evolves hinv.ref
  refine ⟨?_, ?_⟩
  · intro slot st' hst' p hp
    have halive := href'.state_alive hst' (holds_of_pending hp)
    have hne : st' ≠ {} := by
      rintro rfl
      simp at hp
    rcases m.states slot st' hst' with ⟨st, hst, hm⟩ | ⟨-, rfl⟩
    swap
    · simp at hp
    rcases hm.pending_cases hp with hp | ⟨w, archetype, data, mask, record, hid, hframe, hep, hmask, hsent⟩
    · obtain ⟨hid, hle, f, mask, w, hsrc, hpf, hcov⟩ := h.pending slot st hst p hp
      obtain ⟨h1, h2, h3⟩ := hm.ids hid hne
      obtain ⟨hep, hsub⟩ := hm.epoch hne
      obtain ⟨f', hsrc', hc⟩ := hsrc.move _ _ he m.written_mono h1 h2 halive
      refine ⟨h3, Nat.le_trans hle hep, f', mask, w, hsrc', hc.frame.trans hpf, fun heq => ?_⟩
      have : st'.baselineEpoch = st.baselineEpoch := by omega
      exact (hsub this).trans (hcov (by omega))
    · obtain ⟨f', hf', ha'⟩ := halive
      obtain ⟨-, hff, harch, hdata, -⟩ := hsent.ofSlot f' hf' ha'
      obtain ⟨h1, h2, h3⟩ := hm.ids hid hne
      have hrec : RecordOf client' slot st' f' mask w :=
        ⟨hsent.written, hsent.frame.trans hff.symm, hsent.networkId.trans h1.symm, hsent.networkVersion.trans h2.symm,
          p.quantizedFrame, record, st.pendingCues, by rw [harch, hdata]; exact hsent.content⟩
      refine ⟨h3, Nat.le_of_eq hep, f', mask, w, ⟨hf', ha', hrec⟩, hff.trans hframe.symm, fun _ => ?_⟩
      · rw [hmask, hsent.mask trivial]
        exact .refl _
  · intro slot st' q hst' hb
    have halive := href'.state_alive hst' (holds_of_baseline hb)
    have hne : st' ≠ {} := by
      rintro rfl
      simp at hb
    rcases m.states slot st' hst' with ⟨st, hst, hm⟩ | ⟨-, rfl⟩
    swap
    · simp at hb
    rcases hm.baseline_cases hb with ⟨hb, hep⟩ | ⟨p, hp, rfl, hep, hmask⟩
    · obtain ⟨hid, f, mask, w, hsrc, hcov⟩ := h.baseline slot st q hst hb
      obtain ⟨h1, h2, h3⟩ := hm.ids hid hne
      obtain ⟨f', hsrc', -⟩ := hsrc.move _ _ he m.written_mono h1 h2 halive
      exact ⟨h3, f', mask, w, hsrc', ((hm.epoch hne).2 hep).trans hcov⟩
    · obtain ⟨hid, -, f, mask, w, hsrc, -, hcov⟩ := h.pending slot st hst p hp
      obtain ⟨h1, h2, h3⟩ := hm.ids hid hne
      obtain ⟨f', hsrc', -⟩ := hsrc.move _ _ he m.written_mono h1 h2 halive
      exact ⟨h3, f', mask, w, hsrc', by rw [hmask]; exact hcov hep⟩

theorem baselineRule : ClientRule True BaselineInv where
  new _ _ _ := ⟨by simp, by simp⟩
  own hinv m h := h.own hinv m
  around := by
    intro core client core' others others' _ hinv' har h
    refine ⟨?_, ?_⟩
    · intro slot st hst p hp
      obtain ⟨hid, hle, f, mask, w, hsrc, hpf, hcov⟩ := h.pending slot st hst p hp
      obtain ⟨f', hsrc', hc⟩ := hsrc.move client st har.evolves (fun hw => hw) rfl rfl
        (hinv'.ref.state_alive hst (holds_of_pending hp))
      exact ⟨hid, hle, f', mask, w, hsrc', hc.frame.trans hpf, hcov⟩
    · intro slot st q hst hb
      obtain ⟨hid, f, mask, w, hsrc, hcov⟩ := h.baseline slot st q hst hb
      obtain ⟨f', hsrc', -⟩ := hsrc.move client st har.evolves (fun hw => hw) rfl rfl
        (hinv'.ref.state_alive hst (holds_of_baseline hb))
      exact ⟨hid, f', mask, w, hsrc', hcov⟩

end AshiatoSync
