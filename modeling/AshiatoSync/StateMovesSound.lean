import AshiatoSync.RefMovesSound

/-!
# What a move does to an entity state

Every move leaves each entity state as it was, or changes it in one of six ways.
The invariants about baselines, pending frames and network ids are proved from
these.
-/

namespace AshiatoSync

open ServerClientReplicator

def droppedState (fullState : Bool) (state : ClientEntityState) : ClientEntityState :=
  if fullState && state.baseline.isSome then
    { state with baseline := none, baselineEpoch := state.baselineEpoch + 1 }
  else state

def sentState (fullState : Bool) (q : Nat) (frame : SyncFrame) (state : ClientEntityState) : ClientEntityState :=
  { droppedState fullState state with
    referencePriorityBoostPending := false
    pending := (SendLoop.pushPending (droppedState fullState state) q frame).1 }

def decidedStateFor (decision : EntityReplicationDecision) (state : ClientEntityState) : ClientEntityState :=
  if decision.componentMask &&& ~~~state.componentMask ≠ 0 then
    { decidedState decision state with baseline := none, baselineEpoch := state.baselineEpoch + 1 }
  else decidedState decision state

structure SameReplication (s s' : ClientEntityState) : Prop where
  baseline : s'.baseline = s.baseline
  baselineEpoch : s'.baselineEpoch = s.baselineEpoch
  networkId : s'.networkId = s.networkId
  networkVersion : s'.networkVersion = s.networkVersion
  componentMask : s'.componentMask = s.componentMask
  hasNetworkId : s'.hasNetworkId = s.hasNetworkId
  pending : s'.pending = s.pending

theorem SameReplication.refl (s : ClientEntityState) : SameReplication s s := ⟨rfl, rfl, rfl, rfl, rfl, rfl, rfl⟩

structure SentAs (strict : Prop) (core : ServerCore) (client : ServerClientReplicator) (slot : Nat)
    (s : ClientEntityState) (q : Nat) (w : WrittenRecord) (archetype : SyncArchetypeId) (data : QuantizedFrameData)
    (mask : Mask) (record : UpdateRecord) : Prop where
  written : w ∈ client.trace.written
  frame : w.frame = core.frame
  networkId : w.networkId = s.networkId
  networkVersion : w.networkVersion = s.networkVersion
  content : w.content = .update slot q archetype data mask record s.pendingCues
  mask : strict → mask = s.componentMask
  ofSlot : ∀ f, core.quantizedFrames[q]? = some f → f.active = true → f.slot = slot ∧ f.frame = core.frame ∧
    f.archetype = archetype ∧ f.data = data ∧ ∃ r, core.replicated[slot]? = some r ∧ f.archetype = r.archetype

inductive StateMove (strict : Prop) (core : ServerCore) (client : ServerClientReplicator) (slot : Nat)
    (s : ClientEntityState) : ClientEntityState → Prop where
  | keep {s' : ClientEntityState} : SameReplication s s' → StateMove strict core client slot s s'
  | clear : StateMove strict core client slot s {}
  | decide (decision : EntityReplicationDecision) : StateMove strict core client slot s (decidedStateFor decision s)
  | allocate {networkId version : Nat} : s.hasNetworkId = false →
      StateMove strict core client slot s { s with networkId, networkVersion := version, hasNetworkId := true }
  | acknowledge {found : PendingQuantizedFrame} : found ∈ s.pending → StateMove strict core client slot s
      (acknowledgedState (found.baselineEpochWhenSent == s.baselineEpoch) found.quantizedFrame found.frame s)
  | send {fullState : Bool} {q : Nat} {w : WrittenRecord} {archetype : SyncArchetypeId} {data : QuantizedFrameData}
      {mask : Mask} {record : UpdateRecord} : s.hasNetworkId = true →
      SentAs strict core client slot s q w archetype data mask record →
      StateMove strict core client slot s (sentState fullState q core.frame s)

def StatesFrom (strict : Prop) (core : ServerCore) (client client' : ServerClientReplicator) : Prop :=
  ∀ (slot : Nat) (s' : ClientEntityState), client'.states[slot]? = some s' →
    (∃ s, client.states[slot]? = some s ∧ StateMove strict core client' slot s s') ∨
    client.states[slot]? = none ∧ s' = {}

section

variable {strict : Prop} {core : ServerCore}

theorem statesFrom_of_eq {client client' : ServerClientReplicator} (h : client'.states = client.states) :
    StatesFrom strict core client client' := by
  intro slot s' hs'
  rw [h] at hs'
  exact .inl ⟨s', hs', .keep (.refl s')⟩

theorem modifyState_get {client : ServerClientReplicator} {slot i : Nat} {f : ClientEntityState → ClientEntityState}
    {s' : ClientEntityState} (h : (client.modifyState slot f).states[i]? = some s') :
    ∃ s, client.states[i]? = some s ∧ (s' = s ∨ i = slot ∧ s' = f s) := by
  simp only [modifyState, List.getElem?_modify] at h
  cases hs : client.states[i]? with
  | none => simp [hs] at h
  | some s =>
    refine ⟨s, rfl, ?_⟩
    by_cases hi : slot = i
    · simp only [hs, hi, if_true, Option.map_eq_map, Option.map_some, Option.some.injEq] at h
      exact .inr ⟨hi.symm, h.symm⟩
    · simp only [hs, hi, if_false, Option.map_eq_map, Option.map_some, Option.some.injEq] at h
      exact .inl h.symm

theorem statesFrom_modify {client client' : ServerClientReplicator} {slot : Nat}
    {f : ClientEntityState → ClientEntityState} (hst : client'.states = (client.modifyState slot f).states)
    (h : ∀ s, client.states[slot]? = some s → StateMove strict core client' slot s (f s)) :
    StatesFrom strict core client client' := by
  intro i s' hs'
  rw [hst] at hs'
  obtain ⟨s, hs, rfl | ⟨rfl, rfl⟩⟩ := modifyState_get hs'
  · exact .inl ⟨s', hs, .keep (.refl s')⟩
  · exact .inl ⟨s, hs, h s hs⟩

theorem ensureCapacity_get {client : ServerClientReplicator} {n slot : Nat} {s' : ClientEntityState}
    (h : (client.ensureCapacity n).states[slot]? = some s') :
    client.states[slot]? = some s' ∨ client.states[slot]? = none ∧ s' = {} := by
  simp only [ensureCapacity, List.getElem?_append] at h
  split at h
  · exact .inl h
  · rename_i hlt
    refine .inr ⟨List.getElem?_eq_none (by omega), ?_⟩
    exact (List.mem_replicate.mp (List.mem_of_getElem? h)).2

theorem statesFrom_capacity {client client' : ServerClientReplicator} {n : Nat}
    (h : client'.states = (client.ensureCapacity n).states) : StatesFrom strict core client client' := by
  intro slot s' hs'
  rw [h] at hs'
  rcases ensureCapacity_get hs' with hs | hs
  · exact .inl ⟨s', hs, .keep (.refl s')⟩
  · exact .inr hs

end

theorem markDirty_states (core : ServerCore) (client : ServerClientReplicator) (slot : Nat) (frame : SyncFrame) :
    (client.markDirty core slot frame).states = client.states ∨
      (client.markDirty core slot frame).states = (client.ensureCapacity core.replicated.length).states := by
  unfold markDirty
  split
  · exact .inl rfl
  · exact .inr rfl

theorem clearState_states (core : ServerCore) (client : ServerClientReplicator) (slot : Nat) :
    (client.clearState core slot).2.states = (client.modifyState slot fun _ => {}).states := by
  unfold clearState
  split
  · rename_i h
    simp only [modifyState]
    apply List.ext_getElem?
    intro i
    rw [List.getElem?_modify]
    by_cases hi : slot = i
    · subst hi; simp [h]
    · simp [hi]
  · rfl

theorem enqueueDestroy_states (core : ServerCore) (client : ServerClientReplicator) (slot : Nat) (entity : Entity)
    (frame : SyncFrame) : (client.enqueueDestroy core slot entity frame).2.states =
      (client.modifyState slot fun _ => {}).states := by
  unfold enqueueDestroy
  simp only
  split
  · rw [states_enqueueDestroyState, states_markPendingDestroy]
    exact clearState_states core client slot
  · rw [states_markPendingDestroy]
    exact clearState_states core client slot

theorem storeDecision_state (core : ServerCore) {client : ServerClientReplicator} {slot : Nat}
    (decision : EntityReplicationDecision) {s : ClientEntityState} (hs : client.states[slot]? = some s) :
    (client.storeDecision core slot decision).2.states =
      (client.modifyState slot fun _ => decidedStateFor decision s).states := by
  have hset : ∀ (l : List ClientEntityState) (f : ClientEntityState → ClientEntityState), l[slot]? = some s →
      l.modify slot f = l.modify slot fun _ => f s := by
    intro l f hl
    apply List.ext_getElem?
    intro i
    simp only [List.getElem?_modify]
    by_cases hi : slot = i
    · subst hi; simp [hl]
    · simp [hi]
  unfold storeDecision
  simp only [hs]
  unfold decidedStateFor
  split
  · unfold invalidateEntityBaseline
    have : ((client.modifyEntry slot (decidedEntry decision)).modifyState slot (decidedState decision)).states[slot]? =
        some (decidedState decision s) := by simp [modifyState, modifyEntry, hs]
    simp only [this]
    simp only [modifyState, modifyEntry, List.modify_modify_eq, Function.comp_def]
    exact hset client.states _ hs
  · exact hset client.states _ hs

/-- `acknowledgeEntity` either finds nothing to do or settles one pending frame. -/
theorem acknowledgeEntity_spec (core : ServerCore) (client : ServerClientReplicator) (slot : Nat) (frame : SyncFrame) :
    (client.acknowledgeEntity core slot frame).1 = core ∧ (client.acknowledgeEntity core slot frame).2.1 = client ∨
    ∃ s found eligible, client.states[slot]? = some s ∧ found ∈ s.pending ∧ found.frame = frame ∧
      eligible = (found.baselineEpochWhenSent == s.baselineEpoch) ∧
      (client.acknowledgeEntity core slot frame).1 =
        (s.pending.filter fun p => decide (p.frame ≤ frame)).foldl
          (fun core p => core.releaseQuantizedFrame p.quantizedFrame)
          (if eligible then adoptBaseline core s.baseline found.quantizedFrame else core) ∧
      (client.acknowledgeEntity core slot frame).2.1 =
        ((if eligible then client.modifyEntry slot (settleEntry frame) else client).modifyState slot
          (acknowledgedState eligible found.quantizedFrame frame)).logCall
            (.acknowledgeEntity slot frame eligible s) := by
  unfold acknowledgeEntity
  split
  · exact .inl ⟨rfl, rfl⟩
  rename_i s hs
  split
  · exact .inl ⟨rfl, rfl⟩
  rename_i found hfound
  split
  · exact .inl ⟨rfl, rfl⟩
  exact .inr ⟨s, found, _, hs, List.mem_of_find?_eq_some hfound,
    by simpa using List.find?_some hfound, rfl, rfl, rfl⟩

theorem queuePending_states (core : ServerCore) {client : ServerClientReplicator} {slot : Nat} (q : Nat)
    {s : ClientEntityState} (hs : client.states[slot]? = some s) :
    (SendLoop.queuePending core client slot q).2.states[slot]? =
      some { s with referencePriorityBoostPending := false, pending := (SendLoop.pushPending s q core.frame).1 } ∧
    ∀ i, i ≠ slot → (SendLoop.queuePending core client slot q).2.states[i]? = client.states[i]? := by
  unfold SendLoop.queuePending
  simp only [hs]
  constructor
  · simp [modifyState, logCall, hs]
  · intro i hi
    simp [modifyState, logCall, Ne.symm hi]

theorem dropBaseline_other {core : ServerCore} {client : ServerClientReplicator} {slot i : Nat} {fullState : Bool}
    (hi : i ≠ slot) : (SendLoop.dropBaseline core client slot fullState).2.states[i]? = client.states[i]? := by
  unfold SendLoop.dropBaseline
  split
  · unfold invalidateEntityBaseline
    split
    · rfl
    · simp [modifyState, Ne.symm hi]
  · rfl

theorem dropBaseline_frame {core : ServerCore} {client : ServerClientReplicator} {slot : Nat} {fullState : Bool} :
    SameSlots core (SendLoop.dropBaseline core client slot fullState).1 := by
  unfold SendLoop.dropBaseline
  split
  · unfold invalidateEntityBaseline
    split
    · exact .refl _
    · exact releaseBaseline_sameSlots _ _
  · exact .refl _

theorem recordSent_states (core : ServerCore) (client : ServerClientReplicator) {slot : Nat}
    (serialized : SerializedEntity) {s : ClientEntityState} (hs : client.states[slot]? = some s) :
    (SendLoop.recordSent core client slot serialized).2.states[slot]? =
      some (sentState serialized.fullState serialized.quantizedFrame core.frame s) ∧
    ∀ i, i ≠ slot → (SendLoop.recordSent core client slot serialized).2.states[i]? = client.states[i]? := by
  rw [recordSent_eq]
  have hd := dropBaseline_state core (client.modifyEntry slot (SendLoop.sentEntry core.frame)) slot
    serialized.fullState hs
  obtain ⟨hq, ho⟩ := queuePending_states (SendLoop.dropBaseline core
    (client.modifyEntry slot (SendLoop.sentEntry core.frame)) slot serialized.fullState).1 serialized.quantizedFrame hd
  refine ⟨?_, fun i hi => (ho i hi).trans (dropBaseline_other hi)⟩
  rw [hq]
  simp only [dropBaseline_frame.frame]
  rfl

theorem allocate_states {client client' : ServerClientReplicator} {slot networkId : Nat} {s : ClientEntityState}
    (hs : client.states[slot]? = some s) (h : client.allocateNetworkIdFor slot = .ok (client', networkId)) :
    ∃ version ids, takeNetworkId client.networkIds slot = .ok (ids, networkId) ∧
      version = (match ids.entries[networkId]? with
        | some entry => entry.version
        | none => 0) ∧
      client' = ({ client with networkIds := ids }).modifyState slot fun state =>
        { state with networkId, networkVersion := version, hasNetworkId := true } := by
  unfold allocateNetworkIdFor at h
  simp only [hs] at h
  obtain ⟨⟨ids, id⟩, h₁, h₂⟩ := Monadic.Except_map_eq_ok.mp h
  obtain ⟨rfl, rfl⟩ := Prod.mk.inj h₂
  exact ⟨_, ids, h₁, rfl, rfl⟩

/-! ## What sending does to the shared frames -/

theorem obtained_sameSlots {core core' : ServerCore} {slot q : Nat} (h : Obtained core slot core' q) :
    SameSlots core core' := by
  cases h with
  | reuse _ _ _ _ _ _ => exact .refl _
  | create _ _ _ hc => exact (create_spec hc).same

theorem queuePending_sameSlots (core : ServerCore) (client : ServerClientReplicator) (slot q : Nat) :
    SameSlots core (SendLoop.queuePending core client slot q).1 := by
  unfold SendLoop.queuePending
  split
  · exact .refl _
  · exact releases_sameSlots _ _

theorem recordSent_sameSlots (core : ServerCore) (client : ServerClientReplicator) (slot : Nat)
    (serialized : SerializedEntity) : SameSlots core (SendLoop.recordSent core client slot serialized).1 := by
  rw [recordSent_eq]
  exact dropBaseline_frame.trans (queuePending_sameSlots _ _ _ _)

theorem recordSent_shrinks (core : ServerCore) (client : ServerClientReplicator) (slot : Nat)
    (serialized : SerializedEntity) : Shrinks core (SendLoop.recordSent core client slot serialized).1 := by
  rw [recordSent_eq]
  refine Shrinks.trans (b := (SendLoop.dropBaseline core (client.modifyEntry slot (SendLoop.sentEntry core.frame)) slot
    serialized.fullState).1) ?_ ?_
  · unfold SendLoop.dropBaseline
    split
    · unfold invalidateEntityBaseline
      split
      · exact .refl _
      · exact releaseBaseline_shrinks _ _
    · exact .refl _
  · unfold SendLoop.queuePending
    split
    · exact .refl _
    · exact releases_shrinks _ _

theorem Obtained.ofSlot {core core₁ core' : ServerCore} {slot q : Nat} (h : Obtained core slot core₁ q)
    (hsame : SameSlots core₁ core') (hshr : Shrinks core₁ core') {quantized f' : QuantizedFrame}
    (hq : core₁.quantizedFrames[q]? = some quantized) (hf' : core'.quantizedFrames[q]? = some f')
    (ha' : f'.active = true) : f'.slot = slot ∧ f'.frame = core'.frame ∧ f'.archetype = quantized.archetype ∧
      f'.data = quantized.data ∧ ∃ r, core'.replicated[slot]? = some r ∧ f'.archetype = r.archetype := by
  obtain ⟨f, hf, ha, hc⟩ := hshr q f' hf' ha'
  rw [hq] at hf
  obtain rfl := Option.some.inj hf
  have hall := (obtained_sameSlots h).trans hsame
  cases h with
  | reuse hr hf _ hslot hframe harch =>
    rw [hq] at hf
    obtain rfl := Option.some.inj hf
    obtain ⟨r', hr', -, har, -⟩ := hall.slot hr
    exact ⟨hc.slot.trans hslot, by rw [hc.frame, hframe, hall.frame], hc.archetype, hc.data, r', hr',
      by rw [hc.archetype, harch, har]⟩
  | create hr _ _ hcr =>
    rw [(create_spec hcr).new (List.getElem?_eq_some_iff.mp hq).1] at hq
    obtain rfl := Option.some.inj hq
    obtain ⟨r', hr', -, har, -⟩ := hall.slot hr
    exact ⟨hc.slot, by rw [hc.frame, hall.frame], hc.archetype, hc.data, r', hr', by rw [hc.archetype, har]⟩

/-- A send changes the states, the dirty queue and the trace's calls. -/
theorem recordSent_rest (core : ServerCore) (client : ServerClientReplicator) (slot : Nat)
    (serialized : SerializedEntity) :
    ∃ calls, (SendLoop.recordSent core client slot serialized).2 = { client with
      states := (SendLoop.recordSent core client slot serialized).2.states
      dirtyQueue := (SendLoop.recordSent core client slot serialized).2.dirtyQueue
      trace := { client.trace with calls } } := by
  rw [recordSent_eq]
  have hd : ∀ c : ServerClientReplicator, (SendLoop.dropBaseline core c slot serialized.fullState).2 = { c with
      states := (SendLoop.dropBaseline core c slot serialized.fullState).2.states } := by
    intro c
    unfold SendLoop.dropBaseline
    split
    · unfold invalidateEntityBaseline
      split <;> rfl
    · rfl
  have hq : ∀ (core : ServerCore) (c : ServerClientReplicator) (q : Nat), ∃ calls,
      (SendLoop.queuePending core c slot q).2 = { c with
        states := (SendLoop.queuePending core c slot q).2.states, trace := { c.trace with calls } } := by
    intro core c q
    unfold SendLoop.queuePending
    split
    · exact ⟨c.trace.calls, rfl⟩
    · exact ⟨_, rfl⟩
  obtain ⟨calls, hcalls⟩ := hq
    (SendLoop.dropBaseline core (client.modifyEntry slot (SendLoop.sentEntry core.frame)) slot serialized.fullState).1
    (SendLoop.dropBaseline core (client.modifyEntry slot (SendLoop.sentEntry core.frame)) slot serialized.fullState).2
    serialized.quantizedFrame
  refine ⟨calls, ?_⟩
  rw [hcalls]
  have := hd (client.modifyEntry slot (SendLoop.sentEntry core.frame))
  rw [this]
  rfl

/-! ## The six ways -/

theorem LocalMove.states {strict : Prop} {core core' : ServerCore} {client client' : ServerClientReplicator}
    (m : LocalMove strict core client core' client') : StatesFrom strict core' client client' := by
  cases m with
  | ensureCapacity => exact statesFrom_capacity rfl
  | markDirty _ =>
    rcases markDirty_states core client _ core.frame with h | h
    · exact statesFrom_of_eq h
    · exact statesFrom_capacity h
  | clearUnsent _ => exact statesFrom_modify (clearState_states ..) fun _ _ => .clear
  | enqueueDestroy _ _ => exact statesFrom_modify (enqueueDestroy_states ..) fun _ _ => .clear
  | clearDirty _ => exact statesFrom_of_eq rfl
  | beginSend _ => exact statesFrom_of_eq rfl
  | expireCues =>
    intro slot s' hs'
    simp only [expirePendingCues, logCall, List.getElem?_map, Option.map_eq_some_iff] at hs'
    obtain ⟨s, hs, rfl⟩ := hs'
    exact .inl ⟨s, hs, .keep ⟨rfl, rfl, rfl, rfl, rfl, rfl, rfl⟩⟩
  | @storeDecision slot decision _ =>
    cases hs : client.states[slot]? with
    | none =>
      apply statesFrom_of_eq
      unfold ServerClientReplicator.storeDecision
      simp only [hs]
      rfl
    | some s =>
      refine statesFrom_modify (storeDecision_state _ _ hs) fun s₁ hs₁ => ?_
      obtain rfl : s = s₁ := by rw [hs] at hs₁; exact Option.some.inj hs₁
      exact .decide decision
  | accumulate _ => exact statesFrom_of_eq rfl
  | boost _ => exact statesFrom_modify rfl fun _ _ => .keep ⟨rfl, rfl, rfl, rfl, rfl, rfl, rfl⟩
  | allocate _ hs hid hal =>
    obtain ⟨version, ids, -, -, rfl⟩ := allocate_states hs hal
    refine statesFrom_modify rfl fun s₁ hs₁ => ?_
    rw [hs] at hs₁
    obtain rfl := Option.some.inj hs₁
    exact .allocate hid
  | sendDestroy _ => exact statesFrom_of_eq rfl
  | refuse _ _ => exact statesFrom_of_eq rfl
  | @accept core₁ slot q r state quantized mask serialized w _ _ ho hs hid hq hw hwdef hstrict =>
    obtain ⟨hsent, hother⟩ := recordSent_states (core₁.retainQuantizedFrame q) (client.logWritten w) serialized hs
    have hsame := recordSent_sameSlots (core₁.retainQuantizedFrame q) (client.logWritten w) slot serialized
    have hall := (retain_sameSlots core₁ q).trans hsame
    obtain ⟨calls, hrest⟩ := recordSent_rest (core₁.retainQuantizedFrame q) (client.logWritten w) slot serialized
    have hsentAs : SentAs strict
        (SendLoop.recordSent (core₁.retainQuantizedFrame q) (client.logWritten w) slot serialized).1
        (SendLoop.recordSent (core₁.retainQuantizedFrame q) (client.logWritten w) slot serialized).2 slot state
        q w quantized.archetype quantized.data mask serialized.record := by
      refine ⟨?_, ?_, ?_, ?_, ?_, fun hs => (hstrict hs).2.2.1, fun f' => ?_⟩
      · rw [hrest]
        exact List.mem_cons_self
      · rw [hall.frame, (obtained_sameSlots ho).frame, hwdef]
      · rw [hwdef]
      · rw [hwdef]
      · rw [hwdef]
      · exact ho.ofSlot hall
          ((retain_shrinks core₁ q).trans (recordSent_shrinks _ (client.logWritten w) slot serialized)) hq
    intro i s' hs'
    by_cases hi : i = slot
    · subst hi
      rw [hsent] at hs'
      obtain rfl := Option.some.inj hs'
      rw [← hsame.frame, hw.frame]
      exact .inl ⟨state, hs, .send hid hsentAs⟩
    · rw [hother i hi] at hs'
      exact .inl ⟨s', hs', .keep (.refl s')⟩
  | sendPacket _ =>
    apply statesFrom_of_eq
    rw [(sendPacket_spec ..).same]
  | cleanupQueue => exact statesFrom_of_eq rfl
  | @acknowledge packet record _ _ =>
    unfold acknowledgeRecord
    split
    · exact statesFrom_of_eq (states_retireDestroy ..)
    · split
      · exact statesFrom_of_eq rfl
      · rename_i slot _
        rcases acknowledgeEntity_spec core client slot record.frame with
          ⟨-, h⟩ | ⟨s, found, eligible, hs, hmem, hframe, rfl, -, h⟩
        · exact statesFrom_of_eq (by rw [h])
        · refine statesFrom_modify (f := acknowledgedState
            (found.baselineEpochWhenSent == s.baselineEpoch) found.quantizedFrame record.frame)
            (by rw [h]; split <;> rfl) fun s₁ hs₁ => ?_
          rw [hs] at hs₁
          obtain rfl := Option.some.inj hs₁
          exact hframe ▸ .acknowledge hmem
  | forgetPackets _ _ => exact statesFrom_of_eq rfl
  | pushCue _ _ _ => exact statesFrom_modify rfl fun _ _ => .keep ⟨rfl, rfl, rfl, rfl, rfl, rfl, rfl⟩

end AshiatoSync
