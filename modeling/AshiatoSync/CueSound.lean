import AshiatoSync.DestroySound

/-!
# Cues and acknowledgements

An acknowledgement of frame `f` drops every pending cue of frame `f` or earlier.
The record of frame `f` carried them all, provided no cue was attached behind a
record already sent at its frame or later.
-/

namespace AshiatoSync

open ServerClientReplicator

/-! ## Calls -/

def WrittenRecord.cues (w : WrittenRecord) : List PendingCue :=
  match w.content with
  | .destroy => []
  | .update _ _ _ _ _ _ cues => cues

/-- A cue is attached ahead of every record of its entity that is still in flight. -/
def Call.AttachesAhead : Call → Prop
  | .attachCue _ cue pending => ∀ p ∈ pending, p.frame < cue.frame
  | _ => True

def Call.Attaches (slot : Nat) (cue : PendingCue) : Call → Prop
  | .attachCue slot' cue' _ => slot' = slot ∧ cue' = cue
  | _ => False

def Call.DropsCue (slot : Nat) (cue : PendingCue) : Call → Prop
  | .expireCues frame => frame > cue.expireFrame
  | .clearState slot' => slot' = slot
  | .acknowledgeEntity slot' frame _ st => slot' = slot ∧ cue.frame ≤ frame ∧ cue ∈ st.pendingCues
  | _ => False

/-- The calls that may drop a pending cue of a slot: it expires, its state is cleared, or a record that carried it is
acknowledged. -/
def Call.RightlyDrops (written : List WrittenRecord) (slot : Nat) (cue : PendingCue) : Call → Prop
  | .expireCues frame => frame > cue.expireFrame
  | .clearState slot' => slot' = slot
  | .acknowledgeEntity slot' frame _ st =>
    slot' = slot ∧ ∃ w ∈ written, w.slot? = some slot ∧ w.frame = frame ∧
      w.networkId = st.networkId ∧ w.networkVersion = st.networkVersion ∧ cue ∈ w.cues
  | _ => False

instance : DecidablePred Call.AttachesAhead
  | .attachCue _ cue pending => inferInstanceAs (Decidable (∀ p ∈ pending, p.frame < cue.frame))
  | .markDirty .. | .clearDirty .. | .clearState .. | .acknowledgeEntity .. | .expireCues .. | .enqueueDestroy ..
  | .retireDestroy .. | .pushPending .. => .isTrue trivial

instance (written : List WrittenRecord) (slot : Nat) (cue : PendingCue) :
    DecidablePred (Call.RightlyDrops written slot cue)
  | .expireCues frame => inferInstanceAs (Decidable (frame > cue.expireFrame))
  | .clearState slot' => inferInstanceAs (Decidable (slot' = slot))
  | .acknowledgeEntity slot' frame _ st => inferInstanceAs (Decidable (slot' = slot ∧ ∃ w ∈ written,
      w.slot? = some slot ∧ w.frame = frame ∧ w.networkId = st.networkId ∧
      w.networkVersion = st.networkVersion ∧
        cue ∈ w.cues))
  | .markDirty .. | .clearDirty .. | .attachCue .. | .enqueueDestroy .. | .retireDestroy .. | .pushPending .. =>
    .isFalse id

/-- A record sent for this slot and incarnation at `frame` that carried every pending cue of that frame or earlier. -/
structure Carried (records : List WrittenRecord) (i : Nat) (sent : SyncFrame) (st : ClientEntityState)
    (w : WrittenRecord) : Prop where
  written : w ∈ records
  slot : w.slot? = some i
  frame : w.frame = sent
  networkId : w.networkId = st.networkId
  networkVersion : w.networkVersion = st.networkVersion
  cues : ∀ cue ∈ st.pendingCues, cue.frame ≤ sent → cue ∈ w.cues

def Call.CarriesCues (written : List WrittenRecord) : Call → Prop
  | .acknowledgeEntity slot frame _ st => ∃ w, Carried written slot frame st w
  | _ => True

/-! ## The invariant -/

def CueLog (client : ServerClientReplicator) : Prop :=
  ∀ slot cue, EventLog.Since (Call.Attaches slot cue) (Call.DropsCue slot cue) client.trace.calls →
    ∃ st, client.states[slot]? = some st ∧ cue ∈ st.pendingCues

def StateCues (written : List WrittenRecord) (slot : Nat) (st : ClientEntityState) : Prop :=
  ∀ p ∈ st.pending, st.hasNetworkId = true ∧ ∃ w, Carried written slot p.frame st w

structure CueInv (client : ServerClientReplicator) : Prop where
  states : ∀ (slot : Nat) (st : ClientEntityState), client.states[slot]? = some st →
    StateCues client.trace.written slot st
  acks : ∀ call ∈ client.trace.calls, call.CarriesCues client.trace.written

theorem Carried.mono {written written' : List WrittenRecord} {slot : Nat} {frame : SyncFrame} {st : ClientEntityState}
    {w : WrittenRecord} (h : Carried written slot frame st w) (hw : ∀ w ∈ written, w ∈ written') :
    Carried written' slot frame st w := { h with written := hw w h.written }

theorem Call.CarriesCues.mono {written written' : List WrittenRecord} {call : Call} (h : call.CarriesCues written)
    (hw : ∀ w ∈ written, w ∈ written') : call.CarriesCues written' := by
  cases call with
  | acknowledgeEntity slot frame eligible st =>
    obtain ⟨w, h⟩ := h
    exact ⟨w, h.mono hw⟩
  | _ => trivial

structure FewerCues (st st' : ClientEntityState) : Prop where
  pending : ∀ p ∈ st'.pending, p ∈ st.pending
  cues : ∀ cue ∈ st'.pendingCues, cue ∈ st.pendingCues
  ids : st.hasNetworkId = true →
    st'.hasNetworkId = true ∧ st'.networkId = st.networkId ∧ st'.networkVersion = st.networkVersion

theorem StateCues.fewer {written written' : List WrittenRecord} {slot : Nat} {st st' : ClientEntityState}
    (h : StateCues written slot st) (hw : ∀ w ∈ written, w ∈ written') (hf : FewerCues st st') :
    StateCues written' slot st' := by
  intro p hp
  obtain ⟨hid, w, hc⟩ := h p (hf.pending p hp)
  obtain ⟨hid', h1, h2⟩ := hf.ids hid
  exact ⟨hid', w, hw w hc.written, hc.slot, hc.frame, hc.networkId.trans h1.symm, hc.networkVersion.trans h2.symm,
    fun cue hcue => hc.cues cue (hf.cues cue hcue)⟩

theorem FewerCues.refl (st : ClientEntityState) : FewerCues st st :=
  ⟨fun _ h => h, fun _ h => h, fun h => ⟨h, rfl, rfl⟩⟩

/-! ## Steps -/

structure CueStep (client client' : ServerClientReplicator) (new : List Call)
    (g : Nat → ClientEntityState → ClientEntityState) : Prop where
  states : ∀ (i : Nat) (st : ClientEntityState), client.states[i]? = some st → client'.states[i]? = some (g i st)
  fresh : ∀ (i : Nat) (st' : ClientEntityState), client'.states[i]? = some st' → client.states[i]? =
    none → st' = {}
  calls : client'.trace.calls = new ++ client.trace.calls
  noAttach : ∀ call ∈ new, ∀ slot cue, ¬call.Attaches slot cue
  written : ∀ w ∈ client.trace.written, w ∈ client'.trace.written
  kept : ∀ (i : Nat) (st : ClientEntityState), client.states[i]? = some st → ∀ cue ∈ st.pendingCues,
    (∀ call ∈ new, ¬call.DropsCue i cue) → cue ∈ (g i st).pendingCues
  carried : ∀ (i : Nat) (st : ClientEntityState), client.states[i]? = some st →
    StateCues client.trace.written i st →
    StateCues client'.trace.written i (g i st)
  acks : CueInv client → ∀ call ∈ new, call.CarriesCues client'.trace.written

section

variable {client client' : ServerClientReplicator} {new : List Call}
  {g : Nat → ClientEntityState → ClientEntityState}

theorem CueStep.log (h : CueStep client client' new g) (hl : CueLog client) : CueLog client' := by
  intro slot cue hs
  rw [h.calls] at hs
  obtain ⟨hold, hns⟩ := hs.old fun call hc => h.noAttach call hc slot cue
  obtain ⟨st, hst, hcue⟩ := hl slot cue hold
  exact ⟨g slot st, h.states slot st hst, h.kept slot st hst cue hcue hns⟩

theorem CueStep.inv (h : CueStep client client' new g) (hi : CueInv client) : CueInv client' := by
  refine ⟨?_, ?_⟩
  · intro slot st' hst'
    cases hst : client.states[slot]? with
    | none =>
      rw [h.fresh slot st' hst' hst]
      exact fun p hp => by simp at hp
    | some st =>
      rw [h.states slot st hst] at hst'
      obtain rfl := Option.some.inj hst'
      exact h.carried slot st hst (hi.states slot st hst)
  · intro call hcall
    rw [h.calls] at hcall
    rcases List.mem_append.mp hcall with hcall | hcall
    · exact h.acks hi call hcall
    · exact (hi.acks call hcall).mono h.written

theorem CueStep.modify (slot : Nat) (f : ClientEntityState → ClientEntityState) {new : List Call}
    (hst : client'.states = (client.modifyState slot f).states)
    (hcalls : client'.trace.calls = new ++ client.trace.calls)
    (hno : ∀ call ∈ new, ∀ i cue, ¬call.Attaches i cue)
    (hack : CueInv client → ∀ call ∈ new, call.CarriesCues client'.trace.written)
    (hw : ∀ w ∈ client.trace.written, w ∈ client'.trace.written)
    (hkept : ∀ st, client.states[slot]? = some st → ∀ cue ∈ st.pendingCues,
      (∀ call ∈ new, ¬call.DropsCue slot cue) → cue ∈ (f st).pendingCues)
    (hf : ∀ st, client.states[slot]? = some st → StateCues client.trace.written slot st →
      StateCues client'.trace.written slot (f st)) :
    CueStep client client' new fun i st => if slot = i then f st else st where
  states i st h := by
    rw [hst]
    by_cases hi : slot = i <;> simp [modifyState, hi, h]
  fresh i st' h hnone := by
    rw [hst] at h
    obtain ⟨st, hst', -⟩ := modifyState_get h
    rw [hnone] at hst'
    cases hst'
  calls := hcalls
  noAttach := hno
  written := hw
  kept i st h cue hcue hns := by
    by_cases hi : slot = i
    · subst hi
      simpa using hkept st h cue hcue hns
    · simpa [hi] using hcue
  carried i st h hs := by
    by_cases hi : slot = i
    · subst hi
      simpa using hf st h hs
    · simpa [hi] using hs.fewer hw (.refl st)
  acks := hack

theorem CueStep.clear (slot : Nat) {new : List Call}
    (hst : client'.states = (client.modifyState slot fun _ => {}).states)
    (hcalls : client'.trace.calls = new ++ client.trace.calls)
    (hno : ∀ call ∈ new, ∀ i cue, ¬call.Attaches i cue)
    (hack : ∀ call ∈ new, call.CarriesCues client'.trace.written)
    (hw : ∀ w ∈ client.trace.written, w ∈ client'.trace.written)
    (hclear : ∀ st, client.states[slot]? = some st → Call.clearState slot ∈ new) :
    CueStep client client' new fun i st => if slot = i then {} else st :=
  .modify slot _ hst hcalls hno (fun _ => hack) hw (fun st hs _ _ hns => absurd rfl (hns _ (hclear st hs)))
    fun _ _ _ p hp => by simp at hp

theorem CueStep.same {new : List Call} (hst : client'.states = client.states)
    (hcalls : client'.trace.calls = new ++ client.trace.calls)
    (hno : ∀ call ∈ new, ∀ i cue, ¬call.Attaches i cue)
    (hack : ∀ call ∈ new, call.CarriesCues client'.trace.written)
    (hw : ∀ w ∈ client.trace.written, w ∈ client'.trace.written) :
    CueStep client client' new fun _ st => st where
  states i st h := hst ▸ h
  fresh i st' h hnone := by
    rw [hst, hnone] at h
    cases h
  calls := hcalls
  noAttach := hno
  written := hw
  kept _ _ _ _ hcue _ := hcue
  carried _ st _ hs := hs.fewer hw (.refl st)
  acks _ := hack

theorem CueStep.capacity {new : List Call} (n : Nat) (hst : client'.states = (client.ensureCapacity n).states)
    (hcalls : client'.trace.calls = new ++ client.trace.calls)
    (hno : ∀ call ∈ new, ∀ i cue, ¬call.Attaches i cue)
    (hack : ∀ call ∈ new, call.CarriesCues client'.trace.written)
    (hw : ∀ w ∈ client.trace.written, w ∈ client'.trace.written) :
    CueStep client client' new fun _ st => st where
  states i st h := by
    rw [hst, ensureCapacity, List.getElem?_append_left (List.getElem?_eq_some_iff.mp h).1]
    exact h
  fresh i st' h hnone := by
    rw [hst] at h
    rcases ensureCapacity_get h with h | ⟨-, rfl⟩
    · rw [hnone] at h
      cases h
    · rfl
  calls := hcalls
  noAttach := hno
  written := hw
  kept _ _ _ _ hcue _ := hcue
  carried _ st _ hs := hs.fewer hw (.refl st)
  acks _ := hack

/-! ## Every move -/

theorem decidedStateFor_fewer (decision : EntityReplicationDecision) (st : ClientEntityState) :
    (decidedStateFor decision st).pendingCues = st.pendingCues ∧ FewerCues st (decidedStateFor decision st) := by
  obtain ⟨h1, h2, h3⟩ := decidedStateFor_ids decision st
  have hrest : (decidedStateFor decision st).pendingCues = st.pendingCues ∧
      (decidedStateFor decision st).pending = st.pending := by
    unfold decidedStateFor
    split <;> exact ⟨rfl, rfl⟩
  exact ⟨hrest.1, by simp [hrest.2], by simp [hrest.1], fun h => ⟨h3.trans h, h1, h2⟩⟩

/-- A sent state: its old frames in flight, and the one of the new record. -/
theorem sentState_pending {fullState : Bool} {q : Nat} {frame : SyncFrame} {st : ClientEntityState}
    {p : PendingQuantizedFrame} (hp : p ∈ (sentState fullState q frame st).pending) :
    p ∈ st.pending ∨ p.frame = frame := by
  have hp := List.mem_of_mem_drop hp
  rcases List.mem_append.mp hp with hp | hp
  · left
    unfold droppedState at hp
    split at hp <;> exact hp
  · right
    rw [List.mem_singleton.mp hp]

theorem sentState_cues (fullState : Bool) (q : Nat) (frame : SyncFrame) (st : ClientEntityState) :
    (sentState fullState q frame st).pendingCues = st.pendingCues := by
  unfold sentState droppedState
  simp only
  split <;> rfl

theorem LocalMove.cues {strict : Prop} {core core' : ServerCore} (m : LocalMove strict core client core' client')
    (hids : IdInv client) :
    (∃ new g, CueStep client client' new g) ∨
    ∃ slot st cue, client.states[slot]? = some st ∧
      client'.states = (client.modifyState slot fun s => { s with pendingCues := s.pendingCues ++ [cue] }).states ∧
      client'.trace = { client.trace with calls := .attachCue slot cue st.pending :: client.trace.calls } := by
  cases m with
  | ensureCapacity => exact .inl ⟨[], _, .capacity _ rfl rfl (by simp) (by simp) fun _ h => h⟩
  | @markDirty slot _ =>
    left
    unfold ServerClientReplicator.markDirty
    split
    · exact ⟨[], _, .same rfl rfl (by simp) (by simp) fun _ h => h⟩
    · exact ⟨[.markDirty slot core.frame], _, .capacity core.replicated.length rfl rfl (by simp [Call.Attaches])
        (by simp [Call.CarriesCues]) fun _ h => h⟩
  | @clearUnsent slot hs =>
    left
    unfold clearState
    simp only [hs]
    exact ⟨[.clearState slot], _, .clear slot rfl rfl (by simp [Call.Attaches]) (by simp [Call.CarriesCues])
      (fun _ h => h) fun _ _ => by simp⟩
  | @enqueueDestroy slot r _ _ =>
    left
    have hst := enqueueDestroy_states core client slot r.entity core.frame
    have hno : ∀ call ∈ clearCalls client slot, (∀ i cue, ¬call.Attaches i cue) ∧
        ∀ written, call.CarriesCues written := by
      unfold clearCalls
      split <;> simp [Call.Attaches, Call.CarriesCues]
    have hmem : ∀ st, client.states[slot]? = some st → Call.clearState slot ∈ clearCalls client slot := by
      intro st hs
      simp [clearCalls, hs]
    rcases enqueueDestroy_ids core slot r.entity core.frame hids with
      ⟨s, e, -, -, -, -, -, htrace⟩ | ⟨-, -, -, htrace⟩
    · refine ⟨_ :: clearCalls client slot, _, .clear slot hst (by rw [htrace]) ?_ ?_ (by rw [htrace]; simp)
        fun st hs => List.mem_cons_of_mem _ (hmem st hs)⟩
      · simpa [Call.Attaches] using fun call hc => (hno call hc).1
      · simpa [Call.CarriesCues] using fun call hc => (hno call hc).2 _
    · exact ⟨clearCalls client slot, _, .clear slot hst (by rw [htrace]) (fun call hc => (hno call hc).1)
        (fun call hc => (hno call hc).2 _) (by rw [htrace]; simp) hmem⟩
  | @clearDirty slot _ =>
    exact .inl ⟨[.clearDirty slot], _,
      .same rfl rfl (by simp [Call.Attaches]) (by simp [Call.CarriesCues]) fun _ h => h⟩
  | beginSend | accumulate | refuse | cleanupQueue | forgetPackets =>
    exact .inl ⟨[], _, .same rfl rfl (by simp) (by simp) fun _ h => h⟩
  | expireCues =>
    refine .inl ⟨[.expireCues core.frame], fun _ st => { st with
      pendingCues := st.pendingCues.filter fun cue => !decide (core.frame > cue.expireFrame) }, ?_, ?_, rfl, ?_,
      fun _ h => h, ?_, ?_, ?_⟩
    · intro i st hst
      simp [expirePendingCues, logCall, hst]
    · intro i st' hst' hnone
      simp [expirePendingCues, logCall, hnone] at hst'
    · simp [Call.Attaches]
    · intro i st _ cue hcue hns
      refine List.mem_filter.mpr ⟨hcue, ?_⟩
      have hlive : ¬core.frame > cue.expireFrame := hns (.expireCues core.frame) (by simp)
      simpa using hlive
    · intro i st _ hs
      exact hs.fewer (fun _ h => h) ⟨fun _ h => h, fun _ h => (List.mem_filter.mp h).1, fun h => ⟨h, rfl, rfl⟩⟩
    · simp [Call.CarriesCues]
  | @storeDecision slot decision _ =>
    left
    cases hs : client.states[slot]? with
    | none =>
      refine ⟨[], _, .same ?_ (by rw [storeDecision_trace]; rfl) (by simp) (by simp)
        fun _ h => by rw [storeDecision_trace]; exact h⟩
      unfold ServerClientReplicator.storeDecision
      simp only [hs]
      rfl
    | some s =>
      refine ⟨[], _, .modify slot (fun _ => decidedStateFor decision s) ?_
        (by rw [storeDecision_trace]; rfl) (by simp) (by simp)
          (fun _ h => by rw [storeDecision_trace]; exact h) ?_ ?_⟩
      · exact storeDecision_state _ _ hs
      · intro st hst cue hcue _
        rw [hs] at hst
        obtain rfl := Option.some.inj hst
        rw [(decidedStateFor_fewer decision s).1]
        exact hcue
      · intro st hst hsc
        rw [hs] at hst
        obtain rfl := Option.some.inj hst
        exact hsc.fewer (fun _ h => by rw [storeDecision_trace]; exact h) (decidedStateFor_fewer decision s).2
  | @boost slot _ =>
    exact .inl ⟨[], _, .modify slot (fun s => { s with referencePriorityBoostPending := true }) rfl rfl
      (by simp) (by simp) (fun _ h => h) (fun _ _ _ h _ => h)
      fun st _ hs => hs.fewer (fun _ h => h) ⟨fun _ h => h, fun _ h => h, fun h => ⟨h, rfl, rfl⟩⟩⟩
  | @allocate slot networkId state _ _ hs hid hal =>
    obtain ⟨version, ids, -, -, rfl⟩ := allocate_states hs hal
    refine .inl ⟨[], _, .modify slot
      (fun s => { s with networkId, networkVersion := version, hasNetworkId := true }) rfl rfl (by simp) (by simp)
      (fun _ h => h) (fun _ _ _ h _ => h) ?_⟩
    intro st hst hsc p hp
    rw [hs] at hst
    obtain rfl := Option.some.inj hst
    have := (hsc p hp).1
    simp [hid] at this
  | sendDestroy _ => exact .inl ⟨[], _, .same rfl rfl (by simp) (by simp) fun _ h => List.mem_cons_of_mem _ h⟩
  | @accept core₁ slot q r state quantized mask serialized w _ _ ho hs hsid _ _ hw _ =>
    left
    have htrace := recordSent_calls (core₁.retainQuantizedFrame q) (client.logWritten w) serialized hs
    have hst := recordSent_states (core₁.retainQuantizedFrame q) (client.logWritten w) serialized hs
    have hframe : (core₁.retainQuantizedFrame q).frame = core.frame := (obtained_sameSlots ho).frame
    have hmono : ∀ v ∈ client.trace.written, v ∈ (SendLoop.recordSent (core₁.retainQuantizedFrame q)
        (client.logWritten w) slot serialized).2.trace.written := by
      intro v hv
      rw [htrace]
      exact List.mem_cons_of_mem _ hv
    obtain ⟨h1, h2, h3⟩ := sentState_ids serialized.fullState serialized.quantizedFrame
      (core₁.retainQuantizedFrame q).frame state
    refine ⟨[_], _, .modify slot (fun _ => sentState serialized.fullState serialized.quantizedFrame
      (core₁.retainQuantizedFrame q).frame state) ?_ (by rw [htrace]; rfl) (by simp [Call.Attaches])
      (by simp [Call.CarriesCues]) hmono ?_ ?_⟩
    · apply List.ext_getElem?
      intro i
      by_cases hi : i = slot
      · subst hi
        simp [hst.1, modifyState, hs]
      · rw [hst.2 i hi]
        simp [modifyState, Ne.symm hi, logWritten]
    · intro st hst' cue hcue _
      rw [hs] at hst'
      obtain rfl := Option.some.inj hst'
      rw [sentState_cues]
      exact hcue
    · intro st hst' hsc p hp
      rw [hs] at hst'
      obtain rfl := Option.some.inj hst'
      refine ⟨h3.trans hsid, ?_⟩
      rcases sentState_pending hp with hp | hp
      · obtain ⟨-, v, hv⟩ := hsc p hp
        exact ⟨v, hmono v hv.written, hv.slot, hv.frame, hv.networkId.trans h1.symm, hv.networkVersion.trans h2.symm,
          by rw [sentState_cues]; exact hv.cues⟩
      · refine ⟨w, by rw [htrace]; exact List.mem_cons_self, by simp [hw, WrittenRecord.slot?], ?_, by rw [hw, h1],
          by rw [hw, h2], ?_⟩
        · rw [hp, hframe, hw]
        · rw [sentState_cues]
          intro cue hcue _
          simpa [hw, WrittenRecord.cues] using hcue
  | @sendPacket n bits records _ =>
    have hs := (sendPacket_spec core client core.frame n records bits (records.map WrittenRecord.ackRecord)).same
    exact .inl ⟨[], _, .same (by rw [hs]) (by rw [hs]; rfl) (by simp) (by simp) fun _ h => by rw [hs]; exact h⟩
  | @acknowledge packet record _ _ =>
    left
    unfold acknowledgeRecord
    split
    · rcases acknowledgeDestroy_spec packet record hids with
        ⟨heq, -⟩ | ⟨i, d, e, -, -, -, -, heq⟩
      · simp only [heq]
        exact ⟨[], _, .same rfl rfl (by simp) (by simp) fun _ h => h⟩
      · simp only [heq]
        exact ⟨[.retireDestroy d packet], _, .same rfl rfl (by simp [Call.Attaches]) (by simp [Call.CarriesCues])
          fun _ h => h⟩
    · split
      · exact ⟨[], _, .same rfl rfl (by simp) (by simp) fun _ h => h⟩
      · rename_i slot _
        rcases acknowledgeEntity_spec core client slot record.frame with
          ⟨-, h⟩ | ⟨s, found, eligible, hs, hmem, hfr, -, -, h⟩
        · rw [h]
          exact ⟨[], _, .same rfl rfl (by simp) (by simp) fun _ h => h⟩
        · have hw : (client.acknowledgeEntity core slot record.frame).2.1.trace.written = client.trace.written := by
            rw [h]
            cases eligible <;> rfl
          refine ⟨[.acknowledgeEntity slot record.frame eligible s], _, .modify slot
            (acknowledgedState eligible found.quantizedFrame record.frame) (by rw [h]; cases eligible <;> rfl)
            (by rw [h]; cases eligible <;> rfl) (by simp [Call.Attaches]) ?_ (by simp [hw]) ?_ ?_⟩
          · intro hinv call hcall
            obtain rfl := List.mem_singleton.mp hcall
            obtain ⟨-, w, hcar⟩ := hinv.states slot s hs found hmem
            rw [hw]
            exact ⟨w, hfr ▸ hcar⟩
          · intro st hst cue hcue hns
            refine List.mem_filter.mpr ⟨hcue, ?_⟩
            rw [hs] at hst
            obtain rfl := Option.some.inj hst
            have hlate : ¬cue.frame ≤ record.frame := fun hle => hns _ List.mem_cons_self ⟨rfl, hle, hcue⟩
            simpa using hlate
          · intro st hst hsc
            rw [hw]
            exact hsc.fewer (fun _ h => h) ⟨fun _ h => (List.mem_filter.mp h).1, fun _ h => (List.mem_filter.mp h).1,
              fun h => ⟨h, rfl, rfl⟩⟩
  | @pushCue slot state cue _ hs => exact .inr ⟨slot, state, cue, hs, rfl, rfl⟩

/-! ## Attaching a cue -/

section

variable {slot : Nat} {st : ClientEntityState} {cue : PendingCue} (hs : client.states[slot]? = some st)
  (hst : client'.states = (client.modifyState slot fun s => { s with pendingCues := s.pendingCues ++ [cue] }).states)
  (htrace : client'.trace = { client.trace with calls := .attachCue slot cue st.pending :: client.trace.calls })

include hs hst htrace

theorem CueLog.attach (h : CueLog client) : CueLog client' := by
  have hkeep : ∀ (i : Nat) (st₁ : ClientEntityState), client.states[i]? = some st₁ →
      ∃ st' : ClientEntityState, client'.states[i]? = some st' ∧ ∀ c ∈ st₁.pendingCues,
      c ∈ st'.pendingCues := by
    intro i st₁ hst₁
    rw [hst]
    by_cases hi : slot = i
    · subst hi
      exact ⟨{ st₁ with pendingCues := st₁.pendingCues ++ [cue] }, by simp [modifyState, hst₁],
        fun c hc => List.mem_append_left _ hc⟩
    · exact ⟨st₁, by simp [modifyState, hi, hst₁], fun c hc => hc⟩
  intro i c hsince
  rw [htrace] at hsince
  rcases hsince with ⟨rfl, rfl⟩ | ⟨-, hsince⟩
  · rw [hst]
    exact ⟨_, by simp only [modifyState, List.getElem?_modify_eq, hs]; rfl,
      List.mem_append_right _ List.mem_cons_self⟩
  · obtain ⟨st₁, hst₁, hc⟩ := h i c hsince
    obtain ⟨st', hst', hkept⟩ := hkeep i st₁ hst₁
    exact ⟨st', hst', hkept c hc⟩

theorem CueInv.attach (hahead : ∀ p ∈ st.pending, p.frame < cue.frame) (h : CueInv client) : CueInv client' := by
  refine ⟨?_, ?_⟩
  · intro i st' hst'
    rw [hst] at hst'
    rw [htrace]
    obtain ⟨st₁, hst₁, rfl | ⟨rfl, rfl⟩⟩ := modifyState_get hst'
    · exact h.states i st' hst₁
    · rw [hs] at hst₁
      obtain rfl := Option.some.inj hst₁
      intro p hp
      obtain ⟨hid, w, hcar⟩ := h.states i st hs p hp
      refine ⟨hid, w, hcar.written, hcar.slot, hcar.frame, hcar.networkId, hcar.networkVersion, fun c hc hle => ?_⟩
      rcases List.mem_append.mp hc with hc | hc
      · exact hcar.cues c hc hle
      · rw [List.mem_singleton.mp hc] at hle
        exact absurd hle (Nat.not_le.mpr (hahead p hp))
  · rw [htrace]
    intro call hcall
    rcases List.mem_cons.mp hcall with rfl | hcall
    · trivial
    · exact h.acks call hcall

end

end

theorem cueRule (strict : Prop) : ClientRule strict fun _ client => IdInv client ∧ CueLog client ∧
    ((∀ call ∈ client.trace.calls, call.AttachesAhead) → CueInv client) where
  new _ peer id := ⟨.new peer id, fun _ _ h => h.elim, fun _ => ⟨by simp, by simp⟩⟩
  own _ m h := by
    refine ⟨m.ids h.1, ?_⟩
    rcases m.cues h.1 with ⟨new, g, hstep⟩ | ⟨slot, st, cue, hs, hst, htrace⟩
    · exact ⟨hstep.log h.2.1,
        fun hahead => hstep.inv (h.2.2 fun call hc => hahead call (by simp [hstep.calls, hc]))⟩
    · refine ⟨h.2.1.attach hs hst htrace, fun hahead => ?_⟩
      rw [htrace] at hahead
      exact (h.2.2 fun call hc => hahead call (by simp [hc])).attach hs hst htrace
        (hahead (.attachCue slot cue st.pending) (by simp))
  around _ _ _ h := h

/-! ## No cue is lost -/

section

open ReplicationServer

variable {options : ReplicationServerOptions} {settings : SyncSettings} {s : ReplicationServer}

/-- While every cue was attached ahead of the records in flight, a cue leaves its entity state only when it expires,
when the state is cleared, or when a record that carried it is acknowledged. -/
theorem cue_kept (h : Reachable options settings s) (client : ServerClientReplicator) (hc : client ∈ s.clients)
    (hahead : ∀ call ∈ client.trace.calls, call.AttachesAhead) (slot : Nat) (cue : PendingCue)
    (pending : List PendingQuantizedFrame) (after before : List Call)
    (hcalls : client.trace.calls = after ++ .attachCue slot cue pending :: before) :
    (∃ st, client.states[slot]? = some st ∧ cue ∈ st.pendingCues) ∨
    ∃ call ∈ after, call.RightlyDrops client.trace.written slot cue := by
  obtain ⟨-, hlog, hinv⟩ := (cueRule False).reachable h client hc
  by_cases hdrop : ∃ call ∈ after, call.DropsCue slot cue
  · obtain ⟨call, hmem, hdrop⟩ := hdrop
    cases call with
    | expireCues frame => exact .inr ⟨_, hmem, hdrop⟩
    | clearState slot' => exact .inr ⟨_, hmem, hdrop⟩
    | acknowledgeEntity slot' frame eligible st =>
      obtain ⟨rfl, hle, hcue⟩ := hdrop
      obtain ⟨w, hcar⟩ := (hinv hahead).acks _ (by rw [hcalls]; exact List.mem_append_left _ hmem)
      exact .inr ⟨_, hmem, rfl, w, hcar.written, hcar.slot, hcar.frame, hcar.networkId, hcar.networkVersion,
        hcar.cues cue hcue hle⟩
    | _ => exact hdrop.elim
  · left
    apply hlog
    rw [hcalls]
    exact EventLog.split ⟨rfl, rfl⟩ fun call hmem hd => hdrop ⟨call, hmem, hd⟩

def Sample.cue (frame : SyncFrame) : QueuedSyncCue where
  entity := entity
  frame := frame
  type := 0
  relevanceSeconds := 0x3f800000
  payload := [true]
  value := none
  onlyReplicateToOwner := false

def Sample.pendingCue (frame : SyncFrame) : PendingCue where
  frame
  expireFrame := frame + 60
  type := 0
  relevanceSeconds := 0x3f800000
  payload := [true]

/-- An entity sent at frame 10; a cue attached at frame 11, before the acknowledgement. -/
def Sample.cued (cueFrame : SyncFrame) : List ServerOp := [.addClient 1 1,
  Sample.advance 10 [entity] [] [] [] [some 7, some 9], Sample.send [entity] [some 7, some 9],
  Sample.advance 11 [entity] [] [] [] [some 7, some 9] [Sample.cue cueFrame], .acks 1 [1]]

theorem cue_kept_cued :
    (∃ st, (Sample.client (Sample.cued 11)).states[0]? = some st ∧ Sample.pendingCue 11 ∈ st.pendingCues) ∨
    ∃ call ∈ (Sample.client (Sample.cued 11)).trace.calls.take 2,
      call.RightlyDrops (Sample.client (Sample.cued 11)).trace.written 0 (Sample.pendingCue 11) :=
  cue_kept (Sample.inOrder (Sample.cued 11) (by decide +kernel)).reachable (Sample.client (Sample.cued 11))
    (by decide +kernel) (by decide +kernel) 0 (Sample.pendingCue 11)
    [{ quantizedFrame := 0, frame := 10, baselineEpochWhenSent := 0 }] _
    ((Sample.client (Sample.cued 11)).trace.calls.drop 3) (by decide +kernel)

/-- A cue of frame 10 attached once frame 10 was sent is dropped by the acknowledgement of frame 10, which never
carried it. -/
theorem cue_lost :
    InOrderReachable Sample.options Sample.settings (Sample.after (Sample.cued 10)) ∧
    Sample.client (Sample.cued 10) ∈ (Sample.after (Sample.cued 10)).clients ∧
    (Sample.client (Sample.cued 10)).trace.calls = (Sample.client (Sample.cued 10)).trace.calls.take 2 ++
      .attachCue 0 (Sample.pendingCue 10) [{ quantizedFrame := 0, frame := 10, baselineEpochWhenSent := 0 }] ::
      (Sample.client (Sample.cued 10)).trace.calls.drop 3 ∧
    (∀ st ∈ (Sample.client (Sample.cued 10)).states, Sample.pendingCue 10 ∉ st.pendingCues) ∧
    ¬∃ call ∈ (Sample.client (Sample.cued 10)).trace.calls.take 2,
      call.RightlyDrops (Sample.client (Sample.cued 10)).trace.written 0 (Sample.pendingCue 10) :=
  ⟨Sample.inOrder _ (by decide +kernel), by decide +kernel, by decide +kernel, by decide +kernel, by decide +kernel⟩

end

end AshiatoSync
