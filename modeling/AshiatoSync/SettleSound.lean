import AshiatoSync.CueSound
import AshiatoSync.ExhaustSound
import AshiatoSync.PacketizeSound

/-!
# Acknowledged entities settle

Only a mark queues an entry.  An acknowledgement of the last frame sent for a slot
takes its entry off the queue, and no send looks at the slot again before the next
mark; a copy that was sent later leaves the entry queued.
-/

namespace AshiatoSync

open ServerClientReplicator

/-! ## What a move does to a slot -/

def QuietCalls (slot : Nat) (new : List Call) : Prop :=
  ∀ call ∈ new, (∀ frame, call ≠ .markDirty slot frame) ∧
  ∀ frame state, call ≠ .acknowledgeEntity slot frame true state

def EntryKept (client client' : ServerClientReplicator) (slot : Nat) : Prop :=
  ∀ e', client'.dirtyQueue.entries[slot]? = some e' →
  (e'.queued = false ∧ e'.dirtyFrame = 0 ∧ e'.baselineFrame = 0) ∨
    ∃ e, client.dirtyQueue.entries[slot]? = some e ∧ e'.queued = e.queued ∧ e'.dirtyFrame = e.dirtyFrame ∧
      e'.baselineFrame = e.baselineFrame

def Trimmed (pending pending' : List PendingQuantizedFrame) : Prop :=
  ∀ p' ∈ pending', p' ∈ pending ∧ ∀ p ∈ pending, p ∈ pending' ∨ p.frame < p'.frame

def StateKept (client client' : ServerClientReplicator) (slot : Nat) : Prop :=
  ∀ s', client'.states[slot]? = some s' → (s'.pending = [] ∧ s'.baseline = none) ∨
    ∃ s, client.states[slot]? = some s ∧ Trimmed s.pending s'.pending ∧
    (s'.baseline = s.baseline ∨ s'.baseline = none)

inductive SlotMove (core : ServerCore) (client client' : ServerClientReplicator) (slot : Nat) (new : List Call) :
    Prop where
  | quiet : QuietCalls slot new → EntryKept client client' slot → StateKept client client' slot →
      SlotMove core client client' slot new
  | mark {e : DirtyEntry} : new = [.markDirty slot core.frame] →
      (client.ensureCapacity core.replicated.length).dirtyQueue.entries[slot]? = some e →
      client'.dirtyQueue.entries[slot]? = some (raiseDirtyFrame
        (requeueEntry core (client.ensureCapacity core.replicated.length).states[slot]? e) core.frame) →
      client'.states = (client.ensureCapacity core.replicated.length).states → SlotMove core client client' slot new
  | send {s : ClientEntityState} {fullState : Bool} {q : Nat} : QuietCalls slot new →
    client.states[slot]? = some s →
      0 < core.frame → (∀ w ∈ client.trace.written, w.slot? = some slot → w.frame < core.frame) →
      client'.dirtyQueue.entries = (client.modifyEntry slot (SendLoop.sentEntry core.frame)).dirtyQueue.entries →
      client'.states[slot]? = some (sentState fullState q core.frame s) → SlotMove core client client' slot new
  | settle {s : ClientEntityState} {found : PendingQuantizedFrame} :
      new = [.acknowledgeEntity slot found.frame true s] → client.states[slot]? = some s → found ∈ s.pending →
      client'.dirtyQueue.entries = (client.modifyEntry slot (settleEntry found.frame)).dirtyQueue.entries →
      client'.states[slot]? = some (acknowledgedState true found.quantizedFrame found.frame s) →
      SlotMove core client client' slot new

section

variable {core core' : ServerCore} {client client' : ServerClientReplicator} {slot : Nat}

theorem QuietCalls.nil : QuietCalls slot [] := fun _ h => by cases h

theorem Trimmed.refl (pending : List PendingQuantizedFrame) : Trimmed pending pending :=
  fun _ hp => ⟨hp, fun _ h => .inl h⟩

theorem entryKept_of_eq (h : client'.dirtyQueue.entries = client.dirtyQueue.entries) (slot : Nat) :
    EntryKept client client' slot := by
  intro e' he'
  exact .inr ⟨e', h ▸ he', rfl, rfl, rfl⟩

/-- A change of one entry that clears it or leaves its place in the queue. -/
theorem entryKept_modify {i : Nat} {f : DirtyEntry → DirtyEntry}
    (h : client'.dirtyQueue.entries = (client.modifyEntry i f).dirtyQueue.entries)
    (hf : ∀ e, ((f e).queued = false ∧ (f e).dirtyFrame = 0 ∧ (f e).baselineFrame = 0) ∨
      (f e).queued = e.queued ∧ (f e).dirtyFrame = e.dirtyFrame ∧ (f e).baselineFrame = e.baselineFrame)
    (slot : Nat) :
    EntryKept client client' slot := by
  intro e' he'
  rw [h] at he'
  obtain ⟨e, he, ⟨rfl, -⟩ | ⟨rfl, rfl⟩⟩ := modifyEntry_get he'
  · exact .inr ⟨e', he, rfl, rfl, rfl⟩
  · rcases hf e with hblank | hsame
    · exact .inl hblank
    · exact .inr ⟨e, he, hsame⟩

theorem entryKept_capacity {n : Nat} (h : client'.dirtyQueue.entries = (client.ensureCapacity n).dirtyQueue.entries)
    (slot : Nat) : EntryKept client client' slot := by
  intro e' he'
  rw [h] at he'
  rcases entries_capacity_get he' with he | ⟨-, rfl⟩
  · exact .inr ⟨e', he, rfl, rfl, rfl⟩
  · exact .inl ⟨rfl, rfl, rfl⟩

theorem stateKept_of_eq (h : client'.states[slot]? = client.states[slot]?) : StateKept client client' slot := by
  intro s' hs'
  exact .inr ⟨s', h ▸ hs', .refl _, .inl rfl⟩

theorem stateKept_modify {i : Nat} {f : ClientEntityState → ClientEntityState}
    (h : client'.states = (client.modifyState i f).states)
    (hf : ∀ s, client.states[i]? = some s → ((f s).pending = [] ∧ (f s).baseline = none) ∨
      Trimmed s.pending (f s).pending ∧ ((f s).baseline = s.baseline ∨ (f s).baseline = none)) (slot : Nat) :
    StateKept client client' slot := by
  intro s' hs'
  rw [h] at hs'
  obtain ⟨s, hs, rfl | ⟨rfl, rfl⟩⟩ := modifyState_get hs'
  · exact .inr ⟨s', hs, .refl _, .inl rfl⟩
  · rcases hf s hs with hblank | hsame
    · exact .inl hblank
    · exact .inr ⟨s, hs, hsame⟩

theorem stateKept_capacity {n : Nat} (h : client'.states = (client.ensureCapacity n).states) (slot : Nat) :
    StateKept client client' slot := by
  intro s' hs'
  rw [h] at hs'
  rcases ensureCapacity_get hs' with hs | ⟨-, rfl⟩
  · exact .inr ⟨s', hs, .refl _, .inl rfl⟩
  · exact .inl ⟨rfl, rfl⟩

theorem slotMoves_of_eq {new : List Call} (hent : client'.dirtyQueue.entries = client.dirtyQueue.entries)
    (hst : client'.states = client.states) (hcalls : client'.trace.calls = new ++ client.trace.calls)
    (hnew : ∀ slot, QuietCalls slot new) :
    ∃ new, client'.trace.calls = new ++ client.trace.calls ∧ ∀ slot, SlotMove core client client' slot new :=
  ⟨new, hcalls, fun slot => .quiet (hnew slot) (entryKept_of_eq hent slot) (stateKept_of_eq (by rw [hst]))⟩

end

section

variable {core core' : ServerCore} {client client' : ServerClientReplicator}

/-- What a move of a strict run logs, and what it does to each slot. -/
theorem LocalMove.slotMoves {others : Nat → Nat} (hinv : ClientInv core client others) (hids : IdInv client)
    (m : LocalMove True core client core' client') :
    ∃ new, client'.trace.calls = new ++ client.trace.calls ∧ ∀ slot, SlotMove core client client' slot new := by
  cases m with
  | ensureCapacity =>
    exact ⟨[], rfl, fun slot => .quiet .nil (entryKept_capacity rfl slot) (stateKept_capacity rfl slot)⟩
  | @markDirty slot _ =>
    rcases Nat.lt_or_ge slot core.replicated.length with hlt | hge
    swap
    · unfold ServerClientReplicator.markDirty
      rw [if_pos hge]
      exact slotMoves_of_eq rfl rfl rfl fun _ => .nil
    obtain ⟨e, he⟩ := capacity_entry_exists hinv.queue hlt
    rw [markDirty_eq hlt he]
    refine ⟨[.markDirty slot core.frame], rfl, fun i => ?_⟩
    by_cases hi : i = slot
    · subst hi
      refine .mark rfl he ?_ rfl
      simp [logCall, modifyEntry, he]
    · refine .quiet (by simp [QuietCalls, Ne.symm hi]) ?_ (stateKept_capacity rfl i)
      intro e' he'
      obtain ⟨e₁, he₁, ⟨rfl, -⟩ | ⟨rfl, -⟩⟩ := modifyEntry_get he'
      · have hkept : EntryKept client (client.ensureCapacity core.replicated.length) i := entryKept_capacity rfl i
        exact hkept e' he₁
      · exact absurd rfl hi
  | @clearUnsent slot hs =>
    unfold clearState
    simp only [hs]
    exact ⟨[.clearState slot], rfl, fun i => .quiet (by simp [QuietCalls]) (entryKept_of_eq rfl i)
      (stateKept_modify (f := fun _ => {}) rfl (fun _ _ => .inl ⟨rfl, rfl⟩) i)⟩
  | @enqueueDestroy slot r _ _ =>
    obtain ⟨new, htrace, hno, -⟩ := enqueueDestroy_calls core slot r.entity core.frame hids
    have hquiet : ∀ call ∈ new, ∀ i frame state, call ≠ .acknowledgeEntity i frame true state := by
      have hclear : ∀ call ∈ clearCalls client slot, ∀ i frame state, call ≠
          .acknowledgeEntity i frame true state := by
        unfold clearCalls
        split <;> simp
      rcases enqueueDestroy_ids core slot r.entity core.frame hids with
        ⟨s, e, -, -, -, -, -, htrace'⟩ | ⟨-, -, -, htrace'⟩
      · have heq := congrArg Trace.calls (htrace.symm.trans htrace')
        simp only [List.append_cancel_right_eq] at heq
        rw [heq]
        simpa using hclear
      · have heq := congrArg Trace.calls (htrace.symm.trans htrace')
        simp only [List.append_cancel_right_eq] at heq
        rw [heq]
        exact hclear
    refine ⟨new, by rw [htrace], fun i => .quiet (fun call hc => ⟨hno call hc i, hquiet call hc i⟩) ?_ ?_⟩
    · exact entryKept_modify (f := fun e => { listed := e.listed }) (by rw [enqueueDestroy_dirtyQueue])
        (fun _ => .inl ⟨rfl, rfl, rfl⟩) i
    · exact stateKept_modify (f := fun _ => {}) (enqueueDestroy_states ..) (fun _ _ => .inl ⟨rfl, rfl⟩) i
  | @clearDirty slot _ =>
    exact ⟨[.clearDirty slot], rfl, fun i => .quiet (by simp [QuietCalls])
      (entryKept_modify (f := fun e => { listed := e.listed }) rfl (fun _ => .inl ⟨rfl, rfl, rfl⟩) i)
        (stateKept_of_eq rfl)⟩
  | beginSend _ => exact slotMoves_of_eq rfl rfl rfl fun _ => .nil
  | expireCues =>
    refine ⟨[.expireCues core.frame], rfl, fun i => .quiet (by simp [QuietCalls]) (entryKept_of_eq rfl i) ?_⟩
    intro s' hs'
    simp only [expirePendingCues, logCall, List.getElem?_map, Option.map_eq_some_iff] at hs'
    obtain ⟨s, hs, rfl⟩ := hs'
    exact .inr ⟨s, hs, .refl _, .inl rfl⟩
  | @storeDecision slot decision _ =>
    refine ⟨[], by rw [storeDecision_trace]; rfl, fun i => .quiet .nil ?_ ?_⟩
    · exact entryKept_modify (f := decidedEntry decision) (by rw [storeDecision_dirtyQueue])
        (fun _ => .inr ⟨rfl, rfl, rfl⟩) i
    · cases hs : client.states[slot]? with
      | none =>
        apply stateKept_of_eq
        unfold ServerClientReplicator.storeDecision
        simp only [hs]
        rfl
      | some s =>
        refine stateKept_modify (storeDecision_state _ _ hs) (fun s₁ hs₁ => .inr ?_) i
        rw [hs] at hs₁
        obtain rfl := Option.some.inj hs₁
        unfold decidedStateFor
        split
        · exact ⟨.refl _, .inr rfl⟩
        · exact ⟨.refl _, .inl rfl⟩
  | @accumulate slot _ =>
    exact ⟨[], rfl, fun i => .quiet .nil (entryKept_modify (f := accumulatePriority core.options.floats) rfl
      (fun _ => .inr ⟨rfl, rfl, rfl⟩) i) (stateKept_of_eq rfl)⟩
  | boost _ =>
    refine ⟨[], rfl, fun i => .quiet .nil (entryKept_of_eq rfl i) (stateKept_modify rfl ?_ i)⟩
    exact fun _ _ => .inr ⟨.refl _, .inl rfl⟩
  | allocate _ hs _ hal =>
    obtain ⟨version, ids, -, -, rfl⟩ := allocate_states hs hal
    refine ⟨[], rfl, fun i => .quiet .nil (entryKept_of_eq rfl i) (stateKept_modify rfl ?_ i)⟩
    exact fun _ _ => .inr ⟨.refl _, .inl rfl⟩
  | sendDestroy _ => exact slotMoves_of_eq rfl rfl rfl fun _ => .nil
  | refuse _ _ => exact slotMoves_of_eq rfl rfl rfl fun _ => .nil
  | @accept core₁ slot q r state quantized mask serialized w _ _ ho hs _ _ _ _ hstrict =>
    obtain ⟨hpos, -, -, hold⟩ := hstrict trivial
    have htrace := recordSent_calls (core₁.retainQuantizedFrame q) (client.logWritten w) serialized hs
    have hframe : (core₁.retainQuantizedFrame q).frame = core.frame := (obtained_sameSlots ho).frame
    have hent := recordSent_dirtyQueue (core₁.retainQuantizedFrame q) (client.logWritten w) slot serialized
    obtain ⟨hsent, hother⟩ := recordSent_states (core₁.retainQuantizedFrame q) (client.logWritten w) serialized hs
    rw [hframe] at hsent hent
    refine ⟨[_], by rw [htrace]; rfl, fun i => ?_⟩
    by_cases hi : i = slot
    · subst hi
      exact .send (by simp [QuietCalls]) hs hpos (fun v hv hslot => hold v hv (by simp [hslot]) (.inl hslot))
        (by rw [hent]; rfl) hsent
    · refine .quiet (by simp [QuietCalls]) ?_ (stateKept_of_eq (hother i hi))
      intro e' he'
      rw [hent] at he'
      obtain ⟨e, he, ⟨rfl, -⟩ | ⟨rfl, -⟩⟩ := modifyEntry_get he'
      · exact .inr ⟨e', he, rfl, rfl, rfl⟩
      · exact absurd rfl hi
  | @sendPacket n bits records _ =>
    have hs := (sendPacket_spec core client core.frame n records bits (records.map WrittenRecord.ackRecord)).same
    exact slotMoves_of_eq (by rw [hs]) (by rw [hs]) (by rw [hs]; rfl) fun _ => .nil
  | cleanupQueue =>
    refine ⟨[], rfl, fun i => .quiet .nil ?_ (stateKept_of_eq rfl)⟩
    intro e' he'
    rw [cleanup_entries hinv.queue, Option.map_eq_some_iff] at he'
    obtain ⟨e, he, rfl⟩ := he'
    refine .inr ⟨e, he, ?_⟩
    unfold unlistedUnlessQueued
    split <;> exact ⟨rfl, rfl, rfl⟩
  | @acknowledge packet record _ _ =>
    unfold acknowledgeRecord
    split
    · rcases acknowledgeDestroy_spec packet record hids with
        ⟨heq, -⟩ | ⟨i, d, e, -, -, -, -, heq⟩
      · simp only [heq]
        exact slotMoves_of_eq rfl rfl rfl fun _ => .nil
      · simp only [heq]
        have hquiet : ∀ slot, QuietCalls slot [.retireDestroy d packet] := fun _ => by simp [QuietCalls]
        exact slotMoves_of_eq rfl rfl rfl hquiet
    · split
      · exact slotMoves_of_eq rfl rfl rfl fun _ => .nil
      · rename_i slot _
        rcases acknowledgeEntity_spec core client slot record.frame with
          ⟨-, h⟩ | ⟨s, found, eligible, hs, hmem, hfr, -, -, h⟩
        · rw [h]
          exact slotMoves_of_eq rfl rfl rfl fun _ => .nil
        rw [h, ← hfr]
        cases eligible with
        | false =>
          refine ⟨[.acknowledgeEntity slot found.frame false s], rfl, fun i => .quiet (by simp [QuietCalls])
            (entryKept_of_eq rfl i)
              (stateKept_modify (f := acknowledgedState false found.quantizedFrame found.frame) rfl
              (fun s₁ _ => .inr ⟨?_, .inl rfl⟩) i)⟩
          intro p' hp'
          obtain ⟨hp, hlt⟩ := List.mem_filter.mp hp'
          simp only [Bool.not_eq_eq_eq_not, Bool.not_true, decide_eq_false_iff_not, Nat.not_le] at hlt
          refine ⟨hp, fun p hp => ?_⟩
          by_cases hle : p.frame ≤ found.frame
          · exact .inr (Nat.lt_of_le_of_lt hle hlt)
          · exact .inl (List.mem_filter.mpr ⟨hp, by simpa using hle⟩)
        | true =>
          refine ⟨[.acknowledgeEntity slot found.frame true s], rfl, fun i => ?_⟩
          by_cases hi : i = slot
          · subst hi
            refine .settle rfl hs hmem rfl ?_
            simp [logCall, modifyState, modifyEntry, hs]
          · refine .quiet (by simp [QuietCalls, Ne.symm hi]) ?_ (stateKept_of_eq ?_)
            · intro e' he'
              obtain ⟨e, he, ⟨rfl, -⟩ | ⟨rfl, -⟩⟩ := modifyEntry_get he'
              · exact .inr ⟨e', he, rfl, rfl, rfl⟩
              · exact absurd rfl hi
            · simp [logCall, modifyState, modifyEntry, Ne.symm hi]
  | forgetPackets _ _ => exact slotMoves_of_eq rfl rfl rfl fun _ => .nil
  | @pushCue slot state cue _ _ =>
    exact ⟨[.attachCue slot cue state.pending], rfl, fun i => .quiet (by simp [QuietCalls]) (entryKept_of_eq rfl i)
      (stateKept_modify (f := fun s => { s with pendingCues := s.pendingCues ++ [cue] }) rfl
        (fun _ _ => .inr ⟨.refl _, .inl rfl⟩) i)⟩

end

/-! ## The invariant -/

/-- What keeps an entry from settling while frames of its slot are pending: one of them, a mark, or a mark at the frame
of its baseline. -/
def Covered (calls : List Call) (slot : Nat) (s : ClientEntityState) (e : DirtyEntry) : Prop :=
  (∃ p ∈ s.pending, e.dirtyFrame ≤ p.frame) ∨
  (∃ frame, Call.markDirty slot frame ∈ calls ∧ e.dirtyFrame ≤ frame) ∨
    e.queued = true ∧ e.dirtyFrame = e.baselineFrame + 1

structure SettleInv (core : ServerCore) (client : ServerClientReplicator) : Prop where
  positive : ∀ (slot : Nat) (s : ClientEntityState), client.states[slot]? = some s →
    ∀ p ∈ s.pending, 0 < p.frame
  aboveBaseline : ∀ (slot : Nat) (s : ClientEntityState), client.states[slot]? = some s → ∀ p ∈ s.pending,
    ∀ q f, s.baseline = some q → core.quantizedFrames[q]? = some f → f.frame < p.frame
  aboveEntry : ∀ (slot : Nat) (s : ClientEntityState) (e : DirtyEntry), client.states[slot]? = some s →
    client.dirtyQueue.entries[slot]? = some e → ∀ p ∈ s.pending, e.baselineFrame < p.frame
  covered : ∀ (slot : Nat) (s : ClientEntityState) (e : DirtyEntry), client.states[slot]? = some s →
    client.dirtyQueue.entries[slot]? = some e → s.pending ≠ [] → Covered client.trace.calls slot s e
  settled : ∀ (slot : Nat) (frame : SyncFrame) (s : ClientEntityState) (after before : List Call),
    client.trace.calls = after ++ .acknowledgeEntity slot frame true s :: before →
    (∀ f, Call.markDirty slot f ∈ before → f ≤ frame) → (∀ f, Call.markDirty slot f ∉ after) →
    (∀ p ∈ s.pending, p.frame ≤ frame) → ∀ e, client.dirtyQueue.entries[slot]? = some e → e.queued = false

section

variable {core core' : ServerCore} {client client' : ServerClientReplicator} {slot : Nat}

/-- The frame of a baseline that was held before a move is the one it had. -/
theorem baseline_frame_kept {others : Nat → Nat} (hinv : ClientInv core client others) (he : Evolves core core')
    {s : ClientEntityState} {q : Nat} {f' : QuantizedFrame} (hs : client.states[slot]? = some s) (hq : 0 < s.holds q)
    (hf' : core'.quantizedFrames[q]? = some f') (ha' : f'.active = true) :
    ∃ f, core.quantizedFrames[q]? = some f ∧ f.frame = f'.frame := by
  obtain ⟨f, hf, ha⟩ := hinv.ref.state_alive hs hq
  rcases he q f' hf' ha' with ⟨f₁, hf₁, -, hc⟩ | ⟨hidle, -⟩
  · exact ⟨f₁, hf₁, hc.frame.symm⟩
  · simp [ServerCore.quantizedFrameActive, hf, ha] at hidle

theorem requeueEntry_baseline (core : ServerCore) (st : Option ClientEntityState) (e : DirtyEntry) :
    (requeueEntry core st e).baselineFrame = e.baselineFrame ∨
      ∃ s q f, st = some s ∧ s.baseline = some q ∧ core.quantizedFrames[q]? = some f ∧
        (requeueEntry core st e).baselineFrame = f.frame := by
  unfold requeueEntry
  split
  · exact .inl rfl
  simp only
  split
  · exact .inl rfl
  rename_i s
  split
  · rename_i q hq
    split
    · rename_i hact
      unfold ServerCore.quantizedFrameActive at hact
      cases hf : core.quantizedFrames[q]? with
      | none => simp [hf] at hact
      | some f => exact .inr ⟨s, q, f, rfl, hq, hf, by simp [ServerCore.quantizedFrameFrame, hf]⟩
    · exact .inl rfl
  · exact .inl rfl

theorem sentState_pending_new (fullState : Bool) (q : Nat) (frame : SyncFrame) (s : ClientEntityState) :
    ∃ p ∈ (sentState fullState q frame s).pending, p.frame = frame := by
  refine ⟨{ quantizedFrame := q, frame, baselineEpochWhenSent := (droppedState fullState s).baselineEpoch },
    ?_, rfl⟩
  simp only [sentState, SendLoop.pushPending]
  rw [List.drop_append_of_le_length]
  · exact List.mem_append_right _ (List.mem_singleton.mpr rfl)
  · simp only [List.length_append, List.length_singleton, baselineRetentionCount]
    omega

theorem sentState_baseline {fullState : Bool} {q q' : Nat} {frame : SyncFrame} {s : ClientEntityState}
    (h : (sentState fullState q frame s).baseline = some q') : s.baseline = some q' := by
  unfold sentState droppedState at h
  simp only at h
  split at h
  · simp at h
  · exact h

theorem acknowledged_pending {eligible : Bool} {q : Nat} {frame : SyncFrame} {s : ClientEntityState}
    {p : PendingQuantizedFrame} :
    p ∈ (acknowledgedState eligible q frame s).pending ↔ p ∈ s.pending ∧ frame < p.frame := by
  simp [acknowledgedState, acknowledgeCues]

theorem SettleInv.aboveBaseline_own {others : Nat → Nat} (hinv : ClientInv core client others)
    (hb : BaselineInv core client) (h : SettleInv core client) (m : LocalMove True core client core' client')
    {new : List Call} (hm : SlotMove core client client' slot new) (s' : ClientEntityState)
    (hs' : client'.states[slot]? = some s') :
    ∀ p ∈ s'.pending, ∀ q f', s'.baseline = some q → core'.quantizedFrames[q]? = some f' →
    f'.frame < p.frame := by
  intro p hp q f' hq hf'
  have ha' : f'.active = true := by
    obtain ⟨f₁, hf₁, ha₁⟩ := (m.ref hinv.ref).state_alive hs' (holds_of_baseline hq)
    rw [hf'] at hf₁
    exact Option.some.inj hf₁ ▸ ha₁
  have he := m.evolves hinv.ref
  cases hm with
  | quiet _ _ hst =>
    rcases hst s' hs' with ⟨hnil, -⟩ | ⟨s, hs, htrim, hbase⟩
    · simp [hnil] at hp
    · rcases hbase with hbase | hnone
      · rw [hbase] at hq
        obtain ⟨f, hf, hframe⟩ := baseline_frame_kept hinv he hs (holds_of_baseline hq) hf' ha'
        rw [← hframe]
        exact h.aboveBaseline slot s hs p (htrim p hp).1 q f hq hf
      · simp [hnone] at hq
  | mark _ _ _ hst =>
    rw [hst] at hs'
    rcases ensureCapacity_get hs' with hs | ⟨-, rfl⟩
    · obtain ⟨f, hf, hframe⟩ := baseline_frame_kept hinv he hs (holds_of_baseline hq) hf' ha'
      rw [← hframe]
      exact h.aboveBaseline slot s' hs p hp q f hq hf
    · simp at hp
  | @send s fullState q₁ _ hs hpos hold _ hst =>
    rw [hst] at hs'
    obtain rfl := Option.some.inj hs'
    have hq := sentState_baseline hq
    obtain ⟨f, hf, hframe⟩ := baseline_frame_kept hinv he hs (holds_of_baseline hq) hf' ha'
    rw [← hframe]
    rcases sentState_pending hp with hp | hp
    · exact h.aboveBaseline slot s hs p hp q f hq hf
    · obtain ⟨-, f₁, mask, w, hsrc, -⟩ := hb.baseline slot s q hs hq
      obtain ⟨_, record, cues, hcon⟩ := hsrc.record.content
      rw [hsrc.get] at hf
      obtain rfl := Option.some.inj hf
      rw [hp, ← hsrc.record.frame]
      exact hold w hsrc.record.written (by simp [WrittenRecord.slot?, hcon])
  | @settle s found _ hs hmem _ hst =>
    rw [hst] at hs'
    obtain rfl := Option.some.inj hs'
    obtain ⟨-, hlt⟩ := acknowledged_pending.mp hp
    obtain rfl : found.quantizedFrame = q := by simpa [acknowledgedState, acknowledgeCues] using hq
    obtain ⟨f, hf, hframe⟩ := baseline_frame_kept hinv he hs (holds_of_pending hmem) hf' ha'
    obtain ⟨-, -, f₁, mask, w, hsrc, hpf, -⟩ := hb.pending slot s hs found hmem
    rw [hsrc.get] at hf
    obtain rfl := Option.some.inj hf
    rw [← hframe, hpf]
    exact hlt

theorem SettleInv.positive_own (h : SettleInv core client) {new : List Call}
    (hm : SlotMove core client client' slot new) (s' : ClientEntityState) (hs' : client'.states[slot]? = some s') :
    ∀ p ∈ s'.pending, 0 < p.frame := by
  intro p hp
  cases hm with
  | quiet _ _ hst =>
    rcases hst s' hs' with ⟨hnil, -⟩ | ⟨s, hs, htrim, -⟩
    · simp [hnil] at hp
    · exact h.positive slot s hs p (htrim p hp).1
  | mark _ _ _ hst =>
    rw [hst] at hs'
    rcases ensureCapacity_get hs' with hs | ⟨-, rfl⟩
    · exact h.positive slot s' hs p hp
    · simp at hp
  | @send s _ _ _ hs hpos _ _ hst =>
    rw [hst] at hs'
    obtain rfl := Option.some.inj hs'
    rcases sentState_pending hp with hp | hp
    · exact h.positive slot s hs p hp
    · exact hp ▸ hpos
  | @settle s found _ hs _ _ hst =>
    rw [hst] at hs'
    obtain rfl := Option.some.inj hs'
    exact h.positive slot s hs p (acknowledged_pending.mp hp).1

theorem SettleInv.aboveEntry_own (hd : DirtyInv core client) (h : SettleInv core client) {new : List Call}
    (hm : SlotMove core client client' slot new) (s' : ClientEntityState) (e' : DirtyEntry)
    (hs' : client'.states[slot]? = some s') (he' : client'.dirtyQueue.entries[slot]? = some e') :
    ∀ p ∈ s'.pending, e'.baselineFrame < p.frame := by
  intro p hp
  have hpos := h.positive_own hm s' hs' p hp
  cases hm with
  | quiet _ hent hst =>
    rcases hst s' hs' with ⟨hnil, -⟩ | ⟨s, hs, htrim, -⟩
    · simp [hnil] at hp
    rcases hent e' he' with ⟨-, -, hzero⟩ | ⟨e, he, -, -, hbase⟩
    · rw [hzero]
      exact hpos
    · rw [hbase]
      exact h.aboveEntry slot s e hs he p (htrim p hp).1
  | @mark e _ he hent hst =>
    rw [hent] at he'
    obtain rfl := Option.some.inj he'
    rw [hst] at hs'
    rcases ensureCapacity_get hs' with hs | ⟨-, rfl⟩
    swap
    · simp at hp
    show (requeueEntry core _ e).baselineFrame < p.frame
    rcases requeueEntry_baseline core (client.ensureCapacity core.replicated.length).states[slot]? e with
      hbase | ⟨s₁, q, f, hs₁, hq, hf, hbase⟩
    · rw [hbase]
      rcases entries_capacity_get he with he | ⟨-, rfl⟩
      · exact h.aboveEntry slot s' e hs he p hp
      · exact hpos
    · rw [hs'] at hs₁
      obtain rfl := Option.some.inj hs₁
      rw [hbase]
      exact h.aboveBaseline slot s' hs p hp q f hq hf
  | @send s _ _ _ hs hpos hold hent hst =>
    rw [hst] at hs'
    obtain rfl := Option.some.inj hs'
    rw [hent] at he'
    obtain ⟨e, he, ⟨-, hne⟩ | ⟨-, rfl⟩⟩ := modifyEntry_get he'
    · exact absurd rfl hne
    show e.baselineFrame < p.frame
    rcases sentState_pending hp with hp | hp
    · exact h.aboveEntry slot s e hs he p hp
    · rw [hp]
      rcases (hd.entry slot e he).baseline with hzero | ⟨w, hw, hslot, hframe⟩
      · exact hzero ▸ hpos
      · exact hframe ▸ hold w hw hslot
  | @settle s found _ hs _ hent hst =>
    rw [hst] at hs'
    obtain rfl := Option.some.inj hs'
    rw [hent] at he'
    obtain ⟨e, he, ⟨-, hne⟩ | ⟨-, rfl⟩⟩ := modifyEntry_get he'
    · exact absurd rfl hne
    have hbase : (settleEntry found.frame e).baselineFrame = found.frame := by
      unfold settleEntry
      split <;> rfl
    rw [hbase]
    exact (acknowledged_pending.mp hp).2

/-- A marked entry: its dirty frame is the mark's, the one it had, or just above its baseline. -/
theorem markedEntry_cases {e : DirtyEntry} (hd : DirtyInv core client) (hb : BaselineInv core client)
    (he : (client.ensureCapacity core.replicated.length).dirtyQueue.entries[slot]? = some e) :
    let e' :=
      raiseDirtyFrame (requeueEntry core (client.ensureCapacity core.replicated.length).states[slot]? e) core.frame
    e'.dirtyFrame ≤ core.frame ∨ e'.dirtyFrame = e.dirtyFrame ∨ e'.dirtyFrame = e'.baselineFrame + 1 := by
  have hbase := requeueEntry_ok (client.ensureCapacity core.replicated.length).states[slot]? hb
    (((hd.ensureCapacity core.replicated.length).entry slot e he).mono fun _ hw => hw) fun s hs =>
      (ensureCapacity_get hs).imp id And.right
  have hsame := (requeueEntry_listed core (client.ensureCapacity core.replicated.length).states[slot]? e).2.1
  have hsmall : (requeueEntry core (client.ensureCapacity core.replicated.length).states[slot]? e).baselineFrame + 1 <
      2 ^ 32 := by
    rcases hbase with h0 | ⟨w, hw, hslot, hframe⟩
    · rw [h0]
      decide
    · rw [← hframe]
      exact hd.bounded w hw (by simp [hslot])
  generalize requeueEntry core (client.ensureCapacity core.replicated.length).states[slot]? e = r at *
  unfold raiseDirtyFrame
  simp only
  split
  · exact .inr (.inr (Nat.mod_eq_of_lt hsmall))
  · rcases Nat.le_total r.dirtyFrame core.frame with hle | hle
    · exact .inl (Nat.max_le.mpr ⟨hle, Nat.le_refl _⟩)
    · exact .inr (.inl ((Nat.max_eq_left hle).trans hsame))

theorem Covered.mono {calls new : List Call} {s : ClientEntityState} {e e' : DirtyEntry} (h : Covered calls slot s e)
    (hq : e'.queued = e.queued) (hdirty : e'.dirtyFrame = e.dirtyFrame) (hbase : e'.baselineFrame = e.baselineFrame) :
    Covered (new ++ calls) slot s e' := by
  rcases h with ⟨p, hp, hle⟩ | ⟨frame, hm, hle⟩ | ⟨hqueued, heq⟩
  · exact .inl ⟨p, hp, hdirty ▸ hle⟩
  · exact .inr (.inl ⟨frame, List.mem_append_right _ hm, hdirty ▸ hle⟩)
  · exact .inr (.inr ⟨hq.trans hqueued, by rw [hdirty, hbase, heq]⟩)

/-- The oldest pending frames do not matter while a younger one is left. -/
theorem Covered.trim {calls : List Call} {s s' : ClientEntityState} {e : DirtyEntry} (h : Covered calls slot s e)
    (ht : Trimmed s.pending s'.pending) (hne : s'.pending ≠ []) : Covered calls slot s' e := by
  obtain ⟨p', hp'⟩ := List.exists_mem_of_ne_nil _ hne
  rcases h with ⟨p, hp, hle⟩ | h
  · rcases (ht p' hp').2 p hp with hin | hlt
    · exact .inl ⟨p, hin, hle⟩
    · exact .inl ⟨p', hp', Nat.le_of_lt (Nat.lt_of_le_of_lt hle hlt)⟩
  · exact .inr h

theorem SettleInv.covered_own (hd : DirtyInv core client) (hb : BaselineInv core client) (h : SettleInv core client)
    {new : List Call} (hcalls : client'.trace.calls = new ++ client.trace.calls)
    (hm : SlotMove core client client' slot new) (s' : ClientEntityState) (e' : DirtyEntry)
    (hs' : client'.states[slot]? = some s') (he' : client'.dirtyQueue.entries[slot]? = some e')
    (hne : s'.pending ≠ []) :
    Covered client'.trace.calls slot s' e' := by
  rw [hcalls]
  obtain ⟨p', hp'⟩ := List.exists_mem_of_ne_nil _ hne
  cases hm with
  | quiet _ hent hst =>
    rcases hst s' hs' with ⟨hnil, -⟩ | ⟨s, hs, htrim, -⟩
    · exact absurd hnil hne
    rcases hent e' he' with ⟨-, hzero, -⟩ | ⟨e, he, hq, hdirty, hbase⟩
    · exact .inl ⟨p', hp', hzero ▸ Nat.zero_le _⟩
    · have hold : s.pending ≠ [] := List.ne_nil_of_mem (htrim p' hp').1
      exact ((h.covered slot s e hs he hold).mono hq hdirty hbase).trim htrim hne
  | @mark e hnew he hent hst =>
    rw [hent] at he'
    obtain rfl := Option.some.inj he'
    rw [hst] at hs'
    rcases ensureCapacity_get hs' with hs | ⟨-, rfl⟩
    swap
    · simp at hne
    have hqueued := (requeueEntry_listed core (client.ensureCapacity core.replicated.length).states[slot]? e).2.2
    rcases markedEntry_cases hd hb he with hle | hsame | habove
    · exact .inr (.inl ⟨core.frame, by simp [hnew], hle⟩)
    · rcases entries_capacity_get he with he | ⟨-, rfl⟩
      · rcases h.covered slot s' e hs he hne with ⟨p, hp, hle⟩ | ⟨frame, hmark, hle⟩ | ⟨hq, habove⟩
        · exact .inl ⟨p, hp, hsame ▸ hle⟩
        · exact .inr (.inl ⟨frame, List.mem_append_right _ hmark, hsame ▸ hle⟩)
        · refine .inr (.inr ⟨hqueued, ?_⟩)
          rw [hsame, habove]
          -- an entry in the queue keeps its baseline
          unfold requeueEntry
          rw [if_pos hq]
          rfl
      · exact .inl ⟨p', hp', hsame ▸ Nat.zero_le _⟩
    · exact .inr (.inr ⟨hqueued, habove⟩)
  | @send s fullState q _ hs _ _ hent hst =>
    rw [hst] at hs'
    obtain rfl := Option.some.inj hs'
    rw [hent] at he'
    obtain ⟨e, he, ⟨-, hne⟩ | ⟨-, rfl⟩⟩ := modifyEntry_get he'
    · exact absurd rfl hne
    obtain ⟨p, hp, hframe⟩ := sentState_pending_new fullState q core.frame s
    exact .inl ⟨p, hp, Nat.le_of_eq hframe.symm⟩
  | @settle s found _ hs hmem hent hst =>
    rw [hst] at hs'
    obtain rfl := Option.some.inj hs'
    rw [hent] at he'
    obtain ⟨e, he, ⟨-, hne⟩ | ⟨-, rfl⟩⟩ := modifyEntry_get he'
    · exact absurd rfl hne
    obtain ⟨-, hlt'⟩ := acknowledged_pending.mp hp'
    unfold settleEntry
    split
    · rename_i hle
      exact .inl ⟨p', hp', Nat.le_of_lt (Nat.lt_of_le_of_lt hle hlt')⟩
    · rename_i hlt
      have hlt : found.frame < e.dirtyFrame := Nat.lt_of_not_le hlt
      rcases h.covered slot s e hs he (List.ne_nil_of_mem hmem) with ⟨p, hp, hle⟩ | ⟨frame, hmark,
        hle⟩ | ⟨-, habove⟩
      · exact .inl ⟨p, acknowledged_pending.mpr ⟨hp, Nat.lt_of_lt_of_le hlt hle⟩, hle⟩
      · exact .inr (.inl ⟨frame, List.mem_append_right _ hmark, hle⟩)
      · have hbase := h.aboveEntry slot s e hs he found hmem
        rw [habove] at hlt
        exact absurd hbase (Nat.not_lt.mpr (Nat.lt_succ_iff.mp hlt))

theorem SettleInv.settled_own (h : SettleInv core client) {new : List Call}
    (hcalls : client'.trace.calls = new ++ client.trace.calls) (hm : SlotMove core client client' slot new)
    (frame : SyncFrame) (s : ClientEntityState) (after before : List Call)
    (hsplit : client'.trace.calls = after ++ .acknowledgeEntity slot frame true s :: before)
    (hmarks : ∀ f, Call.markDirty slot f ∈ before → f ≤ frame) (hafter : ∀ f, Call.markDirty slot f ∉ after)
    (hlast : ∀ p ∈ s.pending, p.frame ≤ frame) (e' : DirtyEntry)
    (he' : client'.dirtyQueue.entries[slot]? = some e') :
    e'.queued = false := by
  rw [hcalls] at hsplit
  -- an older acknowledgement already settled the entry
  have hold : Call.acknowledgeEntity slot frame true s ∉ new → ∀ e, client.dirtyQueue.entries[slot]? = some e →
      e.queued = false := by
    intro hno e he
    obtain ⟨after', hafter', hlog⟩ := EventLog.split_old hsplit hno
    refine h.settled slot frame s after' before hlog hmarks (fun f hf => ?_) hlast e he
    exact hafter f (hafter' ▸ List.mem_append_right _ hf)
  cases hm with
  | quiet hquiet hent _ =>
    rcases hent e' he' with ⟨hq, -⟩ | ⟨e, he, hq, -⟩
    · exact hq
    · rw [hq]
      exact hold (fun hin => (hquiet _ hin).2 frame s rfl) e he
  | mark hnew _ _ _ =>
    obtain ⟨after', rfl, -⟩ := EventLog.split_old hsplit (by simp [hnew])
    exact absurd (List.mem_append_left _ (by simp [hnew])) (hafter core.frame)
  | send hquiet hs _ _ hent _ =>
    rw [hent] at he'
    obtain ⟨e, he, ⟨rfl, -⟩ | ⟨-, rfl⟩⟩ := modifyEntry_get he'
    · exact hold (fun hin => (hquiet _ hin).2 frame s rfl) e' he
    · exact hold (fun hin => (hquiet _ hin).2 frame s rfl) e he
  | @settle s₁ found hnew hs hmem hent _ =>
    rw [hent] at he'
    obtain ⟨e, he, ⟨-, hne⟩ | ⟨-, rfl⟩⟩ := modifyEntry_get he'
    · exact absurd rfl hne
    cases after with
    | nil =>
      -- the acknowledgement itself: every reason to stay queued is covered by its frame
      rw [hnew] at hsplit
      obtain ⟨hack, rfl⟩ := List.cons.inj hsplit
      obtain ⟨-, rfl, -, rfl⟩ := Call.acknowledgeEntity.inj hack
      have hle : e.dirtyFrame ≤ found.frame := by
        rcases h.covered slot s₁ e hs he (List.ne_nil_of_mem hmem) with ⟨p, hp, hle⟩ | ⟨f, hmark,
          hle⟩ | ⟨-, habove⟩
        · exact Nat.le_trans hle (hlast p hp)
        · exact Nat.le_trans hle (hmarks f hmark)
        · rw [habove]
          exact h.aboveEntry slot s₁ e hs he found hmem
      unfold settleEntry
      rw [if_pos hle]
    | cons call after =>
      have hlog : client.trace.calls = after ++ .acknowledgeEntity slot frame true s :: before := by
        rw [hnew] at hsplit
        exact (List.cons.inj hsplit).2
      have hq := h.settled slot frame s after before hlog hmarks
        (fun f hf => hafter f (List.mem_cons_of_mem _ hf)) hlast e he
      unfold settleEntry
      split
      · rfl
      · exact hq

end

theorem settleRule : ClientRule True fun core client =>
    (IdInv client ∧ BaselineInv core client ∧ DirtyInv core client) ∧ SettleInv core client where
  new core peer id := ⟨dirtyRule.new core peer id, ⟨by simp, by simp, by simp, by simp, by simp⟩⟩
  own := by
    rintro core client core' client' others hinv m ⟨⟨hids, hb, hd⟩, h⟩
    refine ⟨dirtyRule.own hinv m ⟨hids, hb, hd⟩, ?_⟩
    obtain ⟨new, hcalls, hslots⟩ := m.slotMoves hinv hids
    exact
      { positive := fun slot => h.positive_own (hslots slot)
        aboveBaseline := fun slot => h.aboveBaseline_own hinv hb m (hslots slot)
        aboveEntry := fun slot => h.aboveEntry_own hd (hslots slot)
        covered := fun slot => h.covered_own hd hb hcalls (hslots slot)
        settled := fun slot => h.settled_own hcalls (hslots slot) }
  around := by
    rintro core client core' others others' hinv hinv' har ⟨hdirty, h⟩
    refine ⟨dirtyRule.around hinv hinv' har hdirty, { h with aboveBaseline := ?_ }⟩
    intro slot s hs p hp q f' hq hf'
    obtain ⟨f₁, hf₁, ha₁⟩ := hinv'.ref.state_alive hs (holds_of_baseline hq)
    rw [hf'] at hf₁
    obtain rfl := Option.some.inj hf₁
    obtain ⟨f, hf, hframe⟩ := baseline_frame_kept hinv har.evolves hs (holds_of_baseline hq) hf' ha₁
    rw [← hframe]
    exact h.aboveBaseline slot s hs p hp q f hq hf

/-! ## Sends that skip a slot -/

structure Skipped (s : ReplicationServer) (c slot : Nat) (acc : ReplicationServer × List SerializedCandidate) :
    Prop where
  entry : ∀ client e, acc.1.clients[c]? = some client → client.dirtyQueue.entries[slot]? = some e →
    e.queued = false
  entities : acc.1.core.replicated.map (·.entity) = s.core.replicated.map (·.entity)
  written : ∀ client', acc.1.clients[c]? = some client' →
    ∃ client, s.clients[c]? = some client ∧ client'.trace.written = client.trace.written
  candidates : ∀ a ∈ acc.2, a.slot? ≠ some slot

section

variable {s : ReplicationServer} {c slot : Nat}

theorem SameSlots.entities_eq {core core' : ServerCore} (h : SameSlots core core') :
    core'.replicated.map (·.entity) = core.replicated.map (·.entity) := by
  have := congrArg (List.map Prod.fst) h.view
  simpa [slotView, Function.comp_def] using this

theorem deactivateReplicated_entities (s : ReplicationServer) (i : Nat) :
    (s.deactivateReplicated i).core.replicated.map (·.entity) = s.core.replicated.map (·.entity) := by
  unfold ReplicationServer.deactivateReplicated
  split
  · rfl
  split
  · rfl
  rename_i r _ _
  have hclear : ∀ clients core,
      (eachClient (fun core client => (core, client.clearDirty i)) core clients).1 = core := by
    intro clients
    induction clients with
    | nil => exact fun _ => rfl
    | cons client rest ih => exact fun core => ih core
  have hstop := (eachClient_sameSlots (f := stopReplicating i r.entity) (fun core client => by
    unfold stopReplicating
    rw [enqueueDestroy_core]
    exact clearState_sameSlots ..) s.clients (ReplicationServer.deactivateSlot s.core i r.entity)).entities_eq
  show (eachClient _ _ _).1.replicated.map _ = _
  rw [hclear]
  refine hstop.trans ?_
  simp only [ReplicationServer.deactivateSlot]
  apply List.ext_getElem?
  intro j
  simp only [List.getElem?_map, List.getElem?_modify]
  cases s.core.replicated[j]? with
  | none => rfl
  | some r => by_cases hj : i = j <;> simp [hj]

theorem deactivateReplicated_entry {i : Nat} {client' : ServerClientReplicator} {e : DirtyEntry} (hi : slot ≠ i)
    (h : (s.deactivateReplicated i).clients[c]? = some client') (he : client'.dirtyQueue.entries[slot]? = some e) :
    ∃ client, s.clients[c]? = some client ∧ client.dirtyQueue.entries[slot]? = some e := by
  unfold ReplicationServer.deactivateReplicated at h
  split at h
  · exact ⟨client', h, he⟩
  split at h
  · exact ⟨client', h, he⟩
  rename_i r _ _
  obtain ⟨_, client₁, h₁, rfl⟩ := eachClient_get _ _ c client' h
  obtain ⟨core, client₂, h₂, rfl⟩ := eachClient_get _ _ c client₁ h₁
  refine ⟨client₂, h₂, ?_⟩
  obtain ⟨e₁, he₁, ⟨rfl, -⟩ | ⟨rfl, -⟩⟩ := modifyEntry_get he
  · rw [enqueueDestroy_dirtyQueue] at he₁
    obtain ⟨e₂, he₂, ⟨rfl, -⟩ | ⟨rfl, -⟩⟩ := modifyEntry_get he₁
    · exact he₂
    · exact absurd rfl hi
  · exact absurd rfl hi

theorem updateCandidate_elsewhere (core : ServerCore) (client : ServerClientReplicator) {i : Nat} (hi : slot ≠ i)
    (entry : DirtyEntry) (decider : Entity → EntityReplicationDecision) :
    SameSlots core (client.updateCandidate core i entry decider).1 ∧
    (client.updateCandidate core i entry decider).2.1.trace = client.trace ∧
    (client.updateCandidate core i entry decider).2.1.dirtyQueue.entries[slot]? = client.dirtyQueue.entries[slot]? ∧
    ∀ a ∈ (client.updateCandidate core i entry decider).2.2, a.slot? = some i := by
  have hother : ∀ (client : ServerClientReplicator) (f : DirtyEntry → DirtyEntry),
      (client.modifyEntry i f).dirtyQueue.entries[slot]? = client.dirtyQueue.entries[slot]? := by
    intro client f
    simp [modifyEntry, Ne.symm hi]
  have hrefresh : ∃ core₁ client₁, client.refreshReplicationDecisionIfDue core i entry decider =
      (core₁, client₁) ∧
      SameSlots core core₁ ∧ client₁.trace = client.trace ∧
      client₁.dirtyQueue.entries[slot]? = client.dirtyQueue.entries[slot]? := by
    unfold refreshReplicationDecisionIfDue
    simp only
    split
    · exact ⟨core, client, rfl, .refl _, rfl, rfl⟩
    · split
      · exact ⟨core, client, rfl, .refl _, rfl, rfl⟩
      · rename_i r _
        refine ⟨(client.storeDecision core i (decider r.entity)).1,
          (client.storeDecision core i (decider r.entity)).2,
          rfl, storeDecision_sameSlots .., storeDecision_trace .., ?_⟩
        rw [storeDecision_dirtyQueue]
        exact hother ..
  obtain ⟨core₁, client₁, heq, hslots, htrace, hentry⟩ := hrefresh
  unfold updateCandidate
  simp only [heq]
  split
  · exact ⟨hslots, htrace, hentry, by simp⟩
  split
  · exact ⟨hslots, htrace, hentry, by simp⟩
  split
  · exact ⟨hslots, htrace, (hother ..).trans hentry, by simp⟩
  · exact ⟨hslots, htrace, (hother ..).trans hentry, by simp [SerializedCandidate.slot?]⟩

theorem updateCandidate_congr (core : ServerCore) (client : ServerClientReplicator) {i : Nat} (entry : DirtyEntry)
    {decider decider' : Entity → EntityReplicationDecision}
    (h : ∀ r, core.replicated[i]? = some r → decider' r.entity = decider r.entity) :
    client.updateCandidate core i entry decider' = client.updateCandidate core i entry decider := by
  have hrefresh : client.refreshReplicationDecisionIfDue core i entry decider' =
      client.refreshReplicationDecisionIfDue core i entry decider := by
    unfold refreshReplicationDecisionIfDue
    cases hr : core.replicated[i]? with
    | none => rfl
    | some r => simp only [h r hr]
  unfold updateCandidate
  rw [hrefresh]

theorem Skipped.step {acc : ReplicationServer × List SerializedCandidate} (h : Skipped s c slot acc)
    (registry : Registry) (decider : Entity → EntityReplicationDecision) (i : Nat) :
    Skipped s c slot (ReplicationServer.collectCandidate registry decider c acc i) := by
  obtain ⟨t, candidates⟩ := acc
  unfold ReplicationServer.collectCandidate
  simp only
  split
  · exact h
  rename_i client hc
  split
  · exact h
  rename_i entry hentry
  split
  · exact h
  rename_i hcond
  have hi : slot ≠ i := by
    rintro rfl
    simp [h.entry client entry hc hentry] at hcond
  split
  · split
    · refine ⟨?_, (deactivateReplicated_entities t i).trans h.entities, ?_, h.candidates⟩
      · intro client' e hc' he
        obtain ⟨client₁, hc₁, he₁⟩ := deactivateReplicated_entry hi hc' he
        exact h.entry client₁ e hc₁ he₁
      · intro client' hc'
        obtain ⟨client₁, hc₁, hel⟩ := deactivateReplicated_elsewhere hc'
        obtain ⟨client₀, hc₀, hw⟩ := h.written client₁ hc₁
        exact ⟨client₀, hc₀, hel.written.trans hw⟩
    · exact h
  · obtain ⟨hslots, htrace, hsame, hcand⟩ := updateCandidate_elsewhere t.core client hi entry decider
    refine ⟨?_, hslots.entities_eq.trans h.entities, ?_, ?_⟩
    · intro client' e hc' he
      rw [setClient_get hc] at hc'
      obtain rfl := Option.some.inj hc'
      exact h.entry client e hc (hsame ▸ he)
    · intro client' hc'
      rw [setClient_get hc] at hc'
      obtain rfl := Option.some.inj hc'
      obtain ⟨client₀, hc₀, hw⟩ := h.written client hc
      exact ⟨client₀, hc₀, by rw [htrace, hw]⟩
    · intro a ha
      rcases List.mem_append.mp ha with ha | ha
      · exact h.candidates a ha
      · rw [hcand a (by simpa using ha)]
        exact fun heq => hi (Option.some.inj heq).symm

theorem Skipped.congr {acc : ReplicationServer × List SerializedCandidate} (h : Skipped s c slot acc)
    (registry : Registry) {decider decider' : Entity → EntityReplicationDecision}
    (hagree : ∀ j r, j ≠ slot → s.core.replicated[j]? = some r → decider' r.entity = decider r.entity)
    (i : Nat) :
    ReplicationServer.collectCandidate registry decider' c acc i =
      ReplicationServer.collectCandidate registry decider c acc i := by
  obtain ⟨t, candidates⟩ := acc
  unfold ReplicationServer.collectCandidate
  simp only
  split
  · rfl
  rename_i client hc
  split
  · rfl
  rename_i entry hentry
  split
  · rfl
  rename_i hcond
  have hi : i ≠ slot := by
    rintro rfl
    simp [h.entry client entry hc hentry] at hcond
  rw [updateCandidate_congr]
  intro r hr
  have hent := congrArg (·[i]?) h.entities
  simp only [List.getElem?_map, hr, Option.map_some] at hent
  obtain ⟨r₀, hr₀, heq⟩ := Option.map_eq_some_iff.mp hent.symm
  rw [← heq]
  exact hagree i r₀ hi hr₀

/-- The whole candidate loop: what it keeps, and that it is the same for every answer about `slot`. -/
theorem collect_skips (registry : Registry) {decider decider' : Entity → EntityReplicationDecision}
    (hagree : ∀ j r, j ≠ slot → s.core.replicated[j]? = some r → decider' r.entity = decider r.entity) :
    ∀ (l : List Nat) (acc : ReplicationServer × List SerializedCandidate), Skipped s c slot acc →
    Skipped s c slot (l.foldl (ReplicationServer.collectCandidate registry decider c) acc) ∧
      l.foldl (ReplicationServer.collectCandidate registry decider' c) acc =
        l.foldl (ReplicationServer.collectCandidate registry decider c) acc
  | [], acc, h => ⟨h, rfl⟩
  | i :: l, acc, h => by
    simp only [List.foldl_cons]
    rw [h.congr registry hagree i]
    exact collect_skips registry hagree l _ (h.step registry decider i)

/-! ## Packets without the slot -/

def NothingWritten (slot : Nat) (written : List WrittenRecord) (client : ServerClientReplicator) : Prop :=
  ∀ w ∈ client.trace.written, w.slot? = some slot → w ∈ written

variable {written : List WrittenRecord} {l l' : SendLoop}

theorem NothingWritten.flush (h : NothingWritten slot written l.client) :
    NothingWritten slot written l.flush.client := by
  simp only [SendLoop.flush]
  rw [(sendPacket_spec ..).same]
  exact h

theorem NothingWritten.flushIfFull (h : NothingWritten slot written l.client) (bits : Nat) :
    NothingWritten slot written (l.flushIfFull bits).client := by
  unfold SendLoop.flushIfFull
  split
  · exact h.flush
  · exact h

theorem NothingWritten.add {client client' : ServerClientReplicator} (h : NothingWritten slot written client)
    {w : WrittenRecord} (hw : client'.trace.written = w :: client.trace.written) (hslot : w.slot? ≠ some slot) :
    NothingWritten slot written client' := by
  intro v hv hvslot
  rw [hw] at hv
  rcases List.mem_cons.mp hv with rfl | hv
  · exact absurd hvslot hslot
  · exact h v hv hvslot

theorem NothingWritten.sendUpdate (h : NothingWritten slot written l.client) {registry : Registry} {i : Nat}
    {mask : Mask} (hi : i ≠ slot) (hsend : l.sendUpdate registry i mask = .ok l') :
    NothingWritten slot written l'.client := by
  unfold SendLoop.sendUpdate at hsend
  split at hsend
  · rw [Monadic.pure_eq_ok] at hsend
    exact hsend ▸ h
  rename_i hrep
  have hact : l.core.replicatedSlotActive i = true := by
    simp only [ServerCore.replicatedIsReplicable, ServerCore.replicatedSlotActive] at hrep ⊢
    split <;> simp_all
  rw [Monadic.bind_eq_ok] at hsend
  obtain ⟨⟨core₁, client₁, serialized⟩, hserialize, hsend⟩ := hsend
  obtain ⟨-, hclient, -⟩ := serializeEntity_frame hact hserialize
  have h₁ : NothingWritten slot written client₁ := by
    rw [hclient]
    exact h
  cases serialized with
  | none =>
    simp only [Monadic.pure_eq_ok] at hsend
    exact hsend ▸ h₁
  | some serialized =>
    have h₂ := NothingWritten.flushIfFull (l := { l with
      core := core₁.retainQuantizedFrame serialized.quantizedFrame, client :=
        client₁ }) h₁ (1 + serialized.payloadBits)
    simp only at hsend
    generalize SendLoop.flushIfFull { l with
      core := core₁.retainQuantizedFrame serialized.quantizedFrame, client := client₁ }
      (1 + serialized.payloadBits) = l₁ at h₂ hsend
    split at hsend
    · rw [Monadic.pure_eq_ok] at hsend
      subst hsend
      unfold SendLoop.refuseUpdate
      simp only
      split <;> exact h₂
    · rw [Monadic.pure_eq_ok] at hsend
      subst hsend
      unfold SendLoop.acceptUpdate
      cases hw : l₁.updateWritten i mask serialized with
      | none => exact h₂
      | some w =>
        obtain ⟨state, hstate, hslot, -⟩ := updateWritten_state hw
        have hstate' : (l₁.client.logWritten w).states[i]? = some state := hstate
        have htrace := recordSent_calls l₁.core (l₁.client.logWritten w) serialized hstate'
        have hwritten := congrArg Trace.written htrace
        exact h₂.add hwritten (by simp [hslot, hi])

theorem NothingWritten.sendDestroy (h : NothingWritten slot written l.client) (index : Nat) :
    NothingWritten slot written (l.sendDestroy index).client := by
  unfold SendLoop.sendDestroy
  split
  · exact h
  rename_i destroy _
  simp only
  have hf := h.flushIfFull (destroyRecordBits destroy.networkId l.core.options.protocol.networkEntityIdTier0Bits)
  split
  · exact hf
  split
  · exact hf
  · exact hf.add rfl (by simp [WrittenRecord.slot?])

theorem sendCandidates_written {registry : Registry} {available : Nat}
    {collected : ReplicationServer × List SerializedCandidate} {client' : ServerClientReplicator}
    {result : ReplicationServer × ReplicationSendResult}
    (h : Skipped s c slot collected)
    (hsend : ReplicationServer.sendCandidates c registry available collected = .ok result)
    (hc' : result.1.clients[c]? = some client') :
    ∃ client, s.clients[c]? = some client ∧ NothingWritten slot client.trace.written client' := by
  obtain ⟨t, updates⟩ := collected
  unfold ReplicationServer.sendCandidates at hsend
  simp only at hsend
  split at hsend
  · rw [Monadic.pure_eq_ok] at hsend
    subst hsend
    obtain ⟨client, hc, hw⟩ := h.written client' hc'
    exact ⟨client, hc, fun w hin _ => hw ▸ hin⟩
  rename_i client₁ hc₁
  obtain ⟨client, hc, hw⟩ := h.written client₁ hc₁
  rw [Monadic.bind_eq_ok] at hsend
  obtain ⟨l, hloop, hsend⟩ := hsend
  rw [Monadic.pure_eq_ok] at hsend
  subst hsend
  rw [setClient_get hc₁] at hc'
  obtain rfl := Option.some.inj hc'
  refine ⟨client, hc, ?_⟩
  have hl : NothingWritten slot client.trace.written l.client := by
    have key := Monadic.foldlM_inv (fun rest l => (∀ a ∈ rest, a.slot? ≠ some slot) ∧
      NothingWritten slot client.trace.written l.client) _ _ _ ?_ ?_ hloop
    · exact key.2
    · rintro a rest l l' ⟨hrest, hl⟩ hstep
      refine ⟨fun b hb => hrest b (by simp [hb]), ?_⟩
      have ha := hrest a (by simp)
      unfold SendLoop.sendCandidate at hstep
      split at hstep
      · exact Except.ok.inj hstep ▸ hl
      cases a with
      | destroy index => exact Except.ok.inj hstep ▸ hl.sendDestroy index
      | update i priority mask => exact hl.sendUpdate (fun hi => ha (by simp [SerializedCandidate.slot?, hi])) hstep
    · refine ⟨fun a ha => ?_, fun w hin _ => hw ▸ hin⟩
      rcases List.mem_append.mp ha with ha | ha
      · obtain ⟨index, -, rfl⟩ := List.mem_map.mp ha
        simp [SerializedCandidate.slot?]
      · exact h.candidates a ((sortByPriority_perm t.core.options.floats updates).mem_iff.mp ha)
  show NothingWritten slot client.trace.written l.finish.client.cleanupDirtyQueue
  unfold SendLoop.finish
  split
  · exact hl
  split
  · exact hl.flush
  · exact hl

end

/-! ## Settled entities -/

section

open ReplicationServer

variable {options : ReplicationServerOptions} {settings : SyncSettings} {s : ReplicationServer}

/-- Once a baseline sent at `frame` is acknowledged, with no later mark and no later frame of the slot in flight, the
slot is off the queue until its next mark: no send asks the decider about it, or serializes or writes a record of it. -/
theorem acknowledged_settles (h : InOrderReachable options settings s) (c : Nat) (client : ServerClientReplicator)
    (hc : s.clients[c]? = some client) (slot : Nat) (frame : SyncFrame) (state : ClientEntityState)
    (after before : List Call)
    (hcalls : client.trace.calls = after ++ .acknowledgeEntity slot frame true state :: before)
    (hmarks : ∀ f, Call.markDirty slot f ∈ before → f ≤ frame) (hafter : ∀ f, Call.markDirty slot f ∉ after)
    (hlast : ∀ p ∈ state.pending, p.frame ≤ frame) :
    (∀ e, client.dirtyQueue.entries[slot]? = some e → e.queued = false) ∧
    ∀ (registry : Registry) (inputAckFrame : SyncFrame) (available : Nat)
      (decider : Entity → EntityReplicationDecision),
      (∀ decider', (∀ i r, i ≠ slot → s.core.replicated[i]? = some r →
      decider' r.entity = decider r.entity) →
        s.sendClient c registry inputAckFrame available decider' =
          s.sendClient c registry inputAckFrame available decider) ∧
      (∀ a ∈ (s.collectCandidates c registry inputAckFrame decider).2, a.slot? ≠ some slot) ∧
      ∀ result client', s.sendClient c registry inputAckFrame available decider = .ok result →
        result.1.clients[c]? = some client' →
        ∀ w ∈ client'.trace.written, w.slot? = some slot → w ∈ client.trace.written := by
  obtain ⟨-, hinv⟩ := settleRule.inOrder h client (List.mem_of_getElem? hc)
  have hqueued := hinv.settled slot frame state after before hcalls hmarks hafter hlast
  refine ⟨hqueued, fun registry inputAckFrame available decider => ?_⟩
  have hstart : Skipped s c slot (s.setClient c s.core (beginSend s.core client inputAckFrame), []) := by
    refine ⟨?_, rfl, ?_, by simp⟩
    · intro client₁ e hc₁ he
      rw [setClient_get hc] at hc₁
      obtain rfl := Option.some.inj hc₁
      rcases entries_capacity_get he with he | ⟨-, rfl⟩
      · exact hqueued e he
      · rfl
    · intro client₁ hc₁
      rw [setClient_get hc] at hc₁
      obtain rfl := Option.some.inj hc₁
      exact ⟨client, hc, rfl⟩
  have hcollect : ∀ decider', (∀ i r, i ≠ slot → s.core.replicated[i]? = some r →
      decider' r.entity = decider r.entity) →
      Skipped s c slot (s.collectCandidates c registry inputAckFrame decider) ∧
        s.collectCandidates c registry inputAckFrame decider' =
          s.collectCandidates c registry inputAckFrame decider := by
    intro decider' hagree
    unfold collectCandidates
    simp only [hc]
    exact collect_skips registry hagree _ _ hstart
  obtain ⟨hskipped, -⟩ := hcollect decider fun _ _ _ _ => rfl
  refine ⟨fun decider' hagree => ?_, hskipped.candidates, ?_⟩
  · rw [sendClient_eq, sendClient_eq, (hcollect decider' hagree).2]
  · intro result client' hsend hc'
    rw [sendClient_eq] at hsend
    obtain ⟨client₀, hc₀, hwritten⟩ := sendCandidates_written hskipped hsend hc'
    rw [hc] at hc₀
    obtain rfl := Option.some.inj hc₀
    exact hwritten

namespace Sample

def acknowledged : List ServerOp := [.addClient 1 1, advance 1 [entity] [] [] [] [some 7, some 9],
  send [entity] [some 7, some 9], .acks 1 [1]]

/-- The same state sent at frames 1 and 2, and then the acknowledgement of frame 1. -/
def resent : List ServerOp := [.addClient 1 1, advance 1 [entity] [] [] [] [some 7, some 9],
  send [entity] [some 7, some 9], advance 2 [entity] [] [] [] [some 7, some 9],
  send [entity] [some 7, some 9], .acks 1 [1]]

end Sample

def Sample.sentState (pending : List PendingQuantizedFrame) : ClientEntityState :=
  { networkId := 1, networkVersion := 1, lastPriority := 0x3f800000, hasNetworkId := true, pending }

theorem acknowledged_settles_sample :
    (∃ state, (Sample.client Sample.acknowledged).trace.calls.head? = some (.acknowledgeEntity 0 1 true state)) ∧
    ∀ e, (Sample.client Sample.acknowledged).dirtyQueue.entries[0]? = some e → e.queued = false := by
  have hreach := Sample.inOrder Sample.acknowledged (by decide +kernel)
  have hclient : (Sample.after Sample.acknowledged).clients[0]? = some (Sample.client Sample.acknowledged) := by
    decide +kernel
  have hcalls : (Sample.client Sample.acknowledged).trace.calls = [
      .acknowledgeEntity 0 1 true (Sample.sentState [⟨0, 1, 0⟩]), .pushPending 0 1 0 [⟨0, 1, 0⟩], .expireCues 1,
      .markDirty 0 1, .clearState 0] := by decide +kernel
  refine ⟨⟨_, by rw [hcalls]; rfl⟩, ?_⟩
  refine (acknowledged_settles hreach 0 _ hclient 0 1 _ [] _ hcalls ?_ ?_ ?_).1
  · simp
  · simp
  · simp [Sample.sentState]

/-- A copy sent at frame 2 keeps the entry queued when frame 1 is acknowledged, and the slot is sent again at frame 3.
-/
theorem acknowledged_resent :
    InOrderReachable Sample.options Sample.settings (Sample.after Sample.resent) ∧
    (Sample.after Sample.resent).clients[0]? = some (Sample.client Sample.resent) ∧
    (Sample.client Sample.resent).trace.calls = .acknowledgeEntity 0 1 true
    (Sample.sentState [⟨0, 1, 0⟩, ⟨1, 2, 0⟩]) ::
      (Sample.client Sample.resent).trace.calls.tail ∧
    (∀ f, Call.markDirty 0 f ∈ (Sample.client Sample.resent).trace.calls.tail → f ≤ 1) ∧
    (∃ e, (Sample.client Sample.resent).dirtyQueue.entries[0]? = some e ∧ e.queued = true) ∧
    ((Sample.client (Sample.resent ++ [Sample.advance 3 [Sample.entity] [] [] [] [some 7, some 9],
      Sample.send [Sample.entity] [some 7, some 9]])).trace.written.map fun w => (w.slot?, w.frame)).head? =
        some (some 0, 3) := by
  refine ⟨Sample.inOrder Sample.resent (by decide +kernel), by decide +kernel, by decide +kernel, ?_, ?_, ?_⟩
  · have htail : (Sample.client Sample.resent).trace.calls.tail = [.pushPending 0 2 0 [⟨0, 1, 0⟩, ⟨1, 2, 0⟩],
        .expireCues 2, .pushPending 0 1 0 [⟨0, 1, 0⟩], .expireCues 1, .markDirty 0 1, .clearState 0] := by
      decide +kernel
    rw [htail]
    simp
  · have hentry : ((Sample.client Sample.resent).dirtyQueue.entries[0]?.map (·.queued)) = some true := by
      decide +kernel
    obtain ⟨e, he, hq⟩ := Option.map_eq_some_iff.mp hentry
    exact ⟨e, he, hq⟩
  · decide +kernel

end

end AshiatoSync
