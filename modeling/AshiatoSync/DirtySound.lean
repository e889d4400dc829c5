import AshiatoSync.Lib.EventLog
import AshiatoSync.BaselineSound

/-!
# No update is lost in the dirty queue

A slot marked dirty at a frame stays a candidate of every send until a baseline
of that frame or later is acknowledged, or its entry is cleared.
-/

namespace AshiatoSync

open ServerClientReplicator

/-! ## Marks -/

def Call.Settles (slot : Nat) (frame : SyncFrame) : Call → Prop
  | .clearDirty slot' => slot' = slot
  | .acknowledgeEntity slot' acked eligible _ => slot' = slot ∧ frame ≤ acked ∧ eligible = true
  | _ => False

def PendingMark (slot : Nat) (frame : SyncFrame) : List Call → Prop :=
  EventLog.Since (· = .markDirty slot frame) (Call.Settles slot frame)

/-! ## The invariant -/

structure EntryOk (client : ServerClientReplicator) (slot : Nat) (e : DirtyEntry) : Prop where
  baseline : e.baselineFrame = 0 ∨ ∃ w ∈ client.trace.written, w.slot? = some slot ∧ w.frame = e.baselineFrame
  queued : e.queued = true → e.baselineFrame < e.dirtyFrame

structure DirtyInv (core : ServerCore) (client : ServerClientReplicator) : Prop where
  entry : ∀ (slot : Nat) (e : DirtyEntry), client.dirtyQueue.entries[slot]? = some e → EntryOk client slot e
  marks : ∀ (slot : Nat) (frame : SyncFrame), PendingMark slot frame client.trace.calls →
    ∃ e, client.dirtyQueue.entries[slot]? = some e ∧ e.queued = true ∧ frame ≤ e.dirtyFrame
  frames : ∀ (slot : Nat) (frame : SyncFrame), Call.markDirty slot frame ∈ client.trace.calls →
    frame ≤ core.frame
  bounded : ∀ w ∈ client.trace.written, w.slot? ≠ none → w.frame + 1 < 2 ^ 32

theorem EntryOk.mono {client client' : ServerClientReplicator} {slot : Nat} {e : DirtyEntry} (h : EntryOk client slot e)
    (hw : ∀ w ∈ client.trace.written, w ∈ client'.trace.written) : EntryOk client' slot e := by
  refine ⟨?_, h.queued⟩
  rcases h.baseline with h0 | ⟨w, hmem, hslot, hframe⟩
  · exact .inl h0
  · exact .inr ⟨w, hw w hmem, hslot, hframe⟩

theorem EntryOk.blank (client : ServerClientReplicator) (slot : Nat) (listed : Bool) :
    EntryOk client slot { listed } := ⟨.inl rfl, by simp⟩

section

variable {core core' : ServerCore} {client client' : ServerClientReplicator}

structure Adds (core : ServerCore) (client : ServerClientReplicator) (core' : ServerCore)
    (client' : ServerClientReplicator) (new : List Call) : Prop where
  calls : client'.trace.calls = new ++ client.trace.calls
  noMark : ∀ call ∈ new, ∀ i g, call ≠ .markDirty i g
  written : ∀ w ∈ client.trace.written, w ∈ client'.trace.written
  bounded : ∀ w ∈ client'.trace.written, w.slot? ≠ none → w.frame + 1 < 2 ^ 32
  frame : core'.frame = core.frame

theorem Adds.same (h : DirtyInv core client) (ht : client'.trace = client.trace) (hf : core'.frame = core.frame) :
    Adds core client core' client' [] where
  calls := by simp [ht]
  noMark := by simp
  written := by simp [ht]
  bounded := by
    rw [ht]
    exact h.bounded
  frame := hf

theorem Adds.call (call : Call) (h : DirtyInv core client) (hno : ∀ i g, call ≠ .markDirty i g)
    (hc : client'.trace.calls = call :: client.trace.calls) (hw : client'.trace.written = client.trace.written)
    (hf : core'.frame = core.frame) : Adds core client core' client' [call] where
  calls := by simp [hc]
  noMark := by simpa using hno
  written := by simp [hw]
  bounded := by
    rw [hw]
    exact h.bounded
  frame := hf

theorem Adds.frames {new : List Call} (a : Adds core client core' client' new) (h : DirtyInv core client) (slot : Nat)
    (frame : SyncFrame) (hm : Call.markDirty slot frame ∈ client'.trace.calls) : frame ≤ core'.frame := by
  rw [a.calls, List.mem_append] at hm
  rw [a.frame]
  rcases hm with hm | hm
  · exact absurd rfl (a.noMark _ hm slot frame)
  · exact h.frames slot frame hm

theorem DirtyInv.modify {new : List Call} (h : DirtyInv core client) (slot : Nat) (f : DirtyEntry → DirtyEntry)
    (hent : client'.dirtyQueue.entries = (client.modifyEntry slot f).dirtyQueue.entries)
    (a : Adds core client core' client' new)
    (hok : ∀ e, client.dirtyQueue.entries[slot]? = some e → EntryOk client slot e → EntryOk client' slot (f e))
    (hkeep : ∀ e frame, client.dirtyQueue.entries[slot]? = some e → e.queued = true → frame ≤ e.dirtyFrame →
      frame ≤ core.frame → (∀ call ∈ new, ¬call.Settles slot frame) → (f e).queued = true ∧
      frame ≤ (f e).dirtyFrame) :
    DirtyInv core' client' := by
  refine ⟨?_, ?_, a.frames h, a.bounded⟩
  · intro i e' he'
    rw [hent] at he'
    obtain ⟨e, he, ⟨rfl, -⟩ | ⟨rfl, rfl⟩⟩ := modifyEntry_get he'
    · exact (h.entry i e' he).mono a.written
    · exact hok e he (h.entry i e he)
  · intro i frame hm
    rw [a.calls] at hm
    obtain ⟨hold, hns⟩ := EventLog.Since.old (fun call hc => a.noMark call hc i frame) hm
    obtain ⟨e, he, hq, hle⟩ := h.marks i frame hold
    obtain ⟨_, hmem, rfl⟩ := hold.mem
    rw [hent]
    simp only [modifyEntry, List.getElem?_modify, he]
    by_cases hi : slot = i
    · subst hi
      obtain ⟨h1, h2⟩ := hkeep e frame he hq hle (h.frames slot frame hmem) hns
      exact ⟨f e, by simp, h1, h2⟩
    · exact ⟨e, by simp [hi], hq, hle⟩

theorem DirtyInv.keep {new : List Call} (h : DirtyInv core client)
    (hent : client'.dirtyQueue.entries = client.dirtyQueue.entries) (a : Adds core client core' client' new) :
    DirtyInv core' client' := by
  refine ⟨?_, ?_, a.frames h, a.bounded⟩
  · intro i e he
    exact (h.entry i e (hent ▸ he)).mono a.written
  · intro i frame hm
    rw [a.calls] at hm
    rw [hent]
    exact h.marks i frame (EventLog.Since.old (fun call hc => a.noMark call hc i frame) hm).1

/-! ## Moves that change an entry -/

theorem DirtyInv.ensureCapacity (h : DirtyInv core client) (n : Nat) : DirtyInv core (client.ensureCapacity n) := by
  refine ⟨?_, ?_, h.frames, h.bounded⟩
  · intro i e he
    rcases entries_capacity_get he with he | ⟨-, rfl⟩
    · exact (h.entry i e he).mono fun _ hw => hw
    · exact .blank _ _ _
  · intro i frame hm
    obtain ⟨e, he, hq, hle⟩ := h.marks i frame hm
    exact ⟨e, entries_capacity_of_get he, hq, hle⟩

/-- A requeued entry takes its baseline frame from the entity state's baseline. -/
theorem requeueEntry_ok {slot : Nat} {e : DirtyEntry} (st : Option ClientEntityState) (hb : BaselineInv core client)
    (h : EntryOk client slot e) (hst : ∀ s, st = some s → client.states[slot]? = some s ∨ s = {}) :
    (requeueEntry core st e).baselineFrame = 0 ∨
      ∃ w ∈ client.trace.written, w.slot? = some slot ∧ w.frame = (requeueEntry core st e).baselineFrame := by
  unfold requeueEntry
  split
  · exact h.baseline
  simp only
  split
  · exact h.baseline
  · rename_i s
    split
    · rename_i q hq
      split
      · rcases hst s rfl with hs | rfl
        · obtain ⟨-, f, mask, w, hsrc, -⟩ := hb.baseline slot s q hs hq
          obtain ⟨q', record, cues, hcon⟩ := hsrc.record.content
          refine .inr ⟨w, hsrc.record.written, by simp [WrittenRecord.slot?, hcon], ?_⟩
          simp only [ServerCore.quantizedFrameFrame, hsrc.get]
          exact hsrc.record.frame
        · simp at hq
      · exact h.baseline
    · exact h.baseline

theorem raiseDirtyFrame_spec {e : DirtyEntry} (frame : SyncFrame) (hb : e.baselineFrame + 1 < 2 ^ 32) :
    frame ≤ (raiseDirtyFrame e frame).dirtyFrame ∧ e.dirtyFrame ≤ (raiseDirtyFrame e frame).dirtyFrame ∧
      e.baselineFrame < (raiseDirtyFrame e frame).dirtyFrame := by
  unfold raiseDirtyFrame
  simp only
  have h1 : frame ≤ max e.dirtyFrame frame := Nat.le_max_right ..
  have h2 : e.dirtyFrame ≤ max e.dirtyFrame frame := Nat.le_max_left ..
  split
  · rename_i hle
    rw [Nat.mod_eq_of_lt hb]
    exact ⟨Nat.le_succ_of_le (Nat.le_trans h1 hle), Nat.le_succ_of_le (Nat.le_trans h2 hle), Nat.lt_succ_self _⟩
  · rename_i hlt
    exact ⟨h1, h2, Nat.lt_of_not_le hlt⟩

theorem DirtyInv.markDirty {slot : Nat} (hq : QueueInv core client) (hb : BaselineInv core client)
    (h : DirtyInv core client) : DirtyInv core (client.markDirty core slot core.frame) := by
  rcases Nat.lt_or_ge slot core.replicated.length with hlt | hge
  swap
  · unfold ServerClientReplicator.markDirty
    rw [if_pos hge]
    exact h
  obtain ⟨e, he⟩ := capacity_entry_exists hq hlt
  have hc := h.ensureCapacity core.replicated.length
  -- the entry after the mark
  have hbase := requeueEntry_ok (client.ensureCapacity core.replicated.length).states[slot]? hb
    ((hc.entry slot e he).mono fun _ hw => hw) fun s hs => (ensureCapacity_get hs).imp id And.right
  have hreq := requeueEntry_listed core (client.ensureCapacity core.replicated.length).states[slot]? e
  have hsmall : (requeueEntry core (client.ensureCapacity core.replicated.length).states[slot]? e).baselineFrame + 1 <
      2 ^ 32 := by
    rcases hbase with h0 | ⟨w, hw, hslot, hframe⟩
    · rw [h0]
      decide
    · rw [← hframe]
      exact h.bounded w hw (by simp [hslot])
  obtain ⟨hle, hold, hlt'⟩ := raiseDirtyFrame_spec core.frame hsmall
  rw [markDirty_eq hlt he]
  refine ⟨?_, ?_, ?_, h.bounded⟩
  · intro i e' he'
    obtain ⟨e₁, he₁, ⟨rfl, -⟩ | ⟨rfl, rfl⟩⟩ := modifyEntry_get he'
    · exact (hc.entry i e' he₁).mono fun _ hw => hw
    · rw [he] at he₁
      obtain rfl := Option.some.inj he₁
      exact ⟨hbase, fun _ => hlt'⟩
  · intro i frame hm
    simp only [logCall, modifyEntry, List.getElem?_modify]
    by_cases hi : slot = i
    · subst hi
      refine ⟨raiseDirtyFrame (requeueEntry core (client.ensureCapacity core.replicated.length).states[slot]? e)
        core.frame,
        by simp [he], hreq.2.2, ?_⟩
      rcases hm with hm | ⟨-, hm⟩
      · obtain ⟨-, rfl⟩ := Call.markDirty.inj hm
        exact hle
      · obtain ⟨e₁, he₁, -, hle₁⟩ := hc.marks slot frame hm
        rw [he] at he₁
        obtain rfl := Option.some.inj he₁
        exact Nat.le_trans (Nat.le_trans hle₁ (Nat.le_of_eq hreq.2.1.symm)) hold
    · rcases hm with hm | ⟨-, hm⟩
      · exact absurd (Call.markDirty.inj hm).1 hi
      · obtain ⟨e₁, he₁, hq₁, hle₁⟩ := hc.marks i frame hm
        exact ⟨e₁, by simp [hi, he₁], hq₁, hle₁⟩
  · intro i frame hm
    rcases List.mem_cons.mp hm with hm | hm
    · obtain ⟨-, rfl⟩ := Call.markDirty.inj hm
      exact Nat.le_refl _
    · exact h.frames i frame hm

/-- The calls of a destroy clear the slot's entry, among others. -/
theorem enqueueDestroy_calls (core : ServerCore) (slot : Nat) (entity : Entity) (frame : SyncFrame) (h : IdInv client) :
    ∃ new, (client.enqueueDestroy core slot entity frame).2.trace =
      { client.trace with calls := new ++ client.trace.calls } ∧
      (∀ call ∈ new, ∀ i g, call ≠ .markDirty i g) ∧
      Call.clearDirty slot ∈ new := by
  have hno : ∀ call ∈ clearCalls client slot, ∀ i g, call ≠ .markDirty i g := by
    unfold clearCalls
    split <;> simp
  rcases enqueueDestroy_ids core slot entity frame h with
    ⟨s, e, -, -, -, -, -, htrace⟩ | ⟨-, -, -, htrace⟩
  · exact ⟨_ :: clearCalls client slot, htrace, by simpa using hno, by simp [clearCalls]⟩
  · exact ⟨clearCalls client slot, htrace, hno, by simp [clearCalls]⟩

theorem recordSent_calls (core : ServerCore) (client : ServerClientReplicator) {slot : Nat}
    (serialized : SerializedEntity) {s : ClientEntityState}
    (hs : client.states[slot]? = some s) : (SendLoop.recordSent core client slot serialized).2.trace =
      { client.trace with
        calls := .pushPending slot core.frame (droppedState serialized.fullState s).baselineEpoch
          (sentState serialized.fullState serialized.quantizedFrame core.frame s).pending :: client.trace.calls } := by
  rw [recordSent_eq]
  have hd := dropBaseline_state core (client.modifyEntry slot (SendLoop.sentEntry core.frame)) slot
    serialized.fullState hs
  have htrace : (SendLoop.dropBaseline core (client.modifyEntry slot (SendLoop.sentEntry core.frame)) slot
      serialized.fullState).2.trace = client.trace := by
    unfold SendLoop.dropBaseline
    split
    · unfold invalidateEntityBaseline
      split <;> rfl
    · rfl
  unfold SendLoop.queuePending
  simp only [hd, logCall, modifyState, dropBaseline_frame.frame, htrace]
  rfl

theorem DirtyInv.own {others : Nat → Nat} (hinv : ClientInv core client others) (hids : IdInv client)
    (hb : BaselineInv core client) (m : LocalMove True core client core' client') (h : DirtyInv core client) :
    DirtyInv core' client' := by
  have hframe := m.sameSlots.frame
  cases m with
  | ensureCapacity => exact h.ensureCapacity _
  | markDirty _ => exact h.markDirty hinv.queue hb
  | @clearUnsent slot hs =>
    unfold clearState
    simp only [hs]
    exact h.keep rfl (Adds.call (.clearState slot) h (by simp) rfl rfl
      (releaseEntityState_sameSlots core _).frame)
  | @enqueueDestroy slot r _ _ =>
    obtain ⟨new, htrace, hno, hclear⟩ := enqueueDestroy_calls core slot r.entity core.frame hids
    refine h.modify slot (fun e => { listed := e.listed })
      (by rw [enqueueDestroy_dirtyQueue])
      ⟨by rw [htrace], hno, by simp [htrace], by rw [htrace]; exact h.bounded, hframe⟩
      (fun e _ _ => .blank _ _ _) fun e frame _ _ _ _ hns => absurd rfl (hns _ hclear)
  | @clearDirty slot _ =>
    exact h.modify slot (fun e => { listed := e.listed }) rfl
      (Adds.call (.clearDirty slot) h (by simp) rfl rfl rfl) (fun e _ _ => .blank _ _ _)
      fun e frame _ _ _ _ hns => absurd rfl (hns (.clearDirty slot) (by simp))
  | beginSend _ => exact h.keep rfl (.same h rfl rfl)
  | expireCues => exact h.keep rfl (Adds.call _ h (by simp) rfl rfl rfl)
  | @storeDecision slot decision _ =>
    exact h.modify slot (decidedEntry decision) (by rw [storeDecision_dirtyQueue])
      (.same h (storeDecision_trace ..) hframe)
      (fun e _ hok => ⟨by rw [storeDecision_trace]; exact hok.baseline, hok.queued⟩)
        fun e frame _ hq hle _ _ => ⟨hq, hle⟩
  | @accumulate slot _ =>
    exact h.modify slot (accumulatePriority core.options.floats) rfl (.same h rfl rfl)
      (fun e _ hok => ⟨hok.baseline, hok.queued⟩) fun e frame _ hq hle _ _ => ⟨hq, hle⟩
  | boost _ => exact h.keep rfl (.same h rfl rfl)
  | allocate _ hs _ hal =>
    obtain ⟨version, ids, -, -, rfl⟩ := allocate_states hs hal
    exact h.keep rfl (.same h rfl rfl)
  | sendDestroy _ =>
    refine @DirtyInv.keep _ _ _ _ [] h rfl ⟨rfl, by simp, fun w hw => List.mem_cons_of_mem _ hw, ?_, rfl⟩
    intro w hw hslot
    rcases List.mem_cons.mp hw with rfl | hw
    · simp [WrittenRecord.slot?] at hslot
    · exact h.bounded w hw hslot
  | refuse _ _ => exact h.keep rfl (.same h rfl hframe)
  | @accept core₁ slot q r state quantized mask serialized w hr _ ho hs _ _ _ hw hstrict =>
    obtain ⟨hpos, hmax, -, hold⟩ := hstrict trivial
    have htrace := recordSent_calls (core₁.retainQuantizedFrame q) (client.logWritten w) serialized hs
    have hsent : (core₁.retainQuantizedFrame q).frame = core.frame := (obtained_sameSlots ho).frame
    refine @DirtyInv.modify _ _ _ _ [_] h slot (SendLoop.sentEntry core.frame)
      (by rw [recordSent_dirtyQueue, hsent]; rfl) ⟨by rw [htrace]; rfl, by simp, ?_, ?_, hframe⟩ ?_ ?_
    · intro v hv
      rw [htrace]
      exact List.mem_cons_of_mem _ hv
    · intro v hv hslot
      rw [htrace] at hv
      rcases List.mem_cons.mp hv with rfl | hv
      · rw [hw]
        exact hmax
      · exact h.bounded v hv hslot
    · intro e he hok
      have hok' : EntryOk (SendLoop.recordSent (core₁.retainQuantizedFrame q) (client.logWritten w) slot serialized).2
          slot e := hok.mono fun v hv => by
        rw [htrace]
        exact List.mem_cons_of_mem _ hv
      refine ⟨hok'.baseline, fun _ => ?_⟩
      rcases hok.baseline with h0 | ⟨v, hv, hslot, hvf⟩
      · exact h0 ▸ hpos
      · exact hvf ▸ hold v hv (by simp [hslot]) (.inl hslot)
    · exact fun e frame _ hq _ hle _ => ⟨hq, hle⟩
  | @sendPacket n bits records _ =>
    have hs := (sendPacket_spec core client core.frame n records bits (records.map WrittenRecord.ackRecord)).same
    exact h.keep (by rw [hs]) (.same h (by rw [hs]) rfl)
  | cleanupQueue =>
    refine ⟨?_, ?_, h.frames, h.bounded⟩
    · intro i e' he'
      rw [cleanup_entries hinv.queue, Option.map_eq_some_iff] at he'
      obtain ⟨e, he, rfl⟩ := he'
      have hok := h.entry i e he
      unfold unlistedUnlessQueued
      split
      · exact hok.mono fun _ hw => hw
      · exact ⟨hok.baseline, hok.queued⟩
    · intro i frame hm
      obtain ⟨e, he, hq, hle⟩ := h.marks i frame hm
      refine ⟨e, ?_, hq, hle⟩
      rw [cleanup_entries hinv.queue, he]
      simp [unlistedUnlessQueued, hq]
  | @acknowledge packet record _ _ =>
    unfold acknowledgeRecord at hframe ⊢
    split
    · rcases acknowledgeDestroy_spec packet record hids with
        ⟨heq, -⟩ | ⟨i, d, e, -, -, -, -, heq⟩
      · simp only [heq]
        exact h
      · simp only [heq]
        exact h.keep rfl (Adds.call (.retireDestroy d packet) h (by simp) rfl rfl rfl)
    · rename_i hrec
      simp only [hrec] at hframe
      split
      · exact h
      · rename_i slot hslot
        simp only [hslot] at hframe
        rcases acknowledgeEntity_spec core client slot record.frame with
          ⟨h1, h2⟩ | ⟨s, found, eligible, hs, hmem, hfr, heq, -, h'⟩
        · rw [h1, h2]
          exact h
        · obtain ⟨-, -, f, mask, w, hsrc, hpf, -⟩ := hb.pending slot s hs found hmem
          have hwritten : ∃ w ∈ client.trace.written, w.slot? = some slot ∧ w.frame = record.frame := by
            obtain ⟨q', rec', cues, hcon⟩ := hsrc.record.content
            exact ⟨w, hsrc.record.written, by simp [WrittenRecord.slot?, hcon], by rw [hsrc.record.frame, hpf, hfr]⟩
          have hadds : Adds core client (client.acknowledgeEntity core slot record.frame).1
              (client.acknowledgeEntity core slot record.frame).2.1 [.acknowledgeEntity slot record.frame
                eligible s] := by
            rw [h']
            cases eligible with
            | true =>
              exact Adds.call _ h (by simp) rfl rfl (acknowledgeEntity_sameSlots core client slot record.frame).frame
            | false =>
              exact Adds.call _ h (by simp) rfl rfl (acknowledgeEntity_sameSlots core client slot record.frame).frame
          cases eligible with
          | false =>
            refine h.keep ?_ hadds
            rw [h']
            rfl
          | true =>
            refine h.modify slot (settleEntry record.frame) (by rw [h']; rfl) hadds ?_ ?_
            · intro e _ hok
              unfold settleEntry
              split
              · refine ⟨.inr ?_, by simp⟩
                rw [h']
                exact hwritten
              · rename_i hlt
                refine ⟨.inr ?_, fun _ => Nat.lt_of_not_le hlt⟩
                rw [h']
                exact hwritten
            · intro e frame _ hq hle _ hns
              have hlt : record.frame < frame := by
                apply Nat.lt_of_not_le
                intro hge
                exact hns (.acknowledgeEntity slot record.frame true s) (by simp) ⟨rfl, hge, rfl⟩
              unfold settleEntry
              rw [if_neg (Nat.not_le.mpr (Nat.lt_of_lt_of_le hlt hle))]
              exact ⟨hq, hle⟩
  | forgetPackets _ _ => exact h.keep rfl (.same h rfl rfl)
  | pushCue cue _ _ => exact h.keep rfl (Adds.call _ h (by simp) rfl rfl rfl)

end

theorem dirtyRule : ClientRule True fun core client => IdInv client ∧ BaselineInv core client ∧
    DirtyInv core client where
  new core peer id :=
    ⟨.new peer id, baselineRule.new core peer id,
    ⟨by simp, by simp [PendingMark, EventLog.Since], by simp, by simp⟩⟩
  own hinv m h := ⟨m.ids h.1, baselineRule.own hinv m h.2.1, h.2.2.own hinv h.1 h.2.1 m⟩
  around hinv hinv' har h := by
    refine ⟨h.1, baselineRule.around hinv hinv' har h.2.1, { h.2.2 with frames := fun slot frame hm => ?_ }⟩
    rcases har.frame with heq | hlt
    · rw [heq]
      exact h.2.2.frames slot frame hm
    · exact Nat.le_trans (h.2.2.frames slot frame hm) (Nat.le_of_lt (hlt trivial))

/-! ## No lost update -/

section

open ReplicationServer

variable {options : ReplicationServerOptions} {settings : SyncSettings} {s : ReplicationServer}

/-- Once marked at a frame, a slot stays queued, listed once and behind its baseline, until a baseline of that frame or
later is acknowledged or the entry is cleared; and an entry is listed exactly when its slot is in the dirty list. -/
theorem markDirty_kept (h : InOrderReachable options settings s) (client : ServerClientReplicator)
    (hc : client ∈ s.clients) :
    (∀ (slot : Nat) (frame : SyncFrame) (after before : List Call),
      client.trace.calls = after ++ .markDirty slot frame :: before →
      (∀ call ∈ after, ¬call.Settles slot frame) →
      client.dirtyQueue.dirtyReplicatedIndices.count slot = 1 ∧
      ∃ e, client.dirtyQueue.entries[slot]? = some e ∧ e.queued = true ∧ e.listed = true ∧
        e.baselineFrame < e.dirtyFrame) ∧
    (∀ (slot : Nat), slot ∈ client.dirtyQueue.dirtyReplicatedIndices ↔
      ∃ e, client.dirtyQueue.entries[slot]? = some e ∧ e.listed = true) ∧
    client.dirtyQueue.dirtyReplicatedIndices.Nodup := by
  obtain ⟨-, -, hdirty⟩ := dirtyRule.inOrder h client hc
  have hqueue := (moves_start_inv (inOrder_moves h)).1.base.queues client hc
  refine ⟨?_, hqueue.listed, hqueue.nodup⟩
  intro slot frame after before hcalls hns
  obtain ⟨e, he, hq, -⟩ := hdirty.marks slot frame (hcalls ▸ EventLog.split rfl hns)
  have hl := hqueue.queued slot e he hq
  exact ⟨List.count_eq_one_of_mem hqueue.nodup ((hqueue.listed slot).mpr ⟨e, he, hl⟩),
    e, he, hq, hl, (hdirty.entry slot e he).queued hq⟩

theorem markDirty_kept_twoFrames :
    (Sample.client Sample.twoFrames).trace.calls.take 3 = [
      .pushPending 0 2 0 [{ quantizedFrame := 1, frame := 2, baselineEpochWhenSent := 0 }], .expireCues 2,
      .markDirty 0 2] ∧
    (Sample.client Sample.twoFrames).dirtyQueue.dirtyReplicatedIndices.count 0 = 1 := by
  have hcalls : (Sample.client Sample.twoFrames).trace.calls.take 3 = [
      .pushPending 0 2 0 [{ quantizedFrame := 1, frame := 2, baselineEpochWhenSent := 0 }], .expireCues 2,
      .markDirty 0 2] := by decide +kernel
  refine ⟨hcalls, ?_⟩
  have hkept := (markDirty_kept (Sample.inOrder Sample.twoFrames (by decide +kernel))
    (Sample.client Sample.twoFrames) (by decide +kernel)).1
  refine (hkept 0 2 [.pushPending 0 2 0 [{ quantizedFrame := 1, frame := 2, baselineEpochWhenSent := 0 }],
    .expireCues 2] ((Sample.client Sample.twoFrames).trace.calls.drop 3) ?_ ?_).1
  · rw [← List.take_append_drop 3 (Sample.client Sample.twoFrames).trace.calls, hcalls]
    simp
  · simp [Call.Settles]

end

end AshiatoSync
