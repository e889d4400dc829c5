import AshiatoSync.DirtySound

/-!
# Destroys are retired by their own records

An acknowledged destroy record retires the first destroy of its entity that was
queued or sent at its frame or later.  While no entity is destroyed again before
its last destroy is gone from the queue and from every tracked packet, that is
the destroy the record was written for.
-/

namespace AshiatoSync

open ServerClientReplicator

/-! ## Calls -/

def Call.DestroysAlone : Call → Prop
  | .enqueueDestroy entity _ _ queued tracked =>
    (∀ d ∈ queued, d.entity ≠ entity) ∧ ∀ p ∈ tracked, ∀ r ∈ p.records, r.destroy = true →
      r.entity ≠ entity
  | _ => True

structure PacketAckRecord.Destroys (r : PacketAckRecord) (d : ClientDestroyState) : Prop where
  destroy : r.destroy = true
  content : r.written.content = .destroy
  networkId : r.written.networkId = d.networkId
  networkVersion : r.written.networkVersion = d.networkVersion

def Call.RetiresExactly : Call → Prop
  | .retireDestroy d packet => ∃ r ∈ packet.records, r.Destroys d
  | _ => True

instance : DecidablePred Call.DestroysAlone
  | .enqueueDestroy entity _ _ queued tracked => inferInstanceAs (Decidable ((∀ d ∈ queued, d.entity ≠ entity) ∧
      ∀ p ∈ tracked, ∀ r ∈ p.records, r.destroy = true → r.entity ≠ entity))
  | .markDirty .. | .clearDirty .. | .clearState .. | .acknowledgeEntity .. | .expireCues .. | .retireDestroy ..
  | .pushPending .. | .attachCue .. => .isTrue trivial

instance (r : PacketAckRecord) (d : ClientDestroyState) : Decidable (r.Destroys d) :=
  decidable_of_iff (r.destroy = true ∧ r.written.content = .destroy ∧ r.written.networkId = d.networkId ∧
    r.written.networkVersion = d.networkVersion) ⟨fun ⟨h1, h2, h3, h4⟩ => ⟨h1, h2, h3, h4⟩,
      fun h => ⟨h.destroy, h.content, h.networkId, h.networkVersion⟩⟩

instance : DecidablePred Call.RetiresExactly
  | .retireDestroy d packet => inferInstanceAs (Decidable (∃ r ∈ packet.records, r.Destroys d))
  | .markDirty .. | .clearDirty .. | .clearState .. | .acknowledgeEntity .. | .expireCues .. | .enqueueDestroy ..
  | .pushPending .. | .attachCue .. => .isTrue trivial

def Call.Enqueues (entity : Entity) (networkId networkVersion : Nat) : Call → Prop
  | .enqueueDestroy entity' networkId' networkVersion' _ _ =>
    entity' = entity ∧ networkId' = networkId ∧ networkVersion' = networkVersion
  | _ => False

def Call.Retires (entity : Entity) (networkId networkVersion : Nat) : Call → Prop
  | .retireDestroy d _ => d.entity = entity ∧ d.networkId = networkId ∧ d.networkVersion = networkVersion
  | _ => False

/-! ## What a move does to the destroys -/

def Call.OnDestroys : Call → Prop
  | .enqueueDestroy .. | .retireDestroy .. => True
  | _ => False

inductive DestroyMove (core : ServerCore) (client client' : ServerClientReplicator) : Prop where
  | keep (new : List Call) : client'.destroys = client.destroys →
      (∀ p ∈ client'.ackTracker.pendingPacketAcks, p ∈ client.ackTracker.pendingPacketAcks) →
      client'.trace.calls = new ++ client.trace.calls → (∀ call ∈ new, ¬call.OnDestroys) →
      DestroyMove core client client'
  | enqueue {entity : Entity} {networkId networkVersion : Nat} {frame : SyncFrame} (new : List Call) :
      client'.destroys = client.destroys ++ [{ entity, frame, resetEpoch := 0, networkId, networkVersion }] →
      client'.ackTracker = client.ackTracker →
      client'.trace.calls = .enqueueDestroy entity networkId networkVersion client.destroys
        client.ackTracker.pendingPacketAcks :: new ++ client.trace.calls →
      (∀ call ∈ new, ¬call.OnDestroys) → DestroyMove core client client'
  | resend {index : Nat} {destroy : ClientDestroyState} (frame : SyncFrame) (epoch : Nat) :
      client.destroys[index]? = some destroy →
      client'.destroys = client.destroys.set index { destroy with frame, resetEpoch := epoch } →
      client'.ackTracker = client.ackTracker → client'.trace.calls = client.trace.calls →
      DestroyMove core client client'
  | track {records : List WrittenRecord} (packetId charged : Nat) : (∀ w ∈ records,
    client.InPacket core.frame w) →
      client'.destroys = client.destroys →
      (∀ p ∈ client'.ackTracker.pendingPacketAcks, p ∈ client.ackTracker.pendingPacketAcks ∨
        p = ⟨packetId, core.frame, charged, records.map WrittenRecord.ackRecord⟩) →
      client'.trace.calls = client.trace.calls → DestroyMove core client client'
  | retire {i : Nat} {d : ClientDestroyState} {packet : PendingPacketAck} {record : PacketAckRecord} :
      packet ∈ client.ackTracker.pendingPacketAcks → record ∈ packet.records → record.destroy = true →
      client.destroys[i]? = some d → d.entity = record.entity → record.frame ≤ d.frame →
      client'.destroys = client.destroys.eraseIdx i → client'.ackTracker = client.ackTracker →
      client'.trace.calls = .retireDestroy d packet :: client.trace.calls → DestroyMove core client client'

theorem DestroyMove.of_calls {core : ServerCore} {client client' : ServerClientReplicator} (new : List Call)
    (hd : client'.destroys = client.destroys) (ht : client'.ackTracker = client.ackTracker)
    (hc : client'.trace.calls = new ++ client.trace.calls) (hno : ∀ call ∈ new, ¬call.OnDestroys) :
    DestroyMove core client client' :=
  .keep new hd (by simp [ht]) hc hno

theorem enqueueDestroy_tracker (core : ServerCore) (client : ServerClientReplicator) (slot : Nat) (entity : Entity)
    (frame : SyncFrame) : (client.enqueueDestroy core slot entity frame).2.ackTracker = client.ackTracker := by
  have hclear : (client.clearState core slot).2.ackTracker = client.ackTracker := by
    unfold clearState
    split <;> rfl
  have hmark : ∀ (c : ServerClientReplicator) (id : Nat), (c.markPendingDestroy id).1.ackTracker = c.ackTracker := by
    intro c id
    unfold markPendingDestroy
    split <;> rfl
  unfold enqueueDestroy
  simp only
  split
  · unfold enqueueDestroyState
    simp only
    split <;> exact (hmark _ _).trans hclear
  · exact (hmark _ _).trans hclear

theorem LocalMove.destroys {strict : Prop} {core core' : ServerCore} {client client' : ServerClientReplicator}
    (m : LocalMove strict core client core' client') (hids : IdInv client) : DestroyMove core client client' := by
  cases m with
  | ensureCapacity | beginSend | accumulate | boost | refuse | cleanupQueue => exact .of_calls [] rfl rfl rfl (by simp)
  | markDirty _ =>
    unfold ServerClientReplicator.markDirty
    split
    · exact .of_calls [] rfl rfl rfl (by simp)
    · exact .of_calls [_] rfl rfl rfl (by simp [Call.OnDestroys])
  | clearUnsent hs =>
    unfold clearState
    simp only [hs]
    exact .of_calls [_] rfl rfl rfl (by simp [Call.OnDestroys])
  | @enqueueDestroy slot r _ _ =>
    have hno : ∀ call ∈ clearCalls client slot, ¬call.OnDestroys := by
      unfold clearCalls
      split <;> simp [Call.OnDestroys]
    have ht := enqueueDestroy_tracker core client slot r.entity core.frame
    rcases enqueueDestroy_ids core slot r.entity core.frame hids with
      ⟨s, e, -, -, -, -, hd, htrace⟩ | ⟨-, -, hd, htrace⟩
    · exact .enqueue (clearCalls client slot) hd ht (by rw [htrace]) hno
    · exact .of_calls (clearCalls client slot) hd ht (by rw [htrace]) hno
  | clearDirty _ => exact .of_calls [_] rfl rfl rfl (by simp [Call.OnDestroys])
  | expireCues => exact .of_calls [_] rfl rfl rfl (by simp [Call.OnDestroys])
  | @storeDecision slot decision _ =>
    have hsame : (client.storeDecision core slot decision).2.destroys = client.destroys ∧
        (client.storeDecision core slot decision).2.ackTracker = client.ackTracker := by
      unfold ServerClientReplicator.storeDecision
      split
      · exact ⟨rfl, rfl⟩
      · simp only
        split
        · unfold invalidateEntityBaseline
          split <;> exact ⟨rfl, rfl⟩
        · exact ⟨rfl, rfl⟩
    exact .of_calls [] hsame.1 hsame.2 (by rw [storeDecision_trace]; rfl) (by simp)
  | allocate _ hs _ hal =>
    obtain ⟨version, ids, -, -, rfl⟩ := allocate_states hs hal
    exact .of_calls [] rfl rfl rfl (by simp)
  | sendDestroy hget => exact .resend _ _ hget rfl rfl rfl
  | @accept core₁ slot q r state quantized mask serialized w _ _ _ hs _ _ _ _ _ =>
    have htrace := recordSent_calls (core₁.retainQuantizedFrame q) (client.logWritten w) serialized hs
    obtain ⟨calls, hrest⟩ := recordSent_rest (core₁.retainQuantizedFrame q) (client.logWritten w) slot serialized
    exact .of_calls [_] (by rw [hrest]; rfl) (by rw [hrest]; rfl) (by rw [htrace]; rfl) (by simp [Call.OnDestroys])
  | @sendPacket n bits records hin =>
    have hs := sendPacket_spec core client core.frame n records bits (records.map WrittenRecord.ackRecord)
    rcases hs.sent with heq | ⟨packetId, charged, kept, hkept, htracked, -⟩
    · rw [heq]
      exact .of_calls [] rfl rfl rfl (by simp)
    · refine .track packetId charged hin (by rw [hs.same]) (fun p hp => ?_) (by rw [hs.same])
      rcases List.mem_append.mp (htracked.subset hp) with hp | hp
      · exact .inl (List.mem_filter.mp (hkept.subset hp)).1
      · exact .inr (List.mem_singleton.mp hp)
  | @acknowledge packet record hp hr =>
    have ht := acknowledgeRecord_tracker core client packet record
    unfold acknowledgeRecord at ht ⊢
    split
    · rename_i hdes
      rcases acknowledgeDestroy_spec packet record hids with
        ⟨heq, -⟩ | ⟨i, d, e, hd, he, hle, -, heq⟩
      · simp only [heq]
        exact .of_calls [] rfl rfl rfl (by simp)
      · simp only [heq]
        exact .retire hp hr hdes hd he hle rfl rfl rfl
    · split
      · exact .of_calls [] rfl rfl rfl (by simp)
      · rename_i slot _
        rcases acknowledgeEntity_spec core client slot record.frame with
          ⟨-, h⟩ | ⟨s, found, eligible, -, -, -, -, -, h⟩
        · rw [h]
          exact .of_calls [] rfl rfl rfl (by simp)
        · rw [h]
          refine .of_calls [.acknowledgeEntity slot record.frame eligible s] ?_ ?_ ?_ (by simp [Call.OnDestroys]) <;>
            cases eligible <;> rfl
  | forgetPackets _ hsub => exact .keep [] rfl (fun p hp => hsub.subset hp) rfl (by simp)
  | pushCue cue _ _ => exact .of_calls [_] rfl rfl rfl (by simp [Call.OnDestroys])

/-! ## The invariant -/

def DestroyLog (client : ServerClientReplicator) : Prop :=
  ∀ entity networkId networkVersion,
    EventLog.Since (Call.Enqueues entity networkId networkVersion) (Call.Retires entity networkId networkVersion)
      client.trace.calls →
    ∃ d ∈ client.destroys, d.entity = entity ∧ d.networkId = networkId ∧ d.networkVersion = networkVersion

structure DestroyInv (client : ServerClientReplicator) : Prop where
  distinct : (client.destroys.map (·.entity)).Nodup
  tracked : ∀ p ∈ client.ackTracker.pendingPacketAcks, ∀ r ∈ p.records, r.destroy = true →
    r.written.content = .destroy ∧ ∀ d ∈ client.destroys, d.entity = r.entity → r.Destroys d
  retired : ∀ call ∈ client.trace.calls, call.RetiresExactly

section

variable {core : ServerCore} {client client' : ServerClientReplicator}

theorem mem_resent {index : Nat} {destroy d : ClientDestroyState} (frame : SyncFrame) (epoch : Nat)
    (hget : client.destroys[index]? = some destroy) (hd : d ∈ client.destroys) :
    ∃ d' ∈ client.destroys.set index { destroy with frame, resetEpoch := epoch },
      d'.entity = d.entity ∧ d'.networkId = d.networkId ∧ d'.networkVersion = d.networkVersion := by
  obtain ⟨j, hj⟩ := List.getElem?_of_mem hd
  by_cases hji : j = index
  · subst hji
    rw [hget] at hj
    obtain rfl := Option.some.inj hj
    exact ⟨_, List.mem_set (List.getElem?_eq_some_iff.mp hget).1 _, rfl, rfl, rfl⟩
  · exact ⟨d, List.mem_of_getElem? ((List.getElem?_set_ne (Ne.symm hji)).trans hj), rfl, rfl, rfl⟩

theorem not_enqueues {call : Call} {entity : Entity} {networkId networkVersion : Nat} (h : ¬call.OnDestroys) :
    ¬call.Enqueues entity networkId networkVersion := by
  cases call <;> simp_all [Call.OnDestroys, Call.Enqueues]

theorem DestroyLog.move (m : DestroyMove core client client') (h : DestroyLog client) : DestroyLog client' := by
  intro entity networkId networkVersion hs
  cases m with
  | keep new hd _ hc hno =>
    rw [hc] at hs
    rw [hd]
    exact h _ _ _ (hs.old fun call hcall => not_enqueues (hno call hcall)).1
  | @enqueue entity' networkId' networkVersion' frame new hd _ hc hno =>
    rw [hc] at hs
    rw [hd]
    rcases hs with ⟨rfl, rfl, rfl⟩ | ⟨-, hs⟩
    · exact ⟨_, List.mem_append_right _ List.mem_cons_self, rfl, rfl, rfl⟩
    · obtain ⟨d, hmem, hkeys⟩ :=
        h _ _ _ (EventLog.Since.old (fun call hcall => not_enqueues (hno call hcall)) hs).1
      exact ⟨d, List.mem_append_left _ hmem, hkeys⟩
  | resend frame epoch hget hd _ hc =>
    rw [hc] at hs
    rw [hd]
    obtain ⟨d, hmem, h1, h2, h3⟩ := h _ _ _ hs
    obtain ⟨d', hmem', h1', h2', h3'⟩ := mem_resent frame epoch hget hmem
    exact ⟨d', hmem', h1'.trans h1, h2'.trans h2, h3'.trans h3⟩
  | track _ _ _ hd _ hc =>
    rw [hc] at hs
    rw [hd]
    exact h _ _ _ hs
  | @retire i d packet record _ _ _ hget _ _ hd _ hc =>
    rw [hc] at hs
    rw [hd]
    rcases hs with hs | ⟨hns, hs⟩
    · exact hs.elim
    · obtain ⟨d', hmem, hkeys⟩ := h _ _ _ hs
      obtain ⟨j, hj⟩ := List.getElem?_of_mem hmem
      refine ⟨d', List.mem_eraseIdx_iff_getElem?.mpr ⟨j, ?_, hj⟩, hkeys⟩
      rintro rfl
      rw [hget] at hj
      obtain rfl := Option.some.inj hj
      exact hns hkeys

theorem retiresExactly_of_not {call : Call} (h : ¬call.OnDestroys) : call.RetiresExactly := by
  cases call <;> simp_all [Call.OnDestroys, Call.RetiresExactly]

theorem DestroyInv.eq_of_entity (h : DestroyInv client) {d d' : ClientDestroyState} (hd : d ∈ client.destroys)
    (hd' : d' ∈ client.destroys) (he : d.entity = d'.entity) : d = d' :=
  List.inj_on_of_nodup_map h.distinct hd hd' he

/-- While every destroy is enqueued alone, records and destroys agree. -/
theorem DestroyInv.move (m : DestroyMove core client client')
    (halone : ∀ call ∈ client'.trace.calls, call.DestroysAlone) (h : DestroyInv client) : DestroyInv client' := by
  cases m with
  | keep new hd ht hc hno =>
    refine ⟨by rw [hd]; exact h.distinct, fun p hp => by rw [hd]; exact h.tracked p (ht p hp), ?_⟩
    intro call hcall
    rw [hc] at hcall
    rcases List.mem_append.mp hcall with hcall | hcall
    · exact retiresExactly_of_not (hno call hcall)
    · exact h.retired call hcall
  | @enqueue entity networkId networkVersion frame new hd ht hc hno =>
    obtain ⟨hq, htr⟩ := halone _ (by rw [hc]; exact List.mem_cons_self)
    refine ⟨?_, ?_, ?_⟩
    · rw [hd, List.map_append, List.map_singleton, List.nodup_append]
      refine ⟨h.distinct, List.nodup_singleton _, ?_⟩
      rintro e he e' he' rfl
      obtain ⟨d, hmem, rfl⟩ := List.mem_map.mp he
      exact hq d hmem (List.mem_singleton.mp he')
    · intro p hp r hr hdes
      rw [ht] at hp
      obtain ⟨hcon, hall⟩ := h.tracked p hp r hr hdes
      refine ⟨hcon, fun d hmem he => ?_⟩
      rw [hd] at hmem
      rcases List.mem_append.mp hmem with hmem | hmem
      · exact hall d hmem he
      · obtain rfl := List.mem_singleton.mp hmem
        exact absurd he.symm (htr p hp r hr hdes)
    · intro call hcall
      rw [hc] at hcall
      rcases List.mem_cons.mp hcall with rfl | hcall
      · trivial
      · rcases List.mem_append.mp hcall with hcall | hcall
        · exact retiresExactly_of_not (hno call hcall)
        · exact h.retired call hcall
  | @resend index destroy frame epoch hget hd ht hc =>
    have hmap : client'.destroys.map (·.entity) = client.destroys.map (·.entity) := by
      rw [hd]
      apply List.ext_getElem?
      intro j
      simp only [List.getElem?_map, List.getElem?_set]
      by_cases hj : index = j
      · subst hj
        obtain ⟨hlt, heq⟩ := List.getElem?_eq_some_iff.mp hget
        simp [hlt, heq]
      · simp [hj]
    refine ⟨hmap ▸ h.distinct, ?_, by rw [hc]; exact h.retired⟩
    intro p hp r hr hdes
    rw [ht] at hp
    obtain ⟨hcon, hall⟩ := h.tracked p hp r hr hdes
    refine ⟨hcon, fun d hmem he => ?_⟩
    rw [hd] at hmem
    rcases List.mem_or_eq_of_mem_set hmem with hmem | rfl
    · exact hall d hmem he
    · have hdes' := hall destroy (List.mem_of_getElem? hget) he
      exact ⟨hdes, hcon, hdes'.networkId, hdes'.networkVersion⟩
  | @track records packetId charged hin hd ht hc =>
    refine ⟨by rw [hd]; exact h.distinct, ?_, by rw [hc]; exact h.retired⟩
    intro p hp r hr hdes
    rw [hd]
    rcases ht p hp with hp | rfl
    · exact h.tracked p hp r hr hdes
    · -- a record of this packet: its destroy is queued, and is the only one of its entity
      obtain ⟨w, hw, rfl⟩ := List.mem_map.mp hr
      have hcon : w.content = .destroy := by
        cases hcon : w.content with
        | destroy => rfl
        | update => simp [WrittenRecord.ackRecord, hcon] at hdes
      obtain ⟨d, hmem, he, hid, hv⟩ := (hin w hw).queued hcon
      refine ⟨hcon, fun d' hmem' he' => ?_⟩
      obtain rfl := h.eq_of_entity hmem hmem' (he.trans he'.symm)
      exact ⟨hdes, hcon, hid.symm, hv.symm⟩
  | @retire i d packet record hp hr hdes hget he _ hd ht hc =>
    have hmem := List.mem_of_getElem? hget
    refine ⟨?_, ?_, ?_⟩
    · rw [hd]
      exact h.distinct.sublist ((List.eraseIdx_sublist _ _).map _)
    · intro p hp' r hr' hdes'
      rw [ht] at hp'
      obtain ⟨hcon, hall⟩ := h.tracked p hp' r hr' hdes'
      exact ⟨hcon, fun d' hmem' => hall d' ((List.eraseIdx_sublist _ _).subset (hd ▸ hmem'))⟩
    · intro call hcall
      rw [hc] at hcall
      rcases List.mem_cons.mp hcall with rfl | hcall
      · exact ⟨record, hr, (h.tracked packet hp record hr hdes).2 d hmem he⟩
      · exact h.retired call hcall

end

theorem DestroyMove.calls_subset {core : ServerCore} {client client' : ServerClientReplicator}
    (m : DestroyMove core client client') : ∀ call ∈ client.trace.calls, call ∈ client'.trace.calls := by
  intro call hcall
  cases m with
  | keep _ _ _ hc _ => simp [hc, hcall]
  | enqueue _ _ _ hc _ => simp [hc, hcall]
  | resend _ _ _ _ _ hc => simp [hc, hcall]
  | track _ _ _ _ _ hc => simp [hc, hcall]
  | retire _ _ _ _ _ _ _ _ hc => simp [hc, hcall]

theorem destroyRule (strict : Prop) : ClientRule strict fun _ client => IdInv client ∧ DestroyLog client ∧
    ((∀ call ∈ client.trace.calls, call.DestroysAlone) → DestroyInv client) where
  new _ peer id :=
    ⟨.new peer id, fun _ _ _ h => h.elim, fun _ => ⟨by simp, by simp, by simp⟩⟩
  own _ m h :=
    have hm := m.destroys h.1
    ⟨m.ids h.1, h.2.1.move hm,
      fun halone => (h.2.2 fun call hc => halone call (hm.calls_subset call hc)).move hm halone⟩
  around _ _ _ h := h

/-! ## Exact acknowledgement -/

section

open ReplicationServer

variable {options : ReplicationServerOptions} {settings : SyncSettings} {s : ReplicationServer}

/-- While every destroy was enqueued alone, a destroy leaves the queue only by a tracked packet with a record written
for its network id at its version. -/
theorem destroys_retired_exactly (h : Reachable options settings s) (client : ServerClientReplicator)
    (hc : client ∈ s.clients) (halone : ∀ call ∈ client.trace.calls, call.DestroysAlone) :
    (∀ d packet, Call.retireDestroy d packet ∈ client.trace.calls → ∃ r ∈ packet.records, r.Destroys d) ∧
    ∀ (entity : Entity) (networkId networkVersion : Nat) (queued : List ClientDestroyState)
      (tracked : List PendingPacketAck) (after before : List Call),
      client.trace.calls = after ++ .enqueueDestroy entity networkId networkVersion queued tracked :: before →
      (∃ d ∈ client.destroys, d.entity = entity ∧ d.networkId = networkId ∧ d.networkVersion =
        networkVersion) ∨
      ∃ d packet, .retireDestroy d packet ∈ after ∧
        d.entity = entity ∧ d.networkId = networkId ∧ d.networkVersion = networkVersion := by
  obtain ⟨-, hlog, hinv⟩ := (destroyRule False).reachable h client hc
  refine ⟨fun d packet hmem => (hinv halone).retired _ hmem, ?_⟩
  intro entity networkId networkVersion queued tracked after before hcalls
  by_cases hret : ∃ call ∈ after, call.Retires entity networkId networkVersion
  · obtain ⟨call, hmem, hret⟩ := hret
    cases call with
    | retireDestroy d packet => exact .inr ⟨d, packet, hmem, hret⟩
    | _ => exact hret.elim
  · left
    apply hlog
    rw [hcalls]
    exact EventLog.split ⟨rfl, rfl, rfl⟩ fun call hmem hr => hret ⟨call, hmem, hr⟩

def Sample.destroyed : List ServerOp := [.addClient 1 1, Sample.advance 1 [entity] [] [] [] [some 7, some 9],
  Sample.send [entity] [some 7, some 9], Sample.advance 2 [] [] [] [entity] [], Sample.send [] [], .acks 1 [2]]

theorem destroys_retired_exactly_destroyed :
    (∃ d packet, Call.retireDestroy d packet ∈ (Sample.client Sample.destroyed).trace.calls) ∧
    ∀ d packet, Call.retireDestroy d packet ∈ (Sample.client Sample.destroyed).trace.calls →
      ∃ r ∈ packet.records, r.Destroys d := by
  refine ⟨?_, (destroys_retired_exactly (Sample.inOrder Sample.destroyed (by decide +kernel)).reachable
    (Sample.client Sample.destroyed) (by decide +kernel) (by decide +kernel)).1⟩
  have hretired : ((Sample.client Sample.destroyed).trace.calls.any fun
    | .retireDestroy .. => true
    | _ => false) = true := by decide +kernel
  obtain ⟨call, hmem, hcall⟩ := List.any_eq_true.mp hretired
  cases call with
  | retireDestroy d packet => exact ⟨d, packet, hmem⟩
  | _ => cases hcall

/-- An entity destroyed, replicated again and destroyed again while packets 2 and 3, both with records of its first
destroy, are in flight: the first acknowledgement retires the first destroy, the second the other. -/
def Sample.redestroyed : List ServerOp := [.addClient 1 1, Sample.advance 1 [entity] [] [] [] [some 7, some 9],
  Sample.send [entity] [some 7, some 9], Sample.advance 2 [] [] [] [entity] [], Sample.send [] [],
  Sample.advance 3 [entity] [] [entity] [] [some 7, some 9], Sample.send [entity] [some 7, some 9],
  Sample.advance 4 [] [] [] [entity] [], .acks 1 [2], .acks 1 [3]]

theorem destroy_retired_unsent :
    InOrderReachable Sample.options Sample.settings (Sample.after Sample.redestroyed) ∧
    Sample.client Sample.redestroyed ∈ (Sample.after Sample.redestroyed).clients ∧
    ¬∀ call ∈ (Sample.client Sample.redestroyed).trace.calls, call.RetiresExactly :=
  ⟨Sample.inOrder _ (by decide +kernel), by decide +kernel, by decide +kernel⟩

end

end AshiatoSync
