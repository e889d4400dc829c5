import AshiatoSync.BaselineSound

/-!
# What the packets of a client hold

In a run in order, every update record was encoded from a well-formed frame of
its entity, and a delta against an earlier record of the same network id.  No two
update records of an id have one frame, and a packet holds records of its frame.
-/

namespace AshiatoSync

open ServerClientReplicator

/-! ## Records -/

/-- `v` is the update record of `w`'s network id at `frame`, from this data, with a mask that covers `mask`. -/
structure EarlierUpdate (w : WrittenRecord) (archetype : SyncArchetypeId) (mask : Mask) (frame : SyncFrame)
    (data : QuantizedFrameData) (v : WrittenRecord) : Prop where
  networkId : v.networkId = w.networkId
  frame : v.frame = frame
  content : ∃ slot q wider record cues, v.content = .update slot q archetype data wider record cues ∧
    MaskLe mask wider

structure UpdateFrom (settings : SyncSettings) (written : List WrittenRecord) (w : WrittenRecord) (core : ServerCore)
    (state : ClientEntityState) (quantized : QuantizedFrame) (definition : SyncArchetype) (mask : Mask)
    (record : UpdateRecord) (cues : List PendingCue) (full : Bool) : Prop where
  sameSettings : core.settings = settings
  archetype : settings.archetypes[quantized.archetype]? = some definition
  data : WellFormedData definition quantized.data
  frame : quantized.frame = w.frame
  networkId : record.networkId = w.networkId
  cues : record.cues = cues.map fun cue => WireCue.mk cue.frame cue.type cue.payload
  body : BodyWritten core state quantized definition mask record.body full
  baseline : ∀ b, deltaBaseline core state quantized.archetype quantized.data = some b →
    WellFormedData definition b.2 ∧ ∃ v ∈ written, EarlierUpdate w quantized.archetype mask b.1 b.2 v

/-- A destroy record, or an update record with its source. -/
inductive WrittenFrom (settings : SyncSettings) (written : List WrittenRecord) (w : WrittenRecord) : Prop where
  | destroy : w.content = .destroy → WrittenFrom settings written w
  | update {core : ServerCore} {state : ClientEntityState} {quantized : QuantizedFrame}
      {definition : SyncArchetype} {slot q : Nat} {mask : Mask} {record : UpdateRecord} {cues : List PendingCue}
      {full : Bool} :
      w.content = .update slot q quantized.archetype quantized.data mask record cues →
      UpdateFrom settings written w core state quantized definition mask record cues full →
      WrittenFrom settings written w

structure PacketOf (written : List WrittenRecord) (p : SentPacket) : Prop where
  records : ∀ w ∈ p.records, w ∈ written ∧ w.frame = p.frame
  count : p.entityCount = p.records.length % 2 ^ 16
  range : 0 < p.frame ∧ p.frame < 2 ^ 32

def InOrder (later earlier : WrittenRecord) : Prop :=
  later.slot? ≠ none → earlier.slot? ≠ none → earlier.networkId = later.networkId →
  earlier.frame < later.frame

structure WrittenInv (core : ServerCore) (client : ServerClientReplicator) : Prop where
  source : ∀ w ∈ client.trace.written, WrittenFrom core.settings client.trace.written w
  range : ∀ w ∈ client.trace.written, 0 < w.networkId ∧ w.networkId ≤ maxClientLocalWireNetworkId
  frames : ∀ w ∈ client.trace.written, w.slot? ≠ none → 0 < w.frame ∧ w.frame < 2 ^ 32
  ordered : client.trace.written.Pairwise InOrder
  packets : ∀ p ∈ client.transport, PacketOf client.trace.written p

section

variable {settings : SyncSettings} {written written' : List WrittenRecord} {w v : WrittenRecord}

theorem WrittenFrom.mono (h : WrittenFrom settings written w) (hmem : ∀ v ∈ written, v ∈ written') :
    WrittenFrom settings written' w := by
  cases h with
  | destroy hcontent => exact .destroy hcontent
  | update hcontent h =>
    refine .update hcontent { h with baseline := fun b hb => ?_ }
    obtain ⟨hdata, v, hv, hearlier⟩ := h.baseline b hb
    exact ⟨hdata, v, hmem v hv, hearlier⟩

theorem PacketOf.mono {p : SentPacket} (h : PacketOf written p) (hmem : ∀ v ∈ written, v ∈ written') :
    PacketOf written' p :=
  ⟨fun w hw => ⟨hmem w (h.records w hw).1, (h.records w hw).2⟩, h.count, h.range⟩

/-- Update records of one network id and one frame are the same record. -/
theorem eq_of_inOrder (h : written.Pairwise InOrder) (hv : v ∈ written) (hw : w ∈ written) (hvs : v.slot? ≠ none)
    (hws : w.slot? ≠ none) (hid : v.networkId = w.networkId) (hframe : v.frame = w.frame) : v = w := by
  induction h with
  | nil => cases hv
  | cons hhead _ ih =>
    rcases List.mem_cons.mp hv with hv₁ | hv₁
    · rcases List.mem_cons.mp hw with hw₁ | hw₁
      · exact hv₁.trans hw₁.symm
      · subst hv₁
        exact absurd hframe.symm (Nat.ne_of_lt (hhead w hw₁ hvs hws hid.symm))
    · rcases List.mem_cons.mp hw with hw₁ | hw₁
      · subst hw₁
        exact absurd hframe (Nat.ne_of_lt (hhead v hv₁ hws hvs hid))
      · exact ih hv₁ hw₁

end

/-! ## What a move writes and sends -/

inductive Wrote (core : ServerCore) (client : ServerClientReplicator) (w : WrittenRecord) : Prop where
  | destroy {d : ClientDestroyState} : d ∈ client.destroys → w.content = .destroy → w.networkId = d.networkId →
      Wrote core client w
  | update {core' : ServerCore} {slot q : Nat} {state : ClientEntityState} {quantized : QuantizedFrame}
      {serialized : SerializedEntity} :
      Obtained core slot core' q → client.states[slot]? = some state → state.hasNetworkId = true →
      core'.quantizedFrames[q]? = some quantized → RecordWritten core' state q state.componentMask serialized →
      w.networkId = state.networkId → w.networkVersion = state.networkVersion → w.frame = core.frame →
      w.content = .update slot q quantized.archetype quantized.data state.componentMask serialized.record
        state.pendingCues →
      0 < core.frame → core.frame + 1 < 2 ^ 32 →
      (∀ v ∈ client.trace.written, v.slot? ≠ none → v.networkId = state.networkId → v.frame < core.frame) →
      Wrote core client w

structure NothingSent (client client' : ServerClientReplicator) : Prop where
  written : client'.trace.written = client.trace.written
  transport : client'.transport = client.transport

section

variable {core core' : ServerCore} {client client' client'' : ServerClientReplicator}

theorem NothingSent.trans (h : NothingSent client client') (h' : NothingSent client' client'') :
    NothingSent client client'' :=
  ⟨h'.written.trans h.written, h'.transport.trans h.transport⟩

theorem nothingSent_clearState (core : ServerCore) (client : ServerClientReplicator) (slot : Nat) :
    NothingSent client (client.clearState core slot).2 := by
  unfold clearState
  split
  · exact ⟨rfl, rfl⟩
  · exact ⟨rfl, rfl⟩

theorem nothingSent_markDirty (core : ServerCore) (client : ServerClientReplicator) (slot : Nat) (frame : SyncFrame) :
    NothingSent client (client.markDirty core slot frame) := by
  unfold ServerClientReplicator.markDirty
  split
  · exact ⟨rfl, rfl⟩
  · exact ⟨rfl, rfl⟩

theorem nothingSent_enqueueDestroy (core : ServerCore) (client : ServerClientReplicator) (slot : Nat) (entity : Entity)
    (frame : SyncFrame) : NothingSent client (client.enqueueDestroy core slot entity frame).2 := by
  have hmark : ∀ (c : ServerClientReplicator) (id : Nat), NothingSent c (c.markPendingDestroy id).1 := by
    intro c id
    unfold markPendingDestroy
    split
    · exact ⟨rfl, rfl⟩
    · exact ⟨rfl, rfl⟩
  have henqueue : ∀ (c : ServerClientReplicator) (id version : Nat),
      NothingSent c (c.enqueueDestroyState entity frame id version) := by
    intro c id version
    unfold enqueueDestroyState
    dsimp only
    split
    · exact ⟨rfl, rfl⟩
    · exact ⟨rfl, rfl⟩
  have hcleared : NothingSent client ((client.clearState core slot).2.clearDirty slot) :=
    (nothingSent_clearState core client slot).trans ⟨rfl, rfl⟩
  unfold enqueueDestroy
  dsimp only
  split
  · exact (hcleared.trans (hmark _ _)).trans (henqueue _ _ _)
  · exact hcleared.trans (hmark _ _)

theorem nothingSent_storeDecision (core : ServerCore) (client : ServerClientReplicator) (slot : Nat)
    (decision : EntityReplicationDecision) : NothingSent client (client.storeDecision core slot decision).2 := by
  unfold storeDecision
  split
  · exact ⟨rfl, rfl⟩
  · dsimp only
    split
    · unfold invalidateEntityBaseline
      split
      · exact ⟨rfl, rfl⟩
      · exact ⟨rfl, rfl⟩
    · exact ⟨rfl, rfl⟩

theorem nothingSent_acknowledgeRecord (core : ServerCore) (client : ServerClientReplicator) (packet : PendingPacketAck)
    (record : PacketAckRecord) : NothingSent client (client.acknowledgeRecord core packet record).2.1 := by
  unfold acknowledgeRecord
  split
  · obtain ⟨calls, hlog⟩ := logRetired_eq client packet record
    rw [hlog]
    unfold acknowledgeDestroy
    dsimp only
    split
    · exact ⟨rfl, rfl⟩
    · dsimp only [freeNetworkId]
      split
      · exact ⟨rfl, rfl⟩
      · split
        · exact ⟨rfl, rfl⟩
        · exact ⟨rfl, rfl⟩
  · split
    · exact ⟨rfl, rfl⟩
    · rename_i slot _
      rcases acknowledgeEntity_spec core client slot record.frame with ⟨-, h⟩ | ⟨s, found, eligible,
        -, -, -, -, -, h⟩
      · rw [h]
        exact ⟨rfl, rfl⟩
      · rw [h]
        split
        · exact ⟨rfl, rfl⟩
        · exact ⟨rfl, rfl⟩

theorem sendPacket_sends (core : ServerCore) (client : ServerClientReplicator) (n bits : Nat)
    (records : List WrittenRecord) (acks : List PacketAckRecord) (p : SentPacket)
    (hp : p ∈ (client.sendPacket core core.frame n records bits acks).transport) :
    p ∈ client.transport ∨ p.frame = core.frame ∧ p.entityCount = n ∧ p.records = records := by
  have hnotify : ∀ (c : ServerClientReplicator) (lost : List PendingPacketAck), (c.notifyLost core lost).transport =
      c.transport := by
    intro c lost
    unfold notifyLost
    split
    · rfl
    · rfl
  have htrack : ∀ (c : ServerClientReplicator) (id charged : Nat),
      (c.trackPacketAck id core.frame charged acks).transport = c.transport := by
    intro c id charged
    unfold trackPacketAck
    split
    · rfl
    · dsimp only
      split
      · rfl
      · rfl
  unfold sendPacket at hp
  split at hp
  · exact .inl hp
  · dsimp only [allocatePacketId, enforcePendingPacketAckLimit] at hp
    rcases List.mem_cons.mp hp with rfl | hp
    · exact .inr ⟨rfl, rfl, rfl⟩
    · dsimp only [setPacketAcks] at hp
      rw [hnotify] at hp
      dsimp only at hp
      rw [htrack] at hp
      dsimp only at hp
      rw [hnotify] at hp
      exact .inl hp

/-- A move sends nothing, writes one record, or sends a packet of records it wrote. -/
theorem LocalMove.sends (m : LocalMove True core client core' client') : NothingSent client client' ∨
    (∃ w, client'.trace.written = w :: client.trace.written ∧ client'.transport = client.transport ∧
    Wrote core client w) ∨
    (client'.trace.written = client.trace.written ∧ ∀ p ∈ client'.transport, p ∈ client.transport ∨
      PacketOf client.trace.written p) := by
  cases m with
  | @sendDestroy index d hd => exact .inr (.inl ⟨_, rfl, rfl, .destroy (List.mem_of_getElem? hd) rfl rfl⟩)
  | @accept core₁ slot q r state quantized mask serialized w _ _ ho hs hid hq hw heq hstrict =>
    obtain ⟨hpos, hrange, hmask, hnewer⟩ := hstrict trivial
    obtain ⟨calls, hrest⟩ := recordSent_rest (core₁.retainQuantizedFrame q) (client.logWritten w) slot serialized
    refine .inr (.inl ⟨w, by rw [hrest]; rfl, by rw [hrest]; rfl, ?_⟩)
    subst hmask
    exact .update ho hs hid hq hw (by rw [heq]) (by rw [heq]) (by rw [heq]) (by rw [heq]) hpos hrange
      fun v hv hsome hsame => hnewer v hv hsome (.inr hsame)
  | @sendPacket n bits records hrecords hcount hrange =>
    refine .inr (.inr ⟨by rw [(sendPacket_spec ..).same], fun p hp => ?_⟩)
    rcases sendPacket_sends core client n bits records _ p hp with hold | ⟨hframe, hn, hsame⟩
    · exact .inl hold
    · refine .inr ⟨?_, ?_, ?_⟩
      · rw [hsame, hframe]
        exact fun w hw => ⟨(hrecords w hw).written, (hrecords w hw).frame⟩
      · rw [hn, hsame]
        exact hcount
      · rw [hframe]
        exact ⟨(hrange trivial).1, Nat.lt_of_succ_lt (hrange trivial).2⟩
  | ensureCapacity | clearDirty _ | beginSend | expireCues | accumulate _ | boost _
  | refuse _ _ | cleanupQueue | forgetPackets _ _
  | pushCue _ _ _ => exact .inl ⟨rfl, rfl⟩
  | markDirty _ => exact .inl (nothingSent_markDirty core client _ _)
  | clearUnsent _ => exact .inl (nothingSent_clearState core client _)
  | enqueueDestroy _ _ => exact .inl (nothingSent_enqueueDestroy core client _ _ _)
  | storeDecision _ _ => exact .inl (nothingSent_storeDecision core client _ _)
  | acknowledge _ _ => exact .inl (nothingSent_acknowledgeRecord core client _ _)
  | allocate _ hs _ hal =>
    obtain ⟨version, ids, -, -, rfl⟩ := allocate_states hs hal
    exact .inl ⟨rfl, rfl⟩

end

/-! ## The invariant -/

section

variable {core core' : ServerCore} {client client' : ServerClientReplicator} {others : Nat → Nat} {w : WrittenRecord}

theorem Obtained.wellFormed {slot q i : Nat} {f : QuantizedFrame} (ho : Obtained core slot core' q)
    (hinv : ClientInv core client others) (hf : core'.quantizedFrames[i]? = some f) (ha : f.active = true) :
    ∃ definition, core.settings.archetypes[f.archetype]? = some definition ∧ WellFormedData definition f.data := by
  rcases ho.evolves hinv.ref i f hf ha with ⟨f₀, hf₀, ha₀, hsame⟩ | ⟨-, hfresh⟩
  · rw [hsame.archetype, hsame.data]
    exact hinv.data i f₀ hf₀ ha₀
  · exact hfresh.data

theorem entry?_range {ids : NetworkIds} {id : Nat} {e : NetworkIdEntry}
    (hbound : ids.entries.length ≤ maxClientLocalWireNetworkId + 1) (h : ids.entry? id = some e) :
    0 < id ∧ id ≤ maxClientLocalWireNetworkId := by
  unfold NetworkIds.entry? at h
  split at h
  · cases h
  · have hlt := (List.getElem?_eq_some_iff.mp h).1
    omega

/-- The baseline of a state is what an earlier record of its network id was written from. -/
theorem BaselineInv.earlier (h : BaselineInv core client) (hinv : ClientInv core client others) {slot q : Nat}
    {state : ClientEntityState} (ho : Obtained core slot core' q) (hs : client.states[slot]? = some state)
    (hid : w.networkId = state.networkId) {archetype : SyncArchetypeId} {data : QuantizedFrameData}
    {b : SyncFrame × QuantizedFrameData} (hb : deltaBaseline core' state archetype data = some b) :
    (∃ definition, core.settings.archetypes[archetype]? = some definition ∧ WellFormedData definition b.2) ∧
      ∃ v ∈ client.trace.written, EarlierUpdate w archetype state.componentMask b.1 b.2 v := by
  unfold deltaBaseline at hb
  split at hb
  · cases hb
  · rename_i i hi
    split at hb
    · cases hb
    · rename_i f hf
      split at hb
      · rename_i hlive
        simp only [Bool.and_eq_true, beq_iff_eq] at hlive
        obtain ⟨⟨hactive, harchetype⟩, -⟩ := hlive
        obtain rfl := Option.some.inj hb
        obtain ⟨-, f₀, mask, v, hsourced, hcovers⟩ := h.baseline slot state i hs hi
        obtain ⟨f', hmoved, -⟩ :=
          hsourced.move client state (ho.evolves hinv.ref) (fun hv => hv) rfl rfl ⟨f, hf, hactive⟩
        obtain rfl : f = f' := Option.some.inj (hf.symm.trans hmoved.get)
        obtain ⟨slot', record, cues, hcontent⟩ := hmoved.record.content
        refine ⟨harchetype ▸ ho.wellFormed hinv hf hactive, v, hmoved.record.written,
          hmoved.record.networkId.trans hid.symm,
          hmoved.record.frame, slot, slot', mask, record, cues, ?_, hcovers⟩
        rw [← harchetype]
        exact hcontent
      · cases hb

theorem Wrote.source (h : Wrote core client w) (hinv : ClientInv core client others) (hbase : BaselineInv core client) :
    WrittenFrom core.settings client.trace.written w := by
  cases h with
  | destroy _ hcontent _ => exact .destroy hcontent
  | @update core' slot q state quantized serialized ho hs hid hq hw hnet _ hframe hcontent _ _ _ =>
    obtain ⟨f, definition, hf, hactive, hdefinition⟩ := ho.frame hinv
    obtain rfl : quantized = f := Option.some.inj (hq.symm.trans hf)
    have hsame := obtained_sameSlots ho
    obtain ⟨-, hquantized, -⟩ := ho.ofSlot (.refl core') (.refl core') hq hq hactive
    obtain ⟨quantized', definition', hq', hdefinition', hbody⟩ := hw.body
    obtain rfl : quantized = quantized' := Option.some.inj (hq.symm.trans hq')
    obtain rfl : definition = definition' := Option.some.inj (hdefinition.symm.trans hdefinition')
    rw [hsame.settings] at hdefinition
    have hshape : ∀ {data : QuantizedFrameData},
        (∃ definition, core.settings.archetypes[quantized.archetype]? = some definition ∧
        WellFormedData definition data) → WellFormedData definition data := by
      rintro data ⟨found, hfound, hdata⟩
      rw [hdefinition] at hfound
      exact Option.some.inj hfound ▸ hdata
    refine .update hcontent ⟨hsame.settings, hdefinition, hshape (ho.wellFormed hinv hq hactive), ?_,
      hw.networkId.trans hnet.symm,
      hw.cues, hbody, fun b hb => ?_⟩
    · rw [hquantized, hsame.frame, hframe]
    · obtain ⟨hdata, hearlier⟩ := hbase.earlier hinv ho hs hnet hb
      exact ⟨hshape hdata, hearlier⟩

theorem Wrote.range (h : Wrote core client w) (hid : IdInv client) :
    0 < w.networkId ∧ w.networkId ≤ maxClientLocalWireNetworkId := by
  cases h with
  | destroy hd _ hnet =>
    obtain ⟨e, he, -⟩ := hid.destroyed _ hd
    rw [hnet]
    exact entry?_range hid.bound he
  | update _ hs hsid _ _ hnet _ _ _ _ _ _ =>
    obtain ⟨e, he, -⟩ := hid.owner _ _ hs hsid
    rw [hnet]
    exact entry?_range hid.bound he

theorem WrittenInv.mono_client (h : WrittenInv core client) (hsettings : core'.settings = core.settings)
    (hsame : NothingSent client client') : WrittenInv core' client' := by
  obtain ⟨hsource, hrange, hframes, hordered, hpackets⟩ := h
  refine ⟨?_, ?_, ?_, ?_, ?_⟩
  · rw [hsame.written, hsettings]
    exact hsource
  · rw [hsame.written]
    exact hrange
  · rw [hsame.written]
    exact hframes
  · rw [hsame.written]
    exact hordered
  · rw [hsame.written, hsame.transport]
    exact hpackets

theorem WrittenInv.own (hinv : ClientInv core client others) (hid : IdInv client) (hbase : BaselineInv core client)
    (m : LocalMove True core client core' client') (h : WrittenInv core client) : WrittenInv core' client' := by
  have hsettings := m.sameSlots.settings
  rcases m.sends with hsame | ⟨w, hwritten, htransport, hw⟩ | ⟨hwritten, hsent⟩
  · exact h.mono_client hsettings hsame
  · have hmem : ∀ v ∈ client.trace.written, v ∈ client'.trace.written := fun v hv => by
      rw [hwritten]
      exact List.mem_cons_of_mem w hv
    refine ⟨?_, ?_, ?_, ?_, ?_⟩
    · rw [hsettings, hwritten]
      refine List.forall_mem_cons.mpr ⟨?_, fun v hv => ?_⟩
      · exact (hw.source hinv hbase).mono fun v hv => List.mem_cons_of_mem w hv
      · exact (h.source v hv).mono fun v hv => List.mem_cons_of_mem w hv
    · rw [hwritten]
      exact List.forall_mem_cons.mpr ⟨hw.range hid, h.range⟩
    · rw [hwritten]
      refine List.forall_mem_cons.mpr ⟨fun hslot => ?_, h.frames⟩
      cases hw with
      | destroy _ hcontent _ => simp [WrittenRecord.slot?, hcontent] at hslot
      | update _ _ _ _ _ _ _ hframe _ hpos hlt _ => exact ⟨hframe ▸ hpos, hframe ▸ Nat.lt_of_succ_lt hlt⟩
    · rw [hwritten]
      refine List.pairwise_cons.mpr ⟨fun v hv hslot hvslot hids => ?_, h.ordered⟩
      cases hw with
      | destroy _ hcontent _ => simp [WrittenRecord.slot?, hcontent] at hslot
      | update _ _ _ _ _ hnet _ hframe _ _ _ hnewer => exact hframe ▸ hnewer v hv hvslot (hids.trans hnet)
    · rw [htransport]
      exact fun p hp => (h.packets p hp).mono hmem
  · refine ⟨?_, ?_, ?_, ?_, fun p hp => ?_⟩
    · rw [hwritten, hsettings]
      exact h.source
    · rw [hwritten]
      exact h.range
    · rw [hwritten]
      exact h.frames
    · rw [hwritten]
      exact h.ordered
    · rw [hwritten]
      rcases hsent p hp with hold | hnew
      · exact h.packets p hold
      · exact hnew

end

theorem writtenInvRule : ClientRule True fun core client => IdInv client ∧ BaselineInv core client ∧
    WrittenInv core client where
  new core peer id := ⟨(idRule True).new core peer id, baselineRule.new core peer id,
    ⟨by simp, by simp, by simp, .nil, by simp⟩⟩
  own hinv m h :=
    ⟨(idRule True).own hinv m h.1, baselineRule.own hinv m h.2.1, WrittenInv.own hinv h.1 h.2.1 m h.2.2⟩
  around hinv hinv' har h := ⟨(idRule True).around hinv hinv' har h.1, baselineRule.around hinv hinv' har h.2.1,
    h.2.2.mono_client har.settings ⟨rfl, rfl⟩⟩

end AshiatoSync
