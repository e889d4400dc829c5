import AshiatoSync.WriterRuns

/-!
# Sending by moves

`sendClient` is a sequence of moves.  In a strict run, every record it accepts is
the first of its slot and of its network id at the server's frame, and is written
with the mask of its entity state.
-/

namespace AshiatoSync

open ServerClientReplicator

section

variable {strict : Prop}

/-! ## Packets -/

theorem sendPacket_congr {core core₁ : ServerCore} (hopt : core₁.options = core.options)
    (hframe : core₁.frame = core.frame) (client : ServerClientReplicator) (frame : SyncFrame) (n : Nat)
    (records : List WrittenRecord) (bits : Nat) (acks : List PacketAckRecord) :
    client.sendPacket core₁ frame n records bits acks = client.sendPacket core frame n records bits acks := by
  have hlost : ∀ (c : ServerClientReplicator) (lost : List PendingPacketAck), c.notifyLost core₁ lost =
      c.notifyLost core lost := by
    intro c lost
    simp only [notifyLost, hopt, hframe]
  simp only [ServerClientReplicator.sendPacket, allocatePacketId, enforcePendingPacketAckLimit, hlost,
    ServerCore.chargedPacketBytes, hopt]

structure OnlyPackets (client client' : ServerClientReplicator) : Prop where
  same : client' = { client with
    ackTracker := client'.ackTracker, transport := client'.transport, budget := client'.budget }

structure PacketInv (strict : Prop) (frame : SyncFrame) (client : ServerClientReplicator) (l : SendLoop) : Prop where
  records : ∀ w ∈ l.records, client.InPacket frame w
  acks : l.packetAckRecords = l.records.map WrittenRecord.ackRecord
  count : l.packetEntities = l.records.length % 2 ^ 16
  range : strict → 0 < frame ∧ frame + 1 < 2 ^ 32

theorem ServerClientReplicator.InPacket.mono {frame : SyncFrame} {client client' : ServerClientReplicator}
    {w : WrittenRecord} (h : client.InPacket frame w) (hw : ∀ w ∈ client.trace.written, w ∈ client'.trace.written)
    (hd : client'.destroys = client.destroys) : client'.InPacket frame w :=
  ⟨hw w h.written, h.frame, by rw [hd]; exact h.queued⟩

theorem flush_spec (strict : Prop) (core : ServerCore) {l : SendLoop} (hopt : l.core.options = core.options)
    (hframe : l.core.frame = core.frame) (hp : PacketInv strict core.frame l.client l) :
    LocalMoves strict core l.client core l.flush.client ∧ OnlyPackets l.client l.flush.client ∧
      PacketInv strict core.frame l.flush.client l.flush := by
  refine ⟨?_, ⟨(sendPacket_spec ..).same⟩, ⟨by simp [SendLoop.flush], rfl, rfl, hp.range⟩⟩
  simp only [SendLoop.flush]
  rw [sendPacket_congr hopt hframe, hframe, hp.acks]
  exact (LocalMove.sendPacket hp.records hp.count hp.range).moves

theorem flushIfFull_spec (strict : Prop) (core : ServerCore) (l : SendLoop) (bits : Nat)
    (hopt : l.core.options = core.options) (hframe : l.core.frame = core.frame)
    (hp : PacketInv strict core.frame l.client l) :
    LocalMoves strict core l.client core (l.flushIfFull bits).client ∧
    OnlyPackets l.client (l.flushIfFull bits).client ∧
      PacketInv strict core.frame (l.flushIfFull bits).client (l.flushIfFull bits) ∧
      (l.flushIfFull bits).core = l.core := by
  unfold SendLoop.flushIfFull
  split
  · obtain ⟨m, o, hp'⟩ := flush_spec strict core hopt hframe hp
    exact ⟨m, o, hp', rfl⟩
  · exact ⟨.refl, ⟨rfl⟩, hp, rfl⟩

/-! ## The loop invariant -/

def SerializedCandidate.slot? : SerializedCandidate → Option Nat
  | .update slot _ _ => some slot
  | .destroy _ => none

structure SendInv (strict : Prop) (core₀ : ServerCore) (client₀ : ServerClientReplicator)
    (rest : List SerializedCandidate) (l : SendLoop) : Prop where
  moves : LocalMoves strict core₀ client₀ l.core l.client
  packet : PacketInv strict l.core.frame l.client l
  nodup : (rest.filterMap SerializedCandidate.slot?).Nodup
  mask : ∀ (slot : Nat) (priority : Float32Bits) (mask : Mask), .update slot priority mask ∈ rest →
    ∀ st, l.client.states[slot]? = some st → mask = st.componentMask
  written : strict → ∀ v ∈ l.client.trace.written, ∀ j, v.slot? = some j → v.frame < l.core.frame ∨
    j ∉ rest.filterMap SerializedCandidate.slot? ∧
      ∃ st, l.client.states[j]? = some st ∧ st.hasNetworkId = true ∧ st.networkId = v.networkId

variable {core₀ : ServerCore} {client₀ : ServerClientReplicator} {rest : List SerializedCandidate} {l : SendLoop}

theorem SendInv.tail {a : SerializedCandidate} (h : SendInv strict core₀ client₀ (a :: rest) l) :
    SendInv strict core₀ client₀ rest l := by
  have hsub : (rest.filterMap SerializedCandidate.slot?).Sublist ((a :: rest).filterMap SerializedCandidate.slot?) :=
    (List.sublist_cons_self a rest).filterMap _
  refine ⟨h.moves, h.packet, h.nodup.sublist hsub, fun slot p mask hm => h.mask slot p mask (by simp [hm]), ?_⟩
  intro hst v hv j hj
  rcases h.written hst v hv j hj with hlt | ⟨hnot, hid⟩
  · exact .inl hlt
  · exact .inr ⟨fun hin => hnot (hsub.subset hin), hid⟩

theorem SendInv.step {l' : SendLoop} (h : SendInv strict core₀ client₀ rest l)
    (m : LocalMoves strict l.core l.client l'.core l'.client) (hp : PacketInv strict l'.core.frame l'.client l')
    (hw : l'.client.trace.written = l.client.trace.written)
    (hst : ∀ (slot : Nat) (st : ClientEntityState), l.client.states[slot]? = some st →
      ∃ st', l'.client.states[slot]? = some st' ∧ IdsGiven st st')
    (hback : ∀ slot : Nat, l.client.states[slot]? = none → l'.client.states[slot]? = none) :
    SendInv strict core₀ client₀ rest l' := by
  refine ⟨h.moves.trans m, hp, h.nodup, ?_, ?_⟩
  · intro slot p mask hm st' hst'
    cases hs : l.client.states[slot]? with
    | none =>
      rw [hback slot hs] at hst'
      cases hst'
    | some st =>
      obtain ⟨st₁, hst₁, hg⟩ := hst slot st hs
      rw [hst₁] at hst'
      obtain rfl := Option.some.inj hst'
      rw [hg.componentMask]
      exact h.mask slot p mask hm st hs
  · intro hstr v hv j hj
    rw [hw] at hv
    rw [m.sameSlots.frame]
    rcases h.written hstr v hv j hj with hlt | ⟨hnot, st, hs, hid, hnet⟩
    · exact .inl hlt
    · obtain ⟨st', hs', hg⟩ := hst j st hs
      obtain ⟨h1, h2, -⟩ := hg.ids hid
      exact .inr ⟨hnot, st', hs', h1, h2.trans hnet⟩

theorem SendInv.same {l' : SendLoop} (h : SendInv strict core₀ client₀ rest l)
    (m : LocalMoves strict l.core l.client l'.core l'.client) (hp : PacketInv strict l'.core.frame l'.client l')
    (hw : l'.client.trace.written = l.client.trace.written) (hst : l'.client.states = l.client.states) :
    SendInv strict core₀ client₀ rest l' :=
  h.step m hp hw (fun _ st hs => ⟨st, hst ▸ hs, .refl st⟩) fun _ hs => hst ▸ hs

theorem SendInv.flush (h : SendInv strict core₀ client₀ rest l) :
    SendInv strict core₀ client₀ rest l.flush := by
  obtain ⟨m, o, hp⟩ := flush_spec strict l.core rfl rfl h.packet
  exact h.same m hp (by rw [o.same]) (by rw [o.same])

theorem SendInv.flushIfFull (bits : Nat) (h : SendInv strict core₀ client₀ rest l) :
    SendInv strict core₀ client₀ rest (l.flushIfFull bits) := by
  unfold SendLoop.flushIfFull
  split
  · exact h.flush
  · exact h

theorem flushIfFull_core (l : SendLoop) (bits : Nat) : (l.flushIfFull bits).core = l.core := by
  unfold SendLoop.flushIfFull
  split <;> rfl

theorem flushIfFull_destroys (l : SendLoop) (bits : Nat) :
    (l.flushIfFull bits).client.destroys = l.client.destroys := by
  unfold SendLoop.flushIfFull
  split
  · simp only [SendLoop.flush]
    rw [(sendPacket_spec ..).same]
  · rfl

theorem SendInv.sendDestroy {index : Nat} (h : SendInv strict core₀ client₀ rest l) :
    SendInv strict core₀ client₀ rest (l.sendDestroy index) := by
  unfold SendLoop.sendDestroy
  split
  · exact h
  rename_i destroy hd
  simp only
  have hf := h.flushIfFull
    (destroyRecordBits destroy.networkId l.core.options.protocol.networkEntityIdTier0Bits)
  have hdes := flushIfFull_destroys l
    (destroyRecordBits destroy.networkId l.core.options.protocol.networkEntityIdTier0Bits)
  generalize l.flushIfFull (destroyRecordBits destroy.networkId l.core.options.protocol.networkEntityIdTier0Bits) = l₁
    at hf hdes
  split
  · exact hf
  split
  · exact ⟨hf.moves, ⟨hf.packet.records, hf.packet.acks, hf.packet.count, hf.packet.range⟩, hf.nodup,
      hf.mask, hf.written⟩
  have hget : l₁.client.destroys[index]? = some destroy := by
    rw [hdes]
    exact hd
  have m : LocalMove strict l₁.core l₁.client _ _ := .sendDestroy hget
  refine ⟨hf.moves.trans m.moves, ⟨?_, ?_, ?_, hf.packet.range⟩, hf.nodup, hf.mask, ?_⟩
  · intro w hw
    rcases List.mem_append.mp hw with hw | hw
    · have hin := hf.packet.records w hw
      refine ⟨List.mem_cons_of_mem _ hin.written, hin.frame, fun hcon => ?_⟩
      obtain ⟨d, hd, hids⟩ := hin.queued hcon
      obtain ⟨j, hj⟩ := List.getElem?_of_mem hd
      by_cases hji : j = index
      · subst hji
        rw [hget] at hj
        obtain rfl := Option.some.inj hj
        exact ⟨_, List.mem_set (List.getElem?_eq_some_iff.mp hget).1 _, hids⟩
      · exact ⟨d, List.mem_of_getElem? ((List.getElem?_set_ne (Ne.symm hji)).trans hj), hids⟩
    · obtain rfl := List.mem_singleton.mp hw
      exact ⟨List.mem_cons_self, rfl,
        fun _ => ⟨_, List.mem_set (List.getElem?_eq_some_iff.mp hget).1 _, rfl, rfl, rfl⟩⟩
  · simp only [SendLoop.appendRecord, List.map_append, hf.packet.acks]
    rfl
  · simp [SendLoop.appendRecord, hf.packet.count]
  · intro hstr v hv j hj
    rcases List.mem_cons.mp hv with rfl | hv
    · simp [WrittenRecord.slot?] at hj
    · exact hf.written hstr v hv j hj

/-! ## Updates -/

theorem acceptUpdate_eq {core₁ : ServerCore} {slot q : Nat} (mask : Mask) {serialized : SerializedEntity}
    {r : ReplicatedSlot} {state : ClientEntityState} {quantized : QuantizedFrame}
    (hcore : l.core = core₁.retainQuantizedFrame q) (hq : serialized.quantizedFrame = q)
    (hr : core₁.replicated[slot]? = some r) (hs : l.client.states[slot]? = some state)
    (hf : core₁.quantizedFrames[q]? = some quantized) :
    ∃ w : WrittenRecord,
      w = {
        entity := r.entity, networkId := state.networkId, networkVersion := state.networkVersion
        frame := core₁.frame
        content := .update slot q quantized.archetype quantized.data mask serialized.record state.pendingCues } ∧
      l.acceptUpdate slot mask serialized = { l with
        core := (SendLoop.recordSent l.core (l.client.logWritten w) slot serialized).1
        client := (SendLoop.recordSent l.core (l.client.logWritten w) slot serialized).2
        records := l.records ++ [w], recordsBits := l.recordsBits + (1 + serialized.payloadBits)
        packetAckRecords := l.packetAckRecords ++ [w.ackRecord]
        packetEntities := (l.packetEntities + 1) % 2 ^ 16 } := by
  refine ⟨_, rfl, ?_⟩
  have hr' : l.core.replicated[slot]? = some r := by
    rw [hcore]
    exact hr
  have hf' : ∃ f', l.core.quantizedFrames[q]? = some f' ∧ f'.archetype = quantized.archetype ∧
      f'.data = quantized.data := by
    rw [hcore]
    simp only [ServerCore.retainQuantizedFrame, List.getElem?_modify_eq, hf, Option.map_eq_map, Option.map_some]
    split <;> exact ⟨_, rfl, rfl, rfl⟩
  obtain ⟨f', hf', harch, hdata⟩ := hf'
  have hframe : l.core.frame = core₁.frame := by
    rw [hcore]
    rfl
  unfold SendLoop.acceptUpdate SendLoop.updateWritten
  simp only [hr', hs, hq, hf', harch, hdata, hframe]
  rfl

theorem SendInv.accept {slot : Nat} {mask : Mask} {q : Nat} {core₁ : ServerCore} {priority : Float32Bits}
    {serialized : SerializedEntity} {state : ClientEntityState} {others : Nat → Nat} {l₁ : SendLoop}
    (h : SendInv strict core₀ client₀ (.update slot priority mask :: rest) l)
    (hinv : ClientInv l.core l.client others) (hid : IdInv l.client)
    (hpos : strict → 0 < l.core.frame ∧ l.core.frame + 1 < 2 ^ 32) (hact : l.core.replicatedSlotActive slot = true)
    (ho : Obtained l.core slot core₁ q) (hs : l.client.states[slot]? = some state) (hsid : state.hasNetworkId = true)
    (hw : RecordWritten core₁ state q mask serialized)
    (hl₁ : l₁.core = core₁.retainQuantizedFrame q) (hc₁ : l₁.client = l.client)
    (hp : PacketInv strict l.core.frame l₁.client l₁) :
    SendInv strict core₀ client₀ rest (l₁.acceptUpdate slot mask serialized) := by
  obtain ⟨f, archetype, hf, hfa, harch⟩ := ho.frame hinv
  obtain ⟨r, hr, hra⟩ : ∃ r, l.core.replicated[slot]? = some r ∧ r.active = true := by
    cases hr : l.core.replicated[slot]? with
    | none => simp [ServerCore.replicatedSlotActive, hr] at hact
    | some r => exact ⟨r, rfl, by rwa [slotActive_of_get hr] at hact⟩
  have hsame := obtained_sameSlots ho
  obtain ⟨r₁, hr₁, hre, -, -⟩ := hsame.slot hr
  obtain ⟨w, hwdef, heq⟩ := acceptUpdate_eq mask hl₁ hw.frame hr₁ (hc₁ ▸ hs) hf
  rw [heq]
  have hnotin : slot ∉ rest.filterMap SerializedCandidate.slot? := by
    have := h.nodup
    simp only [List.filterMap_cons, SerializedCandidate.slot?] at this
    exact (List.nodup_cons.mp this).1
  have hwdef' : w = { entity := r.entity, networkId := state.networkId, networkVersion := state.networkVersion
                      frame := l.core.frame
                      content := .update slot q f.archetype f.data mask serialized.record state.pendingCues } := by
    rw [hwdef, hre, hsame.frame]
  have m : LocalMove strict l.core l.client _ _ :=
    LocalMove.accept hr hra ho hs hsid hf hw hwdef' fun hstr => by
      refine ⟨(hpos hstr).1, (hpos hstr).2, h.mask slot priority mask (by simp) state hs, ?_⟩
      intro v hv hsome hor
      obtain ⟨j, hj⟩ := Option.ne_none_iff_exists'.mp hsome
      rcases h.written hstr v hv j hj with hlt | ⟨hnot, st, hst, hstid, hstnet⟩
      · exact hlt
      · -- another slot was sent at this frame; ids tell the slots apart
        exfalso
        have hne : j ≠ slot := by
          rintro rfl
          exact hnot (by simp [SerializedCandidate.slot?])
        rcases hor with hslot | hnet
        · rw [hj] at hslot
          exact hne (Option.some.inj hslot)
        · obtain ⟨e, he, -, -, hes, -⟩ := hid.owner j st hst hstid
          obtain ⟨e', he', -, -, hes', -⟩ := hid.owner slot state hs hsid
          rw [hstnet, hnet, he'] at he
          obtain rfl := Option.some.inj he
          exact hne (hes.symm.trans hes')
  have hsent := recordSent_states (core₁.retainQuantizedFrame q) (l.client.logWritten w) serialized hs
  obtain ⟨calls, hrest⟩ := recordSent_rest (core₁.retainQuantizedFrame q) (l.client.logWritten w) slot serialized
  have hwritten : (SendLoop.recordSent (core₁.retainQuantizedFrame q) (l.client.logWritten w) slot
      serialized).2.trace.written = w :: l.client.trace.written := by
    rw [hrest]
    rfl
  rw [hl₁, hc₁]
  have hframe := m.sameSlots.frame
  refine ⟨h.moves.trans m.moves, ⟨?_, ?_, ?_, fun hstr => hframe ▸ hpos hstr⟩, h.tail.nodup, ?_, ?_⟩
  · intro v hv
    simp only at hv ⊢
    rw [hframe]
    rcases List.mem_append.mp hv with hv | hv
    · refine (hc₁ ▸ hp.records v hv).mono (fun u hu => ?_) (by rw [hrest]; rfl)
      rw [hwritten]
      exact List.mem_cons_of_mem _ hu
    · obtain rfl := List.mem_singleton.mp hv
      refine ⟨by rw [hwritten]; exact List.mem_cons_self, by rw [hwdef'], fun hcon => ?_⟩
      rw [hwdef'] at hcon
      cases hcon
  · simp [hp.acks]
  · simp [hp.count]
  · intro i p m' hm' st hst
    simp only at hst
    have hi : i ≠ slot := by
      rintro rfl
      exact hnotin (List.mem_filterMap.mpr ⟨_, hm', rfl⟩)
    rw [hsent.2 i hi] at hst
    exact h.tail.mask i p m' hm' st hst
  · intro hstr v hv j hj
    simp only at hv ⊢
    rw [hwritten] at hv
    rw [hframe]
    rcases List.mem_cons.mp hv with rfl | hv
    · obtain rfl : slot = j := by
        rw [hwdef'] at hj
        simpa [WrittenRecord.slot?] using hj
      obtain ⟨h1, h2, h3⟩ := sentState_ids serialized.fullState serialized.quantizedFrame
        (core₁.retainQuantizedFrame q).frame state
      exact .inr ⟨hnotin, _, hsent.1, h3.trans hsid, by rw [h1, hwdef']⟩
    · rcases h.tail.written hstr v hv j hj with hlt | ⟨hnot, st, hst, hstid, hnet⟩
      · exact .inl hlt
      · by_cases hj' : j = slot
        · subst hj'
          rw [hs] at hst
          obtain rfl := Option.some.inj hst
          obtain ⟨h1, h2, h3⟩ := sentState_ids serialized.fullState serialized.quantizedFrame
            (core₁.retainQuantizedFrame q).frame state
          exact .inr ⟨hnot, _, hsent.1, h3.trans hsid, h1.trans hnet⟩
        · exact .inr ⟨hnot, st, (hsent.2 j hj').trans hst, hstid, hnet⟩

theorem SendInv.onlyIds {client' : ServerClientReplicator} (h : SendInv strict core₀ client₀ rest l)
    (m : LocalMoves strict l.core l.client l.core client') (o : OnlyIds l.client client') :
    SendInv strict core₀ client₀ rest { l with client := client' } := by
  have htrace : client'.trace = l.client.trace := by rw [o.same]
  refine h.step m ⟨fun w hw => ?_, h.packet.acks, h.packet.count,
    h.packet.range⟩ (by simp only [htrace]) o.state fun slot hs => ?_
  · exact (h.packet.records w hw).mono (fun u hu => by simp only [htrace]; exact hu) (by rw [o.same])
  · rw [List.getElem?_eq_none_iff] at hs ⊢
    simp only [o.length]
    exact hs

theorem SendInv.sendUpdate {registry : Registry} {slot : Nat} {mask : Mask} {priority : Float32Bits} {l' : SendLoop}
    {others : Nat → Nat} (h : SendInv strict core₀ client₀ (.update slot priority mask :: rest) l)
    (hinv : ClientInv l.core l.client others) (hid : IdInv l.client)
    (hpos : strict → 0 < l.core.frame ∧ l.core.frame + 1 < 2 ^ 32)
    (hl' : l.sendUpdate registry slot mask = .ok l') :
    SendInv strict core₀ client₀ rest l' := by
  unfold SendLoop.sendUpdate at hl'
  split at hl'
  · rw [Monadic.pure_eq_ok] at hl'
    exact hl' ▸ h.tail
  rename_i hrep
  have hact : l.core.replicatedSlotActive slot = true := by
    simp only [ServerCore.replicatedIsReplicable, ServerCore.replicatedSlotActive] at hrep ⊢
    split <;> simp_all
  rw [Monadic.bind_eq_ok] at hl'
  obtain ⟨⟨core₁, client₁, result⟩, hser, hl'⟩ := hl'
  obtain ⟨m₁, o₁, hres⟩ := serializeEntity_spec strict hinv hid hact hser
  have h₁ := h.onlyIds m₁ o₁
  have hinv₁ := hinv.moves m₁
  have hid₁ := m₁.ids hid
  rcases hres with ⟨rfl, rfl⟩ | ⟨serialized, q, state, rfl, ho, hs, hsid, hw⟩
  · simp only [Monadic.pure_eq_ok] at hl'
    exact hl' ▸ h₁.tail
  have hsame := (obtained_sameSlots ho).trans (retain_sameSlots core₁ q)
  -- the packet is closed before the record's own effects
  obtain ⟨m₂, o₂, hp₂, hcore₂⟩ := flushIfFull_spec strict l.core
    { l with core := core₁.retainQuantizedFrame q, client := client₁ } (1 + serialized.payloadBits) hsame.options
      hsame.frame ⟨h₁.packet.records, h₁.packet.acks, h₁.packet.count, h₁.packet.range⟩
  simp only [hw.frame] at hl'
  generalize ({ l with core := core₁.retainQuantizedFrame q, client := client₁ } : SendLoop).flushIfFull
    (1 + serialized.payloadBits) = l₂ at m₂ o₂ hp₂ hcore₂ hl'
  simp only at m₂ o₂ hcore₂
  have htrace : l₂.client.trace = client₁.trace := by rw [o₂.same]
  have hstates : l₂.client.states = client₁.states := by rw [o₂.same]
  have h₂ : SendInv strict core₀ client₀ (.update slot priority mask :: rest) { l₂ with core := l.core } :=
    h₁.same m₂ ⟨hp₂.records, hp₂.acks, hp₂.count, hp₂.range⟩ (by simp only [htrace]) hstates
  have hinv₂ := hinv₁.moves m₂
  split at hl'
  · rw [Monadic.pure_eq_ok] at hl'
    have m₃ : LocalMove strict l.core l₂.client _ _ := .refuse hact ho
    have hrefuse : ∃ stopped refusals broken, l' = { l₂ with
        core := (core₁.retainQuantizedFrame q).releaseQuantizedFrame q
        stoppedForBudget := stopped, budgetRefusals := refusals, broken := broken } := by
      rw [← hl', ← hcore₂]
      unfold SendLoop.refuseUpdate
      simp only
      split
      · exact ⟨_, _, _, rfl⟩
      · exact ⟨_, _, _, rfl⟩
    obtain ⟨stopped, refusals, broken, rfl⟩ := hrefuse
    have hframe := m₃.sameSlots.frame
    refine h₂.tail.same m₃.moves ⟨?_, hp₂.acks, hp₂.count, fun hstr => hframe ▸ hpos hstr⟩ rfl rfl
    intro w hw
    simp only at hw ⊢
    rw [hframe]
    exact hp₂.records w hw
  · rw [Monadic.pure_eq_ok] at hl'
    subst hl'
    exact h₂.accept hinv₂ (m₂.ids hid₁) hpos hact ho (by simp only [hstates]; exact hs) hsid
      hw hcore₂ rfl hp₂

theorem SendInv.candidate {registry : Registry} {a : SerializedCandidate} {l' : SendLoop} {others : Nat → Nat}
    (h : SendInv strict core₀ client₀ (a :: rest) l) (hinv : ClientInv core₀ client₀ others)
    (hid : IdInv client₀) (hpos : strict → 0 < core₀.frame ∧ core₀.frame + 1 < 2 ^ 32)
    (hl' : SendLoop.sendCandidate registry l a = .ok l') :
    SendInv strict core₀ client₀ rest l' := by
  unfold SendLoop.sendCandidate at hl'
  split at hl'
  · exact Except.ok.inj hl' ▸ h.tail
  · cases a with
    | destroy index => exact Except.ok.inj hl' ▸ h.tail.sendDestroy
    | update slot priority mask =>
      have hframe := h.moves.sameSlots.frame
      exact h.sendUpdate (hinv.moves h.moves) (h.moves.ids hid) (fun hs => hframe ▸ hpos hs) hl'

theorem SendInv.finish (h : SendInv strict core₀ client₀ rest l) :
    LocalMoves strict core₀ client₀ l.finish.core l.finish.client := by
  unfold SendLoop.finish
  split
  · exact h.moves
  · split
    · exact h.flush.moves
    · exact h.moves

theorem sendLoop_moves (strict : Prop) {registry : Registry} {candidates : List SerializedCandidate} {l' : SendLoop}
    {others : Nat → Nat} {available : Nat} (hinv : ClientInv core₀ client₀ others) (hid : IdInv client₀)
    (hpos : strict → 0 < core₀.frame ∧ core₀.frame + 1 < 2 ^ 32)
    (hw : strict → ∀ w ∈ client₀.trace.written, w.frame < core₀.frame)
    (hnodup : (candidates.filterMap SerializedCandidate.slot?).Nodup)
    (hmask : ∀ (slot : Nat) (priority : Float32Bits) (mask : Mask), .update slot priority mask ∈ candidates →
      ∀ st, client₀.states[slot]? = some st → mask = st.componentMask)
    (h : candidates.foldlM (SendLoop.sendCandidate registry)
      { core := core₀, client := client₀, remaining := available } = .ok l') :
    LocalMoves strict core₀ client₀ l'.finish.core l'.finish.client := by
  have hloop : SendInv strict core₀ client₀ [] l' :=
    Monadic.foldlM_inv (fun rest l => SendInv strict core₀ client₀ rest l) _ _ _ ?_ ?_ h
  · exact hloop.finish
  · exact fun a rest l l' hl hstep => hl.candidate hinv hid hpos hstep
  · exact ⟨.refl, ⟨by simp, rfl, rfl, hpos⟩, hnodup, hmask, fun hstr v hv j _ => .inl (hw hstr v hv)⟩

/-! ## Candidates -/

structure Elsewhere (slot : Nat) (client client' : ServerClientReplicator) : Prop where
  written : client'.trace.written = client.trace.written
  states : ∀ i, i ≠ slot → client'.states[i]? = client.states[i]?

theorem Elsewhere.trans {slot : Nat} {a b c : ServerClientReplicator} (h : Elsewhere slot a b)
    (h' : Elsewhere slot b c) :
    Elsewhere slot a c :=
  ⟨h'.written.trans h.written, fun i hi => (h'.states i hi).trans (h.states i hi)⟩

theorem storeDecision_elsewhere (core : ServerCore) (client : ServerClientReplicator) (slot : Nat)
    (decision : EntityReplicationDecision) : Elsewhere slot client (client.storeDecision core slot decision).2 := by
  refine ⟨?_, fun i hi => ?_⟩
  · unfold storeDecision
    split
    · rfl
    · simp only
      split
      · unfold invalidateEntityBaseline
        split <;> rfl
      · rfl
  · cases hs : client.states[slot]? with
    | none =>
      unfold storeDecision
      simp only [hs]
      rfl
    | some s =>
      rw [storeDecision_state _ _ hs]
      simp [modifyState, Ne.symm hi]

theorem enqueueDestroy_elsewhere (core : ServerCore) (client : ServerClientReplicator) (slot : Nat) (entity : Entity)
    (frame : SyncFrame) : Elsewhere slot client (client.enqueueDestroy core slot entity frame).2 := by
  refine ⟨?_, fun i hi => ?_⟩
  · have hclear : (client.clearState core slot).2.trace.written = client.trace.written := by
      unfold clearState
      split <;> rfl
    have hmark : ∀ (c : ServerClientReplicator) (id : Nat), (c.markPendingDestroy id).1.trace = c.trace := by
      intro c id
      unfold markPendingDestroy
      split <;> rfl
    unfold enqueueDestroy
    simp only
    split
    · unfold enqueueDestroyState
      simp only
      split <;> simp only [logCall, hmark] <;> exact hclear
    · rw [hmark]
      exact hclear
  · rw [enqueueDestroy_states]
    simp [modifyState, Ne.symm hi]

theorem eachClient_get {f : ServerCore → ServerClientReplicator → ServerCore × ServerClientReplicator} :
    ∀ (clients : List ServerClientReplicator) (core : ServerCore) (c : Nat) (client' : ServerClientReplicator),
    (eachClient f core clients).2[c]? = some client' →
    ∃ core client, clients[c]? = some client ∧ client' = (f core client).2
  | [], _, _, _, h => by simp [eachClient] at h
  | client :: rest, core, 0, client', h => by
    simp only [eachClient, List.getElem?_cons_zero, Option.some.injEq] at h
    exact ⟨core, client, rfl, h.symm⟩
  | client :: rest, core, c + 1, client', h => by
    simp only [eachClient, List.getElem?_cons_succ] at h
    obtain ⟨core₁, client₁, hget, heq⟩ := eachClient_get rest _ c client' h
    exact ⟨core₁, client₁, by simpa using hget, heq⟩

theorem eachClient_length {f : ServerCore → ServerClientReplicator → ServerCore × ServerClientReplicator} :
    ∀ (clients : List ServerClientReplicator) (core : ServerCore),
    (eachClient f core clients).2.length = clients.length
  | [], _ => rfl
  | client :: rest, core => by simp [eachClient, eachClient_length rest]

theorem deactivateReplicated_elsewhere {s : ReplicationServer} {slot c : Nat} {client' : ServerClientReplicator}
    (h : (s.deactivateReplicated slot).clients[c]? = some client') :
    ∃ client, s.clients[c]? = some client ∧ Elsewhere slot client client' := by
  unfold ReplicationServer.deactivateReplicated at h
  split at h
  · exact ⟨client', h, rfl, fun _ _ => rfl⟩
  split at h
  · exact ⟨client', h, rfl, fun _ _ => rfl⟩
  rename_i r _ _
  obtain ⟨_, client₁, h₁, rfl⟩ := eachClient_get _ _ c client' h
  obtain ⟨core, client₂, h₂, rfl⟩ := eachClient_get _ _ c client₁ h₁
  exact ⟨client₂, h₂, (enqueueDestroy_elsewhere core client₂ slot r.entity core.frame).trans ⟨rfl,
    fun _ _ => rfl⟩⟩

theorem deactivateReplicated_frame (s : ReplicationServer) (slot : Nat) :
    (s.deactivateReplicated slot).core.frame = s.core.frame := by
  unfold ReplicationServer.deactivateReplicated
  split
  · rfl
  split
  · rfl
  rename_i r _ _
  have h₁ : ∀ (clients : List ServerClientReplicator) (core : ServerCore),
      (eachClient (fun core client => (core, client.clearDirty slot)) core clients).1 = core := by
    intro clients
    induction clients with
    | nil => exact fun _ => rfl
    | cons client rest ih => exact fun core => ih core
  show (eachClient _ _ _).1.frame = _
  rw [h₁]
  exact (eachClient_sameSlots (f := stopReplicating slot r.entity) (fun core client => by
    unfold stopReplicating
    rw [enqueueDestroy_core]
    exact clearState_sameSlots ..) s.clients _).frame

structure CollectInv (strict : Prop) (s : ReplicationServer) (c : Nat) (rest : List Nat) (t : ReplicationServer)
    (candidates : List SerializedCandidate) : Prop where
  inv : ServerInv t
  moves : Moves strict s t
  frame : t.core.frame = s.core.frame
  written : ∀ client', t.clients[c]? = some client' →
    ∃ client, s.clients[c]? = some client ∧ client'.trace.written = client.trace.written
  nodup : (candidates.filterMap SerializedCandidate.slot? ++ rest).Nodup
  mask : ∀ (slot : Nat) (priority : Float32Bits) (mask : Mask), .update slot priority mask ∈ candidates →
    ∀ client st, t.clients[c]? = some client → client.states[slot]? = some st → mask = st.componentMask

theorem CollectInv.skip {s t : ReplicationServer} {c slot : Nat} {rest : List Nat}
    {candidates : List SerializedCandidate} (h : CollectInv strict s c (slot :: rest) t candidates) :
    CollectInv strict s c rest t candidates :=
  { h with nodup := h.nodup.sublist ((List.sublist_cons_self slot rest).append_left _) }

theorem CollectInv.elsewhere {s t t' : ReplicationServer} {c slot : Nat} {rest : List Nat}
    {candidates : List SerializedCandidate} (h : CollectInv strict s c (slot :: rest) t candidates)
    (m : Moves strict t t') (hframe : t'.core.frame = t.core.frame)
    (he : ∀ client', t'.clients[c]? = some client' → ∃ client, t.clients[c]? = some client ∧
      Elsewhere slot client client') :
    CollectInv strict s c rest t' candidates := by
  refine ⟨h.inv.moves m, h.moves.trans m, hframe.trans h.frame, ?_, h.skip.nodup, ?_⟩
  · intro client' hc'
    obtain ⟨client, hc, hel⟩ := he client' hc'
    obtain ⟨client₁, hc₁, hw⟩ := h.written client hc
    exact ⟨client₁, hc₁, hel.written.trans hw⟩
  · intro i p mask hm client' st hc' hst
    obtain ⟨client, hc, hel⟩ := he client' hc'
    have hi : i ≠ slot := by
      rintro rfl
      have := (List.nodup_append.mp h.nodup).2.2 i (List.mem_filterMap.mpr ⟨_, hm, rfl⟩) i (by simp)
      exact this rfl
    rw [hel.states i hi] at hst
    exact h.mask i p mask hm client st hc hst

theorem updateCandidate_spec (strict : Prop) {core : ServerCore} {client : ServerClientReplicator} {slot : Nat}
    {entry : DirtyEntry} (decider : Entity → EntityReplicationDecision) {others : Nat → Nat}
    (hinv : ClientInv core client others) (hact : core.replicatedSlotActive slot = true)
    (hentry : client.dirtyQueue.entries[slot]? = some entry) (hq : entry.queued = true) :
    LocalMoves strict core client (client.updateCandidate core slot entry decider).1
      (client.updateCandidate core slot entry decider).2.1 ∧
    Elsewhere slot client (client.updateCandidate core slot entry decider).2.1 ∧
    ((client.updateCandidate core slot entry decider).2.2 = none ∨
      ∃ priority mask st, (client.updateCandidate core slot entry decider).2.2 = some (.update slot priority mask) ∧
        (client.updateCandidate core slot entry decider).2.1.states[slot]? = some st ∧ mask = st.componentMask) := by
  -- the decision, when it is due
  have hrefresh : ∃ core₁ client₁, client.refreshReplicationDecisionIfDue core slot entry decider =
      (core₁, client₁) ∧
      LocalMoves strict core client core₁ client₁ ∧ Elsewhere slot client client₁ ∧
      ∀ e, client₁.dirtyQueue.entries[slot]? = some e → e.queued = true := by
    unfold refreshReplicationDecisionIfDue
    simp only
    split
    · refine ⟨core, client, rfl, .refl, ⟨rfl, fun _ _ => rfl⟩, fun e he => ?_⟩
      rw [hentry] at he
      exact Option.some.inj he ▸ hq
    · split
      · refine ⟨core, client, rfl, .refl, ⟨rfl, fun _ _ => rfl⟩, fun e he => ?_⟩
        rw [hentry] at he
        exact Option.some.inj he ▸ hq
      · rename_i r _
        refine ⟨(client.storeDecision core slot (decider r.entity)).1,
          (client.storeDecision core slot (decider r.entity)).2,
          rfl, (LocalMove.storeDecision _ hact).moves, storeDecision_elsewhere .., fun e he => ?_⟩
        rw [storeDecision_dirtyQueue] at he
        obtain ⟨e₀, he₀, ⟨-, hne⟩ | ⟨-, rfl⟩⟩ := modifyEntry_get he
        · exact absurd rfl hne
        · rw [hentry] at he₀
          exact Option.some.inj he₀ ▸ hq
  obtain ⟨core₁, client₁, heq, m, hel, hqueued⟩ := hrefresh
  have hinv₁ := hinv.moves m
  have hact₁ : core₁.replicatedSlotActive slot = true := (m.sameSlots.slotActive slot).trans hact
  unfold updateCandidate
  simp only [heq]
  split
  · exact ⟨m, hel, .inl rfl⟩
  rename_i e he
  split
  · exact ⟨m, hel, .inl rfl⟩
  have m₂ : LocalMove strict core₁ client₁ _ _ := .accumulate hact₁
  have hel₂ : Elsewhere slot client₁ (client₁.modifyEntry slot (accumulatePriority core₁.options.floats)) :=
    ⟨rfl, fun _ _ => rfl⟩
  split
  · exact ⟨m.trans m₂.moves, hel.trans hel₂, .inl rfl⟩
  · rename_i st hst
    exact ⟨m.trans m₂.moves, hel.trans hel₂,
      .inr ⟨_, _, st, rfl, hst, hinv₁.queue.mask slot e st he hst (hqueued e he)⟩⟩

theorem CollectInv.step {s t : ReplicationServer} {registry : Registry} {decider : Entity → EntityReplicationDecision}
    {c slot : Nat} {rest : List Nat} {candidates : List SerializedCandidate}
    (h : CollectInv strict s c (slot :: rest) t candidates) :
    CollectInv strict s c rest (ReplicationServer.collectCandidate registry decider c (t, candidates) slot).1
      (ReplicationServer.collectCandidate registry decider c (t, candidates) slot).2 := by
  unfold ReplicationServer.collectCandidate
  simp only
  split
  · exact h.skip
  rename_i client hc
  split
  · exact h.skip
  rename_i entry hentry
  split
  · exact h.skip
  rename_i hcond
  have hq : entry.queued = true := by
    cases hq : entry.queued with
    | true => rfl
    | false => simp [hq] at hcond
  split
  · simp only
    split
    · exact h.elsewhere (deactivateReplicated_moves h.inv) (deactivateReplicated_frame t slot)
        fun client' hc' => deactivateReplicated_elsewhere hc'
    · exact h.skip
  · rename_i hrep
    have hact : t.core.replicatedSlotActive slot = true := by
      simp only [ServerCore.replicatedIsReplicable, ServerCore.replicatedSlotActive] at hrep ⊢
      split <;> simp_all
    obtain ⟨m, hel, hcand⟩ := updateCandidate_spec strict decider (h.inv.client hc) hact hentry hq
    generalize client.updateCandidate t.core slot entry decider = result at m hel hcand
    obtain ⟨core', client', candidate⟩ := result
    simp only at m hel hcand ⊢
    have hbase : CollectInv strict s c rest (t.setClient c core' client') candidates := by
      refine h.elsewhere (m.lift hc) m.sameSlots.frame fun client'' hc'' => ?_
      rw [setClient_get hc] at hc''
      obtain rfl := Option.some.inj hc''
      exact ⟨client, hc, hel⟩
    rcases hcand with rfl | ⟨priority, mask, st, rfl, hst, hmask⟩
    · simpa using hbase
    · refine { hbase with nodup := ?_, mask := ?_ }
      · have := h.nodup
        simp only [Option.toList_some, List.filterMap_append, List.filterMap_cons, SerializedCandidate.slot?,
          List.filterMap_nil, List.append_assoc, List.singleton_append] at this ⊢
        exact this
      · intro i p m' hm client'' st' hc'' hst'
        rcases List.mem_append.mp hm with hm | hm
        · exact hbase.mask i p m' hm client'' st' hc'' hst'
        · simp only [Option.toList_some, List.mem_singleton, SerializedCandidate.update.injEq] at hm
          obtain ⟨rfl, -, rfl⟩ := hm
          rw [setClient_get hc] at hc''
          obtain rfl := Option.some.inj hc''
          rw [hst] at hst'
          obtain rfl := Option.some.inj hst'
          exact hmask

/-! ## One send -/

theorem sortByPriority_perm (floats : FloatOps) (candidates : List SerializedCandidate) :
    (sortByPriority floats candidates).Perm candidates := List.perm_insertionSort _ _

theorem beginSend_moves (strict : Prop) (core : ServerCore) (client : ServerClientReplicator)
    (inputAckFrame : SyncFrame) :
    LocalMoves strict core client core (ReplicationServer.beginSend core client inputAckFrame) :=
  ((LocalMove.beginSend inputAckFrame).moves.trans LocalMove.expireCues.moves).trans LocalMove.ensureCapacity.moves

theorem sendClient_moves {s : ReplicationServer} {c : Nat} {registry : Registry} {inputAckFrame : SyncFrame}
    {available : Nat} {decider : Entity → EntityReplicationDecision}
    {result : ReplicationServer × ReplicationSendResult} (hs : ServerInv s)
    (hids : ∀ client ∈ s.clients, IdInv client)
    (hpos : strict → 0 < s.core.frame ∧ s.core.frame + 1 < 2 ^ 32)
    (hw : strict → ∀ client, s.clients[c]? = some client → ∀ w ∈ client.trace.written, w.frame < s.core.frame)
    (h : s.sendClient c registry inputAckFrame available decider = .ok result) : Moves strict s result.1 := by
  unfold ReplicationServer.sendClient at h
  split at h
  · rw [Monadic.pure_eq_ok] at h
    exact h ▸ .refl
  rename_i client hc
  simp only at h
  have m₁ := (beginSend_moves strict s.core client inputAckFrame).lift hc
  have hs₁ := hs.moves m₁
  have hget₁ : (s.setClient c s.core (ReplicationServer.beginSend s.core client inputAckFrame)).clients[c]? = _ :=
    setClient_get hc
  -- the candidate loop over the dirty list as it stands now
  have hcollect := Monadic.foldl_inv
    (fun rest (acc : ReplicationServer × List SerializedCandidate) =>
      CollectInv strict (s.setClient c s.core (ReplicationServer.beginSend s.core client inputAckFrame)) c rest
        acc.1 acc.2)
    (ReplicationServer.beginSend s.core client inputAckFrame).dirtyQueue.dirtyReplicatedIndices
    (s.setClient c s.core (ReplicationServer.beginSend s.core client inputAckFrame), [])
    (f := ReplicationServer.collectCandidate registry decider c) (fun slot rest acc hacc => hacc.step)
    ⟨hs₁, .refl, rfl, fun client' hc' => ⟨client', hc', rfl⟩,
      by simpa using (hs₁.base.queues _ (List.mem_of_getElem? hget₁)).nodup, by simp⟩
  generalize (ReplicationServer.beginSend s.core client inputAckFrame).dirtyQueue.dirtyReplicatedIndices.foldl
    (ReplicationServer.collectCandidate registry decider c)
    (s.setClient c s.core (ReplicationServer.beginSend s.core client inputAckFrame), []) = acc at hcollect h
  obtain ⟨t, updates⟩ := acc
  simp only at hcollect h
  have m₂ := m₁.trans hcollect.moves
  split at h
  · rw [Monadic.pure_eq_ok] at h
    exact h ▸ m₂
  rename_i client' hc'
  rw [Monadic.bind_eq_ok] at h
  obtain ⟨l, hloop, h⟩ := h
  rw [Monadic.pure_eq_ok] at h
  subst h
  have hwritten : strict → ∀ w ∈ client'.trace.written, w.frame < t.core.frame := by
    intro hstr w hwmem
    obtain ⟨client₁, hc₁, heq⟩ := hcollect.written client' hc'
    rw [hget₁] at hc₁
    obtain rfl := Option.some.inj hc₁
    rw [heq] at hwmem
    rw [hcollect.frame]
    exact hw hstr client hc w hwmem
  have hslots : ∀ l : List Nat, (l.map SerializedCandidate.destroy).filterMap SerializedCandidate.slot? = [] := by
    intro l
    rw [List.filterMap_map]
    exact List.filterMap_eq_nil_iff.mpr fun _ _ => rfl
  have m₃ := sendLoop_moves strict (hcollect.inv.client hc')
    ((idRule strict).moves hs m₂ hids client' (List.mem_of_getElem? hc'))
    (fun hstr => by rw [hcollect.frame]; exact hpos hstr) hwritten
    (by
      rw [List.filterMap_append, hslots, List.nil_append]
      have hn := (List.nodup_append.mp hcollect.nodup).1
      exact ((sortByPriority_perm t.core.options.floats updates).filterMap SerializedCandidate.slot?).nodup_iff.mpr hn)
    (by
      intro slot p mask hm st hst
      rcases List.mem_append.mp hm with hm | hm
      · simp at hm
      · exact hcollect.mask slot p mask ((sortByPriority_perm t.core.options.floats updates).mem_iff.mp hm)
          client' st hc' hst)
    hloop
  exact m₂.trans ((m₃.trans LocalMove.cleanupQueue.moves).lift hc')

end

/-! ## Every call -/

/-- What `tick` does with the frame number: it grows without wrapping, and a client is sent each frame once. -/
def ServerOp.InOrder (s : ReplicationServer) : ServerOp → Prop
  | .advance frame _ _ _ => s.core.frame < frame
  | .send clientId _ _ _ _ => 0 < s.core.frame ∧ s.core.frame + 1 < 2 ^ 32 ∧
      ∀ client ∈ s.clients, client.id = clientId → ∀ w ∈ client.trace.written, w.frame < s.core.frame
  | _ => True

instance (s : ReplicationServer) : (op : ServerOp) → Decidable (op.InOrder s)
  | .advance frame _ _ _ => inferInstanceAs (Decidable (s.core.frame < frame))
  | .send clientId _ _ _ _ => inferInstanceAs (Decidable (0 < s.core.frame ∧ s.core.frame + 1 < 2 ^ 32 ∧
      ∀ client ∈ s.clients, client.id = clientId → ∀ w ∈ client.trace.written, w.frame < s.core.frame))
  | .rediscoverAll _ | .acks _ _ | .addClient _ _ | .removeClient _ => .isTrue trivial

theorem exec_moves {strict : Prop} {s s' : ReplicationServer} {op : ServerOp} (hs : ServerInv s)
    (hids : ∀ client ∈ s.clients, IdInv client)
    (hg : strict → op.InOrder s) (h : s.exec op = .ok s') : Moves strict s s' := by
  cases op with
  | advance frame registry dirty cues =>
    simp only [ReplicationServer.exec, ReplicationServer.advanceFrame, Monadic.bind_eq_ok] at h
    obtain ⟨s₁, h₁, h₂⟩ := h
    have m₀ : Move strict s { s with core := { s.core with frame } } := .setFrame fun hstr => hg hstr
    have hs₀ := hs.move m₀
    have m₁ : Moves strict { s with core := { s.core with frame } } s₁ := rediscover_moves hs₀ h₁
    have hs₁ := hs₀.moves m₁
    have m₂ := captureDirtyGenerations_moves strict s₁ dirty
    have hs₂ := hs₁.moves m₂
    have m₃ := broadcast_moves strict dirty hs₂
    exact (((m₀.moves.trans m₁).trans m₂).trans m₃).trans (captureQueuedCues_moves (hs₂.moves m₃) h₂)
  | rediscoverAll registry => exact rediscoverAll_moves hs h
  | send id registry inputAckFrame available decider =>
    simp only [ReplicationServer.exec] at h
    split at h
    · exact Except.ok.inj h ▸ .refl
    rename_i c hc
    obtain ⟨result, hres, rfl⟩ := Monadic.Except_map_eq_ok.mp h
    refine sendClient_moves hs hids (fun hstr => ⟨(hg hstr).1, (hg hstr).2.1⟩) ?_ hres
    intro hstr client hget w hw
    obtain ⟨hlt, hid, -⟩ := List.findIdx?_eq_some_iff_getElem.mp hc
    rw [List.getElem?_eq_getElem hlt] at hget
    obtain rfl := Option.some.inj hget
    exact (hg hstr).2.2 _ (List.getElem_mem hlt) (by simpa using hid) w hw
  | acks id packetIds =>
    simp only [ReplicationServer.exec] at h
    split at h
    · exact Except.ok.inj h ▸ .refl
    obtain rfl := Except.ok.inj h
    unfold ReplicationServer.processClientAcks
    split
    · exact .refl
    · rename_i client hc
      exact (processClientAcks_moves s.core client packetIds).lift hc
  | addClient peer id => exact Except.ok.inj h ▸ addClient_moves s peer id
  | removeClient id => exact Except.ok.inj h ▸ removeClient_moves s id

end AshiatoSync
