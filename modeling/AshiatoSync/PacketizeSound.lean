import AshiatoSync.DirtySound

/-!
# Packets fit the MTU and the budget

The packet loop over any list of candidates, from any state of the server and the
replicator.  The packet under construction always fits both bounds, so that it
can be sent whenever the loop closes it.
-/

namespace AshiatoSync

open ServerClientReplicator

/-! ## What the loop keeps -/

namespace SentPacket

/-- The byte size of the packet `make_server_packet` makes. -/
def bytes (core : ServerCore) (p : SentPacket) : Nat :=
  bytesForBits (p.bits core.options.protocol core.settings).length

def charge (core : ServerCore) (p : SentPacket) : Nat := core.chargedPacketBytes (p.bytes core)

/-- A packet within the MTU, whose records are counted and acknowledged one by one. -/
structure Fits (core : ServerCore) (p : SentPacket) : Prop where
  nonempty : p.records ≠ []
  mtu : p.bytes core ≤ core.options.mtuBytes
  count : p.entityCount = p.records.length
  acks : p.ackRecords = p.records.map WrittenRecord.ackRecord

end SentPacket

def SendLoop.charge (l : SendLoop) : Nat := l.core.chargedPacketBytes (l.packetBytes 0)

def recordsBits (core : ServerCore) (records : List WrittenRecord) : Bits :=
  records.flatMap (WrittenRecord.bits core.options.protocol.networkEntityIdTier0Bits core.settings)

structure SendLoop.Open (core₀ : ServerCore) (l : SendLoop) : Prop where
  mtu : l.packetBytes 0 ≤ core₀.options.mtuBytes
  remaining : l.charge ≤ l.remaining

def pushedSlots (calls : List Call) : List Nat :=
  calls.filterMap fun
    | .pushPending slot _ _ _ => some slot
    | _ => none

/-- What became of the replicator once the packets `sent` were sent and `records` are collected: every written
record is in one of them, in order, and a pushed pending entry or a changed destroy has a record. -/
structure RecordsKept (client₀ : ServerClientReplicator) (sent : List SentPacket) (records : List WrittenRecord)
    (client : ServerClientReplicator) : Prop where
  written : client.trace.written = (sent.flatMap (·.records) ++ records).reverse ++ client₀.trace.written
  pushed : pushedSlots client.trace.calls =
    (sent.flatMap (·.records) ++ records).reverse.filterMap WrittenRecord.slot? ++ pushedSlots client₀.trace.calls
  destroys : ∀ (i : Nat) (d : ClientDestroyState), client.destroys[i]? = some d →
    client₀.destroys[i]? = some d ∨
    ∃ w ∈ sent.flatMap (·.records) ++ records, w.content = .destroy ∧ w.entity = d.entity ∧
      w.networkId = d.networkId ∧ w.networkVersion = d.networkVersion ∧ w.frame = d.frame
  transport : client.transport = sent.reverse ++ client₀.transport

structure PacketLoop (core₀ : ServerCore) (available : Nat) (client₀ : ServerClientReplicator)
    (sent : List SentPacket) (l : SendLoop) : Prop where
  sameOptions : l.core.options = core₀.options
  sameSettings : l.core.settings = core₀.settings
  room : l.records ≠ [] → l.Open core₀
  count : l.packetEntities = l.records.length
  acks : l.packetAckRecords = l.records.map WrittenRecord.ackRecord
  bits : l.recordsBits = (recordsBits core₀ l.records).length
  few : l.records.length ≤ l.recordsBits
  budget : l.chargedBytes + l.remaining = available
  charged : l.chargedBytes = (sent.map (SentPacket.charge core₀)).sum
  fits : ∀ p ∈ sent, p.Fits core₀
  kept : RecordsKept client₀ sent l.records l.client

section

variable {core₀ : ServerCore} {available : Nat} {client₀ client client' : ServerClientReplicator}
  {sent : List SentPacket} {records : List WrittenRecord} {l l' : SendLoop}

theorem RecordsKept.same (h : RecordsKept client₀ sent records client)
    (hwritten : client'.trace.written = client.trace.written)
    (hpushed : pushedSlots client'.trace.calls = pushedSlots client.trace.calls)
    (hdestroys : client'.destroys = client.destroys) (htransport : client'.transport = client.transport) :
    RecordsKept client₀ sent records client' where
  written := hwritten.trans h.written
  pushed := hpushed.trans h.pushed
  destroys := hdestroys ▸ h.destroys
  transport := htransport.trans h.transport

theorem PacketLoop.quiet (h : PacketLoop core₀ available client₀ sent l)
    (hoptions : l'.core.options = l.core.options) (hsettings : l'.core.settings = l.core.settings)
    (hsame : l' = { l with
      core := l'.core, client := l'.client, budgetRefusals := l'.budgetRefusals
      stoppedForBudget := l'.stoppedForBudget, broken := l'.broken })
    (hkept : RecordsKept client₀ sent l.records l.client → RecordsKept client₀ sent l.records l'.client) :
    PacketLoop core₀ available client₀ sent l' := by
  have hbytes : ∀ bits, l'.packetBytes bits = l.packetBytes bits := by
    intro bits
    unfold SendLoop.packetBytes
    rw [hoptions, hsame]
  have hcharge : l'.charge = l.charge := by
    unfold SendLoop.charge ServerCore.chargedPacketBytes
    rw [hoptions, hbytes]
  have hrecords : l'.records = l.records := by rw [hsame]
  constructor
  case sameOptions => exact hoptions.trans h.sameOptions
  case sameSettings => exact hsettings.trans h.sameSettings
  case room =>
    intro hne
    have hopen := h.room (hrecords ▸ hne)
    refine ⟨hbytes 0 ▸ hopen.mtu, ?_⟩
    rw [hcharge, hsame]
    exact hopen.remaining
  case kept =>
    rw [hrecords]
    exact hkept h.kept
  case fits => exact h.fits
  all_goals rw [hsame]
  · exact h.count
  · exact h.acks
  · exact h.bits
  · exact h.few
  · exact h.budget
  · exact h.charged

/-! ## Sending a packet -/

theorem length_makeServerPacket (protocol : ProtocolDescriptor) (frame packetId inputAckFrame entityCount : Nat)
    (records : Bits) :
    (makeServerPacket (packetIdBits protocol) frame packetId inputAckFrame entityCount records).length =
      serverUpdateHeaderBits protocol + records.length := by
  simp only [makeServerPacket, serverUpdateHeaderBits, List.length_append, unsignedBits, List.length_map,
    List.length_range]

/-- A packet that is sent reaches the transport as it was collected. -/
theorem sendPacket_transport (core : ServerCore) (client : ServerClientReplicator) (frame : SyncFrame)
    {entityCount : Nat} (hcount : entityCount ≠ 0) (records : List WrittenRecord) (recordsBits : Nat)
    (ackRecords : List PacketAckRecord) :
    ∃ p : SentPacket, (client.sendPacket core frame entityCount records recordsBits ackRecords).transport =
        p :: client.transport ∧
      p.entityCount = entityCount ∧ p.records = records ∧ p.ackRecords = ackRecords := by
  have hnotify : ∀ (c : ServerClientReplicator) (lost : List PendingPacketAck),
      (c.notifyLost core lost).transport = c.transport := by
    intro c lost
    unfold notifyLost
    split <;> rfl
  have htrack : ∀ (c : ServerClientReplicator) (packetId charged : Nat),
      (c.trackPacketAck packetId frame charged ackRecords).transport = c.transport := by
    intro c packetId charged
    unfold trackPacketAck
    split
    · rfl
    · dsimp only
      split <;> rfl
  simp only [sendPacket, if_neg hcount, enforcePendingPacketAckLimit, setPacketAcks, hnotify, htrack, allocatePacketId]
  exact ⟨_, rfl, rfl, rfl, rfl⟩

theorem RecordsKept.sendPacket {p : SentPacket} (h : RecordsKept client₀ sent l.records l.client)
    (hrecords : p.records = l.records) (htransport : l.flush.client.transport = p :: l.client.transport) :
    RecordsKept client₀ (sent ++ [p]) [] l.flush.client := by
  have hsame := (sendPacket_spec l.core l.client l.core.frame l.packetEntities l.records l.recordsBits
    l.packetAckRecords).same
  have hall : (sent ++ [p]).flatMap (·.records) ++ [] = sent.flatMap (·.records) ++ l.records := by
    simp [hrecords]
  constructor
  case written =>
    rw [hall, SendLoop.flush, hsame]
    exact h.written
  case pushed =>
    rw [hall, SendLoop.flush, hsame]
    exact h.pushed
  case destroys =>
    rw [hall, SendLoop.flush, hsame]
    exact h.destroys
  case transport =>
    rw [htransport, h.transport, List.reverse_append]
    rfl

/-- The packet of the collected records is within the bounds they were collected under. -/
theorem PacketLoop.flush (h : PacketLoop core₀ available client₀ sent l) (hne : l.records ≠ []) :
    ∃ p, PacketLoop core₀ available client₀ (sent ++ [p]) l.flush := by
  obtain ⟨hmtu, hremaining⟩ := h.room hne
  have hbudget := h.budget
  have hcount : l.packetEntities ≠ 0 := by
    rw [h.count]
    exact fun hzero => hne (List.length_eq_zero_iff.mp hzero)
  obtain ⟨p, htransport, hentities, hrecords, hacks⟩ := sendPacket_transport l.core l.client l.core.frame hcount
    l.records l.recordsBits l.packetAckRecords
  -- the loop's count of bits is the size of the packet that is made of its records
  have hbytes : p.bytes core₀ = l.packetBytes 0 := by
    have hbits := h.bits
    unfold recordsBits at hbits
    unfold SentPacket.bytes SendLoop.packetBytes SentPacket.bits
    rw [length_makeServerPacket, hrecords, ← hbits, h.sameOptions, Nat.add_zero]
  have hcharge : p.charge core₀ = l.charge := by
    unfold SentPacket.charge SendLoop.charge ServerCore.chargedPacketBytes
    rw [hbytes, h.sameOptions]
  have hpays : l.core.chargedPacketBytes (l.packetBytes 0) ≤ l.remaining := hremaining
  refine ⟨p, ?_⟩
  exact
    { sameOptions := h.sameOptions
      sameSettings := h.sameSettings
      room := fun hnil => absurd rfl hnil
      count := rfl
      acks := rfl
      bits := rfl
      few := Nat.le_refl _
      budget := by
        simp only [SendLoop.flush]
        omega
      charged := by
        rw [List.map_append, List.sum_append, ← h.charged, List.map_singleton, List.sum_singleton, hcharge]
        rfl
      fits := by
        intro p' hp'
        rcases List.mem_append.mp hp' with hp' | hp'
        · exact h.fits p' hp'
        · obtain rfl := List.mem_singleton.mp hp'
          exact ⟨hrecords ▸ hne, hbytes ▸ hmtu, by rw [hentities, hrecords, h.count],
            by rw [hacks, hrecords, h.acks]⟩
      kept := h.kept.sendPacket hrecords htransport }

theorem PacketLoop.flushIfFull (h : PacketLoop core₀ available client₀ sent l) (bits : Nat) :
    ∃ sent', PacketLoop core₀ available client₀ sent' (l.flushIfFull bits) := by
  unfold SendLoop.flushIfFull
  split
  case isTrue hfull =>
    simp only [Bool.and_eq_true, Bool.not_eq_true', List.isEmpty_eq_false_iff] at hfull
    obtain ⟨p, hflush⟩ := h.flush hfull.1
    exact ⟨_, hflush⟩
  case isFalse => exact ⟨sent, h⟩

/-! ## Collecting a record -/

/-- A record that fits is collected: the packet under construction still fits. -/
theorem PacketLoop.append (h : PacketLoop core₀ available client₀ sent l) {w : WrittenRecord} {bits : Nat}
    (hmtu : core₀.options.mtuBytes * 8 < 2 ^ 16) (hpos : 0 < bits) (hbits : (recordsBits core₀ [w]).length = bits)
    (hbytes : l.packetBytes bits ≤ core₀.options.mtuBytes)
    (hcharge : l.core.chargedPacketBytes (l.packetBytes bits) ≤ l.remaining)
    (hoptions : l'.core.options = l.core.options) (hsettings : l'.core.settings = l.core.settings)
    (hsame : l' = { l with
      core := l'.core, client := l'.client, records := l.records ++ [w], recordsBits := l.recordsBits + bits
      packetAckRecords := l.packetAckRecords ++ [w.ackRecord], packetEntities := (l.packetEntities + 1) % 2 ^ 16 })
    (hkept : RecordsKept client₀ sent l.records l.client →
      RecordsKept client₀ sent (l.records ++ [w]) l'.client) :
    PacketLoop core₀ available client₀ sent l' := by
  have hrecords : l'.records = l.records ++ [w] := by rw [hsame]
  have hsize : l'.packetBytes 0 = l.packetBytes bits := by
    unfold SendLoop.packetBytes
    rw [hoptions, hsame]
    simp [Nat.add_assoc]
  have hcost : l'.charge = l.core.chargedPacketBytes (l.packetBytes bits) := by
    unfold SendLoop.charge ServerCore.chargedPacketBytes
    rw [hoptions, hsize]
  have hlength := h.few
  -- a packet within the MTU has fewer records than bits
  have hfew : l.records.length + 1 < 2 ^ 16 := by
    unfold SendLoop.packetBytes bytesForBits at hbytes
    omega
  constructor
  case sameOptions => exact hoptions.trans h.sameOptions
  case sameSettings => exact hsettings.trans h.sameSettings
  case room =>
    intro _
    refine ⟨hsize ▸ hbytes, ?_⟩
    rw [hcost, hsame]
    exact hcharge
  case kept =>
    rw [hrecords]
    exact hkept h.kept
  case fits => exact h.fits
  all_goals rw [hsame]
  · simp only [List.length_append, List.length_singleton, h.count]
    exact Nat.mod_eq_of_lt hfew
  · simp [h.acks]
  · simp only [recordsBits, List.flatMap_append, List.length_append] at hbits ⊢
    rw [hbits, h.bits]
    rfl
  · simp only [List.length_append, List.length_singleton]
    omega
  · exact h.budget
  · exact h.charged

theorem RecordsKept.append (h : RecordsKept client₀ sent records client) {w : WrittenRecord}
    (hwritten : client'.trace.written = w :: client.trace.written)
    (hpushed : pushedSlots client'.trace.calls = w.slot?.toList ++ pushedSlots client.trace.calls)
    (hdestroys : ∀ (i : Nat) (d : ClientDestroyState), client'.destroys[i]? = some d →
      client.destroys[i]? = some d ∨ (w.content = .destroy ∧ w.entity = d.entity ∧ w.networkId = d.networkId ∧
        w.networkVersion = d.networkVersion ∧ w.frame = d.frame))
    (htransport : client'.transport = client.transport) :
    RecordsKept client₀ sent (records ++ [w]) client' := by
  have hall : (sent.flatMap (·.records) ++ (records ++ [w])).reverse =
      w :: (sent.flatMap (·.records) ++ records).reverse := by
    rw [← List.append_assoc, List.reverse_append]
    rfl
  constructor
  case written => rw [hwritten, h.written, hall, List.cons_append]
  case pushed =>
    rw [hpushed, h.pushed, hall, List.filterMap_cons]
    cases w.slot? <;> rfl
  case destroys =>
    intro i d hd
    rcases hdestroys i d hd with hbefore | hrecord
    case inr => exact .inr ⟨w, by simp, hrecord⟩
    case inl =>
      rcases h.destroys i d hbefore with hold | ⟨v, hv, hrecord⟩
      · exact .inl hold
      · refine .inr ⟨v, ?_, hrecord⟩
        rw [← List.append_assoc]
        exact List.mem_append_left _ hv
  case transport =>
    rw [htransport]
    exact h.transport

theorem length_destroyRecord (core : ServerCore) {w : WrittenRecord} (h : w.content = .destroy) :
    (recordsBits core [w]).length =
      destroyRecordBits w.networkId core.options.protocol.networkEntityIdTier0Bits := by
  simp only [recordsBits, List.flatMap_singleton, WrittenRecord.bits, h, List.length_cons, destroyRecordBits,
    writeNetworkEntityId, networkEntityIdEncodedBits]
  split
  · simp [unsignedBits, Nat.add_comm]
  · split <;> simp [unsignedBits, networkEntityIdTier1Bits, networkEntityIdBits]

theorem PacketLoop.sendDestroy (h : PacketLoop core₀ available client₀ sent l)
    (hmtu : core₀.options.mtuBytes * 8 < 2 ^ 16) (index : Nat) :
    ∃ sent', PacketLoop core₀ available client₀ sent' (l.sendDestroy index) := by
  unfold SendLoop.sendDestroy
  cases hget : l.client.destroys[index]? with
  | none => exact ⟨sent, h⟩
  | some destroy =>
    dsimp only
    obtain ⟨sent', h'⟩ := h.flushIfFull
      (destroyRecordBits destroy.networkId l.core.options.protocol.networkEntityIdTier0Bits)
    have hdestroys := flushIfFull_destroys l
      (destroyRecordBits destroy.networkId l.core.options.protocol.networkEntityIdTier0Bits)
    have hpos : 0 < destroyRecordBits destroy.networkId l.core.options.protocol.networkEntityIdTier0Bits :=
      Nat.lt_of_lt_of_le Nat.one_pos (Nat.le_add_right _ _)
    have hbits : ∀ w : WrittenRecord, w.content = .destroy → w.networkId = destroy.networkId →
        (recordsBits core₀ [w]).length =
          destroyRecordBits destroy.networkId l.core.options.protocol.networkEntityIdTier0Bits := by
      intro w hw hid
      rw [length_destroyRecord core₀ hw, hid, h.sameOptions]
    generalize destroyRecordBits destroy.networkId l.core.options.protocol.networkEntityIdTier0Bits = bits at *
    generalize l.flushIfFull bits = l₁ at h' hdestroys ⊢
    refine ⟨sent', ?_⟩
    split
    case isTrue => exact h'
    case isFalse hfits =>
      split
      case isTrue => exact h'.quiet rfl rfl rfl id
      case isFalse hpays =>
        refine h'.append hmtu hpos (hbits _ rfl rfl) ?_ (Nat.le_of_not_lt hpays) rfl rfl rfl ?_
        · rw [← h'.sameOptions]
          exact Nat.le_of_not_lt hfits
        · intro hkept
          refine hkept.append rfl rfl ?_ rfl
          intro i d hd
          -- only the destroy that was sent has another frame
          by_cases hi : i = index
          case pos =>
            subst hi
            have hlt : i < l₁.client.destroys.length := by
              rw [hdestroys]
              exact (List.getElem?_eq_some_iff.mp hget).1
            have heq := (List.getElem?_set_self hlt).symm.trans hd
            cases Option.some.inj heq
            exact .inr ⟨rfl, rfl, rfl, rfl, rfl⟩
          case neg => exact .inl ((List.getElem?_set_ne (Ne.symm hi)).symm.trans hd)

/-! ## Updates -/

theorem findOrCreate_frame {registry : Registry} {core core₁ : ServerCore} {slot q : Nat} {frame : SyncFrame}
    {quantized : QuantizedFrame}
    (h : findOrCreateQuantizedFrame registry core client slot frame = .ok (core₁, some q))
    (hq : core₁.quantizedFrames[q]? = some quantized) : quantized.frame = frame := by
  unfold findOrCreateQuantizedFrame at h
  split at h
  · cases h
  split at h
  · cases h
  split at h
  · rename_i cached hcached
    obtain ⟨rfl, heq⟩ := Prod.mk.inj (Except.ok.inj h)
    obtain rfl := Option.some.inj heq
    unfold cachedQuantizedFrame at hcached
    split at hcached
    swap
    · cases hcached
    split at hcached
    · cases hcached
    split at hcached
    · cases hcached
    rename_i f hf
    split at hcached
    swap
    · cases hcached
    rename_i hlive
    simp only [Option.some.injEq] at hcached
    subst hcached
    rw [hf] at hq
    cases Option.some.inj hq
    simp only [Bool.and_eq_true, beq_iff_eq] at hlive
    exact hlive.1.2
  split at h
  · cases h
  split at h
  · rename_i same hsame
    obtain ⟨rfl, heq⟩ := Prod.mk.inj (Except.ok.inj h)
    obtain rfl := Option.some.inj heq
    have hlive := List.find?_some hsame
    simp only [hq, Bool.and_eq_true, beq_iff_eq] at hlive
    exact hlive.1.1.2
  · obtain ⟨⟨core₂, q₂⟩, hcreate, heq⟩ := Monadic.Except_map_eq_ok.mp h
    obtain ⟨rfl, hsome⟩ := Prod.mk.inj heq
    obtain rfl := Option.some.inj hsome
    obtain ⟨⟨core₃, q₃⟩, -, heq⟩ := Monadic.Except_map_eq_ok.mp hcreate
    obtain ⟨rfl, rfl⟩ := Prod.mk.inj heq
    obtain ⟨hlt, hget⟩ := List.getElem?_eq_some_iff.mp hq
    simp only [storeQuantizedFrame, List.getElem_set_self] at hget
    exact hget ▸ rfl

def PayloadOf (core core₁ : ServerCore) (serialized : SerializedEntity) : Prop :=
  ∃ quantized archetype, core₁.quantizedFrames[serialized.quantizedFrame]? = some quantized ∧
    core₁.settings.archetypes[quantized.archetype]? = some archetype ∧
    serialized.payloadBits = (encodeUpdateRecord core₁.options.protocol.networkEntityIdTier0Bits archetype
      core.frame serialized.record).length

/-- Serializing hands out ids and quantizes; it logs and sends nothing. -/
theorem serializeEntity_frame {registry : Registry} {core core₁ : ServerCore}
    {client client' : ServerClientReplicator} {slot : Nat} {mask : Mask} {result : Option SerializedEntity}
    (hact : core.replicatedSlotActive slot = true)
    (h : serializeEntity registry core client slot core.frame mask = .ok (core₁, client', result)) :
    SameSlots core core₁ ∧ client' = { client with states := client'.states, networkIds := client'.networkIds } ∧
      ∀ serialized, result = some serialized → PayloadOf core core₁ serialized := by
  have hnothing : ∀ serialized, none = some serialized → PayloadOf core core₁ serialized := fun _ h => by cases h
  unfold serializeEntity at h
  split at h
  case isTrue =>
    simp only [Monadic.pure_eq_ok, Prod.mk.injEq] at h
    obtain ⟨rfl, rfl, rfl⟩ := h
    exact ⟨.refl _, rfl, hnothing⟩
  case isFalse =>
    rw [Monadic.bind_eq_ok] at h
    obtain ⟨⟨core₂, q⟩, hfind, h⟩ := h
    have hslots := findOrCreate_sameSlots hfind
    cases q with
    | none =>
      simp only [Monadic.pure_eq_ok, Prod.mk.injEq] at h
      obtain ⟨rfl, rfl, rfl⟩ := h
      exact ⟨hslots, rfl, hnothing⟩
    | some q =>
      simp only [Monadic.bind_eq_ok, Monadic.pure_eq_ok, Prod.mk.injEq] at h
      obtain ⟨⟨client₂, serialized⟩, hwrite, rfl, rfl, rfl⟩ := h
      refine ⟨hslots, ?_⟩
      unfold writeEntityRecord at hwrite
      split at hwrite
      case h_2 =>
        obtain ⟨rfl, rfl⟩ := Prod.mk.inj (Except.ok.inj hwrite)
        exact ⟨rfl, hnothing⟩
      case h_1 state quantized _ hquantized =>
        split at hwrite
        case isTrue =>
          rw [Monadic.pure_eq_ok] at hwrite
          obtain ⟨rfl, rfl⟩ := Prod.mk.inj hwrite
          exact ⟨rfl, hnothing⟩
        case isFalse =>
          simp only [Monadic.bind_eq_ok] at hwrite
          obtain ⟨⟨client₁, id⟩, hid, hwrite⟩ := hwrite
          obtain ⟨_, o₁, _⟩ := networkIdFor_spec False hact hid
          split at hwrite
          case isTrue =>
            rw [Monadic.pure_eq_ok] at hwrite
            obtain ⟨rfl, rfl⟩ := Prod.mk.inj hwrite
            exact ⟨o₁.same, hnothing⟩
          case isFalse =>
            split at hwrite
            case h_1 =>
              rw [Monadic.pure_eq_ok] at hwrite
              obtain ⟨rfl, rfl⟩ := Prod.mk.inj hwrite
              exact ⟨o₁.same, hnothing⟩
            case h_2 archetype harchetype =>
              simp only [Monadic.bind_eq_ok, Monadic.pure_eq_ok] at hwrite
              obtain ⟨⟨client₃, body⟩, hbody, hwrite⟩ := hwrite
              obtain ⟨rfl, rfl⟩ := Prod.mk.inj hwrite
              obtain ⟨_, o₂, _⟩ := writeBody_spec False hslots hbody
              refine ⟨(o₁.trans o₂).same, fun serialized hsome => ?_⟩
              obtain rfl := Option.some.inj hsome
              refine ⟨quantized, archetype, hquantized, harchetype, ?_⟩
              rw [← findOrCreate_frame hfind hquantized]

theorem updateWritten_state {slot : Nat} {mask : Mask} {serialized : SerializedEntity} {w : WrittenRecord}
    (h : l.updateWritten slot mask serialized = some w) :
    ∃ state, l.client.states[slot]? = some state ∧ w.slot? = some slot ∧
      ({ entity := w.entity, frame := w.frame, destroy := false, written := w } : PacketAckRecord) = w.ackRecord := by
  unfold SendLoop.updateWritten at h
  split at h
  case h_1 replicated state quantized _ hstate _ =>
    cases h
    exact ⟨state, hstate, rfl, rfl⟩
  case h_2 => cases h

theorem length_updateRecord {core core₁ : ServerCore} {slot : Nat} {mask : Mask} {serialized : SerializedEntity}
    {w : WrittenRecord} (hpayload : PayloadOf core core₁ serialized)
    (hcore : l.core = core₁.retainQuantizedFrame serialized.quantizedFrame) (hframe : core₁.frame = core.frame)
    (hoptions : core₁.options = core₀.options) (hsettings : core₁.settings = core₀.settings)
    (h : l.updateWritten slot mask serialized = some w) :
    (recordsBits core₀ [w]).length = 1 + serialized.payloadBits := by
  obtain ⟨quantized, archetype, hquantized, harchetype, hlength⟩ := hpayload
  unfold SendLoop.updateWritten at h
  split at h
  case h_2 => cases h
  case h_1 replicated state retained _ hstate hretained =>
    cases h
    have harch : retained.archetype = quantized.archetype := by
      rw [hcore] at hretained
      simp only [ServerCore.retainQuantizedFrame, List.getElem?_modify_eq, hquantized, Option.map_eq_map,
        Option.map_some, Option.some.injEq] at hretained
      rw [← hretained]
      split <;> rfl
    have hframe' : l.core.frame = core.frame := by rw [hcore]; exact hframe
    rw [hsettings] at harchetype
    rw [hoptions] at hlength
    simp only [recordsBits, List.flatMap_singleton, WrittenRecord.bits, harch, harchetype, Option.elim_some,
      List.length_cons, hframe', hlength]
    exact Nat.add_comm _ _

theorem PacketLoop.sendUpdate (h : PacketLoop core₀ available client₀ sent l)
    (hmtu : core₀.options.mtuBytes * 8 < 2 ^ 16) {registry : Registry} {slot : Nat} {mask : Mask}
    (hsend : l.sendUpdate registry slot mask = .ok l') :
    ∃ sent', PacketLoop core₀ available client₀ sent' l' := by
  unfold SendLoop.sendUpdate at hsend
  split at hsend
  case isTrue =>
    rw [Monadic.pure_eq_ok] at hsend
    exact ⟨sent, hsend ▸ h⟩
  case isFalse hrep =>
    have hact : l.core.replicatedSlotActive slot = true := by
      simp only [ServerCore.replicatedIsReplicable, ServerCore.replicatedSlotActive] at hrep ⊢
      split <;> simp_all
    rw [Monadic.bind_eq_ok] at hsend
    obtain ⟨⟨core₁, client₁, serialized⟩, hserialize, hsend⟩ := hsend
    obtain ⟨hslots, hclient, hpayload⟩ := serializeEntity_frame hact hserialize
    have hids : PacketLoop core₀ available client₀ sent { l with core := core₁, client := client₁ } := by
      refine h.quiet hslots.options hslots.settings rfl fun hkept => hkept.same ?_ ?_ ?_ ?_ <;>
        dsimp only <;> rw [hclient]
    cases serialized with
    | none =>
      simp only [Monadic.pure_eq_ok] at hsend
      exact ⟨sent, hsend ▸ hids⟩
    | some serialized =>
      have hretained : PacketLoop core₀ available client₀ sent
          { l with core := core₁.retainQuantizedFrame serialized.quantizedFrame, client := client₁ } :=
        hids.quiet rfl rfl rfl id
      obtain ⟨sent', h'⟩ := hretained.flushIfFull (1 + serialized.payloadBits)
      have hcore := flushIfFull_core { l with
        core := core₁.retainQuantizedFrame serialized.quantizedFrame, client :=
          client₁ } (1 + serialized.payloadBits)
      simp only at hsend
      generalize SendLoop.flushIfFull { l with
        core := core₁.retainQuantizedFrame serialized.quantizedFrame, client := client₁ }
        (1 + serialized.payloadBits) = l₁ at h' hcore hsend
      refine ⟨sent', ?_⟩
      split at hsend
      case isTrue =>
        rw [Monadic.pure_eq_ok] at hsend
        subst hsend
        unfold SendLoop.refuseUpdate
        dsimp only
        have hreleased := release_sameSlots l₁.core serialized.quantizedFrame
        split
        · exact h'.quiet hreleased.options hreleased.settings rfl id
        · exact h'.quiet hreleased.options hreleased.settings rfl id
      case isFalse hfits =>
        rw [Monadic.pure_eq_ok] at hsend
        subst hsend
        rw [not_or, h'.sameOptions] at hfits
        unfold SendLoop.acceptUpdate
        cases hw : l₁.updateWritten slot mask serialized with
        | none => exact h'
        | some w =>
          obtain ⟨state, hstate, hslot, hack⟩ := updateWritten_state hw
          have hbits : (recordsBits core₀ [w]).length = 1 + serialized.payloadBits :=
            length_updateRecord (hpayload serialized rfl) hcore hslots.frame (hslots.options.trans h.sameOptions)
              (hslots.settings.trans h.sameSettings) hw
          have hstate' : (l₁.client.logWritten w).states[slot]? = some state := hstate
          have htrace := recordSent_calls l₁.core (l₁.client.logWritten w) serialized hstate'
          obtain ⟨calls, hrest⟩ := recordSent_rest l₁.core (l₁.client.logWritten w) slot serialized
          have hslots' := recordSent_sameSlots l₁.core (l₁.client.logWritten w) slot serialized
          refine h'.append (w := w) hmtu (Nat.lt_add_right _ Nat.one_pos) hbits (Nat.le_of_not_lt hfits.1)
            (Nat.le_of_not_lt hfits.2) hslots'.options hslots'.settings ?_ ?_
          · rw [← hack]
            rfl
          · intro hkept
            refine hkept.append ?_ ?_ ?_ ?_
            · exact congrArg Trace.written htrace
            · rw [hslot]
              exact congrArg (fun trace => pushedSlots trace.calls) htrace
            · intro i d hd
              have hsame := congrArg ServerClientReplicator.destroys hrest
              exact .inl (hsame ▸ hd)
            · have hsame := congrArg ServerClientReplicator.transport hrest
              exact hsame

theorem PacketLoop.sendCandidate (h : PacketLoop core₀ available client₀ sent l)
    (hmtu : core₀.options.mtuBytes * 8 < 2 ^ 16) {registry : Registry} {candidate : SerializedCandidate}
    (hsend : SendLoop.sendCandidate registry l candidate = .ok l') :
    ∃ sent', PacketLoop core₀ available client₀ sent' l' := by
  unfold SendLoop.sendCandidate at hsend
  split at hsend
  case isTrue => exact ⟨sent, Except.ok.inj hsend ▸ h⟩
  case isFalse =>
    cases candidate with
    | destroy index => exact Except.ok.inj hsend ▸ h.sendDestroy hmtu index
    | update slot priority mask => exact h.sendUpdate hmtu hsend

theorem sendLoop_packets {registry : Registry} {core : ServerCore} {client : ServerClientReplicator}
    (hmtu : core.options.mtuBytes * 8 < 2 ^ 16) {candidates : List SerializedCandidate}
    (hloop : candidates.foldlM (SendLoop.sendCandidate registry) { core, client, remaining := available } = .ok l) :
    ∃ sent, PacketLoop core available client sent l := by
  refine Monadic.foldlM_inv (fun _ l => ∃ sent, PacketLoop core available client sent l)
    candidates _ _ ?_ ?_ hloop
  · rintro candidate rest l l' ⟨sent, h⟩ hsend
    exact h.sendCandidate hmtu hsend
  · exact ⟨[], rfl, rfl, fun hne => absurd rfl hne, rfl, rfl, rfl, Nat.le_refl _, Nat.zero_add _, rfl,
      fun _ hp => (by cases hp), rfl, rfl, fun _ _ hd => .inl hd, rfl⟩

/-- Each packet is paid for from what the packets before it left. -/
theorem PacketLoop.paid (h : PacketLoop core₀ available client₀ sent l) {before after : List SentPacket}
    {p : SentPacket} (hsplit : sent = before ++ p :: after) :
    p.charge core₀ ≤ available - (before.map (SentPacket.charge core₀)).sum := by
  have hcharged := h.charged
  have hbudget := h.budget
  rw [hsplit, List.map_append, List.sum_append, List.map_cons, List.sum_cons] at hcharged
  omega

end

/-- From any state and over any candidates: each packet is within the MTU and paid for when it is sent, the last one
included, the charges add up within what was available, and every written record is in exactly one packet. -/
theorem packets_within_bounds (registry : Registry) (core : ServerCore) (client : ServerClientReplicator)
    (candidates : List SerializedCandidate) (available : Nat) (l : SendLoop)
    (hmtu : core.options.mtuBytes * 8 < 2 ^ 16)
    (hloop : candidates.foldlM (SendLoop.sendCandidate registry) { core, client, remaining := available } = .ok l) :
    ∃ sent : List SentPacket, l.finish.client.transport = sent.reverse ++ client.transport ∧
      (∀ p ∈ sent, p.Fits core) ∧
      (∀ before p after, sent = before ++ p :: after →
        p.charge core ≤ available - (before.map (SentPacket.charge core)).sum) ∧
      l.chargedBytes + l.remaining = available ∧
      (l.records ≠ [] → l.core.chargedPacketBytes (l.packetBytes 0) ≤ l.remaining) ∧
      l.finish.chargedBytes = (sent.map (SentPacket.charge core)).sum ∧ l.finish.chargedBytes ≤ available ∧
      RecordsKept client sent [] l.finish.client := by
  obtain ⟨sent, h⟩ := sendLoop_packets hmtu hloop
  by_cases hnil : l.records = []
  case pos =>
    have hfinish : l.finish = l := by rw [SendLoop.finish, hnil]; rfl
    have hkept := h.kept
    rw [hnil] at hkept
    rw [hfinish]
    exact ⟨sent, hkept.transport, h.fits, fun _ _ _ => h.paid, h.budget, fun hne => absurd hnil hne, h.charged,
      Nat.le.intro h.budget, hkept⟩
  case neg =>
    have hpays := (h.room hnil).remaining
    have hempty : l.records.isEmpty = false := List.isEmpty_eq_false_iff.mpr hnil
    have hfinish : l.finish = l.flush := by
      rw [SendLoop.finish, hempty]
      exact if_pos hpays
    obtain ⟨p, h'⟩ := h.flush hnil
    rw [hfinish]
    exact ⟨sent ++ [p], h'.kept.transport, h'.fits, fun _ _ _ => h'.paid, h.budget, fun _ => hpays, h'.charged,
      Nat.le.intro h'.budget, h'.kept⟩

namespace Sample

def firstSend : ReplicationServer := after [.addClient 1 1, advance 1 [entity] [] [] [] [some 7, some 9]]

def firstLoop : Except StdException SendLoop :=
  [SerializedCandidate.update 0 0 allComponents].foldlM (SendLoop.sendCandidate (registry [entity] [some 7, some 9]))
    { core := firstSend.core
      client := ReplicationServer.beginSend firstSend.core (firstSend.clients.headD { id := 0, peer := 0 }) 0
      remaining := 100 }

end Sample

theorem packets_within_bounds_first :
    ∃ l, Sample.firstLoop = .ok l ∧ l.finish.client.transport.length = 1 ∧ l.finish.chargedBytes ≤ 100 ∧
      ∀ p ∈ l.finish.client.transport, p.bytes Sample.firstSend.core ≤ 1200 := by
  have hsent : (Sample.firstLoop.toOption.map fun l => l.finish.client.transport.length) = some 1 := by
    decide +kernel
  have hnew : (ReplicationServer.beginSend Sample.firstSend.core
      (Sample.firstSend.clients.headD { id := 0, peer := 0 }) 0).transport = [] := by
    decide +kernel
  cases hloop : Sample.firstLoop with
  | error e =>
    rw [hloop] at hsent
    cases hsent
  | ok l =>
    rw [hloop] at hsent
    obtain ⟨sent, htransport, hfits, _, _, _, _, hwithin, _⟩ :=
      packets_within_bounds _ _ _ _ _ l (by decide +kernel) hloop
    refine ⟨l, rfl, Option.some.inj hsent, hwithin, fun p hp => ?_⟩
    rw [htransport, hnew, List.append_nil] at hp
    exact (hfits p (List.mem_reverse.mp hp)).mtu

end AshiatoSync
