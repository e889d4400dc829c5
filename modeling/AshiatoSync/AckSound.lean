import AshiatoSync.ClientPacketsSound

/-!
# ACKs from the queue to the server

The packets of the client carry the ACKs of its queue in their order, each of them
once, and the server reads back the ACKs of a packet and stands behind them.
-/

namespace AshiatoSync

open BitCodec ClientInputBuffer ClientAckQueue

/-! ## ACK packets -/

section

variable {maxAcks mtuBytes packetIdBits : Nat}

theorem packetAcks_flatten (maxAcks : Nat) : ∀ (openAcks pending : List Nat),
    (packetAcks maxAcks openAcks pending).flatten = openAcks ++ pending := by
  intro openAcks pending
  induction pending generalizing openAcks with
  | nil =>
    unfold packetAcks
    split
    · rename_i hempty
      rw [List.isEmpty_iff.mp hempty]
      rfl
    · rw [List.flatten_singleton, List.append_nil]
  | cons packetId pending ih =>
    unfold packetAcks
    split
    · rw [List.flatten_cons, ih, List.singleton_append]
    · rw [ih, List.append_assoc, List.singleton_append]

theorem packetAcks_length (hpos : 0 < maxAcks) : ∀ (openAcks pending : List Nat), openAcks.length ≤ maxAcks →
    ∀ acks ∈ packetAcks maxAcks openAcks pending, acks.length ≤ maxAcks := by
  intro openAcks pending
  induction pending generalizing openAcks with
  | nil =>
    intro hlen acks hmem
    unfold packetAcks at hmem
    split at hmem
    · cases hmem
    · rw [List.mem_singleton.mp hmem]
      exact hlen
  | cons packetId pending ih =>
    intro hlen acks hmem
    unfold packetAcks at hmem
    split at hmem
    · rcases List.mem_cons.mp hmem with rfl | hmem
      · exact hlen
      · exact ih [packetId] hpos acks hmem
    · rename_i hroom
      refine ih (openAcks ++ [packetId]) ?_ acks hmem
      rw [List.length_append, List.length_singleton]
      omega

/-- The packets of `drain_ack_packets` and what it leaves make up the queue. -/
theorem drainAckPackets_spec (hpos : 0 < packetIdBits) (mtuBytes : Nat) (pending : List Nat) :
    ((drainAckPackets mtuBytes packetIdBits pending).1.flatMap fun packet => packet.acks) ++
        (drainAckPackets mtuBytes packetIdBits pending).2 = pending ∧
    (∀ packet ∈ (drainAckPackets mtuBytes packetIdBits pending).1, packet.acks.length ≤ maxAckCount ∧
      packet.message = clientAckMessage ∧ bytesForBits (packet.bits packetIdBits).length ≤ mtuBytes) ∧
    (bytesForBits (clientAckHeaderBits + packetIdBits) ≤ mtuBytes →
      (drainAckPackets mtuBytes packetIdBits pending).2 = []) := by
  unfold drainAckPackets
  split
  · rename_i hempty
    rw [List.isEmpty_iff.mp hempty]
    exact ⟨rfl, fun packet hmem => absurd hmem List.not_mem_nil, fun _ => rfl⟩
  split
  · rename_i hsmall
    exact ⟨rfl, fun packet hmem => absurd hmem List.not_mem_nil, fun hfits => absurd hfits (Nat.not_le.mpr hsmall)⟩
  rename_i hfits
  rw [gt_iff_lt, Nat.not_lt, bytesForBits_le_iff] at hfits
  dsimp only
  -- one ACK fits, so a packet takes at least one
  have hone : 0 < (mtuBytes * 8 - clientAckHeaderBits) / packetIdBits := Nat.div_pos (by omega) hpos
  have hmax : 0 < min maxAckCount ((mtuBytes * 8 - clientAckHeaderBits) / packetIdBits) :=
    Nat.lt_min.mpr ⟨by decide, hone⟩
  rw [if_neg (Nat.ne_of_gt hmax)]
  refine ⟨?_, fun packet hmem => ?_, fun _ => rfl⟩
  · rw [List.append_nil, List.flatMap_map]
    exact List.flatMap_id.trans (packetAcks_flatten _ [] pending)
  · obtain ⟨acks, hin, rfl⟩ := List.mem_map.mp hmem
    have hlen := packetAcks_length hmax [] pending (Nat.zero_le _) acks hin
    refine ⟨Nat.le_trans hlen (Nat.min_le_left _ _), rfl, ?_⟩
    rw [bytesForBits_le_iff, length_clientPacket]
    dsimp only
    have hroom : acks.length * packetIdBits ≤ mtuBytes * 8 - clientAckHeaderBits :=
      (Nat.le_div_iff_mul_le hpos).mp (Nat.le_trans hlen (Nat.min_le_right _ _))
    rw [List.length_nil]
    omega

end

/-! ## The server reads them back -/

section

variable {packetIdBits : Nat}

theorem readAckIds_eq (rest : Bits) : ∀ acks : List Nat, (∀ packetId ∈ acks, packetId < 2 ^ packetIdBits) →
    readAckIds packetIdBits acks.length ((acks.flatMap fun packetId => bits packetId packetIdBits) ++ rest) =
      (acks, some rest)
  | [], _ => rfl
  | packetId :: acks, hfits => by
    have hread := reads_bits (hfits packetId List.mem_cons_self)
      ((acks.flatMap fun packetId => bits packetId packetIdBits) ++ rest)
    have hrest := readAckIds_eq rest acks fun other hmem => hfits other (List.mem_cons_of_mem _ hmem)
    rw [List.flatMap_cons, List.append_assoc, List.length_cons, readAckIds]
    simp only [hread, hrest]

/-- The server reads the ACKs of a packet and leaves what follows them. -/
theorem processClientAcksFromPacket_eq (core : ServerCore) (client : ServerClientReplicator) (packet : ClientPacket)
    (hbits : AshiatoSync.packetIdBits core.options.protocol = packetIdBits)
    (hcount : packet.acks.length ≤ maxAckCount) (hmessage : packet.message < 2 ^ messageBits)
    (hfits : ∀ packetId ∈ packet.acks, packetId < 2 ^ packetIdBits) :
    ∃ afterMessage, readBits messageBits (packet.bits packetIdBits) = some (packet.message, afterMessage) ∧
      client.processClientAcksFromPacket core afterMessage =
        (client.processClientAcks core packet.acks, packet.acks, some packet.rest) := by
  refine ⟨ackSection packetIdBits packet.acks ++ packet.rest, ?_, ?_⟩
  · rw [ClientPacket.bits, List.append_assoc]
    exact reads_bits hmessage _
  · have hlt : packet.acks.length < 2 ^ ackCountBits := Nat.lt_of_le_of_lt hcount (by decide)
    have hcountRead := reads_bits hlt ((packet.acks.flatMap fun packetId => bits packetId packetIdBits) ++ packet.rest)
    unfold ServerClientReplicator.processClientAcksFromPacket
    rw [ackSection, List.append_assoc, hcountRead, hbits]
    simp only [readAckIds_eq packet.rest packet.acks hfits]

end

/-! ## From the queue to the server -/

theorem appendInputPacketTo_acks (ops : InputOps) (buffer : ClientInputBuffer) (mtuBytes packetIdBits : Nat)
    (pending : List Nat) :
    let sent := buffer.appendInputPacketTo ops mtuBytes packetIdBits pending
    (sent.2.2.toList.flatMap fun packet => packet.1.acks) ++ sent.2.1 = pending ∧
    ∀ packet ∈ sent.2.2.toList, packet.1.acks.length ≤ maxAckCount ∧ packet.1.message = clientInputMessage := by
  unfold ClientInputBuffer.appendInputPacketTo
  split
  · exact ⟨rfl, fun packet hmem => absurd hmem List.not_mem_nil⟩
  · refine ⟨?_, fun packet hmem => ?_⟩
    · simp
    · obtain rfl := List.mem_singleton.mp hmem
      have hle : buffer.ackCount ops mtuBytes packetIdBits pending.length ≤ min maxAckCount pending.length :=
        ackCount_le
      refine ⟨?_, rfl⟩
      rw [List.length_take]
      omega

/-- Every pending ACK is in one packet, in the order of the queue, or still pending; none is pending where one ACK fits
in the MTU; and the server reads from each packet its ACKs and stands behind them. -/
theorem acks_conserved (ops : InputOps) (buffer : ClientInputBuffer) (mtuBytes : Nat) (descriptor : ProtocolDescriptor)
    (pending : List Nat) (hfits : ∀ packetId ∈ pending, packetId < 2 ^ packetIdBits descriptor) :
    let sent := buffer.appendInputPacketTo ops mtuBytes (packetIdBits descriptor) pending
    let drained := drainAckPackets mtuBytes (packetIdBits descriptor) sent.2.1
    let packets := sent.2.2.toList.map Prod.fst ++ drained.1
    (packets.flatMap fun packet => packet.acks) ++ drained.2 = pending ∧
    (∀ packet ∈ packets, packet.acks.length ≤ maxAckCount) ∧
    (∀ packet ∈ drained.1, bytesForBits (packet.bits (packetIdBits descriptor)).length ≤ mtuBytes) ∧
    (bytesForBits (clientAckHeaderBits + packetIdBits descriptor) ≤ mtuBytes → drained.2 = []) ∧
    ∀ packet ∈ packets, ∀ (core : ServerCore) (client : ServerClientReplicator),
    core.options.protocol = descriptor →
      ∃ afterMessage, readBits messageBits (packet.bits (packetIdBits descriptor)) =
        some (packet.message, afterMessage) ∧
        client.processClientAcksFromPacket core afterMessage =
          (client.processClientAcks core packet.acks, packet.acks, some packet.rest) := by
  have hpos : 0 < packetIdBits descriptor := packetIdBits_pos _
  intro sent drained packets
  obtain ⟨htaken, hinput⟩ := appendInputPacketTo_acks ops buffer mtuBytes (packetIdBits descriptor) pending
  obtain ⟨hleft, hdrained, hempty⟩ := drainAckPackets_spec hpos mtuBytes sent.2.1
  have hall : (packets.flatMap fun packet => packet.acks) ++ drained.2 = pending := by
    rw [List.flatMap_append, List.flatMap_map, List.append_assoc, hleft]
    exact htaken
  have hpacket : ∀ packet ∈ packets, packet.acks.length ≤ maxAckCount ∧ packet.message < 2 ^ messageBits := by
    intro packet hmem
    rcases List.mem_append.mp hmem with hmem | hmem
    · obtain ⟨sentPacket, hsent, rfl⟩ := List.mem_map.mp hmem
      obtain ⟨hcount, hmessage⟩ := hinput sentPacket hsent
      exact ⟨hcount, by rw [hmessage]; decide⟩
    · obtain ⟨hcount, hmessage, -⟩ := hdrained packet hmem
      exact ⟨hcount, by rw [hmessage]; decide⟩
  refine ⟨hall, fun packet hmem => (hpacket packet hmem).1,
    fun packet hmem => (hdrained packet hmem).2.2, hempty, ?_⟩
  intro packet hmem core client hprotocol
  obtain ⟨hcount, hmessage⟩ := hpacket packet hmem
  refine processClientAcksFromPacket_eq core client packet (by rw [hprotocol]) hcount hmessage fun packetId hid =>
    hfits packetId ?_
  -- an id in a packet was pending
  rw [← hall]
  exact List.mem_append_left _ (List.mem_flatMap.mpr ⟨packet, hmem, hid⟩)

theorem acks_conserved_with_inputs :
    (let sent := twoFramesRecorded.appendInputPacketTo deltaOps 7 (packetIdBits {}) [10, 11, 12]
    let drained := drainAckPackets 7 (packetIdBits {}) sent.2.1
    let packets := sent.2.2.toList.map Prod.fst ++ drained.1
    (packets.map fun packet => packet.acks) = [[10], [11, 12]]) ∧
    (let sent := twoFramesRecorded.appendInputPacketTo deltaOps 7 (packetIdBits {}) [10, 11, 12]
    let drained := drainAckPackets 7 (packetIdBits {}) sent.2.1
    let packets := sent.2.2.toList.map Prod.fst ++ drained.1
    (packets.flatMap fun packet => packet.acks) ++ drained.2 = [10, 11, 12]) :=
  ⟨by decide +kernel, (acks_conserved deltaOps twoFramesRecorded 7 {} [10, 11, 12] (by decide +kernel)).1⟩

end AshiatoSync
