import AshiatoSync.Moves

/-!
# What sending a packet touches

Only the tracker, the transport and the budget.  A tracked packet is an old one
or the one just sent, and ids are never tracked twice.
-/

namespace AshiatoSync

open ServerClientReplicator

theorem notifyLost_eq (core : ServerCore) (client : ServerClientReplicator) (lost : List PendingPacketAck) :
    ∃ budget, client.notifyLost core lost = { client with budget } := by
  unfold notifyLost
  split
  · exact ⟨_, rfl⟩
  · exact ⟨client.budget, rfl⟩

theorem logRetired_eq (client : ServerClientReplicator) (packet : PendingPacketAck) (record : PacketAckRecord) :
    ∃ calls, client.logRetired packet record = { client with trace := { client.trace with calls } } := by
  unfold logRetired
  split
  · exact ⟨client.trace.calls, rfl⟩
  · exact ⟨_, rfl⟩

structure PacketSent (client : ServerClientReplicator) (frame : SyncFrame) (records : List WrittenRecord)
    (acks : List PacketAckRecord) (client' : ServerClientReplicator) : Prop where
  same : client' = { client with
    ackTracker := client'.ackTracker, transport := client'.transport, budget := client'.budget }
  sent : client' = client ∨ ∃ (packetId charged : Nat) (kept : List PendingPacketAck),
    (kept.Sublist (client.ackTracker.pendingPacketAcks.filter fun p => !(p.packetId == packetId))) ∧
    client'.ackTracker.pendingPacketAcks.Sublist (kept ++ [⟨packetId, frame, charged, acks⟩]) ∧
    ∃ entityCount, client'.transport =
      ⟨frame, packetId, client.inputAckFrame, entityCount, records, acks⟩ :: client.transport

theorem trackPacketAck_eq (client : ServerClientReplicator) (packetId : Nat) (frame : SyncFrame) (charged : Nat)
    (acks : List PacketAckRecord) :
    ∃ budget pending, client.trackPacketAck packetId frame charged acks =
        { client with budget, ackTracker := { client.ackTracker with pendingPacketAcks := pending } } ∧
      pending.Sublist (client.ackTracker.pendingPacketAcks ++ [⟨packetId, frame, charged, acks⟩]) := by
  unfold trackPacketAck
  split
  · exact ⟨client.budget, client.ackTracker.pendingPacketAcks, rfl, List.sublist_append_left _ _⟩
  · simp only
    split
    · exact ⟨_, _, rfl, .refl _⟩
    · exact ⟨client.budget, _, rfl, .refl _⟩

theorem enforce_eq (core : ServerCore) (client : ServerClientReplicator) :
    ∃ budget pending, client.enforcePendingPacketAckLimit core =
        { client with budget, ackTracker := { client.ackTracker with pendingPacketAcks := pending } } ∧
      pending.Sublist client.ackTracker.pendingPacketAcks := by
  unfold enforcePendingPacketAckLimit
  simp only
  obtain ⟨b, hb⟩ := notifyLost_eq core client (client.ackTracker.pendingPacketAcks.take
    (client.ackTracker.pendingPacketAcks.length - core.options.protocol.maxPendingPacketAcksPerClient))
  rw [hb]
  exact ⟨b, _, rfl, List.drop_sublist _ _⟩

theorem sendPacket_spec (core : ServerCore) (client : ServerClientReplicator) (frame : SyncFrame) (n : Nat)
    (records : List WrittenRecord) (bits : Nat) (acks : List PacketAckRecord) :
    PacketSent client frame records acks (client.sendPacket core frame n records bits acks) := by
  unfold sendPacket
  split
  · exact ⟨rfl, .inl rfl⟩
  · simp only [allocatePacketId]
    set packetId := (allocateId (maxPacketId core.options) client.ackTracker.nextPacketId).1
    obtain ⟨b, hb⟩ := notifyLost_eq core client
      (client.ackTracker.pendingPacketAcks.filter fun p => p.packetId == packetId)
    rw [hb]
    set charged := core.chargedPacketBytes (bytesForBits (serverUpdateHeaderBits core.options.protocol + bits))
    obtain ⟨b₂, pending, htrack, hsub⟩ := trackPacketAck_eq ({ client with
      budget := b, ackTracker := {
        nextPacketId := (allocateId (maxPacketId core.options) client.ackTracker.nextPacketId).2
        pendingPacketAcks := client.ackTracker.pendingPacketAcks.filter fun p => !(p.packetId == packetId) } })
      packetId frame charged acks
    rw [htrack]
    obtain ⟨b₃, pending', henf, hsub'⟩ := enforce_eq core ({ client with
      budget := .spend charged :: b₂, ackTracker := {
        nextPacketId := (allocateId (maxPacketId core.options) client.ackTracker.nextPacketId).2
        pendingPacketAcks := pending } })
    simp only at henf ⊢
    rw [henf]
    exact ⟨rfl, .inr ⟨packetId, charged, _, .refl _, hsub'.trans hsub, n, rfl⟩⟩

theorem cleanupPacketAcks_eq (core : ServerCore) (client : ServerClientReplicator) :
    ∃ budget acks, client.cleanupPacketAcks core = { client with budget }.setPacketAcks acks ∧
      acks.Sublist client.ackTracker.pendingPacketAcks := by
  unfold cleanupPacketAcks
  simp only
  obtain ⟨b, hb⟩ := notifyLost_eq core client (client.ackTracker.pendingPacketAcks.filter fun p =>
    !(p.records.any fun record => client.packetAckRecordPending core record))
  rw [hb]
  exact ⟨b, _, rfl, List.filter_sublist⟩

end AshiatoSync
