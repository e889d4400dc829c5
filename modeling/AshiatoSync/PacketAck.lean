import AshiatoSync.Replicator

/-!
# Packets, their ids and their acknowledgements

The bits of sent packets, their ids, the acknowledgement records tracked under
them, and what an acknowledged id does to the destroy queue and the entity states.
-/

namespace AshiatoSync

/-! ## Packets -/

def serverUpdateMessage : Nat := 0

/-- What `send_client` appends to the records of a packet: a flag, then a network id or the payload of an update. -/
def WrittenRecord.bits (tier0Bits : Nat) (settings : SyncSettings) (w : WrittenRecord) : Bits :=
  match w.content with
  | .destroy => true :: writeNetworkEntityId w.networkId tier0Bits
  | .update _ _ archetype _ _ record _ =>
    false :: (settings.archetypes[archetype]?).elim [] fun definition => encodeUpdateRecord tier0Bits
      definition w.frame record

/-- `make_server_packet` -/
def makeServerPacket (packetIdBits frame packetId inputAckFrame entityCount : Nat) (records : Bits) : Bits :=
  unsignedBits serverUpdateMessage messageBits ++ unsignedBits frame 32 ++ unsignedBits packetId packetIdBits ++
    unsignedBits inputAckFrame 32 ++ unsignedBits entityCount 16 ++ records

def SentPacket.bits (protocol : ProtocolDescriptor) (settings : SyncSettings) (p : SentPacket) : Bits :=
  makeServerPacket (packetIdBits protocol) p.frame p.packetId p.inputAckFrame p.entityCount
    (p.records.flatMap (WrittenRecord.bits protocol.networkEntityIdTier0Bits settings))

/-! ## Packet ids -/

/-- `ServerPacketIdAllocator::allocate`: the id, and the next one. -/
def allocateId (maxPacketId nextPacketId : Nat) : Nat × Nat :=
  let packetId := if nextPacketId = 0 ∨ nextPacketId > maxPacketId then 1 else nextPacketId
  (packetId, if packetId = maxPacketId then 1 else packetId + 1)

def maxPacketId (options : ReplicationServerOptions) : Nat :=
  packetIdMask (packetIdBitsForMaxPending options.protocol.maxPendingPacketAcksPerClient)

namespace ServerClientReplicator

def notifyLost (core : ServerCore) (client : ServerClientReplicator) (lost : List PendingPacketAck) :
    ServerClientReplicator :=
  if core.options.bandwidth.enabled then
    { client with
      budget := (lost.map fun p => BudgetEvent.packetLost core.frame p.chargedBytes).reverse ++ client.budget }
  else client

def setPacketAcks (client : ServerClientReplicator) (acks : List PendingPacketAck) : ServerClientReplicator :=
  { client with ackTracker := { client.ackTracker with pendingPacketAcks := acks } }

/-! ## Sending -/

/-- `AckTracker::allocate_packet_id` -/
def allocatePacketId (core : ServerCore) (client : ServerClientReplicator) : ServerClientReplicator × Nat :=
  let (packetId, next) := allocateId (maxPacketId core.options) client.ackTracker.nextPacketId
  let acks := client.ackTracker.pendingPacketAcks
  let client := client.notifyLost core (acks.filter fun p => p.packetId == packetId)
  ({ client with ackTracker := {
      nextPacketId := next, pendingPacketAcks := acks.filter fun p => !(p.packetId == packetId) } }, packetId)

/-- `AckTracker::track_packet_ack` -/
def trackPacketAck (client : ServerClientReplicator) (packetId : Nat) (sentFrame : SyncFrame)
    (chargedBytes : Nat) (records : List PacketAckRecord) : ServerClientReplicator :=
  if records.isEmpty then client
  else
    let client := client.setPacketAcks
      (client.ackTracker.pendingPacketAcks ++ [⟨packetId, sentFrame, chargedBytes, records⟩])
    if chargedBytes ≠ 0 then { client with budget := .packetSent chargedBytes :: client.budget } else client

/-- `AckTracker::enforce_pending_packet_ack_limit` -/
def enforcePendingPacketAckLimit (core : ServerCore) (client : ServerClientReplicator) : ServerClientReplicator :=
  let acks := client.ackTracker.pendingPacketAcks
  let dropCount := acks.length - core.options.protocol.maxPendingPacketAcksPerClient
  (client.notifyLost core (acks.take dropCount)).setPacketAcks (acks.drop dropCount)

/-- `send_packet`: `recordsBits` is the bit size of `records`. -/
def sendPacket (core : ServerCore) (client : ServerClientReplicator) (frame : SyncFrame) (entityCount : Nat)
    (records : List WrittenRecord) (recordsBits : Nat) (ackRecords : List PacketAckRecord) :
    ServerClientReplicator :=
  if entityCount = 0 then client
  else
    let (client, packetId) := client.allocatePacketId core
    let chargedBytes := core.chargedPacketBytes
      (bytesForBits (serverUpdateHeaderBits core.options.protocol + recordsBits))
    let client := client.trackPacketAck packetId frame chargedBytes ackRecords
    let client := { client with budget := .spend chargedBytes :: client.budget }
    let client := client.enforcePendingPacketAckLimit core
    { client with transport := {
        frame, packetId, inputAckFrame := client.inputAckFrame, entityCount, records, ackRecords } :: client.transport }

/-! ## Receiving -/

def logRetired (client : ServerClientReplicator) (packet : PendingPacketAck) (record : PacketAckRecord) :
    ServerClientReplicator :=
  match client.destroys.find? fun d => d.entity == record.entity && decide (record.frame ≤ d.frame) with
  | none => client
  | some destroy => client.logCall (.retireDestroy destroy packet)

def acknowledgeRecord (core : ServerCore) (client : ServerClientReplicator) (packet : PendingPacketAck)
    (record : PacketAckRecord) : ServerCore × ServerClientReplicator × Bool :=
  if record.destroy then
    let (client, accepted) := (client.logRetired packet record).acknowledgeDestroy record.entity record.frame
    (core, client, accepted)
  else
    match core.entityToReplicatedIndex record.entity with
    | none => (core, client, false)
    | some slot => client.acknowledgeEntity core slot record.frame

def acknowledgeRecords (core : ServerCore) (client : ServerClientReplicator) (packet : PendingPacketAck) :
    ServerCore × ServerClientReplicator × Bool :=
  packet.records.foldl (fun (core, client, allValid) record =>
    let (core, client, accepted) := client.acknowledgeRecord core packet record
    (core, client, accepted && allValid)) (core, client, true)

/-- `AckTracker::acknowledge_packet` -/
def acknowledgePacket (core : ServerCore) (client : ServerClientReplicator) (packetId : Nat) :
    ServerCore × ServerClientReplicator × Bool :=
  match client.ackTracker.pendingPacketAcks.find? fun p => p.packetId == packetId with
  | none => (core, client, false)
  | some found =>
    let (core, client, allValid) := client.acknowledgeRecords core found
    let client :=
      if core.options.bandwidth.enabled then
        { client with budget := .packetAcked found.sentFrame core.frame found.chargedBytes :: client.budget }
      else client
    (core, client.setPacketAcks (client.ackTracker.pendingPacketAcks.eraseP fun p => p.packetId == packetId),
      allValid)

/-- `AckTracker::packet_ack_record_pending` -/
def packetAckRecordPending (core : ServerCore) (client : ServerClientReplicator) (record : PacketAckRecord) : Bool :=
  if record.destroy then client.containsDestroyAckRecord record.entity record.frame
  else
    match core.entityToReplicatedIndex record.entity with
    | none => false
    | some slot =>
      match client.states[slot]? with
      | none => false
      | some state => state.pending.any fun p => p.frame == record.frame

/-- `AckTracker::cleanup_packet_acks` -/
def cleanupPacketAcks (core : ServerCore) (client : ServerClientReplicator) : ServerClientReplicator :=
  let acks := client.ackTracker.pendingPacketAcks
  let live (p : PendingPacketAck) := p.records.any fun record => client.packetAckRecordPending core record
  (client.notifyLost core (acks.filter fun p => !live p)).setPacketAcks (acks.filter live)

/-- `process_client_acks_from_packet` on the decoded ids. -/
def processClientAcks (core : ServerCore) (client : ServerClientReplicator) (packetIds : List Nat) :
    ServerCore × ServerClientReplicator :=
  let (core, client) := packetIds.foldl (fun (core, client) packetId =>
    let (core, client, _) := client.acknowledgePacket core packetId
    (core, client)) (core, client)
  (core, client.cleanupPacketAcks core)

end ServerClientReplicator

end AshiatoSync
