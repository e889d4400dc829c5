import AshiatoSync.ClientUpdate
import AshiatoSync.PacketAck

/-!
# Update packets

What `receive` and `receive_entity_update` read of a packet before its records.
-/

namespace AshiatoSync

open BitCodec

/-! ## Reading -/

structure ServerUpdateHeader where
  frame : SyncFrame
  packetId : Nat
  inputAckFrame : SyncFrame
  recordCount : Nat
  deriving DecidableEq, Repr

/-- The header of `receive_entity_update`. -/
def readServerUpdateHeader (protocol : ProtocolDescriptor) : Reader ServerUpdateHeader := do
  let frame ← readBits 32
  let packetId ← readBits (packetIdBits protocol)
  let inputAckFrame ← readBits 32
  let recordCount ← readBits 16
  pure { frame, packetId, inputAckFrame, recordCount }

/-- `receive_entity_update` of a packet whose message id was read: the client, and whether the packet was applied. -/
def ReplicationClient.receiveEntityUpdate {R : Type} [LocalRegistry R] (client : ReplicationClient R) (packet : Bits) :
    ReplicationClient R × Bool :=
  match readServerUpdateHeader client.options.protocol packet with
  | none => (client, false)
  | some (header, records) =>
    let applied := client.applyUpdate header.packetId header.frame header.recordCount records
    (applied.1, applied.2.isNone)

/-! ## Headers -/

theorem reads_field (value n : Nat) : Reads (readBits n) (unsignedBits value n) (ofBits (unsignedBits value n)) := by
  have hread := reads_ofBits (unsignedBits value n)
  rwa [show (unsignedBits value n).length = n from length_bits value n] at hread

/-- A client with the server's protocol reads the header that was written; the packet id and the acknowledged frame are
cut to their fields. -/
theorem makeServerPacket_read {protocol : ProtocolDescriptor} {frame packetId inputAckFrame entityCount : Nat}
    {records : Bits} (hframe : frame < 2 ^ 32) (hcount : entityCount < 2 ^ 16) :
    ∃ rest, readBits messageBits
      (makeServerPacket (packetIdBits protocol) frame packetId inputAckFrame entityCount records) =
        some (serverUpdateMessage, rest) ∧
      ∃ header, readServerUpdateHeader protocol rest = some (header, records) ∧ header.frame = frame ∧
        header.recordCount = entityCount := by
  have hmessage : Reads (readBits messageBits) (unsignedBits serverUpdateMessage messageBits) serverUpdateMessage :=
    reads_bits (by decide)
  have hheader : Reads (readServerUpdateHeader protocol)
      (unsignedBits frame 32 ++ (unsignedBits packetId (packetIdBits protocol) ++
        (unsignedBits inputAckFrame 32 ++ unsignedBits entityCount 16)))
      ⟨frame, ofBits (unsignedBits packetId (packetIdBits protocol)), ofBits (unsignedBits inputAckFrame 32),
        entityCount⟩ :=
    (reads_bits hframe).bind ((reads_field packetId _).bind ((reads_field inputAckFrame 32).bind
      ((reads_bits hcount).bind_nil (.pure _))))
  refine ⟨_, ?_, _, hheader records, rfl, rfl⟩
  simp only [makeServerPacket, List.append_assoc]
  exact hmessage _

end AshiatoSync
