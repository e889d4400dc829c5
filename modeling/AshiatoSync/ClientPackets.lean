import AshiatoSync.InputBuffer
import AshiatoSync.PacketAck

/-!
# The client's packets

An input packet carries the first pending ACKs and the newest inputs; what is left
of the ACKs goes out in packets of its own.  Both begin with the message and the
ACK section, which the server reads the same way.
-/

namespace AshiatoSync

open BitCodec

def clientAckMessage : Nat := 1
def clientInputMessage : Nat := 7
def clientAckHeaderBits : Nat := messageBits + ackCountBits

def ackSection (packetIdBits : Nat) (acks : List Nat) : Bits :=
  bits acks.length ackCountBits ++ acks.flatMap fun packetId => bits packetId packetIdBits

structure ClientPacket where
  message : Nat
  acks : List Nat
  rest : Bits
  deriving DecidableEq

def ClientPacket.bits (packetIdBits : Nat) (packet : ClientPacket) : Bits :=
  BitCodec.bits packet.message messageBits ++ ackSection packetIdBits packet.acks ++ packet.rest

/-! ## Input packets -/

namespace ClientInputBuffer

variable (ops : InputOps)

def transmitFloor (buffer : ClientInputBuffer) : SyncFrame := max buffer.ackedFrame buffer.retiredTransmitFrame

/-- The frames of `find_newest_contiguous_input_range`, by their count. -/
def desiredCount (buffer : ClientInputBuffer) : Nat := buffer.findNewestContiguousInputCount buffer.transmitFloor

/-- Where `append_input_packet` goes on to write. -/
def mayWrite (mtuBytes : Nat) (buffer : ClientInputBuffer) : Bool :=
  buffer.hasLatest && decide (buffer.lastRecordedFrame > buffer.transmitFloor) &&
    !decide (mtuBytes * 8 < fixedHeaderBits)

/-- `serialized_first_input_bits` -/
def serializedFirstInputBits (buffer : ClientInputBuffer) (first : SyncFrame) : Nat :=
  match buffer.frames.find? first with
  | some bytes =>
    if first = 0 then 0
    else (ops.serialize (buffer.firstPrevious first) bytes (inputContext first (buffer.firstPrevious first))).length
  | none => 0

/-- The count that `append_acks` returns. -/
def ackCount (mtuBytes packetIdBits pendingAcks : Nat) (buffer : ClientInputBuffer) : Nat :=
  let first := rangeFirst buffer.lastRecordedFrame buffer.desiredCount
  let maxAcks := min maxAckCount ((mtuBytes * 8 - fixedHeaderBits) / packetIdBits)
  appendAcks mtuBytes packetIdBits
    (1 + (if buffer.firstInputFull first then 32 else 0) + inputCountBits + serializedFirstInputBits ops buffer first)
    (min maxAcks pendingAcks) clientAckHeaderBits

/-- `append_input_packet` with the ACKs themselves: the buffer, the ACKs left, and the packet with what its inputs say.
-/
def appendInputPacketTo (mtuBytes packetIdBits : Nat) (pendingAcks : List Nat) (buffer : ClientInputBuffer) :
    ClientInputBuffer × List Nat × Option (ClientPacket × InputPacket) :=
  match buffer.appendInputPacket ops mtuBytes packetIdBits pendingAcks.length with
  | (written, none) => (written, pendingAcks, none)
  | (written, some input) =>
    let ackCount := ackCount ops mtuBytes packetIdBits pendingAcks.length buffer
    (written, pendingAcks.drop ackCount,
      some ({ message := clientInputMessage, acks := pendingAcks.take ackCount, rest := input.payload }, input))

end ClientInputBuffer

/-! ## ACK packets -/

namespace ClientAckQueue

/-- The loop of `drain_ack_packets`: the ACKs of each packet, from those of the open one. -/
def packetAcks (maxAcksPerPacket : Nat) : List Nat → List Nat → List (List Nat)
  | openAcks, [] => if openAcks.isEmpty then [] else [openAcks]
  | openAcks, packetId :: pending =>
    if openAcks.length = maxAcksPerPacket then openAcks :: packetAcks maxAcksPerPacket [packetId] pending
    else packetAcks maxAcksPerPacket (openAcks ++ [packetId]) pending

/-- `drain_ack_packets`: the packets, and the ACKs left pending. -/
def drainAckPackets (mtuBytes packetIdBits : Nat) (pending : List Nat) : List ClientPacket × List Nat :=
  if pending.isEmpty then ([], [])
  else if bytesForBits (clientAckHeaderBits + packetIdBits) > mtuBytes then ([], pending)
  else
    let maxAcksPerPacket := min maxAckCount ((mtuBytes * 8 - clientAckHeaderBits) / packetIdBits)
    if maxAcksPerPacket = 0 then ([], pending)
    else
      ((packetAcks maxAcksPerPacket [] pending).map fun acks => { message := clientAckMessage, acks, rest := [] }, [])

end ClientAckQueue

/-! ## The server's side -/

/-- The ACK section as the server reads it: the ids read, and what follows when none is missing. -/
def readAckIds (packetIdBits : Nat) : Nat → Bits → List Nat × Option Bits
  | 0, packet => ([], some packet)
  | count + 1, packet =>
    match readBits packetIdBits packet with
    | none => ([], none)
    | some (packetId, packet) =>
      let (packetIds, rest) := readAckIds packetIdBits count packet
      (packetId :: packetIds, rest)

/-- `process_client_acks_from_packet`, with the ids it read and the packet behind them when it is valid. -/
def ServerClientReplicator.processClientAcksFromPacket (core : ServerCore) (client : ServerClientReplicator)
    (packet : Bits) : (ServerCore × ServerClientReplicator) × List Nat × Option Bits :=
  match readBits ackCountBits packet with
  | none => ((core, client), [], none)
  | some (ackCount, packet) =>
    match readAckIds (packetIdBits core.options.protocol) ackCount packet with
    | (packetIds, some rest) => (client.processClientAcks core packetIds, packetIds, some rest)
    | (packetIds, none) =>
      -- the ids before the missing one are acknowledged, and the tracker is not cleaned up
      (packetIds.foldl (fun (core, client) packetId =>
        let (core, client, _) := client.acknowledgePacket core packetId
        (core, client)) (core, client), packetIds, none)

end AshiatoSync
