import AshiatoSync.PacketAck

/-!
# Packet loss statistics of the client

The client keeps the newest packet id it received and a mask of the ids below it
that it received too.  What leaves the mask without its bit set was missed.
-/

namespace AshiatoSync

/-- `ClientTimingStatsCalculator`, with the counters of `ReplicationClientTimingStats` that it writes. -/
structure ClientTimingStatsCalculator where
  maxPacketId : Nat
  highestEntityUpdatePacketId : Nat := 0
  entityUpdatePacketWindowMask : BitVec 64 := 0
  entityUpdatePacketWindowSpan : Nat := 0
  hasEntityUpdatePacketWindow : Bool := false
  serverUpdatePacketsReceived : Nat := 0
  serverUpdatePacketsMissing : Nat := 0
  serverUpdatePacketsReorderedOrDuplicate : Nat := 0
deriving DecidableEq

namespace ClientTimingStatsCalculator

def entityUpdatePacketLossWindow : Nat := 64

theorem and_pred_lt {value : BitVec 64} (h : value ≠ 0) : (value &&& (value - 1)).toNat < value.toNat := by
  have hpos : 0 < value.toNat := Nat.pos_of_ne_zero fun hzero => h (BitVec.eq_of_toNat_eq hzero)
  have hpred : (value - 1).toNat = value.toNat - 1 := by
    have hone : (1 : BitVec 64) ≤ value := BitVec.le_def.mpr hpos
    rw [BitVec.toNat_sub_of_le hone]
    rfl
  rw [BitVec.toNat_and, hpred]
  exact Nat.lt_of_le_of_lt Nat.and_le_right (Nat.sub_lt hpos Nat.one_pos)

def countBits (value : BitVec 64) : Nat :=
  if h : value = 0 then 0 else countBits (value &&& (value - 1)) + 1
termination_by value.toNat
decreasing_by exact and_pred_lt h

def packetIdForwardDistance (start finish maxPacketId : Nat) : Nat :=
  if finish ≥ start then finish - start else maxPacketId - start + finish

def packetIdWindowSize (maxPacketId : Nat) : Nat :=
  if maxPacketId ≤ 1 then 1 else min entityUpdatePacketLossWindow (maxPacketId / 2)

def lowBitMask (bitCount : Nat) : BitVec 64 :=
  if bitCount ≥ 64 then BitVec.allOnes 64 else ((1 : BitVec 64) <<< bitCount) - 1

def new (maxPendingPacketAcksPerClient : Nat) : ClientTimingStatsCalculator :=
  { maxPacketId := packetIdMask (packetIdBitsForMaxPending maxPendingPacketAcksPerClient) }

section

variable (calculator : ClientTimingStatsCalculator) (forwardDistance : Nat)

def newSpan : Nat :=
  min (packetIdWindowSize calculator.maxPacketId) (calculator.entityUpdatePacketWindowSpan + forwardDistance)

def finalizedCount : Nat :=
  calculator.entityUpdatePacketWindowSpan + forwardDistance - calculator.newSpan forwardDistance

def finalizedReceived : Nat :=
  if forwardDistance < 64 then
    let retainedOldCount :=
      if calculator.newSpan forwardDistance > forwardDistance
      then calculator.newSpan forwardDistance - forwardDistance else 0
    countBits (calculator.entityUpdatePacketWindowMask &&& ~~~lowBitMask retainedOldCount)
  else countBits calculator.entityUpdatePacketWindowMask

/-- The window moved on to a packet ahead of it; the difference of the counts is one of `uint32_t`. -/
def moveWindow (packetId : Nat) : ClientTimingStatsCalculator :=
  { calculator with
    serverUpdatePacketsMissing :=
      if calculator.finalizedCount forwardDistance ≠ 0 then
        calculator.serverUpdatePacketsMissing +
          (calculator.finalizedCount forwardDistance + 2 ^ 32 - calculator.finalizedReceived forwardDistance) % 2 ^ 32
      else calculator.serverUpdatePacketsMissing
    entityUpdatePacketWindowMask :=
      ((if forwardDistance ≥ 64 then 0 else calculator.entityUpdatePacketWindowMask <<< forwardDistance) ||| 1) &&&
        lowBitMask (packetIdWindowSize calculator.maxPacketId)
    entityUpdatePacketWindowSpan := calculator.newSpan forwardDistance
    highestEntityUpdatePacketId := packetId }

end

def markReceived (calculator : ClientTimingStatsCalculator) (backwardDistance : Nat) : ClientTimingStatsCalculator :=
  { calculator with
    serverUpdatePacketsReorderedOrDuplicate := calculator.serverUpdatePacketsReorderedOrDuplicate + 1
    entityUpdatePacketWindowMask :=
      if backwardDistance < calculator.entityUpdatePacketWindowSpan && backwardDistance < 64 then
        calculator.entityUpdatePacketWindowMask ||| ((1 : BitVec 64) <<< backwardDistance)
      else calculator.entityUpdatePacketWindowMask }

/-- Whether a packet is ahead of the newest one, by the distances around the ids. -/
def isAhead (calculator : ClientTimingStatsCalculator) (packetId : Nat) : Bool :=
  let forwardDistance :=
    packetIdForwardDistance calculator.highestEntityUpdatePacketId packetId calculator.maxPacketId
  let backwardDistance :=
    packetIdForwardDistance packetId calculator.highestEntityUpdatePacketId calculator.maxPacketId
  forwardDistance != 0 && decide (forwardDistance ≤ backwardDistance)

/-- `record_entity_update_packet` -/
def recordEntityUpdatePacket (calculator : ClientTimingStatsCalculator) (packetId : Nat) :
    ClientTimingStatsCalculator :=
  if packetId = 0 || packetId > calculator.maxPacketId then calculator
  else
    let calculator := { calculator with serverUpdatePacketsReceived := calculator.serverUpdatePacketsReceived + 1 }
    if !calculator.hasEntityUpdatePacketWindow then
      { calculator with
        highestEntityUpdatePacketId := packetId
        entityUpdatePacketWindowMask := 1
        entityUpdatePacketWindowSpan := 1
        hasEntityUpdatePacketWindow := true }
    else if calculator.isAhead packetId then
      calculator.moveWindow
        (packetIdForwardDistance calculator.highestEntityUpdatePacketId packetId calculator.maxPacketId) packetId
    else
      calculator.markReceived
        (packetIdForwardDistance packetId calculator.highestEntityUpdatePacketId calculator.maxPacketId)

def record (maxPendingPacketAcksPerClient : Nat) (packetIds : List Nat) : ClientTimingStatsCalculator :=
  packetIds.foldl recordEntityUpdatePacket (new maxPendingPacketAcksPerClient)

end ClientTimingStatsCalculator

/-! ## The ids of the packets sent -/

/-- The id of the `n`th packet sent by an allocator whose next id is `nextPacketId`. -/
def sentPacketId (maxPacketId nextPacketId n : Nat) : Nat :=
  (allocateId maxPacketId ((fun next => (allocateId maxPacketId next).2)^[n] nextPacketId)).1

end AshiatoSync
