import AshiatoSync.Protocol
import AshiatoSync.Lib.BitCodec

/-!
# Input buffers

The client records its input per frame in a ring and sends the unacknowledged
frames, the first one relative to the last acknowledged frame when it can.  The
server decodes them against the frame it has stored.  The input component is
fixed, so `has_ops_` is `has_latest_` and the payload stride is the quantized size
from the first `ensure_capacity` on.
-/

namespace AshiatoSync

open BitCodec

def ackCountBits : Nat := 5
def maxAckCount : Nat := 2 ^ ackCountBits - 1
def inputCountBits : Nat := 5
def maxInputCount : Nat := 2 ^ inputCountBits - 1

/-- The serializer of the input component, which is called without reference callbacks. -/
structure InputOps where
  quantizedSize : Nat
  quantize : Bytes → Bytes
  serialize : Option Bytes → Bytes → SerializationContext → Bits
  deserialize : Option Bytes → SerializationContext → Reader Bytes
  /-- `set_latest` refuses a component without quantized bytes. -/
  sized : 0 < quantizedSize

structure InputFrameSlot where
  frame : SyncFrame := 0
  valid : Bool := false
  bytes : Bytes := []
  deriving DecidableEq, Repr

/-- A ring of recorded frames, with `slot_for`. -/
abbrev InputRing := List InputFrameSlot

namespace InputRing

def slotFor (ring : InputRing) (frame : SyncFrame) : Nat := frame &&& (ring.length - 1)

def find? (ring : InputRing) (frame : SyncFrame) : Option Bytes :=
  match ring[ring.slotFor frame]? with
  | some slot => if slot.valid && slot.frame == frame then some slot.bytes else none
  | none => none

def record (ring : InputRing) (frame : SyncFrame) (bytes : Bytes) : InputRing :=
  ring.set (ring.slotFor frame) { frame, valid := true, bytes }

end InputRing

def bufferOf (size : Nat) (bytes : Bytes) : Bytes := bytes.take size ++ List.replicate (size - bytes.length) 0

def precedingFrame (frame : SyncFrame) : SyncFrame := (frame + (2 ^ 32 - 1)) % 2 ^ 32

def inputContext (frame : SyncFrame) (previous : Option Bytes) : SerializationContext :=
  { currentFrame := frame, previousFrame := if previous.isSome then precedingFrame frame else 0 }

/-! ## The client -/

theorem unset_noFrames : false = false → ([] : InputRing) = [] := fun _ => rfl

/-- `payloadStrideSet`: whether `frames_.payload_stride()` is the quantized size; it is 0 until the ring is made. -/
structure ClientInputBuffer where
  frames : InputRing := []
  payloadStrideSet : Bool := false
  latest : Bytes := []
  ackedBaseline : Bytes := []
  lastRecordedFrame : SyncFrame := 0
  ackedFrame : SyncFrame := 0
  retiredTransmitFrame : SyncFrame := 0
  hasLatest : Bool := false
  hasAckedBaseline : Bool := true
  historyDiscontinuous : Bool := false
  unset : payloadStrideSet = false → frames = [] := by exact unset_noFrames

structure InputPacket where
  payload : Bits
  baselineFrame : SyncFrame
  previous : Option Bytes
  inputs : List (SyncFrame × Bytes)
  deriving DecidableEq, Repr

namespace ClientInputBuffer

variable (ops : InputOps)

/-- The reset of `set_latest`. -/
def resetFrames (buffer : ClientInputBuffer) : ClientInputBuffer :=
  { buffer with
    frames := []
    payloadStrideSet := false
    lastRecordedFrame := 0
    ackedFrame := 0
    retiredTransmitFrame := 0
    historyDiscontinuous := false
    unset := fun _ => rfl }

/-- `set_latest`.  A buffer that already has its component is reset while its ring has no payload stride. -/
def setLatest (input : Bytes) (buffer : ClientInputBuffer) : ClientInputBuffer :=
  let buffer := if buffer.hasLatest && !buffer.payloadStrideSet then buffer.resetFrames else buffer
  { buffer with
    latest := bufferOf ops.quantizedSize (ops.quantize input)
    ackedBaseline :=
      if buffer.ackedBaseline.length ≠ ops.quantizedSize then List.replicate ops.quantizedSize 0
      else buffer.ackedBaseline
    hasAckedBaseline := true
    hasLatest := true }

def ensureCapacity (capacityFrames : Nat) (buffer : ClientInputBuffer) : ClientInputBuffer :=
  if buffer.frames.isEmpty then
    { buffer with
      frames := List.replicate capacityFrames {}
      payloadStrideSet := true
      unset := fun h => nomatch h }
  else buffer

/-- The slot write of `record_frame` and `fill_frames_through`. -/
def storeLatest (frame : SyncFrame) (buffer : ClientInputBuffer) : ClientInputBuffer :=
  let replaced := match buffer.frames[buffer.frames.slotFor frame]? with
    | some stored => stored.valid && stored.frame != frame && decide (stored.frame > buffer.ackedFrame)
    | none => false
  { buffer with
    historyDiscontinuous := buffer.historyDiscontinuous || replaced
    frames := buffer.frames.record frame buffer.latest
    lastRecordedFrame := max buffer.lastRecordedFrame frame
    unset := fun h => by rw [buffer.unset h]; rfl }

def recordFrame (capacityFrames : Nat) (frame : SyncFrame) (buffer : ClientInputBuffer) : ClientInputBuffer :=
  if !buffer.hasLatest then buffer
  else if frame ≤ buffer.ackedFrame then buffer
  else
    let buffer := buffer.ensureCapacity capacityFrames
    if buffer.frames.isEmpty then buffer else buffer.storeLatest frame

/-- One round of the loop of `fill_frames_through`. -/
def fillFrame (buffer : ClientInputBuffer) (current : SyncFrame) : ClientInputBuffer :=
  if (buffer.frames.find? current).isSome then
    { buffer with lastRecordedFrame := max buffer.lastRecordedFrame current }
  else buffer.storeLatest current

/-- Where `fill_frames_through` begins, with the wrap of `last_recorded_frame_ + 1U`. -/
def fillBegin (buffer : ClientInputBuffer) : SyncFrame :=
  max ((buffer.ackedFrame + 1) % 2 ^ 32) ((buffer.lastRecordedFrame + 1) % 2 ^ 32)

def fillFramesThrough (capacityFrames : Nat) (frame : SyncFrame) (buffer : ClientInputBuffer) : ClientInputBuffer :=
  if !buffer.hasLatest || decide (frame ≤ buffer.ackedFrame) then buffer
  else
    let buffer := buffer.ensureCapacity capacityFrames
    if buffer.frames.isEmpty then buffer
    else
      let first := buffer.fillBegin
      ((List.range (frame + 1 - first)).map (first + ·)).foldl fillFrame buffer

def acknowledgeFrame (frame : SyncFrame) (buffer : ClientInputBuffer) : ClientInputBuffer :=
  if frame ≤ buffer.ackedFrame ∨ frame > buffer.lastRecordedFrame then buffer
  else
    let found := buffer.frames.find? frame
    { buffer with
      ackedBaseline := found.getD buffer.ackedBaseline
      hasAckedBaseline := frame == 0 || found.isSome
      ackedFrame := frame
      retiredTransmitFrame := max buffer.retiredTransmitFrame frame }

def retireTransmitFramesThrough (frame : SyncFrame) (buffer : ClientInputBuffer) : ClientInputBuffer :=
  { buffer with retiredTransmitFrame := max buffer.retiredTransmitFrame frame }

/-! ### Input packets -/

/-- `InputFrameRange` of `count` frames that ends at `last`; the empty range starts at 0. -/
def rangeFirst (last : SyncFrame) (count : Nat) : SyncFrame := if count = 0 then 0 else last - count + 1

/-- The loop of `find_newest_contiguous_input_range`, down from `last`: how many frames are recorded. -/
def contiguousCount (ring : InputRing) : Nat → SyncFrame → Nat
  | 0, _ => 0
  | n + 1, frame => if (ring.find? frame).isSome then contiguousCount ring n (frame - 1) + 1 else 0

def findNewestContiguousInputCount (buffer : ClientInputBuffer) (transmitFloor : SyncFrame) : Nat :=
  contiguousCount buffer.frames (min (buffer.lastRecordedFrame - transmitFloor) maxInputCount)
    buffer.lastRecordedFrame

def mustEncodeFirstFrameInFull (buffer : ClientInputBuffer) (frame : SyncFrame) : Bool :=
  let baselineValid := buffer.ackedFrame == 0 || buffer.hasAckedBaseline
  buffer.historyDiscontinuous || frame != buffer.ackedFrame + 1 || !baselineValid

def firstInputFull (buffer : ClientInputBuffer) (first : SyncFrame) : Bool :=
  first != 0 && buffer.mustEncodeFirstFrameInFull first

def firstPrevious (buffer : ClientInputBuffer) (first : SyncFrame) : Option Bytes :=
  if buffer.firstInputFull first || buffer.ackedBaseline.isEmpty then none else some buffer.ackedBaseline

/-- `serialize_varint2_raw` of the first frame, then the header of `write_input_attempt` around the count. -/
def inputHeader (buffer : ClientInputBuffer) (first : SyncFrame) (count : Nat) : Bits :=
  bits buffer.ackedFrame 32 ++
    (buffer.firstInputFull first :: bits (if buffer.firstInputFull first then first else 0)
      (if buffer.firstInputFull first then 32 else 0)) ++
    bits count inputCountBits

/-- The loop of `write_input_attempt`: the frames that fit, with their bits. -/
def writeFrames (mtuBytes : Nat) (ring : InputRing) :
    Nat → SyncFrame → Option Bytes → Nat → List (SyncFrame × Bytes × Bits)
  | 0, _, _, _ => []
  | n + 1, frame, previous, bitSize =>
    match ring.find? frame with
    | none => []
    | some bytes =>
      let frameBits := ops.serialize previous bytes (inputContext frame previous)
      if bytesForBits (bitSize + frameBits.length) > mtuBytes then []
      else
        (frame, bytes, frameBits) ::
          writeFrames mtuBytes ring n (frame + 1) (some bytes) (bitSize + frameBits.length)

def writeInputAttempt (buffer : ClientInputBuffer) (mtuBytes offset : Nat) (last : SyncFrame) (count : Nat) :
    List (SyncFrame × Bytes × Bits) :=
  let first := rangeFirst last count
  writeFrames ops mtuBytes buffer.frames count first (buffer.firstPrevious first)
    (offset + (buffer.inputHeader first 0).length)

/-- `append_newest_input_suffix`: the range and what was written of it.  An attempt that does not reach the last frame
writes fewer frames than its range, so the fuel, one more than the desired count, is enough. -/
def appendNewestInputSuffix (buffer : ClientInputBuffer) (mtuBytes offset : Nat) (last : SyncFrame) :
    Nat → Nat → Nat × List (SyncFrame × Bytes × Bits)
  | 0, count => (count, [])
  | fuel + 1, count =>
    let result := writeInputAttempt ops buffer mtuBytes offset last count
    if result.isEmpty || result.getLast?.any (fun written => written.1 == last) then (count, result)
    else appendNewestInputSuffix buffer mtuBytes offset last fuel result.length

/-- `append_acks`: how many of the pending acks the packet carries. -/
def appendAcks (mtuBytes packetIdBits firstFrameBits : Nat) : Nat → Nat → Nat
  | 0, _ => 0
  | pending + 1, bitSize =>
    let bitSize := bitSize + packetIdBits
    if bytesForBits (bitSize + 32 + firstFrameBits) > mtuBytes then 0
    else appendAcks mtuBytes packetIdBits firstFrameBits pending bitSize + 1

def fixedHeaderBits : Nat := messageBits + ackCountBits + 32 + 1 + inputCountBits

/-- `append_input_packet`, with its packet when there is one. -/
def appendInputPacket (mtuBytes packetIdBits pendingAcks : Nat) (buffer : ClientInputBuffer) :
    ClientInputBuffer × Option InputPacket :=
  let transmitFloor := max buffer.ackedFrame buffer.retiredTransmitFrame
  if !buffer.hasLatest || !decide (buffer.lastRecordedFrame > transmitFloor) ||
      decide (mtuBytes * 8 < fixedHeaderBits) then (buffer, none)
  else
    let last := buffer.lastRecordedFrame
    let desired := buffer.findNewestContiguousInputCount transmitFloor
    let first := rangeFirst last desired
    let firstBits := match buffer.frames.find? first with
      | some bytes =>
        if first = 0 then 0
        else (ops.serialize (buffer.firstPrevious first) bytes (inputContext first (buffer.firstPrevious first))).length
      | none => 0
    let firstFrameBits := 1 + (if buffer.firstInputFull first then 32 else 0) + inputCountBits + firstBits
    let maxAcks := min maxAckCount ((mtuBytes * 8 - fixedHeaderBits) / packetIdBits)
    let ackCount := appendAcks mtuBytes packetIdBits firstFrameBits (min maxAcks pendingAcks)
      (messageBits + ackCountBits)
    let offset := messageBits + ackCountBits + ackCount * packetIdBits
    let (count, written) := appendNewestInputSuffix ops buffer mtuBytes offset last (desired + 1) desired
    let first := rangeFirst last count
    if ackCount = 0 ∧ written = [] then (buffer, none)
    else
      ({ buffer with historyDiscontinuous := if written.isEmpty then buffer.historyDiscontinuous else false },
        some
          { payload := buffer.inputHeader first written.length ++ written.flatMap fun w => w.2.2
            baselineFrame := buffer.ackedFrame
            previous := buffer.firstPrevious first
            inputs := written.map fun w => (w.1, w.2.1) })

end ClientInputBuffer

/-! ## The server -/

structure ServerInputStats where
  inputFramesApplied : Nat := 0
  inputStarvationFrames : Nat := 0
  inputReusedFrames : Nat := 0
  latestReceivedInputFrame : SyncFrame := 0
  latestAppliedInputFrame : SyncFrame := 0
  deriving DecidableEq, Repr

structure ServerInputBuffer where
  inputFrames : InputRing := []
  latestInput : Bytes := []
  latestAppliedInput : Bytes := []
  inputAckFrame : SyncFrame := 0
  latestAppliedInputFrame : SyncFrame := 0
  hasLatestInput : Bool := false
  hasLatestAppliedInput : Bool := false
  stats : ServerInputStats := {}
  deriving DecidableEq, Repr

structure ServerInputForFrame where
  bytes : Option Bytes
  inputFrame : SyncFrame
  deriving DecidableEq, Repr

namespace ServerInputBuffer

variable (ops : InputOps)

def ensureCapacity (capacityFrames : Nat) (buffer : ServerInputBuffer) : ServerInputBuffer :=
  if buffer.inputFrames.isEmpty then { buffer with inputFrames := List.replicate capacityFrames {} } else buffer

def raiseAckFrame (frame : SyncFrame) (buffer : ServerInputBuffer) : ServerInputBuffer :=
  if frame > buffer.inputAckFrame then { buffer with inputAckFrame := frame } else buffer

def storeFrame (frame : SyncFrame) (decoded : Bytes) (buffer : ServerInputBuffer) : ServerInputBuffer :=
  if frame > buffer.inputAckFrame then
    { buffer with
      inputFrames := buffer.inputFrames.record frame decoded
      latestInput := decoded
      inputAckFrame := frame
      hasLatestInput := true
      stats := { buffer.stats with latestReceivedInputFrame := frame } }
  else buffer

/-- The decode loop of `process_packet_payload`, with every frame it decodes. -/
def decodeInputs (firstInputFrame : SyncFrame) (firstInputFull : Bool) :
    Nat → Nat → Bytes → Bits → ServerInputBuffer → ServerInputBuffer × List (SyncFrame × Bytes)
  | 0, _, _, _, buffer => (buffer, [])
  | n + 1, index, previous, stream, buffer =>
    let frame := (firstInputFrame + index) % 2 ^ 32
    let previousBytes := if index == 0 && firstInputFull then none else some previous
    match ops.deserialize previousBytes (inputContext frame previousBytes) stream with
    | none => (buffer, [])
    | some (decoded, rest) =>
      if rest.length = stream.length then (buffer, [])
      else
        let (buffer, log) :=
          decodeInputs firstInputFrame firstInputFull n (index + 1) decoded rest (buffer.storeFrame frame decoded)
        (buffer, (frame, decoded) :: log)

structure InputHeader where
  baselineFrame : SyncFrame
  firstInputFull : Bool
  firstInputValue : SyncFrame
  inputCount : Nat
  deriving DecidableEq, Repr

def readHeader : Reader InputHeader := do
  let baselineFrame ← readBits 32
  let firstInputFull ← readBit
  let firstInputValue ← readBits (if firstInputFull then 32 else 0)
  let inputCount ← readBits inputCountBits
  pure { baselineFrame, firstInputFull, firstInputValue, inputCount }

/-- The baseline of a relative first frame: the stored frame, or the latest one when it is that frame. -/
def findBaseline (baselineFrame : SyncFrame) (buffer : ServerInputBuffer) : Option Bytes :=
  match (buffer.inputFrames.find? baselineFrame).filter fun bytes => bytes.length == ops.quantizedSize with
  | some bytes => some bytes
  | none =>
    if buffer.hasLatestInput && baselineFrame == buffer.inputAckFrame &&
        buffer.latestInput.length == ops.quantizedSize then some buffer.latestInput
    else none

def processPacketPayload (capacityFrames : Nat) (packet : Bits) (buffer : ServerInputBuffer) :
    ServerInputBuffer × List (SyncFrame × Bytes) :=
  match readHeader packet with
  | none => (buffer, [])
  | some (header, stream) =>
    if header.inputCount > maxInputCount then (buffer, [])
    else
      let firstInputFrame :=
        if header.firstInputFull then header.firstInputValue else (header.baselineFrame + 1) % 2 ^ 32
      let buffer := buffer.raiseAckFrame header.baselineFrame
      let previous :=
        if header.baselineFrame != 0 && !header.firstInputFull then findBaseline ops header.baselineFrame buffer
        else some (List.replicate ops.quantizedSize 0)
      match previous with
      | none => (buffer, [])
      | some previous =>
        if firstInputFrame = 0 ∨ header.inputCount = 0 then (buffer, [])
        else
          decodeInputs ops firstInputFrame header.firstInputFull header.inputCount 0 previous stream
            (buffer.ensureCapacity capacityFrames)

/-- `set_local_frame` of the `bytes` of a vector; the flag is what it returns. -/
def setLocalFrame (capacityFrames : Nat) (frame : SyncFrame) (bytes : Bytes) (buffer : ServerInputBuffer) :
    ServerInputBuffer × Bool :=
  if frame = 0 ∨ bytes = [] ∨ capacityFrames = 0 then (buffer, false)
  else
    let buffer := buffer.ensureCapacity capacityFrames
    ({ buffer with
        inputFrames := buffer.inputFrames.record frame bytes
        latestInput := bytes
        inputAckFrame := max buffer.inputAckFrame frame
        hasLatestInput := true
        stats :=
          { buffer.stats with latestReceivedInputFrame := max buffer.stats.latestReceivedInputFrame frame } },
      true)

/-! ### The input of a frame -/

/-- The stored bytes `select_input_for_frame` accepts. -/
def inputAt (quantizedSize : Nat) (frame : SyncFrame) (buffer : ServerInputBuffer) : Option Bytes :=
  (buffer.inputFrames.find? frame).filter fun bytes => bytes.length == quantizedSize

/-- The loop of `select_input_for_frame`.  Its bound is inclusive and its counter wraps, so it is given fuel. -/
def selectLoop (quantizedSize : Nat) (dueFrame : SyncFrame) (buffer : ServerInputBuffer) :
    Nat → SyncFrame → Option (SyncFrame × Bytes) → Option (Option (SyncFrame × Bytes))
  | 0, _, _ => none
  | fuel + 1, frame, best =>
    if frame ≤ dueFrame then
      selectLoop quantizedSize dueFrame buffer fuel ((frame + 1) % 2 ^ 32)
        (match buffer.inputAt quantizedSize frame with
          | some bytes => some (frame, bytes)
          | none => best)
    else some best

/-- Where the loop begins: behind the latest applied frame, in the window of the ring. -/
def selectBegin (dueFrame : SyncFrame) (buffer : ServerInputBuffer) : SyncFrame :=
  let capacityWindowBegin :=
    if dueFrame > buffer.inputFrames.length then dueFrame - buffer.inputFrames.length + 1 else 1
  max ((buffer.latestAppliedInputFrame + 1) % 2 ^ 32) capacityWindowBegin

def selectBest (quantizedSize : Nat) (dueFrame : SyncFrame) (fuel : Nat) (buffer : ServerInputBuffer) :
    Option (Option (SyncFrame × Bytes)) :=
  if buffer.inputFrames.isEmpty then some none
  else selectLoop quantizedSize dueFrame buffer fuel (buffer.selectBegin dueFrame) none

def applyInput (dueFrame bestFrame : SyncFrame) (bestBytes : Bytes) (buffer : ServerInputBuffer) :
    ServerInputBuffer × ServerInputForFrame :=
  ({ buffer with
      latestAppliedInput := bestBytes
      latestAppliedInputFrame := bestFrame
      hasLatestAppliedInput := true
      stats :=
        { buffer.stats with
          latestAppliedInputFrame := bestFrame
          inputFramesApplied := buffer.stats.inputFramesApplied + 1
          inputStarvationFrames := buffer.stats.inputStarvationFrames + if bestFrame < dueFrame then 1 else 0 } },
    { bytes := some bestBytes, inputFrame := bestFrame })

def reuseInput (quantizedSize : Nat) (buffer : ServerInputBuffer) : ServerInputBuffer × ServerInputForFrame :=
  if buffer.hasLatestAppliedInput && buffer.latestAppliedInput.length == quantizedSize then
    ({ buffer with
        stats :=
          { buffer.stats with
            inputStarvationFrames := buffer.stats.inputStarvationFrames + 1
            inputReusedFrames := buffer.stats.inputReusedFrames + 1 } },
      { bytes := some buffer.latestAppliedInput, inputFrame := buffer.latestAppliedInputFrame })
  else
    ({ buffer with
        stats := { buffer.stats with inputStarvationFrames := buffer.stats.inputStarvationFrames + 1 } },
      { bytes := none, inputFrame := 0 })

/-- `select_input_for_frame`; `none` when the loop has not ended within the fuel. -/
def selectInputForFrame (quantizedSize : Nat) (dueFrame : SyncFrame) (fuel : Nat) (buffer : ServerInputBuffer) :
    Option (ServerInputBuffer × ServerInputForFrame) :=
  (buffer.selectBest quantizedSize dueFrame fuel).map fun best =>
    match best with
    | some (bestFrame, bestBytes) => buffer.applyInput dueFrame bestFrame bestBytes
    | none => buffer.reuseInput quantizedSize

end ServerInputBuffer

end AshiatoSync
