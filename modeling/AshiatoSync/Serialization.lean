import AshiatoSync.Protocol
import AshiatoSync.Lib.BitCodec

/-!
# Integer codecs

`serialization.hpp` and the integers of `delta.hpp`: an integer in the range of a
config, with a selector in front where a config has several ranges.  Each codec
has a writer, a bit count and readers that answer no or throw; what a reader
leaves in the buffer is part of its result, also when it fails.
-/

namespace AshiatoSync

/-! ## Buffers -/

abbrev BufferRead (ε α : Type) := Bits → Except ε α × Bits

def BufferRead.bind {ε α β : Type} (read : BufferRead ε α) (next : α → BufferRead ε β) : BufferRead ε β :=
  fun input =>
  match read input with
  | (.error e, rest) => (.error e, rest)
  | (.ok a, rest) => next a rest

/-- `read_unsigned_bits`, on a buffer that has them. -/
def readUnsignedBits (n : Nat) (input : Bits) : Nat × Bits := (BitCodec.ofBits (input.take n), input.drop n)

/-- `read_bool` behind a check that fails with `error`. -/
def readSelector {ε : Type} (error : ε) : BufferRead ε Bool := fun input =>
  if input.length < 1 then (.error error, input) else (.ok (input.headD false), input.tail)

namespace BitReader

/-- `BitReader::read_bits` into a `bool`. -/
def readBool (bits : Nat) : BufferRead Unit Bool := fun input =>
  if bits ≠ 1 ∨ input.length < 1 then (.error (), input) else (.ok (input.headD false), input.tail)

/-- `BitReader::read_bits` into a `uint64_t`. -/
def readBits (bits : Nat) : BufferRead Unit UInt64 := fun input =>
  if bits > 64 ∨ input.length < bits then (.error (), input)
  else (.ok (if bits = 0 then 0 else UInt64.ofNat (readUnsignedBits bits input).1), (readUnsignedBits bits input).2)

end BitReader

/-! ## Quantized integers -/

structure QuantizedIntConfig where
  min : Int64 := 0
  max : Int64 := 1
  valid : min ≤ max := by decide

/-- `bits_for_max_value` -/
def bitsForMaxValue (maxValue : Nat) : Nat :=
  if maxValue / 2 = 0 then 1 else bitsForMaxValue (maxValue / 2) + 1

def orderedInt (value : Int64) : UInt64 := value.toUInt64 ^^^ ((1 : UInt64) <<< 63)

def signedFromOrdered (value : UInt64) : Int64 := (value ^^^ ((1 : UInt64) <<< 63)).toInt64

def quantizedIntMaxOffset (config : QuantizedIntConfig) : UInt64 := orderedInt config.max - orderedInt config.min

def quantizedIntBits (config : QuantizedIntConfig) : Nat := bitsForMaxValue (quantizedIntMaxOffset config).toNat

/-- The value `quantize_int` stands for. -/
def QuantizedIntConfig.clamp (config : QuantizedIntConfig) (value : Int64) : Int64 :=
  Min.min (Max.max value config.min) config.max

def quantizeInt (value : Int64) (config : QuantizedIntConfig) : UInt64 :=
  orderedInt (config.clamp value) - orderedInt config.min

def dequantizeInt (quantized : UInt64) (config : QuantizedIntConfig) : Int64 :=
  let maxOffset := quantizedIntMaxOffset config
  let clamped := if quantized > maxOffset then maxOffset else quantized
  signedFromOrdered (orderedInt config.min + clamped)

def serializeQuantizedInt (value : Int64) (config : QuantizedIntConfig) : Bits :=
  unsignedBits (quantizeInt value config).toNat (quantizedIntBits config)

def readQuantizedIntOr {ε : Type} (error : ε) (config : QuantizedIntConfig) : BufferRead ε Int64 := fun input =>
  let bits := quantizedIntBits config
  if input.length < bits then (.error error, input)
  else (.ok (dequantizeInt (UInt64.ofNat (readUnsignedBits bits input).1) config), (readUnsignedBits bits input).2)

def readQuantizedInt : QuantizedIntConfig → BufferRead Unit Int64 := readQuantizedIntOr ()

def deserializeQuantizedInt : QuantizedIntConfig → BufferRead String Int64 :=
  readQuantizedIntOr "truncated quantized integer"

/-- `read_quantized_int` from a `BitReader` -/
def BitReader.readQuantizedInt (config : QuantizedIntConfig) : BufferRead Unit Int64 :=
  (BitReader.readBits (quantizedIntBits config)).bind
    fun quantized input => (.ok (dequantizeInt quantized config), input)

/-! ## Two ranges -/

def inRange (value : Int64) (config : QuantizedIntConfig) : Bool :=
  decide (value ≥ config.min) && decide (value ≤ config.max)

structure VariableQuantizedIntConfig where
  shortRange : QuantizedIntConfig
  longRange : QuantizedIntConfig
  valid : longRange.min ≤ shortRange.min ∧ shortRange.max ≤ longRange.max := by decide

structure VarInt2Config where
  shortRange : QuantizedIntConfig
  fullRange : QuantizedIntConfig
  valid : fullRange.min ≤ shortRange.min ∧ shortRange.max ≤ fullRange.max := by decide

def twoRangeBits (value : Int64) (short wide : QuantizedIntConfig) : Nat :=
  1 + if inRange value short then quantizedIntBits short else quantizedIntBits wide

def serializeTwoRange (value : Int64) (short wide : QuantizedIntConfig) : Bits :=
  let usesWide := !inRange value short
  usesWide :: serializeQuantizedInt value (if usesWide then wide else short)

def readTwoRange {ε : Type} (selector : BufferRead ε Bool) (readInt : QuantizedIntConfig → BufferRead ε Int64)
    (short wide : QuantizedIntConfig) : BufferRead ε Int64 :=
  selector.bind fun usesWide => readInt (if usesWide then wide else short)

def variableQuantizedIntBits (value : Int64) (config : VariableQuantizedIntConfig) : Nat :=
  twoRangeBits value config.shortRange config.longRange

def serializeVariableQuantizedInt (value : Int64) (config : VariableQuantizedIntConfig) : Bits :=
  serializeTwoRange value config.shortRange config.longRange

def readVariableQuantizedInt (config : VariableQuantizedIntConfig) : BufferRead Unit Int64 :=
  readTwoRange (readSelector ()) readQuantizedInt config.shortRange config.longRange

def deserializeVariableQuantizedInt (config : VariableQuantizedIntConfig) : BufferRead String Int64 :=
  readTwoRange (readSelector "truncated variable quantized integer selector") deserializeQuantizedInt config.shortRange
    config.longRange

def varint2Bits (value : Int64) (config : VarInt2Config) : Nat := twoRangeBits value config.shortRange config.fullRange

def serializeVarint2 (value : Int64) (config : VarInt2Config) : Bits :=
  serializeTwoRange value config.shortRange config.fullRange

def readVarint2 (config : VarInt2Config) : BufferRead Unit Int64 :=
  readTwoRange (readSelector ()) readQuantizedInt config.shortRange config.fullRange

/-- `read_varint2` from a `BitReader` -/
def BitReader.readVarint2 (config : VarInt2Config) : BufferRead Unit Int64 :=
  readTwoRange (BitReader.readBool 1) BitReader.readQuantizedInt config.shortRange config.fullRange

def deserializeVarint2 (config : VarInt2Config) : BufferRead String Int64 :=
  readTwoRange (readSelector "truncated varint2 selector") deserializeQuantizedInt config.shortRange config.fullRange

/-! ## Three ranges -/

structure VarInt3Config where
  shortRange : QuantizedIntConfig
  mediumRange : QuantizedIntConfig
  fullRange : QuantizedIntConfig
  valid : mediumRange.min ≤ shortRange.min ∧ shortRange.max ≤ mediumRange.max ∧
    fullRange.min ≤ mediumRange.min ∧
    mediumRange.max ≤ fullRange.max := by decide

def varint3Bits (value : Int64) (config : VarInt3Config) : Nat :=
  if inRange value config.shortRange then 1 + quantizedIntBits config.shortRange
  else if inRange value config.mediumRange then 2 + quantizedIntBits config.mediumRange
  else 2 + quantizedIntBits config.fullRange

def serializeVarint3 (value : Int64) (config : VarInt3Config) : Bits :=
  if inRange value config.shortRange then false :: serializeQuantizedInt value config.shortRange
  else
    let usesFull := !inRange value config.mediumRange
    true :: usesFull :: serializeQuantizedInt value (if usesFull then config.fullRange else config.mediumRange)

def readThreeRange {ε : Type} (selector : BufferRead ε Bool) (readInt : QuantizedIntConfig → BufferRead ε Int64)
    (config : VarInt3Config) : BufferRead ε Int64 :=
  selector.bind fun usesWide =>
    if !usesWide then readInt config.shortRange
    else selector.bind fun usesFull => readInt (if usesFull then config.fullRange else config.mediumRange)

def readVarint3 : VarInt3Config → BufferRead Unit Int64 := readThreeRange (readSelector ()) readQuantizedInt

/-- `read_varint3` from a `BitReader` -/
def BitReader.readVarint3 : VarInt3Config → BufferRead Unit Int64 :=
  readThreeRange (BitReader.readBool 1) BitReader.readQuantizedInt

def deserializeVarint3 : VarInt3Config → BufferRead String Int64 :=
  readThreeRange (readSelector "truncated varint3 selector") deserializeQuantizedInt

/-! ## Zero as one bit -/

def orZeroBits (value : Int64) (bits : Nat) : Nat := if value = 0 then 1 else 1 + bits

def serializeOrZero (value : Int64) (serialized : Bits) : Bits :=
  let hasValue := decide (value ≠ 0)
  hasValue :: if hasValue then serialized else []

def readOrZero {ε : Type} (selector : BufferRead ε Bool) (read : BufferRead ε Int64) : BufferRead ε Int64 :=
  selector.bind fun hasValue input => if !hasValue then (.ok 0, input) else read input

def varint2OrZeroBits (value : Int64) (config : VarInt2Config) : Nat := orZeroBits value (varint2Bits value config)

def serializeVarint2OrZero (value : Int64) (config : VarInt2Config) : Bits :=
  serializeOrZero value (serializeVarint2 value config)

def readVarint2OrZero (config : VarInt2Config) : BufferRead Unit Int64 :=
  readOrZero (readSelector ()) (readVarint2 config)

def deserializeVarint2OrZero (config : VarInt2Config) : BufferRead String Int64 :=
  readOrZero (readSelector "truncated varint2_or_zero selector") (deserializeVarint2 config)

def varint3OrZeroBits (value : Int64) (config : VarInt3Config) : Nat := orZeroBits value (varint3Bits value config)

def serializeVarint3OrZero (value : Int64) (config : VarInt3Config) : Bits :=
  serializeOrZero value (serializeVarint3 value config)

def readVarint3OrZero (config : VarInt3Config) : BufferRead Unit Int64 :=
  readOrZero (readSelector ()) (readVarint3 config)

def deserializeVarint3OrZero (config : VarInt3Config) : BufferRead String Int64 :=
  readOrZero (readSelector "truncated varint3_or_zero selector") (deserializeVarint3 config)

/-! ## Other names -/

abbrev VarIntConfig := QuantizedIntConfig
abbrev VariableVarIntConfig := VarInt2Config

def varintBits : VarIntConfig → Nat := quantizedIntBits
def serializeVarint : Int64 → VarIntConfig → Bits := serializeQuantizedInt
def readVarint : VarIntConfig → BufferRead Unit Int64 := readQuantizedInt
def deserializeVarint : VarIntConfig → BufferRead String Int64 := deserializeQuantizedInt

def variableVarintBits : Int64 → VariableVarIntConfig → Nat := varint2Bits
def serializeVariableVarint : Int64 → VariableVarIntConfig → Bits := serializeVarint2
def readVariableVarint : VariableVarIntConfig → BufferRead Unit Int64 := readVarint2
def deserializeVariableVarint : VariableVarIntConfig → BufferRead String Int64 := deserializeVarint2

/-! ## Deltas -/

def zigzagEncode (value : Int64) : UInt64 := (value.toUInt64 <<< 1) ^^^ (value >>> 63).toUInt64

def zigzagDecode (value : UInt64) : Int64 := ((value >>> 1) ^^^ (~~~(value &&& 1) + 1)).toInt64

/-- `write_delta_int`, for bits it does not refuse.  The difference wraps here. -/
def writeDeltaInt (previous current : Int64) (bits : Nat) : Bits :=
  let changed := decide (previous ≠ current)
  changed :: if changed then unsignedBits (zigzagEncode (current - previous)).toNat bits else []

/-- `read_delta_int`, for bits it does not refuse. -/
def readDeltaInt (previous : Int64) (bits : Nat) : BufferRead Unit Int64 :=
  (readSelector ()).bind fun changed input =>
    if !changed then (.ok previous, input)
    else if input.length < bits then (.error (), input)
    else (.ok (previous + zigzagDecode (UInt64.ofNat (readUnsignedBits bits input).1)), (readUnsignedBits bits input).2)

end AshiatoSync
