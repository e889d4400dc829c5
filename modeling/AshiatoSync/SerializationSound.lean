import AshiatoSync.Serialization

/-!
# Soundness of the integer codecs

Every reader gives back the written integer, clamped to the widest range of its
config, and consumes what the writer wrote, which is as long as the bit count
says.  On any input the readers that answer no and the ones that throw agree.
-/

namespace AshiatoSync

/-! ## Ordered integers -/

theorem xor_signBit {n : Nat} (h : n < 2 ^ 64) : n ^^^ 2 ^ 63 = if n < 2 ^ 63 then n + 2 ^ 63 else n - 2 ^ 63 := by
  have hmod := @Nat.xor_mod_two_pow n (2 ^ 63) 63
  have hdiv := @Nat.xor_div_two_pow n (2 ^ 63) 63
  rw [Nat.mod_self, Nat.xor_zero] at hmod
  rw [Nat.div_self (by decide)] at hdiv
  have hsplit := Nat.div_add_mod (n ^^^ 2 ^ 63) (2 ^ 63)
  have hn := Nat.div_add_mod n (2 ^ 63)
  rw [hmod, hdiv] at hsplit
  have hhigh : n / 2 ^ 63 = 0 ∨ n / 2 ^ 63 = 1 := by omega
  rcases hhigh with h0 | h1
  · rw [h0] at hsplit hn
    rw [if_pos (by omega), ← hsplit, show (0 : Nat) ^^^ 1 = 1 from rfl]
    omega
  · rw [h1] at hsplit hn
    rw [if_neg (by omega), ← hsplit, show (1 : Nat) ^^^ 1 = 0 from rfl]
    omega

theorem toInt_cond (v : Int64) :
    v.toInt = if v.toUInt64.toNat < 2 ^ 63 then (v.toUInt64.toNat : Int) else (v.toUInt64.toNat : Int) - 2 ^ 64 := by
  rw [← Int64.toInt_toBitVec, BitVec.toInt_eq_toNat_cond, Int64.toNat_toBitVec]
  split <;> split <;> omega

theorem orderedInt_toNat (v : Int64) : ((orderedInt v).toNat : Int) = v.toInt + 2 ^ 63 := by
  rw [orderedInt, UInt64.toNat_xor, toInt_cond]
  change ((v.toUInt64.toNat ^^^ 2 ^ 63 : Nat) : Int) = _
  rw [xor_signBit v.toUInt64.toNat_lt]
  split <;> omega

theorem signedFromOrdered_toInt (u : UInt64) : (signedFromOrdered u).toInt = (u.toNat : Int) - 2 ^ 63 := by
  have hraw : (signedFromOrdered u).toUInt64.toNat = u.toNat ^^^ 2 ^ 63 := by
    change (u ^^^ ((1 : UInt64) <<< 63)).toNat = _
    rw [UInt64.toNat_xor]
    rfl
  rw [toInt_cond, hraw, xor_signBit u.toNat_lt]
  have hlt := u.toNat_lt
  split <;> split <;> omega

/-! ## Fields -/

theorem bitsForMaxValue_spec : ∀ n : Nat, n < 2 ^ bitsForMaxValue n ∧ ∀ k, 0 < k → n < 2 ^ k →
    bitsForMaxValue n ≤ k := by
  intro n
  induction n using Nat.strongRecOn with
  | ind n ih =>
    unfold bitsForMaxValue
    split
    case isTrue hhalf => exact ⟨by omega, fun k hk _ => hk⟩
    case isFalse hhalf =>
      obtain ⟨hlt, hmin⟩ := ih (n / 2) (by omega)
      refine ⟨by omega, fun k hk hn => ?_⟩
      obtain ⟨k, rfl⟩ : ∃ j, k = j + 1 := ⟨k - 1, by omega⟩
      have hpos : 0 < k := by
        rcases Nat.eq_zero_or_pos k with rfl | hpos
        · omega
        · exact hpos
      exact Nat.succ_le_succ (hmin k hpos (by omega))

theorem length_unsignedBits (value n : Nat) : (unsignedBits value n).length = n := BitCodec.length_bits value n

theorem readUnsignedBits_append {value n : Nat} (h : value < 2 ^ n) (rest : Bits) :
    readUnsignedBits n (unsignedBits value n ++ rest) = (value, rest) := by
  have hlen := length_unsignedBits value n
  have htake : (unsignedBits value n ++ rest).take n = unsignedBits value n := List.take_left' hlen
  have hdrop : (unsignedBits value n ++ rest).drop n = rest := List.drop_left' hlen
  have hvalue : BitCodec.ofBits (unsignedBits value n) = value := by
    have h₁ := BitCodec.reads_ofBits (unsignedBits value n) []
    have h₂ := BitCodec.reads_bits h []
    rw [hlen] at h₁
    exact congrArg Prod.fst (Option.some.inj (h₁.symm.trans h₂))
  rw [readUnsignedBits, htake, hdrop, hvalue]

/-! ## Readers -/

section

variable {ε α β : Type}

def BufferRead.Reads (read : BufferRead ε α) (front : Bits) (a : α) : Prop :=
  ∀ rest, read (front ++ rest) = (.ok a, rest)

theorem BufferRead.Reads.bind {read : BufferRead ε α} {next : α → BufferRead ε β} {front back : Bits} {a : α}
    {b : β} (h : read.Reads front a) (h' : (next a).Reads back b) : (read.bind next).Reads (front ++ back) b := by
  intro rest
  rw [List.append_assoc, BufferRead.bind, h]
  exact h' rest

def BufferRead.forget (throwing : BufferRead ε α) : BufferRead Unit α := fun input =>
  ((throwing input).1.mapError fun _ => (), (throwing input).2)

theorem BufferRead.forget_bind (throwing : BufferRead ε α) (next : α → BufferRead ε β) :
    (throwing.bind next).forget = throwing.forget.bind fun a => (next a).forget := by
  funext input
  cases hread : throwing input with
  | mk result rest =>
    cases result with
    | error e => simp only [BufferRead.forget, BufferRead.bind, hread, Except.mapError]
    | ok a => simp only [BufferRead.forget, BufferRead.bind, hread, Except.mapError]

theorem readSelector_reads (error : ε) (b : Bool) : (readSelector error).Reads [b] b := fun rest => by
  simp [readSelector]

theorem readSelector_forget (error : ε) : (readSelector error).forget = readSelector () := by
  funext input
  unfold BufferRead.forget readSelector
  split <;> rfl

theorem readBool_eq : BitReader.readBool 1 = readSelector () := by
  funext input
  simp [BitReader.readBool, readSelector]

end

/-! ## Quantized integers -/

section

variable {config : QuantizedIntConfig}

theorem clamp_toInt (config : QuantizedIntConfig) (value : Int64) : (config.clamp value).toInt =
    if value.toInt < config.min.toInt then config.min.toInt
    else if config.max.toInt < value.toInt then config.max.toInt else value.toInt := by
  have hvalid := Int64.le_iff_toInt_le.mp config.valid
  have hmax : Max.max value config.min = if value ≤ config.min then config.min else value := rfl
  have hmin : config.clamp value = if Max.max value config.min ≤ config.max then Max.max value config.min
      else config.max := rfl
  rw [hmin, hmax]
  simp only [Int64.le_iff_toInt_le]
  by_cases hlow : value.toInt ≤ config.min.toInt
  · rw [if_pos hlow, if_pos hvalid]
    split <;> omega
  · rw [if_neg hlow]
    split <;> split <;> omega

theorem clamp_bounds (config : QuantizedIntConfig) (value : Int64) :
    config.min.toInt ≤ (config.clamp value).toInt ∧ (config.clamp value).toInt ≤ config.max.toInt := by
  have hvalid := Int64.le_iff_toInt_le.mp config.valid
  rw [clamp_toInt]
  split
  · omega
  · split <;> omega

theorem inRange_iff {value : Int64} : inRange value config = true ↔
    config.min.toInt ≤ value.toInt ∧ value.toInt ≤ config.max.toInt := by
  simp only [inRange, Bool.and_eq_true, decide_eq_true_eq, ge_iff_le, Int64.le_iff_toInt_le]

theorem clamp_of_inRange {value : Int64} (h : inRange value config = true) : config.clamp value = value := by
  obtain ⟨hlow, hhigh⟩ := inRange_iff.mp h
  rw [← Int64.toInt_inj, clamp_toInt, if_neg (by omega), if_neg (by omega)]

theorem orderedInt_sub {value : Int64} (h : config.min.toInt ≤ value.toInt) :
    ((orderedInt value - orderedInt config.min).toNat : Int) = value.toInt - config.min.toInt := by
  have hvalue := orderedInt_toNat value
  have hmin := orderedInt_toNat config.min
  have hle : (orderedInt config.min).toNat ≤ (orderedInt value).toNat := by omega
  have hsub := UInt64.toNat_sub_of_le (orderedInt value) (orderedInt config.min) (UInt64.le_iff_toNat_le.mpr hle)
  omega

theorem maxOffset_toNat (config : QuantizedIntConfig) :
    ((quantizedIntMaxOffset config).toNat : Int) = config.max.toInt - config.min.toInt :=
  orderedInt_sub (Int64.le_iff_toInt_le.mp config.valid)

theorem quantizeInt_toNat (config : QuantizedIntConfig) (value : Int64) :
    ((quantizeInt value config).toNat : Int) = (config.clamp value).toInt - config.min.toInt :=
  orderedInt_sub (clamp_bounds config value).1

theorem dequantize_quantize (config : QuantizedIntConfig) (value : Int64) :
    dequantizeInt (quantizeInt value config) config = config.clamp value := by
  have hbounds := clamp_bounds config value
  have hoffset := maxOffset_toNat config
  have hquantized := quantizeInt_toNat config value
  have hmin := orderedInt_toNat config.min
  have hle : ¬quantizeInt value config > quantizedIntMaxOffset config := by
    rw [gt_iff_lt, UInt64.lt_iff_toNat_lt]
    omega
  have hmax := (config.clamp value).toInt_lt
  have hadd : (orderedInt config.min + quantizeInt value config).toNat =
      (orderedInt config.min).toNat + (quantizeInt value config).toNat := by
    rw [UInt64.toNat_add, Nat.mod_eq_of_lt (by omega)]
  rw [dequantizeInt, if_neg hle, ← Int64.toInt_inj, signedFromOrdered_toInt, hadd]
  omega

theorem quantizedIntBits_le (config : QuantizedIntConfig) : quantizedIntBits config ≤ 64 :=
  (bitsForMaxValue_spec _).2 64 (by decide) (quantizedIntMaxOffset config).toNat_lt

theorem quantizeInt_lt (config : QuantizedIntConfig) (value : Int64) :
    (quantizeInt value config).toNat < 2 ^ quantizedIntBits config := by
  have hbounds := clamp_bounds config value
  have hoffset := maxOffset_toNat config
  have hquantized := quantizeInt_toNat config value
  refine Nat.lt_of_le_of_lt ?_ (bitsForMaxValue_spec (quantizedIntMaxOffset config).toNat).1
  omega

theorem length_serializeQuantizedInt (config : QuantizedIntConfig) (value : Int64) :
    (serializeQuantizedInt value config).length = quantizedIntBits config := length_unsignedBits _ _

theorem readQuantizedIntOr_reads {ε : Type} (error : ε) (config : QuantizedIntConfig) (value : Int64) :
    (readQuantizedIntOr error config).Reads (serializeQuantizedInt value config) (config.clamp value) := by
  intro rest
  have hlen : ¬(serializeQuantizedInt value config ++ rest).length < quantizedIntBits config := by
    rw [List.length_append, length_serializeQuantizedInt]
    omega
  simp only [readQuantizedIntOr, if_neg hlen]
  rw [serializeQuantizedInt, readUnsignedBits_append (quantizeInt_lt config value)]
  simp only [UInt64.ofNat_toNat, dequantize_quantize]

theorem readQuantizedIntOr_forget {ε : Type} (error : ε) (config : QuantizedIntConfig) :
    (readQuantizedIntOr error config).forget = readQuantizedInt config := by
  funext input
  simp only [BufferRead.forget, readQuantizedInt, readQuantizedIntOr]
  split <;> rfl

/-- The reader of a `BitReader` does what the one of a `BitBuffer` does. -/
theorem bitReader_readQuantizedInt (config : QuantizedIntConfig) :
    BitReader.readQuantizedInt config = readQuantizedInt config := by
  have hpos : quantizedIntBits config ≠ 0 := by
    unfold quantizedIntBits bitsForMaxValue
    split <;> omega
  have hle := quantizedIntBits_le config
  funext input
  simp only [BitReader.readQuantizedInt, BufferRead.bind, BitReader.readBits, readQuantizedInt, readQuantizedIntOr]
  by_cases hshort : input.length < quantizedIntBits config
  · rw [if_pos (.inr hshort), if_pos hshort]
  · rw [if_neg (by omega), if_neg hshort, if_neg hpos]

end

/-! ## Codecs -/

structure IntCodec where
  serialize : Int64 → Bits
  bits : Int64 → Nat
  reads : List (BufferRead Unit Int64)
  deserialize : BufferRead String Int64

structure IntCodec.RoundTrips (codec : IntCodec) (result : Int64 → Int64) : Prop where
  length : ∀ value, (codec.serialize value).length = codec.bits value
  deserializes : ∀ value, codec.deserialize.Reads (codec.serialize value) (result value)
  agree : ∀ read ∈ codec.reads, read = codec.deserialize.forget
  reads : ∀ read ∈ codec.reads, ∀ value, read.Reads (codec.serialize value) (result value)

theorem BufferRead.Reads.forget {α : Type} {throwing : BufferRead String α} {front : Bits} {a : α}
    (h : throwing.Reads front a) :
    throwing.forget.Reads front a := fun rest => by
  rw [BufferRead.forget, h]
  rfl

theorem IntCodec.RoundTrips.of {codec : IntCodec} {result : Int64 → Int64}
    (length : ∀ value, (codec.serialize value).length = codec.bits value)
    (deserializes : ∀ value, codec.deserialize.Reads (codec.serialize value) (result value))
    (agree : ∀ read ∈ codec.reads, read = codec.deserialize.forget) : codec.RoundTrips result :=
  ⟨length, deserializes, agree, fun read hread value => agree read hread ▸ (deserializes value).forget⟩

def quantizedIntCodec (config : QuantizedIntConfig) : IntCodec where
  serialize value := serializeQuantizedInt value config
  bits _ := quantizedIntBits config
  reads := [readQuantizedInt config, BitReader.readQuantizedInt config]
  deserialize := deserializeQuantizedInt config

def variableQuantizedIntCodec (config : VariableQuantizedIntConfig) : IntCodec where
  serialize value := serializeVariableQuantizedInt value config
  bits value := variableQuantizedIntBits value config
  reads := [readVariableQuantizedInt config]
  deserialize := deserializeVariableQuantizedInt config

def varint2Codec (config : VarInt2Config) : IntCodec where
  serialize value := serializeVarint2 value config
  bits value := varint2Bits value config
  reads := [readVarint2 config, BitReader.readVarint2 config]
  deserialize := deserializeVarint2 config

def varint3Codec (config : VarInt3Config) : IntCodec where
  serialize value := serializeVarint3 value config
  bits value := varint3Bits value config
  reads := [readVarint3 config, BitReader.readVarint3 config]
  deserialize := deserializeVarint3 config

def varint2OrZeroCodec (config : VarInt2Config) : IntCodec where
  serialize value := serializeVarint2OrZero value config
  bits value := varint2OrZeroBits value config
  reads := [readVarint2OrZero config]
  deserialize := deserializeVarint2OrZero config

def varint3OrZeroCodec (config : VarInt3Config) : IntCodec where
  serialize value := serializeVarint3OrZero value config
  bits value := varint3OrZeroBits value config
  reads := [readVarint3OrZero config]
  deserialize := deserializeVarint3OrZero config

def varintCodec (config : VarIntConfig) : IntCodec where
  serialize value := serializeVarint value config
  bits _ := varintBits config
  reads := [readVarint config]
  deserialize := deserializeVarint config

def variableVarintCodec (config : VariableVarIntConfig) : IntCodec where
  serialize value := serializeVariableVarint value config
  bits value := variableVarintBits value config
  reads := [readVariableVarint config]
  deserialize := deserializeVariableVarint config

/-! ### One range -/

theorem quantizedInt_deserializes (config : QuantizedIntConfig) (value : Int64) :
    (deserializeQuantizedInt config).Reads (serializeQuantizedInt value config) (config.clamp value) :=
  readQuantizedIntOr_reads _ config value

theorem quantizedInt_forget (config : QuantizedIntConfig) :
    (deserializeQuantizedInt config).forget = readQuantizedInt config :=
  readQuantizedIntOr_forget _ config

theorem quantizedInt_roundTrips (config : QuantizedIntConfig) : (quantizedIntCodec config).RoundTrips config.clamp := by
  apply IntCodec.RoundTrips.of
  · exact length_serializeQuantizedInt config
  · exact quantizedInt_deserializes config
  · intro read hread
    simp only [quantizedIntCodec, quantizedInt_forget]
    rcases List.mem_pair.mp hread with rfl | rfl
    · rfl
    · exact bitReader_readQuantizedInt config

/-! ### Two ranges -/

section

variable {short wide : QuantizedIntConfig}

theorem inRange_wide (h : wide.min ≤ short.min ∧ short.max ≤ wide.max) {value : Int64}
    (hin : inRange value short = true) :
    inRange value wide = true := by
  obtain ⟨hlow, hhigh⟩ := inRange_iff.mp hin
  have hmin := Int64.le_iff_toInt_le.mp h.1
  have hmax := Int64.le_iff_toInt_le.mp h.2
  exact inRange_iff.mpr ⟨by omega, by omega⟩

theorem clamp_wide (h : wide.min ≤ short.min ∧ short.max ≤ wide.max) {value : Int64}
    (hin : inRange value short = true) :
    wide.clamp value = short.clamp value := by
  rw [clamp_of_inRange hin, clamp_of_inRange (inRange_wide h hin)]

theorem length_serializeTwoRange (value : Int64) :
    (serializeTwoRange value short wide).length = twoRangeBits value short wide := by
  unfold serializeTwoRange twoRangeBits
  cases inRange value short with
  | true => simp [length_serializeQuantizedInt, Nat.add_comm]
  | false => simp [length_serializeQuantizedInt, Nat.add_comm]

theorem twoRange_deserializes (error : String) (h : wide.min ≤ short.min ∧ short.max ≤ wide.max) (value : Int64) :
    (readTwoRange (readSelector error) deserializeQuantizedInt short wide).Reads (serializeTwoRange value short wide)
      (wide.clamp value) := by
  unfold serializeTwoRange
  cases hin : inRange value short with
  | true =>
    rw [clamp_wide h hin]
    exact (readSelector_reads error false).bind (quantizedInt_deserializes short value)
  | false => exact (readSelector_reads error true).bind (quantizedInt_deserializes wide value)

theorem twoRange_forget (error : String) (short wide : QuantizedIntConfig) :
    (readTwoRange (readSelector error) deserializeQuantizedInt short wide).forget =
      readTwoRange (readSelector ()) readQuantizedInt short wide := by
  simp only [readTwoRange, BufferRead.forget_bind, readSelector_forget, quantizedInt_forget]

end

theorem variableQuantizedInt_roundTrips (config : VariableQuantizedIntConfig) :
    (variableQuantizedIntCodec config).RoundTrips config.longRange.clamp := by
  apply IntCodec.RoundTrips.of
  · exact length_serializeTwoRange
  · exact twoRange_deserializes _ config.valid
  · intro read hread
    rw [List.mem_singleton.mp hread]
    exact (twoRange_forget _ _ _).symm

theorem varint2_roundTrips (config : VarInt2Config) : (varint2Codec config).RoundTrips config.fullRange.clamp := by
  apply IntCodec.RoundTrips.of
  · exact length_serializeTwoRange
  · exact twoRange_deserializes _ config.valid
  · intro read hread
    refine Eq.trans ?_ (twoRange_forget _ _ _).symm
    rcases List.mem_pair.mp hread with rfl | rfl
    · rfl
    · have hread : BitReader.readQuantizedInt = readQuantizedInt := funext bitReader_readQuantizedInt
      rw [BitReader.readVarint2, readBool_eq, hread]

/-! ### Three ranges -/

theorem length_serializeVarint3 (config : VarInt3Config) (value : Int64) :
    (serializeVarint3 value config).length = varint3Bits value config := by
  unfold serializeVarint3 varint3Bits
  cases inRange value config.shortRange with
  | true => simp [length_serializeQuantizedInt, Nat.add_comm]
  | false =>
    cases inRange value config.mediumRange with
    | true =>
      simp [length_serializeQuantizedInt]
      omega
    | false =>
      simp [length_serializeQuantizedInt]
      omega

theorem varint3_deserializes (config : VarInt3Config) (value : Int64) :
    (deserializeVarint3 config).Reads (serializeVarint3 value config) (config.fullRange.clamp value) := by
  obtain ⟨hmin, hmax, hmin', hmax'⟩ := config.valid
  have hselector := readSelector_reads "truncated varint3 selector"
  unfold serializeVarint3
  cases hshort : inRange value config.shortRange with
  | true =>
    rw [clamp_wide ⟨hmin', hmax'⟩ (inRange_wide ⟨hmin, hmax⟩ hshort), clamp_wide ⟨hmin, hmax⟩ hshort]
    exact (hselector false).bind (quantizedInt_deserializes config.shortRange value)
  | false =>
    cases hmedium : inRange value config.mediumRange with
    | true =>
      rw [clamp_wide ⟨hmin', hmax'⟩ hmedium]
      exact (hselector true).bind ((hselector false).bind (quantizedInt_deserializes config.mediumRange value))
    | false => exact (hselector true).bind ((hselector true).bind (quantizedInt_deserializes config.fullRange value))

theorem varint3_forget (config : VarInt3Config) : (deserializeVarint3 config).forget = readVarint3 config := by
  unfold deserializeVarint3 readVarint3 readThreeRange
  rw [BufferRead.forget_bind, readSelector_forget]
  congr 1
  funext usesWide
  cases usesWide with
  | false => exact quantizedInt_forget config.shortRange
  | true =>
    refine (BufferRead.forget_bind _ _).trans ?_
    rw [readSelector_forget]
    congr 1
    funext usesFull
    exact quantizedInt_forget _

theorem varint3_roundTrips (config : VarInt3Config) : (varint3Codec config).RoundTrips config.fullRange.clamp := by
  apply IntCodec.RoundTrips.of
  · exact length_serializeVarint3 config
  · exact varint3_deserializes config
  · intro read hread
    refine Eq.trans ?_ (varint3_forget config).symm
    rcases List.mem_pair.mp hread with rfl | rfl
    · rfl
    · have hread : BitReader.readQuantizedInt = readQuantizedInt := funext bitReader_readQuantizedInt
      rw [BitReader.readVarint3, readBool_eq, hread, readVarint3]

/-! ### Zero as one bit -/

def orZero (result : Int64 → Int64) (value : Int64) : Int64 := if value = 0 then 0 else result value

theorem length_serializeOrZero {serialized : Bits} {bits : Nat} (h : serialized.length = bits) (value : Int64) :
    (serializeOrZero value serialized).length = orZeroBits value bits := by
  unfold serializeOrZero orZeroBits
  by_cases hzero : value = 0
  · simp [hzero]
  · simp [hzero, h, Nat.add_comm]

theorem readOrZero_reads {read : BufferRead String Int64} {serialized : Bits} {result : Int64 → Int64}
    (error : String) (value : Int64) (h : read.Reads serialized (result value)) :
    (readOrZero (readSelector error) read).Reads (serializeOrZero value serialized) (orZero result value) := by
  unfold serializeOrZero orZero
  by_cases hzero : value = 0
  · rw [if_pos hzero, hzero]
    exact (readSelector_reads error false).bind fun _ => rfl
  · rw [if_neg hzero, decide_eq_true hzero]
    exact (readSelector_reads error true).bind h

theorem readOrZero_forget (error : String) (read : BufferRead String Int64) :
    (readOrZero (readSelector error) read).forget = readOrZero (readSelector ()) read.forget := by
  unfold readOrZero
  rw [BufferRead.forget_bind, readSelector_forget]
  congr 1
  funext hasValue
  cases hasValue <;> rfl

theorem varint2OrZero_roundTrips (config : VarInt2Config) :
    (varint2OrZeroCodec config).RoundTrips (orZero config.fullRange.clamp) := by
  have h := varint2_roundTrips config
  apply IntCodec.RoundTrips.of
  · exact fun value => length_serializeOrZero (h.length value) value
  · exact fun value => readOrZero_reads _ value (h.deserializes value)
  · intro read hread
    rw [List.mem_singleton.mp hread]
    refine Eq.trans ?_ (readOrZero_forget _ _).symm
    rw [readVarint2OrZero, h.agree (readVarint2 config) List.mem_cons_self]
    rfl

theorem varint3OrZero_roundTrips (config : VarInt3Config) :
    (varint3OrZeroCodec config).RoundTrips (orZero config.fullRange.clamp) := by
  have h := varint3_roundTrips config
  apply IntCodec.RoundTrips.of
  · exact fun value => length_serializeOrZero (h.length value) value
  · exact fun value => readOrZero_reads _ value (h.deserializes value)
  · intro read hread
    rw [List.mem_singleton.mp hread]
    refine Eq.trans ?_ (readOrZero_forget _ _).symm
    rw [readVarint3OrZero, h.agree (readVarint3 config) List.mem_cons_self]
    rfl

/-! ## Deltas

The sign of the difference is spread over the whole word, so encoding doubles a
number that is not negative and complements the double of a negative one.
-/

theorem signFill (v : Int64) : ((v >>> 63).toUInt64) = if v.toInt < 0 then ~~~0 else 0 := by
  rw [← UInt64.toBitVec_inj]
  have h : (v >>> 63).toUInt64.toBitVec = v.toBitVec.sshiftRight 63 := by
    rw [Int64.toBitVec_toUInt64, Int64.toBitVec_shiftRight]
    rfl
  rw [h, BitVec.sshiftRight_eq]
  have hlow := v.le_toInt
  have hhigh := v.toInt_lt
  rw [Int64.toInt_toBitVec, Int.shiftRight_eq_div_pow]
  split
  · have : v.toInt / (2 ^ 63 : Nat) = -1 := by omega
    rw [this]; rfl
  · have : v.toInt / (2 ^ 63 : Nat) = 0 := by omega
    rw [this]; rfl

theorem zigzagEncode_toNat (v : Int64) : ((zigzagEncode v).toNat : Int) =
    if v.toInt < 0 then -2 * v.toInt - 1 else 2 * v.toInt := by
  have hlow := v.le_toInt
  have hhigh := v.toInt_lt
  have hcond := toInt_cond v
  have hlt := v.toUInt64.toNat_lt
  have hshift : (v.toUInt64 <<< 1).toNat = 2 * v.toUInt64.toNat % 2 ^ 64 := by
    rw [UInt64.toNat_shiftLeft]
    simp [Nat.shiftLeft_eq, Nat.mul_comm]
  rw [zigzagEncode, signFill]
  by_cases hneg : v.toInt < 0
  · rw [if_pos hneg, if_pos hneg]
    have : ((v.toUInt64 <<< 1) ^^^ ~~~(0 : UInt64)) = ~~~(v.toUInt64 <<< 1) := by simp
    have hsize : UInt64.size = 2 ^ 64 := rfl
    rw [this, UInt64.toNat_not, hshift]
    split at hcond <;> omega
  · rw [if_neg hneg, if_neg hneg, UInt64.xor_zero, hshift]
    split at hcond <;> omega

theorem zigzag_decode_encode (v : Int64) : zigzagDecode (zigzagEncode v) = v := by
  have hcode := zigzagEncode_toNat v
  have hlow := v.le_toInt
  have hhigh := v.toInt_lt
  have hhalf : (zigzagEncode v >>> 1).toNat = (zigzagEncode v).toNat / 2 := by
    rw [UInt64.toNat_shiftRight]; simp [Nat.shiftRight_eq_div_pow]
  have hbit : (zigzagEncode v &&& 1).toNat = (zigzagEncode v).toNat % 2 := by
    rw [UInt64.toNat_and]; exact Nat.and_one_is_mod _
  rw [← Int64.toInt_inj, toInt_cond]
  have hraw : (zigzagDecode (zigzagEncode v)).toUInt64 = (zigzagEncode v >>> 1) ^^^ (~~~(zigzagEncode v &&& 1) + 1) :=
    rfl
  rw [hraw]
  by_cases hneg : v.toInt < 0
  · rw [if_pos hneg] at hcode
    have hone : zigzagEncode v &&& 1 = 1 := UInt64.toNat_inj.mp (by rw [hbit]; simp; omega)
    have : (zigzagEncode v >>> 1) ^^^ (~~~(1 : UInt64) + (1 : UInt64)) = ~~~(zigzagEncode v >>> 1) := by
      have : (~~~(1 : UInt64) + (1 : UInt64)) = ~~~(0 : UInt64) := rfl
      rw [this]; simp
    have hsize : UInt64.size = 2 ^ 64 := rfl
    rw [hone, this, UInt64.toNat_not, hhalf]
    split <;> omega
  · rw [if_neg hneg] at hcode
    have hzero : zigzagEncode v &&& 1 = 0 := UInt64.toNat_inj.mp (by rw [hbit]; simp; omega)
    have : (~~~(0 : UInt64) + 1) = 0 := rfl
    rw [hzero, this, UInt64.xor_zero, hhalf]
    split <;> omega

theorem readDeltaInt_reads {previous current : Int64} {bits : Nat}
    (hbits : (zigzagEncode (current - previous)).toNat < 2 ^ bits) :
    (readDeltaInt previous bits).Reads (writeDeltaInt previous current bits) current := by
  by_cases heq : previous = current
  · have hwrite : writeDeltaInt previous current bits = [false] := by simp [writeDeltaInt, heq]
    rw [hwrite]
    refine (readSelector_reads () false).bind fun rest => ?_
    rw [heq]
    rfl
  · have hwrite : writeDeltaInt previous current bits =
        [true] ++ unsignedBits (zigzagEncode (current - previous)).toNat bits := by simp [writeDeltaInt, heq]
    rw [hwrite]
    refine (readSelector_reads () true).bind fun rest => ?_
    have hlen : ¬(unsignedBits (zigzagEncode (current - previous)).toNat bits ++ rest).length < bits := by
      rw [List.length_append, length_unsignedBits]
      omega
    have hsum : previous + (current - previous) = current := by
      rw [Int64.add_comm, Int64.sub_add_cancel]
    simp only [Bool.not_true, Bool.false_eq_true, if_false, if_neg hlen]
    rw [readUnsignedBits_append hbits]
    simp only [UInt64.ofNat_toNat, zigzag_decode_encode, hsum]

/-! ## All codecs -/

/-- Every codec gives back the clamped integer, and a delta the current one. -/
theorem integer_codecs_round_trip :
    (∀ config, (quantizedIntCodec config).RoundTrips config.clamp) ∧
    (∀ config, (variableQuantizedIntCodec config).RoundTrips config.longRange.clamp) ∧
    (∀ config, (varint2Codec config).RoundTrips config.fullRange.clamp) ∧
    (∀ config, (varint3Codec config).RoundTrips config.fullRange.clamp) ∧
    (∀ config, (varint2OrZeroCodec config).RoundTrips (orZero config.fullRange.clamp)) ∧
    (∀ config, (varint3OrZeroCodec config).RoundTrips (orZero config.fullRange.clamp)) ∧
    (∀ config, (varintCodec config).RoundTrips config.clamp) ∧
    (∀ config, (variableVarintCodec config).RoundTrips config.fullRange.clamp) ∧
    (∀ (previous current : Int64) (bits : Nat), 1 ≤ bits → bits ≤ 64 →
      (zigzagEncode (current - previous)).toNat < 2 ^ bits →
      (readDeltaInt previous bits).Reads (writeDeltaInt previous current bits) current) := by
  refine ⟨quantizedInt_roundTrips, variableQuantizedInt_roundTrips, varint2_roundTrips, varint3_roundTrips,
    varint2OrZero_roundTrips, varint3OrZero_roundTrips, ?_, ?_, ?_⟩
  · intro config
    apply IntCodec.RoundTrips.of
    · exact length_serializeQuantizedInt config
    · exact quantizedInt_deserializes config
    · intro read hread
      rw [List.mem_singleton.mp hread]
      exact (quantizedInt_forget config).symm
  · intro config
    have h := varint2_roundTrips config
    exact IntCodec.RoundTrips.of h.length h.deserializes fun read hread =>
      h.agree read (List.mem_cons.mpr (.inl (List.mem_singleton.mp hread)))
  · intro previous current bits _ _ hbits
    exact readDeltaInt_reads hbits

theorem integer_codecs_round_trip_lowest :
    (readDeltaInt 0 64).Reads (writeDeltaInt 0 Int64.minValue 64) Int64.minValue :=
  integer_codecs_round_trip.2.2.2.2.2.2.2.2 0 Int64.minValue 64 (by decide) (by decide) (UInt64.toNat_lt _)

end AshiatoSync
