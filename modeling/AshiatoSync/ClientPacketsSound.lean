import AshiatoSync.ClientPackets
import AshiatoSync.InputSound
import AshiatoSync.TrackerSound

/-!
# The size of input packets and the fate of ACKs

An input packet is packed for its first frame relative to the baseline, but a retry
may write another frame in full, behind a longer header.  The ACKs it takes are
those it carries, and the queue loses none of the others.
-/

namespace AshiatoSync

open BitCodec ClientInputBuffer

/-! ## Bits and bytes -/

theorem bytesForBits_le_iff (n mtuBytes : Nat) : bytesForBits n ≤ mtuBytes ↔ n ≤ mtuBytes * 8 := by
  unfold bytesForBits
  omega

theorem bytesForBits_gt_iff (n mtuBytes : Nat) : bytesForBits n > mtuBytes ↔ mtuBytes * 8 < n := by
  unfold bytesForBits
  omega

/-! ## How many ACKs fit -/

section

variable {mtuBytes packetIdBits firstFrameBits : Nat}

/-- As many as fit before the first frame, and no more than there are. -/
theorem appendAcks_eq (hpos : 0 < packetIdBits) : ∀ (pending bitSize : Nat),
    appendAcks mtuBytes packetIdBits firstFrameBits pending bitSize =
      min pending ((mtuBytes * 8 - (bitSize + 32 + firstFrameBits)) / packetIdBits) := by
  intro pending
  induction pending with
  | zero => exact fun bitSize => (Nat.zero_min _).symm
  | succ pending ih =>
    intro bitSize
    unfold appendAcks
    simp only
    by_cases hfull : mtuBytes * 8 < bitSize + packetIdBits + 32 + firstFrameBits
    · rw [if_pos ((bytesForBits_gt_iff _ _).mpr hfull), Nat.div_eq_of_lt (by omega), Nat.min_zero]
    · rw [if_neg (fun h => hfull ((bytesForBits_gt_iff _ _).mp h)), ih]
      have hroom : mtuBytes * 8 - (bitSize + 32 + firstFrameBits) =
          mtuBytes * 8 - (bitSize + packetIdBits + 32 + firstFrameBits) + packetIdBits := by omega
      rw [hroom, Nat.add_div_right _ hpos]
      omega

theorem appendAcks_le (pending bitSize : Nat) :
    appendAcks mtuBytes packetIdBits firstFrameBits pending bitSize ≤ pending := by
  induction pending generalizing bitSize with
  | zero => exact Nat.le_refl 0
  | succ pending ih =>
    unfold appendAcks
    simp only
    split
    · exact Nat.zero_le _
    · exact Nat.succ_le_succ (ih _)

/-- With an ACK in the packet, the first frame still fits behind them. -/
theorem appendAcks_fits {pending bitSize : Nat}
    (hsome : appendAcks mtuBytes packetIdBits firstFrameBits pending bitSize ≠ 0) :
    bitSize + appendAcks mtuBytes packetIdBits firstFrameBits pending bitSize * packetIdBits + 32 + firstFrameBits ≤
      mtuBytes * 8 := by
  induction pending generalizing bitSize with
  | zero => exact absurd rfl hsome
  | succ pending ih =>
    unfold appendAcks at hsome ⊢
    simp only at hsome ⊢
    split
    · rename_i hfull
      rw [if_pos hfull] at hsome
      exact absurd rfl hsome
    · rename_i hroom
      rw [gt_iff_lt, Nat.not_lt, bytesForBits_le_iff] at hroom
      by_cases hmore : appendAcks mtuBytes packetIdBits firstFrameBits pending (bitSize + packetIdBits) = 0
      · rw [hmore]
        omega
      · have := ih hmore
        rw [Nat.add_mul, Nat.one_mul]
        omega

end

/-! ## What an attempt writes -/

section

variable (ops : InputOps) {mtuBytes : Nat} {ring : InputRing}

def recordedInputs (ring : InputRing) (first count : Nat) : List (SyncFrame × Bytes) :=
  (List.range' first count).filterMap fun frame => (ring.find? frame).map fun bytes => (frame, bytes)

variable (ring) in
theorem writeFrames_full : ∀ (n : Nat) (frame : SyncFrame) (previous : Option Bytes) (bitSize : Nat),
    mtuBytes * 8 < bitSize → writeFrames ops mtuBytes ring n frame previous bitSize = []
  | 0, _, _, _, _ => rfl
  | n + 1, frame, previous, bitSize, hfull => by
    unfold writeFrames
    split
    · rfl
    · exact if_pos ((bytesForBits_gt_iff _ _).mpr (by omega))

theorem writeFrames_fits : ∀ (n : Nat) (frame : SyncFrame) (previous : Option Bytes) (bitSize : Nat),
    writeFrames ops mtuBytes ring n frame previous bitSize = [] ∨
      bitSize + ((writeFrames ops mtuBytes ring n frame previous bitSize).flatMap fun w => w.2.2).length ≤
        mtuBytes * 8
  | 0, _, _, _ => .inl rfl
  | n + 1, frame, previous, bitSize => by
    unfold writeFrames
    split
    · exact .inl rfl
    dsimp only
    split
    · exact .inl rfl
    · rename_i bytes _ hroom
      rw [gt_iff_lt, Nat.not_lt, bytesForBits_le_iff] at hroom
      refine .inr ?_
      rw [List.flatMap_cons, List.length_append]
      dsimp only
      rcases writeFrames_fits n (frame + 1) (some bytes)
        (bitSize + (ops.serialize previous bytes (inputContext frame previous)).length) with hnone | hfits
      · rw [hnone]
        exact hroom
      · omega

variable (mtuBytes) in
theorem writeFrames_all_iff : ∀ (n : Nat) (frame : SyncFrame) (previous : Option Bytes) (bitSize : Nat), 0 < n →
    (∀ i, i < n → (ring.find? (frame + i)).isSome = true) →
    ((writeFrames ops mtuBytes ring n frame previous bitSize).length = n ↔
      bitSize + (encodeInputs ops previous (recordedInputs ring frame n)).length ≤ mtuBytes * 8)
  | 0, _, _, _, hpos, _ => absurd hpos (Nat.lt_irrefl 0)
  | n + 1, frame, previous, bitSize, _, hrecorded => by
    obtain ⟨bytes, hbytes⟩ := Option.isSome_iff_exists.mp (hrecorded 0 (Nat.succ_pos n))
    rw [Nat.add_zero] at hbytes
    have hinputs : recordedInputs ring frame (n + 1) = (frame, bytes) :: recordedInputs ring (frame + 1) n := by
      simp only [recordedInputs, List.range'_succ, List.filterMap_cons, hbytes, Option.map_some]
    rw [hinputs, encodeInputs, List.length_append]
    unfold writeFrames
    simp only [hbytes]
    by_cases hfull : mtuBytes * 8 < bitSize + (ops.serialize previous bytes (inputContext frame previous)).length
    · rw [if_pos ((bytesForBits_gt_iff _ _).mpr hfull)]
      exact iff_of_false (Nat.succ_ne_zero n).symm (by omega)
    · rw [if_neg (fun h => hfull ((bytesForBits_gt_iff _ _).mp h)), List.length_cons, Nat.succ_inj]
      rcases Nat.eq_zero_or_pos n with rfl | hpos
      · have hempty : encodeInputs ops (some bytes) (recordedInputs ring (frame + 1) 0) = [] := rfl
        rw [hempty]
        exact iff_of_true rfl (by rw [List.length_nil]; omega)
      · rw [writeFrames_all_iff n (frame + 1) (some bytes) _ hpos fun i hi => ?_]
        · omega
        · have := hrecorded (i + 1) (Nat.succ_lt_succ hi)
          rwa [Nat.add_right_comm, Nat.add_assoc]

theorem writeFrames_ne_nil {n : Nat} {frame : SyncFrame} {previous : Option Bytes} {bitSize : Nat} {bytes : Bytes}
    (hpos : 0 < n) (hbytes : ring.find? frame = some bytes)
    (hfits : bitSize + (ops.serialize previous bytes (inputContext frame previous)).length ≤ mtuBytes * 8) :
    writeFrames ops mtuBytes ring n frame previous bitSize ≠ [] := by
  obtain ⟨m, rfl⟩ := Nat.exists_eq_succ_of_ne_zero (Nat.ne_of_gt hpos)
  unfold writeFrames
  simp only [hbytes]
  rw [if_neg fun h => absurd ((bytesForBits_gt_iff _ _).mp h) (Nat.not_lt.mpr hfits)]
  exact List.cons_ne_nil _ _

end

/-! ## The range of frames -/

section

variable {buffer : ClientInputBuffer}

theorem contiguousCount_recorded (ring : InputRing) : ∀ (n : Nat) (frame : SyncFrame) (i : Nat),
    i < contiguousCount ring n frame → (ring.find? (frame - i)).isSome = true
  | 0, _, i, hi => absurd hi (Nat.not_lt_zero i)
  | n + 1, frame, i, hi => by
    unfold contiguousCount at hi
    split at hi
    · rename_i hfound
      cases i with
      | zero => exact hfound
      | succ i =>
        have := contiguousCount_recorded ring n (frame - 1) i (Nat.lt_of_succ_lt_succ hi)
        rwa [Nat.sub_sub, Nat.add_comm 1 i] at this
    · exact absurd hi (Nat.not_lt_zero i)

theorem desiredCount_le (buffer : ClientInputBuffer) :
    buffer.desiredCount ≤ buffer.lastRecordedFrame - buffer.transmitFloor ∧ buffer.desiredCount ≤
      maxInputCount := by
  have hle : buffer.desiredCount ≤ min (buffer.lastRecordedFrame - buffer.transmitFloor) maxInputCount :=
    contiguousCount_le _ _ _
  omega

theorem desired_recorded (buffer : ClientInputBuffer) {i : Nat} (hi : i < buffer.desiredCount) :
    (buffer.frames.find? (rangeFirst buffer.lastRecordedFrame buffer.desiredCount + i)).isSome = true := by
  have hle := (desiredCount_le buffer).1
  have hfound := contiguousCount_recorded buffer.frames _ buffer.lastRecordedFrame (buffer.desiredCount - 1 - i)
    (show buffer.desiredCount - 1 - i < buffer.desiredCount by omega)
  have hplace : rangeFirst buffer.lastRecordedFrame buffer.desiredCount + i =
      buffer.lastRecordedFrame - (buffer.desiredCount - 1 - i) := by
    rw [rangeFirst, if_neg (by omega)]
    show (_ : Nat) = _
    omega
  rwa [hplace]

/-- Only the frame after the acknowledged one is written relative to the baseline. -/
theorem firstInputFull_of_ne {first : SyncFrame} (hfirst : first ≠ 0) (hne : first ≠ buffer.ackedFrame + 1) :
    buffer.firstInputFull first = true := by
  simp [firstInputFull, mustEncodeFirstFrameInFull, hfirst, hne]

theorem firstInputFull_shorter {count : Nat} (hpos : 0 < count) (hlt : count < buffer.desiredCount) :
    buffer.firstInputFull (rangeFirst buffer.lastRecordedFrame count) = true := by
  have hle := (desiredCount_le buffer).1
  have hfloor : @LE.le Nat _ buffer.ackedFrame buffer.transmitFloor := Nat.le_max_left _ _
  have hfirst : rangeFirst buffer.lastRecordedFrame count = buffer.lastRecordedFrame - count + 1 :=
    if_neg (Nat.ne_of_gt hpos)
  rw [hfirst]
  have hlater : @LT.lt Nat _ (buffer.ackedFrame + 1) (buffer.lastRecordedFrame - count + 1) := by omega
  exact firstInputFull_of_ne (Nat.succ_ne_zero _) (Nat.ne_of_gt hlater)

theorem length_inputHeader (buffer : ClientInputBuffer) (first : SyncFrame) (count : Nat) :
    (buffer.inputHeader first count).length =
      32 + 1 + (if buffer.firstInputFull first then 32 else 0) + inputCountBits := by
  simp only [inputHeader, List.length_append, List.length_cons, length_bits]
  omega

theorem length_inputHeader_le (buffer : ClientInputBuffer) (first : SyncFrame) (count : Nat) :
    (buffer.inputHeader first count).length ≤ 32 + 1 + 32 + inputCountBits := by
  rw [length_inputHeader]
  split <;> omega

end

/-! ## The retries -/

section

variable (ops : InputOps) (buffer : ClientInputBuffer) {mtuBytes offset : Nat}

variable (mtuBytes offset) in
theorem attempt_fits (count : Nat) :
    writeInputAttempt ops buffer mtuBytes offset buffer.lastRecordedFrame count = [] ∨
    offset + (buffer.inputHeader (rangeFirst buffer.lastRecordedFrame count) 0).length +
      ((writeInputAttempt ops buffer mtuBytes offset buffer.lastRecordedFrame count).flatMap fun w => w.2.2).length ≤
        mtuBytes * 8 := writeFrames_fits ops _ _ _ _

variable (mtuBytes offset) in
theorem attempt_spec (count : Nat) :
    (writeInputAttempt ops buffer mtuBytes offset buffer.lastRecordedFrame count).length ≤ count ∧
    (writeInputAttempt ops buffer mtuBytes offset buffer.lastRecordedFrame count).map Prod.fst =
      List.range' (rangeFirst buffer.lastRecordedFrame count)
        (writeInputAttempt ops buffer mtuBytes offset buffer.lastRecordedFrame count).length ∧
    (∀ w ∈ writeInputAttempt ops buffer mtuBytes offset buffer.lastRecordedFrame count,
      buffer.frames.find? w.1 = some w.2.1) ∧
    ((writeInputAttempt ops buffer mtuBytes offset buffer.lastRecordedFrame count).flatMap fun w => w.2.2) =
      encodeInputs ops (buffer.firstPrevious (rangeFirst buffer.lastRecordedFrame count))
        ((writeInputAttempt ops buffer mtuBytes offset buffer.lastRecordedFrame count).map fun w => (w.1, w.2.1)) :=
  writeFrames_spec ops mtuBytes buffer.frames count _ _ _

variable (mtuBytes offset) in
theorem attempt_last_iff {count : Nat} (hpos : 0 < count) (hle : count ≤ buffer.lastRecordedFrame) :
    (writeInputAttempt ops buffer mtuBytes offset buffer.lastRecordedFrame count).getLast?.any
      (fun written => written.1 == buffer.lastRecordedFrame) = true ↔
    (writeInputAttempt ops buffer mtuBytes offset buffer.lastRecordedFrame count).length = count := by
  obtain ⟨hlen, hframes, -, -⟩ := attempt_spec ops buffer mtuBytes offset count
  generalize writeInputAttempt ops buffer mtuBytes offset buffer.lastRecordedFrame count = result at hlen hframes
  have hfirst : rangeFirst buffer.lastRecordedFrame count = buffer.lastRecordedFrame - count + 1 :=
    if_neg (Nat.ne_of_gt hpos)
  rcases List.eq_nil_or_concat' result with rfl | ⟨init, w, rfl⟩
  · exact iff_of_false (by simp) (Nat.ne_of_lt hpos)
  · have hlast := congrArg (·[init.length]?) hframes
    have hw : w.1 = rangeFirst buffer.lastRecordedFrame count + init.length := by
      simpa using hlast
    have hsize : (init ++ [w]).length = init.length + 1 := by simp
    rw [hsize] at hlen ⊢
    simp only [List.getLast?_append, List.getLast?_singleton, Option.some_or, Option.any_some, beq_iff_eq, hw, hfirst]
    show (_ : Nat) = _ ↔ _
    omega

/-- An attempt that has to be repeated wrote some frames, but not all of its range. -/
theorem attempt_shorter {count : Nat}
    (hmore : ¬ ((writeInputAttempt ops buffer mtuBytes offset buffer.lastRecordedFrame count).isEmpty ||
      (writeInputAttempt ops buffer mtuBytes offset buffer.lastRecordedFrame count).getLast?.any
        (fun written => written.1 == buffer.lastRecordedFrame)) = true) (hle : count ≤ buffer.lastRecordedFrame) :
    0 < (writeInputAttempt ops buffer mtuBytes offset buffer.lastRecordedFrame count).length ∧
      (writeInputAttempt ops buffer mtuBytes offset buffer.lastRecordedFrame count).length < count := by
  have hlen := (attempt_spec ops buffer mtuBytes offset count).1
  simp only [Bool.or_eq_true, not_or, List.isEmpty_iff] at hmore
  obtain ⟨hne, hshort⟩ := hmore
  have hpos := List.length_pos_iff.mpr hne
  rw [attempt_last_iff ops buffer mtuBytes offset (Nat.lt_of_lt_of_le hpos hlen) hle] at hshort
  omega

theorem suffix_done {fuel count : Nat}
    (hdone : (writeInputAttempt ops buffer mtuBytes offset buffer.lastRecordedFrame count).isEmpty ||
      (writeInputAttempt ops buffer mtuBytes offset buffer.lastRecordedFrame count).getLast?.any
        (fun written => written.1 == buffer.lastRecordedFrame)) :
    appendNewestInputSuffix ops buffer mtuBytes offset buffer.lastRecordedFrame (fuel + 1) count =
      (count, writeInputAttempt ops buffer mtuBytes offset buffer.lastRecordedFrame count) := if_pos hdone

theorem suffix_retry {fuel count : Nat}
    (hmore : ¬ ((writeInputAttempt ops buffer mtuBytes offset buffer.lastRecordedFrame count).isEmpty ||
      (writeInputAttempt ops buffer mtuBytes offset buffer.lastRecordedFrame count).getLast?.any
        (fun written => written.1 == buffer.lastRecordedFrame)) = true) :
    appendNewestInputSuffix ops buffer mtuBytes offset buffer.lastRecordedFrame (fuel + 1) count =
      appendNewestInputSuffix ops buffer mtuBytes offset buffer.lastRecordedFrame fuel
        (writeInputAttempt ops buffer mtuBytes offset buffer.lastRecordedFrame count).length := if_neg hmore

/-- Every retry is for fewer frames, so more fuel changes nothing. -/
theorem suffix_fuel : ∀ (fuel fuel' count : Nat), count < fuel → count < fuel' →
    count ≤ buffer.lastRecordedFrame →
    appendNewestInputSuffix ops buffer mtuBytes offset buffer.lastRecordedFrame fuel count =
      appendNewestInputSuffix ops buffer mtuBytes offset buffer.lastRecordedFrame fuel' count
  | 0, _, count, h, _, _ => absurd h (Nat.not_lt_zero count)
  | _, 0, count, _, h, _ => absurd h (Nat.not_lt_zero count)
  | fuel + 1, fuel' + 1, count, h, h', hle => by
    by_cases hdone : ((writeInputAttempt ops buffer mtuBytes offset buffer.lastRecordedFrame count).isEmpty ||
      (writeInputAttempt ops buffer mtuBytes offset buffer.lastRecordedFrame count).getLast?.any
        (fun written => written.1 == buffer.lastRecordedFrame)) = true
    · rw [suffix_done ops buffer hdone, suffix_done ops buffer hdone]
    · rw [suffix_retry ops buffer hdone, suffix_retry ops buffer hdone]
      have hshorter := attempt_shorter ops buffer hdone hle
      exact suffix_fuel fuel fuel' _ (by omega) (by omega) (by omega)

end

/-! ## The size of a packet -/

section

variable (ops : InputOps) (buffer : ClientInputBuffer) (mtuBytes packetIdBits pendingAcks : Nat)

/-- The first frame that `append_input_packet` means to send. -/
def desiredFirst : SyncFrame := rangeFirst buffer.lastRecordedFrame buffer.desiredCount

def inputSuffix (ackCount : Nat) : Nat × List (SyncFrame × Bytes × Bits) :=
  appendNewestInputSuffix ops buffer mtuBytes (clientAckHeaderBits + ackCount * packetIdBits) buffer.lastRecordedFrame
    (buffer.desiredCount + 1) buffer.desiredCount

theorem appendInputPacket_eq : buffer.appendInputPacket ops mtuBytes packetIdBits pendingAcks =
    if buffer.mayWrite mtuBytes then
      let ackCount := buffer.ackCount ops mtuBytes packetIdBits pendingAcks
      let (count, written) := inputSuffix ops buffer mtuBytes packetIdBits ackCount
      if ackCount = 0 ∧ written = [] then (buffer, none)
      else
        ({ buffer with historyDiscontinuous := if written.isEmpty then buffer.historyDiscontinuous else false },
          some
            { payload := buffer.inputHeader (rangeFirst buffer.lastRecordedFrame count) written.length ++
                written.flatMap fun w => w.2.2
              baselineFrame := buffer.ackedFrame
              previous := buffer.firstPrevious (rangeFirst buffer.lastRecordedFrame count)
              inputs := written.map fun w => (w.1, w.2.1) })
    else (buffer, none) := by
  have hguard :
      (!buffer.hasLatest || !decide (buffer.lastRecordedFrame > max buffer.ackedFrame buffer.retiredTransmitFrame) ||
      decide (mtuBytes * 8 < fixedHeaderBits)) = !buffer.mayWrite mtuBytes := by
    simp only [mayWrite, transmitFloor, Bool.not_and, Bool.not_not]
    rfl
  unfold ClientInputBuffer.appendInputPacket
  simp only [hguard]
  cases buffer.mayWrite mtuBytes with
  | true => rfl
  | false => rfl

def relativeAckCount : Nat :=
  min (min maxAckCount pendingAcks)
    ((mtuBytes * 8 - (fixedHeaderBits + buffer.serializedFirstInputBits ops (desiredFirst buffer))) / packetIdBits)

/-- The first frame is relative to the baseline and there are ACKs before it, but the whole range does not fit behind
them, and the header of a range that begins in full does not either. -/
def LongHeaderOverflows : Prop :=
  buffer.hasLatest = true ∧ buffer.desiredCount ≠ 0 ∧ buffer.firstInputFull (desiredFirst buffer) = false ∧
  relativeAckCount ops buffer mtuBytes packetIdBits pendingAcks ≠ 0 ∧
  mtuBytes * 8 < fixedHeaderBits + relativeAckCount ops buffer mtuBytes packetIdBits pendingAcks * packetIdBits +
    (encodeInputs ops (buffer.firstPrevious (desiredFirst buffer))
      (recordedInputs buffer.frames (desiredFirst buffer) buffer.desiredCount)).length ∧
  mtuBytes * 8 < fixedHeaderBits + 32 + relativeAckCount ops buffer mtuBytes packetIdBits pendingAcks * packetIdBits

variable {ops buffer mtuBytes packetIdBits pendingAcks}

theorem ackCount_relative (hpos : 0 < packetIdBits) (hfull : buffer.firstInputFull (desiredFirst buffer) = false) :
    buffer.ackCount ops mtuBytes packetIdBits pendingAcks =
      relativeAckCount ops buffer mtuBytes packetIdBits pendingAcks := by
  unfold ClientInputBuffer.ackCount relativeAckCount
  change appendAcks mtuBytes packetIdBits (1 + (if buffer.firstInputFull (desiredFirst buffer) then 32 else 0) +
    inputCountBits + buffer.serializedFirstInputBits ops (desiredFirst buffer)) _ _ = _
  rw [appendAcks_eq hpos, hfull, if_neg Bool.false_ne_true]
  have hsame :
      clientAckHeaderBits + 32 + (1 + 0 + inputCountBits + buffer.serializedFirstInputBits ops (desiredFirst buffer)) =
      fixedHeaderBits + buffer.serializedFirstInputBits ops (desiredFirst buffer) := by
    simp only [clientAckHeaderBits, fixedHeaderBits]
    omega
  rw [hsame]
  have hroom :
      (mtuBytes * 8 - (fixedHeaderBits + buffer.serializedFirstInputBits ops (desiredFirst buffer))) / packetIdBits ≤
      (mtuBytes * 8 - fixedHeaderBits) / packetIdBits := Nat.div_le_div_right (by omega)
  omega

/-- With ACKs in the packet, the header and the first frame as estimated fit behind them. -/
theorem ackCount_fits (hsome : buffer.ackCount ops mtuBytes packetIdBits pendingAcks ≠ 0) :
    clientAckHeaderBits + buffer.ackCount ops mtuBytes packetIdBits pendingAcks * packetIdBits +
      (buffer.inputHeader (desiredFirst buffer) 0).length +
        buffer.serializedFirstInputBits ops (desiredFirst buffer) ≤ mtuBytes * 8 := by
  have hfits := appendAcks_fits hsome
  rw [length_inputHeader]
  unfold ClientInputBuffer.ackCount desiredFirst
  dsimp only at hfits ⊢
  omega

theorem ackCount_le : buffer.ackCount ops mtuBytes packetIdBits pendingAcks ≤ min maxAckCount pendingAcks := by
  have hle : buffer.ackCount ops mtuBytes packetIdBits pendingAcks ≤
    min (min maxAckCount ((mtuBytes * 8 - fixedHeaderBits) / packetIdBits)) pendingAcks := appendAcks_le _ _
  omega

theorem serializedFirstInputBits_eq (hcount : buffer.desiredCount ≠ 0) : ∃ bytes,
    buffer.frames.find? (desiredFirst buffer) = some bytes ∧
    buffer.serializedFirstInputBits ops (desiredFirst buffer) =
      (ops.serialize (buffer.firstPrevious (desiredFirst buffer)) bytes
        (inputContext (desiredFirst buffer) (buffer.firstPrevious (desiredFirst buffer)))).length := by
  obtain ⟨bytes, hbytes⟩ := Option.isSome_iff_exists.mp (desired_recorded buffer (Nat.pos_of_ne_zero hcount))
  refine ⟨bytes, hbytes, ?_⟩
  have hfirst : desiredFirst buffer ≠ 0 := by
    rw [desiredFirst, rangeFirst, if_neg hcount]
    exact Nat.succ_ne_zero _
  unfold serializedFirstInputBits
  change buffer.frames.find? (desiredFirst buffer) = some bytes at hbytes
  simp only [hbytes, if_neg hfirst]

def firstAttempt (ops : InputOps) (buffer : ClientInputBuffer) (mtuBytes packetIdBits k : Nat) :
    List (SyncFrame × Bytes × Bits) :=
  writeInputAttempt ops buffer mtuBytes (clientAckHeaderBits + k * packetIdBits) buffer.lastRecordedFrame
    buffer.desiredCount

theorem firstAttempt_ne_nil (hcount : buffer.desiredCount ≠ 0)
    (hsome : buffer.ackCount ops mtuBytes packetIdBits pendingAcks ≠ 0) :
    firstAttempt ops buffer mtuBytes packetIdBits (buffer.ackCount ops mtuBytes packetIdBits pendingAcks) ≠ [] := by
  obtain ⟨bytes, hbytes, hbits⟩ := @serializedFirstInputBits_eq ops buffer hcount
  have hfits := ackCount_fits hsome
  rw [hbits] at hfits
  exact writeFrames_ne_nil ops (Nat.pos_of_ne_zero hcount) hbytes hfits

theorem firstAttempt_all_iff (hcount : buffer.desiredCount ≠ 0)
    (hfull : buffer.firstInputFull (desiredFirst buffer) = false) (k : Nat) :
    (firstAttempt ops buffer mtuBytes packetIdBits k).length = buffer.desiredCount ↔
      fixedHeaderBits + k * packetIdBits + (encodeInputs ops (buffer.firstPrevious (desiredFirst buffer))
        (recordedInputs buffer.frames (desiredFirst buffer) buffer.desiredCount)).length ≤ mtuBytes * 8 := by
  have hall := writeFrames_all_iff ops mtuBytes buffer.desiredCount (desiredFirst buffer)
    (buffer.firstPrevious (desiredFirst buffer))
    (clientAckHeaderBits + k * packetIdBits + (buffer.inputHeader (desiredFirst buffer) 0).length)
    (Nat.pos_of_ne_zero hcount) fun i hi => desired_recorded buffer hi
  refine hall.trans ?_
  rw [length_inputHeader, hfull, if_neg Bool.false_ne_true]
  simp only [clientAckHeaderBits, fixedHeaderBits]
  omega

/-- What is left of the first attempt at a range of which not all fits: a retry for fewer frames, each of them in full.
-/
theorem inputSuffix_retry {k : Nat} (hnonempty : firstAttempt ops buffer mtuBytes packetIdBits k ≠ [])
    (hincomplete : (firstAttempt ops buffer mtuBytes packetIdBits k).length ≠ buffer.desiredCount) :
    inputSuffix ops buffer mtuBytes packetIdBits k = appendNewestInputSuffix ops buffer mtuBytes
      (clientAckHeaderBits + k * packetIdBits) buffer.lastRecordedFrame buffer.desiredCount
      (firstAttempt ops buffer mtuBytes packetIdBits k).length ∧
    buffer.firstInputFull (rangeFirst buffer.lastRecordedFrame
      (firstAttempt ops buffer mtuBytes packetIdBits k).length) = true := by
  have hlast : buffer.desiredCount ≤ buffer.lastRecordedFrame :=
    Nat.le_trans (desiredCount_le buffer).1 (Nat.sub_le _ _)
  have hlen : (firstAttempt ops buffer mtuBytes packetIdBits k).length ≤ buffer.desiredCount :=
    (attempt_spec ops buffer mtuBytes _ buffer.desiredCount).1
  have hpos := List.length_pos_iff.mpr hnonempty
  have hretry : ¬ ((firstAttempt ops buffer mtuBytes packetIdBits k).isEmpty ||
      (firstAttempt ops buffer mtuBytes packetIdBits k).getLast?.any
        (fun written => written.1 == buffer.lastRecordedFrame)) = true := by
    simp only [Bool.or_eq_true, not_or, List.isEmpty_iff]
    exact ⟨hnonempty, fun hend =>
      hincomplete ((attempt_last_iff ops buffer _ _ (Nat.lt_of_lt_of_le hpos hlen) hlast).mp hend)⟩
  exact ⟨suffix_retry ops buffer hretry, firstInputFull_shorter hpos (Nat.lt_of_le_of_ne hlen hincomplete)⟩

/-- The retry has no room for a frame behind the long header, which is in the packet all the same. -/
theorem LongHeaderOverflows.overflows (hpos : 0 < packetIdBits)
    (h : LongHeaderOverflows ops buffer mtuBytes packetIdBits pendingAcks) :
    buffer.ackCount ops mtuBytes packetIdBits pendingAcks ≠ 0 ∧
    (inputSuffix ops buffer mtuBytes packetIdBits (buffer.ackCount ops mtuBytes packetIdBits pendingAcks)).2 = [] ∧
    mtuBytes * 8 < clientAckHeaderBits + buffer.ackCount ops mtuBytes packetIdBits pendingAcks * packetIdBits +
      (buffer.inputHeader (rangeFirst buffer.lastRecordedFrame (inputSuffix ops buffer mtuBytes packetIdBits
        (buffer.ackCount ops mtuBytes packetIdBits pendingAcks)).1) 0).length := by
  obtain ⟨-, hcount, hfull, hsome, hincomplete, hroom⟩ := h
  rw [← ackCount_relative hpos hfull] at hsome hincomplete hroom
  obtain ⟨hretry, hlonger⟩ := inputSuffix_retry (firstAttempt_ne_nil hcount hsome)
    fun hall => absurd ((firstAttempt_all_iff hcount hfull _).mp hall) (Nat.not_le.mpr hincomplete)
  have hheader :
      mtuBytes * 8 < clientAckHeaderBits + buffer.ackCount ops mtuBytes packetIdBits pendingAcks * packetIdBits +
      (buffer.inputHeader (rangeFirst buffer.lastRecordedFrame (firstAttempt ops buffer mtuBytes packetIdBits
        (buffer.ackCount ops mtuBytes packetIdBits pendingAcks)).length) 0).length := by
    rw [length_inputHeader, hlonger, if_pos rfl]
    simp only [clientAckHeaderBits, fixedHeaderBits] at hroom ⊢
    omega
  have hgone := writeFrames_full ops buffer.frames (firstAttempt ops buffer mtuBytes packetIdBits
      (buffer.ackCount ops mtuBytes packetIdBits pendingAcks)).length (rangeFirst buffer.lastRecordedFrame
      (firstAttempt ops buffer mtuBytes packetIdBits (buffer.ackCount ops mtuBytes packetIdBits pendingAcks)).length)
    (buffer.firstPrevious (rangeFirst buffer.lastRecordedFrame (firstAttempt ops buffer mtuBytes packetIdBits
      (buffer.ackCount ops mtuBytes packetIdBits pendingAcks)).length)) _ hheader
  obtain ⟨fuel, hfuel⟩ := Nat.exists_eq_succ_of_ne_zero hcount
  rw [hretry, hfuel, suffix_done ops buffer (by rw [writeInputAttempt, hgone]; rfl)]
  exact ⟨hsome, hgone, hheader⟩

theorem empty_packet_fits (hpos : 0 < packetIdBits) (hlatest : buffer.hasLatest = true)
    (hsome : buffer.ackCount ops mtuBytes packetIdBits pendingAcks ≠ 0)
    (hempty : (inputSuffix ops buffer mtuBytes packetIdBits
      (buffer.ackCount ops mtuBytes packetIdBits pendingAcks)).2 = [])
    (h : ¬ LongHeaderOverflows ops buffer mtuBytes packetIdBits pendingAcks) :
    clientAckHeaderBits + buffer.ackCount ops mtuBytes packetIdBits pendingAcks * packetIdBits +
      (buffer.inputHeader (rangeFirst buffer.lastRecordedFrame (inputSuffix ops buffer mtuBytes packetIdBits
        (buffer.ackCount ops mtuBytes packetIdBits pendingAcks)).1) 0).length ≤ mtuBytes * 8 := by
  have hfits := ackCount_fits hsome
  have hlast : buffer.desiredCount ≤ buffer.lastRecordedFrame :=
    Nat.le_trans (desiredCount_le buffer).1 (Nat.sub_le _ _)
  have hle := length_inputHeader_le buffer (rangeFirst buffer.lastRecordedFrame (inputSuffix ops buffer mtuBytes
    packetIdBits (buffer.ackCount ops mtuBytes packetIdBits pendingAcks)).1) 0
  by_cases hcount : buffer.desiredCount = 0
  · -- no frames are recorded: the header says so in both
    have hspec := appendNewestInputSuffix_spec ops buffer mtuBytes (clientAckHeaderBits +
      buffer.ackCount ops mtuBytes packetIdBits pendingAcks * packetIdBits) buffer.lastRecordedFrame
      (buffer.desiredCount + 1) buffer.desiredCount (Nat.lt_succ_self _) hlast
    have hnone : (inputSuffix ops buffer mtuBytes packetIdBits
        (buffer.ackCount ops mtuBytes packetIdBits pendingAcks)).1 = buffer.desiredCount :=
      Nat.le_antisymm hspec.1 (hcount ▸ Nat.zero_le _)
    rw [hnone]
    rw [desiredFirst] at hfits
    omega
  cases hfull : buffer.firstInputFull (desiredFirst buffer) with
  | true =>
    rw [length_inputHeader, hfull, if_pos rfl] at hfits
    omega
  | false =>
    have hnonempty := firstAttempt_ne_nil hcount hsome
    have hincomplete : (firstAttempt ops buffer mtuBytes packetIdBits
        (buffer.ackCount ops mtuBytes packetIdBits pendingAcks)).length ≠ buffer.desiredCount := by
      intro hall
      have hend := (attempt_last_iff ops buffer mtuBytes _ (Nat.pos_of_ne_zero hcount) hlast).mpr hall
      rw [inputSuffix, suffix_done ops buffer (Bool.or_eq_true_iff.mpr (.inr hend))] at hempty
      exact hnonempty hempty
    rw [Ne, firstAttempt_all_iff hcount hfull, Nat.not_le] at hincomplete
    have hroom : ¬ mtuBytes * 8 < fixedHeaderBits + 32 +
        buffer.ackCount ops mtuBytes packetIdBits pendingAcks * packetIdBits := by
      intro hroom
      rw [ackCount_relative hpos hfull] at hroom hincomplete hsome
      exact h ⟨hlatest, hcount, hfull, hsome, hincomplete, hroom⟩
    simp only [clientAckHeaderBits, fixedHeaderBits] at hroom hle ⊢
    omega

end

/-! ## What is sent -/

structure NewestInputs (ops : InputOps) (buffer : ClientInputBuffer) (input : InputPacket) : Prop where
  count : input.inputs.length ≤ maxInputCount
  recorded : ∀ i ∈ input.inputs, buffer.frames.find? i.1 = some i.2
  unsent : ∀ i ∈ input.inputs, max buffer.ackedFrame buffer.retiredTransmitFrame < i.1
  run : input.inputs = [] ∨
    input.inputs.map Prod.fst = List.range' (buffer.lastRecordedFrame + 1 - input.inputs.length) input.inputs.length
  payload : ∃ first, input.payload =
    buffer.inputHeader first input.inputs.length ++ encodeInputs ops input.previous input.inputs

/-- What `append_input_packet` promises of its result. -/
def InputPacketSound (ops : InputOps) (buffer : ClientInputBuffer) (mtuBytes packetIdBits : Nat)
    (pendingAcks : List Nat) (result : ClientInputBuffer × List Nat × Option (ClientPacket × InputPacket)) : Prop :=
  result.2.2 = none ∧ result.2.1 = pendingAcks ∨
  ∃ packet input, result.2.2 = some (packet, input) ∧ packet.rest = input.payload ∧
    bytesForBits (packet.bits packetIdBits).length ≤ mtuBytes ∧ packet.acks ++ result.2.1 = pendingAcks ∧
    packet.acks.length ≤ maxAckCount ∧ NewestInputs ops buffer input

theorem length_ackSection (packetIdBits : Nat) (acks : List Nat) :
    (ackSection packetIdBits acks).length = ackCountBits + acks.length * packetIdBits := by
  have hids : (acks.flatMap fun packetId => bits packetId packetIdBits).length = acks.length * packetIdBits := by
    induction acks with
    | nil => simp
    | cons packetId acks ih =>
      rw [List.flatMap_cons, List.length_append, length_bits, ih, List.length_cons, Nat.add_mul,
        Nat.one_mul, Nat.add_comm]
  rw [ackSection, List.length_append, length_bits, hids]

theorem length_clientPacket (packetIdBits : Nat) (packet : ClientPacket) :
    (packet.bits packetIdBits).length = clientAckHeaderBits + packet.acks.length * packetIdBits +
    packet.rest.length := by
  rw [ClientPacket.bits, List.length_append, List.length_append, length_bits, length_ackSection, clientAckHeaderBits]
  omega

section

variable (ops : InputOps) (buffer : ClientInputBuffer) (mtuBytes packetIdBits : Nat)

theorem inputSuffix_spec (k : Nat) :
    (inputSuffix ops buffer mtuBytes packetIdBits k).1 ≤ buffer.desiredCount ∧
    (inputSuffix ops buffer mtuBytes packetIdBits k).2 = writeInputAttempt ops buffer mtuBytes
      (clientAckHeaderBits + k * packetIdBits) buffer.lastRecordedFrame
        (inputSuffix ops buffer mtuBytes packetIdBits k).1 ∧
    ((inputSuffix ops buffer mtuBytes packetIdBits k).2 = [] ∨
    (inputSuffix ops buffer mtuBytes packetIdBits k).2.length =
      (inputSuffix ops buffer mtuBytes packetIdBits k).1) := by
  have hlast : buffer.desiredCount ≤ buffer.lastRecordedFrame :=
    Nat.le_trans (desiredCount_le buffer).1 (Nat.sub_le _ _)
  have hspec := appendNewestInputSuffix_spec ops buffer mtuBytes (clientAckHeaderBits + k * packetIdBits)
    buffer.lastRecordedFrame (buffer.desiredCount + 1) buffer.desiredCount (Nat.lt_succ_self _) hlast
  unfold inputSuffix
  generalize appendNewestInputSuffix ops buffer mtuBytes (clientAckHeaderBits + k * packetIdBits)
    buffer.lastRecordedFrame
    (buffer.desiredCount + 1) buffer.desiredCount = r at hspec
  obtain ⟨count, written⟩ := r
  dsimp only at hspec ⊢
  obtain ⟨hle, rfl, hend⟩ := hspec
  refine ⟨hle, rfl, ?_⟩
  rcases hend with hempty | ⟨last, hget, hsame⟩
  · exact .inl hempty
  · refine .inr ?_
    have hlen := (attempt_spec ops buffer mtuBytes (clientAckHeaderBits + k * packetIdBits) count).1
    have hpos : 0 < count := Nat.lt_of_lt_of_le (List.length_pos_of_mem (List.mem_of_getLast? hget)) hlen
    refine (attempt_last_iff ops buffer _ _ hpos (Nat.le_trans hle hlast)).mp ?_
    rw [hget]
    exact beq_iff_eq.mpr hsame

theorem newestInputs (k : Nat) : NewestInputs ops buffer
    { payload := buffer.inputHeader
          (rangeFirst buffer.lastRecordedFrame (inputSuffix ops buffer mtuBytes packetIdBits k).1)
          (inputSuffix ops buffer mtuBytes packetIdBits k).2.length ++
        (inputSuffix ops buffer mtuBytes packetIdBits k).2.flatMap fun w => w.2.2
      baselineFrame := buffer.ackedFrame
      previous := buffer.firstPrevious (rangeFirst buffer.lastRecordedFrame
        (inputSuffix ops buffer mtuBytes packetIdBits k).1)
      inputs := (inputSuffix ops buffer mtuBytes packetIdBits k).2.map fun w => (w.1, w.2.1) } := by
  obtain ⟨hle, hwritten, hend⟩ := inputSuffix_spec ops buffer mtuBytes packetIdBits k
  have hdesired := desiredCount_le buffer
  generalize inputSuffix ops buffer mtuBytes packetIdBits k = r at hle hwritten hend
  obtain ⟨count, written⟩ := r
  dsimp only at hle hwritten hend ⊢
  obtain ⟨hlen, hframes, hring, hbits⟩ := attempt_spec ops buffer mtuBytes
    (clientAckHeaderBits + k * packetIdBits) count
  rw [← hwritten] at hlen hframes hring hbits
  have hmap : (written.map fun w => (w.1, w.2.1)).map Prod.fst = written.map Prod.fst := by
    rw [List.map_map]
    rfl
  refine ⟨?_, fun i hi => ?_, fun i hi => ?_, ?_, rangeFirst buffer.lastRecordedFrame count, ?_⟩
  · rw [List.length_map]
    omega
  · obtain ⟨w, hw, rfl⟩ := List.mem_map.mp hi
    exact hring w hw
  · obtain ⟨w, hw, rfl⟩ := List.mem_map.mp hi
    have hin : w.1 ∈ written.map Prod.fst := List.mem_map_of_mem hw
    rw [hframes, List.mem_range'_1] at hin
    have hpos : 0 < count := Nat.lt_of_lt_of_le (List.length_pos_of_mem hw) hlen
    rw [rangeFirst, if_neg (Nat.ne_of_gt hpos)] at hin
    show buffer.transmitFloor < w.1
    refine Nat.lt_of_lt_of_le ?_ hin.1
    show @LT.lt Nat _ _ _
    omega
  · rcases hend with hempty | hall
    · exact .inl (by rw [hempty, List.map_nil])
    · rcases Nat.eq_zero_or_pos count with hzero | hpos
      · exact .inl (by rw [List.length_eq_zero_iff.mp (hall.trans hzero), List.map_nil])
      · refine .inr ?_
        rw [hmap, hframes, List.length_map, hall, rangeFirst, if_neg (Nat.ne_of_gt hpos)]
        have hplace : buffer.lastRecordedFrame - count + 1 = buffer.lastRecordedFrame + 1 - count := by
          show (_ : Nat) = _
          omega
        rw [hplace]
  · rw [List.length_map, hbits]

/-- `appendInputPacketTo`, by whether there is anything to send. -/
theorem appendInputPacketTo_eq (pendingAcks : List Nat) :
    buffer.appendInputPacketTo ops mtuBytes packetIdBits pendingAcks =
    let ackCount := buffer.ackCount ops mtuBytes packetIdBits pendingAcks.length
    let (count, written) := inputSuffix ops buffer mtuBytes packetIdBits ackCount
    if buffer.mayWrite mtuBytes ∧ (ackCount ≠ 0 ∨ written ≠ []) then
      let input : InputPacket :=
        { payload := buffer.inputHeader (rangeFirst buffer.lastRecordedFrame count) written.length ++
            written.flatMap fun w => w.2.2
          baselineFrame := buffer.ackedFrame
          previous := buffer.firstPrevious (rangeFirst buffer.lastRecordedFrame count)
          inputs := written.map fun w => (w.1, w.2.1) }
      ({ buffer with historyDiscontinuous := if written.isEmpty then buffer.historyDiscontinuous else false },
        pendingAcks.drop ackCount,
        some ({ message := clientInputMessage, acks := pendingAcks.take ackCount, rest := input.payload }, input))
    else (buffer, pendingAcks, none) := by
  unfold ClientInputBuffer.appendInputPacketTo
  rw [appendInputPacket_eq]
  cases buffer.mayWrite mtuBytes with
  | false => simp
  | true =>
    simp only [if_true, true_and]
    by_cases hnone : buffer.ackCount ops mtuBytes packetIdBits pendingAcks.length = 0 ∧
      (inputSuffix ops buffer mtuBytes packetIdBits (buffer.ackCount ops mtuBytes packetIdBits pendingAcks.length)).2 =
        []
    · rw [if_pos hnone, if_neg (by rw [not_or, not_not, not_not]; exact hnone)]
    · have hsome := not_and_or.mp hnone
      rw [if_neg hnone, if_pos hsome]

theorem inputPacketSound_iff (hpos : 0 < packetIdBits) (pendingAcks : List Nat) :
    InputPacketSound ops buffer mtuBytes packetIdBits pendingAcks
        (buffer.appendInputPacketTo ops mtuBytes packetIdBits pendingAcks) ↔
      ¬ LongHeaderOverflows ops buffer mtuBytes packetIdBits pendingAcks.length := by
  rw [appendInputPacketTo_eq]
  have hnewest := newestInputs ops buffer mtuBytes packetIdBits
    (buffer.ackCount ops mtuBytes packetIdBits pendingAcks.length)
  have hspec := inputSuffix_spec ops buffer mtuBytes packetIdBits
    (buffer.ackCount ops mtuBytes packetIdBits pendingAcks.length)
  have hattempt := attempt_fits ops buffer mtuBytes (clientAckHeaderBits +
    buffer.ackCount ops mtuBytes packetIdBits pendingAcks.length * packetIdBits)
    (inputSuffix ops buffer mtuBytes packetIdBits (buffer.ackCount ops mtuBytes packetIdBits pendingAcks.length)).1
  rw [← hspec.2.1] at hattempt
  dsimp only
  split
  case isFalse hnone =>
    refine iff_of_true (.inl ⟨rfl, rfl⟩) fun h => hnone ⟨?_, .inl (h.overflows hpos).1⟩
    have hfits := ackCount_fits (h.overflows hpos).1
    have hnewer := (desiredCount_le buffer).1
    have hsome := h.2.1
    rw [length_inputHeader] at hfits
    simp only [mayWrite, h.1, Bool.true_and, Bool.and_eq_true, decide_eq_true_eq, Bool.not_eq_true',
      decide_eq_false_iff_not, Nat.not_lt, gt_iff_lt]
    refine ⟨?_, ?_⟩
    · show @LT.lt Nat _ _ _
      omega
    · simp only [clientAckHeaderBits, fixedHeaderBits] at hfits ⊢
      omega
  case isTrue hsome =>
    have hlatest : buffer.hasLatest = true := by
      have hwrite := hsome.1
      simp only [mayWrite, Bool.and_eq_true] at hwrite
      exact hwrite.1.1
    have hacks : (pendingAcks.take (buffer.ackCount ops mtuBytes packetIdBits pendingAcks.length)).length =
        buffer.ackCount ops mtuBytes packetIdBits pendingAcks.length := by
      have hle : buffer.ackCount ops mtuBytes packetIdBits pendingAcks.length ≤ min maxAckCount pendingAcks.length :=
        ackCount_le
      rw [List.length_take]
      omega
    constructor
    · rintro (⟨hnone, -⟩ | ⟨packet, input, hpacket, hrest, hsize, -⟩) hlong
      · cases hnone
      · obtain ⟨-, hempty, hover⟩ := hlong.overflows hpos
        obtain ⟨rfl, rfl⟩ := Prod.mk.inj (Option.some.inj hpacket)
        rw [bytesForBits_le_iff, length_clientPacket, hacks] at hsize
        simp only [hempty, List.flatMap_nil, List.append_nil, List.length_nil] at hsize
        omega
    · intro hshort
      refine .inr ⟨_, _, rfl, rfl, ?_, List.take_append_drop _ _, ?_, hnewest⟩
      · rw [bytesForBits_le_iff, length_clientPacket, hacks, List.length_append, length_inputHeader]
        by_cases hempty : (inputSuffix ops buffer mtuBytes packetIdBits
            (buffer.ackCount ops mtuBytes packetIdBits pendingAcks.length)).2 = []
        · have hfits := empty_packet_fits hpos hlatest (hsome.2.resolve_right (not_not.mpr hempty)) hempty hshort
          rw [length_inputHeader] at hfits
          rw [hempty, List.flatMap_nil, List.length_nil]
          exact hfits
        · have hfits := hattempt.resolve_left hempty
          rw [length_inputHeader] at hfits
          omega
      · rw [hacks]
        exact Nat.le_trans ackCount_le (Nat.min_le_left _ _)

end

/-- The retries end by themselves, the room for ACKs is never negative, and the packet is as promised unless the long
header does not fit. -/
theorem input_packet_sound_iff (ops : InputOps) (buffer : ClientInputBuffer) (mtuBytes : Nat)
    (descriptor : ProtocolDescriptor) (pendingAcks : List Nat) :
    (∀ fuel, buffer.desiredCount < fuel → ∀ offset,
      appendNewestInputSuffix ops buffer mtuBytes offset buffer.lastRecordedFrame fuel buffer.desiredCount =
        appendNewestInputSuffix ops buffer mtuBytes offset buffer.lastRecordedFrame (buffer.desiredCount + 1)
          buffer.desiredCount) ∧
    (buffer.mayWrite mtuBytes = true → fixedHeaderBits ≤ mtuBytes * 8) ∧
    (InputPacketSound ops buffer mtuBytes (packetIdBits descriptor) pendingAcks
        (buffer.appendInputPacketTo ops mtuBytes (packetIdBits descriptor) pendingAcks) ↔
      ¬ LongHeaderOverflows ops buffer mtuBytes (packetIdBits descriptor) pendingAcks.length) := by
  have hlast : buffer.desiredCount ≤ buffer.lastRecordedFrame :=
    Nat.le_trans (desiredCount_le buffer).1 (Nat.sub_le _ _)
  refine ⟨fun fuel hfuel offset => suffix_fuel ops buffer _ _ _ hfuel (Nat.lt_succ_self _) hlast, fun hwrite => ?_,
    inputPacketSound_iff ops buffer mtuBytes _ (packetIdBits_pos _) pendingAcks⟩
  simp only [mayWrite, Bool.and_eq_true, Bool.not_eq_true', decide_eq_false_iff_not, Nat.not_lt] at hwrite
  exact hwrite.2

/-! ### A small frame relative to the baseline, then a large one, behind two ACKs in eight bytes -/

def deltaOps : InputOps where
  quantizedSize := 1
  quantize bytes := bytes
  serialize previous bytes _ :=
    if previous = some bytes then [true] else false :: bits (bytes.headD 0).toNat 72
  deserialize previous _ := do
    if ← readBit then pure (previous.getD []) else
      let value ← readBits 72
      pure [UInt8.ofNat value]
  sized := Nat.one_pos

def twoFramesRecorded : ClientInputBuffer :=
  let acknowledged := (((setLatest deltaOps [5] {}).recordFrame 4 1).acknowledgeFrame 1).recordFrame 4 2
  (setLatest deltaOps [6] acknowledged).recordFrame 4 3

theorem input_packet_overflows : ¬ InputPacketSound deltaOps twoFramesRecorded 8 (packetIdBits {}) [10, 11, 12]
    (twoFramesRecorded.appendInputPacketTo deltaOps 8 (packetIdBits {}) [10, 11, 12]) := by
  have hbytes : (twoFramesRecorded.appendInputPacketTo deltaOps 8 (packetIdBits {}) [10, 11, 12]).2.2.map
      (fun sent => bytesForBits (sent.1.bits (packetIdBits {})).length) = some 12 := by decide +kernel
  rintro (⟨hnone, -⟩ | ⟨packet, input, hpacket, -, hsize, -⟩)
  · rw [hnone] at hbytes
    cases hbytes
  · rw [hpacket, Option.map_some, Option.some.injEq] at hbytes
    rw [hbytes] at hsize
    exact absurd hsize (by decide)

end AshiatoSync
