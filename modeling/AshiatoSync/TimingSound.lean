import AshiatoSync.Lib.SetBits
import AshiatoSync.Lib.Window
import AshiatoSync.TimingStats
import AshiatoSync.TrackerSound

/-!
# The packet loss count is exact

The mask holds the packets received among the last ones sent, so what leaves it
unset is what the window over the packets sent has lost.
-/

namespace AshiatoSync

open ClientTimingStatsCalculator

/-! ## Masks -/

theorem countBits_eq (value : BitVec 64) : countBits value = Set.ncard {k | value.getLsbD k = true} := by
  have hindices : countBits value = value.toNat.bitIndices.length := by
    induction value using countBits.induct with
    | case1 =>
      unfold countBits
      simp
    | case2 value hvalue ih =>
      have hne : value.toNat ≠ 0 := fun hzero => hvalue (BitVec.eq_of_toNat_eq hzero)
      have hone : (1 : BitVec 64) ≤ value := BitVec.le_def.mpr (Nat.pos_of_ne_zero hne)
      have hand : (value &&& (value - 1)).toNat = value.toNat &&& (value.toNat - 1) := by
        rw [BitVec.toNat_and, BitVec.toNat_sub_of_le hone]
        rfl
      unfold countBits
      rw [dif_neg hvalue, ih, hand]
      exact SetBits.length_bitIndices_and_pred _ hne
  rw [hindices, SetBits.length_bitIndices]
  rfl

@[simp] theorem lowBitMask_getLsbD (bitCount k : Nat) :
    (lowBitMask bitCount).getLsbD k = (decide (k < 64) && decide (k < bitCount)) := by
  unfold lowBitMask
  split
  · rename_i hfull
    rw [BitVec.getLsbD_allOnes]
    by_cases hk : k < 64
    · simp [hk, Nat.lt_of_lt_of_le hk hfull]
    · simp [hk]
  · rename_i hpart
    have hpow : 2 ^ bitCount < 2 ^ 64 := Nat.pow_lt_pow_right (by decide) (Nat.not_le.mp hpart)
    have hshift : ((1 : BitVec 64) <<< bitCount).toNat = 2 ^ bitCount := by
      rw [BitVec.toNat_shiftLeft]
      show 1 <<< bitCount % 2 ^ 64 = _
      rw [Nat.shiftLeft_eq, Nat.one_mul, Nat.mod_eq_of_lt hpow]
    have hone : (1 : BitVec 64) ≤ (1 : BitVec 64) <<< bitCount :=
      BitVec.le_def.mpr (hshift.symm ▸ Nat.one_le_two_pow)
    have hpred : (((1 : BitVec 64) <<< bitCount) - 1).toNat = 2 ^ bitCount - 1 := by
      rw [BitVec.toNat_sub_of_le hone, hshift]
      rfl
    rw [BitVec.getLsbD, hpred, Nat.testBit_two_pow_sub_one]
    by_cases hk : k < bitCount
    · simp [hk, Nat.lt_trans hk (Nat.not_le.mp hpart)]
    · simp [hk]

theorem one_getLsbD (k : Nat) : (1 : BitVec 64).getLsbD k = decide (k = 0) := by
  rw [BitVec.ofNat_eq_ofNat, BitVec.getLsbD_one]
  exact Bool.true_and _

section

variable {c : ClientTimingStatsCalculator} {d packetId : Nat}

structure WindowOk (c : ClientTimingStatsCalculator) : Prop where
  below : ∀ k, c.entityUpdatePacketWindowMask.getLsbD k = true → k < c.entityUpdatePacketWindowSpan
  span : 1 ≤ c.entityUpdatePacketWindowSpan ∧ c.entityUpdatePacketWindowSpan ≤ packetIdWindowSize c.maxPacketId
  newest : c.entityUpdatePacketWindowMask.getLsbD 0 = true

theorem packetIdWindowSize_range (maxPacketId : Nat) :
    1 ≤ packetIdWindowSize maxPacketId ∧ packetIdWindowSize maxPacketId ≤ 64 := by
  unfold packetIdWindowSize entityUpdatePacketLossWindow
  split <;> omega

theorem moveWindow_getLsbD (c : ClientTimingStatsCalculator) (d packetId k : Nat) :
    (c.moveWindow d packetId).entityUpdatePacketWindowMask.getLsbD k = true ↔
      (k = 0 ∨ d ≤ k ∧ c.entityUpdatePacketWindowMask.getLsbD (k - d) = true) ∧
      k < packetIdWindowSize c.maxPacketId := by
  have hsize := packetIdWindowSize_range c.maxPacketId
  have hshift : (if d ≥ 64 then 0 else c.entityUpdatePacketWindowMask <<< d).getLsbD k =
      (decide (k < 64) && decide (d ≤ k) && c.entityUpdatePacketWindowMask.getLsbD (k - d)) := by
    split
    · rename_i hfar
      by_cases hk : k < 64
      · simp [Nat.not_le.mpr (Nat.lt_of_lt_of_le hk hfar)]
      · simp [hk]
    · rw [BitVec.getLsbD_shiftLeft]
      by_cases hdk : d ≤ k
      · simp [hdk, Nat.not_lt.mpr hdk]
      · simp [hdk]
  show (((if d ≥ 64 then 0 else c.entityUpdatePacketWindowMask <<< d) ||| 1) &&&
    lowBitMask (packetIdWindowSize c.maxPacketId)).getLsbD k = true ↔ _
  rw [BitVec.getLsbD_and, BitVec.getLsbD_or, hshift, lowBitMask_getLsbD]
  rw [one_getLsbD]
  simp only [Bool.and_eq_true, Bool.or_eq_true, decide_eq_true_eq]
  constructor
  · rintro ⟨⟨⟨-, hd⟩, hmask⟩ | hzero, -, hk⟩
    · exact ⟨.inr ⟨hd, hmask⟩, hk⟩
    · exact ⟨.inl hzero, hk⟩
  · rintro ⟨hzero | ⟨hd, hmask⟩, hk⟩
    · exact ⟨.inr hzero, by omega, hk⟩
    · exact ⟨.inl ⟨⟨by omega, hd⟩, hmask⟩, by omega, hk⟩

theorem markReceived_getLsbD (c : ClientTimingStatsCalculator) (d k : Nat) (h : c.entityUpdatePacketWindowSpan ≤ 64) :
    (c.markReceived d).entityUpdatePacketWindowMask.getLsbD k = true ↔
      c.entityUpdatePacketWindowMask.getLsbD k = true ∨ d < c.entityUpdatePacketWindowSpan ∧ k = d := by
  show (if d < c.entityUpdatePacketWindowSpan && d < 64 then
    c.entityUpdatePacketWindowMask ||| ((1 : BitVec 64) <<< d)
      else c.entityUpdatePacketWindowMask).getLsbD k = true ↔ _
  have hbit : ((1 : BitVec 64) <<< d).getLsbD k = (decide (k < 64) && decide (k = d)) := by
    rw [BitVec.getLsbD_shiftLeft, one_getLsbD]
    by_cases hkd : k = d
    · simp [hkd]
    · by_cases hlt : k < d
      · simp [hlt, hkd]
      · have hne : k - d ≠ 0 := by omega
        simp [hne, hkd]
  by_cases hd : d < c.entityUpdatePacketWindowSpan
  · have hd64 : d < 64 := Nat.lt_of_lt_of_le hd h
    rw [if_pos (by simp [hd, hd64]), BitVec.getLsbD_or, hbit]
    simp only [Bool.and_eq_true, Bool.or_eq_true, decide_eq_true_eq]
    constructor
    · rintro (hmask | ⟨-, heq⟩)
      · exact .inl hmask
      · exact .inr ⟨hd, heq⟩
    · rintro (hmask | ⟨-, heq⟩)
      · exact .inl hmask
      · exact .inr ⟨heq ▸ hd64, heq⟩
  · rw [if_neg (by simp [hd])]
    exact ⟨.inl, fun hor => hor.resolve_right fun hnot => hd hnot.1⟩

theorem WindowOk.finalizedReceived_eq (h : WindowOk c) (d : Nat) :
    c.finalizedReceived d = Set.ncard {k | c.newSpan d - d ≤ k ∧ k < c.entityUpdatePacketWindowSpan ∧
      c.entityUpdatePacketWindowMask.getLsbD k = true} := by
  have hsize := packetIdWindowSize_range c.maxPacketId
  have hspan : c.newSpan d ≤ 64 := Nat.le_trans (Nat.min_le_left _ _) hsize.2
  unfold finalizedReceived
  split
  · rename_i hd
    simp only
    have hretained : (if c.newSpan d > d then c.newSpan d - d else 0) = c.newSpan d - d := by
      split <;> omega
    rw [hretained, countBits_eq]
    congr 1
    ext k
    simp only [BitVec.getLsbD_and, BitVec.getLsbD_not, lowBitMask_getLsbD, Set.mem_ofPred_eq, Bool.and_eq_true,
      Bool.not_eq_true', Bool.and_eq_false_iff, decide_eq_true_eq, decide_eq_false_iff_not]
    constructor
    · rintro ⟨hmask, hk, hout⟩
      exact ⟨by omega, h.below k hmask, hmask⟩
    · rintro ⟨hout, hk, hmask⟩
      have := h.span
      exact ⟨hmask, by omega, by omega⟩
  · rename_i hd
    rw [countBits_eq]
    congr 1
    ext k
    simp only [Set.mem_ofPred_eq]
    constructor
    · exact fun hmask => ⟨by omega, h.below k hmask, hmask⟩
    · exact fun hk => hk.2.2

/-- No more packets leave the mask than numbers leave the window. -/
theorem WindowOk.finalizedReceived_le (h : WindowOk c) (d : Nat) : c.finalizedReceived d ≤ c.finalizedCount d := by
  have hstretch := Window.ncard_stretch (fun k => c.entityUpdatePacketWindowMask.getLsbD k = true) (c.newSpan d - d)
    c.entityUpdatePacketWindowSpan
  have hspan : c.newSpan d ≤ c.entityUpdatePacketWindowSpan + d := Nat.min_le_right _ _
  rw [h.finalizedReceived_eq, finalizedCount]
  omega

theorem WindowOk.moveWindow (h : WindowOk c) (d packetId : Nat) : WindowOk (c.moveWindow d packetId) := by
  have hsize := packetIdWindowSize_range c.maxPacketId
  have hspan := h.span
  have hnew : (c.moveWindow d packetId).entityUpdatePacketWindowSpan =
    min (packetIdWindowSize c.maxPacketId) (c.entityUpdatePacketWindowSpan + d) := rfl
  refine ⟨fun k hk => ?_, ?_, ?_⟩
  · rw [moveWindow_getLsbD] at hk
    rw [hnew]
    obtain ⟨rfl | ⟨hd, hmask⟩, hk⟩ := hk
    · omega
    · have := h.below _ hmask
      omega
  · rw [hnew]
    show 1 ≤ min _ _ ∧ min _ _ ≤ packetIdWindowSize c.maxPacketId
    omega
  · rw [moveWindow_getLsbD]
    exact ⟨.inl rfl, hsize.1⟩

theorem WindowOk.markReceived (h : WindowOk c) (d : Nat) : WindowOk (c.markReceived d) := by
  have hsize := packetIdWindowSize_range c.maxPacketId
  have hspan : c.entityUpdatePacketWindowSpan ≤ 64 := Nat.le_trans h.span.2 hsize.2
  refine ⟨fun k hk => ?_, h.span, ?_⟩
  · rcases (markReceived_getLsbD c d k hspan).mp hk with hmask | ⟨hd, rfl⟩
    · exact h.below k hmask
    · exact hd
  · exact (markReceived_getLsbD c d 0 hspan).mpr (.inl h.newest)

theorem WindowOk.recordEntityUpdatePacket (h : c.hasEntityUpdatePacketWindow = true → WindowOk c) (packetId : Nat) :
    (c.recordEntityUpdatePacket packetId).hasEntityUpdatePacketWindow = true → WindowOk
    (c.recordEntityUpdatePacket packetId) := by
  unfold ClientTimingStatsCalculator.recordEntityUpdatePacket
  split
  · exact h
  simp only
  split
  · intro _
    have hsize := packetIdWindowSize_range c.maxPacketId
    refine ⟨fun k hk => ?_, ⟨Nat.le_refl 1, hsize.1⟩, one_getLsbD 0⟩
    rw [one_getLsbD, decide_eq_true_eq] at hk
    exact Nat.lt_one_iff.mpr hk
  · rename_i hhas
    rw [Bool.not_eq_true, Bool.not_eq_false'] at hhas
    have hok : WindowOk { c with serverUpdatePacketsReceived := c.serverUpdatePacketsReceived + 1 } :=
      ⟨(h hhas).below, (h hhas).span, (h hhas).newest⟩
    split
    · exact fun _ => hok.moveWindow _ _
    · exact fun _ => hok.markReceived _

end

/-! ## The ids of the packets sent -/

section

variable {maxPacketId next p q : Nat}

theorem allocateId_succ (hmax : 1 ≤ maxPacketId) (next : Nat) :
    (allocateId maxPacketId (allocateId maxPacketId next).2).1 = (allocateId maxPacketId next).1 % maxPacketId + 1 := by
  have hrange := @allocateId_range maxPacketId next hmax
  have hnext : (allocateId maxPacketId next).2 =
    if (allocateId maxPacketId next).1 = maxPacketId then 1 else (allocateId maxPacketId next).1 + 1 := rfl
  rw [hnext]
  generalize (allocateId maxPacketId next).1 = id at hrange
  by_cases hlast : id = maxPacketId
  · rw [if_pos hlast, hlast, Nat.mod_self]
    exact if_neg (by omega)
  · rw [if_neg hlast, Nat.mod_eq_of_lt (by omega)]
    exact if_neg (by omega)

theorem sentPacketId_eq (hmax : 1 ≤ maxPacketId) (next n : Nat) :
    sentPacketId maxPacketId next n = (sentPacketId maxPacketId next 0 - 1 + n) % maxPacketId + 1 := by
  induction n with
  | zero =>
    have hrange : 1 ≤ sentPacketId maxPacketId next 0 ∧ sentPacketId maxPacketId next 0 ≤ maxPacketId :=
      @allocateId_range maxPacketId next hmax
    rw [Nat.add_zero, Nat.mod_eq_of_lt (by omega)]
    omega
  | succ n ih =>
    have hsucc : sentPacketId maxPacketId next (n + 1) = sentPacketId maxPacketId next n % maxPacketId + 1 := by
      unfold sentPacketId
      rw [Function.iterate_succ_apply']
      exact allocateId_succ hmax _
    rw [hsucc, ih, Nat.mod_add_mod, Nat.add_assoc]

theorem sentPacketId_range (hmax : 1 ≤ maxPacketId) (next n : Nat) :
    1 ≤ sentPacketId maxPacketId next n ∧ sentPacketId maxPacketId next n ≤ maxPacketId := by
  rw [sentPacketId_eq hmax]
  have := Nat.mod_lt (sentPacketId maxPacketId next 0 - 1 + n) hmax
  omega

variable (next) in
/-- The distances between two packets sent less than the id space apart. -/
theorem sentPacketId_distance (hmax : 1 ≤ maxPacketId) (hpq : p ≤ q) (hnear : q - p < maxPacketId) :
    packetIdForwardDistance (sentPacketId maxPacketId next p) (sentPacketId maxPacketId next q) maxPacketId = q - p ∧
      packetIdForwardDistance (sentPacketId maxPacketId next q) (sentPacketId maxPacketId next p) maxPacketId =
        if p = q then 0 else maxPacketId - (q - p) := by
  obtain ⟨gap, rfl⟩ := Nat.exists_eq_add_of_le hpq
  rw [Nat.add_sub_cancel_left] at hnear ⊢
  rw [sentPacketId_eq hmax next p, sentPacketId_eq hmax next (p + gap), ← Nat.add_assoc,
    ← Nat.mod_add_mod (sentPacketId maxPacketId next 0 - 1 + p)]
  have hlt := Nat.mod_lt (sentPacketId maxPacketId next 0 - 1 + p) hmax
  generalize (sentPacketId maxPacketId next 0 - 1 + p) % maxPacketId = place at hlt
  unfold packetIdForwardDistance
  by_cases hwrap : place + gap < maxPacketId
  · rw [Nat.mod_eq_of_lt hwrap]
    constructor
    · rw [if_pos (by omega)]
      omega
    · by_cases hgap : gap = 0
      · rw [if_pos (by omega), if_pos (by omega)]
        omega
      · rw [if_neg (by omega), if_neg (by omega)]
        omega
  · rw [Nat.mod_eq_sub_mod (Nat.not_lt.mp hwrap), Nat.mod_eq_of_lt (by omega)]
    constructor
    · rw [if_neg (by omega)]
      omega
    · rw [if_pos (by omega), if_neg (by omega)]
      omega

end

/-! ## The window over the packets sent -/

section

variable {c : ClientTimingStatsCalculator} {maxPacketId next : Nat} {arrivals : List Nat} {a : Nat}

structure Tracks (maxPacketId next : Nat) (arrivals : List Nat) (c : ClientTimingStatsCalculator) :
    Prop extends WindowOk c where
  maxId : c.maxPacketId = maxPacketId
  opened : c.hasEntityUpdatePacketWindow = true
  highest : c.highestEntityUpdatePacketId = sentPacketId maxPacketId next (Window.newest arrivals)
  window : Window.newest arrivals + 1 =
    Window.start (packetIdWindowSize maxPacketId) arrivals + c.entityUpdatePacketWindowSpan
  received : ∀ k, k < c.entityUpdatePacketWindowSpan → (c.entityUpdatePacketWindowMask.getLsbD k = true ↔
    Window.Received (packetIdWindowSize maxPacketId) arrivals (Window.newest arrivals - k))
  missing : c.serverUpdatePacketsMissing = (Window.lost (packetIdWindowSize maxPacketId) arrivals).ncard

/-- The bits that leave the mask are the packets received that the window leaves. -/
theorem Tracks.finalizedReceived_window (h : Tracks maxPacketId next arrivals c) {d : Nat}
    (hwindow : Window.newest arrivals + d + 1 + 1 =
      Window.start (packetIdWindowSize maxPacketId) (arrivals ++ [Window.newest arrivals + d + 1]) +
        c.newSpan (d + 1)) :
    c.finalizedReceived (d + 1) = Set.ncard {n | Window.start (packetIdWindowSize maxPacketId) arrivals ≤ n ∧
      n < Window.start (packetIdWindowSize maxPacketId) (arrivals ++ [Window.newest arrivals + d + 1]) ∧
      Window.Received (packetIdWindowSize maxPacketId) arrivals n} := by
  have hold := h.window
  have himage : {n | Window.start (packetIdWindowSize maxPacketId) arrivals ≤ n ∧
      n < Window.start (packetIdWindowSize maxPacketId) (arrivals ++ [Window.newest arrivals + d + 1]) ∧
      Window.Received (packetIdWindowSize maxPacketId) arrivals n} =
      (fun k => Window.newest arrivals - k) '' {k | c.newSpan (d + 1) - (d + 1) ≤ k ∧
      k < c.entityUpdatePacketWindowSpan ∧
        c.entityUpdatePacketWindowMask.getLsbD k = true} := by
    ext n
    simp only [Set.mem_ofPred_eq, Set.mem_image]
    constructor
    · rintro ⟨hin, hout, hreceived⟩
      have hle := Window.le_newest (Window.received_mem hreceived)
      have hback : Window.newest arrivals - (Window.newest arrivals - n) = n := by omega
      refine ⟨Window.newest arrivals - n, ⟨by omega, by omega, ?_⟩, hback⟩
      rw [h.received _ (by omega), hback]
      exact hreceived
    · rintro ⟨k, ⟨hout, hin, hmask⟩, rfl⟩
      exact ⟨by omega, by omega, (h.received k hin).mp hmask⟩
  rw [himage, h.finalizedReceived_eq, Set.InjOn.ncard_image]
  rintro i ⟨-, hi, -⟩ j ⟨-, hj, -⟩ heq
  simp only at heq
  omega

theorem Tracks.moveWindow (hmax : maxPacketId < 2 ^ 32) (h : Tracks maxPacketId next arrivals c) (hne : arrivals ≠ [])
    (hahead : Window.newest arrivals < a) (hnear : a - Window.newest arrivals < maxPacketId) :
    Tracks maxPacketId next (arrivals ++ [a])
      (c.moveWindow (a - Window.newest arrivals) (sentPacketId maxPacketId next a)) := by
  obtain ⟨d, rfl⟩ := Nat.exists_eq_add_of_lt hahead
  have hd : Window.newest arrivals + d + 1 - Window.newest arrivals = d + 1 := by omega
  rw [hd] at hnear ⊢
  have hsize := packetIdWindowSize_range maxPacketId
  have hnewest : Window.newest (arrivals ++ [Window.newest arrivals + d + 1]) = Window.newest arrivals + d + 1 := by
    rw [Window.newest_append]
    omega
  have hspan : c.newSpan (d + 1) = min (packetIdWindowSize maxPacketId) (c.entityUpdatePacketWindowSpan + (d + 1)) := by
    rw [newSpan, h.maxId]
  have hfirst := Window.first_le_newest hne
  have hwindow : Window.newest arrivals + d + 1 + 1 =
      Window.start (packetIdWindowSize maxPacketId) (arrivals ++ [Window.newest arrivals + d + 1]) +
        c.newSpan (d + 1) := by
    have hold := h.window
    rw [hspan, Window.start, hnewest, Window.first_append hne]
    rw [Window.start] at hold
    omega
  refine ⟨h.toWindowOk.moveWindow _ _, h.maxId, h.opened, ?_, ?_, fun k hk => ?_, ?_⟩
  · rw [hnewest]
    rfl
  · rw [hnewest]
    exact hwindow
  · have hk : k < c.newSpan (d + 1) := hk
    rw [moveWindow_getLsbD, hnewest, Window.received_append, h.maxId]
    constructor
    · rintro ⟨rfl | ⟨hdk, hmask⟩, -⟩
      · exact .inr ⟨rfl, by omega⟩
      · have hplace : Window.newest arrivals + d + 1 - k = Window.newest arrivals - (k - (d + 1)) := by omega
        rw [hplace]
        exact .inl ((h.received _ (h.below _ hmask)).mp hmask)
    · rintro (hreceived | ⟨hsame, -⟩)
      · have hle := Window.le_newest (Window.received_mem hreceived)
        have hplace : Window.newest arrivals + d + 1 - k = Window.newest arrivals - (k - (d + 1)) := by omega
        rw [hplace] at hreceived
        exact ⟨.inr ⟨by omega, (h.received _ (by omega)).mpr hreceived⟩, by omega⟩
      · exact ⟨.inl (by omega), by omega⟩
  · have hleaves := h.finalizedReceived_window hwindow
    have hstretch := Window.ncard_stretch (Window.Received (packetIdWindowSize maxPacketId) arrivals)
      (Window.start (packetIdWindowSize maxPacketId) arrivals)
      (Window.start (packetIdWindowSize maxPacketId) (arrivals ++ [Window.newest arrivals + d + 1]))
    have hold := h.window
    have hspans := h.span
    rw [h.maxId] at hspans
    rw [Window.ncard_lost_append hsize.1 hne]
    show (if c.finalizedCount (d + 1) ≠ 0 then c.serverUpdatePacketsMissing +
      (c.finalizedCount (d + 1) + 2 ^ 32 - c.finalizedReceived (d + 1)) % 2 ^ 32 else c.serverUpdatePacketsMissing) = _
    rw [h.missing, hleaves]
    have hcount : c.finalizedCount (d + 1) =
        Window.start (packetIdWindowSize maxPacketId) (arrivals ++ [Window.newest arrivals + d + 1]) -
          Window.start (packetIdWindowSize maxPacketId) arrivals := by
      rw [finalizedCount]
      omega
    have hsmall : c.finalizedCount (d + 1) ≤ d + 1 := by
      rw [finalizedCount]
      omega
    by_cases hzero : c.finalizedCount (d + 1) = 0
    · rw [if_neg (not_not.mpr hzero)]
      omega
    · rw [if_pos hzero]
      omega

theorem Tracks.markReceived (h : Tracks maxPacketId next arrivals c) (hne : arrivals ≠ [])
    (hbehind : a ≤ Window.newest arrivals) :
    Tracks maxPacketId next (arrivals ++ [a]) (c.markReceived (Window.newest arrivals - a)) := by
  have hsize := packetIdWindowSize_range maxPacketId
  have hspans := h.span
  rw [h.maxId] at hspans
  have hnewest : Window.newest (arrivals ++ [a]) = Window.newest arrivals := by
    rw [Window.newest_append]
    exact Nat.max_eq_left hbehind
  have hstart : Window.start (packetIdWindowSize maxPacketId) (arrivals ++ [a]) =
      Window.start (packetIdWindowSize maxPacketId) arrivals := by
    rw [Window.start, Window.start, hnewest, Window.first_append hne]
  have hold := h.window
  refine ⟨h.toWindowOk.markReceived _, h.maxId, h.opened, ?_, ?_, fun k hk => ?_, ?_⟩
  · rw [hnewest]
    exact h.highest
  · rw [hnewest, hstart]
    exact hold
  · have hk : k < c.entityUpdatePacketWindowSpan := hk
    rw [markReceived_getLsbD _ _ _ (Nat.le_trans hspans.2 hsize.2), hnewest, Window.received_append, hstart,
      h.received k hk]
    refine or_congr_right ⟨?_, ?_⟩
    · rintro ⟨hin, rfl⟩
      exact ⟨by omega, by omega⟩
    · rintro ⟨heq, hin⟩
      exact ⟨by omega, by omega⟩
  · rw [Window.ncard_lost_append hsize.1 hne, hstart]
    have hnone : {n | Window.start (packetIdWindowSize maxPacketId) arrivals ≤ n ∧
        n < Window.start (packetIdWindowSize maxPacketId) arrivals ∧
        ¬ Window.Received (packetIdWindowSize maxPacketId) arrivals n} = ∅ :=
      Set.eq_empty_iff_forall_notMem.mpr fun n hn => absurd hn.2.1 (Nat.not_lt.mpr hn.1)
    rw [hnone, Set.ncard_empty, Nat.add_zero]
    exact h.missing

theorem Tracks.received_irrelevant (h : Tracks maxPacketId next arrivals c) (received : Nat) :
    Tracks maxPacketId next arrivals { c with serverUpdatePacketsReceived := received } :=
  ⟨⟨h.below, h.span, h.newest⟩, h.maxId, h.opened, h.highest, h.window, h.received, h.missing⟩

/-- A packet less than half the id space from the newest one takes the window along, or is in it or behind it. -/
theorem Tracks.arrive (hmax : 1 ≤ maxPacketId ∧ maxPacketId < 2 ^ 32)
    (h : Tracks maxPacketId next arrivals c) (hne : arrivals ≠ [])
    (hnear : 2 * (a - Window.newest arrivals) < maxPacketId ∧ 2 * (Window.newest arrivals - a) < maxPacketId) :
    Tracks maxPacketId next (arrivals ++ [a])
      (if c.isAhead (sentPacketId maxPacketId next a) then
        c.moveWindow
          (packetIdForwardDistance c.highestEntityUpdatePacketId (sentPacketId maxPacketId next a) c.maxPacketId)
          (sentPacketId maxPacketId next a)
      else
        c.markReceived
          (packetIdForwardDistance (sentPacketId maxPacketId next a) c.highestEntityUpdatePacketId c.maxPacketId)) := by
  rcases Nat.lt_or_ge (Window.newest arrivals) a with hahead | hbehind
  · obtain ⟨hforward, hbackward⟩ := sentPacketId_distance next hmax.1 (Nat.le_of_lt hahead) (by omega)
    rw [if_neg (Nat.ne_of_lt hahead)] at hbackward
    have hisAhead : c.isAhead (sentPacketId maxPacketId next a) = true := by
      simp only [isAhead, h.highest, h.maxId, hforward, hbackward, Bool.and_eq_true, bne_iff_ne, ne_eq,
        decide_eq_true_eq]
      omega
    rw [if_pos hisAhead, h.highest, h.maxId, hforward]
    exact h.moveWindow hmax.2 hne hahead (by omega)
  · obtain ⟨hbackward, hforward⟩ := sentPacketId_distance next hmax.1 hbehind (by omega)
    have hisAhead : ¬ c.isAhead (sentPacketId maxPacketId next a) = true := by
      simp only [isAhead, h.highest, h.maxId, hforward, hbackward, Bool.and_eq_true, bne_iff_ne, ne_eq,
        decide_eq_true_eq]
      split <;> omega
    rw [if_neg hisAhead, h.highest, h.maxId, hbackward]
    exact h.markReceived hne hbehind

theorem valid_sent (hmax : 1 ≤ maxPacketId) (hc : c.maxPacketId = maxPacketId) (next a : Nat) :
    ¬ (sentPacketId maxPacketId next a = 0 || sentPacketId maxPacketId next a > c.maxPacketId) = true := by
  have hid := sentPacketId_range hmax next a
  rw [hc]
  simp only [Bool.or_eq_true, decide_eq_true_eq]
  omega

theorem Tracks.recordEntityUpdatePacket (hmax : 1 ≤ maxPacketId ∧ maxPacketId < 2 ^ 32)
    (h : Tracks maxPacketId next arrivals c) (hne : arrivals ≠ [])
    (hnear : 2 * (a - Window.newest arrivals) < maxPacketId ∧ 2 * (Window.newest arrivals - a) < maxPacketId) :
    Tracks maxPacketId next (arrivals ++ [a]) (c.recordEntityUpdatePacket (sentPacketId maxPacketId next a)) := by
  have hopened : ¬ (!c.hasEntityUpdatePacketWindow) = true := by
    rw [h.opened]
    decide
  unfold ClientTimingStatsCalculator.recordEntityUpdatePacket
  rw [if_neg (valid_sent hmax.1 h.maxId next a)]
  simp only
  rw [if_neg hopened]
  exact (h.received_irrelevant (c.serverUpdatePacketsReceived + 1)).arrive hmax hne hnear

theorem Tracks.first (hmax : 1 ≤ maxPacketId) (hc : c.maxPacketId = maxPacketId)
    (hclosed : c.hasEntityUpdatePacketWindow = false) (hmissing : c.serverUpdatePacketsMissing = 0) (a : Nat) :
    Tracks maxPacketId next [a] (c.recordEntityUpdatePacket (sentPacketId maxPacketId next a)) := by
  have hsize := packetIdWindowSize_range maxPacketId
  have hok := WindowOk.recordEntityUpdatePacket (c := c) (fun hopen => absurd hopen (by rw [hclosed]; decide))
    (sentPacketId maxPacketId next a)
  unfold ClientTimingStatsCalculator.recordEntityUpdatePacket at hok ⊢
  rw [if_neg (valid_sent hmax hc next a)] at hok ⊢
  simp only [hclosed, Bool.not_false, if_true] at hok ⊢
  refine ⟨hok trivial, hc, rfl, ?_, ?_, fun k hk => ?_, ?_⟩
  · rw [Window.newest_singleton]
  · rw [Window.newest_singleton, Window.start_singleton hsize.1]
  · obtain rfl : k = 0 := Nat.lt_one_iff.mp hk
    rw [Window.newest_singleton]
    exact iff_of_true (one_getLsbD 0) (Window.received_first hsize.1 (List.cons_ne_nil a []))
  · rw [Window.lost_singleton hsize.1, Set.ncard_empty]
    exact hmissing

/-- Every arrival is less than half the id space away from the newest one before it. -/
def NearNewest (maxPacketId : Nat) (arrivals : List Nat) : Prop :=
  ∀ earlier a later, arrivals = earlier ++ a :: later → earlier ≠ [] →
    2 * (a - Window.newest earlier) < maxPacketId ∧ 2 * (Window.newest earlier - a) < maxPacketId

theorem NearNewest.of_append (h : NearNewest maxPacketId (arrivals ++ [a])) : NearNewest maxPacketId arrivals := by
  intro earlier b later heq
  refine h earlier b (later ++ [a]) ?_
  rw [heq, List.append_assoc, List.cons_append]

theorem packetIdMask_range (maxPending : Nat) :
    1 ≤ packetIdMask (packetIdBitsForMaxPending maxPending) ∧
    packetIdMask (packetIdBitsForMaxPending maxPending) < 2 ^ 32 := by
  have hbits := packetIdBits_pos maxPending
  generalize packetIdBitsForMaxPending maxPending = bits at hbits
  unfold packetIdMask
  split
  · decide
  · rename_i hfit
    have hlow : 2 ^ 1 ≤ 2 ^ bits := Nat.pow_le_pow_right (by decide) hbits
    have hhigh : 2 ^ bits < 2 ^ 32 := Nat.pow_lt_pow_right (by decide) (Nat.not_le.mp hfit)
    omega

theorem Tracks.record (maxPending : Nat)
    (hnear : NearNewest (packetIdMask (packetIdBitsForMaxPending maxPending)) arrivals) (hne : arrivals ≠ []) :
    Tracks (packetIdMask (packetIdBitsForMaxPending maxPending)) next arrivals
      (record maxPending (arrivals.map (sentPacketId (packetIdMask (packetIdBitsForMaxPending maxPending)) next))) := by
  have hmax := packetIdMask_range maxPending
  induction arrivals using List.reverseRecOn with
  | nil => exact absurd rfl hne
  | append_singleton rest a ih =>
    rw [ClientTimingStatsCalculator.record, List.map_append, List.foldl_append]
    by_cases hrest : rest = []
    · rw [hrest]
      exact Tracks.first hmax.1 rfl rfl rfl a
    · exact (ih hnear.of_append hrest).recordEntityUpdatePacket hmax hrest (hnear rest a [] rfl hrest)

theorem windowOk_record (maxPending : Nat) (packetIds : List Nat) :
    (record maxPending packetIds).hasEntityUpdatePacketWindow = true → WindowOk (record maxPending packetIds) := by
  induction packetIds using List.reverseRecOn with
  | nil => exact fun h => absurd h Bool.false_ne_true
  | append_singleton rest packetId ih =>
    rw [ClientTimingStatsCalculator.record, List.foldl_append]
    exact WindowOk.recordEntityUpdatePacket ih packetId

/-- Whatever the ids, the window is well formed and its counts do not underflow; when the ids are those of packets
sent in a row, none of which arrives half the id space away from the newest one, the packets missing are exactly
those the window lost. -/
theorem packet_loss_window (maxPending : Nat) :
    (∀ packetIds, (record maxPending packetIds).hasEntityUpdatePacketWindow = true →
      WindowOk (record maxPending packetIds) ∧
        ∀ d, (record maxPending packetIds).finalizedReceived d ≤ (record maxPending packetIds).finalizedCount d) ∧
    ∀ (maxPacketId next : Nat) (arrivals : List Nat), maxPacketId = (new maxPending).maxPacketId →
    arrivals ≠ [] →
      NearNewest maxPacketId arrivals →
        let c := record maxPending (arrivals.map (sentPacketId maxPacketId next))
        c.highestEntityUpdatePacketId = sentPacketId maxPacketId next (Window.newest arrivals) ∧
        Window.newest arrivals + 1 =
          Window.start (packetIdWindowSize maxPacketId) arrivals + c.entityUpdatePacketWindowSpan ∧
        c.serverUpdatePacketsMissing = (Window.lost (packetIdWindowSize maxPacketId) arrivals).ncard := by
  refine ⟨fun packetIds hopen => ?_, ?_⟩
  · have hok := windowOk_record maxPending packetIds hopen
    exact ⟨hok, hok.finalizedReceived_le⟩
  · rintro _ next arrivals rfl hne hnear
    have h : Tracks _ next arrivals _ := Tracks.record maxPending hnear hne
    exact ⟨h.highest, h.window, h.missing⟩

end

/-! ### The packets 0, 3, 2 and 6, of which 2 is late and 1 is lost -/

theorem nearNewest_late : NearNewest 7 [0, 3, 2, 6] := by
  intro earlier a later heq hne
  rcases earlier with _ | ⟨x, _ | ⟨y, _ | ⟨z, _ | ⟨w, rest⟩⟩⟩⟩
  · exact absurd rfl hne
  · obtain ⟨rfl, rfl, rfl⟩ : 0 = x ∧ 3 = a ∧ [2, 6] = later := by simpa using heq
    decide
  · obtain ⟨rfl, rfl, rfl, rfl⟩ : 0 = x ∧ 3 = y ∧ 2 = a ∧ [6] = later := by simpa using heq
    decide
  · obtain ⟨rfl, rfl, rfl, rfl, rfl⟩ : 0 = x ∧ 3 = y ∧ 2 = z ∧ 6 = a ∧ [] = later := by simpa using heq
    decide
  · simp at heq

theorem packet_loss_window_late :
    (record 7 ([0, 3, 2, 6].map (sentPacketId 7 1))).highestEntityUpdatePacketId = sentPacketId 7 1 6 ∧
      (record 7 ([0, 3, 2, 6].map (sentPacketId 7 1))).serverUpdatePacketsMissing =
        (Window.lost 3 [0, 3, 2, 6]).ncard := by
  obtain ⟨hhighest, -, hmissing⟩ :=
    (packet_loss_window 7).2 7 1 [0, 3, 2, 6] (by decide) (by decide) nearNewest_late
  exact ⟨hhighest, hmissing⟩

end AshiatoSync
