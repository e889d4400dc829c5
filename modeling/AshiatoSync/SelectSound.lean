import AshiatoSync.InputRuns

/-!
# The input of every frame

Payloads arrive between the selections of one due frame after the other.  A ring
that no frame outruns by its capacity still holds every frame that is to come.
-/

namespace AshiatoSync

open BitCodec

/-! ## Runs -/

/-- The buffer and the next due frame, with every stored input and every frame applied as new, newest first. -/
structure InputSchedule where
  buffer : ServerInputBuffer := {}
  due : SyncFrame
  stored : List (SyncFrame × Bytes) := []
  applied : List SyncFrame := []
  deriving DecidableEq, Repr

namespace InputSchedule

def received (ops : InputOps) (capacityFrames : Nat) (packet : Bits) (s : InputSchedule) : InputSchedule :=
  { s with
    buffer := (s.buffer.processPacketPayload ops capacityFrames packet).1
    stored := (s.buffer.storedBy ops capacityFrames packet).reverse ++ s.stored }

def selected (result : ServerInputBuffer × ServerInputForFrame) (s : InputSchedule) : InputSchedule :=
  { s with
    buffer := result.1
    due := s.due + 1
    applied :=
      if result.1.stats.inputFramesApplied = s.buffer.stats.inputFramesApplied then s.applied
      else result.2.inputFrame :: s.applied }

def select (ops : InputOps) (fuel : Nat) (s : InputSchedule) : Option (ServerInputBuffer × ServerInputForFrame) :=
  s.buffer.selectInputForFrame ops.quantizedSize s.due fuel

inductive Reachable (ops : InputOps) (capacityFrames : Nat) (firstDue : SyncFrame) : InputSchedule → Prop
  | start : Reachable ops capacityFrames firstDue { due := firstDue }
  | receive {s : InputSchedule} (packet : Bits)
    (window : ∀ input ∈ s.buffer.storedBy ops capacityFrames packet, input.1 < s.due + capacityFrames) :
    Reachable ops capacityFrames firstDue s →
    Reachable ops capacityFrames firstDue (s.received ops capacityFrames packet)
  | select {s : InputSchedule} (fuel : Nat) {result : ServerInputBuffer × ServerInputForFrame}
    (below : s.due < 2 ^ 32 - 1) (ends : s.select ops fuel = some result) :
    Reachable ops capacityFrames firstDue s → Reachable ops capacityFrames firstDue (s.selected result)

end InputSchedule

def InputOps.Fills (ops : InputOps) : Prop :=
  ∀ (previous : Option Bytes) (context : SerializationContext) (stream : Bits) (decoded : Bytes) (rest : Bits),
    (∀ bytes ∈ previous, bytes.length = ops.quantizedSize) →
    ops.deserialize previous context stream = some (decoded, rest) → decoded.length = ops.quantizedSize

/-! ## What is selected -/

/-- The frame a late selection looks for: behind the latest applied one and not older than the ring is long. -/
def InputSchedule.InWindow (capacityFrames : Nat) (s : InputSchedule) (frame : SyncFrame) : Prop :=
  s.buffer.latestAppliedInputFrame < frame ∧ s.due < frame + capacityFrames ∧ frame < s.due

/-- What `select_input_for_frame` of the due frame returns, leaves as applied and counts. -/
inductive Selection (capacityFrames : Nat) (s : InputSchedule) : ServerInputBuffer × ServerInputForFrame → Prop
  | onTime {result} {bytes : Bytes} (stored : (s.due, bytes) ∈ s.stored)
    (selects : result.2 = { bytes := some bytes, inputFrame := s.due })
    (applies : result.1.latestAppliedInputFrame = s.due ∧ result.1.latestAppliedInput = bytes)
    (counts : result.1.stats =
      { s.buffer.stats with
        latestAppliedInputFrame := s.due
        inputFramesApplied := s.buffer.stats.inputFramesApplied + 1 }) : Selection capacityFrames s result
  | late {result} {frame : SyncFrame} {bytes : Bytes} (missing : ∀ bytes, (s.due, bytes) ∉ s.stored)
    (held : s.buffer.inputFrames.find? frame = some bytes) (window : s.InWindow capacityFrames frame)
    (newest : ∀ g, frame < g → g < s.due → s.buffer.inputFrames.find? g = none)
    (selects : result.2 = { bytes := some bytes, inputFrame := frame })
    (applies : result.1.latestAppliedInputFrame = frame ∧ result.1.latestAppliedInput = bytes)
    (counts : result.1.stats =
      { s.buffer.stats with
        latestAppliedInputFrame := frame
        inputFramesApplied := s.buffer.stats.inputFramesApplied + 1
        inputStarvationFrames := s.buffer.stats.inputStarvationFrames + 1 }) : Selection capacityFrames s result
  | reused {result} (missing : ∀ bytes, (s.due, bytes) ∉ s.stored)
    (empty : ∀ g, s.InWindow capacityFrames g → s.buffer.inputFrames.find? g = none)
    (before : s.buffer.hasLatestAppliedInput = true)
    (selects : result.2 =
      { bytes := some s.buffer.latestAppliedInput, inputFrame := s.buffer.latestAppliedInputFrame })
    (applies : result.1.latestAppliedInputFrame = s.buffer.latestAppliedInputFrame ∧
      result.1.latestAppliedInput = s.buffer.latestAppliedInput)
    (counts : result.1.stats =
      { s.buffer.stats with
        inputStarvationFrames := s.buffer.stats.inputStarvationFrames + 1
        inputReusedFrames := s.buffer.stats.inputReusedFrames + 1 }) : Selection capacityFrames s result
  | starved {result} (missing : ∀ bytes, (s.due, bytes) ∉ s.stored)
    (empty : ∀ g, s.InWindow capacityFrames g → s.buffer.inputFrames.find? g = none)
    (before : s.buffer.hasLatestAppliedInput = false)
    (selects : result.2 = { bytes := none, inputFrame := 0 })
    (applies : result.1.latestAppliedInputFrame = s.buffer.latestAppliedInputFrame ∧
      result.1.latestAppliedInput = s.buffer.latestAppliedInput)
    (counts : result.1.stats =
      { s.buffer.stats with inputStarvationFrames := s.buffer.stats.inputStarvationFrames + 1 }) :
    Selection capacityFrames s result

/-! ## The loop -/

section

variable {quantizedSize : Nat} {due : SyncFrame} {buffer : ServerInputBuffer}

def NewestFrom (quantizedSize : Nat) (due : SyncFrame) (buffer : ServerInputBuffer) (frame : SyncFrame)
    (best result : Option (SyncFrame × Bytes)) : Prop :=
  (∃ f bytes, result = some (f, bytes) ∧ frame ≤ f ∧ f ≤ due ∧
  buffer.inputAt quantizedSize f = some bytes ∧
    ∀ g, f < g → g ≤ due → buffer.inputAt quantizedSize g = none) ∨
  (result = best ∧ ∀ g, frame ≤ g → g ≤ due → buffer.inputAt quantizedSize g = none)

theorem selectLoop_newest (hdue : due < 2 ^ 32 - 1) : ∀ (fuel : Nat) (frame : SyncFrame)
    (best : Option (SyncFrame × Bytes)), due + 1 < fuel + frame → 0 < fuel →
    ∃ result, ServerInputBuffer.selectLoop quantizedSize due buffer fuel frame best = some result ∧
      NewestFrom quantizedSize due buffer frame best result := by
  intro fuel
  induction fuel with
  | zero => intro _ _ _ h; cases h
  | succ fuel ih =>
    intro frame best hfuel _
    unfold ServerInputBuffer.selectLoop
    by_cases hle : frame ≤ due
    case neg =>
      rw [if_neg hle]
      refine ⟨best, rfl, .inr ⟨rfl, fun g hg hgd => absurd (Nat.le_trans hg hgd) hle⟩⟩
    case pos =>
      -- the counter does not wrap below the last frame number
      have hnext : (frame + 1) % 2 ^ 32 = frame + 1 :=
        Nat.mod_eq_of_lt (Nat.lt_of_le_of_lt (Nat.succ_le_succ hle) (Nat.add_lt_of_lt_sub hdue))
      rw [if_pos hle, hnext]
      have hfuel' : due + 1 < fuel + (frame + 1) := by
        rw [Nat.add_comm frame 1, ← Nat.add_assoc]
        exact hfuel
      have hpos : 0 < fuel := by
        rcases Nat.eq_zero_or_pos fuel with rfl | hpos
        · exact absurd hle (Nat.not_le.mpr (Nat.lt_of_succ_lt_succ (by simpa [Nat.add_comm] using hfuel')))
        · exact hpos
      cases hat : buffer.inputAt quantizedSize frame with
      | some bytes =>
        obtain ⟨result, hresult, hnewest⟩ := ih (frame + 1) (some (frame, bytes)) hfuel' hpos
        refine ⟨result, hresult, ?_⟩
        rcases hnewest with ⟨f, bytes, hf, hframe, hrest⟩ | ⟨hbest, hnone⟩
        · exact .inl ⟨f, bytes, hf, Nat.le_of_succ_le hframe, hrest⟩
        · exact .inl ⟨frame, bytes, hbest, Nat.le_refl _, hle, hat, hnone⟩
      | none =>
        obtain ⟨result, hresult, hnewest⟩ := ih (frame + 1) best hfuel' hpos
        refine ⟨result, hresult, ?_⟩
        rcases hnewest with ⟨f, bytes, hf, hframe, hrest⟩ | ⟨hbest, hnone⟩
        · exact .inl ⟨f, bytes, hf, Nat.le_of_succ_le hframe, hrest⟩
        · refine .inr ⟨hbest, fun g hg hgd => ?_⟩
          rcases Nat.eq_or_lt_of_le hg with rfl | hlt
          · exact hat
          · exact hnone g hlt hgd

end

/-! ## Rings of a power of two -/

section

variable {ring : InputRing} {bits : Nat} {frame g : SyncFrame} {bytes : Bytes}

theorem slotFor_eq_mod (hlen : ring.length = 2 ^ bits) (frame : SyncFrame) : ring.slotFor frame = frame % 2 ^ bits := by
  rw [InputRing.slotFor, hlen, Nat.and_two_pow_sub_one_eq_mod]

theorem isEmpty_eq_false (hlen : ring.length = 2 ^ bits) : ring.isEmpty = false := by
  apply Bool.eq_false_iff.mpr
  intro hnil
  rw [List.isEmpty_iff.mp hnil] at hlen
  exact absurd hlen.symm (Nat.ne_of_gt (Nat.two_pow_pos bits))

theorem find?_record_self (hlen : ring.length = 2 ^ bits) (frame : SyncFrame) (bytes : Bytes) :
    (ring.record frame bytes).find? frame = some bytes := by
  have hlt : frame % 2 ^ bits < 2 ^ bits := Nat.mod_lt _ (Nat.two_pow_pos bits)
  have hlen' : (ring.record frame bytes).length = 2 ^ bits := by rw [InputRing.record, List.length_set, hlen]
  rw [InputRing.find?, slotFor_eq_mod hlen', InputRing.record, slotFor_eq_mod hlen]
  simp [hlen, hlt]

theorem find?_record_later (hlen : ring.length = 2 ^ bits) (hlt : g < frame) (hnear : frame < g + 2 ^ bits)
    (bytes : Bytes) : (ring.record frame bytes).find? g = ring.find? g := by
  have hlen' : (ring.record frame bytes).length = 2 ^ bits := by rw [InputRing.record, List.length_set, hlen]
  have hne : frame % 2 ^ bits ≠ g % 2 ^ bits := by
    have h := @Ring.mod_ne_of_lt (2 ^ bits) 0 g frame hlt hnear
    rw [Nat.zero_add, Nat.zero_add] at h
    exact h.symm
  rw [InputRing.find?, InputRing.find?, slotFor_eq_mod hlen', slotFor_eq_mod hlen, InputRing.record,
    slotFor_eq_mod hlen, List.getElem?_set_ne hne]

end

/-! ## The invariant -/

structure InputSchedule.Inv (quantizedSize capacityFrames : Nat) (s : InputSchedule) : Prop where
  ring : s.buffer.inputFrames = [] ∧ s.stored = [] ∨ s.buffer.inputFrames.length = capacityFrames
  positive : ∀ input ∈ s.stored, 0 < input.1
  below : ∀ input ∈ s.stored, input.1 ≤ s.buffer.inputAckFrame
  rising : s.stored.Pairwise fun later earlier => earlier.1 < later.1
  sized : ∀ input ∈ s.stored, input.2.length = quantizedSize
  held : ∀ {frame bytes}, s.buffer.inputFrames.find? frame = some bytes → (frame, bytes) ∈ s.stored
  kept : ∀ {frame bytes}, (frame, bytes) ∈ s.stored → s.due ≤ frame →
    s.buffer.inputFrames.find? frame = some bytes
  appliedBefore : s.buffer.latestAppliedInputFrame = 0 ∨ s.buffer.latestAppliedInputFrame < s.due
  appliedSized : s.buffer.hasLatestAppliedInput = true → s.buffer.latestAppliedInput.length = quantizedSize
  appliedOnce : s.applied.Pairwise fun later earlier => earlier < later
  appliedLast : ∀ frame ∈ s.applied, frame ≤ s.buffer.latestAppliedInputFrame

section

variable {ops : InputOps} {bits : Nat} {s : InputSchedule}

theorem decodeInputs_sized (hops : ops.Fills) (first : SyncFrame) (full : Bool) :
    ∀ (n index : Nat) (previous : Bytes) (stream : Bits) (buffer : ServerInputBuffer),
    previous.length = ops.quantizedSize →
    ∀ input ∈ (ServerInputBuffer.decodeInputs ops first full n index previous stream buffer).2,
      input.2.length = ops.quantizedSize := by
  intro n
  induction n with
  | zero =>
    intro _ _ _ _ _ input hinput
    cases hinput
  | succ n ih =>
    intro index previous stream buffer hprevious input hinput
    simp only [ServerInputBuffer.decodeInputs] at hinput
    cases hread : ops.deserialize (if index == 0 && full then none else some previous)
        (inputContext ((first + index) % 2 ^ 32) (if index == 0 && full then none else some previous)) stream with
    | none =>
      rw [hread] at hinput
      cases hinput
    | some result =>
      obtain ⟨decoded, rest⟩ := result
      rw [hread] at hinput
      have hdecoded : decoded.length = ops.quantizedSize := by
        apply hops _ _ _ _ _ _ hread
        intro bytes hbytes
        split at hbytes
        · cases hbytes
        · cases hbytes
          exact hprevious
      by_cases hstuck : rest.length = stream.length
      case pos =>
        simp only [hstuck, if_true] at hinput
        cases hinput
      case neg =>
        simp only [hstuck, if_false] at hinput
        rcases List.mem_cons.mp hinput with rfl | hinput
        · exact hdecoded
        · exact ih _ _ _ _ hdecoded input hinput

theorem findBaseline_sized {buffer : ServerInputBuffer} {frame : SyncFrame} {previous : Bytes}
    (h : ServerInputBuffer.findBaseline ops frame buffer = some previous) :
    previous.length = ops.quantizedSize := by
  unfold ServerInputBuffer.findBaseline at h
  cases hring : (buffer.inputFrames.find? frame).filter fun bytes => bytes.length == ops.quantizedSize with
  | some bytes =>
    rw [hring] at h
    cases h
    exact beq_iff_eq.mp (Option.filter_eq_some_iff.mp hring).2
  | none =>
    rw [hring] at h
    obtain ⟨hlatest, hbytes⟩ := Option.ite_none_right_eq_some.mp h
    simp only [Bool.and_eq_true, beq_iff_eq] at hlatest
    cases hbytes
    exact hlatest.2

theorem processPacketPayload_sized (hops : ops.Fills) (capacityFrames : Nat) (packet : Bits)
    (buffer : ServerInputBuffer) : ∀ input ∈ (buffer.processPacketPayload ops capacityFrames packet).2,
      input.2.length = ops.quantizedSize := by
  rcases processPacketPayload_cases ops capacityFrames packet buffer with
    hnone | ⟨header, stream, previous, _, hprevious, hresult⟩
  case inl =>
    rw [hnone]
    intro input hinput
    cases hinput
  case inr =>
    rw [hresult]
    apply decodeInputs_sized hops
    split at hprevious
    · exact findBaseline_sized hprevious
    · cases hprevious
      exact List.length_replicate

theorem InputSchedule.Inv.storeFrame (h : s.Inv ops.quantizedSize (2 ^ bits))
    (hring : s.buffer.inputFrames.length = 2 ^ bits) {frame : SyncFrame} {bytes : Bytes}
    (hnew : s.buffer.inputAckFrame < frame) (hwindow : frame < s.due + 2 ^ bits)
    (hsize : bytes.length = ops.quantizedSize) :
    ({ s with
      buffer := s.buffer.storeFrame frame bytes
      stored := (frame, bytes) :: s.stored } : InputSchedule).Inv ops.quantizedSize (2 ^ bits) := by
  rw [ServerInputBuffer.storeFrame, if_pos hnew]
  have hlater : ∀ input ∈ s.stored, input.1 < frame := fun input hinput =>
    Nat.lt_of_le_of_lt (h.below input hinput) hnew
  exact
    { ring := .inr (by rw [InputRing.record, List.length_set, hring])
      positive := by
        intro input hinput
        rcases List.mem_cons.mp hinput with rfl | hinput
        · exact Nat.zero_lt_of_lt hnew
        · exact h.positive input hinput
      below := by
        intro input hinput
        rcases List.mem_cons.mp hinput with rfl | hinput
        · exact Nat.le_refl _
        · exact Nat.le_of_lt (hlater input hinput)
      rising := List.pairwise_cons.mpr ⟨hlater, h.rising⟩
      sized := by
        intro input hinput
        rcases List.mem_cons.mp hinput with rfl | hinput
        · exact hsize
        · exact h.sized input hinput
      held := by
        intro g x hfind
        rcases find?_record hfind with ⟨rfl, rfl⟩ | hfind
        · exact List.mem_cons_self
        · exact List.mem_cons_of_mem _ (h.held hfind)
      kept := by
        intro g x hmem hdue
        rcases List.mem_cons.mp hmem with heq | hmem
        · cases heq
          exact find?_record_self hring _ _
        · rw [find?_record_later hring (hlater _ hmem) (Nat.lt_of_lt_of_le hwindow (Nat.add_le_add_right hdue _))]
          exact h.kept hmem hdue
      appliedBefore := h.appliedBefore
      appliedSized := h.appliedSized
      appliedOnce := h.appliedOnce
      appliedLast := h.appliedLast }

theorem InputSchedule.Inv.storeAll (inputs : List (SyncFrame × Bytes)) :
    ∀ {s : InputSchedule}, s.Inv ops.quantizedSize (2 ^ bits) → s.buffer.inputFrames.length = 2 ^ bits →
    (∀ input ∈ inputs, input.2.length = ops.quantizedSize) →
    (∀ input ∈ ServerInputBuffer.acceptedInputs s.buffer.inputAckFrame inputs, input.1 < s.due + 2 ^ bits) →
    ({ s with
      buffer := s.buffer.storeAll inputs
      stored := (ServerInputBuffer.acceptedInputs s.buffer.inputAckFrame inputs).reverse ++ s.stored } :
        InputSchedule).Inv ops.quantizedSize (2 ^ bits) := by
  induction inputs with
  | nil =>
    intro s h _ _ _
    exact h
  | cons input inputs ih =>
    intro s h hring hsized hwindow
    have hsized' := fun x hx => hsized x (List.mem_cons_of_mem _ hx)
    rw [ServerInputBuffer.acceptedInputs] at hwindow ⊢
    by_cases hnew : input.1 > s.buffer.inputAckFrame
    case pos =>
      rw [if_pos hnew] at hwindow ⊢
      have hstored := h.storeFrame hring hnew (hwindow _ List.mem_cons_self) (hsized _ List.mem_cons_self)
      have hack : (s.buffer.storeFrame input.1 input.2).inputAckFrame = input.1 := by
        rw [ServerInputBuffer.storeFrame, if_pos hnew]
      have hlen : (s.buffer.storeFrame input.1 input.2).inputFrames.length = 2 ^ bits := by
        rw [ServerInputBuffer.storeFrame, if_pos hnew]
        exact (List.length_set ..).trans hring
      have hrest := ih hstored hlen hsized' (by
        rw [hack]
        exact fun x hx => hwindow x (List.mem_cons_of_mem _ hx))
      simp only [hack] at hrest
      simpa [ServerInputBuffer.storeAll] using hrest
    case neg =>
      rw [if_neg hnew] at hwindow ⊢
      have hsame : s.buffer.storeFrame input.1 input.2 = s.buffer := by
        rw [ServerInputBuffer.storeFrame, if_neg hnew]
      have hrest := ih h hring hsized' hwindow
      simpa [ServerInputBuffer.storeAll, hsame] using hrest

theorem InputSchedule.Inv.raise (h : s.Inv ops.quantizedSize (2 ^ bits)) (packet : Bits) :
    ({ s with buffer := s.buffer.raisedBy packet } : InputSchedule).Inv ops.quantizedSize (2 ^ bits) := by
  unfold ServerInputBuffer.raisedBy
  cases ServerInputBuffer.announcedBy packet with
  | none => exact h
  | some frame =>
    dsimp only
    rw [raiseAckFrame_eq]
    exact { h with below := fun input hinput => Nat.le_trans (h.below input hinput) (Nat.le_max_left _ _) }

theorem InputSchedule.Inv.ensureCapacity (h : s.Inv ops.quantizedSize (2 ^ bits)) :
    ({ s with buffer := s.buffer.ensureCapacity (2 ^ bits) } : InputSchedule).Inv ops.quantizedSize (2 ^ bits) ∧
    (s.buffer.ensureCapacity (2 ^ bits)).inputFrames.length = 2 ^ bits := by
  rcases h.ring with ⟨hempty, hnone⟩ | hlen
  case inl =>
    have hready : s.buffer.ensureCapacity (2 ^ bits) =
        { s.buffer with inputFrames := List.replicate (2 ^ bits) {} } := by
      rw [ServerInputBuffer.ensureCapacity, hempty]
      rfl
    have hlen : (List.replicate (2 ^ bits) ({} : InputFrameSlot)).length = 2 ^ bits := List.length_replicate
    rw [hready]
    refine ⟨{ h with ring := .inr hlen, held := ?_, kept := ?_ }, hlen⟩
    · intro frame bytes hfind
      rw [find?_replicate] at hfind
      cases hfind
    · intro frame bytes hmem
      rw [hnone] at hmem
      cases hmem
  case inr =>
    have hready : s.buffer.ensureCapacity (2 ^ bits) = s.buffer := by
      rw [ServerInputBuffer.ensureCapacity, isEmpty_eq_false hlen]
      rfl
    rw [hready]
    exact ⟨h, hlen⟩

theorem InputSchedule.Inv.received (hops : ops.Fills) (h : s.Inv ops.quantizedSize (2 ^ bits)) (packet : Bits)
    (hwindow : ∀ input ∈ s.buffer.storedBy ops (2 ^ bits) packet, input.1 < s.due + 2 ^ bits) :
    (s.received ops (2 ^ bits) packet).Inv ops.quantizedSize (2 ^ bits) := by
  have hraised := h.raise packet
  have hsized := processPacketPayload_sized hops (2 ^ bits) packet s.buffer
  unfold InputSchedule.received
  rcases processPacketPayload_stores ops (2 ^ bits) packet s.buffer with hnone | hstores
  case inl =>
    unfold ServerInputBuffer.storedBy
    rw [hnone]
    exact hraised
  case inr =>
    obtain ⟨hready, hlen⟩ := hraised.ensureCapacity
    have hack := ensureCapacity_inputAckFrame (2 ^ bits) (s.buffer.raisedBy packet)
    have hall := InputSchedule.Inv.storeAll _ hready hlen hsized (by rw [hack]; exact hwindow)
    simp only [hack] at hall
    rw [hstores]
    exact hall

/-! ## One selection -/

theorem inputAt_eq_find? (h : s.Inv ops.quantizedSize (2 ^ bits)) (frame : SyncFrame) :
    s.buffer.inputAt ops.quantizedSize frame = s.buffer.inputFrames.find? frame := by
  unfold ServerInputBuffer.inputAt
  cases hfind : s.buffer.inputFrames.find? frame with
  | none => rfl
  | some bytes => simp [h.sized _ (h.held hfind)]

/-- The loop begins behind the latest applied frame and at most the capacity before the due frame. -/
theorem selectBegin_le (h : s.Inv ops.quantizedSize (2 ^ bits)) (hdue : s.due < 2 ^ 32 - 1)
    (hlen : s.buffer.inputFrames.length = 2 ^ bits) (frame : SyncFrame) :
    s.buffer.selectBegin s.due ≤ frame ↔
      s.buffer.latestAppliedInputFrame < frame ∧ s.due < frame + 2 ^ bits ∧ 0 < frame := by
  have happlied : s.buffer.latestAppliedInputFrame + 1 < 2 ^ 32 := by
    rcases h.appliedBefore with hzero | hlt
    · rw [hzero]
      decide
    · exact Nat.lt_of_le_of_lt hlt (Nat.lt_of_lt_of_le hdue (Nat.sub_le _ _))
  simp only [ServerInputBuffer.selectBegin, hlen, Nat.mod_eq_of_lt happlied, Nat.max_le]
  have hwindow : ∀ due capacity frame : Nat, 0 < capacity →
      ((if due > capacity then due - capacity + 1 else 1) ≤ frame ↔ due < frame + capacity ∧ 0 < frame) := by
    intro due capacity frame hpos
    split <;> omega
  rw [hwindow _ _ _ (Nat.two_pow_pos bits)]
  exact Iff.rfl

theorem selectBest_spec (h : s.Inv ops.quantizedSize (2 ^ bits)) (hdue : s.due < 2 ^ 32 - 1) {fuel : Nat}
    (hfuel : s.due + 1 < fuel) :
    (∃ frame bytes, s.buffer.selectBest ops.quantizedSize s.due fuel = some (some (frame, bytes)) ∧
      s.buffer.inputFrames.find? frame = some bytes ∧ s.buffer.latestAppliedInputFrame < frame ∧
      s.due < frame + 2 ^ bits ∧ frame ≤ s.due ∧
      ∀ g, frame < g → g ≤ s.due → s.buffer.inputFrames.find? g = none) ∨
    (s.buffer.selectBest ops.quantizedSize s.due fuel = some none ∧
      ∀ g, s.buffer.latestAppliedInputFrame < g → s.due < g + 2 ^ bits → g ≤ s.due →
        s.buffer.inputFrames.find? g = none) := by
  unfold ServerInputBuffer.selectBest
  rcases h.ring with ⟨hempty, _⟩ | hlen
  case inl =>
    rw [hempty]
    exact .inr ⟨rfl, fun g _ _ _ => rfl⟩
  case inr =>
    have hbegin := selectBegin_le h hdue hlen
    obtain ⟨result, hresult, hnewest⟩ := @selectLoop_newest ops.quantizedSize s.due s.buffer
      hdue fuel (s.buffer.selectBegin s.due) none (Nat.lt_add_right _ hfuel) (Nat.zero_lt_of_lt hfuel)
    simp only [NewestFrom, inputAt_eq_find? h] at hnewest
    rw [isEmpty_eq_false hlen]
    rcases hnewest with ⟨frame, bytes, rfl, hfrom, hle, hfind, hnone⟩ | ⟨rfl, hnone⟩
    case inl =>
      obtain ⟨happlied, hwindow, _⟩ := (hbegin frame).mp hfrom
      exact .inl ⟨frame, bytes, hresult, hfind, happlied, hwindow, hle, hnone⟩
    case inr =>
      refine .inr ⟨hresult, fun g happlied hwindow hle => hnone g ?_ hle⟩
      exact (hbegin g).mpr ⟨happlied, hwindow, Nat.zero_lt_of_lt happlied⟩

theorem InputSchedule.Inv.missing (h : s.Inv ops.quantizedSize (2 ^ bits))
    (hnone : s.buffer.inputFrames.find? s.due = none) (bytes : Bytes) : (s.due, bytes) ∉ s.stored := by
  intro hmem
  rw [h.kept hmem (Nat.le_refl _)] at hnone
  cases hnone

/-- The search ends with enough fuel, and the selection follows it. -/
theorem InputSchedule.Inv.select (h : s.Inv ops.quantizedSize (2 ^ bits)) (hdue : s.due < 2 ^ 32 - 1) {fuel : Nat}
    (hfuel : s.due + 1 < fuel) : ∃ result, s.select ops fuel = some result ∧ Selection (2 ^ bits) s result := by
  unfold InputSchedule.select ServerInputBuffer.selectInputForFrame
  rcases selectBest_spec h hdue hfuel with
    ⟨frame, bytes, hbest, hfind, happlied, hwindow, hle, hnewest⟩ | ⟨hbest, hnone⟩
  case inl =>
    rw [hbest]
    refine ⟨s.buffer.applyInput s.due frame bytes, rfl, ?_⟩
    rcases Nat.eq_or_lt_of_le hle with rfl | hlt
    case inl =>
      refine .onTime (h.held hfind) rfl ⟨rfl, rfl⟩ ?_
      simp [ServerInputBuffer.applyInput]
    case inr =>
      refine .late (h.missing (hnewest _ hlt (Nat.le_refl _))) hfind ⟨happlied, hwindow, hlt⟩
        (fun g hg hgd => hnewest g hg (Nat.le_of_lt hgd)) rfl ⟨rfl, rfl⟩ ?_
      simp [ServerInputBuffer.applyInput, hlt]
  case inr =>
    rw [hbest]
    refine ⟨s.buffer.reuseInput ops.quantizedSize, rfl, ?_⟩
    have hmissing : ∀ bytes, (s.due, bytes) ∉ s.stored := by
      intro bytes hmem
      have hpos := h.positive _ hmem
      have happlied : s.buffer.latestAppliedInputFrame < s.due := by
        rcases h.appliedBefore with hzero | hlt
        · rw [hzero]
          exact hpos
        · exact hlt
      exact h.missing (hnone _ happlied (Nat.lt_add_of_pos_right (Nat.two_pow_pos bits)) (Nat.le_refl _)) bytes hmem
    have hempty : ∀ g, s.InWindow (2 ^ bits) g → s.buffer.inputFrames.find? g = none :=
      fun g ⟨happlied, hwindow, hlt⟩ => hnone g happlied hwindow (Nat.le_of_lt hlt)
    unfold ServerInputBuffer.reuseInput
    cases hbefore : s.buffer.hasLatestAppliedInput with
    | true =>
      simp only [h.appliedSized hbefore, beq_self_eq_true, Bool.and_self, if_true]
      exact .reused hmissing hempty hbefore rfl ⟨rfl, rfl⟩ rfl
    | false => exact .starved hmissing hempty hbefore rfl ⟨rfl, rfl⟩ rfl

/-- A selection only applies: the ring, the stored frames and the acknowledged frame stay. -/
theorem selectInputForFrame_frame {buffer : ServerInputBuffer} {quantizedSize : Nat} {due : SyncFrame} {fuel : Nat}
    {result : ServerInputBuffer × ServerInputForFrame}
    (h : buffer.selectInputForFrame quantizedSize due fuel = some result) :
    result.1.inputFrames = buffer.inputFrames ∧ result.1.inputAckFrame = buffer.inputAckFrame ∧
    (result.1.hasLatestAppliedInput = true → buffer.hasLatestAppliedInput = true ∨ result.2.bytes ≠ none) := by
  obtain ⟨best, _, hbest⟩ := Option.map_eq_some_iff.mp h
  subst hbest
  cases best with
  | some best => exact ⟨rfl, rfl, fun _ => .inr (Option.some_ne_none _)⟩
  | none =>
    dsimp only [ServerInputBuffer.reuseInput]
    split <;> exact ⟨rfl, rfl, .inl⟩

theorem selectLoop_more {quantizedSize : Nat} {due : SyncFrame} {buffer : ServerInputBuffer} (more : Nat) :
    ∀ {fuel : Nat} {frame : SyncFrame} {best result : Option (SyncFrame × Bytes)},
    ServerInputBuffer.selectLoop quantizedSize due buffer fuel frame best = some result →
    ServerInputBuffer.selectLoop quantizedSize due buffer (fuel + more) frame best = some result := by
  intro fuel
  induction fuel with
  | zero => intro _ _ _ h; cases h
  | succ fuel ih =>
    intro frame best result h
    rw [Nat.add_right_comm]
    unfold ServerInputBuffer.selectLoop at h ⊢
    split at h
    case isTrue hle =>
      rw [if_pos hle]
      exact ih h
    case isFalse hlt =>
      rw [if_neg hlt]
      exact h

theorem InputSchedule.select_more {fuel : Nat} {result : ServerInputBuffer × ServerInputForFrame}
    (h : s.select ops fuel = some result) (more : Nat) : s.select ops (fuel + more) = some result := by
  unfold InputSchedule.select ServerInputBuffer.selectInputForFrame ServerInputBuffer.selectBest at h ⊢
  split at h
  case isTrue hempty =>
    rw [if_pos hempty]
    exact h
  case isFalse hempty =>
    rw [if_neg hempty]
    obtain ⟨best, hbest, hresult⟩ := Option.map_eq_some_iff.mp h
    rw [selectLoop_more more hbest]
    exact congrArg some hresult

theorem InputSchedule.Inv.selection (h : s.Inv ops.quantizedSize (2 ^ bits)) (hdue : s.due < 2 ^ 32 - 1) {fuel : Nat}
    {result : ServerInputBuffer × ServerInputForFrame} (hresult : s.select ops fuel = some result) :
    Selection (2 ^ bits) s result := by
  have hfuel : s.due + 1 < fuel + (s.due + 2) :=
    Nat.lt_of_lt_of_le (Nat.lt_succ_self (s.due + 1)) (Nat.le_add_left _ _)
  obtain ⟨result', hresult', hselection⟩ := h.select hdue hfuel
  have hsame := (InputSchedule.select_more hresult (s.due + 2)).symm.trans hresult'
  cases Option.some.inj hsame
  exact hselection

/-- A new frame lies behind the latest applied one and not behind the due frame. -/
theorem Selection.applied {capacityFrames : Nat} {result : ServerInputBuffer × ServerInputForFrame}
    (h : Selection capacityFrames s result) (hinv : s.Inv ops.quantizedSize capacityFrames) :
    (result.1.stats.inputFramesApplied ≠ s.buffer.stats.inputFramesApplied ∧
      result.2.inputFrame = result.1.latestAppliedInputFrame ∧
      s.buffer.latestAppliedInputFrame < result.1.latestAppliedInputFrame ∧
      result.1.latestAppliedInputFrame ≤ s.due ∧ result.1.latestAppliedInput.length = ops.quantizedSize) ∨
    (result.1.stats.inputFramesApplied = s.buffer.stats.inputFramesApplied ∧
      result.1.latestAppliedInputFrame = s.buffer.latestAppliedInputFrame ∧
      result.1.latestAppliedInput = s.buffer.latestAppliedInput ∧
      (result.2.bytes ≠ none → s.buffer.hasLatestAppliedInput = true)) := by
  cases h with
  | onTime stored selects applies counts =>
    have hlt : s.buffer.latestAppliedInputFrame < s.due := by
      rcases hinv.appliedBefore with hzero | hlt
      · rw [hzero]
        exact hinv.positive _ stored
      · exact hlt
    rw [counts, selects, applies.1, applies.2]
    exact .inl ⟨Nat.succ_ne_self _, rfl, hlt, Nat.le_refl _, hinv.sized _ stored⟩
  | late missing held window newest selects applies counts =>
    rw [counts, selects, applies.1, applies.2]
    exact .inl ⟨Nat.succ_ne_self _, rfl, window.1, Nat.le_of_lt window.2.2, hinv.sized _ (hinv.held held)⟩
  | reused missing empty before selects applies counts =>
    rw [counts]
    exact .inr ⟨rfl, applies.1, applies.2, fun _ => before⟩
  | starved missing empty before selects applies counts =>
    rw [counts, selects]
    exact .inr ⟨rfl, applies.1, applies.2, fun hne => absurd rfl hne⟩

theorem InputSchedule.Inv.selected (h : s.Inv ops.quantizedSize (2 ^ bits)) (hdue : s.due < 2 ^ 32 - 1) {fuel : Nat}
    {result : ServerInputBuffer × ServerInputForFrame} (hresult : s.select ops fuel = some result) :
    (s.selected result).Inv ops.quantizedSize (2 ^ bits) := by
  obtain ⟨hring, hack, hhas⟩ := selectInputForFrame_frame hresult
  have hkept : (s.selected result).Inv ops.quantizedSize (2 ^ bits) ↔
      (result.1.latestAppliedInputFrame = 0 ∨ result.1.latestAppliedInputFrame < s.due + 1) ∧
      (result.1.hasLatestAppliedInput = true → result.1.latestAppliedInput.length = ops.quantizedSize) ∧
      ((s.selected result).applied.Pairwise fun later earlier => earlier < later) ∧
      ∀ frame ∈ (s.selected result).applied, frame ≤ result.1.latestAppliedInputFrame := by
    constructor
    · exact fun hinv => ⟨hinv.appliedBefore, hinv.appliedSized, hinv.appliedOnce, hinv.appliedLast⟩
    · rintro ⟨hbefore, hsized, honce, hlast⟩
      exact
        { ring := by rw [InputSchedule.selected, hring]; exact h.ring
          positive := h.positive
          below := by rw [InputSchedule.selected, hack]; exact h.below
          rising := h.rising
          sized := h.sized
          held := by rw [InputSchedule.selected, hring]; exact h.held
          kept := by
            intro frame bytes hmem hle
            rw [InputSchedule.selected, hring]
            exact h.kept hmem (Nat.le_of_succ_le hle)
          appliedBefore := hbefore
          appliedSized := hsized
          appliedOnce := honce
          appliedLast := hlast }
  rw [hkept]
  unfold InputSchedule.selected
  rcases (h.selection hdue hresult).applied h with
    ⟨hcount, hframe, hlater, hle, hsize⟩ | ⟨hcount, hframe, hbytes, hbefore⟩
  case inl =>
    rw [if_neg hcount, hframe]
    have hall : ∀ frame ∈ s.applied, frame < result.1.latestAppliedInputFrame := fun frame hmem =>
      Nat.lt_of_le_of_lt (h.appliedLast frame hmem) hlater
    refine ⟨.inr (Nat.lt_succ_of_le hle), fun _ => hsize, List.pairwise_cons.mpr ⟨hall, h.appliedOnce⟩, ?_⟩
    intro frame hmem
    rcases List.mem_cons.mp hmem with rfl | hmem
    · exact Nat.le_refl _
    · exact Nat.le_of_lt (hall frame hmem)
  case inr =>
    rw [if_pos hcount, hframe, hbytes]
    refine ⟨h.appliedBefore.imp_right Nat.lt_succ_of_lt, fun htrue => ?_, h.appliedOnce, h.appliedLast⟩
    exact h.appliedSized ((hhas htrue).elim id hbefore)

theorem InputSchedule.Reachable.inv (hops : ops.Fills) {firstDue : SyncFrame}
    (h : s.Reachable ops (2 ^ bits) firstDue) : s.Inv ops.quantizedSize (2 ^ bits) := by
  induction h with
  | start =>
    exact
      { ring := .inl ⟨rfl, rfl⟩
        positive := fun _ hmem => by cases hmem
        below := fun _ hmem => by cases hmem
        rising := .nil
        sized := fun _ hmem => by cases hmem
        held := fun hfind => by cases hfind
        kept := fun hmem => by cases hmem
        appliedBefore := .inl rfl
        appliedSized := fun htrue => by cases htrue
        appliedOnce := .nil
        appliedLast := fun _ hmem => by cases hmem }
  | receive packet window _ ih => exact ih.received hops packet window
  | select fuel below ends _ ih => exact ih.selected below ends

end

/-- In every run in which no stored frame is the ring's capacity ahead of the next due frame, the selection of the due
frame ends, takes its stored input, else the newest one of the window that is still held, else the latest applied one,
and counts what it did; the frames applied as new rise. -/
theorem input_selected_at_its_frame (ops : InputOps) (hops : ops.Fills) (bits : Nat) (firstDue : SyncFrame)
    (s : InputSchedule) (hs : s.Reachable ops (2 ^ bits) firstDue) :
    (s.stored.Pairwise fun later earlier => earlier.1 < later.1) ∧
    (s.applied.Pairwise fun later earlier => earlier < later) ∧
    (s.due < 2 ^ 32 - 1 → ∃ enough, ∀ fuel, enough ≤ fuel →
      ∃ result, s.select ops fuel = some result ∧ Selection (2 ^ bits) s result ∧
        s.buffer.latestAppliedInputFrame ≤ result.1.latestAppliedInputFrame) := by
  have hinv := hs.inv hops
  refine ⟨hinv.rising, hinv.appliedOnce, fun hdue => ⟨s.due + 2, fun fuel hfuel => ?_⟩⟩
  obtain ⟨result, hresult, hselection⟩ := hinv.select hdue hfuel
  refine ⟨result, hresult, hselection, ?_⟩
  rcases hselection.applied hinv with ⟨_, _, hlater, _⟩ | ⟨_, hsame, _⟩
  · exact Nat.le_of_lt hlater
  · exact Nat.le_of_eq hsame.symm

namespace InputSample

theorem ops_fills : ops.Fills := by
  intro previous context stream decoded rest hprevious hread
  obtain ⟨⟨same, stream'⟩, _, hread⟩ := Option.bind_eq_some_iff.mp hread
  cases same with
  | true =>
    cases previous with
    | none => cases hread
    | some bytes =>
      cases hread
      exact hprevious _ rfl
  | false =>
    obtain ⟨⟨value, stream'⟩, _, hread⟩ := Option.bind_eq_some_iff.mp hread
    cases hread
    rfl

def thirdFrame : Bits := bits 0 32 ++ (true :: bits 3 32) ++ bits 1 5 ++ (false :: bits 9 8)

def tooLate : InputSchedule := ({ due := 10 } : InputSchedule).received ops 4 thirdFrame

def inTime : InputSchedule := ({ due := 3 } : InputSchedule).received ops 4 thirdFrame

theorem inTime_reachable : inTime.Reachable ops (2 ^ 2) 3 :=
  .receive thirdFrame (by decide) .start

theorem tooLate_reachable : tooLate.Reachable ops (2 ^ 2) 10 :=
  .receive thirdFrame (by decide) .start

end InputSample

theorem input_selected_at_its_frame_third :
    InputSample.inTime.stored = [(3, [9])] ∧
    ∃ result, InputSample.inTime.select InputSample.ops 5 = some result ∧
      result.2 = { bytes := some [9], inputFrame := 3 } ∧
      ∃ enough, ∀ fuel, enough ≤ fuel →
        ∃ result, InputSample.inTime.select InputSample.ops fuel = some result := by
  have h := (input_selected_at_its_frame _ InputSample.ops_fills 2 3 _ InputSample.inTime_reachable).2.2 (by decide)
  obtain ⟨enough, henough⟩ := h
  refine ⟨by decide, _, rfl, by decide, enough, fun fuel hfuel => ?_⟩
  obtain ⟨result, hresult, _⟩ := henough fuel hfuel
  exact ⟨result, hresult⟩

/-- Frame 3 is held between the latest applied frame and the due frame, but not selected: the window of a ring of
four frames begins at frame 7. -/
theorem held_input_not_selected :
    ¬∀ (ops : InputOps), ops.Fills → ∀ (bits : Nat) (firstDue : SyncFrame) (s : InputSchedule),
      s.Reachable ops (2 ^ bits) firstDue → s.due < 2 ^ 32 - 1 → ∀ (fuel : Nat) (result),
      s.select ops fuel = some result →
      ∀ (frame : SyncFrame) (bytes : Bytes), s.buffer.inputFrames.find? frame = some bytes →
        s.buffer.latestAppliedInputFrame < frame → frame < s.due → result.2.bytes ≠ none := by
  intro h
  have hnone : InputSample.tooLate.select InputSample.ops 12 =
      some ((InputSample.tooLate.buffer.reuseInput 1)) := by decide
  exact h InputSample.ops InputSample.ops_fills 2 10 _ InputSample.tooLate_reachable (by decide) 12 _ hnone 3 [9]
    (by decide) (by decide) (by decide) (by decide)

end AshiatoSync
