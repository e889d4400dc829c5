import AshiatoSync.InputSound
import AshiatoSync.Lib.Ring

/-!
# The server's input buffer over whole runs

The payloads are arbitrary: any header and any bits after it.  A run also sets
local frames, or selects the input of one frame after the other.
-/

namespace AshiatoSync

open BitCodec

/-! ## What a payload stores -/

namespace ServerInputBuffer

/-- The decoded frames `process_packet_payload` stores, above the acknowledged one. -/
def acceptedInputs : SyncFrame → List (SyncFrame × Bytes) → List (SyncFrame × Bytes)
  | _, [] => []
  | ack, input :: inputs =>
    if input.1 > ack then input :: acceptedInputs input.1 inputs else acceptedInputs ack inputs

def storeAll (inputs : List (SyncFrame × Bytes)) (buffer : ServerInputBuffer) : ServerInputBuffer :=
  inputs.foldl (fun buffer input => buffer.storeFrame input.1 input.2) buffer

def announcedBy (packet : Bits) : Option SyncFrame := (readHeader packet).map fun read => read.1.baselineFrame

def raisedBy (packet : Bits) (buffer : ServerInputBuffer) : ServerInputBuffer :=
  match announcedBy packet with
  | some frame => buffer.raiseAckFrame frame
  | none => buffer

variable (ops : InputOps) (capacityFrames : Nat)

def storedBy (packet : Bits) (buffer : ServerInputBuffer) : List (SyncFrame × Bytes) :=
  acceptedInputs (buffer.raisedBy packet).inputAckFrame (buffer.processPacketPayload ops capacityFrames packet).2

end ServerInputBuffer

section

variable {ops : InputOps} {capacityFrames : Nat} {buffer : ServerInputBuffer} {packet : Bits}

theorem decodeInputs_stores (first : SyncFrame) (full : Bool) :
    ∀ (n index : Nat) (previous : Bytes) (stream : Bits) (buffer : ServerInputBuffer),
    (ServerInputBuffer.decodeInputs ops first full n index previous stream buffer).1 =
      buffer.storeAll (ServerInputBuffer.decodeInputs ops first full n index previous stream buffer).2 := by
  intro n
  induction n with
  | zero => intros; rfl
  | succ n ih =>
    intro index previous stream buffer
    simp only [ServerInputBuffer.decodeInputs]
    cases hread : ops.deserialize (if index == 0 && full then none else some previous)
        (inputContext ((first + index) % 2 ^ 32) (if index == 0 && full then none else some previous)) stream with
    | none => rfl
    | some result =>
      by_cases hstuck : result.2.length = stream.length
      case pos => simp only [hstuck, if_true]; rfl
      case neg =>
        simp only [hstuck, if_false]
        rw [ih]
        rfl

theorem readHeader_inputCount {header : ServerInputBuffer.InputHeader} {stream : Bits}
    (h : ServerInputBuffer.readHeader packet = some (header, stream)) : header.inputCount ≤ maxInputCount := by
  obtain ⟨⟨baseline, rest⟩, _, h⟩ := Option.bind_eq_some_iff.mp h
  obtain ⟨⟨full, rest⟩, _, h⟩ := Option.bind_eq_some_iff.mp h
  obtain ⟨⟨value, rest⟩, _, h⟩ := Option.bind_eq_some_iff.mp h
  obtain ⟨⟨count, rest⟩, hcount, h⟩ := Option.bind_eq_some_iff.mp h
  cases h
  have hlt := readBits_lt hcount
  exact Nat.le_sub_one_of_lt hlt

/-- How a payload is processed: without a header not at all, else after the acknowledged frame was raised, and its
inputs are decoded only from a baseline. -/
theorem processPacketPayload_cases (ops : InputOps) (capacityFrames : Nat) (packet : Bits)
    (buffer : ServerInputBuffer) :
    buffer.processPacketPayload ops capacityFrames packet = (buffer.raisedBy packet, []) ∨
    ∃ header stream previous, ServerInputBuffer.readHeader packet = some (header, stream) ∧
      (if header.baselineFrame != 0 && !header.firstInputFull then
        ServerInputBuffer.findBaseline ops header.baselineFrame (buffer.raiseAckFrame header.baselineFrame)
        else some (List.replicate ops.quantizedSize 0)) = some previous ∧
      buffer.processPacketPayload ops capacityFrames packet =
        ServerInputBuffer.decodeInputs ops
          (if header.firstInputFull then header.firstInputValue else (header.baselineFrame + 1) % 2 ^ 32)
          header.firstInputFull header.inputCount 0 previous stream
          ((buffer.raiseAckFrame header.baselineFrame).ensureCapacity capacityFrames) := by
  unfold ServerInputBuffer.processPacketPayload ServerInputBuffer.raisedBy ServerInputBuffer.announcedBy
  cases hread : ServerInputBuffer.readHeader packet with
  | none => exact .inl rfl
  | some read =>
    obtain ⟨header, stream⟩ := read
    have hcount := readHeader_inputCount hread
    simp only [Nat.not_lt.mpr hcount, if_false, Option.map_some]
    cases hprevious : (if header.baselineFrame != 0 && !header.firstInputFull then
        ServerInputBuffer.findBaseline ops header.baselineFrame (buffer.raiseAckFrame header.baselineFrame)
        else some (List.replicate ops.quantizedSize 0)) with
    | none => exact .inl rfl
    | some previous =>
      dsimp only
      by_cases hnothing : (if header.firstInputFull then header.firstInputValue
          else (header.baselineFrame + 1) % 2 ^ 32) = 0 ∨ header.inputCount = 0
      · rw [if_pos hnothing]
        exact .inl rfl
      · rw [if_neg hnothing]
        exact .inr ⟨header, stream, previous, rfl, hprevious, rfl⟩

theorem raisedBy_eq {header : ServerInputBuffer.InputHeader} {stream : Bits}
    (h : ServerInputBuffer.readHeader packet = some (header, stream)) (buffer : ServerInputBuffer) :
    buffer.raisedBy packet = buffer.raiseAckFrame header.baselineFrame := by
  simp [ServerInputBuffer.raisedBy, ServerInputBuffer.announcedBy, h]

/-- A payload raises the acknowledged frame, then stores what it decodes. -/
theorem processPacketPayload_stores (ops : InputOps) (capacityFrames : Nat) (packet : Bits)
    (buffer : ServerInputBuffer) :
    let result := buffer.processPacketPayload ops capacityFrames packet
    (result = (buffer.raisedBy packet, []) ∨
      result.1 = ((buffer.raisedBy packet).ensureCapacity capacityFrames).storeAll result.2) := by
  rcases processPacketPayload_cases ops capacityFrames packet buffer with h | ⟨header, stream,
    previous, hread, _, h⟩
  case inl => exact .inl h
  case inr =>
    dsimp only
    rw [h, raisedBy_eq hread]
    exact .inr (decodeInputs_stores _ _ _ _ _ _ _)

theorem raiseAckFrame_eq (frame : SyncFrame) (buffer : ServerInputBuffer) :
    buffer.raiseAckFrame frame = { buffer with inputAckFrame := max buffer.inputAckFrame frame } := by
  unfold ServerInputBuffer.raiseAckFrame
  by_cases h : frame > buffer.inputAckFrame
  · rw [if_pos h, Nat.max_eq_right (Nat.le_of_lt h)]
  · rw [if_neg h, Nat.max_eq_left (Nat.le_of_not_lt h)]

end

/-! ## Baselines of arbitrary payloads -/

/-- The buffer, every frame decoded or set, and every baseline frame a payload named. -/
structure InputHistory where
  buffer : ServerInputBuffer := {}
  received : List (SyncFrame × Bytes) := []
  announced : List SyncFrame := []

inductive ServerInputAct where
  | processPacketPayload (packet : Bits)
  | setLocalFrame (frame : SyncFrame) (bytes : Bytes)

namespace InputHistory

variable (ops : InputOps) (capacityFrames : Nat)

def act (s : InputHistory) : ServerInputAct → InputHistory
  | .processPacketPayload packet =>
    let result := s.buffer.processPacketPayload ops capacityFrames packet
    { buffer := result.1
      received := result.2 ++ s.received
      announced := (ServerInputBuffer.announcedBy packet).toList ++ s.announced }
  | .setLocalFrame frame bytes =>
    let result := s.buffer.setLocalFrame capacityFrames frame bytes
    { s with
      buffer := result.1
      received := if result.2 then (frame, bytes) :: s.received else s.received }

inductive Reachable : InputHistory → Prop
  | start : Reachable {}
  | act {s : InputHistory} (a : ServerInputAct) : Reachable s → Reachable (s.act ops capacityFrames a)

structure Inv (s : InputHistory) : Prop where
  held {frame : SyncFrame} {bytes : Bytes} :
    s.buffer.inputFrames.find? frame = some bytes → (frame, bytes) ∈ s.received
  ack : s.buffer.inputAckFrame = 0 ∨ (∃ bytes, (s.buffer.inputAckFrame, bytes) ∈ s.received) ∨
    s.buffer.inputAckFrame ∈ s.announced
  latest : s.buffer.hasLatestInput = true → s.received ≠ []

end InputHistory

section

variable {ops : InputOps} {capacityFrames : Nat} {s : InputHistory}

theorem find?_ensureCapacity {capacityFrames : Nat} {buffer : ServerInputBuffer} {frame : SyncFrame} {bytes : Bytes}
    (h : (buffer.ensureCapacity capacityFrames).inputFrames.find? frame = some bytes) :
    buffer.inputFrames.find? frame = some bytes := by
  unfold ServerInputBuffer.ensureCapacity at h
  split at h
  · rw [find?_replicate] at h
    cases h
  · exact h

theorem ensureCapacity_eq (capacityFrames : Nat) (buffer : ServerInputBuffer) :
    buffer.ensureCapacity capacityFrames =
      { buffer with inputFrames := (buffer.ensureCapacity capacityFrames).inputFrames } := by
  unfold ServerInputBuffer.ensureCapacity
  split <;> rfl

theorem InputHistory.Inv.ensureCapacity (h : s.Inv) (capacityFrames : Nat) :
    ({ s with buffer := s.buffer.ensureCapacity capacityFrames } : InputHistory).Inv where
  held hfind := h.held (find?_ensureCapacity hfind)
  ack := by
    rw [ensureCapacity_eq]
    exact h.ack
  latest := by
    rw [ensureCapacity_eq]
    exact h.latest

theorem InputHistory.Inv.raise (h : s.Inv) (frame : SyncFrame) :
    ({ s with buffer := s.buffer.raiseAckFrame frame, announced := frame :: s.announced } : InputHistory).Inv := by
  rw [raiseAckFrame_eq]
  constructor
  case held => exact h.held
  case latest => exact h.latest
  case ack =>
    rcases Nat.le_total frame s.buffer.inputAckFrame with hle | hle
    case inl =>
      simp only [Nat.max_eq_left hle]
      exact h.ack.imp_right (Or.imp_right (List.mem_cons_of_mem _))
    case inr =>
      simp only [Nat.max_eq_right hle]
      exact .inr (.inr List.mem_cons_self)

theorem InputHistory.Inv.raisedBy (h : s.Inv) (packet : Bits) :
    ({ s with
      buffer := s.buffer.raisedBy packet
      announced := (ServerInputBuffer.announcedBy packet).toList ++ s.announced } : InputHistory).Inv := by
  unfold ServerInputBuffer.raisedBy
  cases ServerInputBuffer.announcedBy packet with
  | none => exact h
  | some frame => exact h.raise frame

theorem InputHistory.Inv.storeFrame (h : s.Inv) (frame : SyncFrame) (bytes : Bytes) :
    ({ s with
      buffer := s.buffer.storeFrame frame bytes, received := (frame, bytes) :: s.received } : InputHistory).Inv := by
  unfold ServerInputBuffer.storeFrame
  split
  case isTrue =>
    refine ⟨fun hfind => ?_, .inr (.inl ⟨bytes, List.mem_cons_self⟩), fun _ => List.cons_ne_nil _ _⟩
    rcases find?_record hfind with ⟨rfl, rfl⟩ | hfind
    · exact List.mem_cons_self
    · exact List.mem_cons_of_mem _ (h.held hfind)
  case isFalse =>
    refine ⟨fun hfind => List.mem_cons_of_mem _ (h.held hfind), ?_, fun _ => List.cons_ne_nil _ _⟩
    exact h.ack.imp_right (Or.imp_left fun ⟨x, hx⟩ => ⟨x, List.mem_cons_of_mem _ hx⟩)

theorem InputHistory.Inv.reorder {received : List (SyncFrame × Bytes)} (h : s.Inv)
    (hsame : ∀ input, input ∈ s.received ↔ input ∈ received) : ({ s with received } : InputHistory).Inv where
  held hfind := (hsame _).mp (h.held hfind)
  ack := h.ack.imp_right (Or.imp_left fun ⟨x, hx⟩ => ⟨x, (hsame _).mp hx⟩)
  latest hlatest hnil := by
    obtain ⟨input, hinput⟩ := List.exists_mem_of_ne_nil _ (h.latest hlatest)
    have := (hsame input).mp hinput
    simp_all

theorem InputHistory.Inv.storeAll (inputs : List (SyncFrame × Bytes)) : ∀ {s : InputHistory}, s.Inv →
    ({ s with buffer := s.buffer.storeAll inputs, received := inputs ++ s.received } : InputHistory).Inv := by
  induction inputs with
  | nil => intro s h; exact h
  | cons input inputs ih =>
    intro s h
    have hrest := ih (h.storeFrame input.1 input.2)
    refine hrest.reorder fun x => ?_
    simp only [List.mem_append, List.mem_cons, Prod.eta, List.cons_append]
    exact or_left_comm

theorem InputHistory.Inv.processPacketPayload (h : s.Inv) (packet : Bits) :
    (s.act ops capacityFrames (.processPacketPayload packet)).Inv := by
  have hraised := h.raisedBy packet
  rcases processPacketPayload_stores ops capacityFrames packet s.buffer with hnone | hstores
  case inl =>
    simp only [InputHistory.act, hnone]
    exact hraised
  case inr =>
    simp only [InputHistory.act, hstores]
    exact (hraised.ensureCapacity capacityFrames).storeAll _

theorem InputHistory.Inv.setLocalFrame (h : s.Inv) (frame : SyncFrame) (bytes : Bytes) :
    (s.act ops capacityFrames (.setLocalFrame frame bytes)).Inv := by
  have hready := h.ensureCapacity capacityFrames
  unfold InputHistory.act ServerInputBuffer.setLocalFrame
  dsimp only
  split
  case isTrue => exact h
  case isFalse =>
    refine ⟨fun hfind => ?_, ?_, fun _ => List.cons_ne_nil _ _⟩
    · rcases find?_record hfind with ⟨rfl, rfl⟩ | hfind
      · exact List.mem_cons_self
      · exact List.mem_cons_of_mem _ (hready.held hfind)
    · rcases Nat.le_total frame (s.buffer.ensureCapacity capacityFrames).inputAckFrame with hle | hle
      case inl =>
        simp only [Nat.max_eq_left hle]
        exact hready.ack.imp_right (Or.imp_left fun ⟨x, hx⟩ => ⟨x, List.mem_cons_of_mem _ hx⟩)
      case inr =>
        simp only [Nat.max_eq_right hle]
        exact .inr (.inl ⟨bytes, List.mem_cons_self⟩)

theorem InputHistory.Reachable.inv (h : s.Reachable ops capacityFrames) : s.Inv := by
  induction h with
  | start =>
    constructor
    case held =>
      intro frame bytes hfind
      cases hfind
    case ack => exact .inl rfl
    case latest =>
      intro hlatest
      cases hlatest
  | act a _ ih =>
    cases a with
    | processPacketPayload packet => exact ih.processPacketPayload packet
    | setLocalFrame frame bytes => exact ih.setLocalFrame frame bytes

/-- Outside the fallback to the latest input, the baseline is one that was received. -/
theorem InputHistory.Inv.findBaseline (h : s.Inv) {frame : SyncFrame} {previous : Bytes}
    (hfind : ServerInputBuffer.findBaseline ops frame (s.buffer.raiseAckFrame frame) = some previous)
    (hknown : frame < s.buffer.inputAckFrame ∨ (s.buffer.inputAt ops.quantizedSize frame).isSome ∨
    s.received = []) :
    (frame, previous) ∈ s.received := by
  rw [raiseAckFrame_eq] at hfind
  unfold ServerInputBuffer.findBaseline at hfind
  unfold ServerInputBuffer.inputAt at hknown
  dsimp only at hfind
  cases hring : (s.buffer.inputFrames.find? frame).filter fun bytes => bytes.length == ops.quantizedSize with
  | some bytes =>
    rw [hring] at hfind
    cases hfind
    exact h.held (Option.filter_eq_some_iff.mp hring).1
  | none =>
    rw [hring] at hfind hknown
    -- only the latest input is left, and then the frame would be the acknowledged one
    have hlatest := (Option.ite_none_right_eq_some.mp hfind).1
    simp only [Bool.and_eq_true, beq_iff_eq] at hlatest
    obtain ⟨⟨hhas, hack⟩, _⟩ := hlatest
    rcases hknown with hbelow | hsome | hnone
    · exact absurd (hack ▸ Nat.le_max_left _ _) (Nat.not_le.mpr hbelow)
    · cases hsome
    · exact absurd hnone (h.latest hhas)

end

/-- A relative payload that names a frame the ring holds, or one below the acknowledged frame, is decoded from the
bytes received for that frame or not at all; the acknowledged frame was received or named by a payload. -/
theorem input_baselines_received (ops : InputOps) (capacityFrames : Nat) (s : InputHistory)
    (hs : s.Reachable ops capacityFrames) :
    (s.buffer.inputAckFrame = 0 ∨ (∃ bytes, (s.buffer.inputAckFrame, bytes) ∈ s.received) ∨
      s.buffer.inputAckFrame ∈ s.announced) ∧
    ∀ (packet : Bits) (header : ServerInputBuffer.InputHeader) (stream : Bits),
      ServerInputBuffer.readHeader packet = some (header, stream) →
      let result := s.buffer.processPacketPayload ops capacityFrames packet
      (result.2 = [] → result.1.inputAckFrame = max s.buffer.inputAckFrame header.baselineFrame) ∧
      (header.baselineFrame ≠ 0 → header.firstInputFull = false →
        header.baselineFrame < s.buffer.inputAckFrame ∨
          (s.buffer.inputAt ops.quantizedSize header.baselineFrame).isSome ∨ s.received = [] →
        result.2 = [] ∨ ∃ previous, (header.baselineFrame, previous) ∈ s.received ∧
          result = ServerInputBuffer.decodeInputs ops ((header.baselineFrame + 1) % 2 ^ 32) false header.inputCount 0
            previous stream ((s.buffer.raiseAckFrame header.baselineFrame).ensureCapacity capacityFrames)) := by
  have hinv := hs.inv
  refine ⟨hinv.ack, ?_⟩
  intro packet header stream hread result
  constructor
  case left =>
    intro hnone
    have hraised : (s.buffer.raisedBy packet).inputAckFrame = max s.buffer.inputAckFrame header.baselineFrame := by
      rw [raisedBy_eq hread, raiseAckFrame_eq]
    rcases processPacketPayload_stores ops capacityFrames packet s.buffer with hresult | hstores
    · rw [← hraised]
      exact congrArg (fun r => r.1.inputAckFrame) hresult
    · rw [show result.1 = _ from hstores,
        show (s.buffer.processPacketPayload ops capacityFrames packet).2 = [] from hnone,
        ← hraised]
      exact ensureCapacity_inputAckFrame _ _
  case right =>
    intro hbaseline hrelative hknown
    rcases processPacketPayload_cases ops capacityFrames packet s.buffer with
      hnone | ⟨header', stream', previous, hread', hprevious, hresult⟩
    case inl => exact .inl (congrArg Prod.snd hnone)
    case inr =>
      obtain ⟨rfl, rfl⟩ := Prod.mk.inj (Option.some.inj (hread.symm.trans hread'))
      have hbne : (header.baselineFrame != 0) = true := bne_iff_ne.mpr hbaseline
      simp only [hbne, hrelative, Bool.not_false, Bool.and_self, if_true] at hprevious
      simp only [hrelative] at hresult
      exact .inr ⟨previous, hinv.findBaseline hprevious hknown, hresult⟩

namespace InputSample

def unknownBaseline : Bits := bits 7 32 ++ [false] ++ bits 1 5 ++ (false :: bits 9 8)

def announced : InputHistory := ({} : InputHistory).act ops 4 (.processPacketPayload unknownBaseline)

def firstReceived : InputHistory := ({} : InputHistory).act ops 4 (.processPacketPayload firstPacket.payload)

end InputSample

theorem input_baselines_received_first :
    InputSample.firstReceived.received = [(1, [1])] ∧ InputSample.firstReceived.buffer.inputAckFrame = 1 ∧
    (InputSample.firstReceived.buffer.processPacketPayload InputSample.ops 4 InputSample.secondPacket.payload).2 =
      [(2, [1])] ∧
    ∃ previous, (1, previous) ∈ InputSample.firstReceived.received := by
  have hs : InputSample.firstReceived.Reachable InputSample.ops 4 := .act _ .start
  have h := (input_baselines_received _ _ _ hs).2 InputSample.secondPacket.payload
    { baselineFrame := 1, firstInputFull := false, firstInputValue := 0, inputCount := 1 } [true] (by decide)
  refine ⟨by decide, by decide, by decide, ?_⟩
  rcases h.2 (by decide) rfl (.inr (.inl (by decide))) with hnone | ⟨previous, hmem, _⟩
  · exact absurd hnone (by decide)
  · exact ⟨previous, hmem⟩

/-- The first payload of a client names a baseline the server never received, and the server acknowledges it. -/
theorem input_ack_never_received :
    ¬∀ (ops : InputOps) (capacityFrames : Nat) (s : InputHistory), s.Reachable ops capacityFrames →
      s.buffer.inputAckFrame = 0 ∨ ∃ bytes, (s.buffer.inputAckFrame, bytes) ∈ s.received := by
  intro h
  have hack : InputSample.announced.buffer.inputAckFrame = 7 := by decide
  have hreceived : InputSample.announced.received = [] := by decide
  rcases h InputSample.ops 4 InputSample.announced (.act _ .start) with hzero | ⟨bytes, hbytes⟩
  · rw [hack] at hzero
    cases hzero
  · rw [hreceived] at hbytes
    cases hbytes

end AshiatoSync
