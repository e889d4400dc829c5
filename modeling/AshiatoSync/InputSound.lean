import AshiatoSync.InputBuffer
import Mathlib.Logic.Relation

/-!
# Input agreement over whole runs

A client and a server exchange input packets and acknowledgements over a network
that may lose, repeat, delay and reorder them.  As long as no frame is recorded
again with other bytes after a packet carried it, and no missing baseline is
declared present, every frame has one value for both sides and the server
decodes what the client serialized.
-/

namespace AshiatoSync

open BitCodec

/-! ## Runs -/

/-- Both buffers, everything either side has sent, and what the server decoded from which packet. -/
structure InputSystem where
  client : ClientInputBuffer := {}
  server : ServerInputBuffer := {}
  packets : List InputPacket := []
  acks : List SyncFrame := []
  decodes : List (InputPacket × List (SyncFrame × Bytes)) := []

inductive InputAct where
  | setLatest (input : Bytes)
  | recordFrame (capacityFrames : Nat) (frame : SyncFrame)
  | fillFramesThrough (capacityFrames : Nat) (frame : SyncFrame)
  | appendInputPacket (mtuBytes packetIdBits pendingAcks : Nat)
  | retireTransmitFramesThrough (frame : SyncFrame)
  | deliverPacket (packet : InputPacket)
  | sendAck
  | deliverAck (frame : SyncFrame)

namespace InputSystem

def Sent (s : InputSystem) (frame : SyncFrame) (bytes : Bytes) : Prop :=
  ∃ packet ∈ s.packets, (frame, bytes) ∈ packet.inputs

def Enabled (s : InputSystem) : InputAct → Prop
  | .recordFrame _ frame => frame < 2 ^ 32
  | .fillFramesThrough _ frame => frame < 2 ^ 32
  | .deliverPacket packet => packet ∈ s.packets
  | .deliverAck frame => frame ∈ s.acks
  | _ => True

instance (s : InputSystem) : ∀ a, Decidable (s.Enabled a)
  | .recordFrame _ frame => inferInstanceAs (Decidable (frame < 2 ^ 32))
  | .fillFramesThrough _ frame => inferInstanceAs (Decidable (frame < 2 ^ 32))
  | .deliverPacket packet => inferInstanceAs (Decidable (packet ∈ s.packets))
  | .deliverAck frame => inferInstanceAs (Decidable (frame ∈ s.acks))
  | .setLatest _ => .isTrue trivial
  | .appendInputPacket _ _ _ => .isTrue trivial
  | .retireTransmitFramesThrough _ => .isTrue trivial
  | .sendAck => .isTrue trivial

/-- `set_latest` finds an acknowledged baseline it may declare present, `record_frame` changes no frame a packet
carried, and `fill_frames_through` does not wrap past the last frame number. -/
def KeepsSent (s : InputSystem) : InputAct → Prop
  | .setLatest _ => s.client.ackedFrame = 0 ∨ s.client.hasAckedBaseline = true
  | .recordFrame _ frame => s.client.ackedFrame < frame → ∀ bytes, s.Sent frame bytes → bytes = s.client.latest
  | .fillFramesThrough _ _ => s.client.lastRecordedFrame + 1 < 2 ^ 32
  | _ => True

def act (ops : InputOps) (serverCapacity : Nat) (s : InputSystem) : InputAct → InputSystem
  | .setLatest input => { s with client := s.client.setLatest ops input }
  | .recordFrame capacityFrames frame => { s with client := s.client.recordFrame capacityFrames frame }
  | .fillFramesThrough capacityFrames frame => { s with client := s.client.fillFramesThrough capacityFrames frame }
  | .appendInputPacket mtuBytes packetIdBits pendingAcks =>
    let r := s.client.appendInputPacket ops mtuBytes packetIdBits pendingAcks
    { s with client := r.1, packets := r.2.toList ++ s.packets }
  | .retireTransmitFramesThrough frame => { s with client := s.client.retireTransmitFramesThrough frame }
  | .deliverPacket packet =>
    let r := s.server.processPacketPayload ops serverCapacity packet.payload
    { s with server := r.1, decodes := (packet, r.2) :: s.decodes }
  | .sendAck => { s with acks := s.server.inputAckFrame :: s.acks }
  | .deliverAck frame => { s with client := s.client.acknowledgeFrame frame }

/-- Every frame the server decoded from a packet is one the client serialized into it, in its order. -/
def Agrees (s : InputSystem) : Prop := ∀ d ∈ s.decodes, d.2 <+: d.1.inputs

end InputSystem

inductive InputStep (ops : InputOps) (serverCapacity : Nat) (may : InputSystem → InputAct → Prop) :
    InputSystem → InputSystem → Prop
  | act (s) (a : InputAct) (enabled : s.Enabled a) (allowed : may s a) :
    InputStep ops serverCapacity may s (s.act ops serverCapacity a)

def InputReach (ops : InputOps) (serverCapacity : Nat) (may : InputSystem → InputAct → Prop) :
    InputSystem → Prop :=
  Relation.ReflTransGen (InputStep ops serverCapacity may) {}

def InputOps.Inverts (ops : InputOps) : Prop :=
  ∀ (previous : Option Bytes) (current : Bytes) (context : SerializationContext),
    (∀ bytes ∈ previous, bytes.length = ops.quantizedSize) → current.length = ops.quantizedSize →
    Reads (ops.deserialize previous context) (ops.serialize previous current context) current

/-! ## Rings -/

theorem find?_record {ring : InputRing} {frame g : SyncFrame} {bytes x : Bytes}
    (h : (ring.record frame bytes).find? g = some x) : (g = frame ∧ x = bytes) ∨ ring.find? g = some x := by
  unfold InputRing.record InputRing.find? at h
  simp only [InputRing.slotFor, List.length_set, List.getElem?_set] at h
  by_cases hslot : frame &&& (ring.length - 1) = g &&& (ring.length - 1)
  case pos =>
    by_cases hlt : g &&& (ring.length - 1) < ring.length
    · simp [hslot, hlt] at h
      exact .inl ⟨h.1.symm, h.2.symm⟩
    · simp [hslot, hlt] at h
  case neg =>
    rw [if_neg hslot] at h
    exact .inr h

theorem find?_replicate (n : Nat) (frame : SyncFrame) : InputRing.find? (List.replicate n {}) frame = none := by
  simp only [InputRing.find?, List.getElem?_replicate]
  split
  · rename_i slot hslot
    split at hslot
    · simp only [Option.some.injEq] at hslot
      simp [← hslot]
    · cases hslot
  · rfl

/-! ## What a packet holds -/

def encodeInputs (ops : InputOps) : Option Bytes → List (SyncFrame × Bytes) → Bits
  | _, [] => []
  | previous, input :: inputs =>
    ops.serialize previous input.2 (inputContext input.1 previous) ++ encodeInputs ops (some input.2) inputs

theorem writeFrames_spec (ops : InputOps) (mtuBytes : Nat) (ring : InputRing) :
    ∀ (n : Nat) (frame : SyncFrame) (previous : Option Bytes) (bitSize : Nat),
    let written := ClientInputBuffer.writeFrames ops mtuBytes ring n frame previous bitSize
    written.length ≤ n ∧ written.map Prod.fst = List.range' frame written.length ∧
    (∀ w ∈ written, ring.find? w.1 = some w.2.1) ∧
    (written.flatMap fun w => w.2.2) = encodeInputs ops previous (written.map fun w => (w.1, w.2.1))
  | 0, _, _, _ => by simp [ClientInputBuffer.writeFrames, encodeInputs]
  | n + 1, frame, previous, bitSize => by
    simp only [ClientInputBuffer.writeFrames]
    split
    case h_1 => simp [encodeInputs]
    case h_2 bytes hfind =>
      split
      case isTrue => simp [encodeInputs]
      case isFalse =>
        obtain ⟨hlen, hframes, hring, hbits⟩ := writeFrames_spec ops mtuBytes ring n (frame + 1) (some bytes)
          (bitSize + (ops.serialize previous bytes (inputContext frame previous)).length)
        refine ⟨by simpa using hlen, ?_, ?_, ?_⟩
        · simp [hframes, List.range'_succ]
        · simp only [List.mem_cons, forall_eq_or_imp]
          exact ⟨hfind, hring⟩
        · simp [encodeInputs, hbits]

/-- The suffix is what one attempt wrote, and it is empty or reaches the last frame. -/
theorem appendNewestInputSuffix_spec (ops : InputOps) (buffer : ClientInputBuffer) (mtuBytes offset : Nat)
    (last : SyncFrame) : ∀ (fuel count : Nat), count < fuel → count ≤ last →
    let r := buffer.appendNewestInputSuffix ops mtuBytes offset last fuel count
    r.1 ≤ count ∧ r.2 = buffer.writeInputAttempt ops mtuBytes offset last r.1 ∧
    (r.2 = [] ∨ ∃ written, r.2.getLast? = some written ∧ written.1 = last)
  | 0, count, h, _ => by omega
  | fuel + 1, count, h, hlast => by
    simp only [ClientInputBuffer.appendNewestInputSuffix]
    generalize hres : buffer.writeInputAttempt ops mtuBytes offset last count = result
    split
    case isTrue hdone =>
      refine ⟨Nat.le_refl _, hres.symm, ?_⟩
      simp only [Bool.or_eq_true, List.isEmpty_iff, Option.any_eq_true, beq_iff_eq] at hdone
      exact hdone
    case isFalse hmore =>
      simp only [Bool.or_eq_true, List.isEmpty_iff, Option.any_eq_true, beq_iff_eq, not_or] at hmore
      obtain ⟨hne, hshort⟩ := hmore
      obtain ⟨hlen, hframes, -, -⟩ := writeFrames_spec ops mtuBytes buffer.frames count
        (ClientInputBuffer.rangeFirst last count) (buffer.firstPrevious (ClientInputBuffer.rangeFirst last count))
        (offset + (buffer.inputHeader (ClientInputBuffer.rangeFirst last count) 0).length)
      change (buffer.writeInputAttempt ops mtuBytes offset last count).length ≤ count at hlen
      change (buffer.writeInputAttempt ops mtuBytes offset last count).map Prod.fst = List.range' _
        (buffer.writeInputAttempt ops mtuBytes offset last count).length at hframes
      rw [hres] at hlen hframes
      -- a full-length attempt would end at the last frame
      have hlt : result.length < count := by
        rcases Nat.lt_or_eq_of_le hlen with hlt | heq
        · exact hlt
        · exfalso
          obtain ⟨init, w, rfl⟩ := (List.eq_nil_or_concat' result).resolve_left hne
          have hlastFrame := congrArg (·[init.length]?) hframes
          obtain rfl : count = init.length + 1 := by simpa using heq.symm
          simp [ClientInputBuffer.rangeFirst] at hlastFrame
          refine hshort ⟨w, by simp, ?_⟩
          grind
      obtain ⟨hle, hsame, hend⟩ := appendNewestInputSuffix_spec ops buffer mtuBytes offset last fuel result.length
        (by omega) (by omega)
      exact ⟨by omega, hsame, hend⟩

def wirePacket (baselineFrame : SyncFrame) (full : Bool) (first : SyncFrame) (count : Nat) (body : Bits) : Bits :=
  bits baselineFrame 32 ++ (full :: bits (if full then first else 0) (if full then 32 else 0)) ++
    bits count inputCountBits ++ body

structure InputPacketInv (ops : InputOps) (Sent : SyncFrame → Bytes → Prop) (packet : InputPacket) (full : Bool)
    (first : Nat) : Prop where
  payload : packet.payload = wirePacket packet.baselineFrame full first packet.inputs.length
    (encodeInputs ops packet.previous packet.inputs)
  frames : packet.inputs.map Prod.fst = List.range' first packet.inputs.length
  count : packet.inputs.length ≤ maxInputCount
  fits : packet.inputs ≠ [] → 0 < first ∧ first + packet.inputs.length ≤ 2 ^ 32
  firstFits : first < 2 ^ 32
  baselineFits : packet.baselineFrame < 2 ^ 32
  sized : ∀ input ∈ packet.inputs, input.2.length = ops.quantizedSize
  fullPrevious : full = true → packet.previous = none
  relative : full = false → packet.inputs ≠ [] → first = packet.baselineFrame + 1 ∧
    ∃ previous, packet.previous = some previous ∧ previous.length = ops.quantizedSize ∧
      (packet.baselineFrame = 0 → previous = List.replicate ops.quantizedSize 0) ∧
      (packet.baselineFrame ≠ 0 → Sent packet.baselineFrame previous)

theorem InputPacketInv.mono {ops : InputOps} {Sent Sent' : SyncFrame → Bytes → Prop} {packet : InputPacket}
    {full : Bool} {first : Nat} (h : InputPacketInv ops Sent packet full first)
    (hsub : ∀ f b, Sent f b → Sent' f b) :
    InputPacketInv ops Sent' packet full first :=
  { h with
    relative := fun hf hne => by
      obtain ⟨hfirst, previous, hprev, hlen, hzero, hsent⟩ := h.relative hf hne
      exact ⟨hfirst, previous, hprev, hlen, hzero, fun h0 => hsub _ _ (hsent h0)⟩ }

theorem reads_header (packet : InputPacket) {full : Bool} {first : SyncFrame} (hbase : packet.baselineFrame < 2 ^ 32)
    (hfirst : first < 2 ^ 32) (hcount : packet.inputs.length ≤ maxInputCount) (body : Bits) :
    ServerInputBuffer.readHeader (wirePacket packet.baselineFrame full first packet.inputs.length body) =
      some (⟨packet.baselineFrame, full, if full then first else 0, packet.inputs.length⟩, body) := by
  have hvalue : (if full then first else 0) < 2 ^ (if full then 32 else 0) := by
    cases full
    · exact Nat.one_pos
    · exact hfirst
  have hread : Reads ServerInputBuffer.readHeader
      (bits packet.baselineFrame 32 ++ ([full] ++ (bits (if full then first else 0) (if full then 32 else 0) ++
        bits packet.inputs.length inputCountBits)))
      ⟨packet.baselineFrame, full, if full then first else 0, packet.inputs.length⟩ :=
    (reads_bits hbase).bind ((reads_bit full).bind ((reads_bits hvalue).bind
      ((reads_bits (Nat.lt_of_le_of_lt hcount (by decide))).bind_nil (Reads.pure _))))
  have hbody := hread body
  simpa [wirePacket] using hbody

/-! ## Decoding -/

structure ServerInputInv (Sent : SyncFrame → Bytes → Prop) (server : ServerInputBuffer) : Prop where
  ring : ∀ frame bytes, server.inputFrames.find? frame = some bytes → Sent frame bytes
  latest : server.hasLatestInput = true → Sent server.inputAckFrame server.latestInput
  acked : server.inputAckFrame = 0 ∨ ∃ bytes, Sent server.inputAckFrame bytes

theorem ServerInputInv.mono {Sent Sent' : SyncFrame → Bytes → Prop} {server : ServerInputBuffer}
    (h : ServerInputInv Sent server) (hsub : ∀ f b, Sent f b → Sent' f b) : ServerInputInv Sent' server where
  ring f b hfind := hsub f b (h.ring f b hfind)
  latest hl := hsub _ _ (h.latest hl)
  acked := h.acked.imp_right fun ⟨b, hb⟩ => ⟨b, hsub _ _ hb⟩

theorem ServerInputInv.storeFrame {Sent : SyncFrame → Bytes → Prop} {server : ServerInputBuffer}
    (h : ServerInputInv Sent server) {frame : SyncFrame} {bytes : Bytes} (hsent : Sent frame bytes) :
    ServerInputInv Sent (server.storeFrame frame bytes) ∧
      server.inputAckFrame ≤ (server.storeFrame frame bytes).inputAckFrame := by
  unfold ServerInputBuffer.storeFrame
  split
  case isTrue hlater =>
    refine ⟨⟨fun g x hfind => ?_, fun _ => hsent, .inr ⟨bytes, hsent⟩⟩, Nat.le_of_lt hlater⟩
    rcases find?_record hfind with ⟨rfl, rfl⟩ | hold
    · exact hsent
    · exact h.ring g x hold
  case isFalse => exact ⟨h, Nat.le_refl _⟩

section
variable {ops : InputOps}

theorem decodeInputs_spec (hops : ops.Inverts) {Sent : SyncFrame → Bytes → Prop} (first : Nat) (full : Bool) :
    ∀ (inputs : List (SyncFrame × Bytes)) (index : Nat) (previous : Bytes) (server : ServerInputBuffer),
    inputs.map Prod.fst = List.range' (first + index) inputs.length → first + index + inputs.length ≤ 2 ^ 32 →
    (∀ input ∈ inputs, input.2.length = ops.quantizedSize) → previous.length = ops.quantizedSize →
    (∀ input ∈ inputs, Sent input.1 input.2) → ServerInputInv Sent server →
    let r := server.decodeInputs ops first full inputs.length index previous
      (encodeInputs ops (if index == 0 && full then none else some previous) inputs)
    r.2 <+: inputs ∧ ServerInputInv Sent r.1 ∧ server.inputAckFrame ≤ r.1.inputAckFrame
  | [], _, _, server, _, _, _, _, _, hserver => ⟨List.prefix_rfl, hserver, Nat.le_refl _⟩
  | (frame, bytes) :: inputs, index, previous, server, hframes, hfits, hsized, hprev, hsent, hserver => by
    simp only [List.length_cons, List.map_cons, List.range'_succ, List.cons.injEq] at hframes hfits
    obtain ⟨hframe, hframes⟩ := hframes
    have hmod : (first + index) % 2 ^ 32 = frame := by
      rw [hframe]
      exact Nat.mod_eq_of_lt (by omega)
    have hbytes : bytes.length = ops.quantizedSize := hsized (frame, bytes) (by simp)
    obtain ⟨hstored, hack⟩ := hserver.storeFrame (hsent (frame, bytes) (by simp))
    obtain ⟨hlog, hinv, hmono⟩ := decodeInputs_spec hops first full inputs (index + 1) bytes
      (server.storeFrame frame bytes) (by rw [← Nat.add_assoc]; exact hframes) (by omega)
      (fun input hi => hsized input (by simp [hi])) hbytes (fun input hi => hsent input (by simp [hi])) hstored
    have hlater : (index + 1 == 0 && full) = false := by simp
    rw [hlater] at hlog hinv hmono
    have hpreviousSized : ∀ b ∈ (if index == 0 && full then none else some previous),
        b.length = ops.quantizedSize := by
      intro b hb
      split at hb
      · cases hb
      · rw [Option.mem_some_iff] at hb
        exact hb ▸ hprev
    simp only [List.length_cons, ServerInputBuffer.decodeInputs, encodeInputs, hmod]
    generalize (if index == 0 && full then none else some previous) = previousBytes at hpreviousSized
    rw [hops previousBytes bytes (inputContext frame previousBytes) hpreviousSized hbytes]
    dsimp only
    by_cases hempty : (encodeInputs ops (some bytes) inputs).length =
        (ops.serialize previousBytes bytes (inputContext frame previousBytes) ++
          encodeInputs ops (some bytes) inputs).length
    case pos =>
      rw [if_pos hempty]
      exact ⟨List.nil_prefix, hserver, Nat.le_refl _⟩
    case neg =>
      rw [if_neg hempty]
      exact ⟨(List.prefix_cons_inj _).mpr hlog, hinv, Nat.le_trans hack hmono⟩

theorem findBaseline_sent {Sent : SyncFrame → Bytes → Prop} {server : ServerInputBuffer} {frame : SyncFrame}
    {bytes : Bytes} (hserver : ServerInputInv Sent server) (h : server.findBaseline ops frame = some bytes) :
    Sent frame bytes ∧ bytes.length = ops.quantizedSize := by
  unfold ServerInputBuffer.findBaseline at h
  split at h
  case h_1 stored hfind =>
    obtain rfl : stored = bytes := by simpa using h
    obtain ⟨hfind, hlen⟩ := Option.filter_eq_some_iff.mp hfind
    exact ⟨hserver.ring _ _ hfind, by simpa using hlen⟩
  case h_2 =>
    split at h
    case isTrue hlatest =>
      simp only [Bool.and_eq_true, beq_iff_eq] at hlatest
      obtain ⟨⟨hhas, rfl⟩, hlen⟩ := hlatest
      obtain rfl : server.latestInput = bytes := by simpa using h
      exact ⟨hserver.latest hhas, hlen⟩
    case isFalse => cases h

theorem ServerInputInv.ensureCapacity {Sent : SyncFrame → Bytes → Prop} {server : ServerInputBuffer}
    (h : ServerInputInv Sent server) (capacityFrames : Nat) :
    ServerInputInv Sent (server.ensureCapacity capacityFrames) := by
  unfold ServerInputBuffer.ensureCapacity
  split
  case isTrue =>
    refine ⟨fun f b hfind => ?_, h.latest, h.acked⟩
    simp [find?_replicate] at hfind
  case isFalse => exact h

theorem ensureCapacity_inputAckFrame (capacityFrames : Nat) (server : ServerInputBuffer) :
    (server.ensureCapacity capacityFrames).inputAckFrame = server.inputAckFrame := by
  unfold ServerInputBuffer.ensureCapacity
  split <;> rfl

theorem processPacketPayload_spec (hops : ops.Inverts) {Sent : SyncFrame → Bytes → Prop}
    {server : ServerInputBuffer} {packet : InputPacket} {full : Bool} {first : Nat}
    (hpacket : InputPacketInv ops Sent packet full first) (hserver : ServerInputInv Sent server)
    (hfun : ∀ f b b', Sent f b → Sent f b' → b = b') (hbase : packet.baselineFrame ≤ server.inputAckFrame)
    (hsent : ∀ input ∈ packet.inputs, Sent input.1 input.2) (capacityFrames : Nat) :
    let r := server.processPacketPayload ops capacityFrames packet.payload
    r.2 <+: packet.inputs ∧ ServerInputInv Sent r.1 ∧ server.inputAckFrame ≤ r.1.inputAckFrame := by
  have hsame : server.raiseAckFrame packet.baselineFrame = server := if_neg (Nat.not_lt.mpr hbase)
  have hnone : ([] : List (SyncFrame × Bytes)) <+: packet.inputs ∧ ServerInputInv Sent server ∧
      server.inputAckFrame ≤ server.inputAckFrame := ⟨List.nil_prefix, hserver, Nat.le_refl _⟩
  simp only [ServerInputBuffer.processPacketPayload]
  rw [hpacket.payload, reads_header packet hpacket.baselineFits hpacket.firstFits hpacket.count]
  dsimp only
  rw [if_neg (Nat.not_lt.mpr hpacket.count), hsame]
  by_cases hempty : packet.inputs = []
  case pos =>
    simp only [hempty, List.length_nil, or_true, if_true] at hnone ⊢
    split
    · exact hnone
    · exact hnone
  case neg =>
    obtain ⟨hpos, hfits⟩ := hpacket.fits hempty
    have hne : ¬(first = 0 ∨ packet.inputs.length = 0) := by
      rw [List.length_eq_zero_iff, not_or]
      exact ⟨by omega, hempty⟩
    have hensured := hserver.ensureCapacity capacityFrames
    have hdecode (full : Bool) (previous : Bytes) (hsized : previous.length = ops.quantizedSize) :=
      decodeInputs_spec hops first full packet.inputs 0 previous _ hpacket.frames (by omega) hpacket.sized hsized
        hsent hensured
    simp only [ensureCapacity_inputAckFrame] at hdecode
    cases full with
    | true =>
      have hdecode := hdecode true (List.replicate ops.quantizedSize 0) (by simp)
      simp only [beq_self_eq_true, Bool.and_true, if_true, Bool.not_true, Bool.and_false, Bool.false_eq_true,
        if_false, hpacket.fullPrevious rfl] at hdecode ⊢
      rwa [if_neg hne]
    | false =>
      obtain ⟨hfirst, previous, hprevious, hsized, hzero, hbaseline⟩ := hpacket.relative rfl hempty
      have hmod : (packet.baselineFrame + 1) % 2 ^ 32 = first := by
        rw [← hfirst]
        exact Nat.mod_eq_of_lt hpacket.firstFits
      have hdecode := hdecode false previous hsized
      simp only [Bool.false_eq_true, if_false, hmod, Bool.not_false, Bool.and_true, Bool.and_false, hprevious]
        at hdecode ⊢
      by_cases h0 : packet.baselineFrame = 0
      case pos =>
        rw [if_neg (by simp [h0])]
        dsimp only
        rw [if_neg hne, ← hzero h0]
        exact hdecode
      case neg =>
        rw [if_pos (by simpa using h0)]
        cases hfind : server.findBaseline ops packet.baselineFrame with
        | none => exact hnone
        | some bytes =>
          -- both sides name the value the frame was sent with
          obtain rfl : bytes = previous := hfun _ _ _ (findBaseline_sent hserver hfind).1 (hbaseline h0)
          dsimp only
          rw [if_neg hne]
          exact hdecode

end

/-! ## Building a packet -/

theorem contiguousCount_le (ring : InputRing) : ∀ (n : Nat) (frame : SyncFrame),
    ClientInputBuffer.contiguousCount ring n frame ≤ n
  | 0, _ => Nat.le_refl _
  | n + 1, frame => by
    unfold ClientInputBuffer.contiguousCount
    split
    · exact Nat.succ_le_succ (contiguousCount_le ring n _)
    · exact Nat.zero_le _

structure BuiltFrom (ops : InputOps) (buffer : ClientInputBuffer) (packet : InputPacket) (first : Nat) : Prop where
  hasLatest : buffer.hasLatest = true
  baselineFrame : packet.baselineFrame = buffer.ackedFrame
  previous : packet.previous = buffer.firstPrevious first
  payload : packet.payload =
    buffer.inputHeader first packet.inputs.length ++ encodeInputs ops packet.previous packet.inputs
  frames : packet.inputs.map Prod.fst = List.range' first packet.inputs.length
  count : packet.inputs.length ≤ maxInputCount
  ring : ∀ input ∈ packet.inputs, buffer.frames.find? input.1 = some input.2
  firstLe : first ≤ buffer.lastRecordedFrame
  fits : packet.inputs ≠ [] → 0 < first ∧ first + packet.inputs.length ≤ buffer.lastRecordedFrame + 1

theorem appendInputPacket_cases (ops : InputOps) (buffer : ClientInputBuffer)
    (mtuBytes packetIdBits pendingAcks : Nat) :
    buffer.appendInputPacket ops mtuBytes packetIdBits pendingAcks = (buffer, none) ∨
    ∃ discontinuous packet first, BuiltFrom ops buffer packet first ∧
      buffer.appendInputPacket ops mtuBytes packetIdBits pendingAcks =
        ({ buffer with historyDiscontinuous := discontinuous }, some packet) := by
  unfold ClientInputBuffer.appendInputPacket
  dsimp only
  split
  case isTrue => exact .inl rfl
  case isFalse hready =>
    simp only [Bool.or_eq_true, Bool.not_eq_true', decide_eq_false_iff_not, decide_eq_true_eq, not_or, not_not,
      Bool.not_eq_false] at hready
    obtain ⟨⟨hlatest, hlater⟩, -⟩ := hready
    generalize hdesired : buffer.findNewestContiguousInputCount
      (max buffer.ackedFrame buffer.retiredTransmitFrame) = desired
    have hle : desired ≤ min (buffer.lastRecordedFrame - max buffer.ackedFrame buffer.retiredTransmitFrame)
        maxInputCount := hdesired ▸ contiguousCount_le _ _ _
    generalize ClientInputBuffer.appendAcks mtuBytes packetIdBits _ _ _ = ackCount
    generalize messageBits + ackCountBits + ackCount * packetIdBits = offset
    have hspec := appendNewestInputSuffix_spec ops buffer mtuBytes offset buffer.lastRecordedFrame
      (desired + 1) desired (Nat.lt_succ_self _) (by omega)
    generalize buffer.appendNewestInputSuffix ops mtuBytes offset buffer.lastRecordedFrame (desired + 1) desired = r
      at hspec
    obtain ⟨hcount, hwritten, -⟩ := hspec
    split
    case isTrue => exact .inl rfl
    case isFalse =>
      obtain ⟨hlen, hframes, hring, hbits⟩ := writeFrames_spec ops mtuBytes buffer.frames r.1
        (ClientInputBuffer.rangeFirst buffer.lastRecordedFrame r.1)
        (buffer.firstPrevious (ClientInputBuffer.rangeFirst buffer.lastRecordedFrame r.1))
        (offset + (buffer.inputHeader (ClientInputBuffer.rangeFirst buffer.lastRecordedFrame r.1) 0).length)
      rw [ClientInputBuffer.writeInputAttempt] at hwritten
      rw [← hwritten] at hlen hframes hring hbits
      refine .inr ⟨_, _, ClientInputBuffer.rangeFirst buffer.lastRecordedFrame r.1, ?_, rfl⟩
      have hlenSame : (r.2.map fun w => (w.1, w.2.1)).length = r.2.length := List.length_map _
      constructor
      · exact hlatest
      · rfl
      · rfl
      · dsimp only
        rw [hlenSame, hbits]
      · dsimp only
        rw [hlenSame, ← hframes, List.map_map]
        rfl
      · dsimp only
        omega
      · simp only [List.mem_map, forall_exists_index, and_imp, forall_apply_eq_imp_iff₂]
        exact hring
      · unfold ClientInputBuffer.rangeFirst
        split
        · exact Nat.zero_le _
        · omega
      · intro hne
        have hpos : r.1 ≠ 0 := by
          intro h0
          apply hne
          simp only [List.map_eq_nil_iff]
          exact List.length_eq_zero_iff.mp (by omega)
        dsimp only
        rw [hlenSame, ClientInputBuffer.rangeFirst, if_neg hpos]
        omega

/-! ## The joint invariant -/

structure ClientInputInv (ops : InputOps) (Sent : SyncFrame → Bytes → Prop) (client : ClientInputBuffer) :
    Prop where
  lastFits : client.lastRecordedFrame < 2 ^ 32
  ackedLe : client.ackedFrame ≤ client.lastRecordedFrame
  sentLe : ∀ frame bytes, Sent frame bytes → frame ≤ client.lastRecordedFrame
  idle : client.hasLatest = false → client.lastRecordedFrame = 0 ∧ client.ackedBaseline = []
  unset : client.payloadStrideSet = false → client.lastRecordedFrame = 0
  latestSized : client.hasLatest = true → client.latest.length = ops.quantizedSize
  baselineSized : client.hasLatest = true → client.ackedBaseline.length = ops.quantizedSize
  ring : ∀ frame bytes, client.frames.find? frame = some bytes → bytes.length = ops.quantizedSize ∧
    ∀ sent, Sent frame sent → sent = bytes
  zero : client.hasLatest = true → client.ackedFrame = 0 → client.ackedBaseline = List.replicate ops.quantizedSize 0
  baseline : client.ackedFrame ≠ 0 → client.hasAckedBaseline = true → Sent client.ackedFrame client.ackedBaseline

structure InputInv (ops : InputOps) (s : InputSystem) : Prop where
  client : ClientInputInv ops s.Sent s.client
  server : ServerInputInv s.Sent s.server
  functional : ∀ frame bytes bytes', s.Sent frame bytes → s.Sent frame bytes' → bytes = bytes'
  ackedServer : s.client.ackedFrame ≤ s.server.inputAckFrame
  acks : ∀ frame ∈ s.acks, frame ≤ s.server.inputAckFrame ∧ (frame = 0 ∨ ∃ bytes, s.Sent frame bytes)
  packets : ∀ packet ∈ s.packets, packet.baselineFrame ≤ s.server.inputAckFrame ∧
    ∃ full first, InputPacketInv ops s.Sent packet full first
  agrees : s.Agrees

section
variable {ops : InputOps} {Sent : SyncFrame → Bytes → Prop} {client : ClientInputBuffer}

theorem length_bufferOf (size : Nat) (bytes : Bytes) : (bufferOf size bytes).length = size := by
  simp only [bufferOf, List.length_append, List.length_take, List.length_replicate]
  omega

theorem ClientInputInv.resetFrames (h : ClientInputInv ops Sent client) (hunset : client.payloadStrideSet = false) :
    ClientInputInv ops Sent client.resetFrames := by
  have hlast := h.unset hunset
  have hacked : client.ackedFrame = 0 := Nat.le_zero.mp (hlast ▸ h.ackedLe)
  constructor
  · exact Nat.two_pow_pos 32
  · exact Nat.le_refl 0
  · intro frame bytes hsent
    have hle := h.sentLe frame bytes hsent
    rwa [hlast] at hle
  · exact fun hidle => ⟨rfl, (h.idle hidle).2⟩
  · exact fun _ => rfl
  · exact h.latestSized
  · exact h.baselineSized
  · intro frame bytes hfind
    cases hfind
  · exact fun hlatest _ => h.zero hlatest hacked
  · exact fun hne => absurd rfl hne

/-- `set_latest` on a buffer that is not reset. -/
theorem ClientInputInv.replaceLatest (h : ClientInputInv ops Sent client) (input : Bytes)
    (hkeeps : client.ackedFrame = 0 ∨ client.hasAckedBaseline = true) :
    ClientInputInv ops Sent { client with
      latest := bufferOf ops.quantizedSize (ops.quantize input)
      ackedBaseline :=
        if client.ackedBaseline.length ≠ ops.quantizedSize then List.replicate ops.quantizedSize 0
        else client.ackedBaseline
      hasAckedBaseline := true
      hasLatest := true } := by
  have hbaseline : (if client.ackedBaseline.length ≠ ops.quantizedSize then List.replicate ops.quantizedSize 0
      else client.ackedBaseline) =
        if client.hasLatest = true then client.ackedBaseline else List.replicate ops.quantizedSize 0 := by
    cases hlatest : client.hasLatest with
    | false =>
      have hne : ([] : Bytes).length ≠ ops.quantizedSize := Nat.ne_of_lt ops.sized
      rw [(h.idle hlatest).2]
      exact if_pos hne
    | true => simp [h.baselineSized hlatest]
  rw [hbaseline]
  constructor
  · exact h.lastFits
  · exact h.ackedLe
  · exact h.sentLe
  · intro hfalse
    cases hfalse
  · exact h.unset
  · intro _
    exact length_bufferOf _ _
  · intro _
    dsimp only
    split
    case isTrue hlatest => exact h.baselineSized hlatest
    case isFalse => exact List.length_replicate
  · exact h.ring
  · intro _ h0
    dsimp only
    split
    case isTrue hlatest => exact h.zero hlatest h0
    case isFalse => rfl
  · intro hne _
    have hlatest : client.hasLatest = true := by
      cases hlatest : client.hasLatest with
      | false =>
        have hlast := (h.idle hlatest).1
        have hle := h.ackedLe
        rw [hlast] at hle
        exact absurd (Nat.le_zero.mp hle) hne
      | true => rfl
    dsimp only
    rw [if_pos hlatest]
    exact h.baseline hne (hkeeps.resolve_left hne)

theorem ClientInputInv.setLatest (h : ClientInputInv ops Sent client) (input : Bytes)
    (hkeeps : client.ackedFrame = 0 ∨ client.hasAckedBaseline = true) :
    ClientInputInv ops Sent (client.setLatest ops input) := by
  unfold ClientInputBuffer.setLatest
  split
  case isTrue hreset =>
    simp only [Bool.and_eq_true, Bool.not_eq_true'] at hreset
    exact (h.resetFrames hreset.2).replaceLatest input (.inl rfl)
  case isFalse => exact h.replaceLatest input hkeeps

theorem ensureCapacity_payloadStrideSet (client : ClientInputBuffer) (capacityFrames : Nat) :
    (client.ensureCapacity capacityFrames).payloadStrideSet = true := by
  unfold ClientInputBuffer.ensureCapacity
  split
  case isTrue => rfl
  case isFalse hring =>
    by_contra hunset
    exact hring (by rw [client.unset (eq_false_of_ne_true hunset)]; rfl)

theorem ClientInputInv.ensureCapacity (h : ClientInputInv ops Sent client) (capacityFrames : Nat) :
    ClientInputInv ops Sent (client.ensureCapacity capacityFrames) := by
  unfold ClientInputBuffer.ensureCapacity
  split
  case isTrue =>
    refine { h with unset := fun hset => Bool.noConfusion hset, ring := fun frame bytes hfind => ?_ }
    simp [find?_replicate] at hfind
  case isFalse => exact h

theorem ClientInputInv.storeLatest (h : ClientInputInv ops Sent client) {frame : SyncFrame} (hfits : frame < 2 ^ 32)
    (hlatest : client.hasLatest = true) (hset : client.payloadStrideSet = true)
    (hsame : ∀ bytes, Sent frame bytes → bytes = client.latest) :
    ClientInputInv ops Sent (client.storeLatest frame) where
  lastFits := Nat.max_lt.mpr ⟨h.lastFits, hfits⟩
  ackedLe := Nat.le_trans h.ackedLe (Nat.le_max_left _ _)
  sentLe g bytes hsent := Nat.le_trans (h.sentLe g bytes hsent) (Nat.le_max_left _ _)
  idle hidle := absurd (hlatest.symm.trans hidle) (by simp)
  unset hunset := absurd (hset.symm.trans hunset) (by simp)
  latestSized := h.latestSized
  baselineSized := h.baselineSized
  ring g bytes hfind := by
    rcases find?_record hfind with ⟨rfl, rfl⟩ | hold
    · exact ⟨h.latestSized hlatest, hsame⟩
    · exact h.ring g bytes hold
  zero := h.zero
  baseline := h.baseline

theorem ClientInputInv.recordFrame (h : ClientInputInv ops Sent client) (capacityFrames : Nat) {frame : SyncFrame}
    (hfits : frame < 2 ^ 32)
    (hkeeps : client.ackedFrame < frame → ∀ bytes, Sent frame bytes → bytes = client.latest) :
    ClientInputInv ops Sent (client.recordFrame capacityFrames frame) := by
  unfold ClientInputBuffer.recordFrame
  split
  case isTrue => exact h
  case isFalse hlatest =>
    split
    case isTrue => exact h
    case isFalse hacked =>
      have hlatest : (client.ensureCapacity capacityFrames).hasLatest = true := by
        unfold ClientInputBuffer.ensureCapacity
        split <;> simpa using hlatest
      have hsame : (client.ensureCapacity capacityFrames).latest = client.latest := by
        unfold ClientInputBuffer.ensureCapacity
        split <;> rfl
      dsimp only
      split
      case isTrue => exact h.ensureCapacity capacityFrames
      case isFalse =>
        exact (h.ensureCapacity capacityFrames).storeLatest hfits hlatest
          (ensureCapacity_payloadStrideSet client capacityFrames)
            (by rw [hsame]; exact hkeeps (Nat.lt_of_not_ge hacked))

theorem ClientInputInv.fillFrames : ∀ {frames : List SyncFrame} {client : ClientInputBuffer},
    ClientInputInv ops Sent client → client.hasLatest = true → client.payloadStrideSet = true →
    (∀ frame ∈ frames, frame < 2 ^ 32 ∧ ∀ bytes, ¬Sent frame bytes) →
    ClientInputInv ops Sent (frames.foldl ClientInputBuffer.fillFrame client)
  | [], _, h, _, _, _ => h
  | frame :: frames, client, h, hlatest, hset, hfresh => by
    obtain ⟨hfits, hunsent⟩ := hfresh frame (by simp)
    have hrest : ∀ g ∈ frames, g < 2 ^ 32 ∧ ∀ bytes, ¬Sent g bytes := fun g hg => hfresh g (by simp [hg])
    rw [List.foldl_cons]
    unfold ClientInputBuffer.fillFrame
    split
    case isTrue =>
      refine ClientInputInv.fillFrames ?_ hlatest hset hrest
      exact { h with
        lastFits := Nat.max_lt.mpr ⟨h.lastFits, hfits⟩
        ackedLe := Nat.le_trans h.ackedLe (Nat.le_max_left _ _)
        sentLe := fun g bytes hsent => Nat.le_trans (h.sentLe g bytes hsent) (Nat.le_max_left _ _)
        idle := fun hidle => absurd (hlatest.symm.trans hidle) (by simp)
        unset := fun hunset => absurd (hset.symm.trans hunset) (by simp) }
    case isFalse =>
      exact ClientInputInv.fillFrames
        (h.storeLatest hfits hlatest hset fun bytes hsent => absurd hsent (hunsent bytes)) hlatest hset hrest

theorem ClientInputInv.fillFramesThrough (h : ClientInputInv ops Sent client) (capacityFrames : Nat) {frame : Nat}
    (hfits : frame < 2 ^ 32) (hkeeps : client.lastRecordedFrame + 1 < 2 ^ 32) :
    ClientInputInv ops Sent (client.fillFramesThrough capacityFrames frame) := by
  unfold ClientInputBuffer.fillFramesThrough
  split
  case isTrue => exact h
  case isFalse hready =>
    have hready : client.hasLatest = true := by
      simp only [Bool.or_eq_true, Bool.not_eq_true', not_or, Bool.not_eq_false] at hready
      exact hready.1
    have hlatest : (client.ensureCapacity capacityFrames).hasLatest = true := by
      unfold ClientInputBuffer.ensureCapacity
      split <;> exact hready
    have hlast : (client.ensureCapacity capacityFrames).lastRecordedFrame = client.lastRecordedFrame := by
      unfold ClientInputBuffer.ensureCapacity
      split <;> rfl
    dsimp only
    split
    case isTrue => exact h.ensureCapacity capacityFrames
    case isFalse =>
      have hbegin : client.lastRecordedFrame < (client.ensureCapacity capacityFrames).fillBegin := by
        unfold ClientInputBuffer.fillBegin
        rw [hlast, Nat.mod_eq_of_lt hkeeps]
        exact Nat.lt_of_lt_of_le (Nat.lt_succ_self _) (Nat.le_max_right _ _)
      refine (h.ensureCapacity capacityFrames).fillFrames hlatest
        (ensureCapacity_payloadStrideSet client capacityFrames) fun current hcurrent => ?_
      simp only [List.mem_map, List.mem_range] at hcurrent
      obtain ⟨i, hi, rfl⟩ := hcurrent
      refine ⟨by grind, fun bytes hsent => ?_⟩
      have hle := h.sentLe _ _ hsent
      grind

theorem ClientInputInv.acknowledgeFrame (h : ClientInputInv ops Sent client) {frame : SyncFrame}
    (hframe : frame = 0 ∨ ∃ bytes, Sent frame bytes) : ClientInputInv ops Sent (client.acknowledgeFrame frame) := by
  unfold ClientInputBuffer.acknowledgeFrame
  split
  case isTrue => exact h
  case isFalse hnew =>
    obtain ⟨hlater, hrecorded⟩ := not_or.mp hnew
    have hne : frame ≠ 0 := by
      rintro rfl
      exact hlater (Nat.zero_le _)
    obtain ⟨sent, hsent⟩ := hframe.resolve_left hne
    refine { h with
      ackedLe := Nat.le_of_not_lt hrecorded
      idle := ?_
      baselineSized := ?_
      zero := fun _ h0 => absurd h0 hne
      baseline := ?_ }
    · intro hidle
      have hlast := (h.idle hidle).1
      rw [hlast] at hrecorded
      exact absurd (Nat.le_zero.mp (Nat.le_of_not_lt hrecorded)) hne
    · intro hlatest
      cases hfind : client.frames.find? frame with
      | none => exact h.baselineSized hlatest
      | some bytes => exact (h.ring frame bytes hfind).1
    · intro _ hfound
      cases hfind : client.frames.find? frame with
      | none =>
        have h0 : frame = 0 := by simpa [hfind] using hfound
        exact absurd h0 hne
      | some bytes =>
        have heq := (h.ring frame bytes hfind).2 sent hsent
        exact heq ▸ hsent

end

section
variable {ops : InputOps} {Sent : SyncFrame → Bytes → Prop} {client : ClientInputBuffer} {packet : InputPacket}
  {first : Nat}

theorem BuiltFrom.frame_le (h : BuiltFrom ops client packet first) {frame : Nat} {bytes : Bytes}
    (hmem : (frame, bytes) ∈ packet.inputs) : frame ≤ client.lastRecordedFrame := by
  have hframe : frame ∈ packet.inputs.map Prod.fst := List.mem_map_of_mem hmem
  rw [h.frames] at hframe
  have hlt := (List.mem_range'_1.mp hframe).2
  have hfits := (h.fits fun hnil => by simp [hnil] at hmem).2
  omega

theorem BuiltFrom.packetInv (h : BuiltFrom ops client packet first) (hclient : ClientInputInv ops Sent client) :
    InputPacketInv ops Sent packet (client.firstInputFull first) first where
  payload := by
    rw [h.payload, h.baselineFrame]
    rfl
  frames := h.frames
  count := h.count
  fits hne := by
    obtain ⟨hpos, hle⟩ := h.fits hne
    exact ⟨hpos, Nat.le_trans hle hclient.lastFits⟩
  firstFits := Nat.lt_of_le_of_lt h.firstLe hclient.lastFits
  baselineFits := by
    rw [h.baselineFrame]
    exact Nat.lt_of_le_of_lt hclient.ackedLe hclient.lastFits
  sized input hi := (hclient.ring _ _ (h.ring input hi)).1
  fullPrevious hfull := by rw [h.previous, ClientInputBuffer.firstPrevious, hfull, Bool.true_or, if_pos rfl]
  relative hfull hne := by
    obtain ⟨hpos, -⟩ := h.fits hne
    have hmust : client.mustEncodeFirstFrameInFull first = false := by
      have hfirst : (first != 0) = true := bne_iff_ne.mpr (Nat.ne_of_gt hpos)
      simpa [ClientInputBuffer.firstInputFull, hfirst] using hfull
    simp only [ClientInputBuffer.mustEncodeFirstFrameInFull, Bool.or_eq_false_iff, bne_eq_false_iff_eq,
      Bool.not_eq_false', Bool.or_eq_true, beq_iff_eq] at hmust
    obtain ⟨⟨-, hfirst⟩, hvalid⟩ := hmust
    have hsized := hclient.baselineSized h.hasLatest
    have hnonempty : client.ackedBaseline.isEmpty = false := by
      rw [List.isEmpty_eq_false_iff, ← List.length_pos_iff, hsized]
      exact ops.sized
    rw [h.baselineFrame]
    refine ⟨hfirst, client.ackedBaseline, ?_, hsized, hclient.zero h.hasLatest, fun h0 => ?_⟩
    · rw [h.previous, ClientInputBuffer.firstPrevious, hfull, hnonempty]
      rfl
    · exact hclient.baseline h0 (hvalid.resolve_left h0)

end

section
variable {ops : InputOps} {s : InputSystem}

/-- A new packet keeps one value for each frame, as its frames come from the ring. -/
theorem InputInv.appendInputPacket (h : InputInv ops s) {discontinuous : Bool} {packet : InputPacket} {first : Nat}
    (hbuilt : BuiltFrom ops s.client packet first) :
    InputInv ops { s with
      client := { s.client with historyDiscontinuous := discontinuous }
      packets := packet :: s.packets } := by
  let s' : InputSystem := { s with
    client := { s.client with historyDiscontinuous := discontinuous }
    packets := packet :: s.packets }
  change InputInv ops s'
  have hsplit : ∀ f b, s'.Sent f b → (f, b) ∈ packet.inputs ∨ s.Sent f b := by
    rintro f b ⟨p, hp, hmem⟩
    rcases List.mem_cons.mp hp with rfl | hp
    · exact .inl hmem
    · exact .inr ⟨p, hp, hmem⟩
  have hold : ∀ f b, s.Sent f b → s'.Sent f b := fun f b ⟨p, hp, hmem⟩ => ⟨p, by simp [s', hp], hmem⟩
  have hring : ∀ f b, s.client.frames.find? f = some b → ∀ sent, s'.Sent f sent → sent = b := by
    intro f b hfind sent hsent
    rcases hsplit f sent hsent with hnew | hsent
    · have hsame := hbuilt.ring (f, sent) hnew
      rw [hfind] at hsame
      exact (Option.some.inj hsame).symm
    · exact (h.client.ring f b hfind).2 sent hsent
  have hpacket : ∃ full first, InputPacketInv ops s'.Sent packet full first :=
    ⟨_, first, (hbuilt.packetInv h.client).mono hold⟩
  constructor
  · refine { h.client with
      sentLe := fun f b hsent => ?_
      ring := fun f b hfind => ⟨(h.client.ring f b hfind).1, hring f b hfind⟩
      baseline := fun hne hhas => hold _ _ (h.client.baseline hne hhas) }
    rcases hsplit f b hsent with hnew | hsent
    · exact hbuilt.frame_le hnew
    · exact h.client.sentLe f b hsent
  · exact h.server.mono hold
  · intro f b b' hb hb'
    rcases hsplit f b hb with hnew | hsent
    · exact (hring f b (hbuilt.ring (f, b) hnew) b' hb').symm
    · rcases hsplit f b' hb' with hnew' | hsent'
      · exact hring f b' (hbuilt.ring (f, b') hnew') b hb
      · exact h.functional f b b' hsent hsent'
  · exact h.ackedServer
  · intro frame hframe
    obtain ⟨hle, hsent⟩ := h.acks frame hframe
    exact ⟨hle, hsent.imp_right fun ⟨b, hb⟩ => ⟨b, hold _ _ hb⟩⟩
  · intro p hp
    rcases List.mem_cons.mp hp with rfl | hp
    · exact ⟨hbuilt.baselineFrame ▸ h.ackedServer, hpacket⟩
    · obtain ⟨hle, full, first, hinv⟩ := h.packets p hp
      exact ⟨hle, full, first, hinv.mono hold⟩
  · exact h.agrees

theorem InputInv.withClient (h : InputInv ops s) {client : ClientInputBuffer}
    (hclient : ClientInputInv ops s.Sent client) (hacked : client.ackedFrame ≤ s.server.inputAckFrame) :
    InputInv ops { s with client } where
  client := hclient
  server := h.server
  functional := h.functional
  ackedServer := hacked
  acks := h.acks
  packets := h.packets
  agrees := h.agrees

theorem storeLatest_ackedFrame (client : ClientInputBuffer) (frame : SyncFrame) :
    (client.storeLatest frame).ackedFrame = client.ackedFrame := rfl

theorem ensureCapacity_ackedFrame (client : ClientInputBuffer) (capacityFrames : Nat) :
    (client.ensureCapacity capacityFrames).ackedFrame = client.ackedFrame := by
  unfold ClientInputBuffer.ensureCapacity
  split <;> rfl

theorem setLatest_ackedFrame (client : ClientInputBuffer) (input : Bytes) :
    (client.setLatest ops input).ackedFrame ≤ client.ackedFrame := by
  unfold ClientInputBuffer.setLatest
  split
  · exact Nat.zero_le _
  · exact Nat.le_refl _

theorem recordFrame_ackedFrame (client : ClientInputBuffer) (capacityFrames : Nat) (frame : SyncFrame) :
    (client.recordFrame capacityFrames frame).ackedFrame = client.ackedFrame := by
  unfold ClientInputBuffer.recordFrame
  split
  · rfl
  · split
    · rfl
    · dsimp only
      split <;> simp [storeLatest_ackedFrame, ensureCapacity_ackedFrame]

theorem fillFrames_ackedFrame : ∀ (frames : List SyncFrame) (client : ClientInputBuffer),
    (frames.foldl ClientInputBuffer.fillFrame client).ackedFrame = client.ackedFrame
  | [], _ => rfl
  | frame :: frames, client => by
    rw [List.foldl_cons, fillFrames_ackedFrame frames]
    unfold ClientInputBuffer.fillFrame
    split <;> rfl

theorem fillFramesThrough_ackedFrame (client : ClientInputBuffer) (capacityFrames : Nat) (frame : SyncFrame) :
    (client.fillFramesThrough capacityFrames frame).ackedFrame = client.ackedFrame := by
  unfold ClientInputBuffer.fillFramesThrough
  split
  · rfl
  · dsimp only
    split <;> simp [fillFrames_ackedFrame, ensureCapacity_ackedFrame]

theorem InputInv.deliverPacket (h : InputInv ops s) (hops : ops.Inverts) (serverCapacity : Nat)
    {packet : InputPacket} (hpacket : packet ∈ s.packets) :
    InputInv ops (s.act ops serverCapacity (.deliverPacket packet)) := by
  obtain ⟨hbase, full, first, hinv⟩ := h.packets packet hpacket
  obtain ⟨hstart, hserver, hack⟩ := processPacketPayload_spec hops hinv h.server h.functional hbase
    (fun input hi => ⟨packet, hpacket, hi⟩) serverCapacity
  constructor
  · exact h.client
  · exact hserver
  · exact h.functional
  · exact Nat.le_trans h.ackedServer hack
  · intro frame hframe
    obtain ⟨hle, hsent⟩ := h.acks frame hframe
    exact ⟨Nat.le_trans hle hack, hsent⟩
  · intro p hp
    obtain ⟨hle, hp⟩ := h.packets p hp
    exact ⟨Nat.le_trans hle hack, hp⟩
  · intro d hd
    rcases List.mem_cons.mp hd with rfl | hd
    · exact hstart
    · exact h.agrees d hd

theorem InputInv.act (h : InputInv ops s) (hops : ops.Inverts) (serverCapacity : Nat) {a : InputAct}
    (henabled : s.Enabled a) (hkeeps : s.KeepsSent a) : InputInv ops (s.act ops serverCapacity a) := by
  cases a with
  | setLatest input =>
    exact h.withClient (h.client.setLatest input hkeeps)
      (Nat.le_trans (setLatest_ackedFrame s.client input) h.ackedServer)
  | recordFrame capacityFrames frame =>
    refine h.withClient (h.client.recordFrame capacityFrames henabled hkeeps) ?_
    rw [recordFrame_ackedFrame]
    exact h.ackedServer
  | fillFramesThrough capacityFrames frame =>
    refine h.withClient (h.client.fillFramesThrough capacityFrames henabled hkeeps) ?_
    rw [fillFramesThrough_ackedFrame]
    exact h.ackedServer
  | appendInputPacket mtuBytes packetIdBits pendingAcks =>
    rcases appendInputPacket_cases ops s.client mtuBytes packetIdBits pendingAcks with
      hnone | ⟨discontinuous, packet, first, hbuilt, hsome⟩
    · simpa [InputSystem.act, hnone] using h
    · simp only [InputSystem.act, hsome, Option.toList_some, List.singleton_append]
      exact h.appendInputPacket hbuilt
  | retireTransmitFramesThrough frame =>
    exact h.withClient { h.client with ring := h.client.ring } h.ackedServer
  | deliverPacket packet => exact h.deliverPacket hops serverCapacity henabled
  | sendAck =>
    refine { h with acks := fun frame hframe => ?_ }
    rcases List.mem_cons.mp hframe with rfl | hframe
    · exact ⟨Nat.le_refl _, h.server.acked⟩
    · exact h.acks frame hframe
  | deliverAck frame =>
    obtain ⟨hle, hsent⟩ := h.acks frame henabled
    refine h.withClient (h.client.acknowledgeFrame hsent) ?_
    unfold ClientInputBuffer.acknowledgeFrame
    split
    · exact h.ackedServer
    · exact hle

theorem InputInv.start (ops : InputOps) : InputInv ops {} where
  client :=
    { lastFits := by decide
      ackedLe := Nat.le_refl _
      sentLe := fun _ _ ⟨_, hp, _⟩ => by cases hp
      idle := fun _ => ⟨rfl, rfl⟩
      unset := fun _ => rfl
      latestSized := fun h => by cases h
      baselineSized := fun h => by cases h
      ring := fun _ _ h => by cases h
      zero := fun h => by cases h
      baseline := fun h => absurd rfl h }
  server :=
    { ring := fun _ _ h => by cases h
      latest := fun h => by cases h
      acked := .inl rfl }
  functional _ _ _ := fun ⟨_, hp, _⟩ => by cases hp
  ackedServer := Nat.le_refl _
  acks _ h := by cases h
  packets _ h := by cases h
  agrees _ h := by cases h

end

/-- In every run whose steps keep what was sent, the server decodes from each packet what the client put there. -/
theorem input_frames_agree (ops : InputOps) (hops : ops.Inverts) (serverCapacity : Nat) (s : InputSystem)
    (hs : InputReach ops serverCapacity InputSystem.KeepsSent s) : s.Agrees := by
  have hinv : InputInv ops s := by
    induction hs with
    | refl => exact InputInv.start ops
    | tail _ hstep ih =>
      obtain ⟨a, henabled, hkeeps⟩ := hstep
      exact ih.act hops serverCapacity henabled hkeeps
  exact hinv.agrees

namespace InputSample

def ops : InputOps where
  quantizedSize := 1
  quantize := id
  serialize previous current _ :=
    if previous = some current then [true] else false :: bits (current.headD 0).toNat 8
  deserialize previous _ := do
    let same ← readBit
    if same then
      match previous with
      | some bytes => pure bytes
      | none => failure
    else
      let value ← readBits 8
      pure [UInt8.ofNat value]
  sized := Nat.one_pos

theorem ops_inverts : ops.Inverts := by
  intro previous current context _ hlen
  obtain ⟨x, rfl⟩ := List.length_eq_one_iff.mp hlen
  by_cases hsame : previous = some [x]
  case pos =>
    subst hsame
    simp only [ops, if_true]
    exact (reads_bit true).bind_nil (Reads.pure _)
  case neg =>
    simp only [ops, if_neg hsame]
    refine (reads_bit false).bind ((reads_bits x.toNat_lt).bind_nil ?_)
    simp only [UInt8.ofNat_toNat]
    exact Reads.pure [x]

def sent : InputSystem :=
  ((({} : InputSystem).act ops 4 (.setLatest [1])).act ops 4 (.fillFramesThrough 4 1)).act ops 4
    (.appendInputPacket 64 8 0)

def firstPacket : InputPacket :=
  { payload := bits 0 32 ++ [false] ++ bits 1 5 ++ (false :: bits 1 8)
    baselineFrame := 0
    previous := some [0]
    inputs := [(1, [1])] }

def received : InputSystem := sent.act ops 4 (.deliverPacket firstPacket)

/-- Frame 1 is recorded again with the next input before its acknowledgement arrives. -/
def acknowledged : InputSystem :=
  (((received.act ops 4 (.setLatest [2])).act ops 4 (.recordFrame 4 1)).act ops 4 .sendAck).act ops 4 (.deliverAck 1)

def secondPacket : InputPacket :=
  { payload := bits 1 32 ++ [false] ++ bits 1 5 ++ [true]
    baselineFrame := 1
    previous := some [2]
    inputs := [(2, [2])] }

def misread : InputSystem :=
  ((acknowledged.act ops 4 (.recordFrame 4 2)).act ops 4 (.appendInputPacket 64 8 0)).act ops 4
    (.deliverPacket secondPacket)

theorem received_reach : InputReach ops 4 InputSystem.KeepsSent received :=
  ((((Relation.ReflTransGen.refl.tail (.act _ (.setLatest [1]) trivial (.inl rfl))).tail
    (.act _ (.fillFramesThrough 4 1) (by decide) (Nat.lt_of_sub_ne_zero (by decide)))).tail
    (.act _ (.appendInputPacket 64 8 0) trivial trivial)).tail
    (.act _ (.deliverPacket firstPacket) (by decide) trivial))

theorem misread_reach : InputReach ops 4 (fun _ _ => True) misread :=
  ((((((((((Relation.ReflTransGen.refl.tail (.act _ (.setLatest [1]) trivial trivial)).tail
    (.act _ (.fillFramesThrough 4 1) (by decide) trivial)).tail
    (.act _ (.appendInputPacket 64 8 0) trivial trivial)).tail
    (.act _ (.deliverPacket firstPacket) (by decide) trivial)).tail
    (.act _ (.setLatest [2]) trivial trivial)).tail
    (.act _ (.recordFrame 4 1) (by decide) trivial)).tail
    (.act _ .sendAck trivial trivial)).tail
    (.act _ (.deliverAck 1) (by decide) trivial)).tail
    (.act _ (.recordFrame 4 2) (by decide) trivial)).tail
    (.act _ (.appendInputPacket 64 8 0) trivial trivial)).tail
    (.act _ (.deliverPacket secondPacket) (by decide) trivial)

end InputSample

theorem input_frames_agree_received :
    InputReach InputSample.ops 4 InputSystem.KeepsSent InputSample.received ∧
    InputSample.received.decodes = [(InputSample.firstPacket, [(1, [1])])] ∧ InputSample.received.Agrees :=
  ⟨InputSample.received_reach, by decide,
    input_frames_agree _ InputSample.ops_inverts _ _ InputSample.received_reach⟩

/-- The server keeps 1 for frame 1 while the client deltas against the 2 it recorded there later. -/
theorem input_frames_disagree :
    ¬∀ (ops : InputOps), ops.Inverts → ∀ (serverCapacity : Nat) (s : InputSystem),
      InputReach ops serverCapacity (fun _ _ => True) s → s.Agrees := by
  intro h
  have hagrees := h InputSample.ops InputSample.ops_inverts 4 _ InputSample.misread_reach
  have hmem : (InputSample.secondPacket, [(2, [1])]) ∈ InputSample.misread.decodes := by decide
  exact absurd (hagrees _ hmem) (by decide)

end AshiatoSync
