import AshiatoSync.FrameRingStore

/-!
# Soundness of the frame ring store

The store is a bounded map: an entity has one write for each residue of the
capacity, the last one since it was cleared.  Clearing keeps the stride and
resetting drops it, so the map keeps the stride of each entity as well.
-/

namespace AshiatoSync

/-! ## The map -/

structure FrameWrite where
  metadata : FrameMetadata
  bytes : Bytes

structure FrameMap where
  writes : Nat := 0
  strides : Nat → Nat := fun _ => 0
  last : Nat → Nat → Option FrameWrite := fun _ _ => none

inductive FrameRingCall where
  | ensure (e : Nat)
  | clear (e : Nat)
  | clearAll
  | reset (e : Nat)
  | write (e : Nat) (sample : FrameSample) (source : FrameWriteSource) (origin : FramePresentationOrigin)
  | beginWrite (e : Nat) (frame : SyncFrame) (payloadSize : Nat) (source : FrameWriteSource)
      (stores : FrameMetadata → FrameMetadata) (bytes : Bytes)

def padded (bytes : Bytes) (stride : Nat) : Bytes := bytes ++ List.replicate (stride - bytes.length) 0

def FrameWrite.view (w : FrameWrite) (stride : Nat) : EntityFrameView where
  frame := w.metadata.frame
  valid := w.metadata.valid
  entityPresent := w.metadata.entityPresent
  componentApplyMask := w.metadata.componentApplyMask
  writeGeneration := w.metadata.writeGeneration
  writeSource := w.metadata.writeSource
  presentationCacheHit := false
  presentationOrigin := w.metadata.presentationOrigin
  baseline := {
    tagMask := w.metadata.tagMask, presentMask := w.metadata.presentMask
    bytes := if stride = 0 then none else some (padded w.bytes stride), byteCount := stride }

namespace FrameMap

def put (map : FrameMap) (capacity e payloadSize : Nat) (w : FrameWrite) : FrameMap where
  writes := map.writes + 1
  strides := Function.update map.strides e (max (map.strides e) payloadSize)
  last := Function.update map.last e (Function.update (map.last e) (w.metadata.frame % capacity) (some w))

def step (capacity : Nat) (map : FrameMap) : FrameRingCall → FrameMap
  | .ensure _ => map
  | .clear e => { map with last := Function.update map.last e fun _ => none }
  | .clearAll => { map with last := fun _ _ => none }
  | .reset e => { map with
      strides := Function.update map.strides e 0, last := Function.update map.last e fun _ => none }
  | .write e sample source origin =>
    let start := ClientFrameRingStore.startMetadata sample.frame (map.writes + 1) source
    map.put capacity e sample.bytes.length (.mk (ClientFrameRingStore.sampleMetadata sample origin start) sample.bytes)
  | .beginWrite e frame payloadSize source stores bytes =>
    let start := ClientFrameRingStore.startMetadata frame (map.writes + 1) source
    map.put capacity e payloadSize
      (.mk { stores start with frame } (bytes.take (max (map.strides e) payloadSize)))

def view (map : FrameMap) (capacity e : Nat) (frame : SyncFrame) : Option EntityFrameView :=
  match map.last e (frame % capacity) with
  | none => none
  | some w => if w.metadata.frame = frame ∧ w.metadata.valid then some (w.view (map.strides e)) else none

end FrameMap

/-! ## Capacities -/

namespace FrameRingCapacity

theorem pos (capacity : FrameRingCapacity) : 0 < capacity.value := Nat.pos_of_ne_zero capacity.isPowerOfTwo.1

theorem slot_eq (capacity : FrameRingCapacity) (frame : SyncFrame) :
    frame &&& (capacity.value - 1) = frame % capacity.value := by
  obtain ⟨k, hk⟩ := Nat.ne_zero_and_sub_one_eq_zero_iff_isPowerOfTwo.mp capacity.isPowerOfTwo
  rw [hk]
  exact Nat.and_two_pow_sub_one_eq_mod frame k

end FrameRingCapacity

/-! ## One ring -/

structure RingHolds (capacity : FrameRingCapacity) (ring : FramePayloadRing) (stride : Nat)
    (last : Nat → Option FrameWrite) : Prop where
  strided : ring.payloadStride = stride
  bytes : ring.payloads.length = ring.metadata.length * stride
  slots : ring.metadata.length = capacity.value ∨ ring.metadata = [] ∧ stride = 0
  bound : ∀ s w, last s = some w → s < ring.metadata.length
  metadata : ∀ s w, last s = some w → ring.metadataAt s = w.metadata
  fits : ∀ s w, last s = some w → w.bytes.length ≤ stride
  payload : ∀ s w, last s = some w → Rows.row ring.payloads stride s = padded w.bytes stride
  residue : ∀ s w, last s = some w → w.metadata.frame % capacity.value = s
  free : ∀ s, last s = none → (ring.metadataAt s).valid = false

theorem RingHolds.ofFree {capacity : FrameRingCapacity} {ring : FramePayloadRing} {stride : Nat}
    (strided : ring.payloadStride = stride) (bytes : ring.payloads.length = ring.metadata.length * stride)
    (slots : ring.metadata.length = capacity.value ∨ ring.metadata = [] ∧ stride = 0)
    (free : ∀ s, (ring.metadataAt s).valid = false) : RingHolds capacity ring stride fun _ => none where
  strided := strided
  bytes := bytes
  slots := slots
  bound := fun _ _ h => by cases h
  metadata := fun _ _ h => by cases h
  fits := fun _ _ h => by cases h
  payload := fun _ _ h => by cases h
  residue := fun _ _ h => by cases h
  free := fun s _ => free s

theorem ringHolds_empty (capacity : FrameRingCapacity) : RingHolds capacity {} 0 fun _ => none :=
  .ofFree rfl rfl (.inr ⟨rfl, rfl⟩) fun _ => rfl

section

variable {capacity : FrameRingCapacity} {ring : FramePayloadRing} {stride : Nat} {last : Nat → Option FrameWrite}

theorem metadataAt_replicate (n s : Nat) (ring : FramePayloadRing) :
    ({ ring with metadata := List.replicate n {} } : FramePayloadRing).metadataAt s = {} := by
  simp only [FramePayloadRing.metadataAt, List.getD_eq_getElem?_getD, List.getElem?_replicate]
  split <;> rfl

theorem RingHolds.ensure (h : RingHolds capacity ring stride last) :
    RingHolds capacity (ring.ensure capacity.value) stride last ∧
      (ring.ensure capacity.value).metadata.length = capacity.value := by
  unfold FramePayloadRing.ensure
  by_cases hempty : ring.metadata = []
  · rw [if_pos (List.isEmpty_iff.mpr hempty)]
    have hlast : ∀ s, last s = none := fun s => by
      cases hs : last s with
      | none => rfl
      | some w =>
        have := h.bound s w hs
        rw [hempty] at this
        exact absurd this (Nat.not_lt_zero s)
    have hzero : stride = 0 := by
      rcases h.slots with hlen | ⟨-, hzero⟩
      · have := capacity.pos
        rw [hempty, List.length_nil] at hlen
        omega
      · exact hzero
    have hnot : ∀ s w, last s ≠ some w := fun s w hs => by
      rw [hlast s] at hs
      cases hs
    refine ⟨⟨h.strided, ?_, .inl List.length_replicate, ?_, ?_, ?_, ?_, ?_, ?_⟩, List.length_replicate⟩
    · have := h.bytes
      rw [hzero, Nat.mul_zero] at this ⊢
      exact this
    · exact fun s w hs => absurd hs (hnot s w)
    · exact fun s w hs => absurd hs (hnot s w)
    · exact fun s w hs => absurd hs (hnot s w)
    · exact fun s w hs => absurd hs (hnot s w)
    · exact fun s w hs => absurd hs (hnot s w)
    · intro s _
      rw [metadataAt_replicate]
  · rw [if_neg fun hnil => hempty (List.isEmpty_iff.mp hnil)]
    exact ⟨h, h.slots.resolve_right fun hnil => hempty hnil.1⟩

theorem RingHolds.cleared (h : RingHolds capacity ring stride last) :
    RingHolds capacity ({ ring with metadata := ring.metadata.map fun _ => {} } : FramePayloadRing).clearPayloads stride
      fun _ => none := by
  apply RingHolds.ofFree
  · exact h.strided
  · change (List.replicate ring.payloads.length 0).length = (ring.metadata.map _).length * stride
    rw [List.length_replicate, List.length_map, h.bytes]
  · change (ring.metadata.map _).length = _ ∨ ring.metadata.map _ = [] ∧ _
    rw [List.length_map]
    exact h.slots.imp_right fun hnil => ⟨by rw [hnil.1]; rfl, hnil.2⟩
  · intro s
    change ((ring.metadata.map fun _ => ({} : FrameMetadata)).getD s {}).valid = false
    rw [List.getD_eq_getElem?_getD, List.getElem?_map]
    cases ring.metadata[s]? <;> rfl

/-! ### Strides -/

theorem padded_of_le {bytes : Bytes} {stride stride' : Nat} (hfits : bytes.length ≤ stride)
    (hle : stride ≤ stride') :
    padded bytes stride ++ List.replicate (stride' - stride) 0 = padded bytes stride' := by
  rw [padded, padded, List.append_assoc, List.replicate_append_replicate]
  congr 2
  omega

/-- The payloads of a wider ring: the old ones with zeros behind them. -/
theorem RingHolds.widened (h : RingHolds capacity ring stride last) {payloads : Bytes} {stride' : Nat}
    (hle : stride ≤ stride') (hlen : payloads.length = ring.metadata.length * stride')
    (hslots : ring.metadata.length = capacity.value)
    (hrows : ∀ s, s < ring.metadata.length → Rows.row payloads stride' s =
      Rows.row ring.payloads stride s ++ List.replicate (stride' - stride) 0) :
    RingHolds capacity { ring with payloads, payloadStride := stride' } stride' last := by
  refine ⟨rfl, hlen, .inl hslots, h.bound, h.metadata, fun s w hs => (h.fits s w hs).trans hle,
    fun s w hs => ?_, h.residue,
    h.free⟩
  have hrow := hrows s (h.bound s w hs)
  rw [h.payload s w hs, padded_of_le (h.fits s w hs) hle] at hrow
  exact hrow

theorem RingHolds.ensurePayloadStride (h : RingHolds capacity ring stride last)
    (hslots : ring.metadata.length = capacity.value) (payloadStride : Nat) :
    RingHolds capacity (ring.ensurePayloadStride payloadStride) (max stride payloadStride) last ∧
      (ring.ensurePayloadStride payloadStride).metadata = ring.metadata := by
  have hbytes := h.bytes
  unfold FramePayloadRing.ensurePayloadStride
  rw [h.strided]
  by_cases hle : payloadStride ≤ stride
  · rw [if_pos hle, if_neg (not_not_intro hbytes), Nat.max_eq_left hle]
    exact ⟨h, rfl⟩
  · have hmax : max stride payloadStride = payloadStride := Nat.max_eq_right (by omega)
    rw [if_neg hle, hmax]
    by_cases hzero : stride = 0
    · rw [if_pos hzero]
      refine ⟨h.widened (by omega) List.length_replicate hslots fun s hs => ?_, rfl⟩
      have hnil : Rows.row ring.payloads stride s = [] := by
        rw [Rows.row, hzero, List.take_zero]
      rw [Rows.row_replicate 0 hs, hnil, hzero, List.nil_append, Nat.sub_zero]
    · rw [if_neg hzero]
      exact ⟨h.widened (by omega) (Rows.length_widen 0 hbytes (by omega)) hslots
        fun s hs => Rows.row_widen 0 hbytes (by omega) hs, rfl⟩

/-! ### Writes -/

theorem metadataAt_storeMetadata (ring : FramePayloadRing) (slot s : Nat) (f : FrameMetadata → FrameMetadata) :
    (ring.storeMetadata slot f).metadataAt s =
      if s = slot ∧ s < ring.metadata.length then f (ring.metadataAt s) else ring.metadataAt s := by
  simp only [FramePayloadRing.metadataAt, FramePayloadRing.storeMetadata, List.getD_eq_getElem?_getD,
    List.getElem?_modify]
  by_cases hlen : s < ring.metadata.length
  · rw [List.getElem?_eq_getElem hlen]
    by_cases heq : s = slot
    · simp [heq, heq ▸ hlen]
    · simp [heq, Ne.symm heq]
  · rw [List.getElem?_eq_none (by omega)]
    simp [hlen]

theorem length_storeMetadata (ring : FramePayloadRing) (slot : Nat) (f : FrameMetadata → FrameMetadata) :
    (ring.storeMetadata slot f).metadata.length = ring.metadata.length := List.length_modify ..

def FramePayloadRing.storeBytes (ring : FramePayloadRing) (hasBytes : Bool) (slot : Nat) (bytes : Bytes) :
    FramePayloadRing :=
  if hasBytes then ring.storePayload slot bytes else ring

theorem storeBytes_metadata (ring : FramePayloadRing) (hasBytes : Bool) (slot : Nat) (bytes : Bytes) :
    (ring.storeBytes hasBytes slot bytes).metadata = ring.metadata := by
  unfold FramePayloadRing.storeBytes
  split <;> rfl

theorem payload_isSome (h : ring.payloads.length = ring.metadata.length * ring.payloadStride)
    (hslots : 0 < ring.metadata.length) (slot : Nat) :
    (ring.payload slot).isSome = decide (ring.payloadStride ≠ 0) := by
  unfold FramePayloadRing.payload
  by_cases hzero : ring.payloadStride = 0
  · rw [if_pos (.inl hzero), decide_eq_false (not_not_intro hzero)]
    rfl
  · have hpos : 0 < ring.metadata.length * ring.payloadStride := Nat.mul_pos hslots (Nat.pos_of_ne_zero hzero)
    have hne : ¬ring.payloads.isEmpty := fun hnil => by
      rw [List.isEmpty_iff.mp hnil, List.length_nil] at h
      omega
    rw [if_neg (not_or.mpr ⟨hzero, hne⟩), decide_eq_true hzero]
    rfl

theorem storeBytes_rows (h : ring.payloads.length = ring.metadata.length * ring.payloadStride) {slot : Nat}
    (hslot : slot < ring.metadata.length) {bytes : Bytes} (hfits : bytes.length ≤ ring.payloadStride) :
    let ring' := ring.storeBytes (decide (ring.payloadStride ≠ 0)) slot bytes
    ring'.payloadStride = ring.payloadStride ∧ ring'.payloads.length = ring.payloads.length ∧
      Rows.row ring'.payloads ring.payloadStride slot =
        bytes ++ (Rows.row ring.payloads ring.payloadStride slot).drop bytes.length ∧
      ∀ s, s ≠ slot → Rows.row ring'.payloads ring.payloadStride s =
        Rows.row ring.payloads ring.payloadStride s := by
  unfold FramePayloadRing.storeBytes
  by_cases hzero : ring.payloadStride = 0
  · rw [decide_eq_false (not_not_intro hzero)]
    have hnil : bytes = [] := List.length_eq_zero_iff.mp (by omega)
    rw [hnil]
    exact ⟨rfl, rfl, rfl, fun _ _ => rfl⟩
  · rw [decide_eq_true hzero]
    exact ⟨rfl, Rows.length_store (Rows.fits h hslot hfits), Rows.row_store_self h hslot hfits,
      fun s hne => Rows.row_store_of_ne h hslot hfits hne.symm⟩

theorem RingHolds.put (h : RingHolds capacity ring stride last) {ring' : FramePayloadRing} {slot : Nat} {w : FrameWrite}
    (hslot : slot < ring.metadata.length) (hresidue : w.metadata.frame % capacity.value = slot)
    (hfits : w.bytes.length ≤ stride) (hstride : ring'.payloadStride = stride)
    (hlen : ring'.metadata.length = ring.metadata.length) (hbytes : ring'.payloads.length = ring.payloads.length)
    (hself : ring'.metadataAt slot = w.metadata)
    (hothers : ∀ s, s ≠ slot → ring'.metadataAt s = ring.metadataAt s)
    (hrow : Rows.row ring'.payloads stride slot = padded w.bytes stride)
    (hrows : ∀ s, s ≠ slot → Rows.row ring'.payloads stride s = Rows.row ring.payloads stride s) :
    RingHolds capacity ring' stride (Function.update last slot (some w)) := by
  have hcases : ∀ s v, Function.update last slot (some w) s = some v → s = slot ∧ v = w ∨ s ≠ slot ∧
      last s = some v := by
    intro s v hs
    by_cases heq : s = slot
    · rw [heq, Function.update_self] at hs
      exact .inl ⟨heq, (Option.some.inj hs).symm⟩
    · rw [Function.update_of_ne heq] at hs
      exact .inr ⟨heq, hs⟩
  refine ⟨hstride, by rw [hbytes, hlen, h.bytes], ?_, ?_, ?_, ?_, ?_, ?_, ?_⟩
  · rcases h.slots with hslots | ⟨hnil, -⟩
    · exact .inl (hlen.trans hslots)
    · rw [hnil] at hslot
      exact absurd hslot (Nat.not_lt_zero _)
  · intro s v hs
    rw [hlen]
    rcases hcases s v hs with ⟨rfl, -⟩ | ⟨-, hold⟩
    · exact hslot
    · exact h.bound s v hold
  · intro s v hs
    rcases hcases s v hs with ⟨rfl, rfl⟩ | ⟨hne, hold⟩
    · exact hself
    · rw [hothers s hne, h.metadata s v hold]
  · intro s v hs
    rcases hcases s v hs with ⟨-, rfl⟩ | ⟨-, hold⟩
    · exact hfits
    · exact h.fits s v hold
  · intro s v hs
    rcases hcases s v hs with ⟨rfl, rfl⟩ | ⟨hne, hold⟩
    · exact hrow
    · rw [hrows s hne, h.payload s v hold]
  · intro s v hs
    rcases hcases s v hs with ⟨rfl, rfl⟩ | ⟨-, hold⟩
    · exact hresidue
    · exact h.residue s v hold
  · intro s hs
    have hne : s ≠ slot := fun heq => by
      rw [heq, Function.update_self] at hs
      cases hs
    rw [Function.update_of_ne hne] at hs
    rw [hothers s hne, h.free s hs]

def FramePayloadRing.filled (ring : FramePayloadRing) (slot : Nat) (f : FrameMetadata → FrameMetadata)
    (bytes : Bytes) :
    FramePayloadRing := (ring.storeMetadata slot f).storeBytes (decide (ring.payloadStride ≠ 0)) slot bytes

theorem RingHolds.filled (h : RingHolds capacity ring stride last) {slot : Nat} {f : FrameMetadata → FrameMetadata}
    {bytes : Bytes} {w : FrameWrite} (hslot : slot < ring.metadata.length)
    (hmetadata : f (ring.metadataAt slot) = w.metadata) (hresidue : w.metadata.frame % capacity.value = slot)
    (hfits : bytes.length ≤ stride) (hwfits : w.bytes.length ≤ stride)
    (hrow : bytes ++ (Rows.row ring.payloads stride slot).drop bytes.length = padded w.bytes stride) :
    RingHolds capacity (ring.filled slot f bytes) stride (Function.update last slot (some w)) := by
  obtain rfl := h.strided
  have hlen := length_storeMetadata ring slot f
  obtain ⟨hstride, hbytes, hself, hothers⟩ := @storeBytes_rows (ring.storeMetadata slot f)
    (by rw [hlen]; exact h.bytes) slot (by rw [hlen]; exact hslot) bytes hfits
  refine h.put hslot hresidue hwfits hstride ?_ hbytes ?_ ?_ (hself.trans hrow) hothers
  · rw [FramePayloadRing.filled, storeBytes_metadata, hlen]
  · rw [FramePayloadRing.filled, FramePayloadRing.metadataAt, storeBytes_metadata]
    refine (metadataAt_storeMetadata ring slot slot f).trans ?_
    rw [if_pos ⟨rfl, hslot⟩, hmetadata]
  · intro s hne
    rw [FramePayloadRing.filled, FramePayloadRing.metadataAt, storeBytes_metadata]
    refine (metadataAt_storeMetadata ring slot s f).trans ?_
    rw [if_neg fun heq => hne heq.1]

theorem RingHolds.started (h : RingHolds capacity ring stride last) {slot : Nat} (start : FrameMetadata)
    (hslot : slot < ring.metadata.length) (hresidue : start.frame % capacity.value = slot) :
    RingHolds capacity (ring.filled slot (fun _ => start) (List.replicate stride 0)) stride
      (Function.update last slot (some (.mk start []))) := by
  refine h.filled hslot rfl hresidue List.length_replicate.le (Nat.zero_le _) ?_
  rw [List.length_replicate, List.drop_eq_nil_of_le (Rows.length_row h.bytes hslot).le, List.append_nil]
  rfl

theorem RingHolds.completed {slot : Nat} {start : FrameMetadata}
    (h : RingHolds capacity ring stride (Function.update last slot (some (.mk start []))))
    {f : FrameMetadata → FrameMetadata} (hframe : (f start).frame = start.frame) {bytes : Bytes}
    (hfits : bytes.length ≤ stride) :
    RingHolds capacity (ring.filled slot f bytes) stride (Function.update last slot (some (.mk (f start) bytes))) := by
  have hself : Function.update last slot (some (.mk start [])) slot = some (.mk start []) := Function.update_self ..
  have hmetadata : ring.metadataAt slot = start := h.metadata slot _ hself
  have hresidue : start.frame % capacity.value = slot := h.residue slot _ hself
  have hrow : Rows.row ring.payloads stride slot = List.replicate stride 0 := h.payload slot _ hself
  have hfilled :=
    @RingHolds.filled _ _ _ _ h slot f bytes (.mk (f start) bytes) (h.bound slot _ hself) (by rw [hmetadata])
    (by rw [hframe, hresidue]) hfits hfits (by rw [hrow, List.drop_replicate]; rfl)
  rw [Function.update_idem] at hfilled
  exact hfilled

end

/-! ## The store -/

structure Refines (store : ClientFrameRingStore) (map : FrameMap) : Prop where
  writes : store.writeGenerationCounter = map.writes
  rings : ∀ e, RingHolds store.capacity (store.ring e) (map.strides e) (map.last e)

namespace ClientFrameRingStore

variable {store : ClientFrameRingStore} {map : FrameMap} {e : Nat}

theorem ring_modifyRing_self (h : e < store.rings.length) (f : FramePayloadRing → FramePayloadRing) :
    (store.modifyRing e f).ring e = f (store.ring e) := by
  simp only [ring, modifyRing, List.getD_eq_getElem?_getD, List.getElem?_modify, List.getElem?_eq_getElem h]
  simp

theorem ring_modifyRing_of_ne {e' : Nat} (hne : e' ≠ e) (f : FramePayloadRing → FramePayloadRing) :
    (store.modifyRing e f).ring e' = store.ring e' := by
  simp only [ring, modifyRing, List.getD_eq_getElem?_getD, List.getElem?_modify]
  simp [Ne.symm hne]

theorem length_modifyRing (f : FramePayloadRing → FramePayloadRing) :
    (store.modifyRing e f).rings.length = store.rings.length := List.length_modify ..

theorem modifyRing_id {f : FramePayloadRing → FramePayloadRing} (hf : ∀ ring, f ring = ring) :
    store.modifyRing e f = store := by
  have hid : f = id := funext hf
  rw [modifyRing, hid, List.modify_id]

theorem storePayload_nil (ring : FramePayloadRing) (slot : Nat) : ring.storePayload slot [] = ring := by
  have hsame : Rows.store ring.payloads (slot * ring.payloadStride) [] = ring.payloads := by
    rw [Rows.store, List.append_nil]
    exact List.take_append_drop _ _
  rw [FramePayloadRing.storePayload, hsame]

theorem ring_of_le (h : e ≥ store.rings.length) : store.ring e = {} := by
  rw [ring, List.getD_eq_getElem?_getD, List.getElem?_eq_none h]
  rfl

theorem ring_resized (n e' : Nat) :
    ({ store with rings := store.rings ++ List.replicate n {} } : ClientFrameRingStore).ring e' = store.ring e' := by
  simp only [ring, List.getD_eq_getElem?_getD]
  by_cases hin : e' < store.rings.length
  · rw [List.getElem?_append_left hin]
  · rw [List.getElem?_append_right (by omega), List.getElem?_replicate, List.getElem?_eq_none (by omega)]
    split <;> rfl

/-! ### Ensuring a ring -/

structure Ensured (store : ClientFrameRingStore) (e : Nat) (store' : ClientFrameRingStore) : Prop where
  capacity : store'.capacity = store.capacity
  counter : store'.writeGenerationCounter = store.writeGenerationCounter
  inside : e < store'.rings.length
  self : store'.ring e = (store.ring e).ensure store.capacity.value
  others : ∀ e', e' ≠ e → store'.ring e' = store.ring e'

theorem ensured (store : ClientFrameRingStore) (e : Nat) : Ensured store e (store.ensure e) := by
  unfold ensure
  by_cases hout : e ≥ store.rings.length
  · simp only [if_pos hout]
    let grown : ClientFrameRingStore :=
      { store with rings := store.rings ++ List.replicate (e + 1 - store.rings.length) {} }
    have hinside : e < grown.rings.length := by
      rw [List.length_append, List.length_replicate]
      omega
    refine ⟨rfl, rfl, (length_modifyRing _).symm ▸ hinside, ?_, ?_⟩
    · exact (ring_modifyRing_self hinside _).trans (congrArg (·.ensure store.capacity.value) (ring_resized _ _))
    · intro e' hne
      exact (ring_modifyRing_of_ne hne _).trans (ring_resized _ _)
  · simp only [if_neg hout]
    have hinside : e < store.rings.length := Nat.lt_of_not_le hout
    exact ⟨rfl, rfl, (length_modifyRing _).symm ▸ hinside, ring_modifyRing_self hinside _,
      fun e' hne => ring_modifyRing_of_ne hne _⟩

/-! ### Writing -/

def fill (store : ClientFrameRingStore) (e slot : Nat) (f : FrameMetadata → FrameMetadata) (hasBytes : Bool)
    (bytes : Bytes) :
    ClientFrameRingStore :=
  let store := store.modifyRing e (·.storeMetadata slot f)
  if hasBytes then store.modifyRing e (·.storePayload slot bytes) else store

section

variable (slot : Nat) (f : FrameMetadata → FrameMetadata) (hasBytes : Bool) (bytes : Bytes)

theorem ring_fill_self (h : e < store.rings.length) : (store.fill e slot f hasBytes bytes).ring e =
    ((store.ring e).storeMetadata slot f).storeBytes hasBytes slot bytes := by
  have hinside : e < (store.modifyRing e (·.storeMetadata slot f)).rings.length := (length_modifyRing _).symm ▸ h
  unfold fill FramePayloadRing.storeBytes
  cases hasBytes
  · exact ring_modifyRing_self h _
  · exact (ring_modifyRing_self hinside _).trans (congrArg (·.storePayload slot bytes) (ring_modifyRing_self h _))

theorem ring_fill_of_ne {e' : Nat} (hne : e' ≠ e) : (store.fill e slot f hasBytes bytes).ring e' = store.ring e' := by
  unfold fill
  cases hasBytes
  · exact ring_modifyRing_of_ne hne _
  · exact (ring_modifyRing_of_ne hne _).trans (ring_modifyRing_of_ne hne _)

theorem fill_frame : (store.fill e slot f hasBytes bytes).capacity = store.capacity ∧
    (store.fill e slot f hasBytes bytes).writeGenerationCounter = store.writeGenerationCounter ∧
    (store.fill e slot f hasBytes bytes).rings.length = store.rings.length := by
  unfold fill
  cases hasBytes
  · exact ⟨rfl, rfl, length_modifyRing _⟩
  · exact ⟨rfl, rfl, (length_modifyRing _).trans (length_modifyRing _)⟩

end

/-- What `begin_write` leaves: an empty write in the slot of the frame. -/
structure Begun (store : ClientFrameRingStore) (map : FrameMap) (e : Nat) (frame : SyncFrame) (payloadSize : Nat)
    (source : FrameWriteSource) (r : ClientFrameRingStore × MutableEntityFrameView) : Prop where
  capacity : r.1.capacity = store.capacity
  counter : r.1.writeGenerationCounter = map.writes + 1
  inside : e < r.1.rings.length
  others : ∀ e', e' ≠ e → r.1.ring e' = store.ring e'
  self : RingHolds store.capacity (r.1.ring e) (max (map.strides e) payloadSize)
    (Function.update (map.last e) (frame % store.capacity.value)
      (some (.mk (startMetadata frame (map.writes + 1) source) [])))
  view : r.2 = .mk (frame % store.capacity.value) (decide (max (map.strides e) payloadSize ≠ 0))
    (max (map.strides e) payloadSize)

theorem begun (h : Refines store map) (e : Nat) (frame : SyncFrame) (payloadSize : Nat) (source : FrameWriteSource) :
    Begun store map e frame payloadSize source (store.beginWrite e frame payloadSize source) := by
  have hensured := ensured store e
  obtain ⟨hring, hslots⟩ := (h.rings e).ensure
  obtain ⟨hstrided, hmetadata⟩ := hring.ensurePayloadStride hslots payloadSize
  let sized := (store.ensure e).modifyRing e (·.ensurePayloadStride payloadSize)
  let wide := ((store.ring e).ensure store.capacity.value).ensurePayloadStride payloadSize
  have hinside : e < sized.rings.length := (length_modifyRing _).symm ▸ hensured.inside
  have hsized : sized.ring e = wide := by
    rw [ring_modifyRing_self hensured.inside, hensured.self]
  have hlen : wide.metadata.length = store.capacity.value := by rw [hmetadata, hslots]
  have hslot : wide.slotFor frame = frame % store.capacity.value := by
    rw [FramePayloadRing.slotFor, hlen, store.capacity.slot_eq]
  have hlt : frame % store.capacity.value < wide.metadata.length := by
    rw [hlen]
    exact Nat.mod_lt _ store.capacity.pos
  have hsome : (wide.payload (frame % store.capacity.value)).isSome =
      decide (max (map.strides e) payloadSize ≠ 0) := by
    rw [payload_isSome (by rw [hstrided.bytes, hstrided.strided]) (hlen ▸ store.capacity.pos), hstrided.strided]
  have hresult : store.beginWrite e frame payloadSize source =
      (({ sized with writeGenerationCounter := sized.writeGenerationCounter + 1 } : ClientFrameRingStore).fill e
        ((sized.ring e).slotFor frame) (fun _ => startMetadata frame (sized.writeGenerationCounter + 1) source)
        ((sized.ring e).payload ((sized.ring e).slotFor frame)).isSome
        (List.replicate (sized.ring e).payloadStride 0),
      .mk ((sized.ring e).slotFor frame) ((sized.ring e).payload ((sized.ring e).slotFor frame)).isSome
        (sized.ring e).payloadStride) := rfl
  have hcounter : sized.writeGenerationCounter = map.writes := hensured.counter.trans h.writes
  rw [hsized, hslot, hsome, hstrided.strided, hcounter] at hresult
  rw [hresult]
  refine ⟨?_, ?_, ?_, ?_, ?_, rfl⟩
  · exact (fill_frame _ _ _ _).1.trans hensured.capacity
  · exact (fill_frame _ _ _ _).2.1
  · rw [(fill_frame _ _ _ _).2.2]
    exact hinside
  · intro e' hne
    refine (ring_fill_of_ne _ _ _ _ hne).trans ?_
    exact (ring_modifyRing_of_ne hne _).trans (hensured.others e' hne)
  · have hstart := hstrided.started (startMetadata frame (map.writes + 1) source) hlt rfl
    rw [FramePayloadRing.filled, hstrided.strided] at hstart
    have hself := @ring_fill_self { sized with writeGenerationCounter := map.writes + 1 } e
      (frame % store.capacity.value) (fun _ => startMetadata frame (map.writes + 1) source)
      (decide (max (map.strides e) payloadSize ≠ 0)) (List.replicate (max (map.strides e) payloadSize) 0) hinside
    have hring : ({ sized with writeGenerationCounter := map.writes + 1 } : ClientFrameRingStore).ring e = wide :=
      hsized
    rw [hring] at hself
    rw [hself]
    exact hstart

theorem Begun.completed {frame : SyncFrame} {payloadSize : Nat} {source : FrameWriteSource}
    {r : ClientFrameRingStore × MutableEntityFrameView} (h : Refines store map)
    (hbegun : Begun store map e frame payloadSize source r) {f : FrameMetadata → FrameMetadata} {w : FrameWrite}
    (hmetadata : f (startMetadata frame (map.writes + 1) source) = w.metadata) (hframe : w.metadata.frame = frame)
    (hfits : w.bytes.length ≤ max (map.strides e) payloadSize) :
    (r.1.fill e r.2.slot f r.2.hasBytes w.bytes).capacity = store.capacity ∧
      Refines (r.1.fill e r.2.slot f r.2.hasBytes w.bytes) (map.put store.capacity.value e payloadSize w) := by
  rw [hbegun.view]
  refine ⟨(fill_frame _ _ _ _).1.trans hbegun.capacity,
    ⟨(fill_frame _ _ _ _).2.1.trans hbegun.counter, fun e' => ?_⟩⟩
  rw [(fill_frame _ _ _ _).1, hbegun.capacity]
  by_cases heq : e' = e
  · subst heq
    have hcompleted := hbegun.self.completed (f := f) (by rw [hmetadata, hframe]; rfl) hfits
    rw [FramePayloadRing.filled, hbegun.self.strided, hmetadata] at hcompleted
    rw [ring_fill_self _ _ _ _ hbegun.inside]
    simp only [FrameMap.put, Function.update_self, hframe]
    exact hcompleted
  · rw [ring_fill_of_ne _ _ _ _ heq, hbegun.others e' heq]
    simp only [FrameMap.put, Function.update_of_ne heq]
    exact h.rings e'

theorem storeThrough_refines (h : Refines store map) (e : Nat) (frame : SyncFrame) (payloadSize : Nat)
    (source : FrameWriteSource) (stores : FrameMetadata → FrameMetadata) (bytes : Bytes) :
    let r := store.beginWrite e frame payloadSize source
    (r.1.storeThrough e r.2 stores bytes).capacity = store.capacity ∧
      Refines (r.1.storeThrough e r.2 stores bytes)
        (map.step store.capacity.value (.beginWrite e frame payloadSize source stores bytes)) := by
  have hbegun := begun h e frame payloadSize source
  let start := startMetadata frame (map.writes + 1) source
  have hcompleted := hbegun.completed h (f := fun m => { stores m with frame := m.frame })
    (w := .mk { stores start with frame } (bytes.take (max (map.strides e) payloadSize))) rfl rfl
      (List.length_take_le _ _)
  have hcount : (store.beginWrite e frame payloadSize source).2.byteCount = max (map.strides e) payloadSize := by
    rw [hbegun.view]
  intro r
  unfold storeThrough
  rw [hcount]
  exact hcompleted

theorem write_refines (h : Refines store map) (e : Nat) (sample : FrameSample) (source : FrameWriteSource)
    (origin : FramePresentationOrigin) : (store.write e sample source origin).2 = .ok () ∧
      (store.write e sample source origin).1.capacity = store.capacity ∧
      Refines (store.write e sample source origin).1
        (map.step store.capacity.value (.write e sample source origin)) := by
  have hbegun := begun h e sample.frame sample.bytes.length source
  let start := startMetadata sample.frame (map.writes + 1) source
  have hcompleted := hbegun.completed h (f := sampleMetadata sample origin)
    (w := .mk (sampleMetadata sample origin start) sample.bytes) rfl rfl (Nat.le_max_right _ _)
  let r := store.beginWrite e sample.frame sample.bytes.length source
  have hwrite : store.write e sample source origin =
      (r.1.fill e r.2.slot (sampleMetadata sample origin) r.2.hasBytes sample.bytes, .ok ()) := by
    have hcount : r.2.byteCount = max (map.strides e) sample.bytes.length := by rw [hbegun.view]
    have hbytes : r.2.hasBytes = decide (max (map.strides e) sample.bytes.length ≠ 0) := by rw [hbegun.view]
    have hunfold : store.write e sample source origin =
        let filled := r.1.modifyRing e (·.storeMetadata r.2.slot (sampleMetadata sample origin))
        if r.2.byteCount ≠ 0 then
          if !r.2.hasBytes then (filled, .error "frame payload storage is unavailable")
          else if !sample.bytes.isEmpty then (filled.modifyRing e (·.storePayload r.2.slot sample.bytes), .ok ())
          else (filled, .ok ())
        else (filled, .ok ()) := rfl
    rw [hunfold, hcount, hbytes, fill]
    by_cases hzero : max (map.strides e) sample.bytes.length = 0
    · simp [hzero]
    · by_cases hnil : sample.bytes = []
      · have hsame : (r.1.modifyRing e (·.storeMetadata r.2.slot (sampleMetadata sample origin))).modifyRing e
            (·.storePayload r.2.slot []) = _ := modifyRing_id fun ring => storePayload_nil ring r.2.slot
        simp [hnil, hsame]
      · simp [hzero, hnil]
  rw [hwrite]
  exact ⟨rfl, hcompleted⟩

/-! ### The other calls -/

theorem ensure_refines (h : Refines store map) (e : Nat) :
    (store.ensure e).capacity = store.capacity ∧ Refines (store.ensure e) map := by
  have hensured := ensured store e
  refine ⟨hensured.capacity, hensured.counter.trans h.writes, fun e' => ?_⟩
  rw [hensured.capacity]
  by_cases heq : e' = e
  · rw [heq, hensured.self]
    exact (h.rings e).ensure.1
  · rw [hensured.others e' heq]
    exact h.rings e'

theorem modifyRing_refines (h : Refines store map) {f : FramePayloadRing → FramePayloadRing} {stride : Nat}
    (hstride : store.ring e = {} → stride = 0)
    (hf : RingHolds store.capacity (f (store.ring e)) stride fun _ => none) :
    Refines (if e ≥ store.rings.length then store else store.modifyRing e f)
      { map with
        strides := Function.update map.strides e stride, last := Function.update map.last e fun _ => none } := by
  by_cases hout : e ≥ store.rings.length
  · rw [if_pos hout]
    refine ⟨h.writes, fun e' => ?_⟩
    by_cases heq : e' = e
    · have hnil := ring_of_le hout
      simp only [heq, Function.update_self, hnil, hstride hnil]
      exact ringHolds_empty _
    · simp only [Function.update_of_ne heq]
      exact h.rings e'
  · rw [if_neg hout]
    refine ⟨h.writes, fun e' => ?_⟩
    by_cases heq : e' = e
    · simp only [heq, Function.update_self, ring_modifyRing_self (Nat.lt_of_not_le hout) f]
      exact hf
    · simp only [Function.update_of_ne heq, ring_modifyRing_of_ne heq f]
      exact h.rings e'

theorem clear_refines (h : Refines store map) (e : Nat) : (store.clear e).capacity = store.capacity ∧
    Refines (store.clear e) { map with last := Function.update map.last e fun _ => none } := by
  constructor
  · unfold clear
    split <;> rfl
  · have hcleared := modifyRing_refines (e := e) h
      (f := fun ring => { ring with metadata := ring.metadata.map fun _ => {} }.clearPayloads) (fun hnil => ?_)
      (h.rings e).cleared
    · rw [Function.update_eq_self] at hcleared
      exact hcleared
    · have hstrided := (h.rings e).strided
      rw [hnil] at hstrided
      exact hstrided.symm

theorem reset_refines (h : Refines store map) (e : Nat) : (store.reset e).capacity = store.capacity ∧
    Refines (store.reset e)
      { map with strides := Function.update map.strides e 0, last := Function.update map.last e fun _ => none } := by
  constructor
  · unfold reset
    split <;> rfl
  · exact modifyRing_refines h (fun _ => rfl) (ringHolds_empty _)

theorem clears_refines (h : Refines store map) : ∀ n, ((List.range n).foldl clear store).capacity = store.capacity ∧
    Refines ((List.range n).foldl clear store) { map with
      last := fun e => if e < n then fun _ => none else map.last e } := by
  intro n
  induction n with
  | zero => exact ⟨rfl, h⟩
  | succ n ih =>
    obtain ⟨hcapacity, hrefines⟩ := ih
    rw [List.range_succ, List.foldl_append, List.foldl_cons, List.foldl_nil]
    obtain ⟨hcapacity', hrefines'⟩ := clear_refines hrefines n
    refine ⟨hcapacity'.trans hcapacity, ?_⟩
    have hlast : Function.update (fun e => if e < n then fun _ => none else map.last e) n (fun _ => none) =
        fun e => if e < n + 1 then fun _ => none else map.last e := by
      funext e
      by_cases heq : e = n
      · rw [heq, Function.update_self, if_pos (Nat.lt_succ_self n)]
      · rw [Function.update_of_ne heq]
        by_cases hlt : e < n
        · rw [if_pos hlt, if_pos (by omega)]
        · rw [if_neg hlt, if_neg (by omega)]
    rw [← hlast]
    exact hrefines'

theorem length_clear (store : ClientFrameRingStore) (e : Nat) : (store.clear e).rings.length = store.rings.length := by
  unfold clear
  split
  · rfl
  · exact length_modifyRing _

theorem clearAll_refines (h : Refines store map) :
    store.clearAll.capacity = store.capacity ∧ Refines store.clearAll { map with last := fun _ _ => none } := by
  obtain ⟨hcapacity, hrefines⟩ := clears_refines h store.rings.length
  refine ⟨hcapacity, hrefines.writes, fun e => ?_⟩
  have hring := hrefines.rings e
  by_cases hlt : e < store.rings.length
  · simp only [if_pos hlt] at hring
    exact hring
  · -- a ring beyond the end is empty before and after
    have hlength : ∀ n, ((List.range n).foldl clear store).rings.length = store.rings.length := by
      intro n
      induction n with
      | zero => rfl
      | succ n ih => rw [List.range_succ, List.foldl_append, List.foldl_cons, List.foldl_nil, length_clear, ih]
    have hnil : store.clearAll.ring e = {} := ring_of_le (by rw [clearAll, hlength]; omega)
    have hstrided := hring.strided
    change (store.clearAll.ring e).payloadStride = map.strides e at hstrided
    rw [hnil] at hstrided ⊢
    rw [show map.strides e = 0 from hstrided.symm]
    exact ringHolds_empty _

/-! ### Runs -/

def step (store : ClientFrameRingStore) : FrameRingCall → ClientFrameRingStore
  | .ensure e => store.ensure e
  | .clear e => store.clear e
  | .clearAll => store.clearAll
  | .reset e => store.reset e
  | .write e sample source origin => (store.write e sample source origin).1
  | .beginWrite e frame payloadSize source stores bytes =>
    let (store, view) := store.beginWrite e frame payloadSize source
    store.storeThrough e view stores bytes

def after (capacity : FrameRingCapacity) (calls : List FrameRingCall) : ClientFrameRingStore :=
  calls.foldl step { capacity }

theorem step_refines (h : Refines store map) (call : FrameRingCall) :
    (store.step call).capacity = store.capacity ∧ Refines (store.step call) (map.step store.capacity.value call) := by
  cases call with
  | ensure e => exact ensure_refines h e
  | clear e => exact clear_refines h e
  | clearAll => exact clearAll_refines h
  | reset e => exact reset_refines h e
  | write e sample source origin => exact (write_refines h e sample source origin).2
  | beginWrite e frame payloadSize source stores bytes =>
    exact storeThrough_refines h e frame payloadSize source stores bytes

end ClientFrameRingStore

def FrameMap.after (capacity : Nat) (calls : List FrameRingCall) : FrameMap := calls.foldl (FrameMap.step capacity) {}

theorem run_refines (calls : List FrameRingCall) :
    ∀ {store : ClientFrameRingStore} {map : FrameMap}, Refines store map →
    (calls.foldl ClientFrameRingStore.step store).capacity = store.capacity ∧
      Refines (calls.foldl ClientFrameRingStore.step store) (calls.foldl (FrameMap.step store.capacity.value) map) := by
  induction calls with
  | nil => exact fun h => ⟨rfl, h⟩
  | cons call calls ih =>
    intro store map h
    obtain ⟨hcapacity, hstep⟩ := ClientFrameRingStore.step_refines h call
    obtain ⟨hcapacity', hrun⟩ := ih hstep
    rw [hcapacity] at hrun
    exact ⟨hcapacity'.trans hcapacity, hrun⟩

theorem after_refines (capacity : FrameRingCapacity) (calls : List FrameRingCall) :
    (ClientFrameRingStore.after capacity calls).capacity = capacity ∧
      Refines (ClientFrameRingStore.after capacity calls) (FrameMap.after capacity.value calls) :=
  run_refines calls ⟨rfl, fun _ => ringHolds_empty capacity⟩

/-! ## Views -/

section

variable {store : ClientFrameRingStore} {map : FrameMap}

theorem Refines.none_of_empty (h : Refines store map) {e : Nat} (hempty : store.empty e = true) (s : Nat) :
    map.last e s = none := by
  have hnil : (store.ring e).metadata = [] := by
    rcases Bool.or_eq_true_iff.mp hempty with hout | hnil
    · rw [ClientFrameRingStore.ring_of_le (of_decide_eq_true hout)]
    · exact List.isEmpty_iff.mp hnil
  cases hs : map.last e s with
  | none => rfl
  | some w =>
    have hbound := (h.rings e).bound s w hs
    rw [hnil] at hbound
    exact absurd hbound (Nat.not_lt_zero s)

theorem Refines.length_of_not_empty (h : Refines store map) {e : Nat} (hempty : store.empty e = false) :
    (store.ring e).metadata.length = store.capacity.value := by
  refine (h.rings e).slots.resolve_right fun hnil => ?_
  have hnot := (Bool.or_eq_false_iff.mp hempty).2
  rw [hnil.1] at hnot
  cases hnot

theorem Refines.makeView_eq (h : Refines store map) {e s : Nat} {w : FrameWrite} (hs : map.last e s = some w) :
    makeView (store.ring e) s = w.view (map.strides e) := by
  have hring := h.rings e
  have hbound := hring.bound s w hs
  have hpayload : (store.ring e).payload s =
      if map.strides e = 0 then none else some (padded w.bytes (map.strides e)) := by
    have hsome := payload_isSome (by rw [hring.bytes, hring.strided]) (Nat.zero_lt_of_lt hbound) s
    rw [hring.strided] at hsome
    by_cases hzero : map.strides e = 0
    · rw [if_pos hzero, FramePayloadRing.payload, hring.strided, if_pos (.inl hzero)]
    · rw [if_neg hzero]
      rw [decide_eq_true hzero] at hsome
      unfold FramePayloadRing.payload at hsome ⊢
      split
      case isTrue hnone =>
        rw [if_pos hnone] at hsome
        cases hsome
      case isFalse => rw [hring.strided, hring.payload s w hs]
  simp only [makeView, hring.metadata s w hs, hpayload, hring.strided, FrameWrite.view]

theorem Refines.view_eq (h : Refines store map) (e : Nat) (frame : SyncFrame) :
    store.view e frame = map.view store.capacity.value e frame := by
  unfold ClientFrameRingStore.view ClientFrameRingStore.contains FrameMap.view
  cases hempty : store.empty e with
  | true =>
    rw [h.none_of_empty hempty]
    rfl
  | false =>
    have hslot : (store.ring e).slotFor frame = frame % store.capacity.value := by
      rw [FramePayloadRing.slotFor, h.length_of_not_empty hempty, store.capacity.slot_eq]
    simp only [hslot, Bool.false_eq_true, if_false]
    cases hs : map.last e (frame % store.capacity.value) with
    | none =>
      rw [(h.rings e).free _ hs]
      rfl
    | some w =>
      rw [(h.rings e).metadata _ w hs, h.makeView_eq hs]
      by_cases hseen : w.metadata.frame = frame ∧ w.metadata.valid
      · simp [hseen.1, hseen.2]
      · dsimp only
        rw [if_neg hseen, if_pos]
        rw [Bool.not_eq_true', Bool.and_eq_false_iff, beq_eq_false_iff_ne]
        by_cases hvalid : w.metadata.valid = true
        · exact .inr fun heq => hseen ⟨heq, hvalid⟩
        · exact .inl (Bool.eq_false_iff.mpr hvalid)

/-! ### The latest present frame -/

/-- The loop has found the greatest present frame of the slots below its index. -/
theorem latest_slots (ring : FramePayloadRing) : ∀ n,
    ((List.range n).foldl (ClientFrameRingStore.laterPresent ring) none = none →
      ∀ s, s < n → ¬((ring.metadataAt s).valid ∧ (ring.metadataAt s).entityPresent)) ∧
    ∀ l, (List.range n).foldl (ClientFrameRingStore.laterPresent ring) none = some l →
      l < n ∧ (ring.metadataAt l).valid ∧ (ring.metadataAt l).entityPresent ∧
        ∀ s, s < n → (ring.metadataAt s).valid → (ring.metadataAt s).entityPresent →
          (ring.metadataAt s).frame ≤ (ring.metadataAt l).frame := by
  intro n
  induction n with
  | zero => exact ⟨fun _ s hs => absurd hs (Nat.not_lt_zero s), fun l h => absurd h.symm (Option.some_ne_none l)⟩
  | succ n ih =>
    obtain ⟨hnone, hsome⟩ := ih
    rw [List.range_succ, List.foldl_append, List.foldl_cons, List.foldl_nil]
    generalize (List.range n).foldl (ClientFrameRingStore.laterPresent ring) none = latest at hnone hsome
    unfold ClientFrameRingStore.laterPresent
    by_cases hpresent : (ring.metadataAt n).valid = true ∧ (ring.metadataAt n).entityPresent = true
    · have hskip : (!(ring.metadataAt n).valid || !(ring.metadataAt n).entityPresent) = false := by
        rw [hpresent.1, hpresent.2]
        rfl
      simp only [hskip, Bool.false_eq_true, if_false]
      cases latest with
      | none =>
        refine ⟨fun h => absurd h (Option.some_ne_none _), fun l hl => ?_⟩
        obtain rfl := Option.some.inj hl
        refine ⟨Nat.lt_succ_self n, hpresent.1, hpresent.2, fun s hs hvalid hp => ?_⟩
        rcases Nat.lt_succ_iff_lt_or_eq.mp hs with hlt | rfl
        · exact absurd ⟨hvalid, hp⟩ (hnone rfl s hlt)
        · exact Nat.le_refl _
      | some l₀ =>
        obtain ⟨hlt₀, hvalid₀, hpresent₀, hgreatest₀⟩ := hsome l₀ rfl
        dsimp only
        by_cases hgreater : (ring.metadataAt n).frame > (ring.metadataAt l₀).frame
        · rw [if_pos hgreater]
          refine ⟨fun h => absurd h (Option.some_ne_none _), fun l hl => ?_⟩
          obtain rfl := Option.some.inj hl
          refine ⟨Nat.lt_succ_self n, hpresent.1, hpresent.2, fun s hs hvalid hp => ?_⟩
          rcases Nat.lt_succ_iff_lt_or_eq.mp hs with hlt | rfl
          · exact (hgreatest₀ s hlt hvalid hp).trans (Nat.le_of_lt hgreater)
          · exact Nat.le_refl _
        · rw [if_neg hgreater]
          refine ⟨fun h => absurd h (Option.some_ne_none _), fun l hl => ?_⟩
          obtain rfl := Option.some.inj hl
          refine ⟨Nat.lt_succ_of_lt hlt₀, hvalid₀, hpresent₀, fun s hs hvalid hp => ?_⟩
          rcases Nat.lt_succ_iff_lt_or_eq.mp hs with hlt | rfl
          · exact hgreatest₀ s hlt hvalid hp
          · exact Nat.le_of_not_lt hgreater
    · have hskip : (!(ring.metadataAt n).valid || !(ring.metadataAt n).entityPresent) = true := by
        cases hvalid : (ring.metadataAt n).valid
        · rfl
        · rw [Bool.eq_false_iff.mpr fun hp => hpresent ⟨hvalid, hp⟩]
          rfl
      simp only [hskip, if_true]
      refine ⟨fun h s hs => ?_, fun l hl => ?_⟩
      · rcases Nat.lt_succ_iff_lt_or_eq.mp hs with hlt | rfl
        · exact hnone h s hlt
        · exact hpresent
      · obtain ⟨hlt, hvalid, hp, hgreatest⟩ := hsome l hl
        refine ⟨Nat.lt_succ_of_lt hlt, hvalid, hp, fun s hs hvalid' hp' => ?_⟩
        rcases Nat.lt_succ_iff_lt_or_eq.mp hs with hlt' | rfl
        · exact hgreatest s hlt' hvalid' hp'
        · exact absurd ⟨hvalid', hp'⟩ hpresent

theorem Refines.makeView_slot (h : Refines store map) {e l : Nat}
    (hvalid : ((store.ring e).metadataAt l).valid = true) :
    (((store.ring e).metadataAt l).frame) % store.capacity.value = l ∧
      store.view e ((store.ring e).metadataAt l).frame = some (makeView (store.ring e) l) := by
  have hring := h.rings e
  cases hs : map.last e l with
  | none =>
    rw [hring.free l hs] at hvalid
    cases hvalid
  | some w =>
    have hmetadata := hring.metadata l w hs
    have hresidue := hring.residue l w hs
    rw [hmetadata] at hvalid ⊢
    refine ⟨hresidue, ?_⟩
    rw [h.view_eq, FrameMap.view, hresidue, hs, h.makeView_eq hs]
    exact if_pos ⟨rfl, hvalid⟩

theorem Refines.slot_of_view (h : Refines store map) {e : Nat} {frame : SyncFrame} {u : EntityFrameView}
    (hu : store.view e frame = some u) :
    store.empty e = false ∧ frame % store.capacity.value < (store.ring e).metadata.length ∧
      ((store.ring e).metadataAt (frame % store.capacity.value)).valid ∧
      ((store.ring e).metadataAt (frame % store.capacity.value)).frame = frame ∧
      u = makeView (store.ring e) (frame % store.capacity.value) := by
  have hempty : store.empty e = false := Bool.eq_false_iff.mpr fun hempty => by
    rw [h.view_eq, FrameMap.view, h.none_of_empty hempty] at hu
    cases hu
  have hlen := h.length_of_not_empty hempty
  have hslot : (store.ring e).slotFor frame = frame % store.capacity.value := by
    rw [FramePayloadRing.slotFor, hlen, store.capacity.slot_eq]
  refine ⟨hempty, ?_, ?_⟩
  · rw [hlen]
    exact Nat.mod_lt _ store.capacity.pos
  · unfold ClientFrameRingStore.view ClientFrameRingStore.contains at hu
    simp only [hempty, hslot, Bool.false_eq_true, if_false] at hu
    by_cases hseen : (((store.ring e).metadataAt (frame % store.capacity.value)).valid &&
        ((store.ring e).metadataAt (frame % store.capacity.value)).frame == frame) = true
    · rw [hseen] at hu
      obtain ⟨hvalid, hframe⟩ := Bool.and_eq_true_iff.mp hseen
      exact ⟨hvalid, beq_iff_eq.mp hframe, (Option.some.inj hu).symm⟩
    · rw [Bool.eq_false_iff.mpr hseen] at hu
      cases hu

/-- `latest_present` gives the present frame with the greatest number. -/
structure LatestPresent (store : ClientFrameRingStore) (e : Nat) : Prop where
  found : ∀ v, store.latestPresent e = some v → store.view e v.frame = some v ∧ v.entityPresent = true ∧
    ∀ frame u, store.view e frame = some u → u.entityPresent = true → frame ≤ v.frame
  missing : store.latestPresent e = none → ∀ frame u, store.view e frame = some u → u.entityPresent = false

theorem Refines.latestPresent (h : Refines store map) (e : Nat) : LatestPresent store e := by
  obtain ⟨hnone, hsome⟩ := latest_slots (store.ring e) (store.ring e).metadata.length
  have hunfold : store.latestPresent e = if store.empty e = true then none else
      ((List.range (store.ring e).metadata.length).foldl (ClientFrameRingStore.laterPresent (store.ring e)) none).map
        (makeView (store.ring e)) := rfl
  constructor
  · intro v hv
    rw [hunfold] at hv
    by_cases hempty : store.empty e = true
    · rw [if_pos hempty] at hv
      cases hv
    · rw [if_neg hempty] at hv
      obtain ⟨l, hl, rfl⟩ := Option.map_eq_some_iff.mp hv
      obtain ⟨_, hvalid, hpresent, hgreatest⟩ := hsome l hl
      refine ⟨(h.makeView_slot hvalid).2, hpresent, fun frame u hu hup => ?_⟩
      obtain ⟨_, hlt, huvalid, huframe, rfl⟩ := h.slot_of_view hu
      have hle := hgreatest _ hlt huvalid hup
      rw [huframe] at hle
      exact hle
  · intro hv frame u hu
    obtain ⟨hempty, hlt, huvalid, _, rfl⟩ := h.slot_of_view hu
    rw [hunfold, hempty, if_neg Bool.false_ne_true] at hv
    exact Bool.eq_false_iff.mpr fun hup => hnone (Option.map_eq_none_iff.mp hv) _ hlt ⟨huvalid, hup⟩

/-! ### What a call leaves -/

def FrameRingCall.entity : FrameRingCall → Option Nat
  | .ensure e | .clear e | .reset e | .write e _ _ _ | .beginWrite e _ _ _ _ _ => some e
  | .clearAll => none

def FrameRingCall.written : FrameRingCall → Option (Nat × SyncFrame)
  | .write e sample _ _ => some (e, sample.frame)
  | .beginWrite e frame _ _ _ _ => some (e, frame)
  | .ensure _ | .clear _ | .clearAll | .reset _ => none

def EntityFrameView.widened (v : EntityFrameView) (stride : Nat) : EntityFrameView :=
  { v with baseline := { v.baseline with
      bytes := if stride = 0 then none else some (padded (v.baseline.bytes.getD []) stride), byteCount := stride } }

theorem FrameWrite.view_widened {w : FrameWrite} {stride stride' : Nat} (hfits : w.bytes.length ≤ stride)
    (hle : stride ≤ stride') : (w.view stride).widened stride' = w.view stride' := by
  have hbytes : padded ((if stride = 0 then none else some (padded w.bytes stride)).getD []) stride' =
      padded w.bytes stride' := by
    by_cases hzero : stride = 0
    · rw [if_pos hzero, List.length_eq_zero_iff.mp (by omega : w.bytes.length = 0)]
      rfl
    · rw [if_neg hzero, Option.getD_some, ← padded_of_le hfits hle]
      have hlen : (padded w.bytes stride).length = stride := by
        rw [padded, List.length_append, List.length_replicate]
        omega
      rw [padded, hlen]
  simp only [FrameWrite.view, EntityFrameView.widened, hbytes]

theorem FrameMap.step_of_ne (map : FrameMap) (capacity : Nat) {call : FrameRingCall} {e e' : Nat}
    (hcall : call.entity = some e') (hne : e ≠ e') :
    (map.step capacity call).strides e = map.strides e ∧ (map.step capacity call).last e =
    map.last e := by
  cases call with
  | ensure => exact ⟨rfl, rfl⟩
  | clearAll => cases hcall
  | clear =>
    obtain rfl := Option.some.inj hcall
    exact ⟨rfl, Function.update_of_ne hne _ _⟩
  | reset =>
    obtain rfl := Option.some.inj hcall
    exact ⟨Function.update_of_ne hne _ _, Function.update_of_ne hne _ _⟩
  | write =>
    obtain rfl := Option.some.inj hcall
    exact ⟨Function.update_of_ne hne _ _, Function.update_of_ne hne _ _⟩
  | beginWrite =>
    obtain rfl := Option.some.inj hcall
    exact ⟨Function.update_of_ne hne _ _, Function.update_of_ne hne _ _⟩

theorem FrameMap.put_last {capacity e payloadSize slot : Nat} (map : FrameMap) {w : FrameWrite}
    (hne : slot ≠ w.metadata.frame % capacity) :
    (map.put capacity e payloadSize w).last e slot = map.last e slot := by
  simp only [FrameMap.put, Function.update_self, Function.update_of_ne hne]

theorem FrameMap.put_strides (map : FrameMap) (capacity e payloadSize : Nat) (w : FrameWrite) :
    map.strides e ≤ (map.put capacity e payloadSize w).strides e := by
  simp only [FrameMap.put, Function.update_self]
  exact Nat.le_max_left _ _

/-- Another slot keeps its write, and the stride does not shrink. -/
theorem FrameMap.step_slot (map : FrameMap) (capacity : Nat) {call : FrameRingCall} {e slot : Nat} {frame : SyncFrame}
    (hcall : call.written = some (e, frame)) (hne : slot ≠ frame % capacity) :
    map.strides e ≤ (map.step capacity call).strides e ∧ (map.step capacity call).last e slot =
      map.last e slot := by
  cases call with
  | write =>
    cases hcall
    exact ⟨map.put_strides _ _ _ _, map.put_last hne⟩
  | beginWrite =>
    cases hcall
    exact ⟨map.put_strides _ _ _ _, map.put_last hne⟩
  | ensure => cases hcall
  | clear => cases hcall
  | clearAll => cases hcall
  | reset => cases hcall

structure FrameRingKept (capacity : FrameRingCapacity) (store : ClientFrameRingStore) (map : FrameMap) : Prop where
  viewed : ∀ e frame, store.view e frame = map.view capacity.value e frame
  latest : ∀ e, LatestPresent store e
  written : ∀ e sample source origin, (store.write e sample source origin).2 = .ok ()
  otherEntity : ∀ call e e' frame, call.entity = some e' → e ≠ e' → (store.step call).view e frame =
    store.view e frame
  otherSlot : ∀ call e frame frame', call.written = some (e, frame') →
    frame % capacity.value ≠ frame' % capacity.value →
    (store.step call).view e frame = (store.view e frame).map (·.widened ((store.step call).ring e).payloadStride)

theorem Refines.kept (h : Refines store map) : FrameRingKept store.capacity store map := by
  refine ⟨h.view_eq, h.latestPresent, fun e sample source origin =>
    (ClientFrameRingStore.write_refines h e sample source origin).1, ?_, ?_⟩
  · intro call e e' frame hcall hne
    obtain ⟨hcapacity, hstep⟩ := ClientFrameRingStore.step_refines h call
    obtain ⟨hstrides, hlast⟩ := map.step_of_ne store.capacity.value hcall hne
    rw [hstep.view_eq, h.view_eq, hcapacity, FrameMap.view, FrameMap.view, hstrides, hlast]
  · intro call e frame frame' hcall hne
    obtain ⟨hcapacity, hstep⟩ := ClientFrameRingStore.step_refines h call
    obtain ⟨hle, hlast⟩ := map.step_slot store.capacity.value hcall hne
    rw [hstep.view_eq, h.view_eq, hcapacity, (hstep.rings e).strided, FrameMap.view, FrameMap.view, hlast]
    cases hs : map.last e (frame % store.capacity.value) with
    | none => rfl
    | some w =>
      dsimp only
      split
      · rw [Option.map_some, FrameWrite.view_widened ((h.rings e).fits _ w hs) hle]
      · rfl

end

/-- After any calls the store is the bounded map that the calls describe. -/
theorem frame_ring_refines_map (capacity : FrameRingCapacity) (calls : List FrameRingCall) :
    FrameRingKept capacity (ClientFrameRingStore.after capacity calls) (FrameMap.after capacity.value calls) := by
  obtain ⟨hcapacity, hrefines⟩ := after_refines capacity calls
  have hkept := hrefines.kept
  rw [hcapacity] at hkept
  exact hkept

end AshiatoSync
