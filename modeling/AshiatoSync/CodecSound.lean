import AshiatoSync.ReaderSound
import AshiatoSync.Runs

/-!
# Update records on the wire

The bits `writeEntityRecord` produces are read back exactly by the client: no bit
is left and none is missing, whatever follows the record in the packet.
-/

namespace AshiatoSync

open BitCodec

/-! ## Serializers that invert -/

def RecordReader.Yields : RecordReader → Bytes → Bits → Prop
  | .fail, _, _ => False
  | .done bytes left, value, rest => bytes = value ∧ left = rest
  | .networkIdForWire _ next, value, rest => ∀ id, (next id).Yields value rest
  | .localEntity _ next, value, rest => ∀ entity, (next entity).Yields value rest

/-- `deserialize(previous, serialize(previous, current)) = current` on buffers of the quantized size, with the written
bits consumed. -/
def SyncComponentOps.Inverts (ops : SyncComponentOps) : Prop :=
  ∀ previous current context bits rest, (∀ p ∈ previous, p.length = ops.quantizedSize) →
    current.length = ops.quantizedSize → (ops.serialize previous current context).Outputs bits →
    (ops.deserialize previous (bits ++ rest) context).Yields current rest

def SyncCueOps.InvertsAt (ops : SyncCueOps) (value : Bytes) : Prop :=
  ∃ deserialize, ops.deserialize = some deserialize ∧
    ∀ context bits rest, (ops.serialize value).Outputs bits → (deserialize (bits ++ rest) context).Yields value rest

def SyncSettings.Inverts (settings : SyncSettings) : Prop :=
  ∀ archetype ∈ settings.archetypes, ∀ c ∈ archetype.components, c.ops.Inverts

def SizedData (definition : SyncArchetype) (data : QuantizedFrameData) : Prop :=
  ∀ i c bytes, definition.components[i]? = some c → frameComponentData data i = some bytes →
    bytes.length = c.ops.quantizedSize

/-! ## Reading with a client -/

section

variable {R : Type}

/-- Reads exactly `front` and gives `a`, from any client that differs from `client` in touched wire versions only. -/
def ReadsTo {α : Type} (client : ReplicationClient R) (m : ReadM R α) (front : Bits) (a : α) : Prop :=
  ∀ c, Touched client c → ∀ rest, ∃ c', Touched c c' ∧ m (c, front ++ rest) = .ok a (c', rest)

variable {client : ReplicationClient R} {α β : Type}

theorem ReadsTo.pure (a : α) : ReadsTo client (Pure.pure a) [] a :=
  fun c _ _ => ⟨c, .refl c, rfl⟩

theorem ReadsTo.bind {m : ReadM R α} {next : α → ReadM R β} {front back : Bits} {a : α} {b : β}
    (hm : ReadsTo client m front a) (hnext : ReadsTo client (next a) back b) :
    ReadsTo client (m >>= next) (front ++ back) b := by
  intro c hc rest
  obtain ⟨c₁, ht₁, h₁⟩ := hm c hc (back ++ rest)
  obtain ⟨c₂, ht₂, h₂⟩ := hnext c₁ (hc.trans ht₁) rest
  refine ⟨c₂, ht₁.trans ht₂, ?_⟩
  change EStateM.bind m next _ = _
  rw [EStateM.bind, List.append_assoc, h₁]
  exact h₂

theorem ReadsTo.bind_nil {m : ReadM R α} {next : α → ReadM R β} {front : Bits} {a : α} {b : β}
    (hm : ReadsTo client m front a) (hnext : ReadsTo client (next a) [] b) : ReadsTo client (m >>= next) front b := by
  simpa using hm.bind hnext

theorem ReadsTo.nil_bind {m : ReadM R α} {next : α → ReadM R β} {front : Bits} {a : α} {b : β}
    (hm : ReadsTo client m [] a) (hnext : ReadsTo client (next a) front b) : ReadsTo client (m >>= next) front b :=
  hm.bind hnext

theorem ReadsTo.field {read : Reader α} {front : Bits} {a : α} (reason : String) (h : Reads read front a) :
    ReadsTo client (ReadM.field reason read) front a := by
  intro c _ rest
  exact ⟨c, .refl c, by simp only [ReadM.field, h rest]⟩

theorem ReadsTo.client_bind {next : ReplicationClient R → ReadM R β} {front : Bits} {b : β}
    (h : ∀ c, Touched client c → ReadsTo client (next c) front b) :
    ReadsTo client (ReadM.client >>= next) front b :=
  fun c hc rest => h c hc c hc rest

theorem ReadsTo.deserialized {references : Bool} {reason : String} {bytes : Bytes} {rest : Bits} :
    ∀ {reader : RecordReader}, reader.Yields bytes rest → ∀ (c : ReplicationClient R) (stream : Bits),
    ∃ c', Touched c c' ∧ ReadM.deserialized references reason reader (c, stream) = .ok bytes (c', rest)
  | .fail, h, _, _ => h.elim
  | .done _ _, ⟨rfl, rfl⟩, c, _ => ⟨c, .refl c, rfl⟩
  | .networkIdForWire w next, h, c, stream => by
    cases references with
    | true =>
      obtain ⟨c', ht, heq⟩ := ReadsTo.deserialized
        (h (c.store.clientEntityNetworkIdForWire c.clientId w).2)
        { c with store := (c.store.clientEntityNetworkIdForWire c.clientId w).1 } stream
      exact ⟨c', (Touched.networkIdForWire c c.clientId w).trans ht, heq⟩
    | false => exact ReadsTo.deserialized (h _) c stream
  | .localEntity id next, h, c, stream => ReadsTo.deserialized (h _) c stream

theorem ReadsTo.component {c : ComponentReplication} (hops : c.ops.Inverts) {reason : String}
    {previous : Option Bytes} {current : Bytes} {context : SerializationContext} {bits : Bits}
    (hprevious : ∀ p ∈ previous, p.length = c.ops.quantizedSize) (hcurrent : current.length = c.ops.quantizedSize)
    (hout : (c.ops.serialize previous current context).Outputs bits) :
    ReadsTo client (ReadM.component c reason previous context) bits current := by
  intro d _ rest
  exact ReadsTo.deserialized (hops previous current context bits rest hprevious hcurrent hout) d (bits ++ rest)

end

/-! ## Fields -/

theorem reads_unsignedBits {value n : Nat} (h : value < 2 ^ n) : Reads (readBits n) (unsignedBits value n) value :=
  reads_bits h

theorem reads_networkEntityId {networkId tier0Bits : Nat} (hid : networkId < 2 ^ 32) :
    Reads (readNetworkEntityId tier0Bits) (writeNetworkEntityId networkId tier0Bits) networkId := by
  unfold writeNetworkEntityId
  split
  case isTrue hle =>
    have hlt : networkId < 2 ^ tier0Bits := by
      have hpos := Nat.two_pow_pos tier0Bits
      unfold networkEntityIdTier0Max at hle
      omega
    exact (reads_bit false).bind (reads_bits hlt)
  case isFalse =>
    split
    case isTrue hle =>
      have hlt : networkId < 2 ^ networkEntityIdTier1Bits := by
        unfold networkEntityIdTier1Max at hle
        have hpos := Nat.two_pow_pos networkEntityIdTier1Bits
        omega
      exact (reads_bit true).bind ((reads_bit false).bind (reads_bits hlt))
    case isFalse => exact (reads_bit true).bind ((reads_bit true).bind (reads_bits hid))

theorem reads_frameBack {deltaBits : Nat} {current earlier : Nat} (h : earlier < 2 ^ 32) :
    Reads (readFrameBack deltaBits current) (writeFrameBack (2 ^ deltaBits - 1) deltaBits current earlier) earlier := by
  unfold writeFrameBack
  split
  case isTrue hnear =>
    obtain ⟨hle, hdelta⟩ : earlier ≤ current ∧ current - earlier ≤ 2 ^ deltaBits - 1 := hnear
    have hlt : current - earlier < 2 ^ deltaBits := by
      have hpos := Nat.two_pow_pos deltaBits
      omega
    refine (reads_bit false).bind ((reads_bits hlt).bind_nil ?_)
    have hback : ¬current - earlier > current := by omega
    have hsame : current - (current - earlier) = earlier := by omega
    rw [if_neg hback, hsame]
    exact Reads.pure earlier
  case isFalse => exact (reads_bit true).bind (reads_bits h)

/-! ## Slots -/

inductive SlotValue where
  | tags (mask : Mask)
  | component (i : Nat) (bytes : Bytes)

def SlotValue.slot : SlotValue → Nat
  | .tags _ => 0
  | .component i _ => i + 1

def SlotValue.write (data : QuantizedFrameData) : SlotValue → QuantizedFrameData
  | .tags mask => { data with tagMask := mask }
  | .component i bytes => writeFrameComponent data i bytes

def SlotValue.store (record : AuthoritativeUpsertRecord) (value : SlotValue) : AuthoritativeUpsertRecord :=
  { record with
    authoritative := value.write record.authoritative
    changedSyncSlots := record.changedSyncSlots ||| syncSlotBit value.slot }

inductive SlotWritten (definition : SyncArchetype) (frame : SyncFrame) : SlotValue → Bits → Prop where
  | tags {mask : Mask} (hslot : hasTagSlot definition = true) (hmask : mask.toNat < 2 ^ definition.tags.length) :
      SlotWritten definition frame (.tags mask) (unsignedBits mask.toNat definition.tags.length)
  | component {i : Nat} {bytes : Bytes} {c : ComponentReplication} {bits : Bits}
      (hc : definition.components[i]? = some c) (hops : c.ops.Inverts) (hsize : bytes.length = c.ops.quantizedSize)
      (hout : (c.ops.serialize none bytes ⟨frame, 0⟩).Outputs bits) :
      SlotWritten definition frame (.component i bytes) bits

section

variable {R : Type} {client : ReplicationClient R} {definition : SyncArchetype} {frame : SyncFrame}

theorem SlotWritten.slot_lt {value : SlotValue} {bits : Bits} (h : SlotWritten definition frame value bits) :
    value.slot < syncSlotCount definition := by
  cases h with
  | tags => exact Nat.succ_pos _
  | component hc => exact Nat.succ_lt_succ (List.getElem?_eq_some_iff.mp hc).1

theorem ReadsTo.slot {value : SlotValue} {bits : Bits} (h : SlotWritten definition frame value bits)
    (record : AuthoritativeUpsertRecord) :
    ReadsTo client (readSlot definition frame record value.slot) bits (value.store record) := by
  have hlt := h.slot_lt
  unfold readSlot
  simp only [ge_iff_le, Nat.not_le.mpr hlt, if_false]
  cases h with
  | @tags mask hslot hmask =>
    have hread : ReadsTo client (ReadM.field "full_tag_mask_read_failed" (readBits definition.tags.length))
        (unsignedBits mask.toNat definition.tags.length) mask.toNat := ReadsTo.field _ (reads_bits hmask)
    simp only [SlotValue.slot, if_true, hslot, Bool.not_true, Bool.false_eq_true, if_false]
    refine hread.bind_nil ?_
    simp only [BitVec.ofNat_toNat, BitVec.setWidth_eq]
    exact ReadsTo.pure _
  | @component i bytes c bits hc hops hsize hout =>
    simp only [SlotValue.slot, Nat.add_eq_zero_iff, Nat.one_ne_zero, and_false, if_false, Nat.add_sub_cancel, hc]
    exact (ReadsTo.component hops (by simp) hsize hout).bind_nil (ReadsTo.pure _)

theorem ReadsTo.slots : ∀ {values : List (SlotValue × Bits)} (record : AuthoritativeUpsertRecord),
    (∀ v ∈ values, SlotWritten definition frame v.1 v.2) →
    ReadsTo client (readSlots definition frame (values.map fun v => v.1.slot) record)
      (values.flatMap fun v => v.2) ((values.map Prod.fst).foldl SlotValue.store record)
  | [], record, _ => ReadsTo.pure record
  | v :: values, record, h => by
    simp only [List.map_cons, List.flatMap_cons, List.foldl_cons]
    exact (ReadsTo.slot (h v (by simp)) record).bind (ReadsTo.slots _ fun w hw => h w (by simp [hw]))

theorem lt_bitsForRange {slot count : Nat} (h : slot < count) : slot < 2 ^ bitsForRange count := by
  unfold bitsForRange
  split
  · omega
  · have hlog : count - 1 < 2 ^ (Nat.log2 (count - 1) + 1) := Nat.lt_log2_self
    omega

theorem ReadsTo.listedSlots : ∀ {values : List (SlotValue × Bits)} (record : AuthoritativeUpsertRecord),
    (∀ v ∈ values, SlotWritten definition frame v.1 v.2) →
    ReadsTo client (readListedSlots definition frame values.length record)
      (values.flatMap fun v => unsignedBits v.1.slot (bitsForRange (syncSlotCount definition)) ++ v.2)
      ((values.map Prod.fst).foldl SlotValue.store record)
  | [], record, _ => ReadsTo.pure record
  | v :: values, record, h => by
    have hv := h v (by simp)
    simp only [List.map_cons, List.flatMap_cons, List.foldl_cons, List.length_cons, readListedSlots, List.append_assoc]
    exact (ReadsTo.field _ (reads_bits (lt_bitsForRange hv.slot_lt))).bind
      ((ReadsTo.slot hv record).bind (ReadsTo.listedSlots _ fun w hw => h w (by simp [hw])))

end

/-! ## Full records -/

def fullSlots (definition : SyncArchetype) (value : Nat → Bytes) (tagMask : Option Mask)
    (components : List (Nat × Bits)) : List (SlotValue × Bits) :=
  (match tagMask with
    | some mask => [(.tags mask, unsignedBits mask.toNat definition.tags.length)]
    | none => []) ++
  components.map fun c => (.component c.1 (value c.1), c.2)

section

variable {definition : SyncArchetype} {frame : SyncFrame} {value : Nat → Bytes} {tagMask : Option Mask}
  {components : List (Nat × Bits)}

theorem fullSlots_slot : (fullSlots definition value tagMask components).map (fun v => v.1.slot) =
    presentSyncSlots tagMask components := by
  cases tagMask with
  | none => simp [fullSlots, presentSyncSlots, Function.comp_def, SlotValue.slot]
  | some mask => simp [fullSlots, presentSyncSlots, Function.comp_def, SlotValue.slot]

theorem length_fullSlots :
    (fullSlots definition value tagMask components).length = (presentSyncSlots tagMask components).length := by
  rw [← @fullSlots_slot definition value, List.length_map]

theorem fullSlots_bits : (fullSlots definition value tagMask components).flatMap (fun v => v.2) =
    (match tagMask with
      | some mask => unsignedBits mask.toNat definition.tags.length
      | none => []) ++ components.flatMap fun c => c.2 := by
  cases tagMask with
  | none => simp [fullSlots, List.flatMap_map]
  | some mask => simp [fullSlots, List.flatMap_map]

theorem fullSlots_listed (slotBits : Nat) :
    (fullSlots definition value tagMask components).flatMap (fun v => unsignedBits v.1.slot slotBits ++ v.2) =
    (match tagMask with
      | some mask => unsignedBits 0 slotBits ++ unsignedBits mask.toNat definition.tags.length
      | none => []) ++ components.flatMap fun c => unsignedBits (c.1 + 1) slotBits ++ c.2 := by
  cases tagMask with
  | none => simp [fullSlots, List.flatMap_map, SlotValue.slot]
  | some mask => simp [fullSlots, List.flatMap_map, SlotValue.slot]

theorem encodeFullBody_mask (h : syncSlotCount definition <
      16 + (presentSyncSlots tagMask components).length * bitsForRange (syncSlotCount definition)) :
    encodeFullBody definition tagMask components =
      [true] ++ ((List.range (syncSlotCount definition)).map
          (fun slot => decide (slot ∈ presentSyncSlots tagMask components)) ++
        (fullSlots definition value tagMask components).flatMap fun v => v.2) := by
  rw [fullSlots_bits]
  simp only [encodeFullBody, h, decide_true, if_true, List.nil_append, List.append_assoc]
  cases tagMask <;> rfl

theorem encodeFullBody_list (h : ¬syncSlotCount definition <
      16 + (presentSyncSlots tagMask components).length * bitsForRange (syncSlotCount definition)) :
    encodeFullBody definition tagMask components =
      [false] ++ (unsignedBits (presentSyncSlots tagMask components).length 16 ++
        (fullSlots definition value tagMask components).flatMap fun v =>
          unsignedBits v.1.slot (bitsForRange (syncSlotCount definition)) ++ v.2) := by
  rw [fullSlots_listed]
  simp only [encodeFullBody, h, decide_false, Bool.false_eq_true, if_false, List.append_assoc]
  cases tagMask <;> rfl

theorem filter_presentSyncSlots {p : Nat → Bool}
    (hind : components.map Prod.fst = (List.range definition.components.length).filter p) :
    (List.range (syncSlotCount definition)).filter (fun slot => decide (slot ∈ presentSyncSlots tagMask components)) =
      presentSyncSlots tagMask components := by
  have hpresent : presentSyncSlots tagMask components =
      (if tagMask.isSome then [0] else []) ++
        ((List.range definition.components.length).filter p).map Nat.succ := by
    rw [presentSyncSlots, ← hind, List.map_map]
    rfl
  have hrest : ((List.range definition.components.length).map Nat.succ).filter
      (fun slot => decide (slot ∈ presentSyncSlots tagMask components)) =
      ((List.range definition.components.length).filter p).map Nat.succ := by
    rw [List.filter_map]
    congr 1
    apply List.filter_congr
    intro i hi
    rw [hpresent]
    cases tagMask <;> simp_all
  rw [syncSlotCount, List.range_succ_eq_map, List.filter_cons, hrest]
  conv_rhs => rw [hpresent]
  cases tagMask with
  | none => simp [presentSyncSlots]
  | some mask => simp [presentSyncSlots]

theorem ReadsTo.fullBody {R : Type} {client : ReplicationClient R} {p : Nat → Bool}
    (hind : components.map Prod.fst = (List.range definition.components.length).filter p)
    (hslots : ∀ v ∈ fullSlots definition value tagMask components, SlotWritten definition frame v.1 v.2)
    (hcount : (presentSyncSlots tagMask components).length < 2 ^ 16) (record : AuthoritativeUpsertRecord) :
    ReadsTo client (decodeFullUpsertRecordPayload definition frame record)
      (encodeFullBody definition tagMask components)
      (((fullSlots definition value tagMask components).map Prod.fst).foldl SlotValue.store record) := by
  unfold decodeFullUpsertRecordPayload
  by_cases hpresence : syncSlotCount definition <
      16 + (presentSyncSlots tagMask components).length * bitsForRange (syncSlotCount definition)
  case pos =>
    rw [@encodeFullBody_mask definition value _ _ hpresence]
    refine (ReadsTo.field _ (reads_bit true)).bind ?_
    simp only [if_true]
    generalize hmask : (List.range (syncSlotCount definition)).map
      (fun slot => decide (slot ∈ presentSyncSlots tagMask components)) = mask
    have hread := reads_ofBits mask
    rw [← hmask, List.length_map, List.length_range, hmask] at hread
    refine (ReadsTo.field _ hread).bind ?_
    have hfilter : (List.range (syncSlotCount definition)).filter (ofBits mask).testBit =
        (fullSlots definition value tagMask components).map fun v => v.1.slot := by
      rw [fullSlots_slot, ← filter_presentSyncSlots hind]
      apply List.filter_congr
      intro slot hslot
      have hlt := List.mem_range.mp hslot
      rw [testBit_ofBits, ← hmask]
      simp [List.getD_eq_getElem?_getD, hlt]
    rw [hfilter]
    exact ReadsTo.slots record hslots
  case neg =>
    rw [@encodeFullBody_list definition value _ _ hpresence]
    refine (ReadsTo.field _ (reads_bit false)).bind ?_
    simp only [Bool.false_eq_true, if_false]
    refine (ReadsTo.field _ (reads_bits hcount)).bind ?_
    rw [← @length_fullSlots definition value]
    exact ReadsTo.listedSlots record hslots

end

/-! ## Delta records -/

section

variable {R : Type} {client : ReplicationClient R} {definition : SyncArchetype} {value : Nat → Bytes}
  {tagMask : Option Mask}

structure ChangeWritten (definition : SyncArchetype) (context : SerializationContext) (baseline : QuantizedFrameData)
    (value : Nat → Bytes) (p : Nat × Bits) : Prop where
  written : ∃ c previous, definition.components[p.1]? = some c ∧ c.ops.Inverts ∧
    frameComponentData baseline p.1 = some previous ∧ previous.length = c.ops.quantizedSize ∧
    (value p.1).length = c.ops.quantizedSize ∧ (c.ops.serialize (some previous) (value p.1) context).Outputs p.2

theorem ReadsTo.changedComponents {context : SerializationContext} {baseline : QuantizedFrameData} :
    ∀ {components : List (Nat × Bits)} (record : AuthoritativeUpsertRecord),
    (∀ p ∈ components, ChangeWritten definition context baseline value p) →
    ReadsTo client (readChangedComponents definition context baseline (components.map Prod.fst) record)
      (components.flatMap fun c => c.2)
      { record with authoritative :=
          (components.map fun p => SlotValue.component p.1 (value p.1)).foldl SlotValue.write record.authoritative }
  | [], record, _ => ReadsTo.pure record
  | p :: components, record, h => by
    obtain ⟨c, previous, hc, hops, hprevious, hsize, hsize', hout⟩ := (h p (by simp)).written
    have hrest := fun record => ReadsTo.changedComponents record fun w hw => h w (List.mem_cons_of_mem p hw)
    simp only [List.map_cons, List.flatMap_cons, List.foldl_cons, readChangedComponents, hc, hprevious]
    exact (ReadsTo.component hops (by simpa using hsize) hsize' hout).bind (hrest _)

theorem encodeDeltaBody_eq {components : List (Nat × Bits)} :
    encodeDeltaBody definition tagMask components =
      (tagMask.isSome :: (List.range definition.components.length).map
        fun i => decide (i ∈ components.map Prod.fst)) ++
      ((match tagMask with
        | some mask => unsignedBits mask.toNat definition.tags.length
        | none => []) ++ components.flatMap fun c => c.2) := by
  unfold encodeDeltaBody
  exact congrArg (tagMask.isSome :: ·) (List.append_assoc _ _ _)

def deltaChangedMask (definition : SyncArchetype) (tagMask : Option Mask) (components : List (Nat × Bits)) : Nat :=
  ofBits (tagMask.isSome :: (List.range definition.components.length).map
    fun i => decide (i ∈ components.map Prod.fst))

theorem testBit_deltaChangedMask_zero {components : List (Nat × Bits)} :
    (deltaChangedMask definition tagMask components).testBit 0 = tagMask.isSome := by
  rw [deltaChangedMask, testBit_ofBits, List.getD_cons_zero]

theorem testBit_deltaChangedMask_succ {components : List (Nat × Bits)} {i : Nat}
    (hi : i < definition.components.length) :
    (deltaChangedMask definition tagMask components).testBit (i + 1) = decide (i ∈ components.map Prod.fst) := by
  rw [deltaChangedMask, testBit_ofBits, List.getD_cons_succ]
  simp [List.getD_eq_getElem?_getD, hi]

def deltaRecord (definition : SyncArchetype) (baseline : QuantizedFrameData) (value : Nat → Bytes)
    (tagMask : Option Mask) (components : List (Nat × Bits)) : AuthoritativeUpsertRecord where
  authoritative := (components.map fun p => SlotValue.component p.1 (value p.1)).foldl SlotValue.write
    { baseline with tagMask := tagMask.getD baseline.tagMask }
  changedSyncSlots := BitVec.ofNat 64 (deltaChangedMask definition tagMask components)

theorem ReadsTo.deltaBody {frame baselineFrame : SyncFrame} {baseline : QuantizedFrameData}
    {components : List (Nat × Bits)} {p : Nat → Bool}
    (hind : components.map Prod.fst = (List.range definition.components.length).filter p)
    (htags : ∀ mask ∈ tagMask, hasTagSlot definition = true ∧ mask.toNat < 2 ^ definition.tags.length)
    (hwritten : ∀ c ∈ components, ChangeWritten definition ⟨frame, baselineFrame⟩ baseline value c) :
    ReadsTo client (decodeDeltaUpsertRecordPayload definition frame baselineFrame baseline)
      (encodeDeltaBody definition tagMask components)
      (deltaRecord definition baseline value tagMask components) := by
  rw [encodeDeltaBody_eq]
  have hread := reads_ofBits (tagMask.isSome :: (List.range definition.components.length).map
    fun i => decide (i ∈ components.map Prod.fst))
  rw [List.length_cons, List.length_map, List.length_range] at hread
  unfold decodeDeltaUpsertRecordPayload
  refine (ReadsTo.field _ hread).bind ?_
  dsimp only
  rw [← deltaChangedMask, testBit_deltaChangedMask_zero]
  have hfilter : (List.range definition.components.length).filter
      (fun i => (deltaChangedMask definition tagMask components).testBit (i + 1)) = components.map Prod.fst := by
    rw [hind]
    apply List.filter_congr
    intro i hi
    have hlt := List.mem_range.mp hi
    rw [testBit_deltaChangedMask_succ hlt, hind]
    simp [hlt]
  rw [hfilter]
  cases tagMask with
  | none =>
    simp only [Option.isSome_none, Bool.false_eq_true, if_false, List.nil_append]
    refine (ReadsTo.pure _).nil_bind ?_
    exact ReadsTo.changedComponents _ hwritten
  | some mask =>
    obtain ⟨hslot, hmask⟩ := htags mask rfl
    simp only [Option.isSome_some, if_true, hslot, Bool.not_true, Bool.false_eq_true, if_false]
    have hbits : ReadsTo client (ReadM.field "delta_tag_mask_read_failed" (readBits definition.tags.length))
        (unsignedBits mask.toNat definition.tags.length) mask.toNat := ReadsTo.field _ (reads_bits hmask)
    refine hbits.bind ((ReadsTo.pure _).nil_bind ?_)
    simp only [BitVec.ofNat_toNat, BitVec.setWidth_eq]
    exact ReadsTo.changedComponents _ hwritten

end

/-! ## Cues -/

structure CueWritten (settings : SyncSettings) (cue : WireCue) (value : Bytes) : Prop where
  frame : cue.frame < 2 ^ 32
  type : cue.type < 2 ^ 16
  payload : ∃ ops, settings.cueOps[cue.type]? = some ops ∧ ops.InvertsAt value ∧
    (ops.serialize value).Outputs cue.payload

def readCueList (cues : List WireCue) (values : List Bytes) : List EntityCue :=
  List.zipWith (fun cue value => { frame := cue.frame, type := cue.type, value }) cues values

section

variable {R : Type} {client : ReplicationClient R} {frame : SyncFrame}

theorem reads_cueHeader {cueFrame type : Nat} (hframe : cueFrame < 2 ^ 32) (htype : type < 2 ^ 16) :
    Reads (do
      let cueFrame ← readCueFrame frame
      let type ← readBits 16
      pure (cueFrame, type)) (writeCueFrame frame cueFrame ++ unsignedBits type 16) (cueFrame, type) :=
  (reads_frameBack hframe).bind ((reads_bits htype).bind_nil (Reads.pure _))

theorem ReadsTo.cueValue {ops : SyncCueOps} {value : Bytes} {cueFrame : SyncFrame} {bits : Bits}
    {deserialize : Bits → SerializationContext → RecordReader}
    (hinv : ∀ context bits rest, (ops.serialize value).Outputs bits →
      (deserialize (bits ++ rest) context).Yields value rest) (hout : (ops.serialize value).Outputs bits) :
    ReadsTo client (do
      let bits ← ReadM.stream
      ReadM.deserialized ops.referencesEntities "cue_deserialize_failed" (deserialize bits ⟨cueFrame, 0⟩))
      bits value :=
  fun c _ rest => ReadsTo.deserialized (hinv ⟨cueFrame, 0⟩ bits rest hout) c (bits ++ rest)

theorem ReadsTo.cues : ∀ {cues : List WireCue} {values : List Bytes} {fuel : Nat}, cues.length < fuel →
    List.Forall₂ (CueWritten client.settings) cues values →
    ReadsTo client (readCues frame fuel) (writePendingCues frame cues) (readCueList cues values)
  | _, _, 0, hfuel, _ => absurd hfuel (Nat.not_lt_zero _)
  | [], [], _ + 1, _, _ => by
    refine (ReadsTo.field _ (reads_bit false)).bind_nil ?_
    exact ReadsTo.pure _
  | cue :: cues, value :: values, fuel + 1, hfuel, h => by
    obtain ⟨hcue, hrest⟩ := List.forall₂_cons.mp h
    obtain ⟨ops, hops, ⟨deserialize, hdes, hinv⟩, hout⟩ := hcue.payload
    have hbits : writePendingCues frame (cue :: cues) = [true] ++
        ((writeCueFrame frame cue.frame ++ unsignedBits cue.type 16) ++
          (cue.payload ++ writePendingCues frame cues)) := by
      simp [writePendingCues]
    rw [hbits]
    unfold readCues
    refine (ReadsTo.field _ (reads_bit true)).bind ?_
    simp only [if_true]
    refine (ReadsTo.field _ (reads_cueHeader hcue.frame hcue.type)).bind ?_
    refine ReadsTo.client_bind fun c hc => ?_
    obtain ⟨wires, rfl⟩ := hc.same
    simp only [hops, hdes]
    have hvalue := @ReadsTo.cueValue R client ops value cue.frame cue.payload deserialize hinv hout
    rw [← bind_assoc]
    exact hvalue.bind ((ReadsTo.cues (Nat.lt_of_succ_lt_succ hfuel) hrest).bind_nil (ReadsTo.pure _))

end

/-! ## What a decoded frame holds -/

structure Agrees (definition : SyncArchetype) (mask : Mask) (a b : QuantizedFrameData) : Prop where
  tags : lowBits definition.tags.length a.tagMask = lowBits definition.tags.length b.tagMask
  components : ∀ i < definition.components.length, mask.getLsbD i = true →
    frameComponentData a i = frameComponentData b i

theorem lt_of_frameComponentData {data : QuantizedFrameData} {i : Nat} {bytes : Bytes}
    (h : frameComponentData data i = some bytes) : i < data.bytes.length ∧ i < 64 := by
  unfold frameComponentData at h
  split at h
  case isTrue hpresent => exact ⟨(List.getElem?_eq_some_iff.mp h).1, BitVec.lt_of_getLsbD hpresent⟩
  case isFalse => cases h

theorem frameComponentData_write {data : QuantizedFrameData} {i j : Nat} {bytes : Bytes}
    (hi : i < data.bytes.length) (h64 : i < 64) :
    frameComponentData (writeFrameComponent data i bytes) j =
      if j = i then some bytes else frameComponentData data j := by
  by_cases hj : j = i
  · subst hj
    simp [frameComponentData, frameHasComponent, writeFrameComponent, hi, h64]
  · rw [if_neg hj, frameComponentData_write_ne hj]

theorem frameComponentData_writes {value : Nat → Bytes} {j : Nat} : ∀ (components : List (Nat × Bits))
    {data : QuantizedFrameData}, (∀ p ∈ components, p.1 < data.bytes.length ∧ p.1 < 64) →
    frameComponentData ((components.map fun p => SlotValue.component p.1 (value p.1)).foldl SlotValue.write data) j =
      if j ∈ components.map Prod.fst then some (value j) else frameComponentData data j
  | [], _, _ => by simp
  | p :: components, data, h => by
    obtain ⟨hlt, h64⟩ := h p (by simp)
    rw [List.map_cons, List.foldl_cons, frameComponentData_writes components]
    · by_cases hj : j ∈ components.map Prod.fst
      · simp [hj]
      · rw [if_neg hj, SlotValue.write, frameComponentData_write hlt h64]
        by_cases hp : j = p.1
        · simp [hp]
        · simp only [List.map_cons, List.mem_cons, hp, hj, or_self, if_false]
    · intro q hq
      simpa [SlotValue.write, writeFrameComponent] using h q (List.mem_cons_of_mem p hq)

theorem tagMask_writes {value : Nat → Bytes} : ∀ (components : List (Nat × Bits)) (data : QuantizedFrameData),
    ((components.map fun p => SlotValue.component p.1 (value p.1)).foldl SlotValue.write data).tagMask = data.tagMask
  | [], _ => rfl
  | _ :: components, _ => tagMask_writes components _

theorem store_authoritative : ∀ (values : List SlotValue) (record : AuthoritativeUpsertRecord),
    (values.foldl SlotValue.store record).authoritative = values.foldl SlotValue.write record.authoritative
  | [], _ => rfl
  | _ :: values, _ => store_authoritative values _

theorem lowBits_lowBits (n : Nat) (m : Mask) : lowBits n (lowBits n m) = lowBits n m := by
  simp [lowBits, BitVec.and_assoc]

theorem lowBits_lt (n : Nat) (m : Mask) : (lowBits n m).toNat < 2 ^ n := by
  have hle : (lowBits n m).toNat ≤ 2 ^ n - 1 := by
    rw [lowBits, BitVec.toNat_and, BitVec.toNat_ofNat]
    exact Nat.and_le_right.trans (Nat.mod_le _ _)
  have hpos := Nat.two_pow_pos n
  omega

theorem lowBits_zero (m : Mask) : lowBits 0 m = 0 := by
  simp [lowBits]

/-! ## Bodies -/

def frameValue (data : QuantizedFrameData) (i : Nat) : Bytes := (frameComponentData data i).getD []

def fullRecord (definition : SyncArchetype) (value : Nat → Bytes) (tagMask : Option Mask)
    (components : List (Nat × Bits)) : AuthoritativeUpsertRecord :=
  ((fullSlots definition value tagMask components).map Prod.fst).foldl SlotValue.store
    { authoritative := { bytes := definition.components.map fun c => List.replicate c.ops.quantizedSize 0 } }

theorem fullRecord_authoritative (definition : SyncArchetype) (value : Nat → Bytes) (tagMask : Option Mask)
    (components : List (Nat × Bits)) :
    (fullRecord definition value tagMask components).authoritative =
      (components.map fun p => SlotValue.component p.1 (value p.1)).foldl SlotValue.write
        { tagMask := tagMask.getD 0
          bytes := definition.components.map fun c => List.replicate c.ops.quantizedSize 0 } := by
  rw [fullRecord, store_authoritative]
  unfold fullSlots
  rw [List.map_append, List.foldl_append, List.map_map]
  cases tagMask <;> rfl

section

variable {definition : SyncArchetype} {current previous baseline : QuantizedFrameData} {mask : Mask}
  {components : List (Nat × Bits)} {frame baselineFrame : SyncFrame}

theorem mem_enabledComponents {i : Nat} : i ∈ enabledComponents definition current mask ↔
    i < definition.components.length ∧ frameHasComponent current i = true ∧ mask.getLsbD i = true := by
  simp [enabledComponents]

theorem ComponentsWritten.slots (hops : ∀ c ∈ definition.components, c.ops.Inverts)
    (hsized : SizedData definition current)
    (h : ComponentsWritten definition none current ⟨frame,
    0⟩ (enabledComponents definition current mask) components) :
    ∀ v ∈ fullSlots definition (frameValue current)
      (if hasTagSlot definition then some (lowBits definition.tags.length current.tagMask) else none) components,
    SlotWritten definition frame v.1 v.2 := by
  intro v hv
  rcases List.mem_append.mp hv with htag | hcomponent
  · cases hslot : hasTagSlot definition with
    | false => simp [hslot] at htag
    | true =>
      simp only [hslot, if_true, List.mem_singleton] at htag
      subst htag
      exact .tags hslot (lowBits_lt _ _)
  · obtain ⟨p, hp, rfl⟩ := List.mem_map.mp hcomponent
    obtain ⟨c, bytes, hc, hbytes, -, hout⟩ := h.written p hp
    have hvalue : frameValue current p.1 = bytes := by simp [frameValue, hbytes]
    rw [hvalue]
    exact .component hc (hops c (List.mem_of_getElem? hc)) (hsized p.1 c bytes hc hbytes) hout

theorem fullRecord_component (hcount : definition.components.length ≤ 63) {tagMask : Option Mask} {i : Nat}
    (h : ComponentsWritten definition none current ⟨frame,
    0⟩ (enabledComponents definition current mask) components) :
    frameComponentData (fullRecord definition (frameValue current) tagMask components).authoritative i =
      if i ∈ enabledComponents definition current mask then frameComponentData current i else none := by
  have hlt : ∀ p ∈ components, p.1 < definition.components.length ∧ p.1 < 64 := by
    intro p hp
    obtain ⟨c, -, hc, -⟩ := h.written p hp
    have hlen := (List.getElem?_eq_some_iff.mp hc).1
    exact ⟨hlen, by omega⟩
  have hsome : i ∈ enabledComponents definition current mask →
      some (frameValue current i) = frameComponentData current i := by
    rw [← h.indices]
    intro hi
    obtain ⟨p, hp, rfl⟩ := List.mem_map.mp hi
    obtain ⟨-, bytes, -, hbytes, -⟩ := h.written p hp
    simp [frameValue, hbytes]
  rw [fullRecord_authoritative, frameComponentData_writes components (by simpa using hlt), h.indices]
  split
  · exact hsome ‹_›
  · simp [frameComponentData, frameHasComponent]

theorem fullRecord_tags :
    lowBits definition.tags.length (fullRecord definition (frameValue current)
      (if hasTagSlot definition then some (lowBits definition.tags.length current.tagMask) else none)
      components).authoritative.tagMask = lowBits definition.tags.length current.tagMask := by
  rw [fullRecord_authoritative, tagMask_writes]
  cases hslot : hasTagSlot definition with
  | true => exact lowBits_lowBits _ _
  | false =>
    have hnone : definition.tags.length = 0 := by
      simpa [hasTagSlot] using hslot
    rw [hnone, lowBits_zero, lowBits_zero]

theorem fullRecord_agrees (hcount : definition.components.length ≤ 63)
    (h : ComponentsWritten definition none current ⟨frame,
    0⟩ (enabledComponents definition current mask) components) :
    Agrees definition mask (fullRecord definition (frameValue current)
      (if hasTagSlot definition then some (lowBits definition.tags.length current.tagMask) else none)
      components).authoritative current where
  tags := fullRecord_tags
  components i hi hmask := by
    rw [fullRecord_component hcount h]
    split
    · rfl
    · rename_i hnot
      rw [mem_enabledComponents] at hnot
      have hhas : frameHasComponent current i = false := by
        cases hb : frameHasComponent current i with
        | true => exact absurd ⟨hi, hb, hmask⟩ hnot
        | false => rfl
      simp [frameComponentData, hhas]

theorem mem_changedComponents {i : Nat} : i ∈ changedComponents definition previous current mask ↔
    i ∈ enabledComponents definition current mask ∧ current.bytes[i]? ≠ previous.bytes[i]? := by
  simp [changedComponents]

theorem frameComponentData_congr {a b : QuantizedFrameData} {i : Nat} (hpresent : a.presentMask = b.presentMask)
    (hbytes : a.bytes[i]? = b.bytes[i]?) : frameComponentData a i = frameComponentData b i := by
  rw [frameComponentData, frameComponentData, frameHasComponent, frameHasComponent, hpresent, hbytes]

/-- The components of a delta record, written against a baseline the client's agrees with. -/
theorem ComponentsWritten.changes (hops : ∀ c ∈ definition.components, c.ops.Inverts)
    (hsized : SizedData definition current) (hsized' : SizedData definition previous)
    (hagrees : Agrees definition mask baseline previous)
    (h : ComponentsWritten definition (some previous) current ⟨frame, baselineFrame⟩
      (changedComponents definition previous current mask) components) :
    ∀ p ∈ components, ChangeWritten definition ⟨frame, baselineFrame⟩ baseline (frameValue current) p := by
  intro p hp
  obtain ⟨c, bytes, hc, hbytes, hprevious, hout⟩ := h.written p hp
  have hmem : p.1 ∈ changedComponents definition previous current mask := by
    rw [← h.indices]
    exact List.mem_map_of_mem hp
  obtain ⟨hlt, -, hmask⟩ := mem_enabledComponents.mp (mem_changedComponents.mp hmem).1
  obtain ⟨old, hold⟩ := Option.isSome_iff_exists.mp (hprevious rfl)
  rw [Option.bind_some] at hold
  have hvalue : frameValue current p.1 = bytes := by simp [frameValue, hbytes]
  rw [Option.bind_some, hold] at hout
  refine ⟨c, old, hc, hops c (List.mem_of_getElem? hc), ?_, hsized' p.1 c old hc hold, ?_, ?_⟩
  · exact (hagrees.components p.1 hlt hmask).trans hold
  · rw [hvalue]
    exact hsized p.1 c bytes hc hbytes
  · rw [hvalue]
    exact hout

/-- The components of a delta record are the changed ones; the others are the client's. -/
theorem deltaRecord_component {tagMask : Option Mask} {i : Nat}
    (hwritten : ∀ p ∈ components, ChangeWritten definition ⟨frame,
    baselineFrame⟩ baseline (frameValue current) p)
    (h : ComponentsWritten definition (some previous) current ⟨frame, baselineFrame⟩
      (changedComponents definition previous current mask) components) :
    frameComponentData (deltaRecord definition baseline (frameValue current) tagMask components).authoritative i =
      if i ∈ changedComponents definition previous current mask then frameComponentData current i
      else frameComponentData baseline i := by
  have hlt : ∀ p ∈ components, p.1 < baseline.bytes.length ∧ p.1 < 64 := by
    intro p hp
    obtain ⟨c, old, -, -, hold, -⟩ := (hwritten p hp).written
    exact lt_of_frameComponentData hold
  have hsome : i ∈ changedComponents definition previous current mask →
      some (frameValue current i) = frameComponentData current i := by
    rw [← h.indices]
    intro hi
    obtain ⟨p, hp, rfl⟩ := List.mem_map.mp hi
    obtain ⟨-, bytes, -, hbytes, -⟩ := h.written p hp
    simp [frameValue, hbytes]
  have hwrites := @frameComponentData_writes (frameValue current) i components
    { baseline with tagMask := tagMask.getD baseline.tagMask } hlt
  rw [h.indices] at hwrites
  refine hwrites.trans ?_
  split
  · exact hsome ‹_›
  · rfl

theorem deltaRecord_tags (hagrees : Agrees definition mask baseline previous) :
    lowBits definition.tags.length (deltaRecord definition baseline (frameValue current)
      (if hasTagSlot definition && lowBits definition.tags.length current.tagMask !=
          lowBits definition.tags.length previous.tagMask then
        some (lowBits definition.tags.length current.tagMask)
      else none) components).authoritative.tagMask = lowBits definition.tags.length current.tagMask := by
  rw [deltaRecord, tagMask_writes]
  split
  case isTrue => exact lowBits_lowBits _ _
  case isFalse hsame =>
    refine hagrees.tags.trans ?_
    cases hslot : hasTagSlot definition with
    | true =>
      simp only [hslot, Bool.true_and, bne_iff_ne, ne_eq, not_not] at hsame
      exact hsame.symm
    | false =>
      have hnone : definition.tags.length = 0 := by
        simpa [hasTagSlot] using hslot
      rw [hnone, lowBits_zero, lowBits_zero]

theorem deltaRecord_agrees (hpresent : previous.presentMask = current.presentMask)
    (hagrees : Agrees definition mask baseline previous)
    (hwritten : ∀ p ∈ components, ChangeWritten definition ⟨frame,
    baselineFrame⟩ baseline (frameValue current) p)
    (h : ComponentsWritten definition (some previous) current ⟨frame, baselineFrame⟩
      (changedComponents definition previous current mask) components) :
    Agrees definition mask (deltaRecord definition baseline (frameValue current)
      (if hasTagSlot definition && lowBits definition.tags.length current.tagMask !=
          lowBits definition.tags.length previous.tagMask then
        some (lowBits definition.tags.length current.tagMask)
      else none) components).authoritative current where
  tags := deltaRecord_tags hagrees
  components i hi hmask := by
    rw [deltaRecord_component hwritten h]
    split
    case isTrue => rfl
    case isFalse hnot =>
      rw [hagrees.components i hi hmask]
      cases hhas : frameHasComponent current i with
      | true =>
        have henabled := mem_enabledComponents.mpr ⟨hi, hhas, hmask⟩
        have hbytes : current.bytes[i]? = previous.bytes[i]? := by
          by_contra hne
          exact hnot (mem_changedComponents.mpr ⟨henabled, hne⟩)
        exact frameComponentData_congr hpresent hbytes.symm
      | false =>
        have hhas' : frameHasComponent previous i = false := by
          rw [frameHasComponent, hpresent]
          exact hhas
        simp [frameComponentData, hhas, hhas']

end

/-! ## Metadata -/

section

variable {R : Type} {client : ReplicationClient R} {α β : Type}

theorem ReadM.client_bind (next : ReplicationClient R → ReadM R β) (s : ReplicationClient R × Bits) :
    (ReadM.client >>= next) s = next s.1 s := rfl

theorem ReadM.field_bind {read : Reader α} {front rest : Bits} {a : α} {reason : String} (next : α → ReadM R β)
    (h : Reads read front a) : (ReadM.field reason read >>= next) (client, front ++ rest) = next a (client, rest) := by
  change EStateM.bind (ReadM.field reason read) next _ = _
  simp only [EStateM.bind, ReadM.field, h rest]

theorem ReadM.networkIdForWire_bind (wireNetworkId : Nat) (next : ClientEntityNetworkId → ReadM R β) (rest : Bits) :
    (ReadM.networkIdForWire wireNetworkId >>= next) (client, rest) =
      next (client.store.clientEntityNetworkIdForWire client.clientId wireNetworkId).2
        ({ client with store := (client.store.clientEntityNetworkIdForWire client.clientId wireNetworkId).1 }, rest) :=
          rfl

/-- The client takes a record of `wireNetworkId` at `frame`: it is no older than what the client knows, and a delta's
baseline is held. -/
inductive Admits (client : ReplicationClient R) (frame : SyncFrame) (wireNetworkId : Nat)
    (archetype : SyncArchetypeId) : Option (SyncFrame × QuantizedFrameData) → Prop where
  | full : client.store.destroyTombstones.blocks wireNetworkId frame = false →
      (∀ e state, client.store.findByClientEntityNetworkId
          (client.store.clientEntityNetworkIdForWire client.clientId wireNetworkId).2 = some (e, state) →
        state.absent = true ∨ (state.entityPresent = true → state.archetype = archetype) ∧
        state.frame < frame) →
      Admits client frame wireNetworkId archetype none
  | delta {e : Nat} {state : EntityState} {baselineFrame : SyncFrame} {baseline : QuantizedFrameData} :
      client.store.findByWireId wireNetworkId = some (e, state) → state.absent = false →
      state.archetype = archetype → state.frame < frame → state.findBaseline baselineFrame = some baseline →
      Admits client frame wireNetworkId archetype (some (baselineFrame, baseline))

structure MetadataOf (frame : SyncFrame) (wire : Nat) (id : ClientEntityNetworkId) (archetype : SyncArchetypeId)
    (baseline : Option (SyncFrame × QuantizedFrameData)) (metadata : UpsertMetadata) : Prop where
  isFullUpsert : metadata.isFullUpsert = baseline.isNone
  frame : metadata.frame = frame
  wireNetworkId : metadata.wireNetworkId = wire
  clientEntityNetworkId : metadata.clientEntityNetworkId = id
  archetype : metadata.archetype = archetype
  baselineFrame : metadata.baselineFrame = (baseline.map Prod.fst).getD 0
  previousBaseline : metadata.previousBaseline = baseline.map Prod.snd

theorem clientEntityNetworkIdForWire_ne_zero {store : ClientEntityStore} {id : ClientId} {wireNetworkId : Nat}
    (h : 0 < wireNetworkId) (hmax : wireNetworkId ≤ maxClientLocalWireNetworkId) :
    (store.clientEntityNetworkIdForWire id wireNetworkId).2 ≠ invalidClientEntityNetworkId := by
  have hvalid : ¬(wireNetworkId = 0 ∨ wireNetworkId > maxClientLocalWireNetworkId) := by omega
  simp only [ClientEntityStore.clientEntityNetworkIdForWire, hvalid, if_false]
  exact makeClientEntityNetworkId_ne_zero h hmax

variable {frame : SyncFrame} {wire : Nat} {id : ClientEntityNetworkId} {archetype : SyncArchetypeId}

theorem readFullMetadata_spec (hblocks : client.store.destroyTombstones.blocks wire frame = false)
    (hfound : ∀ e state, client.store.findByClientEntityNetworkId id = some (e, state) →
      state.absent = true ∨ (state.entityPresent = true → state.archetype = archetype) ∧ state.frame < frame)
    (harch : archetype < client.settings.archetypes.length) (h32 : archetype < 2 ^ 32) (rest : Bits) :
    ∃ client' metadata, readFullMetadata frame wire id (client, unsignedBits archetype 32 ++ rest) =
        .ok metadata (client', rest) ∧
      client'.settings = client.settings ∧ MetadataOf frame wire id archetype none metadata := by
  unfold readFullMetadata
  simp only [ReadM.client_bind, hblocks, Bool.false_eq_true, if_false]
  rw [ReadM.field_bind _ (reads_unsignedBits h32)]
  simp only [ReadM.client_bind, ge_iff_le, Nat.not_le.mpr harch, if_false]
  cases hf : client.store.findByClientEntityNetworkId id with
  | none => exact ⟨client, _, rfl, rfl, rfl, rfl, rfl, rfl, rfl, rfl, rfl⟩
  | some found =>
    obtain ⟨e, state⟩ := found
    by_cases habsent : state.absent = true
    · simp only [habsent, Bool.not_true, Bool.false_and, Bool.false_eq_true, if_false, if_true]
      exact ⟨_, _, rfl, rfl, rfl, rfl, rfl, rfl, rfl, rfl, rfl⟩
    · obtain ⟨hsame, hnewer⟩ := (hfound e state hf).resolve_left habsent
      have hmatch : (state.entityPresent && state.archetype != archetype) = false := by
        cases hpresent : state.entityPresent with
        | true => simp [hsame hpresent]
        | false => rfl
      simp only [habsent, Bool.not_false, Bool.true_and, hmatch, Bool.false_eq_true, if_false, decide_eq_true_eq,
        Nat.not_le.mpr hnewer]
      exact ⟨client, _, rfl, rfl, rfl, rfl, rfl, rfl, rfl, rfl, rfl⟩

theorem readDeltaMetadata_spec {e : Nat} {state : EntityState} {baselineFrame : Nat} {baseline : QuantizedFrameData}
    (hfound : client.store.findByWireId wire = some (e, state)) (hpresent : state.absent = false)
    (hsame : state.archetype = archetype) (hnewer : state.frame < frame)
    (hbaseline : state.findBaseline baselineFrame = some baseline)
    (harch : archetype < client.settings.archetypes.length) (h32 : baselineFrame < 2 ^ 32) (rest : Bits) :
    ∃ metadata, readDeltaMetadata frame wire id (client, writeBaselineFrame frame baselineFrame ++ rest) =
        .ok metadata (client, rest) ∧
        MetadataOf frame wire id archetype (some (baselineFrame, baseline)) metadata := by
  unfold readDeltaMetadata
  simp only [ReadM.client_bind, hfound, hpresent, hsame, Bool.false_eq_true, if_false, ge_iff_le,
    Nat.not_le.mpr harch, Nat.not_le.mpr hnewer]
  have hread : Reads (readBaselineFrame frame) (writeBaselineFrame frame baselineFrame) baselineFrame :=
    reads_frameBack h32
  rw [ReadM.field_bind _ hread]
  simp only [hbaseline]
  exact ⟨_, rfl, rfl, rfl, rfl, rfl, rfl, rfl, rfl⟩

def encodeMetadata (frame : SyncFrame) (archetype : SyncArchetypeId) :
    Option (SyncFrame × QuantizedFrameData) → Bits
  | none => true :: unsignedBits archetype 32
  | some baseline => false :: writeBaselineFrame frame baseline.1

theorem readUpsertMetadata_spec {baseline : Option (SyncFrame × QuantizedFrameData)} (h : 0 < wire)
    (hmax : wire ≤ maxClientLocalWireNetworkId) (harch : archetype < client.settings.archetypes.length)
    (h32 : archetype < 2 ^ 32) (hbaseline : ∀ b ∈ baseline, b.1 < 2 ^ 32)
    (hadmits : Admits client frame wire archetype baseline) (rest : Bits) :
    ∃ client' metadata, readUpsertMetadata frame wire (client, encodeMetadata frame archetype baseline ++ rest) =
        .ok metadata (client', rest) ∧ client'.settings = client.settings ∧
      MetadataOf frame wire (client.store.clientEntityNetworkIdForWire client.clientId wire).2 archetype baseline
        metadata := by
  have htouched := Touched.networkIdForWire client client.clientId wire
  obtain ⟨wires, hwires⟩ := htouched.same
  have hid := @clientEntityNetworkIdForWire_ne_zero client.store client.clientId wire h hmax
  generalize hidv : (client.store.clientEntityNetworkIdForWire client.clientId wire).2 = id at hid
  unfold readUpsertMetadata
  cases hadmits with
  | full hblocks hfound =>
    rw [hidv] at hfound
    change ∃ client' metadata,
      (ReadM.field _ readBit >>= _) (client, [true] ++ (unsignedBits archetype 32 ++ rest)) = _ ∧ _
    rw [ReadM.field_bind _ (reads_bit true), ReadM.networkIdForWire_bind, hwires, hidv]
    simp only [hid, if_false, if_true]
    exact @readFullMetadata_spec R { client with store := { client.store with wireNetworkIds := wires } }
      frame wire id archetype hblocks hfound harch h32 rest
  | @delta e state baselineFrame baseline hfound hpresent hsame hnewer hb =>
    change ∃ client' metadata, (ReadM.field _ readBit >>= _)
      (client, [false] ++ (writeBaselineFrame frame baselineFrame ++ rest)) = _ ∧ _
    rw [ReadM.field_bind _ (reads_bit false), ReadM.networkIdForWire_bind, hwires, hidv]
    simp only [hid, if_false, Bool.false_eq_true]
    rw [← htouched.findByWireId, hwires] at hfound
    obtain ⟨metadata, hread, hmeta⟩ := @readDeltaMetadata_spec R
      { client with store := { client.store with wireNetworkIds := wires } } frame wire id archetype e
      state baselineFrame baseline hfound hpresent hsame hnewer hb harch (hbaseline _ rfl) rest
    exact ⟨_, metadata, hread, rfl, hmeta⟩

end

/-! ## Whole records -/

def encodeBody (definition : SyncArchetype) : UpdateBody → Bits
  | .full _ tagMask components => encodeFullBody definition tagMask components
  | .delta _ tagMask components => encodeDeltaBody definition tagMask components

/-- A decoded frame: the quantized one on the components in `mask`, the client's baseline on the others. -/
structure FrameDecoded (definition : SyncArchetype) (mask : Mask) (quantized : QuantizedFrameData)
    (baseline : Option QuantizedFrameData) (decoded : QuantizedFrameData) : Prop where
  agrees : Agrees definition mask decoded quantized
  others : ∀ i, ¬(i < definition.components.length ∧ mask.getLsbD i = true) →
    frameComponentData decoded i = baseline.bind fun data => frameComponentData data i

section

variable {R : Type} {client : ReplicationClient R} {core : ServerCore} {state : ClientEntityState}
  {quantized : QuantizedFrame} {definition : SyncArchetype} {mask : Mask} {body : UpdateBody} {full : Bool}
  {wire : Nat} {id : ClientEntityNetworkId} {metadata : UpsertMetadata}
  {baseline : Option (SyncFrame × QuantizedFrameData)}

theorem encodeUpdateRecord_eq {tier0Bits : Nat} {cues : List WireCue}
    (hbody : BodyWritten core state quantized definition mask body full)
    (hbase : Option.Rel (fun s c => c.1 = s.1 ∧ Agrees definition mask c.2 s.2)
      (deltaBaseline core state quantized.archetype quantized.data) baseline) :
    encodeUpdateRecord tier0Bits definition quantized.frame { networkId := wire, body, cues } =
      writeNetworkEntityId wire tier0Bits ++ (encodeMetadata quantized.frame quantized.archetype baseline ++
        (encodeBody definition body ++ writePendingCues quantized.frame cues)) := by
  cases hbody with
  | full hdelta =>
    rw [hdelta] at hbase
    cases hbase
    simp [encodeUpdateRecord, encodeMetadata, encodeBody]
  | delta hdelta =>
    rw [hdelta] at hbase
    cases hbase with
    | some hrel => simp [encodeUpdateRecord, encodeMetadata, encodeBody, hrel.1]

theorem BodyWritten.isNone (hbody : BodyWritten core state quantized definition mask body full) :
    (deltaBaseline core state quantized.archetype quantized.data).isNone = full := by
  cases hbody with
  | full hdelta => rw [hdelta, Option.isNone_none]
  | delta hdelta => rw [hdelta, Option.isNone_some]

theorem deltaBaseline_presentMask {frame : SyncFrame} {previous : QuantizedFrameData}
    (h : deltaBaseline core state quantized.archetype quantized.data = some (frame, previous)) :
    previous.presentMask = quantized.data.presentMask := by
  unfold deltaBaseline at h
  grind

theorem BodyWritten.read (hbody : BodyWritten core state quantized definition mask body full)
    (hops : ∀ c ∈ definition.components, c.ops.Inverts) (htags : definition.tags.length ≤ 64)
    (hcomponents : definition.components.length ≤ 63) (hsized : SizedData definition quantized.data)
    (hsized' : ∀ s ∈ deltaBaseline core state quantized.archetype quantized.data, SizedData definition s.2)
    (hbase : Option.Rel (fun s c => c.1 = s.1 ∧ Agrees definition mask c.2 s.2)
      (deltaBaseline core state quantized.archetype quantized.data) baseline)
    (hmeta : MetadataOf quantized.frame wire id quantized.archetype baseline metadata)
    (hdef : client.settings.archetypes[quantized.archetype]? = some definition) :
    ∃ record, ReadsTo client (decodeUpsertRecord metadata) (encodeBody definition body) record ∧
      FrameDecoded definition mask quantized.data (baseline.map Prod.snd) record.authoritative := by
  have hinit : initFrameData definition =
      some { bytes := definition.components.map fun c => List.replicate c.ops.quantizedSize 0 } := by
    simp [initFrameData, Nat.not_lt.mpr htags, Nat.not_lt.mpr hcomponents]
  cases hbody with
  | @full payloads hdelta hwritten =>
    rw [hdelta] at hbase
    cases hbase
    refine ⟨fullRecord definition (frameValue quantized.data) _ payloads, ?_,
      fullRecord_agrees hcomponents hwritten, ?_⟩
    · refine ReadsTo.client_bind fun c hc => ?_
      obtain ⟨wires, rfl⟩ := hc.same
      simp only [hmeta.archetype, hdef, hinit, hmeta.isFullUpsert, Option.isNone_none, if_true, hmeta.frame]
      refine ReadsTo.fullBody hwritten.indices (hwritten.slots hops hsized) ?_ _
      have hlen : payloads.length ≤ definition.components.length := by
        rw [← List.length_map Prod.fst, hwritten.indices, enabledComponents]
        exact (List.length_filter_le _ _).trans (List.length_range).le
      have hslot :
          (if (if hasTagSlot definition = true then some (lowBits definition.tags.length quantized.data.tagMask)
          else none).isSome = true then [0] else []).length ≤ 1 := by
        split <;> simp
      rw [presentSyncSlots, List.length_append, List.length_map]
      omega
    · intro i hnot
      rw [fullRecord_component hcomponents hwritten]
      have hmem : i ∉ enabledComponents definition quantized.data mask := by
        rw [mem_enabledComponents]
        exact fun ⟨hlt, _, hmask⟩ => hnot ⟨hlt, hmask⟩
      rw [if_neg hmem]
      rfl
  | @delta baselineFrame previous payloads hdelta hwritten =>
    rw [hdelta] at hbase
    cases hbase with
    | @some _ c hrel =>
    obtain ⟨rfl, hagrees⟩ := hrel
    have hchanges := hwritten.changes hops hsized (hsized' _ hdelta) hagrees
    refine ⟨deltaRecord definition c.2 (frameValue quantized.data) _ payloads, ?_,
      deltaRecord_agrees (deltaBaseline_presentMask hdelta) hagrees hchanges hwritten, ?_⟩
    · refine ReadsTo.client_bind fun d hd => ?_
      obtain ⟨wires, rfl⟩ := hd.same
      simp only [hmeta.archetype, hdef, hinit, hmeta.isFullUpsert, Option.isNone_some, Bool.false_eq_true, if_false,
        hmeta.previousBaseline, Option.map_some, hmeta.frame, hmeta.baselineFrame, Option.getD_some]
      refine ReadsTo.deltaBody (hwritten.indices.trans (List.filter_filter ..)) ?_ hchanges
      intro m hm
      cases hslot : hasTagSlot definition with
      | false => simp [hslot] at hm
      | true =>
        obtain ⟨-, rfl⟩ : _ ∧ lowBits definition.tags.length quantized.data.tagMask = m := by
          simpa [hslot] using hm
        exact ⟨rfl, lowBits_lt _ _⟩
    · intro i hnot
      rw [deltaRecord_component hchanges hwritten]
      have hmem : i ∉ changedComponents definition previous quantized.data mask := by
        rw [mem_changedComponents, mem_enabledComponents]
        exact fun ⟨⟨hlt, _, hmask⟩, _⟩ => hnot ⟨hlt, hmask⟩
      rw [if_neg hmem]
      rfl

theorem ReadsTo.stream_bind {α : Type} {next : Bits → ReadM R α} {front : Bits} {a : α}
    (h : ∀ bits, front.length ≤ bits.length → ReadsTo client (next bits) front a) :
    ReadsTo client (ReadM.stream >>= next) front a :=
  fun c hc rest => h (front ++ rest) (by simp) c hc rest

theorem length_le_writePendingCues {frame : SyncFrame} : ∀ cues : List WireCue,
    cues.length ≤ (writePendingCues frame cues).length
  | [] => Nat.zero_le _
  | cue :: cues => by
    have hrest := @length_le_writePendingCues frame cues
    simp only [writePendingCues, List.flatMap_cons, List.length_append, List.length_cons] at hrest ⊢
    omega

theorem ReadsTo.andCues {frame : SyncFrame} {cues : List WireCue} {values : List Bytes}
    {record : AuthoritativeUpsertRecord} {bits : Bits}
    (hbody : ReadsTo client (decodeUpsertRecord metadata) bits record)
    (hcues : List.Forall₂ (CueWritten client.settings) cues values) :
    ReadsTo client (do
      let record ← decodeUpsertRecord metadata
      let bits ← ReadM.stream
      let receivedCues ← readCues frame (bits.length + 1)
      return (metadata, { record with receivedCues }))
      (bits ++ writePendingCues frame cues) (metadata, { record with receivedCues := readCueList cues values }) := by
  refine hbody.bind (ReadsTo.stream_bind fun left hleft => ?_)
  have hfuel : cues.length < left.length + 1 := by
    have hcount := @length_le_writePendingCues frame cues
    omega
  exact (ReadsTo.cues hfuel hcues).bind_nil (ReadsTo.pure _)

theorem ReadM.bind_of_ok {α β : Type} {m : ReadM R α} {next : α → ReadM R β} {s s' : ReplicationClient R × Bits}
    {a : α} (h : m s = .ok a s') : (m >>= next) s = next a s' := by
  change EStateM.bind m next s = _
  simp only [EStateM.bind, h]

theorem writeEntityRecord_written {server server' : ServerClientReplicator} {slot q : Nat}
    {serialized : SerializedEntity} (hstate : server.states[slot]? = some state)
    (hq : core.quantizedFrames[q]? = some quantized)
    (hdef : core.settings.archetypes[quantized.archetype]? = some definition)
    (h : writeEntityRecord core server slot q mask = .ok (server', some serialized)) :
    serialized.record.networkId ≠ 0 ∧
      serialized.record.cues = state.pendingCues.map (fun cue => WireCue.mk cue.frame cue.type cue.payload) ∧
      BodyWritten core state quantized definition mask serialized.record.body serialized.fullState := by
  unfold writeEntityRecord at h
  simp only [hstate, hq] at h
  split at h
  case isTrue => simp [Monadic.pure_eq_ok] at h
  case isFalse =>
    simp only [Monadic.bind_eq_ok] at h
    obtain ⟨⟨server₁, networkId⟩, -, h⟩ := h
    split at h
    case isTrue => simp [Monadic.pure_eq_ok] at h
    case isFalse hne =>
      simp only [hdef, Monadic.bind_eq_ok, Monadic.pure_eq_ok] at h
      obtain ⟨⟨server₂, body⟩, hbody, heq⟩ := h
      obtain rfl := Option.some.inj (Prod.mk.inj heq).2
      obtain ⟨-, -, hwritten⟩ := writeBody_spec True (SameSlots.refl core) hbody
      exact ⟨hne, rfl, hwritten⟩

/-- A client that shares the server's settings and admits the record reads back what was written, to the last bit. -/
theorem updateRecord_roundTrip {server server' : ServerClientReplicator} {slot q : Nat} {serialized : SerializedEntity}
    {values : List Bytes}
    (hwrite : writeEntityRecord core server slot q mask = .ok (server', some serialized))
    (hstate : server.states[slot]? = some state) (hquantized : core.quantizedFrames[q]? = some quantized)
    (hdefinition : core.settings.archetypes[quantized.archetype]? = some definition)
    (hinverts : core.settings.Inverts)
    (htags : definition.tags.length ≤ 64) (hcomponents : definition.components.length ≤ 63)
    (hsized : SizedData definition quantized.data)
    (hbaseline : ∀ b ∈ deltaBaseline core state quantized.archetype quantized.data,
      b.1 < 2 ^ 32 ∧ SizedData definition b.2)
    (hcues : List.Forall₂ (fun cue => CueWritten core.settings ⟨cue.frame, cue.type, cue.payload⟩)
      state.pendingCues values)
    (hid : serialized.record.networkId ≤ maxClientLocalWireNetworkId) (harchetype : quantized.archetype < 2 ^ 32)
    (hsettings : client.settings = core.settings) (hprotocol : client.options.protocol = core.options.protocol)
    (hadmits : Admits client quantized.frame serialized.record.networkId quantized.archetype
      (deltaBaseline core state quantized.archetype quantized.data)) (rest : Bits) :
    ∃ client' metadata record,
      readUpdateRecord quantized.frame (client,
        encodeUpdateRecord core.options.protocol.networkEntityIdTier0Bits definition quantized.frame
          serialized.record ++
          rest) = .ok (metadata, record) (client', rest) ∧
      metadata.isFullUpsert = serialized.fullState ∧
      MetadataOf quantized.frame serialized.record.networkId
        (client.store.clientEntityNetworkIdForWire client.clientId serialized.record.networkId).2 quantized.archetype
        (deltaBaseline core state quantized.archetype quantized.data) metadata ∧
      FrameDecoded definition mask quantized.data
        ((deltaBaseline core state quantized.archetype quantized.data).map Prod.snd) record.authoritative ∧
      record.receivedCues =
        List.zipWith (fun cue value => EntityCue.mk cue.frame cue.type value) state.pendingCues values := by
  obtain ⟨hne, hcueEq, hbody⟩ := writeEntityRecord_written hstate hquantized hdefinition hwrite
  have hpos : 0 < serialized.record.networkId := Nat.pos_of_ne_zero hne
  have hself : Option.Rel (fun s c => c.1 = s.1 ∧ Agrees definition mask c.2 s.2)
      (deltaBaseline core state quantized.archetype quantized.data)
      (deltaBaseline core state quantized.archetype quantized.data) := by
    cases deltaBaseline core state quantized.archetype quantized.data with
    | none => exact .none
    | some b => exact .some ⟨rfl, rfl, fun _ _ _ => rfl⟩
  have hlt : quantized.archetype < client.settings.archetypes.length := by
    rw [hsettings]
    exact (List.getElem?_eq_some_iff.mp hdefinition).1
  have hbits := @encodeUpdateRecord_eq core state quantized definition mask serialized.record.body serialized.fullState
    serialized.record.networkId _ core.options.protocol.networkEntityIdTier0Bits serialized.record.cues hbody hself
  obtain ⟨client', metadata, hread, hsame, hmeta⟩ := readUpsertMetadata_spec hpos hid hlt harchetype
    (fun b hb => (hbaseline b hb).1) hadmits
    (encodeBody definition serialized.record.body ++ (writePendingCues quantized.frame serialized.record.cues ++ rest))
  have hdef' : client'.settings.archetypes[quantized.archetype]? = some definition := by
    rw [hsame, hsettings]
    exact hdefinition
  obtain ⟨record, hrecord, hdecoded⟩ := hbody.read (hinverts definition (List.mem_of_getElem? hdefinition)) htags
    hcomponents hsized (fun b hb => (hbaseline b hb).2) hself hmeta hdef'
  have hcues' : List.Forall₂ (CueWritten client'.settings) serialized.record.cues values := by
    rw [hsame, hsettings, hcueEq]
    exact List.forall₂_map_left_iff.mpr hcues
  obtain ⟨client'', -, hrest⟩ := hrecord.andCues hcues' client' (.refl client') rest
  refine ⟨client'', metadata, { record with receivedCues := readCueList serialized.record.cues values }, ?_,
    hmeta.isFullUpsert.trans hbody.isNone, hmeta, hdecoded, ?_⟩
  · have hheader := @reads_networkEntityId serialized.record.networkId
      core.options.protocol.networkEntityIdTier0Bits (hid.trans_lt (by decide))
    rw [hbits, List.append_assoc]
    unfold readUpdateRecord
    rw [ReadM.client_bind, hprotocol, ReadM.field_bind _ hheader]
    simp only [hne, if_false]
    rw [List.append_assoc, List.append_assoc]
    unfold readUpsert
    rw [ReadM.bind_of_ok hread, ← List.append_assoc]
    exact hrest
  · rw [readCueList, hcueEq, List.zipWith_map_left]

end

namespace Sample

theorem ofBits_bytesToBits (x : UInt8) (rest : Bits) :
    UInt8.ofNat (Nat.ofBits fun i : Fin 8 => (bytesToBits [x] ++ rest).getD i false) = x := by
  have hbits : (fun i : Fin 8 => (bytesToBits [x] ++ rest).getD i false) = fun i : Fin 8 => x.toNat.testBit i := by
    funext i
    simp [bytesToBits, unsignedBits, List.getD_eq_getElem?_getD, List.getElem?_append, i.isLt]
  rw [hbits, Nat.ofBits_testBit, Nat.mod_eq_of_lt x.toNat_lt, UInt8.ofNat_toNat]

theorem byteOps_inverts : byteOps.Inverts := by
  intro previous current context bits rest _ hsize hout
  obtain ⟨x, rfl⟩ := List.length_eq_one_iff.mp hsize
  cases hout
  exact ⟨by rw [ofBits_bytesToBits], rfl⟩

theorem settings_inverts : settings.Inverts := by
  intro definition hdefinition c hc
  obtain rfl := List.mem_singleton.mp hdefinition
  have hops : c.ops = byteOps := by
    rcases List.mem_pair.mp hc with rfl | rfl <;> rfl
  rw [hops]
  exact byteOps_inverts

def codecCore : ServerCore where
  options
  settings
  quantizedFrames := [
    { frame := 3, active := true, data := { presentMask := 3, bytes := [[1], [2]] } },
    { frame := 5, active := true, data := { presentMask := 3, bytes := [[1], [7]] } }]

def codecState : ClientEntityState :=
  { baseline := some 0, networkId := 1, networkVersion := 1, hasNetworkId := true
    pendingCues := [⟨9, 60, 0, 0, bytesToBits [6]⟩] }

def codecServer : ServerClientReplicator where
  id := 1
  peer := 1
  states := [codecState]

def codecClient : ReplicationClient Unit where
  options := {}
  settings
  clientId := 1
  registry := ()
  store := {
    entities := [{ archetype := 0, frame := 3, wireNetworkId := 1,
                   history := [⟨3, true, { presentMask := 3, bytes := [[1], [2]] }⟩] }]
    wireNetworkIds := fun w => if w = 1 then ⟨1, some 0⟩ else {} }

def codecSerialized : SerializedEntity where
  quantizedFrame := 1
  record := ⟨1, .delta 3 none [(1, bytesToBits [7])], [⟨9, 0, bytesToBits [6]⟩]⟩
  fullState := false
  payloadBits := 89

theorem codecSized : SizedData archetype { presentMask := 3, bytes := [[1], [7]] } ∧
    SizedData archetype { presentMask := 3, bytes := [[1], [2]] } := by
  constructor <;>
  · intro i c bytes hc hbytes
    match i with
    | 0 =>
      cases hc
      cases hbytes
      rfl
    | 1 =>
      cases hc
      cases hbytes
      rfl
    | i + 2 => simp [archetype] at hc

end Sample

theorem updateRecord_roundTrip_delta :
    ∃ client' metadata record,
      readUpdateRecord 5 (Sample.codecClient,
        encodeUpdateRecord 11 Sample.archetype 5 Sample.codecSerialized.record ++ [true]) =
          .ok (metadata, record) (client', [true]) ∧
      metadata.baselineFrame = 3 ∧ FrameDecoded Sample.archetype 3 { presentMask := 3, bytes := [[1], [7]] }
        (some { presentMask := 3, bytes := [[1], [2]] }) record.authoritative ∧
      record.receivedCues = [⟨9, 0, [6]⟩] := by
  have hcue : CueWritten Sample.settings ⟨9, 0, Sample.bytesToBits [6]⟩ [6] := by
    refine ⟨by decide, by decide, _, rfl, ⟨_, rfl, fun context bits rest hout => ?_⟩, .done _⟩
    cases hout
    exact ⟨by rw [Sample.ofBits_bytesToBits], rfl⟩
  obtain ⟨client', metadata, record, hread, -, hmeta, hdecoded, hcues⟩ :=
    @updateRecord_roundTrip Unit Sample.codecClient Sample.codecCore Sample.codecState _ Sample.archetype 3
      Sample.codecServer Sample.codecServer 0 1 Sample.codecSerialized [[6]] rfl rfl rfl rfl Sample.settings_inverts
      (by decide) (by decide) Sample.codecSized.1
      (fun b hb => by
        cases hb
        exact ⟨by decide, Sample.codecSized.2⟩)
      (.cons hcue .nil) (by decide) (by decide) rfl rfl (.delta rfl rfl rfl (by decide) rfl) [true]
  exact ⟨client', metadata, record, hread, hmeta.baselineFrame, hdecoded, hcues⟩

end AshiatoSync
