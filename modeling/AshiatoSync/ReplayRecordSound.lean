import AshiatoSync.ReplayStartSound
import AshiatoSync.ReplayCueSound
import AshiatoSync.AgreeSound

/-!
# Replay records read back

What a replay writer writes of a slot gives the session an entity with the tags and
the component values that the slot's entity has, whatever the session had under the
replay id before.
-/

namespace AshiatoSync

open BitCodec LocalRegistry ReplayRegistry ReplayWorld

/-! ## Quantized entities -/

theorem foldl_twoPow_get {α : Type} (p : α → Bool) :
    ∀ (l : List α) (n : Nat) (mask : Mask) (j : Nat), n + l.length ≤ 64 →
    ((l.zipIdx n).foldl (fun (mask : Mask) (a, i) => if p a then mask ||| BitVec.twoPow 64 i else mask)
    mask).getLsbD j =
      (mask.getLsbD j || (decide (n ≤ j) && (l[j - n]?).any p))
  | [], n, mask, j, _ => by simp
  | a :: l, n, mask, j, hlen => by
    simp only [List.length_cons] at hlen
    rw [List.zipIdx_cons, List.foldl_cons, foldl_twoPow_get p l (n + 1) _ j (by omega)]
    by_cases hj : j = n
    · subst hj
      have hnot : ¬j + 1 ≤ j := by omega
      cases hp : p a <;> simp [hp, hnot, show j < 64 by omega]
    · have hhead : (if p a then mask ||| BitVec.twoPow 64 n else mask).getLsbD j = mask.getLsbD j := by
        split <;> simp [Ne.symm hj]
      simp only [hhead]
      by_cases hlt : n + 1 ≤ j
      · rw [show j - n = j - (n + 1) + 1 by omega, List.getElem?_cons_succ]
        simp [hlt, show n ≤ j by omega]
      · have hle : ¬n ≤ j := by omega
        simp [hlt, hle]

/-- Frame data that is what `quantize_replay_entity` gives for an entity. -/
structure QuantizesEntity (registry : Registry) (archetype : SyncArchetype) (entity : Entity)
    (data : QuantizedFrameData) : Prop where
  tags : ∀ i t, archetype.tags[i]? = some t → data.tagMask.getLsbD i = registry.hasTag entity t.tag
  present : ∀ i c, archetype.components[i]? = some c →
    data.presentMask.getLsbD i = (registry.get entity c.component).isSome
  components : ∀ i c, archetype.components[i]? = some c →
    frameComponentData data i = (registry.get entity c.component).map c.ops.quantize

section

variable {registry : Registry} {archetype : SyncArchetype} {entity : Entity} {data : QuantizedFrameData}

theorem quantizeReplayComponents_tagMask : ∀ (cs : List (ComponentReplication × Nat)) (data : QuantizedFrameData),
    (cs.foldl (quantizeReplayComponent registry entity) data).tagMask = data.tagMask
  | [], _ => rfl
  | c :: cs, data => by
    rw [List.foldl_cons, quantizeReplayComponents_tagMask cs]
    unfold quantizeReplayComponent
    split <;> rfl

theorem quantizeReplayComponents_keep :
    ∀ (cs : List ComponentReplication) (n : Nat) (data : QuantizedFrameData) (j : Nat), j < n →
    ((cs.zipIdx n).foldl (quantizeReplayComponent registry entity) data).presentMask.getLsbD j =
    data.presentMask.getLsbD j ∧
      ((cs.zipIdx n).foldl (quantizeReplayComponent registry entity) data).bytes[j]? = data.bytes[j]?
  | [], _, _, _, _ => ⟨rfl, rfl⟩
  | c :: cs, n, data, j, hj => by
    rw [List.zipIdx_cons, List.foldl_cons]
    obtain ⟨hmask, hget⟩ :=
      quantizeReplayComponents_keep cs (n + 1) (quantizeReplayComponent registry entity data (c, n)) j (by omega)
    rw [hmask, hget]
    unfold quantizeReplayComponent
    split
    · exact ⟨rfl, rfl⟩
    · simp [writeFrameComponent, show n ≠ j by omega]

variable (registry entity) in
theorem quantizeReplayComponents_get : ∀ (cs : List ComponentReplication) (n : Nat) (data : QuantizedFrameData),
    n + cs.length ≤ 64 → data.bytes.length = n + cs.length → ∀ (i : Nat) (c : ComponentReplication),
    cs[i]? = some c →
    data.presentMask.getLsbD (n + i) = false →
    ((cs.zipIdx n).foldl (quantizeReplayComponent registry entity) data).presentMask.getLsbD (n + i) =
        (registry.get entity c.component).isSome ∧
      ∀ value, registry.get entity c.component = some value →
        ((cs.zipIdx n).foldl (quantizeReplayComponent registry entity) data).bytes[n + i]? = some (c.ops.quantize value)
  | [], _, _, _, _, _, _, hc, _ => by cases hc
  | first :: cs, n, data, hlen, hbytes, i, c, hc, habsent => by
    simp only [List.length_cons] at hlen hbytes
    rw [List.zipIdx_cons, List.foldl_cons]
    cases i with
    | zero =>
      obtain rfl := Option.some.inj hc
      obtain ⟨hmask, hget⟩ := @quantizeReplayComponents_keep registry entity cs (n + 1)
        (quantizeReplayComponent registry entity data (first, n)) n (Nat.lt_succ_self n)
      simp only [Nat.add_zero] at habsent ⊢
      rw [hmask, hget]
      unfold quantizeReplayComponent
      cases hvalue : registry.get entity first.component with
      | none =>
        refine ⟨?_, fun value h => by cases h⟩
        simpa using habsent
      | some value =>
        refine ⟨?_, fun value' h => ?_⟩
        · simp [writeFrameComponent, show n < 64 by omega]
        · obtain rfl := Option.some.inj h
          simp [writeFrameComponent, show n < data.bytes.length by omega]
    | succ i =>
      have hlater :=
        quantizeReplayComponents_get cs (n + 1) (quantizeReplayComponent registry entity data (first, n)) (by omega) (by
        unfold quantizeReplayComponent
        split
        · omega
        · simp only [writeFrameComponent, List.length_set]
          omega) i c hc (by
        unfold quantizeReplayComponent
        split
        · rwa [Nat.add_assoc, Nat.add_comm 1 i]
        · simp only [writeFrameComponent, BitVec.getLsbD_or]
          rw [Nat.add_assoc, Nat.add_comm 1 i, habsent]
          simp)
      rwa [Nat.add_assoc, Nat.add_comm 1 i] at hlater

theorem quantizeReplayEntity_spec (h : quantizeReplayEntity registry archetype entity = some data) :
    QuantizesEntity registry archetype entity data := by
  unfold quantizeReplayEntity at h
  simp only [Option.bind_eq_bind, Option.bind_eq_some_iff, Option.ite_none_left_eq_some] at h
  obtain ⟨empty, hempty, -, h⟩ := h
  obtain rfl := Option.some.inj h
  unfold initFrameData at hempty
  split at hempty
  · cases hempty
  rename_i hsmall
  simp only [gt_iff_lt, Bool.or_eq_true, decide_eq_true_eq, not_or, Nat.not_lt] at hsmall
  obtain rfl := Option.some.inj hempty
  generalize hdata : (if hasTagSlot archetype then ({
      bytes := archetype.components.map fun c => List.replicate c.ops.quantizedSize 0
      tagMask := replayTagMask registry archetype entity } : QuantizedFrameData)
    else { bytes := archetype.components.map fun c => List.replicate c.ops.quantizedSize 0 }) = data
  have hbytes : data.bytes.length = 0 + archetype.components.length := by
    rw [← hdata]
    split <;> simp
  have hnone : data.presentMask = 0 := by
    rw [← hdata]
    split <;> rfl
  have hget : ∀ i c, archetype.components[i]? = some c → _ := fun i c hc =>
    quantizeReplayComponents_get registry entity archetype.components 0 data (by omega) hbytes i c hc
      (by rw [hnone]; simp)
  simp only [Nat.zero_add] at hget
  refine ⟨fun i t ht => ?_, fun i c hc => (hget i c hc).1, fun i c hc => ?_⟩
  · rw [quantizeReplayComponents_tagMask, ← hdata]
    have hslot : hasTagSlot archetype = true := by
      unfold hasTagSlot
      cases htags : archetype.tags with
      | nil => rw [htags] at ht; cases ht
      | cons _ _ => rfl
    rw [if_pos hslot]
    show (replayTagMask registry archetype entity).getLsbD i = _
    unfold replayTagMask
    rw [foldl_twoPow_get (fun t : SyncTagReplication => registry.hasTag entity t.tag) _ 0 _ i (by omega)]
    simp [ht]
  · obtain ⟨hmask, hvalue⟩ := hget i c hc
    unfold frameComponentData frameHasComponent
    rw [hmask]
    cases hin : registry.get entity c.component with
    | none => rfl
    | some value =>
      rw [Option.isSome_some, if_pos rfl, Option.map_some]
      exact hvalue value hin

end

/-! ## Serializers -/

theorem RecordWriter.outputs_bitsWith (networkIdFor : Entity → Nat) :
    ∀ writer : RecordWriter, writer.Outputs (writer.bitsWith networkIdFor)
  | .done bits => .done bits
  | .lookup entity next => .lookup (networkIdFor entity) (outputs_bitsWith networkIdFor (next (networkIdFor entity)))

theorem RecordReader.Yields.replayed {entities : List (Nat × Entity)} {references : Bool} {value : Bytes}
    {rest : Bits} :
    ∀ {reader : RecordReader}, reader.Yields value rest → replayDeserialized entities references reader = some value
  | .fail, h => h.elim
  | .done _ _, h => congrArg some h.1
  | .networkIdForWire _ _, h => (h _).replayed
  | .localEntity _ _, h => (h _).replayed

structure SyncSettings.Replayable (R : Type) [ReplayRegistry R] (settings : SyncSettings) : Prop where
  faithful : settings.Faithful
  pushes : settings.PushesAll
  short : ∀ definition ∈ settings.archetypes, ∀ c ∈ definition.components, ∀ value context bits,
    (c.ops.serialize none (c.ops.quantize value) context).Outputs bits → bits.length < 2 ^ 16
  tags : ∀ definition ∈ settings.archetypes, ∀ t ∈ definition.tags, ∀ (r : R) (e : Entity), alive r e =
    true → (addTag r e t.tag).isSome

/-- What the registry's operations leave of `Replicated` on their entity, and that a server reads what the session
wrote.  `get` is of synchronized components, of which `Replicated` is none. -/
class LawfulReplay (R : Type) [ReplayRegistry R] : Prop where
  view_get (r : R) : (view r).get = get r
  view_hasTag (r : R) : (view r).hasTag = hasTag r
  replicated_setReplicated (r : R) (e : Entity) (a : SyncArchetypeId) :
    (view (setReplicated r e a)).replicated e = some a
  get_setReplicated (r : R) (e : Entity) (a : SyncArchetypeId) (c : ComponentId) :
    get (setReplicated r e a) e c = get r e c
  replicated_set (r : R) (e : Entity) (c : ComponentId) (v : Bytes) :
    (view (set r e c v)).replicated e = (view r).replicated e
  replicated_remove (r : R) (e : Entity) (c : ComponentId) : (view (remove r e c)).replicated e = (view r).replicated e
  replicated_addTag (r r' : R) (e : Entity) (t : ComponentId) :
    addTag r e t = some r' → (view r').replicated e = (view r).replicated e
  replicated_removeTag (r : R) (e : Entity) (t : ComponentId) :
    (view (removeTag r e t)).replicated e = (view r).replicated e

/-! ## The components of a record -/

theorem reads_recordComponent {i : Nat} {payload : Bits} (hi : i < 2 ^ 16) (hlen : payload.length < 2 ^ 16) :
    Reads readRecordComponent (unsignedBits i 16 ++ (unsignedBits (min payload.length (2 ^ 16 - 1)) 16 ++ payload))
      (i, payload) := by
  have hmin : min payload.length (2 ^ 16 - 1) = payload.length := by omega
  rw [hmin]
  exact (reads_bits hi).bind ((reads_bits hlen).bind ((reads_bufferBits payload).bind_nil (.pure _)))

section

variable {R : Type} [ReplayRegistry R] [LawfulReplay R] {settings : SyncSettings} {registry : Registry}
  {core : ServerCore}
  {archetype : SyncArchetype} {source entity : Entity} {data : QuantizedFrameData} {entities : List (Nat × Entity)}

/-- The components of `cs` have the source's values on `entity`; the rest of it is as before. -/
structure Filled (registry : Registry) (source : Entity) (cs : List (ComponentReplication × Nat)) (entity : Entity)
    (r r' : R) : Prop where
  others : ∀ component, (∀ p ∈ cs, p.1.component ≠ component) →
    get r' entity component = get r entity component
  values : ∀ p ∈ cs, p.1.ops.quantizedSize ≠ 0 → ∀ value, registry.get source p.1.component = some value →
    get r' entity p.1.component = p.1.ops.pushToRegistry (p.1.ops.quantize value)
  hasTag : ∀ t, hasTag r' entity t = hasTag r entity t
  replicated : (view r').replicated entity = (view r).replicated entity

variable (core entity entities) in
theorem applyRecordComponents_filled (hset : settings.Replayable R) (hdef : archetype ∈ settings.archetypes)
    (hdata : QuantizesEntity registry archetype source data) (rest : Bits) :
    ∀ (cs : List (ComponentReplication × Nat)) (r : R), (∀ p ∈ cs, archetype.components[p.2]? = some p.1 ∧
    p.2 < 2 ^ 16) →
    (cs.map fun p => p.1.component).Nodup →
    ∃ r', applyRecordComponents entity core.frame archetype entities
      (cs.filterMap (replayComponentRecord core data)).length r
        ((cs.filterMap (replayComponentRecord core data)).flatten ++ rest) = (r', some rest) ∧
          Filled registry source cs entity r r'
  | [], r, _, _ => ⟨r, rfl, fun _ _ => rfl, fun _ h => (by cases h), fun _ => rfl, rfl⟩
  | (c, i) :: cs, r, hcs, hnodup => by
    obtain ⟨hc, hi⟩ := hcs (c, i) List.mem_cons_self
    obtain ⟨hnotin, hnodup⟩ := List.nodup_cons.mp hnodup
    have hcomponents := hdata.components i c hc
    have htail := fun r => applyRecordComponents_filled hset hdef hdata rest cs r
      (fun p hp => hcs p (List.mem_cons_of_mem _ hp)) hnodup
    have hne : ∀ p ∈ cs, p.1.component ≠ c.component := fun p hp heq =>
      hnotin (List.mem_map.mpr ⟨p, hp, heq⟩)
    cases hvalue : registry.get source c.component with
    | none =>
      rw [hvalue, Option.map_none] at hcomponents
      have hrecord : replayComponentRecord core data (c, i) = none := by simp [replayComponentRecord, hcomponents]
      rw [List.filterMap_cons_none hrecord]
      obtain ⟨r', heq, hfilled⟩ := htail r
      refine ⟨r', heq, fun component h => hfilled.others component fun p hp => h p (List.mem_cons_of_mem _ hp),
        fun p hp hsize value hv => ?_,
        hfilled.hasTag, hfilled.replicated⟩
      rcases List.mem_cons.mp hp with rfl | hp
      · rw [hvalue] at hv
        cases hv
      · exact hfilled.values p hp hsize value hv
    | some value =>
      rw [hvalue, Option.map_some] at hcomponents
      have hin : c ∈ archetype.components := List.mem_of_getElem? hc
      obtain ⟨payload, hpayload⟩ : ∃ payload, payload = replaySerialized core c.ops.referencesEntities
        (c.ops.serialize none (c.ops.quantize value) { currentFrame := core.frame, previousFrame := 0 }) := ⟨_, rfl⟩
      have hrecord : replayComponentRecord core data (c, i) =
          some (unsignedBits i 16 ++ (unsignedBits (min payload.length (2 ^ 16 - 1)) 16 ++ payload)) := by
        simp [replayComponentRecord, hcomponents, hpayload]
      have hout :
          (c.ops.serialize none (c.ops.quantize value) { currentFrame := core.frame, previousFrame := 0 }).Outputs
        payload :=
        hpayload ▸ RecordWriter.outputs_bitsWith _ _
      have hyields :=
        hset.faithful.inverts archetype hdef c hin none (c.ops.quantize value) _ payload [] (fun _ h => by cases h)
        (hset.faithful.sizes archetype hdef c hin value) hout
      rw [List.append_nil] at hyields
      have hread := reads_recordComponent hi (hset.short archetype hdef c hin value _ payload hout)
      rw [List.filterMap_cons_some hrecord, List.length_cons, List.flatten_cons, List.append_assoc]
      unfold applyRecordComponents
      rw [hread]
      simp only [hc]
      by_cases hsize : c.ops.quantizedSize = 0
      · obtain ⟨r', heq, hfilled⟩ := htail r
        refine ⟨r', by rw [if_pos hsize, heq],
          fun component h => hfilled.others component fun p hp => h p (List.mem_cons_of_mem _ hp),
          fun p hp hsize' v hv => ?_, hfilled.hasTag, hfilled.replicated⟩
        rcases List.mem_cons.mp hp with rfl | hp
        · exact absurd hsize hsize'
        · exact hfilled.values p hp hsize' v hv
      · obtain ⟨pushed, hpushed⟩ :=
          Option.isSome_iff_exists.mp (hset.pushes archetype hdef c hin (c.ops.quantize value))
        obtain ⟨r', heq, hfilled⟩ := htail (set r entity c.component pushed)
        refine ⟨r', ?_, fun component h => ?_, fun p hp hsize' v hv => ?_, fun t => ?_, ?_⟩
        · rw [if_neg hsize, hyields.replayed, Option.bind_some, hpushed]
          exact heq
        · rw [hfilled.others component fun p hp => h p (List.mem_cons_of_mem _ hp), get_set, if_neg]
          exact fun hcomponent => h (c, i) List.mem_cons_self hcomponent.2.symm
        · rcases List.mem_cons.mp hp with rfl | hp
          · rw [hvalue] at hv
            obtain rfl := Option.some.inj hv
            rw [hfilled.others c.component hne, get_set, if_pos ⟨rfl, rfl⟩, hpushed]
          · exact hfilled.values p hp hsize' v hv
        · rw [hfilled.hasTag, hasTag_set]
        · rw [hfilled.replicated, LawfulReplay.replicated_set]

structure Cleared (presentMask : Mask) (cs : List (ComponentReplication × Nat)) (entity : Entity) (r r' : R) :
    Prop where
  others : ∀ component, (∀ p ∈ cs, p.1.component ≠ component) →
    get r' entity component = get r entity component
  values : ∀ p ∈ cs, get r' entity p.1.component = if presentMask.getLsbD p.2
    then get r entity p.1.component else none
  hasTag : ∀ t, hasTag r' entity t = hasTag r entity t
  replicated : (view r').replicated entity = (view r).replicated entity

variable (entity) in
theorem removeAbsent_cleared (presentMask : Mask) : ∀ (cs : List (ComponentReplication × Nat)) (r : R),
    (cs.map fun p => p.1.component).Nodup →
    Cleared presentMask cs entity r (cs.foldl (fun registry (c, i) =>
      if presentMask.getLsbD i then registry else remove registry entity c.component) r)
  | [], r, _ => ⟨fun _ _ => rfl, fun _ h => (by cases h), fun _ => rfl, rfl⟩
  | (c, i) :: cs, r, hnodup => by
    obtain ⟨hnotin, hnodup⟩ := List.nodup_cons.mp hnodup
    have hne : ∀ p ∈ cs, p.1.component ≠ c.component := fun p hp heq => hnotin (List.mem_map.mpr ⟨p, hp, heq⟩)
    rw [List.foldl_cons]
    have htail := fun r => removeAbsent_cleared presentMask cs r hnodup
    by_cases hbit : presentMask.getLsbD i = true
    · have hcleared := htail r
      simp only [hbit, if_true]
      refine ⟨fun component h => hcleared.others component fun p hp => h p (List.mem_cons_of_mem _ hp),
        fun p hp => ?_,
        hcleared.hasTag, hcleared.replicated⟩
      rcases List.mem_cons.mp hp with rfl | hp
      · rw [hcleared.others c.component hne, if_pos hbit]
      · exact hcleared.values p hp
    · have hcleared := htail (remove r entity c.component)
      simp only [hbit, Bool.false_eq_true, if_false]
      refine ⟨fun component h => ?_, fun p hp => ?_, fun t => ?_, ?_⟩
      · rw [hcleared.others component fun p hp => h p (List.mem_cons_of_mem _ hp), get_remove, if_neg]
        exact fun hcomponent => h (c, i) List.mem_cons_self hcomponent.2.symm
      · rcases List.mem_cons.mp hp with rfl | hp
        · rw [hcleared.others c.component hne, get_remove, if_pos ⟨rfl, rfl⟩, if_neg hbit]
        · have hget : get (remove r entity c.component) entity p.1.component = get r entity p.1.component := by
            rw [get_remove, if_neg fun hcomponent => hne p hp hcomponent.2]
          rw [hcleared.values p hp, hget]
      · rw [hcleared.hasTag, hasTag_remove]
      · rw [hcleared.replicated, LawfulReplay.replicated_remove]

/-! ## The tags of a record -/

theorem applyTags_hasTag (want : ComponentId → Bool) (tagMask : Mask) :
    ∀ (tags : List SyncTagReplication) (i : Nat) (r : R),
    alive r entity = true → (∀ t ∈ tags, ∀ r : R, alive r entity = true → (addTag r entity t.tag).isSome) →
    (∀ j t, tags[j]? = some t → tagMask.getLsbD (i + j) = want t.tag) →
    (∀ t ∈ tags, hasTag (applyTags entity tagMask tags i r) entity t.tag = want t.tag) ∧
      (∀ t, (∀ t' ∈ tags, t'.tag ≠ t) → hasTag (applyTags entity tagMask tags i r) entity t =
        hasTag r entity t) ∧
      (view (applyTags entity tagMask tags i r)).replicated entity = (view r).replicated entity
  | [], _, _, _, _, _ => ⟨fun _ h => (by cases h), fun _ _ => rfl, rfl⟩
  | first :: tags, i, r, halive, hadd, hwant => by
    have hfirst : tagMask.getLsbD i = want first.tag := hwant 0 first rfl
    obtain ⟨r₁, hr₁, halive₁, htag, hother, hreplicated⟩ :
        ∃ r₁ : R, applyTags entity tagMask (first :: tags) i r =
        applyTags entity tagMask tags (i + 1) r₁ ∧ alive r₁ entity = true ∧ hasTag r₁ entity first.tag =
          want first.tag ∧
        (∀ t, first.tag ≠ t → hasTag r₁ entity t = hasTag r entity t) ∧ (view r₁).replicated entity =
          (view r).replicated entity := by
      rw [applyTags, hfirst]
      cases hw : want first.tag with
      | true =>
        obtain ⟨r₁, hadded⟩ := Option.isSome_iff_exists.mp (hadd first List.mem_cons_self r halive)
        refine ⟨r₁, by rw [if_pos rfl, hadded, Option.getD_some],
          (alive_addTag r r₁ entity entity first.tag hadded).trans halive, ?_,
          fun t ht => ?_, LawfulReplay.replicated_addTag r r₁ entity first.tag hadded⟩
        · rw [hasTag_addTag r r₁ entity entity first.tag first.tag hadded]
          simp
        · rw [hasTag_addTag r r₁ entity entity first.tag t hadded]
          simp [Ne.symm ht]
      | false =>
        refine ⟨removeTag r entity first.tag, by rw [if_neg Bool.false_ne_true],
          (alive_removeTag r entity entity first.tag).trans halive,
          ?_, fun t ht => ?_, LawfulReplay.replicated_removeTag r entity first.tag⟩
        · rw [hasTag_removeTag]
          simp
        · rw [hasTag_removeTag]
          simp [Ne.symm ht]
    obtain ⟨hin, hout, hrep⟩ := applyTags_hasTag want tagMask tags (i + 1) r₁ halive₁
      (fun t ht => hadd t (List.mem_cons_of_mem _ ht)) (fun j t ht => by
        rw [Nat.add_assoc, Nat.add_comm 1 j]
        exact hwant (j + 1) t ht)
    rw [hr₁]
    refine ⟨fun t ht => ?_, fun t ht => ?_, hrep.trans hreplicated⟩
    · by_cases hagain : ∃ t' ∈ tags, t'.tag = t.tag
      · obtain ⟨t', ht', heq⟩ := hagain
        rw [← heq]
        exact hin t' ht'
      · simp only [not_exists, not_and] at hagain
        rw [hout t.tag hagain]
        rcases List.mem_cons.mp ht with rfl | ht
        · exact htag
        · exact absurd rfl (hagain t ht)
    · rw [hout t fun t' ht' => ht t' (List.mem_cons_of_mem _ ht')]
      exact hother t (ht first List.mem_cons_self)

omit [LawfulReplay R] in
theorem get_applyTags (tagMask : Mask) (component : ComponentId) :
    ∀ (tags : List SyncTagReplication) (i : Nat) (r : R),
    get (applyTags entity tagMask tags i r) entity component = get r entity component
  | [], _, _ => rfl
  | first :: tags, i, r => by
    rw [applyTags, get_applyTags tagMask component tags]
    split
    · cases hadded : addTag r entity first.tag with
      | none => rfl
      | some r' => exact get_addTag r r' entity entity first.tag component hadded
    · exact get_removeTag r entity entity first.tag component

end

/-! ## Copies -/

structure CopyOf {R : Type} [ReplayRegistry R] (settings : SyncSettings) (registry : Registry)
    (replicated : ReplicatedSlot) (r : R) (copy : Entity) : Prop where
  archetype : (view r).replicated copy = some replicated.archetype
  tags : ∀ definition, settings.archetypes[replicated.archetype]? = some definition → ∀ t ∈ definition.tags,
    hasTag r copy t.tag = registry.hasTag replicated.entity t.tag
  components : ∀ definition, settings.archetypes[replicated.archetype]? = some definition →
    ∀ c ∈ definition.components,
    c.ops.quantizedSize ≠ 0 → get r copy c.component =
      (registry.get replicated.entity c.component).bind fun value => c.ops.pushToRegistry (c.ops.quantize value)

/-- The component of the session's entity under the id. -/
def ReplayWorld.held {R : Type} [ReplayRegistry R] (world : ReplayWorld R) (replayId : Nat) (component : ComponentId) :
    Option Bytes :=
  (world.entities.lookup replayId).bind fun copy => get world.registry copy component

structure Unmoved {R : Type} [ReplayRegistry R] (world world' : ReplayWorld R) (replayId : Nat) : Prop where
  lookup : world'.entities.lookup replayId = world.entities.lookup replayId
  same : ∀ copy, world.entities.lookup replayId = some copy →
    (view world.registry).SameOn (view world'.registry) copy

section

variable {R : Type} [ReplayRegistry R] {settings : SyncSettings} {registry : Registry} {core : ServerCore}
  {replicated : ReplicatedSlot}
  {before r r' : R} {world world' world'' : ReplayWorld R} {copy : Entity} {replayId slot : Nat} {ids : List Nat}

theorem CopyOf.of_sameOn [LawfulReplay R] (h : CopyOf settings registry replicated r copy)
    (hsame : (view r).SameOn (view r') copy) :
    CopyOf settings registry replicated r' copy := by
  have hget := hsame.get
  have htag := hsame.hasTag
  rw [LawfulReplay.view_get, LawfulReplay.view_get] at hget
  rw [LawfulReplay.view_hasTag, LawfulReplay.view_hasTag] at htag
  refine ⟨hsame.replicated.trans h.archetype, fun definition hdef t ht => ?_, fun definition hdef c hc hsize => ?_⟩
  · rw [htag]
    exact h.tags definition hdef t ht
  · rw [hget]
    exact h.components definition hdef c hc hsize

theorem Unmoved.refl (world : ReplayWorld R) (replayId : Nat) : Unmoved world world replayId :=
  ⟨rfl, fun _ _ => .refl _ _⟩

theorem Unmoved.trans (h : Unmoved world world' replayId) (h' : Unmoved world' world'' replayId) :
    Unmoved world world'' replayId :=
  ⟨h'.lookup.trans h.lookup, fun copy hcopy => (h.same copy hcopy).trans (h'.same copy (h.lookup.trans hcopy))⟩

theorem ReplayWorld.held_of_lookup (hcopy : world.entities.lookup replayId = some copy) (component : ComponentId) :
    world.held replayId component = get world.registry copy component := by
  rw [held, hcopy, Option.bind_some]

theorem ReplayWorld.held_of_none (hnone : world.entities.lookup replayId = none) (component : ComponentId) :
    world.held replayId component = none := by
  rw [held, hnone, Option.bind_none]

theorem Unmoved.held [LawfulReplay R] (h : Unmoved world world' replayId) (component : ComponentId) :
    world'.held replayId component = world.held replayId component := by
  cases hcopy : world.entities.lookup replayId with
  | none =>
    rw [held_of_none hcopy, held_of_none (h.lookup.trans hcopy)]
  | some copy =>
    have hget := (h.same copy hcopy).get
    rw [LawfulReplay.view_get, LawfulReplay.view_get] at hget
    rw [held_of_lookup hcopy, held_of_lookup (h.lookup.trans hcopy), hget]

theorem lookup_filter_ne {entities : List (Nat × Entity)} {i : Nat} :
    (entities.filter fun entry => entry.1 != replayId).lookup i = if i = replayId then none else entities.lookup i := by
  induction entities with
  | nil => simp
  | cons entry entities ih =>
    obtain ⟨j, e⟩ := entry
    by_cases hj : j = replayId
    · subst hj
      simp only [List.filter_cons, bne_self_eq_false, Bool.false_eq_true, if_false, ih, List.lookup_cons]
      by_cases hi : i = j
      · simp [hi]
      · simp [hi, beq_eq_false_iff_ne.mpr hi]
    · have hkeep : ((j, e) :: entities).filter (fun entry => entry.1 != replayId) =
          (j, e) :: entities.filter fun entry => entry.1 != replayId := List.filter_cons_of_pos (by simpa using hj)
      rw [hkeep, List.lookup_cons, List.lookup_cons, ih]
      by_cases hi : i = j
      · simp [hi, hj]
      · simp [beq_eq_false_iff_ne.mpr hi]

theorem ReplayWorld.OwnsNew.lookup_ne (h : OwnsNew before world) {i j : Nat} {e : Entity}
    (hi : world.entities.lookup i = some e) (hj : world.entities.lookup j = some e) : i = j :=
  congrArg Prod.fst (List.inj_on_of_nodup_map h.distinct (mem_of_lookup hi) (mem_of_lookup hj) rfl)

theorem ReplayWorld.OwnsNew.lookup_alive (h : OwnsNew before world) {i : Nat} {e : Entity}
    (hi : world.entities.lookup i = some e) :
    alive world.registry e = true :=
  (h.living e).mpr (.inr (List.mem_map_of_mem (mem_of_lookup hi)))

/-! ## Records -/

theorem ReplayWorld.OwnsNew.destroyed (h : OwnsNew before world) (replayId : Nat) :
    (world.destroyReplayEntity replayId).entities.lookup replayId = none ∧
      ∀ i, i ≠ replayId → Unmoved world (world.destroyReplayEntity replayId) i := by
  unfold ReplayWorld.destroyReplayEntity
  cases hfound : world.entities.lookup replayId with
  | none => exact ⟨hfound, fun i _ => .refl world i⟩
  | some entity =>
    refine ⟨?_, fun i hi => ⟨?_, fun copy hcopy => ?_⟩⟩
    · dsimp only
      rw [lookup_filter_ne, if_pos rfl]
    · dsimp only
      rw [lookup_filter_ne, if_neg hi]
    · exact destroy_on world.registry entity copy fun heq => hi (h.lookup_ne hcopy (heq ▸ hfound))

theorem ReplayWorld.OwnsNew.entityFor (h : OwnsNew before world) (hid : replayId ≠ 0) :
    ∃ world' entity, world.entityForReplayId replayId = some (world', entity) ∧
    world'.entities.lookup replayId = some entity ∧
      world'.server = world.server ∧
      (∀ component, world'.held replayId component = world.held replayId component) ∧
      ∀ i, i ≠ replayId → Unmoved world world' i := by
  unfold ReplayWorld.entityForReplayId
  rw [if_neg hid]
  cases hfound : world.entities.lookup replayId with
  | some entity =>
    rw [Option.filter_some, if_pos (h.lookup_alive hfound)]
    exact ⟨world, entity, rfl, hfound, rfl, fun _ => rfl, fun i _ => .refl world i⟩
  | none =>
    rw [Option.filter_none]
    refine ⟨_, _, rfl, ?_, rfl, fun component => ?_, fun i hi => ⟨?_, fun copy hcopy => ?_⟩⟩
    · simp
    · rw [held_of_none hfound, held_of_lookup List.lookup_cons_self]
      exact (get_create world.registry _ component).trans (if_pos rfl)
    · have hne : (i == replayId) = false := beq_eq_false_iff_ne.mpr hi
      simp only [List.lookup_cons, hne]
      rw [lookup_filter_ne, if_neg hi]
    · refine create_on world.registry copy fun heq => ?_
      have hfresh := create_fresh world.registry
      rw [← heq, h.lookup_alive hcopy] at hfresh
      cases hfresh

theorem reads_destroyHeader (hslot : slot + 1 < 2 ^ 32) :
    Reads readReplayRecordHeader (replayRecordHeader true slot) (.destroy (slot + 1)) := by
  have hid : replayIdForSlot slot = slot + 1 := Nat.mod_eq_of_lt hslot
  unfold replayRecordHeader
  rw [hid]
  exact (reads_bit true).bind ((reads_bits hslot).bind_nil (.pure _))

theorem reads_updateHeader {archetype : SyncArchetypeId} {tagMask presentMask : Mask} (hslot : slot + 1 < 2 ^ 32)
    (harchetype : archetype < 2 ^ 32) :
    Reads readReplayRecordHeader (replayRecordHeader false slot ++
      (unsignedBits archetype 32 ++ (unsignedBits tagMask.toNat 64 ++ unsignedBits presentMask.toNat 64)))
      (.update (slot + 1) archetype tagMask presentMask) := by
  have hid : replayIdForSlot slot = slot + 1 := Nat.mod_eq_of_lt hslot
  unfold replayRecordHeader
  rw [hid]
  refine (reads_bit false).bind ((reads_bits hslot).bind ((reads_bits harchetype).bind ((reads_bits tagMask.isLt).bind
    ((reads_bits presentMask.isLt).bind_nil ?_))))
  rw [BitVec.ofNat_toNat, BitVec.ofNat_toNat, BitVec.setWidth_eq, BitVec.setWidth_eq]
  exact .pure _

variable (ids) in
theorem applyRecord_destroy (h : OwnsNew before world) (frame : SyncFrame) (hslot : slot + 1 < 2 ^ 32) (rest : Bits) :
    ∃ world', world.applyRecord frame ids (replayRecordHeader true slot ++ rest) = (world', ids, some rest) ∧
    OwnsNew before world' ∧
      world'.server = world.server ∧ world'.entities.lookup (slot + 1) = none ∧ ∀ i, i ≠ slot + 1 →
      Unmoved world world' i := by
  obtain ⟨hnone, hothers⟩ := h.destroyed (slot + 1)
  refine ⟨_, ?_, (h.destroyReplayEntity (slot + 1)).1, (destroyReplayEntity_same world (slot + 1)).1,
    hnone, hothers⟩
  unfold ReplayWorld.applyRecord
  rw [reads_destroyHeader hslot rest]

variable (ids) in
theorem applyRecord_update [LawfulReplay R] (h : OwnsNew before world) (hset : settings.Replayable R)
    (hsettings : world.server.core.settings = settings) {archetype : SyncArchetype} {data : QuantizedFrameData}
    (hdef : settings.archetypes[replicated.archetype]? = some archetype)
    (hdata : quantizeReplayEntity registry archetype replicated.entity = some data) (hslot : slot + 1 < 2 ^ 32)
    (rest : Bits) :
    ∃ world', world.applyRecord core.frame ids
        (replayRecordHeader false slot ++ replayUpdateBody core replicated.archetype archetype data ++ rest) =
          (world', (slot + 1) :: ids, some rest) ∧ OwnsNew before world' ∧ world'.server = world.server ∧
      (∃ copy, world'.entities.lookup (slot + 1) = some copy ∧
      CopyOf settings registry replicated world'.registry copy) ∧
      (∀ component, (∀ c ∈ archetype.components, c.component ≠ component) →
        world'.held (slot + 1) component = world.held (slot + 1) component) ∧
      ∀ i, i ≠ slot + 1 → Unmoved world world' i := by
  have hspec := quantizeReplayEntity_spec hdata
  obtain ⟨hlt, hget⟩ := List.getElem?_eq_some_iff.mp hdef
  have hin : archetype ∈ settings.archetypes := List.mem_of_getElem? hdef
  have hsmall : archetype.components.length ≤ 63 := by
    unfold quantizeReplayEntity initFrameData at hdata
    split at hdata
    · cases hdata
    · rename_i hsmall
      simp only [gt_iff_lt, Bool.or_eq_true, decide_eq_true_eq, not_or, Nat.not_lt] at hsmall
      exact hsmall.2
  obtain ⟨world₁, copy, hentity, hlookup, hserver, hheld, hothers⟩ := h.entityFor (Nat.succ_ne_zero slot)
  obtain ⟨howns, -, -⟩ := h.entityForReplayId hentity
  have halive := howns.lookup_alive hlookup
  -- the registry after the tags, after the components and after the removals
  obtain ⟨tagged, htagged⟩ : ∃ tagged, tagged = applyTags copy data.tagMask archetype.tags 0
    (setReplicated world₁.registry copy replicated.archetype) := ⟨_, rfl⟩
  have hcomponents : ∀ p ∈ archetype.components.zipIdx, archetype.components[p.2]? = some p.1 ∧ p.2 < 2 ^ 16 :=
    fun p hp => by
    have hp' := List.mem_zipIdx_iff_getElem?.mp hp
    have hlength := (List.getElem?_eq_some_iff.mp hp').1
    exact ⟨hp', by omega⟩
  have hnodup : (archetype.components.zipIdx.map fun p => p.1.component).Nodup := by
    have heq : (archetype.components.zipIdx.map fun p => p.1.component) =
        archetype.components.map ComponentReplication.component := by
      conv_rhs => rw [← List.zipIdx_map_fst 0 archetype.components, List.map_map]
      rfl
    rw [heq]
    exact archetype.distinct
  obtain ⟨filled, hfilledEq, hfilled⟩ := applyRecordComponents_filled core copy world₁.entities hset hin
    hspec rest archetype.components.zipIdx tagged hcomponents hnodup
  have hcleared := removeAbsent_cleared copy data.presentMask archetype.components.zipIdx filled hnodup
  have happly : applyComponents copy core.frame archetype data.presentMask world₁.entities tagged
      (unsignedBits (archetype.components.zipIdx.filterMap (replayComponentRecord core data)).length 16 ++
        ((archetype.components.zipIdx.filterMap (replayComponentRecord core data)).flatten ++ rest)) =
      (removeAbsent copy archetype data.presentMask filled, some rest) := by
    have hcount : (archetype.components.zipIdx.filterMap (replayComponentRecord core data)).length < 2 ^ 16 := by
      have hle := List.length_filterMap_le (replayComponentRecord core data) archetype.components.zipIdx
      rw [List.length_zipIdx] at hle
      omega
    unfold applyComponents
    rw [reads_unsignedBits hcount]
    dsimp only
    rw [hfilledEq]
  have hall : world.applyRecord core.frame ids
      (replayRecordHeader false slot ++ replayUpdateBody core replicated.archetype archetype data ++ rest) =
        ({ world₁ with registry := removeAbsent copy archetype data.presentMask filled }, (slot + 1) :: ids,
        some rest) := by
    have hbits : replayRecordHeader false slot ++ replayUpdateBody core replicated.archetype archetype data ++ rest =
        (replayRecordHeader false slot ++
          (unsignedBits replicated.archetype 32 ++ (unsignedBits data.tagMask.toNat 64 ++
          unsignedBits data.presentMask.toNat 64))) ++
        (unsignedBits (archetype.components.zipIdx.filterMap (replayComponentRecord core data)).length 16 ++
          ((archetype.components.zipIdx.filterMap (replayComponentRecord core data)).flatten ++ rest)) := by
      simp only [replayUpdateBody, List.append_assoc]
    have hids := hset.faithful.ids
    unfold ReplayWorld.applyRecord
    rw [hbits, reads_updateHeader hslot (lt_of_lt_of_le hlt hids)]
    simp only [hsettings, hdef, hentity]
    rw [← htagged, happly]
  refine ⟨_, hall, ?_, hserver, ⟨copy, hlookup, ?_⟩, fun component hother => ?_, fun i hi => ?_⟩
  · have hdone :=
      (h.applyRecord core.frame ids
        (replayRecordHeader false slot ++ replayUpdateBody core replicated.archetype archetype data ++
          rest)).owns
    rwa [hall] at hdone
  · obtain ⟨htags, -, hreplicated⟩ :=
      applyTags_hasTag (registry.hasTag replicated.entity) data.tagMask archetype.tags 0
      (setReplicated world₁.registry copy replicated.archetype) ((alive_setReplicated ..).trans halive)
      (fun t ht r hr => hset.tags archetype hin t ht r copy hr) fun j t ht => by
        rw [Nat.zero_add]
        exact hspec.tags j t ht
    rw [← htagged] at htags hreplicated
    refine ⟨?_, fun definition hdef' t ht => ?_, fun definition hdef' c hc hsize => ?_⟩
    · exact ((hcleared.replicated.trans hfilled.replicated).trans hreplicated).trans
        (LawfulReplay.replicated_setReplicated ..)
    · rw [hdef] at hdef'
      obtain rfl := Option.some.inj hdef'
      exact ((hcleared.hasTag t.tag).trans (hfilled.hasTag t.tag)).trans (htags t ht)
    · rw [hdef] at hdef'
      obtain rfl := Option.some.inj hdef'
      obtain ⟨i, hi⟩ := List.mem_iff_getElem?.mp hc
      have hmem : (c, i) ∈ archetype.components.zipIdx := List.mem_zipIdx_iff_getElem?.mpr hi
      refine (hcleared.values (c, i) hmem).trans ?_
      dsimp only
      rw [hspec.present i c hi]
      cases hvalue : registry.get replicated.entity c.component with
      | none => rfl
      | some value =>
        rw [Option.isSome_some, if_pos rfl, Option.bind_some]
        exact hfilled.values (c, i) hmem hsize value hvalue
  · have hother' : ∀ p ∈ archetype.components.zipIdx, p.1.component ≠ component := fun p hp =>
      hother p.1 (List.mem_of_getElem? (hcomponents p hp).1)
    have hdone : ReplayWorld.held { world₁ with registry := removeAbsent copy archetype data.presentMask filled }
        (slot + 1) component = get (removeAbsent copy archetype data.presentMask filled) copy component := by
      rw [held]
      exact congrArg (Option.bind · _) hlookup
    rw [hdone]
    calc get (removeAbsent copy archetype data.presentMask filled) copy component
      _ = get filled copy component := hcleared.others component hother'
      _ = get tagged copy component := hfilled.others component hother'
      _ = get (setReplicated world₁.registry copy replicated.archetype) copy component := by
        rw [htagged, get_applyTags]
      _ = get world₁.registry copy component := LawfulReplay.get_setReplicated ..
      _ = world₁.held (slot + 1) component := (held_of_lookup hlookup component).symm
      _ = world.held (slot + 1) component := hheld component
  · have hchange : ChangesOnly copy world₁.registry (removeAbsent copy archetype data.presentMask filled) := by
      have hcomponentsOnly :=
        applyComponents_changesOnly copy core.frame archetype data.presentMask world₁.entities tagged
        (unsignedBits (archetype.components.zipIdx.filterMap (replayComponentRecord core data)).length 16 ++
          ((archetype.components.zipIdx.filterMap (replayComponentRecord core data)).flatten ++ rest))
      rw [happly, htagged] at hcomponentsOnly
      exact ((setReplicated_changesOnly world₁.registry copy replicated.archetype).trans
        (applyTags_changesOnly copy data.tagMask archetype.tags 0 _)).trans hcomponentsOnly
    refine (hothers i hi).trans ⟨rfl, fun other hother => hchange.others other fun heq => hi ?_⟩
    exact howns.lookup_ne hother (heq ▸ hlookup)

end

end AshiatoSync
