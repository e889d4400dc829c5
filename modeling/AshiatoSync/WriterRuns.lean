import AshiatoSync.SlotRuns

/-!
# Serialization by moves

A serializer may allocate network ids and raise priorities; otherwise it leaves
the replicator alone.  What it writes is a record of the slot's quantized frame,
which is a live frame of the server's current frame.
-/

namespace AshiatoSync

open ServerClientReplicator

/-! ## Ids and boosts -/

structure IdsGiven (s s' : ClientEntityState) : Prop where
  baseline : s'.baseline = s.baseline
  baselineEpoch : s'.baselineEpoch = s.baselineEpoch
  componentMask : s'.componentMask = s.componentMask
  pending : s'.pending = s.pending
  pendingCues : s'.pendingCues = s.pendingCues
  ids : s.hasNetworkId = true →
    s'.hasNetworkId = true ∧ s'.networkId = s.networkId ∧ s'.networkVersion = s.networkVersion

theorem IdsGiven.refl (s : ClientEntityState) : IdsGiven s s :=
  ⟨rfl, rfl, rfl, rfl, rfl, fun h => ⟨h, rfl, rfl⟩⟩

theorem IdsGiven.trans {a b c : ClientEntityState} (h : IdsGiven a b) (h' : IdsGiven b c) : IdsGiven a c where
  baseline := h'.baseline.trans h.baseline
  baselineEpoch := h'.baselineEpoch.trans h.baselineEpoch
  componentMask := h'.componentMask.trans h.componentMask
  pending := h'.pending.trans h.pending
  pendingCues := h'.pendingCues.trans h.pendingCues
  ids := fun ha => by
    obtain ⟨h1, h2, h3⟩ := h.ids ha
    obtain ⟨h4, h5, h6⟩ := h'.ids h1
    exact ⟨h4, h5.trans h2, h6.trans h3⟩

structure OnlyIds (client client' : ServerClientReplicator) : Prop where
  same : client' = { client with states := client'.states, networkIds := client'.networkIds }
  length : client'.states.length = client.states.length
  state : ∀ (slot : Nat) (s : ClientEntityState), client.states[slot]? = some s →
    ∃ s', client'.states[slot]? = some s' ∧ IdsGiven s s'

theorem OnlyIds.refl (client : ServerClientReplicator) : OnlyIds client client :=
  ⟨rfl, rfl, fun _ s h => ⟨s, h, .refl s⟩⟩

theorem OnlyIds.trans {a b c : ServerClientReplicator} (h : OnlyIds a b) (h' : OnlyIds b c) : OnlyIds a c := by
  refine ⟨?_, h'.length.trans h.length, ?_⟩
  · rw [h'.same, h.same]
  · intro slot s hs
    obtain ⟨s₁, hs₁, hi₁⟩ := h.state slot s hs
    obtain ⟨s₂, hs₂, hi₂⟩ := h'.state slot s₁ hs₁
    exact ⟨s₂, hs₂, hi₁.trans hi₂⟩

theorem onlyIds_modify {client : ServerClientReplicator} (networkIds : NetworkIds) {slot : Nat}
    {f : ClientEntityState → ClientEntityState}
    (hf : ∀ s, client.states[slot]? = some s → IdsGiven s (f s)) :
    OnlyIds client (({ client with networkIds }).modifyState slot f) := by
  refine ⟨rfl, by simp [modifyState], ?_⟩
  intro i s hs
  by_cases hi : slot = i
  · subst hi
    exact ⟨f s, by simp [modifyState, hs], hf s hs⟩
  · exact ⟨s, by simp [modifyState, hi, hs], .refl s⟩

section

variable {strict : Prop} {core core₁ : ServerCore}

theorem networkIdFor_spec (strict : Prop) {client client' : ServerClientReplicator} {slot id : Nat}
    (hact : core.replicatedSlotActive slot = true) (h : client.networkIdFor slot = .ok (client', id)) :
    LocalMoves strict core client core client' ∧ OnlyIds client client' ∧
      ∀ s, client.states[slot]? = some s →
        ∃ s', client'.states[slot]? = some s' ∧ s'.hasNetworkId = true ∧ s'.networkId = id := by
  unfold networkIdFor at h
  split at h
  · obtain ⟨rfl, rfl⟩ := Prod.mk.inj (Except.ok.inj h)
    rename_i hnone
    exact ⟨.refl, .refl _, fun s hs => by simp [hnone] at hs⟩
  rename_i s hs
  split at h
  · rename_i hid
    obtain ⟨rfl, rfl⟩ := Prod.mk.inj (Except.ok.inj h)
    exact ⟨.refl, .refl _, fun s' hs' => ⟨s, hs, hid, rfl⟩⟩
  · rename_i hid
    have hid : s.hasNetworkId = false := by simpa using hid
    obtain ⟨version, ids, -, -, heq⟩ := allocate_states hs h
    refine ⟨(LocalMove.allocate hact hs hid h).moves, ?_, ?_⟩
    · rw [heq]
      refine onlyIds_modify _ fun s' hs' => ⟨rfl, rfl, rfl, rfl, rfl, fun ha => ?_⟩
      rw [hs] at hs'
      obtain rfl := Option.some.inj hs'
      simp [hid] at ha
    · intro s' _
      exact ⟨{ s with networkId := id, networkVersion := version, hasNetworkId := true },
        by simp [heq, modifyState, hs], rfl, rfl⟩

theorem lookupNetworkId_moves (strict : Prop) {client client' : ServerClientReplicator} {sourceSlot id : Nat}
    {references : Bool} {entity : Entity} (hsame : SameSlots core core₁)
    (h : lookupNetworkId core₁ client sourceSlot references entity = .ok (client', id)) :
    LocalMoves strict core client core client' ∧ OnlyIds client client' := by
  unfold lookupNetworkId at h
  split at h
  swap
  · obtain ⟨rfl, rfl⟩ := Prod.mk.inj (Except.ok.inj h)
    exact ⟨.refl, .refl _⟩
  unfold serverNetworkIdForEntity at h
  split at h
  · obtain ⟨rfl, rfl⟩ := Prod.mk.inj (Except.ok.inj h)
    exact ⟨.refl, .refl _⟩
  rename_i slot _
  split at h
  · obtain ⟨rfl, rfl⟩ := Prod.mk.inj (Except.ok.inj h)
    exact ⟨.refl, .refl _⟩
  rename_i hcond
  have hact : core.replicatedSlotActive slot = true := by
    rw [← hsame.slotActive]
    cases ha : core₁.replicatedSlotActive slot with
    | true => rfl
    | false => simp [ha] at hcond
  split at h
  · obtain ⟨m, ho, -⟩ := networkIdFor_spec strict hact h
    have hboost : OnlyIds client
        (client.modifyState slot fun s => { s with referencePriorityBoostPending := true }) :=
      onlyIds_modify client.networkIds fun s _ =>
        ⟨rfl, rfl, rfl, rfl, rfl, fun ha => ⟨ha, rfl, rfl⟩⟩
    exact ⟨(LocalMove.boost hact).moves.trans m, hboost.trans ho⟩
  · obtain ⟨m, ho, -⟩ := networkIdFor_spec strict hact h
    exact ⟨m, ho⟩

theorem runRecordWriter_spec (strict : Prop) {sourceSlot : Nat} {references : Bool} (hsame : SameSlots core core₁) :
    ∀ (writer : RecordWriter) (client client' : ServerClientReplicator) (bits : Bits),
    runRecordWriter core₁ sourceSlot references writer client = .ok (client', bits) →
    LocalMoves strict core client core client' ∧ OnlyIds client client' ∧ writer.Outputs bits
  | .done bits', client, client', bits, h => by
    obtain ⟨rfl, rfl⟩ := Prod.mk.inj (Except.ok.inj h)
    exact ⟨.refl, .refl _, .done _⟩
  | .lookup entity next, client, client', bits, h => by
    rw [runRecordWriter, Monadic.bind_eq_ok] at h
    obtain ⟨⟨client₁, id⟩, h₁, h₂⟩ := h
    obtain ⟨m₁, o₁⟩ := lookupNetworkId_moves strict hsame h₁
    obtain ⟨m₂, o₂, hout⟩ := runRecordWriter_spec strict hsame (next id) client₁ client' bits h₂
    exact ⟨m₁.trans m₂, o₁.trans o₂, .lookup id hout⟩

/-! ## Records -/

theorem serializeComponents_spec (strict : Prop) {slot : Nat} {archetype : SyncArchetype}
    {previous : Option QuantizedFrameData} {current : QuantizedFrameData} {context : SerializationContext}
    (hsame : SameSlots core core₁) :
    ∀ (indices : List Nat) (client client' : ServerClientReplicator) (payloads : List (Nat × Bits)),
    serializeComponents core₁ slot archetype previous current context indices client = .ok (client', payloads) →
    LocalMoves strict core client core client' ∧ OnlyIds client client' ∧
      ComponentsWritten archetype previous current context indices payloads
  | [], client, client', payloads, h => by
    obtain ⟨rfl, rfl⟩ := Prod.mk.inj (Except.ok.inj h)
    exact ⟨.refl, .refl _, rfl, by simp⟩
  | i :: rest, client, client', payloads, h => by
    rw [serializeComponents] at h
    split at h
    swap
    · cases h
    rename_i replication bytes hrep hbytes
    simp only at h
    split at h
    · exact absurd h Monadic.throw_ne_ok
    rename_i hprev
    simp only [Monadic.bind_eq_ok, Monadic.pure_eq_ok] at h
    obtain ⟨⟨client₁, bits⟩, h₁, ⟨client₂, payloads₂⟩, h₂, h₃⟩ := h
    obtain ⟨rfl, rfl⟩ := Prod.mk.inj h₃
    obtain ⟨m₁, o₁, hout⟩ := runRecordWriter_spec strict hsame _ _ _ _ h₁
    obtain ⟨m₂, o₂, hind, hwr⟩ :=
      serializeComponents_spec strict hsame rest client₁ client₂ payloads₂ h₂
    refine ⟨m₁.trans m₂, o₁.trans o₂, by simp [hind], ?_⟩
    intro p hp
    rcases List.mem_cons.mp hp with rfl | hp
    · refine ⟨replication, bytes, hrep, hbytes, ?_, hout⟩
      intro hsome
      cases hb : previous.bind fun frame => frameComponentData frame i with
      | some b => rfl
      | none => simp [hsome, hb] at hprev
    · exact hwr p hp

theorem writeBody_spec (strict : Prop) {client client' : ServerClientReplicator} {slot : Nat}
    {quantized : QuantizedFrame} {archetype : SyncArchetype} {state : ClientEntityState} {mask : Mask}
    {body : UpdateBody} (hsame : SameSlots core core₁)
    (h : writeBody core₁ client slot quantized archetype
      (deltaBaseline core₁ state quantized.archetype quantized.data) mask = .ok (client', body)) :
    LocalMoves strict core client core client' ∧ OnlyIds client client' ∧
      BodyWritten core₁ state quantized archetype mask body
        (deltaBaseline core₁ state quantized.archetype quantized.data).isNone := by
  unfold writeBody at h
  split at h
  · rename_i baseline hb
    unfold writeDeltaBody at h
    simp only [Monadic.bind_eq_ok] at h
    obtain ⟨⟨client₁, payloads⟩, h₁, h₂⟩ := h
    rw [Monadic.pure_eq_ok] at h₂
    obtain ⟨rfl, rfl⟩ := Prod.mk.inj h₂
    obtain ⟨m, o, hw⟩ := serializeComponents_spec strict hsame _ _ _ _ h₁
    rw [hb]
    exact ⟨m, o, .delta hb hw⟩
  · rename_i hb
    unfold writeFullBody at h
    simp only [Monadic.bind_eq_ok] at h
    obtain ⟨⟨client₁, payloads⟩, h₁, h₂⟩ := h
    rw [Monadic.pure_eq_ok] at h₂
    obtain ⟨rfl, rfl⟩ := Prod.mk.inj h₂
    obtain ⟨m, o, hw⟩ := serializeComponents_spec strict hsame _ _ _ _ h₁
    rw [hb]
    exact ⟨m, o, .full hb hw⟩

/-- A state that differs in its ids has the same delta baseline. -/
theorem deltaBaseline_congr (core : ServerCore) {state state' : ClientEntityState}
    (h : state'.baseline = state.baseline) :
    deltaBaseline core state' = deltaBaseline core state := by
  unfold deltaBaseline
  rw [h]

theorem BodyWritten.congr {state state' : ClientEntityState} {quantized : QuantizedFrame} {archetype : SyncArchetype}
    {mask : Mask} {body : UpdateBody} {full : Bool} (h : BodyWritten core state quantized archetype mask body full)
    (hb : state'.baseline = state.baseline) : BodyWritten core state' quantized archetype mask body full := by
  have heq := deltaBaseline_congr core hb
  cases h with
  | full hd hw => exact .full (heq ▸ hd) hw
  | delta hd hw => exact .delta (heq ▸ hd) hw

theorem writeEntityRecord_spec (strict : Prop) {client client' : ServerClientReplicator} {slot q : Nat} {mask : Mask}
    {result : Option SerializedEntity} {quantized : QuantizedFrame} {archetype : SyncArchetype}
    {state : ClientEntityState} (hsame : SameSlots core core₁) (hact : core.replicatedSlotActive slot = true)
    (hid : IdInv client) (hs : client.states[slot]? = some state) (hq : core₁.quantizedFrames[q]? = some quantized)
    (hqa : quantized.active = true) (harch : core₁.settings.archetypes[quantized.archetype]? = some archetype)
    (h : writeEntityRecord core₁ client slot q mask = .ok (client', result)) :
    LocalMoves strict core client core client' ∧ OnlyIds client client' ∧
      ∃ serialized state', result = some serialized ∧ client'.states[slot]? = some state' ∧
        state'.hasNetworkId = true ∧ RecordWritten core₁ state' q mask serialized := by
  unfold writeEntityRecord at h
  simp only [hs, hq, hqa, Bool.not_true, Bool.false_eq_true, if_false, Monadic.bind_eq_ok] at h
  obtain ⟨⟨client₁, id⟩, h₁, h⟩ := h
  obtain ⟨m₁, o₁, hst₁⟩ := networkIdFor_spec strict hact h₁
  obtain ⟨s₁, hs₁, hid₁, hnet₁⟩ := hst₁ state hs
  obtain ⟨e, he, -⟩ := (m₁.ids hid).owner slot s₁ hs₁ hid₁
  -- ids start at 1
  have hne : id ≠ 0 := by
    rintro rfl
    simp [hnet₁, NetworkIds.entry?] at he
  simp only [hne, if_false, harch, Monadic.bind_eq_ok, Monadic.pure_eq_ok] at h
  obtain ⟨⟨client₂, body⟩, h₂, h₃⟩ := h
  obtain ⟨rfl, rfl⟩ := Prod.mk.inj h₃
  obtain ⟨m₂, o₂, hbody⟩ := writeBody_spec strict hsame h₂
  obtain ⟨s₂, hs₂, hg₂⟩ := o₂.state slot s₁ hs₁
  obtain ⟨hid₂, hnet₂, -⟩ := hg₂.ids hid₁
  obtain ⟨s₁', hs₁', hg₁⟩ := o₁.state slot state hs
  rw [hs₁] at hs₁'
  obtain rfl := Option.some.inj hs₁'
  refine ⟨m₁.trans m₂, o₁.trans o₂, _, s₂, rfl, hs₂, hid₂, rfl, ?_, ?_, quantized,
    archetype, hq, harch, ?_⟩
  · exact hnet₁.symm.trans hnet₂.symm
  · rw [hg₂.pendingCues, hg₁.pendingCues]
  · exact hbody.congr (hg₂.baseline.trans hg₁.baseline)

/-! ## Quantized frames -/

theorem getLsbD_or_twoPow {m : Mask} {i j n : Nat} (hm : m.getLsbD j = false) (hi : i < n) (hj : n ≤ j) :
    (m ||| BitVec.twoPow 64 i).getLsbD j = false := by
  have : i ≠ j := by omega
  simp [hm, BitVec.getLsbD_twoPow, this]

theorem visibleTagMask_bits (registry : Registry) (archetype : SyncArchetype) (entity : Entity) (client : ClientId)
    {j : Nat} (hj : archetype.tags.length ≤ j) :
    (visibleTagMask registry archetype entity client).getLsbD j = false := by
  unfold visibleTagMask
  simp only
  refine Monadic.foldl_inv (fun rest (m : Mask) => (∀ t ∈ rest, t.2 < archetype.tags.length) ∧
    m.getLsbD j = false)
    _ _ ?_ ⟨?_, by simp⟩ |>.2
  · rintro ⟨t, i⟩ rest m ⟨hrest, hm⟩
    refine ⟨fun t ht => hrest t (by simp [ht]), ?_⟩
    split
    · exact getLsbD_or_twoPow hm (hrest (t, i) (by simp)) hj
    · exact hm
  · intro t ht
    exact (List.getElem?_eq_some_iff.mp (List.mem_zipIdx_iff_getElem?.mp ht)).1

theorem initFrameData_wellFormed {archetype : SyncArchetype} {data : QuantizedFrameData}
    (h : initFrameData archetype = some data) : WellFormedData archetype data := by
  unfold initFrameData at h
  split at h
  · cases h
  · rename_i hsize
    simp only [Bool.or_eq_true, decide_eq_true_eq, not_or, Nat.not_lt, gt_iff_lt] at hsize
    obtain rfl := Option.some.inj h
    refine ⟨hsize.1, hsize.2, by simp, by simp, by simp, fun i c bytes _ hbytes => ?_⟩
    simp [frameComponentData, frameHasComponent] at hbytes

theorem WellFormedData.write {archetype : SyncArchetype} {data : QuantizedFrameData} (h : WellFormedData archetype data)
    {i : Nat} (hi : i < archetype.components.length) {value : Bytes}
    (hvalue : ∀ c, archetype.components[i]? = some c → ∃ v, value = c.ops.quantize v) :
    WellFormedData archetype (writeFrameComponent data i value) :=
  { h with
    blocks := by simpa [writeFrameComponent] using h.blocks
    presentMask := fun j hj => getLsbD_or_twoPow (h.presentMask j hj) hi hj
    quantized := by
      intro j c bytes hc hbytes
      have hlt : j < 64 := by
        have hj := (List.getElem?_eq_some_iff.mp hc).1
        have hcount := h.componentCount
        omega
      by_cases hij : j = i
      · subst hij
        have hlen : j < data.bytes.length := by
          rw [h.blocks]
          exact hi
        simp [frameComponentData, frameHasComponent, writeFrameComponent, hlt, hlen] at hbytes
        exact hbytes ▸ hvalue c hc
      · refine h.quantized j c bytes hc ?_
        have hbit : (BitVec.twoPow 64 i).getLsbD j = false := by
          rw [BitVec.getLsbD_twoPow]
          simp [Ne.symm hij]
        unfold frameComponentData frameHasComponent writeFrameComponent at hbytes
        simp only [BitVec.getLsbD_or, hbit, Bool.or_false, List.getElem?_set_ne (Ne.symm hij)] at hbytes
        exact hbytes }

theorem quantizeComponent_wellFormed {registry : Registry} {replicated : ReplicatedSlot} {client : ClientId}
    {baseline : Option QuantizedFrame} {archetype : SyncArchetype} {scratch scratch' : QuantizedFrameData × List Nat}
    {c : ComponentReplication × Nat} (hbase : ∀ f, baseline = some f → WellFormedData archetype f.data)
    (hw : WellFormedData archetype scratch.1) (hc : archetype.components[c.2]? = some c.1)
    (h : quantizeComponent registry replicated client baseline scratch c = some scratch') :
    WellFormedData archetype scratch'.1 := by
  have hlt := (List.getElem?_eq_some_iff.mp hc).1
  have hfresh : ∀ value, WellFormedData archetype (writeFrameComponent scratch.1 c.2 (c.1.ops.quantize value)) := by
    intro value
    refine hw.write hlt fun d hd => ?_
    rw [hc] at hd
    obtain rfl := Option.some.inj hd
    exact ⟨value, rfl⟩
  unfold quantizeComponent at h
  simp only at h
  split at h
  · obtain rfl := Option.some.inj h
    exact hw
  split at h
  · obtain rfl := Option.some.inj h
    exact hw
  cases baseline with
  | none =>
    simp only [Bool.false_eq_true, if_false] at h
    obtain rfl := Option.some.inj h
    exact hfresh _
  | some frame =>
    simp only at h
    split at h
    · rename_i hsame
      simp only [Bool.and_eq_true] at hsame
      split at h
      · rename_i bytes hbytes
        obtain rfl := Option.some.inj h
        refine hw.write hlt fun d hd => ?_
        refine (hbase frame rfl).quantized c.2 d bytes hd ?_
        simp only [Option.bind_some] at hbytes
        rw [frameComponentData, if_pos hsame.2]
        exact hbytes
      · cases h
    · obtain rfl := Option.some.inj h
      exact hfresh _

theorem quantizeFrame_wellFormed {registry : Registry} {archetype : SyncArchetype} {replicated : ReplicatedSlot}
    {client : ClientId} {baseline : Option QuantizedFrame} {scratch : QuantizedFrameData × List Nat}
    (hbase : ∀ f, baseline = some f → WellFormedData archetype f.data)
    (h : quantizeFrame registry archetype replicated client baseline = some scratch) :
    WellFormedData archetype scratch.1 := by
  unfold quantizeFrame at h
  simp only [Option.bind_eq_bind, Option.bind_eq_some_iff] at h
  obtain ⟨data, hinit, scratch₁, hfold, hres⟩ := h
  have hw := initFrameData_wellFormed hinit
  have hloop : ∀ (l : List (ComponentReplication × Nat)) (a b : QuantizedFrameData × List Nat),
      (∀ c ∈ l, archetype.components[c.2]? = some c.1) → WellFormedData archetype a.1 →
      l.foldlM (quantizeComponent registry replicated client baseline) a = some b → WellFormedData archetype b.1 := by
    intro l
    induction l with
    | nil =>
      intro a b _ ha hb
      obtain rfl := Option.some.inj hb
      exact ha
    | cons c l ih =>
      intro a b hl ha hb
      rw [List.foldlM_cons, Option.bind_eq_bind, Option.bind_eq_some_iff] at hb
      obtain ⟨a₁, h₁, h₂⟩ := hb
      exact ih a₁ b (fun d hd => hl d (by simp [hd]))
        (quantizeComponent_wellFormed hbase ha (hl c (by simp)) h₁) h₂
  have hscratch : WellFormedData archetype scratch₁.1 := by
    refine hloop _ _ _ (fun c hc => List.mem_zipIdx_iff_getElem?.mp hc) ?_ hfold
    split
    · exact { hw with
        tagMask := fun j hj => visibleTagMask_bits registry archetype replicated.entity client hj
        quantized := fun i c bytes hc hbytes => hw.quantized i c bytes hc hbytes }
    · exact hw
  split at hres
  · cases hres
  · obtain rfl := Option.some.inj hres
    exact hscratch

/-- The baseline a slot's frame is quantized against has the shape of the slot's archetype. -/
theorem baselineQuantizedFrame_wellFormed {client : ServerClientReplicator} {slot : Nat} {r : ReplicatedSlot}
    {archetype : SyncArchetype} {others : Nat → Nat} (hinv : ClientInv core client others)
    (harch : core.settings.archetypes[r.archetype]? = some archetype) {f : QuantizedFrame}
    (h : baselineQuantizedFrame core client r slot = some f) : WellFormedData archetype f.data := by
  unfold baselineQuantizedFrame at h
  split at h
  · cases h
  · split at h
    · cases h
    · split at h
      · cases h
      · rename_i q _ _ frame hframe
        split at h
        · rename_i hlive
          obtain rfl := Option.some.inj h
          simp only [Bool.and_eq_true, beq_iff_eq] at hlive
          obtain ⟨definition, hdef, hdata⟩ := hinv.data q frame hframe hlive.1
          rw [hlive.2, harch] at hdef
          exact Option.some.inj hdef ▸ hdata
        · cases h

theorem findOrCreate_spec {registry : Registry} {client : ServerClientReplicator} {slot : Nat} {result : Option Nat}
    {others : Nat → Nat} (hinv : ClientInv core client others)
    (h : findOrCreateQuantizedFrame registry core client slot core.frame = .ok (core₁, result)) :
    result = none ∧ core₁ = core ∨ ∃ q, result = some q ∧ Obtained core slot core₁ q := by
  unfold findOrCreateQuantizedFrame at h
  split at h
  · obtain ⟨rfl, rfl⟩ := Prod.mk.inj (Except.ok.inj h)
    exact .inl ⟨rfl, rfl⟩
  rename_i r hr
  split at h
  · obtain ⟨rfl, rfl⟩ := Prod.mk.inj (Except.ok.inj h)
    exact .inl ⟨rfl, rfl⟩
  rename_i archetype harch
  split at h
  · rename_i q hcached
    obtain ⟨rfl, rfl⟩ := Prod.mk.inj (Except.ok.inj h)
    unfold cachedQuantizedFrame at hcached
    split at hcached
    swap
    · cases hcached
    split at hcached
    · cases hcached
    split at hcached
    · cases hcached
    rename_i f hf
    split at hcached
    swap
    · cases hcached
    rename_i hc
    simp only [Option.some.injEq] at hcached
    subst hcached
    simp only [Bool.and_eq_true, beq_iff_eq] at hc
    exact .inr ⟨_, rfl, .reuse hr hf hc.1.1.1 hc.1.1.2 hc.1.2 hc.2⟩
  split at h
  · obtain ⟨rfl, rfl⟩ := Prod.mk.inj (Except.ok.inj h)
    exact .inl ⟨rfl, rfl⟩
  rename_i scratch hquant
  split at h
  · rename_i q hsame
    obtain ⟨rfl, rfl⟩ := Prod.mk.inj (Except.ok.inj h)
    have hp := List.find?_some hsame
    split at hp
    · simp at hp
    · rename_i f hf
      simp only [Bool.and_eq_true, beq_iff_eq] at hp
      exact .inr ⟨q, rfl, .reuse hr hf hp.1.1.1.1 hp.1.1.1.2 hp.1.1.2 hp.1.2⟩
  · obtain ⟨⟨core₂, q⟩, hc, heq⟩ := Monadic.Except_map_eq_ok.mp h
    obtain ⟨rfl, rfl⟩ := Prod.mk.inj heq
    exact .inr ⟨q, rfl, .create hr harch
      (quantizeFrame_wellFormed (fun _ => baselineQuantizedFrame_wellFormed hinv harch) hquant) hc⟩

theorem findOrCreate_sameSlots {registry : Registry} {client : ServerClientReplicator} {slot : Nat} {frame : SyncFrame}
    {result : Option Nat} (h : findOrCreateQuantizedFrame registry core client slot frame = .ok (core₁, result)) :
    SameSlots core core₁ := by
  unfold findOrCreateQuantizedFrame at h
  split at h
  · exact (Prod.mk.inj (Except.ok.inj h)).1 ▸ .refl core
  · split at h
    · exact (Prod.mk.inj (Except.ok.inj h)).1 ▸ .refl core
    · split at h
      · exact (Prod.mk.inj (Except.ok.inj h)).1 ▸ .refl core
      · split at h
        · exact (Prod.mk.inj (Except.ok.inj h)).1 ▸ .refl core
        · split at h
          · exact (Prod.mk.inj (Except.ok.inj h)).1 ▸ .refl core
          · obtain ⟨⟨core₂, q⟩, hc, heq⟩ := Monadic.Except_map_eq_ok.mp h
            exact (Prod.mk.inj heq).1 ▸ (create_spec hc).same

theorem Obtained.frame {slot q : Nat} {others : Nat → Nat} {client : ServerClientReplicator}
    (h : Obtained core slot core₁ q) (hinv : ClientInv core client others) :
    ∃ f archetype, core₁.quantizedFrames[q]? = some f ∧ f.active = true ∧
      core₁.settings.archetypes[f.archetype]? = some archetype := by
  have hset := (obtained_sameSlots h).settings
  have hretain := h.retain_ref hinv.ref
  cases h with
  | @reuse _ f r hr hf ha _ _ _ =>
    obtain ⟨archetype, harch, -⟩ := hinv.data q f hf ha
    exact ⟨f, archetype, hf, ha, harch⟩
  | @create _ _ r archetype scratch hr harch hw hc =>
    obtain ⟨g, hg, -⟩ := hretain.held_alive (q := q) (by simp [oneRef])
    have hlt : q < core₁.quantizedFrames.length := by
      simp only [ServerCore.retainQuantizedFrame] at hg
      simpa using (List.getElem?_eq_some_iff.mp hg).1
    exact ⟨_, archetype, (create_spec hc).new hlt, rfl, by rw [hset]; exact harch⟩

theorem serializeEntity_spec (strict : Prop) {registry : Registry} {client client' : ServerClientReplicator}
    {slot : Nat} {mask : Mask} {result : Option SerializedEntity} {others : Nat → Nat}
    (hinv : ClientInv core client others) (hid : IdInv client) (hact : core.replicatedSlotActive slot = true)
    (h : serializeEntity registry core client slot core.frame mask = .ok (core₁, client', result)) :
    LocalMoves strict core client core client' ∧ OnlyIds client client' ∧
      (result = none ∧ core₁ = core ∨
        ∃ serialized q state, result = some serialized ∧ Obtained core slot core₁ q ∧
          client'.states[slot]? = some state ∧ state.hasNetworkId = true ∧
          RecordWritten core₁ state q mask serialized) := by
  unfold serializeEntity at h
  split at h
  · simp only [Monadic.pure_eq_ok, Prod.mk.injEq] at h
    obtain ⟨hcore, rfl, rfl⟩ := h
    exact ⟨.refl, .refl _, .inl ⟨rfl, hcore.symm⟩⟩
  rename_i hsome
  obtain ⟨state, hs⟩ : ∃ state, client.states[slot]? = some state := by
    cases hs : client.states[slot]? with
    | none => simp [hs] at hsome
    | some state => exact ⟨state, rfl⟩
  rw [Monadic.bind_eq_ok] at h
  obtain ⟨⟨core₂, q⟩, h₁, h₂⟩ := h
  rcases findOrCreate_spec hinv h₁ with ⟨rfl, hcore⟩ | ⟨q, rfl, ho⟩
  · simp only [Monadic.pure_eq_ok, Prod.mk.injEq] at h₂
    obtain ⟨rfl, rfl, rfl⟩ := h₂
    exact ⟨.refl, .refl _, .inl ⟨rfl, hcore⟩⟩
  · simp only [Monadic.bind_eq_ok, Monadic.pure_eq_ok, Prod.mk.injEq] at h₂
    obtain ⟨⟨client₂, serialized⟩, h₂, rfl, rfl, rfl⟩ := h₂
    obtain ⟨f, archetype, hf, hfa, harch⟩ := ho.frame hinv
    obtain ⟨m, o, ser, state', hres, hs', hid', hw⟩ :=
      writeEntityRecord_spec strict (obtained_sameSlots ho) hact hid hs hf hfa harch h₂
    exact ⟨m, o, .inr ⟨ser, q, state', hres, ho, hs', hid', hw⟩⟩

/-! ## Cues -/

theorem pushCue_moves {client : ServerClientReplicator} {slot : Nat} {cue : PendingCue}
    (hact : core.replicatedSlotActive slot = true) :
    LocalMoves strict core client core (ReplicationServer.pushCue core client slot cue) := by
  unfold ReplicationServer.pushCue
  split
  · exact .refl
  · rename_i state hs
    exact (LocalMove.pushCue cue hact hs).moves.trans (LocalMove.markDirty hact).moves

theorem attachCueToClient_moves {registry : Registry} {client client' : ServerClientReplicator} {slot : Nat}
    {ops : SyncCueOps} {cue : QueuedSyncCue} {expireFrame : SyncFrame} (hact : core.replicatedSlotActive slot = true)
    (h : ReplicationServer.attachCueToClient registry core slot ops cue expireFrame client = .ok client') :
    LocalMoves strict core client core client' := by
  unfold ReplicationServer.attachCueToClient at h
  split at h
  · rw [Monadic.pure_eq_ok] at h
    exact h ▸ .refl
  split at h
  · rw [Monadic.pure_eq_ok] at h
    exact h ▸ .refl
  rw [Monadic.bind_eq_ok] at h
  obtain ⟨⟨client₁, payload⟩, h₁, h₂⟩ := h
  have m₁ : LocalMoves strict core client core client₁ := by
    unfold ReplicationServer.cuePayload at h₁
    split at h₁
    · obtain ⟨rfl, rfl⟩ := Prod.mk.inj (Except.ok.inj h₁)
      exact .refl
    · exact (runRecordWriter_spec strict (.refl core) _ _ _ _ h₁).1
  simp only at h₂
  split at h₂
  · rw [Monadic.pure_eq_ok] at h₂
    exact h₂ ▸ m₁
  · rw [Monadic.pure_eq_ok] at h₂
    exact h₂ ▸ m₁.trans (pushCue_moves hact)

theorem captureQueuedCues_moves {s s' : ReplicationServer} {registry : Registry} {cues : List QueuedSyncCue}
    (hs : ServerInv s) (h : s.captureQueuedCues registry cues = .ok s') : Moves strict s s' := by
  refine moves_foldlM hs ?_ h
  intro cue t t' ht hstep
  split at hstep
  · obtain rfl := Except.ok.inj hstep
    exact .refl
  rename_i slot hslot
  obtain ⟨r, hr, ha, -⟩ := ht.base.slots.entities _ _ hslot
  have hact : t.core.replicatedSlotActive slot = true := by rw [slotActive_of_get hr, ha]
  unfold ReplicationServer.attachCueToClients at hstep
  simp only [hact, Bool.not_true, Bool.false_eq_true, if_false] at hstep
  split at hstep
  · rw [Monadic.bind_eq_ok] at hstep
    obtain ⟨clients, hmap, heq⟩ := hstep
    rw [Monadic.pure_eq_ok] at heq
    subst heq
    exact mapM_moves t.clients [] clients ht (fun client client' _ _ hc => attachCueToClient_moves hact hc) hmap
  · rw [Monadic.pure_eq_ok] at hstep
    exact hstep ▸ .refl

end

end AshiatoSync
