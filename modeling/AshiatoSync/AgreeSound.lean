import AshiatoSync.RetainSound
import AshiatoSync.UpdatePackets
import AshiatoSync.WrittenSound

/-!
# Client and server agree

A client takes the packets of a server in any order, any number of times, or not
at all.  What it stores for a record is what the server quantized: a delta is read
against a baseline that agrees with the one it was written against.
-/

namespace AshiatoSync

open LocalRegistry ReplicationClient ReadM BitCodec

/-! ## What a record is stored as -/

structure SameData (definition : SyncArchetype) (a b : QuantizedFrameData) : Prop where
  tags : a.tagMask = b.tagMask
  components : ∀ i < definition.components.length, frameComponentData a i = frameComponentData b i

section

variable {R : Type} [LocalRegistry R] {client client' : ReplicationClient R} {e : Nat} {frame : SyncFrame} {w : Nat}
  {metadata : UpsertMetadata} {record : AuthoritativeUpsertRecord} {definition : SyncArchetype}

theorem applySnapSample_tags (he : e < client.store.entities.length) {authoritative : QuantizedFrameData} {mask : Mask}
    {applied : ReplicationClient R} (h : client.applySnapSample e authoritative mask = (applied, true)) :
    (applied.entity e).baseline.tagMask = authoritative.tagMask := by
  unfold applySnapSample at h
  split at h
  · cases h
  · rename_i archetype _
    dsimp only at h
    split at h
    · cases h
    · rename_i stored _
      split at h
      · cases h
      · rename_i shown hshown
        obtain ⟨rfl, -⟩ := Prod.mk.inj h
        have hmodified : StoresNothing client (client.modifyEntity e fun s => { s with baseline := stored }) :=
          @storesNothing_modifyEntity R client (fun s => { s with baseline := stored }) (fun _ => rfl) e
        have hframe :=
          storesNothing_applyRegistryFrame (client.modifyEntity e fun s => { s with baseline := stored }) e archetype {
          frameData := { authoritative with presentMask := authoritative.presentMask &&& mask }
          previousPresentMask := (client.entity e).appliedPresentMask, nextPresentMask := authoritative.presentMask }
        rw [hshown] at hframe
        have hlength := (hmodified.trans hframe).length
        have hself := @entity_modifyEntity_self R shown e (fun s => { s with
          entityPresent := true
          baseline := { copyPresentComponents archetype
            { authoritative with presentMask := authoritative.presentMask &&& mask } stored with
              tagMask := authoritative.tagMask, presentMask := authoritative.presentMask }
          appliedPresentMask := authoritative.presentMask }) (by rw [hlength]; exact he)
        generalize (shown.modifyEntity e fun s => { s with
          entityPresent := true
          baseline := { copyPresentComponents archetype
            { authoritative with presentMask := authoritative.presentMask &&& mask } stored with
              tagMask := authoritative.tagMask, presentMask := authoritative.presentMask }
          appliedPresentMask := authoritative.presentMask }) = copied at hself
        have hbaseline : ((copied.syncEntityMemberships e).entity e).baseline = (copied.entity e).baseline := by
          have hunlisted := congrArg EntityState.baseline ((relisted_sync copied.store e).unlisted e)
          exact hunlisted
        rw [hbaseline, hself]

theorem Ready.snapData (h : ClientOk client) (hready : Ready client e metadata record)
    (hdef : client.settings.archetypes[metadata.archetype]? = some definition) (hmode : (client.entity e).mode = .snap)
    {full : Bool} {applied : ReplicationClient R}
    (happlied : ((client.removeStaleTags e metadata.archetype full).modifyEntity e fun s =>
      { s with archetype := metadata.archetype }).applySnapSample e record.authoritative
        (snapApplyMask definition (client.entity e) metadata record) = (applied, true)) :
    SameData definition (applied.entity e).baseline record.authoritative := by
  have he := lt_length_of_used hready.used
  have hok := hready.ok definition hdef
  have hdata := hready.decoded definition hdef
  obtain ⟨hworks, hview, -⟩ := @removeStaleTags_spec R _ client e metadata.archetype full
  generalize client.removeStaleTags e metadata.archetype full = client₀ at hworks hview happlied
  have hf := keepsIds_archetype metadata.archetype
  have he₀ : e < client₀.store.entities.length := by
    rw [hworks.length]
    exact he
  have hworks₁ := hworks.trans (worksOn_modifyEntity hf)
  have hview₁ := view_modifyEntity hf he₀
  rw [hview] at hview₁
  generalize (client₀.modifyEntity e fun s => { s with archetype := metadata.archetype }) = client₁
    at hworks₁ hview₁ happlied
  have he₁ : e < client₁.store.entities.length := by
    rw [hworks₁.length]
    exact he
  have hof : client₁.archetypeOf e = some definition := by
    change client₁.settings.archetypes[(client₁.view e).state.archetype]? = _
    rw [hview₁, hworks₁.settings]
    exact hdef
  obtain ⟨-, -, hshown, -⟩ := @applySnapSample_spec R _ client₁ e definition record.authoritative
    (snapApplyMask definition (client.entity e) metadata record) (hworks₁.separate h.separate) he₁ hof
    (h.pushes definition (List.mem_of_getElem? hdef)) hdata.sized.hasBytes fun i c x hc hx hbit => by
      obtain ⟨hsized, hkept⟩ := snapApplyMask_kept hok hready.present hdata hready.delta
        (List.getElem?_eq_some_iff.mp hc).1 hx hbit
      rw [hview₁]
      exact ⟨hsized, (frameComponentData_eq_some.mp hkept).2, hok.snap hmode i c hc x hkept⟩
  have htags := applySnapSample_tags he₁ happlied
  rw [happlied] at hshown
  obtain ⟨-, -, l, baseline, hstate, -, -, hcomponents⟩ := hshown rfl
  have hbaseline : (applied.entity e).baseline = baseline := congrArg EntityState.baseline hstate
  refine ⟨htags, ?_⟩
  rw [hbaseline]
  exact hcomponents

/-- Naming the baseline of a delta changes nothing of what its record needs. -/
theorem Ready.protect (h : ClientOk client) (hready : Ready client e metadata record) (baselineFrame : SyncFrame) :
    ClientOk (client.modifyEntity e (·.protectReferencedBaseline baselineFrame)) ∧
      Ready (client.modifyEntity e (·.protectReferencedBaseline baselineFrame)) e metadata record := by
  have he := lt_length_of_used hready.used
  have hf : EntityState.KeepsIds (·.protectReferencedBaseline baselineFrame) :=
    ⟨fun _ => rfl, fun _ => rfl, fun _ => rfl, fun _ => rfl, fun _ hs => hs⟩
  have halike : ∀ s : EntityState, s.Alike (s.protectReferencedBaseline baselineFrame) := fun _ =>
    ⟨rfl, rfl, rfl, rfl, rfl, rfl, rfl⟩
  have hmoves := MovesOn.alike he (h.inv e) h.sound hf halike fun _ => rfl
  have hview := view_modifyEntity hf he
  have hid := hmoves.works.id e
  obtain ⟨s, hfound⟩ := hready.found
  obtain ⟨hindex, hget, hs⟩ := findByClientEntityNetworkId_eq_some.mp hfound
  refine ⟨h.moves hready.used hmoves, by rw [hid]; exact hready.used,
    ⟨(client.modifyEntity e (·.protectReferencedBaseline baselineFrame)).entity e, ?_⟩, ?_, ?_,
    fun definition hdef => ?_,
    fun hdelta => ?_, hready.decoded⟩
  · refine findByClientEntityNetworkId_eq_some.mpr ⟨hindex,
      entity_eq_getElem? (by rw [hmoves.works.length]; exact he), ?_⟩
    rw [hid, entity_of_getElem? hget]
    exact hs
  · rw [hview]
    exact hready.present
  · rw [hview]
    exact hready.newer
  · rw [hview]
    exact (hready.ok definition hdef).alike (halike _)
  · rw [hview]
    exact hready.delta hdelta

def StoredAs (metadata : UpsertMetadata) (record : AuthoritativeUpsertRecord) (client client' : ReplicationClient R) :
    Prop :=
  SameSession client client' ∧
  (client'.upserts = client.upserts ∨ ∃ call definition, client'.upserts = call :: client.upserts ∧
    call.wireNetworkId = metadata.wireNetworkId ∧ call.clientEntityNetworkId = metadata.clientEntityNetworkId ∧
    call.frame = metadata.frame ∧ call.archetype = metadata.archetype ∧
    call.baselineFrame = (if metadata.isFullUpsert then none else some metadata.baselineFrame) ∧
    client.settings.archetypes[metadata.archetype]? = some definition ∧
    SameData definition call.after.baseline record.authoritative)

omit [LocalRegistry R] in
theorem ensureUpsertEntity_session (client : ReplicationClient R) (metadata : UpsertMetadata)
    (record : AuthoritativeUpsertRecord) :
    SameSession client (client.ensureUpsertEntity metadata record).1 := by
  unfold ensureUpsertEntity
  dsimp only
  generalize (if client.modeNeedsSelection metadata = true then client.selectEntityMode metadata record
    else client.options.defaultMode) = mode
  split
  · exact .refl client
  · split
    · exact ⟨rfl, rfl, rfl⟩
    · split
      · exact ⟨rfl, rfl, rfl⟩
      · exact ⟨rfl, rfl, rfl⟩

/-- The part of `apply_upsert` after its reads. -/
theorem applyUpsert_storedAs (hok : ClientOk client')
    (hversions : ∀ w, (client'.store.wireNetworkIds w).version < 2 ^ 32) (htouched : Touched client client')
    (hread : RecordRead client client' frame w metadata record) (hpos : 0 < frame) :
    StoredAs metadata record client' (client'.applyUpsert metadata record).1 := by
  have hframe := hread.fits.atFrame
  have hready := ensureUpsertEntity_ready hok hversions htouched hread (hframe ▸ hpos)
  have hof := ensureUpsertEntity_archetype hok hversions htouched hread
  have hsession := ensureUpsertEntity_session client' metadata record
  unfold applyUpsert
  generalize client'.ensureUpsertEntity metadata record = ensured at hready hof hsession
  obtain ⟨client₁, result⟩ := ensured
  cases result with
  | error reason =>
    dsimp only at hready ⊢
    rw [hready]
    exact ⟨.refl client', .inl rfl⟩
  | ok e =>
    obtain ⟨hok₁, htrace, -, hready⟩ := hready
    have hupserts : client₁.upserts = client'.upserts := by
      rw [ReplicationClient.upserts, ReplicationClient.upserts, htrace]
    have hkept := hof client₁ e rfl
    have hstores : ∀ client₂, (if metadata.isFullUpsert = true then client₁
        else client₁.modifyEntity e (·.protectReferencedBaseline metadata.baselineFrame)) = client₂ →
        StoredAs metadata record client'
          (client₂.applyUpsertRecord e (client₁.upsertCall e metadata record) metadata record).1 := by
      intro client₂ hclient₂
      obtain ⟨hok₂, hready₂, hupserts₂, hsession₂, hkept₂⟩ : ClientOk client₂ ∧
          Ready client₂ e metadata record ∧
          client₂.upserts = client₁.upserts ∧ SameSession client₁ client₂ ∧
          ((client₂.entity e).frame ≠ 0 → metadata.archetype = (client₂.entity e).archetype) := by
        subst hclient₂
        split
        · exact ⟨hok₁, hready, rfl, .refl client₁, hkept⟩
        · obtain ⟨hok₂, hready₂⟩ := hready.protect hok₁ metadata.baselineFrame
          refine ⟨hok₂, hready₂, rfl, ⟨rfl, rfl, rfl⟩, ?_⟩
          rw [entity_modifyEntity_self (lt_length_of_used hready.used)]
          exact hkept
      obtain ⟨s, hfound⟩ := hready₂.found
      cases hdef : client₂.settings.archetypes[metadata.archetype]? with
      | none =>
        unfold applyUpsertRecord
        rw [hdef]
        exact ⟨hsession.trans hsession₂, .inl (hupserts₂.trans hupserts)⟩
      | some definition =>
        rcases @applyUpsertRecord_stores R _ client₂ e metadata record
          (fun data => SameData definition data record.authoritative) s
          hfound hready₂.present (client₁.upsertCall e metadata record) hkept₂ ⟨rfl, fun _ _ => rfl⟩
          (fun definition' hdef' hmode _ applied happlied => by
            obtain rfl : definition = definition' := Option.some.inj (hdef.symm.trans hdef')
            exact hready₂.snapData hok₂ hdef hmode happlied) with hnothing | hrecord
        · exact ⟨(hsession.trans hsession₂).trans hnothing.session,
            .inl (hnothing.upserts.trans (hupserts₂.trans hupserts))⟩
        · obtain ⟨state, after, shown, hlogged, -, hbaseline, hdata, -⟩ := hrecord.recorded
          refine ⟨(hsession.trans hsession₂).trans hrecord.session, .inr
            ⟨{ client₁.upsertCall e metadata record with after, shown }, definition, ?_, rfl, rfl,
              rfl, rfl, rfl, ?_, ?_⟩⟩
          · rw [hlogged, hupserts₂, hupserts]
          · rw [← hdef, hsession₂.settings, hsession.settings]
          · rw [hbaseline]
            exact hdata
    have hstored := hstores _ rfl
    dsimp only at hstored ⊢
    generalize (if metadata.isFullUpsert = true then client₁
      else client₁.modifyEntity e (·.protectReferencedBaseline metadata.baselineFrame)) = client₂ at hstored ⊢
    generalize client₂.applyUpsertRecord e (client₁.upsertCall e metadata record) metadata record =
      result at hstored
    obtain ⟨applied, reason⟩ := result
    cases reason with
    | some reason => exact hstored
    | none =>
      dsimp only
      unfold finishUpsert
      split
      · exact ⟨⟨hstored.1.settings, hstored.1.options, hstored.1.clientId⟩, hstored.2⟩
      · exact hstored

end

/-! ## Reading what was written -/

section

variable {R : Type} {α β : Type} {m : ReadM R α} {next : α → ReadM R β} {front back : Bits}
  {P : α → Prop} {Q : β → Prop}

theorem ReadM.bind_of_error {s s' : ReplicationClient R × Bits} {reason : String}
    (h : m s = .error reason s') : (m >>= next) s = .error reason s' := by
  change EStateM.bind m next s = _
  simp only [EStateM.bind, h]

def Takes (m : ReadM R α) (front : Bits) (P : α → Prop) : Prop :=
  ∀ client rest a s, m (client, front ++ rest) = .ok a s → s.2 = rest ∧ P a

theorem takes_pure {a : α} (h : P a) : Takes (pure a : ReadM R α) [] P := by
  intro client rest b s hrun
  cases hrun
  exact ⟨rfl, h⟩

theorem takes_throw (reason : String) : Takes (throw reason : ReadM R α) front P := by
  intro client rest b s hrun
  cases hrun

theorem takes_throw_bind {γ : Type} (reason : String) (f : γ → ReadM R α) :
    Takes (throw reason >>= f) front P := by
  intro client rest b s hrun
  cases hrun

theorem takes_field {read : Reader α} {a : α} (reason : String) (h : Reads read front a) :
    Takes (field reason read : ReadM R α) front fun b => b = a := by
  intro client rest b s hrun
  unfold field at hrun
  dsimp only at hrun
  rw [h rest] at hrun
  cases hrun
  exact ⟨rfl, rfl⟩

theorem takes_client : Takes (ReadM.client : ReadM R (ReplicationClient R)) [] fun _ => True := by
  intro client rest b s hrun
  cases hrun
  exact ⟨rfl, trivial⟩

theorem takes_setClient (client : ReplicationClient R) : Takes (setClient client) [] fun _ => True := by
  intro client rest b s hrun
  cases hrun
  exact ⟨rfl, trivial⟩

theorem takes_networkIdForWire (w : Nat) :
    Takes (networkIdForWire w : ReadM R ClientEntityNetworkId) [] fun _ => True := by
  intro client rest b s hrun
  cases hrun
  exact ⟨rfl, trivial⟩

theorem Takes.bind (hm : Takes m front P) (hnext : ∀ a, P a → Takes (next a) back Q) :
    Takes (m >>= next) (front ++ back) Q := by
  intro client rest b s hrun
  change EStateM.bind m next _ = _ at hrun
  unfold EStateM.bind at hrun
  rw [List.append_assoc] at hrun
  cases hfirst : m (client, front ++ (back ++ rest)) with
  | error reason s' =>
    rw [hfirst] at hrun
    cases hrun
  | ok a s' =>
    rw [hfirst] at hrun
    obtain ⟨client', left⟩ := s'
    obtain ⟨rfl, ha⟩ := hm client _ a _ hfirst
    exact hnext a ha client' rest b s hrun

theorem Takes.bind_nil (hm : Takes m front P) (hnext : ∀ a, P a → Takes (next a) [] Q) :
    Takes (m >>= next) front Q := by
  have h := hm.bind hnext
  rwa [List.append_nil] at h

theorem Takes.nil_bind (hm : Takes m [] P) (hnext : ∀ a, P a → Takes (next a) front Q) :
    Takes (m >>= next) front Q :=
  hm.bind hnext

theorem takes_readFullMetadata {frame : SyncFrame} {w : Nat} {id : ClientEntityNetworkId} {archetype : SyncArchetypeId}
    (h : archetype < 2 ^ 32) :
    Takes (readFullMetadata frame w id : ReadM R UpsertMetadata) (unsignedBits archetype 32) fun metadata =>
      metadata.isFullUpsert = true ∧ metadata.archetype = archetype ∧ metadata.baselineFrame = 0 ∧
        metadata.previousBaseline = none := by
  unfold readFullMetadata
  refine takes_client.nil_bind fun _ _ => ?_
  dsimp only
  split
  · exact takes_throw_bind _ _
  refine takes_client.nil_bind fun _ _ => ?_
  refine (takes_field _ (reads_unsignedBits h)).bind_nil ?_
  intro found hfound
  subst hfound
  refine takes_client.nil_bind fun _ _ => ?_
  split
  · exact takes_throw_bind _ _
  split
  · exact takes_pure ⟨rfl, rfl, rfl, rfl⟩
  · split
    · exact takes_throw_bind _ _
    split
    · exact takes_throw_bind _ _
    split
    · refine takes_client.nil_bind fun _ _ => ?_
      exact (takes_setClient _).nil_bind fun _ _ => takes_pure ⟨rfl, rfl, rfl, rfl⟩
    · exact takes_pure ⟨rfl, rfl, rfl, rfl⟩

theorem takes_readDeltaMetadata {frame baselineFrame : Nat} {w : Nat} {id : ClientEntityNetworkId}
    (h : baselineFrame < 2 ^ 32) :
    Takes (readDeltaMetadata frame w id : ReadM R UpsertMetadata) (writeBaselineFrame frame baselineFrame)
      fun metadata =>
      metadata.isFullUpsert = false ∧ metadata.baselineFrame = baselineFrame := by
  have hread : Reads (readBaselineFrame frame) (writeBaselineFrame frame baselineFrame) baselineFrame :=
    reads_frameBack h
  unfold readDeltaMetadata
  refine takes_client.nil_bind fun _ _ => ?_
  split
  · exact takes_throw _
  dsimp only
  split
  · exact takes_throw_bind _ _
  refine takes_client.nil_bind fun _ _ => ?_
  split
  · exact takes_throw_bind _ _
  split
  · exact takes_throw_bind _ _
  refine (takes_field _ hread).bind_nil ?_
  intro found hfound
  subst hfound
  split
  · exact takes_throw _
  · exact takes_pure ⟨rfl, rfl⟩

theorem takes_readUpsertMetadata {frame : SyncFrame} {w : Nat} {archetype : SyncArchetypeId}
    {baseline : Option (SyncFrame × QuantizedFrameData)} (harchetype : archetype < 2 ^ 32)
    (hframe : ∀ b, baseline = some b → (b.1 : Nat) < 2 ^ 32) :
    Takes (readUpsertMetadata frame w : ReadM R UpsertMetadata) (encodeMetadata frame archetype baseline)
      fun metadata =>
      metadata.isFullUpsert = baseline.isNone ∧ metadata.baselineFrame = (baseline.map Prod.fst).getD 0 ∧
      (baseline = none → metadata.archetype = archetype ∧ metadata.previousBaseline = none) := by
  unfold readUpsertMetadata
  cases baseline with
  | none =>
    refine (@Takes.bind R _ _ _ _ [true] (unsignedBits archetype 32) _ _ (takes_field _ (reads_bit true)) ?_ : _)
    intro full hfull
    subst hfull
    refine (takes_networkIdForWire w).nil_bind fun id _ => ?_
    dsimp only
    split
    · exact takes_throw_bind _ _
    · intro client rest metadata s hrun
      obtain ⟨hrest, hfull, hkind, hbaseline, hprevious⟩ :=
        takes_readFullMetadata harchetype client rest metadata s hrun
      exact ⟨hrest, hfull, hbaseline, fun _ => ⟨hkind, hprevious⟩⟩
  | some b =>
    refine (@Takes.bind R _ _ _ _ [false] (writeBaselineFrame frame b.1) _ _ (takes_field _ (reads_bit false)) ?_ : _)
    intro full hfull
    subst hfull
    refine (takes_networkIdForWire w).nil_bind fun id _ => ?_
    dsimp only
    split
    · exact takes_throw_bind _ _
    · intro client rest metadata s hrun
      obtain ⟨hrest, hdelta, hbaseline⟩ := takes_readDeltaMetadata (hframe b rfl) client rest metadata s hrun
      exact ⟨hrest, hdelta, hbaseline, fun hnone => by cases hnone⟩

end

/-! ### Records -/

/-- What the operations of the registered components keep: a quantized value fills its block, and `deserialize` takes
back what `serialize` wrote. -/
structure SyncSettings.Faithful (settings : SyncSettings) : Prop where
  inverts : settings.Inverts
  sizes : ∀ definition ∈ settings.archetypes, ∀ c ∈ definition.components, ∀ value,
    (c.ops.quantize value).length = c.ops.quantizedSize
  ids : settings.archetypes.length ≤ 2 ^ 32

section

variable {definition : SyncArchetype} {mask wider : Mask} {a b c : QuantizedFrameData}

theorem Agrees.refl (definition : SyncArchetype) (mask : Mask) (a : QuantizedFrameData) : Agrees definition mask a a :=
  ⟨rfl, fun _ _ _ => rfl⟩

theorem Agrees.narrow (h : Agrees definition wider a b) (hmask : MaskLe mask wider) : Agrees definition mask a b :=
  ⟨h.tags, fun i hi hbit => h.components i hi (hmask i hbit)⟩

theorem SameData.agrees (h : SameData definition a b) (h' : Agrees definition mask b c) :
    Agrees definition mask a c := by
  refine ⟨?_, fun i hi hbit => (h.components i hi).trans (h'.components i hi hbit)⟩
  rw [h.tags]
  exact h'.tags

theorem WellFormedData.sized {settings : SyncSettings} {archetype : SyncArchetypeId} (h : WellFormedData definition a)
    (hf : settings.Faithful) (hdef : settings.archetypes[archetype]? = some definition) : SizedData definition a := by
  intro i c bytes hc hbytes
  obtain ⟨value, rfl⟩ := h.quantized i c bytes hc hbytes
  exact hf.sizes definition (List.mem_of_getElem? hdef) c (List.mem_of_getElem? hc) value

end

section

variable {R : Type} {client : ReplicationClient R} {settings : SyncSettings} {written : List WrittenRecord}
  {w : WrittenRecord} {core : ServerCore} {state : ClientEntityState} {quantized : QuantizedFrame}
  {definition : SyncArchetype}
  {mask : Mask} {record : UpdateRecord} {cues : List PendingCue} {full : Bool}

/-- The client reads an update record as it was written, when its baseline agrees with the one the record was written
against, or refuses it. -/
theorem readUpsert_written (hf : settings.Faithful) (hsettings : client.settings = settings)
    (h : UpdateFrom settings written w core state quantized definition mask record cues full)
    {values : List Bytes} (hcues : List.Forall₂ (CueWritten settings) record.cues values)
    (hframes : ∀ b, deltaBaseline core state quantized.archetype quantized.data = some b → b.1 < 2 ^ 32)
    (hpresent : ∀ e s, client.store.findByClientEntityNetworkId
      (client.store.clientEntityNetworkIdForWire client.clientId w.networkId).2 = some (e, s) → s.absent = false)
    (hheld : ∀ b, deltaBaseline core state quantized.archetype quantized.data = some b → ∀ e s data,
      client.store.findByWireId w.networkId = some (e, s) → s.absent = false → s.findBaseline b.1 = some data →
      s.archetype = quantized.archetype ∧ Agrees definition mask data b.2) (rest : Bits) :
    let front := encodeMetadata quantized.frame quantized.archetype
      (deltaBaseline core state quantized.archetype quantized.data) ++ (encodeBody definition record.body ++
        writePendingCues quantized.frame record.cues)
    (∃ reason s, readUpsert quantized.frame w.networkId (client, front ++ rest) = .error reason s) ∨
      ∃ metadata found client', readUpsert quantized.frame w.networkId (client, front ++ rest) =
          .ok (metadata, found) (client', rest) ∧
        metadata.archetype = quantized.archetype ∧ metadata.isFullUpsert = metadata.previousBaseline.isNone ∧
        FrameDecoded definition mask quantized.data metadata.previousBaseline found.authoritative := by
  have harchetype : quantized.archetype < 2 ^ 32 :=
    Nat.lt_of_lt_of_le (List.getElem?_eq_some_iff.mp h.archetype).1 hf.ids
  have htakes := @takes_readUpsertMetadata R quantized.frame w.networkId quantized.archetype _ harchetype hframes
  have hgives := @gives_readUpsertMetadata R client quantized.frame w.networkId hpresent
  generalize hback : encodeBody definition record.body ++ writePendingCues quantized.frame record.cues = back
  dsimp only
  rw [List.append_assoc]
  have hread := hgives (encodeMetadata quantized.frame quantized.archetype
    (deltaBaseline core state quantized.archetype quantized.data) ++ (back ++ rest))
  have htaken := htakes client (back ++ rest)
  unfold readUpsert
  cases hrun : readUpsertMetadata quantized.frame w.networkId
    (client, encodeMetadata quantized.frame quantized.archetype
      (deltaBaseline core state quantized.archetype quantized.data) ++ (back ++ rest)) with
  | error reason s =>
    exact .inl ⟨reason, s, ReadM.bind_of_error hrun⟩
  | ok metadata s =>
    rw [ReadM.bind_of_ok hrun]
    rw [hrun] at hread
    obtain ⟨client₁, left⟩ := s
    obtain ⟨htouched, -, -, hfits⟩ := hread
    obtain ⟨rfl, hkind, hbaselineFrame, hfull⟩ := htaken metadata _ hrun
    -- the metadata are those of a record read against the client's baseline
    obtain ⟨baseline, hmeta, hbase⟩ : ∃ baseline : Option (SyncFrame × QuantizedFrameData),
        MetadataOf quantized.frame w.networkId metadata.clientEntityNetworkId quantized.archetype baseline metadata ∧
        Option.Rel (fun s c => c.1 = s.1 ∧ Agrees definition mask c.2 s.2)
          (deltaBaseline core state quantized.archetype quantized.data) baseline := by
      cases hdelta : deltaBaseline core state quantized.archetype quantized.data with
      | none =>
        rw [hdelta] at hkind hbaselineFrame
        obtain ⟨hsame, hprevious⟩ := hfull hdelta
        exact ⟨none, ⟨hkind, hfits.atFrame, hfits.atWire, rfl, hsame, hbaselineFrame, hprevious⟩, .none⟩
      | some b =>
        rw [hdelta] at hkind hbaselineFrame
        rcases hfits.kind with hfullFits | hdeltaFits
        · rw [hfullFits.full] at hkind
          cases hkind
        · obtain ⟨e, s, data, hfound, -, habsent, hsame, -, hprevious, hfind⟩ := hdeltaFits.found
          have hat : metadata.baselineFrame = b.1 := hbaselineFrame
          rw [hat] at hfind
          obtain ⟨hof, hagrees⟩ := hheld b hdelta e s data hfound habsent hfind
          exact ⟨some (b.1, data), ⟨hkind, hfits.atFrame, hfits.atWire, rfl, hsame.trans hof, hat, hprevious⟩,
            .some ⟨rfl, hagrees⟩⟩
    have hsettings₁ : client₁.settings = settings := htouched.settings.trans hsettings
    obtain ⟨found, hbody, hdecoded⟩ :=
      @BodyWritten.read R client₁ core state quantized definition mask record.body full w.networkId
      metadata.clientEntityNetworkId metadata baseline h.body (hf.inverts definition (List.mem_of_getElem? h.archetype))
      h.data.tagCount h.data.componentCount (h.data.sized hf h.archetype)
      (fun b hb => (h.baseline b hb).1.sized hf h.archetype) hbase hmeta (by rw [hsettings₁]; exact h.archetype)
    have hrest :=
      @ReadsTo.andCues R client₁ metadata quantized.frame record.cues values found (encodeBody definition record.body)
      hbody (by rw [hsettings₁]; exact hcues)
    obtain ⟨client₂, -, hlast⟩ := hrest client₁ (.refl client₁) rest
    rw [hback] at hlast
    have hfull : metadata.isFullUpsert = metadata.previousBaseline.isNone := by
      rw [hmeta.isFullUpsert, hmeta.previousBaseline, Option.isNone_map]
    rw [← hmeta.previousBaseline] at hdecoded
    exact .inr ⟨metadata, _, client₂, hlast, hmeta.archetype, hfull, hdecoded⟩

end

/-! ## What the client stored -/

structure SameRecords {R : Type} (client client' : ReplicationClient R) : Prop where
  session : SameSession client client'
  upserts : client'.upserts = client.upserts

section

variable {R : Type} [LocalRegistry R] {client client' client'' : ReplicationClient R} {e : Nat}
  {frame : SyncFrame} {w : Nat}

omit [LocalRegistry R] in
theorem StoresNothing.records (h : StoresNothing client client') : SameRecords client client' :=
  ⟨h.session, h.upserts⟩

omit [LocalRegistry R] in
theorem SameRecords.trans (h : SameRecords client client') (h' : SameRecords client' client'') :
    SameRecords client client'' :=
  ⟨h.session.trans h'.session, h'.upserts.trans h.upserts⟩

theorem eraseEntityState_records (client : ReplicationClient R) (e : Nat) (destroyLocal : Bool) :
    SameRecords client (client.eraseEntityState e destroyLocal) := by
  unfold eraseEntityState
  split
  · exact ⟨.refl client, rfl⟩
  · split
    · exact ⟨.refl client, rfl⟩
    · exact ⟨⟨rfl, rfl, rfl⟩, rfl⟩

theorem applyBufferedDestroy_records (client : ReplicationClient R) (e : Nat) (frame : SyncFrame) :
    SameRecords client (client.applyBufferedDestroy e frame).1 := by
  have hmarked : StoresNothing client
      ((client.modifyEntity e (·.markModeSelected .bufferedInterpolation)).ensureBufferedRing e) :=
    (storesNothing_markModeSelected client e _).trans (.of_eq rfl rfl ⟨rfl, rfl, rfl⟩)
  unfold applyBufferedDestroy
  dsimp only
  generalize ((client.modifyEntity e (·.markModeSelected .bufferedInterpolation)).ensureBufferedRing e) =
    marked at hmarked
  have hfilled := hmarked.trans (storesNothing_fillBufferedFrames marked e frame none)
  generalize marked.fillBufferedFrames e frame none = result at hfilled
  obtain ⟨filled, ok⟩ := result
  cases ok with
  | false => exact hfilled.records
  | true =>
    have hsync := storesNothing_sync (filled.modifyEntity e (·.recordAuthoritativeAbsent frame)) e
    have hrecorded : SameRecords filled (filled.recordAbsent e frame) :=
      ⟨⟨hsync.session.settings, hsync.session.options, hsync.session.clientId⟩, hsync.upserts⟩
    have hrecorded := hfilled.records.trans hrecorded
    dsimp only
    generalize filled.recordAbsent e frame = recorded at hrecorded
    split
    · have hpassed := hrecorded.trans (storesNothing_applyPassedSample recorded e frame).records
      generalize recorded.applyPassedSample e frame = result at hpassed
      obtain ⟨applied, ok⟩ := result
      cases ok with
      | false => exact hpassed
      | true => exact hpassed.trans (eraseEntityState_records applied e false)
    · exact hrecorded

/-- `apply_destroy` -/
theorem applyDestroy_records (client : ReplicationClient R) (frame : SyncFrame) (w : Nat) :
    SameRecords client (client.applyDestroy frame w).1 := by
  have htombstone : ∀ client : ReplicationClient R, SameRecords client (client.recordDestroyTombstone w frame).1 :=
    fun _ =>
    ⟨⟨rfl, rfl, rfl⟩, rfl⟩
  have hadvance : ∀ client : ReplicationClient R, SameRecords client (client.advanceWireNetworkIdVersion w) :=
    fun client => by
    unfold advanceWireNetworkIdVersion
    split
    · exact ⟨.refl client, rfl⟩
    · exact ⟨⟨rfl, rfl, rfl⟩, rfl⟩
  have hlog : ∀ (client : ReplicationClient R) (call : ClientCall), call.upsert? = none →
      SameRecords client (client.logCall call) :=
    fun _ _ h => (storesNothing_logCall h).records
  unfold applyDestroy
  split
  · have hrecorded := htombstone client
    generalize client.recordDestroyTombstone w frame = result at hrecorded
    obtain ⟨recorded, outcome⟩ := result
    cases outcome with
    | ignored => exact ⟨.refl client, rfl⟩
    | inserted => exact (hrecorded.trans (hadvance recorded)).trans (hlog _ _ rfl)
    | updated => exact hrecorded.trans (hlog _ _ rfl)
  · rename_i i s hfound
    have hmode : SameRecords client (client.applyDestroyForMode s frame).1 := by
      unfold applyDestroyForMode
      split
      · split
        · exact ⟨.refl client, rfl⟩
        · exact applyBufferedDestroy_records client _ frame
      · split
        · exact ⟨.refl client, rfl⟩
        · unfold applyImmediateDestroy
          split
          · exact ⟨.refl client, rfl⟩
          · exact eraseEntityState_records client _ true
      · split
        · exact ⟨.refl client, rfl⟩
        · split
          · exact ⟨.refl client, rfl⟩
          · exact eraseEntityState_records client _ true
    generalize client.applyDestroyForMode s frame = result at hmode
    obtain ⟨applied, reason⟩ := result
    cases reason with
    | some reason => exact hmode
    | none => exact ((hmode.trans (htombstone applied)).trans (hadvance _)).trans (hlog _ _ rfl)

/-- `apply_frame` -/
theorem applyFrame_records (client : ReplicationClient R) (frame : SyncFrame) (policy : MissingBufferedFramePolicy) :
    SameRecords client (client.applyFrame frame policy).1 := by
  have hloop : ∀ (members : List Nat) (loop : FrameLoop R),
      SameRecords loop.client (members.foldl (applyFrameTo frame policy) loop).client := by
    intro members
    induction members with
    | nil => exact fun loop => ⟨.refl _, rfl⟩
    | cons e members ih => exact fun loop => (storesNothing_applyFrameTo frame policy loop e).records.trans (ih _)
  have herase : ∀ (destroys : List Nat) (client : ReplicationClient R),
      SameRecords client (destroys.foldl (fun client e => client.eraseEntityState e false) client) := by
    intro destroys
    induction destroys with
    | nil => exact fun client => ⟨.refl client, rfl⟩
    | cons e destroys ih => exact fun client => (eraseEntityState_records client e false).trans (ih _)
  have hmarked : SameRecords client { client with bufferedRuntime := { client.bufferedRuntime with
      lastAppliedBufferedFrame := frame, hasAppliedBufferedFrame := true } } := ⟨⟨rfl, rfl, rfl⟩, rfl⟩
  unfold applyFrame
  dsimp only
  split
  · exact hmarked
  · refine SameRecords.trans ?_ (quiet_setCueStore _ _).storesNothing.records
    refine SameRecords.trans ?_ (herase _ _)
    exact hmarked.trans (hloop _ { client := { client with bufferedRuntime := { client.bufferedRuntime with
      lastAppliedBufferedFrame := frame, hasAppliedBufferedFrame := true } } })

theorem LeavesReplicated.records (h : LeavesReplicated client client') : SameRecords client client' := by
  refine ⟨⟨h.settings, h.options, h.clientId⟩, ?_⟩
  obtain ⟨calls, htrace, hcalls⟩ := h.trace
  unfold ReplicationClient.upserts
  rw [htrace, List.filterMap_append]
  have hnone : calls.filterMap ClientCall.upsert? = [] := by
    refine List.filterMap_eq_nil_iff.mpr fun call hcall => ?_
    rcases hcalls call hcall with ⟨play, rfl⟩ | ⟨sample, rfl, _⟩
    · rfl
    · rfl
  rw [hnone, List.nil_append]

end

/-! ## Agreement -/

structure StoredFrom (settings : SyncSettings) (call : UpsertCall) (w : WrittenRecord) : Prop where
  networkId : w.networkId = call.wireNetworkId
  frame : w.frame = call.frame
  content : ∃ slot q definition data mask record cues, w.content = .update slot q call.archetype data
    mask record cues ∧
    settings.archetypes[call.archetype]? = some definition ∧ Agrees definition mask call.after.baseline data

/-- The records stored before `call` for its entity. -/
def UpsertCall.sameEntity (call : UpsertCall) (earlier : List UpsertCall) : List UpsertCall :=
  sinceCreated (earlier.filter fun old => old.clientEntityNetworkId == call.clientEntityNetworkId)

/-- The record was written with component `i` masked out. -/
def WrittenRecord.MasksOut (w : WrittenRecord) (i : Nat) : Prop :=
  ∃ slot q archetype data mask record cues, w.content = .update slot q archetype data mask record cues ∧
    mask.getLsbD i = false

/-- Component `i` of what is stored for a record that does not bring it: a full record has none, a delta has that of
its baseline. -/
inductive Carries (call : UpsertCall) (earlier : List UpsertCall) (i : Nat) : Prop where
  | full : call.baselineFrame = none → frameComponentData call.after.baseline i = none → Carries call earlier i
  | delta {base : UpsertCall} : base ∈ call.sameEntity earlier → call.baselineFrame = some base.frame →
      frameComponentData call.after.baseline i = frameComponentData base.after.baseline i → Carries call earlier i

def CarriesMasked (settings : SyncSettings) (earlier : List UpsertCall) (call : UpsertCall) (w : WrittenRecord) :
    Prop :=
  ∀ definition, settings.archetypes[call.archetype]? = some definition → ∀ i < definition.components.length,
    w.MasksOut i → Carries call earlier i

structure AgreedCall (settings : SyncSettings) (written : List WrittenRecord) (clientId : ClientId)
    (earlier : List UpsertCall) (call : UpsertCall) : Prop where
  wire : call.wireNetworkId ≤ maxClientLocalWireNetworkId
  id : ∃ version < 2 ^ 32, call.clientEntityNetworkId = makeClientEntityNetworkId (networkIdClient clientId)
    call.wireNetworkId version
  source : ∃ w ∈ written, StoredFrom settings call w ∧ CarriesMasked settings earlier call w

def Agreed {R : Type} (settings : SyncSettings) (written : List WrittenRecord) (client : ReplicationClient R) : Prop :=
  ∀ call earlier, call :: earlier <:+ client.upserts → AgreedCall settings written client.clientId earlier call

theorem Agreed.of_mem {R : Type} {settings : SyncSettings} {written : List WrittenRecord}
    {client : ReplicationClient R} (h : Agreed settings written client) {call : UpsertCall}
    (hcall : call ∈ client.upserts) : ∃ earlier, AgreedCall settings written client.clientId earlier call := by
  obtain ⟨later, earlier, heq⟩ := List.append_of_mem hcall
  exact ⟨earlier, h call earlier ⟨later, heq.symm⟩⟩

theorem Agreed.same {R : Type} {settings : SyncSettings} {written : List WrittenRecord}
    {client client' : ReplicationClient R} (h : Agreed settings written client) (hsame : SameRecords client client') :
    Agreed settings written client' := by
  unfold Agreed
  rw [hsame.upserts, hsame.session.clientId]
  exact h

section

variable {records : List UpsertCall} {call : UpsertCall} {s : EntityState} {frame : SyncFrame}

theorem mem_sinceCreated : ∀ {records : List UpsertCall}, call ∈ sinceCreated records → call ∈ records
  | [], h => h
  | later :: records, h => by
    rw [sinceCreated_cons] at h
    split at h
    · rw [List.mem_singleton.mp h]
      exact List.mem_cons_self
    · rcases List.mem_cons.mp h with heq | hearlier
      · rw [heq]
        exact List.mem_cons_self
      · exact List.mem_cons_of_mem later (mem_sinceCreated hearlier)

theorem mem_recordsOf {R : Type} {client : ReplicationClient R} {e : Nat} (h : call ∈ client.recordsOf e) :
    (client.entity e).frame ≠ 0 ∧ call ∈ client.upserts ∧
      call.clientEntityNetworkId = (client.entity e).clientEntityNetworkId := by
  unfold ReplicationClient.recordsOf at h
  split at h
  · cases h
  · rename_i hframe
    obtain ⟨hmem, hid⟩ := List.mem_filter.mp (mem_sinceCreated h)
    exact ⟨hframe, hmem, by simpa using hid⟩

theorem Retained.found_call (h : Retained records s) {data : QuantizedFrameData}
    (hfound : s.findBaseline frame = some data) :
    ∃ call ∈ records, call.frame = frame ∧ data = call.after.baseline := by
  rw [h.findBaseline_eq] at hfound
  obtain ⟨call, hor, rfl⟩ := Option.map_eq_some_iff.mp hfound
  rcases Option.or_eq_some_iff.mp hor with hnewest | ⟨-, hpinned⟩
  · obtain ⟨hnewest, hframe⟩ := Option.filter_eq_some_iff.mp hnewest
    exact ⟨call, (newestInSlot_eq_some hnewest).1, by simpa using hframe, rfl⟩
  · obtain ⟨hpinned, hframe⟩ := Option.filter_eq_some_iff.mp hpinned
    exact ⟨call, mem_of_pinnedRecord hpinned, by simpa using hframe, rfl⟩

end

section

variable {R : Type} [LocalRegistry R] {client client' : ReplicationClient R} {settings : SyncSettings}
  {written : List WrittenRecord}
  {w v : WrittenRecord} {frame : SyncFrame} {archetype : SyncArchetypeId} {definition : SyncArchetype} {mask : Mask}
  {data : QuantizedFrameData}

/-- The baseline a client finds agrees with the one the server wrote the delta against. -/
theorem Agreed.held (h : Agreed settings written client) (hretains : Retains client) (hok : ClientOk client)
    (hversions : ∀ w, (client.store.wireNetworkIds w).version < 2 ^ 32) (hordered : written.Pairwise InOrder)
    (hrange : w.networkId ≤ maxClientLocalWireNetworkId) (hearlier : EarlierUpdate w archetype mask frame data v)
    (hv : v ∈ written) (hdef : settings.archetypes[archetype]? = some definition) {e : Nat} {s : EntityState}
    {found : QuantizedFrameData} (hfound : client.store.findByWireId w.networkId = some (e, s))
    (hfind : s.findBaseline frame = some found) :
    s.archetype = archetype ∧ Agrees definition mask found data := by
  obtain ⟨-, hmapped, hget, -⟩ := findByWireId_eq_some.mp hfound
  obtain rfl : client.entity e = s := entity_of_getElem? hget
  obtain ⟨hwire, hcurrent, -⟩ := hok.wires w.networkId e hmapped
  have hretained := hretains e (hok.present e (by rw [hwire, hcurrent]))
  obtain ⟨call, hcall, hframe, rfl⟩ := hretained.found_call hfind
  obtain ⟨hstarted, hmem, hid⟩ := mem_recordsOf hcall
  obtain ⟨-, hcallWire, ⟨version, hversion, hmade⟩, w', hw', hsource, -⟩ := h.of_mem hmem
  -- the record it was stored for is the one the server's baseline was written from
  have hids : makeClientEntityNetworkId (networkIdClient client.clientId) call.wireNetworkId version =
      makeClientEntityNetworkId (networkIdClient client.clientId) w.networkId
        (client.store.wireNetworkIds w.networkId).version :=
    hmade.symm.trans (hid.trans hcurrent)
  obtain ⟨hsame, -⟩ := makeClientEntityNetworkId_inj hcallWire hrange hversion (hversions w.networkId) hids
  obtain ⟨slot, q, definition', data', mask', record, cues, hcontent, hdef', hagrees⟩ := hsource.content
  obtain ⟨slot', q', wider, record', cues', hcontent', hwider⟩ := hearlier.content
  obtain rfl : w' = v := by
    refine eq_of_inOrder hordered hw' hv ?_ ?_ ?_ ?_
    · simp [WrittenRecord.slot?, hcontent]
    · simp [WrittenRecord.slot?, hcontent']
    · rw [hsource.networkId, hsame, hearlier.networkId]
    · rw [hsource.frame, hframe, hearlier.frame]
  rw [hcontent] at hcontent'
  simp only [WrittenContent.update.injEq] at hcontent'
  obtain ⟨-, -, hkind, rfl, rfl, -, -⟩ := hcontent'
  rw [hkind, hdef] at hdef'
  obtain rfl := Option.some.inj hdef'
  exact ⟨(hretained.kinds hstarted call hcall).symm.trans hkind, hagrees.narrow hwider⟩

end

/-! ## Packets that are taken -/

def CuesWritten (settings : SyncSettings) (w : WrittenRecord) : Prop :=
  ∀ slot q archetype data mask record cues, w.content = .update slot q archetype data mask record cues →
    ∃ values, List.Forall₂ (CueWritten settings) record.cues values

structure Served (settings : SyncSettings) (written : List WrittenRecord) : Prop where
  faithful : settings.Faithful
  source : ∀ w ∈ written, WrittenFrom settings written w
  range : ∀ w ∈ written, 0 < w.networkId ∧ w.networkId ≤ maxClientLocalWireNetworkId
  frames : ∀ w ∈ written, w.slot? ≠ none → 0 < w.frame ∧ w.frame < 2 ^ 32
  ordered : written.Pairwise InOrder
  cues : ∀ w ∈ written, CuesWritten settings w

/-- A read of what was written: the client satisfies `P` afterwards, and nothing more was read than `front`, unless it
failed. -/
def LeavesAfter {R α : Type} (m : ReadM R α) (client : ReplicationClient R) (front : Bits)
    (P : ReplicationClient R → Prop) : Prop :=
  ∀ rest, match m (client, front ++ rest) with
    | .ok _ (client', left) => P client' ∧ left = rest
    | .error _ (client', _) => P client'

section

variable {R : Type} [LocalRegistry R] {client client' : ReplicationClient R} {settings : SyncSettings}
  {written : List WrittenRecord}
  {w : WrittenRecord} {tier0Bits : Nat} {P : ReplicationClient R → Prop}

theorem reads_recordHeader {destroy : Bool} (h : w.networkId ≤ maxClientLocalWireNetworkId) :
    Reads (do
      let destroy ← readBit
      let wireNetworkId ← readNetworkEntityId tier0Bits
      pure (destroy, wireNetworkId)) ([destroy] ++ writeNetworkEntityId w.networkId tier0Bits)
        (destroy, w.networkId) := by
  have hid : w.networkId < 2 ^ 32 := Nat.lt_of_le_of_lt h (by decide)
  exact (reads_bit destroy).bind ((reads_networkEntityId hid).bind_nil (.pure _))

def StillAgreed (settings : SyncSettings) (written : List WrittenRecord) (client client' : ReplicationClient R) :
    Prop :=
  SameSession client client' ∧ Agreed settings written client'

/-- The baseline of a delta is what was stored for an earlier record of its entity. -/
def BaselineRecorded (metadata : UpsertMetadata) (records : List UpsertCall) : Prop :=
  if metadata.isFullUpsert then metadata.previousBaseline = none
  else
    ∃ base ∈ sinceCreated (records.filter fun old => old.clientEntityNetworkId == metadata.clientEntityNetworkId),
      base.frame = metadata.baselineFrame ∧ metadata.previousBaseline = some base.after.baseline

omit [LocalRegistry R] in
theorem BaselineRecorded.carries {metadata : UpsertMetadata} {records : List UpsertCall} {call : UpsertCall} {i : Nat}
    (h : BaselineRecorded metadata records) (hid : call.clientEntityNetworkId = metadata.clientEntityNetworkId)
    (hbaseline : call.baselineFrame = if metadata.isFullUpsert then none else some metadata.baselineFrame)
    (hcomponent : frameComponentData call.after.baseline i =
      metadata.previousBaseline.bind fun data => frameComponentData data i) : Carries call records i := by
  unfold BaselineRecorded at h
  split at h
  · rename_i hfull
    rw [if_pos hfull] at hbaseline
    rw [h] at hcomponent
    exact .full hbaseline hcomponent
  · rename_i hdelta
    obtain ⟨base, hmem, hframe, hprevious⟩ := h
    rw [if_neg hdelta] at hbaseline
    rw [hprevious] at hcomponent
    refine @Carries.delta call records i base ?_ (hbaseline.trans (congrArg some hframe.symm)) hcomponent
    rw [UpsertCall.sameEntity, hid]
    exact hmem

theorem baselineRecorded (hok : ClientOk client') (hretains : Retains client') (htouched : Touched client client')
    {frame : SyncFrame} {x : Nat} {metadata : UpsertMetadata} {record : AuthoritativeUpsertRecord}
    (hread : RecordRead client client' frame x metadata record)
    (hfull : metadata.isFullUpsert = metadata.previousBaseline.isNone) : BaselineRecorded metadata client'.upserts := by
  unfold BaselineRecorded
  rcases hread.fits.kind with hfullFits | hdelta
  · rw [if_pos hfullFits.full]
    rw [hfullFits.full] at hfull
    exact Option.isNone_iff_eq_none.mp hfull.symm
  · rw [if_neg (by rw [hdelta.delta]; exact Bool.false_ne_true)]
    obtain ⟨i, s, baseline, hwireFound, -, -, -, -, hprevious, hbaseline⟩ := hdelta.found
    rw [← htouched.findByWireId] at hwireFound
    obtain ⟨-, hmapped, hget, -⟩ := findByWireId_eq_some.mp hwireFound
    obtain rfl : client'.entity i = s := entity_of_getElem? hget
    obtain ⟨hwire, hcurrent, -⟩ := hok.wires x i hmapped
    obtain ⟨base, hbase, hframe, rfl⟩ := (hretains i (hok.present i (by rw [hwire, hcurrent]))).found_call hbaseline
    refine ⟨base, ?_, hframe, hprevious⟩
    unfold ReplicationClient.recordsOf at hbase
    split at hbase
    · cases hbase
    · rw [hread.forId htouched, ← hcurrent]
      exact hbase

omit [LocalRegistry R] in
theorem Agreed.stored (h : Agreed settings written client') (hw : w ∈ written) {metadata : UpsertMetadata}
    {record : AuthoritativeUpsertRecord} (hversions : ∀ w, (client'.store.wireNetworkIds w).version < 2 ^ 32)
    (htouched : Touched client client') (hread : RecordRead client client' w.frame w.networkId metadata record)
    {slot q : Nat} {archetype : SyncArchetypeId} {data : QuantizedFrameData} {mask : Mask} {update : UpdateRecord}
    {cues : List PendingCue} (hcontent : w.content = .update slot q archetype data mask update cues)
    {definition : SyncArchetype} (hdef : settings.archetypes[archetype]? = some definition)
    (hsettings : client'.settings = settings) (hkind : metadata.archetype = archetype)
    (hprevious : BaselineRecorded metadata client'.upserts)
    (hdecoded : FrameDecoded definition mask data metadata.previousBaseline record.authoritative)
    {applied : ReplicationClient R} (hstored : StoredAs metadata record client' applied) :
    StillAgreed settings written client' applied := by
  obtain ⟨hsession, hsame | ⟨call, definition', hupserts, hwire, hid, hframe, harchetype, hbaseline,
    hdef', hdata⟩⟩ :=
    hstored
  · exact ⟨hsession, h.same ⟨hsession, hsame⟩⟩
  rw [hsettings, hkind, hdef] at hdef'
  obtain rfl := Option.some.inj hdef'
  refine ⟨hsession, fun call' earlier hsuffix => ?_⟩
  rw [hsession.clientId]
  rw [hupserts] at hsuffix
  rcases List.suffix_cons_iff.mp hsuffix with heq | hearlier
  · obtain ⟨rfl, rfl⟩ := List.cons.inj heq
    refine ⟨?_, ?_, w, hw, ⟨?_, ?_, ?_⟩, ?_⟩
    · rw [hwire, hread.fits.atWire]
      exact hread.inRange.2
    · refine ⟨_, hversions w.networkId, ?_⟩
      rw [hid, hwire, hread.fits.atWire, hread.forId htouched]
      rfl
    · rw [hwire, hread.fits.atWire]
    · rw [hframe, hread.fits.atFrame]
    · rw [harchetype, hkind]
      exact ⟨slot, q, definition, data, mask, update, cues, hcontent, hdef, hdata.agrees hdecoded.agrees⟩
    · intro definition' hdef' i hi hmasked
      rw [harchetype, hkind, hdef] at hdef'
      obtain rfl := Option.some.inj hdef'
      obtain ⟨_, _, _, _, _, _, _, hcontent', hbit⟩ := hmasked
      rw [hcontent] at hcontent'
      simp only [WrittenContent.update.injEq] at hcontent'
      obtain ⟨-, -, -, -, rfl, -, -⟩ := hcontent'
      have hcomponent := (hdata.components i hi).trans (hdecoded.others i fun hnot => by
        rw [hbit] at hnot
        exact Bool.noConfusion hnot.2)
      exact hprevious.carries hid hbaseline hcomponent
  · exact h call' earlier hearlier

theorem applyUpdateRecord_agreed (hserved : Served settings written) (hw : w ∈ written)
    (hsettings : client.settings = settings) (hok : ClientOk client) (hretains : Retains client)
    (h : Agreed settings written client) (hversions : ∀ x, destroyCount x client.trace + 2 < 2 ^ 32)
    {core : ServerCore} {state : ClientEntityState} {quantized : QuantizedFrame} {definition : SyncArchetype}
    {slot q : Nat} {mask : Mask} {record : UpdateRecord} {cues : List PendingCue} {full : Bool}
    (hcontent : w.content = .update slot q quantized.archetype quantized.data mask record cues)
    (hfrom : UpdateFrom settings written w core state quantized definition mask record cues full) :
    LeavesAfter (do
      let (metadata, record) ← readUpsert w.frame w.networkId
      ReadM.apply fun client => client.applyUpsert metadata record) client
      (encodeMetadata quantized.frame quantized.archetype
        (deltaBaseline core state quantized.archetype quantized.data) ++
        (encodeBody definition record.body ++ writePendingCues quantized.frame record.cues))
          (StillAgreed settings written client) := by
  intro rest
  have hrange := (hserved.range w hw).2
  have hpos : 0 < w.frame := (hserved.frames w hw (by simp [WrittenRecord.slot?, hcontent])).1
  obtain ⟨values, hvalues⟩ := hserved.cues w hw _ _ _ _ _ _ _ hcontent
  have hsmall := hok.version_lt hversions
  have hearlier : ∀ b, deltaBaseline core state quantized.archetype quantized.data = some b →
      ∃ v ∈ written, EarlierUpdate w quantized.archetype mask b.1 b.2 v := fun b hb => (hfrom.baseline b hb).2
  have hresult := readUpsert_written hserved.faithful hsettings hfrom hvalues
    (fun b hb => by
      obtain ⟨v, hv, he⟩ := hearlier b hb
      obtain ⟨_, _, _, _, _, hvcontent, -⟩ := he.content
      rw [← he.frame]
      exact (hserved.frames v hv (by simp [WrittenRecord.slot?, hvcontent])).2)
    (fun e s hfound => hok.found_present hversions hfound)
    (fun b hb e s found hfound _ hfind => by
      obtain ⟨v, hv, he⟩ := hearlier b hb
      exact h.held hretains hok hsmall hserved.ordered hrange he hv hfrom.archetype hfound hfind) rest
  have hgives := @gives_readUpsert R client w.frame w.networkId (fun e s hfound => hok.found_present hversions hfound)
    (fun e s hfound _ definition hdef g baseline hbaseline => hok.found_sized hfound hdef hbaseline)
    ((encodeMetadata quantized.frame quantized.archetype
      (deltaBaseline core state quantized.archetype quantized.data) ++
      (encodeBody definition record.body ++ writePendingCues quantized.frame record.cues)) ++ rest)
  dsimp only at hresult
  rw [hfrom.frame] at hresult hgives ⊢
  rcases hresult with ⟨reason, s, hrun⟩ | ⟨metadata, found, client₁, hrun, hkind, hfull, hdecoded⟩
  · rw [hrun] at hgives
    rw [ReadM.bind_of_error hrun]
    have hsame := (Touched.storesNothing hgives).records
    exact ⟨hsame.session, h.same hsame⟩
  · rw [ReadM.bind_of_ok hrun]
    rw [hrun] at hgives
    obtain ⟨htouched, hread⟩ := hgives
    have hsame := htouched.storesNothing.records
    have hok₁ := hok.touched htouched
    have hsmall₁ := hok₁.version_lt (by rw [htouched.trace]; exact hversions)
    have hstored := applyUpsert_storedAs hok₁ hsmall₁ htouched hread hpos
    have hprevious := baselineRecorded hok₁ (hretains.same htouched.storesNothing) htouched hread hfull
    have hagreed :=
      (h.same hsame).stored hw hsmall₁ htouched hread hcontent hfrom.archetype (htouched.settings.trans hsettings)
      hkind hprevious hdecoded hstored
    unfold ReadM.apply
    dsimp only
    generalize client₁.applyUpsert metadata found = result at hagreed
    obtain ⟨applied, reason⟩ := result
    cases reason with
    | some reason => exact ⟨hsame.session.trans hagreed.1, hagreed.2⟩
    | none => exact ⟨⟨hsame.session.trans hagreed.1, hagreed.2⟩, rfl⟩

theorem applyRecord_agreed (hserved : Served settings written) (hw : w ∈ written)
    (hsettings : client.settings = settings) (hprotocol : client.options.protocol.networkEntityIdTier0Bits = tier0Bits)
    (hok : ClientOk client) (hretains : Retains client) (h : Agreed settings written client)
    (hversions : ∀ x, destroyCount x client.trace + 2 < 2 ^ 32) :
    LeavesAfter (applyRecord w.frame) client (w.bits tier0Bits settings) (StillAgreed settings written client) := by
  intro rest
  obtain ⟨hpos, hrange⟩ := hserved.range w hw
  have hheader := fun destroy => @reads_recordHeader w tier0Bits destroy hrange
  unfold applyRecord
  rw [ReadM.client_bind]
  simp only [hprotocol]
  rcases hserved.source w hw with hdestroy | ⟨hcontent, hfrom⟩
  · have hbits : w.bits tier0Bits settings = [true] ++ writeNetworkEntityId w.networkId tier0Bits := by
      simp [WrittenRecord.bits, hdestroy]
    rw [hbits, ReadM.field_bind _ (hheader true)]
    simp only [Nat.ne_of_gt hpos, if_false, if_true]
    have hsame := applyDestroy_records client w.frame w.networkId
    unfold ReadM.apply
    dsimp only
    generalize client.applyDestroy w.frame w.networkId = result at hsame
    obtain ⟨applied, reason⟩ := result
    cases reason with
    | some reason => exact ⟨hsame.session, h.same hsame⟩
    | none => exact ⟨⟨hsame.session, h.same hsame⟩, rfl⟩
  · rename_i core state quantized definition slot q mask record cues full
    have hrecord : record = { networkId := w.networkId, body := record.body, cues := record.cues } := by
      rw [← hfrom.networkId]
    have hbits : w.bits tier0Bits settings = [false] ++ writeNetworkEntityId w.networkId tier0Bits ++
        (encodeMetadata quantized.frame quantized.archetype
          (deltaBaseline core state quantized.archetype quantized.data) ++
          (encodeBody definition record.body ++ writePendingCues quantized.frame record.cues)) := by
      have hencode := @encodeUpdateRecord_eq core state quantized definition mask record.body full w.networkId
        (deltaBaseline core state quantized.archetype quantized.data) tier0Bits record.cues hfrom.body
        (by
          cases deltaBaseline core state quantized.archetype quantized.data with
          | none => exact .none
          | some b => exact .some ⟨rfl, .refl definition mask b.2⟩)
      rw [← hrecord, hfrom.frame] at hencode
      rw [hfrom.frame]
      simp only [WrittenRecord.bits, hcontent, hfrom.archetype, Option.elim_some, hencode, List.cons_append,
        List.nil_append]
    rw [hbits, List.append_assoc, ReadM.field_bind _ (hheader false)]
    simp only [Nat.ne_of_gt hpos, Bool.false_eq_true, if_false]
    exact applyUpdateRecord_agreed hserved hw hsettings hok hretains h hversions hcontent hfrom rest

end

/-! ## Runs -/

section

variable {R : Type} [LocalRegistry R] {client client' : ReplicationClient R} {settings : SyncSettings}
  {written : List WrittenRecord}
  {frame : SyncFrame} {tier0Bits : Nat} {protocol : ProtocolDescriptor} {sent : List SentPacket}

/-- A client of the server's settings and protocol that takes packets of `sent`, in any order, any number of times and
with anything behind them, and what its own calls and other code do in between. -/
inductive ClientFed (protocol : ProtocolDescriptor) (settings : SyncSettings) (sent : List SentPacket) :
    ReplicationClient R → Prop
  | init (options : ReplicationClientOptions) (clientId : ClientId) (registry : R)
    (hprotocol : options.protocol = protocol)
      (hpush : settings.PushesAll) (hcapacity : 0 < options.bufferedFrameCapacity) :
      ClientFed protocol settings sent { options, settings, clientId, registry }
  | receive {client : ReplicationClient R} {p : SentPacket} {padding packet : Bits} (h : ClientFed protocol
    settings sent client)
      (hp : p ∈ sent)
      (hmessage : readBits messageBits (p.bits protocol settings ++ padding) = some (serverUpdateMessage, packet))
      (hversions : ∀ w, destroyCount w client.trace + p.entityCount + 1 < 2 ^ 32) :
      ClientFed protocol settings sent (client.receiveEntityUpdate packet).1
  | applyFrame {client : ReplicationClient R} (h : ClientFed protocol settings sent client) (frame : SyncFrame)
      (policy : MissingBufferedFramePolicy) : ClientFed protocol settings sent (client.applyFrame frame policy).1
  | setEntityMode {client : ReplicationClient R} (h : ClientFed protocol settings sent client)
    (id : ClientEntityNetworkId)
      (mode : ReplicationClientMode) : ClientFed protocol settings sent (client.setEntityMode id mode)
  | others {client client' : ReplicationClient R} (h : ClientFed protocol settings sent client)
      (hleaves : LeavesReplicated client client') : ClientFed protocol settings sent client'

theorem applyRecords_agreed (hserved : Served settings written) (hpos : 0 < frame) (hrange : frame < 2 ^ 32) :
    ∀ (count i : Nat) (records : List WrittenRecord) (client : ReplicationClient R),
    (∀ w ∈ records, w ∈ written ∧ w.frame = frame) → count ≤ records.length →
    client.settings = settings →
    client.options.protocol.networkEntityIdTier0Bits = tier0Bits → ClientOk client → Retains client →
    Agreed settings written client →
    (∀ x, destroyCount x client.trace + count + 1 < 2 ^ 32) → ∀ rest,
    (∃ reason s,
    applyRecords frame count i (client, records.flatMap (WrittenRecord.bits tier0Bits settings) ++ rest) =
        .error reason s ∧ StillAgreed settings written client s.1) ∨
    ∃ s, applyRecords frame count i (client, records.flatMap (WrittenRecord.bits tier0Bits settings) ++ rest) =
      .ok () s ∧
      StillAgreed settings written client s.1
  | 0, _, _, client, _, _, _, _, _, _, h, _, _ => .inr ⟨_, rfl, .refl client, h⟩
  | count + 1, i, [], _, _, hcount, _, _, _, _, _, _, _ => absurd hcount (Nat.not_succ_le_zero count)
  | count + 1, i, w :: records, client, hrecords, hcount, hsettings, hprotocol, hok, hretains, h, hversions, rest => by
    obtain ⟨⟨hw, hframe⟩, hrecords⟩ := List.forall_mem_cons.mp hrecords
    have hbound : ∀ x, destroyCount x client.trace + 2 < 2 ^ 32 := fun x => by
      have hlt := hversions x
      omega
    rw [List.flatMap_cons, List.append_assoc]
    generalize htail : records.flatMap (WrittenRecord.bits tier0Bits settings) ++ rest = tail
    have hagreed :
        LeavesAfter (applyRecord frame) client (w.bits tier0Bits settings) (StillAgreed settings written client) :=
      hframe ▸ applyRecord_agreed hserved hw hsettings hprotocol hok hretains h hbound
    have hagreed := hagreed tail
    have hrecordOk := applyRecord_ok hok hbound hpos hrange (w.bits tier0Bits settings ++ tail)
    have hrecordRetains := applyRecord_retains hretains hok hbound hpos (w.bits tier0Bits settings ++ tail)
    unfold applyRecords
    cases hrun : applyRecord frame (client, w.bits tier0Bits settings ++ tail) with
    | error reason s =>
      rw [hrun] at hagreed
      have hrun' : inRecord i (applyRecord frame) (client, w.bits tier0Bits settings ++ tail) =
          .error ("record_" ++ toString i ++ "_" ++ reason) s := by
        unfold inRecord
        rw [hrun]
      exact .inl ⟨_, s, ReadM.bind_of_error hrun', hagreed⟩
    | ok a s =>
      obtain ⟨client₁, left⟩ := s
      rw [hrun] at hagreed hrecordOk hrecordRetains
      obtain ⟨⟨hsession, hagreed⟩, rfl⟩ := hagreed
      obtain ⟨hok₁, -, hcounts⟩ := hrecordOk
      have hrun' : inRecord i (applyRecord frame) (client, w.bits tier0Bits settings ++ left) =
          .ok a (client₁, left) := by
        unfold inRecord
        rw [hrun]
      rw [ReadM.bind_of_ok hrun', ← htail]
      have hrest :=
        applyRecords_agreed hserved hpos hrange count (i + 1) records client₁ hrecords (Nat.le_of_succ_le_succ hcount)
        (hsession.settings.trans hsettings) (by rw [hsession.options]; exact hprotocol) hok₁ hrecordRetains hagreed
        (fun x => by
          have hle := hcounts x
          have hlt := hversions x
          omega) rest
      rcases hrest with ⟨reason, s, hrun₁, hstill⟩ | ⟨s, hrun₁, hstill⟩
      · exact .inl ⟨reason, s, hrun₁, hsession.trans hstill.1, hstill.2⟩
      · exact .inr ⟨s, hrun₁, hsession.trans hstill.1, hstill.2⟩

/-- `receive_entity_update` reads the frame, the count and the records that were sent. -/
theorem receiveEntityUpdate_sent {p : SentPacket} {padding packet : Bits}
    (hprotocol : client.options.protocol = protocol) (hframe : p.frame < 2 ^ 32) (hcount : p.entityCount < 2 ^ 16)
    (hmessage : readBits messageBits (p.bits protocol settings ++ padding) = some (serverUpdateMessage, packet)) :
    ∃ packetId, (client.receiveEntityUpdate packet).1 = (client.applyUpdate packetId p.frame p.entityCount
      (p.records.flatMap (WrittenRecord.bits protocol.networkEntityIdTier0Bits settings) ++ padding)).1 := by
  obtain ⟨rest, hread, header, hheader, hat, hof⟩ :=
    @makeServerPacket_read protocol p.frame p.packetId p.inputAckFrame p.entityCount
    (p.records.flatMap (WrittenRecord.bits protocol.networkEntityIdTier0Bits settings) ++ padding) hframe hcount
  have hbits : p.bits protocol settings ++ padding = makeServerPacket (packetIdBits protocol) p.frame p.packetId
      p.inputAckFrame
      p.entityCount (p.records.flatMap (WrittenRecord.bits protocol.networkEntityIdTier0Bits settings) ++ padding) := by
    simp only [SentPacket.bits, makeServerPacket, List.append_assoc]
  rw [hbits, hread] at hmessage
  obtain ⟨-, rfl⟩ := Prod.mk.inj (Option.some.inj hmessage)
  refine ⟨header.packetId, ?_⟩
  unfold receiveEntityUpdate
  rw [hprotocol, hheader]
  dsimp only
  rw [hat, hof]

theorem applyUpdate_agreed (hserved : Served settings written) {p : SentPacket} (hp : PacketOf written p)
    (hsettings : client.settings = settings) (hprotocol : client.options.protocol.networkEntityIdTier0Bits = tier0Bits)
    (hok : ClientOk client) (hretains : Retains client) (h : Agreed settings written client)
    (hversions : ∀ x, destroyCount x client.trace + p.entityCount + 1 < 2 ^ 32) (packetId : Nat) (padding : Bits) :
    StillAgreed settings written client (client.applyUpdate packetId p.frame p.entityCount
      (p.records.flatMap (WrittenRecord.bits tier0Bits settings) ++ padding)).1 := by
  have hcount : p.entityCount ≤ p.records.length := by
    rw [hp.count]
    exact Nat.mod_le _ _
  have hrun :=
    applyRecords_agreed hserved hp.range.1 hp.range.2 p.entityCount 0 p.records client hp.records hcount
      hsettings hprotocol hok hretains h hversions padding
  unfold applyUpdate
  rcases hrun with ⟨reason, s, hrun, hstill⟩ | ⟨s, hrun, hstill⟩
  · rw [hrun]
    exact hstill
  · rw [hrun]
    obtain ⟨client₁, rest⟩ := s
    dsimp only at hstill ⊢
    split
    · exact hstill
    · exact ⟨⟨hstill.1.settings, hstill.1.options, hstill.1.clientId⟩, hstill.2⟩

end

section

variable {R : Type} [LocalRegistry R] {client : ReplicationClient R} {settings : SyncSettings}
  {written : List WrittenRecord}
  {protocol : ProtocolDescriptor} {sent : List SentPacket}

theorem ClientFed.agreed (hserved : Served settings written) (hsent : ∀ p ∈ sent, PacketOf written p)
    (h : ClientFed protocol settings sent client) :
    client.settings = settings ∧ client.options.protocol = protocol ∧ ClientReachable client ∧
    Agreed settings written client := by
  induction h with
  | init options clientId registry hprotocol hpush hcapacity =>
    exact ⟨rfl, hprotocol, .init options settings clientId registry hpush hcapacity,
      fun call earlier hsuffix => absurd (List.suffix_nil.mp hsuffix) (List.cons_ne_nil call earlier)⟩
  | @receive client p padding packet h hp hmessage hversions ih =>
    obtain ⟨hsettings, hprotocol, hreachable, hagreed⟩ := ih
    have hof := hsent p hp
    obtain ⟨packetId, heq⟩ := receiveEntityUpdate_sent hprotocol hof.range.2
      (by rw [hof.count]; exact Nat.mod_lt _ (by decide)) hmessage
    have hstill := applyUpdate_agreed hserved hof hsettings
      (congrArg ProtocolDescriptor.networkEntityIdTier0Bits hprotocol) hreachable.ok hreachable.retains hagreed
        hversions packetId padding
    rw [heq]
    exact ⟨hstill.1.settings.trans hsettings,
      (congrArg ReplicationClientOptions.protocol hstill.1.options).trans hprotocol,
      .step hreachable (.receive packetId p.frame p.entityCount _ hof.range.1 hof.range.2 hversions), hstill.2⟩
  | @applyFrame client h frame policy ih =>
    obtain ⟨hsettings, hprotocol, hreachable, hagreed⟩ := ih
    have hsame := applyFrame_records client frame policy
    exact ⟨hsame.session.settings.trans hsettings,
      (congrArg ReplicationClientOptions.protocol hsame.session.options).trans hprotocol,
      .step hreachable (.applyFrame frame policy), hagreed.same hsame⟩
  | @setEntityMode client h id mode ih =>
    obtain ⟨hsettings, hprotocol, hreachable, hagreed⟩ := ih
    have hsame := (storesNothing_setEntityMode client id mode).records
    exact ⟨hsame.session.settings.trans hsettings,
      (congrArg ReplicationClientOptions.protocol hsame.session.options).trans hprotocol,
      .step hreachable (.setEntityMode id mode), hagreed.same hsame⟩
  | others h hleaves ih =>
    obtain ⟨hsettings, hprotocol, hreachable, hagreed⟩ := ih
    have hsame := hleaves.records
    exact ⟨hsame.session.settings.trans hsettings,
      (congrArg ReplicationClientOptions.protocol hsame.session.options).trans hprotocol,
      .step hreachable (.others hleaves), hagreed.same hsame⟩

theorem ClientFed.receive_short {p : SentPacket} {padding packet : Bits} (h : ClientFed protocol settings sent client)
    (hp : p ∈ sent)
    (hmessage : readBits messageBits (p.bits protocol settings ++ padding) = some (serverUpdateMessage, packet))
    (hshort : client.trace.length + p.entityCount + 1 < 2 ^ 32) :
    ClientFed protocol settings sent (client.receiveEntityUpdate packet).1 := by
  refine h.receive hp hmessage fun w => ?_
  have hle : destroyCount w client.trace ≤ client.trace.length := List.countP_le_length
  omega

open ReplicationServer in
theorem fed_agreed {options : ReplicationServerOptions} {s : ReplicationServer}
    (hs : InOrderReachable options settings s) (hf : settings.Faithful) {replicator : ServerClientReplicator}
    (hreplicator : replicator ∈ s.clients) (hcues : ∀ w ∈ replicator.trace.written, CuesWritten settings w)
    (hfed : ClientFed s.core.options.protocol settings replicator.transport client) :
    replicator.trace.written.Pairwise InOrder ∧ client.settings = settings ∧ ClientReachable client ∧
      Agreed settings replicator.trace.written client := by
  obtain ⟨-, -, hwritten⟩ := writtenInvRule.inOrder hs replicator hreplicator
  have hsettings : s.core.settings = settings := (inOrder_moves hs).settings (ServerInv.start options settings)
  have hserved : Served settings replicator.trace.written :=
    ⟨hf, hsettings ▸ hwritten.source, hwritten.range, hwritten.frames, hwritten.ordered, hcues⟩
  obtain ⟨hsame, -, hreachable, hagreed⟩ := hfed.agreed hserved hwritten.packets
  exact ⟨hwritten.ordered, hsame, hreachable, hagreed⟩

end

/-! ## A full record and a delta -/

namespace Sample

def sizedOps : SyncComponentOps := { byteOps with quantize := fun value => [value.headD 0] }

def sizedSettings : SyncSettings := { settings with
  archetypes := [{ archetype with
    components := [
      { component := 0, audience := .all, ops := sizedOps },
      { component := 1, audience := .all, ops := sizedOps }] }] }

theorem sizedSettings_component {definition : SyncArchetype} (hdef : definition ∈ sizedSettings.archetypes)
    {c : ComponentReplication} (hc : c ∈ definition.components) : c.ops = sizedOps := by
  obtain rfl := List.mem_singleton.mp hdef
  rcases List.mem_pair.mp hc with rfl | rfl
  · rfl
  · rfl

theorem faithful_of_sizedOps {settings : SyncSettings}
    (hops : ∀ definition ∈ settings.archetypes, ∀ c ∈ definition.components, c.ops = sizedOps)
    (hcount : settings.archetypes.length ≤ 2 ^ 32) : settings.Faithful := by
  refine ⟨fun definition hdef c hc => ?_, fun definition hdef c hc value => ?_, hcount⟩
  · rw [hops definition hdef c hc]
    exact byteOps_inverts
  · rw [hops definition hdef c hc]
    rfl

theorem pushesAll_of_sizedOps {settings : SyncSettings}
    (hops : ∀ definition ∈ settings.archetypes, ∀ c ∈ definition.components, c.ops = sizedOps) :
    settings.PushesAll := by
  intro definition hdef c hc bytes
  rw [hops definition hdef c hc]
  rfl

theorem sizedSettings_faithful : sizedSettings.Faithful :=
  faithful_of_sizedOps (fun _ hdef _ hc => sizedSettings_component hdef hc) (by decide)

theorem sizedSettings_pushesAll : sizedSettings.PushesAll :=
  pushesAll_of_sizedOps fun _ hdef _ hc => sizedSettings_component hdef hc

def sentPacketAt (replicator : ServerClientReplicator) (i : Nat) : SentPacket :=
  (replicator.transport[i]?).getD {
    frame := 0, packetId := 0, inputAckFrame := 0, entityCount := 0, records := [], ackRecords := [] }

def updateBits (settings : SyncSettings) (p : SentPacket) : Bits :=
  (p.bits options.protocol settings).drop messageBits

/-- The client is given `older`, and then `newer`. -/
def givenPair (settings : SyncSettings) (client : ReplicationClient Table) (newer older : SentPacket) :
    ReplicationClient Table :=
  ((client.receiveEntityUpdate (updateBits settings older)).1.receiveEntityUpdate (updateBits settings newer)).1

/-- A packet in flight that the client can be given. -/
def inFlightTo (settings : SyncSettings) (replicator : ServerClientReplicator) (client : ReplicationClient Table)
    (p : SentPacket) : Bool :=
  decide (p ∈ replicator.transport) && decide (client.trace.length + p.entityCount + 1 < 2 ^ 32) &&
    readBits messageBits (p.bits ({} : ReplicationClientOptions).protocol settings ++ []) ==
      some (serverUpdateMessage, updateBits settings p)

def pairInFlight (settings : SyncSettings) (server : ReplicationServer) (replicator : ServerClientReplicator)
    (client : ReplicationClient Table) (newer older : SentPacket) : Bool :=
  decide (replicator ∈ server.clients) &&
    server.core.options.protocol.maxPendingPacketAcksPerClient == 255 &&
    server.core.options.protocol.networkEntityIdTier0Bits == 11 && inFlightTo settings replicator client older &&
    inFlightTo settings replicator (client.receiveEntityUpdate (updateBits settings older)).1 newer

theorem fed_next {settings : SyncSettings} {replicator : ServerClientReplicator} {client : ReplicationClient Table}
    {p : SentPacket}
    (h : ClientFed ({} : ReplicationClientOptions).protocol settings replicator.transport client)
    (hp : inFlightTo settings replicator client p = true) :
    ClientFed ({} : ReplicationClientOptions).protocol settings replicator.transport
      (client.receiveEntityUpdate (updateBits settings p)).1 := by
  simp only [inFlightTo, Bool.and_eq_true, decide_eq_true_eq, beq_iff_eq] at hp
  exact h.receive_short hp.1.1 hp.2 hp.1.2

theorem pair_fed {settings : SyncSettings} {server : ReplicationServer} {replicator : ServerClientReplicator}
    {client : ReplicationClient Table} {newer older : SentPacket}
    (hpair : pairInFlight settings server replicator client newer older = true)
    (h : ClientFed ({} : ReplicationClientOptions).protocol settings replicator.transport client) :
    replicator ∈ server.clients ∧ ClientFed server.core.options.protocol settings replicator.transport
      (givenPair settings client newer older) := by
  simp only [pairInFlight, Bool.and_eq_true, decide_eq_true_eq, beq_iff_eq] at hpair
  obtain ⟨⟨⟨⟨hin, hacks⟩, htier⟩, holder⟩, hnewer⟩ := hpair
  rw [show server.core.options.protocol = ({} : ReplicationClientOptions).protocol from
    congrArg₂ ProtocolDescriptor.mk hacks htier]
  exact ⟨hin, fed_next (fed_next h holder) hnewer⟩

def sizedAfter (ops : List ServerOp) : ReplicationServer :=
  ((ReplicationServer.start options sizedSettings).run ops).toOption.getD
    (ReplicationServer.start options sizedSettings)

def sizedStart : ReplicationClient Table := { newClient .snap with options := {}, settings := sizedSettings }

def withoutCues (w : WrittenRecord) : Bool :=
  match w.content with
  | .update _ _ _ _ _ record _ => record.cues.isEmpty
  | .destroy => true

theorem cuesWritten_of_none {settings : SyncSettings} {w : WrittenRecord} (h : withoutCues w = true) :
    CuesWritten settings w := by
  intro slot q archetype data mask record cues hcontent
  rw [withoutCues, hcontent] at h
  exact ⟨[], List.isEmpty_iff.mp h ▸ .nil⟩

theorem sizedAfter_inOrder {ops : List ServerOp}
    (hordered : ordered (ReplicationServer.start options sizedSettings) ops = true) :
    ReplicationServer.InOrderReachable options sizedSettings (sizedAfter ops) := by
  obtain ⟨server, hrun, hr⟩ := ordered_run .start hordered
  rw [sizedAfter, hrun]
  exact hr

theorem sizedStart_fed (sent : List SentPacket) :
    ClientFed ({} : ReplicationClientOptions).protocol sizedSettings sent sizedStart :=
  .init {} 1 _ rfl sizedSettings_pushesAll (by decide)

end Sample

namespace Sample

end Sample

end AshiatoSync
