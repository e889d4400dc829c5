import AshiatoSync.ClientIds

/-!
# Runs of the client

Packets, frames of the buffered timeline and mode switches keep the client in
order, so that what it shows after a record or a sample is what they hold.
-/

namespace AshiatoSync

open LocalRegistry ReplicationClient ReadM

variable {R : Type} [LocalRegistry R]

/-! ## Upserts -/

section

variable {client client' : ReplicationClient R} {e : Nat} {frame : SyncFrame} {w : Nat} {metadata : UpsertMetadata}
  {record : AuthoritativeUpsertRecord}

structure Ready (client : ReplicationClient R) (e : Nat) (metadata : UpsertMetadata)
    (record : AuthoritativeUpsertRecord) :
    Prop where
  used : (client.entity e).clientEntityNetworkId ≠ invalidClientEntityNetworkId
  found : ∃ s, client.store.findByClientEntityNetworkId metadata.clientEntityNetworkId = some (e, s)
  present : (client.view e).state.entityPresent = true
  newer : (client.view e).state.frame < metadata.frame
  ok : ∀ definition, client.settings.archetypes[metadata.archetype]? = some definition →
    EntityOk definition (client.view e)
  delta : metadata.isFullUpsert = false → ∃ baseline, metadata.previousBaseline = some baseline ∧
    (client.view e).state.findBaseline metadata.baselineFrame = some baseline
  decoded : ∀ definition, client.settings.archetypes[metadata.archetype]? = some definition →
    Decoded definition metadata record

omit [LocalRegistry R] in
theorem ReadM.RecordRead.forId (hread : RecordRead client client' frame w metadata record)
    (htouched : Touched client client') :
    metadata.clientEntityNetworkId = client'.currentId w := by
  rw [hread.fits.forId, ReplicationClient.currentId, htouched.clientId]

/-- The entity of a wire id's newest version is the only one with its id. -/
theorem StoreOk.wire_eq (h : StoreOk client) (hversions : ∀ w, (client.store.wireNetworkIds w).version < 2 ^ 32)
    (hrange : 0 < w ∧ w ≤ maxClientLocalWireNetworkId)
    (hid : (client.entity e).clientEntityNetworkId = client.currentId w) : (client.entity e).wireNetworkId = w := by
  have hused : (client.entity e).clientEntityNetworkId ≠ invalidClientEntityNetworkId := by
    rw [hid]
    exact makeClientEntityNetworkId_ne_zero hrange.1 hrange.2
  obtain ⟨hwire, version, _, hle, heq⟩ := h.named e hused
  exact (makeClientEntityNetworkId_inj hwire.2 hrange.2 (Nat.lt_of_le_of_lt hle (hversions _)) (hversions w)
    (heq.symm.trans hid)).1

theorem ReadM.RecordRead.ready (h : ClientOk client')
    (hversions : ∀ w, (client'.store.wireNetworkIds w).version < 2 ^ 32) (htouched : Touched client client')
    (hread : RecordRead client client' frame w metadata record) {s : EntityState}
    (hfound : client'.store.findByClientEntityNetworkId metadata.clientEntityNetworkId = some (e, s)) :
    metadata.foundState = some e ∧ Ready client' e metadata record := by
  obtain ⟨hindex, hget, hid⟩ := findByClientEntityNetworkId_eq_some.mp hfound
  obtain rfl := entity_of_getElem? hget
  have hforId := hread.forId htouched
  have hne : metadata.clientEntityNetworkId ≠ invalidClientEntityNetworkId := by
    rw [hforId]
    exact makeClientEntityNetworkId_ne_zero hread.inRange.1 hread.inRange.2
  have hwire := h.wire_eq hversions hread.inRange (hid.trans hforId)
  have hpresent : (client'.view e).state.entityPresent = true := h.present e (by rw [hwire, hid, hforId])
  have hfound' : client.store.findByClientEntityNetworkId metadata.clientEntityNetworkId =
      some (e, client'.entity e) := by
    rw [← htouched.find]
    exact hfound
  -- what the record was read against is the state of `e`
  have hstate : metadata.foundState = some e ∧ (client'.entity e).frame < frame ∧
      (client'.entity e).archetype = metadata.archetype ∧
      (metadata.isFullUpsert = false → ∃ baseline, metadata.previousBaseline = some baseline ∧
        (client'.entity e).findBaseline metadata.baselineFrame = some baseline) := by
    rcases hread.fits.kind with hfull | hdelta
    · obtain ⟨hstate, harchetype, hframe⟩ := hfull.found e _ (by rw [← hread.fits.forId]; exact hfound')
      refine ⟨hstate, hframe, harchetype hpresent, fun hfalse => ?_⟩
      rw [hfull.full] at hfalse
      cases hfalse
    · obtain ⟨i, s, baseline, hwireFound, hstate, _, harchetype, hframe, hprevious, hbaseline⟩ := hdelta.found
      rw [← htouched.findByWireId] at hwireFound
      obtain ⟨_, hmapped, hs, _⟩ := findByWireId_eq_some.mp hwireFound
      obtain ⟨_, hcurrent, hused⟩ := h.wires w i hmapped
      have hi : i = e := by
        have hindex' := h.indexed i hused
        rw [hcurrent, ← hforId, hindex] at hindex'
        exact (Option.some.inj hindex').symm
      subst hi
      obtain rfl : client'.entity i = s := entity_of_getElem? hs
      exact ⟨hstate, hframe, harchetype.symm, fun _ => ⟨baseline, hprevious, hbaseline⟩⟩
  obtain ⟨hfoundState, hframe, harchetype, hbaseline⟩ := hstate
  refine ⟨hfoundState, by rwa [hid], ⟨_, hfound⟩, hpresent, hread.fits.atFrame ▸ hframe,
    fun definition hdef => ?_, hbaseline,
    fun definition hdef => hread.decoded definition (by rw [← htouched.settings]; exact hdef)⟩
  refine h.inv e definition ?_
  change client'.settings.archetypes[(client'.entity e).archetype]? = _
  rw [harchetype]
  exact hdef

/-- `ensure_upsert_entity` finds the entity of a record or makes it. -/
theorem ensureUpsertEntity_ready (h : ClientOk client')
    (hversions : ∀ w, (client'.store.wireNetworkIds w).version < 2 ^ 32) (htouched : Touched client client')
    (hread : RecordRead client client' frame w metadata record) (hpos : 0 < metadata.frame) :
    match client'.ensureUpsertEntity metadata record with
    | (client₁, .error _) => client₁ = client'
    | (client₁, .ok e) =>
      ClientOk client₁ ∧ client₁.trace = client'.trace ∧ client₁.ackQueue = client'.ackQueue ∧
      Ready client₁ e metadata record := by
  have hforId := hread.forId htouched
  have hne : metadata.clientEntityNetworkId ≠ invalidClientEntityNetworkId := by
    rw [hforId]
    exact makeClientEntityNetworkId_ne_zero hread.inRange.1 hread.inRange.2
  have hw : metadata.wireNetworkId ≠ 0 := by
    rw [hread.fits.atWire]
    exact Nat.ne_of_gt hread.inRange.1
  unfold ensureUpsertEntity
  cases hfound : client'.store.findByClientEntityNetworkId metadata.clientEntityNetworkId with
  | some found =>
    obtain ⟨e, s⟩ := found
    obtain ⟨hstate, hready⟩ := hread.ready h hversions htouched hfound
    have hselected : client'.modeNeedsSelection metadata = false := by
      unfold modeNeedsSelection
      rw [hread.fits.notAbsent, hstate]
      simp [h.selected e hready.used]
    have hensured : client'.store.ensureEntityState metadata.clientEntityNetworkId metadata.wireNetworkId =
        (client'.store, some e) := by
      unfold ClientEntityStore.ensureEntityState
      rw [if_neg (not_or.mpr ⟨hne, hw⟩), hfound]
    simp only [hselected, hensured, Bool.false_and, Bool.false_eq_true, if_false]
    exact ⟨h, trivial, trivial, hready⟩
  | none =>
    have hfull : metadata.foundState = none ∧ metadata.isFullUpsert = true := by
      rcases hread.fits.kind with hfull | hdelta
      · refine ⟨hfull.fresh ?_, hfull.full⟩
        rw [← hread.fits.forId, ← htouched.find]
        exact hfound
      · obtain ⟨i, s, _, hwireFound, _⟩ := hdelta.found
        rw [← htouched.findByWireId] at hwireFound
        obtain ⟨_, hmapped, hs, _⟩ := findByWireId_eq_some.mp hwireFound
        obtain ⟨_, hcurrent, hused⟩ := h.wires w i hmapped
        obtain rfl : client'.entity i = s := entity_of_getElem? hs
        have hindex := h.indexed i hused
        have hsome := findByClientEntityNetworkId_eq_some.mpr ⟨hindex, hs, rfl⟩
        rw [hcurrent, ← hforId, hfound] at hsome
        cases hsome
    have hselected : client'.modeNeedsSelection metadata = true := by
      unfold modeNeedsSelection
      rw [hfull.1]
      simp
    obtain ⟨store, e, hensured, hcreated⟩ := ensureEntityState_created hne hw hfound fun e he => (h.free e he).1
    simp only [hselected, hensured, if_true, Bool.true_and]
    split
    · rename_i heq
      split at heq
      · cases heq
        rfl
      · cases heq
    · rename_i client₁ e₁ heq
      split at heq
      · cases heq
      · obtain ⟨hclient, he⟩ := Prod.mk.inj heq
        obtain rfl : e = e₁ := Except.ok.inj he
        rw [← hclient]
        have hin := createdIn_of_created hcreated (client'.selectEntityMode metadata record)
        rw [hread.fits.atWire] at hin
        generalize (({ client' with store } : ReplicationClient R).modifyEntity e
          (·.markModeSelected (client'.selectEntityMode metadata record))) = client₂ at hin
        have hok₂ := h.created hin hforId hne hread.inRange hread.version hfound
        have hstate := hin.state
        have hid : (client₂.entity e).clientEntityNetworkId = metadata.clientEntityNetworkId :=
          congrArg EntityState.clientEntityNetworkId hstate
        have hused : (client₂.entity e).clientEntityNetworkId ≠ invalidClientEntityNetworkId := by rwa [hid]
        refine ⟨hok₂, hin.trace, hin.acks, hused, ⟨client₂.entity e, ?_⟩, by rw [hstate],
          by rw [hstate]; exact hpos, fun definition hdef => ?_,
          fun hdelta => ?_, fun definition hdef => ?_⟩
        · exact findByClientEntityNetworkId_eq_some.mpr ⟨hid ▸ hok₂.indexed e hused,
            entity_eq_getElem? hin.length.1, hid⟩
        · have hring : (client₂.view e).ring = [] := hin.ring.trans (h.unused e (hin.fresh h.toStoreOk)).2
          refine EntityOk.new ?_ ?_ ?_ ?_ ?_ fun g => by rw [hring]; rfl
          all_goals rw [hstate]
        · rw [hfull.2] at hdelta
          cases hdelta
        · rw [hin.settings, htouched.settings] at hdef
          exact hread.decoded definition hdef

/-! ### The mask of a snap -/

theorem snapApplyMask_kept {definition : SyncArchetype} {v : EntityView} (hok : EntityOk definition v)
    (hpresent : v.state.entityPresent = true) (hdecoded : Decoded definition metadata record)
    (hdelta : metadata.isFullUpsert = false → ∃ baseline, metadata.previousBaseline = some baseline ∧
      v.state.findBaseline metadata.baselineFrame = some baseline)
    {i : Nat} {x : Bytes} (hi : i < definition.components.length)
    (hx : frameComponentData record.authoritative i = some x)
    (hbit : (snapApplyMask definition v.state metadata record).getLsbD i = false) :
    Sized definition v.state.baseline ∧ frameComponentData v.state.baseline i = some x := by
  obtain ⟨hhas, _⟩ := frameComponentData_eq_some.mp hx
  unfold frameHasComponent at hhas
  unfold snapApplyMask at hbit
  split at hbit
  · rename_i hsame
    refine ⟨hok.sized hpresent hsame.2.1, ?_⟩
    split at hbit
    · rename_i hcurrent
      simp only [Bool.and_eq_true, Bool.not_eq_true', beq_iff_eq] at hcurrent
      obtain ⟨baseline, hprevious, hbaseline⟩ := hdelta hcurrent.1
      rw [BitVec.getLsbD_ushiftRight, Nat.add_comm] at hbit
      rw [hdecoded.kept baseline hcurrent.1 hprevious i hi hbit] at hx
      exact hok.current hpresent baseline (hcurrent.2 ▸ hbaseline) i x hx
    · exact eq_of_unchanged hi hx hbit
  · rw [hhas] at hbit
    cases hbit

/-! ### Records that are applied -/

theorem MovesOn.alike (he : e < client.store.entities.length) (hinv : EntityInv client.settings (client.view e))
    (hsound : TraceSound client) {f : EntityState → EntityState} (hf : EntityState.KeepsIds f)
    (halike : ∀ s : EntityState, s.Alike (f s)) (harchetype : ∀ s : EntityState, (f s).archetype = s.archetype) :
    MovesOn e client (client.modifyEntity e f) := by
  have hview := @view_modifyEntity R _ client e f hf he
  refine ⟨worksOn_modifyEntity hf, fun definition hdef => ?_, hsound.same rfl rfl, fun hpresent => ?_⟩
  · rw [hview] at hdef ⊢
    simp only [harchetype] at hdef
    exact (hinv definition hdef).alike (halike _)
  · rw [hview]
    exact (halike _).entityPresent.trans hpresent

/-- `apply_upsert_record` on an entity that is ready. -/
theorem applyUpsertRecord_moves (h : ClientOk client) (hready : Ready client e metadata record)
    (hrange : metadata.frame < 2 ^ 32) {call : UpsertCall} (hframe : call.frame = metadata.frame)
    (harchetype : call.archetype = metadata.archetype) (hdecoded : call.decoded = record.authoritative) :
    MovesOn e client (client.applyUpsertRecord e call metadata record).1 := by
  have he := lt_length_of_used hready.used
  obtain ⟨s, hfound⟩ := hready.found
  unfold applyUpsertRecord
  cases hdef : client.settings.archetypes[metadata.archetype]? with
  | none => exact .refl (h.inv e) h.sound
  | some definition =>
    dsimp only
    have hok := hready.ok definition hdef
    have hdata := hready.decoded definition hdef
    have hfits : RecordFits definition (client.view e) call metadata record.authoritative :=
      ⟨hok, hready.present, hdata.sized, hrange, Nat.ne_of_gt (Nat.lt_of_le_of_lt (Nat.zero_le _) hready.newer),
      hready.newer,
        hframe, harchetype, hdecoded⟩
    unfold applyUpsertForMode
    cases hmode : (client.entity e).mode with
    | bufferedInterpolation =>
      have hmoves := applyBufferedUpsert_moves h.separate he h.pushes hdef h.sound hfits (h.inv e) hmode hfound
      generalize client.applyBufferedUpsert call metadata record.authoritative = result at hmoves
      obtain ⟨client₁, reason⟩ := result
      cases reason with
      | some reason => exact hmoves
      | none => exact hmoves.quiet (quiet_storeAuthoritativeBuffered client₁ e metadata.frame record.receivedCues)
    | predict =>
      have hmoves := applyPredictedUpsert_moves h.separate he h.pushes hdef h.sound hfits (h.inv e) hfound
      generalize client.applyPredictedUpsert call metadata record.authoritative = result at hmoves
      obtain ⟨client₁, reason⟩ := result
      cases reason with
      | some reason => exact hmoves
      | none =>
        exact hmoves.quiet (quiet_reconcileAuthoritativePredicted client₁ e record.receivedCues metadata.frame)
    | snap =>
      exact applySnapUpsert_moves h.separate he h.pushes hdef h.sound hfits hmode fun i x hi hx hbit =>
        snapApplyMask_kept hok hready.present hdata hready.delta hi hx hbit

theorem ClientOk.tombstones (h : ClientOk client) (tombstones : DestroyTombstones) :
    ClientOk { client with store := { client.store with destroyTombstones := tombstones } } :=
  ⟨⟨h.pushes, h.capacity, ⟨h.separate.alive, h.separate.distinct⟩, h.unused, h.free, h.nodup, h.unmapped,
  h.indexed, h.named,
    h.wires, h.versions, h.selected, h.inv, h.sound⟩, h.present⟩

/-- The part of `apply_upsert` after its reads. -/
theorem applyUpsert_ok (h : ClientOk client') (hversions : ∀ w, (client'.store.wireNetworkIds w).version < 2 ^ 32)
    (htouched : Touched client client') (hread : RecordRead client client' frame w metadata record) (hpos : 0 < frame)
    (hrange : frame < 2 ^ 32) :
    ClientOk (client'.applyUpsert metadata record).1 ∧
      (client'.applyUpsert metadata record).1.ackQueue = client'.ackQueue ∧
      ∀ w, destroyCount w (client'.applyUpsert metadata record).1.trace = destroyCount w client'.trace := by
  have hframe := hread.fits.atFrame
  have hensured := ensureUpsertEntity_ready h hversions htouched hread (hframe ▸ hpos)
  unfold applyUpsert
  generalize client'.ensureUpsertEntity metadata record = ensured at hensured
  obtain ⟨client₁, result⟩ := ensured
  cases result with
  | error reason =>
    dsimp only at hensured ⊢
    subst hensured
    exact ⟨h, rfl, fun _ => rfl⟩
  | ok e =>
    obtain ⟨hok₁, htrace₁, hacks₁, hready⟩ := hensured
    dsimp only
    have he := lt_length_of_used hready.used
    have hcall : (client₁.upsertCall e metadata record).frame = metadata.frame ∧
      (client₁.upsertCall e metadata record).archetype = metadata.archetype ∧
      (client₁.upsertCall e metadata record).decoded = record.authoritative := ⟨rfl, rfl, rfl⟩
    generalize client₁.upsertCall e metadata record = call at hcall
    -- the protected baseline changes nothing of what the record needs
    have hprotected : ∃ client₂, (if metadata.isFullUpsert = true then client₁
        else client₁.modifyEntity e (·.protectReferencedBaseline metadata.baselineFrame)) = client₂ ∧
        MovesOn e client₁ client₂ ∧ Ready client₂ e metadata record := by
      refine ⟨_, rfl, ?_⟩
      split
      · exact ⟨.refl (hok₁.inv e) hok₁.sound, hready⟩
      · have hf : EntityState.KeepsIds (·.protectReferencedBaseline metadata.baselineFrame) :=
          ⟨fun _ => rfl, fun _ => rfl, fun _ => rfl, fun _ => rfl, fun _ hs => hs⟩
        have halike : ∀ s : EntityState, s.Alike (s.protectReferencedBaseline metadata.baselineFrame) := fun _ =>
          ⟨rfl, rfl, rfl, rfl, rfl, rfl, rfl⟩
        have hmoves := MovesOn.alike he (hok₁.inv e) hok₁.sound hf halike fun _ => rfl
        have hview := view_modifyEntity hf he
        have hid := hmoves.works.id e
        obtain ⟨s, hfound⟩ := hready.found
        obtain ⟨hindex, hget, hs⟩ := findByClientEntityNetworkId_eq_some.mp hfound
        refine ⟨hmoves, by rw [hid]; exact hready.used, ⟨(client₁.modifyEntity e
            (·.protectReferencedBaseline metadata.baselineFrame)).entity e, ?_⟩, ?_, ?_, fun definition hdef => ?_,
          fun hdelta => ?_, hready.decoded⟩
        · refine findByClientEntityNetworkId_eq_some.mpr ⟨hindex,
            entity_eq_getElem? (by rw [hmoves.works.length]; exact he), ?_⟩
          rw [hid, entity_of_getElem? hget]
          exact hs
        · rw [hview]
          exact hready.present
        · rw [hview]
          exact hready.newer
        · rw [hview]
          exact (hready.ok definition hdef).alike (halike _)
        · rw [hview]
          exact hready.delta hdelta
    obtain ⟨client₂, hclient₂, hmoves₂, hready₂⟩ := hprotected
    rw [hclient₂]
    have hok₂ := hok₁.moves hready.used hmoves₂
    have hmoves₃ := applyUpsertRecord_moves hok₂ hready₂ (hframe ▸ hrange) hcall.1 hcall.2.1 hcall.2.2
    have hok₃ := hok₂.moves hready₂.used hmoves₃
    have hcount : ∀ w, destroyCount w (client₂.applyUpsertRecord e call metadata record).1.trace =
        destroyCount w client'.trace := fun w => by
      rw [hmoves₃.works.destroyCount, hmoves₂.works.destroyCount, htrace₁]
    have hacks : (client₂.applyUpsertRecord e call metadata record).1.ackQueue = client'.ackQueue := by
      rw [hmoves₃.works.acks, hmoves₂.works.acks, hacks₁]
    generalize client₂.applyUpsertRecord e call metadata record = applied at hok₃ hcount hacks
    obtain ⟨client₃, reason⟩ := applied
    cases reason with
    | some reason => exact ⟨hok₃, hacks, hcount⟩
    | none =>
      dsimp only at hok₃ hcount hacks ⊢
      unfold finishUpsert
      split
      · exact ⟨hok₃.tombstones _, hacks, hcount⟩
      · exact ⟨hok₃, hacks, hcount⟩

end

/-! ## Destroys -/

section

variable {client client' : ReplicationClient R} {e : Nat} {frame : SyncFrame} {w : Nat}

omit [LocalRegistry R] in
theorem nextWireVersion_eq {version : Nat} (h : version + 1 < 2 ^ 32) :
    ClientEntityStore.nextWireVersion version = version + 1 := by
  unfold ClientEntityStore.nextWireVersion
  rw [Nat.mod_eq_of_lt h]
  split
  · rename_i hzero
    rw [hzero]
  · rfl

omit [LocalRegistry R] in
theorem destroyCount_logCall (trace : List ClientCall) (call : DestroyCall) (x : Nat) :
    destroyCount x (.destroy call :: trace) = destroyCount x trace + if call.wireNetworkId = x then 1 else 0 := by
  unfold destroyCount
  rw [List.countP_cons]
  simp [ClientCall.destroys]

structure Unmapping (w : Nat) (client : ReplicationClient R) : Prop extends StoreOk client where
  present : ∀ i, (client.entity i).wireNetworkId ≠ w → PresentNow client i

theorem Unmapping.tombstones (h : Unmapping w client) (tombstones : DestroyTombstones) :
    Unmapping w { client with store := { client.store with destroyTombstones := tombstones } } :=
  ⟨⟨h.pushes, h.capacity, ⟨h.separate.alive, h.separate.distinct⟩, h.unused, h.free, h.nodup, h.unmapped,
  h.indexed, h.named,
    h.wires, h.versions, h.selected, h.inv, h.sound⟩, h.present⟩

/-- Advancing the version of a destroyed wire id leaves no entity of its newest version. -/
theorem Unmapping.advanced (h : Unmapping w client) (hversions : ∀ x, destroyCount x client.trace + 2 < 2 ^ 32)
    {call : DestroyCall} (hcall : call.wireNetworkId = w) (hw : w ≠ 0) :
    ClientOk ((client.advanceWireNetworkIdVersion w).logCall (.destroy call)) := by
  have hcount := destroyCount_logCall client.trace call
  have hmore : ∀ x, destroyCount x client.trace ≤ destroyCount x (.destroy call :: client.trace) := fun x => by
    rw [hcount]
    exact Nat.le_add_right _ _
  have hsound : ∀ c ∈ (ClientCall.destroy call :: client.trace), c.Sound client.settings := by
    intro c hc
    rcases List.mem_cons.mp hc with rfl | hold
    · exact trivial
    · exact h.sound c hold
  have hsmall : ∀ x, (client.store.wireNetworkIds x).version + 1 < 2 ^ 32 := fun x => by
    have hle := h.versions x
    have hlt := hversions x
    omega
  unfold advanceWireNetworkIdVersion
  split
  · -- no entity has a wire id that is out of range
    rename_i hout
    refine ⟨⟨h.pushes, h.capacity, ⟨h.separate.alive, h.separate.distinct⟩, h.unused, h.free, h.nodup,
      h.unmapped, h.indexed, h.named,
      h.wires, fun x => Nat.le_trans (h.versions x) (Nat.succ_le_succ (hmore x)), h.selected, h.inv, hsound⟩,
      fun i => h.present i ?_⟩
    rintro rfl
    by_cases hused : (client.entity i).clientEntityNetworkId = invalidClientEntityNetworkId
    · exact hw (congrArg EntityState.wireNetworkId (h.unused i hused).1)
    · obtain ⟨⟨hpos, hmax⟩, _⟩ := h.named i hused
      rcases hout with hzero | hgt
      · exact hw hzero
      · exact absurd hmax (Nat.not_le.mpr hgt)
  · rename_i hin
    have hmax : w ≤ maxClientLocalWireNetworkId := Nat.le_of_not_lt fun hgt => hin (.inr hgt)
    have hwires : ∀ x, ((client.store.advanceWireVersion w).wireNetworkIds x) = if x = w then
        { version := (client.store.wireNetworkIds w).version + 1, entityIndex := none }
          else client.store.wireNetworkIds x := by
      intro x
      unfold ClientEntityStore.advanceWireVersion ClientEntityStore.setWire
      rw [nextWireVersion_eq (hsmall w)]
      exact Function.update_apply ..
    have hle : ∀ x, (client.store.wireNetworkIds x).version ≤
        ((client.store.advanceWireVersion w).wireNetworkIds x).version := by
      intro x
      rw [hwires]
      split
      · rename_i hx
        rw [hx]
        exact Nat.le_succ _
      · exact Nat.le_refl _
    refine ⟨⟨h.pushes, h.capacity, ⟨h.separate.alive, h.separate.distinct⟩, h.unused, h.free, h.nodup,
      h.unmapped, h.indexed,
      fun i hi => ?_, fun x i hi => ?_, fun x => ?_, h.selected, h.inv, hsound⟩, fun i hi => ?_⟩
    · obtain ⟨hrange, version, hpos, hv, heq⟩ := h.named i hi
      exact ⟨hrange, version, hpos, Nat.le_trans hv (hle _), heq⟩
    · change ((client.store.advanceWireVersion w).wireNetworkIds x).entityIndex = some i at hi
      rw [hwires] at hi
      split at hi
      · cases hi
      · rename_i hx
        obtain ⟨hwire, hcurrent, hne⟩ := h.wires x i hi
        refine ⟨hwire, hcurrent.trans ?_, hne⟩
        change makeClientEntityNetworkId (networkIdClient client.clientId) x _ =
          makeClientEntityNetworkId (networkIdClient client.clientId) x
            ((client.store.advanceWireVersion w).wireNetworkIds x).version
        rw [hwires, if_neg hx]
    · change ((client.store.advanceWireVersion w).wireNetworkIds x).version ≤
        destroyCount x (.destroy call :: client.trace) + 1
      rw [hwires, hcount]
      split
      · rename_i hx
        rw [if_pos (hcall.trans hx.symm), hx]
        exact Nat.succ_le_succ (h.versions w)
      · exact Nat.le_trans (h.versions x) (Nat.succ_le_succ (Nat.le_add_right _ _))
    · change (client.entity i).clientEntityNetworkId = makeClientEntityNetworkId (networkIdClient client.clientId)
        (client.entity i).wireNetworkId
        ((client.store.advanceWireVersion w).wireNetworkIds (client.entity i).wireNetworkId).version at hi
      by_cases hwire : (client.entity i).wireNetworkId = w
      · rw [hwire, hwires, if_pos rfl] at hi
        have hused : (client.entity i).clientEntityNetworkId ≠ invalidClientEntityNetworkId := by
          rw [hi]
          exact makeClientEntityNetworkId_ne_zero (Nat.pos_of_ne_zero hw) hmax
        obtain ⟨_, version, _, hv, heq⟩ := h.named i hused
        rw [hwire] at hv heq
        have hsame := (makeClientEntityNetworkId_inj hmax hmax
          (Nat.lt_of_le_of_lt (Nat.le_succ_of_le hv) (hsmall w)) (hsmall w) (heq.symm.trans hi)).2
        rw [hsame] at hv
        exact absurd hv (Nat.not_succ_le_self _)
      · rw [hwires, if_neg hwire] at hi
        exact h.present i hwire hi

/-- What a destroy leaves: the client in order when it was refused, and otherwise no entity of the wire id that is
mapped. -/
def Destroyed (w : Nat) (client : ReplicationClient R) (result : Applied R) : Prop :=
  (∀ x, destroyCount x result.1.trace = destroyCount x client.trace) ∧ result.1.ackQueue = client.ackQueue ∧
  match result.2 with
  | some _ => ClientOk result.1
  | none => Unmapping w result.1

/-- `erase_entity_state` of the entity a wire id maps to. -/
theorem destroyed_erase (h : StoreOk client)
    (hpresent : ∀ i, (client.entity i).wireNetworkId ≠ w → PresentNow client i)
    (hused : (client.entity e).clientEntityNetworkId ≠ invalidClientEntityNetworkId) (destroyLocal : Bool) :
    Destroyed w client (client.eraseEntityState e destroyLocal, none) := by
  have herased := eraseEntityState_erased h hused destroyLocal
  refine ⟨fun x => by rw [herased.trace], herased.acks, h.erased hused herased, fun i hi => ?_⟩
  by_cases hie : i = e
  · rw [hie]
    exact herased.presentNow_self
  · refine herased.presentNow hie (hpresent i ?_)
    rwa [(herased.ids hie).2.1] at hi

/-- `apply_destroy_for_mode` on the entity a wire id maps to. -/
theorem applyDestroyForMode_destroyed (h : ClientOk client) (hpos : frame ≠ 0) (hrange : frame < 2 ^ 32)
    (hwire : (client.entity e).wireNetworkId = w)
    (hcurrent : (client.entity e).clientEntityNetworkId = client.currentId w)
    (hused : (client.entity e).clientEntityNetworkId ≠ invalidClientEntityNetworkId) :
    Destroyed w client (client.applyDestroyForMode (client.entity e) frame) := by
  have he := lt_length_of_used hused
  have hfound : client.store.findByClientEntityNetworkId (client.entity e).clientEntityNetworkId =
      some (e, client.entity e) :=
    findByClientEntityNetworkId_eq_some.mpr ⟨h.indexed e hused, entity_eq_getElem? he, rfl⟩
  have herase : ∀ destroyLocal, Destroyed w client (client.eraseEntityState e destroyLocal, none) :=
    destroyed_erase h.toStoreOk (fun i _ => h.present i) hused
  have hrefused : ∀ reason, Destroyed w client (client, some reason) := fun _ => ⟨fun _ => rfl, rfl, h⟩
  unfold applyDestroyForMode
  cases hmode : (client.entity e).mode with
  | snap =>
    dsimp only
    split
    · exact hrefused _
    · rw [h.indexed e hused]
      exact herase true
  | predict =>
    rw [hfound]
    unfold applyImmediateDestroy
    dsimp only
    split
    · exact hrefused _
    · exact herase true
  | bufferedInterpolation =>
    rw [hfound]
    dsimp only
    obtain ⟨client₁, hdestroyed⟩ :=
      applyBufferedDestroy_moves h.separate he h.pushes (h.inv e) h.sound h.capacity hrange hpos hmode
      (h.present e (by rw [hwire]; exact hcurrent))
    have hworks := hdestroyed.works
    have hstore := h.toStoreOk.works hused hworks hdestroyed.inv hdestroyed.sound
    have hothers : ∀ i, i ≠ e → PresentNow client₁ i := fun i hi => presentNow_of_others hworks hi (h.present i)
    have hunmapped : ∀ i, (client₁.entity i).wireNetworkId ≠ w → PresentNow client₁ i := fun i hi => by
      refine hothers i ?_
      rintro rfl
      rw [hworks.wire] at hi
      exact hi hwire
    have hcounts : ∀ x, destroyCount x client₁.trace = destroyCount x client.trace := hworks.destroyCount
    rcases hdestroyed.outcome with ⟨hresult, hpresent⟩ | hresult
    · generalize client.applyBufferedDestroy e frame = result at hresult hpresent
      obtain ⟨client₂, reason⟩ := result
      obtain rfl : client₂ = client₁ := (Prod.mk.inj hresult).1
      cases reason with
      | none => exact ⟨hcounts, hworks.acks, hstore, hunmapped⟩
      | some reason =>
        refine ⟨hcounts, hworks.acks, hstore, fun i => ?_⟩
        by_cases hi : i = e
        · subst hi
          exact fun _ => hpresent
        · exact hothers i hi
    · rw [hresult]
      obtain ⟨herased, hacks, hunmapping⟩ := destroyed_erase hstore hunmapped (by rw [hworks.id]; exact hused) false
      exact ⟨fun x => (herased x).trans (hcounts x), hacks.trans hworks.acks, hunmapping⟩

/-- `apply_destroy` -/
theorem applyDestroy_ok (h : ClientOk client) (hversions : ∀ x, destroyCount x client.trace + 2 < 2 ^ 32)
    (hpos : frame ≠ 0) (hrange : frame < 2 ^ 32) (hw : w ≠ 0) :
    ClientOk (client.applyDestroy frame w).1 ∧ (client.applyDestroy frame w).1.ackQueue = client.ackQueue ∧
      ∀ x, destroyCount x (client.applyDestroy frame w).1.trace ≤ destroyCount x client.trace + 1 := by
  have hlogged : ∀ (trace : List ClientCall) (call : DestroyCall),
      (∀ x, destroyCount x trace = destroyCount x client.trace) →
      ∀ x, destroyCount x (.destroy call :: trace) ≤ destroyCount x client.trace + 1 := fun trace call heq x => by
    rw [destroyCount_logCall, heq]
    split
    · exact Nat.le_refl _
    · exact Nat.le_succ _
  have hunmapping : Unmapping w client := ⟨h.toStoreOk, fun i _ => h.present i⟩
  have hadvanced : ∀ client : ReplicationClient R, (client.advanceWireNetworkIdVersion w).ackQueue =
      client.ackQueue := fun client => by
    unfold advanceWireNetworkIdVersion
    split
    · rfl
    · rfl
  unfold applyDestroy
  cases hfound : client.store.findByWireId w with
  | none =>
    have hrecorded : ∃ tombstones result, client.recordDestroyTombstone w frame =
        ({ client with store := { client.store with destroyTombstones := tombstones } }, result) := ⟨_, _, rfl⟩
    obtain ⟨tombstones, result, hrecorded⟩ := hrecorded
    rw [hrecorded]
    cases result with
    | ignored => exact ⟨h, rfl, fun x => Nat.le_succ _⟩
    | inserted =>
      refine ⟨(hunmapping.tombstones tombstones).advanced hversions rfl hw, hadvanced _, ?_⟩
      refine hlogged _ _ fun x => ?_
      unfold advanceWireNetworkIdVersion
      split
      · rfl
      · rfl
    | updated =>
      have hok := h.tombstones tombstones
      refine ⟨⟨⟨hok.pushes, hok.capacity, ⟨hok.separate.alive, hok.separate.distinct⟩, hok.unused, hok.free,
        hok.nodup, hok.unmapped, hok.indexed,
        hok.named, hok.wires, fun x => ?_, hok.selected, hok.inv, ?_⟩, hok.present⟩, rfl,
        hlogged _ _ fun _ => rfl⟩
      · refine Nat.le_trans (h.versions x) (Nat.succ_le_succ ?_)
        refine Nat.le_trans (Nat.le_add_right _ _) (Nat.le_of_eq (destroyCount_logCall _ _ x).symm)
      · intro c hc
        rcases List.mem_cons.mp hc with rfl | hold
        · exact trivial
        · exact h.sound c hold
  | some found =>
    obtain ⟨e, s⟩ := found
    obtain ⟨_, hindex, hget, _⟩ := findByWireId_eq_some.mp hfound
    obtain rfl := entity_of_getElem? hget
    obtain ⟨hwire, hcurrent, hused⟩ := h.wires w e hindex
    obtain ⟨hcounts, hacks, houtcome⟩ := applyDestroyForMode_destroyed h hpos hrange hwire hcurrent hused
    dsimp only
    generalize client.applyDestroyForMode (client.entity e) frame = result at hcounts hacks houtcome
    obtain ⟨applied, reason⟩ := result
    cases reason with
    | some reason => exact ⟨houtcome, hacks, fun x => Nat.le_trans (Nat.le_of_eq (hcounts x)) (Nat.le_succ _)⟩
    | none =>
      dsimp only at hcounts houtcome ⊢
      refine ⟨(houtcome.tombstones (applied.store.destroyTombstones.record w frame).1).advanced
        (fun x => by rw [hcounts]; exact hversions x) rfl hw,
        (hadvanced _).trans hacks, hlogged _ _ fun x => ?_⟩
      rw [← hcounts x]
      unfold advanceWireNetworkIdVersion
      split
      · rfl
      · rfl

end

/-! ## Packets -/

def ReadM.Leaves {α : Type} (m : ReadM R α) (client : ReplicationClient R) (P : ReplicationClient R → Prop) :
    Prop :=
  ∀ bits, match m (client, bits) with
    | .ok _ (client', _) => P client'
    | .error _ (client', _) => P client'

section

variable {α β : Type} {client : ReplicationClient R} {P P' : ReplicationClient R → Prop}

omit [LocalRegistry R] in
theorem ReadM.Gives.leaves_bind {m : ReadM R α} {f : α → ReadM R β} {Q : α → ReplicationClient R → Prop}
    (h : Gives m client Q) (herror : ∀ client', Touched client client' → P client')
    (hf : ∀ a client', Touched client client' → Q a client' → Leaves (f a) client' P) :
    Leaves (m >>= f) client P := by
  intro bits
  have hm := h bits
  change match EStateM.bind m f (client, bits) with
    | .ok _ (client', _) => P client'
    | .error _ (client', _) => P client'
  unfold EStateM.bind
  cases hrun : m (client, bits) with
  | error reason s =>
    rw [hrun] at hm
    exact herror s.1 hm
  | ok a s =>
    rw [hrun] at hm
    exact hf a s.1 hm.1 hm.2 s.2

omit [LocalRegistry R] in
theorem ReadM.Leaves.bind {m : ReadM R α} {f : α → ReadM R β} (h : Leaves m client P')
    (herror : ∀ client', P' client' → P client') (hf : ∀ a client', P' client' → Leaves (f a) client' P) :
    Leaves (m >>= f) client P := by
  intro bits
  have hm := h bits
  change match EStateM.bind m f (client, bits) with
    | .ok _ (client', _) => P client'
    | .error _ (client', _) => P client'
  unfold EStateM.bind
  cases hrun : m (client, bits) with
  | error reason s =>
    rw [hrun] at hm
    exact herror s.1 hm
  | ok a s =>
    rw [hrun] at hm
    exact hf a s.1 hm s.2

omit [LocalRegistry R] in
theorem ReadM.Leaves.weaken {m : ReadM R α} (h : Leaves m client P') (hP : ∀ client', P' client' → P client') :
    Leaves m client P := by
  intro bits
  have hm := h bits
  cases hrun : m (client, bits) with
  | error reason s =>
    rw [hrun] at hm
    exact hP s.1 hm
  | ok a s =>
    rw [hrun] at hm
    exact hP s.1 hm

omit [LocalRegistry R] in
theorem ReadM.leaves_apply {f : ReplicationClient R → ReplicationClient R × Option String} (h : P (f client).1) :
    Leaves (ReadM.apply f) client P := by
  intro bits
  unfold ReadM.apply
  dsimp only
  generalize f client = result at h
  obtain ⟨client', reason⟩ := result
  cases reason with
  | none => exact h
  | some reason => exact h

omit [LocalRegistry R] in
theorem ReadM.Leaves.inRecord {m : ReadM R Unit} (h : Leaves m client P) (i : Nat) :
    Leaves (ReadM.inRecord i m) client P := by
  intro bits
  have hm := h bits
  unfold ReadM.inRecord
  cases hrun : m (client, bits) with
  | error reason s =>
    rw [hrun] at hm
    exact hm
  | ok a s =>
    rw [hrun] at hm
    exact hm

end

section

variable {client : ReplicationClient R} {frame : SyncFrame} {w : Nat}

theorem StoreOk.version_lt (h : StoreOk client) (hversions : ∀ x, destroyCount x client.trace + 2 < 2 ^ 32)
    (x : Nat) :
    (client.store.wireNetworkIds x).version < 2 ^ 32 := by
  have hle := h.versions x
  have hlt := hversions x
  omega

theorem ClientOk.found_present (h : ClientOk client) (hversions : ∀ x, destroyCount x client.trace + 2 < 2 ^ 32)
    {e : Nat} {s : EntityState}
    (hfound : client.store.findByClientEntityNetworkId
      (client.store.clientEntityNetworkIdForWire client.clientId w).2 = some (e, s)) : s.absent = false := by
  have htouched := Touched.networkIdForWire client client.clientId w
  have hok := h.touched htouched
  rw [← htouched.find] at hfound
  obtain ⟨hindex, hget, hid⟩ := findByClientEntityNetworkId_eq_some.mp hfound
  have hvalid : (client.store.clientEntityNetworkIdForWire client.clientId w).2 ≠ invalidClientEntityNetworkId := by
    intro hinvalid
    rw [hinvalid, hok.unmapped] at hindex
    cases hindex
  obtain ⟨hrange, hversion, hmake⟩ := clientEntityNetworkIdForWire_spec hvalid
  have hsmall := hok.version_lt (by rw [htouched.trace]; exact hversions)
  obtain rfl := entity_of_getElem? hget
  have hcurrent := hid.trans hmake
  have hwire := hok.wire_eq hsmall hrange hcurrent
  have hpresent := hok.present e (by rw [hwire]; exact hcurrent)
  simp [EntityState.absent, hpresent]

theorem ClientOk.found_sized (h : ClientOk client) {e : Nat} {s : EntityState}
    (hfound : client.store.findByWireId w = some (e, s)) {definition : SyncArchetype}
    (hdef : client.settings.archetypes[s.archetype]? = some definition) {g : SyncFrame} {baseline : QuantizedFrameData}
    (hbaseline : s.findBaseline g = some baseline) : Sized definition baseline := by
  obtain ⟨_, hindex, hget, _⟩ := findByWireId_eq_some.mp hfound
  obtain rfl := entity_of_getElem? hget
  obtain ⟨hwire, hcurrent, _⟩ := h.wires w e hindex
  have hpresent : (client.view e).state.entityPresent = true := h.present e (by rw [hwire]; exact hcurrent)
  obtain ⟨b, hb, _, rfl⟩ := stores_of_findBaseline hbaseline
  exact (h.inv e definition hdef).stored hpresent b hb

def RecordOk (client client' : ReplicationClient R) : Prop :=
  ClientOk client' ∧ client'.ackQueue = client.ackQueue ∧ ∀ x, destroyCount x client'.trace ≤
    destroyCount x client.trace + 1

theorem applyRecord_ok (h : ClientOk client) (hversions : ∀ x, destroyCount x client.trace + 2 < 2 ^ 32)
    (hpos : 0 < frame) (hrange : frame < 2 ^ 32) : Leaves (applyRecord frame) client (RecordOk client) := by
  have htouch : ∀ client', Touched client client' → RecordOk client client' := fun client' htouched =>
    ⟨h.touched htouched, htouched.acks, fun x => by rw [htouched.trace]; exact Nat.le_succ _⟩
  have hbound : ∀ client', Touched client client' → ∀ x, destroyCount x client'.trace + 2 < 2 ^ 32 :=
    fun client' htouched x => by
    rw [htouched.trace]
    exact hversions x
  unfold applyRecord
  refine (gives_client (Q := fun _ client' => client = client') rfl).leaves_bind htouch ?_
  rintro _ _ - rfl
  refine (gives_field (Q := fun _ _ => True) _ _ fun _ => trivial).leaves_bind htouch
    fun header client₁ htouched _ => ?_
  obtain ⟨destroy, w⟩ := header
  dsimp only
  split
  · exact fun _ => htouch client₁ htouched
  · rename_i hw
    split
    · refine leaves_apply ?_
      obtain ⟨hok, hacks, hcount⟩ :=
        applyDestroy_ok (h.touched htouched) (hbound client₁ htouched) (Nat.ne_of_gt hpos) hrange hw
      exact ⟨hok, hacks.trans htouched.acks, fun x => htouched.trace ▸ hcount x⟩
    · have hok₁ := h.touched htouched
      have hread :=
        @gives_readUpsert R client₁ frame w
          (fun e s hfound => hok₁.found_present (hbound client₁ htouched) hfound)
          fun e s hfound _ definition hdef g baseline hbaseline => hok₁.found_sized hfound hdef hbaseline
      refine hread.leaves_bind (fun client₂ htouched₂ => htouch client₂ (htouched.trans htouched₂)) ?_
      rintro ⟨metadata, record⟩ client₂ htouched₂ hrecord
      refine leaves_apply ?_
      have hok₂ := hok₁.touched htouched₂
      obtain ⟨hok, hacks, hcount⟩ :=
        applyUpsert_ok hok₂ (hok₂.version_lt (hbound client₂ (htouched.trans htouched₂)))
          htouched₂ hrecord hpos hrange
      refine ⟨hok, hacks.trans (htouched.trans htouched₂).acks, fun x => ?_⟩
      rw [hcount, (htouched.trans htouched₂).trace]
      exact Nat.le_succ _

theorem applyRecords_ok (hpos : 0 < frame) (hrange : frame < 2 ^ 32) :
    ∀ (count i : Nat) (client : ReplicationClient R),
    ClientOk client → (∀ x, destroyCount x client.trace + count + 1 < 2 ^ 32) →
    Leaves (applyRecords frame count i) client fun client' => ClientOk client' ∧
    client'.ackQueue = client.ackQueue ∧
      ∀ x, destroyCount x client'.trace ≤ destroyCount x client.trace + count
  | 0, _, _, h, _ => fun _ => ⟨h, rfl, fun _ => Nat.le_refl _⟩
  | count + 1, i, client, h, hversions => by
    unfold applyRecords
    refine ((applyRecord_ok h (fun x => ?_) hpos hrange).inRecord i).bind
      (fun client' h' => ⟨h'.1, h'.2.1, fun x => ?_⟩)
      fun _ client' h' => ?_
    · have hlt := hversions x
      omega
    · have hle := h'.2.2 x
      omega
    · refine Leaves.weaken (applyRecords_ok hpos hrange count (i + 1) client' h'.1 fun x => ?_) fun client'' h'' =>
        ⟨h''.1, h''.2.1.trans h'.2.1, fun x => ?_⟩
      · have hle := h'.2.2 x
        have hlt := hversions x
        omega
      · have hle := h'.2.2 x
        have hle' := h''.2.2 x
        omega

/-- `apply_update` -/
theorem applyUpdate_ok (h : ClientOk client) {recordCount : Nat}
    (hversions : ∀ x, destroyCount x client.trace + recordCount + 1 < 2 ^ 32) (hpos : 0 < frame)
    (hrange : frame < 2 ^ 32) (packetId : Nat) (bits : Bits) :
    ClientOk (client.applyUpdate packetId frame recordCount bits).1 := by
  have hleaves := applyRecords_ok hpos hrange recordCount 0 client h hversions bits
  unfold ReplicationClient.applyUpdate
  cases hrun : applyRecords frame recordCount 0 (client, bits) with
  | error reason s =>
    rw [hrun] at hleaves
    exact hleaves.1
  | ok a s =>
    rw [hrun] at hleaves
    obtain ⟨client', rest⟩ := s
    replace hleaves := hleaves.1
    dsimp only at hleaves ⊢
    split
    · exact hleaves
    · exact ⟨⟨hleaves.pushes, hleaves.capacity, ⟨hleaves.separate.alive, hleaves.separate.distinct⟩,
        hleaves.unused, hleaves.free,
        hleaves.nodup, hleaves.unmapped, hleaves.indexed, hleaves.named, hleaves.wires, hleaves.versions,
        hleaves.selected, hleaves.inv,
        hleaves.sound⟩, hleaves.present⟩

end

/-! ## Frames of the buffered timeline -/

section

variable {client client' : ReplicationClient R} {frame : SyncFrame} {policy : MissingBufferedFramePolicy}

/-- What other code may do between two calls: it leaves the replicated components of the entities that are not
predicted, and of the predicted ones what the client keeps for their records. -/
structure LeavesReplicated (client client' : ReplicationClient R) : Prop where
  settings : client'.settings = client.settings
  options : client'.options = client.options
  clientId : client'.clientId = client.clientId
  length : client'.store.entities.length = client.store.entities.length
  free : client'.store.freeEntityIndices = client.store.freeEntityIndices
  wires : client'.store.wireNetworkIds = client.store.wireNetworkIds
  indices : client'.store.clientEntityIndices = client.store.clientEntityIndices
  states : ∀ e, (client.entity e).mode ≠ .predict → (client'.entity e).unlisted = (client.entity e).unlisted
  predicted : ∀ e, (client.entity e).mode = .predict → (client.entity e).Alike (client'.entity e) ∧
    (client'.entity e).archetype = (client.entity e).archetype ∧
    (client'.entity e).clientEntityNetworkId = (client.entity e).clientEntityNetworkId ∧
    (client'.entity e).wireNetworkId = (client.entity e).wireNetworkId ∧
    (client'.entity e).modeSelected = (client.entity e).modeSelected
  separate : Separate client → Separate client'
  rings : client'.bufferedRuntime.rings = client.bufferedRuntime.rings
  shown : ∀ e, (client.entity e).mode ≠ .predict → ∀ definition, client.archetypeOf e = some definition →
    ∀ c ∈ definition.components, (client'.view e).shown c.component = (client.view e).shown c.component
  trace : ∃ calls, client'.trace = calls ++ client.trace ∧ ∀ call ∈ calls,
    (∃ play, call = .play play) ∨ ∃ sample, call = .sample sample ∧ sample.before.mode = .predict

theorem EntityState.Alike.of_unlisted {s t : EntityState} (h : s.unlisted = t.unlisted) :
    t.Alike s ∧ s.archetype = t.archetype := by
  have hframe := congrArg EntityState.frame h
  have hpresent := congrArg EntityState.entityPresent h
  have hbaseline := congrArg EntityState.baseline h
  have hhistory := congrArg EntityState.history h
  have hpinned := congrArg EntityState.pinnedWireBaseline h
  have hmode := congrArg EntityState.mode h
  have hlast := congrArg EntityState.lastAppliedBufferedFrame h
  have harchetype := congrArg EntityState.archetype h
  exact ⟨⟨hframe, hpresent, hbaseline, hhistory, hpinned, hmode, hlast⟩, harchetype⟩

theorem LeavesReplicated.ids (h : LeavesReplicated client client') (e : Nat) :
    (client.entity e).Alike (client'.entity e) ∧
    (client'.entity e).archetype = (client.entity e).archetype ∧
    (client'.entity e).clientEntityNetworkId = (client.entity e).clientEntityNetworkId ∧
    (client'.entity e).wireNetworkId = (client.entity e).wireNetworkId ∧
    (client'.entity e).modeSelected = (client.entity e).modeSelected := by
  by_cases hmode : (client.entity e).mode = .predict
  · exact h.predicted e hmode
  · have hstate := h.states e hmode
    have hof := EntityState.of_unlisted hstate
    have halike := EntityState.Alike.of_unlisted hstate
    exact ⟨halike.1, halike.2, hof.2.1, hof.2.2.1, hof.2.2.2⟩

/-- An entity whose replicated components are shown as before, unless it is predicted. -/
theorem EntityOk.reshown {definition : SyncArchetype} {v v' : EntityView} (h : EntityOk definition v)
    (hs : v.state.Alike v'.state) (hring : v'.ring = v.ring)
    (hshown : v.state.mode ≠ .predict → ∀ c ∈ definition.components,
      v'.shown c.component = v.shown c.component) : EntityOk definition v' := by
  have hshows : v.state.mode ≠ .predict → ∀ data, Shows definition data v.shown →
      Shows definition data v'.shown := by
    intro hmode data hdata i c hc x hx
    rw [hshown hmode c (List.mem_of_getElem? hc)]
    exact hdata i c hc x hx
  have hmoded : EntityOk definition { state := v'.state, ring := v'.ring, shown := v'.shown } := by
    refine h.moded hs.frame hs.entityPresent hs.baseline hs.history hs.pinned (fun hsnap => ?_) ?_ fun hbuffered => ?_
    · rw [hs.mode] at hsnap
      rw [hs.baseline, hring]
      exact ⟨hshows (by rw [hsnap]; decide) _ (h.snap hsnap), h.quiet hsnap⟩
    · rw [hs.frame, hring]
      exact h.ring
    · rw [hs.mode] at hbuffered
      have hmode : v.state.mode ≠ .predict := by rw [hbuffered]; decide
      rw [hs.last, hs.frame, hring]
      refine ⟨h.last hbuffered, fun P hP hpresent => hshows hmode _ ((h.follows hbuffered).applied P hP hpresent),
        fun T hT hpresent i c x hc hx hbit => ?_⟩
      rw [hshown hmode c (List.mem_of_getElem? hc)]
      exact (h.follows hbuffered).skipped T hT hpresent i c x hc hx hbit
  exact hmoded

theorem ClientOk.replicated (h : ClientOk client) (hleaves : LeavesReplicated client client') : ClientOk client' := by
  have hids := hleaves.ids
  obtain ⟨calls, htrace, hcalls⟩ := hleaves.trace
  have hcount : ∀ w, destroyCount w client'.trace = destroyCount w client.trace := fun w => by
    rw [htrace, destroyCount_append]
    intro call hcall
    rcases hcalls call hcall with ⟨play, rfl⟩ | ⟨sample, rfl, _⟩
    · rfl
    · rfl
  refine ⟨⟨?_, ?_, hleaves.separate h.separate, fun e he => ?_, fun e he => ?_, ?_, ?_, fun e he => ?_,
    fun e he => ?_, fun w e he => ?_,
    fun w => ?_, fun e he => ?_, fun e definition hdef => ?_, fun call hcall => ?_⟩, fun e he => ?_⟩
  · rw [hleaves.settings]
    exact h.pushes
  · rw [hleaves.options]
    exact h.capacity
  · rw [(hids e).2.2.1] at he
    obtain ⟨hstate, hring⟩ := h.unused e he
    have hmode : (client.entity e).mode = .snap := congrArg EntityState.mode hstate
    refine ⟨(hleaves.states e (by rw [hmode]; decide)).trans hstate, ?_⟩
    change client'.bufferedRuntime.rings e = []
    rw [hleaves.rings]
    exact hring
  · rw [hleaves.free] at he
    rw [hleaves.length, (hids e).2.2.1]
    exact h.free e he
  · rw [hleaves.free]
    exact h.nodup
  · rw [hleaves.indices]
    exact h.unmapped
  · rw [(hids e).2.2.1] at he ⊢
    rw [hleaves.indices]
    exact h.indexed e he
  · rw [(hids e).2.2.1] at he
    unfold Named
    rw [(hids e).2.2.1, (hids e).2.2.2.1, hleaves.wires, hleaves.clientId]
    exact h.named e he
  · rw [hleaves.wires] at he
    rw [(hids e).2.2.1, (hids e).2.2.2.1, ReplicationClient.currentId, hleaves.wires, hleaves.clientId]
    exact h.wires w e he
  · rw [hleaves.wires, hcount]
    exact h.versions w
  · rw [(hids e).2.2.1] at he
    rw [(hids e).2.2.2.2]
    exact h.selected e he
  · have hdef' : client.archetypeOf e = some definition := by
      rw [archetypeOf, ← (hids e).2.1, ← hleaves.settings]
      exact hdef
    have halike : (client.view e).state.Alike (client'.view e).state := by
      have hs := (hids e).1
      exact ⟨hs.frame, hs.entityPresent, hs.baseline, hs.history, hs.pinned, hs.mode, hs.last⟩
    refine (h.inv e definition hdef').reshown halike ?_ fun hmode => hleaves.shown e hmode definition hdef'
    change client'.bufferedRuntime.rings e = _
    rw [hleaves.rings]
    rfl
  · rw [hleaves.settings]
    rw [htrace] at hcall
    rcases List.mem_append.mp hcall with hnew | hold
    · rcases hcalls call hnew with ⟨play, rfl⟩ | ⟨sample, rfl, hmode⟩
      · exact trivial
      · intro hbuffered
        rw [hmode] at hbuffered
        cases hbuffered
    · exact h.sound call hold
  · rw [(hids e).2.2.1, (hids e).2.2.2.1, ReplicationClient.currentId, hleaves.wires, hleaves.clientId] at he
    exact (hids e).1.entityPresent.trans (h.present e he)

theorem Quiet.leavesReplicated (h : Quiet client client') : LeavesReplicated client client' := by
  obtain ⟨plays, hplays⟩ := h.trace
  refine ⟨h.settings, h.options, h.clientId, by rw [h.store], by rw [h.store], by rw [h.store], by rw [h.store],
    fun e _ => by rw [h.entity],
    fun e _ => by rw [h.entity]; exact ⟨⟨rfl, rfl, rfl, rfl, rfl, rfl, rfl⟩, rfl, rfl, rfl, rfl⟩,
    (h.worksOn 0).separate, h.rings, fun e _ _ _ c _ => by rw [h.view], _, hplays, fun call hcall => ?_⟩
  obtain ⟨p, _, rfl⟩ := List.mem_map.mp hcall
  exact .inl ⟨p, rfl⟩

theorem ClientOk.quiet (h : ClientOk client) (hquiet : Quiet client client') : ClientOk client' :=
  h.replicated hquiet.leavesReplicated

/-- One buffered entity of `apply_frame`. -/
theorem applyFrameTo_ok {loop : FrameLoop R} (h : ClientOk loop.client) (e : Nat) :
    ClientOk (applyFrameTo frame policy loop e).client := by
  unfold applyFrameTo
  split
  · exact h
  · rename_i hlt
    have he : e < loop.client.store.entities.length := Nat.lt_of_not_le hlt
    split
    · exact h
    · rename_i hring
      have hused : (loop.client.entity e).clientEntityNetworkId ≠ invalidClientEntityNetworkId := by
        intro hinvalid
        have hnil : loop.client.bufferedRuntime.rings e = [] := (h.unused e hinvalid).2
        rw [hnil] at hring
        exact hring rfl
      split
      · split
        · exact h
        · exact h
      · rename_i sample hview
        have hmoves : MovesOn e loop.client (loop.client.applyBufferedSample e sample).1 := by
          refine applyBufferedSample_moves h.separate he h.pushes (h.inv e) h.sound fun hknown => .inl ?_
          obtain ⟨definition, hdef⟩ := Option.ne_none_iff_exists'.mp hknown
          have hok := h.inv e definition hdef
          have hframe := (FrameRing.view_eq_some hview).2
          refine ⟨fun hsnap => ?_, hok.ring.source frame sample hview, by rw [hframe]; exact hview⟩
          have hnone := hok.quiet hsnap frame
          change (loop.client.bufferedRuntime.rings e).view frame = none at hnone
          rw [hview] at hnone
          cases hnone
        have hok := h.moves hused hmoves
        generalize loop.client.applyBufferedSample e sample = result at hok
        obtain ⟨client₁, ok⟩ := result
        cases ok with
        | false => exact hok
        | true =>
          dsimp only at hok ⊢
          split
          · exact hok
          · exact hok.quiet (quiet_playBufferedForFrame client₁ e frame)

/-- `apply_frame` -/
theorem applyFrame_ok (h : ClientOk client) (frame : SyncFrame) (policy : MissingBufferedFramePolicy) :
    ClientOk (client.applyFrame frame policy).1 := by
  have hloop : ∀ (members : List Nat) (loop : FrameLoop R), ClientOk loop.client →
      ClientOk (members.foldl (applyFrameTo frame policy) loop).client := by
    intro members
    induction members with
    | nil => exact fun loop hok => hok
    | cons e members ih => exact fun loop hok => ih _ (applyFrameTo_ok hok e)
  have herase : ∀ (destroys : List Nat) (client : ReplicationClient R), ClientOk client →
      ClientOk (destroys.foldl (fun client e => client.eraseEntityState e false) client) := by
    intro destroys
    induction destroys with
    | nil => exact fun client hok => hok
    | cons e destroys ih => exact fun client hok => ih _ (hok.eraseEntityState e false).1
  have hmarked : ClientOk { client with bufferedRuntime := { client.bufferedRuntime with
      lastAppliedBufferedFrame := frame, hasAppliedBufferedFrame := true } } :=
    h.quiet ⟨rfl, rfl, rfl, rfl, rfl, rfl, rfl, [], rfl⟩
  unfold applyFrame
  dsimp only
  split
  · exact hmarked
  · refine ClientOk.quiet (herase _ _ (hloop _ _ hmarked)) (quiet_setCueStore _ _)

theorem setEntityMode_ok (h : ClientOk client) (id : ClientEntityNetworkId) (mode : ReplicationClientMode) :
    ClientOk (client.setEntityMode id mode) := by
  rcases setEntityMode_moves h.separate h.pushes h.inv h.sound id mode with hsame | ⟨e, s, hfound, hmoves⟩
  · rw [hsame]
    exact h
  · obtain ⟨hindex, hget, hid⟩ := findByClientEntityNetworkId_eq_some.mp hfound
    refine h.moves ?_ hmoves
    rw [entity_of_getElem? hget, hid]
    rintro rfl
    rw [h.unmapped] at hindex
    cases hindex

end

end AshiatoSync
