import AshiatoSync.ClientMoves

/-!
# Mode switches and buffered destroys

Moving an entity to another mode, and storing the destroy of a buffered one, keep
its invariant.
-/

namespace AshiatoSync

open LocalRegistry ReplicationClient

variable {R : Type} [LocalRegistry R] {client : ReplicationClient R} {e : Nat}

theorem MovesOn.sync {client' : ReplicationClient R} (h : MovesOn e client client') :
    MovesOn e client (client'.syncEntityMemberships e) := h.relisted (relisted_sync client'.store e)

theorem finishImmediateModeTransition_spec (client : ReplicationClient R) (e : Nat) (previous : ReplicationClientMode) :
    WorksOn e client (client.finishImmediateModeTransition e previous) ∧
      (client.finishImmediateModeTransition e previous).view e = { client.view e with
        ring := (client.view e).ring.clear } ∧
      (TraceSound client → TraceSound (client.finishImmediateModeTransition e previous)) := by
  unfold finishImmediateModeTransition
  have hquiet :
      Quiet client (if previous = .bufferedInterpolation then client.playBufferedOnModeTransition e else client) := by
    split
    · exact quiet_playBufferedOnModeTransition client e
    · exact .refl client
  dsimp only
  generalize (if previous = .bufferedInterpolation then client.playBufferedOnModeTransition e else client) =
    client₁ at hquiet
  have hquiet' := quiet_setCueStore (client₁.setBufferedRing e (client₁.bufferedRuntime.rings e).clear)
    (client₁.cueStore.eraseBufferedForEntity e)
  refine ⟨((hquiet.worksOn e).trans (worksOn_setBufferedRing _)).trans (hquiet'.worksOn e), ?_, fun hsound => ?_⟩
  · refine (hquiet'.view e).trans ((view_setBufferedRing _).trans ?_)
    rw [hquiet.view, hquiet.rings]
    rfl
  · exact hquiet'.traceSound ((hquiet.traceSound hsound).same rfl rfl)

/-! ## To the buffered timeline -/

/-- The newest frame of an entity, as the first sample of its buffered timeline. -/
theorem EntityOk.seed {definition : SyncArchetype} {v : EntityView} (h : EntityOk definition v)
    (hne : v.state.frame ≠ 0) {ring : FrameRing} (hring : RingOk definition v.state.frame ring) (capacity : Nat) :
    RingOk definition v.state.frame
      (writeBufferedFrame definition capacity ring v.state.frame v.state.entityPresent none
      (if v.state.entityPresent = true then some v.state.baseline else none) v.state.frame v.state.frame).1 := by
  cases hvalid : validFrameArchetype definition with
  | false => simpa [writeBufferedFrame, hvalid] using hring
  | true =>
    obtain ⟨N, heq, hframe, hNvalid, _, hsource, hsized, hsteps⟩ :=
      @writeBufferedFrame_spec definition none (if v.state.entityPresent = true then some v.state.baseline else none)
        v.state.frame v.state.frame v.state.frame capacity ring v.state.entityPresent hvalid fun htrue => by
          refine ⟨⟨(fun s hs => by cases hs), fun t ht => ?_, (fun hs => by cases hs)⟩,
            fun _ => by simp [htrue]⟩
          rw [if_pos htrue] at ht
          rw [← Option.some.inj ht]
          exact h.sized htrue hne
    have hwritten :=
      (hring.ensure capacity).write (hframe ▸ Nat.pos_of_ne_zero hne) (hframe ▸ Nat.le_refl _)
        hNvalid hsource hsized hsteps
    rw [heq]
    rwa [hframe] at hwritten

theorem transitionToBuffered_moves (he : e < client.store.entities.length)
    (hinv : EntityInv client.settings (client.view e)) (hsound : TraceSound client) :
    MovesOn e client (client.transitionToBuffered e).1 := by
  unfold transitionToBuffered
  split
  · exact .refl hinv hsound
  have hf : EntityState.KeepsIds fun s => { s.markModeSelected .bufferedInterpolation with
      lastAppliedBufferedFrame := 0 } :=
    ⟨fun _ => rfl, fun _ => rfl, fun _ => rfl, fun _ => rfl, fun _ _ => rfl⟩
  have hview₀ := view_modifyEntity hf he
  obtain ⟨hworks₁, hview₁⟩ := ensureBufferedRing_spec (client.modifyEntity e fun s =>
    { s.markModeSelected .bufferedInterpolation with lastAppliedBufferedFrame := 0 }) e
  have htrace₁ : ((client.modifyEntity e fun s =>
    { s.markModeSelected .bufferedInterpolation with lastAppliedBufferedFrame := 0 }).ensureBufferedRing e).trace =
      client.trace := rfl
  have hworks₁ := (worksOn_modifyEntity hf).trans hworks₁
  rw [hview₀] at hview₁
  dsimp only
  generalize ((client.modifyEntity e fun s =>
    { s.markModeSelected .bufferedInterpolation with lastAppliedBufferedFrame := 0 }).ensureBufferedRing e) = client₁
    at hworks₁ hview₁ htrace₁
  have he₁ : e < client₁.store.entities.length := by rw [hworks₁.length]; exact he
  have hstate₁ : (client₁.view e).state =
      { (client.view e).state with
        mode := .bufferedInterpolation, modeSelected := true, lastAppliedBufferedFrame := 0 } := by
    rw [hview₁]
    rfl
  have hsettings : client₁.settings = client.settings := hworks₁.settings
  -- whatever is written, the ring is in order and nothing of it has been applied
  have hbuffered : ∀ written : FrameRing × Bool,
      (∀ definition, client.settings.archetypes[(client.view e).state.archetype]? = some definition →
        RingOk definition (client.view e).state.frame written.1) →
      MovesOn e client (if (!written.2) = true then (client₁.setBufferedRing e written.1, false)
        else (((client₁.setBufferedRing e written.1).modifyEntity e fun s =>
          { s with appliedPresentMask := s.baseline.presentMask }).syncEntityMemberships e, true)).1 := by
    intro written hring
    have hworks₂ := hworks₁.trans (@worksOn_setBufferedRing R _ client₁ e written.1)
    have hview₂ := @view_setBufferedRing R _ client₁ e written.1
    have hsound₂ : TraceSound (client₁.setBufferedRing e written.1) := hsound.same hsettings htrace₁
    generalize client₁.setBufferedRing e written.1 = client₂ at hworks₂ hview₂ hsound₂
    have hinv₂ : EntityInv client.settings (client₂.view e) := fun definition hdef => by
      rw [hview₂] at hdef ⊢
      dsimp only at hdef ⊢
      rw [hstate₁] at hdef ⊢
      refine (hinv definition hdef).moded rfl rfl rfl rfl rfl nofun (hring definition hdef)
        fun _ => ⟨Nat.zero_le _, ?_⟩
      exact (hring definition hdef).follows_zero
    have hpresent₂ : (client₂.view e).state.entityPresent = (client.view e).state.entityPresent := by
      rw [hview₂]
      dsimp only
      rw [hstate₁]
    split
    · exact ⟨hworks₂, hinv₂, hsound₂, fun h => hpresent₂.trans h⟩
    · have hg : EntityState.KeepsIds fun s => { s with appliedPresentMask := s.baseline.presentMask } :=
        ⟨fun _ => rfl, fun _ => rfl, fun _ => rfl, fun _ => rfl, fun _ h => h⟩
      have hview₃ := @view_modifyEntity R _ client₂ e _ hg (by rw [hworks₂.length]; exact he)
      refine MovesOn.sync ⟨hworks₂.trans (worksOn_modifyEntity hg), fun definition hdef => ?_,
        hsound₂.same rfl rfl,
        fun h => by rw [hview₃]; exact hpresent₂.trans h⟩
      rw [hview₃] at hdef ⊢
      exact (hinv₂ definition hdef).alike ⟨rfl, rfl, rfl, rfl, rfl, rfl, rfl⟩
  apply hbuffered
  intro definition hdef
  have hok := hinv definition hdef
  have hensured := hok.ring.ensure client.options.bufferedFrameCapacity
  have hrings :
      client₁.bufferedRuntime.rings e = (client.view e).ring.ensure client.options.bufferedFrameCapacity := by
    change (client₁.view e).ring = _
    rw [hview₁]
    rfl
  have hframe : (client₁.entity e).frame = (client.view e).state.frame := by
    change (client₁.view e).state.frame = _
    rw [hstate₁]
  have hpresent : (client₁.entity e).entityPresent = (client.view e).state.entityPresent := by
    change (client₁.view e).state.entityPresent = _
    rw [hstate₁]
  have hbaseline : (client₁.entity e).baseline = (client.view e).state.baseline := by
    change (client₁.view e).state.baseline = _
    rw [hstate₁]
  have hof : client₁.archetypeOf e = some definition := by
    change client₁.settings.archetypes[(client₁.view e).state.archetype]? = _
    rw [hstate₁, hsettings]
    exact hdef
  rw [hrings, hof, hframe, hpresent, hbaseline]
  split
  · exact hensured
  · rename_i hne
    exact hok.seed hne hensured _

/-! ## To snaps -/

theorem keepsIds_mode (mode : ReplicationClientMode) : EntityState.KeepsIds fun s => { s with mode } :=
  ⟨fun _ => rfl, fun _ => rfl, fun _ => rfl, fun _ => rfl, fun _ h => h⟩

theorem keepsIds_markModeSelected (mode : ReplicationClientMode) : EntityState.KeepsIds (·.markModeSelected mode) :=
  ⟨fun _ => rfl, fun _ => rfl, fun _ => rfl, fun _ => rfl, fun _ _ => rfl⟩

/-- A whole frame that was shown is the baseline of a snap entity. -/
theorem EntityOk.snapShown {definition : SyncArchetype} {v v₁ v' : EntityView} (h : EntityOk definition v)
    (hpresent : v.state.entityPresent = true) (hstate : v₁.state = v.state.markModeSelected .snap)
    (hsnap : SnapShown definition v.state.baseline v₁ v') {ring : FrameRing} (hring : ∀ g, ring.view g = none) :
    EntityOk definition { v' with ring } := by
  obtain ⟨_, hshows, l, baseline, hstate', hsized, hmask, hdata⟩ := hsnap
  rw [hstate] at hstate'
  rw [hstate']
  exact h.snapped rfl hpresent.symm rfl rfl rfl hmask (fun _ _ => hsized) hdata (hshows.congr hdata) hring

theorem EntityOk.hasBytes {definition : SyncArchetype} {v : EntityView} (h : EntityOk definition v)
    (hpresent : v.state.entityPresent = true) : HasBytes definition v.state.baseline := by
  by_cases hzero : v.state.frame = 0
  · intro i _ hhas
    simp [frameHasComponent, h.fresh (.inl hzero)] at hhas
  · exact (h.sized hpresent hzero).hasBytes

theorem transitionToSnap_moves (hsep : Separate client) (he : e < client.store.entities.length)
    (hpush : client.settings.PushesAll) (hinv : EntityInv client.settings (client.view e))
    (hsound : TraceSound client) :
    MovesOn e client (client.transitionToSnap e).1 := by
  unfold transitionToSnap
  have hf := keepsIds_markModeSelected .snap
  have hworks₁ := @worksOn_modifyEntity R _ client e _ hf
  have hview₁ := view_modifyEntity hf he
  have htrace₁ : (client.modifyEntity e (·.markModeSelected .snap)).trace = client.trace := rfl
  dsimp only
  generalize client.modifyEntity e (·.markModeSelected .snap) = client₁ at hworks₁ hview₁ htrace₁
  have he₁ : e < client₁.store.entities.length := by rw [hworks₁.length]; exact he
  have hstate₁ : (client₁.view e).state = (client.view e).state.markModeSelected .snap := by rw [hview₁]
  have hsound₁ : TraceSound client₁ := hsound.same hworks₁.settings htrace₁
  -- an entity that is as it should be once its ring is cleared
  have hfinish : ∀ client₂ : ReplicationClient R, WorksOn e client client₂ → TraceSound client₂ →
      (∀ ring : FrameRing, (∀ g, ring.view g = none) →
      EntityInv client.settings { client₂.view e with ring }) →
      ((client.view e).state.entityPresent = true → (client₂.view e).state.entityPresent = true) →
      MovesOn e client
        ((client₂.finishImmediateModeTransition e (client.entity e).mode).syncEntityMemberships e) := by
    intro client₂ hworks₂ hsound₂ hinv₂ hpresent₂
    obtain ⟨hworks₃, hview₃, hsound₃⟩ := finishImmediateModeTransition_spec client₂ e (client.entity e).mode
    refine MovesOn.sync ⟨hworks₂.trans hworks₃, ?_, hsound₃ hsound₂, by rw [hview₃]; exact hpresent₂⟩
    rw [hview₃]
    exact hinv₂ _ (FrameRing.view_clear _)
  unfold applyLatestSnap
  dsimp only
  have hpresentEq : (client₁.entity e).entityPresent = (client.view e).state.entityPresent := by
    change (client₁.view e).state.entityPresent = _
    rw [hstate₁]
    rfl
  have hbaselineEq : (client₁.entity e).baseline = (client.view e).state.baseline := by
    change (client₁.view e).state.baseline = _
    rw [hstate₁]
    rfl
  rw [hpresentEq, hbaselineEq]
  cases hpresent : (client.view e).state.entityPresent with
  | false =>
    obtain ⟨hworks₂, hstate₂, hring₂, hshown₂⟩ := hideEntity_spec (hworks₁.separate hsep) he₁
    have hlisted := relisted_sync (client₁.hideEntity e).store e
    have hview₃ : ((client₁.hideEntity e).syncEntityMemberships e).view e = (client₁.hideEntity e).view e :=
      hlisted.view e
    refine hfinish _ ((hworks₁.trans hworks₂).trans hlisted.worksOn) (hsound₁.same rfl rfl)
      (fun ring hring definition hdef => ?_)
      fun htrue => absurd (hpresent.symm.trans htrue) (by decide)
    rw [hview₃] at hdef ⊢
    dsimp only at hdef ⊢
    rw [hstate₂, hstate₁] at hdef ⊢
    have hok := hinv definition hdef
    refine hok.snapped rfl rfl rfl rfl rfl rfl (fun htrue => ?_) (fun _ _ => rfl) ?_ hring
    · exact absurd (hpresent.symm.trans htrue) (by decide)
    · exact shows_of_mask_zero (hok.fresh (.inr hpresent)) _
  | true =>
    simp only [Bool.not_true, Bool.false_eq_true, if_false]
    cases hdef : client.settings.archetypes[(client.view e).state.archetype]? with
    | none =>
      have hof : client₁.archetypeOf e = none := by
        change client₁.settings.archetypes[(client₁.view e).state.archetype]? = _
        rw [hstate₁, hworks₁.settings]
        exact hdef
      unfold applySnapSample
      rw [hof]
      have hg := keepsIds_mode (client.entity e).mode
      have hview₂ := @view_modifyEntity R _ client₁ e _ hg he₁
      refine ⟨hworks₁.trans (worksOn_modifyEntity hg), fun definition heq => ?_, hsound₁.same rfl rfl,
        fun htrue => ?_⟩
      case refine_2 =>
        rw [hview₂]
        exact hpresentEq.trans htrue
      rw [hview₂] at heq
      dsimp only at heq
      rw [hstate₁] at heq
      exact absurd (hdef.symm.trans heq) (by simp)
    | some definition =>
      have hok := hinv definition hdef
      have hof : client₁.archetypeOf e = some definition := by
        change client₁.settings.archetypes[(client₁.view e).state.archetype]? = _
        rw [hstate₁, hworks₁.settings]
        exact hdef
      obtain ⟨hworks₂, htrace₂, hshown, hfail⟩ :=
        @applySnapSample_spec R _ client₁ e definition (client.view e).state.baseline
        (client.view e).state.baseline.presentMask (hworks₁.separate hsep) he₁ hof
        (hpush definition (List.mem_of_getElem? hdef)) (hok.hasBytes hpresent) fun i c x _ hx hbit => by
          obtain ⟨hhas, _⟩ := frameComponentData_eq_some.mp hx
          unfold frameHasComponent at hhas
          rw [hhas] at hbit
          cases hbit
      generalize client₁.applySnapSample e (client.view e).state.baseline (client.view e).state.baseline.presentMask =
        result
        at hworks₂ htrace₂ hshown hfail
      obtain ⟨client₂, ok⟩ := result
      dsimp only at hworks₂ htrace₂ hshown hfail
      have hworks₂ := hworks₁.trans hworks₂
      have hsound₂ : TraceSound client₂ := hsound₁.same (by rw [hworks₂.settings, hworks₁.settings]) htrace₂
      cases ok with
      | false =>
        obtain ⟨hring, hshownEq, l, stored, hstate₂, hwhich⟩ := hfail rfl
        have hg := keepsIds_mode (client.entity e).mode
        have hview₃ := @view_modifyEntity R _ client₂ e _ hg (by rw [hworks₂.length]; exact he)
        refine ⟨hworks₂.trans (worksOn_modifyEntity hg), fun definition' heq => ?_, hsound₂.same rfl rfl,
          fun htrue => ?_⟩
        case refine_2 =>
          rw [hview₃]
          dsimp only
          rw [hstate₂]
          exact hpresentEq.trans htrue
        rw [hview₃] at heq ⊢
        dsimp only at heq
        rw [hstate₂, hstate₁] at heq
        obtain rfl : definition = definition' := Option.some.inj (hdef.symm.trans heq)
        have hselected :
            EntityOk definition { client.view e with state := { (client.view e).state with modeSelected := true } } :=
          hok.alike ⟨rfl, rfl, rfl, rfl, rfl, rfl, rfl⟩
        refine hselected.snapFailed ⟨?_, ?_, l, stored, ?_, ?_⟩
        all_goals dsimp only
        · rw [hring, hview₁]
        · rw [hshownEq, hview₁]
        · rw [hstate₂, hstate₁]
          rfl
        · rw [hstate₁] at hwhich
          exact hwhich
      | true =>
        have hsnap := hshown rfl
        obtain ⟨_, _, l, baseline, hstate₂, _⟩ := hshown rfl
        refine hfinish client₂ hworks₂ hsound₂ (fun ring hring definition' heq => ?_) fun _ => by rw [hstate₂]
        dsimp only at heq
        rw [hstate₂, hstate₁] at heq
        obtain rfl : definition = definition' := Option.some.inj (hdef.symm.trans heq)
        exact hok.snapShown hpresent hstate₁ hsnap hring

/-! ## To predictions -/

omit [LocalRegistry R] in
theorem quiet_setPredictedRing (client : ReplicationClient R) (e : Nat) (ring : FrameRing) :
    Quiet client (client.setPredictedRing e ring) := ⟨rfl, rfl, rfl, rfl, rfl, rfl, rfl, [], rfl⟩

omit [LocalRegistry R] in
theorem quiet_seedExistingAuthoritativeFrame (client : ReplicationClient R) (frame : SyncFrame) :
    Quiet client (client.seedExistingAuthoritativeFrame frame) := by
  unfold seedExistingAuthoritativeFrame
  split
  · exact .refl client
  · exact ⟨rfl, rfl, rfl, rfl, rfl, rfl, rfl, [], rfl⟩

theorem applyFrameData_moves (hsep : Separate client) (he : e < client.store.entities.length)
    (hpush : client.settings.PushesAll) (hinv : EntityInv client.settings (client.view e)) (hsound : TraceSound client)
    (hmode : (client.view e).state.mode = .predict) (frame : SyncFrame) (present : Bool) (data : QuantizedFrameData) :
    MovesOn e client (client.applyFrameData e frame present data).1 ∧
      ((client.applyFrameData e frame present data).1.view e).state.mode = .predict := by
  refine ⟨applyBufferedSample_moves hsep he hpush hinv hsound fun _ => .inr ⟨hmode, nofun⟩, ?_⟩
  unfold applyFrameData
  obtain ⟨l, mask, last, hstate⟩ := @applyBufferedSample_state R _ client e
    { frame, valid := true, entityPresent := present, writeSource := .unknown, baseline := data } hsep he
  rw [hstate]
  exact hmode

theorem transitionToPredict_moves (hsep : Separate client) (he : e < client.store.entities.length)
    (hpush : client.settings.PushesAll) (hinv : EntityInv client.settings (client.view e))
    (hsound : TraceSound client) :
    MovesOn e client (client.transitionToPredict e).1 := by
  unfold transitionToPredict
  split
  · exact .refl hinv hsound
  have hf := keepsIds_markModeSelected .predict
  have hworks₁ := @worksOn_modifyEntity R _ client e _ hf
  have hview₁ := view_modifyEntity hf he
  have hquiet := quiet_ensurePredictedRing (client.modifyEntity e (·.markModeSelected .predict)) e
  have hsound₁ : TraceSound (client.modifyEntity e (·.markModeSelected .predict)) := hsound.same rfl rfl
  have hsound₁ := hquiet.traceSound hsound₁
  have hworks₁ := hworks₁.trans (hquiet.worksOn e)
  have hview₁ := (hquiet.view e).trans hview₁
  dsimp only
  generalize (client.modifyEntity e (·.markModeSelected .predict)).ensurePredictedRing e = client₁
    at hworks₁ hview₁ hsound₁
  have he₁ : e < client₁.store.entities.length := by rw [hworks₁.length]; exact he
  have hstate₁ : (client₁.view e).state = (client.view e).state.markModeSelected .predict := by rw [hview₁]
  have hinv₁ : EntityInv client₁.settings (client₁.view e) := fun definition hdef => by
    rw [hworks₁.settings, hstate₁] at hdef
    rw [hview₁]
    exact (hinv definition hdef).moded rfl rfl rfl rfl rfl nofun (hinv definition hdef).ring nofun
  have hmoved : MovesOn e client client₁ :=
    ⟨hworks₁, hworks₁.settings ▸ hinv₁, hsound₁, fun h => by rw [hstate₁]; exact h⟩
  have hfinish : ∀ client₂ : ReplicationClient R, MovesOn e client client₂ →
      (client₂.view e).state.mode = .predict →
      MovesOn e client
        ((client₂.finishImmediateModeTransition e (client.entity e).mode).syncEntityMemberships e) := by
    intro client₂ hmoved₂ hmode₂
    obtain ⟨hworks₃, hview₃, hsound₃⟩ := finishImmediateModeTransition_spec client₂ e (client.entity e).mode
    refine MovesOn.sync ⟨hmoved₂.works.trans hworks₃, fun definition hdef => ?_, hsound₃ hmoved₂.sound,
      by rw [hview₃]; exact hmoved₂.present⟩
    rw [hview₃] at hdef ⊢
    refine (hmoved₂.inv definition hdef).moded rfl rfl rfl rfl rfl (fun hsnap => ?_)
      (.of_none (FrameRing.view_clear _)) fun hbuffered => ?_
    · exact absurd (hmode₂.symm.trans hsnap) (by decide)
    · exact absurd (hmode₂.symm.trans hbuffered) (by decide)
  have hmode₁ : (client₁.view e).state.mode = .predict := by
    rw [hstate₁]
    rfl
  obtain ⟨hmoved₂, hmode₂⟩ :=
    applyFrameData_moves (hworks₁.separate hsep) he₁ (by rw [hworks₁.settings]; exact hpush) hinv₁ hsound₁
    hmode₁ (client₁.entity e).frame (client₁.entity e).entityPresent (client₁.entity e).baseline
  by_cases hzero : (client₁.entity e).frame = 0
  · rw [if_pos hzero]
    exact hfinish client₁ hmoved hmode₁
  · rw [if_neg hzero]
    generalize client₁.applyFrameData e (client₁.entity e).frame (client₁.entity e).entityPresent
      (client₁.entity e).baseline =
      result at hmoved₂ hmode₂
    obtain ⟨client₂, ok⟩ := result
    cases ok with
    | false => exact hmoved.trans hmoved₂
    | true =>
      dsimp only at hmoved₂ hmode₂ ⊢
      have hquiet₂ := quiet_setPredictedRing client₂ e ((client₂.prediction.predictedFrames e).write
        { frame := (client₁.entity e).frame, valid := true, entityPresent := (client₁.entity e).entityPresent
          writeSource := .authoritativeSeed, baseline := (client₁.entity e).baseline })
      have hseeded : ∀ client₃, Quiet client₂ client₃ → MovesOn e client
          ((client₃.finishImmediateModeTransition e (client.entity e).mode).syncEntityMemberships e) :=
            fun client₃ hquiet₃ =>
        hfinish client₃ ((hmoved.trans hmoved₂).quiet hquiet₃) (by rw [hquiet₃.view]; exact hmode₂)
      apply hseeded
      split
      · exact hquiet₂.trans (quiet_seedExistingAuthoritativeFrame _ _)
      · exact hquiet₂

/-- `set_entity_mode` works on the entity it finds. -/
theorem setEntityMode_moves (hsep : Separate client) (hpush : client.settings.PushesAll)
    (hinv : ∀ e, EntityInv client.settings (client.view e)) (hsound : TraceSound client) (id : ClientEntityNetworkId)
    (mode : ReplicationClientMode) : client.setEntityMode id mode = client ∨
      ∃ e s, client.store.findByClientEntityNetworkId id = some (e, s) ∧
      MovesOn e client (client.setEntityMode id mode) := by
  unfold setEntityMode
  split
  · exact .inl rfl
  rename_i e state hfound
  have he : e < client.store.entities.length :=
    (List.getElem?_eq_some_iff.mp (findByClientEntityNetworkId_eq_some.mp hfound).2.1).1
  refine .inr ⟨e, state, hfound, ?_⟩
  split
  · exact .refl (hinv e) hsound
  split
  · exact .refl (hinv e) hsound
  have hquiet :
      Quiet client (if mode = .predict ∧ client.store.members .predicted = [] then client.resetPredictedFrame
      else client) := by
    split
    · exact ⟨rfl, rfl, rfl, rfl, rfl, rfl, rfl, [], rfl⟩
    · exact .refl client
  dsimp only
  generalize (if mode = .predict ∧ client.store.members .predicted = [] then client.resetPredictedFrame else client) =
    client₁
    at hquiet
  have hworks₁ := hquiet.worksOn e
  have he₁ : e < client₁.store.entities.length := by rw [hworks₁.length]; exact he
  have hinv₁ : EntityInv client₁.settings (client₁.view e) := by
    rw [hquiet.settings, hquiet.view]
    exact hinv e
  have hpush₁ : client₁.settings.PushesAll := by rw [hquiet.settings]; exact hpush
  have hsound₁ := hquiet.traceSound hsound
  have hswitched : MovesOn e client₁ (client₁.switchEntityMode e mode).1 := by
    cases mode with
    | bufferedInterpolation => exact transitionToBuffered_moves he₁ hinv₁ hsound₁
    | predict => exact transitionToPredict_moves (hworks₁.separate hsep) he₁ hpush₁ hinv₁ hsound₁
    | snap => exact transitionToSnap_moves (hworks₁.separate hsep) he₁ hpush₁ hinv₁ hsound₁
  have hswitched := MovesOn.after hworks₁ (by rw [hquiet.view]; exact fun h => h) hswitched
  generalize client₁.switchEntityMode e mode = result at hswitched
  obtain ⟨client₂, ok⟩ := result
  cases ok with
  | false => exact hswitched
  | true =>
    dsimp only at hswitched ⊢
    split
    · exact hswitched.sync.quiet ⟨rfl, rfl, rfl, rfl, rfl, rfl, rfl, [], rfl⟩
    · exact hswitched.sync

/-! ## Buffered destroys -/

theorem EntityOk.recordedAbsent {definition : SyncArchetype} {v : EntityView} {s : EntityState} {frame : SyncFrame}
    (hstate : v.state = s.recordAuthoritativeAbsent frame) (hrange : frame < 2 ^ 32) (hne : frame ≠ 0)
    (hmode : s.mode = .bufferedInterpolation) (hring : RingOk definition frame v.ring)
    (hlast : s.lastAppliedBufferedFrame ≤ frame)
    (hfollows : Follows definition v.ring s.lastAppliedBufferedFrame v.shown) :
    EntityOk definition v := by
  obtain ⟨state, ring, shown⟩ := v
  dsimp only at hstate hring hfollows
  subst hstate
  exact EntityOk.remembered hrange hne nofun (fun _ => rfl) nofun
    (fun hsnap => absurd (hmode.symm.trans hsnap) (by decide)) hring
    fun _ => ⟨hlast, hfollows⟩

theorem recordAuthoritativeAbsent_fields (s : EntityState) (frame : SyncFrame) :
    (s.recordAuthoritativeAbsent frame).mode = s.mode ∧
    (s.recordAuthoritativeAbsent frame).archetype = s.archetype ∧
      (s.recordAuthoritativeAbsent frame).entityPresent = false ∧
      (s.recordAuthoritativeAbsent frame).frame = frame := by
  unfold EntityState.recordAuthoritativeAbsent
  obtain ⟨pinned, heq, _⟩ := rememberBaseline_eq
    { s with baseline := {}, appliedPresentMask := 0, frame, entityPresent := false }
  rw [heq]
  exact ⟨rfl, rfl, rfl, rfl⟩

structure BufferedDestroyed (e : Nat) (client client₁ : ReplicationClient R) (result : Applied R) : Prop where
  works : WorksOn e client client₁
  inv : EntityInv client.settings (client₁.view e)
  sound : TraceSound client₁
  outcome : (result = (client₁, result.2) ∧ (client₁.view e).state.entityPresent = result.2.isSome) ∨
    result = (client₁.eraseEntityState e false, none)

/-- `apply_buffered_destroy` stores the destroy, or applies it at once. -/
theorem applyBufferedDestroy_moves (hsep : Separate client) (he : e < client.store.entities.length)
    (hpush : client.settings.PushesAll) (hinv : EntityInv client.settings (client.view e)) (hsound : TraceSound client)
    (hcapacity : 0 < client.options.bufferedFrameCapacity) {frame : Nat} (hrange : frame < 2 ^ 32) (hne : frame ≠ 0)
    (hmode : (client.view e).state.mode = .bufferedInterpolation)
    (hpresent : (client.view e).state.entityPresent = true) :
    ∃ client₁, BufferedDestroyed e client client₁ (client.applyBufferedDestroy e frame) := by
  unfold applyBufferedDestroy
  have hf := keepsIds_markModeSelected .bufferedInterpolation
  have hview₀ := view_modifyEntity hf he
  obtain ⟨hworks₁, hview₁⟩ :=
    ensureBufferedRing_spec (client.modifyEntity e (·.markModeSelected .bufferedInterpolation)) e
  have htrace₁ : ((client.modifyEntity e (·.markModeSelected .bufferedInterpolation)).ensureBufferedRing e).trace =
      client.trace := rfl
  have hworks₁ := (worksOn_modifyEntity hf).trans hworks₁
  rw [hview₀] at hview₁
  dsimp only
  generalize ((client.modifyEntity e (·.markModeSelected .bufferedInterpolation)).ensureBufferedRing e) = client₁
    at hworks₁ hview₁ htrace₁
  have he₁ : e < client₁.store.entities.length := by rw [hworks₁.length]; exact he
  have hstate₁ : (client₁.view e).state = (client.view e).state.markModeSelected .bufferedInterpolation := by
    rw [hview₁]
  have hsound₁ : TraceSound client₁ := hsound.same hworks₁.settings htrace₁
  have hmode₁ : (client₁.view e).state.mode = .bufferedInterpolation := by
    rw [hstate₁]
    rfl
  have hpresent₁ : (client₁.view e).state.entityPresent = true := by
    rw [hstate₁]
    exact hpresent
  have hinv₁ : EntityInv client.settings (client₁.view e) := fun definition hdef => by
    rw [hstate₁] at hdef
    have hok := hinv definition hdef
    have hfollows := (hok.follows hmode).ensure client.options.bufferedFrameCapacity
    rw [hview₁]
    exact hok.moded rfl rfl rfl rfl rfl nofun (hok.ring.ensure _) fun _ => ⟨hok.last hmode, hfollows⟩
  -- a destroy that is not stored leaves the entity present
  have hleft : ∀ client₂, MovesOn e client client₂ →
      ∃ client₁, BufferedDestroyed e client client₁ (client₂, some "buffered_destroy_fill_frames_failed") :=
        fun client₂ hmoved =>
    ⟨client₂, hmoved.works, hmoved.inv, hmoved.sound, .inl ⟨rfl, hmoved.present hpresent⟩⟩
  have hmoved₁ : MovesOn e client client₁ := ⟨hworks₁, hinv₁, hsound₁, fun _ => hpresent₁⟩
  by_cases hstale : (client₁.entity e).frame ≠ 0 ∧ frame ≤ (client₁.entity e).frame
  · have hfill : client₁.fillBufferedFrames e frame none = (client₁, false) := by
      unfold fillBufferedFrames
      dsimp only
      rw [if_pos hstale]
    rw [hfill]
    exact hleft client₁ hmoved₁
  cases hdef : client₁.archetypeOf e with
  | none =>
    have hfill : client₁.fillBufferedFrames e frame none = (client₁, false) := by
      unfold fillBufferedFrames
      dsimp only
      rw [if_neg hstale, hdef]
    rw [hfill]
    exact hleft client₁ hmoved₁
  | some definition =>
    have hdef' : client.settings.archetypes[(client₁.view e).state.archetype]? = some definition := by
      rw [← hworks₁.settings]
      exact hdef
    have hok₁ := hinv₁ definition hdef'
    have hnewer : (client₁.view e).state.frame < frame := by
      by_contra hle
      have hle := Nat.le_of_not_lt hle
      refine hstale ⟨fun hzero => hne ?_, hle⟩
      exact Nat.le_zero.mp (Nat.le_trans hle (Nat.le_of_eq hzero))
    obtain ⟨hworks₂, htrace₂, ring, hview₂, hfilled, hkept⟩ :=
      @fillBufferedFrames_spec R _ client₁ e definition frame none hdef
      hok₁ hpresent₁ hnewer nofun
    generalize client₁.fillBufferedFrames e frame none = result at hworks₂ htrace₂ hview₂ hfilled hkept
    obtain ⟨client₂, ok⟩ := result
    dsimp only at hworks₂ htrace₂ hview₂ hfilled hkept
    have hworks₂ := hworks₁.trans hworks₂
    have he₂ : e < client₂.store.entities.length := by rw [hworks₂.length]; exact he
    have hsound₂ : TraceSound client₂ := hsound.same hworks₂.settings (htrace₂.trans htrace₁)
    cases ok with
    | false =>
      have hsame : client₂.view e = client₁.view e := by rw [hview₂, hkept rfl]
      exact hleft client₂ ⟨hworks₂, hsame ▸ hinv₁, hsound₂, fun _ => hsame ▸ hpresent₁⟩
    | true =>
      obtain ⟨hring, hfollows, hlast⟩ := hfilled rfl
      obtain ⟨N, hN, hNabsent⟩ := hlast (by rw [hworks₁.options]; exact hcapacity)
      obtain ⟨hworks₃, hview₃, htrace₃⟩ := recordAbsent_spec he₂ frame
      dsimp only
      generalize client₂.recordAbsent e frame = client₃ at hworks₃ hview₃ htrace₃
      have hworks₃ := hworks₂.trans hworks₃
      have he₃ : e < client₃.store.entities.length := by rw [hworks₃.length]; exact he
      have hsound₃ : TraceSound client₃ := hsound₂.same (by rw [hworks₃.settings, hworks₂.settings]) htrace₃
      rw [hview₂] at hview₃
      obtain ⟨hmodeEq, harchetypeEq, habsent, _⟩ := recordAuthoritativeAbsent_fields (client₁.view e).state frame
      have hstate₃ : (client₃.view e).state = (client₁.view e).state.recordAuthoritativeAbsent frame := by
        rw [hview₃]
      have hinv₃ : EntityInv client₃.settings (client₃.view e) := fun definition' heq => by
        rw [hstate₃, harchetypeEq, hworks₃.settings] at heq
        obtain rfl : definition = definition' := Option.some.inj (hdef'.symm.trans heq)
        rw [hview₃]
        exact EntityOk.recordedAbsent rfl hrange hne hmode₁ hring
          (Nat.le_trans (hok₁.last hmode₁) (Nat.le_of_lt hnewer))
          (hfollows _ _ (hok₁.last hmode₁) (hok₁.follows hmode₁))
      have habsent₃ : (client₃.view e).state.entityPresent = false := by
        rw [hstate₃]
        exact habsent
      split
      · -- the timeline is past the destroy: its sample hides the entity
        have hview : (client₃.bufferedRuntime.rings e).view frame = some N := by
          change (client₃.view e).ring.view frame = some N
          rw [hview₃]
          exact hN
        have hmoved₄ := @applyPassedSample_moves R _ client₃ e frame (hworks₃.separate hsep) he₃
          (by rw [hworks₃.settings]; exact hpush) hinv₃ hsound₃
          ⟨definition, by rw [hstate₃, harchetypeEq, hworks₃.settings]; exact hdef'⟩
            (by rw [hstate₃, hmodeEq]; exact hmode₁)
        have happlied : client₃.applyPassedSample e frame = ((client₃.applyPassedSample e frame).1, true) := by
          simp [applyPassedSample, hview, applyBufferedSample, hNabsent]
        rw [happlied]
        exact ⟨_, hworks₃.trans hmoved₄.works, hworks₃.settings ▸ hmoved₄.inv, hmoved₄.sound, .inr rfl⟩
      · exact ⟨client₃, hworks₃, hworks₃.settings ▸ hinv₃, hsound₃, .inl ⟨rfl, habsent₃⟩⟩

end AshiatoSync
