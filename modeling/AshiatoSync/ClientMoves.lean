import AshiatoSync.ViewSound

/-!
# What the client's calls do to one entity

Each call that works on an entity keeps its invariant, leaves the other entities
as they are, and logs only samples and snaps that are shown whole.
-/

namespace AshiatoSync

open LocalRegistry ReplicationClient

variable {R : Type} [LocalRegistry R]

/-! ## Local entities -/

/-- The entity `ensure_local_entity` gives is the one there was, or a new one. -/
theorem ensureLocalEntity_spec (r : R) (local? : Option Entity) (halive : ∀ l, local? = some l → alive r l = true) :
    let r' := (ensureLocalEntity r local?).1
    let l := (ensureLocalEntity r local?).2
    alive r' l = true ∧ (local? = some l ∨ alive r l = false) ∧
      (∀ x, alive r x = true → alive r' x = true ∧ ∀ c, get r' x c = get r x c) ∧
      (∀ c, get r' l c = local?.bind fun l => get r l c) := by
  unfold ensureLocalEntity
  cases local? with
  | none =>
    refine ⟨by simp [alive_create], .inr (create_fresh r), fun x hx => ⟨by simp [alive_create, hx], fun c => ?_⟩,
      fun c => ?_⟩
    · have hne : x ≠ (create r).2 := by
        rintro rfl
        rw [create_fresh] at hx
        cases hx
      simp [get_create, hne]
    · simp [get_create]
  | some l =>
    have hl := halive l rfl
    have heq : (if alive r l = true then (r, l) else create r) = (r, l) := if_pos hl
    dsimp only
    rw [heq]
    exact ⟨hl, .inl rfl, fun x hx => ⟨hx, fun _ => rfl⟩, fun _ => rfl⟩

section

variable {client : ReplicationClient R} {e : Nat} {definition : SyncArchetype} {input : RegistryFrameApplyInfo}

/-- The state with another local entity, and only that one changed in the registry. -/
theorem worksOn_localEntity (hsep : Separate client) {r : R} {l : Entity}
    (hl : (client.entity e).localEntity = some l ∨ alive client.registry l = false) (hlive : alive r l = true)
    (hothers : ∀ x, x ≠ l → alive client.registry x = true → alive r x = true ∧
    ∀ c, get r x c = get client.registry x c) :
    WorksOn e client { client.modifyEntity e fun s => { s with localEntity := some l } with registry := r } := by
  generalize hclient' : ({ client.modifyEntity e fun s => { s with localEntity := some l } with registry := r } :
    ReplicationClient R) = client'
  have hne : ∀ i, i ≠ e → client'.entity i = client.entity i := fun i hi => by
    rw [← hclient']
    exact entity_modifyEntity_ne hi
  have hor : ∀ i, client'.entity i = client.entity i ∨
      client'.entity i = { client.entity i with localEntity := some l } := fun i => by
    rw [← hclient']
    exact entity_modifyEntity_or i
  have hother : ∀ i x, i ≠ e → (client.entity i).localEntity = some x → x ≠ l := by
    rintro i x hi hx rfl
    rcases hl with hl | hl
    · exact hi (hsep.distinct i e x hx hl)
    · rw [hsep.alive i x hx] at hl
      cases hl
  have hlocal : ∀ i x, (client'.entity i).localEntity = some x →
      (i = e ∧ x = l) ∨ (x ≠ l ∧ (client.entity i).localEntity = some x) := by
    intro i x hx
    by_cases hi : i = e
    · rcases hor i with h | h
      · rw [h] at hx
        by_cases hxl : x = l
        · exact .inl ⟨hi, hxl⟩
        · exact .inr ⟨hxl, hx⟩
      · rw [h] at hx
        exact .inl ⟨hi, (Option.some.inj hx).symm⟩
    · rw [hne i hi] at hx
      exact .inr ⟨hother i x hi hx, hx⟩
  subst hclient'
  refine ⟨rfl, rfl, rfl, rfl, by simp [ReplicationClient.modifyEntity, ClientEntityStore.modifyEntity],
    rfl, rfl, rfl, rfl,
    fun i => ?_, fun i => ?_, fun i hi => ?_, fun i hi => ?_, fun _ => ⟨fun i x hx => ?_,
    fun i j x hi hj => ?_⟩, [], rfl,
    fun _ h => by cases h⟩
  · rcases hor i with h | h
    · rw [h]
    · rw [h]
  · rcases hor i with h | h
    · rw [h]
    · rw [h]
  · rcases hor i with h | h
    · rw [h]
      exact hi
    · rw [h]
      exact hi
  · have hi' := hne i hi
    simp only [ReplicationClient.view, hi']
    congr 1
    funext c
    cases hx : (client.entity i).localEntity with
    | none => rfl
    | some x => exact (hothers x (hother i x hi hx) (hsep.alive i x hx)).2 c
  · rcases hlocal i x hx with ⟨_, rfl⟩ | ⟨hxl, hx⟩
    · exact hlive
    · exact (hothers x hxl (hsep.alive i x hx)).1
  · rcases hlocal i x hi with ⟨hie, hxl⟩ | ⟨hxl, hold⟩
    · rcases hlocal j x hj with ⟨hje, _⟩ | ⟨hne, _⟩
      · exact hie.trans hje.symm
      · exact absurd hxl hne
    · rcases hlocal j x hj with ⟨_, heq⟩ | ⟨_, hold'⟩
      · exact absurd heq hxl
      · exact hsep.distinct i j x hold hold'

/-- `apply_registry_frame` shows the frame, or leaves the components as they are. -/
theorem applyRegistryFrame_client (hsep : Separate client) (he : e < client.store.entities.length)
    (definition : SyncArchetype) (input : RegistryFrameApplyInfo) :
    let r := client.applyRegistryFrame e definition input
    WorksOn e client r.1 ∧ r.1.trace = client.trace ∧
      (∃ l, (r.1.view e).state = { (client.view e).state with localEntity := some l }) ∧
      (r.1.view e).ring = (client.view e).ring ∧
      (r.2 = true → FrameShown definition input (client.view e).shown (r.1.view e).shown) ∧
      (r.2 = false → (∀ c ∈ definition.components, ∀ bytes, (c.ops.pushToRegistry bytes).isSome) →
        HasBytes definition input.frameData → (r.1.view e).shown = (client.view e).shown) := by
  obtain ⟨hlive, hl, hkeep, hget⟩ :=
    ensureLocalEntity_spec client.registry (client.entity e).localEntity (hsep.alive e)
  unfold ReplicationClient.applyRegistryFrame
  generalize ensureLocalEntity client.registry (client.entity e).localEntity = ensured at hlive hl hkeep hget
  obtain ⟨r₀, l⟩ := ensured
  dsimp only at hlive hl hkeep hget
  obtain ⟨hon, hshown, hfail⟩ := applyRegistryFrame_spec definition input l r₀
  dsimp only
  generalize AshiatoSync.applyRegistryFrame definition input l r₀ = applied at hon hshown hfail
  obtain ⟨r₁, ok⟩ := applied
  dsimp only at hon hshown hfail
  have hself : ({ client.modifyEntity e fun s => { s with localEntity := some l } with registry := r₁ } :
      ReplicationClient R).entity e = { client.entity e with localEntity := some l } := entity_modifyEntity_self he
  have hview : ∀ c, (({ client.modifyEntity e fun s => { s with localEntity := some l } with registry := r₁ } :
      ReplicationClient R).view e).shown c = get r₁ l c := fun c => by simp [ReplicationClient.view, hself]
  have hbefore : ∀ c, (client.view e).shown c = get r₀ l c := fun c => (hget c).symm
  refine ⟨worksOn_localEntity hsep hl ?_ fun x hx halive => ⟨?_, fun c => ?_⟩, rfl, ⟨l, ?_⟩,
    rfl, fun hok => ?_,
    fun hok hpush hbytes => ?_⟩
  · rw [hon.alive]
    exact hlive
  · rw [hon.alive]
    exact (hkeep x halive).1
  · rw [hon.get x c hx]
    exact (hkeep x halive).2 c
  · simp only [ReplicationClient.view, hself]
    rfl
  · have h := hshown hok
    refine ⟨fun i c hc => ?_, fun component hne => ?_⟩
    · rw [hview, hbefore]
      exact h.component i c hc
    · rw [hview, hbefore]
      exact h.other component hne
  · funext c
    rw [hview, hbefore]
    exact hfail hok hpush hbytes c

end

section

variable {client : ReplicationClient R} {e : Nat}

theorem hideEntity_spec (hsep : Separate client) (he : e < client.store.entities.length) :
    WorksOn e client (client.hideEntity e) ∧
      ((client.hideEntity e).view e).state = { (client.view e).state with
        localEntity := none, appliedPresentMask := 0 } ∧
      ((client.hideEntity e).view e).ring = (client.view e).ring ∧ ((client.hideEntity e).view e).shown =
        fun _ => none := by
  have hne : ∀ i, i ≠ e → (client.hideEntity e).entity i = client.entity i :=
    fun i hi => entity_modifyEntity_ne hi
  have hself : (client.hideEntity e).entity e = { client.entity e with localEntity := none, appliedPresentMask := 0 } :=
    entity_modifyEntity_self he
  have hkeep : ∀ i x, i ≠ e → (client.entity i).localEntity = some x →
      alive (client.hideEntity e).registry x = true ∧ ∀ c, get (client.hideEntity e).registry x c =
        get client.registry x c := by
    intro i x hi hx
    unfold hideEntity
    dsimp only
    split
    · rename_i l hl
      have hxl : x ≠ l := by
        rintro rfl
        exact hi (hsep.distinct i e x hx hl)
      split
      · exact ⟨by simp [alive_destroy, hxl, hsep.alive i x hx], fun c => get_destroy client.registry l x c hxl⟩
      · exact ⟨hsep.alive i x hx, fun _ => rfl⟩
    · exact ⟨hsep.alive i x hx, fun _ => rfl⟩
  have hlocal : ∀ i x, ((client.hideEntity e).entity i).localEntity = some x →
      i ≠ e ∧ (client.entity i).localEntity = some x := by
    intro i x hx
    by_cases hi : i = e
    · subst hi
      rw [hself] at hx
      cases hx
    · exact ⟨hi, hne i hi ▸ hx⟩
  refine ⟨⟨rfl, rfl, rfl, rfl, ?_, rfl, rfl, rfl, rfl, fun i => ?_, fun i => ?_, fun i h => ?_, fun i hi => ?_,
    fun _ => ⟨fun i x hx => ?_, fun i j x hi hj => ?_⟩, [], rfl, fun _ h => by cases h⟩, ?_, rfl, ?_⟩
  · simp [hideEntity, ReplicationClient.modifyEntity, ClientEntityStore.modifyEntity]
  · by_cases hi : i = e
    · rw [hi, hself]
    · rw [hne i hi]
  · by_cases hi : i = e
    · rw [hi, hself]
    · rw [hne i hi]
  · by_cases hi : i = e
    · subst hi
      rw [hself]
      exact h
    · rw [hne i hi]
      exact h
  · simp only [ReplicationClient.view, hne i hi]
    congr 1
    funext c
    cases hx : (client.entity i).localEntity with
    | none => rfl
    | some x => exact (hkeep i x hi hx).2 c
  · obtain ⟨hi, hx⟩ := hlocal i x hx
    exact (hkeep i x hi hx).1
  · exact hsep.distinct i j x (hlocal i x hi).2 (hlocal j x hj).2
  · simp only [ReplicationClient.view, hself]
    rfl
  · simp only [ReplicationClient.view, hself]
    rfl

def markedBy (T : EntityBufferedFrame) (s : EntityState) : EntityState :=
  if T.writeSource = .bufferedFrame then { s with lastAppliedBufferedFrame := T.frame } else s

theorem markedBy_present (T : EntityBufferedFrame) (s : EntityState) :
    (markedBy T s).entityPresent = s.entityPresent := by
  unfold markedBy
  split <;> rfl

theorem markedBy_archetype (T : EntityBufferedFrame) (s : EntityState) : (markedBy T s).archetype = s.archetype := by
  unfold markedBy
  split <;> rfl

theorem markApplied_spec (he : e < client.store.entities.length) (T : EntityBufferedFrame) :
    WorksOn e client (client.markApplied e T) ∧
      (client.markApplied e T).view e = { client.view e with state := markedBy T (client.view e).state } ∧
      (client.markApplied e T).trace = client.trace := by
  unfold markApplied markedBy
  split
  · have hf : EntityState.KeepsIds fun s => { s with lastAppliedBufferedFrame := T.frame } :=
      ⟨fun _ => rfl, fun _ => rfl, fun _ => rfl, fun _ => rfl, fun _ h => h⟩
    exact ⟨worksOn_modifyEntity hf, view_modifyEntity hf he, rfl⟩
  · exact ⟨.refl e client, rfl, rfl⟩

end

/-! ## What is logged -/

def ShownWhole (definition : SyncArchetype) (data : QuantizedFrameData) (shown : Shown) : Prop :=
  ∀ i c, definition.components[i]? = some c → frameHasComponent data i = true →
    ∃ x y, frameComponentData data i = some x ∧ c.ops.pushToRegistry x = some y ∧ shown[i]? = some (some y)

def ShownExactly (definition : SyncArchetype) (data : QuantizedFrameData) (shown : Shown) : Prop :=
  ∀ i c, definition.components[i]? = some c → ∃ y, shown[i]? = some y ∧ y.isSome = frameHasComponent data i

/-- `applied_present_mask` has every component that is shown and that the frame lacks. -/
def CoversMissing (definition : SyncArchetype) (data : QuantizedFrameData) (shown : Shown) (applied : Mask) : Prop :=
  ∀ i c, definition.components[i]? = some c → ∀ y, shown[i]? = some (some y) →
  frameHasComponent data i = false →
    applied.getLsbD i = true

def ClientCall.Sound (settings : SyncSettings) : ClientCall → Prop
  | .upsert call =>
    call.after.mode = .snap → ∀ definition, settings.archetypes[call.archetype]? = some definition →
    ShownWhole definition call.decoded call.shown
  | .sample call => call.before.mode = .bufferedInterpolation →
    ∀ definition, settings.archetypes[call.archetype]? = some definition →
      ShownWhole definition call.sample.baseline call.shownAfter ∧
      (ShownExactly definition call.sample.baseline call.shownAfter ↔
        CoversMissing definition call.sample.baseline call.shownBefore call.before.appliedPresentMask)
  | _ => True

def TraceSound (client : ReplicationClient R) : Prop := ∀ call ∈ client.trace, call.Sound client.settings

def EntityInv (settings : SyncSettings) (v : EntityView) : Prop :=
  ∀ definition, settings.archetypes[v.state.archetype]? = some definition → EntityOk definition v

structure MovesOn (e : Nat) (client client' : ReplicationClient R) : Prop where
  works : WorksOn e client client'
  inv : EntityInv client.settings (client'.view e)
  sound : TraceSound client'
  present : (client.view e).state.entityPresent = true → (client'.view e).state.entityPresent = true

section

variable {client : ReplicationClient R} {e : Nat} {definition : SyncArchetype} {data : QuantizedFrameData}

theorem getElem?_shownOn (i : Nat) : (shownOn client.registry definition (client.entity e).localEntity)[i]? =
    (definition.components[i]?).map fun c => (client.view e).shown c.component := by
  simp [shownOn, ReplicationClient.view]

theorem Shows.whole {shown : ComponentId → Option Bytes} (h : Shows definition data shown)
    (hsized : Sized definition data)
    (hpush : ∀ c ∈ definition.components, ∀ bytes, (c.ops.pushToRegistry bytes).isSome) {list : Shown}
    (hlist : ∀ i : Nat, list[i]? = (definition.components[i]?).map fun c => shown c.component) :
    ShownWhole definition data list := by
  intro i c hc hhas
  obtain ⟨x, hx⟩ := Option.isSome_iff_exists.mp (hsized.hasBytes i (List.getElem?_eq_some_iff.mp hc).1 hhas)
  obtain ⟨y, hy⟩ := Option.isSome_iff_exists.mp (hpush c (List.mem_of_getElem? hc) x)
  refine ⟨x, y, hx, hy, ?_⟩
  rw [hlist, hc, Option.map_some, h i c hc x hx, hy]

omit [LocalRegistry R] in
theorem TraceSound.logCall (h : TraceSound client) {call : ClientCall} (hcall : call.Sound client.settings) :
    TraceSound (client.logCall call) := by
  intro call' hmem
  rcases List.mem_cons.mp hmem with rfl | hmem
  · exact hcall
  · exact h call' hmem

omit [LocalRegistry R] in
theorem TraceSound.same {client' : ReplicationClient R} (h : TraceSound client)
    (hsettings : client'.settings = client.settings) (htrace : client'.trace = client.trace) : TraceSound client' := by
  intro call hmem
  rw [hsettings]
  exact h call (htrace ▸ hmem)

end

/-! ## Samples -/

section

variable {client : ReplicationClient R} {e : Nat} {T : EntityBufferedFrame}

theorem CoversMissing.iff {definition : SyncArchetype} {data : QuantizedFrameData} {before after : Shown}
    {applied : Mask}
    (h : ∀ i c, definition.components[i]? = some c → ∃ x y, before[i]? = some x ∧ after[i]? = some y ∧
      (y.isSome = frameHasComponent data i ↔
        (x.isSome = true → frameHasComponent data i = false → applied.getLsbD i = true))) :
    ShownExactly definition data after ↔ CoversMissing definition data before applied := by
  constructor
  · intro hexact i c hc z hz hhas
    obtain ⟨x, y, hx, hy, hiff⟩ := h i c hc
    obtain ⟨y', hy', heq⟩ := hexact i c hc
    obtain rfl : y = y' := Option.some.inj (hy.symm.trans hy')
    obtain rfl : x = some z := Option.some.inj (hx.symm.trans hz)
    exact hiff.mp heq rfl hhas
  · intro hcovers i c hc
    obtain ⟨x, y, hx, hy, hiff⟩ := h i c hc
    refine ⟨y, hy, hiff.mpr fun hsome hhas => ?_⟩
    obtain ⟨z, rfl⟩ := Option.isSome_iff_exists.mp hsome
    exact hcovers i c hc z hx hhas

def SampleOf (v : EntityView) (T : EntityBufferedFrame) : Prop :=
  (v.state.mode ≠ .snap ∧ T.writeSource = .bufferedFrame ∧ v.ring.view T.frame = some T) ∨
  (v.state.mode = .predict ∧ T.writeSource ≠ .bufferedFrame)

theorem SampleOf.not_snap {v : EntityView} (h : SampleOf v T) : v.state.mode ≠ .snap := by
  rcases h with ⟨hmode, _⟩ | ⟨hmode, _⟩
  · exact hmode
  · rw [hmode]
    decide

theorem markedBy_alike {s s' : EntityState} (h : s.Alike s') (T : EntityBufferedFrame) :
    (markedBy T s).Alike (markedBy T s') := by
  unfold markedBy
  split
  · exact ⟨h.frame, h.entityPresent, h.baseline, h.history, h.pinned, h.mode, rfl⟩
  · exact h

theorem EntityOk.afterSample {definition : SyncArchetype} {v v' : EntityView} (h : EntityOk definition v)
    (hT : SampleOf v T) (hs : (markedBy T v.state).Alike v'.state) (hring : v'.ring = v.ring)
    (hshows : v.state.mode = .bufferedInterpolation → T.entityPresent = true →
    Shows definition T.baseline v'.shown) :
    EntityOk definition v' := by
  unfold markedBy at hs
  rcases hT with ⟨hmode, hsource, hview⟩ | ⟨hmode, hsource⟩
  · rw [if_pos hsource] at hs
    have hok := h.sampled hview hmode hs hshows
    rw [← hring] at hok
    exact hok
  · rw [if_neg hsource] at hs
    have hpredict : v'.state.mode = .predict := hs.mode.trans hmode
    have hok : EntityOk definition { state := v'.state, ring := v'.ring, shown := v'.shown } := by
      apply h.moded hs.frame hs.entityPresent hs.baseline hs.history hs.pinned
      · intro hsnap
        rw [hpredict] at hsnap
        cases hsnap
      · rw [hs.frame, hring]
        exact h.ring
      · intro hbuffered
        rw [hpredict] at hbuffered
        cases hbuffered
    exact hok

/-- The present part of `apply_buffered_sample`, after its frame was shown. -/
theorem sampleSound {definition : SyncArchetype} {v : EntityView} (h : EntityOk definition v) (hT : SampleOf v T)
    (hpresent : T.entityPresent = true)
    (hpush : ∀ c ∈ definition.components, ∀ bytes, (c.ops.pushToRegistry bytes).isSome)
    {shown' : ComponentId → Option Bytes} {input : RegistryFrameApplyInfo}
    (hinput : input = {
      frameData := { T.baseline with presentMask := T.baseline.presentMask &&& sampleApplyMask v.state T }
      previousPresentMask := v.state.appliedPresentMask, nextPresentMask := T.baseline.presentMask })
    (hshown : FrameShown definition input v.shown shown') (hmode : v.state.mode = .bufferedInterpolation)
    {before after : Shown}
    (hbefore : ∀ i : Nat, before[i]? = (definition.components[i]?).map fun c => v.shown c.component)
    (hafter : ∀ i : Nat, after[i]? = (definition.components[i]?).map fun c => shown' c.component) :
    ShownWhole definition T.baseline after ∧
      (ShownExactly definition T.baseline after ↔
        CoversMissing definition T.baseline before v.state.appliedPresentMask) := by
  obtain ⟨_, _, hview⟩ := hT.resolve_right fun hpredict => by simp [hpredict.1] at hmode
  have hsized := h.ring.sized T.frame T hview hpresent
  have hshows := h.shows_sample hmode hview hpresent (by rw [hinput]) (by rw [hinput]) hshown
  refine ⟨hshows.whole hsized hpush hafter, CoversMissing.iff fun i c hc => ?_⟩
  have hiff := hshown.present (by rw [hinput]) (fun i hi => ?_) hshows hsized hpush hc
  · rw [hinput] at hiff
    exact ⟨_, _, by rw [hbefore, hc]; rfl, by rw [hafter, hc]; rfl, hiff⟩
  · rw [hinput] at hi
    simp only [frameHasComponent, BitVec.getLsbD_and, Bool.and_eq_true] at hi ⊢
    exact hi.1

/-- `apply_buffered_sample` shows the sample whole. -/
theorem applyBufferedSample_moves (hsep : Separate client) (he : e < client.store.entities.length)
    (hpush : client.settings.PushesAll) (hinv : EntityInv client.settings (client.view e)) (hsound : TraceSound client)
    (hT : client.archetypeOf e ≠ none → SampleOf (client.view e) T) :
    MovesOn e client (client.applyBufferedSample e T).1 := by
  unfold applyBufferedSample
  split
  · rename_i habsent
    obtain ⟨hworks, hstate, hring, hshown⟩ := hideEntity_spec hsep he
    obtain ⟨hworks', hview', htrace⟩ :=
      @markApplied_spec R _ (client.hideEntity e) e (by rw [hworks.length]; exact he) T
    refine ⟨hworks.trans hworks', fun definition hdef => ?_,
      hsound.same (hworks'.settings.trans hworks.settings) htrace,
      fun hpresent => by rw [hview', markedBy_present, hstate]; exact hpresent⟩
    rw [hview'] at hdef ⊢
    simp only [markedBy_archetype, hstate] at hdef
    have hknown : client.archetypeOf e = some definition := hdef
    refine (hinv definition hdef).afterSample (hT (by simp [hknown])) ?_ hring fun _ hpresent => ?_
    · simp only [hstate]
      refine markedBy_alike ?_ T
      exact ⟨rfl, rfl, rfl, rfl, rfl, rfl, rfl⟩
    · simp [hpresent] at habsent
  · rename_i hpresent
    have hpresent : T.entityPresent = true := by simpa using hpresent
    cases hdef : client.archetypeOf e with
    | none => exact ⟨.refl e client, hinv, hsound, fun h => h⟩
    | some definition =>
      have hok : EntityOk definition (client.view e) := hinv definition hdef
      have hT := hT (by simp [hdef])
      have hpushes := hpush definition (List.mem_of_getElem? hdef)
      dsimp only
      generalize hinput : ({
        frameData := { T.baseline with presentMask := T.baseline.presentMask &&& sampleApplyMask (client.entity e) T }
        previousPresentMask := (client.entity e).appliedPresentMask
        nextPresentMask := T.baseline.presentMask } : RegistryFrameApplyInfo) = input
      obtain ⟨hworks, htrace, ⟨l, hstate⟩, hring, hshown, hfail⟩ :=
        applyRegistryFrame_client hsep he definition input
      generalize client.applyRegistryFrame e definition input = result at hworks htrace hstate hring hshown hfail
      obtain ⟨applied, ok⟩ := result
      dsimp only at hworks htrace hstate hring hshown hfail
      have hdef' : client.settings.archetypes[(client.view e).state.archetype]? = some definition := hdef
      cases ok with
      | false =>
        have hbytes : (client.view e).state.mode = .bufferedInterpolation → HasBytes definition input.frameData :=
          fun hmode => by
          obtain ⟨_, _, hview⟩ := hT.resolve_right fun hpredict => by simp [hpredict.1] at hmode
          rw [← hinput]
          exact (hok.ring.sized T.frame T hview hpresent).hasBytes_masked _
        refine ⟨hworks, fun definition' heq => ?_, hsound.same hworks.settings htrace,
          fun h => by rw [hstate]; exact h⟩
        rw [hstate] at heq
        obtain rfl : definition = definition' := Option.some.inj (hdef'.symm.trans heq)
        exact hok.unshown hT.not_snap (by rw [hstate]; exact ⟨rfl, rfl, rfl, rfl, rfl, rfl, rfl⟩) hring
          fun hmode => hfail rfl hpushes (hbytes hmode)
      | true =>
        have hshown := hshown rfl
        have he' : e < applied.store.entities.length := by rw [hworks.length]; exact he
        have hf : EntityState.KeepsIds fun s => { s with appliedPresentMask := T.baseline.presentMask } :=
          ⟨fun _ => rfl, fun _ => rfl, fun _ => rfl, fun _ => rfl, fun _ h => h⟩
        have hworks₁ := @worksOn_modifyEntity R _ applied e _ hf
        have hview₁ := view_modifyEntity hf he'
        obtain ⟨hworks₂, hview₂, htrace₂⟩ := @markApplied_spec R _
          (applied.modifyEntity e fun s => { s with appliedPresentMask := T.baseline.presentMask }) e
          (by rw [hworks₁.length]; exact he') T
        dsimp only
        generalize
          (applied.modifyEntity e fun s => { s with appliedPresentMask := T.baseline.presentMask }).markApplied e T =
          marked at hworks₂ hview₂ htrace₂
        rw [hview₁, hstate] at hview₂
        have hworks' := hworks.trans (hworks₁.trans hworks₂)
        have hmarked : (marked.view e).shown = (applied.view e).shown := by rw [hview₂]
        have hsound' : TraceSound marked := hsound.same hworks'.settings (htrace₂.trans htrace)
        refine ⟨hworks'.trans (worksOn_logCall rfl e), fun definition' heq => ?_,
          hsound'.logCall fun hmode definition' heq => ?_, fun h => ?_⟩
        · change client.settings.archetypes[(marked.view e).state.archetype]? = _ at heq
          change EntityOk definition' (marked.view e)
          rw [hview₂] at heq
          simp only [markedBy_archetype] at heq
          obtain rfl : definition = definition' := Option.some.inj (hdef'.symm.trans heq)
          refine hok.afterSample hT ?_ (by rw [hview₂]; exact hring) fun hmode _ => ?_
          · rw [hview₂]
            refine markedBy_alike ?_ T
            exact ⟨rfl, rfl, rfl, rfl, rfl, rfl, rfl⟩
          · obtain ⟨_, _, hview⟩ := hT.resolve_right fun hpredict => by simp [hpredict.1] at hmode
            rw [hmarked]
            exact hok.shows_sample hmode hview hpresent (by rw [← hinput]; rfl) (by rw [← hinput]) hshown
        · rw [hworks'.settings] at heq
          obtain rfl : definition = definition' := Option.some.inj (hdef'.symm.trans heq)
          refine sampleSound hok hT hpresent hpushes hinput.symm hshown hmode (fun i => getElem?_shownOn i) fun i => ?_
          rw [← hmarked]
          exact getElem?_shownOn i
        · change (marked.view e).state.entityPresent = true
          rw [hview₂, markedBy_present]
          exact h

end

section

variable {client : ReplicationClient R} {e : Nat} {T : EntityBufferedFrame}

/-- `apply_buffered_sample` changes the local entity, the applied mask and the frame applied last. -/
theorem applyBufferedSample_state (hsep : Separate client) (he : e < client.store.entities.length) :
    ∃ l mask last, ((client.applyBufferedSample e T).1.view e).state = { (client.view e).state with
      localEntity := l, appliedPresentMask := mask, lastAppliedBufferedFrame := last } := by
  have hmarked : ∀ s : EntityState, ∃ last, markedBy T s = { s with lastAppliedBufferedFrame := last } :=
    fun s => by
    unfold markedBy
    split
    · exact ⟨_, rfl⟩
    · exact ⟨_, rfl⟩
  unfold applyBufferedSample
  split
  · obtain ⟨hworks, hstate, _⟩ := hideEntity_spec hsep he
    obtain ⟨_, hview', _⟩ := @markApplied_spec R _ (client.hideEntity e) e (by rw [hworks.length]; exact he) T
    obtain ⟨last, hlast⟩ := hmarked ((client.hideEntity e).view e).state
    refine ⟨none, 0, last, ?_⟩
    dsimp only
    rw [hview', hlast, hstate]
  · split
    · exact ⟨_, _, _, rfl⟩
    · rename_i definition _
      dsimp only
      generalize ({
        frameData := { T.baseline with presentMask := T.baseline.presentMask &&& sampleApplyMask (client.entity e) T }
        previousPresentMask := (client.entity e).appliedPresentMask
        nextPresentMask := T.baseline.presentMask } : RegistryFrameApplyInfo) = input
      obtain ⟨hworks, _, ⟨l, hstate⟩, _⟩ := applyRegistryFrame_client hsep he definition input
      generalize client.applyRegistryFrame e definition input = result at hworks hstate
      obtain ⟨applied, ok⟩ := result
      dsimp only at hworks hstate
      cases ok with
      | false => exact ⟨some l, _, _, hstate⟩
      | true =>
        have he' : e < applied.store.entities.length := by rw [hworks.length]; exact he
        have hf : EntityState.KeepsIds fun s => { s with appliedPresentMask := T.baseline.presentMask } :=
          ⟨fun _ => rfl, fun _ => rfl, fun _ => rfl, fun _ => rfl, fun _ h => h⟩
        have hworks₁ := @worksOn_modifyEntity R _ applied e _ hf
        have hview₁ := view_modifyEntity hf he'
        obtain ⟨_, hview₂, _⟩ := @markApplied_spec R _
          (applied.modifyEntity e fun s => { s with appliedPresentMask := T.baseline.presentMask }) e
          (by rw [hworks₁.length]; exact he') T
        rw [hview₁, hstate] at hview₂
        obtain ⟨last, hlast⟩ := hmarked { (client.view e).state with
          localEntity := some l, appliedPresentMask := T.baseline.presentMask }
        refine ⟨some l, T.baseline.presentMask, last, ?_⟩
        change (((applied.modifyEntity e fun s => { s with appliedPresentMask := T.baseline.presentMask }).markApplied e
          T).view e).state = _
        rw [hview₂]
        exact hlast

end

/-! ## Cues -/

structure Quiet (client client' : ReplicationClient R) : Prop where
  settings : client'.settings = client.settings
  options : client'.options = client.options
  clientId : client'.clientId = client.clientId
  acks : client'.ackQueue = client.ackQueue
  store : client'.store = client.store
  registry : client'.registry = client.registry
  rings : client'.bufferedRuntime.rings = client.bufferedRuntime.rings
  trace : ∃ plays : List PlayCall, client'.trace = plays.map .play ++ client.trace

section

variable {client client' client'' : ReplicationClient R}

omit [LocalRegistry R] in
theorem Quiet.refl (client : ReplicationClient R) : Quiet client client :=
  ⟨rfl, rfl, rfl, rfl, rfl, rfl, rfl, [], rfl⟩

omit [LocalRegistry R] in
theorem Quiet.trans (h : Quiet client client') (h' : Quiet client' client'') : Quiet client client'' := by
  obtain ⟨plays, hplays⟩ := h.trace
  obtain ⟨plays', hplays'⟩ := h'.trace
  exact ⟨h'.settings.trans h.settings, h'.options.trans h.options, h'.clientId.trans h.clientId, h'.acks.trans h.acks,
    h'.store.trans h.store,
    h'.registry.trans h.registry, h'.rings.trans h.rings, plays' ++ plays, by simp [hplays', hplays]⟩

omit [LocalRegistry R] in
theorem Quiet.entity (h : Quiet client client') (i : Nat) : client'.entity i = client.entity i := by
  rw [ReplicationClient.entity, ReplicationClient.entity, h.store]

theorem Quiet.view (h : Quiet client client') (i : Nat) : client'.view i = client.view i := by
  simp only [ReplicationClient.view, h.entity, h.registry, h.rings]

theorem Quiet.worksOn (h : Quiet client client') (e : Nat) : WorksOn e client client' := by
  obtain ⟨plays, hplays⟩ := h.trace
  refine .of_eq h.settings h.options h.clientId h.acks h.store h.registry h.rings ⟨_, hplays,
    fun call hcall => ?_⟩ e
  obtain ⟨p, _, rfl⟩ := List.mem_map.mp hcall
  rfl

omit [LocalRegistry R] in
theorem Quiet.traceSound (h : Quiet client client') (hsound : TraceSound client) : TraceSound client' := by
  obtain ⟨plays, hplays⟩ := h.trace
  intro call hcall
  rw [hplays] at hcall
  rcases List.mem_append.mp hcall with hplay | hold
  · obtain ⟨p, _, rfl⟩ := List.mem_map.mp hplay
    exact trivial
  · rw [h.settings]
    exact hsound call hold

omit [LocalRegistry R] in
theorem quiet_setCueStore (client : ReplicationClient R) (cueStore : ClientCueStore) :
    Quiet client (client.setCueStore cueStore) := ⟨rfl, rfl, rfl, rfl, rfl, rfl, rfl, [], rfl⟩

omit [LocalRegistry R] in
theorem quiet_foldl {α : Type} {f : ReplicationClient R → α → ReplicationClient R}
    (h : ∀ client a, Quiet client (f client a)) (l : List α) (client : ReplicationClient R) :
    Quiet client (l.foldl f client) := by
  induction l generalizing client with
  | nil => exact .refl client
  | cons a l ih => exact (h client a).trans (ih (f client a))

theorem quiet_playCue (client : ReplicationClient R) (e : Nat) (confirmed : Bool) (cue : EntityCue) :
    Quiet client (client.playCue e confirmed cue).1 := by
  unfold playCue
  split
  · exact .refl client
  · split
    · exact .refl client
    · split
      · exact quiet_setCueStore client _
      · unfold playNew
        split
        · split
          · exact .refl client
          · exact ⟨rfl, rfl, rfl, rfl, rfl, rfl, rfl, [_], rfl⟩
        · exact .refl client

theorem quiet_playCues (client : ReplicationClient R) (e : Nat) (cues : List EntityCue) :
    Quiet client (client.playCues e cues) :=
  quiet_foldl (fun client cue => quiet_playCue client e true cue) cues client

theorem quiet_reconcileAuthoritativePredicted (client : ReplicationClient R) (e : Nat) (cues : List EntityCue)
    (frame : SyncFrame) : Quiet client (client.reconcileAuthoritativePredicted e cues frame) := by
  refine (quiet_foldl (fun client cue => ?_) cues client).trans (quiet_setCueStore _ _)
  unfold confirmOrPlay
  split
  · exact quiet_setCueStore client _
  · exact quiet_playCue client e true cue

theorem quiet_playBufferedForFrame (client : ReplicationClient R) (e : Nat) (frame : SyncFrame) :
    Quiet client (client.playBufferedForFrame e frame) :=
  (quiet_playCues client e _).trans (quiet_setCueStore _ _)

theorem quiet_playBufferedOnModeTransition (client : ReplicationClient R) (e : Nat) :
    Quiet client (client.playBufferedOnModeTransition e) :=
  (quiet_setCueStore client _).trans (quiet_playCues _ e _)

theorem quiet_storeAuthoritativeBuffered (client : ReplicationClient R) (e : Nat) (frame : SyncFrame)
    (cues : List EntityCue) :
    Quiet client (client.storeAuthoritativeBuffered e frame cues) := by
  unfold storeAuthoritativeBuffered
  dsimp only
  split
  · exact quiet_setCueStore client _
  · exact (quiet_setCueStore client _).trans (quiet_playCues _ e _)

end

/-! ### One move after another -/

section

variable {client client' client'' : ReplicationClient R} {e : Nat}

theorem MovesOn.refl (hinv : EntityInv client.settings (client.view e)) (hsound : TraceSound client) :
    MovesOn e client client :=
  ⟨.refl e client, hinv, hsound, fun h => h⟩

theorem MovesOn.after (h : WorksOn e client client')
    (hpresent : (client.view e).state.entityPresent = true → (client'.view e).state.entityPresent = true)
    (h' : MovesOn e client' client'') : MovesOn e client client'' :=
  ⟨h.trans h'.works, h.settings ▸ h'.inv, h'.sound, fun htrue => h'.present (hpresent htrue)⟩

theorem MovesOn.trans (h : MovesOn e client client') (h' : MovesOn e client' client'') : MovesOn e client client'' :=
  .after h.works h.present h'

theorem MovesOn.quiet (h : MovesOn e client client') (h' : Quiet client' client'') : MovesOn e client client'' :=
  ⟨h.works.trans (h'.worksOn e), by rw [h'.view]; exact h.inv, h'.traceSound h.sound,
  by rw [h'.view]; exact h.present⟩

theorem MovesOn.relisted (h : MovesOn e client client') {store : ClientEntityStore}
    (h' : Relisted client'.store store) :
    MovesOn e client { client' with store } :=
  ⟨h.works.trans h'.worksOn, by rw [h'.view]; exact h.inv, h.sound, by rw [h'.view]; exact h.present⟩

end

/-! ## Snaps -/

section

variable {client : ReplicationClient R} {e : Nat} {definition : SyncArchetype}
  {authoritative : QuantizedFrameData} {mask : Mask}

/-- What `apply_snap_sample` leaves when the frame could not be shown. -/
def SnapFailed (definition : SyncArchetype) (v v' : EntityView) : Prop :=
  v'.ring = v.ring ∧ v'.shown = v.shown ∧ ∃ l stored, v'.state = { v.state with
    localEntity := l, baseline := stored } ∧
    (stored = v.state.baseline ∨
      (initFrameData definition = some stored ∧ v.state.baseline.bytes.length ≠ definition.components.length))

/-- What `apply_snap_sample` leaves when the frame was shown. -/
def SnapShown (definition : SyncArchetype) (authoritative : QuantizedFrameData) (v v' : EntityView) : Prop :=
  v'.ring = v.ring ∧ Shows definition authoritative v'.shown ∧
  ∃ l baseline, v'.state = { v.state with
      localEntity := l, entityPresent := true, baseline, appliedPresentMask := authoritative.presentMask } ∧
    Sized definition baseline ∧ baseline.presentMask = authoritative.presentMask ∧
    ∀ i < definition.components.length, frameComponentData baseline i = frameComponentData authoritative i

theorem applySnapSample_spec (hsep : Separate client) (he : e < client.store.entities.length)
    (hdef : client.archetypeOf e = some definition)
    (hpush : ∀ c ∈ definition.components, ∀ bytes, (c.ops.pushToRegistry bytes).isSome)
    (hbytes : HasBytes definition authoritative)
    (hkept : ∀ i c x, definition.components[i]? = some c → frameComponentData authoritative i = some x →
      mask.getLsbD i = false → Sized definition (client.view e).state.baseline ∧
        (client.view e).state.baseline.bytes[i]? = some x ∧ (client.view e).shown c.component =
          c.ops.pushToRegistry x) :
    let r := client.applySnapSample e authoritative mask
    WorksOn e client r.1 ∧ r.1.trace = client.trace ∧
      (r.2 = true → SnapShown definition authoritative (client.view e) (r.1.view e)) ∧
      (r.2 = false → SnapFailed definition (client.view e) (r.1.view e)) := by
  unfold applySnapSample
  rw [hdef]
  dsimp only
  generalize hstored : (if (client.entity e).baseline.bytes.length ≠ definition.components.length
    then initFrameData definition
    else some (client.entity e).baseline) = stored?
  have hstored' : ∀ stored, stored? = some stored → Sized definition stored ∧
      (stored = (client.view e).state.baseline ∨ (initFrameData definition = some stored ∧
        (client.view e).state.baseline.bytes.length ≠ definition.components.length)) := by
    rintro stored rfl
    split at hstored
    · rename_i hne
      exact ⟨(length_initFrameData hstored).1, .inr ⟨hstored, hne⟩⟩
    · rename_i heq
      obtain rfl := Option.some.inj hstored
      exact ⟨not_not.mp heq, .inl rfl⟩
  cases stored? with
  | none => exact ⟨.refl e client, rfl, fun h => (by cases h), fun _ => ⟨rfl, rfl, _, _, rfl, .inl rfl⟩⟩
  | some stored =>
    obtain ⟨hfits, hwhich⟩ := hstored' stored rfl
    dsimp only
    have hf : EntityState.KeepsIds fun s => { s with baseline := stored } :=
      ⟨fun _ => rfl, fun _ => rfl, fun _ => rfl, fun _ => rfl, fun _ h => h⟩
    have hworks := @worksOn_modifyEntity R _ client e _ hf
    have hview := view_modifyEntity hf he
    have htrace₀ : (client.modifyEntity e fun s => { s with baseline := stored }).trace = client.trace := rfl
    generalize (client.modifyEntity e fun s => { s with baseline := stored }) = client₁ at hworks hview htrace₀
    generalize hinput : ({
      frameData := { authoritative with presentMask := authoritative.presentMask &&& mask }
      previousPresentMask := (client.entity e).appliedPresentMask
      nextPresentMask := authoritative.presentMask } : RegistryFrameApplyInfo) = input
    have he₁ : e < client₁.store.entities.length := by rw [hworks.length]; exact he
    obtain ⟨hworks₁, htrace, ⟨l, hstate⟩, hring, hshown, hfail⟩ :=
      applyRegistryFrame_client (hworks.separate hsep) he₁ definition input
    generalize client₁.applyRegistryFrame e definition input = result at hworks₁ htrace hstate hring hshown hfail
    obtain ⟨client₂, ok⟩ := result
    dsimp only at hworks₁ htrace hstate hring hshown hfail
    rw [hview] at hstate hring hshown hfail
    cases ok with
    | false =>
      refine ⟨hworks.trans hworks₁, htrace.trans htrace₀, fun h => (by cases h),
        fun _ => ⟨hring, ?_, some l, stored, hstate, hwhich⟩⟩
      exact hfail rfl hpush (by rw [← hinput]; exact hbytes.masked mask)
    | true =>
      have hkeptBytes : ∀ i x, i < definition.components.length → frameComponentData authoritative i = some x →
          mask.getLsbD i = false → stored.bytes[i]? = some x := by
        intro i x hi hx hbit
        obtain ⟨hold, hbytes, _⟩ := hkept i _ x (List.getElem?_eq_getElem hi) hx hbit
        rcases hwhich with rfl | ⟨_, hne⟩
        · exact hbytes
        · exact absurd hold hne
      obtain ⟨hcopiedSized, hcopied⟩ := copyPresentComponents_spec hbytes hfits hkeptBytes
      generalize copyPresentComponents definition { authoritative with
        presentMask := authoritative.presentMask &&& mask } stored =
        copied at hcopiedSized hcopied
      have he₂ : e < client₂.store.entities.length := by rw [hworks₁.length]; exact he₁
      have hg : EntityState.KeepsIds fun s => { s with
          entityPresent := true
          baseline := { copied with tagMask := authoritative.tagMask, presentMask := authoritative.presentMask }
          appliedPresentMask := authoritative.presentMask } :=
            ⟨fun _ => rfl, fun _ => rfl, fun _ => rfl, fun _ => rfl, fun _ h => h⟩
      have hworks₂ := @worksOn_modifyEntity R _ client₂ e _ hg
      have hview₂ := view_modifyEntity hg he₂
      have htrace₂ : (client₂.modifyEntity e fun s => { s with
          entityPresent := true
          baseline := { copied with tagMask := authoritative.tagMask, presentMask := authoritative.presentMask }
          appliedPresentMask := authoritative.presentMask }).trace = client₂.trace := rfl
      dsimp only
      generalize (client₂.modifyEntity e fun s => { s with
          entityPresent := true
          baseline := { copied with tagMask := authoritative.tagMask, presentMask := authoritative.presentMask }
          appliedPresentMask := authoritative.presentMask }) = client₃ at hworks₂ hview₂ htrace₂
      have hlisted := relisted_sync client₃.store e
      have hview₃ : (client₃.syncEntityMemberships e).view e = client₃.view e := hlisted.view e
      refine ⟨(hworks.trans (hworks₁.trans hworks₂)).trans hlisted.worksOn,
        htrace₂.trans (htrace.trans htrace₀), fun _ => ?_,
        fun h => (by cases h)⟩
      rw [hview₃, hview₂]
      refine ⟨hring, ?_, some l,
        { copied with tagMask := authoritative.tagMask, presentMask := authoritative.presentMask },
        by simp only [hstate],
        hcopiedSized, rfl, hcopied⟩
      exact (hshown rfl).shows (by rw [← hinput]) (by rw [← hinput])
        fun i c x hc hx hbit => (hkept i c x hc hx hbit).2.2

end

/-! ## Records -/

theorem rememberBaseline_unlisted (s : EntityState) : s.rememberBaseline.unlisted = s.unlisted.rememberBaseline :=
  apply_ite EntityState.unlisted _ _ _

section

variable {client : ReplicationClient R} {e : Nat}

theorem rememberBaseline_keeps (s : EntityState) :
    s.rememberBaseline.clientEntityNetworkId = s.clientEntityNetworkId ∧
    s.rememberBaseline.wireNetworkId = s.wireNetworkId ∧ s.rememberBaseline.localEntity = s.localEntity ∧
    s.rememberBaseline.modeSelected = s.modeSelected := by
  obtain ⟨pinned, heq, _⟩ := rememberBaseline_eq s
  rw [heq]
  exact ⟨rfl, rfl, rfl, rfl⟩

theorem keepsIds_rememberBaseline {f : EntityState → EntityState} (hf : EntityState.KeepsIds f) :
    EntityState.KeepsIds fun s => (f s).rememberBaseline where
  id s := (rememberBaseline_keeps (f s)).1.trans (hf.id s)
  wire s := (rememberBaseline_keeps (f s)).2.1.trans (hf.wire s)
  shows s := (rememberBaseline_keeps (f s)).2.2.1.trans (hf.shows s)
  unlisted s := by rw [rememberBaseline_unlisted, hf.unlisted]
  selected s h := (rememberBaseline_keeps (f s)).2.2.2.trans (hf.selected s h)

theorem keepsIds_recordAuthoritativePresent (frame : SyncFrame) (archetype : SyncArchetypeId)
    (replacement : Option QuantizedFrameData) :
    EntityState.KeepsIds (·.recordAuthoritativePresent frame archetype replacement) := by
  unfold EntityState.recordAuthoritativePresent
  apply keepsIds_rememberBaseline
  cases replacement with
  | none => exact ⟨fun _ => rfl, fun _ => rfl, fun _ => rfl, fun _ => rfl, fun _ h => h⟩
  | some data => exact ⟨fun _ => rfl, fun _ => rfl, fun _ => rfl, fun _ => rfl, fun _ h => h⟩

theorem recordAuthoritativePresent_fields (s : EntityState) (frame : SyncFrame) (archetype : SyncArchetypeId)
    (replacement : Option QuantizedFrameData) :
    (s.recordAuthoritativePresent frame archetype replacement).mode = s.mode ∧
      (s.recordAuthoritativePresent frame archetype replacement).archetype = archetype ∧
      (s.recordAuthoritativePresent frame archetype replacement).lastAppliedBufferedFrame =
        s.lastAppliedBufferedFrame ∧
      (s.recordAuthoritativePresent frame archetype replacement).frame = frame ∧
      (s.recordAuthoritativePresent frame archetype replacement).entityPresent = true := by
  have hfields : ∀ s : EntityState, s.rememberBaseline.mode = s.mode ∧
      s.rememberBaseline.archetype = s.archetype ∧
      s.rememberBaseline.lastAppliedBufferedFrame = s.lastAppliedBufferedFrame ∧
      s.rememberBaseline.frame = s.frame ∧
      s.rememberBaseline.entityPresent = s.entityPresent := fun s => by
    obtain ⟨pinned, heq, _⟩ := rememberBaseline_eq s
    rw [heq]
    exact ⟨rfl, rfl, rfl, rfl, rfl⟩
  unfold EntityState.recordAuthoritativePresent
  cases replacement with
  | none => exact hfields _
  | some data => exact hfields _

/-- `record_authoritative_present` stores the record, and what it logs is shown. -/
theorem recordPresent_spec (he : e < client.store.entities.length) (call : UpsertCall)
    (replacement : Option QuantizedFrameData) (hpush : client.settings.PushesAll) (hsound : TraceSound client)
    (hsnap : (client.view e).state.mode = .snap → ∀ definition, client.settings.archetypes[call.archetype]? =
    some definition →
      Shows definition call.decoded (client.view e).shown ∧ Sized definition call.decoded) :
    WorksOn e client (client.recordPresent e call replacement) ∧
      (client.recordPresent e call replacement).view e = { client.view e with
        state := (client.view e).state.recordAuthoritativePresent call.frame call.archetype replacement } ∧
      TraceSound (client.recordPresent e call replacement) := by
  have hf := keepsIds_recordAuthoritativePresent call.frame call.archetype replacement
  have hlisted := relisted_sync
    (client.modifyEntity e (·.recordAuthoritativePresent call.frame call.archetype replacement)).store e
  have hworks : WorksOn e client ((client.modifyEntity e
      (·.recordAuthoritativePresent call.frame call.archetype replacement)).syncEntityMemberships e) :=
    (worksOn_modifyEntity hf).trans hlisted.worksOn
  have hview : ((client.modifyEntity e
      (·.recordAuthoritativePresent call.frame call.archetype replacement)).syncEntityMemberships e).view e =
      { client.view e with
        state := (client.view e).state.recordAuthoritativePresent call.frame call.archetype replacement } :=
    (hlisted.view e).trans (view_modifyEntity hf he)
  have htrace : ((client.modifyEntity e
      (·.recordAuthoritativePresent call.frame call.archetype replacement)).syncEntityMemberships e).trace =
        client.trace := rfl
  unfold recordPresent
  dsimp only
  generalize ((client.modifyEntity e
    (·.recordAuthoritativePresent call.frame call.archetype replacement)).syncEntityMemberships e) = client₁
      at hworks hview htrace
  obtain ⟨hmode, harchetype, _⟩ :=
    recordAuthoritativePresent_fields (client.view e).state call.frame call.archetype replacement
  have hmode₁ : (client₁.entity e).mode = (client.view e).state.mode := by
    change (client₁.view e).state.mode = _
    rw [hview]
    exact hmode
  have harchetype₁ : (client₁.entity e).archetype = call.archetype := by
    change (client₁.view e).state.archetype = _
    rw [hview]
    exact harchetype
  have hshown : (client₁.view e).shown = (client.view e).shown := by rw [hview]
  have hsound₁ : TraceSound client₁ := hsound.same hworks.settings htrace
  refine ⟨hworks.trans (worksOn_logCall rfl e), hview, hsound₁.logCall fun hsnapMode definition hdef => ?_⟩
  rw [hworks.settings] at hdef
  obtain ⟨hshows, hsized⟩ := hsnap (hmode₁ ▸ hsnapMode) definition hdef
  have hpushes := hpush definition (List.mem_of_getElem? hdef)
  refine hshows.whole hsized hpushes fun i => ?_
  have hof : client₁.archetypeOf e = some definition := by rw [archetypeOf, harchetype₁, hworks.settings, hdef]
  simp only [hof, ← hshown]
  exact getElem?_shownOn i

theorem keepsIds_recordAuthoritativeAbsent (frame : SyncFrame) :
    EntityState.KeepsIds (·.recordAuthoritativeAbsent frame) := by
  unfold EntityState.recordAuthoritativeAbsent
  apply keepsIds_rememberBaseline
  exact ⟨fun _ => rfl, fun _ => rfl, fun _ => rfl, fun _ => rfl, fun _ h => h⟩

theorem recordAbsent_spec (he : e < client.store.entities.length) (frame : SyncFrame) :
    WorksOn e client (client.recordAbsent e frame) ∧
      (client.recordAbsent e frame).view e = { client.view e with
        state := (client.view e).state.recordAuthoritativeAbsent frame } ∧
      (client.recordAbsent e frame).trace = client.trace := by
  have hf := keepsIds_recordAuthoritativeAbsent frame
  have hlisted := relisted_sync (client.modifyEntity e (·.recordAuthoritativeAbsent frame)).store e
  exact ⟨(worksOn_modifyEntity hf).trans hlisted.worksOn, (hlisted.view e).trans (view_modifyEntity hf he), rfl⟩

end

/-! ## Upserts -/

section

variable {client : ReplicationClient R} {e : Nat}

theorem worksOn_registry {r : R} (halive : ∀ x, alive r x = alive client.registry x)
    (hget : ∀ x c, get r x c = get client.registry x c) (e : Nat) :
    WorksOn e client { client with registry := r } ∧
      ∀ i, ({ client with registry := r } : ReplicationClient R).view i = client.view i := by
  have hview : ∀ i, ({ client with registry := r } : ReplicationClient R).view i = client.view i := by
    intro i
    simp only [ReplicationClient.view, hget]
    rfl
  refine ⟨⟨rfl, rfl, rfl, rfl, rfl, rfl, rfl, rfl, rfl, fun _ => rfl, fun _ => rfl, fun _ h => h,
    fun i _ => hview i,
    fun hs => ⟨fun i l hl => ?_, hs.distinct⟩, [], rfl, fun _ h => by cases h⟩, hview⟩
  rw [halive]
  exact hs.alive i l hl

theorem removeStaleTags_spec (e : Nat) (archetype : SyncArchetypeId) (full : Bool) :
    WorksOn e client (client.removeStaleTags e archetype full) ∧
      (client.removeStaleTags e archetype full).view e = client.view e ∧
      (client.removeStaleTags e archetype full).trace = client.trace := by
  unfold removeStaleTags
  split
  · rename_i l previous _ _
    split
    · obtain ⟨hon, hget⟩ := removeArchetypeTags_spec l previous client.registry
      obtain ⟨hworks, hview⟩ :=
        @worksOn_registry R _ client (removeArchetypeTags l previous client.registry) hon.alive
        (fun x c => by
          by_cases hx : x = l
          · rw [hx, hget]
          · exact hon.get x c hx) e
      exact ⟨hworks, hview e, rfl⟩
    · exact ⟨.refl e client, rfl, rfl⟩
  · exact ⟨.refl e client, rfl, rfl⟩

theorem keepsIds_archetype (archetype : SyncArchetypeId) :
    EntityState.KeepsIds fun s => { s with archetype } :=
      ⟨fun _ => rfl, fun _ => rfl, fun _ => rfl, fun _ => rfl, fun _ h => h⟩

/-- A snap that could not be shown leaves the entity as it should be. -/
theorem EntityOk.snapFailed {definition : SyncArchetype} {v v' : EntityView} (h : EntityOk definition v)
    (hfail : SnapFailed definition v v') : EntityOk definition v' := by
  obtain ⟨hring, hshown, l, stored, hstate, hwhich⟩ := hfail
  obtain ⟨state', ring', shown'⟩ := v'
  dsimp only at hring hshown hstate
  subst hring hshown hstate
  rcases hwhich with rfl | ⟨hinit, hlen⟩
  · exact h.alike ⟨rfl, rfl, rfl, rfl, rfl, rfl, rfl⟩
  · exact (h.initialized hinit hlen).alike ⟨rfl, rfl, rfl, rfl, rfl, rfl, rfl⟩

structure RecordFits (definition : SyncArchetype) (v : EntityView) (call : UpsertCall) (metadata : UpsertMetadata)
    (authoritative : QuantizedFrameData) : Prop where
  ok : EntityOk definition v
  present : v.state.entityPresent = true
  sized : Sized definition authoritative
  range : metadata.frame < 2 ^ 32
  pos : metadata.frame ≠ 0
  newer : v.state.frame < metadata.frame
  frame : call.frame = metadata.frame
  archetype : call.archetype = metadata.archetype
  decoded : call.decoded = authoritative

/-- `apply_snap_upsert` shows the record whole. -/
theorem applySnapUpsert_moves {call : UpsertCall} {metadata : UpsertMetadata} {record : AuthoritativeUpsertRecord}
    {mask : Mask} {definition : SyncArchetype} (hsep : Separate client) (he : e < client.store.entities.length)
    (hpush : client.settings.PushesAll) (hdef : client.settings.archetypes[metadata.archetype]? = some definition)
    (hsound : TraceSound client) (h : RecordFits definition (client.view e) call metadata record.authoritative)
    (hmode : (client.view e).state.mode = .snap)
    (hkept : ∀ i x, i < definition.components.length → frameComponentData record.authoritative i = some x →
      mask.getLsbD i = false → Sized definition (client.view e).state.baseline ∧
        frameComponentData (client.view e).state.baseline i = some x) :
    MovesOn e client (client.applySnapUpsert e call metadata record mask).1 := by
  have hpushes := hpush definition (List.mem_of_getElem? hdef)
  unfold applySnapUpsert
  obtain ⟨hworks, hview, htrace⟩ := @removeStaleTags_spec R _ client e metadata.archetype metadata.isFullUpsert
  generalize client.removeStaleTags e metadata.archetype metadata.isFullUpsert = client₀ at hworks hview htrace
  have he₀ : e < client₀.store.entities.length := by rw [hworks.length]; exact he
  have hf := keepsIds_archetype metadata.archetype
  have hworks₁ := @worksOn_modifyEntity R _ client₀ e _ hf
  have hview₁ := view_modifyEntity hf he₀
  have htrace₁ : (client₀.modifyEntity e fun s => { s with archetype := metadata.archetype }).trace =
      client.trace := htrace
  rw [hview] at hview₁
  dsimp only
  generalize (client₀.modifyEntity e fun s => { s with archetype := metadata.archetype }) = client₁
    at hworks₁ hview₁ htrace₁
  have hworks₁ := hworks.trans hworks₁
  have he₁ : e < client₁.store.entities.length := by rw [hworks₁.length]; exact he
  have hstate₁ : (client₁.view e).state = { (client.view e).state with archetype := metadata.archetype } := by
    rw [hview₁]
  have hshown₁ : (client₁.view e).shown = (client.view e).shown := by rw [hview₁]
  have hring₁ : (client₁.view e).ring = (client.view e).ring := by rw [hview₁]
  have hof : client₁.archetypeOf e = some definition := by
    change client₁.settings.archetypes[(client₁.view e).state.archetype]? = _
    rw [hstate₁, hworks₁.settings]
    exact hdef
  obtain ⟨hworks₂, htrace₂, hok, hfail⟩ :=
    @applySnapSample_spec R _ client₁ e definition record.authoritative mask
    (hworks₁.separate hsep) he₁ hof hpushes h.sized.hasBytes fun i c x hc hx hbit => by
      obtain ⟨hsized, hdata⟩ := hkept i x (List.getElem?_eq_some_iff.mp hc).1 hx hbit
      rw [hstate₁, hshown₁]
      exact ⟨hsized, (frameComponentData_eq_some.mp hdata).2, h.ok.snap hmode i c hc x hdata⟩
  generalize client₁.applySnapSample e record.authoritative mask = result at hworks₂ htrace₂ hok hfail
  obtain ⟨client₂, ok⟩ := result
  dsimp only at hworks₂ htrace₂ hok hfail
  have hworks₂ := hworks₁.trans hworks₂
  have he₂ : e < client₂.store.entities.length := by rw [hworks₂.length]; exact he
  have hsound₂ : TraceSound client₂ := hsound.same hworks₂.settings (htrace₂.trans htrace₁)
  have hok₁ : EntityOk definition (client₁.view e) := by
    rw [hview₁]
    exact h.ok.alike ⟨rfl, rfl, rfl, rfl, rfl, rfl, rfl⟩
  cases ok with
  | false =>
    obtain ⟨_, _, l, stored, hstate, _⟩ := hfail rfl
    refine ⟨hworks₂, fun definition' heq => ?_, hsound₂, fun _ => by rw [hstate, hstate₁]; exact h.present⟩
    rw [hstate, hstate₁] at heq
    obtain rfl : definition = definition' := Option.some.inj (hdef.symm.trans heq)
    exact hok₁.snapFailed (hfail rfl)
  | true =>
    obtain ⟨hring, hshows, l, baseline, hstate, hbsized, hbmask, hbdata⟩ := hok rfl
    have hquiet := quiet_playCues client₂ e record.receivedCues
    have hmode₂ : (client₂.view e).state.mode = .snap := by
      rw [hstate, hstate₁]
      exact hmode
    have he₃ : e < (client₂.playCues e record.receivedCues).store.entities.length := by
      rw [hquiet.store]; exact he₂
    obtain ⟨hworks₃, hview₃, hsound₃⟩ :=
      @recordPresent_spec R _ (client₂.playCues e record.receivedCues) e he₃ call
      (if metadata.isFullUpsert then none else some record.authoritative)
      (by rw [hquiet.settings, hworks₂.settings]; exact hpush) (hquiet.traceSound hsound₂)
      fun _ definition' heq => by
        rw [hquiet.settings, hworks₂.settings, h.archetype] at heq
        obtain rfl : definition = definition' := Option.some.inj (hdef.symm.trans heq)
        rw [h.decoded, hquiet.view]
        exact ⟨hshows, h.sized⟩
    refine ⟨(hworks₂.trans (hquiet.worksOn e)).trans hworks₃, fun definition' heq => ?_, hsound₃, fun _ => ?_⟩
    case refine_2 =>
      unfold playSnap
      rw [hview₃]
      exact (recordAuthoritativePresent_fields _ _ _ _).2.2.2.2
    unfold playSnap at heq ⊢
    rw [hview₃, hquiet.view] at heq ⊢
    rw [(recordAuthoritativePresent_fields _ _ _ _).2.1, h.archetype] at heq
    obtain rfl : definition = definition' := Option.some.inj (hdef.symm.trans heq)
    have hring₂ : (client₂.view e).ring = (client.view e).ring := hring.trans hring₁
    refine EntityOk.recorded rfl (h.frame ▸ h.range) (h.frame ▸ h.pos) ?_ (fun b hb => ?_)
      (fun _ => ⟨?_, fun g => ?_⟩) ?_ fun hbuffered => ?_
    · split
      · rw [hstate]
        exact hbsized
      · exact h.sized
    · rw [hstate, hstate₁] at hb
      exact h.ok.stored h.present b hb
    · split
      · rw [hstate]
        exact hshows.congr hbdata
      · exact hshows
    · dsimp only
      rw [hring₂]
      exact h.ok.quiet hmode g
    · dsimp only
      rw [hring₂, h.frame]
      exact h.ok.ring.mono (Nat.le_of_lt h.newer)
    · rw [hmode₂] at hbuffered
      cases hbuffered

end

/-! ## The buffered timeline -/

section

variable {client : ReplicationClient R} {e : Nat} {definition : SyncArchetype}

theorem fillFrames_invalid {source target : Option QuantizedFrameData} {fromFrame toFrame : SyncFrame} {capacity : Nat}
    {sourcePresent : Bool} (h : validFrameArchetype definition = false) {count : Nat} (hcount : count ≠ 0)
    (current : SyncFrame) (ring : FrameRing) :
    fillFrames definition capacity source sourcePresent target fromFrame toFrame count current ring =
      (ring, false) := by
  cases count with
  | zero => exact absurd rfl hcount
  | succ count => simp [fillFrames, writeBufferedFrame, h]

/-- `fill_buffered_frames` appends to the ring, or leaves it. -/
theorem fillBufferedFrames_spec {frame : Nat} {target : Option QuantizedFrameData}
    (hdef : client.archetypeOf e = some definition)
    (hok : EntityOk definition (client.view e)) (hpresent : (client.view e).state.entityPresent = true)
    (hnewer : (client.view e).state.frame < frame)
    (htarget : ∀ t, target = some t → Sized definition t ∧ Interpolates definition) :
    let r := client.fillBufferedFrames e frame target
    WorksOn e client r.1 ∧ r.1.trace = client.trace ∧ (∃ ring, r.1.view e = { client.view e with ring } ∧
      (r.2 = true → RingOk definition frame ring ∧ (∀ last shown, last ≤ (client.view e).state.frame →
        Follows definition (client.view e).ring last shown → Follows definition ring last shown) ∧
        (0 < client.options.bufferedFrameCapacity → ∃ N, ring.view frame = some N ∧
        N.entityPresent = target.isSome)) ∧
      (r.2 = false → ring = (client.view e).ring)) := by
  have hframe : (client.entity e).frame = (client.view e).state.frame := rfl
  have hbaseline : (client.entity e).baseline = (client.view e).state.baseline := rfl
  have hrings : client.bufferedRuntime.rings e = (client.view e).ring := rfl
  unfold fillBufferedFrames
  rw [hdef]
  simp only [hframe, hbaseline, hrings]
  have hnot : ¬ ((client.view e).state.frame ≠ 0 ∧ frame ≤ (client.view e).state.frame) := fun h =>
    absurd h.2 (Nat.not_le.mpr hnewer)
  rw [if_neg hnot]
  generalize hfirst : (if (client.view e).state.frame ≠ 0 then (client.view e).state.frame + 1 else frame) = first
  generalize hsource : (if (client.view e).state.frame ≠ 0 then some (client.view e).state.baseline else none) =
    source
  have hbound : (client.view e).state.frame < first ∧ first ≤ frame := by
    rw [← hfirst]
    split
    · exact ⟨Nat.lt_succ_self _, hnewer⟩
    · exact ⟨hnewer, Nat.le_refl _⟩
  have hread : Readable definition source target (client.view e).state.frame frame := by
    refine ⟨fun s hs => ?_, fun t ht => (htarget t ht).1, fun _ hsome => ?_⟩
    · rw [← hsource] at hs
      split at hs
      · rename_i hne
        rw [← Option.some.inj hs]
        exact hok.sized hpresent hne
      · cases hs
    · obtain ⟨t, ht⟩ := Option.isSome_iff_exists.mp hsome
      exact ⟨(htarget t ht).2, Nat.ne_of_gt hnewer⟩
  have hcount : ∀ a b : Nat, a ≤ b → a + (b + 1 - a) - 1 = b ∧ b + 1 - a ≠ 0 ∧ b + 1 - a = b - a + 1 ∧
      a + (b - a) = b := by omega
  obtain ⟨hend, hcount, hsucc, hlast⟩ := hcount first frame hbound.2
  refine ⟨worksOn_setBufferedRing _, rfl, _, view_setBufferedRing _, ?_⟩
  cases hvalid : validFrameArchetype definition with
  | true =>
    have hfill := fun sourcePresent => @fillFrames_spec definition source target (client.view e).state.frame frame
      client.options.bufferedFrameCapacity sourcePresent hvalid hread (frame + 1 - first) first (client.view e).ring
      (client.view e).state.frame hok.ring hbound.1
    rw [hend] at hfill
    refine ⟨fun _ => ⟨(hfill _).2.1, fun last shown hlast h => ?_, fun hcapacity => ?_⟩, fun hfalse => ?_⟩
    · exact (hfill _).2.2 last shown (Nat.lt_of_le_of_lt hlast hbound.1) h
    · have hview := fun sourcePresent => @fillFrames_view definition source target (client.view e).state.frame frame
        client.options.bufferedFrameCapacity sourcePresent hcapacity hvalid hread (frame - first) first
          (client.view e).ring
      rw [← hsucc, hlast] at hview
      simp only [if_true] at hview
      exact hview _
    · dsimp only at hfalse
      rw [(hfill _).1] at hfalse
      cases hfalse
  | false =>
    rw [fillFrames_invalid hvalid hcount]
    exact ⟨(fun h => by cases h), fun _ => rfl⟩

end

section

variable {client : ReplicationClient R} {e : Nat} {definition : SyncArchetype}

omit [LocalRegistry R] in
theorem interpolates_of_validate {archetype : SyncArchetypeId}
    (hdef : client.settings.archetypes[archetype]? = some definition)
    (h : client.validateBufferedArchetype archetype = true) : Interpolates definition := by
  unfold validateBufferedArchetype at h
  rw [hdef] at h
  intro c hc hinter
  have hall := List.all_eq_true.mp h c hc
  simpa [hinter] using hall

theorem ensureBufferedRing_spec (client : ReplicationClient R) (e : Nat) :
    WorksOn e client (client.ensureBufferedRing e) ∧ (client.ensureBufferedRing e).view e =
      { client.view e with ring := (client.view e).ring.ensure client.options.bufferedFrameCapacity } :=
  ⟨worksOn_setBufferedRing _, view_setBufferedRing _⟩

theorem applyPassedSample_moves {frame : SyncFrame} (hsep : Separate client) (he : e < client.store.entities.length)
    (hpush : client.settings.PushesAll) (hinv : EntityInv client.settings (client.view e)) (hsound : TraceSound client)
    (hdef : ∃ definition, client.settings.archetypes[(client.view e).state.archetype]? = some definition)
    (hmode : (client.view e).state.mode = .bufferedInterpolation) :
    MovesOn e client (client.applyPassedSample e frame).1 := by
  unfold applyPassedSample
  split
  · exact .refl hinv hsound
  · rename_i sample hview
    obtain ⟨definition, hdef⟩ := hdef
    have hframe := (FrameRing.view_eq_some hview).2
    refine applyBufferedSample_moves hsep he hpush hinv hsound fun _ => .inl ⟨by rw [hmode]; decide, ?_,
      by rw [hframe]; exact hview⟩
    exact (hinv definition hdef).ring.source frame sample hview

/-- `apply_buffered_upsert` extends the ring by the record, and shows what it applies whole. -/
theorem applyBufferedUpsert_moves {call : UpsertCall} {metadata : UpsertMetadata} {decoded : QuantizedFrameData}
    (hsep : Separate client) (he : e < client.store.entities.length)
    (hpush : client.settings.PushesAll) (hdef : client.settings.archetypes[metadata.archetype]? = some definition)
    (hsound : TraceSound client) (h : RecordFits definition (client.view e) call metadata decoded)
    (hinv : EntityInv client.settings (client.view e)) (hmode : (client.view e).state.mode = .bufferedInterpolation)
    {state : EntityState}
    (hfound : client.store.findByClientEntityNetworkId metadata.clientEntityNetworkId = some (e, state)) :
    MovesOn e client (client.applyBufferedUpsert call metadata decoded).1 := by
  unfold applyBufferedUpsert
  split
  · exact .refl hinv hsound
  rename_i hvalidate
  have hinterpolates := interpolates_of_validate hdef (by simpa using hvalidate)
  rw [hfound]
  dsimp only
  have hf : EntityState.KeepsIds fun s =>
      { s.markModeSelected .bufferedInterpolation with archetype := metadata.archetype } :=
    ⟨fun _ => rfl, fun _ => rfl, fun _ => rfl, fun _ => rfl, fun _ _ => rfl⟩
  have hworks₀ := @worksOn_modifyEntity R _ client e _ hf
  have hview₀ := view_modifyEntity hf he
  obtain ⟨hworks₁, hview₁⟩ := ensureBufferedRing_spec (client.modifyEntity e fun s =>
    { s.markModeSelected .bufferedInterpolation with archetype := metadata.archetype }) e
  have htrace₁ : ((client.modifyEntity e fun s =>
    { s.markModeSelected .bufferedInterpolation with archetype := metadata.archetype }).ensureBufferedRing e).trace =
      client.trace := rfl
  have hworks₁ := hworks₀.trans hworks₁
  rw [hview₀] at hview₁
  generalize ((client.modifyEntity e fun s =>
    { s.markModeSelected .bufferedInterpolation with archetype := metadata.archetype }).ensureBufferedRing e) =
    client₁ at hworks₁ hview₁ htrace₁
  have he₁ : e < client₁.store.entities.length := by rw [hworks₁.length]; exact he
  have hstate₁ : (client₁.view e).state =
      { (client.view e).state with
        mode := .bufferedInterpolation, modeSelected := true, archetype := metadata.archetype } := by
    rw [hview₁]
    rfl
  have hok₁ : EntityOk definition (client₁.view e) := by
    have hfollows := (h.ok.follows hmode).ensure client.options.bufferedFrameCapacity
    rw [hview₁]
    refine h.ok.moded rfl rfl rfl rfl rfl nofun (h.ok.ring.ensure _) fun _ => ⟨h.ok.last hmode, ?_⟩
    exact hfollows
  have hof : client₁.archetypeOf e = some definition := by
    change client₁.settings.archetypes[(client₁.view e).state.archetype]? = _
    rw [hstate₁, hworks₁.settings]
    exact hdef
  have hframe₁ : (client₁.view e).state.frame = (client.view e).state.frame := by rw [hstate₁]
  have hmode₁ : (client₁.view e).state.mode = .bufferedInterpolation := by rw [hstate₁]
  have hpresent₁ : (client₁.view e).state.entityPresent = true := by rw [hstate₁]; exact h.present
  have hinv₁ : EntityInv client.settings (client₁.view e) := fun definition' heq => by
    rw [hstate₁] at heq
    obtain rfl : definition = definition' := Option.some.inj (hdef.symm.trans heq)
    exact hok₁
  obtain ⟨hworks₂, htrace₂, ring, hview₂, hfilled, hleft⟩ :=
    @fillBufferedFrames_spec R _ client₁ e definition metadata.frame
    (some decoded) hof hok₁ hpresent₁ (hframe₁ ▸ h.newer) fun t ht => by
      rw [← Option.some.inj ht]
      exact ⟨h.sized, hinterpolates⟩
  generalize client₁.fillBufferedFrames e metadata.frame (some decoded) = result
    at hworks₂ htrace₂ hview₂ hfilled hleft
  obtain ⟨client₂, ok⟩ := result
  dsimp only at hworks₂ htrace₂ hview₂ hfilled hleft
  have hworks₂ := hworks₁.trans hworks₂
  have he₂ : e < client₂.store.entities.length := by rw [hworks₂.length]; exact he
  have hsound₂ : TraceSound client₂ := hsound.same hworks₂.settings (htrace₂.trans htrace₁)
  cases ok with
  | false =>
    refine ⟨hworks₂, ?_, hsound₂, fun _ => ?_⟩
    · rw [hview₂, hleft rfl]
      exact hinv₁
    · rw [hview₂]
      exact hpresent₁
  | true =>
    obtain ⟨hring, hfollows, _⟩ := hfilled rfl
    dsimp only
    obtain ⟨hworks₃, hview₃, hsound₃⟩ := @recordPresent_spec R _ client₂ e he₂ call (some decoded)
      (by rw [hworks₂.settings]; exact hpush) hsound₂ fun hsnap => by
        rw [hview₂] at hsnap
        exact absurd (hmode₁.symm.trans hsnap) (by decide)
    generalize client₂.recordPresent e call (some decoded) = client₃ at hworks₃ hview₃ hsound₃
    have hworks₃ := hworks₂.trans hworks₃
    have he₃ : e < client₃.store.entities.length := by rw [hworks₃.length]; exact he
    have hfields := recordAuthoritativePresent_fields (client₂.view e).state call.frame call.archetype (some decoded)
    have hmode₃ : (client₃.view e).state.mode = .bufferedInterpolation := by
      rw [hview₃]
      exact hfields.1.trans (by rw [hview₂]; exact hmode₁)
    have harchetype₃ : (client₃.view e).state.archetype = metadata.archetype := by
      rw [hview₃]
      exact hfields.2.1.trans h.archetype
    have hok₃ : EntityOk definition (client₃.view e) := by
      rw [hview₃, hview₂]
      refine @EntityOk.recorded definition (client₁.view e).state call.frame _ call.archetype (some decoded) rfl
        (h.frame ▸ h.range) (h.frame ▸ h.pos) h.sized (fun b hb => ?_) (fun hsnap => ?_) (h.frame ▸ hring)
          fun _ => ⟨?_, hfollows _ _ (hok₁.last hmode₁) (hok₁.follows hmode₁)⟩
      · exact hok₁.stored hpresent₁ b hb
      · exact absurd (hmode₁.symm.trans hsnap) (by decide)
      · rw [h.frame]
        exact Nat.le_trans (hok₁.last hmode₁) (Nat.le_of_lt (hframe₁ ▸ h.newer))
    have hinv₃ : EntityInv client₃.settings (client₃.view e) := fun definition' heq => by
      rw [harchetype₃, hworks₃.settings] at heq
      obtain rfl : definition = definition' := Option.some.inj (hdef.symm.trans heq)
      exact hok₃
    have hmoved : MovesOn e client client₃ :=
      ⟨hworks₃, hworks₃.settings ▸ hinv₃, hsound₃, fun _ => by rw [hview₃]; exact hfields.2.2.2.2⟩
    split
    · have hpassed := @applyPassedSample_moves R _ client₃ e metadata.frame (hworks₃.separate hsep) he₃
        (by rw [hworks₃.settings]; exact hpush) hinv₃ hsound₃
        ⟨definition, by rw [harchetype₃, hworks₃.settings]; exact hdef⟩ hmode₃
      generalize client₃.applyPassedSample e metadata.frame = applied at hpassed
      obtain ⟨client₄, ok⟩ := applied
      cases ok with
      | false => exact hmoved.trans hpassed
      | true => exact hmoved.trans hpassed
    · exact hmoved

end

/-! ## Predicted entities -/

section

variable {client : ReplicationClient R} {e : Nat} {definition : SyncArchetype}

omit [LocalRegistry R] in
theorem quiet_ensurePredictedRing (client : ReplicationClient R) (e : Nat) :
    Quiet client (client.ensurePredictedRing e) :=
  ⟨rfl, rfl, rfl, rfl, rfl, rfl, rfl, [], rfl⟩

omit [LocalRegistry R] in
theorem quiet_seedFirstAuthoritativeFrame (client : ReplicationClient R) (frame : SyncFrame) :
    Quiet client (client.seedFirstAuthoritativeFrame frame) := by
  unfold seedFirstAuthoritativeFrame
  split
  · exact .refl client
  · exact ⟨rfl, rfl, rfl, rfl, rfl, rfl, rfl, [], rfl⟩

theorem queueRollback_spec (he : e < client.store.entities.length) (frame : SyncFrame) :
    WorksOn e client (client.queueRollback e frame) ∧ (client.queueRollback e frame).trace = client.trace ∧
      ∃ pending queued, (client.queueRollback e frame).view e = { client.view e with
        state := { (client.view e).state with rollbackPending := pending, rollbackFrame := queued } } := by
  unfold queueRollback ClientEntityStore.queuePredictionRollback
  rw [List.getElem?_eq_getElem he]
  dsimp only
  have hlisted : Relisted client.store (if client.store.entities[e].rollbackPending = true then client.store
      else client.store.setMembership .predictionRollback e true) := by
    split
    · exact .refl _
    · exact relisted_setMembership _ _ _ _
  generalize (if client.store.entities[e].rollbackPending = true then client.store
      else client.store.setMembership .predictionRollback e true) = store at hlisted
  have hf : EntityState.KeepsIds fun s => { s with
      rollbackPending := true, rollbackFrame := if s.rollbackFrame = 0 then frame else max s.rollbackFrame frame } :=
    ⟨fun _ => rfl, fun _ => rfl, fun _ => rfl, fun _ => rfl, fun _ h => h⟩
  have hworks : WorksOn e client { client with store } := hlisted.worksOn
  have hquiet : Quiet (({ client with store } : ReplicationClient R).modifyEntity e fun s => { s with
      rollbackPending := true, rollbackFrame := if s.rollbackFrame = 0 then frame else max s.rollbackFrame frame })
      ({ client with store := store.modifyEntity e fun s => { s with
      rollbackPending := true, rollbackFrame := if s.rollbackFrame = 0 then frame else max s.rollbackFrame frame } } :
      ReplicationClient R).refreshPendingRollbackFrame := ⟨rfl, rfl, rfl, rfl, rfl, rfl, rfl, [], rfl⟩
  have hview := @view_modifyEntity R _ { client with store } e _ hf (by rw [hworks.length]; exact he)
  refine ⟨(hworks.trans (worksOn_modifyEntity hf)).trans (hquiet.worksOn e), rfl, true,
    if (client.view e).state.rollbackFrame = 0 then frame else max (client.view e).state.rollbackFrame frame, ?_⟩
  rw [hquiet.view, hview, hlisted.view]

/-- `apply_predicted_upsert` keeps the entity as it should be. -/
theorem applyPredictedUpsert_moves {call : UpsertCall} {metadata : UpsertMetadata} {decoded : QuantizedFrameData}
    (hsep : Separate client) (he : e < client.store.entities.length)
    (hpush : client.settings.PushesAll) (hdef : client.settings.archetypes[metadata.archetype]? = some definition)
    (hsound : TraceSound client) (h : RecordFits definition (client.view e) call metadata decoded)
    (hinv : EntityInv client.settings (client.view e)) {state : EntityState}
    (hfound : client.store.findByClientEntityNetworkId metadata.clientEntityNetworkId = some (e, state)) :
    MovesOn e client (client.applyPredictedUpsert call metadata decoded).1 := by
  unfold applyPredictedUpsert
  split
  · exact .refl hinv hsound
  rw [hfound]
  have hquiet := quiet_ensurePredictedRing client e
  dsimp only
  generalize client.ensurePredictedRing e = client₀ at hquiet
  have hworks₀ := hquiet.worksOn e
  have hsound₀ := hquiet.traceSound hsound
  have he₀ : e < client₀.store.entities.length := by rw [hworks₀.length]; exact he
  split
  · exact ⟨hworks₀, by rw [hquiet.view]; exact hinv, hsound₀, by rw [hquiet.view]; exact fun h => h⟩
  have hf : EntityState.KeepsIds fun s => { s.markModeSelected .predict with archetype := metadata.archetype } :=
    ⟨fun _ => rfl, fun _ => rfl, fun _ => rfl, fun _ => rfl, fun _ _ => rfl⟩
  have hworks₁ := @worksOn_modifyEntity R _ client₀ e _ hf
  have hview₁ := view_modifyEntity hf he₀
  have htrace₁ :
      (client₀.modifyEntity e fun s => { s.markModeSelected .predict with archetype := metadata.archetype }).trace =
      client₀.trace := rfl
  generalize (client₀.modifyEntity e fun s => { s.markModeSelected .predict with archetype := metadata.archetype }) =
    client₁
    at hworks₁ hview₁ htrace₁
  have he₁ : e < client₁.store.entities.length := by rw [hworks₁.length]; exact he₀
  rw [hquiet.view] at hview₁
  -- the queued rollback changes nothing the invariant reads
  have hqueued : ∃ client₂, (if client₁.comparePredictedFrame e metadata.frame decoded = true then
      client₁.queueRollback e metadata.frame else client₁) = client₂ ∧ WorksOn e client₁ client₂ ∧
        client₂.trace = client₁.trace ∧
      ∃ pending queued, client₂.view e = { client₁.view e with
        state := { (client₁.view e).state with rollbackPending := pending, rollbackFrame := queued } } := by
    refine ⟨_, rfl, ?_⟩
    split
    · exact queueRollback_spec he₁ metadata.frame
    · exact ⟨.refl e client₁, rfl, _, _, rfl⟩
  obtain ⟨client₂, hclient₂, hworks₂, htrace₂, pending, queued, hview₂⟩ := hqueued
  rw [hclient₂]
  have hworks₂ := (hworks₀.trans hworks₁).trans hworks₂
  have he₂ : e < client₂.store.entities.length := by rw [hworks₂.length]; exact he
  have hsound₂ : TraceSound client₂ :=
    hsound₀.same (by rw [hworks₂.settings, hquiet.settings]) (htrace₂.trans htrace₁)
  rw [hview₁] at hview₂
  obtain ⟨hworks₃, hview₃, hsound₃⟩ := @recordPresent_spec R _ client₂ e he₂ call (some decoded)
    (by rw [hworks₂.settings]; exact hpush) hsound₂ fun hsnap => by
      rw [hview₂] at hsnap
      cases hsnap
  generalize client₂.recordPresent e call (some decoded) = client₃ at hworks₃ hview₃ hsound₃
  have hworks₃ := hworks₂.trans hworks₃
  have he₃ : e < client₃.store.entities.length := by rw [hworks₃.length]; exact he
  have hfields := recordAuthoritativePresent_fields (client₂.view e).state call.frame call.archetype (some decoded)
  have hmode₃ : (client₃.view e).state.mode = .predict := by
    rw [hview₃]
    exact hfields.1.trans (by rw [hview₂]; rfl)
  have harchetype₃ : (client₃.view e).state.archetype = metadata.archetype := by
    rw [hview₃]
    exact hfields.2.1.trans h.archetype
  have hinv₃ : EntityInv client₃.settings (client₃.view e) := fun definition' heq => by
    rw [harchetype₃, hworks₃.settings] at heq
    obtain rfl : definition = definition' := Option.some.inj (hdef.symm.trans heq)
    rw [hview₃]
    refine @EntityOk.recorded definition (client₂.view e).state call.frame _ call.archetype (some decoded) rfl
      (h.frame ▸ h.range) (h.frame ▸ h.pos) h.sized (fun b hb => ?_) (fun hsnap => ?_) ?_ fun hbuffered => ?_
    · rw [hview₂] at hb
      exact h.ok.stored h.present b hb
    · rw [hview₂] at hsnap
      cases hsnap
    · rw [hview₂, h.frame]
      exact h.ok.ring.mono (Nat.le_of_lt h.newer)
    · rw [hview₂] at hbuffered
      cases hbuffered
  have hmoved : MovesOn e client client₃ :=
    ⟨hworks₃, hworks₃.settings ▸ hinv₃, hsound₃, fun _ => by rw [hview₃]; exact hfields.2.2.2.2⟩
  have hfirst : ∀ first : Bool, MovesOn e client
      (if first = true then client₃.applyFrameData e metadata.frame true decoded else (client₃, true)).1 := by
    intro first
    split
    · exact hmoved.trans
        (applyBufferedSample_moves (hworks₃.separate hsep) he₃
        (by rw [hworks₃.settings]; exact hpush) hinv₃ hsound₃
        fun _ => .inr ⟨hmode₃, nofun⟩)
    · exact hmoved
  have hlast := hfirst (state.frame == 0 || !client₁.shows e)
  generalize (if (state.frame == 0 || !client₁.shows e) = true
    then client₃.applyFrameData e metadata.frame true decoded
    else (client₃, true)) = result at hlast
  obtain ⟨client₄, ok⟩ := result
  cases ok with
  | false => exact hlast
  | true => exact hlast.quiet (quiet_seedFirstAuthoritativeFrame client₄ metadata.frame)

end

end AshiatoSync
