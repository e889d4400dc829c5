import AshiatoSync.ClientRuntime

/-!
# What one entity of the client is

An entity of the client is its state, its ring of buffered samples and what its
local entity shows.  The calls of the client work on one entity at a time: this
module says what they do to the registry, and that they leave the others alone.
-/

namespace AshiatoSync

open LocalRegistry

/-! ## Changes on one local entity -/

section

variable {R : Type} [LocalRegistry R]

structure OnEntity (entity : Entity) (r r' : R) : Prop where
  alive : ∀ x, alive r' x = alive r x
  get : ∀ x c, x ≠ entity → get r' x c = get r x c
  hasTag : ∀ x t, x ≠ entity → hasTag r' x t = hasTag r x t

variable {entity : Entity} {r r' r'' : R}

theorem OnEntity.refl (entity : Entity) (r : R) : OnEntity entity r r :=
  ⟨fun _ => rfl, fun _ _ _ => rfl, fun _ _ _ => rfl⟩

theorem OnEntity.trans (h : OnEntity entity r r') (h' : OnEntity entity r' r'') : OnEntity entity r r'' where
  alive x := (h'.alive x).trans (h.alive x)
  get x c hx := (h'.get x c hx).trans (h.get x c hx)
  hasTag x t hx := (h'.hasTag x t hx).trans (h.hasTag x t hx)

theorem onEntity_set (entity : Entity) (r : R) (c : ComponentId) (v : Bytes) :
    OnEntity entity r (set r entity c v) where
  alive x := alive_set r entity x c v
  get x c' hx := by simp [get_set, hx]
  hasTag x t _ := hasTag_set r entity x c t v

theorem onEntity_remove (entity : Entity) (r : R) (c : ComponentId) : OnEntity entity r (remove r entity c) where
  alive x := alive_remove r entity x c
  get x c' hx := by simp [get_remove, hx]
  hasTag x t _ := hasTag_remove r entity x c t

theorem onEntity_addTag {t : ComponentId} (h : addTag r entity t = some r') : OnEntity entity r r' where
  alive x := alive_addTag r r' entity x t h
  get x c _ := get_addTag r r' entity x t c h
  hasTag x t' hx := by simp [hasTag_addTag r r' entity x t t' h, hx]

theorem onEntity_removeTag (entity : Entity) (r : R) (t : ComponentId) : OnEntity entity r (removeTag r entity t) where
  alive x := alive_removeTag r entity x t
  get x c _ := get_removeTag r entity x t c
  hasTag x t' hx := by simp [hasTag_removeTag, hx]

/-! ## Tags -/

theorem applyArchetypeTags_spec (entity : Entity) (mask : Mask) :
    ∀ (tags : List SyncTagReplication) (i : Nat) (r : R),
    OnEntity entity r (applyArchetypeTags entity mask tags i r).1 ∧
      ∀ c, get (applyArchetypeTags entity mask tags i r).1 entity c = get r entity c
  | [], _, r => ⟨.refl entity r, fun _ => rfl⟩
  | t :: rest, i, r => by
    unfold applyArchetypeTags
    split
    case isTrue =>
      split
      · exact ⟨.refl entity r, fun _ => rfl⟩
      · rename_i r' hadd
        obtain ⟨hon, hget⟩ := applyArchetypeTags_spec entity mask rest (i + 1) r'
        exact ⟨(onEntity_addTag hadd).trans hon,
          fun c => (hget c).trans (get_addTag r r' entity entity t.tag c hadd)⟩
    case isFalse =>
      obtain ⟨hon, hget⟩ := applyArchetypeTags_spec entity mask rest (i + 1) (removeTag r entity t.tag)
      exact ⟨(onEntity_removeTag entity r t.tag).trans hon,
        fun c => (hget c).trans (get_removeTag r entity entity t.tag c)⟩

theorem removeArchetypeTags_spec (entity : Entity) (definition : SyncArchetype) (r : R) :
    OnEntity entity r (removeArchetypeTags entity definition r) ∧
      ∀ c, get (removeArchetypeTags entity definition r) entity c = get r entity c := by
  unfold removeArchetypeTags
  induction definition.tags generalizing r with
  | nil => exact ⟨.refl entity r, fun _ => rfl⟩
  | cons t rest ih =>
    obtain ⟨hon, hget⟩ := ih (removeTag r entity t.tag)
    exact ⟨(onEntity_removeTag entity r t.tag).trans hon,
      fun c => (hget c).trans (get_removeTag r entity entity t.tag c)⟩

/-! ## Components -/

theorem removeMissing_spec (entity : Entity) (previous next : Mask) :
    ∀ (cs : List ComponentReplication) (k : Nat) (r : R),
    let r' := (cs.zipIdx k).foldl (fun registry (c, i) =>
      if previous.getLsbD i && !next.getLsbD i then remove registry entity c.component else registry) r
    OnEntity entity r r' ∧
      (∀ component, (∀ c ∈ cs, c.component ≠ component) →
        get r' entity component = get r entity component) ∧
      ((cs.map ComponentReplication.component).Nodup → ∀ j c, cs[j]? = some c →
        get r' entity c.component =
          if previous.getLsbD (k + j) && !next.getLsbD (k + j) then none else get r entity c.component)
  | [], _, r => ⟨.refl entity r, fun _ _ => rfl, fun _ _ _ h => by simp at h⟩
  | c :: cs, k, r => by
    simp only [List.zipIdx_cons, List.foldl_cons]
    generalize hr : (if previous.getLsbD k && !next.getLsbD k then remove r entity c.component else r) = r₁
    obtain ⟨hon, hother, hat⟩ := removeMissing_spec entity previous next cs (k + 1) r₁
    have hstep : OnEntity entity r r₁ ∧ ∀ component, component ≠ c.component →
        get r₁ entity component = get r entity component := by
      rw [← hr]
      split
      · exact ⟨onEntity_remove entity r c.component, fun component hne => by simp [get_remove, hne]⟩
      · exact ⟨.refl entity r, fun _ _ => rfl⟩
    refine ⟨hstep.1.trans hon, fun component hne => ?_, fun hnodup j d hd => ?_⟩
    · rw [hother component fun d hd => hne d (List.mem_cons_of_mem c hd)]
      exact hstep.2 component (Ne.symm (hne c List.mem_cons_self))
    · obtain ⟨hnot, hnodup⟩ := List.nodup_cons.mp hnodup
      cases j with
      | zero =>
        obtain rfl : c = d := by simpa using hd
        rw [hother c.component fun d hd heq => hnot (heq ▸ List.mem_map_of_mem hd), ← hr, Nat.add_zero]
        split
        · simp [get_remove]
        · rfl
      | succ j =>
        have hd' : cs[j]? = some d := by simpa using hd
        have hne : d.component ≠ c.component :=
          fun heq => hnot (heq ▸ List.mem_map_of_mem (List.mem_of_getElem? hd'))
        rw [hat hnodup j d hd', hstep.2 d.component hne, Nat.add_right_comm, Nat.add_assoc]

def SyncSettings.PushesAll (settings : SyncSettings) : Prop :=
  ∀ definition ∈ settings.archetypes, ∀ c ∈ definition.components, ∀ bytes,
  (c.ops.pushToRegistry bytes).isSome

def HasBytes (definition : SyncArchetype) (data : QuantizedFrameData) : Prop :=
  ∀ i < definition.components.length, frameHasComponent data i = true → (frameComponentData data i).isSome

theorem pushPresent_spec (entity : Entity) (frame : QuantizedFrameData) :
    ∀ (cs : List ComponentReplication) (k : Nat) (r : R),
    OnEntity entity r (pushPresentComponents entity frame cs k r).1 ∧
    (∀ component, (∀ c ∈ cs, c.component ≠ component) →
      get (pushPresentComponents entity frame cs k r).1 entity component = get r entity component) ∧
    ((pushPresentComponents entity frame cs k r).2 = true → (cs.map ComponentReplication.component).Nodup →
      ∀ j c, cs[j]? = some c → get (pushPresentComponents entity frame cs k r).1 entity c.component =
        if frameHasComponent frame (k + j) then (frameComponentData frame (k + j)).bind c.ops.pushToRegistry
        else get r entity c.component) ∧
    ((∀ c ∈ cs, ∀ bytes, (c.ops.pushToRegistry bytes).isSome) →
      (∀ j < cs.length, frameHasComponent frame (k + j) = true → (frameComponentData frame (k + j)).isSome) →
      (pushPresentComponents entity frame cs k r).2 = true)
  | [], _, r => ⟨.refl entity r, fun _ _ => rfl, fun _ _ _ _ h => by simp at h, fun _ _ => rfl⟩
  | c :: cs, k, r => by
    unfold pushPresentComponents
    have hshift : ∀ j, k + 1 + j = k + (j + 1) := fun j => by omega
    cases hhas : frameHasComponent frame k with
    | false =>
      simp only [Bool.not_false, if_true]
      obtain ⟨hon, hother, hat, htotal⟩ := pushPresent_spec entity frame cs (k + 1) r
      refine ⟨hon, fun component hne => hother component fun d hd => hne d (List.mem_cons_of_mem c hd),
        fun hok hnodup j d hd => ?_, fun hpush hbytes => ?_⟩
      · obtain ⟨hnot, hnodup⟩ := List.nodup_cons.mp hnodup
        cases j with
        | zero =>
          obtain rfl : c = d := by simpa using hd
          rw [hother c.component fun d hd heq => hnot (heq ▸ List.mem_map_of_mem hd), Nat.add_zero, hhas]
          rfl
        | succ j => rw [hat hok hnodup j d (by simpa using hd), hshift]
      · refine htotal (fun d hd => hpush d (List.mem_cons_of_mem c hd)) fun j hj => ?_
        rw [hshift]
        exact hbytes (j + 1) (Nat.succ_lt_succ hj)
    | true =>
      simp only [Bool.not_true, Bool.false_eq_true, if_false]
      cases hdata : frameComponentData frame k with
      | none =>
        refine ⟨.refl entity r, fun _ _ => rfl, fun hok => by simp at hok, fun _ hbytes => ?_⟩
        have := hbytes 0 (Nat.succ_pos _) hhas
        simp [hdata] at this
      | some bytes =>
        cases hpushed : c.ops.pushToRegistry bytes with
        | none =>
          dsimp only
          rw [hpushed]
          refine ⟨.refl entity r, fun _ _ => rfl, fun hok => by simp at hok, fun hpush _ => ?_⟩
          have := hpush c List.mem_cons_self bytes
          simp [hpushed] at this
        | some value =>
          simp only [hpushed]
          obtain ⟨hon, hother, hat, htotal⟩ :=
            pushPresent_spec entity frame cs (k + 1) (set r entity c.component value)
          refine ⟨(onEntity_set entity r c.component value).trans hon, fun component hne => ?_,
            fun hok hnodup j d hd => ?_, fun hpush hbytes => ?_⟩
          · rw [hother component fun d hd => hne d (List.mem_cons_of_mem c hd)]
            simp [get_set, Ne.symm (hne c List.mem_cons_self)]
          · obtain ⟨hnot, hnodup⟩ := List.nodup_cons.mp hnodup
            cases j with
            | zero =>
              obtain rfl : c = d := by simpa using hd
              rw [hother c.component fun d hd heq => hnot (heq ▸ List.mem_map_of_mem hd), Nat.add_zero, hhas, hdata]
              simp [get_set, hpushed]
            | succ j =>
              have hd' : cs[j]? = some d := by simpa using hd
              have hne : d.component ≠ c.component := fun heq =>
                hnot (heq ▸ List.mem_map_of_mem (List.mem_of_getElem? hd'))
              rw [hat hok hnodup j d hd', hshift]
              simp [get_set, hne]
          · refine htotal (fun d hd => hpush d (List.mem_cons_of_mem c hd)) fun j hj => ?_
            rw [hshift]
            exact hbytes (j + 1) (Nat.succ_lt_succ hj)

/-! ## Frames -/

structure FrameShown (definition : SyncArchetype) (input : RegistryFrameApplyInfo)
    (before after : ComponentId → Option Bytes) : Prop where
  component : ∀ i c, definition.components[i]? = some c → after c.component =
    if frameHasComponent input.frameData i then (frameComponentData input.frameData i).bind c.ops.pushToRegistry
    else if input.previousPresentMask.getLsbD i && !input.nextPresentMask.getLsbD i then none
    else before c.component
  other : ∀ component, (∀ c ∈ definition.components, c.component ≠ component) →
    after component = before component

theorem applyRegistryFrame_spec (definition : SyncArchetype) (input : RegistryFrameApplyInfo) (entity : Entity)
    (r : R) :
    OnEntity entity r (applyRegistryFrame definition input entity r).1 ∧
    ((applyRegistryFrame definition input entity r).2 = true →
      FrameShown definition input (get r entity) (get (applyRegistryFrame definition input entity r).1 entity)) ∧
    ((applyRegistryFrame definition input entity r).2 = false →
      (∀ c ∈ definition.components, ∀ bytes, (c.ops.pushToRegistry bytes).isSome) →
      HasBytes definition input.frameData →
      ∀ c, get (applyRegistryFrame definition input entity r).1 entity c = get r entity c) := by
  unfold applyRegistryFrame
  obtain ⟨htags, hget⟩ := applyArchetypeTags_spec entity input.frameData.tagMask definition.tags 0 r
  split
  · rename_i r₁ heq
    rw [heq] at htags hget
    exact ⟨htags, fun h => by simp at h, fun _ _ _ => hget⟩
  · rename_i r₁ heq
    rw [heq] at htags hget
    obtain ⟨hon₁, hother₁, hat₁⟩ := removeMissing_spec entity input.previousPresentMask input.nextPresentMask
      definition.components 0 r₁
    unfold removeMissingRegistryComponents
    generalize hr₂ : definition.components.zipIdx.foldl (fun registry (c, i) =>
      if input.previousPresentMask.getLsbD i && !input.nextPresentMask.getLsbD i then
        remove registry entity c.component else registry) r₁ = r₂
    have hzip : definition.components.zipIdx = definition.components.zipIdx 0 := rfl
    rw [hzip] at hr₂
    simp only [hr₂] at hon₁ hother₁ hat₁
    obtain ⟨hon₂, hother₂, hat₂, htotal⟩ :=
      pushPresent_spec entity input.frameData definition.components 0 r₂
    refine ⟨(htags.trans hon₁).trans hon₂, fun hok => ⟨fun i c hc => ?_, fun component hne => ?_⟩,
      fun hfail hpush hbytes => ?_⟩
    · rw [hat₂ hok definition.distinct i c hc, hat₁ definition.distinct i c hc, Nat.zero_add, hget]
    · rw [hother₂ component hne, hother₁ component hne, hget]
    · have hok := htotal hpush fun j hj => by simpa using hbytes j hj
      rw [hok] at hfail
      cases hfail

end

/-! ## Lookups -/

theorem checked_eq_some {entities : List EntityState} {index : Option Nat} {p : EntityState → Prop} [DecidablePred p]
    {e : Nat} {s : EntityState} : (match index with
      | none => none
      | some e =>
        match entities[e]? with
        | none => none
        | some s =>
          if p s then some (e, s) else none) = some (e, s) ↔ index = some e ∧ entities[e]? = some s ∧ p s := by
  cases index with
  | none => simp
  | some i =>
    dsimp only
    constructor
    · intro h
      split at h
      · cases h
      · rename_i t hget
        split at h
        · rename_i hp
          cases h
          exact ⟨rfl, hget, hp⟩
        · cases h
    · rintro ⟨hi, hget, hp⟩
      cases hi
      rw [hget]
      exact if_pos hp

theorem findByClientEntityNetworkId_eq_some {store : ClientEntityStore} {id : ClientEntityNetworkId} {e : Nat}
    {s : EntityState} :
    store.findByClientEntityNetworkId id = some (e, s) ↔
      store.clientEntityIndices id = some e ∧ store.entities[e]? = some s ∧ s.clientEntityNetworkId = id :=
        checked_eq_some

theorem findByWireId_eq_some {store : ClientEntityStore} {w e : Nat} {s : EntityState} :
    store.findByWireId w = some (e, s) ↔ w ≠ 0 ∧ (store.wireNetworkIds w).entityIndex = some e ∧
      store.entities[e]? = some s ∧ s.wireNetworkId = w := by
  unfold ClientEntityStore.findByWireId
  by_cases hw : w = 0
  · simp [hw]
  · rw [if_neg hw]
    exact checked_eq_some.trans ⟨fun h => ⟨hw, h⟩, fun h => h.2⟩

/-! ## Views -/

def EntityState.unlisted (s : EntityState) : EntityState := { s with membershipIndex := fun _ => none }

theorem EntityState.of_unlisted {s t : EntityState} (h : s.unlisted = t.unlisted) : s.localEntity = t.localEntity ∧
    s.clientEntityNetworkId = t.clientEntityNetworkId ∧ s.wireNetworkId = t.wireNetworkId ∧
    s.modeSelected = t.modeSelected := by
  have hlocal := congrArg EntityState.localEntity h
  have hid := congrArg EntityState.clientEntityNetworkId h
  have hwire := congrArg EntityState.wireNetworkId h
  have hselected := congrArg EntityState.modeSelected h
  exact ⟨hlocal, hid, hwire, hselected⟩

structure EntityView where
  state : EntityState
  ring : FrameRing
  shown : ComponentId → Option Bytes

def ClientCall.isDestroy : ClientCall → Bool
  | .destroy _ => true
  | _ => false

section

variable {R : Type} {client : ReplicationClient R} {e : Nat} {f : EntityState → EntityState}

theorem entity_modifyEntity_ne {i : Nat} (h : i ≠ e) : (client.modifyEntity e f).entity i = client.entity i := by
  simp [ReplicationClient.entity, ReplicationClient.modifyEntity, ClientEntityStore.modifyEntity, Ne.symm h]

theorem entity_modifyEntity_self (h : e < client.store.entities.length) :
    (client.modifyEntity e f).entity e = f (client.entity e) := by
  simp [ReplicationClient.entity, ReplicationClient.modifyEntity, ClientEntityStore.modifyEntity, h]

theorem entity_modifyEntity_or (i : Nat) : (client.modifyEntity e f).entity i = client.entity i ∨
    (client.modifyEntity e f).entity i = f (client.entity i) := by
  by_cases hi : i = e
  · subst hi
    by_cases hlt : i < client.store.entities.length
    · exact .inr (entity_modifyEntity_self hlt)
    · exact .inl (by simp [ReplicationClient.entity, ReplicationClient.modifyEntity,
        ClientEntityStore.modifyEntity, Nat.le_of_not_lt hlt])
  · exact .inl (entity_modifyEntity_ne hi)

end

section

variable {R : Type} [LocalRegistry R]

def ReplicationClient.view (client : ReplicationClient R) (e : Nat) : EntityView where
  state := (client.entity e).unlisted
  ring := client.bufferedRuntime.rings e
  shown c := (client.entity e).localEntity.bind fun entity => get client.registry entity c

structure Separate (client : ReplicationClient R) : Prop where
  alive : ∀ e l, (client.entity e).localEntity = some l → alive client.registry l = true
  distinct : ∀ e e' l, (client.entity e).localEntity = some l → (client.entity e').localEntity = some l → e = e'

/-- The client worked on entity `e` and left the others, and every id, as they were. -/
structure WorksOn (e : Nat) (client client' : ReplicationClient R) : Prop where
  settings : client'.settings = client.settings
  options : client'.options = client.options
  clientId : client'.clientId = client.clientId
  acks : client'.ackQueue = client.ackQueue
  length : client'.store.entities.length = client.store.entities.length
  free : client'.store.freeEntityIndices = client.store.freeEntityIndices
  wires : client'.store.wireNetworkIds = client.store.wireNetworkIds
  indices : client'.store.clientEntityIndices = client.store.clientEntityIndices
  tombstones : client'.store.destroyTombstones = client.store.destroyTombstones
  id : ∀ i, (client'.entity i).clientEntityNetworkId = (client.entity i).clientEntityNetworkId
  wire : ∀ i, (client'.entity i).wireNetworkId = (client.entity i).wireNetworkId
  selected : ∀ i, (client.entity i).modeSelected = true → (client'.entity i).modeSelected = true
  others : ∀ i, i ≠ e → client'.view i = client.view i
  separate : Separate client → Separate client'
  trace : ∃ calls, client'.trace = calls ++ client.trace ∧ ∀ call ∈ calls, call.isDestroy = false

variable {client client' client'' : ReplicationClient R} {e : Nat}

theorem WorksOn.refl (e : Nat) (client : ReplicationClient R) : WorksOn e client client :=
  ⟨rfl, rfl, rfl, rfl, rfl, rfl, rfl, rfl, rfl, fun _ => rfl, fun _ => rfl, fun _ h => h, fun _ _ => rfl, fun h => h,
    [], rfl, fun _ h => by cases h⟩

theorem WorksOn.trans (h : WorksOn e client client') (h' : WorksOn e client' client'') : WorksOn e client client'' where
  settings := h'.settings.trans h.settings
  options := h'.options.trans h.options
  clientId := h'.clientId.trans h.clientId
  acks := h'.acks.trans h.acks
  length := h'.length.trans h.length
  free := h'.free.trans h.free
  wires := h'.wires.trans h.wires
  indices := h'.indices.trans h.indices
  tombstones := h'.tombstones.trans h.tombstones
  id i := (h'.id i).trans (h.id i)
  wire i := (h'.wire i).trans (h.wire i)
  selected i hi := h'.selected i (h.selected i hi)
  others i hi := (h'.others i hi).trans (h.others i hi)
  separate hs := h'.separate (h.separate hs)
  trace := by
    obtain ⟨calls, heq, hnot⟩ := h.trace
    obtain ⟨calls', heq', hnot'⟩ := h'.trace
    refine ⟨calls' ++ calls, by rw [heq', heq, List.append_assoc], fun call hcall => ?_⟩
    rcases List.mem_append.mp hcall with hmem | hmem
    · exact hnot' call hmem
    · exact hnot call hmem

/-! ### Entities -/

structure EntityState.KeepsIds (f : EntityState → EntityState) : Prop where
  id : ∀ s, (f s).clientEntityNetworkId = s.clientEntityNetworkId
  wire : ∀ s, (f s).wireNetworkId = s.wireNetworkId
  shows : ∀ s, (f s).localEntity = s.localEntity
  unlisted : ∀ s, (f s).unlisted = f s.unlisted
  selected : ∀ s, s.modeSelected = true → (f s).modeSelected = true

variable {f : EntityState → EntityState}

theorem worksOn_modifyEntity (hf : EntityState.KeepsIds f) : WorksOn e client (client.modifyEntity e f) := by
  have hor := @entity_modifyEntity_or R client e f
  have hlocal : ∀ i, ((client.modifyEntity e f).entity i).localEntity = (client.entity i).localEntity := by
    intro i
    rcases hor i with h | h
    · rw [h]
    · rw [h, hf.shows]
  refine ⟨rfl, rfl, rfl, rfl, ?_, rfl, rfl, rfl, rfl, fun i => ?_, fun i => ?_, fun i hi => ?_, fun i hi => ?_,
    fun hs => ⟨fun i l hl => ?_, fun i j l hi hj => ?_⟩, [], rfl, fun _ h => by cases h⟩
  · simp [ReplicationClient.modifyEntity, ClientEntityStore.modifyEntity]
  · rcases hor i with h | h
    · rw [h]
    · rw [h, hf.id]
  · rcases hor i with h | h
    · rw [h]
    · rw [h, hf.wire]
  · rcases hor i with h | h
    · rw [h]
      exact hi
    · rw [h]
      exact hf.selected _ hi
  · simp only [ReplicationClient.view, entity_modifyEntity_ne hi]
    rfl
  · exact hs.alive i l (hlocal i ▸ hl)
  · exact hs.distinct i j l (hlocal i ▸ hi) (hlocal j ▸ hj)

theorem view_modifyEntity (hf : EntityState.KeepsIds f) (h : e < client.store.entities.length) :
    (client.modifyEntity e f).view e = { client.view e with state := f (client.view e).state } := by
  simp only [ReplicationClient.view, entity_modifyEntity_self h, hf.unlisted, hf.shows]
  rfl

/-! ### Rings, cues and the trace -/

/-- The same store, registry and rings, and no destroy in the new calls. -/
theorem WorksOn.of_eq (hsettings : client'.settings = client.settings) (hoptions : client'.options = client.options)
    (hid : client'.clientId = client.clientId) (hacks : client'.ackQueue = client.ackQueue)
    (hstore : client'.store = client.store) (hregistry : client'.registry = client.registry)
    (hrings : client'.bufferedRuntime.rings = client.bufferedRuntime.rings)
    (htrace : ∃ calls, client'.trace = calls ++ client.trace ∧ ∀ call ∈ calls, call.isDestroy = false)
    (e : Nat) : WorksOn e client client' := by
  have hentity : ∀ i, client'.entity i = client.entity i := fun i => by
    rw [ReplicationClient.entity, ReplicationClient.entity, hstore]
  refine ⟨hsettings, hoptions, hid, hacks, by rw [hstore], by rw [hstore], by rw [hstore], by rw [hstore],
    by rw [hstore],
    fun i => by
      rw [hentity],
      fun i => by
      rw [hentity],
      fun i hi => by rw [hentity]; exact hi, fun i _ => ?_, fun hs => ⟨fun i l hl => ?_, fun i j l hi hj => ?_⟩,
    htrace⟩
  · simp only [ReplicationClient.view, hentity, hregistry, hrings]
  · rw [hregistry]
    exact hs.alive i l (hentity i ▸ hl)
  · exact hs.distinct i j l (hentity i ▸ hi) (hentity j ▸ hj)

theorem worksOn_logCall {call : ClientCall} (h : call.isDestroy = false) (e : Nat) :
    WorksOn e client (client.logCall call) := by
  refine @WorksOn.of_eq R _ client (client.logCall call) rfl rfl rfl rfl rfl rfl rfl ⟨[call], rfl,
    fun call' hmem => ?_⟩ e
  rw [List.mem_singleton.mp hmem]
  exact h

theorem worksOn_setBufferedRing (ring : FrameRing) : WorksOn e client (client.setBufferedRing e ring) := by
  refine ⟨rfl, rfl, rfl, rfl, rfl, rfl, rfl, rfl, rfl, fun _ => rfl, fun _ => rfl, fun _ h => h, fun i hi => ?_,
    fun hs => ⟨hs.alive, hs.distinct⟩, [], rfl, fun _ h => by cases h⟩
  simp only [ReplicationClient.view, ReplicationClient.setBufferedRing, Function.update_of_ne hi]
  rfl

theorem view_setBufferedRing (ring : FrameRing) :
    (client.setBufferedRing e ring).view e = { client.view e with ring } := by
  simp only [ReplicationClient.view, ReplicationClient.setBufferedRing, Function.update_self]
  rfl

end

/-! ### Memberships -/

theorem unlisted_setMembershipIndex {store : ClientEntityStore} {kind : Membership} {e : Nat} {index : Option Nat}
    (i : Nat) :
    (((store.setMembershipIndex kind e index).entities[i]?).getD ({} : EntityState)).unlisted =
      ((store.entities[i]?).getD ({} : EntityState)).unlisted := by
  unfold ClientEntityStore.setMembershipIndex ClientEntityStore.modifyEntity
  simp only [List.getElem?_modify]
  cases store.entities[i]? with
  | none => rfl
  | some s =>
    by_cases h : e = i
    · simp [h, EntityState.unlisted]
    · simp [h]

structure Relisted (store store' : ClientEntityStore) : Prop where
  length : store'.entities.length = store.entities.length
  free : store'.freeEntityIndices = store.freeEntityIndices
  wires : store'.wireNetworkIds = store.wireNetworkIds
  indices : store'.clientEntityIndices = store.clientEntityIndices
  tombstones : store'.destroyTombstones = store.destroyTombstones
  unlisted : ∀ i : Nat, ((store'.entities[i]?).getD ({} : EntityState)).unlisted =
    ((store.entities[i]?).getD ({} : EntityState)).unlisted

theorem Relisted.refl (store : ClientEntityStore) : Relisted store store := ⟨rfl, rfl, rfl, rfl, rfl, fun _ => rfl⟩

theorem Relisted.trans {a b c : ClientEntityStore} (h : Relisted a b) (h' : Relisted b c) : Relisted a c :=
  ⟨h'.length.trans h.length, h'.free.trans h.free, h'.wires.trans h.wires, h'.indices.trans h.indices,
    h'.tombstones.trans h.tombstones, fun i => (h'.unlisted i).trans (h.unlisted i)⟩

theorem relisted_setMembershipIndex (store : ClientEntityStore) (kind : Membership) (e : Nat) (index : Option Nat) :
    Relisted store (store.setMembershipIndex kind e index) :=
  ⟨by simp [ClientEntityStore.setMembershipIndex, ClientEntityStore.modifyEntity], rfl, rfl, rfl, rfl,
    unlisted_setMembershipIndex⟩

theorem relisted_setMembership (store : ClientEntityStore) (kind : Membership) (e : Nat) (active : Bool) :
    Relisted store (store.setMembership kind e active) := by
  unfold ClientEntityStore.setMembership
  split
  · exact .refl store
  · dsimp only
    split
    · exact .refl store
    · have h := relisted_setMembershipIndex store kind e (some (store.members kind).length)
      exact ⟨h.length, h.free, h.wires, h.indices, h.tombstones, h.unlisted⟩
    · exact .refl store
    · split
      · exact relisted_setMembershipIndex store kind e none
      · split
        · exact relisted_setMembershipIndex store kind e none
        · rename_i i _ _ moved _ _
          have h := (relisted_setMembershipIndex store kind moved (some i)).trans
            (relisted_setMembershipIndex _ kind e none)
          exact ⟨h.length, h.free, h.wires, h.indices, h.tombstones, h.unlisted⟩

theorem relisted_sync (store : ClientEntityStore) (e : Nat) : Relisted store (store.syncEntityMemberships e) := by
  unfold ClientEntityStore.syncEntityMemberships
  split
  · exact .refl store
  · split
    · exact .refl store
    · split
      · exact .refl store
      · split
        · exact ((relisted_setMembership _ _ _ _).trans (relisted_setMembership _ _ _ _)).trans
            (relisted_setMembership _ _ _ _)
        · exact .refl store

section

variable {R : Type} [LocalRegistry R] {client : ReplicationClient R} {e : Nat}

theorem Relisted.view {store : ClientEntityStore} (h : Relisted client.store store) (i : Nat) :
    ({ client with store } : ReplicationClient R).view i = client.view i := by
  have hstate : (({ client with store } : ReplicationClient R).entity i).unlisted = (client.entity i).unlisted :=
    h.unlisted i
  simp only [ReplicationClient.view, hstate, (EntityState.of_unlisted hstate).1]

theorem Relisted.worksOn {store : ClientEntityStore} (h : Relisted client.store store) :
    WorksOn e client { client with store } := by
  have hstate : ∀ i, (({ client with store } : ReplicationClient R).entity i).unlisted = (client.entity i).unlisted :=
    h.unlisted
  have hlocal := fun i => (EntityState.of_unlisted (hstate i)).1
  exact ⟨rfl, rfl, rfl, rfl, h.length, h.free, h.wires, h.indices, h.tombstones,
    fun i => (EntityState.of_unlisted (hstate i)).2.1, fun i => (EntityState.of_unlisted (hstate i)).2.2.1,
    fun i hi => (EntityState.of_unlisted (hstate i)).2.2.2.trans hi, fun i _ => h.view i,
    fun hs => ⟨fun i l hl => hs.alive i l ((hlocal i).symm.trans hl),
      fun i j l hi hj => hs.distinct i j l ((hlocal i).symm.trans hi) ((hlocal j).symm.trans hj)⟩,
    [], rfl, fun _ h => by cases h⟩

end

end AshiatoSync
