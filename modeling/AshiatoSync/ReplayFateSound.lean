import AshiatoSync.DiscoverySound
import AshiatoSync.ReplayFrames

/-!
# What a dirty frame says about the slots

A slot keeps its entity over a dirty frame, or it was given up and its index is
among the destroyed slots, or it has an entity whose `Replicated` component was
added or written.  So a writer that collects these knows every slot it has to
write again, and each slot that is left has a replicable entity.
-/

namespace AshiatoSync

open ReplicationServer

/-- What becomes of a slot while entities that are `touched` are upserted and the slots of `destroyed` are given up. -/
inductive SlotFate (before : ServerCore) (touched : Entity → Prop) (destroyed : List (Nat × Entity))
    (after : ServerCore) (slot : Nat) : Prop where
  | kept (same : (slotView after)[slot]? = (slotView before)[slot]?) (notDestroyed : slot ∉ destroyed.map Prod.fst)
  | taken (r : ReplicatedSlot) (get : after.replicated[slot]? = some r) (active : r.active = true)
    (new : touched r.entity) (free : before.replicatedSlotActive slot = true → slot ∈ destroyed.map Prod.fst)
  | gone (destroyed : slot ∈ destroyed.map Prod.fst) (r : ReplicatedSlot) (get : after.replicated[slot]? = some r)
    (idle : r.active = false)

structure Rediscovers (touched : Entity → Prop) (r r' : Rediscovery) : Prop where
  tables : SlotTables r'.server.core
  settings : r'.server.core.settings = r.server.core.settings
  frame : r'.server.core.frame = r.server.core.frame
  options : r'.server.core.options = r.server.core.options
  grown : r.server.core.replicated.length ≤ r'.server.core.replicated.length
  destroyed : ∃ destroyed, r'.destroyedSlots = r.destroyedSlots ++ destroyed ∧
    ∀ slot, SlotFate r.server.core touched destroyed r'.server.core slot

section

variable {before middle after : ServerCore} {touched : Entity → Prop}
  {destroyed destroyed' : List (Nat × Entity)} {slot : Nat}
  {registry : Registry} {entity : Entity} {entities : List Entity} {r r' r'' : Rediscovery}

theorem slotActive_of_view (h : (slotView after)[slot]? = (slotView before)[slot]?) :
    after.replicatedSlotActive slot = before.replicatedSlotActive slot := by
  simp only [slotView, List.getElem?_map] at h
  unfold ServerCore.replicatedSlotActive
  cases ha : after.replicated[slot]? with
  | none =>
    cases hb : before.replicated[slot]? with
    | none => rfl
    | some r => simp [ha, hb] at h
  | some r' =>
    cases hb : before.replicated[slot]? with
    | none => simp [ha, hb] at h
    | some r =>
      simp only [ha, hb, Option.map_some, Option.some.injEq, Prod.mk.injEq] at h
      exact h.2.2

theorem get_of_view (h : (slotView after)[slot]? = (slotView before)[slot]?) {r : ReplicatedSlot}
    (hr : before.replicated[slot]? = some r) :
    ∃ r', after.replicated[slot]? = some r' ∧ r'.entity = r.entity ∧ r'.archetype = r.archetype ∧
    r'.active = r.active := by
  rw [slotView_get hr] at h
  simp only [slotView, List.getElem?_map, Option.map_eq_some_iff, Prod.mk.injEq] at h
  exact h

theorem SlotFate.trans (h : SlotFate before touched destroyed middle slot)
    (h' : SlotFate middle touched destroyed' after slot) :
    SlotFate before touched (destroyed ++ destroyed') after slot := by
  have hleft : slot ∈ destroyed.map Prod.fst → slot ∈ (destroyed ++ destroyed').map Prod.fst := fun hin => by
    rw [List.map_append]
    exact List.mem_append_left _ hin
  cases h' with
  | taken r get active new free =>
    refine .taken r get active new fun hbefore => ?_
    have hright : middle.replicatedSlotActive slot = true → slot ∈ (destroyed ++ destroyed').map Prod.fst :=
      fun hmiddle => by
        rw [List.map_append]
        exact List.mem_append_right _ (free hmiddle)
    cases h with
    | kept same _ => exact hright ((slotActive_of_view same).trans hbefore)
    | taken r' get' active' _ _ => exact hright ((slotActive_of_get get').trans active')
    | gone hdestroyed _ _ _ => exact hleft hdestroyed
  | gone hdestroyed r get idle =>
    exact .gone (by rw [List.map_append]; exact List.mem_append_right _ hdestroyed) r get idle
  | kept same hnot =>
    cases h with
    | kept same' hnot' =>
      refine .kept (same.trans same') ?_
      rw [List.map_append, List.mem_append]
      exact fun hin => hin.elim hnot' hnot
    | taken r get active new free =>
      obtain ⟨r', hr', he, -, ha⟩ := get_of_view same get
      exact .taken r' hr' (ha.trans active) (he ▸ new) fun hbefore => hleft (free hbefore)
    | gone hdestroyed r get idle =>
      obtain ⟨r', hr', -, -, ha⟩ := get_of_view same get
      exact .gone (hleft hdestroyed) r' hr' (ha.trans idle)

theorem SlotFate.of_sameSlots (h : SlotFate before touched destroyed middle slot) (hsame : SameSlots middle after) :
    SlotFate before touched destroyed after slot := by
  have hview : (slotView after)[slot]? = (slotView middle)[slot]? := by rw [hsame.view]
  have hkept : SlotFate middle touched [] after slot := .kept hview List.not_mem_nil
  have hfate := h.trans hkept
  rwa [List.append_nil] at hfate

theorem Rediscovers.refl (h : SlotTables r.server.core) : Rediscovers touched r r :=
  ⟨h, rfl, rfl, rfl, le_rfl, [], by simp, fun _ => .kept rfl List.not_mem_nil⟩

theorem Rediscovers.trans (h : Rediscovers touched r r') (h' : Rediscovers touched r' r'') :
    Rediscovers touched r r'' := by
  obtain ⟨destroyed, heq, hfate⟩ := h.destroyed
  obtain ⟨destroyed', heq', hfate'⟩ := h'.destroyed
  refine ⟨h'.tables, h'.settings.trans h.settings, h'.frame.trans h.frame, h'.options.trans h.options,
    h.grown.trans h'.grown,
    destroyed ++ destroyed', ?_, fun slot => (hfate slot).trans (hfate' slot)⟩
  rw [heq', heq, List.append_assoc]

/-! ## One entity -/

theorem Rediscovers.deactivateEntityIndex (h : SlotTables r.server.core) (index : Nat) :
    Rediscovers touched r (r.deactivateEntityIndex index) := by
  obtain ⟨htables, hsettings⟩ := h.deactivateEntityIndex index
  cases hslot : r.server.core.entityIndexToReplicatedIndex index with
  | none =>
    have hserver : r.server.deactivateEntityIndex index = r.server := by
      simp only [ReplicationServer.deactivateEntityIndex, hslot]
    have hnone : destroyedByIndex r.server.core index = [] := by simp only [destroyedByIndex, hslot]
    have heq : r.deactivateEntityIndex index = r := by
      simp only [Rediscovery.deactivateEntityIndex, hserver, hnone, List.append_nil]
    rw [heq]
    exact .refl h
  | some slot =>
    obtain ⟨replicated, hr, ha, -⟩ := h.indices index slot hslot
    have hserver : r.server.deactivateEntityIndex index = r.server.deactivateReplicated slot := by
      simp only [ReplicationServer.deactivateEntityIndex, hslot]
    have hsame := deactivateReplicated_core r.server hr ha
    have hlength : (r.deactivateEntityIndex index).server.core.replicated.length = r.server.core.replicated.length := by
      show (r.server.deactivateEntityIndex index).core.replicated.length = _
      rw [hserver, hsame.length]
      simp [ReplicationServer.deactivateSlot]
    have hidle : ∃ r', (ReplicationServer.deactivateSlot r.server.core slot replicated.entity).replicated[slot]? =
        some r' ∧
        r'.active = false := by
      simp [ReplicationServer.deactivateSlot, hr]
    refine ⟨htables, hsettings, ?_, ?_, hlength.ge, destroyedByIndex r.server.core index, rfl, fun i => ?_⟩
    · show (r.server.deactivateEntityIndex index).core.frame = _
      rw [hserver, hsame.frame]
      rfl
    · show (r.server.deactivateEntityIndex index).core.options = _
      rw [hserver, hsame.options]
      rfl
    have hdestroyed : destroyedByIndex r.server.core index = [(slot, replicated.entity)] := by
      simp [destroyedByIndex, hslot, hr, ha]
    rw [hdestroyed]
    show SlotFate _ _ _ (r.server.deactivateEntityIndex index).core _
    rw [hserver]
    by_cases hi : i = slot
    · subst hi
      obtain ⟨r', hr', hidle⟩ := hidle
      exact SlotFate.of_sameSlots (.gone (by simp) r' hr' hidle) hsame
    · refine SlotFate.of_sameSlots (.kept ?_ (by simpa using hi)) hsame
      simp only [slotView, List.getElem?_map, deactivateSlot_get _ _ _ hi]

theorem Rediscovers.activate (h : SlotTables r.server.core) {archetype : SyncArchetypeId} {definition : SyncArchetype}
    (hdef : r.server.core.settings.archetypes[archetype]? = some definition) {server : ReplicationServer}
    (hnew : touched entity) (hstep : r.server.activateReplicated entity archetype definition = .ok server) :
    Rediscovers touched r
      { server, destroyedSlots := r.destroyedSlots ++ destroyedByIndex r.server.core entity.index } := by
  have hgone : Rediscovers touched r (r.deactivateEntityIndex entity.index) := .deactivateEntityIndex h _
  have htables := h.activateReplicated hdef hstep
  unfold ReplicationServer.activateReplicated at hstep
  simp only [Monadic.bind_eq_ok, Monadic.pure_eq_ok] at hstep
  obtain ⟨⟨core, slot⟩, halloc, rfl⟩ := hstep
  have htaken := (show Activated (r.server.deactivateEntityIndex entity.index).core entity slot
    (ReplicationServer.initializeSlot core slot entity definition) from
      ⟨archetype, definition, core, hgone.settings.symm ▸ hdef, halloc, rfl⟩).taken hgone.tables.toSlotsInv
  have hsame := eachClient_sameSlots (f := startReplicating slot) (fun core client => by
    unfold startReplicating
    exact clearState_sameSlots ..) (r.server.deactivateEntityIndex entity.index).clients
      (ReplicationServer.initializeSlot core slot entity definition)
  obtain ⟨replicated, hr, ha, he⟩ := htaken.taken
  have hplaced : Rediscovers touched (r.deactivateEntityIndex entity.index)
      { server := ({ (r.server.deactivateEntityIndex entity.index) with
          core := ReplicationServer.initializeSlot core slot entity definition }).overClients (startReplicating slot)
        destroyedSlots := (r.deactivateEntityIndex entity.index).destroyedSlots } := by
    refine ⟨htables, hsame.settings.trans htaken.settings, hsame.frame.trans htaken.frame,
      hsame.options.trans htaken.options,
      htaken.grown.trans hsame.length.ge, [], (List.append_nil _).symm, fun i => ?_⟩
    by_cases hi : i = slot
    · subst hi
      refine SlotFate.of_sameSlots (.taken replicated hr ha (he ▸ hnew) fun hactive => ?_) hsame
      exact absurd (htaken.idle.symm.trans hactive) Bool.false_ne_true
    · refine SlotFate.of_sameSlots (.kept ?_ List.not_mem_nil) hsame
      simp only [slotView, List.getElem?_map, htaken.other i hi]
  exact hgone.trans hplaced

theorem Rediscovers.upsert (h : SlotTables r.server.core) (hnew : registry.Replicable entity → touched entity)
    (hstep : r.upsert registry entity = .ok r') : Rediscovers touched r r' := by
  have hgone : Rediscovers touched r (r.deactivateEntityIndex entity.index) := .deactivateEntityIndex h _
  unfold Rediscovery.upsert at hstep
  split at hstep
  · exact Except.ok.inj hstep ▸ .refl h
  rename_i archetype hreplicated
  obtain ⟨server, hserver, rfl⟩ := Monadic.Except_map_eq_ok.mp hstep
  unfold ReplicationServer.upsertReplicated at hserver
  split at hserver
  · rename_i hundefined
    obtain rfl := Except.ok.inj hserver
    have heq : destroyedByUpsert r.server.core registry entity archetype = destroyedByIndex r.server.core
        entity.index := by
      simp [destroyedByUpsert, hundefined]
    rw [heq]
    exact hgone
  rename_i definition hdef
  split at hserver
  · rename_i hdead
    obtain rfl := Except.ok.inj hserver
    have heq : destroyedByUpsert r.server.core registry entity archetype = destroyedByIndex r.server.core
        entity.index := by
      simp [destroyedByUpsert, hdead]
    rw [heq]
    exact hgone
  rename_i halive
  simp only [Bool.not_eq_true, Bool.not_eq_false'] at halive
  split at hserver
  · rename_i hunknown
    have heq : destroyedByUpsert r.server.core registry entity archetype = destroyedByIndex r.server.core
        entity.index := by
      simp [destroyedByUpsert, hunknown]
    rw [heq]
    exact .activate h hdef (hnew ⟨halive, by rw [hreplicated, Option.isSome_some]⟩) hserver
  rename_i slot hslot
  -- an entity's index entry leads to its active slot
  obtain ⟨replicated, hr, ha, -⟩ := h.entities entity slot hslot
  simp only [hr, ha, Bool.not_true, Bool.false_eq_true, if_false] at hserver
  split at hserver
  · cases hserver
  obtain rfl := Except.ok.inj hserver
  have hnone : destroyedByUpsert r.server.core registry entity archetype = [] := by
    simp [destroyedByUpsert, hdef, halive, hslot]
  rw [hnone, List.append_nil]
  exact .refl h

theorem Rediscovers.upsertAll : ∀ (entities : List Entity) {r r' : Rediscovery}, SlotTables r.server.core →
    (∀ entity ∈ entities, registry.Replicable entity → touched entity) →
    r.upsertAll registry entities = .ok r' → Rediscovers touched r r'
  | [], r, r', h, _, hstep => by
    rw [Rediscovery.upsertAll, List.foldlM_nil, Monadic.pure_eq_ok] at hstep
    exact hstep ▸ .refl h
  | entity :: entities, r, r', h, hnew, hstep => by
    rw [Rediscovery.upsertAll, List.foldlM_cons, Monadic.bind_eq_ok] at hstep
    obtain ⟨r₁, hfirst, hrest⟩ := hstep
    have hone := Rediscovers.upsert h (hnew entity List.mem_cons_self) hfirst
    exact hone.trans (Rediscovers.upsertAll entities hone.tables (fun e he => hnew e (List.mem_cons_of_mem _ he)) hrest)

theorem Rediscovers.deactivateAll : ∀ (entities : List Entity) {r : Rediscovery}, SlotTables r.server.core →
    Rediscovers touched r (entities.foldl (fun r entity => r.deactivateEntityIndex entity.index) r)
  | [], _, h => .refl h
  | entity :: entities, _, h => by
    have hone : Rediscovers touched _ _ := .deactivateEntityIndex h entity.index
    exact hone.trans (Rediscovers.deactivateAll entities hone.tables)

/-! ## A rediscovery -/

/-- `rediscovered` is `rediscover_replicated_entities`, with what it destroys. -/
theorem rediscovered_server (s : ReplicationServer) (registry : Registry) (dirty : DirtyView) :
    (s.rediscovered registry dirty).map Rediscovery.server = s.rediscoverReplicatedEntities registry dirty := by
  have hupsert : ∀ (entities : List Entity) (r : Rediscovery),
      (r.upsertAll registry entities).map Rediscovery.server = r.server.upsertAll registry entities := by
    intro entities
    induction entities with
    | nil => exact fun _ => rfl
    | cons entity entities ih =>
      intro r
      rw [Rediscovery.upsertAll, ReplicationServer.upsertAll, List.foldlM_cons, List.foldlM_cons]
      unfold Rediscovery.upsert
      cases registry.replicated entity with
      | none => exact ih r
      | some archetype =>
        dsimp only
        cases hone : r.server.upsertReplicated registry entity archetype with
        | error exception => rfl
        | ok server => exact ih _
  have hremoved : ∀ (entities : List Entity) (r : Rediscovery),
      (entities.foldl (fun r entity => r.deactivateEntityIndex entity.index) r).server =
        entities.foldl (fun server entity => server.deactivateEntityIndex entity.index) r.server := by
    intro entities
    induction entities with
    | nil => exact fun _ => rfl
    | cons entity entities ih => exact fun r => ih _
  unfold rediscovered rediscoverReplicatedEntities
  dsimp only
  split
  · have hall := hupsert registry.replicatedView { server := s }
    rw [← hall]
    cases Rediscovery.upsertAll { server := s } registry registry.replicatedView with
    | error exception => rfl
    | ok r => rfl
  · have hgone := hremoved (dirty.removed .replicated) { server := s }
    generalize (dirty.removed .replicated).foldl (fun r entity => r.deactivateEntityIndex entity.index)
      ({ server := s } : Rediscovery)
      = gone at hgone
    rw [← hgone, ← hupsert]
    cases hadded : gone.upsertAll registry (dirty.added .replicated) with
    | error exception => rfl
    | ok r => exact hupsert (dirty.dirty .replicated) r

def DirtyView.newlyReplicated (dirty : DirtyView) : List Entity := dirty.added .replicated ++ dirty.dirty .replicated

theorem Rediscovers.destroyed_mono (h : Rediscovers touched r r') (hin : slot ∈ r.destroyedSlots.map Prod.fst) :
    slot ∈ r'.destroyedSlots.map Prod.fst := by
  obtain ⟨destroyed, heq, -⟩ := h.destroyed
  rw [heq, List.map_append]
  exact List.mem_append_left _ hin

theorem deactivateAll_destroyed : ∀ (entities : List Entity) {r : Rediscovery} {replicated : ReplicatedSlot},
    SlotTables r.server.core →
    r.server.core.replicated[slot]? = some replicated → replicated.active = true →
    (∃ e ∈ entities, e.index = replicated.entity.index) →
    slot ∈ (entities.foldl (fun r entity => r.deactivateEntityIndex entity.index) r).destroyedSlots.map Prod.fst
  | [], _, _, _, _, _, ⟨_, he, _⟩ => by cases he
  | first :: entities, r, replicated, h, hr, ha, hremoved => by
    have hone : Rediscovers (fun _ => False) r (r.deactivateEntityIndex first.index) := .deactivateEntityIndex h _
    have hrest : Rediscovers (fun _ => False) (r.deactivateEntityIndex first.index) _ :=
      .deactivateAll entities hone.tables
    by_cases hfirst : first.index = replicated.entity.index
    · refine hrest.destroyed_mono ?_
      have hindex := (h.indexed slot replicated hr ha).2
      rw [← hfirst] at hindex
      simp [Rediscovery.deactivateEntityIndex, destroyedByIndex, hindex, hr, ha]
    · obtain ⟨destroyed, heq, hfate⟩ := hone.destroyed
      cases hfate slot with
      | kept same _ =>
        obtain ⟨replicated', hr', he', -, ha'⟩ := get_of_view same hr
        refine deactivateAll_destroyed entities hone.tables hr' (ha'.trans ha) ?_
        obtain ⟨e, he, hindex⟩ := hremoved
        refine ⟨e, (List.mem_cons.mp he).resolve_left fun heq => hfirst (heq ▸ hindex), ?_⟩
        rw [he', hindex]
      | taken _ _ _ new _ => exact new.elim
      | gone hdestroyed _ _ _ =>
        refine hrest.destroyed_mono ?_
        rw [heq, List.map_append]
        exact List.mem_append_right _ hdestroyed

section

variable {s : ReplicationServer} {dirty : DirtyView}

/-- The steps of a rediscovery: the removed entities, then the upserted ones. -/
theorem rediscovered_steps (h : SlotTables s.core) (hinit : s.core.replicatedInitialized = true)
    (hstep : s.rediscovered registry dirty = .ok r')
    (hnew : ∀ entity ∈ dirty.newlyReplicated, registry.Replicable entity → touched entity) :
    Rediscovers touched { server := s } r' ∧ ∀ (slot : Nat) (replicated : ReplicatedSlot),
    s.core.replicated[slot]? = some replicated → replicated.active = true →
      (∃ e ∈ dirty.removed .replicated, e.index = replicated.entity.index) →
      slot ∈ r'.destroyedSlots.map Prod.fst := by
  unfold ReplicationServer.rediscovered at hstep
  simp only [hinit, Bool.not_true, Bool.false_eq_true, if_false, Monadic.bind_eq_ok] at hstep
  obtain ⟨r₁, hadded, hdirty⟩ := hstep
  have hgone : Rediscovers touched { server := s } _ := .deactivateAll (dirty.removed .replicated) h
  have hupserted : Rediscovers touched _ r₁ :=
    .upsertAll _ hgone.tables (fun e he hreplicable => hnew e (List.mem_append_left _ he) hreplicable) hadded
  have hupserted' : Rediscovers touched r₁ r' :=
    .upsertAll _ hupserted.tables (fun e he hreplicable => hnew e (List.mem_append_right _ he) hreplicable) hdirty
  refine ⟨hgone.trans (hupserted.trans hupserted'), fun slot replicated hr ha hremoved => ?_⟩
  exact hupserted'.destroyed_mono (hupserted.destroyed_mono (deactivateAll_destroyed _ h hr ha hremoved))

/-- Where each entity that stopped being replicable is reported, the active slots have replicable entities. -/
theorem rediscovered_replicable (h : SlotTables s.core) (hinit : s.core.replicatedInitialized = true)
    (hstep : s.rediscovered registry dirty = .ok r')
    (hold : ∀ (slot : Nat) (replicated : ReplicatedSlot), s.core.replicated[slot]? = some replicated →
      replicated.active = true →
      registry.Replicable replicated.entity ∨ ∃ e ∈ dirty.removed .replicated, e.index = replicated.entity.index)
    {replicated : ReplicatedSlot} (hr : r'.server.core.replicated[slot]? = some replicated)
    (ha : replicated.active = true) :
    registry.Replicable replicated.entity := by
  have hnew : ∀ entity ∈ dirty.newlyReplicated, registry.Replicable entity → registry.Replicable entity :=
    fun _ _ hreplicable => hreplicable
  obtain ⟨hsteps, hremoved⟩ := rediscovered_steps h hinit hstep hnew
  obtain ⟨destroyed, heq, hfate⟩ := hsteps.destroyed
  cases hfate slot with
  | kept same hnot =>
    obtain ⟨before, hr₀, he₀, -, ha₀⟩ := get_of_view same.symm hr
    rcases hold slot before hr₀ (ha₀.trans ha) with hreplicable | hgone
    · exact he₀ ▸ hreplicable
    · have hin := hremoved slot before hr₀ (ha₀.trans ha) hgone
      rw [heq, List.map_append] at hin
      exact absurd ((List.mem_append.mp hin).resolve_left List.not_mem_nil) hnot
  | taken new hget _ hreplicable _ =>
    rw [hr] at hget
    exact Option.some.inj hget ▸ hreplicable
  | gone _ idle hget hidle =>
    rw [hr] at hget
    rw [← Option.some.inj hget, ha] at hidle
    cases hidle

end

end

end AshiatoSync
