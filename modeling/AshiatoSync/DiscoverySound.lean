import AshiatoSync.IndexSound

/-!
# What rediscovery finds

The replicated set of a server is made of the entities of its active slots, with
their archetypes.  Rediscovering all entities makes it the set of the entities that
the registry has replicated under an archetype that is defined.
-/

namespace AshiatoSync

open ReplicationServer

def ServerCore.Replicates (core : ServerCore) (entity : Entity) (archetype : SyncArchetypeId) : Prop :=
  ∃ (slot : Nat) (r : ReplicatedSlot),
    core.replicated[slot]? = some r ∧ r.active = true ∧ r.entity = entity ∧ r.archetype = archetype

def Registry.Discoverable (registry : Registry) (settings : SyncSettings) (entity : Entity)
    (archetype : SyncArchetypeId) :
    Prop :=
  registry.alive entity = true ∧ registry.replicated entity = some archetype ∧
  archetype < settings.archetypes.length

/-- What the registry's views promise: each living entity with the component is visited, and two of them differ in their
index. -/
structure Registry.ViewSound (registry : Registry) : Prop where
  visited : ∀ entity, entity ∈ registry.replicatedView ↔ registry.alive entity = true ∧
    (registry.replicated entity).isSome
  index : ∀ a b, registry.alive a = true → registry.alive b = true → a.index = b.index → a = b

section

variable {core core' : ServerCore} {s s' : ReplicationServer} {entity : Entity} {archetype : SyncArchetypeId}

theorem SameSlots.replicates (h : SameSlots core core') :
    core'.Replicates entity archetype ↔ core.Replicates entity archetype := by
  constructor
  · rintro ⟨slot, r, hr, ha, he, hat⟩
    obtain ⟨r', hr', he', hat', ha'⟩ := h.symm.slot hr
    exact ⟨slot, r', hr', ha'.trans ha, he'.trans he, hat'.trans hat⟩
  · rintro ⟨slot, r, hr, ha, he, hat⟩
    obtain ⟨r', hr', he', hat', ha'⟩ := h.slot hr
    exact ⟨slot, r', hr', ha'.trans ha, he'.trans he, hat'.trans hat⟩

theorem SlotTables.replicates_deactivateSlot (h : SlotTables core) {slot : Nat} {r : ReplicatedSlot}
    (hr : core.replicated[slot]? = some r) (ha : r.active = true) :
    (ReplicationServer.deactivateSlot core slot r.entity).Replicates entity archetype ↔
      core.Replicates entity archetype ∧ entity.index ≠ r.entity.index := by
  constructor
  · rintro ⟨i, r', hr', ha', he, hat⟩
    by_cases hi : i = slot
    · rw [hi] at hr'
      simp only [ReplicationServer.deactivateSlot, List.getElem?_modify_eq, hr, Option.map_eq_map, Option.map_some,
        Option.some.injEq] at hr'
      rw [← hr'] at ha'
      cases ha'
    · rw [deactivateSlot_get core slot r.entity hi] at hr'
      exact ⟨⟨i, r', hr', ha', he, hat⟩, fun heq => hi (h.indexed.unique hr ha hr' ha' (he ▸ heq))⟩
  · rintro ⟨⟨i, r', hr', ha', he, hat⟩, hindex⟩
    have hi : i ≠ slot := fun heq => by
      rw [heq, hr] at hr'
      exact hindex (by rw [← he, Option.some.inj hr'])
    exact ⟨i, r', by rw [deactivateSlot_get core slot r.entity hi, hr'], ha', he, hat⟩

theorem SlotTables.replicates_deactivateReplicated (h : SlotTables s.core) {slot : Nat} {r : ReplicatedSlot}
    (hr : s.core.replicated[slot]? = some r) (ha : r.active = true) :
    (s.deactivateReplicated slot).core.Replicates entity archetype ↔
      s.core.Replicates entity archetype ∧ entity.index ≠ r.entity.index :=
  (deactivateReplicated_core s hr ha).replicates.trans (h.replicates_deactivateSlot hr ha)

theorem SlotTables.replicates_deactivateEntityIndex (h : SlotTables s.core) (index : Nat) :
    (s.deactivateEntityIndex index).core.Replicates entity archetype ↔
      s.core.Replicates entity archetype ∧ entity.index ≠ index := by
  unfold ReplicationServer.deactivateEntityIndex
  split
  · rename_i hnone
    refine ⟨fun hrep => ⟨hrep, fun heq => ?_⟩, And.left⟩
    obtain ⟨slot, r, hr, ha, he, -⟩ := hrep
    have hfound := (h.indexed slot r hr ha).2
    rw [he, heq, hnone] at hfound
    cases hfound
  · rename_i slot hslot
    obtain ⟨r, hr, ha, rfl⟩ := h.indices index slot hslot
    exact h.replicates_deactivateReplicated hr ha

theorem deactivateEntityIndex_frame (h : SlotsInv s.core) (index : Nat) :
    (s.deactivateEntityIndex index).core.frame = s.core.frame := by
  unfold ReplicationServer.deactivateEntityIndex
  split
  · rfl
  · rename_i slot hslot
    obtain ⟨r, hr, ha, -⟩ := h.indices index slot hslot
    exact deactivateReplicated_frame s slot

theorem SlotsInv.allocated (h : SlotsInv core) (definition : SyncArchetype) {slot : Nat}
    (halloc : allocateReplicatedSlot core entity archetype = .ok (core', slot)) :
    ((initializeSlot core' slot entity definition).replicated[slot]?).map ReplicatedSlot.archetype =
    some archetype := by
  unfold allocateReplicatedSlot at halloc
  split at halloc
  · rename_i slot' rest hfree
    obtain ⟨rfl, rfl⟩ := Prod.mk.inj (Except.ok.inj halloc)
    obtain ⟨r, hr, -⟩ := h.free slot' (by simp [hfree])
    have hlt := (List.getElem?_eq_some_iff.mp hr).1
    simp [initializeSlot, hlt]
  · split at halloc
    · cases halloc
    obtain ⟨rfl, rfl⟩ := Prod.mk.inj (Except.ok.inj halloc)
    simp [initializeSlot]

structure Upserted (before : ServerCore) (upserted : Entity) (archetype : SyncArchetypeId) (after : ServerCore) :
    Prop where
  tables : SlotTables after
  settings : after.settings = before.settings
  frame : after.frame = before.frame
  same : ∀ e a, e.index = upserted.index →
    (after.Replicates e a ↔ e = upserted ∧ a = archetype ∧ archetype < before.settings.archetypes.length)
  other : ∀ e a, e.index ≠ upserted.index → (after.Replicates e a ↔ before.Replicates e a)

theorem SlotTables.deactivateEntityIndex_upserted (h : SlotTables s.core)
    (hnone : s.core.settings.archetypes.length ≤ archetype) :
    Upserted s.core entity archetype (s.deactivateEntityIndex entity.index).core where
  tables := (h.deactivateEntityIndex _).1
  settings := (h.deactivateEntityIndex _).2
  frame := deactivateEntityIndex_frame h.toSlotsInv _
  same e a hindex := by
    rw [h.replicates_deactivateEntityIndex]
    exact ⟨fun hrep => absurd hindex hrep.2, fun hknown => absurd hknown.2.2 (Nat.not_lt.mpr hnone)⟩
  other e a hindex := by
    rw [h.replicates_deactivateEntityIndex]
    exact and_iff_left hindex

theorem SlotTables.activateReplicated_upserted (h : SlotTables s.core) {definition : SyncArchetype}
    (hdef : s.core.settings.archetypes[archetype]? = some definition)
    (hstep : s.activateReplicated entity archetype definition = .ok s') : Upserted s.core entity archetype s'.core := by
  have htables := h.activateReplicated hdef hstep
  obtain ⟨h₁, hsettings⟩ := h.deactivateEntityIndex entity.index
  unfold ReplicationServer.activateReplicated at hstep
  simp only [Monadic.bind_eq_ok, Monadic.pure_eq_ok] at hstep
  obtain ⟨⟨core, slot⟩, halloc, rfl⟩ := hstep
  have htaken := (show Activated (s.deactivateEntityIndex entity.index).core entity slot
    (ReplicationServer.initializeSlot core slot entity definition) from
      ⟨archetype, definition, core, hsettings ▸ hdef, halloc, rfl⟩).taken h₁.toSlotsInv
  have hsame := eachClient_sameSlots (f := startReplicating slot) (fun core client => by
    unfold startReplicating
    exact clearState_sameSlots ..) (s.deactivateEntityIndex entity.index).clients
      (ReplicationServer.initializeSlot core slot entity definition)
  obtain ⟨r, hr, ha, he⟩ := htaken.taken
  have hat := h₁.toSlotsInv.allocated definition halloc
  rw [hr, Option.map_some, Option.some.injEq] at hat
  have hlt := (List.getElem?_eq_some_iff.mp hdef).1
  -- only the entity's own slot is new
  have hrep : ∀ e a, (ReplicationServer.initializeSlot core slot entity definition).Replicates e a ↔
      (e = entity ∧ a = archetype) ∨ (s.core.Replicates e a ∧ e.index ≠ entity.index) := by
    intro e a
    rw [← h.replicates_deactivateEntityIndex]
    constructor
    · rintro ⟨i, r', hr', ha', he', hat'⟩
      by_cases hi : i = slot
      · subst hi
        rw [hr] at hr'
        obtain rfl := Option.some.inj hr'
        exact .inl ⟨he'.symm.trans he, hat'.symm.trans hat⟩
      · rw [htaken.other i hi] at hr'
        exact .inr ⟨i, r', hr', ha', he', hat'⟩
    · rintro (⟨rfl, rfl⟩ | ⟨i, r', hr', ha', he', hat'⟩)
      · exact ⟨slot, r, hr, ha, he, hat⟩
      · have hi : i ≠ slot := fun heq => by
          have hidle := htaken.idle
          rw [← heq, slotActive_of_get hr', ha'] at hidle
          cases hidle
        exact ⟨i, r', by rw [htaken.other i hi, hr'], ha', he', hat'⟩
  refine ⟨htables, (hsame.settings.trans htaken.settings).trans hsettings,
    (hsame.frame.trans htaken.frame).trans (deactivateEntityIndex_frame h.toSlotsInv _), fun e a hindex => ?_,
    fun e a hindex => ?_⟩
  · refine hsame.replicates.trans ((hrep e a).trans ⟨?_, fun ⟨he', ha', _⟩ => .inl ⟨he', ha'⟩⟩)
    rintro (⟨he', ha'⟩ | ⟨-, hne⟩)
    · exact ⟨he', ha', hlt⟩
    · exact absurd hindex hne
  · refine hsame.replicates.trans ((hrep e a).trans ⟨?_, fun hold => .inr ⟨hold, hindex⟩⟩)
    rintro (⟨he', -⟩ | ⟨hold, -⟩)
    · exact absurd (congrArg Entity.index he') hindex
    · exact hold

theorem SlotTables.upsertReplicated_upserted (h : SlotTables s.core) {registry : Registry}
    (halive : registry.alive entity = true) (hstep : s.upsertReplicated registry entity archetype = .ok s') :
    Upserted s.core entity archetype s'.core := by
  unfold ReplicationServer.upsertReplicated at hstep
  split at hstep
  · rename_i hnone
    obtain rfl := Except.ok.inj hstep
    exact h.deactivateEntityIndex_upserted (List.getElem?_eq_none_iff.mp hnone)
  rename_i definition hdef
  rw [halive, Bool.not_true, if_neg Bool.false_ne_true] at hstep
  split at hstep
  · exact h.activateReplicated_upserted hdef hstep
  rename_i slot hslot
  obtain ⟨r, hr, ha, he⟩ := h.entities entity slot hslot
  simp only [hr, ha, Bool.not_true, Bool.false_eq_true, if_false] at hstep
  split at hstep
  · cases hstep
  rename_i hat
  rw [ne_eq, Decidable.not_not] at hat
  obtain rfl := Except.ok.inj hstep
  refine ⟨h, rfl, rfl, fun e a hindex => ⟨?_, ?_⟩, fun _ _ _ => Iff.rfl⟩
  · rintro ⟨i, r', hr', ha', rfl, rfl⟩
    obtain rfl := h.indexed.unique hr ha hr' ha' (by rw [hindex, he])
    rw [hr] at hr'
    obtain rfl := Option.some.inj hr'
    exact ⟨he, hat, (List.getElem?_eq_some_iff.mp hdef).1⟩
  · rintro ⟨rfl, rfl, -⟩
    exact ⟨slot, r, hr, ha, he, hat⟩

variable (entity archetype) in
theorem SlotTables.upsertAll_replicates (h : SlotTables s.core) {registry : Registry} (hview : registry.ViewSound)
    {entities : List Entity} (hsound : ∀ e ∈ entities, e ∈ registry.replicatedView)
    (hstep : s.upsertAll registry entities = .ok s') :
    s'.core.frame = s.core.frame ∧
    (s'.core.Replicates entity archetype ↔
      (entity ∈ entities ∧ registry.Discoverable s.core.settings entity archetype) ∨
      (s.core.Replicates entity archetype ∧ ∀ e ∈ entities, e.index ≠ entity.index)) := by
  induction entities generalizing s with
  | nil =>
    rw [ReplicationServer.upsertAll, List.foldlM_nil, Monadic.pure_eq_ok] at hstep
    subst hstep
    simp
  | cons first rest ih =>
    rw [ReplicationServer.upsertAll, List.foldlM_cons, Monadic.bind_eq_ok] at hstep
    obtain ⟨s₁, hfirst, hrest⟩ := hstep
    obtain ⟨halive, hreplicated⟩ := (hview.visited first).mp (hsound first List.mem_cons_self)
    obtain ⟨firstArchetype, hfound⟩ := Option.isSome_iff_exists.mp hreplicated
    simp only [hfound] at hfirst
    have hup := h.upsertReplicated_upserted halive hfirst
    obtain ⟨hframe, hrep⟩ := ih hup.tables (fun e he => hsound e (List.mem_cons_of_mem _ he)) hrest
    refine ⟨hframe.trans hup.frame, ?_⟩
    rw [hrep, hup.settings]
    by_cases hindex : entity.index = first.index
    · rw [hup.same entity archetype hindex]
      -- a living entity of the first one's index is the first one
      have hunique : ∀ e ∈ rest, e.index = entity.index → e = first := fun e he heq =>
        hview.index e first ((hview.visited e).mp (hsound e (List.mem_cons_of_mem _ he))).1 halive (heq.trans hindex)
      constructor
      · rintro (⟨hin, hdisc⟩ | ⟨⟨rfl, rfl, hlt⟩, -⟩)
        · exact .inl ⟨List.mem_cons_of_mem _ hin, hdisc⟩
        · exact .inl ⟨List.mem_cons_self, halive, hfound, hlt⟩
      · rintro (⟨hin, hdisc⟩ | ⟨-, hnone⟩)
        · rcases List.mem_cons.mp hin with rfl | hin
          · by_cases hagain : entity ∈ rest
            · exact .inl ⟨hagain, hdisc⟩
            · refine .inr ⟨⟨rfl, ?_, ?_⟩, fun e he heq => hagain (hunique e he heq ▸ he)⟩
              · exact Option.some.inj (hdisc.2.1.symm.trans hfound)
              · rw [← Option.some.inj (hdisc.2.1.symm.trans hfound)]
                exact hdisc.2.2
          · exact .inl ⟨hin, hdisc⟩
        · exact absurd hindex.symm (hnone first List.mem_cons_self)
    · rw [hup.other entity archetype hindex]
      have hne : entity ≠ first := fun heq => hindex (congrArg Entity.index heq)
      constructor
      · rintro (⟨hin, hdisc⟩ | ⟨hold, hnone⟩)
        · exact .inl ⟨List.mem_cons_of_mem _ hin, hdisc⟩
        · exact .inr ⟨hold, List.forall_mem_cons.mpr ⟨Ne.symm hindex, hnone⟩⟩
      · rintro (⟨hin, hdisc⟩ | ⟨hold, hnone⟩)
        · exact .inl ⟨(List.mem_cons.mp hin).resolve_left hne, hdisc⟩
        · exact .inr ⟨hold, (List.forall_mem_cons.mp hnone).2⟩

theorem exists_of_slotActive {slot : Nat} (h : core.replicatedSlotActive slot = true) :
    ∃ r, core.replicated[slot]? = some r ∧ r.active = true := by
  unfold ServerCore.replicatedSlotActive at h
  split at h
  · rename_i r hr
    exact ⟨r, hr, h⟩
  · cases h

def Registry.Replicable (registry : Registry) (entity : Entity) : Prop :=
  registry.alive entity = true ∧ (registry.replicated entity).isSome = true

/-- The loop of `rediscover_all_replicated_entities` over the slots. -/
def ReplicationServer.dropGone (server : ReplicationServer) (registry : Registry) (slot : Nat) : ReplicationServer :=
  if server.core.replicatedSlotActive slot && !server.core.replicatedIsReplicable registry slot then
    server.deactivateReplicated slot
  else server

structure Dropping (before : ServerCore) (registry : Registry) (pending : List Nat) (core : ServerCore) : Prop where
  tables : SlotTables core
  settings : core.settings = before.settings
  frame : core.frame = before.frame
  old : ∀ e a, core.Replicates e a → before.Replicates e a
  kept : ∀ e a, before.Replicates e a → registry.Replicable e → core.Replicates e a
  seen : ∀ (slot : Nat) (r : ReplicatedSlot), core.replicated[slot]? = some r → r.active = true →
    slot ∈ pending ∨ registry.Replicable r.entity

theorem Dropping.step {before : ServerCore} {registry : Registry} {slot : Nat} {pending : List Nat}
    (h : Dropping before registry (slot :: pending) s.core) :
    Dropping before registry pending (s.dropGone registry slot).core := by
  have hrepl : ∀ r, s.core.replicated[slot]? = some r → r.active = true →
      (s.core.replicatedIsReplicable registry slot = true ↔ registry.Replicable r.entity) := fun r hr ha => by
    simp only [ServerCore.replicatedIsReplicable, hr, ha, Bool.true_and, Bool.and_eq_true, Registry.Replicable]
  unfold ReplicationServer.dropGone
  split
  · rename_i hgone
    simp only [Bool.and_eq_true, Bool.not_eq_true'] at hgone
    obtain ⟨hactive, hnot⟩ := hgone
    obtain ⟨r, hr, ha⟩ := exists_of_slotActive hactive
    have hnotReplicable : ¬registry.Replicable r.entity := fun hin => by
      rw [← hrepl r hr ha, hnot] at hin
      cases hin
    obtain ⟨htables, hsettings⟩ := h.tables.deactivateReplicated slot
    refine ⟨htables, hsettings.trans h.settings, (deactivateReplicated_frame s slot).trans h.frame,
      fun e a hrep => ?_,
      fun e a hrep hin => ?_, fun i r' hr' ha' => ?_⟩
    · exact h.old e a ((h.tables.replicates_deactivateReplicated hr ha).mp hrep).1
    · have hold := h.kept e a hrep hin
      refine (h.tables.replicates_deactivateReplicated hr ha).mpr ⟨hold, fun hindex => ?_⟩
      -- a slot of that index is the one that is dropped
      obtain ⟨i, r', hr', ha', rfl, -⟩ := hold
      obtain rfl := h.tables.indexed.unique hr ha hr' ha' hindex
      rw [hr] at hr'
      exact hnotReplicable (Option.some.inj hr' ▸ hin)
    · obtain ⟨r₁, hr₁, he₁, -, ha₁⟩ := (deactivateReplicated_core s hr ha).symm.slot hr'
      by_cases hi : i = slot
      · subst hi
        simp only [ReplicationServer.deactivateSlot, List.getElem?_modify_eq, hr, Option.map_eq_map, Option.map_some,
          Option.some.injEq] at hr₁
        rw [← ha₁, ← hr₁] at ha'
        cases ha'
      · rw [deactivateSlot_get s.core slot r.entity hi] at hr₁
        rcases h.seen i r₁ hr₁ (ha₁.trans ha') with hin | hin
        · exact .inl ((List.mem_cons.mp hin).resolve_left hi)
        · exact .inr (he₁ ▸ hin)
  · rename_i hkeep
    refine ⟨h.tables, h.settings, h.frame, h.old, h.kept, fun i r hr ha => ?_⟩
    rcases h.seen i r hr ha with hin | hin
    · rcases List.mem_cons.mp hin with rfl | hin
      · refine .inr ((hrepl r hr ha).mp ?_)
        simpa [slotActive_of_get hr, ha] using hkeep
      · exact .inl hin
    · exact .inr hin

/-- What the replicated set is after `rediscover_all_replicated_entities`: what the registry has, and in the first call
also what is left under an index that the registry does not have. -/
def Rediscovered (registry : Registry) (core : ServerCore) (entity : Entity) (archetype : SyncArchetypeId) : Prop :=
  registry.Discoverable core.settings entity archetype ∨
    (core.replicatedInitialized = false ∧ core.Replicates entity archetype ∧
      ∀ e ∈ registry.replicatedView, e.index ≠ entity.index)

variable (entity archetype) in
theorem SlotTables.rediscoverAll_replicates (h : SlotTables s.core) {registry : Registry} (hview : registry.ViewSound)
    (hstep : s.rediscoverAllReplicatedEntities registry = .ok s') :
    s'.core.frame = s.core.frame ∧
    (s'.core.Replicates entity archetype ↔ Rediscovered registry s.core entity archetype) := by
  have hvisited : registry.Discoverable s.core.settings entity archetype → entity ∈ registry.replicatedView :=
    fun hdisc =>
    (hview.visited entity).mpr ⟨hdisc.1, by rw [hdisc.2.1]; rfl⟩
  unfold Rediscovered
  unfold ReplicationServer.rediscoverAllReplicatedEntities at hstep
  split at hstep
  · rename_i hfirst
    rw [Bool.not_eq_true'] at hfirst
    obtain ⟨s₁, h₁, rfl⟩ := Monadic.Except_map_eq_ok.mp hstep
    obtain ⟨hframe, hrep⟩ := h.upsertAll_replicates entity archetype hview (fun _ he => he) h₁
    refine ⟨hframe, ?_⟩
    rw [show s₁.setInitialized.core.Replicates entity archetype ↔
      s₁.core.Replicates entity archetype from Iff.rfl, hrep]
    simp only [hfirst, true_and]
    exact or_congr_left (and_iff_right_of_imp hvisited)
  · rename_i hlater
    rw [Bool.not_eq_true, Bool.not_eq_false'] at hlater
    have hstart : Dropping s.core registry (List.range s.core.replicated.length) s.core :=
      ⟨h, rfl, rfl, fun _ _ hrep => hrep, fun _ _ hrep _ => hrep, fun slot r hr _ =>
        .inl (List.mem_range.mpr (List.getElem?_eq_some_iff.mp hr).1)⟩
    have hdropped := Monadic.foldl_inv (fun pending (t : ReplicationServer) => Dropping s.core registry pending t.core)
      (List.range s.core.replicated.length) s (f := fun server slot => server.dropGone registry slot)
      (fun slot pending t ht => ht.step) hstart
    obtain ⟨hframe, hrep⟩ :=
      hdropped.tables.upsertAll_replicates entity archetype hview (fun _ he => he) hstep
    refine ⟨hframe.trans hdropped.frame, ?_⟩
    rw [hrep, hdropped.settings]
    simp only [hlater, Bool.true_eq_false, false_and, or_false]
    constructor
    · rintro (⟨-, hdisc⟩ | ⟨⟨i, r, hr, ha, rfl, -⟩, hnone⟩)
      · exact hdisc
      · -- what is left of the slots has an entity that is visited
        have hin := (hdropped.seen i r hr ha).resolve_left List.not_mem_nil
        exact absurd rfl (hnone r.entity ((hview.visited r.entity).mpr hin))
    · exact fun hdisc => .inl ⟨hvisited hdisc, hdisc⟩

end

end AshiatoSync
