import AshiatoSync.IndexSound
import AshiatoSync.Registration
import AshiatoSync.ReplayWriter

/-!
# Every reported change is found

`eachDirtyReplicatedSlot` and `captureDirtyGenerations` scan the tags of the
archetypes and the keys of `component_ops`.  A component that an archetype takes
only through a registered serializer is no such key: its changes mark nothing.
-/

namespace AshiatoSync

open ServerClientReplicator ReplicationServer

/-! ## Counting generations -/

theorem iterate_nextGeneration_pos {n : Nat} (hn : 0 < n) (g : Nat) :
    0 < nextGeneration^[n] g ∧ nextGeneration^[n] g < 2 ^ 64 := by
  obtain ⟨m, rfl⟩ := Nat.exists_eq_succ_of_ne_zero hn.ne'
  rw [Function.iterate_succ_apply', nextGeneration]
  split <;> omega

theorem iterate_nextGeneration {g : Nat} (h0 : 0 < g) (h : g < 2 ^ 64) (n : Nat) :
    nextGeneration^[n] g = (g - 1 + n) % (2 ^ 64 - 1) + 1 := by
  induction n with
  | zero =>
    rw [Function.iterate_zero_apply, Nat.add_zero, Nat.mod_eq_of_lt (by omega)]
    omega
  | succ n ih =>
    rw [Function.iterate_succ_apply', ih, nextGeneration]
    split <;> omega

theorem iterate_nextGeneration_ne {n : Nat} (hn : 0 < n) (hlt : n < 2 ^ 64 - 1) (g : Nat) :
    nextGeneration^[n] g ≠ g := by
  have hpos := iterate_nextGeneration_pos hn g
  by_cases hg : 0 < g ∧ g < 2 ^ 64
  · rw [iterate_nextGeneration hg.1 hg.2]
    omega
  · omega

theorem foldl_modify_length (which generations : List Nat) :
    (which.foldl (fun generations i => generations.modify i nextGeneration) generations).length =
      generations.length := by
  induction which generalizing generations with
  | nil => rfl
  | cons i which ih => rw [List.foldl_cons, ih, List.length_modify]

theorem foldl_modify_get (which generations : List Nat) (k : Nat) :
    (which.foldl (fun generations i => generations.modify i nextGeneration) generations)[k]? =
      generations[k]?.map nextGeneration^[which.count k] := by
  induction which generalizing generations with
  | nil => simp
  | cons i which ih =>
    rw [List.foldl_cons, ih, List.getElem?_modify, List.count_cons]
    cases generations[k]? with
    | none => rfl
    | some g =>
      by_cases hi : i = k
      · simp [hi]
      · simp [hi]

/-! ## Marks on one slot -/

def ReplicatedSlot.generations (archetype : SyncArchetype) (r : ReplicatedSlot) : List Nat :=
  r.componentDirtyGenerations ++ List.replicate (syncSlotCount archetype - r.componentDirtyGenerations.length) 1

def ReplicatedSlot.bump (archetype : SyncArchetype) (which : List Nat) (r : ReplicatedSlot) : ReplicatedSlot :=
  { r with
    componentDirtyGenerations :=
      which.foldl (fun generations i => generations.modify i nextGeneration) (r.generations archetype) }

def ReplicatedSlot.Full (archetype : SyncArchetype) (r : ReplicatedSlot) : Prop :=
  syncSlotCount archetype ≤ r.componentDirtyGenerations.length

section

variable {archetype : SyncArchetype} {r : ReplicatedSlot}

theorem ReplicatedSlot.Full.generations (h : r.Full archetype) :
    r.generations archetype = r.componentDirtyGenerations := by
  unfold ReplicatedSlot.generations
  rw [Nat.sub_eq_zero_of_le h, List.replicate_zero, List.append_nil]

theorem ReplicatedSlot.full_bump (which : List Nat) : (r.bump archetype which).Full archetype := by
  unfold ReplicatedSlot.Full ReplicatedSlot.bump ReplicatedSlot.generations
  simp only [foldl_modify_length, List.length_append, List.length_replicate]
  omega

theorem ReplicatedSlot.bump_generations (which : List Nat) (k : Nat) :
    ((r.bump archetype which).generations archetype)[k]? =
      (r.generations archetype)[k]?.map nextGeneration^[which.count k] := by
  rw [(ReplicatedSlot.full_bump which).generations]
  exact foldl_modify_get which _ k

theorem ReplicatedSlot.generations_get {k : Nat} (hk : k < syncSlotCount archetype) :
    ∃ g, (r.generations archetype)[k]? = some g ∧
      (r.componentDirtyGenerations[k]? = none ∨ r.componentDirtyGenerations[k]? = some g) := by
  unfold ReplicatedSlot.generations
  by_cases hlt : k < r.componentDirtyGenerations.length
  · refine ⟨r.componentDirtyGenerations[k], ?_, .inr (List.getElem?_eq_getElem hlt)⟩
    rw [List.getElem?_append_left hlt, List.getElem?_eq_getElem hlt]
  · refine ⟨1, ?_, .inl (List.getElem?_eq_none (by omega))⟩
    rw [List.getElem?_append_right (by omega), List.getElem?_replicate, if_pos (by omega)]

end

structure SlotStep (step : ReplicatedSlot → ReplicatedSlot) : Prop where
  entity : ∀ r, (step r).entity = r.entity
  archetype : ∀ r, (step r).archetype = r.archetype
  active : ∀ r, (step r).active = r.active

theorem SlotStep.id : SlotStep id := ⟨fun _ => rfl, fun _ => rfl, fun _ => rfl⟩

theorem SlotStep.bump (archetype : SyncArchetype) (which : List Nat) : SlotStep (ReplicatedSlot.bump archetype which) :=
  ⟨fun _ => rfl, fun _ => rfl, fun _ => rfl⟩

theorem SlotStep.iterate {step : ReplicatedSlot → ReplicatedSlot} (h : SlotStep step) (n : Nat) :
    SlotStep step^[n] := by
  induction n with
  | zero => exact .id
  | succ n ih =>
    refine ⟨fun r => ?_, fun r => ?_, fun r => ?_⟩ <;> rw [Function.iterate_succ_apply]
    · rw [ih.entity, h.entity]
    · rw [ih.archetype, h.archetype]
    · rw [ih.active, h.active]

def Marks (archetype : SyncArchetype) (mark : ServerCore → Nat → ServerCore)
    (step : ReplicatedSlot → ReplicatedSlot) :
    Prop :=
  ∀ (core : ServerCore) (slot j : Nat) (r : ReplicatedSlot), core.replicated[j]? = some r → r.active = true →
    core.settings.archetypes[r.archetype]? = some archetype →
    (mark core slot).replicated[j]? = some (if slot = j then step r else r)

section

variable {archetype : SyncArchetype}

theorem bumpGenerations_marks (which : SyncArchetype → List Nat) :
    Marks archetype (fun core slot => bumpGenerations core slot which)
      (ReplicatedSlot.bump archetype (which archetype)) := by
  intro core slot j r hr ha hdef
  show (bumpGenerations core slot which).replicated[j]? = _
  unfold bumpGenerations
  by_cases hslot : slot = j
  · subst hslot
    have hstays : ¬(!r.active) = true := by simp [ha]
    simp only [hr, hdef, if_neg hstays, if_true]
    exact List.getElem?_set_self (List.getElem?_eq_some_iff.mp hr).1
  · rw [if_neg hslot]
    split
    · exact hr
    split
    · exact hr
    split
    · exact hr
    · exact (List.getElem?_set_ne hslot).trans hr

theorem markDirtyTag_marks (tag : ComponentId) :
    Marks archetype (fun core slot => markDirtyTag core slot tag)
      (if archetype.tags.any fun t => t.tag == tag then ReplicatedSlot.bump archetype [0] else id) := by
  intro core slot j r hr ha hdef
  have hbump : (bumpGenerations core slot fun _ => [0]).replicated[j]? =
      some (if slot = j then ReplicatedSlot.bump archetype [0] r else r) :=
    bumpGenerations_marks (fun _ => [0]) core slot j r hr ha hdef
  simp only [markDirtyTag]
  by_cases hslot : slot = j
  · subst hslot
    rw [if_pos rfl] at hbump
    simp only [hr, hdef, if_true]
    split
    · exact hbump
    · exact hr
  · rw [if_neg hslot] at hbump ⊢
    split
    · exact hr
    split
    · exact hr
    split
    · exact hbump
    · exact hr

end

/-! ## One key of the dirty view -/

def DirtyView.reports (dirty : DirtyView) (key : DirtyKey) (entity : Entity) : Nat :=
  (dirty.dirty key).count entity + (dirty.removed key).countP fun removed => removed.index == entity.index

section

variable {core : ServerCore} {archetype : SyncArchetype} {mark : ServerCore → Nat → ServerCore}
  {step : ReplicatedSlot → ReplicatedSlot} {dirty : DirtyView} {j : Nat} {r : ReplicatedSlot}

/-- Only its entity leads to an active slot, and only its entity's index. -/
theorem SlotsIndexed.found_iff (hi : SlotsIndexed core) (hs : SlotsInv core) (hr : core.replicated[j]? = some r)
    (ha : r.active = true) :
    (∀ entity, core.entityToReplicatedIndex entity = some j ↔ entity = r.entity) ∧
    ∀ index, core.entityIndexToReplicatedIndex index = some j ↔ index = r.entity.index := by
  obtain ⟨hentity, hindex⟩ := hi j r hr ha
  refine ⟨fun entity => ⟨fun h => ?_, fun h => h ▸ hentity⟩,
    fun index => ⟨fun h => ?_, fun h => h ▸ hindex⟩⟩
  · obtain ⟨r', hr', -, rfl⟩ := hs.entities entity j h
    rw [hr] at hr'
    rw [Option.some.inj hr']
  · obtain ⟨r', hr', -, rfl⟩ := hs.indices index j h
    rw [hr] at hr'
    rw [Option.some.inj hr']

/-- One loop of `captureKey`: the slot takes a step for each report that leads to it. -/
theorem foldl_marks (hmark : Marks archetype mark step) (hstep : SlotStep step)
    (hsame : ∀ core slot, SameSlots core (mark core slot)) (find : ServerCore → Entity → Option Nat)
    (hfind : ∀ {core core' : ServerCore}, SameSlots core core' → find core' = find core) (p : Entity → Bool)
    (entities : List Entity) : ∀ (core : ServerCore) (r : ReplicatedSlot), core.replicated[j]? = some r →
      r.active = true → core.settings.archetypes[r.archetype]? = some archetype →
      (∀ entity, find core entity = some j ↔ p entity = true) →
      (entities.foldl (fun core entity =>
        match find core entity with
        | some slot => mark core slot
        | none => core) core).replicated[j]? = some (step^[entities.countP p] r) := by
  induction entities with
  | nil => exact fun core r hr _ _ _ => hr
  | cons entity entities ih =>
    intro core r hr ha hdef hp
    rw [List.foldl_cons]
    cases hf : find core entity with
    | none =>
      have hno : p entity = false := by
        rw [← Bool.not_eq_true, ← hp entity, hf]
        exact Option.some_ne_none _ ∘ Eq.symm
      simp only [List.countP_cons, hno, Bool.false_eq_true, if_false, Nat.add_zero]
      exact ih core r hr ha hdef hp
    | some slot =>
      have hget := hmark core slot j r hr ha hdef
      have hkept := hsame core slot
      simp only
      by_cases hslot : slot = j
      · have hyes : p entity = true := (hp entity).mp (hslot ▸ hf)
        rw [if_pos hslot] at hget
        simp only [List.countP_cons, hyes, if_true, Function.iterate_succ_apply]
        refine ih _ (step r) hget ((hstep.active r).trans ha) ?_ ?_
        · rw [hkept.settings, hstep.archetype]
          exact hdef
        · rw [hfind hkept]
          exact hp
      · have hno : p entity = false := by
          rw [← Bool.not_eq_true, ← hp entity, hf]
          exact fun h => hslot (Option.some.inj h)
        rw [if_neg hslot] at hget
        simp only [List.countP_cons, hno, Bool.false_eq_true, if_false, Nat.add_zero]
        refine ih _ r hget ha ?_ ?_
        · rw [hkept.settings]
          exact hdef
        · rw [hfind hkept]
          exact hp

/-- A key takes an active slot as many steps as it reports the slot's entity. -/
theorem captureKey_get (hmark : Marks archetype mark step) (hstep : SlotStep step)
    (hsame : ∀ core slot, SameSlots core (mark core slot)) (hs : SlotsInv core) (hi : SlotsIndexed core)
    (hr : core.replicated[j]? = some r) (ha : r.active = true)
    (hdef : core.settings.archetypes[r.archetype]? = some archetype) (key : DirtyKey) :
    (captureKey dirty key mark core).replicated[j]? = some (step^[dirty.reports key r.entity] r) := by
  obtain ⟨hentity, hindex⟩ := hi.found_iff hs hr ha
  have hdirty := foldl_marks hmark hstep hsame (fun core entity => core.entityToReplicatedIndex entity)
    (fun h => funext fun _ => congrFun h.entities _) (fun entity => entity == r.entity)
    (dirty.dirty key) core r hr ha hdef (fun entity => (hentity entity).trans beq_iff_eq.symm)
  have hfold : SameSlots core ((dirty.dirty key).foldl (fun core entity =>
      match core.entityToReplicatedIndex entity with
      | some slot => mark core slot
      | none => core) core) :=
    foldl_marks_sameSlots hsame (fun core entity => core.entityToReplicatedIndex entity) (dirty.dirty key) core
  have hsteps := hstep.iterate ((dirty.dirty key).countP fun entity => entity == r.entity)
  have hremoved := foldl_marks hmark hstep hsame (fun core entity => core.entityIndexToReplicatedIndex entity.index)
    (fun h => funext fun _ => congrFun h.indices _) (fun entity => entity.index == r.entity.index)
    (dirty.removed key) _ _ hdirty ((hsteps.active r).trans ha)
    (by rw [hfold.settings, hsteps.archetype]; exact hdef)
    (fun entity => by rw [hfold.indices]; exact (hindex entity.index).trans beq_iff_eq.symm)
  refine hremoved.trans ?_
  rw [← Function.iterate_add_apply, Nat.add_comm]
  rfl

end

/-! ## All keys -/

def componentIndices (archetype : SyncArchetype) (component : ComponentId) : List Nat :=
  ((archetype.components.findIdx? fun c => c.component == component).map (· + 1)).toList

def ownerIndices (archetype : SyncArchetype) : List Nat :=
  (if archetype.tags.any fun t => t.audience != .all then [0] else []) ++
    (archetype.components.zipIdx.filter fun c => c.1.audience != .all).map fun c => c.2 + 1

structure Bumps (archetype : SyncArchetype) (k n : Nat) (r r' : ReplicatedSlot) : Prop where
  entity : r'.entity = r.entity
  definition : r'.archetype = r.archetype
  active : r'.active = r.active
  generation : (r'.generations archetype)[k]? = (r.generations archetype)[k]?.map nextGeneration^[n]
  full : r.Full archetype ∨ 0 < n → r'.Full archetype
  grows : r.componentDirtyGenerations.length ≤ r'.componentDirtyGenerations.length

section

variable {archetype : SyncArchetype} {k n m : Nat} {a b c : ReplicatedSlot}

theorem Bumps.refl (r : ReplicatedSlot) : Bumps archetype k 0 r r where
  entity := rfl
  definition := rfl
  active := rfl
  generation := by simp
  full h := h.resolve_right (Nat.lt_irrefl 0)
  grows := Nat.le_refl _

theorem Bumps.trans (h : Bumps archetype k n a b) (h' : Bumps archetype k m b c) :
    Bumps archetype k (n + m) a c where
  entity := h'.entity.trans h.entity
  definition := h'.definition.trans h.definition
  active := h'.active.trans h.active
  generation := by
    rw [h'.generation, h.generation, Option.map_map, Nat.add_comm, Function.iterate_add]
  full hfull := by
    apply h'.full
    by_cases hm : 0 < m
    · exact .inr hm
    · exact .inl (h.full (hfull.imp_right fun hpos => by omega))
  grows := h.grows.trans h'.grows

theorem bump_bumps (which : List Nat) (r : ReplicatedSlot) :
    Bumps archetype k (which.count k) r (r.bump archetype which) where
  entity := rfl
  definition := rfl
  active := rfl
  generation := ReplicatedSlot.bump_generations which k
  full _ := ReplicatedSlot.full_bump which
  grows := by
    unfold ReplicatedSlot.bump ReplicatedSlot.generations
    simp only [foldl_modify_length, List.length_append]
    exact Nat.le_add_right _ _

theorem Bumps.iterate {step : ReplicatedSlot → ReplicatedSlot} (h : ∀ r, Bumps archetype k n r (step r)) (t : Nat)
    (r : ReplicatedSlot) : Bumps archetype k (t * n) r (step^[t] r) := by
  induction t with
  | zero =>
    rw [Nat.zero_mul]
    exact .refl r
  | succ t ih =>
    rw [Function.iterate_succ_apply', Nat.succ_mul]
    exact ih.trans (h _)

theorem count_componentIndices {i : Nat} {component : ComponentReplication}
    (hc : archetype.components[i]? = some component) (id : ComponentId) :
    (componentIndices archetype id).count (i + 1) = if component.component = id then 1 else 0 := by
  obtain ⟨hlt, hget⟩ := List.getElem?_eq_some_iff.mp hc
  unfold componentIndices
  cases hf : archetype.components.findIdx? fun c => c.component == id with
  | none =>
    have hne := List.findIdx?_eq_none_iff.mp hf component (List.mem_of_getElem? hc)
    have : component.component ≠ id := by simpa using hne
    simp [this]
  | some j =>
    obtain ⟨hj, hid, -⟩ := List.findIdx?_eq_some_iff_getElem.mp hf
    have hid : archetype.components[j].component = id := by simpa using hid
    simp only [Option.map_some, Option.toList_some, List.count_singleton, beq_iff_eq, Nat.add_right_cancel_iff]
    by_cases hij : j = i
    · subst hij
      rw [hget] at hid
      simp [hid]
    · have hne : component.component ≠ id := by
        rintro rfl
        apply hij
        apply (List.getElem?_inj (by simpa using hj) archetype.distinct).mp
        simp [List.getElem?_eq_getElem hj, hc, hid]
      rw [if_neg hij, if_neg hne]

theorem count_ownerIndices {i : Nat} {component : ComponentReplication}
    (hc : archetype.components[i]? = some component) :
    (ownerIndices archetype).count (i + 1) = if component.audience != .all then 1 else 0 := by
  unfold ownerIndices
  have htags : ∀ b : Bool, (if b then [0] else []).count (i + 1) = 0 := by
    intro b
    cases b <;> simp
  have hnodup : ((archetype.components.zipIdx.filter fun c => c.1.audience != .all).map fun c => c.2 + 1).Nodup := by
    have hidx : (archetype.components.zipIdx.map fun c => c.2 + 1).Nodup := by
      have hsplit : (archetype.components.zipIdx.map fun c => c.2 + 1) =
          (archetype.components.zipIdx.map Prod.snd).map (· + 1) := (List.map_map ..).symm
      rw [hsplit, List.zipIdx_map_snd]
      exact List.Nodup.map (fun _ _ h => Nat.succ.inj h) List.nodup_range'
    exact hidx.sublist (List.filter_sublist.map _)
  rw [List.count_append, htags, Nat.zero_add]
  split
  · rename_i haud
    refine List.count_eq_one_of_mem hnodup
      (List.mem_map.mpr ⟨(component, i), List.mem_filter.mpr ⟨?_, haud⟩, rfl⟩)
    exact List.mem_zipIdx_iff_getElem?.mpr hc
  · rename_i haud
    apply List.count_eq_zero.mpr
    intro hmem
    obtain ⟨⟨c, j⟩, hm, hj⟩ := List.mem_map.mp hmem
    obtain ⟨hm, hvis⟩ := List.mem_filter.mp hm
    have hget := List.mem_zipIdx_iff_getElem?.mp hm
    simp only at hget hvis
    obtain rfl : j = i := Nat.succ.inj hj
    rw [hc] at hget
    rw [Option.some.inj hget] at haud
    exact haud hvis

end

section

variable {core : ServerCore} {archetype : SyncArchetype} {dirty : DirtyView} {j k : Nat} {r : ReplicatedSlot}

structure SlotFound (core : ServerCore) (archetype : SyncArchetype) (j : Nat) (r : ReplicatedSlot) : Prop where
  slots : SlotsInv core
  indexed : SlotsIndexed core
  get : core.replicated[j]? = some r
  active : r.active = true
  archetype : core.settings.archetypes[r.archetype]? = some archetype

theorem SlotFound.captureKey (h : SlotFound core archetype j r) {mark : ServerCore → Nat → ServerCore}
    {step : ReplicatedSlot → ReplicatedSlot} (hmark : Marks archetype mark step) (hstep : SlotStep step)
    (hsame : ∀ core slot, SameSlots core (mark core slot)) (dirty : DirtyView) (key : DirtyKey) :
    SlotFound (ReplicationServer.captureKey dirty key mark core) archetype j (step^[dirty.reports key r.entity] r) where
  slots := h.slots.of_sameSlots (captureKey_sameSlots hsame core)
  indexed := h.indexed.of_sameSlots (captureKey_sameSlots hsame core)
  get := captureKey_get hmark hstep hsame h.slots h.indexed h.get h.active h.archetype key
  active := ((hstep.iterate _).active r).trans h.active
  archetype := by
    rw [(captureKey_sameSlots hsame core).settings, (hstep.iterate _).archetype]
    exact h.archetype

/-- A loop over keys, each of which bumps generation `k` some number of times for each report. -/
theorem SlotFound.captureKeys (marks : ComponentId → ServerCore → Nat → ServerCore)
    {steps : ComponentId → ReplicatedSlot → ReplicatedSlot} {times : ComponentId → Nat}
    (hmarks : ∀ key, Marks archetype (marks key) (steps key)) (hsteps : ∀ key, SlotStep (steps key))
    (hsame : ∀ key core slot, SameSlots core (marks key core slot))
    (hbumps : ∀ key r, Bumps archetype k (times key) r (steps key r)) (dirty : DirtyView) (keys : List ComponentId) :
    ∀ (core : ServerCore) (r : ReplicatedSlot), SlotFound core archetype j r →
      ∃ r', SlotFound
        (keys.foldl (fun core key => ReplicationServer.captureKey dirty (.component key) (marks key) core)
          core) archetype j r' ∧
        Bumps archetype k ((keys.map fun key => dirty.reports (.component key) r.entity * times key).sum) r r' := by
  induction keys with
  | nil => exact fun core r h => ⟨r, h, .refl r⟩
  | cons key keys ih =>
    intro core r h
    obtain ⟨r', h', hrest⟩ := ih _ _ (h.captureKey (hmarks key) (hsteps key) (hsame key) dirty (.component key))
    have hone := Bumps.iterate (hbumps key) (dirty.reports (.component key) r.entity) r
    rw [hone.entity] at hrest
    exact ⟨r', h', hone.trans hrest⟩

theorem SlotFound.captureTags (h : SlotFound core archetype j r) (dirty : DirtyView) (keys : List ComponentId)
    (i : Nat) :
    ∃ r', SlotFound (keys.foldl (fun core tag => ReplicationServer.captureKey dirty (.component tag)
        (fun core slot => markDirtyTag core slot tag) core) core) archetype j r' ∧
      Bumps archetype (i + 1) 0 r r' := by
  have hsteps : ∀ tag, SlotStep
      (if archetype.tags.any fun t => t.tag == tag then ReplicatedSlot.bump archetype [0] else id) := by
    intro tag
    split
    · exact .bump archetype [0]
    · exact .id
  have hbumps : ∀ tag r, Bumps archetype (i + 1) 0 r
      ((if archetype.tags.any fun t => t.tag == tag then ReplicatedSlot.bump archetype [0] else id) r) := by
    intro tag r
    split
    · exact bump_bumps [0] r
    · exact .refl r
  obtain ⟨r', h', hr'⟩ := SlotFound.captureKeys (fun tag core slot => markDirtyTag core slot tag) markDirtyTag_marks
    hsteps (fun tag core slot => markDirtyTag_sameSlots core slot tag) hbumps dirty keys core r h
  have hzero : (keys.map fun key => dirty.reports (.component key) r.entity * 0).sum = 0 := by simp
  exact ⟨r', h', hzero ▸ hr'⟩

theorem sum_reports_key (keys : List ComponentId) (id : ComponentId) (reports : ComponentId → Nat) :
    (keys.map fun key => reports key * if id = key then 1 else 0).sum = keys.count id * reports id := by
  induction keys with
  | nil => simp
  | cons key keys ih =>
    rw [List.map_cons, List.sum_cons, ih, List.count_cons]
    by_cases h : id = key
    · subst h
      simp [Nat.add_mul, Nat.add_comm]
    · have h' : key ≠ id := fun heq => h heq.symm
      simp [h, h']

def generationBumps (settings : SyncSettings) (dirty : DirtyView) (entity : Entity) (component : ComponentReplication) :
    Nat :=
  settings.componentOps.count component.component * dirty.reports (.component component.component) entity +
    dirty.reports .networkOwner entity * if component.audience != .all then 1 else 0

theorem SlotFound.captureComponents (h : SlotFound core archetype j r) (dirty : DirtyView) (keys : List ComponentId)
    {i : Nat} {component : ComponentReplication} (hc : archetype.components[i]? = some component) :
    ∃ r', SlotFound (keys.foldl (fun core id => ReplicationServer.captureKey dirty (.component id)
        (fun core slot => markDirtyComponent core slot id) core) core) archetype j r' ∧
      Bumps archetype (i + 1) (keys.count component.component *
        dirty.reports (.component component.component) r.entity) r r' := by
  obtain ⟨r', h', hr'⟩ := SlotFound.captureKeys (fun id core slot => markDirtyComponent core slot id)
    (fun id => bumpGenerations_marks fun archetype => componentIndices archetype id)
    (fun id => .bump archetype (componentIndices archetype id)) (fun _ _ _ => bumpGenerations_sameSlots ..)
    (fun id r => count_componentIndices hc id ▸ bump_bumps (componentIndices archetype id) r) dirty keys core r h
  rw [sum_reports_key keys component.component fun id => dirty.reports (.component id) r.entity] at hr'
  exact ⟨r', h', hr'⟩

/-- An owner's change bumps the components that not everyone sees. -/
theorem SlotFound.captureOwner (h : SlotFound core archetype j r) (dirty : DirtyView) {i : Nat}
    {component : ComponentReplication} (hc : archetype.components[i]? = some component) :
    ∃ r', SlotFound (ReplicationServer.captureKey dirty .networkOwner markOwnerVisibilityDirty core)
      archetype j r' ∧
      Bumps archetype (i + 1) (dirty.reports .networkOwner r.entity * if component.audience != .all then 1 else 0)
        r r' := by
  have hone : ∀ r : ReplicatedSlot, Bumps archetype (i + 1) (if component.audience != .all then 1 else 0) r
      (r.bump archetype (ownerIndices archetype)) := by
    intro r
    rw [← count_ownerIndices hc]
    exact bump_bumps (ownerIndices archetype) r
  exact ⟨_, h.captureKey (bumpGenerations_marks ownerIndices) (.bump archetype (ownerIndices archetype))
    (fun _ _ => bumpGenerations_sameSlots ..) dirty .networkOwner, Bumps.iterate hone _ r⟩

/-- `captureDirtyGenerations` on one component of an active slot. -/
theorem captureDirtyGenerations_get (h : SlotFound core archetype j r) (dirty : DirtyView) {i : Nat}
    {component : ComponentReplication} (hc : archetype.components[i]? = some component) :
    ∃ r', SlotFound (captureDirtyGenerations core dirty) archetype j r' ∧
      Bumps archetype (i + 1) (generationBumps core.settings dirty r.entity component) r r' := by
  have hsettings : ∀ (keys : List ComponentId) core, (keys.foldl (fun core tag => ReplicationServer.captureKey dirty
      (.component tag) (fun core slot => markDirtyTag core slot tag) core) core).settings = core.settings := by
    intro keys
    induction keys with
    | nil => exact fun _ => rfl
    | cons key keys ih =>
      intro core
      rw [List.foldl_cons, ih]
      exact (captureKey_sameSlots (fun core slot => markDirtyTag_sameSlots core slot key) core).settings
  obtain ⟨r₁, h₁, b₁⟩ := h.captureTags dirty (core.settings.archetypes.flatMap fun a => a.tags.map (·.tag)) i
  obtain ⟨r₂, h₂, b₂⟩ := h₁.captureComponents dirty core.settings.componentOps hc
  obtain ⟨r₃, h₃, b₃⟩ := h₂.captureOwner dirty hc
  rw [b₁.entity] at b₂
  rw [b₂.entity, b₁.entity] at b₃
  refine ⟨r₃, ?_, ?_⟩
  · unfold captureDirtyGenerations
    simp only [hsettings]
    exact h₃
  · have hall := (b₁.trans b₂).trans b₃
    rw [Nat.zero_add] at hall
    exact hall

end

/-! ## Dirty slots -/

/-- The dirty view reports a change of this key on the entity; a removal is known by the entity's index. -/
def DirtyView.Reports (dirty : DirtyView) (key : DirtyKey) (entity : Entity) : Prop :=
  entity ∈ dirty.dirty key ∨ entity ∈ dirty.added key ∨ ∃ removed ∈ dirty.removed key,
  removed.index = entity.index

def SyncArchetype.Replicates (archetype : SyncArchetype) (key : DirtyKey) : Prop :=
  key = .networkOwner ∨ (∃ t ∈ archetype.tags, key = .component t.tag) ∨
    ∃ c ∈ archetype.components, key = .component c.component

section

variable {core : ServerCore} {archetype : SyncArchetype} {dirty : DirtyView} {key : DirtyKey} {j : Nat}
  {r : ReplicatedSlot}

theorem SlotFound.mem_keySlots (h : SlotFound core archetype j r) (hreport : dirty.Reports key r.entity) :
    j ∈ keySlots core dirty key := by
  obtain ⟨hentity, hindex⟩ := h.indexed j r h.get h.active
  unfold keySlots
  rw [List.mem_append, List.mem_append]
  rcases hreport with hd | ha | ⟨removed, hr, hi⟩
  · exact .inl (.inl (List.mem_filterMap.mpr ⟨r.entity, hd, hentity⟩))
  · exact .inl (.inr (List.mem_filterMap.mpr ⟨r.entity, ha, hentity⟩))
  · exact .inr (List.mem_filterMap.mpr ⟨removed, hr, hi ▸ hindex⟩)

theorem SlotFound.mem_dirtyReplicatedSlots (h : SlotFound core archetype j r) (hkey : archetype.Replicates key)
    (hops : ∀ c ∈ archetype.components, c.component ∈ core.settings.componentOps)
    (hreport : dirty.Reports key r.entity) : j ∈ dirtyReplicatedSlots core dirty := by
  have hslots := h.mem_keySlots hreport
  unfold dirtyReplicatedSlots
  simp only [List.mem_append, List.mem_flatMap]
  rcases hkey with rfl | ⟨t, ht, rfl⟩ | ⟨c, hc, rfl⟩
  · exact .inr hslots
  · exact .inl (.inl (.inr ⟨archetype, List.mem_of_getElem? h.archetype, t, ht, hslots⟩))
  · exact .inl (.inr ⟨c.component, hops c hc, hslots⟩)

end

theorem markDirty_calls (core : ServerCore) (client : ServerClientReplicator) {slot : Nat} (frame : SyncFrame)
    (hlt : slot < core.replicated.length) :
    (client.markDirty core slot frame).trace.calls = .markDirty slot frame :: client.trace.calls := by
  unfold ServerClientReplicator.markDirty
  rw [if_neg (Nat.not_le.mpr hlt)]
  rfl

theorem foldl_markDirty_calls (core : ServerCore) (frame : SyncFrame) (slots : List Nat) :
    ∀ client : ServerClientReplicator, (∀ slot ∈ slots, slot < core.replicated.length) →
      (slots.foldl (fun client slot => client.markDirty core slot frame) client).trace.calls =
        (slots.map fun slot => Call.markDirty slot frame).reverse ++ client.trace.calls := by
  induction slots with
  | nil => exact fun _ _ => rfl
  | cons slot slots ih =>
    intro client hlt
    rw [List.foldl_cons, ih _ fun slot hs => hlt slot (List.mem_cons_of_mem _ hs),
      markDirty_calls core client frame (hlt slot List.mem_cons_self)]
    simp

theorem eachClient_map {f : ServerCore → ServerClientReplicator → ServerClientReplicator} :
    ∀ (clients : List ServerClientReplicator) (core : ServerCore),
      (eachClient (fun core client => (core, f core client)) core clients).2 = clients.map (f core)
  | [], _ => rfl
  | client :: rest, core => congrArg (f core client :: ·) (eachClient_map rest core)

theorem broadcast_marks {s : ReplicationServer} {dirty : DirtyView} {slot : Nat} (hs : SlotsInv s.core)
    (hmem : slot ∈ dirtyReplicatedSlots s.core dirty) {c : Nat} {client : ServerClientReplicator}
    (hc : s.clients[c]? = some client) :
    ∃ client' calls, (s.broadcastRegistryDirtyFrame dirty).clients[c]? = some client' ∧
      client'.trace.calls = calls ++ client.trace.calls ∧ Call.markDirty slot s.core.frame ∈ calls := by
  have hlt : ∀ slot ∈ dirtyReplicatedSlots s.core dirty, slot < s.core.replicated.length := by
    intro slot hslot
    have hactive := dirtyReplicatedSlots_active hs hslot
    unfold ServerCore.replicatedSlotActive at hactive
    by_contra hge
    rw [List.getElem?_eq_none (Nat.not_lt.mp hge)] at hactive
    cases hactive
  have hall : (s.broadcastRegistryDirtyFrame dirty).clients = s.clients.map fun client =>
      (dirtyReplicatedSlots s.core dirty).foldl (fun client slot => client.markDirty s.core slot s.core.frame) client :=
    eachClient_map s.clients s.core
  rw [hall, List.getElem?_map, hc]
  refine ⟨_, _, rfl, foldl_markDirty_calls s.core s.core.frame _ client hlt, ?_⟩
  rw [List.mem_reverse]
  exact List.mem_map_of_mem hmem

/-! ## Completeness -/

/-- The server where a dirty frame is looked through: after a run, with its frame set and the replicated entities
brought up to date. -/
def ReplicationServer.InDirtyFrame (options : ReplicationServerOptions) (settings : SyncSettings) (dirty : DirtyView)
    (s : ReplicationServer) : Prop :=
  ∃ before frame registry, Reachable options settings before ∧
    ({ before with core := { before.core with frame } } : ReplicationServer).rediscoverReplicatedEntities
      registry dirty =
      .ok s

def DirtyView.Countable (dirty : DirtyView) : Prop := ∀ key entity, dirty.reports key entity < 2 ^ 62

/-- Everything `each_dirty_replicated_slot` is called for does its part for the slot. -/
structure SlotMarked (s : ReplicationServer) (dirty : DirtyView) (slot : Nat) : Prop where
  found : slot ∈ dirtyReplicatedSlots s.core dirty
  clients : ∀ (c : Nat) (client : ServerClientReplicator), s.clients[c]? = some client →
    ∃ client' calls, (s.broadcastRegistryDirtyFrame dirty).clients[c]? = some client' ∧
      client'.trace.calls = calls ++ client.trace.calls ∧ Call.markDirty slot s.core.frame ∈ calls
  replay : ∀ slots : ReplayWriterSlots, (slots.collectDirtySlots s.core dirty).pendingDirtySlots[slot]? = some true

/-- Under these settings every reported change of a replicated key marks the slot, and every written or removed
component gets a new generation. -/
def ChangesDetected (settings : SyncSettings) : Prop :=
  ∀ (options : ReplicationServerOptions) (dirty : DirtyView) (s : ReplicationServer),
    s.InDirtyFrame options settings dirty → dirty.Countable →
    ∀ (slot : Nat) (r : ReplicatedSlot) (archetype : SyncArchetype), s.core.replicated[slot]? = some r →
      r.active = true → settings.archetypes[r.archetype]? = some archetype →
      (∀ key, archetype.Replicates key → dirty.Reports key r.entity →
        SlotMarked { s with core := captureDirtyGenerations s.core dirty } dirty slot) ∧
      ∀ (i : Nat) (component : ComponentReplication), archetype.components[i]? = some component →
        0 < dirty.reports (.component component.component) r.entity →
        ∃ r', (captureDirtyGenerations s.core dirty).replicated[slot]? = some r' ∧
          r'.componentDirtyGenerations[i + 1]? ≠ r.componentDirtyGenerations[i + 1]?

section

variable {options : ReplicationServerOptions} {settings : SyncSettings} {dirty : DirtyView} {s : ReplicationServer}
  {slot : Nat} {r : ReplicatedSlot} {archetype : SyncArchetype}

theorem ReplicationServer.InDirtyFrame.found (h : s.InDirtyFrame options settings dirty)
    (hr : s.core.replicated[slot]? = some r) (ha : r.active = true)
    (hdef : settings.archetypes[r.archetype]? = some archetype) :
    SlotFound s.core archetype slot r ∧ s.core.settings = settings := by
  obtain ⟨before, frame, registry, hbefore, hstep⟩ := h
  have hs := (moves_start_inv (reachable_moves hbefore)).1
  have m₀ : Move False before { before with core := { before.core with frame } } := .setFrame False.elim
  have hs₀ := hs.move m₀
  have m₁ : Moves False _ s := rediscover_moves hs₀ hstep
  have hi : SlotTables before.core := slotTables_reachable hbefore
  have hi₀ : SlotTables ({ before with core := { before.core with frame } } : ReplicationServer).core :=
    hi.setFrame frame
  have hsettings : s.core.settings = settings := by
    rw [m₁.settings hs₀]
    exact (reachable_moves hbefore).settings (ServerInv.start options settings)
  exact ⟨⟨(hs₀.moves m₁).base.slots, (hi₀.rediscover hstep).indexed, hr, ha, hsettings.symm ▸ hdef⟩,
    hsettings⟩

theorem generationBumps_le (hnodup : settings.componentOps.Nodup) (hcount : dirty.Countable) (entity : Entity)
    (component : ComponentReplication) : generationBumps settings dirty entity component < 2 ^ 64 - 1 := by
  have hcomponent := hcount (.component component.component) entity
  have howner := hcount .networkOwner entity
  have hone : settings.componentOps.count component.component ≤ 1 := List.nodup_iff_count_le_one.mp hnodup _
  unfold generationBumps
  have h₁ :
      settings.componentOps.count component.component * dirty.reports (.component component.component) entity ≤
      1 * dirty.reports (.component component.component) entity := Nat.mul_le_mul_right _ hone
  have h₂ : (dirty.reports .networkOwner entity * if component.audience != .all then 1 else 0) ≤
      dirty.reports .networkOwner entity * 1 := by
    apply Nat.mul_le_mul_left
    split <;> omega
  omega

theorem Bumps.get {r' : ReplicatedSlot} {k n g : Nat} (h : Bumps archetype k n r r')
    (hg : r.componentDirtyGenerations[k]? = some g) :
    r'.componentDirtyGenerations[k]? = some (nextGeneration^[n] g) := by
  have hlt := (List.getElem?_eq_some_iff.mp hg).1
  have hgen := h.generation
  unfold ReplicatedSlot.generations at hgen
  rw [List.getElem?_append_left hlt, List.getElem?_append_left (Nat.lt_of_lt_of_le hlt h.grows), hg] at hgen
  exact hgen

theorem Bumps.changes {r' : ReplicatedSlot} {k n : Nat} (h : Bumps archetype k n r r')
    (hk : k < syncSlotCount archetype) (hn : 0 < n) (hlt : n < 2 ^ 64 - 1) :
    r'.componentDirtyGenerations[k]? ≠ r.componentDirtyGenerations[k]? := by
  obtain ⟨g, hg, hold⟩ := ReplicatedSlot.generations_get (r := r) hk
  have hnew := h.generation
  rw [(h.full (.inr hn)).generations, hg, Option.map_some] at hnew
  rw [hnew]
  rcases hold with hold | hold <;> rw [hold]
  · exact Option.some_ne_none _
  · exact fun heq => iterate_nextGeneration_ne hn hlt g (Option.some.inj heq)

end

/-- Where every component of every archetype has default operations, no change is missed. -/
theorem changesDetected_of_ops {settings : SyncSettings} (hnodup : settings.componentOps.Nodup)
    (hops : ∀ archetype ∈ settings.archetypes, ∀ c ∈ archetype.components,
    c.component ∈ settings.componentOps) :
    ChangesDetected settings := by
  intro options dirty s h hcount slot r archetype hr ha hdef
  obtain ⟨hfound, hsettings⟩ := h.found hr ha hdef
  have hscanned := hops archetype (List.mem_of_getElem? hdef)
  refine ⟨fun key hkey hreport => ?_, fun i component hc hreport => ?_⟩
  · have hsame := captureDirtyGenerations_sameSlots s.core dirty
    have hslots : SlotsInv (captureDirtyGenerations s.core dirty) := hfound.slots.of_sameSlots hsame
    have hmem : slot ∈ dirtyReplicatedSlots (captureDirtyGenerations s.core dirty) dirty := by
      have hbefore := hfound.mem_dirtyReplicatedSlots hkey (hsettings.symm ▸ hscanned) hreport
      unfold dirtyReplicatedSlots keySlots at hbefore ⊢
      rwa [hsame.settings, hsame.entities, hsame.indices]
    have hlt : slot < (captureDirtyGenerations s.core dirty).replicated.length := by
      rw [hsame.length]
      exact (List.getElem?_eq_some_iff.mp hr).1
    exact {
      found := hmem
      clients := fun c client hc => broadcast_marks (s := { s with core := captureDirtyGenerations s.core dirty })
        hslots hmem hc
      replay := fun slots => slots.collectDirtySlots_pending hlt hmem }
  · obtain ⟨r', hr', hbumps⟩ := captureDirtyGenerations_get hfound dirty hc
    rw [hsettings] at hbumps
    have hlt := (List.getElem?_eq_some_iff.mp hc).1
    have hkey : 0 < settings.componentOps.count component.component :=
      List.count_pos_iff.mpr (hscanned component (List.mem_of_getElem? hc))
    refine ⟨r', hr'.get, hbumps.changes (Nat.succ_lt_succ hlt) ?_ (generationBumps_le hnodup hcount _ _)⟩
    unfold generationBumps
    exact Nat.lt_of_lt_of_le (Nat.mul_pos hkey hreport) (Nat.le_add_right _ _)

/-! ## Changes that are missed -/

namespace Missed

def entity : Entity := ⟨0, 0⟩

def registry (archetype : SyncArchetypeId) : Registry where
  alive e := e = entity
  replicated e := if e = entity then some archetype else none
  replicatedView := [entity]
  networkOwner _ := none
  get _ _ := some []
  hasTag _ _ := false

def dirtyView (component : ComponentId) : DirtyView where
  dirty key := if key = .component component then [entity] else []
  added _ := []
  removed _ := []

def slot (archetype : SyncArchetypeId) (definition : SyncArchetype) : ReplicatedSlot where
  entity
  archetype
  active := true
  sameFrameCacheable := archetypeIsSameFrameCacheable definition
  componentDirtyGenerations := List.replicate (syncSlotCount definition) 1

theorem dirtyView_countable (component : ComponentId) : (dirtyView component).Countable := by
  intro key e
  unfold DirtyView.reports dirtyView
  simp only
  split
  · have := List.count_le_length (a := e) (l := [entity])
    simp only [List.length_singleton] at this
    simp only [List.countP_nil]
    omega
  · simp

def server (options : ReplicationServerOptions) (settings : SyncSettings) (archetype : SyncArchetypeId)
    (definition : SyncArchetype) : ReplicationServer :=
  setInitialized {
    core := initializeSlot { (start options settings).core with
      frame := 1, replicated := [{ entity, archetype, active := true }] } 0 entity definition }

theorem server_inDirtyFrame (options : ReplicationServerOptions) {settings : SyncSettings} {archetype : SyncArchetypeId}
    {definition : SyncArchetype} (hdef : settings.archetypes[archetype]? = some definition) (dirty : DirtyView) :
    (server options settings archetype definition).InDirtyFrame options settings dirty := by
  refine ⟨start options settings, 1, registry archetype, .start, ?_⟩
  have hdef' : (start options settings).core.settings.archetypes[archetype]? = some definition := hdef
  have hupsert : upsertReplicated { start options settings with
      core := { (start options settings).core with frame := 1 } }
      (registry archetype) entity archetype = .ok { server options settings archetype definition with
        core := { (server options settings archetype definition).core with replicatedInitialized := false } } := by
    unfold upsertReplicated
    simp only [hdef']
    rfl
  unfold rediscoverReplicatedEntities upsertAll
  simp only [registry, List.foldlM_cons, List.foldlM_nil, if_true]
  simp only [registry] at hupsert
  rw [hupsert]
  rfl

theorem server_slot (options : ReplicationServerOptions) (settings : SyncSettings) (archetype : SyncArchetypeId)
    (definition : SyncArchetype) :
    (server options settings archetype definition).core.replicated[0]? = some (slot archetype definition) := rfl

end Missed

/-- A component that is no key of `component_ops` keeps its generation when only it is written. -/
theorem changes_missed {settings : SyncSettings} {n i : Nat} {archetype : SyncArchetype}
    {component : ComponentReplication} (hdef : settings.archetypes[n]? = some archetype)
    (hc : archetype.components[i]? = some component) (hnot : component.component ∉ settings.componentOps) :
    ¬ChangesDetected settings := by
  intro hall
  have hframe := Missed.server_inDirtyFrame Sample.options hdef (Missed.dirtyView component.component)
  have hslot := Missed.server_slot Sample.options settings n archetype
  obtain ⟨hfound, hsettings⟩ := hframe.found hslot rfl hdef
  have hreports : (Missed.dirtyView component.component).reports (.component component.component) Missed.entity =
      1 := by
    simp [DirtyView.reports, Missed.dirtyView]
  have howner : (Missed.dirtyView component.component).reports .networkOwner Missed.entity = 0 := by
    simp [DirtyView.reports, Missed.dirtyView]
  obtain ⟨-, hgeneration⟩ :=
    hall Sample.options _ _ hframe (Missed.dirtyView_countable _) 0 _ archetype hslot rfl hdef
  obtain ⟨r', hr', hne⟩ := hgeneration i component hc (hreports ▸ Nat.one_pos)
  obtain ⟨r'', hfound', hbumps⟩ := captureDirtyGenerations_get hfound (Missed.dirtyView component.component) hc
  obtain rfl : r'' = r' := Option.some.inj (hfound'.get.symm.trans hr')
  have hzero : generationBumps (Missed.server Sample.options settings n archetype).core.settings
      (Missed.dirtyView component.component) (Missed.slot n archetype).entity component = 0 := by
    unfold generationBumps
    rw [hsettings, List.count_eq_zero.mpr hnot, show (Missed.slot n archetype).entity = Missed.entity from rfl, howner]
    simp
  rw [hzero] at hbumps
  have hfull : (Missed.slot n archetype).Full archetype := by
    simp [ReplicatedSlot.Full, Missed.slot]
  have hlt : i + 1 < (Missed.slot n archetype).componentDirtyGenerations.length :=
    Nat.lt_of_lt_of_le (Nat.succ_lt_succ (List.getElem?_eq_some_iff.mp hc).1) hfull
  have hold := List.getElem?_eq_getElem hlt
  exact hne ((hbumps.get hold).trans hold.symm)

theorem SyncRegistry.findComponentOps_isSome (registry : SyncRegistry) (component : ComponentId) :
    (registry.findComponentOps component).isSome ↔ component ∈ registry.settings.componentOps := by
  unfold SyncRegistry.findComponentOps SyncRegistry.settings
  rw [List.lookup_isSome_iff]
  simp

/-- For every way of registering: changes are found exactly if every component of every archetype has default
operations. -/
theorem changes_detected_iff {registry : SyncRegistry} (h : SyncRegistry.Reachable registry) :
    ChangesDetected registry.settings ↔
      ∀ archetype ∈ registry.archetypes, ∀ c ∈ archetype.components,
      (registry.findComponentOps c.component).isSome := by
  constructor
  · intro hall archetype harchetype c hc
    rw [registry.findComponentOps_isSome]
    by_contra hnot
    obtain ⟨n, hn, rfl⟩ := List.getElem_of_mem harchetype
    obtain ⟨i, hi, rfl⟩ := List.getElem_of_mem hc
    exact changes_missed (List.getElem?_eq_getElem hn) (List.getElem?_eq_getElem hi) hnot hall
  · intro hops
    refine changesDetected_of_ops h.keys_nodup fun archetype harchetype c hc => ?_
    rw [← registry.findComponentOps_isSome]
    exact hops archetype harchetype c hc

namespace Registered

def profile : ComponentProfile where
  component := 1
  ops := Sample.byteOps
  computeError := false
  applyError := false
  blendOutError := false
  errorSize := 0

def byComponent : List RegistrationOp :=
  [.syncComponent profile false, .archetype { components := [{ component := 1 }] }]

def bySerializer : List RegistrationOp :=
  [.syncComponentSerializer profile false, .archetype { components := [{ component := 1, serializer := some 0 }] }]

def after (ops : List RegistrationOp) : SyncRegistry :=
  match ops.foldlM SyncRegistry.exec {} with
  | .ok registry => registry
  | .error _ => {}

theorem after_reachable (ops : List RegistrationOp) : SyncRegistry.Reachable (after ops) := by
  have hrun : ∀ (ops : List RegistrationOp) (registry registry' : SyncRegistry), SyncRegistry.Reachable registry →
      ops.foldlM SyncRegistry.exec registry = .ok registry' → SyncRegistry.Reachable registry' :=
    fun ops registry registry' h hrun => Monadic.foldlM_inv (fun _ => SyncRegistry.Reachable) ops registry registry'
      (fun op _ _ _ ht hexec => .step op ht hexec) h hrun
  unfold after
  split
  · exact hrun ops {} _ .empty ‹_›
  · exact .empty

def found (settings : SyncSettings) : ReplicationServer :=
  match (start Sample.options settings).exec
    (.advance 1 (Missed.registry 0) (Sample.dirtyView [] [Missed.entity] []) []) with
  | .ok server => server
  | .error _ => start Sample.options settings

end Registered

theorem changes_detected_byComponent : ChangesDetected (Registered.after Registered.byComponent).settings := by
  rw [changes_detected_iff (Registered.after_reachable Registered.byComponent)]
  decide +kernel

/-- With only a serializer registered, a write of the component at frame 2 marks no slot and bumps no generation. -/
theorem changes_missed_bySerializer :
    ¬ChangesDetected (Registered.after Registered.bySerializer).settings ∧
    (Missed.dirtyView 1).Reports (.component 1) Missed.entity ∧
    ((Registered.found (Registered.after Registered.bySerializer).settings).core.replicated[0]?.map
      (·.active)) = some true ∧
    dirtyReplicatedSlots (Registered.found (Registered.after Registered.bySerializer).settings).core
      (Missed.dirtyView 1) = [] ∧
    ((captureDirtyGenerations (Registered.found (Registered.after Registered.bySerializer).settings).core
      (Missed.dirtyView 1)).replicated[0]?.map (·.componentDirtyGenerations)) = some [1, 1] := by
  refine ⟨?_, .inl (by decide), by decide +kernel, by decide +kernel, by decide +kernel⟩
  have hdef : (Registered.after Registered.bySerializer).settings.archetypes[0]? = some {
      tags := [], components := [{ component := 1, audience := .all, ops := Sample.byteOps }] } := rfl
  have hnot : (1 : ComponentId) ∉ (Registered.after Registered.bySerializer).settings.componentOps := by
    decide +kernel
  exact changes_missed (i := 0) hdef rfl hnot

end AshiatoSync
