import AshiatoSync.ReplayWorld
import AshiatoSync.DiscoverySound

/-!
# Replay sessions that do not start

A session that begins has no entities, so all that the first frame's records change
are entities they made.  The registry is as it was where none of them is left, and
not where a record fails behind an entity that the session then forgets.
-/

namespace AshiatoSync

open BitCodec LocalRegistry ReplayRegistry

section

variable {R : Type} [ReplayRegistry R]

/-! ## One entity of the registry -/

theorem Registry.SameOn.refl (a : Registry) (entity : Entity) : a.SameOn a entity := ⟨rfl, rfl, rfl, rfl, rfl⟩

theorem Registry.SameOn.trans {a b c : Registry} {entity : Entity} (h : a.SameOn b entity) (h' : b.SameOn c entity) :
    a.SameOn c entity :=
  ⟨h'.alive.trans h.alive, h'.replicated.trans h.replicated, h'.networkOwner.trans h.networkOwner, h'.get.trans h.get,
    h'.hasTag.trans h.hasTag⟩

structure ChangesOnly (entity : Entity) (before after : R) : Prop where
  alive : ∀ e, alive after e = alive before e
  others : ∀ e, e ≠ entity → (view before).SameOn (view after) e

theorem ChangesOnly.refl (entity : Entity) (r : R) : ChangesOnly entity r r := ⟨fun _ => rfl, fun e _ => .refl _ e⟩

theorem ChangesOnly.trans {entity : Entity} {a b c : R} (h : ChangesOnly entity a b) (h' : ChangesOnly entity b c) :
    ChangesOnly entity a c :=
  ⟨fun e => (h'.alive e).trans (h.alive e), fun e he => (h.others e he).trans (h'.others e he)⟩

theorem setReplicated_changesOnly (r : R) (entity : Entity) (archetype : SyncArchetypeId) :
    ChangesOnly entity r (setReplicated r entity archetype) :=
  ⟨fun e => alive_setReplicated r entity e archetype, fun e he => setReplicated_on r entity e archetype he⟩

theorem set_changesOnly (r : R) (entity : Entity) (component : ComponentId) (value : Bytes) :
    ChangesOnly entity r (set r entity component value) :=
  ⟨fun e => alive_set r entity e component value, fun e he => set_on r entity e component value he⟩

theorem remove_changesOnly (r : R) (entity : Entity) (component : ComponentId) :
    ChangesOnly entity r (remove r entity component) :=
  ⟨fun e => alive_remove r entity e component, fun e he => remove_on r entity e component he⟩

namespace ReplayWorld

theorem applyTags_changesOnly (entity : Entity) (tagMask : Mask) :
    ∀ (tags : List SyncTagReplication) (i : Nat) (r : R),
    ChangesOnly entity r (applyTags entity tagMask tags i r)
  | [], _, r => .refl entity r
  | t :: rest, i, r => by
    refine .trans ?_ (applyTags_changesOnly entity tagMask rest (i + 1) _)
    split
    · cases htag : addTag r entity t.tag with
      | none => exact .refl entity r
      | some r' =>
        exact ⟨fun e => alive_addTag r r' entity e t.tag htag, fun e he => addTag_on r r' entity e t.tag htag he⟩
    · exact ⟨fun e => alive_removeTag r entity e t.tag, fun e he => removeTag_on r entity e t.tag he⟩

theorem applyRecordComponents_changesOnly (entity : Entity) (frame : SyncFrame) (archetype : SyncArchetype)
    (entities : List (Nat × Entity)) : ∀ (count : Nat) (r : R) (stream : Bits),
    ChangesOnly entity r (applyRecordComponents entity frame archetype entities count r stream).1 := by
  intro count
  induction count with
  | zero => exact fun r _ => .refl entity r
  | succ count ih =>
    intro r stream
    unfold applyRecordComponents
    split
    · exact .refl entity r
    split
    · exact ih r _
    split
    · exact ih r _
    split
    · exact .refl entity r
    · exact (set_changesOnly r entity _ _).trans (ih _ _)

theorem removeAbsent_changesOnly (entity : Entity) (archetype : SyncArchetype) (presentMask : Mask) (r : R) :
    ChangesOnly entity r (removeAbsent entity archetype presentMask r) := by
  refine Monadic.foldl_inv (fun _ r' => ChangesOnly entity r r') archetype.components.zipIdx r ?_ (.refl entity r)
  rintro ⟨c, i⟩ - r' hr'
  dsimp only
  split
  · exact hr'
  · exact hr'.trans (remove_changesOnly r' entity c.component)

theorem applyComponents_changesOnly (entity : Entity) (frame : SyncFrame) (archetype : SyncArchetype)
    (presentMask : Mask) (entities : List (Nat × Entity)) (r : R) (stream : Bits) :
    ChangesOnly entity r (applyComponents entity frame archetype presentMask entities r stream).1 := by
  unfold applyComponents
  split
  · exact .refl entity r
  rename_i count stream' _
  have hcomponents := applyRecordComponents_changesOnly entity frame archetype entities count r stream'
  split
  · rename_i heq
    rw [heq] at hcomponents
    exact hcomponents
  · rename_i heq
    rw [heq] at hcomponents
    exact hcomponents.trans (removeAbsent_changesOnly entity archetype presentMask _)

/-! ## The session's entities -/

/-- The session's entities are new ones, and nothing else differs from the registry `before`. -/
structure OwnsNew (before : R) (world : ReplayWorld R) : Prop where
  ids : (world.entities.map Prod.fst).Nodup
  distinct : (world.entities.map Prod.snd).Nodup
  living : ∀ e, alive world.registry e = true ↔ alive before e = true ∨ e ∈ world.entities.map Prod.snd
  new : ∀ e ∈ world.entities.map Prod.snd, alive before e = false
  same : ∀ e, alive before e = true → (view before).SameOn (view world.registry) e

variable {before : R} {world world' : ReplayWorld R} {replayId : Nat} {entity : Entity}

theorem OwnsNew.start (world : ReplayWorld R) (h : world.entities = []) : OwnsNew world.registry world where
  ids := by rw [h]; exact List.nodup_nil
  distinct := by rw [h]; exact List.nodup_nil
  living e := by rw [h, List.map_nil, or_iff_left List.not_mem_nil]
  new e he := by rw [h] at he; cases he
  same e _ := .refl _ e

theorem OwnsNew.change (h : OwnsNew before world) (hin : entity ∈ world.entities.map Prod.snd) {r : R}
    (hr : ChangesOnly entity world.registry r) : OwnsNew before { world with registry := r } where
  ids := h.ids
  distinct := h.distinct
  living e := by
    show alive r e = true ↔ _
    rw [hr.alive]
    exact h.living e
  new := h.new
  same e he := (h.same e he).trans (hr.others e fun heq => by
    rw [heq, h.new entity hin] at he
    cases he)

theorem mem_of_lookup {entities : List (Nat × Entity)} (h : entities.lookup replayId = some entity) :
    (replayId, entity) ∈ entities := by
  obtain ⟨front, back, rfl, -⟩ := List.lookup_eq_some_iff.mp h
  exact List.mem_append_right _ List.mem_cons_self

theorem mem_ids_filter {entities : List (Nat × Entity)} {i : Nat} :
    i ∈ (entities.filter fun entry => entry.1 != replayId).map Prod.fst ↔ i ∈ entities.map Prod.fst ∧
    i ≠ replayId := by
  simp only [List.mem_map, List.mem_filter, bne_iff_ne, ne_eq]
  constructor
  · rintro ⟨entry, ⟨hin, hne⟩, rfl⟩
    exact ⟨⟨entry, hin, rfl⟩, hne⟩
  · rintro ⟨⟨entry, hin, rfl⟩, hne⟩
    exact ⟨entry, ⟨hin, hne⟩, rfl⟩

/-- What `entity_for_replay_id` gives is an entity of the session. -/
theorem OwnsNew.entityForReplayId (h : OwnsNew before world)
    (hfound : world.entityForReplayId replayId = some (world', entity)) :
    OwnsNew before world' ∧ entity ∈ world'.entities.map Prod.snd ∧
      ∀ i, i ∈ world'.entities.map Prod.fst ↔ i = replayId ∨ i ∈ world.entities.map Prod.fst := by
  unfold ReplayWorld.entityForReplayId at hfound
  split at hfound
  · cases hfound
  split at hfound
  · rename_i found hlookup
    obtain ⟨rfl, rfl⟩ := Prod.mk.inj (Option.some.inj hfound)
    have hin := mem_of_lookup (Option.filter_eq_some_iff.mp hlookup).1
    refine ⟨h, List.mem_map_of_mem hin, fun i => ⟨.inr, ?_⟩⟩
    rintro (rfl | hi)
    · exact List.mem_map_of_mem hin
    · exact hi
  · rename_i hlookup
    change some ({ world with
      registry := (create world.registry).1
      entities := (replayId, (create world.registry).2) :: world.entities.filter fun entry => entry.1 != replayId },
      (create world.registry).2) = _ at hfound
    obtain ⟨rfl, rfl⟩ := Prod.mk.inj (Option.some.inj hfound)
    -- the session's entities live, so the id has none
    have hnone : ∀ e, (replayId, e) ∉ world.entities := fun e hin => by
      obtain ⟨found, hfound⟩ := Option.isSome_iff_exists.mp
        (List.lookup_isSome_iff.mpr ⟨(replayId, e), hin, BEq.rfl⟩)
      have hlives := (h.living found).mpr (.inr (List.mem_map_of_mem (mem_of_lookup hfound)))
      rw [hfound, Option.filter_some, if_pos hlives] at hlookup
      cases hlookup
    have hfilter : (world.entities.filter fun entry => entry.1 != replayId) = world.entities :=
      List.filter_eq_self.mpr fun entry hin => bne_iff_ne.mpr fun heq => hnone entry.2 (heq ▸ hin)
    have hfresh := create_fresh world.registry
    have hfreshBefore : alive before (create world.registry).2 = false := by
      by_contra hlives
      have := (h.living _).mpr (.inl (by simpa using hlives))
      rw [hfresh] at this
      cases this
    have hfreshOwned : (create world.registry).2 ∉ world.entities.map Prod.snd := fun hin => by
      have := (h.living _).mpr (.inr hin)
      rw [hfresh] at this
      cases this
    refine ⟨⟨?_, ?_, fun e => ?_, ?_, fun e he => ?_⟩, ?_, fun i => ?_⟩
    · dsimp only
      rw [hfilter, List.map_cons, List.nodup_cons]
      refine ⟨fun hin => ?_, h.ids⟩
      obtain ⟨entry, hin, heq⟩ := List.mem_map.mp hin
      exact hnone entry.2 ((show entry.1 = replayId from heq) ▸ hin)
    · dsimp only
      rw [hfilter, List.map_cons, List.nodup_cons]
      exact ⟨hfreshOwned, h.distinct⟩
    · dsimp only
      rw [hfilter, alive_create, Bool.or_eq_true, decide_eq_true_eq, h.living, List.map_cons, List.mem_cons]
      tauto
    · dsimp only
      rw [hfilter, List.map_cons]
      exact List.forall_mem_cons.mpr ⟨hfreshBefore, h.new⟩
    · refine (h.same e he).trans (create_on world.registry e fun heq => ?_)
      rw [heq, hfreshBefore] at he
      cases he
    · exact List.mem_cons_self
    · dsimp only
      rw [hfilter, List.map_cons, List.mem_cons]

theorem OwnsNew.destroyReplayEntity (h : OwnsNew before world) (replayId : Nat) :
    OwnsNew before (world.destroyReplayEntity replayId) ∧
      ∀ i, i ∈ (world.destroyReplayEntity replayId).entities.map Prod.fst ↔ i ∈ world.entities.map Prod.fst ∧
      i ≠ replayId := by
  unfold ReplayWorld.destroyReplayEntity
  split
  · rename_i hnone
    refine ⟨h, fun i => ⟨fun hin => ⟨hin, fun heq => ?_⟩, And.left⟩⟩
    obtain ⟨entry, hentry, rfl⟩ := List.mem_map.mp hin
    have hne := List.lookup_eq_none_iff.mp hnone entry hentry
    rw [heq] at hne
    simp at hne
  · rename_i entity hfound
    have hin := mem_of_lookup hfound
    -- the entries left have other ids, and so other entities
    have hleft : ∀ e, e ∈ (world.entities.filter fun entry => entry.1 != replayId).map Prod.snd ↔
        e ∈ world.entities.map Prod.snd ∧ e ≠ entity := by
      intro e
      simp only [List.mem_map, List.mem_filter, bne_iff_ne, ne_eq]
      constructor
      · rintro ⟨entry, ⟨hentry, hne⟩, rfl⟩
        refine ⟨⟨entry, hentry, rfl⟩, fun heq => hne ?_⟩
        exact congrArg Prod.fst (List.inj_on_of_nodup_map h.distinct hentry hin heq)
      · rintro ⟨⟨entry, hentry, rfl⟩, hne⟩
        refine ⟨entry, ⟨hentry, fun heq => hne ?_⟩, rfl⟩
        exact congrArg Prod.snd (List.inj_on_of_nodup_map h.ids hentry hin heq)
    have hnew := h.new entity (List.mem_map_of_mem hin)
    refine ⟨⟨?_, ?_, fun e => ?_, fun e he => ?_, fun e he => ?_⟩, fun i => mem_ids_filter⟩
    · exact h.ids.sublist (List.filter_sublist.map Prod.fst)
    · exact h.distinct.sublist (List.filter_sublist.map Prod.snd)
    · dsimp only
      rw [alive_destroy, Bool.and_eq_true, Bool.not_eq_true', decide_eq_false_iff_not, h.living, hleft]
      constructor
      · rintro ⟨hne, hold | hin⟩
        · exact .inl hold
        · exact .inr ⟨hin, hne⟩
      · rintro (hold | ⟨hin, hne⟩)
        · refine ⟨fun heq => ?_, .inl hold⟩
          rw [heq, hnew] at hold
          cases hold
        · exact ⟨hne, .inr hin⟩
    · exact h.new e ((hleft e).mp he).1
    · refine (h.same e he).trans (destroy_on world.registry entity e fun heq => ?_)
      rw [heq, hnew] at he
      cases he

/-! ## Records -/

def skipRecordComponents : Nat → Bits → Option Bits
  | 0, stream => some stream
  | count + 1, stream => (readRecordComponent stream).bind fun r => skipRecordComponents count r.2

def skipComponents (stream : Bits) : Option Bits := (readBits 16 stream).bind fun r => skipRecordComponents r.1 r.2

def leftIds : Nat → Bits → List Nat → List Nat
  | 0, _, ids => ids
  | count + 1, stream, ids =>
    match readReplayRecordHeader stream with
    | none => ids
    | some (.destroy replayId, stream) => leftIds count stream (ids.filter fun id => id != replayId)
    | some (.update replayId _ _ _, stream) =>
      match skipComponents stream with
      | none => replayId :: ids
      | some stream => leftIds count stream (replayId :: ids)

/-- The next record is refused before it has an entity: it is cut off, has no id, or an archetype that is not defined.
-/
def RecordRefused (settings : SyncSettings) (stream : Bits) : Prop :=
  ∀ header rest, readReplayRecordHeader stream = some (header, rest) →
    ∃ replayId archetype tagMask presentMask, header = .update replayId archetype tagMask presentMask ∧
      (replayId = 0 ∨ settings.archetypes.length ≤ archetype)

theorem applyRecordComponents_rest (entity : Entity) (frame : SyncFrame) (archetype : SyncArchetype)
    (entities : List (Nat × Entity)) {rest : Bits} : ∀ (count : Nat) (r : R) (stream : Bits),
    (applyRecordComponents entity frame archetype entities count r stream).2 = some rest →
      skipRecordComponents count stream = some rest := by
  intro count
  induction count with
  | zero => exact fun _ _ h => h
  | succ count ih =>
    intro r stream h
    unfold applyRecordComponents at h
    unfold skipRecordComponents
    split at h
    · cases h
    rename_i heq
    rw [heq, Option.bind_some]
    split at h
    · exact ih r _ h
    split at h
    · exact ih r _ h
    split at h
    · cases h
    · exact ih _ _ h

theorem applyComponents_rest {entity : Entity} {frame : SyncFrame} {archetype : SyncArchetype} {presentMask : Mask}
    {entities : List (Nat × Entity)} {r : R} {stream rest : Bits}
    (h : (applyComponents entity frame archetype presentMask entities r stream).2 = some rest) :
    skipComponents stream = some rest := by
  unfold applyComponents at h
  unfold skipComponents
  split at h
  · cases h
  rename_i count stream' heq
  rw [heq, Option.bind_some]
  refine applyRecordComponents_rest entity frame archetype entities count r stream' ?_
  split at h
  · cases h
  · rename_i hcomponents
    rw [hcomponents]
    exact h

theorem destroyReplayEntity_same (world : ReplayWorld R) (replayId : Nat) :
    (world.destroyReplayEntity replayId).server = world.server ∧ (world.destroyReplayEntity replayId).thrown =
    world.thrown := by
  unfold ReplayWorld.destroyReplayEntity
  split <;> exact ⟨rfl, rfl⟩

structure RecordDone (before : R) (world : ReplayWorld R) (fullReplayIds : List Nat) (stream : Bits)
    (result : ReplayWorld R × List Nat × Option Bits) : Prop where
  owns : OwnsNew before result.1
  server : result.1.server = world.server
  thrown : result.1.thrown = world.thrown
  full : (∀ i ∈ world.entities.map Prod.fst, i ∈ fullReplayIds) →
    ∀ i ∈ result.1.entities.map Prod.fst, i ∈ result.2.1
  refused : RecordRefused world.server.core.settings stream → result.2.2 = none ∧ result.1 = world
  failed : result.2.2 = none → RecordRefused world.server.core.settings stream ∨ result.1.entities ≠ []
  left : ∀ rest, result.2.2 = some rest → ∀ (count : Nat) (ids : List Nat),
    (∀ i, i ∈ world.entities.map Prod.fst ↔ i ∈ ids) →
    ∃ ids', leftIds (count + 1) stream ids = leftIds count rest ids' ∧
    ∀ i, i ∈ result.1.entities.map Prod.fst ↔ i ∈ ids'

theorem OwnsNew.applyRecord (h : OwnsNew before world) (frame : SyncFrame) (fullReplayIds : List Nat) (stream : Bits) :
    RecordDone before world fullReplayIds stream (world.applyRecord frame fullReplayIds stream) := by
  unfold ReplayWorld.applyRecord
  cases hheader : readReplayRecordHeader stream with
  | none =>
    have hrefused : RecordRefused world.server.core.settings stream := fun header rest heq => by
      rw [hheader] at heq
      cases heq
    exact ⟨h, rfl, rfl, fun hfull => hfull, fun _ => ⟨rfl, rfl⟩, fun _ => .inl hrefused,
      fun _ hrest => by cases hrest⟩
  | some r =>
    obtain ⟨header, stream'⟩ := r
    cases header with
    | destroy replayId =>
      obtain ⟨howns, hids⟩ := h.destroyReplayEntity replayId
      refine ⟨howns, ?_, ?_, fun hfull i hi => hfull i ((hids i).mp hi).1, fun hrefused => ?_, fun hnone => ?_, ?_⟩
      · exact (destroyReplayEntity_same world replayId).1
      · exact (destroyReplayEntity_same world replayId).2
      · obtain ⟨_, _, _, _, hupdate, -⟩ := hrefused _ _ hheader
        cases hupdate
      · cases hnone
      · intro rest hrest count ids hsame
        obtain rfl := Option.some.inj hrest
        refine ⟨ids.filter fun id => id != replayId, by rw [leftIds, hheader], fun i => ?_⟩
        rw [hids, List.mem_filter, bne_iff_ne, hsame]
    | update replayId archetypeId tagMask presentMask =>
      cases hdef : world.server.core.settings.archetypes[archetypeId]? with
      | none =>
        have hrefused : RecordRefused world.server.core.settings stream := fun header rest heq => by
          rw [hheader] at heq
          exact ⟨_, _, _, _, (Prod.mk.inj (Option.some.inj heq)).1.symm, .inr (List.getElem?_eq_none_iff.mp hdef)⟩
        simp only [hdef]
        exact ⟨h, rfl, rfl, fun hfull i hi => List.mem_cons_of_mem _ (hfull i hi), fun _ => ⟨rfl, rfl⟩,
          fun _ => .inl hrefused, fun _ hrest => by cases hrest⟩
      | some archetype =>
        simp only [hdef]
        cases hentity : world.entityForReplayId replayId with
        | none =>
          have hzero : replayId = 0 := by
            by_contra hne
            unfold ReplayWorld.entityForReplayId at hentity
            rw [if_neg hne] at hentity
            split at hentity <;> cases hentity
          have hrefused : RecordRefused world.server.core.settings stream := fun header rest heq => by
            rw [hheader] at heq
            exact ⟨_, _, _, _, (Prod.mk.inj (Option.some.inj heq)).1.symm, .inl hzero⟩
          exact ⟨h, rfl, rfl, fun hfull i hi => List.mem_cons_of_mem _ (hfull i hi), fun _ => ⟨rfl, rfl⟩,
            fun _ => .inl hrefused, fun _ hrest => by cases hrest⟩
        | some r =>
          obtain ⟨world', entity⟩ := r
          obtain ⟨howns, hin, hids⟩ := h.entityForReplayId hentity
          have hsame : world'.server = world.server ∧ world'.thrown = world.thrown := by
            unfold ReplayWorld.entityForReplayId at hentity
            split at hentity
            · cases hentity
            split at hentity <;> (obtain ⟨rfl, -⟩ := Prod.mk.inj (Option.some.inj hentity); exact ⟨rfl, rfl⟩)
          have hchange := ((setReplicated_changesOnly world'.registry entity archetypeId).trans
            (applyTags_changesOnly entity tagMask archetype.tags 0 _)).trans
              (applyComponents_changesOnly entity frame archetype presentMask world'.entities _ stream')
          dsimp only
          refine ⟨howns.change hin hchange, hsame.1, hsame.2, fun hfull i hi => ?_, fun hrefused => ?_,
            fun _ => .inr ?_, ?_⟩
          · rcases (hids i).mp hi with rfl | hold
            · exact List.mem_cons_self
            · exact List.mem_cons_of_mem _ (hfull i hold)
          · obtain ⟨_, _, _, _, hupdate, hwhy⟩ := hrefused _ _ hheader
            obtain ⟨rfl, rfl, -, -⟩ := ReplayRecordHeader.update.inj hupdate
            rcases hwhy with rfl | hunknown
            · cases hentity
            · rw [List.getElem?_eq_none hunknown] at hdef
              cases hdef
          · intro hempty
            rw [show world'.entities = [] from hempty] at hin
            cases hin
          · intro rest hrest count ids hsame
            refine ⟨replayId :: ids, ?_, fun i => ?_⟩
            · rw [leftIds, hheader]
              simp only [applyComponents_rest hrest]
            · rw [List.mem_cons, ← hsame]
              exact hids i

theorem applyRecords_failed (world : ReplayWorld R) (frame : SyncFrame) (fullReplayIds : List Nat) (stream : Bits)
    (h : (world.applyRecord frame fullReplayIds stream).2.2 = none) (count : Nat) :
    world.applyRecords frame (count + 1) fullReplayIds stream = world.applyRecord frame fullReplayIds stream := by
  unfold ReplayWorld.applyRecords
  generalize world.applyRecord frame fullReplayIds stream = record at h ⊢
  obtain ⟨world', fullReplayIds', rest⟩ := record
  obtain rfl : rest = none := h
  rfl

theorem applyRecords_passed (world : ReplayWorld R) (frame : SyncFrame) (fullReplayIds : List Nat) (stream rest : Bits)
    (h : (world.applyRecord frame fullReplayIds stream).2.2 = some rest) (count : Nat) :
    world.applyRecords frame (count + 1) fullReplayIds stream =
      (world.applyRecord frame fullReplayIds stream).1.applyRecords frame count
        (world.applyRecord frame fullReplayIds stream).2.1 rest := by
  rw [ReplayWorld.applyRecords]
  generalize world.applyRecord frame fullReplayIds stream = record at h ⊢
  obtain ⟨world', fullReplayIds', rest'⟩ := record
  obtain rfl : rest' = some rest := h
  rfl

def RefusedEmpty (frame : SyncFrame) (count : Nat) (world : ReplayWorld R) (fullReplayIds : List Nat) (stream : Bits) :
    Prop :=
  ∃ read rest, read < count ∧ (world.applyRecords frame read fullReplayIds stream).2.2 = some rest ∧
    RecordRefused world.server.core.settings rest ∧
    (world.applyRecords frame read fullReplayIds stream).1.entities = []

structure RecordsDone (before : R) (frame : SyncFrame) (count : Nat) (world : ReplayWorld R) (fullReplayIds : List Nat)
    (stream : Bits) (result : ReplayWorld R × List Nat × Option Bits) : Prop where
  owns : OwnsNew before result.1
  server : result.1.server = world.server
  thrown : result.1.thrown = world.thrown
  full : (∀ i ∈ world.entities.map Prod.fst, i ∈ fullReplayIds) →
    ∀ i ∈ result.1.entities.map Prod.fst, i ∈ result.2.1
  refused : RefusedEmpty frame count world fullReplayIds stream ↔ result.2.2 = none ∧ result.1.entities = []
  left : ∀ rest, result.2.2 = some rest →
    ∀ ids : List Nat, (∀ i, i ∈ world.entities.map Prod.fst ↔ i ∈ ids) →
    ∀ i, i ∈ result.1.entities.map Prod.fst ↔ i ∈ leftIds count stream ids

theorem OwnsNew.applyRecords (frame : SyncFrame) : ∀ (count : Nat) {world : ReplayWorld R} (fullReplayIds : List Nat)
    (stream : Bits), OwnsNew before world →
    RecordsDone before frame count world fullReplayIds stream
      (world.applyRecords frame count fullReplayIds stream) := by
  intro count
  induction count with
  | zero =>
    intro world fullReplayIds stream h
    refine ⟨h, rfl, rfl, fun hfull => hfull, ?_, fun rest hrest ids hsame => hsame⟩
    constructor
    · rintro ⟨read, rest, hlt, -⟩
      exact absurd hlt (Nat.not_lt_zero read)
    · rintro ⟨hnone, -⟩
      cases hnone
  | succ count ih =>
    intro world fullReplayIds stream h
    have hrecord := h.applyRecord frame fullReplayIds stream
    have hstop := applyRecords_failed world frame fullReplayIds stream
    have hgo := applyRecords_passed world frame fullReplayIds stream
    generalize world.applyRecord frame fullReplayIds stream = record at hrecord hstop hgo
    obtain ⟨world₁, fullReplayIds₁, rest₁⟩ := record
    cases rest₁ with
    | none =>
      rw [hstop rfl count]
      refine ⟨hrecord.owns, hrecord.server, hrecord.thrown, hrecord.full, ?_, fun rest hrest => by cases hrest⟩
      constructor
      · rintro ⟨read, rest, -, hread, hrefused, hempty⟩
        cases read with
        | zero =>
          obtain rfl := Option.some.inj hread
          exact ⟨rfl, by rw [(hrecord.refused hrefused).2]; exact hempty⟩
        | succ read =>
          rw [hstop rfl read] at hread
          cases hread
      · rintro ⟨-, hempty⟩
        have hrefused := (hrecord.failed rfl).resolve_right fun hne => hne hempty
        refine ⟨0, stream, Nat.succ_pos count, rfl, hrefused, ?_⟩
        show world.entities = []
        rw [← (hrecord.refused hrefused).2]
        exact hempty
    | some stream₁ =>
      have hrest := ih fullReplayIds₁ stream₁ hrecord.owns
      rw [hgo stream₁ rfl count]
      refine ⟨hrest.owns, hrest.server.trans hrecord.server, hrest.thrown.trans hrecord.thrown,
        fun hfull => hrest.full (hrecord.full hfull), ?_, fun rest hend ids hsame => ?_⟩
      · rw [← hrest.refused]
        constructor
        · rintro ⟨read, rest, hlt, hread, hrefused, hempty⟩
          cases read with
          | zero =>
            obtain rfl := Option.some.inj hread
            cases (hrecord.refused hrefused).1
          | succ read =>
            rw [hgo stream₁ rfl read] at hread hempty
            exact ⟨read, rest, by omega, hread, hrecord.server.symm ▸ hrefused, hempty⟩
        · rintro ⟨read, rest, hlt, hread, hrefused, hempty⟩
          refine ⟨read + 1, rest, by omega, ?_, hrecord.server ▸ hrefused, ?_⟩
          · rw [hgo stream₁ rfl read]
            exact hread
          · rw [hgo stream₁ rfl read]
            exact hempty
      · obtain ⟨ids', hleft, hsame'⟩ := hrecord.left stream₁ rfl count ids hsame
        rw [hleft]
        exact hrest.left rest hend ids' hsame'

/-- A full frame has all entities that its records leave to a new session. -/
theorem destroyStale_eq (h : ∀ i ∈ world.entities.map Prod.fst, i ∈ fullReplayIds) :
    world.destroyStale fullReplayIds = world := by
  unfold ReplayWorld.destroyStale
  rw [List.filter_eq_nil_iff.mpr fun i hi => by simp [h i hi], List.foldl_nil]

end ReplayWorld

/-! ## Starts that fail -/

def ReplicationReplayStreamer.sessionCopy (streamer : ReplicationReplayStreamer) (focusFrame : SyncFrame) :
    Option (List ReplicationReplayFrame) :=
  if streamer.count = 0 then none
  else if streamer.findStartFrame focusFrame ≥ streamer.count then none
  else some ((streamer.stored.drop (streamer.findStartFrame focusFrame)).takeWhile fun frame =>
    decide (frame.frame ≤ (focusFrame + streamer.options.tailFrames) % 2 ^ 32))

/-- `begin_session`, or `begin_network_session` where there are options for it. -/
def ReplicationReplayStreamer.startSession (stage : ReplayStage (ReplayWorld R)) (streamer : ReplicationReplayStreamer)
    (focusFrame : SyncFrame) (network : Option ReplicationReplayNetworkSessionOptions)
    (session : ReplicationReplayStreamSession) (world : ReplayWorld R) :
    Bool × ReplicationReplayStreamSession × ReplayWorld R :=
  match network with
  | none => streamer.beginSession stage focusFrame session world
  | some options => streamer.beginNetworkSession stage focusFrame options session world

def StartFailed (result : Bool × ReplicationReplayStreamSession × ReplayWorld R) : Prop :=
  result.1 = false ∧ result.2.2.thrown = none

/-- The replay world is as it was, and the session is inactive and owns nothing. -/
structure LeftAsItWas (world : ReplayWorld R) (result : Bool × ReplicationReplayStreamSession × ReplayWorld R) :
    Prop where
  living : ∀ e, alive result.2.2.registry e = alive world.registry e
  same : ∀ e, alive world.registry e = true → (view world.registry).SameOn (view result.2.2.registry) e
  replicated : ∀ e a, result.2.2.server.core.Replicates e a ↔ world.server.core.Replicates e a
  frame : result.2.2.server.core.frame = world.server.core.frame
  inactive : result.2.1.active = false
  ownsNone : result.2.2.entities = []

def ReplayWorld.InStep (world : ReplayWorld R) : Prop :=
  ∀ e a, world.server.core.Replicates e a ↔ Rediscovered (view world.registry) world.server.core e a

/-- Reading the records of the first frame ends with one that is refused, or with the last one, and those read leave no
entity.  Behind the last one the replay server must have nothing to discover, and stand at the frame already unless that
is 0. -/
def FrameTraceless (world : ReplayWorld R) (first : ReplicationReplayFrame) (count : Nat) (stream : Bits) : Prop :=
  ∃ read rest, read ≤ count ∧
    (({ world with entities := [] } : ReplayWorld R).applyRecords first.frame read [] stream).2.2 = some rest ∧
    ReplayWorld.leftIds read stream [] = [] ∧
    (read < count → ReplayWorld.RecordRefused world.server.core.settings rest) ∧
    (read = count → world.InStep ∧ (first.frame = 0 ∨ world.server.core.frame = first.frame))

/-- Where a start that fails leaves no trace: no start frame is stored and the session is idle, no frame is copied, or
the first frame leaves none. -/
def StartTraceless (streamer : ReplicationReplayStreamer) (focusFrame : SyncFrame)
    (session : ReplicationReplayStreamSession) (world : ReplayWorld R) : Prop :=
  match streamer.sessionCopy focusFrame with
  | none => session.active = false ∧ world.entities = []
  | some [] => True
  | some (first :: _) =>
    match readBits 16 first.payload with
    | none => True
    | some (count, stream) => FrameTraceless world first count stream

inductive ReplayServer (options : ReplicationServerOptions) (settings : SyncSettings) : ReplicationServer → Prop where
  | start : ReplayServer options settings (.start options settings)
  | step {server server' : ReplicationServer} (op : ServerOp) :
    ReplayServer options settings server → server.exec op = .ok server' → ReplayServer options settings server'
  | setFrame {server : ReplicationServer} (frame : SyncFrame) : ReplayServer options settings server →
    ReplayServer options settings { server with core := { server.core with frame } }

theorem ReplayServer.tables {options : ReplicationServerOptions} {settings : SyncSettings} {server : ReplicationServer}
    (h : ReplayServer options settings server) : SlotTables server.core := by
  induction h with
  | start => exact slotTables_start options settings
  | step op _ hexec ih => exact ih.exec hexec
  | setFrame frame _ ih => exact ih.setFrame frame

theorem viewSound (r : R) : (view r).ViewSound where
  visited e := by rw [view_alive]; exact visited r e
  index a b ha hb := by
    rw [view_alive] at ha hb
    exact alive_index r a b ha hb

/-- Registries that agree on the living entities have the same to discover. -/
theorem rediscovered_congr {r r' : R} (hliving : ∀ e, alive r' e = alive r e)
    (hsame : ∀ e, alive r e = true → (view r).SameOn (view r') e) (core : ServerCore) (entity : Entity)
    (archetype : SyncArchetypeId) :
    Rediscovered (view r') core entity archetype ↔ Rediscovered (view r) core entity archetype := by
  have hreplicated : ∀ e, alive r e = true → (view r').replicated e = (view r).replicated e := fun e he =>
    (hsame e he).replicated
  have hvisited : ∀ e, e ∈ (view r').replicatedView ↔ e ∈ (view r).replicatedView := by
    intro e
    rw [visited, visited, hliving]
    exact and_congr_right fun he => by rw [hreplicated e he]
  have hdisc : (view r').Discoverable core.settings entity archetype ↔
      (view r).Discoverable core.settings entity archetype := by
    unfold Registry.Discoverable
    rw [view_alive, view_alive, hliving]
    exact and_congr_right fun he => by rw [hreplicated entity he]
  unfold Rediscovered
  rw [hdisc]
  simp only [hvisited]

variable {world : ReplayWorld R}

theorem applyFrame_unread (world : ReplayWorld R) {frame : ReplicationReplayFrame}
    (h : readBits 16 frame.payload = none) :
    world.applyFrame frame = (false, world) := by
  unfold ReplayWorld.applyFrame
  rw [h]

theorem applyFrame_eq (h : world.entities = []) {frame : ReplicationReplayFrame} {count : Nat} {stream : Bits}
    (hcount : readBits 16 frame.payload = some (count, stream)) :
    world.applyFrame frame =
      ((world.applyRecords frame.frame count [] stream).2.2.isSome,
      (world.applyRecords frame.frame count [] stream).1) := by
  unfold ReplayWorld.applyFrame
  rw [hcount]
  have hfull := ((ReplayWorld.OwnsNew.start world h).applyRecords frame.frame count [] stream).full (by rw [h]; nofun)
  dsimp only
  generalize world.applyRecords frame.frame count [] stream = result at hfull ⊢
  obtain ⟨world', fullReplayIds, rest⟩ := result
  cases rest with
  | none => rfl
  | some rest =>
    dsimp only at hfull ⊢
    rw [ReplayWorld.destroyStale_eq hfull, ite_self]
    rfl

section

variable (applyCues : ReplicationReplayFrame → ReplayWorld R → Bool × ReplayWorld R)
  (advanceFrame : SyncFrame → ReplayWorld R → Bool × ReplayWorld R) (streamer : ReplicationReplayStreamer)
  (focusFrame : SyncFrame) (session : ReplicationReplayStreamSession) (world : ReplayWorld R)

theorem beginSession_none (h : streamer.sessionCopy focusFrame = none) :
    streamer.beginSession (replayStage applyCues advanceFrame) focusFrame session world = (false, session, world) := by
  unfold ReplicationReplayStreamer.sessionCopy at h
  unfold ReplicationReplayStreamer.beginSession
  split at h
  · rw [if_pos ‹_›]
  split at h
  · rw [if_neg ‹_›]
    simp only [if_pos ‹streamer.findStartFrame focusFrame ≥ streamer.count›]
  · cases h

theorem beginSession_nil (h : streamer.sessionCopy focusFrame = some []) :
    streamer.beginSession (replayStage applyCues advanceFrame) focusFrame session world =
      (false, {}, { world with entities := [] }) := by
  unfold ReplicationReplayStreamer.sessionCopy at h
  split at h
  · cases h
  split at h
  · cases h
  unfold ReplicationReplayStreamer.beginSession
  rw [if_neg ‹_›]
  simp only [if_neg ‹¬streamer.findStartFrame focusFrame ≥ streamer.count›, Option.some.inj h]
  rfl

variable {first : ReplicationReplayFrame} {rest : List ReplicationReplayFrame}

theorem beginSession_cons (h : streamer.sessionCopy focusFrame = some (first :: rest)) {applied : Bool}
    {w : ReplayWorld R} (happly : ({ world with entities := [] } : ReplayWorld R).applyFrame first = (applied, w)) :
    (applied = false → streamer.beginSession (replayStage applyCues advanceFrame) focusFrame session world =
      (false, {}, { w with entities := [] })) ∧
    (applied = true → ∀ w', w.rediscover.setFrameWithoutBroadcast first.frame = (false, w') →
      streamer.beginSession (replayStage applyCues advanceFrame) focusFrame session world =
        (false, {}, { w' with entities := [] })) ∧
    (applied = true → ∀ w', w.rediscover.setFrameWithoutBroadcast first.frame = (true, w') →
      ∃ session', streamer.beginSession (replayStage applyCues advanceFrame) focusFrame session world =
        (true, session', w')) := by
  unfold ReplicationReplayStreamer.sessionCopy at h
  split at h
  · cases h
  split at h
  · cases h
  unfold ReplicationReplayStreamer.beginSession
  rw [if_neg ‹_›]
  simp only [if_neg ‹¬streamer.findStartFrame focusFrame ≥ streamer.count›, Option.some.inj h, replayStage]
  rw [happly]
  refine ⟨?_, ?_, ?_⟩
  · rintro rfl
    rfl
  · rintro rfl w' hset
    simp only [Bool.false_eq_true, if_false, hset]
  · rintro rfl w' hset
    simp only [Bool.false_eq_true, if_false, hset]
    exact ⟨_, rfl⟩

variable {network : Option ReplicationReplayNetworkSessionOptions} {session' : ReplicationReplayStreamSession}
  {w : ReplayWorld R}

omit [ReplayRegistry R] in
theorem startSession_of_false {stage : ReplayStage (ReplayWorld R)}
    (h : streamer.beginSession stage focusFrame session world = (false, session', w)) :
    streamer.startSession stage focusFrame network session world = (false, session', w) := by
  unfold ReplicationReplayStreamer.startSession
  split
  · exact h
  · unfold ReplicationReplayStreamer.beginNetworkSession
    rw [h]

/-- A session that began and is given up, because there is no budget. -/
theorem startSession_of_true
    (h : streamer.beginSession (replayStage applyCues advanceFrame) focusFrame session world = (true, session', w))
    (hfailed : StartFailed
    (streamer.startSession (replayStage applyCues advanceFrame) focusFrame network session world)) :
    streamer.startSession (replayStage applyCues advanceFrame) focusFrame network session world =
      (false, {}, { w with entities := [] }) := by
  unfold ReplicationReplayStreamer.startSession at hfailed ⊢
  split
  · obtain ⟨hfalse, -⟩ := hfailed
    simp only [h] at hfalse
    cases hfalse
  · unfold ReplicationReplayStreamer.beginNetworkSession at hfailed ⊢
    simp only [h] at hfailed ⊢
    split
    · rename_i hattached
      obtain ⟨hfalse, -⟩ := hfailed
      rw [if_pos hattached] at hfalse
      cases hfalse
    · rfl

end

/-! ## The condition -/

theorem leftAsItWas_iff {w w' : ReplayWorld R} (howns : ReplayWorld.OwnsNew world.registry w)
    (hregistry : w'.registry = w.registry) :
    LeftAsItWas world (false, {}, { w' with entities := [] }) ↔
      w.entities = [] ∧ (∀ e a, w'.server.core.Replicates e a ↔ world.server.core.Replicates e a) ∧
        w'.server.core.frame = world.server.core.frame := by
  constructor
  · intro h
    refine ⟨?_, h.replicated, h.frame⟩
    -- an entity that is left would live, and did not before
    by_contra hleft
    obtain ⟨entry, hin⟩ := List.exists_mem_of_ne_nil _ hleft
    have hmem := List.mem_map_of_mem (f := Prod.snd) hin
    have hliving := h.living entry.2
    dsimp only at hliving
    rw [howns.new entry.2 hmem, hregistry, (howns.living entry.2).mpr (.inr hmem)] at hliving
    cases hliving
  · rintro ⟨hempty, hreplicated, hframe⟩
    refine ⟨fun e => ?_, fun e he => ?_, hreplicated, hframe, rfl, rfl⟩
    · have hliving := howns.living e
      rw [hempty, List.map_nil, or_iff_left List.not_mem_nil, ← Bool.eq_iff_iff] at hliving
      dsimp only
      rw [hregistry, hliving]
    · dsimp only
      rw [hregistry]
      exact howns.same e he

theorem eq_nil_iff_of_ids {entities : List (Nat × Entity)} {ids : List Nat}
    (h : ∀ i, i ∈ entities.map Prod.fst ↔ i ∈ ids) : entities = [] ↔ ids = [] := by
  rw [← List.map_eq_nil_iff (f := Prod.fst), List.eq_nil_iff_forall_not_mem, List.eq_nil_iff_forall_not_mem]
  exact forall_congr' fun i => not_congr (h i)

theorem traceless_failed {first : ReplicationReplayFrame} {count : Nat} {stream : Bits}
    (hnone : (({ world with entities := [] } : ReplayWorld R).applyRecords first.frame count [] stream).2.2 = none) :
    FrameTraceless world first count stream ↔
    (({ world with entities := [] } : ReplayWorld R).applyRecords first.frame count [] stream).1.entities = [] := by
  have howns := ReplayWorld.OwnsNew.start ({ world with entities := [] } : ReplayWorld R) rfl
  have hdone := howns.applyRecords first.frame count [] stream
  have hids : ∀ i, i ∈ ([] : List (Nat × Entity)).map Prod.fst ↔ i ∈ ([] : List Nat) := fun i => Iff.rfl
  refine Iff.trans ?_ (hdone.refused.trans (and_iff_right hnone))
  constructor
  · rintro ⟨read, rest, hle, hread, hleft, hrefused, -⟩
    have hlt : read < count := Nat.lt_of_le_of_ne hle fun heq => by
      rw [heq, hnone] at hread
      cases hread
    refine ⟨read, rest, hlt, hread, hrefused hlt, ?_⟩
    exact (eq_nil_iff_of_ids ((howns.applyRecords first.frame read [] stream).left rest hread [] hids)).mpr hleft
  · rintro ⟨read, rest, hlt, hread, hrefused, hempty⟩
    refine ⟨read, rest, hlt.le, hread, ?_, fun _ => hrefused, fun heq => absurd heq hlt.ne⟩
    exact (eq_nil_iff_of_ids ((howns.applyRecords first.frame read [] stream).left rest hread [] hids)).mp hempty

theorem traceless_applied {first : ReplicationReplayFrame} {count : Nat} {stream rest : Bits}
    (hsome : (({ world with entities := [] } : ReplayWorld R).applyRecords first.frame count [] stream).2.2 =
    some rest) :
    FrameTraceless world first count stream ↔
    (({ world with entities := [] } : ReplayWorld R).applyRecords first.frame count [] stream).1.entities = [] ∧
      world.InStep ∧ (first.frame = 0 ∨ world.server.core.frame = first.frame) := by
  have howns := ReplayWorld.OwnsNew.start ({ world with entities := [] } : ReplayWorld R) rfl
  have hdone := howns.applyRecords first.frame count [] stream
  have hids : ∀ i, i ∈ ([] : List (Nat × Entity)).map Prod.fst ↔ i ∈ ([] : List Nat) := fun i => Iff.rfl
  have hempty := eq_nil_iff_of_ids (hdone.left rest hsome [] hids)
  constructor
  · rintro ⟨read, rest', hle, hread, hleft, hrefused, hend⟩
    rcases Nat.lt_or_eq_of_le hle with hlt | rfl
    · have hread_empty :=
        (eq_nil_iff_of_ids ((howns.applyRecords first.frame read [] stream).left rest' hread [] hids)).mpr hleft
      have hstopped := (hdone.refused.mp ⟨read, rest', hlt, hread, hrefused hlt, hread_empty⟩).1
      rw [hsome] at hstopped
      cases hstopped
    · exact ⟨hempty.mpr hleft, hend rfl⟩
  · rintro ⟨hleft, hend⟩
    exact ⟨count, rest, Nat.le_refl _, hsome, hempty.mp hleft,
      fun hlt => absurd hlt (Nat.lt_irrefl _), fun _ => hend⟩

variable {options : ReplicationServerOptions} {settings : SyncSettings}

/-- What `rediscover` leaves of a world whose session has made no entity that is left. -/
theorem rediscover_inStep {w : ReplayWorld R} (hserver : ReplayServer options settings world.server)
    (howns : ReplayWorld.OwnsNew world.registry w) (hsame : w.server = world.server) (hempty : w.entities = [])
    (hthrown : w.rediscover.thrown = none) :
    w.rediscover.server.core.frame = world.server.core.frame ∧
      ((∀ e a, w.rediscover.server.core.Replicates e a ↔ world.server.core.Replicates e a) ↔ world.InStep) := by
  have hliving : ∀ e, alive w.registry e = alive world.registry e := fun e => by
    have hliving := howns.living e
    rwa [hempty, List.map_nil, or_iff_left List.not_mem_nil, ← Bool.eq_iff_iff] at hliving
  unfold ReplayWorld.rediscover at hthrown ⊢
  split at hthrown
  · rename_i server hstep
    rw [hsame] at hstep
    have hfound := fun e a => hserver.tables.rediscoverAll_replicates e a (viewSound w.registry) hstep
    refine ⟨(hfound default 0).1, ?_⟩
    unfold ReplayWorld.InStep
    refine forall_congr' fun e => forall_congr' fun a => ?_
    rw [(hfound e a).2, rediscovered_congr hliving howns.same]
    exact Iff.comm
  · cases hthrown

theorem rediscover_registry (w : ReplayWorld R) : w.rediscover.registry = w.registry := by
  unfold ReplayWorld.rediscover
  split <;> rfl

omit [ReplayRegistry R] in
theorem setFrameWithoutBroadcast_spec {w w' : ReplayWorld R} {frame : SyncFrame} {began : Bool}
    (h : w.setFrameWithoutBroadcast frame = (began, w')) (hthrown : w'.thrown = none) :
    w'.registry = w.registry ∧ w.thrown = none ∧
      (frame = 0 ∧ w'.server.core = w.server.core ∨ frame ≠ 0 ∧
      w'.server.core = { w.server.core with frame }) := by
  unfold ReplayWorld.setFrameWithoutBroadcast at h
  split at h
  · rename_i hwhy
    obtain ⟨-, rfl⟩ := Prod.mk.inj h
    rw [hthrown, Option.isSome_none, Bool.false_or, decide_eq_true_eq] at hwhy
    exact ⟨rfl, hthrown, .inl ⟨hwhy, rfl⟩⟩
  · rename_i hwhy
    obtain ⟨-, rfl⟩ := Prod.mk.inj h
    rw [Bool.or_eq_true, decide_eq_true_eq, not_or] at hwhy
    exact ⟨rfl, hthrown, .inr ⟨hwhy.2, rfl⟩⟩

/-- A start that fails leaves the replay world as it was exactly where it is traceless. -/
theorem failed_start_leaves_world_iff (applyCues : ReplicationReplayFrame → ReplayWorld R → Bool × ReplayWorld R)
    (advanceFrame : SyncFrame → ReplayWorld R → Bool × ReplayWorld R) (streamer : ReplicationReplayStreamer)
    (focusFrame : SyncFrame) (network : Option ReplicationReplayNetworkSessionOptions)
    (session : ReplicationReplayStreamSession) (world : ReplayWorld R)
    (hserver : ReplayServer options settings world.server) :
    let started := streamer.startSession (replayStage applyCues advanceFrame) focusFrame network session world
    (StartFailed started → LeftAsItWas world started) ↔
      (StartFailed started → StartTraceless streamer focusFrame session world) := by
  intro started
  refine forall_congr' fun hfailed => ?_
  have hsession : ∀ {session' w'}, streamer.beginSession (replayStage applyCues advanceFrame) focusFrame
      session world =
      (false, session', w') → started = (false, session', w') :=
        fun h => startSession_of_false streamer focusFrame session world h
  unfold StartTraceless
  cases hcopy : streamer.sessionCopy focusFrame with
  | none =>
    rw [hsession (beginSession_none applyCues advanceFrame streamer focusFrame session world hcopy)]
    dsimp only
    exact ⟨fun h => ⟨h.inactive, h.ownsNone⟩, fun ⟨hinactive, hnone⟩ =>
      ⟨fun _ => rfl, fun e _ => .refl _ e, fun _ _ => Iff.rfl, rfl, hinactive, hnone⟩⟩
  | some frames =>
    cases frames with
    | nil =>
      rw [hsession (beginSession_nil applyCues advanceFrame streamer focusFrame session world hcopy)]
      exact ⟨fun _ => trivial, fun _ => ⟨fun _ => rfl, fun e _ => .refl _ e, fun _ _ => Iff.rfl, rfl, rfl, rfl⟩⟩
    | cons first rest =>
      have hbegin {applied w} :=
        @beginSession_cons R _ applyCues advanceFrame streamer focusFrame session world first rest
        hcopy applied w
      cases hcount : readBits 16 first.payload with
      | none =>
        rw [hsession ((hbegin (applyFrame_unread _ hcount)).1 rfl)]
        simp only [hcount]
        exact ⟨fun _ => trivial, fun _ => ⟨fun _ => rfl, fun e _ => .refl _ e, fun _ _ => Iff.rfl,
          rfl, rfl, rfl⟩⟩
      | some r =>
        obtain ⟨count, stream⟩ := r
        simp only [hcount]
        have hdone := (ReplayWorld.OwnsNew.start ({ world with entities := [] } : ReplayWorld R) rfl).applyRecords
          first.frame count [] stream
        have howns : ReplayWorld.OwnsNew world.registry _ := hdone.owns
        have hserver' : _ = world.server := hdone.server
        obtain ⟨happly, hset, hgo⟩ := hbegin (applyFrame_eq rfl hcount)
        cases hend : (({ world with entities := [] } : ReplayWorld R).applyRecords first.frame count [] stream).2.2 with
        | none =>
          rw [hend] at happly
          rw [hsession (happly rfl), leftAsItWas_iff howns rfl, traceless_failed hend, hserver']
          exact and_iff_left ⟨fun _ _ => Iff.rfl, rfl⟩
        | some left =>
          rw [hend] at hset hgo
          rw [traceless_applied hend]
          generalize (({ world with entities := [] } : ReplayWorld R).applyRecords first.frame count [] stream).1 = w
            at howns hserver' hset hgo ⊢
          obtain ⟨began, w', hframe⟩ : ∃ began w', w.rediscover.setFrameWithoutBroadcast first.frame =
              (began, w') := ⟨_, _, rfl⟩
          have hforgot : started = (false, {}, { w' with entities := [] }) := by
            cases began with
            | false => exact hsession (hset rfl w' hframe)
            | true =>
              obtain ⟨session', htrue⟩ := hgo rfl w' hframe
              exact startSession_of_true applyCues advanceFrame streamer focusFrame session world htrue hfailed
          rw [hforgot] at hfailed ⊢
          obtain ⟨hregistry, hthrown, hcore⟩ := setFrameWithoutBroadcast_spec hframe hfailed.2
          rw [leftAsItWas_iff howns (hregistry.trans (rediscover_registry w))]
          refine and_congr_right fun hempty => ?_
          obtain ⟨hsameFrame, hinStep⟩ := rediscover_inStep hserver howns hserver' hempty hthrown
          rcases hcore with ⟨hzero, hcore⟩ | ⟨hzero, hcore⟩
          · rw [hcore, hinStep, hsameFrame]
            exact and_congr_right fun _ => iff_of_true rfl (.inl hzero)
          · rw [hcore,
              show (∀ e a, ({ w.rediscover.server.core with frame := first.frame } : ServerCore).Replicates e a ↔
              _) ↔
              _ from hinStep]
            exact and_congr_right fun _ => ⟨fun heq => .inr heq.symm, fun h => (h.resolve_left hzero).symm⟩

end

namespace Sample

/-! ## A start that leaks -/

structure Rows where
  next : Nat := 0
  rows : List Entity := []
  bounded : ∀ e ∈ rows, e.index < next := by nofun
  indices : ∀ a ∈ rows, ∀ b ∈ rows, a.index = b.index → a = b := by nofun
  values : Entity → ComponentId → Option Bytes := fun _ _ => none
  tags : Entity → ComponentId → Bool := fun _ _ => false
  archetypes : Entity → Option SyncArchetypeId := fun _ => none

namespace Rows

def made (t : Rows) : Entity := ⟨t.next, 1⟩

theorem made_notMem (t : Rows) : t.made ∉ t.rows := fun h => Nat.lt_irrefl t.next (t.bounded t.made h)

def create (t : Rows) : Rows where
  next := t.next + 1
  rows := t.made :: t.rows
  bounded e h := by
    rcases List.mem_cons.mp h with rfl | hold
    · exact Nat.lt_succ_self t.next
    · exact Nat.lt_succ_of_lt (t.bounded e hold)
  indices a ha b hb hindex := by
    rcases List.mem_cons.mp ha with rfl | ha
    · rcases List.mem_cons.mp hb with rfl | hb
      · rfl
      · exact absurd (t.bounded b hb) (Nat.not_lt.mpr hindex.le)
    · rcases List.mem_cons.mp hb with rfl | hb
      · exact absurd (t.bounded a ha) (Nat.not_lt.mpr hindex.ge)
      · exact t.indices a ha b hb hindex
  values e c := if e = t.made then none else t.values e c
  tags e c := !decide (e = t.made) && t.tags e c
  archetypes e := if e = t.made then none else t.archetypes e

def destroy (t : Rows) (e : Entity) : Rows where
  next := t.next
  rows := t.rows.filter fun e' => e' != e
  bounded e' h := t.bounded e' (List.mem_of_mem_filter h)
  indices a ha b hb := t.indices a (List.mem_of_mem_filter ha) b (List.mem_of_mem_filter hb)
  values := t.values
  tags := t.tags
  archetypes := t.archetypes

instance : LocalRegistry Rows where
  alive t e := decide (e ∈ t.rows)
  get := values
  hasTag := tags
  create t := (t.create, t.made)
  destroy := destroy
  set t e c v := { t with values := fun e' c' => if e' = e ∧ c' = c then some v else t.values e' c' }
  remove t e c := { t with values := fun e' c' => if e' = e ∧ c' = c then none else t.values e' c' }
  addTag t e tag := some { t with tags := fun e' tag' => decide (e' = e ∧ tag' = tag) || t.tags e' tag' }
  removeTag t e tag := { t with tags := fun e' tag' => !decide (e' = e ∧ tag' = tag) && t.tags e' tag' }
  create_fresh t := decide_eq_false t.made_notMem
  alive_create t e := by simp [Rows.create]
  get_create _ _ _ := rfl
  hasTag_create _ _ _ := rfl
  alive_destroy t e e' := by simp [Rows.destroy, Bool.and_comm]
  get_destroy _ _ _ _ _ := rfl
  hasTag_destroy _ _ _ _ _ := rfl
  alive_set _ _ _ _ _ := rfl
  get_set _ _ _ _ _ _ := rfl
  hasTag_set _ _ _ _ _ _ := rfl
  alive_remove _ _ _ _ := rfl
  get_remove _ _ _ _ _ := rfl
  hasTag_remove _ _ _ _ _ := rfl
  alive_addTag _ _ _ _ _ h := by cases h; rfl
  get_addTag _ _ _ _ _ _ h := by cases h; rfl
  hasTag_addTag _ _ _ _ _ _ h := by cases h; rfl
  alive_removeTag _ _ _ _ := rfl
  get_removeTag _ _ _ _ _ := rfl
  hasTag_removeTag _ _ _ _ _ := rfl

def view (t : Rows) : Registry where
  alive e := decide (e ∈ t.rows)
  replicated := t.archetypes
  replicatedView := t.rows.filter fun e => (t.archetypes e).isSome
  networkOwner _ := none
  get := t.values
  hasTag := t.tags

instance : ReplayRegistry Rows where
  view := view
  setReplicated t e a := { t with archetypes := fun e' => if e' = e then some a else t.archetypes e' }
  view_alive _ := rfl
  visited t e := by simp [view, alive]
  alive_index t a b ha hb := t.indices a (of_decide_eq_true ha) b (of_decide_eq_true hb)
  alive_setReplicated _ _ _ _ := rfl
  setReplicated_on t e e' a he := ⟨rfl, if_neg he, rfl, rfl, rfl⟩
  create_on t e he := ⟨decide_eq_decide.mpr (List.mem_cons.trans (or_iff_right he)), if_neg he, rfl,
    funext fun c => if_neg he, funext fun c => by
      show (!decide (e = t.made) && t.tags e c) = t.tags e c
      rw [decide_eq_false (show e ≠ t.made from he), Bool.not_false, Bool.true_and]⟩
  destroy_on t e e' he :=
    ⟨decide_eq_decide.mpr (List.mem_filter.trans (and_iff_left (bne_iff_ne.mpr he))), rfl, rfl, rfl, rfl⟩
  set_on t e e' c v he := ⟨rfl, rfl, rfl, funext fun c' => if_neg fun h => he h.1, rfl⟩
  remove_on t e e' c he := ⟨rfl, rfl, rfl, funext fun c' => if_neg fun h => he h.1, rfl⟩
  addTag_on t t' e e' tag h he := by
    cases h
    exact ⟨rfl, rfl, rfl, rfl, funext fun tag' => by simp [view, he]⟩
  removeTag_on t e e' tag he := ⟨rfl, rfl, rfl, rfl, funext fun tag' => by simp [view, removeTag, he]⟩

end Rows

end Sample

namespace StartSample

def options : ReplicationServerOptions where
  floats := { lt := fun _ _ => false, add := fun a _ => a, sub := fun a _ => a, relevanceFrames := fun _ => none }

def settings : SyncSettings where
  archetypes := [{ tags := [], components := [] }]
  componentOps := []
  cueOps := []

def stage : ReplayStage (ReplayWorld Sample.Rows) :=
  replayStage (fun _ world => (true, world)) fun _ world => (true, world)

def world : ReplayWorld Sample.Rows where
  registry := {}
  server := .start options settings

def cutFrame (archetype : SyncArchetypeId) : ReplicationReplayFrame where
  frame := 1
  payload := bits 2 16 ++ false :: bits 5 32 ++ bits archetype 32 ++ bits 0 64 ++ bits 0 64 ++ bits 0 16

def streamer (archetype : SyncArchetypeId) : ReplicationReplayStreamer :=
  (ReplicationReplayStreamer.new {}).pushFrame (cutFrame archetype)

/-- The cut off record fails behind an update that made an entity, which is left. -/
theorem failed_start_leaks :
    ¬(StartFailed ((streamer 0).startSession stage 1 none {} world) →
      LeftAsItWas world ((streamer 0).startSession stage 1 none {} world)) := by
  intro h
  have hfailed : (((streamer 0).startSession stage 1 none {} world).1 = false ∧
      ((streamer 0).startSession stage 1 none {} world).2.2.thrown = none) ∧
      ¬(LocalRegistry.alive ((streamer 0).startSession stage 1 none {} world).2.2.registry ⟨0, 1⟩ =
        LocalRegistry.alive world.registry ⟨0, 1⟩) := by
    decide +kernel
  exact hfailed.2 ((h hfailed.1).living ⟨0, 1⟩)

theorem world_server : ReplayServer options settings world.server := .start

theorem cutFrame_read : (streamer 7).sessionCopy 1 = some [cutFrame 7] ∧
    readBits 16 (cutFrame 7).payload = some (2, (cutFrame 7).payload.drop 16) ∧
    readReplayRecordHeader ((cutFrame 7).payload.drop 16) = some (.update 5 7 0 0, bits 0 16) ∧
    ((streamer 7).startSession stage 1 none {} world).1 = false ∧
    ((streamer 7).startSession stage 1 none {} world).2.2.thrown = none := by
  decide +kernel

/-- An update of an archetype that is not defined is refused before anything is made. -/
theorem failed_start_leaves_world_refused :
    StartFailed ((streamer 7).startSession stage 1 none {} world) ∧
      LeftAsItWas world ((streamer 7).startSession stage 1 none {} world) := by
  obtain ⟨hcopy, hcount, hheader, hstopped, hthrown⟩ := cutFrame_read
  have hfailed : StartFailed ((streamer 7).startSession stage 1 none {} world) := ⟨hstopped, hthrown⟩
  have hiff :=
    failed_start_leaves_world_iff (fun _ world => (true, world)) (fun _ world => (true, world)) (streamer 7) 1
    none {} world world_server
  refine ⟨hfailed, hiff.mpr (fun _ => ?_) hfailed⟩
  unfold StartTraceless
  rw [hcopy]
  simp only [hcount]
  refine ⟨0, _, Nat.zero_le _, rfl, rfl, fun _ header rest hread => ?_, fun heq => ?_⟩
  · rw [hheader] at hread
    exact ⟨5, 7, 0, 0, (Prod.mk.inj (Option.some.inj hread)).1.symm, .inr (by decide)⟩
  · cases heq

end StartSample

end AshiatoSync
