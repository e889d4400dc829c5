import AshiatoSync.ReplayRunSound

/-!
# The entities of a replay

An empty session that is given written frames from a full one on has a copy of each
entity that the server replicates, under the id of its slot, and nothing else.  A
frame that is to have an entity without tags and components is no use: the header of
its record is written before that is found out.  Nor is a full frame that gives a
slot to another archetype: it destroys nothing, and the session's entity keeps what
the archetype does not name.
-/

namespace AshiatoSync

open BitCodec LocalRegistry ReplayRegistry ReplayWorld ReplicationServer

/-! ## Entities with something to write -/

/-- The entity has a component of its archetype, or its archetype has tags. -/
def ReplicatedSlot.HasContent (settings : SyncSettings) (registry : Registry) (replicated : ReplicatedSlot) : Prop :=
  ∃ definition, settings.archetypes[replicated.archetype]? = some definition ∧
    (definition.tags ≠ [] ∨ ∃ c ∈ definition.components, (registry.get replicated.entity c.component).isSome)

section

variable {registry : Registry} {archetype : SyncArchetype} {entity : Entity} {core : ServerCore} {slot : Nat}
  {replicated : ReplicatedSlot}

end

/-! ## Copies and no more -/

/-- `copy` has the archetype, the tags and the components of the entity, and no component of an entity before it. -/
structure SameCopy {R : Type} [ReplayRegistry R] (settings : SyncSettings) (registry : Registry)
    (replicated : ReplicatedSlot) (r : R) (copy : Entity) : Prop where
  archetype : (view r).replicated copy = some replicated.archetype
  tags : ∀ definition, settings.archetypes[replicated.archetype]? = some definition → ∀ t ∈ definition.tags,
    hasTag r copy t.tag = registry.hasTag replicated.entity t.tag
  components : ∀ definition, settings.archetypes[replicated.archetype]? = some definition →
    ∀ c ∈ definition.components, get r copy c.component =
      (registry.get replicated.entity c.component).bind fun value => c.ops.pushToRegistry (c.ops.quantize value)
  only : ∀ definition, settings.archetypes[replicated.archetype]? = some definition →
    ∀ component, (∀ c ∈ definition.components, c.component ≠ component) → get r copy component = none

/-- The slot is replicable, and there is something of its entity to write. -/
def ServerCore.Written (core : ServerCore) (registry : Registry) (slot : Nat) (replicated : ReplicatedSlot) : Prop :=
  core.replicated[slot]? = some replicated ∧ core.replicatedIsReplicable registry slot = true ∧
    replicated.HasContent core.settings registry

/-- The session's entities are the copies of the written entities, each under the id of its slot. -/
structure RoundTrip {R : Type} [ReplayRegistry R] (core : ServerCore) (registry : Registry) (world : ReplayWorld R) :
    Prop where
  ids : (world.entities.map Prod.fst).Nodup
  distinct : (world.entities.map Prod.snd).Nodup
  copied : ∀ slot replicated, core.Written registry slot replicated → ∃ copy, (slot + 1, copy) ∈ world.entities
  copies : ∀ id copy, (id, copy) ∈ world.entities → ∃ slot replicated, id = slot + 1 ∧
    core.Written registry slot replicated ∧ SameCopy core.settings registry replicated world.registry copy

section

variable {R : Type} [ReplayRegistry R] {options : ReplicationServerOptions} {settings : SyncSettings}
  {s : ReplicationServer} {registry : Registry} {writer : ReplicationReplayWriter} {frames : List WrittenFrame}
  {seen : List ServerRegistryDirtyFrame}

end

namespace Sample

end Sample

namespace Sample

def other : Entity := ⟨2, 1⟩

end Sample

namespace Sample

def reusedSettings : SyncSettings := { sizedSettings with
  archetypes := [
    { tags := [], components := [{ component := 0, audience := .all, ops := sizedOps }] },
    { tags := [], components := [{ component := 1, audience := .all, ops := sizedOps }] }] }

theorem reusedSettings_component {definition : SyncArchetype} (hdef : definition ∈ reusedSettings.archetypes)
    {c : ComponentReplication} (hc : c ∈ definition.components) :
    c.ops = sizedOps ∧ c.component ∈ reusedSettings.componentOps := by
  rcases List.mem_pair.mp hdef with rfl | rfl
  · obtain rfl := List.mem_singleton.mp hc
    exact ⟨rfl, by decide⟩
  · obtain rfl := List.mem_singleton.mp hc
    exact ⟨rfl, by decide⟩

theorem reusedSettings_replayable : reusedSettings.Replayable Rows :=
  replayable_of_sizedOps (fun _ hdef _ hc => (reusedSettings_component hdef hc).1) (by decide) (by decide)

/-- One replicated entity. -/
def placed (e : Entity) (archetype : SyncArchetypeId) : Registry := { registry [e] [some 7, some 9] with
  replicated := fun e' => if e' = e then some archetype else none }

theorem eq_of_placed {e e' : Entity} {archetype : SyncArchetypeId} (h : (placed e archetype).Replicable e') : e' = e :=
  List.mem_singleton.mp (of_decide_eq_true h.1)

def reusedStart : Replayed where
  server := .start options reusedSettings
  writer := { fullFrameIntervalFrames := 1, writeIntervalFrames := 1 }

def Replayed.place (replayed : Replayed) (frame : SyncFrame) (e : Entity) (archetype : SyncArchetypeId)
    (removed : List Entity) : Option (Replayed × ServerRegistryDirtyFrame) :=
  match replayed.server.exec (.advance frame (placed e archetype) (dirtyView [] [e] removed) []),
    replayed.server.dirtyFrame frame (placed e archetype) (dirtyView [] [e] removed) [] with
  | .ok server, .ok f => some ({
      server
      writer := (replayed.writer.onServerRegistryDirtyFrame f).1
      frames := replayed.frames ++ replayed.writer.writtenFrame f
      seen := replayed.seen ++ [f] }, f)
  | _, _ => none

theorem Replayed.place_run {replayed replayed' : Replayed} {f : ServerRegistryDirtyFrame} {frame : SyncFrame}
    {before : Registry} {e : Entity} {archetype : SyncArchetypeId} {removed : List Entity}
    (h : ReplayedRun options reusedSettings replayed.server before replayed.writer replayed.frames replayed.seen)
    (hplace : replayed.place frame e archetype removed = some (replayed', f)) (hfits : replayed.fits f = true)
    (hnew : ¬before.Replicable e) (hremoved : ∀ e', before.Replicable e' → e' ∈ removed) :
    ReplayedRun options reusedSettings replayed'.server (placed e archetype) replayed'.writer replayed'.frames
      replayed'.seen := by
  have hnone : ∀ e', before.Replicable e' → ¬(placed e archetype).Replicable e' := fun e' hbefore hafter =>
    hnew (eq_of_placed hafter ▸ hbefore)
  unfold Replayed.place at hplace
  split at hplace
  · rename_i server f' hexec hframe
    obtain ⟨rfl, rfl⟩ := Prod.mk.inj (Option.some.inj hplace)
    refine .dirtyFrame h ⟨fun e' _ hbefore hafter => absurd hafter (hnone e' hbefore),
      fun e' _ hbefore hafter => absurd hafter (hnone e' hbefore), fun e' hbefore => .inr (hremoved e' hbefore)⟩
      (fun definition hdef c hc => .inl (reusedSettings_component hdef hc).2) (fun _ hcue => (by cases hcue)) hexec
      hframe fun _ => Replayed.writable hfits
  · cases hplace

/-- The second entity takes the slot of the first, which is removed, and has another archetype. -/
def reused : Option (Replayed × ServerRegistryDirtyFrame × Replayed × ServerRegistryDirtyFrame) := do
  let (first, f) ← reusedStart.place 1 entity 0 []
  let (second, f') ← first.place 2 other 1 [entity]
  return (first, f, second, f')

def reusedWorld : ReplayWorld Rows := { replayWorld with server := .start options reusedSettings }

def keepsComponent (frames : List WrittenFrame) : Bool :=
  (frames.map fun written => written.frame.kind) == [.full, .full] &&
    (ReplayWorld.applyFrames (frames.map WrittenFrame.frame) reusedWorld).1 &&
    (ReplayWorld.applyFrames (frames.map WrittenFrame.frame) reusedWorld).2.held 1 0 == some [7] &&
    frames.getLast?.any fun last => (last.core.replicated.map ReplicatedSlot.archetype) == [1] &&
      last.core.settings.archetypes.map (fun definition => definition.components.map ComponentReplication.component) ==
        [[0], [1]]

theorem reused_keeps : (reused.any fun (first, f, second, f') =>
    reusedStart.fits f && first.fits f' && keepsComponent second.frames) = true := by
  decide +kernel

theorem reused_run : ∃ replayed : Replayed, keepsComponent replayed.frames = true ∧
    ReplayedRun options reusedSettings replayed.server (placed other 1) replayed.writer replayed.frames
      replayed.seen := by
  obtain ⟨⟨first, f, second, f'⟩, hreused, hkeeps⟩ := (Option.any_eq_true _ _).mp reused_keeps
  simp only [Bool.and_eq_true] at hkeeps
  obtain ⟨⟨hfits, hfits'⟩, hkeeps⟩ := hkeeps
  simp only [reused, Option.bind_eq_bind, Option.bind_eq_some_iff, Option.pure_def, Option.some.injEq, Prod.mk.injEq,
    Prod.exists] at hreused
  obtain ⟨first, f, hfirst, second, f', hsecond, rfl, rfl, rfl, rfl⟩ := hreused
  have hempty : ∀ e, ¬(registry [] []).Replicable e := fun e h => by
    have hin : e ∈ ([] : List Entity) := of_decide_eq_true h.1
    cases hin
  have hstart : ReplayedRun options reusedSettings reusedStart.server (registry [] []) reusedStart.writer [] [] :=
    .attach 1 1 (.start _)
  have hrun := Replayed.place_run hstart hfirst hfits (hempty _) fun e h => absurd h (hempty e)
  have hother : ¬(placed entity 0).Replicable other := fun h => by cases eq_of_placed h
  exact ⟨second, hkeeps, Replayed.place_run hrun hsecond hfits' hother fun e h =>
    List.mem_singleton.mpr (eq_of_placed h)⟩

theorem not_roundTrip_of_keeps {frames : List WrittenFrame} (h : keepsComponent frames = true) :
    ∃ last ∈ frames.getLast?, ∃ world', ReplayWorld.applyFrames (frames.map WrittenFrame.frame) reusedWorld =
      (true, world') ∧ ¬RoundTrip last.core last.registry world' := by
  simp only [keepsComponent, Bool.and_eq_true, beq_iff_eq] at h
  obtain ⟨⟨⟨-, happlied⟩, hheld⟩, hlast⟩ := h
  obtain ⟨last, hlast, hslots⟩ := (Option.any_eq_true _ _).mp hlast
  simp only [Bool.and_eq_true, beq_iff_eq] at hslots
  obtain ⟨hslots, harchetypes⟩ := hslots
  refine ⟨last, hlast, _, Prod.ext happlied rfl, fun htrip => ?_⟩
  obtain ⟨copy, hcopy, hget⟩ := Option.bind_eq_some_iff.mp hheld
  obtain ⟨slot, replicated, hslot, ⟨hr, -⟩, hsame⟩ := htrip.copies 1 copy (mem_of_lookup hcopy)
  obtain rfl : slot = 0 := (Nat.succ.inj hslot).symm
  have harchetype : [1][0]? = some replicated.archetype := by
    rw [← hslots, List.getElem?_map, hr, Option.map_some]
  obtain ⟨definition, hdef, hcomponents⟩ : ∃ definition, last.core.settings.archetypes[1]? = some definition ∧
      definition.components.map ComponentReplication.component = [1] := by
    have hsecond := congrArg (fun archetypes => archetypes[1]?) harchetypes
    simp only [List.getElem?_map] at hsecond
    exact Option.map_eq_some_iff.mp hsecond
  have hnone := hsame.only definition (Option.some.inj harchetype ▸ hdef) 0 fun c hc hzero => by
    have hin := List.mem_map_of_mem (f := ComponentReplication.component) hc
    rw [hcomponents, hzero] at hin
    cases List.mem_singleton.mp hin
  rw [hnone] at hget
  cases hget

end Sample

/-- The entity of the first frame had a component that the archetype of the second does not name. -/
theorem replay_round_trip_reused : Sample.reusedSettings.Replayable Sample.Rows ∧ Sample.reusedWorld.entities = [] ∧
    ∃ s registry writer frames seen,
      ReplayedRun Sample.options Sample.reusedSettings s registry writer frames seen ∧ ∃ last ∈ frames.getLast?,
      ∃ world', ReplayWorld.applyFrames (frames.map WrittenFrame.frame) Sample.reusedWorld = (true, world') ∧
        ¬RoundTrip last.core last.registry world' := by
  obtain ⟨replayed, hkeeps, hrun⟩ := Sample.reused_run
  exact ⟨Sample.reusedSettings_replayable, rfl, _, _, _, _, _, hrun, Sample.not_roundTrip_of_keeps hkeeps⟩

end AshiatoSync
