import AshiatoSync.ReplayRecordSound
import AshiatoSync.ReplayFateSound

/-!
# Sessions mirror the server

A session that applies a written frame has a copy of each entity that the writer's
server replicates, under the id of its slot, and no other: after a full frame
whatever was there before, after a delta where the session was a mirror at the
frame before and the writer collected every slot that changed.
-/

namespace AshiatoSync

open BitCodec LocalRegistry ReplayRegistry ReplayWorld

/-- The session has a copy under the slot's replay id, or nothing when the slot has nothing to be replicated. -/
structure MirrorsSlot {R : Type} [ReplayRegistry R] (core : ServerCore) (registry : Registry) (world : ReplayWorld R)
    (slot : Nat) :
    Prop where
  copy : core.replicatedIsReplicable registry slot = true → ∀ replicated, core.replicated[slot]? =
    some replicated →
    ∃ copy, world.entities.lookup (slot + 1) = some copy ∧
    CopyOf core.settings registry replicated world.registry copy
  gone : core.replicatedIsReplicable registry slot = false → world.entities.lookup (slot + 1) = none

structure Mirrors {R : Type} [ReplayRegistry R] (core : ServerCore) (registry : Registry) (world : ReplayWorld R) :
    Prop where
  slots : ∀ slot, MirrorsSlot core registry world slot
  zero : world.entities.lookup 0 = none

/-- What the copy of a replicated slot holds besides the components of the slot's archetype. -/
def OthersHeld {R : Type} [ReplayRegistry R] (core : ServerCore) (registry : Registry)
    (held : ComponentId → Option Bytes) (world : ReplayWorld R) (slot : Nat) : Prop :=
  core.replicatedIsReplicable registry slot = true → ∀ replicated, core.replicated[slot]? = some replicated →
  ∀ definition, core.settings.archetypes[replicated.archetype]? = some definition →
  ∀ component, (∀ c ∈ definition.components, c.component ≠ component) →
    world.held (slot + 1) component = held component

structure RecordsApplied {R : Type} [ReplayRegistry R] (before : R) (frame : SyncFrame) (bits rest : Bits)
    (slots : List Nat) (count : Nat) (world : ReplayWorld R) (ids : List Nat) (world' : ReplayWorld R)
    (ids' : List Nat) : Prop where
  applied : world.applyRecords frame count ids (bits ++ rest) = (world', ids', some rest)
  owns : OwnsNew before world'
  server : world'.server = world.server
  others : ∀ i, (∀ slot ∈ slots, i ≠ slot + 1) → Unmoved world world' i

section

variable {R : Type} [ReplayRegistry R] {core : ServerCore} {registry : Registry} {before : R} {frame : SyncFrame}
  {bits more rest : Bits} {slots : List Nat} {count slot : Nat} {world world' world₁ : ReplayWorld R} {ids ids'
    ids₁ : List Nat}

theorem MirrorsSlot.of_unmoved [LawfulReplay R] (h : MirrorsSlot core registry world slot)
    (hsame : Unmoved world world' (slot + 1)) :
    MirrorsSlot core registry world' slot where
  copy hreplicable replicated hr := by
    obtain ⟨copy, hcopy, hof⟩ := h.copy hreplicable replicated hr
    exact ⟨copy, hsame.lookup.trans hcopy, hof.of_sameOn (hsame.same copy hcopy)⟩
  gone hnot := hsame.lookup.trans (h.gone hnot)

theorem OthersHeld.of_unmoved [LawfulReplay R] {held : ComponentId → Option Bytes}
    (h : OthersHeld core registry held world slot) (hsame : Unmoved world world' (slot + 1)) :
    OthersHeld core registry held world' slot :=
  fun hreplicable replicated hr definition hdef component hother =>
    (hsame.held component).trans (h hreplicable replicated hr definition hdef component hother)

theorem OthersHeld.refl : OthersHeld core registry (world.held (slot + 1)) world slot :=
  fun _ _ _ _ _ _ _ => rfl

theorem OthersHeld.trans {held : ComponentId → Option Bytes} (h : OthersHeld core registry held world slot)
    (h' : OthersHeld core registry (world.held (slot + 1)) world' slot) :
    OthersHeld core registry held world' slot :=
  fun hreplicable replicated hr definition hdef component hother =>
    (h' hreplicable replicated hr definition hdef component hother).trans
      (h hreplicable replicated hr definition hdef component hother)

theorem RecordsApplied.nil (h : OwnsNew before world) : RecordsApplied before frame [] rest [] 0 world ids world ids :=
  ⟨rfl, h, rfl, fun i _ => .refl world i⟩

theorem RecordsApplied.widen (h : RecordsApplied before frame bits rest slots count world ids world' ids')
    (slot : Nat) :
    RecordsApplied before frame bits rest (slot :: slots) count world ids world' ids' :=
  ⟨h.applied, h.owns, h.server, fun i hi => h.others i fun s hs => hi s (List.mem_cons_of_mem _ hs)⟩

theorem RecordsApplied.cons
    (hone : world.applyRecord frame ids (bits ++ (more ++ rest)) = (world₁, ids₁, some (more ++ rest)))
    (hserver : world₁.server = world.server) (hothers : ∀ i, i ≠ slot + 1 → Unmoved world world₁ i)
    (h : RecordsApplied before frame more rest slots count world₁ ids₁ world' ids') :
    RecordsApplied before frame (bits ++ more) rest (slot :: slots) (count + 1) world ids world' ids' where
  applied := by
    rw [List.append_assoc, ReplayWorld.applyRecords, hone]
    exact h.applied
  owns := h.owns
  server := h.server.trans hserver
  others i hi :=
    (hothers i (hi slot List.mem_cons_self)).trans (h.others i fun s hs => hi s (List.mem_cons_of_mem _ hs))

theorem applyRecords_append (frame : SyncFrame) (n : Nat) :
    ∀ (m : Nat) {world : ReplayWorld R} {ids : List Nat} {stream rest : Bits},
    world.applyRecords frame m ids stream = (world₁, ids₁, some rest) →
    world.applyRecords frame (m + n) ids stream = world₁.applyRecords frame n ids₁ rest
  | 0, _, _, _, _, h => by
    simp only [ReplayWorld.applyRecords, Prod.mk.injEq, Option.some.injEq] at h
    rw [Nat.zero_add, h.1, h.2.1, h.2.2]
  | m + 1, world, ids, stream, rest, h => by
    rw [Nat.add_right_comm, ReplayWorld.applyRecords]
    rw [ReplayWorld.applyRecords] at h
    split at h
    · cases h
    · exact applyRecords_append frame n m h

/-! ## The destroyed slots -/

theorem writeDestroyedSlots_emitted (core : ServerCore) :
    ∀ (destroyed : List (Nat × Entity)) (emitted : List Nat) (count : Nat),
    ∀ slot ∈ (writeDestroyedSlots core destroyed emitted count).2.1, slot ∈ emitted ∨
    slot ∈ destroyed.map Prod.fst
  | [], _, _, _, h => .inl h
  | (first, _) :: destroyed, emitted, count, slot, h => by
    rw [writeDestroyedSlots] at h
    split at h
    · exact .inl h
    split at h
    · exact (writeDestroyedSlots_emitted core destroyed emitted count slot h).imp_right (List.mem_cons_of_mem _)
    · rcases writeDestroyedSlots_emitted core destroyed _ _ slot h with hin | hin
      · split at hin
        · rcases List.mem_cons.mp hin with rfl | hin
          · exact .inr List.mem_cons_self
          · exact .inl hin
        · exact .inl hin
      · exact .inr (List.mem_cons_of_mem _ hin)

/-- The records of the destroyed slots, where `record_count` does not stop the loop. -/
def destroyRecords (core : ServerCore) : List (Nat × Entity) → List Nat → Nat
  | [], _ => 0
  | (slot, _) :: destroyed, emitted =>
    if emitted.contains slot then destroyRecords core destroyed emitted
    else destroyRecords core destroyed (if slot < core.replicated.length then slot :: emitted else emitted) + 1

theorem emitted_of_destroyRecords (core : ServerCore) : ∀ (destroyed : List (Nat × Entity)) (emitted : List Nat),
    destroyRecords core destroyed emitted = 0 → ∀ slot ∈ destroyed.map Prod.fst, slot ∈ emitted
  | [], _, _, _, h => by cases h
  | (first, _) :: destroyed, emitted, hzero, slot, h => by
    rw [destroyRecords] at hzero
    split at hzero
    · rename_i hagain
      rcases List.mem_cons.mp h with rfl | h
      · exact List.contains_iff_mem.mp hagain
      · exact emitted_of_destroyRecords core destroyed emitted hzero slot h
    · cases hzero

variable (core) in
theorem writeDestroyedSlots_applied (frame : SyncFrame) (rest : Bits) (ids : List Nat) :
    ∀ (destroyed : List (Nat × Entity)) (emitted : List Nat) (count : Nat) {world : ReplayWorld R},
    OwnsNew before world →
    count + destroyRecords core destroyed emitted < 2 ^ 16 → (∀ p ∈ destroyed, p.1 + 1 < 2 ^ 32) →
    (∀ slot ∈ emitted, world.entities.lookup (slot + 1) = none) →
    ∃ n world', (writeDestroyedSlots core destroyed emitted count).2.2 = count + n ∧
      n ≤ destroyRecords core destroyed emitted ∧
      RecordsApplied before frame (writeDestroyedSlots core destroyed emitted count).1 rest
        (destroyed.map Prod.fst) n world ids
        world' ids ∧
      (∀ i, world.entities.lookup i = none → world'.entities.lookup i = none) ∧
      ∀ slot ∈ destroyed.map Prod.fst, world'.entities.lookup (slot + 1) = none
  | [], emitted, count, world, h, _, _, _ => ⟨0, world, rfl, le_rfl, .nil h, fun _ h => h, fun _ h => (by cases h)⟩
  | (slot, entity) :: destroyed, emitted, count, world, h, hroom, hsmall, hemitted => by
    have hsmall' := fun p hp => hsmall p (List.mem_cons_of_mem _ hp)
    rw [writeDestroyedSlots, List.map_cons]
    by_cases hstop : count = 2 ^ 16 - 1
    · -- the loop stops, where all that is left was destroyed already
      rw [if_pos hstop]
      have hzero : destroyRecords core ((slot, entity) :: destroyed) emitted = 0 := by omega
      refine ⟨0, world, rfl, Nat.zero_le _, ⟨rfl, h, rfl, fun i _ => .refl world i⟩, fun _ h => h,
        fun s hs => ?_⟩
      exact hemitted s (emitted_of_destroyRecords core _ _ hzero s hs)
    rw [if_neg hstop]
    rw [destroyRecords] at hroom ⊢
    by_cases hagain : emitted.contains slot = true
    · rw [if_pos hagain] at hroom ⊢
      rw [if_pos hagain]
      obtain ⟨n, world', hn, hle, happlied, hnone, hgone⟩ :=
        writeDestroyedSlots_applied frame rest ids destroyed emitted count h hroom hsmall' hemitted
      refine ⟨n, world', hn, hle, happlied.widen slot, hnone, fun s hs => ?_⟩
      rcases List.mem_cons.mp hs with rfl | hs
      · exact hnone _ (hemitted _ (List.contains_iff_mem.mp hagain))
      · exact hgone s hs
    · rw [if_neg hagain] at hroom ⊢
      rw [if_neg hagain]
      obtain ⟨written, hwritten⟩ : ∃ written, written = if slot < core.replicated.length then slot :: emitted
          else emitted := ⟨_, rfl⟩
      rw [← hwritten] at hroom ⊢
      obtain ⟨world₁, hrecord, howns, hserver, hnone₁, hothers⟩ := applyRecord_destroy ids h frame
        (hsmall (slot, entity) List.mem_cons_self) ((writeDestroyedSlots core destroyed written (count + 1)).1 ++ rest)
      have hkeep : ∀ i, world.entities.lookup i = none → world₁.entities.lookup i = none := fun i hi => by
        by_cases heq : i = slot + 1
        · exact heq ▸ hnone₁
        · exact (hothers i heq).lookup.trans hi
      have hwritten' : ∀ s ∈ written, world₁.entities.lookup (s + 1) = none := fun s hs => by
        rw [hwritten] at hs
        split at hs
        · rcases List.mem_cons.mp hs with rfl | hs
          · exact hnone₁
          · exact hkeep _ (hemitted s hs)
        · exact hkeep _ (hemitted s hs)
      obtain ⟨n, world', hn, hle, happlied, hnone, hgone⟩ :=
        writeDestroyedSlots_applied frame rest ids destroyed written (count + 1) howns (by omega) hsmall' hwritten'
      refine ⟨n + 1, world', ?_, by omega, .cons hrecord hserver hothers happlied,
        fun i hi => hnone i (hkeep i hi), fun s hs => ?_⟩
      · rw [hn]
        omega
      · rcases List.mem_cons.mp hs with rfl | hs
        · exact hnone _ hnone₁
        · exact hgone s hs

/-! ## The slots -/

/-- A slot of the loop over `slots` that has a record. -/
def recordDue (core : ServerCore) (registry : Registry) (full : Bool) (emitted : List Nat) (slot : Nat) : Bool :=
  decide (slot < core.replicated.length) &&
    (core.replicatedIsReplicable registry slot || !(full || emitted.contains slot))

theorem writeSlots_applied [LawfulReplay R] (hset : core.settings.Replayable R) (full : Bool) (emitted : List Nat)
    (rest : Bits) :
    ∀ (slots : List Nat) (count : Nat) {world : ReplayWorld R} (ids : List Nat), OwnsNew before world →
    world.server.core.settings = core.settings →
    count + slots.countP (recordDue core registry full emitted) < 2 ^ 16 →
    (∀ slot ∈ slots, slot + 1 < 2 ^ 32 ∧ slot < core.replicated.length) →
    (∀ slot ∈ slots, core.replicatedIsReplicable registry slot = true →
    (replaySlotBody core registry slot).isSome) →
    (∀ slot, core.replicatedIsReplicable registry slot = false → full = true ∨ slot ∈ emitted →
      slot ∈ slots → world.entities.lookup (slot + 1) = none) →
    ∃ n world' ids', (writeSlots core registry full emitted slots count).2 = count + n ∧
      n ≤ slots.countP (recordDue core registry full emitted) ∧
      RecordsApplied before core.frame (writeSlots core registry full emitted slots count).1 rest slots n world
        ids world' ids' ∧
      (∀ slot ∈ slots, MirrorsSlot core registry world' slot) ∧
      (∀ slot, OthersHeld core registry (world.held (slot + 1)) world' slot) ∧
      ∀ i, i ∈ ids' ↔ i ∈ ids ∨ ∃ slot ∈ slots, core.replicatedIsReplicable registry slot =
        true ∧ i = slot + 1
  | [], count, world, ids, h, _, _, _, _, _ =>
    ⟨0, world, ids, rfl, le_rfl, .nil h, fun _ h => (by cases h), fun _ => .refl, fun i => by simp⟩
  | slot :: slots, count, world, ids, h, hsettings, hroom, hsmall, hbody, hemitted => by
    rw [List.countP_cons] at hroom ⊢
    obtain ⟨hid, hlt⟩ := hsmall slot List.mem_cons_self
    have hsmall' := fun s hs => hsmall s (List.mem_cons_of_mem _ hs)
    have hbody' := fun s hs => hbody s (List.mem_cons_of_mem _ hs)
    have hvalid : ¬(slot = invalidReplaySlot || decide (slot ≥ core.replicated.length)) = true := by
      rw [Bool.or_eq_true, decide_eq_true_eq, decide_eq_true_eq]
      unfold invalidReplaySlot
      omega
    -- what an unmoved slot keeps, and what the rest of the slots must be given
    have hcarry : ∀ {w w' : ReplayWorld R}, MirrorsSlot core registry w slot →
        (∀ s ∈ slots, MirrorsSlot core registry w' s) →
        (∀ i, (∀ s ∈ slots, i ≠ s + 1) → Unmoved w w' i) →
        ∀ s ∈ slot :: slots, MirrorsSlot core registry w' s := fun hfirst hmirrors hothers s hs => by
      by_cases hin : s ∈ slots
      · exact hmirrors s hin
      · obtain rfl := (List.mem_cons.mp hs).resolve_right hin
        exact hfirst.of_unmoved (hothers _ fun s' hs' heq => hin (Nat.succ.inj heq ▸ hs'))
    rw [writeSlots, if_neg hvalid]
    have hdue : recordDue core registry full emitted slot =
        (core.replicatedIsReplicable registry slot || !(full || emitted.contains slot)) := by
      rw [recordDue, decide_eq_true hlt, Bool.true_and]
    rw [hdue] at hroom ⊢
    cases hreplicable : core.replicatedIsReplicable registry slot with
    | false =>
      have hids : ∀ ids' : List Nat,
          (∀ i, i ∈ ids' ↔ i ∈ ids ∨
            ∃ s ∈ slots, core.replicatedIsReplicable registry s = true ∧ i = s + 1) →
          ∀ i, i ∈ ids' ↔ i ∈ ids ∨
            ∃ s ∈ slot :: slots, core.replicatedIsReplicable registry s = true ∧ i = s + 1 :=
        fun ids' hids i => by
        rw [hids]
        simp [hreplicable]
      rw [hreplicable, Bool.false_or] at hroom
      by_cases hskip : (full || emitted.contains slot) = true
      · rw [if_pos (by simpa using hskip)]
        have hnone := hemitted slot hreplicable (by simpa using hskip) List.mem_cons_self
        obtain ⟨n, world', ids', hn, hle, happlied, hmirrors, hheld, hids'⟩ :=
          writeSlots_applied hset full emitted rest slots count ids h hsettings
          (by omega) hsmall' hbody' fun s hs hor hin => hemitted s hs hor (List.mem_cons_of_mem _ hin)
        refine ⟨n, world', ids', hn, Nat.le_add_right_of_le hle, happlied.widen slot, ?_, hheld, hids ids' hids'⟩
        exact hcarry ⟨fun htrue => (by rw [hreplicable] at htrue; cases htrue),
          fun _ => hnone⟩ hmirrors happlied.others
      · rw [Bool.eq_false_of_not_eq_true hskip, Bool.not_false, if_pos rfl] at hroom
        rw [if_neg (by simpa using hskip), if_neg (by omega)]
        simp only [Bool.not_false, if_true, Bool.eq_false_of_not_eq_true hskip, Bool.or_true]
        obtain ⟨world₁, hrecord, howns, hserver, hnone₁, hothers⟩ := applyRecord_destroy ids h core.frame hid
          ((writeSlots core registry full emitted slots (count + 1)).1 ++ rest)
        obtain ⟨n, world', ids', hn, hle, happlied, hmirrors, hheld, hids'⟩ :=
          writeSlots_applied hset full emitted rest slots (count + 1) ids howns
          (hserver ▸ hsettings) (by omega) hsmall' hbody' fun s hs hor hin => by
            by_cases heq : s = slot
            · exact heq ▸ hnone₁
            · exact (hothers (s + 1) fun h => heq (Nat.succ.inj h)).lookup.trans
                (hemitted s hs hor (List.mem_cons_of_mem _ hin))
        refine ⟨n + 1, world', ids', ?_, Nat.succ_le_succ hle, .cons hrecord hserver hothers happlied, ?_,
          fun i => ?_, hids ids' hids'⟩
        · rw [hn]
          omega
        · exact hcarry ⟨fun htrue => (by rw [hreplicable] at htrue; cases htrue),
            fun _ => hnone₁⟩ hmirrors happlied.others
        · by_cases hi : i = slot
          · intro htrue
            rw [hi, hreplicable] at htrue
            cases htrue
          · exact (OthersHeld.refl.of_unmoved (hothers (i + 1) fun h => hi (Nat.succ.inj h))).trans (hheld i)
    | true =>
      obtain ⟨body, hsome⟩ := Option.isSome_iff_exists.mp (hbody slot List.mem_cons_self hreplicable)
      rw [hreplicable, Bool.true_or, if_pos rfl] at hroom
      rw [if_neg (by simp), if_neg (by omega), Bool.true_or, if_pos rfl]
      simp only [Bool.not_true, Bool.false_eq_true, if_false, hsome]
      unfold replaySlotBody at hsome
      split at hsome
      · cases hsome
      rename_i replicated hr
      split at hsome
      · cases hsome
      rename_i archetype hdef
      obtain ⟨data, hdata, rfl⟩ := Option.map_eq_some_iff.mp hsome
      obtain ⟨world₁, hrecord, howns, hserver, ⟨copy, hcopy, hof⟩, hrest, hothers⟩ :=
        applyRecord_update ids h hset hsettings hdef hdata hid
        ((writeSlots core registry full emitted slots (count + 1)).1 ++ rest)
      obtain ⟨n, world', ids', hn, hle, happlied, hmirrors, hheld, hids'⟩ :=
        writeSlots_applied hset full emitted rest slots (count + 1)
        ((slot + 1) :: ids) howns (hserver ▸ hsettings) (by omega) hsmall' hbody' fun s hs hor hin => by
          have hne : s + 1 ≠ slot + 1 := fun heq => by
            rw [Nat.succ.inj heq, hreplicable] at hs
            cases hs
          exact (hothers (s + 1) hne).lookup.trans (hemitted s hs hor (List.mem_cons_of_mem _ hin))
      refine ⟨n + 1, world', ids', ?_, Nat.succ_le_succ hle, .cons hrecord hserver hothers happlied,
        ?_, fun i => ?_, fun i => ?_⟩
      · rw [hn]
        omega
      · refine hcarry ⟨fun _ replicated' hr' => ?_, fun hfalse => (by rw [hreplicable] at hfalse; cases hfalse)⟩
          hmirrors happlied.others
        rw [hr] at hr'
        exact ⟨copy, hcopy, Option.some.inj hr' ▸ hof⟩
      · by_cases hi : i = slot
        · subst hi
          refine OthersHeld.trans (fun _ replicated' hr' definition hdef' component hother => ?_) (hheld i)
          obtain rfl := Option.some.inj (hr.symm.trans hr')
          obtain rfl := Option.some.inj (hdef.symm.trans hdef')
          exact hrest component hother
        · exact (OthersHeld.refl.of_unmoved (hothers (i + 1) fun h => hi (Nat.succ.inj h))).trans (hheld i)
      · rw [hids', List.mem_cons, or_assoc, or_left_comm]
        simp [hreplicable]

end

/-! ## A frame -/

structure FrameMirrored {R : Type} [ReplayRegistry R] (before : R) (core : ServerCore) (registry : Registry)
    (cues : List PendingReplayCueEntry) (world : ReplayWorld R) (frame : ReplicationReplayFrame)
    (world' : ReplayWorld R) : Prop where
  applied : world.applyFrame frame = (true, world')
  withCues : (∀ cue ∈ cues, cue.Fits) →
    world.applyFrameWithCues frame = (true, world', cues.filterMap (replayedCue core.settings world'.entities))
  owns : OwnsNew before world'
  server : world'.server = world.server
  mirrors : Mirrors core registry world'

/-- The copies of the `destroyed` slots are new, the others are as before besides the components of their archetypes. -/
structure FrameOthers {R : Type} [ReplayRegistry R] (core : ServerCore) (registry : Registry) (destroyed : List Nat)
    (world world' : ReplayWorld R) : Prop where
  kept : ∀ slot ∉ destroyed, OthersHeld core registry (world.held (slot + 1)) world' slot
  gone : ∀ slot ∈ destroyed, OthersHeld core registry (fun _ => none) world' slot

/-- The records of the next frame. -/
def ReplicationReplayWriter.recordsDue (writer : ReplicationReplayWriter) (frame : ServerRegistryDirtyFrame) : Nat :=
  if writer.fullDue frame.core.frame then
    (fullSlots frame).countP (recordDue frame.core frame.registry true [])
  else
    destroyRecords frame.core writer.pendingDestroyedSlots [] +
      writer.pending.pendingSlots.countP (recordDue frame.core frame.registry false
        (writeDestroyedSlots frame.core writer.pendingDestroyedSlots [] 0).2.1)

/-- What a writer needs to write a frame whole: an id for each slot, room for the records, and an entity to write in
each slot that is replicated. -/
structure ReplicationReplayWriter.Writable (writer : ReplicationReplayWriter) (frame : ServerRegistryDirtyFrame) :
    Prop where
  slots : frame.core.replicated.length < 2 ^ 32
  room : writer.recordsDue frame < 2 ^ 16
  written : ∀ slot, frame.core.replicatedIsReplicable frame.registry slot = true →
    (replaySlotBody frame.core frame.registry slot).isSome

inductive LeftOut {R : Type} [ReplayRegistry R] (writer : ReplicationReplayWriter) (core : ServerCore)
    (registry : Registry) (world : ReplayWorld R) (slot : Nat) : Prop
  | destroyed (destroyed : slot ∈ writer.pendingDestroyedSlots.map Prod.fst)
    (gone : core.replicatedIsReplicable registry slot = false)
  | mirrored (kept : slot ∉ writer.pendingDestroyedSlots.map Prod.fst)
    (mirrored : MirrorsSlot core registry world slot)

section

variable {R : Type} [ReplayRegistry R] {before : R} {world : ReplayWorld R}

theorem destroyAll_spec : ∀ (todo : List Nat) {world : ReplayWorld R}, OwnsNew before world →
    OwnsNew before (todo.foldl destroyReplayEntity world) ∧
    (todo.foldl destroyReplayEntity world).server = world.server ∧
    (∀ i, i ∈ todo ∨ world.entities.lookup i = none →
    (todo.foldl destroyReplayEntity world).entities.lookup i = none) ∧
    ∀ i ∉ todo, Unmoved world (todo.foldl destroyReplayEntity world) i
  | [], world, h => ⟨h, rfl, fun _ h => h.resolve_left List.not_mem_nil, fun i _ => .refl world i⟩
  | first :: todo, world, h => by
    obtain ⟨hnone, hothers⟩ := h.destroyed first
    obtain ⟨howns, hserver, hgone, hkept⟩ := destroyAll_spec todo (h.destroyReplayEntity first).1
    refine ⟨howns, hserver.trans (destroyReplayEntity_same world first).1, fun i hi => ?_, fun i hi => ?_⟩
    · by_cases heq : i = first
      · exact hgone i (.inr (heq ▸ hnone))
      · refine hgone i (hi.imp (fun hin => (List.mem_cons.mp hin).resolve_left heq) fun hi => ?_)
        exact (hothers i heq).lookup.trans hi
    · rw [List.mem_cons, not_or] at hi
      exact (hothers i hi.1).trans (hkept i hi.2)

theorem mem_ids_of_lookup {entities : List (Nat × Entity)} {i : Nat} (h : entities.lookup i ≠ none) :
    i ∈ entities.map Prod.fst := by
  obtain ⟨entity, hentity⟩ := Option.ne_none_iff_exists'.mp h
  exact List.mem_map_of_mem (mem_of_lookup hentity)

theorem ReplayWorld.OwnsNew.destroyStale (h : OwnsNew before world) (ids : List Nat) :
    OwnsNew before (world.destroyStale ids) ∧ (world.destroyStale ids).server = world.server ∧
    (∀ i ∉ ids, (world.destroyStale ids).entities.lookup i = none) ∧ ∀ i ∈ ids, Unmoved world
    (world.destroyStale ids) i := by
  obtain ⟨howns, hserver, hgone, hkept⟩ :=
    destroyAll_spec ((world.entities.map Prod.fst).filter fun i => !ids.contains i) h
  refine ⟨howns, hserver, fun i hi => hgone i ?_, fun i hi => hkept i ?_⟩
  · by_cases hin : world.entities.lookup i = none
    · exact .inr hin
    · exact .inl (List.mem_filter.mpr ⟨mem_ids_of_lookup hin, by simpa using hi⟩)
  · rw [List.mem_filter, List.contains_iff_mem.mpr hi]
    simp

theorem applyFrame_of_records (frame : ReplicationReplayFrame) {n : Nat} {stream : Bits} {ids : List Nat}
    {world₁ : ReplayWorld R} {cues : List PendingReplayCueEntry} (hcount : n < 2 ^ 16)
    (hpayload : frame.payload = unsignedBits n 16 ++ stream)
    (hrecords : world.applyRecords frame.frame n [] stream = (world₁, ids, some (writeCueEntries frame.frame cues))) :
    world.applyFrame frame = (true, if frame.kind = .full then world₁.destroyStale ids else world₁) ∧
    ((∀ cue ∈ cues, cue.Fits) → world.applyFrameWithCues frame =
      (true, (if frame.kind = .full then world₁.destroyStale ids else world₁),
        cues.filterMap
          (replayedCue (if frame.kind = .full then world₁.destroyStale ids else world₁).server.core.settings
          (if frame.kind = .full then world₁.destroyStale ids else world₁).entities))) := by
  refine ⟨?_, fun hfits => ?_⟩
  · unfold ReplayWorld.applyFrame
    rw [hpayload, reads_unsignedBits hcount]
    dsimp only
    rw [hrecords]
  · unfold ReplayWorld.applyFrameWithCues
    rw [hpayload, reads_unsignedBits hcount]
    dsimp only
    rw [hrecords]
    dsimp only
    rw [applyCues_written _ _ _ hfits]

variable [LawfulReplay R] {writer : ReplicationReplayWriter} {frame : ServerRegistryDirtyFrame}

theorem replicable_lt {core : ServerCore} {registry : Registry} {slot : Nat}
    (h : core.replicatedIsReplicable registry slot = true) :
    slot < core.replicated.length := by
  unfold ServerCore.replicatedIsReplicable at h
  split at h
  · rename_i hr
    exact (List.getElem?_eq_some_iff.mp hr).1
  · cases h

theorem mem_fullSlots {slot : Nat} :
    slot ∈ ReplicationReplayWriter.fullSlots frame ↔
    frame.core.replicatedIsReplicable frame.registry slot = true := by
  unfold ReplicationReplayWriter.fullSlots
  rw [List.mem_filter, List.mem_range]
  exact and_iff_right_of_imp replicable_lt

/-- A session that applies a full frame is a mirror, whatever it had before. -/
theorem full_frame_mirrors (hset : frame.core.settings.Replayable R) (hwritable : writer.Writable frame)
    (hfull : writer.fullDue frame.core.frame = true) (h : OwnsNew before world)
    (hsettings : world.server.core.settings = frame.core.settings) :
    ∃ world', FrameMirrored before frame.core frame.registry writer.pendingCues world
      (writer.replayFrame frame) world' ∧ FrameOthers frame.core frame.registry [] world world' := by
  have hroom := hwritable.room
  rw [ReplicationReplayWriter.recordsDue, if_pos hfull] at hroom
  have hslots := hwritable.slots
  obtain ⟨n, world₁, ids, hn, hle, happlied, hmirrors, hheld, hids⟩ := writeSlots_applied hset true []
    (writeCueEntries frame.core.frame writer.pendingCues) (ReplicationReplayWriter.fullSlots frame) 0 [] h
    hsettings (by omega)
    (fun slot hslot => by
      have hlt := replicable_lt (mem_fullSlots.mp hslot)
      exact ⟨by omega, hlt⟩)
    (fun slot _ hreplicable => hwritable.written slot hreplicable)
    (fun slot hnot _ hslot => by
      rw [mem_fullSlots.mp hslot] at hnot
      cases hnot)
  simp only [List.not_mem_nil, false_or] at hids
  obtain ⟨howns, hserver, hgone, hkept⟩ := happlied.owns.destroyStale ids
  have happlied' : world.applyFrame (writer.replayFrame frame) = (true, world₁.destroyStale ids) ∧
      ((∀ cue ∈ writer.pendingCues, cue.Fits) → world.applyFrameWithCues (writer.replayFrame frame) =
        (true, world₁.destroyStale ids,
        writer.pendingCues.filterMap (replayedCue frame.core.settings (world₁.destroyStale ids).entities))) := by
    have hkind : (writer.replayFrame frame).kind = .full := by simp [ReplicationReplayWriter.replayFrame, hfull]
    have hpayload : (writer.replayFrame frame).payload = unsignedBits n 16 ++
        ((writeSlots frame.core frame.registry true []
        (ReplicationReplayWriter.fullSlots frame) 0).1 ++ writeCueEntries frame.core.frame writer.pendingCues) := by
      simp only [ReplicationReplayWriter.replayFrame, hfull, if_true, List.append_assoc, List.nil_append]
      rw [hn, Nat.zero_add]
    have hrecords := applyFrame_of_records (writer.replayFrame frame) (by omega) hpayload happlied.applied
    rw [hkind, if_pos rfl, hserver, happlied.server, hsettings] at hrecords
    exact hrecords
  refine ⟨world₁.destroyStale ids, ⟨happlied'.1, happlied'.2, howns, hserver.trans happlied.server,
    fun slot => ?_, hgone 0 ?_⟩, fun slot _ hreplicable => ?_, fun _ h => (by cases h)⟩
  · by_cases hreplicable : frame.core.replicatedIsReplicable frame.registry slot = true
    · have hin := mem_fullSlots.mpr hreplicable
      exact (hmirrors slot hin).of_unmoved (hkept (slot + 1) ((hids (slot + 1)).mpr ⟨slot, hin, hreplicable, rfl⟩))
    · refine ⟨fun htrue => absurd htrue hreplicable, fun _ => hgone (slot + 1) fun hin => ?_⟩
      obtain ⟨s, -, hs, heq⟩ := (hids (slot + 1)).mp hin
      exact hreplicable (Nat.succ.inj heq ▸ hs)
  · rw [hids]
    simp
  · have hin := (hids (slot + 1)).mpr ⟨slot, mem_fullSlots.mpr hreplicable, hreplicable, rfl⟩
    exact (hheld slot).of_unmoved (hkept (slot + 1) hin) hreplicable

/-- A session that applies a delta is a mirror where it was one in the slots that the writer did not collect. -/
theorem delta_frame_mirrors (hset : frame.core.settings.Replayable R) (hwritable : writer.Writable frame)
    (hdelta : writer.fullDue frame.core.frame = false) (h : OwnsNew before world)
    (hsettings : world.server.core.settings = frame.core.settings)
    (hpending : ∀ slot ∈ writer.pending.pendingSlots, slot < frame.core.replicated.length)
    (hdestroyed : ∀ slot ∈ writer.pendingDestroyedSlots.map Prod.fst, slot < frame.core.replicated.length)
    (hleft : ∀ slot ∉ writer.pending.pendingSlots, LeftOut writer frame.core frame.registry world slot)
    (hzero : world.entities.lookup 0 = none) :
    ∃ world', FrameMirrored before frame.core frame.registry writer.pendingCues world
      (writer.replayFrame frame) world' ∧
      FrameOthers frame.core frame.registry (writer.pendingDestroyedSlots.map Prod.fst) world world' := by
  have hroom := hwritable.room
  rw [ReplicationReplayWriter.recordsDue, if_neg (by rw [hdelta]; exact Bool.false_ne_true)] at hroom
  have hslots := hwritable.slots
  obtain ⟨cues, hcues⟩ : ∃ cues, cues = writeCueEntries frame.core.frame writer.pendingCues := ⟨_, rfl⟩
  obtain ⟨emitted, hemitted⟩ :
      ∃ emitted, emitted = (writeDestroyedSlots frame.core writer.pendingDestroyedSlots [] 0).2.1 := ⟨_, rfl⟩
  rw [← hemitted] at hroom
  obtain ⟨m, hm⟩ : ∃ m, m = (writeDestroyedSlots frame.core writer.pendingDestroyedSlots [] 0).2.2 := ⟨_, rfl⟩
  obtain ⟨records, hrecords⟩ : ∃ records, records =
    writeSlots frame.core frame.registry false emitted writer.pending.pendingSlots m := ⟨_, rfl⟩
  obtain ⟨m', world₁, hm', hle, happlied, hnone, hgone⟩ := writeDestroyedSlots_applied frame.core frame.core.frame
    (records.1 ++ cues) [] writer.pendingDestroyedSlots [] 0 h (by omega)
    (fun p hp => by
      have hlt := hdestroyed p.1 (List.mem_map_of_mem hp)
      omega)
    (fun slot hslot => by cases hslot)
  rw [← hm, Nat.zero_add] at hm'
  obtain ⟨n, world', ids, hn, hle', happlied', hmirrors, hheld, -⟩ :=
    writeSlots_applied hset false emitted cues writer.pending.pendingSlots m []
    happlied.owns (happlied.server ▸ hsettings) (by omega)
    (fun slot hslot => by
      have hlt := hpending slot hslot
      exact ⟨by omega, hlt⟩)
    (fun slot _ hreplicable => hwritable.written slot hreplicable)
    (fun slot _ hor _ => by
      have hin := writeDestroyedSlots_emitted frame.core writer.pendingDestroyedSlots [] 0 slot
        (hemitted ▸ hor.resolve_left Bool.false_ne_true)
      exact hgone slot (hin.resolve_left List.not_mem_nil))
  rw [← hrecords] at hn happlied'
  have hothers' : ∀ slot ∉ writer.pending.pendingSlots, Unmoved world₁ world' (slot + 1) := fun slot hslot =>
    happlied'.others (slot + 1) fun s hs heq => hslot (Nat.succ.inj heq ▸ hs)
  have hframe : world.applyFrame (writer.replayFrame frame) = (true, world') ∧
      ((∀ cue ∈ writer.pendingCues, cue.Fits) →
      world.applyFrameWithCues (writer.replayFrame frame) = (true, world',
        writer.pendingCues.filterMap (replayedCue frame.core.settings world'.entities))) := by
    have hpayload : (writer.replayFrame frame).payload = unsignedBits (m + n) 16 ++
        ((writeDestroyedSlots frame.core writer.pendingDestroyedSlots [] 0).1 ++ (records.1 ++ cues)) := by
      simp only [ReplicationReplayWriter.replayFrame, hdelta, Bool.false_eq_true, if_false, List.append_assoc]
      rw [← hemitted, ← hm, ← hrecords, hn, hcues]
    have hkind : (writer.replayFrame frame).kind = .delta := by simp [ReplicationReplayWriter.replayFrame, hdelta]
    have hrun := applyRecords_append frame.core.frame n m' happlied.applied
    rw [happlied'.applied, ← hm', hcues] at hrun
    rw [hcues] at hpayload
    have hrecords := applyFrame_of_records (writer.replayFrame frame) (by omega) hpayload hrun
    rw [hkind, if_neg (by decide), happlied'.server, happlied.server, hsettings] at hrecords
    exact hrecords
  refine ⟨world',
    ⟨hframe.1, hframe.2, happlied'.owns, happlied'.server.trans happlied.server, fun slot => ?_, ?_⟩,
    fun slot hslot => ?_, fun slot hslot => ?_⟩
  · by_cases hslot : slot ∈ writer.pending.pendingSlots
    · exact hmirrors slot hslot
    · cases hleft slot hslot with
      | destroyed hdestroyed hidle =>
        refine ⟨fun htrue => (by rw [hidle] at htrue; cases htrue), fun _ => ?_⟩
        exact (hothers' slot hslot).lookup.trans (hgone slot hdestroyed)
      | mirrored kept mirrored =>
        have hkept : Unmoved world world₁ (slot + 1) :=
          happlied.others (slot + 1) fun s hs heq => kept (Nat.succ.inj heq ▸ hs)
        exact mirrored.of_unmoved (hkept.trans (hothers' slot hslot))
  · have hkept : Unmoved world world₁ 0 := happlied.others 0 fun s _ heq => by omega
    have hkept' : Unmoved world₁ world' 0 := happlied'.others 0 fun s _ heq => by omega
    exact (hkept.trans hkept').lookup.trans hzero
  · have hkept : Unmoved world world₁ (slot + 1) :=
      happlied.others (slot + 1) fun s hs heq => hslot (Nat.succ.inj heq ▸ hs)
    exact (OthersHeld.refl.of_unmoved hkept).trans (hheld slot)
  · exact OthersHeld.trans (fun _ _ _ _ _ component _ => held_of_none (hgone slot hslot) component) (hheld slot)

end

end AshiatoSync
