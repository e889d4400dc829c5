import AshiatoSync.DetectSound

/-!
# Quantized frames are fresh

What `findOrCreateQuantizedFrame` gives back is what quantizing the entity anew
would give: a component is copied from the baseline only while its generation
stands, and a generation stands only while the component does.  Live frames are
tied to the registry they were quantized from (`FreshInv`), from one dirty frame
to the next.
-/

namespace AshiatoSync

open ServerClientReplicator ReplicationServer

/-! ## Taking and giving back references -/

inductive RefSteps (core : ServerCore) : ServerCore → Prop where
  | refl : RefSteps core core
  | retain {core' : ServerCore} (q : Nat) : RefSteps core core' → RefSteps core (core'.retainQuantizedFrame q)
  | release {core' : ServerCore} (q : Nat) : RefSteps core core' → RefSteps core (core'.releaseQuantizedFrame q)

theorem RefSteps.trans {a b c : ServerCore} (h : RefSteps a b) (h' : RefSteps b c) : RefSteps a c := by
  induction h' with
  | refl => exact h
  | retain q _ ih => exact ih.retain q
  | release q _ ih => exact ih.release q

section

variable (core : ServerCore) (client : ServerClientReplicator) (slot : Nat)

theorem releaseBaseline_steps (b : Option Nat) : RefSteps core (core.releaseBaseline b) := by
  cases b with
  | none => exact .refl
  | some q => exact RefSteps.refl.release q

theorem releases_steps (pending : List PendingQuantizedFrame) (core : ServerCore) :
    RefSteps core (pending.foldl (fun core p => core.releaseQuantizedFrame p.quantizedFrame) core) := by
  induction pending generalizing core with
  | nil => exact .refl
  | cons p pending ih => exact (RefSteps.refl.release p.quantizedFrame).trans (ih _)

theorem releaseEntityState_steps (state : ClientEntityState) : RefSteps core (releaseEntityState core state) :=
  (releaseBaseline_steps core state.baseline).trans (releases_steps state.pending _)

theorem clearState_steps : RefSteps core (client.clearState core slot).1 := by
  unfold clearState
  split
  · exact .refl
  · exact releaseEntityState_steps core _

theorem clearAll_steps : RefSteps core (client.clearAll core).1 := by
  show RefSteps core (client.states.foldl releaseEntityState core)
  generalize client.states = states
  induction states generalizing core with
  | nil => exact .refl
  | cons state states ih => exact (releaseEntityState_steps core state).trans (ih _)

theorem invalidateEntityBaseline_steps : RefSteps core (client.invalidateEntityBaseline core slot).1 := by
  unfold invalidateEntityBaseline
  split
  · exact .refl
  · exact releaseBaseline_steps core _

theorem storeDecision_steps (decision : EntityReplicationDecision) :
    RefSteps core (client.storeDecision core slot decision).1 := by
  unfold storeDecision
  split
  · exact .refl
  simp only
  split
  · exact invalidateEntityBaseline_steps core _ slot
  · exact .refl

theorem updateCandidate_steps (entry : DirtyEntry) (decider : Entity → EntityReplicationDecision) :
    RefSteps core (client.updateCandidate core slot entry decider).1 := by
  have hrefresh : RefSteps core (client.refreshReplicationDecisionIfDue core slot entry decider).1 := by
    unfold refreshReplicationDecisionIfDue
    simp only
    split
    · exact .refl
    split
    · exact .refl
    · exact storeDecision_steps core client slot _
  unfold updateCandidate
  simp only
  split
  · exact hrefresh
  split
  · exact hrefresh
  split <;> exact hrefresh

theorem acknowledgeEntity_steps (frame : SyncFrame) : RefSteps core (client.acknowledgeEntity core slot frame).1 := by
  rcases acknowledgeEntity_spec core client slot frame with ⟨h, -⟩ | ⟨s, found, eligible, -, -, -, -, h, -⟩
  · rw [h]
    exact .refl
  · rw [h]
    refine RefSteps.trans ?_ (releases_steps _ _)
    unfold adoptBaseline
    split
    · split
      · exact .refl
      · exact (releaseBaseline_steps core s.baseline).retain _
    · exact .refl

theorem acknowledgeRecord_steps (packet : PendingPacketAck) (record : PacketAckRecord) :
    RefSteps core (client.acknowledgeRecord core packet record).1 := by
  unfold acknowledgeRecord
  split
  · exact .refl
  split
  · exact .refl
  · exact acknowledgeEntity_steps core client _ record.frame

theorem acknowledgePacket_steps (packetId : Nat) : RefSteps core (client.acknowledgePacket core packetId).1 := by
  unfold acknowledgePacket
  split
  · exact .refl
  · apply Monadic.foldl_inv (fun _ (acc : ServerCore × ServerClientReplicator × Bool) => RefSteps core acc.1)
    · rintro record records ⟨core', client', allValid⟩ h
      exact h.trans (acknowledgeRecord_steps core' client' _ record)
    · exact .refl

theorem processClientAcks_steps (packetIds : List Nat) : RefSteps core (client.processClientAcks core packetIds).1 := by
  apply Monadic.foldl_inv (fun _ (acc : ServerCore × ServerClientReplicator) => RefSteps core acc.1)
  · rintro packetId packetIds ⟨core', client'⟩ h
    exact h.trans (acknowledgePacket_steps core' client' packetId)
  · exact .refl

theorem recordSent_steps (serialized : SerializedEntity) :
    RefSteps core (SendLoop.recordSent core client slot serialized).1 := by
  rw [recordSent_eq]
  have hdrop : RefSteps core (SendLoop.dropBaseline core (client.modifyEntry slot (SendLoop.sentEntry core.frame)) slot
      serialized.fullState).1 := by
    unfold SendLoop.dropBaseline
    split
    · exact invalidateEntityBaseline_steps core _ slot
    · exact .refl
  refine hdrop.trans ?_
  unfold SendLoop.queuePending
  split
  · exact .refl
  · exact releases_steps _ _

end

theorem eachClient_steps {f : ServerCore → ServerClientReplicator → ServerCore × ServerClientReplicator}
    (hf : ∀ core client, RefSteps core (f core client).1) :
    ∀ (clients : List ServerClientReplicator) (core : ServerCore), RefSteps core (eachClient f core clients).1
  | [], _ => .refl
  | client :: rest, core => (hf core client).trans (eachClient_steps hf rest _)

/-- Deactivating a slot drops it, then every client's references. -/
theorem deactivateReplicated_steps (s : ReplicationServer) {slot : Nat} {r : ReplicatedSlot}
    (hr : s.core.replicated[slot]? = some r) (ha : r.active = true) :
    RefSteps (ReplicationServer.deactivateSlot s.core slot r.entity) (s.deactivateReplicated slot).core := by
  have hclear : ∀ clients core,
      (eachClient (fun core client => (core, client.clearDirty slot)) core clients).1 = core := by
    intro clients
    induction clients with
    | nil => exact fun _ => rfl
    | cons client rest ih => exact fun core => ih core
  unfold ReplicationServer.deactivateReplicated
  simp only [hr, ha, Bool.not_true, Bool.false_eq_true, if_false]
  show RefSteps _ (eachClient _ _ _).1
  rw [hclear]
  refine eachClient_steps (fun core client => ?_) s.clients _
  rw [enqueueDestroy_core]
  exact clearState_steps core client slot

/-! ## Quantizing anew -/

def visibleValue (registry : Registry) (entity : Entity) (client : ClientId) (c : ComponentReplication) :
    Option Bytes :=
  if replicationAudienceMatches c.audience ((registry.networkOwner entity).getD invalidClientId) client then
    registry.get entity c.component
  else none

def freshBytes (registry : Registry) (entity : Entity) (client : ClientId) (c : ComponentReplication) : Bytes :=
  match visibleValue registry entity client c with
  | some value => c.ops.quantize value
  | none => List.replicate c.ops.quantizedSize 0

def freshMask (registry : Registry) (entity : Entity) (client : ClientId) : List ComponentReplication → Nat → Mask
  | [], _ => 0
  | c :: rest, i =>
    (if (visibleValue registry entity client c).isSome then BitVec.twoPow 64 i else 0) |||
      freshMask registry entity client rest (i + 1)

def freshFrameData (registry : Registry) (archetype : SyncArchetype) (entity : Entity) (client : ClientId) :
    QuantizedFrameData where
  tagMask := if hasTagSlot archetype then visibleTagMask registry archetype entity client else 0
  presentMask := freshMask registry entity client archetype.components 0
  bytes := archetype.components.map (freshBytes registry entity client)

section

variable {registry : Registry} {entity : Entity} {client : ClientId}

theorem freshMask_get (cs : List ComponentReplication) (i j : Nat) (hlen : i + cs.length ≤ 64) :
    (freshMask registry entity client cs i).getLsbD j =
      (decide (i ≤ j) && ((cs[j - i]?).any fun c => (visibleValue registry entity client c).isSome)) := by
  induction cs generalizing i with
  | nil => simp [freshMask]
  | cons c rest ih =>
    simp only [List.length_cons] at hlen
    rw [freshMask, BitVec.getLsbD_or, ih (i + 1) (by omega)]
    by_cases hj : j = i
    · subst hj
      have hnot : ¬j + 1 ≤ j := by omega
      cases hv : (visibleValue registry entity client c).isSome <;>
        simp [hv, hnot, show j < 64 by omega]
    · by_cases hlt : i + 1 ≤ j
      · have hget : (c :: rest)[j - i]? = rest[j - (i + 1)]? := by
          rw [show j - i = j - (i + 1) + 1 by omega, List.getElem?_cons_succ]
        have hhead : (if (visibleValue registry entity client c).isSome then BitVec.twoPow 64 i else 0).getLsbD j =
            false := by
          split <;> simp [Ne.symm hj]
        rw [hget, hhead]
        simp [hlt, show i ≤ j by omega]
      · have hnot : ¬i ≤ j := by omega
        have hhead : (if (visibleValue registry entity client c).isSome then BitVec.twoPow 64 i else 0).getLsbD j =
            false := by
          split <;> simp [Ne.symm hj]
        rw [hhead]
        simp [hlt, hnot]

end

def BaselineFresh (registry : Registry) (archetype : SyncArchetype) (r : ReplicatedSlot)
    (baseline : Option QuantizedFrame) : Prop :=
  ∀ frame, baseline = some frame → ∀ (i : Nat) (c : ComponentReplication) (value : Bytes),
    archetype.components[i]? = some c → registry.get r.entity c.component = some value →
    frame.dirtyGenerations[i + 1]? = some ((r.componentDirtyGenerations[i + 1]?).getD 0) →
    frameHasComponent frame.data i = true → frame.data.bytes[i]? = some (c.ops.quantize value)

section

variable {registry : Registry} {archetype : SyncArchetype} {r : ReplicatedSlot} {client : ClientId}
  {baseline : Option QuantizedFrame}

theorem quantizeComponent_eq (hbase : BaselineFresh registry archetype r baseline) {i : Nat}
    {c : ComponentReplication} (hc : archetype.components[i]? = some c) (data : QuantizedFrameData)
    (generations : List Nat) :
    quantizeComponent registry r client baseline (data, generations) (c, i) =
      some (match visibleValue registry r.entity client c with
        | none => (data, generations)
        | some value => (writeFrameComponent data i (c.ops.quantize value),
            generations.set (i + 1) ((r.componentDirtyGenerations[i + 1]?).getD 0))) := by
  unfold quantizeComponent visibleValue
  simp only
  cases hm : replicationAudienceMatches c.audience ((registry.networkOwner r.entity).getD invalidClientId) client with
  | false => simp
  | true =>
    cases hg : registry.get r.entity c.component with
    | none => simp
    | some value =>
      simp only [Bool.not_true, Bool.false_eq_true, if_false, if_true]
      cases hb : baseline with
      | none => simp
      | some frame =>
        by_cases hsame : frame.dirtyGenerations[i + 1]? = some ((r.componentDirtyGenerations[i + 1]?).getD 0) ∧
            frameHasComponent frame.data i = true
        · -- a copy from the baseline
          have hbytes := hbase frame hb i c value hc hg hsame.1 hsame.2
          simp [hsame.1, hsame.2, hbytes]
        · have hcond : (frame.dirtyGenerations[i + 1]? == some ((r.componentDirtyGenerations[i + 1]?).getD 0) &&
              frameHasComponent frame.data i) = false := by
            rw [← Bool.not_eq_true, Bool.and_eq_true, beq_iff_eq]
            exact hsame
          simp [hcond]

/-- The component loop, from position `i` on: the blocks before it are done, those after it still zero. -/
theorem quantizeComponents_eq (hbase : BaselineFresh registry archetype r baseline) (client : ClientId) :
    ∀ (rest : List ComponentReplication) (i : Nat) (tagMask present : Mask) (done : List Bytes)
      (generations : List Nat),
      (∀ (j : Nat) (c : ComponentReplication), rest[j]? = some c → archetype.components[i + j]? = some c) →
      done.length = i →
      ∃ generations', (rest.zipIdx i).foldlM (quantizeComponent registry r client baseline)
          (⟨tagMask, present, done ++ rest.map fun c => List.replicate c.ops.quantizedSize 0⟩, generations) =
          some (⟨tagMask, present ||| freshMask registry r.entity client rest i,
            done ++ rest.map (freshBytes registry r.entity client)⟩, generations') ∧
        generations'.length = generations.length ∧ (∀ k ≤ i, generations'[k]? = generations[k]?) ∧
        ∀ (j : Nat) (c : ComponentReplication), rest[j]? = some c →
        (visibleValue registry r.entity client c).isSome →
          i + j + 1 < generations.length →
          generations'[i + j + 1]? = some ((r.componentDirtyGenerations[i + j + 1]?).getD 0)
  | [], i, tagMask, present, done, generations, _, _ =>
    ⟨generations, by simp [freshMask], rfl, fun _ _ => rfl, fun j c h => by simp at h⟩
  | c :: rest, i, tagMask, present, done, generations, hrest, hdone => by
    have hc : archetype.components[i]? = some c := hrest 0 c rfl
    have htail : ∀ (j : Nat) (c : ComponentReplication), rest[j]? = some c →
        archetype.components[i + 1 + j]? = some c := by
      intro j c' hc'
      have := hrest (j + 1) c' hc'
      rwa [show i + (j + 1) = i + 1 + j by omega] at this
    rw [List.zipIdx_cons, List.foldlM_cons, quantizeComponent_eq hbase hc]
    cases hv : visibleValue registry r.entity client c with
    | none =>
      obtain ⟨generations', heq, hlen, hkeep, hset⟩ :=
        quantizeComponents_eq hbase client rest (i + 1) tagMask present
        (done ++ [List.replicate c.ops.quantizedSize 0]) generations htail (by simp [hdone])
      refine ⟨generations', ?_, hlen, fun k hk => hkeep k (by omega), ?_⟩
      · have hbytes : freshBytes registry r.entity client c = List.replicate c.ops.quantizedSize 0 := by
          simp [freshBytes, hv]
        simpa [freshMask, hv, hbytes] using heq
      · intro j c' hc' hvis hlt
        cases j with
        | zero =>
          obtain rfl : c = c' := Option.some.inj hc'
          rw [hv] at hvis
          cases hvis
        | succ j =>
          rw [show i + (j + 1) + 1 = i + 1 + j + 1 by omega] at hlt ⊢
          exact hset j c' hc' hvis hlt
    | some value =>
      obtain ⟨generations', heq, hlen, hkeep, hset⟩ := quantizeComponents_eq hbase client rest (i + 1) tagMask
        (present ||| BitVec.twoPow 64 i) (done ++ [c.ops.quantize value])
        (generations.set (i + 1) ((r.componentDirtyGenerations[i + 1]?).getD 0)) htail (by simp [hdone])
      rw [List.length_set] at hlen
      refine ⟨generations', ?_, hlen, fun k hk => ?_, ?_⟩
      · have hbytes : freshBytes registry r.entity client c = c.ops.quantize value := by
          simp [freshBytes, hv]
        have hwrite : writeFrameComponent ⟨tagMask, present, done ++ (c :: rest).map fun c =>
            List.replicate c.ops.quantizedSize 0⟩ i (c.ops.quantize value) =
            ⟨tagMask, present ||| BitVec.twoPow 64 i, done ++ [c.ops.quantize value] ++ rest.map fun c =>
              List.replicate c.ops.quantizedSize 0⟩ := by
          unfold writeFrameComponent
          subst hdone
          simp
        simp only [hwrite]
        rw [show freshMask registry r.entity client (c :: rest) i =
          BitVec.twoPow 64 i ||| freshMask registry r.entity client rest (i + 1) by simp [freshMask, hv],
          ← BitVec.or_assoc]
        simpa [hbytes] using heq
      · rw [hkeep k (by omega), List.getElem?_set_ne (by omega)]
      · intro j c' hc' hvis hlt
        cases j with
        | zero =>
          rw [Nat.add_zero] at hlt ⊢
          rw [hkeep (i + 1) (Nat.le_refl _), List.getElem?_set_self hlt]
        | succ j =>
          rw [show i + (j + 1) + 1 = i + 1 + j + 1 by omega] at hlt ⊢
          exact hset j c' hc' hvis (by rwa [List.length_set])

/-- The scratch frame is the one quantized anew, with the slot's generations. -/
theorem quantizeFrame_eq (hbase : BaselineFresh registry archetype r baseline)
    {scratch : QuantizedFrameData × List Nat} (h : quantizeFrame registry archetype r client baseline = some scratch) :
    scratch.1 = freshFrameData registry archetype r.entity client ∧ archetype.components.length ≤ 63 ∧
    ∀ (i : Nat) (c : ComponentReplication), archetype.components[i]? = some c →
      (visibleValue registry r.entity client c).isSome →
      scratch.2[i + 1]? = some ((r.componentDirtyGenerations[i + 1]?).getD 0) := by
  unfold quantizeFrame initFrameData at h
  split at h
  · cases h
  rename_i hsizes
  have hcount : archetype.components.length ≤ 63 := by
    rw [Bool.or_eq_true, decide_eq_true_eq, decide_eq_true_eq] at hsizes
    omega
  simp only [Option.bind_eq_bind, Option.bind_some] at h
  have hloop : ∀ (tagMask : Mask) (generations : List Nat), generations.length = syncSlotCount archetype →
      ∃ generations', archetype.components.zipIdx.foldlM (quantizeComponent registry r client baseline)
          (⟨tagMask, 0, archetype.components.map fun c => List.replicate c.ops.quantizedSize 0⟩, generations) =
          some (⟨tagMask, freshMask registry r.entity client archetype.components 0,
            archetype.components.map (freshBytes registry r.entity client)⟩, generations') ∧
        ∀ (i : Nat) (c : ComponentReplication), archetype.components[i]? = some c →
          (visibleValue registry r.entity client c).isSome →
          generations'[i + 1]? = some ((r.componentDirtyGenerations[i + 1]?).getD 0) := by
    intro tagMask generations hlen
    obtain ⟨generations', heq, -, -, hset⟩ := quantizeComponents_eq hbase client archetype.components 0 tagMask 0 []
      generations (fun j c hc => by simpa using hc) rfl
    refine ⟨generations', by simpa using heq, fun i c hc hvis => ?_⟩
    have hlt := (List.getElem?_eq_some_iff.mp hc).1
    have := hset i c hc hvis (by rw [hlen]; unfold syncSlotCount; omega)
    simpa using this
  by_cases htags : hasTagSlot archetype = true
  · simp only [htags, if_true] at h
    obtain ⟨generations', heq, hset⟩ := hloop (visibleTagMask registry archetype r.entity client)
      ((List.replicate (syncSlotCount archetype) 0).set 0 ((r.componentDirtyGenerations[0]?).getD 0)) (by simp)
    rw [heq, Option.bind_some] at h
    split at h
    · cases h
    · obtain rfl := Option.some.inj h
      refine ⟨?_, hcount, hset⟩
      simp [freshFrameData, htags]
  · rw [Bool.not_eq_true] at htags
    simp only [htags, Bool.false_eq_true, if_false] at h
    obtain ⟨generations', heq, hset⟩ := hloop 0 (List.replicate (syncSlotCount archetype) 0) (by simp)
    rw [heq, Option.bind_some] at h
    split at h
    · cases h
    · obtain rfl := Option.some.inj h
      refine ⟨?_, hcount, hset⟩
      simp [freshFrameData, htags]

end

/-! ## Live frames and the registry -/

/-- A live frame against the registry: no generation of it is ahead of its slot's, a component whose generation stands
holds what it would get now, and a frame of this server frame that everyone shares is up to date. -/
structure FrameFresh (registry : Registry) (frame : SyncFrame) (archetype : SyncArchetype) (r : ReplicatedSlot)
    (f : QuantizedFrame) : Prop where
  older : ∀ (i : Nat) (c : ComponentReplication) (g : Nat), archetype.components[i]? = some c →
    frameHasComponent f.data i = true → f.dirtyGenerations[i + 1]? = some g →
    ∃ now, r.componentDirtyGenerations[i + 1]? = some now ∧ g ≤ now
  current : ∀ (i : Nat) (c : ComponentReplication) (g : Nat), archetype.components[i]? = some c →
    frameHasComponent f.data i = true → f.dirtyGenerations[i + 1]? = some g →
    r.componentDirtyGenerations[i + 1]? = some g →
    ∃ value, registry.get r.entity c.component = some value ∧ f.data.bytes[i]? = some (c.ops.quantize value)
  cached : r.sameFrameCacheable = true → f.frame = frame → ∀ client,
    f.data = freshFrameData registry archetype r.entity client

structure SlotFresh (registry : Registry) (bound : Nat) (core : ServerCore) (slot : Nat) (r : ReplicatedSlot)
    (archetype : SyncArchetype) : Prop where
  generation : ∀ (i : Nat) (c : ComponentReplication), archetype.components[i]? = some c →
    ∃ g, r.componentDirtyGenerations[i + 1]? = some g ∧ g ≤ bound
  cacheable : r.sameFrameCacheable = true → archetypeIsSameFrameCacheable archetype = true
  frames : ∀ (q : Nat) (f : QuantizedFrame), core.quantizedFrames[q]? = some f → f.active = true →
    f.slot = slot →
    f.archetype = r.archetype → FrameFresh registry core.frame archetype r f

def FreshInv (registry : Registry) (bound : Nat) (core : ServerCore) : Prop :=
  ∀ (slot : Nat) (r : ReplicatedSlot), core.replicated[slot]? = some r → r.active = true →
    ∃ archetype, core.settings.archetypes[r.archetype]? = some archetype ∧
    SlotFresh registry bound core slot r archetype

structure SameSlot (r r' : ReplicatedSlot) : Prop where
  entity : r'.entity = r.entity
  archetype : r'.archetype = r.archetype
  active : r'.active = r.active
  generations : r'.componentDirtyGenerations = r.componentDirtyGenerations
  cacheable : r'.sameFrameCacheable = r.sameFrameCacheable

theorem SameSlot.refl (r : ReplicatedSlot) : SameSlot r r := ⟨rfl, rfl, rfl, rfl, rfl⟩

theorem SameSlot.trans {a b c : ReplicatedSlot} (h : SameSlot a b) (h' : SameSlot b c) : SameSlot a c :=
  ⟨h'.entity.trans h.entity, h'.archetype.trans h.archetype, h'.active.trans h.active,
    h'.generations.trans h.generations, h'.cacheable.trans h.cacheable⟩

/-- Nothing new: the active slots and the live frames of `core'` are those of `core`. -/
structure Kept (core core' : ServerCore) : Prop where
  settings : core'.settings = core.settings
  frame : core'.frame = core.frame
  slots : ∀ (slot : Nat) (r' : ReplicatedSlot), core'.replicated[slot]? = some r' → r'.active = true →
    ∃ r, core.replicated[slot]? = some r ∧ SameSlot r r'
  frames : ∀ (q : Nat) (f' : QuantizedFrame), core'.quantizedFrames[q]? = some f' → f'.active = true →
    ∃ f, core.quantizedFrames[q]? = some f ∧ f.active = true ∧ SameContent f f' ∧
      f'.dirtyGenerations = f.dirtyGenerations

section

variable {core core' core'' : ServerCore}

theorem Kept.refl (core : ServerCore) : Kept core core where
  settings := rfl
  frame := rfl
  slots _ r' hr' _ := ⟨r', hr', .refl r'⟩
  frames _ f' hf' ha' := ⟨f', hf', ha', .refl f', rfl⟩

theorem Kept.trans (h : Kept core core') (h' : Kept core' core'') : Kept core core'' where
  settings := h'.settings.trans h.settings
  frame := h'.frame.trans h.frame
  slots slot r'' hr'' ha'' := by
    obtain ⟨r', hr', hs'⟩ := h'.slots slot r'' hr'' ha''
    obtain ⟨r, hr, hs⟩ := h.slots slot r' hr' (hs'.active ▸ ha'')
    exact ⟨r, hr, hs.trans hs'⟩
  frames q f'' hf'' ha'' := by
    obtain ⟨f', hf', ha', hc', hg'⟩ := h'.frames q f'' hf'' ha''
    obtain ⟨f, hf, ha, hc, hg⟩ := h.frames q f' hf' ha'
    exact ⟨f, hf, ha, hc.trans hc', hg'.trans hg⟩

theorem retain_kept (core : ServerCore) (q : Nat) : Kept core (core.retainQuantizedFrame q) where
  settings := rfl
  frame := rfl
  slots _ r' hr' _ := ⟨r', hr', .refl r'⟩
  frames i f' hf' ha' := by
    simp only [ServerCore.retainQuantizedFrame, List.getElem?_modify] at hf'
    cases hi : core.quantizedFrames[i]? with
    | none => simp [hi] at hf'
    | some f =>
      simp only [hi, Option.map_eq_map, Option.map_some, Option.some.injEq] at hf'
      by_cases hq : q = i ∧ f.active = true
      · rw [if_pos hq.1, if_pos hq.2] at hf'
        subst hf'
        exact ⟨f, rfl, hq.2, ⟨rfl, rfl, rfl, rfl⟩, rfl⟩
      · have hsame : f' = f := by
          rw [← hf']
          split
          · rename_i hqi
            exact if_neg fun ha => hq ⟨hqi, ha⟩
          · rfl
        exact ⟨f, rfl, hsame ▸ ha', hsame ▸ .refl f, hsame ▸ rfl⟩

theorem release_kept (core : ServerCore) (q : Nat) : Kept core (core.releaseQuantizedFrame q) := by
  unfold ServerCore.releaseQuantizedFrame
  split
  · exact .refl core
  rename_i f hf
  split
  · exact .refl core
  rename_i hact
  have ha : f.active = true := by simpa using hact
  have hlt := (List.getElem?_eq_some_iff.mp hf).1
  split
  · refine ⟨rfl, rfl, fun _ r' hr' _ => ⟨r', hr', .refl r'⟩, fun i f' hf' ha' => ?_⟩
    by_cases hi : q = i
    · subst hi
      simp only [List.getElem?_set_self hlt, Option.some.injEq] at hf'
      subst hf'
      exact ⟨f, hf, ha, ⟨rfl, rfl, rfl, rfl⟩, rfl⟩
    · simp only [List.getElem?_set_ne hi] at hf'
      exact ⟨f', hf', ha', .refl f', rfl⟩
  · refine ⟨rfl, rfl, fun slot r' hr' _ => ?_, fun i f' hf' ha' => ?_⟩
    · simp only [List.getElem?_modify] at hr'
      cases hr : core.replicated[slot]? with
      | none => simp [hr] at hr'
      | some r =>
        simp only [hr, Option.map_eq_map, Option.map_some, Option.some.injEq] at hr'
        refine ⟨r, rfl, ?_⟩
        rw [← hr']
        split
        · exact ⟨rfl, rfl, rfl, rfl, rfl⟩
        · exact .refl r
    · by_cases hi : q = i
      · subst hi
        simp only [List.getElem?_set_self hlt, Option.some.injEq] at hf'
        rw [← hf'] at ha'
        cases ha'
      · simp only [List.getElem?_set_ne hi] at hf'
        exact ⟨f', hf', ha', .refl f', rfl⟩

theorem RefSteps.kept (h : RefSteps core core') : Kept core core' := by
  induction h with
  | refl => exact .refl core
  | retain q _ ih => exact ih.trans (retain_kept _ q)
  | release q _ ih => exact ih.trans (release_kept _ q)

theorem deactivateSlot_kept (core : ServerCore) (slot : Nat) (entity : Entity) :
    Kept core (ReplicationServer.deactivateSlot core slot entity) where
  settings := rfl
  frame := rfl
  slots i r' hr' ha' := by
    by_cases hi : i = slot
    · subst hi
      simp only [ReplicationServer.deactivateSlot, List.getElem?_modify_eq, Option.map_eq_map,
        Option.map_eq_some_iff] at hr'
      obtain ⟨r, -, rfl⟩ := hr'
      cases ha'
    · rw [deactivateSlot_get core slot entity hi] at hr'
      exact ⟨r', hr', .refl r'⟩
  frames _ f' hf' ha' := ⟨f', hf', ha', .refl f', rfl⟩

theorem deactivateReplicated_kept (s : ReplicationServer) (slot : Nat) :
    Kept s.core (s.deactivateReplicated slot).core := by
  cases hr : s.core.replicated[slot]? with
  | none =>
    unfold ReplicationServer.deactivateReplicated
    simp only [hr]
    exact .refl _
  | some r =>
    cases ha : r.active with
    | false =>
      unfold ReplicationServer.deactivateReplicated
      simp only [hr, ha, Bool.not_false, if_true]
      exact .refl _
    | true => exact (deactivateSlot_kept s.core slot r.entity).trans (deactivateReplicated_steps s hr ha).kept

theorem deactivateEntityIndex_kept (s : ReplicationServer) (index : Nat) :
    Kept s.core (s.deactivateEntityIndex index).core := by
  unfold ReplicationServer.deactivateEntityIndex
  split
  · exact .refl _
  · exact deactivateReplicated_kept s _

variable {registry : Registry} {bound : Nat}

theorem FrameFresh.same {frame : SyncFrame} {archetype : SyncArchetype} {r r' : ReplicatedSlot} {f f' : QuantizedFrame}
    (h : FrameFresh registry frame archetype r f) (hr : SameSlot r r') (hf : SameContent f f')
    (hg : f'.dirtyGenerations = f.dirtyGenerations) : FrameFresh registry frame archetype r' f' where
  older := by
    rw [hf.data, hg, hr.generations]
    exact h.older
  current := by
    rw [hf.data, hg, hr.generations, hr.entity]
    exact h.current
  cached := by
    rw [hf.data, hf.frame, hr.cacheable, hr.entity]
    exact h.cached

theorem FreshInv.kept (h : FreshInv registry bound core) (hk : Kept core core') : FreshInv registry bound core' := by
  intro slot r' hr' ha'
  obtain ⟨r, hr, hs⟩ := hk.slots slot r' hr' ha'
  obtain ⟨archetype, harch, hfresh⟩ := h slot r hr (hs.active ▸ ha')
  refine ⟨archetype, by rw [hk.settings, hs.archetype]; exact harch, ?_⟩
  refine ⟨?_, ?_, fun q f' hf' ha' hslot hdef => ?_⟩
  · rw [hs.generations]
    exact hfresh.generation
  · rw [hs.cacheable]
    exact hfresh.cacheable
  · obtain ⟨f, hf, ha, hc, hg⟩ := hk.frames q f' hf' ha'
    rw [hk.frame]
    refine (hfresh.frames q f hf ha (hc.slot ▸ hslot) ?_).same hs hc hg
    rw [← hc.archetype, ← hs.archetype]
    exact hdef

end

/-! ## Finding or creating a frame -/

section

variable {registry : Registry} {archetype : SyncArchetype} {entity : Entity} {client : ClientId}

theorem freshFrameData_shared (hall : archetypeIsSameFrameCacheable archetype = true) (client client' : ClientId) :
    freshFrameData registry archetype entity client = freshFrameData registry archetype entity client' := by
  unfold archetypeIsSameFrameCacheable at hall
  rw [Bool.and_eq_true, List.all_eq_true, List.all_eq_true] at hall
  have hvalue : ∀ c ∈ archetype.components,
      visibleValue registry entity client c = visibleValue registry entity client' c := by
    intro c hc
    have : c.audience = .all := by simpa using hall.2 c hc
    simp [visibleValue, this, replicationAudienceMatches]
  have hmask : ∀ (cs : List ComponentReplication) (i : Nat), (∀ c ∈ cs, c ∈ archetype.components) →
      freshMask registry entity client cs i = freshMask registry entity client' cs i := by
    intro cs
    induction cs with
    | nil => exact fun _ _ => rfl
    | cons c cs ih =>
      intro i hsub
      rw [freshMask, freshMask, ih (i + 1) fun c hc => hsub c (List.mem_cons_of_mem _ hc),
        hvalue c (hsub c List.mem_cons_self)]
  have hbytes : archetype.components.map (freshBytes registry entity client) =
      archetype.components.map (freshBytes registry entity client') := by
    apply List.map_congr_left
    intro c hc
    unfold freshBytes
    rw [hvalue c hc]
  have htags : visibleTagMask registry archetype entity client = visibleTagMask registry archetype entity client' := by
    apply List.foldl_ext
    rintro mask ⟨t, i⟩ ht
    have : t.audience = .all := by simpa using hall.1 t (List.fst_mem_of_mem_zipIdx ht)
    simp only [this, replicationAudienceMatches]
  unfold freshFrameData
  rw [hmask archetype.components 0 fun _ h => h, hbytes, htags]

theorem fresh_present {i : Nat} (hcount : archetype.components.length ≤ 63)
    (h : frameHasComponent (freshFrameData registry archetype entity client) i = true) :
    ∃ c value, archetype.components[i]? = some c ∧ visibleValue registry entity client c = some value ∧
      registry.get entity c.component = some value ∧
      (freshFrameData registry archetype entity client).bytes[i]? = some (c.ops.quantize value) := by
  unfold frameHasComponent freshFrameData at h
  rw [freshMask_get archetype.components 0 i (by omega), Bool.and_eq_true, Nat.sub_zero] at h
  cases hc : archetype.components[i]? with
  | none =>
    rw [hc] at h
    cases h.2
  | some c =>
    rw [hc, Option.any_some, Option.isSome_iff_exists] at h
    obtain ⟨value, hv⟩ := h.2
    have hget : registry.get entity c.component = some value := by
      unfold visibleValue at hv
      split at hv
      · exact hv
      · cases hv
    refine ⟨c, value, rfl, hv, hget, ?_⟩
    simp [freshFrameData, hc, freshBytes, hv]

end

section

variable {registry : Registry} {bound : Nat} {core core' : ServerCore} {client : ServerClientReplicator} {slot q : Nat}
  {r : ReplicatedSlot} {archetype : SyncArchetype}

theorem listQuantizedFrame_same (q : Nat) (frame : SyncFrame) (r : ReplicatedSlot) :
    SameSlot r (listQuantizedFrame q frame r) := by
  unfold listQuantizedFrame
  split <;> exact ⟨rfl, rfl, rfl, rfl, rfl⟩

theorem create_slots {frame : SyncFrame} {scratch : QuantizedFrameData × List Nat}
    (h : createQuantizedFrame core r slot frame scratch = .ok (core', q)) {i : Nat} {r' : ReplicatedSlot}
    (hr' : core'.replicated[i]? = some r') : ∃ r, core.replicated[i]? = some r ∧ SameSlot r r' := by
  unfold createQuantizedFrame at h
  obtain ⟨⟨core₁, q₁⟩, htake, heq⟩ := Monadic.Except_map_eq_ok.mp h
  obtain ⟨rfl, rfl⟩ := Prod.mk.inj heq
  have hsame : core₁.replicated = core.replicated := by
    unfold takeQuantizedFrameIndex at htake
    split at htake
    · rw [← (Prod.mk.inj (Except.ok.inj htake)).1]
    split at htake
    · cases htake
    · rw [← (Prod.mk.inj (Except.ok.inj htake)).1]
  simp only [storeQuantizedFrame, List.getElem?_modify, hsame] at hr'
  cases hr : core.replicated[i]? with
  | none => simp [hr] at hr'
  | some r =>
    simp only [hr, Option.map_eq_map, Option.map_some, Option.some.injEq] at hr'
    refine ⟨r, rfl, ?_⟩
    rw [← hr']
    split
    · exact listQuantizedFrame_same q₁ frame r
    · exact .refl r

theorem FrameFresh.new {scratch : QuantizedFrameData × List Nat} {f : QuantizedFrame} {frame : SyncFrame}
    {id : ClientId} (hs : SlotFresh registry bound core slot r archetype)
    (hdata : scratch.1 = freshFrameData registry archetype r.entity id) (hcount : archetype.components.length ≤ 63)
    (hgenerations : ∀ (i : Nat) (c : ComponentReplication), archetype.components[i]? = some c →
      (visibleValue registry r.entity id c).isSome →
      scratch.2[i + 1]? = some ((r.componentDirtyGenerations[i + 1]?).getD 0))
    (hf : f.data = scratch.1) (hg : f.dirtyGenerations = scratch.2) :
    FrameFresh registry frame archetype r f where
  older := by
    intro i c g hc hpresent hgen
    rw [hf, hdata] at hpresent
    obtain ⟨c', value, hc', hv, -, -⟩ := fresh_present hcount hpresent
    rw [hc] at hc'
    obtain rfl := Option.some.inj hc'
    obtain ⟨now, hnow, -⟩ := hs.generation i c hc
    rw [hg, hgenerations i c hc (by rw [hv]; rfl), hnow] at hgen
    exact ⟨now, hnow, Nat.le_of_eq (Option.some.inj hgen).symm⟩
  current := by
    intro i c g hc hpresent _ _
    rw [hf, hdata] at hpresent ⊢
    obtain ⟨c', value, hc', -, hget, hbytes⟩ := fresh_present hcount hpresent
    rw [hc] at hc'
    obtain rfl := Option.some.inj hc'
    exact ⟨value, hget, hbytes⟩
  cached := by
    intro hcache _ client
    rw [hf, hdata]
    exact freshFrameData_shared (hs.cacheable hcache) id client

/-- A client's baseline has the bytes that quantizing now would give, where the generations agree. -/
theorem SlotFresh.baseline (hs : SlotFresh registry bound core slot r archetype) (hheld : HeldInv core client) :
    BaselineFresh registry archetype r (baselineQuantizedFrame core client r slot) := by
  intro frame hframe i c value hc hget hgen hpresent
  unfold baselineQuantizedFrame at hframe
  split at hframe
  · cases hframe
  rename_i state hstate
  split at hframe
  · cases hframe
  rename_i q hq
  obtain ⟨f, hf⟩ := hheld.baseline slot state q hstate hq
  rw [hf.get] at hframe
  simp only at hframe
  split at hframe
  · rename_i hcond
    obtain rfl := Option.some.inj hframe
    rw [Bool.and_eq_true, beq_iff_eq] at hcond
    obtain ⟨now, hnow, -⟩ := hs.generation i c hc
    rw [hnow, Option.getD_some] at hgen
    obtain ⟨value', hget', hbytes⟩ :=
      (hs.frames q f hf.get hf.active hf.ofSlot hcond.2).current i c _ hc hpresent hgen hnow
    rw [hget] at hget'
    rw [Option.some.inj hget']
    exact hbytes
  · cases hframe

/-- What `findOrCreateQuantizedFrame` gives back holds the entity as it is, and the live frames stay tied to the
registry. -/
theorem FreshInv.findOrCreate {held : Nat → Nat} (h : FreshInv registry bound core) (href : RefInv core held)
    (hheld : HeldInv core client)
    (hr : core.replicated[slot]? = some r) (ha : r.active = true) {found : Option Nat}
    (hfind : findOrCreateQuantizedFrame registry core client slot core.frame = .ok (core', found)) :
    FreshInv registry bound core' ∧ ∀ q, found = some q → ∃ archetype f,
      core.settings.archetypes[r.archetype]? = some archetype ∧ core'.quantizedFrames[q]? = some f ∧
      f.data = freshFrameData registry archetype r.entity client.id := by
  obtain ⟨archetype, hdef, hs⟩ := h slot r hr ha
  unfold findOrCreateQuantizedFrame at hfind
  simp only [hr, hdef] at hfind
  split at hfind
  · -- the frame of this server frame
    rename_i q hcached
    obtain ⟨rfl, rfl⟩ := Prod.mk.inj (Except.ok.inj hfind)
    refine ⟨h, fun q' hq' => ?_⟩
    obtain rfl := Option.some.inj hq'
    unfold cachedQuantizedFrame at hcached
    split at hcached
    · rename_i hcache
      rw [Bool.and_eq_true, beq_iff_eq] at hcache
      split at hcached
      · cases hcached
      rename_i q hq
      split at hcached
      · cases hcached
      rename_i f hf
      split at hcached
      · rename_i hcond
        obtain rfl := Option.some.inj hcached
        simp only [Bool.and_eq_true, beq_iff_eq] at hcond
        obtain ⟨⟨⟨hact, hslot⟩, hframe⟩, harch⟩ := hcond
        exact ⟨archetype, f, hdef, hf, (hs.frames q f hf hact hslot harch).cached hcache.1 hframe client.id⟩
      · cases hcached
    · cases hcached
  split at hfind
  · obtain ⟨rfl, rfl⟩ := Prod.mk.inj (Except.ok.inj hfind)
    exact ⟨h, fun _ hq => by cases hq⟩
  rename_i scratch hscratch
  obtain ⟨hdata, hcount, hgenerations⟩ := quantizeFrame_eq (hs.baseline hheld) hscratch
  split at hfind
  · -- a live frame with the same content
    rename_i q hsame
    obtain ⟨rfl, rfl⟩ := Prod.mk.inj (Except.ok.inj hfind)
    refine ⟨h, fun q' hq' => ?_⟩
    obtain rfl := Option.some.inj hq'
    have hcond := List.find?_some hsame
    split at hcond
    · cases hcond
    rename_i f hf
    simp only [Bool.and_eq_true, sameQuantizedFrameComponents, beq_iff_eq] at hcond
    exact ⟨archetype, f, hdef, hf, hcond.2.1.trans hdata⟩
  · obtain ⟨⟨core₁, q⟩, hcreate, heq⟩ := Monadic.Except_map_eq_ok.mp hfind
    obtain ⟨rfl, rfl⟩ := Prod.mk.inj heq
    have hspec := create_spec hcreate
    have hq : q < core₁.quantizedFrames.length := by
      rcases hspec.index with ⟨rfl, -, -, hlen⟩ | ⟨hfree, hlen⟩
      · omega
      · obtain ⟨f, hf, -⟩ := (href.free q).mp (hfree ▸ List.mem_cons_self)
        rw [hlen]
        exact (List.getElem?_eq_some_iff.mp hf).1
    have hnew := hspec.new hq
    refine ⟨?_, fun q' hq' => ?_⟩
    · intro i r' hr' ha'
      obtain ⟨r₀, hr₀, hsame⟩ := create_slots hcreate hr'
      obtain ⟨a, hdef₀, hs₀⟩ := h i r₀ hr₀ (hsame.active ▸ ha')
      refine ⟨a, by rw [hspec.same.settings, hsame.archetype]; exact hdef₀, ?_, ?_, ?_⟩
      · rw [hsame.generations]
        exact hs₀.generation
      · rw [hsame.cacheable]
        exact hs₀.cacheable
      · intro j f hf hact hslot harch
        rw [hspec.same.frame]
        by_cases hj : j = q
        · subst hj
          rw [hnew] at hf
          obtain rfl := Option.some.inj hf
          obtain rfl : slot = i := hslot
          rw [hr] at hr₀
          obtain rfl := Option.some.inj hr₀
          rw [hdef] at hdef₀
          obtain rfl := Option.some.inj hdef₀
          exact (FrameFresh.new hs hdata hcount hgenerations rfl rfl).same hsame (.refl _) rfl
        · rw [hspec.other j hj] at hf
          exact (hs₀.frames j f hf hact hslot (by rw [harch, hsame.archetype])).same hsame (.refl f) rfl
    · obtain rfl := Option.some.inj hq'
      exact ⟨archetype, _, hdef, hnew, hdata⟩

end

/-! ## One send -/

section

variable {registry : Registry} {bound : Nat} {l l' : SendLoop} {others : Nat → Nat}

theorem replicable_active {core : ServerCore} {slot : Nat} (h : core.replicatedIsReplicable registry slot = true) :
    ∃ r, core.replicated[slot]? = some r ∧ r.active = true := by
  unfold ServerCore.replicatedIsReplicable at h
  split at h
  · rename_i r hr
    simp only [Bool.and_eq_true] at h
    exact ⟨r, hr, h.1.1⟩
  · cases h

theorem FreshInv.sendUpdate (h : FreshInv registry bound l.core) (hinv : ClientInv l.core l.client others) {slot : Nat}
    {mask : Mask} (hsend : l.sendUpdate registry slot mask = .ok l') : FreshInv registry bound l'.core := by
  unfold SendLoop.sendUpdate at hsend
  split at hsend
  · rw [Monadic.pure_eq_ok] at hsend
    exact hsend ▸ h
  rename_i hrep
  obtain ⟨r, hr, ha⟩ := replicable_active (by simpa using hrep)
  rw [Monadic.bind_eq_ok] at hsend
  obtain ⟨⟨core₁, client₁, serialized⟩, hserialize, hsend⟩ := hsend
  have h₁ : FreshInv registry bound core₁ := by
    unfold serializeEntity at hserialize
    split at hserialize
    · rw [Monadic.pure_eq_ok] at hserialize
      exact (Prod.mk.inj hserialize).1 ▸ h
    rw [Monadic.bind_eq_ok] at hserialize
    obtain ⟨⟨core₂, found⟩, hfind, hserialize⟩ := hserialize
    have hfresh := (h.findOrCreate hinv.ref hinv.held hr ha hfind).1
    cases found with
    | none =>
      simp only [Monadic.pure_eq_ok] at hserialize
      exact (Prod.mk.inj hserialize).1 ▸ hfresh
    | some q =>
      simp only [Monadic.bind_eq_ok] at hserialize
      obtain ⟨⟨client₂, written⟩, -, hserialize⟩ := hserialize
      rw [Monadic.pure_eq_ok] at hserialize
      exact (Prod.mk.inj hserialize).1 ▸ hfresh
  cases serialized with
  | none =>
    simp only [Monadic.pure_eq_ok] at hsend
    exact hsend ▸ h₁
  | some serialized =>
    simp only at hsend
    have hcore := flushIfFull_core { l with
      core := core₁.retainQuantizedFrame serialized.quantizedFrame, client := client₁ } (1 + serialized.payloadBits)
    generalize SendLoop.flushIfFull { l with
      core := core₁.retainQuantizedFrame serialized.quantizedFrame, client := client₁ }
      (1 + serialized.payloadBits) = l₁ at hcore hsend
    have h₂ : FreshInv registry bound l₁.core := by
      rw [hcore]
      exact h₁.kept (retain_kept core₁ serialized.quantizedFrame)
    split at hsend
    · rw [Monadic.pure_eq_ok] at hsend
      subst hsend
      unfold SendLoop.refuseUpdate
      simp only
      split <;> exact h₂.kept (release_kept _ _)
    · rw [Monadic.pure_eq_ok] at hsend
      subst hsend
      unfold SendLoop.acceptUpdate
      cases l₁.updateWritten slot mask serialized with
      | none => exact h₂
      | some w => exact h₂.kept (recordSent_steps _ _ _ _).kept

theorem FreshInv.sendCandidate (h : FreshInv registry bound l.core) (hinv : ClientInv l.core l.client others)
    {a : SerializedCandidate} (hsend : SendLoop.sendCandidate registry l a = .ok l') :
    FreshInv registry bound l'.core := by
  unfold SendLoop.sendCandidate at hsend
  split at hsend
  · exact Except.ok.inj hsend ▸ h
  cases a with
  | destroy index =>
    obtain rfl := Except.ok.inj hsend
    rw [sendDestroy_core]
    exact h
  | update slot priority mask => exact h.sendUpdate hinv hsend

end

namespace ReplicationServer

/-- The packet loop of a send to the client at position `c`, somewhere between two candidates. -/
def InSend (s : ReplicationServer) (c : Nat) (registry : Registry) (inputAckFrame : SyncFrame) (available : Nat)
    (decider : Entity → EntityReplicationDecision) (l : SendLoop) : Prop :=
  ∃ t updates client done rest, s.collectCandidates c registry inputAckFrame decider = (t, updates) ∧
    t.clients[c]? = some client ∧
    (destroyOrder client.destroys).map SerializedCandidate.destroy ++
      sortByPriority t.core.options.floats updates = done ++ rest ∧
    done.foldlM (SendLoop.sendCandidate registry) { core := t.core, client, remaining := available } = .ok l

end ReplicationServer

section

variable {s : ReplicationServer} {c : Nat} {registry : Registry} {inputAckFrame : SyncFrame} {available bound : Nat}
  {decider : Entity → EntityReplicationDecision} {l : SendLoop}

theorem FreshInv.collectCandidates (h : FreshInv registry bound s.core) (c : Nat) (inputAckFrame : SyncFrame)
    (decider : Entity → EntityReplicationDecision) :
    FreshInv registry bound (s.collectCandidates c registry inputAckFrame decider).1.core := by
  unfold ReplicationServer.collectCandidates
  split
  · exact h
  refine Monadic.foldl_inv (fun _ (acc : ReplicationServer × List SerializedCandidate) =>
    FreshInv registry bound acc.1.core) _ _ ?_ h
  rintro slot - ⟨t, candidates⟩ ht
  unfold collectCandidate
  simp only
  split
  · exact ht
  split
  · exact ht
  split
  · exact ht
  split
  · split
    · exact ht.kept (deactivateReplicated_kept t slot)
    · exact ht
  · exact ht.kept (updateCandidate_steps ..).kept

theorem collectCandidates_inv {client : ServerClientReplicator} (hs : ServerInv s) (hc : s.clients[c]? = some client)
    (registry : Registry) (inputAckFrame : SyncFrame) (decider : Entity → EntityReplicationDecision) :
    CollectInv False (s.setClient c s.core (beginSend s.core client inputAckFrame)) c []
      (s.collectCandidates c registry inputAckFrame decider).1
      (s.collectCandidates c registry inputAckFrame decider).2 := by
  have m₁ : Moves False s _ := (beginSend_moves False s.core client inputAckFrame).lift hc
  have hs₁ := hs.moves m₁
  have hget₁ : (s.setClient c s.core (beginSend s.core client inputAckFrame)).clients[c]? = _ := setClient_get hc
  unfold ReplicationServer.collectCandidates
  simp only [hc]
  exact Monadic.foldl_inv (fun rest (acc : ReplicationServer × List SerializedCandidate) =>
      CollectInv False (s.setClient c s.core (beginSend s.core client inputAckFrame)) c rest acc.1 acc.2)
    (beginSend s.core client inputAckFrame).dirtyQueue.dirtyReplicatedIndices
    (s.setClient c s.core (beginSend s.core client inputAckFrame), []) (fun slot rest acc hacc => hacc.step)
    ⟨hs₁, .refl, rfl, fun client' hc' => ⟨client', hc', rfl⟩,
      by simpa using (hs₁.base.queues _ (List.mem_of_getElem? hget₁)).nodup, by simp⟩

/-- Throughout a send the frames stay tied to the registry, and the client's state to the frames. -/
theorem FreshInv.inSend (h : FreshInv registry bound s.core) (hs : ServerInv s)
    (hids : ∀ client ∈ s.clients, IdInv client) (hsend : s.InSend c registry inputAckFrame available decider l) :
    FreshInv registry bound l.core ∧ l.core.settings = s.core.settings ∧
    ∃ others, ClientInv l.core l.client others := by
  obtain ⟨t, updates, client', done, rest, hcollected, hc', hsplit, hloop⟩ := hsend
  have hfresh : FreshInv registry bound t.core := by
    have := h.collectCandidates c inputAckFrame decider
    rwa [hcollected] at this
  cases hc : s.clients[c]? with
  | none =>
    simp only [ReplicationServer.collectCandidates, hc, Prod.mk.injEq] at hcollected
    rw [← hcollected.1, hc] at hc'
    cases hc'
  | some client =>
    have hcollect := collectCandidates_inv hs hc registry inputAckFrame decider
    rw [hcollected] at hcollect
    have m : Moves False s t := (show Moves False s _ from
      (beginSend_moves False s.core client inputAckFrame).lift hc).trans hcollect.moves
    have hinv := hcollect.inv.client hc'
    have hid := (idRule False).moves hs m hids client' (List.mem_of_getElem? hc')
    have hdestroys :
        ∀ l : List Nat, (l.map SerializedCandidate.destroy).filterMap SerializedCandidate.slot? = [] := by
      intro l
      rw [List.filterMap_map]
      exact List.filterMap_eq_nil_iff.mpr fun _ _ => rfl
    have hstart : SendInv False t.core client' (done ++ rest)
        { core := t.core, client := client', remaining := available } := by
      rw [← hsplit]
      refine ⟨.refl, ⟨by simp, rfl, rfl, fun hf => hf.elim⟩, ?_, ?_, fun hf => hf.elim⟩
      · rw [List.filterMap_append, hdestroys, List.nil_append]
        exact ((sortByPriority_perm t.core.options.floats updates).filterMap SerializedCandidate.slot?).nodup_iff.mpr
          (List.nodup_append.mp hcollect.nodup).1
      · intro slot p mask hm st hst
        rcases List.mem_append.mp hm with hm | hm
        · simp at hm
        · exact hcollect.mask slot p mask ((sortByPriority_perm t.core.options.floats updates).mem_iff.mp hm)
            client' st hc' hst
    have hend := Monadic.foldlM_inv
      (fun todo l => SendInv False t.core client' (todo ++ rest) l ∧ FreshInv registry bound l.core) done _ l
      (fun a todo l l' h hstep => ⟨h.1.candidate hinv hid (fun hf => hf.elim) hstep,
        h.2.sendCandidate (hinv.moves h.1.moves) hstep⟩) ⟨hstart, hfresh⟩ hloop
    exact ⟨hend.2, hend.1.moves.sameSlots.settings.trans (m.settings hs), _, hinv.moves hend.1.moves⟩

theorem FreshInv.sendClient (h : FreshInv registry bound s.core) (hs : ServerInv s)
    (hids : ∀ client ∈ s.clients, IdInv client) {result : ReplicationServer × ReplicationSendResult}
    (hsend : s.sendClient c registry inputAckFrame available decider = .ok result) :
    FreshInv registry bound result.1.core := by
  rw [sendClient_eq] at hsend
  unfold sendCandidates at hsend
  simp only at hsend
  split at hsend
  · rw [Monadic.pure_eq_ok] at hsend
    exact hsend ▸ h.collectCandidates c inputAckFrame decider
  rename_i client hc
  rw [Monadic.bind_eq_ok] at hsend
  obtain ⟨l, hloop, hsend⟩ := hsend
  rw [Monadic.pure_eq_ok] at hsend
  subst hsend
  have hin : s.InSend c registry inputAckFrame available decider l :=
    ⟨_, _, client, _, [], rfl, hc, (List.append_nil _).symm, hloop⟩
  show FreshInv registry bound l.finish.core
  rw [finish_core]
  exact (h.inSend hs hids hin).1

end

/-! ## Slots taken and given up -/

section

variable {s s' : ReplicationServer} {registry current : Registry} {bound : Nat}

/-- A live frame belongs to an active slot: some client holds it, and no client holds anything of an idle slot. -/
theorem live_slot_active (hs : ServerInv s) {q : Nat} {f : QuantizedFrame} (hf : s.core.quantizedFrames[q]? = some f)
    (ha : f.active = true) : s.core.replicatedSlotActive f.slot = true := by
  have hheld : 0 < s.holds q := by
    rw [← hs.ref.count q f hf]
    exact (hs.ref.alive q f hf).mp ha
  obtain ⟨n, hn, hpos⟩ := List.exists_mem_ne_zero_of_sum_ne_zero hheld.ne'
  obtain ⟨client, hc, rfl⟩ := List.mem_map.mp hn
  obtain ⟨m, hm, hpos⟩ := List.exists_mem_ne_zero_of_sum_ne_zero hpos
  obtain ⟨state, hstate, rfl⟩ := List.mem_map.mp hm
  obtain ⟨slot, hlt, hget⟩ := List.getElem_of_mem hstate
  have hget : client.states[slot]? = some state := hget ▸ List.getElem?_eq_getElem hlt
  obtain ⟨f', hf'⟩ := (hs.held client hc).holds hget (Nat.pos_of_ne_zero hpos)
  have hslot : f.slot = slot := by
    rw [hf'.get] at hf
    exact Option.some.inj hf ▸ hf'.ofSlot
  rw [hslot]
  by_contra hidle
  have hempty := (hs.base.queues client hc).idleState slot state (by simpa using hidle) hget
  rw [hempty] at hpos
  exact hpos rfl

theorem activated_frames {core core' : ServerCore} {entity : Entity} {slot : Nat}
    (h : Activated core entity slot core') :
    core'.quantizedFrames = core.quantizedFrames := by
  obtain ⟨archetype, definition, core₁, -, halloc, rfl⟩ := h.allocated
  unfold allocateReplicatedSlot at halloc
  split at halloc
  · obtain ⟨rfl, rfl⟩ := Prod.mk.inj (Except.ok.inj halloc)
    rfl
  split at halloc
  · cases halloc
  · obtain ⟨rfl, rfl⟩ := Prod.mk.inj (Except.ok.inj halloc)
    rfl

theorem FreshInv.activated {entity : Entity} {slot : Nat} {core' : ServerCore} (h : FreshInv registry bound s.core)
    (hs : ServerInv s) (hbound : 1 ≤ bound) (hact : Activated s.core entity slot core') :
    FreshInv registry bound core' := by
  have htaken := hact.taken hs.base.slots
  have hframes := activated_frames hact
  obtain ⟨archetype, definition, core₁, hdef, halloc, rfl⟩ := hact.allocated
  have hnew : ∃ r, (initializeSlot core₁ slot entity definition).replicated[slot]? = some r ∧
      r.archetype = archetype ∧
      r.sameFrameCacheable = archetypeIsSameFrameCacheable definition ∧
      r.componentDirtyGenerations = List.replicate (syncSlotCount definition) 1 := by
    obtain ⟨r, hr, -, -⟩ := htaken.taken
    refine ⟨r, hr, ?_⟩
    simp only [initializeSlot, List.getElem?_modify_eq, Option.map_eq_map, Option.map_eq_some_iff] at hr
    obtain ⟨r₁, hr₁, rfl⟩ := hr
    refine ⟨?_, rfl, rfl⟩
    unfold allocateReplicatedSlot at halloc
    split at halloc
    · obtain ⟨rfl, rfl⟩ := Prod.mk.inj (Except.ok.inj halloc)
      have hlt := (List.getElem?_eq_some_iff.mp hr₁).1
      rw [List.length_set] at hlt
      simp only [List.getElem?_set_self hlt, Option.some.injEq] at hr₁
      rw [← hr₁]
    split at halloc
    · cases halloc
    · obtain ⟨rfl, rfl⟩ := Prod.mk.inj (Except.ok.inj halloc)
      simp at hr₁
      rw [← hr₁]
  intro i r' hr' ha'
  by_cases hi : i = slot
  · subst hi
    obtain ⟨r, hr, harch, hcache, hgens⟩ := hnew
    rw [hr] at hr'
    obtain rfl := Option.some.inj hr'
    refine ⟨definition, by rw [htaken.settings, harch]; exact hdef, ?_, ?_, ?_⟩
    · intro k c hc
      refine ⟨1, ?_, hbound⟩
      rw [hgens, List.getElem?_replicate, if_pos]
      exact Nat.succ_lt_succ (List.getElem?_eq_some_iff.mp hc).1
    · rw [hcache]
      exact id
    · intro q f hf ha hslot _
      -- no live frame is left of the slot's last entity
      rw [hframes] at hf
      have hactive := live_slot_active hs hf ha
      rw [hslot, htaken.idle] at hactive
      cases hactive
  · rw [htaken.other i hi] at hr'
    obtain ⟨a, hdef', hs'⟩ := h i r' hr' ha'
    refine ⟨a, by rw [htaken.settings]; exact hdef', hs'.generation, hs'.cacheable, ?_⟩
    rw [hframes, htaken.frame]
    exact hs'.frames

end

structure SlotRule (P : ServerCore → Prop) : Prop where
  kept : ∀ {core core' : ServerCore}, Kept core core' → P core → P core'
  activated : ∀ {s : ReplicationServer} {entity : Entity} {slot : Nat} {core' : ServerCore}, ServerInv s →
    Activated s.core entity slot core' → P s.core → P core'

section

variable {P : ServerCore → Prop} {s s' : ReplicationServer} {registry : Registry}

theorem SlotRule.activateReplicated (rule : SlotRule P) (h : P s.core) (hs : ServerInv s) {entity : Entity}
    {archetype : SyncArchetypeId} {definition : SyncArchetype}
    (hdef : s.core.settings.archetypes[archetype]? = some definition)
    (hstep : s.activateReplicated entity archetype definition = .ok s') : P s'.core := by
  have m₁ : Moves False s (s.deactivateEntityIndex entity.index) := deactivateEntityIndex_moves hs
  unfold ReplicationServer.activateReplicated at hstep
  simp only [Monadic.bind_eq_ok, Monadic.pure_eq_ok] at hstep
  obtain ⟨⟨core, slot⟩, halloc, rfl⟩ := hstep
  have hact : Activated (s.deactivateEntityIndex entity.index).core entity slot
      (initializeSlot core slot entity definition) :=
        ⟨archetype, definition, core, m₁.settings hs ▸ hdef, halloc, rfl⟩
  have hgone := rule.kept (deactivateEntityIndex_kept s entity.index) h
  refine rule.kept (RefSteps.kept ?_) (rule.activated (hs.moves m₁) hact hgone)
  refine eachClient_steps (fun core client => ?_) _ _
  unfold startReplicating
  exact clearState_steps core _ slot

theorem SlotRule.upsertReplicated (rule : SlotRule P) (h : P s.core) (hs : ServerInv s) {entity : Entity}
    {archetype : SyncArchetypeId} (hstep : s.upsertReplicated registry entity archetype = .ok s') : P s'.core := by
  unfold ReplicationServer.upsertReplicated at hstep
  split at hstep
  · obtain rfl := Except.ok.inj hstep
    exact rule.kept (deactivateEntityIndex_kept s _) h
  rename_i definition hdef
  split at hstep
  · obtain rfl := Except.ok.inj hstep
    exact rule.kept (deactivateEntityIndex_kept s _) h
  split at hstep
  · exact rule.activateReplicated h hs hdef hstep
  rename_i slot hslot
  obtain ⟨r, hr, ha, -⟩ := hs.base.slots.entities entity slot hslot
  simp only [hr, ha, Bool.not_true, Bool.false_eq_true, if_false] at hstep
  split at hstep
  · cases hstep
  · exact Except.ok.inj hstep ▸ h

theorem SlotRule.upsertAll (rule : SlotRule P) (h : P s.core) (hs : ServerInv s) {entities : List Entity}
    (hstep : s.upsertAll registry entities = .ok s') : ServerInv s' ∧ P s'.core := by
  refine Monadic.foldlM_inv (fun _ (t : ReplicationServer) => ServerInv t ∧ P t.core) entities s s' ?_ ⟨hs,
    h⟩ hstep
  rintro entity - t t' ⟨ht, hp⟩ hstep
  split at hstep
  · exact Except.ok.inj hstep ▸ ⟨ht, hp⟩
  · exact ⟨ht.moves (show Moves False _ _ from upsertReplicated_moves ht hstep), rule.upsertReplicated hp ht hstep⟩

theorem SlotRule.initialize (rule : SlotRule P) (h : P s.core) (hs : ServerInv s) {entities : List Entity}
    (hstep : (s.upsertAll registry entities).map setInitialized = .ok s') : P s'.core := by
  obtain ⟨s₁, h₁, rfl⟩ := Monadic.Except_map_eq_ok.mp hstep
  have hkept : Kept s₁.core s₁.setInitialized.core :=
    ⟨rfl, rfl, fun _ r hr _ => ⟨r, hr, .refl r⟩, fun _ f hf ha => ⟨f, hf, ha, .refl f, rfl⟩⟩
  exact rule.kept hkept (rule.upsertAll h hs h₁).2

theorem SlotRule.rediscover (rule : SlotRule P) (h : P s.core) (hs : ServerInv s) {dirty : DirtyView}
    (hstep : s.rediscoverReplicatedEntities registry dirty = .ok s') : P s'.core := by
  unfold ReplicationServer.rediscoverReplicatedEntities at hstep
  split at hstep
  · exact rule.initialize h hs hstep
  simp only [Monadic.bind_eq_ok] at hstep
  obtain ⟨s₁, h₁, h₂⟩ := hstep
  have hremoved := Monadic.foldl_inv (fun _ (t : ReplicationServer) => ServerInv t ∧ P t.core)
    (dirty.removed .replicated) s (f := fun server entity => server.deactivateEntityIndex entity.index)
    (fun entity _ t ⟨ht, hp⟩ => ⟨ht.moves (show Moves False _ _ from deactivateEntityIndex_moves ht),
      rule.kept (deactivateEntityIndex_kept t entity.index) hp⟩) ⟨hs, h⟩
  obtain ⟨hs₁, hp₁⟩ := rule.upsertAll hremoved.2 hremoved.1 h₁
  exact (rule.upsertAll hp₁ hs₁ h₂).2

theorem SlotRule.rediscoverAll (rule : SlotRule P) (h : P s.core) (hs : ServerInv s)
    (hstep : s.rediscoverAllReplicatedEntities registry = .ok s') : P s'.core := by
  unfold ReplicationServer.rediscoverAllReplicatedEntities at hstep
  split at hstep
  · exact rule.initialize h hs hstep
  simp only at hstep
  have hgone := Monadic.foldl_inv (fun _ (t : ReplicationServer) => ServerInv t ∧ P t.core)
    (List.range s.core.replicated.length) s
    (f := fun server slot =>
      if server.core.replicatedSlotActive slot && !server.core.replicatedIsReplicable registry slot then
        server.deactivateReplicated slot
      else server)
    (fun slot _ t ⟨ht, hp⟩ => by
      split
      · exact ⟨ht.moves (show Moves False _ _ from deactivateReplicated_moves ht),
          rule.kept (deactivateReplicated_kept t slot) hp⟩
      · exact ⟨ht, hp⟩) ⟨hs, h⟩
  exact (rule.upsertAll hgone.2 hgone.1 hstep).2

end

theorem freshInv_slotRule (registry : Registry) {bound : Nat} (hbound : 1 ≤ bound) :
    SlotRule (FreshInv registry bound) where
  kept hkept h := h.kept hkept
  activated hs hact h := h.activated hs hbound hact

def FrameUnused (frame : SyncFrame) (core : ServerCore) : Prop :=
  ∀ (q : Nat) (f : QuantizedFrame), core.quantizedFrames[q]? = some f → f.active = true → f.frame ≠ frame

theorem frameUnused_slotRule (frame : SyncFrame) : SlotRule (FrameUnused frame) where
  kept hkept h q f' hf' ha' := by
    obtain ⟨f, hf, ha, hc, -⟩ := hkept.frames q f' hf' ha'
    rw [hc.frame]
    exact h q f hf ha
  activated _ hact h := by
    unfold FrameUnused
    rw [activated_frames hact]
    exact h

theorem frame_slotRule (frame : SyncFrame) : SlotRule fun core => core.frame = frame where
  kept hkept h := hkept.frame.trans h
  activated hs hact h := (hact.taken hs.base.slots).frame.trans h

/-! ## One dirty frame -/

/-- The dirty frame of `current`, after `registry`: every component that differs is reported, and no entity is reported
more than `2 ^ 30` times under one key. -/
structure DirtyView.Covers (dirty : DirtyView) (registry current : Registry) : Prop where
  changes : ∀ entity component, current.get entity component ≠ registry.get entity component →
    0 < dirty.reports (.component component) entity
  counts : ∀ key entity, dirty.reports key entity ≤ 2 ^ 30

structure Registry.Unchanged (registry current : Registry) : Prop where
  get : current.get = registry.get
  hasTag : current.hasTag = registry.hasTag
  networkOwner : current.networkOwner = registry.networkOwner

theorem iterate_nextGeneration_eq {g n : Nat} (h : g + n < 2 ^ 64) : nextGeneration^[n] g = g + n := by
  induction n with
  | zero => rfl
  | succ n ih =>
    rw [Function.iterate_succ_apply', ih (by omega), nextGeneration, if_neg (by omega), Nat.mod_eq_of_lt (by omega)]
    omega

theorem captureDirtyGenerations_frames (core : ServerCore) (dirty : DirtyView) :
    (captureDirtyGenerations core dirty).quantizedFrames = core.quantizedFrames := by
  refine captureDirtyGenerations_keeps (P := fun core' => core'.quantizedFrames = core.quantizedFrames)
    (fun core' slot which h => ?_) dirty rfl
  rw [← h]
  unfold bumpGenerations
  split
  · rfl
  split
  · rfl
  split <;> rfl

section

variable {registry current : Registry} {core : ServerCore} {dirty : DirtyView} {bound : Nat}

theorem captureDirtyGenerations_slots {slot : Nat} {r' : ReplicatedSlot}
    (hr' : (captureDirtyGenerations core dirty).replicated[slot]? = some r') :
    ∃ r, core.replicated[slot]? = some r ∧ r'.entity = r.entity ∧ r'.archetype = r.archetype ∧
    r'.active = r.active ∧
      r'.sameFrameCacheable = r.sameFrameCacheable := by
  refine captureDirtyGenerations_keeps (P := fun core' => ∀ r', core'.replicated[slot]? = some r' →
    ∃ r, core.replicated[slot]? = some r ∧ r'.entity = r.entity ∧ r'.archetype = r.archetype ∧
    r'.active = r.active ∧
      r'.sameFrameCacheable = r.sameFrameCacheable) (fun core' i which hcore r' hr' => ?_) dirty
    (fun r' hr' => ⟨r', hr', rfl, rfl, rfl, rfl⟩) r' hr'
  unfold bumpGenerations at hr'
  split at hr'
  · exact hcore r' hr'
  rename_i r hr
  split at hr'
  · exact hcore r' hr'
  split at hr'
  · exact hcore r' hr'
  by_cases hi : i = slot
  · subst hi
    simp only [List.getElem?_set_self (List.getElem?_eq_some_iff.mp hr).1, Option.some.injEq] at hr'
    rw [← hr']
    exact hcore r hr
  · simp only [List.getElem?_set_ne hi] at hr'
    exact hcore r' hr'

theorem Registry.Unchanged.freshFrameData (h : registry.Unchanged current) (archetype : SyncArchetype) (entity : Entity)
    (client : ClientId) :
    AshiatoSync.freshFrameData current archetype entity client =
      AshiatoSync.freshFrameData registry archetype entity client := by
  have hvalue : visibleValue current entity client = visibleValue registry entity client := by
    funext c
    unfold visibleValue
    rw [h.get, h.networkOwner]
  have hmask : ∀ cs i, freshMask current entity client cs i = freshMask registry entity client cs i := by
    intro cs
    induction cs with
    | nil => exact fun _ => rfl
    | cons c cs ih =>
      intro i
      rw [freshMask, freshMask, ih, hvalue]
  unfold AshiatoSync.freshFrameData
  congr 1
  · unfold visibleTagMask
    rw [h.hasTag, h.networkOwner]
  · exact hmask _ _
  · apply List.map_congr_left
    intro c _
    unfold freshBytes
    rw [hvalue]

/-- One component's generation in a dirty frame: it moves on, and stands only if the component was not written. -/
theorem SlotFresh.captured {slot : Nat} {r r' : ReplicatedSlot} {archetype : SyncArchetype}
    (hs : SlotFresh registry bound core slot r archetype) (hfound : SlotFound core archetype slot r)
    (hr' : (captureDirtyGenerations core dirty).replicated[slot]? = some r') (hcovers : dirty.Covers registry current)
    (hops : ∀ c ∈ archetype.components, c.component ∈ core.settings.componentOps)
    (hnodup : core.settings.componentOps.Nodup) (hbound : bound + 2 ^ 31 < 2 ^ 64) {i : Nat} {c : ComponentReplication}
    (hc : archetype.components[i]? = some c) :
    ∃ g n, r.componentDirtyGenerations[i + 1]? = some g ∧ g ≤ bound ∧ n ≤ 2 ^ 31 ∧
      r'.componentDirtyGenerations[i + 1]? = some (g + n) ∧
      (n = 0 → current.get r.entity c.component = registry.get r.entity c.component) := by
  obtain ⟨g, hg, hle⟩ := hs.generation i c hc
  obtain ⟨r'', hfound', hbumps⟩ := captureDirtyGenerations_get hfound dirty hc
  obtain rfl : r'' = r' := Option.some.inj (hfound'.get.symm.trans hr')
  have hone : core.settings.componentOps.count c.component = 1 :=
    List.count_eq_one_of_mem hnodup (hops c (List.mem_of_getElem? hc))
  have hn : generationBumps core.settings dirty r.entity c = dirty.reports (.component c.component) r.entity +
      dirty.reports .networkOwner r.entity * if c.audience != .all then 1 else 0 := by
    unfold generationBumps
    rw [hone, Nat.one_mul]
  have hcomponent := hcovers.counts (.component c.component) r.entity
  have howner : (dirty.reports .networkOwner r.entity * if c.audience != .all then 1 else 0) ≤ 2 ^ 30 := by
    split
    · rw [Nat.mul_one]
      exact hcovers.counts .networkOwner r.entity
    · rw [Nat.mul_zero]
      exact Nat.zero_le _
  have hmost : generationBumps core.settings dirty r.entity c ≤ 2 ^ 31 := by omega
  refine ⟨g, _, hg, hle, hmost, ?_, fun hzero => ?_⟩
  · rw [hbumps.get hg, iterate_nextGeneration_eq (by omega)]
  · by_contra hchanged
    have := hcovers.changes r.entity c.component hchanged
    omega

theorem FreshInv.capture (h : FreshInv registry bound core) (hslots : SlotsInv core) (hindexed : SlotsIndexed core)
    (hcovers : dirty.Covers registry current)
    (hops : ∀ archetype ∈ core.settings.archetypes, ∀ c ∈ archetype.components,
      c.component ∈ core.settings.componentOps)
    (hnodup : core.settings.componentOps.Nodup) (hbound : bound + 2 ^ 31 < 2 ^ 64)
    (hnow : registry.Unchanged current ∨ FrameUnused core.frame core) :
    FreshInv current (bound + 2 ^ 31) (captureDirtyGenerations core dirty) := by
  intro slot r' hr' ha'
  have hsame := captureDirtyGenerations_sameSlots core dirty
  obtain ⟨r, hr, hentity, harch, hactive, hcache⟩ := captureDirtyGenerations_slots hr'
  have ha : r.active = true := hactive ▸ ha'
  obtain ⟨archetype, hdef, hs⟩ := h slot r hr ha
  have hcaptured := fun (i : Nat) (c : ComponentReplication) (hc : archetype.components[i]? = some c) =>
    hs.captured ⟨hslots, hindexed, hr, ha, hdef⟩ hr' hcovers (hops archetype (List.mem_of_getElem? hdef))
      hnodup hbound hc
  refine ⟨archetype, by rw [hsame.settings, harch]; exact hdef, ?_, ?_, ?_⟩
  · intro i c hc
    obtain ⟨g, n, -, hle, hn, hg', -⟩ := hcaptured i c hc
    exact ⟨g + n, hg', Nat.add_le_add hle hn⟩
  · rw [hcache]
    exact hs.cacheable
  · intro q f hf hact hslot hdef'
    rw [captureDirtyGenerations_frames] at hf
    rw [hsame.frame]
    have hold := hs.frames q f hf hact hslot (by rw [hdef', harch])
    refine ⟨?_, ?_, ?_⟩
    · intro i c g hc hpresent hgen
      obtain ⟨now, hnow, hle⟩ := hold.older i c g hc hpresent hgen
      obtain ⟨g', n, hg, -, -, hg', -⟩ := hcaptured i c hc
      rw [hnow] at hg
      obtain rfl := Option.some.inj hg
      exact ⟨now + n, hg', hle.trans (Nat.le_add_right _ _)⟩
    · intro i c g hc hpresent hgen hnow'
      obtain ⟨now, hnow, hle⟩ := hold.older i c g hc hpresent hgen
      obtain ⟨g', n, hg, -, -, hg', hstands⟩ := hcaptured i c hc
      rw [hnow] at hg
      obtain rfl := Option.some.inj hg
      rw [hg'] at hnow'
      have hsum := Option.some.inj hnow'
      -- the generation has come as far as the frame's, so nothing was reported
      have hzero : n = 0 := by omega
      obtain rfl : now = g := by omega
      obtain ⟨value, hget, hbytes⟩ := hold.current i c now hc hpresent hgen hnow
      refine ⟨value, ?_, hbytes⟩
      rw [hentity, hstands hzero]
      exact hget
    · intro hcacheable hframe client
      rw [hcache] at hcacheable
      rw [hentity]
      rcases hnow with hunchanged | hnone
      · rw [hunchanged.freshFrameData]
        exact hold.cached hcacheable hframe client
      · exact absurd hframe (hnone q f hf hact)

end

/-! ## Every run -/

/-- A dirty frame may get this number: no live frame has it, or it is the current one again and nothing was written
since. -/
def FrameOpen (s : ReplicationServer) (frame : SyncFrame) (registry current : Registry) : Prop :=
  FrameUnused frame s.core ∨ frame = s.core.frame ∧ registry.Unchanged current

/-- The runs in which every write is reported before the sends of its frame: each dirty frame covers what changed since
the one before, and sends read the registry of the last dirty frame.  `n` counts the dirty frames. -/
inductive ReplicationServer.ReportedRun (options : ReplicationServerOptions) (settings : SyncSettings) :
    Nat → Registry → ReplicationServer → Prop where
  | start (registry : Registry) : ReportedRun options settings 0 registry (start options settings)
  | advance {n : Nat} {registry current : Registry} {s s' : ReplicationServer} {frame : SyncFrame} {dirty : DirtyView}
      {cues : List QueuedSyncCue} : ReportedRun options settings n registry s → dirty.Covers registry current →
      FrameOpen s frame registry current → s.exec (.advance frame current dirty cues) = .ok s' →
      ReportedRun options settings (n + 1) current s'
  | send {n : Nat} {registry : Registry} {s s' : ReplicationServer} {id : ClientId} {inputAckFrame : SyncFrame}
      {available : Nat} {decider : Entity → EntityReplicationDecision} : ReportedRun options settings n registry s →
      s.exec (.send id registry inputAckFrame available decider) = .ok s' → ReportedRun options settings n registry s'
  | rediscoverAll {n : Nat} {registry current : Registry} {s s' : ReplicationServer} :
      ReportedRun options settings n registry s → s.exec (.rediscoverAll current) = .ok s' →
      ReportedRun options settings n registry s'
  | acks {n : Nat} {registry : Registry} {s s' : ReplicationServer} {id : ClientId} {packetIds : List Nat} :
      ReportedRun options settings n registry s → s.exec (.acks id packetIds) = .ok s' →
      ReportedRun options settings n registry s'
  | addClient {n : Nat} {registry : Registry} {s s' : ReplicationServer} {peer : PeerId} {id : ClientId} :
      ReportedRun options settings n registry s → s.exec (.addClient peer id) = .ok s' →
      ReportedRun options settings n registry s'
  | removeClient {n : Nat} {registry : Registry} {s s' : ReplicationServer} {id : ClientId} :
      ReportedRun options settings n registry s → s.exec (.removeClient id) = .ok s' →
      ReportedRun options settings n registry s'

section

variable {options : ReplicationServerOptions} {settings : SyncSettings} {n : Nat} {registry : Registry}
  {s s' : ReplicationServer}

theorem ReplicationServer.ReportedRun.reachable (h : ReportedRun options settings n registry s) :
    Reachable options settings s := by
  induction h with
  | start => exact .start
  | advance _ _ _ hexec ih => exact .step _ ih hexec
  | send _ hexec ih => exact .step _ ih hexec
  | rediscoverAll _ hexec ih => exact .step _ ih hexec
  | acks _ hexec ih => exact .step _ ih hexec
  | addClient _ hexec ih => exact .step _ ih hexec
  | removeClient _ hexec ih => exact .step _ ih hexec

theorem FreshInv.setFrame {core : ServerCore} {bound : Nat} {frame : SyncFrame} (h : FreshInv registry bound core)
    (hopen : FrameUnused frame core ∨ frame = core.frame) : FreshInv registry bound { core with frame } := by
  intro slot r hr ha
  obtain ⟨archetype, hdef, hs⟩ := h slot r hr ha
  refine ⟨archetype, hdef, hs.generation, hs.cacheable, fun q f hf hact hslot harch => ?_⟩
  have hold := hs.frames q f hf hact hslot harch
  refine ⟨hold.older, hold.current, fun hcache hframe => ?_⟩
  rcases hopen with hunused | hsame
  · exact absurd hframe (hunused q f hf hact)
  · exact hold.cached hcache (hframe.trans hsame)

theorem FreshInv.advance {bound : Nat} {current : Registry} {frame : SyncFrame} {dirty : DirtyView}
    {cues : List QueuedSyncCue} (h : FreshInv registry bound s.core) (hreach : Reachable options settings s)
    (hops : ∀ archetype ∈ settings.archetypes, ∀ c ∈ archetype.components,
    c.component ∈ settings.componentOps)
    (hnodup : settings.componentOps.Nodup) (hpos : 1 ≤ bound) (hbound : bound + 2 ^ 31 < 2 ^ 64)
    (hcovers : dirty.Covers registry current) (hopen : FrameOpen s frame registry current)
    (hexec : s.exec (.advance frame current dirty cues) = .ok s') : FreshInv current (bound + 2 ^ 31) s'.core := by
  have hs := (moves_start_inv (reachable_moves hreach)).1
  simp only [ReplicationServer.exec, advanceFrame, Monadic.bind_eq_ok] at hexec
  obtain ⟨s₁, h₁, h₂⟩ := hexec
  have m₀ : Move False s { s with core := { s.core with frame } } := .setFrame False.elim
  have hs₀ := hs.move m₀
  have hf₀ : FreshInv registry bound { s.core with frame } := h.setFrame (hopen.imp_right And.left)
  have hf₁ := (freshInv_slotRule registry hpos).rediscover hf₀ hs₀ h₁
  have m₁ : Moves False _ s₁ := rediscover_moves hs₀ h₁
  have hi : SlotTables s.core := slotTables_reachable hreach
  have hi₀ : SlotTables ({ s with core := { s.core with frame } } : ReplicationServer).core := hi.setFrame frame
  have hsettings : s₁.core.settings = settings := by
    rw [m₁.settings hs₀]
    exact (reachable_moves hreach).settings (ServerInv.start options settings)
  have hframe : s₁.core.frame = frame := (frame_slotRule frame).rediscover rfl hs₀ h₁
  rw [captureQueuedCues_core h₂, broadcast_core]
  refine hf₁.capture (hs₀.moves m₁).base.slots (hi₀.rediscover h₁).indexed hcovers (by rwa [hsettings])
    (by rwa [hsettings]) hbound ?_
  rcases hopen with hunused | ⟨-, hunchanged⟩
  · have hunused₀ : FrameUnused frame ({ s with core := { s.core with frame } } : ReplicationServer).core := hunused
    rw [hframe]
    exact .inr ((frameUnused_slotRule frame).rediscover hunused₀ hs₀ h₁)
  · exact .inl hunchanged

/-- In every state of a run the live frames are tied to the registry of the last dirty frame. -/
theorem freshInv_reported
    (hops : ∀ archetype ∈ settings.archetypes, ∀ c ∈ archetype.components,
    c.component ∈ settings.componentOps)
    (hnodup : settings.componentOps.Nodup) (h : ReportedRun options settings n registry s) (hn : n < 2 ^ 32) :
    FreshInv registry (1 + n * 2 ^ 31) s.core := by
  induction h with
  | start registry =>
    intro slot r hr
    simp [ReplicationServer.start] at hr
  | @advance n registry current s s' frame dirty cues hrun hcovers hopen hexec ih =>
    have hnext := (ih (by omega)).advance hrun.reachable hops hnodup (by omega) (by omega) hcovers hopen hexec
    rwa [show 1 + (n + 1) * 2 ^ 31 = 1 + n * 2 ^ 31 + 2 ^ 31 by omega]
  | send hrun hexec ih =>
    obtain ⟨hs, hids⟩ := moves_start_inv (reachable_moves hrun.reachable)
    simp only [ReplicationServer.exec] at hexec
    split at hexec
    · exact Except.ok.inj hexec ▸ ih hn
    obtain ⟨result, hsend, rfl⟩ := Monadic.Except_map_eq_ok.mp hexec
    exact (ih hn).sendClient hs hids hsend
  | rediscoverAll hrun hexec ih =>
    have hs := (moves_start_inv (reachable_moves hrun.reachable)).1
    exact (freshInv_slotRule _ (by omega)).rediscoverAll (ih hn) hs hexec
  | acks hrun hexec ih =>
    simp only [ReplicationServer.exec] at hexec
    split at hexec
    · exact Except.ok.inj hexec ▸ ih hn
    obtain rfl := Except.ok.inj hexec
    unfold ReplicationServer.processClientAcks
    split
    · exact ih hn
    · exact (ih hn).kept (processClientAcks_steps _ _ _).kept
  | addClient hrun hexec ih =>
    obtain rfl := Except.ok.inj hexec
    unfold ReplicationServer.addClient
    split <;> exact ih hn
  | removeClient hrun hexec ih =>
    obtain rfl := Except.ok.inj hexec
    unfold ReplicationServer.removeClient
    split
    · exact ih hn
    split
    · exact ih hn
    · exact (ih hn).kept (clearAll_steps _ _).kept

/-- Whenever a send asks for a slot's frame, it gets the entity quantized anew for that client, whichever of the cached,
the copied and the shared frames serves it. -/
theorem quantized_frames_fresh
    (hops : ∀ archetype ∈ settings.archetypes, ∀ c ∈ archetype.components,
    c.component ∈ settings.componentOps)
    (hnodup : settings.componentOps.Nodup) (h : ReportedRun options settings n registry s) (hn : n < 2 ^ 32)
    {c slot q : Nat} {inputAckFrame : SyncFrame} {available : Nat} {decider : Entity → EntityReplicationDecision}
    {l : SendLoop} {core' : ServerCore} (hsend : s.InSend c registry inputAckFrame available decider l)
    (hslot : l.core.replicatedIsReplicable registry slot = true)
    (hfind : findOrCreateQuantizedFrame registry l.core l.client slot l.core.frame = .ok (core', some q)) :
    ∃ r archetype f, l.core.replicated[slot]? = some r ∧ settings.archetypes[r.archetype]? = some archetype ∧
      core'.quantizedFrames[q]? = some f ∧ f.data = freshFrameData registry archetype r.entity l.client.id := by
  obtain ⟨hs, hids⟩ := moves_start_inv (reachable_moves h.reachable)
  obtain ⟨hfresh, hsettings, others, hinv⟩ := (freshInv_reported hops hnodup h hn).inSend hs hids hsend
  obtain ⟨r, hr, ha⟩ := replicable_active hslot
  obtain ⟨archetype, f, hdef, hf, hdata⟩ := (hfresh.findOrCreate hinv.ref hinv.held hr ha hfind).2 q rfl
  rw [hsettings, (reachable_moves h.reachable).settings (ServerInv.start options settings)] at hdef
  exact ⟨r, archetype, f, hr, hdef, hf, hdata⟩

end

namespace Sample.Reported

def registry (a b : UInt8) : Registry where
  alive e := e = entity
  replicated e := if e = entity then some 0 else none
  replicatedView := [entity]
  networkOwner _ := none
  get e component := if e = entity then [[a], [b]][component]? else none
  hasTag _ _ := false

def dirtyView : DirtyView where
  dirty key := if key = .component 0 then [entity] else []
  added _ := []
  removed _ := []

def step (s : ReplicationServer) (op : ServerOp) : ReplicationServer :=
  match s.exec op with
  | .ok s' => s'
  | .error _ => s

theorem exec_step {s : ReplicationServer} {op : ServerOp} (h : (s.exec op).toOption.isSome = true) :
    s.exec op = .ok (step s op) := by
  unfold step
  cases hexec : s.exec op with
  | ok s' => rfl
  | error e =>
    rw [hexec] at h
    cases h

def sendOp (a b : UInt8) : ServerOp := .send 1 (registry a b) 0 100000 (decider allComponents)

def connected : ReplicationServer := step (start options settings) (.addClient 1 1)
def found : ReplicationServer := step connected (.advance 1 (registry 7 9) dirtyView [])
def acknowledged : ReplicationServer := step (step found (sendOp 7 9)) (.acks 1 [1])
def written : ReplicationServer := step acknowledged (.advance 2 (registry 8 9) dirtyView [])

theorem covers (a b a' : UInt8) : dirtyView.Covers (registry a b) (registry a' b) where
  changes e component hne := by
    have he : e = entity := by
      by_contra hother
      simp [registry, hother] at hne
    have hc : component = 0 := by
      by_contra hother
      obtain ⟨k, rfl⟩ := Nat.exists_eq_succ_of_ne_zero hother
      simp [registry] at hne
    subst he hc
    decide
  counts key e := by
    unfold DirtyView.reports dirtyView
    simp only [List.countP_nil, Nat.add_zero]
    split
    · exact (List.count_le_length).trans (by decide)
    · simp

/-- The client has acknowledged the first frame when the first component is written. -/
theorem written_run : ReportedRun options settings 2 (registry 8 9) written := by
  have h₀ : ReportedRun options settings 0 (registry 7 9) connected :=
    .addClient (.start _) (exec_step (by decide +kernel))
  have h₁ : ReportedRun options settings 1 (registry 7 9) found := by
    refine .advance h₀ (covers 7 9 7) (.inl ?_) (exec_step (by decide +kernel))
    have hnone : ∀ f ∈ connected.core.quantizedFrames, f.active = true → f.frame ≠ 1 := by decide +kernel
    exact fun q f hf => hnone f (List.mem_of_getElem? hf)
  have h₂ : ReportedRun options settings 1 (registry 7 9) acknowledged :=
    .acks (.send h₁ (exec_step (by decide +kernel))) (exec_step (by decide +kernel))
  refine .advance h₂ (covers 7 9 8) (.inl ?_) (exec_step (by decide +kernel))
  have hnone : ∀ f ∈ acknowledged.core.quantizedFrames, f.active = true → f.frame ≠ 2 := by decide +kernel
  exact fun q f hf => hnone f (List.mem_of_getElem? hf)

def collected : ReplicationServer × List SerializedCandidate :=
  written.collectCandidates 0 (registry 8 9) 0 (decider allComponents)

def loop : SendLoop where
  core := collected.1.core
  client := collected.1.clients.headD { id := 0, peer := 0 }
  remaining := 100000

theorem loop_inSend : written.InSend 0 (registry 8 9) 0 100000 (decider allComponents) loop := by
  have hclient : collected.1.clients[0]? = some loop.client := by
    have hone : collected.1.clients.length = 1 := by decide +kernel
    unfold loop
    cases hlist : collected.1.clients with
    | nil =>
      rw [hlist] at hone
      cases hone
    | cons client rest => rfl
  exact ⟨_, _, loop.client, [], _, rfl, hclient, rfl, rfl⟩

end Sample.Reported

open Sample.Reported in
/-- At the second frame the written component is quantized and the other one copied from the baseline. -/
theorem quantized_frames_fresh_written :
    ∃ core' f, findOrCreateQuantizedFrame (registry 8 9) loop.core loop.client 0 loop.core.frame =
      .ok (core', some 1) ∧
      core'.quantizedFrames[1]? = some f ∧ f.data.bytes = [[8], [9]] := by
  have hsome : (findOrCreateQuantizedFrame (registry 8 9) loop.core loop.client 0 loop.core.frame).toOption.map
      Prod.snd = some (some 1) := by decide +kernel
  cases hfind : findOrCreateQuantizedFrame (registry 8 9) loop.core loop.client 0 loop.core.frame with
  | error e =>
    rw [hfind] at hsome
    cases hsome
  | ok result =>
    obtain ⟨core', found⟩ := result
    rw [hfind] at hsome
    obtain rfl : found = some 1 := Option.some.inj hsome
    obtain ⟨r, archetype, f, hr, hdef, hf, hdata⟩ := quantized_frames_fresh (by decide +kernel) (by decide +kernel)
      written_run (by decide) loop_inSend (by decide +kernel) hfind
    refine ⟨core', f, rfl, hf, ?_⟩
    have hslot : loop.core.replicated[0]?.map (fun r => (r.archetype, r.entity)) = some (0, Sample.entity) := by
      decide +kernel
    rw [hr] at hslot
    obtain ⟨harch, hentity⟩ := Prod.mk.inj (Option.some.inj hslot)
    rw [harch] at hdef
    obtain rfl : Sample.archetype = archetype := Option.some.inj hdef
    rw [hdata, hentity]
    rfl
end AshiatoSync
