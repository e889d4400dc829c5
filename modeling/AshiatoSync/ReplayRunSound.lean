import AshiatoSync.ReplayMirrorSound
import AshiatoSync.FreshSound
import Mathlib.Data.List.Induction

/-!
# A replay of a whole run

A writer that is attached to a server writes frames; whoever applies them from a
full frame on, one after the other, has after each of them what the server
replicated when it was written.
-/

namespace AshiatoSync

open ServerClientReplicator ReplicationServer LocalRegistry ReplayRegistry ReplayWorld

/-! ## An initialized server stays so -/

section

variable {core core' : ServerCore} {client client' : ServerClientReplicator} {s s' : ReplicationServer} {strict : Prop}

theorem releaseQuantizedFrame_initialized (core : ServerCore) (q : Nat) :
    (core.releaseQuantizedFrame q).replicatedInitialized = core.replicatedInitialized := by
  unfold ServerCore.releaseQuantizedFrame
  split
  · rfl
  · split
    · rfl
    · split <;> rfl

theorem RefSteps.keepsInitialized (h : RefSteps core core') :
    core'.replicatedInitialized = core.replicatedInitialized := by
  induction h with
  | refl => rfl
  | retain q _ ih => exact ih
  | release q _ ih => exact (releaseQuantizedFrame_initialized _ q).trans ih

theorem Obtained.keepsInitialized {slot q : Nat} (h : Obtained core slot core' q) :
    core'.replicatedInitialized = core.replicatedInitialized := by
  cases h with
  | reuse => rfl
  | create _ _ _ hcreate =>
    unfold createQuantizedFrame takeQuantizedFrameIndex at hcreate
    obtain ⟨⟨core₁, q₁⟩, htake, hstore⟩ := Monadic.Except_map_eq_ok.mp hcreate
    obtain ⟨rfl, rfl⟩ := Prod.mk.inj hstore
    split at htake
    · obtain ⟨rfl, rfl⟩ := Prod.mk.inj (Except.ok.inj htake)
      rfl
    · split at htake
      · cases htake
      · obtain ⟨rfl, rfl⟩ := Prod.mk.inj (Except.ok.inj htake)
        rfl

theorem LocalMove.keepsInitialized (m : LocalMove strict core client core' client') :
    core'.replicatedInitialized = core.replicatedInitialized := by
  cases m with
  | ensureCapacity | markDirty | clearDirty | beginSend | expireCues | accumulate | boost | allocate
  | sendDestroy | sendPacket | cleanupQueue | forgetPackets | pushCue => rfl
  | clearUnsent _ => exact (clearState_steps ..).keepsInitialized
  | enqueueDestroy _ _ =>
    rw [enqueueDestroy_core]
    exact (clearState_steps ..).keepsInitialized
  | storeDecision _ _ => exact (storeDecision_steps ..).keepsInitialized
  | refuse _ ho => exact (releaseQuantizedFrame_initialized _ _).trans ho.keepsInitialized
  | accept _ _ ho _ _ _ _ _ _ => exact (recordSent_steps ..).keepsInitialized.trans ho.keepsInitialized
  | acknowledge _ _ => exact (acknowledgeRecord_steps ..).keepsInitialized

theorem Move.keepsInitialized (m : Move strict s s') (h : s.core.replicatedInitialized = true) :
    s'.core.replicatedInitialized = true := by
  cases m with
  | setFrame | forget | deactivate | connect => exact h
  | initialized => rfl
  | generations =>
    show (bumpGenerations s.core _ _).replicatedInitialized = true
    unfold bumpGenerations
    split
    · exact h
    · split
      · exact h
      · split <;> exact h
  | activate hact =>
    obtain ⟨archetype, definition, core₁, -, halloc, rfl⟩ := hact
    show core₁.replicatedInitialized = true
    unfold allocateReplicatedSlot at halloc
    split at halloc
    · obtain ⟨rfl, rfl⟩ := Prod.mk.inj (Except.ok.inj halloc)
      exact h
    · split at halloc
      · cases halloc
      · obtain ⟨rfl, rfl⟩ := Prod.mk.inj (Except.ok.inj halloc)
        exact h
  | client _ m => exact m.keepsInitialized.trans h
  | disconnect _ => exact (clearAll_steps ..).keepsInitialized.trans h

theorem Moves.keepsInitialized (m : Moves strict s s') (h : s.core.replicatedInitialized = true) :
    s'.core.replicatedInitialized = true := by
  induction m with
  | refl => exact h
  | tail _ m ih => exact m.keepsInitialized ih

end

/-! ## Between dirty frames -/

def ServerCore.ActiveReplicable (core : ServerCore) (registry : Registry) : Prop :=
  ∀ (slot : Nat) (r : ReplicatedSlot), core.replicated[slot]? = some r → r.active = true →
  registry.Replicable r.entity

def ServerOp.Between (registry : Registry) : ServerOp → Prop
  | .advance .. => False
  | .rediscoverAll _ => False
  | .send _ read _ _ _ => read = registry
  | .acks .. | .addClient .. | .removeClient _ => True

section

variable {core core' : ServerCore} {registry : Registry} {s s' : ReplicationServer} {slot : Nat}

theorem ServerCore.ActiveReplicable.of_sameSlots (h : core.ActiveReplicable registry) (hsame : SameSlots core core') :
    core'.ActiveReplicable registry := fun slot r' hr' ha' => by
  obtain ⟨r, hr, he, -, ha⟩ := hsame.symm.slot hr'
  exact he ▸ h slot r hr (ha.trans ha')

theorem ServerCore.ActiveReplicable.replicable_eq (h : core.ActiveReplicable registry) (slot : Nat) :
    core.replicatedIsReplicable registry slot = core.replicatedSlotActive slot := by
  unfold ServerCore.replicatedIsReplicable ServerCore.replicatedSlotActive
  cases hr : core.replicated[slot]? with
  | none => rfl
  | some r =>
    dsimp only
    cases ha : r.active with
    | false => rfl
    | true =>
      obtain ⟨halive, hreplicated⟩ := h slot r hr ha
      rw [halive, hreplicated]
      rfl

theorem sendClient_sameSlots {c : Nat} {inputAckFrame : SyncFrame} {available : Nat}
    {decider : Entity → EntityReplicationDecision} {result : ReplicationServer × ReplicationSendResult}
    (h : s.core.ActiveReplicable registry)
    (hsend : s.sendClient c registry inputAckFrame available decider = .ok result) :
    SameSlots s.core result.1.core := by
  rw [sendClient_eq] at hsend
  have hcollect : SameSlots s.core (s.collectCandidates c registry inputAckFrame decider).1.core := by
    unfold collectCandidates
    split
    · exact .refl _
    rename_i client hc
    refine Monadic.foldl_inv
      (fun _ (acc : ReplicationServer × List SerializedCandidate) => SameSlots s.core acc.1.core) _ _ ?_ (.refl s.core)
    rintro slot - ⟨t, candidates⟩ ht
    unfold collectCandidate
    dsimp only
    split
    · exact ht
    rename_i client hc
    split
    · exact ht
    rename_i entry hentry
    split
    · exact ht
    split
    · rename_i hnot
      have hidle : ¬t.core.replicatedSlotActive slot = true := by
        rw [← (h.of_sameSlots ht).replicable_eq slot]
        simpa using hnot
      rw [if_neg hidle]
      exact ht
    · obtain ⟨hslots, -⟩ := updateCandidate_elsewhere t.core client (Nat.succ_ne_self slot) entry decider
      exact ht.trans hslots
  generalize s.collectCandidates c registry inputAckFrame decider = collected at hcollect hsend
  obtain ⟨t, updates⟩ := collected
  unfold sendCandidates at hsend
  dsimp only at hsend
  split at hsend
  · rw [Monadic.pure_eq_ok] at hsend
    exact hsend ▸ hcollect
  rename_i client hc
  rw [Monadic.bind_eq_ok] at hsend
  obtain ⟨l, hloop, hsend⟩ := hsend
  rw [Monadic.pure_eq_ok] at hsend
  subst hsend
  have hl : SameSlots t.core l.core :=
    Monadic.foldlM_inv (fun _ l => SameSlots t.core l.core) _ _ _
      (fun a _ l l' hl hstep => hl.trans (sendCandidate_sameSlots hstep)) (.refl _) hloop
  rw [← finish_core l] at hl
  exact hcollect.trans hl

theorem exec_between {op : ServerOp} (h : s.core.ActiveReplicable registry) (hop : op.Between registry)
    (hexec : s.exec op = .ok s') :
    SameSlots s.core s'.core := by
  cases op with
  | advance | rediscoverAll => exact hop.elim
  | send id read inputAckFrame available decider =>
    obtain rfl : read = registry := hop
    simp only [ReplicationServer.exec] at hexec
    split at hexec
    · exact Except.ok.inj hexec ▸ .refl _
    · obtain ⟨result, hsend, rfl⟩ := Monadic.Except_map_eq_ok.mp hexec
      exact sendClient_sameSlots h hsend
  | acks id packetIds =>
    simp only [ReplicationServer.exec] at hexec
    split at hexec
    · exact Except.ok.inj hexec ▸ .refl _
    obtain rfl := Except.ok.inj hexec
    unfold ReplicationServer.processClientAcks
    split
    · exact .refl _
    · rename_i client _
      have m : LocalMoves False s.core client _ _ := processClientAcks_moves s.core client packetIds
      exact m.sameSlots
  | addClient peer id =>
    obtain rfl := Except.ok.inj hexec
    unfold ReplicationServer.addClient
    split <;> exact .refl _
  | removeClient id =>
    obtain rfl := Except.ok.inj hexec
    unfold ReplicationServer.removeClient
    split
    · exact .refl _
    · split
      · exact .refl _
      · exact clearAll_sameSlots _ _

end

/-! ## What a dirty frame tells -/

def DirtyView.Mentions (dirty : DirtyView) (key : DirtyKey) (entity : Entity) : Prop :=
  entity ∈ dirty.dirty key ∨ entity ∈ dirty.added key ∨ ∃ removed ∈ dirty.removed key,
  removed.index = entity.index

/-- The dirty view of `current`, after `registry`: it mentions each component and tag that differs, and the entities
that are not replicated any more. -/
structure DirtyView.Tells (dirty : DirtyView) (registry current : Registry) : Prop where
  get : ∀ entity component, registry.Replicable entity → current.Replicable entity →
    current.get entity component = registry.get entity component ∨ dirty.Mentions (.component component) entity
  hasTag : ∀ entity tag, registry.Replicable entity → current.Replicable entity →
    current.hasTag entity tag = registry.hasTag entity tag ∨ dirty.Mentions (.component tag) entity
  removed : ∀ entity, registry.Replicable entity → current.Replicable entity ∨
    entity ∈ dirty.removed .replicated

/-- The server looks for changes of the components in `component_ops`: none of the others changes on an entity that
stays replicated. -/
def SyncSettings.SeesChanges (settings : SyncSettings) (registry current : Registry) : Prop :=
  ∀ definition ∈ settings.archetypes, ∀ c ∈ definition.components, c.component ∈ settings.componentOps ∨
    ∀ entity, registry.Replicable entity → current.Replicable entity →
      current.get entity c.component = registry.get entity c.component

structure SameEntity (settings : SyncSettings) (archetype : SyncArchetypeId) (entity : Entity)
    (registry registry' : Registry) : Prop where
  tags : ∀ definition, settings.archetypes[archetype]? = some definition → ∀ t ∈ definition.tags,
    registry'.hasTag entity t.tag = registry.hasTag entity t.tag
  components : ∀ definition, settings.archetypes[archetype]? = some definition → ∀ c ∈ definition.components,
    registry'.get entity c.component = registry.get entity c.component

section

variable {core core' : ServerCore} {registry registry' registry'' : Registry} {settings : SyncSettings}
  {archetype : SyncArchetypeId}
  {entity : Entity} {slot : Nat} {r : ReplicatedSlot} {dirty : DirtyView}

theorem SameEntity.refl (registry : Registry) : SameEntity settings archetype entity registry registry :=
  ⟨fun _ _ _ _ => rfl, fun _ _ _ _ => rfl⟩

theorem SameEntity.trans (h : SameEntity settings archetype entity registry registry')
    (h' : SameEntity settings archetype entity registry' registry'') :
    SameEntity settings archetype entity registry registry'' :=
  ⟨fun definition hdef t ht => (h'.tags definition hdef t ht).trans (h.tags definition hdef t ht),
    fun definition hdef c hc => (h'.components definition hdef c hc).trans (h.components definition hdef c hc)⟩

theorem keySlots_mentioned (h : SlotTables core) (hr : core.replicated[slot]? = some r) (ha : r.active = true)
    {key : DirtyKey} (hmentioned : dirty.Mentions key r.entity) : slot ∈ keySlots core dirty key := by
  obtain ⟨hentity, hindex⟩ := h.indexed slot r hr ha
  unfold keySlots
  rw [List.mem_append, List.mem_append, List.mem_filterMap, List.mem_filterMap, List.mem_filterMap]
  rcases hmentioned with hdirty | hadded | ⟨removed, hremoved, heq⟩
  · exact .inl (.inl ⟨_, hdirty, hentity⟩)
  · exact .inl (.inr ⟨_, hadded, hentity⟩)
  · exact .inr ⟨removed, hremoved, heq ▸ hindex⟩

theorem sameEntity_of_clean (hsees : core.settings.SeesChanges registry registry') (h : SlotTables core)
    (hr : core.replicated[slot]? = some r) (ha : r.active = true) (htells : dirty.Tells registry registry')
    (hbefore : registry.Replicable r.entity) (hafter : registry'.Replicable r.entity)
    (hclean : slot ∉ dirtyReplicatedSlots core dirty) :
    SameEntity core.settings r.archetype r.entity registry registry' := by
  unfold dirtyReplicatedSlots at hclean
  simp only [List.mem_append, List.mem_flatMap, not_or, not_exists, not_and] at hclean
  obtain ⟨⟨⟨-, htags⟩, hcomponents⟩, -⟩ := hclean
  refine ⟨fun definition hdef t ht => ?_, fun definition hdef c hc => ?_⟩
  · refine (htells.hasTag r.entity t.tag hbefore hafter).resolve_right fun hmentioned => ?_
    exact htags definition (List.mem_of_getElem? hdef) t ht (keySlots_mentioned h hr ha hmentioned)
  · rcases hsees definition (List.mem_of_getElem? hdef) c hc with hlisted | hsame
    · refine (htells.get r.entity c.component hbefore hafter).resolve_right fun hmentioned => ?_
      exact hcomponents c.component hlisted (keySlots_mentioned h hr ha hmentioned)
    · exact hsame r.entity hbefore hafter

theorem MirrorsSlot.carried {R : Type} [ReplayRegistry R] {world : ReplayWorld R}
    (h : MirrorsSlot core registry world slot) (hsettings : core'.settings = core.settings)
    (hview : (slotView core')[slot]? = (slotView core)[slot]?) (hold : core.ActiveReplicable registry)
    (hnew : core'.ActiveReplicable registry')
    (hsame : ∀ r, core'.replicated[slot]? = some r → r.active = true →
    SameEntity core.settings r.archetype r.entity registry registry') :
    MirrorsSlot core' registry' world slot where
  copy hreplicable r' hr' := by
    rw [hnew.replicable_eq, slotActive_of_get hr'] at hreplicable
    obtain ⟨r, hr, he, hat, ha⟩ := get_of_view hview.symm hr'
    have hactive : core.replicatedIsReplicable registry slot = true := by
      rw [hold.replicable_eq, slotActive_of_get hr, ha, hreplicable]
    obtain ⟨copy, hcopy, hof⟩ := h.copy hactive r hr
    have hentity := hsame r' hr' hreplicable
    refine ⟨copy, hcopy, ?_, fun definition hdef t ht => ?_, fun definition hdef c hc hsize => ?_⟩
    · rw [← hat]
      exact hof.archetype
    · rw [hsettings] at hdef
      rw [hentity.tags definition hdef t ht, ← he]
      exact hof.tags definition (hat ▸ hdef) t ht
    · rw [hsettings] at hdef
      rw [hentity.components definition hdef c hc, ← he]
      exact hof.components definition (hat ▸ hdef) c hc hsize
  gone hnot := by
    refine h.gone ?_
    rw [hold.replicable_eq, ← slotActive_of_view hview, ← hnew.replicable_eq, hnot]

end

/-! ## What a writer collects -/

namespace ReplayWriterSlots

variable {slots : ReplayWriterSlots}

def Listed (slots : ReplayWriterSlots) : Prop :=
  ∀ slot, slot ∈ slots.pendingSlots ↔ slots.pendingDirtySlots[slot]? = some true

theorem Listed.resize (h : slots.Listed) {count : Nat} (hle : slots.pendingDirtySlots.length ≤ count) :
    (slots.resize count).Listed := by
  intro slot
  refine (h slot).trans ?_
  unfold ReplayWriterSlots.resize
  rw [List.take_of_length_le hle, List.getElem?_append]
  split
  · rfl
  · rename_i hge
    rw [List.getElem?_eq_none (Nat.le_of_not_lt hge), List.getElem?_replicate]
    simp

theorem Listed.markPendingSlot (h : slots.Listed) (slot : Nat) : (slots.markPendingSlot slot).Listed := by
  unfold ReplayWriterSlots.markPendingSlot
  split
  · rename_i hclear
    intro i
    obtain ⟨hlt, -⟩ := List.getElem?_eq_some_iff.mp hclear
    rw [List.mem_append, List.mem_singleton, h i, List.getElem?_set]
    by_cases hi : slot = i
    · subst hi
      simp [hlt]
    · simp [hi, Ne.symm hi]
  · exact h

theorem Listed.collectDirtySlots (h : slots.Listed) {core : ServerCore}
    (hle : slots.pendingDirtySlots.length ≤ core.replicated.length) (dirty : DirtyView) :
    (slots.collectDirtySlots core dirty).Listed :=
  Monadic.foldl_inv (fun _ (slots : ReplayWriterSlots) => slots.Listed) _ _
    (fun slot _ _ h => h.markPendingSlot slot) (h.resize hle)

theorem collectDirtySlots_length (slots : ReplayWriterSlots) (core : ServerCore) (dirty : DirtyView) :
    (slots.collectDirtySlots core dirty).pendingDirtySlots.length = core.replicated.length :=
  Monadic.foldl_inv (fun _ (slots : ReplayWriterSlots) => slots.pendingDirtySlots.length = core.replicated.length) _ _
    (fun slot _ slots h => (markPendingSlot_length slots slot).trans h) (resize_length slots _)

theorem collectDirtySlots_keeps {core : ServerCore} (hle : slots.pendingDirtySlots.length ≤ core.replicated.length)
    (dirty : DirtyView) {slot : Nat} (h : slots.pendingDirtySlots[slot]? = some true) :
    (slots.collectDirtySlots core dirty).pendingDirtySlots[slot]? = some true := by
  obtain ⟨hlt, -⟩ := List.getElem?_eq_some_iff.mp h
  refine markPendingSlots_mem _ _ slot (by rw [resize_length]; omega) (.inr ?_)
  unfold ReplayWriterSlots.resize
  rw [List.take_of_length_le hle, List.getElem?_append_left hlt, h]

end ReplayWriterSlots

structure WriterInv (writer : ReplicationReplayWriter) (slotCount : Nat) : Prop where
  length : writer.pending.pendingDirtySlots.length ≤ slotCount
  listed : writer.pending.Listed
  destroyed : ∀ slot ∈ writer.pendingDestroyedSlots.map Prod.fst, slot < slotCount

inductive SlotFollows (writer : ReplicationReplayWriter) (settings : SyncSettings) (lastCore : ServerCore)
    (lastRegistry : Registry) (core : ServerCore) (registry : Registry) (slot : Nat) : Prop
  | pending (pending : slot ∈ writer.pending.pendingSlots)
  | destroyed (destroyed : slot ∈ writer.pendingDestroyedSlots.map Prod.fst)
    (idle : core.replicatedSlotActive slot = false)
  | kept (kept : slot ∉ writer.pendingDestroyedSlots.map Prod.fst)
    (view : (slotView core)[slot]? = (slotView lastCore)[slot]?)
      (same : ∀ r, core.replicated[slot]? = some r → r.active = true →
        SameEntity settings r.archetype r.entity lastRegistry registry)

/-- A slot that was active at the last frame has its entity still, or was destroyed since. -/
def KeepsOwner (writer : ReplicationReplayWriter) (lastCore core : ServerCore) (slot : Nat) : Prop :=
  lastCore.replicatedSlotActive slot = true → slot ∉ writer.pendingDestroyedSlots.map Prod.fst →
    (slotView core)[slot]? = (slotView lastCore)[slot]?

section

variable {writer : ReplicationReplayWriter} {settings : SyncSettings} {lastCore core core' : ServerCore}
  {lastRegistry registry current : Registry} {slot slotCount : Nat} {frame : ServerRegistryDirtyFrame} {destroyed : List
    (Nat × Entity)}

theorem WriterInv.new (fullFrameIntervalFrames writeIntervalFrames : SyncFrame) (slotCount : Nat) :
    WriterInv { fullFrameIntervalFrames, writeIntervalFrames } slotCount :=
  ⟨Nat.zero_le _, fun slot => by simp, fun slot h => by cases h⟩

theorem WriterInv.written (h : WriterInv writer slotCount) (syncFrame : SyncFrame) :
    WriterInv (writer.written syncFrame) slotCount where
  length := by
    simp only [ReplicationReplayWriter.written, List.length_map]
    exact h.length
  listed slot := by
    simp only [ReplicationReplayWriter.written, List.getElem?_map, List.not_mem_nil, false_iff, Option.map_eq_some_iff,
      not_exists, not_and]
    exact fun _ _ hfalse => Bool.false_ne_true hfalse
  destroyed slot h := by cases h

theorem WriterInv.collect (h : WriterInv writer slotCount) (hle : slotCount ≤ frame.core.replicated.length)
    (hdestroyed : ∀ slot ∈ frame.destroyedSlots.map Prod.fst, slot < frame.core.replicated.length) :
    WriterInv (writer.collect frame) frame.core.replicated.length where
  length := (ReplayWriterSlots.collectDirtySlots_length _ _ _).le
  listed := h.listed.collectDirtySlots (h.length.trans hle) frame.dirty
  destroyed slot hin := by
    simp only [ReplicationReplayWriter.collect, List.map_append, List.mem_append] at hin
    exact hin.elim (fun hold => lt_of_lt_of_le (h.destroyed slot hold) hle) (hdestroyed slot)

theorem WriterInv.pending_lt (h : WriterInv writer slotCount) (hin : slot ∈ writer.pending.pendingSlots) :
    slot < slotCount :=
  lt_of_lt_of_le (List.getElem?_eq_some_iff.mp ((h.listed slot).mp hin)).1 h.length

theorem SlotFollows.of_sameSlots (h : SlotFollows writer settings lastCore lastRegistry core registry slot)
    (hsame : SameSlots core core') :
    SlotFollows writer settings lastCore lastRegistry core' registry slot := by
  cases h with
  | pending hpending => exact .pending hpending
  | destroyed hdestroyed hidle => exact .destroyed hdestroyed ((hsame.slotActive slot).trans hidle)
  | kept hkept hview hentity =>
    refine .kept hkept (by rw [hsame.view]; exact hview) fun r' hr' ha' => ?_
    obtain ⟨r, hr, he, hat, ha⟩ := hsame.symm.slot hr'
    rw [← he, ← hat]
    exact hentity r hr (ha.trans ha')

theorem SlotFollows.collect (hsees : settings.SeesChanges registry frame.registry)
    (h : SlotFollows writer settings lastCore lastRegistry core registry slot)
    (hinv : WriterInv writer core.replicated.length) (hgrown : core.replicated.length ≤ frame.core.replicated.length)
    (htables : SlotTables frame.core) (hsettings : frame.core.settings = settings)
    (hfate : SlotFate core (fun entity => entity ∈ frame.dirty.newlyReplicated ∧ frame.registry.Replicable entity)
      frame.destroyedSlots frame.core slot)
    (hold : core.ActiveReplicable registry) (hnew : frame.core.ActiveReplicable frame.registry)
    (htells : frame.dirty.Tells registry frame.registry) :
    SlotFollows (writer.collect frame) settings lastCore lastRegistry frame.core frame.registry slot := by
  have hle := hinv.length.trans hgrown
  have hlisted := hinv.listed.collectDirtySlots hle frame.dirty
  have hdirty : ∀ r, frame.core.replicated[slot]? = some r →
      slot ∈ dirtyReplicatedSlots frame.core frame.dirty →
      slot ∈ (writer.collect frame).pending.pendingSlots := fun r hr hin =>
    (hlisted slot).mpr (ReplayWriterSlots.collectDirtySlots_pending _ (List.getElem?_eq_some_iff.mp hr).1 hin)
  cases hfate with
  | taken r get active new _ =>
    refine .pending (hdirty r get ?_)
    have hmentioned : frame.dirty.Mentions .replicated r.entity :=
      (List.mem_append.mp new.1).elim (fun h => .inr (.inl h)) .inl
    unfold dirtyReplicatedSlots
    simp only [List.mem_append]
    exact .inl (.inl (.inl (keySlots_mentioned htables get active hmentioned)))
  | gone hdestroyed r get idle =>
    refine .destroyed ?_ ((slotActive_of_get get).trans idle)
    simp only [ReplicationReplayWriter.collect, List.map_append]
    exact List.mem_append_right _ hdestroyed
  | kept hview hnot =>
    cases h with
    | pending hpending =>
      exact .pending
        ((hlisted slot).mpr (ReplayWriterSlots.collectDirtySlots_keeps hle _ ((hinv.listed slot).mp hpending)))
    | destroyed hdestroyed hidle =>
      refine .destroyed ?_ ((slotActive_of_view hview).trans hidle)
      simp only [ReplicationReplayWriter.collect, List.map_append]
      exact List.mem_append_left _ hdestroyed
    | kept hkept hlast hentity =>
      by_cases hin : slot ∈ dirtyReplicatedSlots frame.core frame.dirty ∧ slot < frame.core.replicated.length
      · exact .pending (hdirty _ (List.getElem?_eq_getElem hin.2) hin.1)
      · refine .kept ?_ (hview.trans hlast) fun r' hr' ha' => ?_
        · simp only [ReplicationReplayWriter.collect, List.map_append, List.mem_append, not_or]
          exact ⟨hkept, hnot⟩
        · obtain ⟨r, hr, he, hat, ha⟩ := get_of_view hview.symm hr'
          have hclean : slot ∉ dirtyReplicatedSlots frame.core frame.dirty := fun h =>
            hin ⟨h, (List.getElem?_eq_some_iff.mp hr').1⟩
          have hbefore := hold slot r hr (ha.trans ha')
          rw [he] at hbefore
          have hstep :=
            sameEntity_of_clean (hsettings.symm ▸ hsees) htables hr' ha' htells hbefore (hnew slot r' hr' ha') hclean
          rw [hsettings] at hstep
          have hfirst := hentity r hr (ha.trans ha')
          rw [he, hat] at hfirst
          exact hfirst.trans hstep

theorem KeepsOwner.of_sameSlots (h : KeepsOwner writer lastCore core slot) (hsame : SameSlots core core') :
    KeepsOwner writer lastCore core' slot :=
  fun hactive hkept => by rw [hsame.view]; exact h hactive hkept

theorem KeepsOwner.collect {touched : Entity → Prop} (h : KeepsOwner writer lastCore core slot)
    (hfate : SlotFate core touched frame.destroyedSlots frame.core slot) :
    KeepsOwner (writer.collect frame) lastCore frame.core slot := by
  intro hactive hkept
  simp only [ReplicationReplayWriter.collect, List.map_append, List.mem_append, not_or] at hkept
  have hview := h hactive hkept.1
  cases hfate with
  | kept same _ => exact same.trans hview
  | taken _ _ _ _ free => exact absurd (free ((slotActive_of_view hview).trans hactive)) hkept.2
  | gone hdestroyed _ _ _ => exact absurd hdestroyed hkept.2

/-- Where a slot follows, a mirror of the last frame lacks nothing but what is pending. -/
theorem SlotFollows.leftOut {R : Type} [ReplayRegistry R] {world : ReplayWorld R}
    (h : SlotFollows writer lastCore.settings lastCore lastRegistry core registry slot)
    (hslot : slot ∉ writer.pending.pendingSlots) (hsettings : core.settings = lastCore.settings)
    (hold : lastCore.ActiveReplicable lastRegistry) (hnew : core.ActiveReplicable registry)
    (hmirrors : MirrorsSlot lastCore lastRegistry world slot) :
    LeftOut writer core registry world slot := by
  cases h with
  | pending hpending => exact absurd hpending hslot
  | destroyed hdestroyed hidle => exact .destroyed hdestroyed (by rw [hnew.replicable_eq, hidle])
  | kept hkept hview hentity => exact .mirrored hkept (hmirrors.carried hsettings hview hold hnew hentity)

end

/-! ## Dirty frames of a run -/

structure RediscoverySound (before : ServerCore) (registry : Registry) (dirty : DirtyView) (after : ServerCore)
    (destroyed : List (Nat × Entity)) : Prop where
  tables : SlotTables after
  settings : after.settings = before.settings
  replicable : after.ActiveReplicable registry
  grown : before.replicated.length ≤ after.replicated.length
  inRange : ∀ slot ∈ destroyed.map Prod.fst, slot < after.replicated.length
  fates : before.replicatedInitialized = true → ∀ slot,
    SlotFate before (fun entity => entity ∈ dirty.newlyReplicated ∧ registry.Replicable entity) destroyed after slot

section

variable {s s' : ReplicationServer} {registry current : Registry} {dirty : DirtyView} {cues : List QueuedSyncCue}
  {n : SyncFrame} {f : ServerRegistryDirtyFrame} {r : Rediscovery} {before after after' : ServerCore}
  {destroyed : List (Nat × Entity)} {slot : Nat} {touched : Entity → Prop}

theorem SlotFate.destroyed_lt (h : SlotFate before touched destroyed after slot)
    (hin : slot ∈ destroyed.map Prod.fst) :
    slot < after.replicated.length := by
  cases h with
  | kept _ hnot => exact absurd hin hnot
  | taken _ get _ _ _ => exact (List.getElem?_eq_some_iff.mp get).1
  | gone _ _ get _ => exact (List.getElem?_eq_some_iff.mp get).1

theorem RediscoverySound.of_sameSlots (h : RediscoverySound before registry dirty after destroyed)
    (hsame : SameSlots after after') :
    RediscoverySound before registry dirty after' destroyed where
  tables := h.tables.of_sameSlots hsame
  settings := hsame.settings.trans h.settings
  replicable := h.replicable.of_sameSlots hsame
  grown := h.grown.trans hsame.length.ge
  inRange slot hin := lt_of_lt_of_le (h.inRange slot hin) hsame.length.ge
  fates hinit slot := (h.fates hinit slot).of_sameSlots hsame

/-- The first dirty frame of a server finds all that is replicated. -/
theorem rediscovered_first (h : SlotTables s.core) (hinit : s.core.replicatedInitialized = false)
    (hempty : s.core.replicated = []) (hr : s.rediscovered current dirty = .ok r) :
    RediscoverySound s.core current dirty r.server.core r.destroyedSlots := by
  unfold ReplicationServer.rediscovered at hr
  rw [if_pos (by simpa using hinit)] at hr
  obtain ⟨r₁, hall, rfl⟩ := Monadic.Except_map_eq_ok.mp hr
  have hsteps : Rediscovers current.Replicable { server := s } r₁ :=
    .upsertAll _ h (fun _ _ hreplicable => hreplicable) hall
  obtain ⟨destroyed, heq, hfate⟩ := hsteps.destroyed
  rw [List.nil_append] at heq
  subst heq
  have hsame : SameSlots r₁.server.core r₁.server.setInitialized.core :=
    ⟨rfl, rfl, rfl, rfl, rfl, rfl, rfl, rfl⟩
  refine ⟨hsteps.tables.of_sameSlots hsame, hsteps.settings, fun slot replicated hget hactive => ?_, hsteps.grown,
    fun slot hin => (hfate slot).destroyed_lt hin, fun htrue => (by rw [hinit] at htrue; cases htrue)⟩
  have hget' : r₁.server.core.replicated[slot]? = some replicated := hget
  cases hfate slot with
  | kept same _ =>
    obtain ⟨before, hbefore, -⟩ := get_of_view same.symm hget'
    rw [hempty] at hbefore
    cases hbefore
  | taken r' get _ new _ =>
    rw [hget'] at get
    exact Option.some.inj get ▸ new
  | gone _ r' get idle =>
    rw [hget'] at get
    rw [← Option.some.inj get, hactive] at idle
    cases idle

theorem rediscovered_later (h : SlotTables s.core) (hinit : s.core.replicatedInitialized = true)
    (hold : s.core.ActiveReplicable registry) (htells : dirty.Tells registry current)
    (hr : s.rediscovered current dirty = .ok r) :
    RediscoverySound s.core current dirty r.server.core r.destroyedSlots := by
  have hnew : ∀ entity ∈ dirty.newlyReplicated, current.Replicable entity → entity ∈ dirty.newlyReplicated ∧
      current.Replicable entity :=
    fun entity hin hreplicable => ⟨hin, hreplicable⟩
  obtain ⟨hsteps, -⟩ := rediscovered_steps h hinit hr hnew
  obtain ⟨destroyed, heq, hfate⟩ := hsteps.destroyed
  rw [List.nil_append] at heq
  subst heq
  refine ⟨hsteps.tables, hsteps.settings, fun slot replicated hget hactive => ?_, hsteps.grown,
    fun slot hin => (hfate slot).destroyed_lt hin, fun _ slot => hfate slot⟩
  refine rediscovered_replicable h hinit hr (fun slot replicated hget hactive => ?_) hget hactive
  exact (htells.removed replicated.entity (hold slot replicated hget hactive)).imp_right fun hin => ⟨_, hin, rfl⟩

theorem rediscovered_initialized (hs : ServerInv s) (hr : s.rediscovered current dirty = .ok r) :
    r.server.core.replicatedInitialized = true := by
  by_cases hinit : s.core.replicatedInitialized = true
  · have hserver : s.rediscoverReplicatedEntities current dirty = .ok r.server := by
      rw [← rediscovered_server, hr]
      rfl
    have m : Moves False s r.server := rediscover_moves hs hserver
    exact m.keepsInitialized hinit
  · unfold ReplicationServer.rediscovered at hr
    rw [if_pos (by simpa using hinit)] at hr
    obtain ⟨r₁, -, rfl⟩ := Monadic.Except_map_eq_ok.mp hr
    rfl

theorem dirtyFrame_sound (hs : ServerInv s) (h : SlotTables s.core)
    (hbegun : s.core.replicatedInitialized = true ∨ s.core.replicated = []) (hold : s.core.ActiveReplicable registry)
    (htells : dirty.Tells registry current) (hframe : s.dirtyFrame n current dirty cues = .ok f) :
    RediscoverySound s.core f.registry f.dirty f.core f.destroyedSlots ∧ f.core.replicatedInitialized = true := by
  unfold ReplicationServer.dirtyFrame at hframe
  simp only [Monadic.bind_eq_ok, Monadic.pure_eq_ok] at hframe
  obtain ⟨r, hr, rfl⟩ := hframe
  have m : Move False s { s with core := { s.core with frame := n } } := .setFrame False.elim
  have hcapture := captureDirtyGenerations_moves False r.server dirty
  refine ⟨?_, hcapture.keepsInitialized (rediscovered_initialized (hs.move m) hr)⟩
  refine RediscoverySound.of_sameSlots ?_ (captureDirtyGenerations_sameSlots r.server.core dirty)
  obtain ⟨numbered, hnumbered⟩ : ∃ numbered : ReplicationServer, numbered = { s with
      core := { s.core with frame := n } } := ⟨_, rfl⟩
  rw [← hnumbered] at hr
  have hcore : numbered.core = { s.core with frame := n } := by rw [hnumbered]
  have htables : SlotTables numbered.core := hcore ▸ h.setFrame n
  have hsound : RediscoverySound numbered.core current dirty r.server.core r.destroyedSlots := by
    cases hinit : s.core.replicatedInitialized with
    | true => exact rediscovered_later htables (by rw [hcore]; exact hinit) (by rw [hcore]; exact hold) htells hr
    | false =>
      have hempty := hbegun.resolve_left (by rw [hinit]; exact Bool.false_ne_true)
      exact rediscovered_first htables (by rw [hcore]; exact hinit) (by rw [hcore]; exact hempty) hr
  rw [hcore] at hsound
  refine ⟨hsound.tables, hsound.settings, hsound.replicable, hsound.grown, hsound.inRange, fun hinit slot => ?_⟩
  have hsame : SlotFate s.core (fun entity => entity ∈ dirty.newlyReplicated ∧ current.Replicable entity) []
      { s.core with frame := n } slot := .kept rfl List.not_mem_nil
  exact hsame.trans (hsound.fates hinit slot)

theorem advance_core (hexec : s.exec (.advance n current dirty cues) = .ok s')
    (hframe : s.dirtyFrame n current dirty cues = .ok f) :
    s'.core = f.core ∧ f.registry = current ∧ f.dirty = dirty := by
  unfold ReplicationServer.dirtyFrame at hframe
  simp only [Monadic.bind_eq_ok, Monadic.pure_eq_ok] at hframe
  obtain ⟨r, hr, rfl⟩ := hframe
  simp only [ReplicationServer.exec, advanceFrame, Monadic.bind_eq_ok] at hexec
  obtain ⟨s₁, hserver, hcues⟩ := hexec
  rw [← rediscovered_server, hr] at hserver
  obtain rfl : r.server = s₁ := Except.ok.inj hserver
  have hcore := captureQueuedCues_core hcues
  rw [broadcast_core] at hcore
  exact ⟨hcore, rfl, rfl⟩

end

/-! ## Runs -/

structure WrittenFrame where
  frame : ReplicationReplayFrame
  cues : List PendingReplayCueEntry
  core : ServerCore
  registry : Registry

def ReplicationReplayWriter.writtenFrame (writer : ReplicationReplayWriter) (f : ServerRegistryDirtyFrame) :
    List WrittenFrame :=
  ((writer.onServerRegistryDirtyFrame f).2.map fun frame =>
    { frame, cues := (writer.collect f).pendingCues, core := f.core, registry := f.registry }).toList

/-- The runs of a server and a writer: dirty frames that tell what changed since the one before, and what is done
between them.  `seen` is what the writer was given since it was attached, `frames` what it wrote, each frame whole. -/
inductive ReplayedRun (options : ReplicationServerOptions) (settings : SyncSettings) :
    ReplicationServer → Registry →
    ReplicationReplayWriter → List WrittenFrame → List ServerRegistryDirtyFrame → Prop where
  | start (registry : Registry) : ReplayedRun options settings (start options settings) registry {} [] []
  | attach {s : ReplicationServer} {registry : Registry} {writer : ReplicationReplayWriter} {frames : List WrittenFrame}
      {seen : List ServerRegistryDirtyFrame} (fullFrameIntervalFrames writeIntervalFrames : SyncFrame) :
      ReplayedRun options settings s registry writer frames seen →
      ReplayedRun options settings s registry { fullFrameIntervalFrames, writeIntervalFrames } [] []
  | between {s s' : ReplicationServer} {registry : Registry} {writer : ReplicationReplayWriter}
      {frames : List WrittenFrame} {seen : List ServerRegistryDirtyFrame} {op : ServerOp} :
      ReplayedRun options settings s registry writer frames seen →
      op.Between registry → s.exec op = .ok s' → ReplayedRun options settings s' registry writer frames seen
  | dirtyFrame {s s' : ReplicationServer} {registry current : Registry} {writer : ReplicationReplayWriter}
      {frames : List WrittenFrame} {seen : List ServerRegistryDirtyFrame} {n : SyncFrame} {dirty : DirtyView}
      {cues : List QueuedSyncCue} {f : ServerRegistryDirtyFrame} : ReplayedRun options settings s registry
        writer frames seen →
      dirty.Tells registry current → settings.SeesChanges registry current → (∀ cue ∈ cues, cue.InRange) →
      s.exec (.advance n current dirty cues) = .ok s' → s.dirtyFrame n current dirty cues = .ok f →
      ((writer.collect f).writeDue f.core.frame = true → (writer.collect f).Writable f) →
      ReplayedRun options settings s' current (writer.onServerRegistryDirtyFrame f).1
        (frames ++ writer.writtenFrame f) (seen ++ [f])

def ReplayWorld.applyFrames {R : Type} [ReplayRegistry R] :
    List ReplicationReplayFrame → ReplayWorld R → Bool × ReplayWorld R
  | [], world => (true, world)
  | frame :: frames, world =>
    match world.applyFrame frame with
    | (true, world) => applyFrames frames world
    | (false, world) => (false, world)

/-- Besides the components of its slot's archetype a copy has none, or it has what it had, in a full frame or where
the slot has its entity still. -/
def CarriesOthers {R : Type} [ReplayRegistry R] (last : Option WrittenFrame) (next : WrittenFrame)
    (world world' : ReplayWorld R) : Prop :=
  ∀ slot, OthersHeld next.core next.registry (fun _ => none) world' slot ∨
    OthersHeld next.core next.registry (world.held (slot + 1)) world' slot ∧
    (next.frame.kind = .full ∨ ∀ mirrored ∈ last, mirrored.core.replicatedSlotActive slot = true →
      (slotView next.core)[slot]? = (slotView mirrored.core)[slot]?)

def Continues (R : Type) [ReplayRegistry R] (settings : SyncSettings) (last : Option WrittenFrame)
    (next : WrittenFrame) : Prop :=
  ∀ (before : R) (world : ReplayWorld R), OwnsNew before world → world.server.core.settings = settings →
    (next.frame.kind = .full ∨ ∃ mirrored ∈ last, Mirrors mirrored.core mirrored.registry world) →
    ∃ world', FrameMirrored before next.core next.registry next.cues world next.frame world' ∧
      CarriesOthers last next world world'

section

variable {R : Type} [ReplayRegistry R] {options : ReplicationServerOptions} {settings : SyncSettings}
  {s s' : ReplicationServer} {registry current : Registry} {writer : ReplicationReplayWriter}
  {frames played : List WrittenFrame} {f : ServerRegistryDirtyFrame} {seen : List ServerRegistryDirtyFrame}

theorem applyFrames_snoc {frames : List ReplicationReplayFrame} (frame : ReplicationReplayFrame)
    {world world₁ world' : ReplayWorld R} (h : ReplayWorld.applyFrames frames world = (true, world₁))
    (hframe : world₁.applyFrame frame = (true, world')) :
    ReplayWorld.applyFrames (frames ++ [frame]) world = (true, world') := by
  induction frames generalizing world with
  | nil =>
    obtain ⟨-, rfl⟩ := Prod.mk.inj h
    simp only [List.nil_append, ReplayWorld.applyFrames, hframe]
  | cons first frames ih =>
    rw [ReplayWorld.applyFrames] at h
    rw [List.cons_append, ReplayWorld.applyFrames]
    split at h
    · exact ih h
    · cases h

structure ReplayedInv (settings : SyncSettings) (s : ReplicationServer) (registry : Registry)
    (writer : ReplicationReplayWriter) (frames : List WrittenFrame) : Prop where
  sameSettings : s.core.settings = settings
  begun : s.core.replicatedInitialized = true ∨ s.core.replicated = []
  replicable : s.core.ActiveReplicable registry
  tables : WriterInv writer s.core.replicated.length
  initialized : frames ≠ [] → s.core.replicatedInitialized = true
  writtenSettings : ∀ written ∈ frames, written.core.settings = settings
  lastReplicable : ∀ last ∈ frames.getLast?, last.core.ActiveReplicable last.registry
  follows : ∀ last ∈ frames.getLast?, ∀ slot, SlotFollows writer settings last.core last.registry
    s.core registry slot
  owners : ∀ last ∈ frames.getLast?, ∀ slot, KeepsOwner writer last.core s.core slot

theorem ReplayedRun.reachable (h : ReplayedRun options settings s registry writer frames seen) :
    Reachable options settings s := by
  induction h with
  | start => exact .start
  | attach _ _ _ ih => exact ih
  | between _ _ hexec ih => exact .step _ ih hexec
  | dirtyFrame _ _ _ _ hexec _ _ ih => exact .step _ ih hexec

theorem ReplayedInv.attach (h : ReplayedInv settings s registry writer frames)
    (fullFrameIntervalFrames writeIntervalFrames : SyncFrame) :
    ReplayedInv settings s registry { fullFrameIntervalFrames, writeIntervalFrames } [] :=
  ⟨h.sameSettings, h.begun, h.replicable, .new _ _ _, fun h => absurd rfl h, fun _ h => (by cases h),
    fun _ h => (by cases h), fun _ h => (by cases h), fun _ h => (by cases h)⟩

theorem ReplayedInv.between (h : ReplayedInv settings s registry writer frames) (hreach : Reachable options settings s)
    {op : ServerOp} (hop : op.Between registry) (hexec : s.exec op = .ok s') :
    ReplayedInv settings s' registry writer frames := by
  have hsame := exec_between h.replicable hop hexec
  obtain ⟨hs, hids⟩ := moves_start_inv (reachable_moves hreach)
  have m : Moves False s s' := exec_moves hs hids False.elim hexec
  refine ⟨hsame.settings.trans h.sameSettings, ?_, h.replicable.of_sameSlots hsame, hsame.length ▸ h.tables,
    fun hne => m.keepsInitialized (h.initialized hne), h.writtenSettings, h.lastReplicable,
    fun last hlast slot => (h.follows last hlast slot).of_sameSlots hsame,
    fun last hlast slot => (h.owners last hlast slot).of_sameSlots hsame⟩
  refine h.begun.imp m.keepsInitialized fun hempty => ?_
  rw [← List.length_eq_zero_iff, hsame.length, hempty, List.length_nil]

theorem ReplayedInv.collect (hsees : settings.SeesChanges registry f.registry)
    (h : ReplayedInv settings s registry writer frames)
    (hsound : RediscoverySound s.core f.registry f.dirty f.core f.destroyedSlots)
    (hinit : f.core.replicatedInitialized = true) (htells : f.dirty.Tells registry f.registry)
    (hcore : s'.core = f.core) :
    ReplayedInv settings s' f.registry (writer.collect f) frames where
  sameSettings := by rw [hcore]; exact hsound.settings.trans h.sameSettings
  begun := .inl (by rw [hcore]; exact hinit)
  replicable := by rw [hcore]; exact hsound.replicable
  tables := by rw [hcore]; exact h.tables.collect hsound.grown hsound.inRange
  initialized _ := by rw [hcore]; exact hinit
  writtenSettings := h.writtenSettings
  lastReplicable := h.lastReplicable
  follows last hlast slot := by
    have hframes : frames ≠ [] := fun hnil => by rw [hnil] at hlast; cases hlast
    rw [hcore]
    exact (h.follows last hlast slot).collect hsees h.tables hsound.grown hsound.tables
      (hsound.settings.trans h.sameSettings)
      (hsound.fates (h.initialized hframes) slot) h.replicable hsound.replicable htells
  owners last hlast slot := by
    have hframes : frames ≠ [] := fun hnil => by rw [hnil] at hlast; cases hlast
    rw [hcore]
    exact (h.owners last hlast slot).collect (hsound.fates (h.initialized hframes) slot)

theorem ReplayedInv.written (h : ReplayedInv settings s' f.registry writer frames)
    (hinit : f.core.replicatedInitialized = true) (hcore : s'.core = f.core) (frame : ReplicationReplayFrame)
    (cues : List PendingReplayCueEntry) :
    ReplayedInv settings s' f.registry (writer.written f.core.frame)
      (frames ++ [{ frame, cues, core := f.core, registry := f.registry }]) where
  sameSettings := h.sameSettings
  begun := h.begun
  replicable := h.replicable
  tables := h.tables.written _
  initialized _ := by rw [hcore]; exact hinit
  writtenSettings written hin := by
    rcases List.mem_append.mp hin with hold | hnew
    · exact h.writtenSettings written hold
    · obtain rfl := List.mem_singleton.mp hnew
      exact hcore ▸ h.sameSettings
  lastReplicable last hlast := by
    rw [List.getLast?_concat] at hlast
    obtain rfl := Option.some.inj hlast
    exact hcore ▸ h.replicable
  follows last hlast slot := by
    rw [List.getLast?_concat] at hlast
    obtain rfl := Option.some.inj hlast
    rw [hcore]
    exact .kept List.not_mem_nil rfl fun _ _ _ => .refl _
  owners last hlast slot := by
    rw [List.getLast?_concat] at hlast
    obtain rfl := Option.some.inj hlast
    rw [hcore]
    exact fun _ _ => rfl

theorem ReplayedInv.continues [LawfulReplay R] (hset : settings.Replayable R)
    (h : ReplayedInv settings s' f.registry writer frames) (hcore : s'.core = f.core) (hwritable : writer.Writable f) :
    Continues R settings frames.getLast?
      { frame := writer.replayFrame f, cues := writer.pendingCues, core := f.core, registry := f.registry } := by
  have hsettings := h.sameSettings
  rw [hcore] at hsettings
  have hset' : f.core.settings.Replayable R := hsettings.symm ▸ hset
  intro before world howns hworld hready
  rw [← hsettings] at hworld
  cases hfull : writer.fullDue f.core.frame with
  | true =>
    have hkind : (writer.replayFrame f).kind = .full := by simp [ReplicationReplayWriter.replayFrame, hfull]
    obtain ⟨world', hmirrored, hothers⟩ := full_frame_mirrors hset' hwritable hfull howns hworld
    exact ⟨world', hmirrored, fun slot => .inr ⟨hothers.kept slot List.not_mem_nil, .inl hkind⟩⟩
  | false =>
    have hkind : (writer.replayFrame f).kind = .delta := by simp [ReplicationReplayWriter.replayFrame, hfull]
    obtain ⟨last, hlast, hmirrors⟩ := hready.resolve_left (by rw [hkind]; decide)
    have htables := h.tables
    rw [hcore] at htables
    suffices hdelta : ∃ world', FrameMirrored before f.core f.registry writer.pendingCues world
        (writer.replayFrame f) world' ∧
        FrameOthers f.core f.registry (writer.pendingDestroyedSlots.map Prod.fst) world world' by
      obtain ⟨world', hmirrored, hothers⟩ := hdelta
      refine ⟨world', hmirrored, fun slot => ?_⟩
      by_cases hslot : slot ∈ writer.pendingDestroyedSlots.map Prod.fst
      · exact .inl (hothers.gone slot hslot)
      · refine .inr ⟨hothers.kept slot hslot, .inr fun last hlast hactive => ?_⟩
        exact hcore ▸ h.owners last hlast slot hactive hslot
    refine delta_frame_mirrors hset' hwritable hfull howns hworld (fun slot hslot => htables.pending_lt hslot)
      htables.destroyed
      (fun slot hslot => ?_) hmirrors.zero
    have hfollows := h.follows last hlast slot
    have hreplicable := h.replicable
    rw [hcore] at hfollows hreplicable
    have hlastSettings := h.writtenSettings last (List.mem_of_getLast? hlast)
    rw [← hlastSettings] at hfollows hsettings
    exact hfollows.leftOut hslot hsettings (h.lastReplicable last hlast) hreplicable (hmirrors.slots slot)

theorem ReplayedInv.dirtyFrame {n : SyncFrame} {dirty : DirtyView} {cues : List QueuedSyncCue}
    (hsees : settings.SeesChanges registry current) (h : ReplayedInv settings s registry writer frames)
    (hreach : Reachable options settings s) (htells : dirty.Tells registry current)
    (hexec : s.exec (.advance n current dirty cues) = .ok s') (hframe : s.dirtyFrame n current dirty cues = .ok f) :
    s'.core = f.core ∧ f.registry = current ∧ f.core.replicatedInitialized = true ∧
      ReplayedInv settings s' current (writer.collect f) frames := by
  obtain ⟨hcore, rfl, rfl⟩ := advance_core hexec hframe
  obtain ⟨hs, -⟩ := moves_start_inv (reachable_moves hreach)
  obtain ⟨hsound, hinit⟩ := dirtyFrame_sound hs (slotTables_reachable hreach) h.begun h.replicable htells hframe
  exact ⟨hcore, rfl, hinit, h.collect hsees hsound hinit htells hcore⟩

theorem ReplayedRun.inv (h : ReplayedRun options settings s registry writer frames seen) :
    ReplayedInv settings s registry writer frames := by
  induction h with
  | start registry =>
    exact ⟨rfl, .inr rfl, fun _ _ h => (by cases h), .new _ _ _, fun h => absurd rfl h, fun _ h => (by cases h),
      fun _ h => (by cases h), fun _ h => (by cases h), fun _ h => (by cases h)⟩
  | attach _ _ _ ih => exact ih.attach _ _
  | between hrun hop hexec ih => exact ih.between hrun.reachable hop hexec
  | dirtyFrame hrun htells hsees _ hexec hframe _ ih =>
    obtain ⟨hcore, rfl, hinit, hcollected⟩ := ih.dirtyFrame hsees hrun.reachable htells hexec hframe
    unfold ReplicationReplayWriter.writtenFrame ReplicationReplayWriter.onServerRegistryDirtyFrame
    dsimp only
    split
    · exact hcollected.written hinit hcore _ _
    · rw [Option.map_none, Option.toList_none, List.append_nil]
      exact hcollected

theorem ReplayedRun.continues [LawfulReplay R] (hset : settings.Replayable R)
    (h : ReplayedRun options settings s registry writer frames seen) :
    ∀ earlier next later, frames = earlier ++ next :: later → Continues R settings earlier.getLast? next := by
  induction h with
  | start | attach => exact fun earlier next later h => by simp at h
  | between _ _ _ ih => exact ih
  | dirtyFrame hrun htells hsees _ hexec hframe hwritable ih =>
    obtain ⟨hcore, rfl, hinit, hcollected⟩ := hrun.inv.dirtyFrame hsees hrun.reachable htells hexec hframe
    unfold ReplicationReplayWriter.writtenFrame ReplicationReplayWriter.onServerRegistryDirtyFrame
    dsimp only
    split
    · rename_i hdue
      intro earlier next later hsplit
      rw [Option.map_some, Option.toList_some] at hsplit
      rcases List.eq_nil_or_concat later with rfl | ⟨later, last, hlater⟩
      · obtain ⟨rfl, hnext⟩ := List.append_inj' hsplit rfl
        obtain rfl := (List.cons.inj hnext).1
        exact hcollected.continues hset hcore (hwritable hdue)
      · rw [hlater, List.concat_eq_append, ← List.cons_append, ← List.append_assoc] at hsplit
        exact ih earlier next later (List.append_inj' hsplit rfl).1
    · rw [Option.map_none, Option.toList_none, List.append_nil]
      exact ih

/-- What a full frame leaves and each frame after it keeps holds wherever a run of frames is applied. -/
theorem ReplayedRun.plays [LawfulReplay R] (hset : settings.Replayable R)
    (h : ReplayedRun options settings s registry writer frames seen) {P : WrittenFrame → ReplayWorld R → Prop}
    {played : List WrittenFrame} (hplayed : played <:+: frames) {first : WrittenFrame} (hfirst : first ∈ played.head?)
    (hkind : first.frame.kind = .full) {before : R} {world : ReplayWorld R} (howns : OwnsNew before world)
    (hworld : world.server.core.settings = settings)
    (hstart : ∀ last world', CarriesOthers last first world world' → P first world')
    (hstep : ∀ last next, [last, next] <:+: played → ∀ world₁ world',
      Mirrors last.core last.registry world₁ → P last world₁ →
      CarriesOthers (some last) next world₁ world' → P next world')
    {last : WrittenFrame} (hlast : last ∈ played.getLast?) :
    ∃ world', ReplayWorld.applyFrames (played.map WrittenFrame.frame) world = (true, world') ∧
      OwnsNew before world' ∧ world'.server = world.server ∧ Mirrors last.core last.registry world' ∧
      P last world' := by
  obtain ⟨earlier, later, hframes⟩ := hplayed
  induction played using List.reverseRecOn generalizing last later with
  | nil => cases hfirst
  | append_singleton played next ih =>
    rw [List.getLast?_concat] at hlast
    obtain rfl := Option.some.inj hlast
    have hcontinues := h.continues hset (earlier ++ played) next later (by rw [← hframes]; simp)
    rw [List.map_append, List.map_singleton]
    rcases List.eq_nil_or_concat played with rfl | ⟨start, end', hend⟩
    · obtain rfl := Option.some.inj hfirst
      obtain ⟨world', hmirrored, hothers⟩ := hcontinues before world howns hworld (.inl hkind)
      exact ⟨world', applyFrames_snoc _ rfl hmirrored.applied, hmirrored.owns, hmirrored.server, hmirrored.mirrors,
        hstart _ _ hothers⟩
    · rw [List.concat_eq_append] at hend
      subst hend
      have hlastEq : (earlier ++ (start ++ [end'])).getLast? = some end' := by
        rw [← List.append_assoc, List.getLast?_concat]
      rw [hlastEq] at hcontinues
      obtain ⟨world₁, hall, howns₁, hserver, hmirrors, hP⟩ :=
        ih (by rwa [List.head?_append_of_ne_nil _ (by simp)] at hfirst)
        (fun last next hin => hstep last next (hin.trans (List.prefix_append ..).isInfix)) (List.getLast?_concat ..)
        (next :: later) (by rw [← hframes]; simp)
      obtain ⟨world', hmirrored, hothers⟩ :=
        hcontinues before world₁ howns₁ (by rw [hserver, hworld]) (.inr ⟨end', rfl, hmirrors⟩)
      refine ⟨world', applyFrames_snoc _ hall hmirrored.applied, hmirrored.owns, hmirrored.server.trans hserver,
        hmirrored.mirrors, hstep end' next ⟨start, [], by simp⟩ _ _ hmirrors hP hothers⟩

end

/-! ## The cues of a run -/

section

variable {R : Type} [ReplayRegistry R] {options : ReplicationServerOptions} {settings : SyncSettings}
  {s : ReplicationServer}
  {registry : Registry} {writer : ReplicationReplayWriter} {frames : List WrittenFrame} {seen : List
    ServerRegistryDirtyFrame}

def queuedEntries (seen : List ServerRegistryDirtyFrame) : List PendingReplayCueEntry :=
  seen.flatMap fun f => appendCueEntries f.core f.cues []

theorem collect_pendingCues (writer : ReplicationReplayWriter) (f : ServerRegistryDirtyFrame) :
    (writer.collect f).pendingCues = writer.pendingCues ++ appendCueEntries f.core f.cues [] := by
  simp only [ReplicationReplayWriter.collect, appendCueEntries, List.nil_append]

/-- Each entry is in one written frame, or pending, in the order of the cues. -/
theorem ReplayedRun.queued (h : ReplayedRun options settings s registry writer frames seen) :
    queuedEntries seen = frames.flatMap WrittenFrame.cues ++ writer.pendingCues := by
  induction h with
  | start | attach => rfl
  | between _ _ _ ih => exact ih
  | @dirtyFrame _ _ _ _ writer frames seen _ _ _ f _ _ _ _ _ _ _ ih =>
    have hseen : queuedEntries (seen ++ [f]) = frames.flatMap WrittenFrame.cues ++ (writer.collect f).pendingCues := by
      rw [collect_pendingCues, ← List.append_assoc, ← ih]
      simp [queuedEntries]
    rw [hseen]
    unfold ReplicationReplayWriter.writtenFrame ReplicationReplayWriter.onServerRegistryDirtyFrame
    dsimp only
    split
    · simp [ReplicationReplayWriter.written]
    · simp

theorem ReplayedRun.fits (h : ReplayedRun options settings s registry writer frames seen) :
    (∀ cue ∈ writer.pendingCues, cue.Fits) ∧ ∀ written ∈ frames, ∀ cue ∈ written.cues, cue.Fits := by
  induction h with
  | start | attach => exact ⟨fun _ h => (by cases h), fun _ h => (by cases h)⟩
  | between _ _ _ ih => exact ih
  | @dirtyFrame _ _ _ _ writer _ _ _ _ cues f _ _ _ hrange _ hframe _ ih =>
    obtain ⟨hpending, hfits⟩ := ih
    have hcues : f.cues = cues := by
      unfold ReplicationServer.dirtyFrame at hframe
      simp only [Monadic.bind_eq_ok, Monadic.pure_eq_ok] at hframe
      obtain ⟨r, -, rfl⟩ := hframe
      rfl
    have hcollected : ∀ cue ∈ (writer.collect f).pendingCues, cue.Fits :=
      appendCueEntries_fits hpending (hcues ▸ hrange)
    unfold ReplicationReplayWriter.writtenFrame ReplicationReplayWriter.onServerRegistryDirtyFrame
    dsimp only
    split
    · refine ⟨fun _ h => (by cases h), fun written hin => ?_⟩
      rcases List.mem_append.mp hin with hold | hnew
      · exact hfits written hold
      · rw [Option.map_some, Option.toList_some, List.mem_singleton] at hnew
        exact hnew ▸ hcollected
    · refine ⟨hcollected, fun written hin => hfits written ?_⟩
      rwa [Option.map_none, Option.toList_none, List.append_nil] at hin

end

/-! ## A full frame and two deltas, with a cue -/

namespace Sample

instance : LawfulReplay Rows where
  view_get _ := rfl
  view_hasTag _ := rfl
  replicated_setReplicated _ _ _ := if_pos rfl
  get_setReplicated _ _ _ _ := rfl
  replicated_set _ _ _ _ := rfl
  replicated_remove _ _ _ := rfl
  replicated_addTag _ _ _ _ h := by cases h; rfl
  replicated_removeTag _ _ _ := rfl

theorem replayable_of_sizedOps {settings : SyncSettings}
    (hops : ∀ definition ∈ settings.archetypes, ∀ c ∈ definition.components, c.ops = sizedOps)
    (htags : ∀ definition ∈ settings.archetypes, definition.tags = [])
    (hcount : settings.archetypes.length ≤ 2 ^ 32) :
    settings.Replayable Rows := by
  refine ⟨faithful_of_sizedOps hops hcount, pushesAll_of_sizedOps hops,
    fun definition hdef c hc value context bits hout => ?_, fun definition hdef t ht => ?_⟩
  · rw [hops definition hdef c hc] at hout
    cases hout
    simp [sizedOps, byteOps, bytesToBits, unsignedBits]
  · rw [htags definition hdef] at ht
    cases ht

structure Replayed where
  server : ReplicationServer
  writer : ReplicationReplayWriter := {}
  frames : List WrittenFrame := []
  seen : List ServerRegistryDirtyFrame := []

/-- A frame of the sample: its number, its entities, the changed, new and removed ones, the component values and the
cues. -/
structure ReplayInput where
  frame : SyncFrame
  entities : List Entity
  dirty : List Entity := []
  added : List Entity := []
  removed : List Entity := []
  values : List (Option UInt8)
  cues : List QueuedSyncCue := []

def ReplayInput.current (input : ReplayInput) : Registry := registry input.entities input.values

def ReplayInput.view (input : ReplayInput) : DirtyView := dirtyView input.dirty input.added input.removed

def Replayed.next (replayed : Replayed) (input : ReplayInput) : Option (Replayed × ServerRegistryDirtyFrame) :=
  match replayed.server.exec (.advance input.frame input.current input.view input.cues),
    replayed.server.dirtyFrame input.frame input.current input.view input.cues with
  | .ok server, .ok f => some ({
      server
      writer := (replayed.writer.onServerRegistryDirtyFrame f).1
      frames := replayed.frames ++ replayed.writer.writtenFrame f
      seen := replayed.seen ++ [f] }, f)
  | _, _ => none

def Replayed.fits (replayed : Replayed) (f : ServerRegistryDirtyFrame) : Bool :=
  let writer := replayed.writer.collect f
  decide (f.core.replicated.length < 2 ^ 32) &&
    decide (writer.recordsDue f < 2 ^ 16) &&
    (List.range f.core.replicated.length).all fun slot =>
      !f.core.replicatedIsReplicable f.registry slot || (replaySlotBody f.core f.registry slot).isSome

theorem Replayed.writable {replayed : Replayed} {f : ServerRegistryDirtyFrame} (h : replayed.fits f = true) :
    (replayed.writer.collect f).Writable f := by
  unfold Replayed.fits at h
  simp only [Bool.and_eq_true, decide_eq_true_eq, List.all_eq_true, List.mem_range, Bool.or_eq_true,
    Bool.not_eq_true'] at h
  obtain ⟨⟨hslots, hroom⟩, hwritten⟩ := h
  refine ⟨hslots, hroom, fun slot hreplicable => ?_⟩
  refine (hwritten slot (replicable_lt hreplicable)).resolve_left fun hnot => ?_
  rw [hreplicable] at hnot
  cases hnot

/-- The changed entities and those that are not replicated any more are in the dirty view, and the cues are in range. -/
def ReplayInput.tells (input before : ReplayInput) : Bool :=
  (input.cues.all fun cue => decide (cue.frame < 2 ^ 32 ∧ cue.type < 2 ^ 16)) &&
  (before.entities.all fun e => input.entities.contains e || input.removed.contains e) &&
    (decide (input.values = before.values) || before.entities.all fun e => input.dirty.contains e)

def Replayed.run (replayed : Replayed) (before : ReplayInput) : List ReplayInput → Option Replayed
  | [] => some replayed
  | input :: inputs =>
    match replayed.next input with
    | none => none
    | some (replayed', f) => if input.tells before && replayed.fits f then replayed'.run input inputs else none

def replayWorld : ReplayWorld Rows := { StartSample.world with server := .start options sizedSettings }

end Sample

end AshiatoSync
