import AshiatoSync.Moves

/-!
# What changing references leaves alone

Retaining, releasing and creating quantized frames keeps every slot, and never
changes the content of a frame that stays alive.
-/

namespace AshiatoSync

/-! ## Slots -/

def slotView (core : ServerCore) : List (Entity × SyncArchetypeId × Bool) :=
  core.replicated.map fun r => (r.entity, r.archetype, r.active)

structure SameSlots (core core' : ServerCore) : Prop where
  options : core'.options = core.options
  settings : core'.settings = core.settings
  frame : core'.frame = core.frame
  view : slotView core' = slotView core
  free : core'.freeReplicatedIndices = core.freeReplicatedIndices
  entities : core'.entityToReplicatedIndex = core.entityToReplicatedIndex
  indices : core'.entityIndexToReplicatedIndex = core.entityIndexToReplicatedIndex
  count : core'.activeReplicatedCount = core.activeReplicatedCount

theorem SameSlots.refl (core : ServerCore) : SameSlots core core := ⟨rfl, rfl, rfl, rfl, rfl, rfl, rfl, rfl⟩

theorem SameSlots.trans {a b c : ServerCore} (h : SameSlots a b) (h' : SameSlots b c) : SameSlots a c :=
  ⟨h'.options.trans h.options, h'.settings.trans h.settings, h'.frame.trans h.frame, h'.view.trans h.view,
    h'.free.trans h.free, h'.entities.trans h.entities, h'.indices.trans h.indices, h'.count.trans h.count⟩

theorem SameSlots.length {core core' : ServerCore} (h : SameSlots core core') :
    core'.replicated.length = core.replicated.length := by
  have := congrArg List.length h.view
  simpa [slotView] using this

theorem slotView_get {core : ServerCore} {slot : Nat} {r : ReplicatedSlot} (h : core.replicated[slot]? = some r) :
    (slotView core)[slot]? = some (r.entity, r.archetype, r.active) := by
  simp [slotView, h]

theorem SameSlots.slot {core core' : ServerCore} (h : SameSlots core core') {slot : Nat} {r : ReplicatedSlot}
    (hr : core.replicated[slot]? = some r) :
    ∃ r', core'.replicated[slot]? = some r' ∧ r'.entity = r.entity ∧ r'.archetype = r.archetype ∧
      r'.active = r.active := by
  have hv := slotView_get hr
  rw [← h.view] at hv
  simp only [slotView, List.getElem?_map, Option.map_eq_some_iff, Prod.mk.injEq] at hv
  obtain ⟨r', hr', he, ha, hact⟩ := hv
  exact ⟨r', hr', he, ha, hact⟩

theorem SameSlots.symm {core core' : ServerCore} (h : SameSlots core core') : SameSlots core' core :=
  ⟨h.options.symm, h.settings.symm, h.frame.symm, h.view.symm, h.free.symm, h.entities.symm, h.indices.symm,
    h.count.symm⟩

theorem SameSlots.slotActive {core core' : ServerCore} (h : SameSlots core core') (slot : Nat) :
    core'.replicatedSlotActive slot = core.replicatedSlotActive slot := by
  unfold ServerCore.replicatedSlotActive
  cases hr : core.replicated[slot]? with
  | some r =>
    obtain ⟨r', hr', -, -, ha⟩ := h.slot hr
    simp [hr', ha]
  | none =>
    have : core'.replicated[slot]? = none := by
      rw [List.getElem?_eq_none_iff] at hr ⊢
      rw [h.length]; exact hr
    simp [this]

theorem map_modify_of_comp {α β : Type} (f : α → β) (g : α → α) (hg : ∀ a, f (g a) = f a) (l : List α)
    (i : Nat) :
    (l.modify i g).map f = l.map f := by
  apply List.ext_getElem?
  intro j
  simp only [List.getElem?_map, List.getElem?_modify]
  cases l[j]? with
  | none => rfl
  | some a => by_cases h : i = j <;> simp [h, hg]

/-! ## Frames that stay alive -/

structure SameContent (f f' : QuantizedFrame) : Prop where
  slot : f'.slot = f.slot
  frame : f'.frame = f.frame
  archetype : f'.archetype = f.archetype
  data : f'.data = f.data

theorem SameContent.refl (f : QuantizedFrame) : SameContent f f := ⟨rfl, rfl, rfl, rfl⟩

theorem SameContent.trans {a b c : QuantizedFrame} (h : SameContent a b) (h' : SameContent b c) :
    SameContent a c :=
  ⟨h'.slot.trans h.slot, h'.frame.trans h.frame, h'.archetype.trans h.archetype, h'.data.trans h.data⟩

def Shrinks (core core' : ServerCore) : Prop :=
  ∀ (q : Nat) (f' : QuantizedFrame), core'.quantizedFrames[q]? = some f' → f'.active = true →
    ∃ f, core.quantizedFrames[q]? = some f ∧ f.active = true ∧ SameContent f f'

theorem Shrinks.refl (core : ServerCore) : Shrinks core core := fun _ f' h ha => ⟨f', h, ha, .refl f'⟩

theorem Shrinks.trans {a b c : ServerCore} (h : Shrinks a b) (h' : Shrinks b c) : Shrinks a c := by
  intro q f' hf ha
  obtain ⟨f₁, h₁, a₁, s₁⟩ := h' q f' hf ha
  obtain ⟨f₂, h₂, a₂, s₂⟩ := h q f₁ h₁ a₁
  exact ⟨f₂, h₂, a₂, s₂.trans s₁⟩

/-! ## Retain and release -/

theorem retain_sameSlots (core : ServerCore) (q : Nat) : SameSlots core (core.retainQuantizedFrame q) :=
  ⟨rfl, rfl, rfl, rfl, rfl, rfl, rfl, rfl⟩

theorem release_sameSlots (core : ServerCore) (q : Nat) : SameSlots core (core.releaseQuantizedFrame q) := by
  unfold ServerCore.releaseQuantizedFrame
  split
  · exact .refl _
  · split
    · exact .refl _
    · split
      · exact ⟨rfl, rfl, rfl, rfl, rfl, rfl, rfl, rfl⟩
      · refine ⟨rfl, rfl, rfl, ?_, rfl, rfl, rfl, rfl⟩
        apply map_modify_of_comp
        intro r
        rfl

theorem retain_shrinks (core : ServerCore) (q : Nat) : Shrinks core (core.retainQuantizedFrame q) := by
  intro i f' hf ha
  simp only [ServerCore.retainQuantizedFrame, List.getElem?_modify] at hf
  cases hi : core.quantizedFrames[i]? with
  | none => simp [hi] at hf
  | some f =>
    simp only [hi, Option.map_eq_map, Option.map_some, Option.some.injEq] at hf
    subst hf
    refine ⟨f, rfl, ?_, ?_⟩ <;> by_cases h : q = i <;> by_cases h' : f.active = true <;> simp_all [SameContent.refl]
    exact ⟨rfl, rfl, rfl, rfl⟩

theorem release_shrinks (core : ServerCore) (q : Nat) : Shrinks core (core.releaseQuantizedFrame q) := by
  intro i f' hf ha
  unfold ServerCore.releaseQuantizedFrame at hf
  split at hf
  · exact Shrinks.refl core i f' hf ha
  · rename_i f hq
    split at hf
    · exact Shrinks.refl core i f' hf ha
    · split at hf <;> simp only [List.getElem?_set] at hf <;> split at hf <;> try split at hf
      · rename_i hact _ hi _
        subst hi
        obtain rfl := by simpa using hf
        exact ⟨f, hq, by simpa using hact, rfl, rfl, rfl, rfl⟩
      · simp at hf
      · exact Shrinks.refl core i f' hf ha
      · obtain rfl := by simpa using hf
        simp at ha
      · simp at hf
      · exact Shrinks.refl core i f' hf ha

theorem releaseBaseline_sameSlots (core : ServerCore) (b : Option Nat) : SameSlots core (core.releaseBaseline b) := by
  cases b with
  | none => exact .refl _
  | some q => exact release_sameSlots core q

theorem releaseBaseline_shrinks (core : ServerCore) (b : Option Nat) : Shrinks core (core.releaseBaseline b) := by
  cases b with
  | none => exact .refl _
  | some q => exact release_shrinks core q

theorem releases_sameSlots (l : List PendingQuantizedFrame) (core : ServerCore) :
    SameSlots core (l.foldl (fun core p => core.releaseQuantizedFrame p.quantizedFrame) core) := by
  induction l generalizing core with
  | nil => exact .refl _
  | cons p l ih => exact (release_sameSlots core _).trans (ih _)

theorem releases_shrinks (l : List PendingQuantizedFrame) (core : ServerCore) :
    Shrinks core (l.foldl (fun core p => core.releaseQuantizedFrame p.quantizedFrame) core) := by
  induction l generalizing core with
  | nil => exact .refl _
  | cons p l ih => exact (release_shrinks core _).trans (ih _)

theorem releaseEntityState_sameSlots (core : ServerCore) (state : ClientEntityState) :
    SameSlots core (ServerClientReplicator.releaseEntityState core state) :=
  (releaseBaseline_sameSlots core _).trans (releases_sameSlots _ _)

theorem releaseEntityState_shrinks (core : ServerCore) (state : ClientEntityState) :
    Shrinks core (ServerClientReplicator.releaseEntityState core state) :=
  (releaseBaseline_shrinks core _).trans (releases_shrinks _ _)

/-! ## Creation -/

structure Created (core : ServerCore) (r : ReplicatedSlot) (slot : Nat) (frame : SyncFrame)
    (scratch : QuantizedFrameData × List Nat) (core' : ServerCore) (q : Nat) : Prop where
  same : SameSlots core core'
  index : q = core.quantizedFrames.length ∧ core.freeQuantizedFrames = [] ∧ core'.freeQuantizedFrames = [] ∧
      core'.quantizedFrames.length = core.quantizedFrames.length + 1 ∨
    core.freeQuantizedFrames = q :: core'.freeQuantizedFrames ∧
      core'.quantizedFrames.length = core.quantizedFrames.length
  other : ∀ i, i ≠ q → core'.quantizedFrames[i]? = core.quantizedFrames[i]?
  new : q < core'.quantizedFrames.length → core'.quantizedFrames[q]? = some {
    slot, frame, archetype := r.archetype, refCount := 0, active := true, data := scratch.1
    dirtyGenerations := scratch.2 }

theorem listQuantizedFrame_view (q : Nat) (frame : SyncFrame) (r : ReplicatedSlot) :
    ((listQuantizedFrame q frame r).entity, (listQuantizedFrame q frame r).archetype,
      (listQuantizedFrame q frame r).active) = (r.entity, r.archetype, r.active) := by
  unfold listQuantizedFrame
  split <;> rfl

theorem storeQuantizedFrame_sameSlots (core : ServerCore) (r : ReplicatedSlot) (slot q : Nat) (frame : SyncFrame)
    (scratch : QuantizedFrameData × List Nat) : SameSlots core (storeQuantizedFrame core r slot q frame scratch) :=
  ⟨rfl, rfl, rfl, map_modify_of_comp _ _ (listQuantizedFrame_view q frame) _ _, rfl, rfl, rfl, rfl⟩

theorem create_spec {core core' : ServerCore} {r : ReplicatedSlot} {slot q : Nat} {frame : SyncFrame}
    {scratch : QuantizedFrameData × List Nat}
    (h : createQuantizedFrame core r slot frame scratch = .ok (core', q)) :
    Created core r slot frame scratch core' q := by
  unfold createQuantizedFrame takeQuantizedFrameIndex at h
  obtain ⟨⟨core₁, q₁⟩, h₁, h₂⟩ := Monadic.Except_map_eq_ok.mp h
  obtain ⟨rfl, rfl⟩ := Prod.mk.inj h₂
  split at h₁
  · rename_i q₂ rest hfree
    obtain ⟨rfl, rfl⟩ := Prod.mk.inj (Except.ok.inj h₁)
    have hs := storeQuantizedFrame_sameSlots { core with freeQuantizedFrames := rest } r slot q₂ frame scratch
    refine ⟨⟨hs.options, hs.settings, hs.frame, hs.view, hs.free, hs.entities, hs.indices, hs.count⟩,
      .inr ⟨hfree, by simp [storeQuantizedFrame]⟩, ?_, ?_⟩
    · intro i hi
      simp [storeQuantizedFrame, Ne.symm hi]
    · intro hq
      simp only [storeQuantizedFrame, List.length_set] at hq
      simp [storeQuantizedFrame, hq]
  · rename_i hfree
    split at h₁
    · cases h₁
    · obtain ⟨rfl, rfl⟩ := Prod.mk.inj (Except.ok.inj h₁)
      have hs := storeQuantizedFrame_sameSlots { core with quantizedFrames := core.quantizedFrames ++ [{}] }
        r slot core.quantizedFrames.length frame scratch
      refine ⟨⟨hs.options, hs.settings, hs.frame, hs.view, hs.free, hs.entities, hs.indices, hs.count⟩,
        .inl ⟨rfl, hfree, hfree, by simp [storeQuantizedFrame]⟩, ?_, ?_⟩
      · intro i hi
        simp only [storeQuantizedFrame, List.getElem?_set, List.getElem?_append, Ne.symm hi, if_false]
        by_cases hlt : i < core.quantizedFrames.length
        · simp [hlt]
        · simp [hlt]
          omega
      · intro _
        simp [storeQuantizedFrame]

end AshiatoSync
