import AshiatoSync.ClientView

/-!
# One entity of the client shows what it was sent

The invariant of an entity ties its local entity to the frames the masks were
computed against: in `Snap` mode to the stored baseline, in
`BufferedInterpolation` mode to the sample applied last and to the one after it.
-/

namespace AshiatoSync

open ReplicationClient

/-! ## Rings -/

namespace FrameRing

theorem view_eq_some {ring : FrameRing} {g : SyncFrame} {T : EntityBufferedFrame} (h : ring.view g = some T) :
    T.valid = true ∧ T.frame = g := by
  unfold view at h
  obtain ⟨_, hT⟩ := Option.filter_eq_some_iff.mp h
  simpa using hT

theorem slotFor_lt {ring : FrameRing} (h : ring ≠ []) (g : SyncFrame) : ring.slotFor g < ring.length := by
  have hle : ring.slotFor g ≤ ring.length - 1 := Nat.and_le_right
  have hpos := List.length_pos_iff.mpr h
  omega

theorem view_write_self {ring : FrameRing} {sample : EntityBufferedFrame} (h : ring ≠ [])
    (hvalid : sample.valid = true) :
    (ring.write sample).view sample.frame = some sample := by
  have hslot : (ring.write sample).slotFor sample.frame = ring.slotFor sample.frame := by simp [slotFor, write]
  unfold view
  rw [hslot]
  simp [write, slotFor_lt h, hvalid]

theorem view_write_ne {ring : FrameRing} {sample T : EntityBufferedFrame} {g : SyncFrame} (hne : g ≠ sample.frame)
    (h : (ring.write sample).view g = some T) : ring.view g = some T := by
  have hslot : (ring.write sample).slotFor g = ring.slotFor g := by simp [slotFor, write]
  unfold view at h ⊢
  rw [hslot] at h
  by_cases heq : ring.slotFor sample.frame = ring.slotFor g
  · obtain ⟨hget, hT⟩ := Option.filter_eq_some_iff.mp h
    rw [write, heq, List.getElem?_set_self'] at hget
    cases hold : ring[ring.slotFor g]? with
    | none => simp [hold] at hget
    | some old =>
      obtain rfl : sample = T := by simpa [hold] using hget
      simp at hT
      exact absurd hT.2.symm hne
  · rwa [write, List.getElem?_set_ne heq] at h

theorem view_empty (g : SyncFrame) : view [] g = none := by simp [view]

theorem view_ensure (ring : FrameRing) (capacity : Nat) (g : SyncFrame) :
    (ring.ensure capacity).view g = ring.view g := by
  unfold ensure
  split
  · rename_i h
    rw [List.isEmpty_iff.mp h, view_empty, view, List.getElem?_replicate]
    split <;> rfl
  · rfl

theorem view_clear (ring : FrameRing) (g : SyncFrame) : ring.clear.view g = none := by
  unfold view clear
  rw [List.getElem?_map]
  cases ring[slotFor (ring.map fun _ => ({} : EntityBufferedFrame)) g]? <;> rfl

end FrameRing

/-! ## Frame data -/

def Sized (definition : SyncArchetype) (data : QuantizedFrameData) : Prop :=
  data.bytes.length = definition.components.length

def Shows (definition : SyncArchetype) (data : QuantizedFrameData) (shown : ComponentId → Option Bytes) : Prop :=
  ∀ i c, definition.components[i]? = some c → ∀ x, frameComponentData data i = some x →
    shown c.component = c.ops.pushToRegistry x

theorem frameComponentData_eq_some {data : QuantizedFrameData} {i : Nat} {x : Bytes} :
    frameComponentData data i = some x ↔ frameHasComponent data i = true ∧ data.bytes[i]? = some x := by
  unfold frameComponentData
  split
  · rename_i h
    simp [h]
  · rename_i h
    simp [h]

theorem frameComponentData_write_ne {data : QuantizedFrameData} {i j : Nat} {bytes : Bytes} (hj : j ≠ i) :
    frameComponentData (writeFrameComponent data i bytes) j = frameComponentData data j := by
  have hbit : (BitVec.twoPow 64 i).getLsbD j = false := by
    simp [BitVec.getLsbD_twoPow, Ne.symm hj]
  have hhas : frameHasComponent (writeFrameComponent data i bytes) j = frameHasComponent data j := by
    simp [frameHasComponent, writeFrameComponent, hbit]
  rw [frameComponentData, frameComponentData, hhas, writeFrameComponent, List.getElem?_set_ne (Ne.symm hj)]

theorem Sized.hasBytes {definition : SyncArchetype} {data : QuantizedFrameData} (h : Sized definition data) :
    HasBytes definition data := by
  intro i hi hhas
  have hlt : i < data.bytes.length := h ▸ hi
  simp [frameComponentData, hhas, hlt]

theorem HasBytes.masked {definition : SyncArchetype} {data : QuantizedFrameData} (h : HasBytes definition data)
    (mask : Mask) :
    HasBytes definition { data with presentMask := data.presentMask &&& mask } := by
  intro i hi hhas
  simp only [frameHasComponent, BitVec.getLsbD_and, Bool.and_eq_true] at hhas
  obtain ⟨x, hx⟩ := Option.isSome_iff_exists.mp (h i hi hhas.1)
  have hread : frameComponentData { data with presentMask := data.presentMask &&& mask } i = some x :=
    frameComponentData_eq_some.mpr ⟨by simp [frameHasComponent, hhas], (frameComponentData_eq_some.mp hx).2⟩
  rw [hread]
  rfl

theorem Sized.hasBytes_masked {definition : SyncArchetype} {data : QuantizedFrameData} (h : Sized definition data)
    (mask : Mask) :
    HasBytes definition { data with presentMask := mask } := Sized.hasBytes h

theorem Sized.write {definition : SyncArchetype} {data : QuantizedFrameData} (h : Sized definition data) (i : Nat)
    (x : Bytes) : Sized definition (writeFrameComponent data i x) := by
  simpa [Sized, writeFrameComponent] using h

theorem sized_zeroedFrame (definition : SyncArchetype) : Sized definition (zeroedFrame definition) := by
  simp [Sized, zeroedFrame]

theorem Sized.masked {definition : SyncArchetype} {data : QuantizedFrameData} (h : Sized definition data)
    (tags mask : Mask) :
    Sized definition { data with tagMask := tags, presentMask := mask } := h

/-! ### Change masks -/

theorem getLsbD_foldl_twoPow (p : Nat → Bool) (l : List Nat) (mask : Mask) (j : Nat) :
    (l.foldl (fun mask i => if p i then mask ||| BitVec.twoPow 64 i else mask) mask).getLsbD j =
      (mask.getLsbD j || (decide (j < 64) && decide (j ∈ l) && p j)) := by
  induction l generalizing mask with
  | nil => simp
  | cons i l ih =>
    rw [List.foldl_cons, ih]
    by_cases hij : j = i
    · subst hij
      by_cases hp : p j
      · by_cases h64 : j < 64
        · simp [hp, h64]
        · simp [hp, h64]
      · simp [hp]
    · by_cases hp : p i
      · simp [hp, hij, BitVec.getLsbD_twoPow, Ne.symm hij]
      · simp [hp, hij]

/-- A component the change mask leaves out has the same bytes in both frames. -/
theorem eq_of_unchanged {definition : SyncArchetype} {current next : QuantizedFrameData} {i : Nat} {x : Bytes}
    (hi : i < definition.components.length) (hnext : frameComponentData next i = some x)
    (hmask : (changedPresentComponentMask definition current next).getLsbD i = false) :
    frameComponentData current i = some x := by
  obtain ⟨hhas, _⟩ := frameComponentData_eq_some.mp hnext
  have h64 : i < 64 := BitVec.lt_of_getLsbD hhas
  rw [changedPresentComponentMask, getLsbD_foldl_twoPow] at hmask
  simp only [h64, hi, hhas, hnext, List.mem_range, decide_true, Bool.and_true, Bool.true_and, Bool.or_eq_false_iff,
    Bool.not_eq_false'] at hmask
  cases hcurrent : frameComponentData current i with
  | none => simp [hcurrent] at hmask
  | some y =>
    have : y = x := by simpa [hcurrent] using hmask.2
    rw [this]

/-! ## Showing frames -/

section

variable {definition : SyncArchetype} {input : RegistryFrameApplyInfo} {before after : ComponentId → Option Bytes}

/-- Pushing part of a frame shows all of it when what is left out was shown before. -/
theorem FrameShown.shows (h : FrameShown definition input before after) {data : QuantizedFrameData} {mask : Mask}
    (hdata : input.frameData = { data with presentMask := data.presentMask &&& mask })
    (hnext : input.nextPresentMask = data.presentMask)
    (hkept : ∀ i c x, definition.components[i]? = some c → frameComponentData data i = some x →
      mask.getLsbD i = false →
      before c.component = c.ops.pushToRegistry x) : Shows definition data after := by
  intro i c hc x hx
  obtain ⟨hhas, hbytes⟩ := frameComponentData_eq_some.mp hx
  have hcomponent := h.component i c hc
  unfold frameHasComponent at hhas
  cases hmask : mask.getLsbD i with
  | true =>
    have hpushed : frameHasComponent input.frameData i = true := by simp [hdata, frameHasComponent, hhas, hmask]
    have hread : frameComponentData input.frameData i = some x :=
      frameComponentData_eq_some.mpr ⟨hpushed, by simpa [hdata] using hbytes⟩
    rw [hcomponent, if_pos hpushed, hread]
    rfl
  | false =>
    have hpushed : frameHasComponent input.frameData i = false := by simp [hdata, frameHasComponent, hmask]
    rw [hcomponent, hpushed, hnext, hhas]
    simpa using hkept i c x hc hx hmask

/-- A frame with bytes for its components, pushed by total serializers, leaves exactly its components of the ones that
were there or that are removed. -/
theorem FrameShown.present (h : FrameShown definition input before after) {data : QuantizedFrameData}
    (hnext : input.nextPresentMask = data.presentMask)
    (hsub : ∀ i, frameHasComponent input.frameData i = true → frameHasComponent data i = true)
    (hshows : Shows definition data after) (hsized : Sized definition data)
    (hpush : ∀ c ∈ definition.components, ∀ bytes, (c.ops.pushToRegistry bytes).isSome)
    {i : Nat} {c : ComponentReplication} (hc : definition.components[i]? = some c) :
    (after c.component).isSome = frameHasComponent data i ↔
      ((before c.component).isSome = true → frameHasComponent data i = false →
      input.previousPresentMask.getLsbD i = true) := by
  have hlt : i < definition.components.length := (List.getElem?_eq_some_iff.mp hc).1
  cases hhas : frameHasComponent data i with
  | true =>
    obtain ⟨x, hx⟩ := Option.isSome_iff_exists.mp (hsized.hasBytes i hlt hhas)
    rw [hshows i c hc x hx]
    simp [hpush c (List.mem_of_getElem? hc) x]
  | false =>
    have hnot : frameHasComponent input.frameData i = false := by
      cases hin : frameHasComponent input.frameData i with
      | false => rfl
      | true => exact absurd (hsub i hin) (by simp [hhas])
    have hmask : input.nextPresentMask.getLsbD i = false := by rw [hnext]; exact hhas
    rw [h.component i c hc, hnot, hmask]
    cases hprev : input.previousPresentMask.getLsbD i with
    | true => simp
    | false => cases before c.component <;> simp

end

/-! ## Buffered samples -/

/-- The samples of a ring: each is as large as its archetype, and leaves out only what the sample before it has. -/
structure RingOk (definition : SyncArchetype) (bound : SyncFrame) (ring : FrameRing) : Prop where
  frames : ∀ g T, ring.view g = some T → 0 < g ∧ g ≤ bound
  source : ∀ g T, ring.view g = some T → T.writeSource = .bufferedFrame
  sized : ∀ g T, ring.view g = some T → T.entityPresent = true → Sized definition T.baseline
  steps : ∀ g T i x, ring.view (g + 1) = some T → T.entityPresent = true → i < definition.components.length →
    frameComponentData T.baseline i = some x → T.componentApplyMask.getLsbD i = false →
    g ≠ 0 ∧ ∀ P, ring.view g = some P → P.entityPresent = true ∧ frameComponentData P.baseline i = some x

structure Follows (definition : SyncArchetype) (ring : FrameRing) (last : SyncFrame)
    (shown : ComponentId → Option Bytes) : Prop where
  applied : ∀ P, ring.view last = some P → P.entityPresent = true → Shows definition P.baseline shown
  skipped : ∀ T, ring.view (last + 1) = some T → T.entityPresent = true →
    ∀ i c x, definition.components[i]? = some c →
    frameComponentData T.baseline i = some x → T.componentApplyMask.getLsbD i = false →
    shown c.component = c.ops.pushToRegistry x

section

variable {definition : SyncArchetype} {bound last : SyncFrame} {ring : FrameRing} {shown : ComponentId → Option Bytes}
  {N : EntityBufferedFrame}

theorem RingOk.of_none (h : ∀ g, ring.view g = none) : RingOk definition bound ring :=
  ⟨fun g T hT => by simp [h] at hT, fun g T hT => by simp [h] at hT, fun g T hT => by simp [h] at hT,
    fun g T _ _ hT => by simp [h] at hT⟩

theorem RingOk.mono {bound' : SyncFrame} (h : RingOk definition bound ring) (hle : bound ≤ bound') :
    RingOk definition bound' ring :=
  ⟨fun g T hT => ⟨(h.frames g T hT).1, (h.frames g T hT).2.trans hle⟩, h.source, h.sized, h.steps⟩

theorem RingOk.ensure (h : RingOk definition bound ring) (capacity : Nat) :
    RingOk definition bound (ring.ensure capacity) := by
  constructor
  · simpa only [FrameRing.view_ensure] using h.frames
  · simpa only [FrameRing.view_ensure] using h.source
  · simpa only [FrameRing.view_ensure] using h.sized
  · simpa only [FrameRing.view_ensure] using h.steps

theorem Follows.ensure (h : Follows definition ring last shown) (capacity : Nat) :
    Follows definition (ring.ensure capacity) last shown := by
  constructor
  · simpa only [FrameRing.view_ensure] using h.applied
  · simpa only [FrameRing.view_ensure] using h.skipped

def StepsFrom (definition : SyncArchetype) (ring : FrameRing) (N : EntityBufferedFrame) : Prop :=
  N.entityPresent = true → ∀ i x, i < definition.components.length → frameComponentData N.baseline i = some x →
    N.componentApplyMask.getLsbD i = false →
    ∃ P, ring.view (N.frame - 1) = some P ∧ P.entityPresent = true ∧ frameComponentData P.baseline i = some x

theorem view_write_cases {g : SyncFrame} {T : EntityBufferedFrame} (hvalid : N.valid = true)
    (h : (ring.write N).view g = some T) : (g = N.frame ∧ T = N) ∨ (g ≠ N.frame ∧ ring.view g = some T) := by
  by_cases hg : g = N.frame
  · subst hg
    by_cases hring : ring = []
    · subst hring
      simp [FrameRing.write, FrameRing.view_empty] at h
    · rw [FrameRing.view_write_self hring hvalid] at h
      exact .inl ⟨rfl, (Option.some.inj h).symm⟩
  · exact .inr ⟨hg, FrameRing.view_write_ne hg h⟩

theorem RingOk.write (h : RingOk definition bound ring) (hpos : 0 < N.frame) (hle : bound ≤ N.frame)
    (hvalid : N.valid = true) (hsource : N.writeSource = .bufferedFrame)
    (hsized : N.entityPresent = true → Sized definition N.baseline) (hsteps : StepsFrom definition ring N) :
    RingOk definition N.frame (ring.write N) := by
  constructor
  · intro g T hT
    rcases view_write_cases hvalid hT with ⟨rfl, rfl⟩ | ⟨_, hold⟩
    · exact ⟨hpos, Nat.le_refl _⟩
    · exact ⟨(h.frames g T hold).1, (h.frames g T hold).2.trans hle⟩
  · intro g T hT
    rcases view_write_cases hvalid hT with ⟨rfl, rfl⟩ | ⟨_, hold⟩
    · exact hsource
    · exact h.source g T hold
  · intro g T hT hpresent
    rcases view_write_cases hvalid hT with ⟨rfl, rfl⟩ | ⟨_, hold⟩
    · exact hsized hpresent
    · exact h.sized g T hold hpresent
  · intro g T i x hT hpresent hi hx hmask
    rcases view_write_cases hvalid hT with ⟨hg, rfl⟩ | ⟨_, hold⟩
    · -- the new sample: the one before it is still the one its mask was computed against
      obtain ⟨P, hP, hPpresent, hPx⟩ := hsteps hpresent i x hi hx hmask
      rw [← hg, Nat.add_sub_cancel] at hP
      refine ⟨Nat.pos_iff_ne_zero.mp (h.frames g P hP).1, fun P' hP' => ?_⟩
      rcases view_write_cases hvalid hP' with ⟨hg', _⟩ | ⟨_, hold'⟩
      · exact absurd (hg.trans hg'.symm) (Nat.succ_ne_self g)
      · obtain rfl : P = P' := Option.some.inj (hP.symm.trans hold')
        exact ⟨hPpresent, hPx⟩
    · obtain ⟨hne, hprev⟩ := h.steps g T i x hold hpresent hi hx hmask
      refine ⟨hne, fun P hP => ?_⟩
      rcases view_write_cases hvalid hP with ⟨rfl, _⟩ | ⟨_, hP⟩
      · -- the ring has nothing after the new sample
        exact absurd (h.frames _ T hold).2 (Nat.not_le.mpr (Nat.lt_succ_of_le hle))
      · exact hprev P hP

theorem Follows.write (h : Follows definition ring last shown) (hlt : last < N.frame) (hvalid : N.valid = true)
    (hsteps : StepsFrom definition ring N) : Follows definition (ring.write N) last shown := by
  constructor
  · intro P hP
    rcases view_write_cases hvalid hP with ⟨hlast, _⟩ | ⟨_, hold⟩
    · exact absurd hlast (Nat.ne_of_lt hlt)
    · exact h.applied P hold
  · intro T hT hpresent i c x hc hx hmask
    rcases view_write_cases hvalid hT with ⟨hlast, rfl⟩ | ⟨_, hold⟩
    · have hi : i < definition.components.length := (List.getElem?_eq_some_iff.mp hc).1
      obtain ⟨P, hP, hPpresent, hPx⟩ := hsteps hpresent i x hi hx hmask
      rw [← hlast, Nat.add_sub_cancel] at hP
      exact h.applied P hP hPpresent i c hc x hPx
    · exact h.skipped T hold hpresent i c x hc hx hmask

end

/-! ### Writing samples -/

def Interpolates (definition : SyncArchetype) : Prop :=
  ∀ c ∈ definition.components, c.interpolated = true → c.ops.interpolate.isSome = true

section

variable {definition : SyncArchetype} {source target : Option QuantizedFrameData} {frame fromFrame toFrame : SyncFrame}

structure Readable (definition : SyncArchetype) (source target : Option QuantizedFrameData)
    (fromFrame toFrame : SyncFrame) :
    Prop where
  ofSource : ∀ s, source = some s → Sized definition s
  ofTarget : ∀ t, target = some t → Sized definition t
  between : source.isSome = true → target.isSome = true → Interpolates definition ∧ toFrame ≠ fromFrame

theorem interpolatedComponent_isSome (h : Readable definition source target fromFrame toFrame)
    {c : ComponentReplication} {i : Nat} (hc : definition.components[i]? = some c) (hsome : source.isSome = true)
    (previous : Bytes) :
    (interpolatedComponent c i previous target frame fromFrame toFrame).isSome = true := by
  unfold interpolatedComponent
  cases target with
  | none => rfl
  | some t =>
    obtain ⟨hinterpolates, hne⟩ := h.between hsome rfl
    dsimp only
    split
    · rfl
    · rename_i hboth
      have hhas : frameHasComponent t i = true := by
        cases hhas : frameHasComponent t i with
        | true => rfl
        | false => simp [hhas] at hboth
      have hinter : c.interpolated = true := by
        cases hinter : c.interpolated with
        | true => rfl
        | false => simp [hinter] at hboth
      have hlt : i < definition.components.length := (List.getElem?_eq_some_iff.mp hc).1
      obtain ⟨x, hx⟩ := Option.isSome_iff_exists.mp ((h.ofTarget t rfl).hasBytes i hlt hhas)
      obtain ⟨op, hop⟩ := Option.isSome_iff_exists.mp (hinterpolates c (List.mem_of_getElem? hc) hinter)
      simp only [hx, hop, Option.isSome_some]

theorem interpolatedComponents_spec {s : QuantizedFrameData}
    (h : Readable definition (some s) target fromFrame toFrame) :
    ∀ (cs : List ComponentReplication) (k : Nat) (data : QuantizedFrameData),
      (∀ j c, cs[j]? = some c → definition.components[k + j]? = some c) → Sized definition data →
      (interpolatedComponents s target frame fromFrame toFrame cs k data).2 = true ∧
        Sized definition (interpolatedComponents s target frame fromFrame toFrame cs k data).1
  | [], _, _, _, hdata => ⟨rfl, hdata⟩
  | c :: cs, k, data, hcs, hdata => by
    have hc : definition.components[k]? = some c := hcs 0 c rfl
    have hrest : ∀ j d, cs[j]? = some d → definition.components[k + 1 + j]? = some d := fun j d hd => by
      rw [Nat.add_assoc, Nat.add_comm 1 j]
      exact hcs (j + 1) d hd
    unfold interpolatedComponents
    split
    · exact interpolatedComponents_spec h cs (k + 1) data hrest hdata
    · rename_i hhas
      have hlt : k < definition.components.length := (List.getElem?_eq_some_iff.mp hc).1
      obtain ⟨x, hx⟩ := Option.isSome_iff_exists.mp ((h.ofSource s rfl).hasBytes k hlt (by simpa using hhas))
      obtain ⟨y, hy⟩ := Option.isSome_iff_exists.mp
        (@interpolatedComponent_isSome definition (some s) target frame fromFrame toFrame h c k hc rfl x)
      simp only [hx, hy]
      exact interpolatedComponents_spec h cs (k + 1) _ hrest (hdata.write k y)

theorem bufferedFrameData_spec (h : Readable definition source target fromFrame toFrame)
    (hsome : frame = toFrame → target.isSome = true) :
    (bufferedFrameData definition frame source target fromFrame toFrame).2 = true ∧
      Sized definition (bufferedFrameData definition frame source target fromFrame toFrame).1 ∧
      (frame = toFrame → target = some (bufferedFrameData definition frame source target fromFrame toFrame).1) := by
  have hwhole : ∀ j c, definition.components[j]? = some c → definition.components[0 + j]? = some c :=
    fun j c hc => by
    rwa [Nat.zero_add]
  unfold bufferedFrameData
  cases target with
  | some t =>
    by_cases hframe : frame = toFrame
    · have hlen : t.bytes.length = definition.components.length := h.ofTarget t rfl
      simp only [if_pos hframe, hlen, ne_eq, not_true_eq_false, if_false, true_and]
      exact ⟨hlen, fun _ => trivial⟩
    · cases source with
      | none =>
        simp only [if_neg hframe, true_and]
        exact ⟨sized_zeroedFrame definition, fun heq => absurd heq hframe⟩
      | some s =>
        simp only [if_neg hframe]
        obtain ⟨hok, hsized⟩ :=
          @interpolatedComponents_spec definition _ frame _ _ s h definition.components 0 _ hwhole
          ((sized_zeroedFrame definition).masked s.tagMask 0)
        exact ⟨hok, hsized, fun heq => absurd heq hframe⟩
  | none =>
    have hframe : frame ≠ toFrame := fun heq => by simpa using hsome heq
    cases source with
    | none =>
      dsimp only
      exact ⟨rfl, sized_zeroedFrame definition, fun heq => absurd heq hframe⟩
    | some s =>
      dsimp only
      obtain ⟨hok, hsized⟩ :=
        @interpolatedComponents_spec definition _ frame _ _ s h definition.components 0 _ hwhole
        ((sized_zeroedFrame definition).masked s.tagMask 0)
      exact ⟨hok, hsized, fun heq => absurd heq hframe⟩

end

section

variable {definition : SyncArchetype} {source target : Option QuantizedFrameData} {frame fromFrame toFrame : SyncFrame}
  {capacity : Nat} {ring : FrameRing} {entityPresent : Bool}

theorem stepsFrom_bufferedApplyMask {N : EntityBufferedFrame} {sample : EntityBufferedFrame}
    (hframe : sample.frame = N.frame)
    (hmask : N.componentApplyMask = bufferedApplyMask definition (ring.write sample) N.frame N.baseline) :
    StepsFrom definition ring N := by
  intro _ i x hi hx hbit
  obtain ⟨hhas, _⟩ := frameComponentData_eq_some.mp hx
  unfold frameHasComponent at hhas
  rw [hmask] at hbit
  unfold bufferedApplyMask at hbit
  split at hbit
  · rename_i P hP
    split at hP
    · cases hP
    · rename_i hzero
      split at hbit
      · rename_i hPpresent
        have hne : N.frame - 1 ≠ sample.frame := by
          rw [hframe]
          exact Nat.ne_of_lt (Nat.sub_lt (Nat.pos_of_ne_zero hzero) Nat.one_pos)
        exact ⟨P, FrameRing.view_write_ne hne hP, hPpresent, eq_of_unchanged hi hx hbit⟩
      · simp [hhas] at hbit
  · simp [hhas] at hbit

theorem writeBufferedFrame_spec (hvalid : validFrameArchetype definition = true)
    (h : entityPresent = true → Readable definition source target fromFrame toFrame ∧
    (frame = toFrame → target.isSome = true)) :
    ∃ N : EntityBufferedFrame, writeBufferedFrame definition capacity ring frame entityPresent source target
      fromFrame toFrame =
        ((ring.ensure capacity).write N, true) ∧
      N.frame = frame ∧ N.valid = true ∧ N.entityPresent = entityPresent ∧ N.writeSource = .bufferedFrame ∧
      (N.entityPresent = true → Sized definition N.baseline) ∧ StepsFrom definition (ring.ensure capacity) N := by
  unfold writeBufferedFrame
  simp only [hvalid, Bool.not_true, Bool.false_eq_true, if_false]
  cases entityPresent with
  | false =>
    simp only [Bool.not_false, if_true]
    exact ⟨{ frame, valid := true, entityPresent := false, writeSource := .bufferedFrame }, rfl, rfl, rfl, rfl, rfl,
      (fun hfalse => by cases hfalse), (fun hfalse => by cases hfalse)⟩
  | true =>
    obtain ⟨hread, hsome⟩ := h rfl
    obtain ⟨hok, hsized, _⟩ := bufferedFrameData_spec hread hsome
    simp only [Bool.not_true, Bool.false_eq_true, if_false]
    generalize bufferedFrameData definition frame source target fromFrame toFrame = result at hok hsized
    obtain ⟨data, ok⟩ := result
    dsimp only at hok hsized
    subst hok
    refine ⟨_, rfl, rfl, rfl, rfl, rfl, fun _ => hsized, ?_⟩
    exact @stepsFrom_bufferedApplyMask _ _
      _ { frame, valid := true, entityPresent := true, writeSource := .bufferedFrame }
      rfl rfl

end

section

variable {definition : SyncArchetype} {source target : Option QuantizedFrameData} {fromFrame toFrame bound : SyncFrame}
  {capacity : Nat} {sourcePresent : Bool}

/-- Filling readable frames keeps the ring in order, and what the local entity shows of it. -/
theorem fillFrames_spec (hvalid : validFrameArchetype definition = true)
    (hread : Readable definition source target fromFrame toFrame) :
    ∀ (count current : Nat) (ring : FrameRing) (bound : SyncFrame), RingOk definition bound ring →
    bound < current →
      (fillFrames definition capacity source sourcePresent target fromFrame toFrame count current ring).2 = true ∧
      RingOk definition (current + count - 1)
        (fillFrames definition capacity source sourcePresent target fromFrame toFrame count current ring).1 ∧
      ∀ last shown, last < current → Follows definition ring last shown → Follows definition
        (fillFrames definition capacity source sourcePresent target fromFrame toFrame count current ring).1 last shown
  | 0, current, ring, bound, hring, hlt => ⟨rfl, hring.mono (Nat.le_sub_one_of_lt hlt), fun _ _ _ h => h⟩
  | count + 1, current, ring, bound, hring, hlt => by
    unfold fillFrames
    generalize hpresent : (if current = toFrame then target.isSome else sourcePresent) = present
    obtain ⟨N, heq, hframe, hNvalid, hNpresent, hsource, hsized, hsteps⟩ :=
      @writeBufferedFrame_spec definition source target current fromFrame toFrame capacity ring present hvalid
        fun htrue => ⟨hread, fun hframe => by rwa [if_pos hframe, htrue] at hpresent⟩
    have hpos : 0 < current := Nat.lt_of_le_of_lt (Nat.zero_le bound) hlt
    have hwritten :=
      (hring.ensure capacity).write (hframe ▸ hpos) (hframe ▸ Nat.le_of_lt hlt) hNvalid hsource hsized hsteps
    rw [hframe] at hwritten
    obtain ⟨hok, hfilled, hfollows⟩ :=
      fillFrames_spec hvalid hread count (current + 1) _ current hwritten (Nat.lt_succ_self current)
    simp only [heq]
    refine ⟨hok, ?_, fun last shown hlast h => ?_⟩
    · rwa [Nat.add_right_comm] at hfilled
    · exact hfollows last shown (Nat.lt_succ_of_lt hlast) ((h.ensure capacity).write (hframe ▸ hlast) hNvalid hsteps)

end

theorem ensure_ne_nil {ring : FrameRing} {capacity : Nat} (h : 0 < capacity) : ring.ensure capacity ≠ [] := by
  unfold FrameRing.ensure
  split
  · simp only [ne_eq, List.replicate_eq_nil_iff]
    omega
  · rename_i hempty
    simpa using hempty

section

variable {definition : SyncArchetype} {source target : Option QuantizedFrameData} {fromFrame toFrame : SyncFrame}
  {capacity : Nat} {sourcePresent : Bool}

theorem fillFrames_view (hcapacity : 0 < capacity) (hvalid : validFrameArchetype definition = true)
    (hread : Readable definition source target fromFrame toFrame) : ∀ (count current : Nat) (ring : FrameRing),
      ∃ N, (fillFrames definition capacity source sourcePresent target fromFrame toFrame (count + 1)
        current ring).1.view
          (current + count) = some N ∧
        N.entityPresent = if current + count = toFrame then target.isSome else sourcePresent
  | count, current, ring => by
    unfold fillFrames
    generalize hpresent : (if current = toFrame then target.isSome else sourcePresent) = present
    obtain ⟨N, heq, hframe, hNvalid, hNpresent, _⟩ :=
      @writeBufferedFrame_spec definition source target current fromFrame toFrame capacity ring present hvalid
        fun htrue => ⟨hread, fun hframe => by rwa [if_pos hframe, htrue] at hpresent⟩
    simp only [heq]
    cases count with
    | zero =>
      refine ⟨N, ?_, by rw [hNpresent, ← hpresent]; rfl⟩
      have hview := FrameRing.view_write_self (@ensure_ne_nil ring capacity hcapacity) hNvalid
      rw [hframe] at hview
      exact hview
    | succ count =>
      have hnext := fillFrames_view hcapacity hvalid hread count (current + 1) ((ring.ensure capacity).write N)
      rwa [Nat.add_right_comm, Nat.add_assoc] at hnext

end

/-! ## Baselines -/

section

variable {s : EntityState}

/-- The history `remember_baseline` writes to. -/
def EntityState.fullHistory (s : EntityState) : List EntityFrameBaseline :=
  if s.history.length ≠ baselineRetentionCount then List.replicate baselineRetentionCount {} else s.history

theorem length_fullHistory : s.fullHistory.length = baselineRetentionCount := by
  unfold EntityState.fullHistory
  split
  · simp
  · rename_i h
    simpa using h

theorem slot_lt_fullHistory (frame : SyncFrame) : frame % baselineRetentionCount < s.fullHistory.length := by
  rw [length_fullHistory]
  exact Nat.mod_lt _ (by decide)

theorem rememberBaseline_eq (s : EntityState) : ∃ pinned, s.rememberBaseline = { s with
      history :=
        s.fullHistory.set (s.frame % baselineRetentionCount) { frame := s.frame, valid := true, baseline := s.baseline }
      pinnedWireBaseline := pinned } ∧
    (pinned = s.pinnedWireBaseline ∨ s.fullHistory[s.frame % baselineRetentionCount]? = some pinned) := by
  have hlt := @slot_lt_fullHistory s s.frame
  have heq : s.rememberBaseline =
      if s.hasReferencedBaseline && ((s.fullHistory[s.frame % baselineRetentionCount]?).getD {}).valid &&
          ((s.fullHistory[s.frame % baselineRetentionCount]?).getD {}).frame == s.referencedBaselineFrame then
        { s with
          history :=
            s.fullHistory.set
              (s.frame % baselineRetentionCount) { frame := s.frame, valid := true, baseline := s.baseline }
          pinnedWireBaseline := (s.fullHistory[s.frame % baselineRetentionCount]?).getD {} }
      else { s with
        history :=
          s.fullHistory.set
            (s.frame % baselineRetentionCount) { frame := s.frame, valid := true, baseline := s.baseline } } := rfl
  rw [heq]
  split
  · exact ⟨_, rfl, .inr (by simp [hlt])⟩
  · exact ⟨_, rfl, .inl rfl⟩

theorem findBaseline_rememberBaseline : s.rememberBaseline.findBaseline s.frame = some s.baseline := by
  obtain ⟨pinned, heq, _⟩ := rememberBaseline_eq s
  rw [heq]
  simp [EntityState.findBaseline, length_fullHistory, List.getElem?_set_self (slot_lt_fullHistory s.frame),
    Option.filter]

def EntityState.Stores (s : EntityState) (b : EntityFrameBaseline) : Prop :=
  b.valid = true ∧ (b ∈ s.history ∨ b = s.pinnedWireBaseline)

theorem stores_of_findBaseline {frame : SyncFrame} {data : QuantizedFrameData} (h : s.findBaseline frame = some data) :
    ∃ b, s.Stores b ∧ b.frame = frame ∧ b.baseline = data := by
  unfold EntityState.findBaseline at h
  dsimp only at h
  split at h
  · rename_i b hfound
    obtain rfl := Option.some.inj h
    split at hfound
    · obtain ⟨hget, hb⟩ := Option.filter_eq_some_iff.mp hfound
      simp only [Bool.and_eq_true, beq_iff_eq] at hb
      exact ⟨b, ⟨hb.1, .inl (List.mem_of_getElem? hget)⟩, hb.2, rfl⟩
    · have hb := List.find?_some hfound
      simp only [Bool.and_eq_true, beq_iff_eq] at hb
      exact ⟨b, ⟨hb.1, .inl (List.mem_reverse.mp (List.mem_of_find?_eq_some hfound))⟩, hb.2, rfl⟩
  · split at h
    · rename_i hpinned
      simp only [Bool.and_eq_true, beq_iff_eq] at hpinned
      exact ⟨s.pinnedWireBaseline, ⟨hpinned.1, .inr rfl⟩, hpinned.2, Option.some.inj h⟩
    · cases h

theorem stores_fullHistory {b : EntityFrameBaseline} (hmem : b ∈ s.fullHistory) (hvalid : b.valid = true) :
    s.Stores b := by
  unfold EntityState.fullHistory at hmem
  split at hmem
  · rw [(List.mem_replicate.mp hmem).2] at hvalid
    cases hvalid
  · exact ⟨hvalid, .inl hmem⟩

theorem stores_rememberBaseline {b : EntityFrameBaseline} (h : s.rememberBaseline.Stores b) :
    s.Stores b ∨ (b.frame = s.frame ∧ b.baseline = s.baseline) := by
  obtain ⟨hvalid, hmem⟩ := h
  obtain ⟨pinned, heq, hpinned⟩ := rememberBaseline_eq s
  rw [heq] at hmem
  rcases hmem with hset | rfl
  · rcases List.mem_or_eq_of_mem_set hset with hb | rfl
    · exact .inl (stores_fullHistory hb hvalid)
    · exact .inr ⟨rfl, rfl⟩
  · rcases hpinned with hsame | hget
    · exact .inl ⟨hvalid, .inr hsame⟩
    · exact .inl (stores_fullHistory (List.mem_of_getElem? hget) hvalid)

end

/-! ## The invariant of an entity -/

structure EntityOk (definition : SyncArchetype) (v : EntityView) : Prop where
  inRange : v.state.frame < 2 ^ 32
  sized : v.state.entityPresent = true → v.state.frame ≠ 0 → Sized definition v.state.baseline
  fresh : v.state.frame = 0 ∨ v.state.entityPresent = false → v.state.baseline.presentMask = 0
  stored : v.state.entityPresent = true → ∀ b, v.state.Stores b → Sized definition b.baseline
  current : v.state.entityPresent = true → ∀ b, v.state.findBaseline v.state.frame = some b →
    ∀ i x, frameComponentData b i = some x → frameComponentData v.state.baseline i = some x
  snap : v.state.mode = .snap → Shows definition v.state.baseline v.shown
  quiet : v.state.mode = .snap → ∀ g, v.ring.view g = none
  ring : RingOk definition v.state.frame v.ring
  last : v.state.mode = .bufferedInterpolation → v.state.lastAppliedBufferedFrame ≤ v.state.frame
  follows : v.state.mode = .bufferedInterpolation →
    Follows definition v.ring v.state.lastAppliedBufferedFrame v.shown

structure EntityState.Alike (s s' : EntityState) : Prop where
  frame : s'.frame = s.frame
  entityPresent : s'.entityPresent = s.entityPresent
  baseline : s'.baseline = s.baseline
  history : s'.history = s.history
  pinned : s'.pinnedWireBaseline = s.pinnedWireBaseline
  mode : s'.mode = s.mode
  last : s'.lastAppliedBufferedFrame = s.lastAppliedBufferedFrame

section

variable {definition : SyncArchetype} {v : EntityView} {s' : EntityState} {ring' : FrameRing}
  {shown' : ComponentId → Option Bytes}

theorem frameComponentData_of_mask_zero {data : QuantizedFrameData} (h : data.presentMask = 0) (i : Nat) :
    frameComponentData data i = none := by
  simp [frameComponentData, frameHasComponent, h]

theorem shows_of_mask_zero {data : QuantizedFrameData} (h : data.presentMask = 0)
    (shown : ComponentId → Option Bytes) :
    Shows definition data shown := by
  intro i c _ x hx
  rw [frameComponentData_of_mask_zero h] at hx
  cases hx

/-- A state that has just been made is as it should be, whatever its archetype. -/
theorem EntityOk.new (hframe : v.state.frame = 0) (hbaseline : v.state.baseline = {}) (hhistory : v.state.history = [])
    (hpinned : v.state.pinnedWireBaseline = {}) (hlast : v.state.lastAppliedBufferedFrame = 0)
    (hring : ∀ g, v.ring.view g = none) : EntityOk definition v := by
  have hstores : ∀ b, ¬ v.state.Stores b := by
    rintro b ⟨hvalid, hmem | rfl⟩
    · rw [hhistory] at hmem
      cases hmem
    · rw [hpinned] at hvalid
      cases hvalid
  constructor
  · rw [hframe]
    decide
  · exact fun _ hne => absurd hframe hne
  · intro _
    rw [hbaseline]
  · exact fun _ b hb => absurd hb (hstores b)
  · intro _ b hb
    obtain ⟨b', hb', _⟩ := stores_of_findBaseline hb
    exact absurd hb' (hstores b')
  · exact fun _ => shows_of_mask_zero (by rw [hbaseline]) v.shown
  · exact fun _ => hring
  · exact RingOk.of_none hring
  · intro _
    rw [hlast]
    exact Nat.zero_le _
  · exact fun _ => ⟨fun P hP => by simp [hring] at hP, fun T hT => by simp [hring] at hT⟩

/-- A state with the same baselines, in a mode its local entity is fit for. -/
theorem EntityOk.moded (h : EntityOk definition v) (hframe : s'.frame = v.state.frame)
    (hpresent : s'.entityPresent = v.state.entityPresent) (hbaseline : s'.baseline = v.state.baseline)
    (hhistory : s'.history = v.state.history) (hpinned : s'.pinnedWireBaseline = v.state.pinnedWireBaseline)
    (hsnap : s'.mode = .snap → Shows definition s'.baseline shown' ∧ ∀ g, ring'.view g = none)
    (hring : RingOk definition s'.frame ring')
    (hfollows : s'.mode = .bufferedInterpolation → s'.lastAppliedBufferedFrame ≤ s'.frame ∧
      Follows definition ring' s'.lastAppliedBufferedFrame shown') :
    EntityOk definition { state := s', ring := ring', shown := shown' } where
  inRange := by rw [hframe]; exact h.inRange
  sized := by rw [hframe, hpresent, hbaseline]; exact h.sized
  fresh := by rw [hframe, hpresent, hbaseline]; exact h.fresh
  stored := by
    intro htrue b hb
    obtain ⟨hvalid, hmem⟩ := hb
    rw [hhistory, hpinned] at hmem
    exact h.stored (hpresent ▸ htrue) b ⟨hvalid, hmem⟩
  current := by
    intro htrue b hb
    have hfind : s'.findBaseline s'.frame = v.state.findBaseline v.state.frame := by
      unfold EntityState.findBaseline
      rw [hhistory, hpinned, hframe]
    rw [hbaseline]
    exact h.current (hpresent ▸ htrue) b (hfind ▸ hb)
  snap hmode := (hsnap hmode).1
  quiet hmode := (hsnap hmode).2
  ring := hring
  last hmode := (hfollows hmode).1
  follows hmode := (hfollows hmode).2

theorem EntityOk.alike (h : EntityOk definition v) (hs : v.state.Alike s') :
    EntityOk definition { v with state := s' } := by
  apply h.moded hs.frame hs.entityPresent hs.baseline hs.history hs.pinned
  · intro hmode
    rw [hs.baseline]
    exact ⟨h.snap (hs.mode ▸ hmode), h.quiet (hs.mode ▸ hmode)⟩
  · rw [hs.frame]
    exact h.ring
  · intro hmode
    rw [hs.last, hs.frame]
    exact ⟨h.last (hs.mode ▸ hmode), h.follows (hs.mode ▸ hmode)⟩

/-- A state of an entity that is not in `Snap` mode, with nothing new shown. -/
theorem EntityOk.unshown {v' : EntityView} (h : EntityOk definition v) (hmode : v.state.mode ≠ .snap)
    (hs : v.state.Alike v'.state) (hring : v'.ring = v.ring)
    (hshown : v.state.mode = .bufferedInterpolation → v'.shown = v.shown) : EntityOk definition v' := by
  have hok : EntityOk definition { state := v'.state, ring := v'.ring, shown := v'.shown } := by
    apply h.moded hs.frame hs.entityPresent hs.baseline hs.history hs.pinned
    · intro hsnap
      exact absurd (hs.mode ▸ hsnap) hmode
    · rw [hs.frame, hring]
      exact h.ring
    · intro hbuffered
      have hbuffered : v.state.mode = .bufferedInterpolation := hs.mode ▸ hbuffered
      rw [hs.last, hs.frame, hring, hshown hbuffered]
      exact ⟨h.last hbuffered, h.follows hbuffered⟩
  exact hok

theorem RingOk.follows_zero {bound : SyncFrame} (h : RingOk definition bound ring') :
    Follows definition ring' 0 shown' := by
  constructor
  · intro P hP
    exact absurd (h.frames 0 P hP).1 (Nat.lt_irrefl 0)
  · intro T hT hpresent i c x hc hx hbit
    exact absurd rfl (h.steps 0 T i x hT hpresent (List.getElem?_eq_some_iff.mp hc).1 hx hbit).1

end

/-! ## Records -/

section

variable {definition : SyncArchetype} {s : EntityState} {ring : FrameRing} {shown : ComponentId → Option Bytes}
  {frame : SyncFrame}

theorem EntityOk.remembered (hrange : s.frame < 2 ^ 32) (hne : s.frame ≠ 0)
    (hsized : s.entityPresent = true → Sized definition s.baseline)
    (habsent : s.entityPresent = false → s.baseline.presentMask = 0)
    (hstored : s.entityPresent = true → ∀ b, s.Stores b → Sized definition b.baseline)
    (hsnap : s.mode = .snap → Shows definition s.baseline shown ∧ ∀ g, ring.view g = none)
    (hring : RingOk definition s.frame ring)
    (hfollows : s.mode = .bufferedInterpolation → s.lastAppliedBufferedFrame ≤ s.frame ∧
      Follows definition ring s.lastAppliedBufferedFrame shown) :
    EntityOk definition { state := s.rememberBaseline, ring, shown } := by
  have hfind := @findBaseline_rememberBaseline s
  have hmem := @stores_rememberBaseline s
  obtain ⟨pinned, heq, _⟩ := rememberBaseline_eq s
  have hframe : s.rememberBaseline.frame = s.frame := by rw [heq]
  have hpresent : s.rememberBaseline.entityPresent = s.entityPresent := by rw [heq]
  have hbaseline : s.rememberBaseline.baseline = s.baseline := by rw [heq]
  have hmode : s.rememberBaseline.mode = s.mode := by rw [heq]
  have hlast : s.rememberBaseline.lastAppliedBufferedFrame = s.lastAppliedBufferedFrame := by rw [heq]
  constructor
  · rwa [hframe]
  · intro htrue _
    rw [hbaseline]
    exact hsized (hpresent ▸ htrue)
  · rintro (hzero | hfalse)
    · exact absurd (hframe ▸ hzero) hne
    · rw [hbaseline]
      exact habsent (hpresent ▸ hfalse)
  · intro htrue b hb
    have htrue : s.entityPresent = true := hpresent ▸ htrue
    rcases hmem hb with hold | ⟨_, hnew⟩
    · exact hstored htrue b hold
    · rw [hnew]
      exact hsized htrue
  · intro _ b hb i x hx
    rw [hframe, hfind] at hb
    rw [hbaseline, Option.some.inj hb]
    exact hx
  · intro hsnapMode
    rw [hbaseline]
    exact (hsnap (hmode ▸ hsnapMode)).1
  · exact fun hsnapMode => (hsnap (hmode ▸ hsnapMode)).2
  · rwa [hframe]
  · intro hbuffered
    rw [hlast, hframe]
    exact (hfollows (hmode ▸ hbuffered)).1
  · intro hbuffered
    rw [hlast]
    exact (hfollows (hmode ▸ hbuffered)).2

theorem EntityOk.recorded {v : EntityView} {archetype : SyncArchetypeId} {replacement : Option QuantizedFrameData}
    (hstate : v.state = s.recordAuthoritativePresent frame archetype replacement) (hrange : frame < 2 ^ 32)
    (hne : frame ≠ 0) (hsized : Sized definition (replacement.getD s.baseline))
    (hstored : ∀ b, s.Stores b → Sized definition b.baseline)
    (hsnap : s.mode = .snap → Shows definition (replacement.getD s.baseline) v.shown ∧ ∀ g, v.ring.view g = none)
    (hring : RingOk definition frame v.ring)
    (hfollows : s.mode = .bufferedInterpolation → s.lastAppliedBufferedFrame ≤ frame ∧
      Follows definition v.ring s.lastAppliedBufferedFrame v.shown) : EntityOk definition v := by
  obtain ⟨state, ring, shown⟩ := v
  dsimp only at hstate hsnap hring hfollows
  subst hstate
  cases replacement with
  | none =>
    refine EntityOk.remembered hrange hne (fun _ => hsized) nofun (fun _ b hb => ?_) hsnap hring hfollows
    exact hstored b hb
  | some data =>
    refine EntityOk.remembered hrange hne (fun _ => hsized) nofun (fun _ b hb => ?_) hsnap hring hfollows
    exact hstored b hb

end

/-! ## Samples -/

section

variable {definition : SyncArchetype} {v : EntityView} {T : EntityBufferedFrame} {g : SyncFrame} {s' : EntityState}
  {shown' : ComponentId → Option Bytes}

/-- A sample of the ring is shown whole, whatever part of it is pushed. -/
theorem EntityOk.shows_sample (h : EntityOk definition v) (hmode : v.state.mode = .bufferedInterpolation)
    (hT : v.ring.view g = some T) (hpresent : T.entityPresent = true) {input : RegistryFrameApplyInfo}
    (hdata : input.frameData = { T.baseline with
      presentMask := T.baseline.presentMask &&& sampleApplyMask v.state T })
    (hnext : input.nextPresentMask = T.baseline.presentMask) (hshown : FrameShown definition input v.shown shown') :
    Shows definition T.baseline shown' := by
  apply hshown.shows hdata hnext
  intro i c x hc hx hbit
  obtain ⟨hhas, _⟩ := frameComponentData_eq_some.mp hx
  unfold frameHasComponent at hhas
  obtain ⟨_, hframe⟩ := FrameRing.view_eq_some hT
  unfold sampleApplyMask at hbit
  split at hbit
  · rename_i hstep
    simp only [Bool.and_eq_true, beq_iff_eq] at hstep
    have hlt : v.state.lastAppliedBufferedFrame < 2 ^ 32 := Nat.lt_of_le_of_lt (h.last hmode) h.inRange
    have hpos : 0 < g := (h.ring.frames g T hT).1
    have hlast : v.state.lastAppliedBufferedFrame + 1 = g := by
      have hmod : (v.state.lastAppliedBufferedFrame + 1) % 2 ^ 32 = g := hstep.2.trans hframe
      by_cases htop : v.state.lastAppliedBufferedFrame + 1 = 2 ^ 32
      · rw [htop, Nat.mod_self] at hmod
        exact absurd hmod (Nat.ne_of_lt hpos)
      · rwa [Nat.mod_eq_of_lt (Nat.lt_of_le_of_ne hlt htop)] at hmod
    exact (h.follows hmode).skipped T (hlast ▸ hT) hpresent i c x hc hx hbit
  · rw [hbit] at hhas
    cases hhas

theorem EntityOk.sampled (h : EntityOk definition v) (hT : v.ring.view g = some T) (hmode : v.state.mode ≠ .snap)
    (hs : ({ v.state with lastAppliedBufferedFrame := g } : EntityState).Alike s')
    (hshows : v.state.mode = .bufferedInterpolation → T.entityPresent = true → Shows definition T.baseline shown') :
    EntityOk definition { state := s', ring := v.ring, shown := shown' } := by
  have hok : EntityOk definition
      { state := { v.state with lastAppliedBufferedFrame := g }, ring := v.ring, shown := shown' } := by
    refine ⟨h.inRange, h.sized, h.fresh, h.stored, h.current, fun hsnap => absurd hsnap hmode,
      fun hsnap => absurd hsnap hmode,
      h.ring, fun _ => (h.ring.frames g T hT).2, fun hbuffered => ⟨fun P hP hpresent => ?_,
      fun N hN hpresent i c x hc hx hbit => ?_⟩⟩
    · obtain rfl : T = P := Option.some.inj (hT.symm.trans hP)
      exact hshows hbuffered hpresent
    · -- what the next sample leaves out is in this one
      have hi : i < definition.components.length := (List.getElem?_eq_some_iff.mp hc).1
      obtain ⟨_, hprev⟩ := h.ring.steps g N i x hN hpresent hi hx hbit
      obtain ⟨hTpresent, hTx⟩ := hprev T hT
      exact hshows hbuffered hTpresent i c hc x hTx
  exact hok.alike hs

end

/-! ## Snaps -/

section

variable {definition : SyncArchetype}

theorem length_initFrameData {data : QuantizedFrameData} (h : initFrameData definition = some data) :
    Sized definition data ∧ data.presentMask = 0 := by
  unfold initFrameData at h
  split at h
  · cases h
  · obtain rfl := Option.some.inj h
    exact ⟨by simp [Sized], rfl⟩

variable {frame stored : QuantizedFrameData}

theorem copied_spec (frame : QuantizedFrameData) : ∀ (l : List Nat) (stored : QuantizedFrameData),
    let copied := l.foldl (fun baseline i =>
      match frameComponentData frame i with
      | some bytes => writeFrameComponent baseline i bytes
      | none => baseline) stored
    copied.bytes.length = stored.bytes.length ∧ ∀ i, i < stored.bytes.length →
      copied.bytes[i]? = if i ∈ l then (frameComponentData frame i).or stored.bytes[i]? else stored.bytes[i]?
  | [], stored => ⟨rfl, fun i _ => rfl⟩
  | j :: l, stored => by
    simp only [List.foldl_cons]
    cases hj : frameComponentData frame j with
    | none =>
      obtain ⟨hlen, hget⟩ := copied_spec frame l stored
      refine ⟨hlen, fun i hi => ?_⟩
      rw [hget i hi]
      by_cases hij : i = j
      · subst hij
        simp [hj]
      · simp [hij]
    | some x =>
      obtain ⟨hlen, hget⟩ := copied_spec frame l (writeFrameComponent stored j x)
      have hlength : (writeFrameComponent stored j x).bytes.length = stored.bytes.length := by
        simp [writeFrameComponent]
      refine ⟨hlen.trans hlength, fun i hi => ?_⟩
      rw [hget i (hlength ▸ hi)]
      by_cases hij : i = j
      · subst hij
        simp [hj, writeFrameComponent, hi]
      · simp [hij, writeFrameComponent, Ne.symm hij]

/-- After the copy the stored frame has the components of the authoritative one. -/
theorem copyPresentComponents_spec {authoritative : QuantizedFrameData} {mask : Mask}
    (hbytes : HasBytes definition authoritative) (hstored : Sized definition stored)
    (hkept : ∀ i x, i < definition.components.length → frameComponentData authoritative i = some x →
      mask.getLsbD i = false → stored.bytes[i]? = some x) :
    let copied := copyPresentComponents definition
      { authoritative with presentMask := authoritative.presentMask &&& mask } stored
    Sized definition copied ∧ ∀ i < definition.components.length, frameComponentData
      { copied with tagMask := authoritative.tagMask, presentMask := authoritative.presentMask } i =
        frameComponentData authoritative i := by
  obtain ⟨hlen, hget⟩ := copied_spec { authoritative with presentMask := authoritative.presentMask &&& mask }
    (List.range definition.components.length) stored
  refine ⟨hlen.trans hstored, fun i hi => ?_⟩
  have hread := hget i (hstored ▸ hi)
  rw [if_pos (List.mem_range.mpr hi)] at hread
  cases hhas : frameHasComponent authoritative i with
  | false =>
    unfold frameHasComponent at hhas
    simp [frameComponentData, frameHasComponent, hhas]
  | true =>
    obtain ⟨x, hx⟩ := Option.isSome_iff_exists.mp (hbytes i hi hhas)
    have hraw := (frameComponentData_eq_some.mp hx).2
    rw [hx]
    refine frameComponentData_eq_some.mpr ⟨hhas, hread.trans ?_⟩
    unfold frameHasComponent at hhas
    cases hmask : mask.getLsbD i with
    | true =>
      have hpushed :
          frameComponentData { authoritative with presentMask := authoritative.presentMask &&& mask } i = some x :=
        frameComponentData_eq_some.mpr ⟨by simp [frameHasComponent, hhas, hmask], hraw⟩
      rw [hpushed, Option.some_or]
    | false =>
      have hpushed :
          frameComponentData { authoritative with presentMask := authoritative.presentMask &&& mask } i = none := by
        simp [frameComponentData, frameHasComponent, hmask]
      rw [hpushed, Option.none_or, hkept i x hi hx hmask]

theorem Shows.congr {data data' : QuantizedFrameData} {shown : ComponentId → Option Bytes}
    (h : Shows definition data shown)
    (heq : ∀ i < definition.components.length, frameComponentData data' i = frameComponentData data i) :
    Shows definition data' shown := by
  intro i c hc x hx
  rw [heq i (List.getElem?_eq_some_iff.mp hc).1] at hx
  exact h i c hc x hx

end

section

variable {definition : SyncArchetype} {v : EntityView} {s' : EntityState} {ring' : FrameRing}
  {shown' : ComponentId → Option Bytes} {data : QuantizedFrameData}

/-- `apply_snap_sample` makes room for the components of an entity that has none yet. -/
theorem EntityOk.initialized (h : EntityOk definition v) (hinit : initFrameData definition = some data)
    (hlen : v.state.baseline.bytes.length ≠ definition.components.length) :
    EntityOk definition { v with state := { v.state with baseline := data } } := by
  obtain ⟨hsized, hmask⟩ := length_initFrameData hinit
  have hempty : v.state.frame = 0 ∨ v.state.entityPresent = false := by
    by_contra hnot
    simp only [not_or, Bool.not_eq_false] at hnot
    exact hlen (h.sized hnot.2 hnot.1)
  refine ⟨h.inRange, fun _ _ => hsized, fun _ => hmask, h.stored, fun hpresent b hb i x hx => ?_,
    fun _ => shows_of_mask_zero hmask v.shown, h.quiet, h.ring, h.last, h.follows⟩
  have hold := h.current hpresent b hb i x hx
  rw [frameComponentData_of_mask_zero (h.fresh hempty)] at hold
  cases hold

/-- An entity that shows its whole baseline can be in `Snap` mode. -/
theorem EntityOk.snapped (h : EntityOk definition v) (hframe : s'.frame = v.state.frame)
    (hpresent : s'.entityPresent = v.state.entityPresent) (hhistory : s'.history = v.state.history)
    (hpinned : s'.pinnedWireBaseline = v.state.pinnedWireBaseline) (hmode : s'.mode = .snap)
    (hmask : s'.baseline.presentMask = v.state.baseline.presentMask)
    (hsized : s'.entityPresent = true → s'.frame ≠ 0 → Sized definition s'.baseline)
    (hdata : ∀ i < definition.components.length, frameComponentData s'.baseline i =
    frameComponentData v.state.baseline i)
    (hshows : Shows definition s'.baseline shown') (hring : ∀ g, ring'.view g = none) :
    EntityOk definition { state := s', ring := ring', shown := shown' } := by
  have hfind : ∀ frame, s'.findBaseline frame = v.state.findBaseline frame := fun frame => by
    unfold EntityState.findBaseline
    rw [hhistory, hpinned]
  have hstores : ∀ b, s'.Stores b → v.state.Stores b := fun b hb => by
    obtain ⟨hvalid, hmem⟩ := hb
    rw [hhistory, hpinned] at hmem
    exact ⟨hvalid, hmem⟩
  refine ⟨by rw [hframe]; exact h.inRange, hsized, by rw [hframe, hpresent, hmask]; exact h.fresh,
    fun htrue b hb => ?_,
    fun htrue b hb i x hx => ?_, fun _ => hshows, fun _ => hring, .of_none hring, fun hbuffered => ?_,
    fun hbuffered => ?_⟩
  · exact h.stored (hpresent ▸ htrue) b (hstores b hb)
  · have htrue : v.state.entityPresent = true := hpresent ▸ htrue
    rw [hfind, hframe] at hb
    obtain ⟨b', hb', _, rfl⟩ := stores_of_findBaseline hb
    have hi : i < definition.components.length := by
      rw [← h.stored htrue b' hb']
      exact (List.getElem?_eq_some_iff.mp (frameComponentData_eq_some.mp hx).2).1
    rw [hdata i hi]
    exact h.current htrue _ hb i x hx
  · rw [hmode] at hbuffered
    cases hbuffered
  · rw [hmode] at hbuffered
    cases hbuffered

end

end AshiatoSync
