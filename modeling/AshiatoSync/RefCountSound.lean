import AshiatoSync.Lib.Tally
import AshiatoSync.FramesSound

/-!
# Reference counts

`RefInv core held`: the shared frames carry exactly the references that `held`
counts.  Retain, release and creation move `held` by one; a replicator's
operations are sequences of these, with the other clients' references as a
frame.
-/

namespace AshiatoSync

/-! ## Who holds what -/

def ClientEntityState.holds (state : ClientEntityState) (q : Nat) : Nat :=
  (if state.baseline = some q then 1 else 0) + state.pending.countP fun p => p.quantizedFrame == q

def ServerClientReplicator.holds (client : ServerClientReplicator) (q : Nat) : Nat :=
  (client.states.map fun state => state.holds q).sum

def ReplicationServer.holds (server : ReplicationServer) (q : Nat) : Nat :=
  (server.clients.map fun client => client.holds q).sum

def oneRef (q i : Nat) : Nat := if i = q then 1 else 0

def baselineRefs (baseline : Option Nat) (i : Nat) : Nat := if baseline = some i then 1 else 0

def pendingRefs (pending : List PendingQuantizedFrame) (i : Nat) : Nat :=
  pending.countP fun p => p.quantizedFrame == i

theorem holds_eq (state : ClientEntityState) (q : Nat) :
    state.holds q = baselineRefs state.baseline q + pendingRefs state.pending q := rfl

@[simp] theorem baselineRefs_none (i : Nat) : baselineRefs none i = 0 := rfl

@[simp] theorem baselineRefs_some (q i : Nat) : baselineRefs (some q) i = oneRef q i := by
  by_cases h : i = q
  · simp [baselineRefs, oneRef, h]
  · simp [baselineRefs, oneRef, h, Ne.symm h]

@[simp] theorem pendingRefs_nil (i : Nat) : pendingRefs [] i = 0 := rfl

@[simp] theorem pendingRefs_cons (p : PendingQuantizedFrame) (l : List PendingQuantizedFrame) (i : Nat) :
    pendingRefs (p :: l) i = pendingRefs l i + oneRef p.quantizedFrame i := by
  unfold pendingRefs oneRef
  rw [List.countP_cons]
  by_cases h : p.quantizedFrame = i
  · simp [h]
  · simp [h, Ne.symm h]

@[simp] theorem pendingRefs_append (l l' : List PendingQuantizedFrame) (i : Nat) :
    pendingRefs (l ++ l') i = pendingRefs l i + pendingRefs l' i := by
  simp [pendingRefs]

theorem pendingRefs_filter_not (l : List PendingQuantizedFrame) (f : PendingQuantizedFrame → Bool) (i : Nat) :
    pendingRefs (l.filter fun p => !f p) i + pendingRefs (l.filter f) i = pendingRefs l i := by
  induction l with
  | nil => rfl
  | cons p l ih => cases h : f p <;> simp [h] <;> omega

/-! ## The invariant -/

structure RefInv (core : ServerCore) (held : Nat → Nat) : Prop where
  count : ∀ (q : Nat) (f : QuantizedFrame), core.quantizedFrames[q]? = some f → f.refCount = held q
  alive : ∀ (q : Nat) (f : QuantizedFrame), core.quantizedFrames[q]? = some f → (f.active = true ↔ 0 < f.refCount)
  range : ∀ q, 0 < held q → q < core.quantizedFrames.length
  freeNodup : core.freeQuantizedFrames.Nodup
  free : ∀ q, q ∈ core.freeQuantizedFrames ↔ ∃ f, core.quantizedFrames[q]? = some f ∧ f.active = false

theorem RefInv.congr {core : ServerCore} {held held' : Nat → Nat} (h : RefInv core held)
    (heq : ∀ q, held q = held' q) : RefInv core held' := by
  obtain rfl : held = held' := funext heq
  exact h

theorem RefInv.held_alive {core : ServerCore} {held : Nat → Nat} (h : RefInv core held) {q : Nat}
    (hq : 0 < held q) : ∃ f, core.quantizedFrames[q]? = some f ∧ f.active = true := by
  have hlt := h.range q hq
  refine ⟨core.quantizedFrames[q], List.getElem?_eq_getElem hlt, ?_⟩
  have hc := h.count q _ (List.getElem?_eq_getElem hlt)
  exact (h.alive q _ (List.getElem?_eq_getElem hlt)).mpr (by omega)

theorem RefInv.alive_held {core : ServerCore} {held : Nat → Nat} (h : RefInv core held) {q : Nat} {f : QuantizedFrame}
    (hf : core.quantizedFrames[q]? = some f) (ha : f.active = true) : 0 < held q := by
  have := (h.alive q f hf).mp ha
  have := h.count q f hf
  omega

/-- One index of the frames replaced, and its reference count with it. -/
theorem RefInv.replace {core core' : ServerCore} {held held' : Nat → Nat} {q : Nat} {g : QuantizedFrame}
    (h : RefInv core held)
    (hget : ∀ i, core'.quantizedFrames[i]? = if i = q then some g else core.quantizedFrames[i]?)
    (hheld : ∀ i, i ≠ q → held' i = held i) (hcount : g.refCount = held' q)
    (halive : g.active = true ↔ 0 < g.refCount) (hnodup : core'.freeQuantizedFrames.Nodup)
    (hfree : ∀ i, i ∈ core'.freeQuantizedFrames ↔
      if i = q then g.active = false else i ∈ core.freeQuantizedFrames) :
    RefInv core' held' := by
  refine ⟨?_, ?_, ?_, hnodup, ?_⟩
  · intro i g hg
    rw [hget] at hg
    by_cases hi : i = q
    · obtain rfl := by simpa [hi] using hg
      rw [hi, hcount]
    · rw [if_neg hi] at hg
      rw [hheld i hi, h.count i g hg]
  · intro i g hg
    rw [hget] at hg
    by_cases hi : i = q
    · obtain rfl := by simpa [hi] using hg
      exact halive
    · rw [if_neg hi] at hg
      exact h.alive i g hg
  · intro i hpos
    by_cases hi : i = q
    · have := hget i
      rw [if_pos hi] at this
      exact (List.getElem?_eq_some_iff.mp this).1
    · rw [hheld i hi] at hpos
      have hlt := h.range i hpos
      have := hget i
      rw [if_neg hi, List.getElem?_eq_getElem hlt] at this
      exact (List.getElem?_eq_some_iff.mp this).1
  · intro i
    rw [hfree i, hget i]
    by_cases hi : i = q
    · simp [hi]
    · simp only [hi, if_false]
      exact h.free i

theorem set_get {α : Type} {l : List α} {q : Nat} {a b : α} (h : l[q]? = some a) (i : Nat) :
    (l.set q b)[i]? = if i = q then some b else l[i]? := by
  by_cases hi : i = q
  · subst hi
    simp [(List.getElem?_eq_some_iff.mp h).1]
  · simp [hi, Ne.symm hi]

theorem RefInv.not_free {core : ServerCore} {held : Nat → Nat} (h : RefInv core held) {q : Nat} {f : QuantizedFrame}
    (hf : core.quantizedFrames[q]? = some f) (ha : f.active = true) : q ∉ core.freeQuantizedFrames := by
  rw [h.free q]
  rintro ⟨g, hg, hga⟩
  rw [hf] at hg
  obtain rfl := by simpa using hg
  simp [ha] at hga

theorem RefInv.retain {core : ServerCore} {held : Nat → Nat} (h : RefInv core held) {q : Nat} (hq : 0 < held q) :
    RefInv (core.retainQuantizedFrame q) fun i => held i + oneRef q i := by
  obtain ⟨f, hf, ha⟩ := h.held_alive hq
  apply h.replace (q := q) (g := { f with refCount := f.refCount + 1 })
  · intro i
    simp only [ServerCore.retainQuantizedFrame, List.getElem?_modify]
    by_cases hi : i = q
    · subst hi; simp [hf, ha]
    · simp [hi, Ne.symm hi]
  · intro i hi
    simp [oneRef, hi]
  · simp [oneRef, h.count q f hf]
  · simp [ha]
  · exact h.freeNodup
  · intro i
    by_cases hi : i = q
    · subst hi
      simpa [ha, ServerCore.retainQuantizedFrame] using h.not_free hf ha
    · simp [hi, ServerCore.retainQuantizedFrame]

theorem RefInv.release {core : ServerCore} {held : Nat → Nat} {q : Nat}
    (h : RefInv core fun i => held i + oneRef q i) : RefInv (core.releaseQuantizedFrame q) held := by
  obtain ⟨f, hf, ha⟩ := h.held_alive (q := q) (by simp [oneRef])
  have hc : f.refCount = held q + 1 := by simpa [oneRef] using h.count q f hf
  unfold ServerCore.releaseQuantizedFrame
  simp only [hf, ha, Bool.not_true, Bool.false_eq_true, if_false]
  split
  · apply h.replace (q := q) (set_get hf)
    · intro i hi
      simp [oneRef, hi]
    · simp [hc]
    · simp only [true_iff]
      omega
    · exact h.freeNodup
    · intro i
      by_cases hi : i = q
      · subst hi
        simpa using h.not_free hf ha
      · simp [hi]
  · apply h.replace (q := q) (set_get hf)
    · intro i hi
      simp [oneRef, hi]
    · simp only
      omega
    · simp
    · exact List.nodup_cons.mpr ⟨h.not_free hf ha, h.freeNodup⟩
    · intro i
      by_cases hi : i = q
      · simp [hi]
      · simp [hi]

theorem RefInv.releaseBaseline {core : ServerCore} {held : Nat → Nat} {b : Option Nat}
    (h : RefInv core fun i => held i + baselineRefs b i) : RefInv (core.releaseBaseline b) held := by
  cases b with
  | none => exact h.congr fun q => by simp
  | some q => exact RefInv.release (h.congr fun i => by simp)

theorem RefInv.releases {l : List PendingQuantizedFrame} {core : ServerCore} {held : Nat → Nat}
    (h : RefInv core fun i => held i + pendingRefs l i) :
    RefInv (l.foldl (fun core p => core.releaseQuantizedFrame p.quantizedFrame) core) held := by
  induction l generalizing core with
  | nil => exact h.congr fun q => by simp
  | cons p l ih =>
    apply ih
    apply RefInv.release (q := p.quantizedFrame)
    exact h.congr fun i => by simp; omega

theorem RefInv.releaseEntityState {core : ServerCore} {held : Nat → Nat} {state : ClientEntityState}
    (h : RefInv core fun i => held i + state.holds i) :
    RefInv (ServerClientReplicator.releaseEntityState core state) held := by
  apply RefInv.releases
  apply RefInv.releaseBaseline
  exact h.congr fun i => by rw [holds_eq]; omega

theorem RefInv.create {core core' : ServerCore} {held : Nat → Nat} {r : ReplicatedSlot} {slot q : Nat}
    {frame : SyncFrame} {scratch : QuantizedFrameData × List Nat} (h : RefInv core held)
    (hc : Created core r slot frame scratch core' q) :
    RefInv (core'.retainQuantizedFrame q) fun i => held i + oneRef q i := by
  have hlt : q < core'.quantizedFrames.length := by
    rcases hc.index with ⟨rfl, -, -, hl⟩ | ⟨hfree, hl⟩
    · omega
    · obtain ⟨f, hf, -⟩ := (h.free q).mp (by simp [hfree])
      have := (List.getElem?_eq_some_iff.mp hf).1
      omega
  have hheld : held q = 0 := by
    rcases hc.index with ⟨rfl, -, -, -⟩ | ⟨hfree, -⟩
    · by_contra hne
      exact absurd (h.range _ (Nat.pos_of_ne_zero hne)) (by omega)
    · obtain ⟨f, hf, ha⟩ := (h.free q).mp (by simp [hfree])
      have h1 := h.count q f hf
      have h2 := h.alive q f hf
      simp only [ha, Bool.false_eq_true, false_iff] at h2
      omega
  apply h.replace (q := q) (g := {
    slot, frame, archetype := r.archetype, refCount := 1, active := true, data := scratch.1
    dirtyGenerations := scratch.2 })
  · intro i
    simp only [ServerCore.retainQuantizedFrame, List.getElem?_modify]
    by_cases hi : i = q
    · subst hi; simp [hc.new hlt]
    · simp [hi, Ne.symm hi, hc.other i hi]
  · intro i hi
    simp [oneRef, hi]
  · simp [oneRef, hheld]
  · simp
  · show core'.freeQuantizedFrames.Nodup
    rcases hc.index with ⟨-, -, hnil, -⟩ | ⟨hfree, -⟩
    · simp [hnil]
    · exact (List.nodup_cons.mp (hfree ▸ h.freeNodup)).2
  · intro i
    show i ∈ core'.freeQuantizedFrames ↔ _
    rcases hc.index with ⟨-, hnil, hnil', -⟩ | ⟨hfree, -⟩
    · simp [hnil, hnil']
    · have hnd := List.nodup_cons.mp (hfree ▸ h.freeNodup)
      by_cases hi : i = q
      · simp [hi, hnd.1]
      · simp [hi, hfree]

end AshiatoSync
