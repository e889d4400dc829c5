import AshiatoSync.ReplayFrames
import AshiatoSync.CodecSound

/-!
# The cues of a replay frame

The entries behind the records of a frame are read back as they were written, and
end with them.
-/

namespace AshiatoSync

open BitCodec

theorem reads_bufferBits (payload : Bits) : Reads (readBufferBits payload.length) payload payload := by
  intro rest
  simp [readBufferBits]

structure PendingReplayCueEntry.Fits (cue : PendingReplayCueEntry) : Prop where
  owner : cue.ownerReplayId < 2 ^ 32
  frame : cue.frame < 2 ^ 32
  type : cue.type < 2 ^ 16
  payload : cue.payload.length ≤ maxCuePayloadBits

structure QueuedSyncCue.InRange (cue : QueuedSyncCue) : Prop where
  frame : cue.frame < 2 ^ 32
  type : cue.type < 2 ^ 16

section

variable {core : ServerCore} {cue : PendingReplayCueEntry} {syncFrame : SyncFrame}

theorem pendingReplayCueEntry_fits {queued : QueuedSyncCue} (h : pendingReplayCueEntry core queued = some cue)
    (hrange : queued.InRange) :
    cue.Fits := by
  have howner : (core.entityToReplicatedIndex queued.entity).elim 0 replayIdForSlot < 2 ^ 32 := by
    cases core.entityToReplicatedIndex queued.entity with
    | none => decide
    | some slot => exact Nat.mod_lt _ (by decide)
  have hentry : ∀ payload : Bits, (if payload.length > maxCuePayloadBits then none else some {
      ownerReplayId := (core.entityToReplicatedIndex queued.entity).elim 0 replayIdForSlot
      frame := queued.frame, type := queued.type, relevanceSeconds := queued.relevanceSeconds
      onlyReplicateToOwner := queued.onlyReplicateToOwner, payload }) = some cue → cue.Fits := fun payload h => by
    split at h
    · cases h
    · rename_i hpayload
      obtain rfl := Option.some.inj h
      exact ⟨howner, hrange.frame, hrange.type, Nat.not_lt.mp hpayload⟩
  unfold pendingReplayCueEntry at h
  split at h
  · exact hentry _ h
  · cases h

theorem appendCueEntries_fits {cues : List QueuedSyncCue} {out : List PendingReplayCueEntry}
    (hout : ∀ cue ∈ out, cue.Fits) (hcues : ∀ cue ∈ cues, cue.InRange) :
    ∀ cue ∈ appendCueEntries core cues out, cue.Fits := fun cue hcue => by
  rcases List.mem_append.mp hcue with hold | hnew
  · exact hout cue hold
  · obtain ⟨queued, hqueued, hentry⟩ := List.mem_filterMap.mp hnew
    exact pendingReplayCueEntry_fits hentry (hcues queued (List.mem_of_mem_take hqueued))

theorem reads_cueEntry (h : cue.Fits) : Reads (readCueEntry syncFrame) (cue.bits syncFrame) cue := by
  have hpayload : cue.payload.length < 2 ^ 16 := lt_of_le_of_lt h.payload (by decide)
  have hbits : cue.bits syncFrame = unsignedBits cue.ownerReplayId 32 ++
      (writeCueFrame syncFrame cue.frame ++ (unsignedBits cue.type 16 ++
      (unsignedBits cue.relevanceSeconds.toNat 32 ++
        ([cue.onlyReplicateToOwner] ++ (unsignedBits cue.payload.length 16 ++ cue.payload))))) := by
    simp only [PendingReplayCueEntry.bits, List.append_assoc]
  rw [hbits]
  refine (reads_bits h.owner).bind
    ((reads_frameBack h.frame).bind ((reads_bits h.type).bind ((reads_bits cue.relevanceSeconds.isLt).bind
    ((reads_bit _).bind ((reads_bits hpayload).bind ((reads_bufferBits cue.payload).bind_nil ?_))))))
  rw [BitVec.ofNat_toNat, BitVec.setWidth_eq]
  exact .pure _

theorem applyCueEntries_written (settings : SyncSettings) (entities : List (Nat × Entity)) (syncFrame : SyncFrame) :
    ∀ (cues : List PendingReplayCueEntry) (fuel : Nat), (∀ cue ∈ cues, cue.Fits) → cues.length < fuel →
    applyCueEntries settings entities syncFrame fuel (cues.flatMap (fun cue => true :: cue.bits syncFrame) ++ [false]) =
      (cues.filterMap (replayedCue settings entities), true)
  | [], fuel + 1, _, _ => rfl
  | cue :: cues, fuel + 1, h, hfuel => by
    rw [List.length_cons] at hfuel
    have hbits : (cue :: cues).flatMap (fun cue => true :: cue.bits syncFrame) ++ [false] =
        true :: (cue.bits syncFrame ++ (cues.flatMap (fun cue => true :: cue.bits syncFrame) ++ [false])) := by
      simp only [List.flatMap_cons, List.cons_append, List.append_assoc]
    rw [hbits, applyCueEntries]
    simp only [readBit]
    rw [reads_cueEntry (h cue List.mem_cons_self)]
    dsimp only
    rw [applyCueEntries_written settings entities syncFrame cues fuel
      (fun c hc => h c (List.mem_cons_of_mem _ hc)) (by omega)]
    cases hcue : replayedCue settings entities cue with
    | none => rw [List.filterMap_cons_none hcue, Option.toList_none, List.nil_append]
    | some replayed => rw [List.filterMap_cons_some hcue, Option.toList_some, List.singleton_append]

theorem applyCues_written (settings : SyncSettings) (entities : List (Nat × Entity)) (syncFrame : SyncFrame)
    {cues : List PendingReplayCueEntry} (h : ∀ cue ∈ cues, cue.Fits) :
    applyCues settings entities syncFrame (writeCueEntries syncFrame cues) =
      (cues.filterMap (replayedCue settings entities), true) := by
  have hall : (cues.filter fun cue => decide (cue.payload.length ≤ maxCuePayloadBits)) = cues :=
    List.filter_eq_self.mpr fun cue hcue => decide_eq_true (h cue hcue).payload
  unfold applyCues writeCueEntries
  rw [hall]
  refine applyCueEntries_written settings entities syncFrame cues _ h ?_
  have hlength : cues.length ≤ (cues.flatMap fun cue => true :: cue.bits syncFrame).length := by
    induction cues with
    | nil => exact Nat.zero_le _
    | cons cue cues ih =>
      have htail := ih (fun c hc => h c (List.mem_cons_of_mem _ hc)) (List.filter_eq_self.mpr fun c hc =>
        decide_eq_true (h c (List.mem_cons_of_mem _ hc)).payload)
      rw [List.flatMap_cons, List.length_append, List.length_cons, List.length_cons]
      omega
  rw [List.length_append, List.length_singleton]
  omega

end

end AshiatoSync
