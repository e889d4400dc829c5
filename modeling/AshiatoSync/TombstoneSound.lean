import AshiatoSync.ClientState
import AshiatoSync.Lib.Monadic

/-!
# Soundness of the tombstones

Superseded and erased entries stay in the age queue and are skipped later, so the
queue is read through its live part, the entries from `ageBegin` on.  The live part
is strictly increasing and holds an entry of every tombstone: the first entry that
still belongs to one is the oldest, and the only one an eviction takes.
-/

namespace AshiatoSync

namespace DestroyTombstones

/-! ## The age queue -/

def liveAges (t : DestroyTombstones) : List DestroyTombstoneAgeEntry := t.ages.drop t.ageBegin

def ageOf (w : Nat) (s : DestroyTombstone) : DestroyTombstoneAgeEntry := .mk w s.generation s.ageOrder

structure Aged (t : DestroyTombstones) : Prop where
  begin_le : t.ageBegin ≤ t.ages.length
  increasing : t.liveAges.Pairwise fun a b => a.ageOrder < b.ageOrder
  held : ∀ w s, t.tombstones.lookup w = some s → ageOf w s ∈ t.liveAges
  older : ∀ a ∈ t.liveAges, a.ageOrder < t.nextAgeOrder

theorem eq_of_ageOrder {ages : List DestroyTombstoneAgeEntry} (h : ages.Pairwise fun a b => a.ageOrder < b.ageOrder)
    {a b : DestroyTombstoneAgeEntry} (ha : a ∈ ages) (hb : b ∈ ages) (heq : a.ageOrder = b.ageOrder) : a = b := by
  induction h with
  | nil => cases ha
  | cons hlt _ ih =>
    rcases List.mem_cons.mp ha with rfl | ha'
    · rcases List.mem_cons.mp hb with rfl | hb'
      · rfl
      · have := hlt b hb'
        omega
    · rcases List.mem_cons.mp hb with rfl | hb'
      · have := hlt a ha'
        omega
      · exact ih ha' hb'

section

variable {t : DestroyTombstones}

theorem Aged.same (h : t.Aged) {w w' : Nat} {s s' : DestroyTombstone} (hs : t.tombstones.lookup w = some s)
    (hs' : t.tombstones.lookup w' = some s') (heq : s.ageOrder = s'.ageOrder) : w = w' :=
  congrArg DestroyTombstoneAgeEntry.wireNetworkId (eq_of_ageOrder h.increasing (h.held w s hs) (h.held w' s' hs') heq)

theorem Aged.count (h : t.Aged) {w : Nat} {s : DestroyTombstone} (hs : t.tombstones.lookup w = some s) :
    t.liveAges.count (ageOf w s) = 1 := by
  have hnodup : t.liveAges.Nodup := h.increasing.imp fun {a b} hlt heq => by
    rw [heq] at hlt
    exact Nat.lt_irrefl _ hlt
  exact List.count_eq_one_of_mem hnodup (h.held w s hs)

/-! ## Compaction -/

theorem dropConsumedAges_live (t : DestroyTombstones) : t.dropConsumedAges.liveAges = t.liveAges := by
  unfold dropConsumedAges
  split
  · simp only [liveAges, List.drop_zero]
  · rfl

theorem dropConsumedAges_begin (h : t.ageBegin ≤ t.ages.length) :
    t.dropConsumedAges.ageBegin ≤ t.dropConsumedAges.ages.length := by
  unfold dropConsumedAges
  split
  · exact Nat.zero_le _
  · exact h

theorem dropConsumedAges_tombstones (t : DestroyTombstones) : t.dropConsumedAges.tombstones = t.tombstones := by
  unfold dropConsumedAges
  split <;> rfl

theorem dropConsumedAges_next (t : DestroyTombstones) : t.dropConsumedAges.nextAgeOrder = t.nextAgeOrder := by
  unfold dropConsumedAges
  split <;> rfl

theorem mem_rebuilt {tombstones : TombstoneMap} {a : DestroyTombstoneAgeEntry} :
    a ∈ tombstones.entries.map (fun e => DestroyTombstoneAgeEntry.mk e.1 e.2.generation e.2.ageOrder) ↔
      ∃ w s, tombstones.lookup w = some s ∧ a = ageOf w s := by
  rw [List.mem_map]
  constructor
  · rintro ⟨e, he, rfl⟩
    exact ⟨e.1, e.2, AList.mem_lookup_iff.mpr he, rfl⟩
  · rintro ⟨w, s, hs, rfl⟩
    exact ⟨⟨w, s⟩, AList.mem_lookup_iff.mp hs, rfl⟩

/-- The rebuilt queue is strictly increasing, as no two tombstones have one age. -/
theorem Aged.rebuilt (h : t.Aged) :
    ((t.tombstones.entries.map fun e => DestroyTombstoneAgeEntry.mk e.1 e.2.generation e.2.ageOrder).insertionSort
      fun a b => a.ageOrder ≤ b.ageOrder).Pairwise fun a b => a.ageOrder < b.ageOrder := by
  let entries := t.tombstones.entries.map fun e => DestroyTombstoneAgeEntry.mk e.1 e.2.generation e.2.ageOrder
  have hkeys : entries.map DestroyTombstoneAgeEntry.wireNetworkId = t.tombstones.keys := by
    rw [List.map_map]
    rfl
  have hnodup : (entries.insertionSort fun a b => a.ageOrder ≤ b.ageOrder).Nodup := by
    refine (List.perm_insertionSort _ _).nodup_iff.mpr (List.Nodup.of_map DestroyTombstoneAgeEntry.wireNetworkId ?_)
    rw [hkeys]
    exact t.tombstones.keys_nodup
  have : Std.Total fun a b : DestroyTombstoneAgeEntry => a.ageOrder ≤ b.ageOrder := ⟨fun a b => Nat.le_total _ _⟩
  have : IsTrans DestroyTombstoneAgeEntry fun a b => a.ageOrder ≤ b.ageOrder := ⟨fun a b c => Nat.le_trans⟩
  have hsorted := List.pairwise_insertionSort (fun a b : DestroyTombstoneAgeEntry => a.ageOrder ≤ b.ageOrder) entries
  refine (hsorted.and hnodup).imp_of_mem fun {a b} ha hb hab => ?_
  obtain ⟨w, s, hs, rfl⟩ := mem_rebuilt.mp ((List.mem_insertionSort _).mp ha)
  obtain ⟨w', s', hs', rfl⟩ := mem_rebuilt.mp ((List.mem_insertionSort _).mp hb)
  refine Nat.lt_of_le_of_ne hab.1 fun heq => hab.2 ?_
  obtain rfl := h.same hs hs' heq
  rw [hs] at hs'
  rw [Option.some.inj hs']

structure Compacted (t t' : DestroyTombstones) : Prop where
  tombstones : t'.tombstones = t.tombstones
  next : t'.nextAgeOrder = t.nextAgeOrder
  aged : t'.Aged
  bounded : t'.ages.length ≤ maxDestroyTombstones * 2

theorem Aged.compactAges (h : t.Aged) (hcount : t.tombstones.keys.length ≤ maxDestroyTombstones * 2) :
    t.Compacted t.compactAges := by
  unfold DestroyTombstones.compactAges
  by_cases hall : t.ageBegin = t.ages.length
  · rw [if_pos hall]
    have hempty : t.liveAges = [] := List.drop_eq_nil_of_le (by omega)
    refine ⟨rfl, rfl, ⟨Nat.zero_le _, List.Pairwise.nil, fun w s hs => ?_, fun a ha => by cases ha⟩,
      Nat.zero_le _⟩
    have := h.held w s hs
    rw [hempty] at this
    cases this
  · rw [if_neg hall]
    by_cases hshort : t.dropConsumedAges.ages.length ≤ maxDestroyTombstones * 2
    · simp only [if_pos hshort]
      refine ⟨dropConsumedAges_tombstones t, dropConsumedAges_next t,
        ⟨dropConsumedAges_begin h.begin_le, ?_, ?_, ?_⟩, hshort⟩
      · rw [dropConsumedAges_live]
        exact h.increasing
      · rw [dropConsumedAges_live, dropConsumedAges_tombstones]
        exact h.held
      · rw [dropConsumedAges_live, dropConsumedAges_next]
        exact h.older
    · simp only [if_neg hshort, dropConsumedAges_tombstones, dropConsumedAges_next]
      refine ⟨rfl, rfl, ⟨Nat.zero_le _, ?_, ?_, ?_⟩, ?_⟩
      · exact h.rebuilt
      · intro w s hs
        exact (List.mem_insertionSort _).mpr (mem_rebuilt.mpr ⟨w, s, hs, rfl⟩)
      · intro a ha
        obtain ⟨w, s, hs, rfl⟩ := mem_rebuilt.mp ((List.mem_insertionSort _).mp ha)
        exact h.older _ (h.held w s hs)
      · rw [List.length_insertionSort, List.length_map]
        have : t.tombstones.keys.length = t.tombstones.entries.length := List.length_map _
        omega

/-! ## Eviction -/

def Stale (tombstones : TombstoneMap) (a : DestroyTombstoneAgeEntry) : Prop :=
  ∀ s, tombstones.lookup a.wireNetworkId = some s → a ≠ ageOf a.wireNetworkId s

theorem evict_stale {tombstones : TombstoneMap} {a : DestroyTombstoneAgeEntry} {rest : List DestroyTombstoneAgeEntry}
    (hfull : ¬tombstones.keys.length ≤ maxDestroyTombstones) (hstale : Stale tombstones a) :
    evict tombstones (a :: rest) = ((evict tombstones rest).1, (evict tombstones rest).2 + 1) := by
  rw [evict, if_neg hfull]
  cases hfound : tombstones.lookup a.wireNetworkId with
  | none => rfl
  | some found =>
    have hne : ¬(found.generation = a.generation ∧ found.ageOrder = a.ageOrder) := fun heq => by
      apply hstale found hfound
      cases a
      simp only [ageOf, heq.1, heq.2]
    simp only [if_neg hne]

theorem evict_held {tombstones : TombstoneMap} {w : Nat} {s : DestroyTombstone} (rest : List DestroyTombstoneAgeEntry)
    (hfull : ¬tombstones.keys.length ≤ maxDestroyTombstones) (hs : tombstones.lookup w = some s) :
    evict tombstones (ageOf w s :: rest) =
      ((evict (tombstones.erase w) rest).1, (evict (tombstones.erase w) rest).2 + 1) := by
  rw [evict, if_neg hfull]
  simp only [ageOf, hs, and_self, if_true]

theorem evict_room {tombstones : TombstoneMap} {ages : List DestroyTombstoneAgeEntry}
    (hroom : tombstones.keys.length ≤ maxDestroyTombstones) : evict tombstones ages = (tombstones, 0) := by
  cases ages with
  | nil => rfl
  | cons a rest => rw [evict, if_pos hroom]

/-- One over the limit, the eviction passes over stale entries to the first tombstone and takes it. -/
theorem evict_spec {tombstones : TombstoneMap} (hover : tombstones.keys.length = maxDestroyTombstones + 1) :
    ∀ ages : List DestroyTombstoneAgeEntry, (∃ w s, tombstones.lookup w = some s ∧ ageOf w s ∈ ages) →
      ∃ w s front rest, tombstones.lookup w = some s ∧ ages = front ++ ageOf w s :: rest ∧
        (∀ a ∈ front, Stale tombstones a) ∧ evict tombstones ages = (tombstones.erase w, front.length + 1) := by
  intro ages
  have hfull : ¬tombstones.keys.length ≤ maxDestroyTombstones := by omega
  induction ages with
  | nil =>
    rintro ⟨w, s, _, hin⟩
    cases hin
  | cons a ages ih =>
    rintro ⟨w, s, hs, hin⟩
    by_cases hstale : Stale tombstones a
    · have hin' : ageOf w s ∈ ages := by
        rcases List.mem_cons.mp hin with rfl | hin'
        · exact absurd rfl (hstale s hs)
        · exact hin'
      obtain ⟨w', s', front, rest, hs', hsplit, hfront, hevict⟩ := ih ⟨w, s, hs, hin'⟩
      refine ⟨w', s', a :: front, rest, hs', by rw [hsplit, List.cons_append], ?_, ?_⟩
      · intro b hb
        rcases List.mem_cons.mp hb with rfl | hb'
        · exact hstale
        · exact hfront b hb'
      · rw [evict_stale hfull hstale, hevict, List.length_cons]
    · obtain ⟨s', hs', heq⟩ : ∃ s', tombstones.lookup a.wireNetworkId = some s' ∧
          a = ageOf a.wireNetworkId s' := by
        unfold Stale at hstale
        push Not at hstale
        exact hstale
      have hroom : (tombstones.erase a.wireNetworkId).keys.length ≤ maxDestroyTombstones := by
        have hmem : a.wireNetworkId ∈ tombstones.keys := AList.lookup_isSome.mp (by rw [hs']; rfl)
        rw [AList.keys_erase, List.length_erase_of_mem hmem]
        omega
      refine ⟨a.wireNetworkId, s', [], ages, hs', by rw [← heq, List.nil_append], ?_, ?_⟩
      · intro b hb
        cases hb
      · have hstep := evict_held ages hfull hs'
        rw [← heq, evict_room hroom] at hstep
        exact hstep

def LeavesOldest (before after : TombstoneMap) : Prop :=
  after = before ∨ ∃ w s, maxDestroyTombstones < before.keys.length ∧ before.lookup w = some s ∧
    (∀ w' s', before.lookup w' = some s' → w' ≠ w → s.ageOrder < s'.ageOrder) ∧ after = before.erase w

structure Limited (t t' : DestroyTombstones) : Prop where
  leaves : LeavesOldest t.tombstones t'.tombstones
  next : t'.nextAgeOrder = t.nextAgeOrder
  aged : t'.Aged
  bounded : t'.ages.length ≤ maxDestroyTombstones * 2
  limit : t'.tombstones.keys.length ≤ maxDestroyTombstones

theorem Aged.enforceLimit (h : t.Aged) (hbounded : t.ages.length ≤ maxDestroyTombstones * 2)
    (hcount : t.tombstones.keys.length ≤ maxDestroyTombstones + 1) : t.Limited t.enforceLimit := by
  unfold DestroyTombstones.enforceLimit
  by_cases hroom : t.tombstones.keys.length ≤ maxDestroyTombstones
  · rw [if_pos hroom]
    exact ⟨.inl rfl, rfl, h, hbounded, hroom⟩
  · rw [if_neg hroom]
    have hsome : ∃ w s, t.tombstones.lookup w = some s ∧ ageOf w s ∈ t.liveAges := by
      obtain ⟨w, hw⟩ := List.exists_mem_of_length_pos (l := t.tombstones.keys) (by omega)
      obtain ⟨s, hs⟩ := Option.isSome_iff_exists.mp (AList.lookup_isSome.mpr (AList.mem_keys.mpr hw))
      exact ⟨w, s, hs, h.held w s hs⟩
    obtain ⟨w, s, front, rest, hs, hsplit, hfront, hevict⟩ := evict_spec (by omega) t.liveAges hsome
    have hafter : (t.ages.drop (t.ageBegin + (front.length + 1))) = rest := by
      rw [← List.drop_drop]
      change t.liveAges.drop (front.length + 1) = rest
      rw [hsplit]
      simp
    have hincreasing := h.increasing
    rw [hsplit] at hincreasing
    have hlater : ∀ w' s', t.tombstones.lookup w' = some s' → w' ≠ w → ageOf w' s' ∈ rest := by
      intro w' s' hs' hne
      have hin := h.held w' s' hs'
      rw [hsplit, List.mem_append, List.mem_cons] at hin
      rcases hin with hin | hin | hin
      · exact absurd rfl (hfront _ hin s' hs')
      · exact absurd (congrArg DestroyTombstoneAgeEntry.wireNetworkId hin) hne
      · exact hin
    have haged : ({ t with tombstones := t.tombstones.erase w, ageBegin := t.ageBegin + (front.length + 1) } :
        DestroyTombstones).Aged := by
      refine ⟨?_, ?_, ?_, ?_⟩
      · have hlen : t.liveAges.length = t.ages.length - t.ageBegin := List.length_drop
        have hbegin := h.begin_le
        rw [hsplit, List.length_append, List.length_cons] at hlen
        change t.ageBegin + (front.length + 1) ≤ t.ages.length
        omega
      · change (t.ages.drop _).Pairwise _
        rw [hafter]
        exact (List.pairwise_cons.mp (List.pairwise_append.mp hincreasing).2.1).2
      · intro w' s' hs'
        have hne : w' ≠ w := fun heq => by
          rw [heq, AList.lookup_erase] at hs'
          cases hs'
        rw [AList.lookup_erase_ne hne] at hs'
        change _ ∈ t.ages.drop _
        rw [hafter]
        exact hlater w' s' hs' hne
      · intro a ha
        change a ∈ t.ages.drop _ at ha
        rw [hafter] at ha
        refine h.older a ?_
        rw [hsplit]
        exact List.mem_append_right _ (List.mem_cons_of_mem _ ha)
    have hkeys : (t.tombstones.erase w).keys.length ≤ maxDestroyTombstones := by
      have hmem : w ∈ t.tombstones.keys := AList.lookup_isSome.mp (by rw [hs]; rfl)
      rw [AList.keys_erase, List.length_erase_of_mem hmem]
      omega
    have hcompacted := haged.compactAges (by change (t.tombstones.erase w).keys.length ≤ _; omega)
    change evict t.tombstones (t.ages.drop t.ageBegin) = _ at hevict
    rw [hevict]
    refine ⟨?_, hcompacted.next, hcompacted.aged, hcompacted.bounded, ?_⟩
    · rw [hcompacted.tombstones]
      refine .inr ⟨w, s, Nat.lt_of_not_le hroom, hs, fun w' s' hs' hne => ?_, rfl⟩
      exact (List.pairwise_cons.mp (List.pairwise_append.mp hincreasing).2.1).1 _ (hlater w' s' hs' hne)
    · rw [hcompacted.tombstones]
      exact hkeys

/-! ## Recording -/

def pushed (t : DestroyTombstones) (w : Nat) (frame : SyncFrame) (generation : Nat) : DestroyTombstones :=
  { t with
    tombstones := t.tombstones.insert w (DestroyTombstone.mk frame generation t.nextAgeOrder)
    ages := t.ages ++ [DestroyTombstoneAgeEntry.mk w generation t.nextAgeOrder]
    nextAgeOrder := t.nextAgeOrder + 1 }

theorem Aged.pushed (h : t.Aged) (w : Nat) (frame : SyncFrame) (generation : Nat) :
    (t.pushed w frame generation).Aged := by
  have hlive : (t.pushed w frame generation).liveAges =
      t.liveAges ++ [DestroyTombstoneAgeEntry.mk w generation t.nextAgeOrder] :=
        List.drop_append_of_le_length h.begin_le
  refine ⟨?_, ?_, ?_, ?_⟩
  · change t.ageBegin ≤ (t.ages ++ [_]).length
    rw [List.length_append]
    exact Nat.le_add_right_of_le h.begin_le
  · rw [hlive, List.pairwise_append]
    refine ⟨h.increasing, List.pairwise_singleton _ _, fun a ha b hb => ?_⟩
    rw [List.mem_singleton.mp hb]
    exact h.older a ha
  · intro w' s' hs'
    rw [hlive, List.mem_append]
    by_cases heq : w' = w
    · have hs' : (t.tombstones.insert w (DestroyTombstone.mk frame generation t.nextAgeOrder)).lookup w' = some s' :=
        hs'
      rw [heq, AList.lookup_insert] at hs'
      rw [← Option.some.inj hs', heq]
      exact .inr List.mem_cons_self
    · exact .inl (h.held w' s' ((AList.lookup_insert_ne heq).symm.trans hs'))
  · intro a ha
    rw [hlive, List.mem_append] at ha
    change a.ageOrder < t.nextAgeOrder + 1
    rcases ha with ha | ha
    · exact Nat.lt_succ_of_lt (h.older a ha)
    · rw [List.mem_singleton.mp ha]
      exact Nat.lt_succ_self _

theorem length_keys_insert (tombstones : TombstoneMap) (w : Nat) (s : DestroyTombstone) :
    (tombstones.insert w s).keys.length ≤ tombstones.keys.length + 1 := by
  rw [AList.keys_insert, List.length_cons]
  exact Nat.succ_le_succ List.length_erase_le

theorem Aged.store (h : t.Aged) (hlimit : t.tombstones.keys.length ≤ maxDestroyTombstones) (w : Nat)
    (frame : SyncFrame) (generation : Nat) : (t.pushed w frame generation).Limited (t.store w frame generation) := by
  have hcount : (t.pushed w frame generation).tombstones.keys.length ≤ maxDestroyTombstones + 1 :=
    Nat.le_trans (length_keys_insert _ _ _) (Nat.succ_le_succ hlimit)
  have hmax : maxDestroyTombstones + 1 ≤ maxDestroyTombstones * 2 := by decide
  have hcompacted := (h.pushed w frame generation).compactAges (Nat.le_trans hcount hmax)
  have hlimited := hcompacted.aged.enforceLimit hcompacted.bounded (by rw [hcompacted.tombstones]; exact hcount)
  have hleaves := hlimited.leaves
  rw [hcompacted.tombstones] at hleaves
  exact ⟨hleaves, hlimited.next.trans hcompacted.next, hlimited.aged, hlimited.bounded, hlimited.limit⟩

theorem LeavesOldest.sub {before after : TombstoneMap} (h : LeavesOldest before after) {w : Nat} {s : DestroyTombstone}
    (hs : after.lookup w = some s) : before.lookup w = some s := by
  rcases h with rfl | ⟨v, _, _, _, _, rfl⟩
  · exact hs
  · by_cases heq : w = v
    · rw [heq, AList.lookup_erase] at hs
      cases hs
    · rw [AList.lookup_erase_ne heq] at hs
      exact hs

inductive Records (t : DestroyTombstones) (w : Nat) (frame : SyncFrame) : DestroyTombstoneRecordResult → Prop
  | zero : w = 0 → Records t w frame .ignored
  | notNewer {found : DestroyTombstone} : t.tombstones.lookup w = some found → frame ≤ found.frame →
      Records t w frame .ignored
  | newer {found : DestroyTombstone} : w ≠ 0 → t.tombstones.lookup w = some found → found.frame < frame →
      Records t w frame .updated
  | new : w ≠ 0 → t.tombstones.lookup w = none → Records t w frame .inserted

theorem Records.ne_zero {w : Nat} {frame : SyncFrame} {result : DestroyTombstoneRecordResult}
    (h : Records t w frame result) (hresult : result ≠ .ignored) : w ≠ 0 := by
  cases h with
  | zero => exact absurd rfl hresult
  | notNewer => exact absurd rfl hresult
  | newer hw => exact hw
  | new hw => exact hw

theorem record_spec (t : DestroyTombstones) (w : Nat) (frame : SyncFrame) : Records t w frame (t.record w frame).2 ∧
    ((t.record w frame).2 = .ignored ∧ (t.record w frame).1 = t ∨
      (t.record w frame).2 ≠ .ignored ∧ ∃ generation, (t.record w frame).1 = t.store w frame generation) := by
  unfold record
  by_cases hzero : w = 0
  · rw [if_pos hzero]
    exact ⟨.zero hzero, .inl ⟨rfl, rfl⟩⟩
  · rw [if_neg hzero]
    cases hfound : t.tombstones.lookup w with
    | none => exact ⟨.new hzero hfound, .inr ⟨DestroyTombstoneRecordResult.noConfusion, _, rfl⟩⟩
    | some found =>
      by_cases hle : frame ≤ found.frame
      · simp only [if_pos hle]
        exact ⟨.notNewer hfound hle, .inl ⟨trivial, trivial⟩⟩
      · simp only [if_neg hle]
        exact ⟨.newer hzero hfound (Nat.lt_of_not_le hle),
          .inr ⟨DestroyTombstoneRecordResult.noConfusion, _, rfl⟩⟩

end

end DestroyTombstones

/-! ## Runs -/

inductive TombstoneCall where
  | record (wireNetworkId : Nat) (frame : SyncFrame)
  | erase (wireNetworkId : Nat)

/-- The calls so far: how many, the frames given for each id since it last had no tombstone, and the call that last
recorded it. -/
structure TombstoneHistory where
  calls : Nat := 0
  frames : Nat → List SyncFrame := fun _ => []
  recordedAt : Nat → Nat := fun _ => 0

def recordsNothing (w : Nat) (frame : SyncFrame) (found : Option DestroyTombstone) : Bool :=
  w == 0 || found.any fun s => decide (frame ≤ s.frame)

/-- The history after a call that met the tombstone `found`. -/
def TombstoneHistory.record (history : TombstoneHistory) (w : Nat) (frame : SyncFrame)
    (found : Option DestroyTombstone) : TombstoneHistory where
  calls := history.calls + 1
  frames := Function.update history.frames w (if found.isNone then [frame] else frame :: history.frames w)
  recordedAt :=
    if recordsNothing w frame found then history.recordedAt
    else Function.update history.recordedAt w history.calls

structure TombstoneRun where
  store : DestroyTombstones := {}
  history : TombstoneHistory := {}

namespace TombstoneRun

def step (run : TombstoneRun) : TombstoneCall → TombstoneRun
  | .record w frame =>
    { store := (run.store.record w frame).1
      history := run.history.record w frame (run.store.tombstones.lookup w) }
  | .erase w => { store := run.store.erase w, history := { run.history with calls := run.history.calls + 1 } }

def after (calls : List TombstoneCall) : TombstoneRun := calls.foldl step {}

def lookup (run : TombstoneRun) (w : Nat) : Option DestroyTombstone := run.store.tombstones.lookup w

structure Kept (run : TombstoneRun) : Prop where
  limit : run.store.tombstones.keys.length ≤ maxDestroyTombstones
  oneAge : ∀ w s, run.lookup w = some s → run.store.liveAges.count (DestroyTombstones.ageOf w s) = 1
  increasing : run.store.liveAges.Pairwise fun a b => a.ageOrder < b.ageOrder
  bounded : run.store.ages.length ≤ maxDestroyTombstones * 2
  largest : ∀ w s, run.lookup w = some s → s.frame ∈ run.history.frames w ∧
    ∀ f ∈ run.history.frames w, f ≤ s.frame

/-- A call answers by what it met, a recording keeps its own tombstone and drops none but the one recorded longest
ago. -/
structure EvictsOldest (run : TombstoneRun) (w : Nat) (frame : SyncFrame) : Prop where
  records : run.store.Records w frame (run.store.record w frame).2
  ignores : recordsNothing w frame (run.lookup w) = true → (run.step (.record w frame)).store = run.store
  keeps : recordsNothing w frame (run.lookup w) = false →
    ((run.step (.record w frame)).lookup w).map (·.frame) = some frame
  oldest : ∀ v, (run.lookup v).isSome → (run.step (.record w frame)).lookup v = none →
    ∀ u, u ≠ v → u = w ∨ (run.lookup u).isSome → ((run.step (.record w frame)).lookup u).isSome ∧
      (run.step (.record w frame)).history.recordedAt v < (run.step (.record w frame)).history.recordedAt u

structure Ok (run : TombstoneRun) : Prop where
  aged : run.store.Aged
  limit : run.store.tombstones.keys.length ≤ maxDestroyTombstones
  bounded : run.store.ages.length ≤ maxDestroyTombstones * 2
  zero : run.lookup 0 = none
  largest : ∀ w s, run.lookup w = some s → s.frame ∈ run.history.frames w ∧
    ∀ f ∈ run.history.frames w, f ≤ s.frame
  recent : ∀ w s, run.lookup w = some s → run.history.recordedAt w < run.history.calls
  ordered : ∀ w s w' s', run.lookup w = some s → run.lookup w' = some s' → s.ageOrder < s'.ageOrder →
    run.history.recordedAt w < run.history.recordedAt w'

variable {run : TombstoneRun}

theorem Ok.kept (h : run.Ok) : run.Kept :=
  ⟨h.limit, fun _ _ hs => h.aged.count hs, h.aged.increasing, h.bounded, h.largest⟩

theorem Ok.empty : Ok {} := by
  have hnone : ∀ w, lookup {} w = none := fun w => AList.lookup_empty w
  refine ⟨⟨Nat.le_refl _, List.Pairwise.nil, ?_, ?_⟩, Nat.zero_le _, Nat.zero_le _, hnone 0, ?_, ?_, ?_⟩
  · intro w s hs
    cases (hnone w).symm.trans hs
  · intro a ha
    cases ha
  · intro w s hs
    cases (hnone w).symm.trans hs
  · intro w s hs
    cases (hnone w).symm.trans hs
  · intro w s w' s' hs
    cases (hnone w).symm.trans hs

/-! ### A recording -/

theorem lookup_pushed {w v : Nat} {frame : SyncFrame} {generation : Nat} {s : DestroyTombstone}
    (hs : (run.store.pushed w frame generation).tombstones.lookup v = some s) :
    v = w ∧ s = DestroyTombstone.mk frame generation run.store.nextAgeOrder ∨ v ≠ w ∧
    run.lookup v = some s := by
  change (run.store.tombstones.insert w _).lookup v = some s at hs
  by_cases heq : v = w
  · rw [heq, AList.lookup_insert] at hs
    exact .inl ⟨heq, (Option.some.inj hs).symm⟩
  · rw [AList.lookup_insert_ne heq] at hs
    exact .inr ⟨heq, hs⟩

theorem Ok.nextAge (h : run.Ok) {w : Nat} {s : DestroyTombstone} (hs : run.lookup w = some s) :
    s.ageOrder < run.store.nextAgeOrder := h.aged.older _ (h.aged.held w s hs)

theorem recordsNothing_iff {t : DestroyTombstones} {w : Nat} {frame : SyncFrame} {result : DestroyTombstoneRecordResult}
    (h : t.Records w frame result) : recordsNothing w frame (t.tombstones.lookup w) = true ↔ result = .ignored := by
  cases h with
  | zero hw => simp [recordsNothing, hw]
  | notNewer hfound hle => simp [recordsNothing, hfound, hle]
  | newer hw hfound hlt => simp [recordsNothing, hw, hfound, Nat.not_le.mpr hlt]
  | new hw hfound => simp [recordsNothing, hw, hfound]

theorem recordedAt_of_recorded {history : TombstoneHistory} {w : Nat} {frame : SyncFrame}
    {found : Option DestroyTombstone} (hrecorded : ¬recordsNothing w frame found = true) (v : Nat) :
    (history.record w frame found).recordedAt v = if v = w then history.calls else history.recordedAt v := by
  rw [TombstoneHistory.record, if_neg hrecorded]
  exact Function.update_apply _ _ _ _

theorem Ok.largest_recorded (h : run.Ok) {w : Nat} {frame : SyncFrame} {result : DestroyTombstoneRecordResult}
    (hrecords : run.store.Records w frame result) (hresult : result ≠ .ignored) :
    ∀ f ∈ (run.history.record w frame (run.lookup w)).frames w, f ≤ frame := by
  intro f hf
  simp only [TombstoneHistory.record, Function.update_self] at hf
  cases hrecords with
  | zero => exact absurd rfl hresult
  | notNewer => exact absurd rfl hresult
  | newer _ hfound hlt =>
    rw [show run.lookup w = _ from hfound, if_neg (by simp)] at hf
    rcases List.mem_cons.mp hf with rfl | hf
    · exact Nat.le_refl _
    · exact Nat.le_trans ((h.largest w _ hfound).2 f hf) (Nat.le_of_lt hlt)
  | new _ hfound =>
    rw [show run.lookup w = _ from hfound, if_pos Option.isNone_none] at hf
    exact Nat.le_of_eq (List.mem_singleton.mp hf)

theorem Ok.stored (h : run.Ok) {w : Nat} {frame : SyncFrame} (generation : Nat) {result : DestroyTombstoneRecordResult}
    (hrecords : run.store.Records w frame result) (hresult : result ≠ .ignored) :
    Ok { store := run.store.store w frame generation, history := run.history.record w frame (run.lookup w) } := by
  have hrecorded : ¬recordsNothing w frame (run.lookup w) = true := mt (recordsNothing_iff hrecords).mp hresult
  have hlimited := h.aged.store h.limit w frame generation
  have hsub : ∀ v s, (run.store.store w frame generation).tombstones.lookup v = some s →
      v = w ∧ s = DestroyTombstone.mk frame generation run.store.nextAgeOrder ∨ v ≠ w ∧ run.lookup v = some s :=
    fun v s hs => lookup_pushed (hlimited.leaves.sub hs)
  refine ⟨hlimited.aged, hlimited.limit, hlimited.bounded, ?_, ?_, ?_, ?_⟩
  · cases hs : (run.store.store w frame generation).tombstones.lookup 0 with
    | none => exact hs
    | some s =>
      rcases hsub 0 s hs with ⟨heq, -⟩ | ⟨-, hold⟩
      · exact absurd heq.symm (hrecords.ne_zero hresult)
      · rw [h.zero] at hold
        cases hold
  · intro v s hs
    rcases hsub v s hs with ⟨rfl, rfl⟩ | ⟨hne, hold⟩
    · refine ⟨?_, h.largest_recorded hrecords hresult⟩
      simp only [TombstoneHistory.record, Function.update_self]
      split
      · exact List.mem_singleton.mpr rfl
      · exact List.mem_cons_self
    · simp only [TombstoneHistory.record, Function.update_of_ne hne]
      exact h.largest v s hold
  · intro v s hs
    change _ < run.history.calls + 1
    simp only [recordedAt_of_recorded hrecorded]
    rcases hsub v s hs with ⟨heq, -⟩ | ⟨hne, hold⟩
    · rw [if_pos heq]
      exact Nat.lt_succ_self _
    · rw [if_neg hne]
      exact Nat.lt_succ_of_lt (h.recent v s hold)
  · intro v s v' s' hs hs' hlt
    simp only [recordedAt_of_recorded hrecorded]
    rcases hsub v s hs with ⟨heq, rfl⟩ | ⟨hne, hold⟩
    · rcases hsub v' s' hs' with ⟨-, rfl⟩ | ⟨-, hold'⟩
      · exact absurd hlt (Nat.lt_irrefl _)
      · exact absurd hlt (Nat.lt_asymm (h.nextAge hold'))
    · rw [if_neg hne]
      rcases hsub v' s' hs' with ⟨heq', -⟩ | ⟨hne', hold'⟩
      · rw [if_pos heq']
        exact h.recent v s hold
      · rw [if_neg hne']
        exact h.ordered v s v' s' hold hold' hlt

/-- A call that is ignored leaves the tombstones, and adds a frame that is no larger. -/
theorem Ok.ignored (h : run.Ok) {w : Nat} {frame : SyncFrame} (hrecords : run.store.Records w frame .ignored) :
    Ok { store := run.store, history := run.history.record w frame (run.lookup w) } := by
  have hnothing : recordsNothing w frame (run.lookup w) = true := (recordsNothing_iff hrecords).mpr rfl
  have hrecordedAt : (run.history.record w frame (run.lookup w)).recordedAt = run.history.recordedAt := if_pos hnothing
  refine ⟨h.aged, h.limit, h.bounded, h.zero, ?_, fun v s hs => ?_, ?_⟩
  · intro v s hs
    change run.lookup v = some s at hs
    obtain ⟨hmem, hle⟩ := h.largest v s hs
    by_cases heq : v = w
    · subst heq
      simp only [TombstoneHistory.record, Function.update_self, hs, Option.isNone_some, Bool.false_eq_true, if_false]
      refine ⟨List.mem_cons_of_mem _ hmem, fun f hf => ?_⟩
      rcases List.mem_cons.mp hf with rfl | hf
      · cases hrecords with
        | zero hw =>
          rw [hw, h.zero] at hs
          cases hs
        | notNewer hfound hnot =>
          rw [← Option.some.inj (hfound.symm.trans hs)]
          exact hnot
      · exact hle f hf
    · simp only [TombstoneHistory.record, Function.update_of_ne heq]
      exact ⟨hmem, hle⟩
  · rw [hrecordedAt]
    exact Nat.lt_succ_of_lt (h.recent v s hs)
  · rw [hrecordedAt]
    exact h.ordered

/-! ### Steps -/

theorem Ok.erased (h : run.Ok) (w : Nat) : (run.step (.erase w)).Ok := by
  have hsub : ∀ v s, (run.step (.erase w)).lookup v = some s → run.lookup v = some s := by
    intro v s hs
    change (run.store.tombstones.erase w).lookup v = some s at hs
    by_cases heq : v = w
    · rw [heq, AList.lookup_erase] at hs
      cases hs
    · rw [AList.lookup_erase_ne heq] at hs
      exact hs
  refine ⟨⟨h.aged.begin_le, h.aged.increasing, fun v s hs => h.aged.held v s (hsub v s hs), h.aged.older⟩,
    ?_, h.bounded, ?_,
    fun v s hs => h.largest v s (hsub v s hs), fun v s hs => Nat.lt_succ_of_lt (h.recent v s (hsub v s hs)),
    fun v s v' s' hs hs' => h.ordered v s v' s' (hsub v s hs) (hsub v' s' hs')⟩
  · change (run.store.tombstones.erase w).keys.length ≤ _
    rw [AList.keys_erase]
    exact Nat.le_trans List.length_erase_le h.limit
  · cases hs : (run.step (.erase w)).lookup 0 with
    | none => rfl
    | some s => cases h.zero.symm.trans (hsub 0 s hs)

theorem Ok.step (h : run.Ok) (call : TombstoneCall) : (run.step call).Ok := by
  cases call with
  | erase w => exact h.erased w
  | record w frame =>
    obtain ⟨hrecords, ⟨hresult, hsame⟩ | ⟨hresult, generation, hstored⟩⟩ := run.store.record_spec w frame
    · have hstep := h.ignored (hresult ▸ hrecords)
      simp only [TombstoneRun.step, hsame]
      exact hstep
    · have hstep := h.stored generation hrecords hresult
      simp only [TombstoneRun.step, hstored]
      exact hstep

theorem Ok.after (calls : List TombstoneCall) : (after calls).Ok :=
  Monadic.foldl_inv (fun _ run => Ok run) calls {} (fun call _ _ h => h.step call) Ok.empty

theorem Ok.evicts (h : run.Ok) (w : Nat) (frame : SyncFrame) : run.EvictsOldest w frame := by
  obtain ⟨hrecords, ⟨hresult, hsame⟩ | ⟨hresult, generation, hstored⟩⟩ := run.store.record_spec w frame
  · refine ⟨hrecords, fun _ => hsame, fun hnew => ?_, fun v hv hgone => ?_⟩
    · exact absurd ((recordsNothing_iff hrecords).mpr hresult) (ne_true_of_eq_false hnew)
    change (run.store.record w frame).1.tombstones.lookup v = none at hgone
    rw [hsame] at hgone
    change (run.store.tombstones.lookup v).isSome at hv
    rw [hgone] at hv
    cases hv
  · have hlimited := h.aged.store h.limit w frame generation
    have hlookup : ∀ v, (run.step (.record w frame)).lookup v =
        (run.store.store w frame generation).tombstones.lookup v :=
      fun v => congrArg (fun t => t.tombstones.lookup v) hstored
    have hself : (run.store.pushed w frame generation).tombstones.lookup w =
        some (DestroyTombstone.mk frame generation run.store.nextAgeOrder) := AList.lookup_insert _
    have hkeeps : (run.step (.record w frame)).lookup w =
        some (DestroyTombstone.mk frame generation run.store.nextAgeOrder) := by
      rw [hlookup]
      rcases hlimited.leaves with heq | ⟨v, s, hover, hs, hleast, heq⟩
      · rw [heq, hself]
      · rw [heq]
        by_cases hwv : w = v
        · -- the new tombstone is not the oldest, as there are others
          subst hwv
          obtain ⟨u, hu⟩ := List.exists_mem_of_length_pos
            (l := (run.store.pushed w frame generation).tombstones.keys.erase w) (by
              have := List.le_length_erase (a := w) (l := (run.store.pushed w frame generation).tombstones.keys)
              have hmax : 1 ≤ maxDestroyTombstones := by decide
              omega)
          obtain ⟨hne, hu⟩ := ((AList.keys_nodup _).mem_erase_iff).mp hu
          obtain ⟨s', hs'⟩ := Option.isSome_iff_exists.mp (AList.lookup_isSome.mpr (AList.mem_keys.mpr hu))
          have hlt := hleast u s' hs' hne
          rw [← Option.some.inj (hself.symm.trans hs)] at hlt
          rcases lookup_pushed hs' with ⟨heq, -⟩ | ⟨-, hold⟩
          · exact absurd heq hne
          · exact absurd hlt (Nat.lt_asymm (h.nextAge hold))
        · rw [AList.lookup_erase_ne hwv, hself]
    have hrecorded : ¬recordsNothing w frame (run.lookup w) = true := mt (recordsNothing_iff hrecords).mp hresult
    refine ⟨hrecords, fun hnothing => absurd hnothing hrecorded, fun _ => by rw [hkeeps]; rfl,
      fun v hv hgone u hne hu => ?_⟩
    have hvw : v ≠ w := fun heq => by
      rw [heq, hkeeps] at hgone
      cases hgone
    have hu : ((run.store.pushed w frame generation).tombstones.lookup u).isSome := by
      by_cases heq : u = w
      · rw [heq, hself]
        rfl
      · exact (AList.lookup_insert_ne heq).symm ▸ hu.resolve_left heq
    have hpushed : (run.store.pushed w frame generation).tombstones.lookup v = run.lookup v :=
      AList.lookup_insert_ne hvw
    rw [hlookup] at hgone
    rw [hlookup]
    change _ ∧ (run.history.record w frame (run.lookup w)).recordedAt v <
      (run.history.record w frame (run.lookup w)).recordedAt u
    rw [recordedAt_of_recorded hrecorded, recordedAt_of_recorded hrecorded, if_neg hvw]
    rcases hlimited.leaves with heq | ⟨v', s, _, hs, hleast, heq⟩
    · rw [heq, hpushed] at hgone
      rw [hgone] at hv
      cases hv
    · rw [heq] at hgone ⊢
      obtain rfl : v' = v := by
        by_contra hne'
        rw [AList.lookup_erase_ne (Ne.symm hne'), hpushed] at hgone
        rw [hgone] at hv
        cases hv
      rw [AList.lookup_erase_ne hne]
      refine ⟨hu, ?_⟩
      rw [hpushed] at hs
      obtain ⟨s', hs'⟩ := Option.isSome_iff_exists.mp hu
      by_cases huw : u = w
      · rw [if_pos huw]
        exact h.recent v' s hs
      · rw [if_neg huw]
        exact h.ordered v' s u s' hs ((AList.lookup_insert_ne huw).symm.trans hs') (hleast u s' hs' hne)

end TombstoneRun

/-- After any calls the bookkeeping holds, and the next call evicts none but the oldest tombstone. -/
theorem destroy_tombstones_kept (calls : List TombstoneCall) :
    (TombstoneRun.after calls).Kept ∧ ∀ w frame, (TombstoneRun.after calls).EvictsOldest w frame :=
  have h := TombstoneRun.Ok.after calls
  ⟨h.kept, h.evicts⟩

def recordedTwice : TombstoneRun :=
  TombstoneRun.after [.record 5 10, .record 5 12, .record 5 11, .record 6 3, .erase 6]

example : (recordedTwice.lookup 5).map (·.frame) = some 12 ∧ recordedTwice.history.frames 5 = [11, 12, 10] ∧
    recordedTwice.history.recordedAt 5 = 1 ∧ recordedTwice.lookup 6 = none ∧
    recordedTwice.store.liveAges.map (·.ageOrder) = [0, 1, 2] := by
  decide +kernel

end AshiatoSync
