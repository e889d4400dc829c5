import AshiatoSync.BandwidthShare

/-!
# Sharing conserves the budget

The allowances are the total, a flush charges at most the limit it is called
under, and the second pass only hands out what the first one left.
-/

namespace AshiatoSync

namespace ReplicationBandwidthShare

variable {α σ : Type} {bytes : AvailableBytes α} {participants : List (Participant α σ)}

def ChargesWithin (bytes : AvailableBytes α) (participants : List (Participant α σ)) : Prop :=
  ∀ participant ∈ participants, ∀ flush ∈ participant.flush, ∀ world : World α σ,
  world.1.sendLimitActive = true →
    (flush world).1.chargedBytes ≤ world.1.sendAvailableBytes bytes

def weights (participants : List (Participant α σ)) : List Nat :=
  (order participants).map (weightOf participants)

def charged (calls : List FlushCall) : Nat := (calls.map fun call => call.result.chargedBytes).sum

/-! ## Sums of `std::size_t` -/

theorem sizeAdd_eq {a b : Nat} (h : a + b < 2 ^ 64) : sizeAdd a b = a + b := Nat.mod_eq_of_lt h

theorem foldl_sizeAdd : ∀ {l : List Nat} {a : Nat}, a + l.sum < 2 ^ 64 → l.foldl sizeAdd a = a + l.sum
  | [], _, _ => rfl
  | b :: l, a, h => by
    rw [List.sum_cons] at h
    have hb : sizeAdd a b = a + b := sizeAdd_eq (by omega)
    rw [List.foldl_cons, hb, foldl_sizeAdd (by omega), List.sum_cons, Nat.add_assoc]

/-! ## The order -/

theorem eligible_pairwise (participants : List (Participant α σ)) : (eligible participants).Pairwise (· < ·) :=
  List.pairwise_lt_range.filter _

theorem order_perm (participants : List (Participant α σ)) : (order participants).Perm (eligible participants) :=
  List.perm_insertionSort _ _

/-- Descending priorities, and the smaller index first among equal ones. -/
theorem order_stable (participants : List (Participant α σ)) :
    (order participants).Pairwise (Shares.Before (priorityOf participants) (· < ·)) :=
  Shares.pairwise_insertionSort _ (eligible_pairwise participants)

theorem weightOf_pos {index : Nat} (h : index ∈ eligible participants) : 0 < weightOf participants index := by
  have hcond := (List.mem_filter.mp h).2
  unfold weightOf
  cases hp : participants[index]? with
  | none => simp [hp] at hcond
  | some participant =>
    simp only [hp, Bool.and_eq_true, bne_iff_ne] at hcond
    exact Nat.pos_of_ne_zero hcond.1

theorem weights_pos (h : eligible participants ≠ []) : 0 < (weights participants).sum := by
  obtain ⟨index, hindex⟩ := List.exists_mem_of_ne_nil _ h
  have hmem : weightOf participants index ∈ weights participants :=
    List.mem_map_of_mem ((order_perm participants).mem_iff.mpr hindex)
  exact Nat.lt_of_lt_of_le (weightOf_pos hindex) (List.le_sum_of_mem hmem)

theorem weights_sum (participants : List (Participant α σ)) :
    (weights participants).sum = ((eligible participants).map (weightOf participants)).sum :=
  ((order_perm participants).map _).sum_eq

theorem totalWeight_eq (h : (weights participants).sum < 2 ^ 64) :
    totalWeight participants = (weights participants).sum := by
  unfold totalWeight
  rw [weights_sum] at h ⊢
  rw [foldl_sizeAdd (by rwa [Nat.zero_add]), Nat.zero_add]

/-! ## The allowances -/

theorem allowances_eq {totalBytes : Nat} (hpos : 0 < (weights participants).sum)
    (htotal : 0 < totalBytes) (hfits : totalBytes * (weights participants).sum < 2 ^ 64) :
    allowances participants totalBytes =
      Shares.bump (totalBytes - ((weights participants).map fun w => totalBytes * w / (weights participants).sum).sum)
        ((weights participants).map fun w => totalBytes * w / (weights participants).sum) := by
  have hweights : (weights participants).sum < 2 ^ 64 :=
    Nat.lt_of_le_of_lt (Nat.le_mul_of_pos_left _ htotal) hfits
  have hbytes : totalBytes < 2 ^ 64 := Nat.lt_of_le_of_lt (Nat.le_mul_of_pos_right _ hpos) hfits
  have hfloors : ((order participants).map fun index =>
      sizeMul totalBytes (weightOf participants index) / totalWeight participants) =
      (weights participants).map fun w => totalBytes * w / (weights participants).sum := by
    rw [totalWeight_eq hweights, weights, List.map_map]
    apply List.map_congr_left
    intro index hindex
    have hle : weightOf participants index ≤ (weights participants).sum :=
      List.le_sum_of_mem (List.mem_map_of_mem hindex)
    have hproduct : totalBytes * weightOf participants index < 2 ^ 64 :=
      Nat.lt_of_le_of_lt (Nat.mul_le_mul_left _ hle) hfits
    simp only [Function.comp, sizeMul, Nat.mod_eq_of_lt hproduct]
  have hsum := Shares.sum_div_le totalBytes hpos
  unfold allowances
  simp only [hfloors]
  rw [foldl_sizeAdd (by omega), Nat.zero_add]

theorem allowances_sum {totalBytes : Nat} (hpos : 0 < (weights participants).sum)
    (htotal : 0 < totalBytes) (hfits : totalBytes * (weights participants).sum < 2 ^ 64) :
    (allowances participants totalBytes).sum = totalBytes ∧
    (allowances participants totalBytes).length = (order participants).length := by
  rw [allowances_eq hpos htotal hfits]
  refine ⟨Shares.sum_shares totalBytes hpos, ?_⟩
  rw [Shares.length_bump, List.length_map, weights, List.length_map]

/-! ## The passes -/

theorem flushUnder_charged (h : ChargesWithin bytes participants) (index limit : Nat) (world : World α σ) :
    (flushUnder participants index limit world).1.chargedBytes ≤ limit := by
  unfold flushUnder
  dsimp only
  cases hflush : participants[index]?.bind (·.flush) with
  | none => exact Nat.zero_le _
  | some flush =>
    obtain ⟨participant, hparticipant, hsome⟩ := Option.bind_eq_some_iff.mp hflush
    have hmem := List.mem_of_getElem? hparticipant
    refine Nat.le_trans (h participant hmem flush hsome (world.1.beginSendLimit limit, world.2) rfl) ?_
    exact Nat.min_le_right _ _

theorem firstPass_spec (h : ChargesWithin bytes participants) :
    ∀ (allowances : List (Nat × Nat)) (outcome : Outcome α σ),
    outcome.leftover + (allowances.map Prod.snd).sum < 2 ^ 64 →
    outcome.combined.chargedBytes + (allowances.map Prod.snd).sum < 2 ^ 64 →
    let result := firstPass participants allowances outcome
    ∃ calls, result.firstCalls = outcome.firstCalls ++ calls ∧
      calls.map (fun call => (call.index, call.limit)) = allowances ∧
      result.leftover + charged calls = outcome.leftover + (allowances.map Prod.snd).sum ∧
      result.combined.chargedBytes = outcome.combined.chargedBytes + charged calls ∧
      result.extraCalls = outcome.extraCalls ∧ result.allowances = outcome.allowances := by
  intro allowances
  induction allowances with
  | nil =>
    intro outcome _ _
    exact ⟨[], (List.append_nil _).symm, rfl, rfl, rfl, rfl, rfl⟩
  | cons head rest ih =>
    intro outcome hleftover hcombined
    obtain ⟨index, allowance⟩ := head
    have hcharged := flushUnder_charged h index allowance outcome.world
    simp only [firstPass]
    generalize flushUnder participants index allowance outcome.world = flushed at hcharged ⊢
    obtain ⟨result, world⟩ := flushed
    simp only [List.map_cons, List.sum_cons] at hleftover hcombined hcharged ⊢
    have hunused : (if allowance > result.chargedBytes then allowance - result.chargedBytes else 0) =
        allowance - result.chargedBytes := by
      split <;> omega
    have hleft : sizeAdd outcome.leftover (allowance - result.chargedBytes) =
        outcome.leftover + (allowance - result.chargedBytes) := sizeAdd_eq (by omega)
    have hsum : sizeAdd outcome.combined.chargedBytes result.chargedBytes =
        outcome.combined.chargedBytes + result.chargedBytes := sizeAdd_eq (by omega)
    rw [hunused, hleft]
    obtain ⟨calls, hcalls, hindices, hrest, htotal, hextra, hallowances⟩ := ih
      { outcome with
        world
        combined := combine outcome.combined result
        leftover := outcome.leftover + (allowance - result.chargedBytes)
        firstCalls := outcome.firstCalls ++ [⟨index, allowance, result⟩] }
      (by dsimp only; omega) (by simp only [combine, hsum]; omega)
    refine ⟨⟨index, allowance, result⟩ :: calls, ?_, ?_, ?_, ?_, hextra, hallowances⟩
    · rw [hcalls, List.append_assoc]
      rfl
    · rw [List.map_cons, hindices]
    · simp only [charged, List.map_cons, List.sum_cons] at hrest ⊢
      omega
    · simp only [charged, List.map_cons, List.sum_cons, combine, hsum] at htotal ⊢
      omega

/-- What the second pass adds: calls of participants that stopped, which together charge at most the leftover. -/
theorem secondPass_spec (h : ChargesWithin bytes participants) :
    ∀ (calls : List FlushCall) (leftover : Nat) (outcome : Outcome α σ),
    outcome.combined.chargedBytes + leftover < 2 ^ 64 →
    let result := secondPass participants calls leftover outcome
    ∃ extra, result.extraCalls = outcome.extraCalls ++ extra ∧
      (extra.map (·.index)).Sublist ((calls.filter (·.result.stoppedForBudget)).map (·.index)) ∧
      charged extra ≤ leftover ∧
      result.combined.chargedBytes = outcome.combined.chargedBytes + charged extra ∧
      result.firstCalls = outcome.firstCalls ∧ result.leftover = outcome.leftover ∧
      result.allowances = outcome.allowances := by
  intro calls
  induction calls with
  | nil =>
    intro leftover outcome _
    exact ⟨[], (List.append_nil _).symm, .slnil, Nat.zero_le _, rfl, rfl, rfl, rfl⟩
  | cons call rest ih =>
    intro leftover outcome hcombined
    unfold secondPass
    by_cases hzero : leftover = 0
    case pos =>
      rw [if_pos hzero]
      exact ⟨[], (List.append_nil _).symm, List.nil_sublist _, Nat.zero_le _, rfl, rfl, rfl, rfl⟩
    case neg =>
      rw [if_neg hzero]
      cases hstopped : call.result.stoppedForBudget with
      | false =>
        obtain ⟨extra, hcalls, hsub, hrest⟩ := ih leftover outcome hcombined
        refine ⟨extra, hcalls, ?_, hrest⟩
        rw [List.filter_cons_of_neg (by simp [hstopped])]
        exact hsub
      | true =>
        have hcharged := flushUnder_charged h call.index leftover outcome.world
        simp only [Bool.not_true, Bool.false_eq_true, if_false]
        generalize flushUnder participants call.index leftover outcome.world = flushed at hcharged ⊢
        obtain ⟨extra, world⟩ := flushed
        dsimp only at hcharged ⊢
        have hsum : sizeAdd outcome.combined.chargedBytes extra.chargedBytes =
            outcome.combined.chargedBytes + extra.chargedBytes := sizeAdd_eq (by omega)
        have hleft : (if extra.chargedBytes ≥ leftover then 0 else leftover - extra.chargedBytes) =
            leftover - extra.chargedBytes := by
          split <;> omega
        rw [hleft]
        obtain ⟨more, hcalls, hsub, hwithin, htotal, hfirst, hleftover, hallowances⟩ := ih
          (leftover - extra.chargedBytes)
          { outcome with
            world
            combined := combine outcome.combined extra
            extraCalls := outcome.extraCalls ++ [⟨call.index, leftover, extra⟩] }
          (by simp only [combine, hsum]; omega)
        refine ⟨⟨call.index, leftover, extra⟩ :: more, ?_, ?_, ?_, ?_, hfirst, hleftover, hallowances⟩
        · rw [hcalls, List.append_assoc]
          rfl
        · rw [List.filter_cons, if_pos hstopped]
          exact hsub.cons_cons _
        · simp only [charged, List.map_cons, List.sum_cons] at hwithin ⊢
          omega
        · simp only [charged, List.map_cons, List.sum_cons, combine, hsum] at htotal ⊢
          omega

/-- With a total and someone to share it, the allowances are the total, everyone is called once by descending priority
and those that stopped for the budget at most once more, and no byte is charged twice. -/
theorem run_conserves (bytes : AvailableBytes α) (participants : List (Participant α σ)) (totalBytes : Nat)
    (world : World α σ) (hcharges : ChargesWithin bytes participants)
    (hfits : totalBytes * ((eligible participants).map (weightOf participants)).sum < 2 ^ 64)
    (htotal : 0 < totalBytes) (hsome : eligible participants ≠ []) :
    let outcome := run participants totalBytes world
    (outcome.allowances.map Prod.snd).sum = totalBytes ∧
    outcome.firstCalls.map (fun call => (call.index, call.limit)) = outcome.allowances ∧
    (outcome.firstCalls.map (·.index)).Perm (eligible participants) ∧
    (outcome.firstCalls.map (·.index)).Pairwise (Shares.Before (priorityOf participants) (· < ·)) ∧
    (outcome.extraCalls.map (·.index)).Sublist
      ((outcome.firstCalls.filter (·.result.stoppedForBudget)).map (·.index)) ∧
    outcome.leftover = totalBytes - charged outcome.firstCalls ∧ charged outcome.firstCalls ≤ totalBytes ∧
    outcome.combined.chargedBytes = charged outcome.firstCalls + charged outcome.extraCalls ∧
    outcome.combined.chargedBytes ≤ totalBytes := by
  intro outcome
  rw [← weights_sum] at hfits
  have hpos := weights_pos hsome
  have hweights : (weights participants).sum < 2 ^ 64 :=
    Nat.lt_of_le_of_lt (Nat.le_mul_of_pos_left _ htotal) hfits
  have hbytes : totalBytes < 2 ^ 64 := Nat.lt_of_le_of_lt (Nat.le_mul_of_pos_right _ hpos) hfits
  have hnonempty : participants.isEmpty = false := by
    cases participants with
    | nil => exact absurd rfl hsome
    | cons head rest => rfl
  obtain ⟨hsum, hlength⟩ := allowances_sum hpos htotal hfits
  set shared := (order participants).zip (allowances participants totalBytes) with hshared
  have hindices : shared.map Prod.fst = order participants := List.map_fst_zip (Nat.le_of_eq hlength.symm)
  have hshares : (shared.map Prod.snd).sum = totalBytes := by
    rw [hshared, List.map_snd_zip (Nat.le_of_eq hlength), hsum]
  have hrun :
      outcome = secondPass participants (firstPass participants shared { world, allowances := shared }).firstCalls
      (firstPass participants shared { world, allowances := shared }).leftover
      (firstPass participants shared { world, allowances := shared }) := by
    simp only [outcome, run, hnonempty, Bool.false_or, beq_iff_eq, Nat.ne_of_gt htotal, if_false,
      totalWeight_eq hweights, Nat.ne_of_gt hpos]
    rfl
  obtain ⟨calls, hfirst, hlimits, hleftover, hcombined, hextra, hallowances⟩ := firstPass_spec hcharges shared
    { world, allowances := shared } (by dsimp only; omega) (by dsimp only; omega)
  simp only [List.nil_append, Nat.zero_add] at hfirst hleftover hcombined hextra hallowances
  obtain ⟨extra, hextras, hsub, hwithin, hall, hcalls, hleft, hkept⟩ := secondPass_spec hcharges
    (firstPass participants shared { world, allowances := shared }).firstCalls
    (firstPass participants shared { world, allowances := shared }).leftover
    (firstPass participants shared { world, allowances := shared }) (by rw [hcombined]; omega)
  rw [← hrun] at hextras hall hcalls hleft hkept
  rw [hextra, List.nil_append] at hextras
  rw [hfirst] at hcalls hsub
  rw [hallowances] at hkept
  have hnames : outcome.firstCalls.map (·.index) = order participants := by
    rw [hcalls, ← hindices, ← hlimits, List.map_map]
    rfl
  rw [hcombined] at hall
  refine ⟨?_, ?_, ?_, ?_, ?_, ?_, ?_, ?_, ?_⟩
  · rw [hkept, hshares]
  · rw [hcalls, hkept, hlimits]
  · rw [hnames]
    exact order_perm participants
  · rw [hnames]
    exact order_stable participants
  · rw [hextras, hcalls]
    exact hsub
  · rw [hleft, hcalls]
    omega
  · rw [hcalls]
    omega
  · rw [hall, hcalls, hextras]
  · rw [hall]
    omega

theorem run_nothing {totalBytes : Nat} (h : totalBytes = 0 ∨ eligible participants = []) (world : World α σ) :
    run participants totalBytes world = { world } := by
  unfold run
  rcases h with rfl | hnone
  case inl => simp
  case inr =>
    have hweight : totalWeight participants = 0 := by rw [totalWeight, hnone]; rfl
    rw [if_pos hweight, ite_self]

end ReplicationBandwidthShare

open ReplicationBandwidthShare

/-- Whatever the callbacks charge within the budget, sharing neither loses nor overspends a byte. -/
theorem share_conserves_budget {α σ : Type} (bytes : AvailableBytes α) (participants : List (Participant α σ))
    (totalBytes : Nat) (world : World α σ) (hcharges : ChargesWithin bytes participants)
    (hfits : totalBytes * ((eligible participants).map (weightOf participants)).sum < 2 ^ 64) :
    let outcome := ReplicationBandwidthShare.run participants totalBytes world
    (totalBytes = 0 ∨ eligible participants = [] → outcome = { world }) ∧
    (0 < totalBytes → eligible participants ≠ [] →
      (outcome.allowances.map Prod.snd).sum = totalBytes ∧
      outcome.firstCalls.map (fun call => (call.index, call.limit)) = outcome.allowances ∧
      (outcome.firstCalls.map (·.index)).Perm (eligible participants) ∧
      (outcome.firstCalls.map (·.index)).Pairwise (Shares.Before (priorityOf participants) (· < ·)) ∧
      (outcome.extraCalls.map (·.index)).Sublist
        ((outcome.firstCalls.filter (·.result.stoppedForBudget)).map (·.index)) ∧
      outcome.leftover = totalBytes - charged outcome.firstCalls ∧ charged outcome.firstCalls ≤ totalBytes ∧
      outcome.combined.chargedBytes = charged outcome.firstCalls + charged outcome.extraCalls ∧
      outcome.combined.chargedBytes ≤ totalBytes) :=
  ⟨fun h => run_nothing h world,
  fun htotal hsome => run_conserves bytes participants totalBytes world hcharges hfits htotal hsome⟩

namespace ShareSample

def bytes : AvailableBytes Nat where
  toSize := id
  spent count available := available - count

def participant (weight : Nat) (priority : Int) (wanted : Nat) : Participant Nat Unit where
  weight
  priority
  flush := some fun world =>
    let charge := min wanted (world.1.sendAvailableBytes bytes)
    ({ chargedBytes := charge, hadPendingData := true, stoppedForBudget := decide (charge < wanted) },
      (world.1.spend bytes charge, world.2))

/-- The second participant has the higher priority and leaves most of its share. -/
def participants : List (Participant Nat Unit) := [participant 1 0 60, participant 1 5 10]

theorem participants_within : ChargesWithin bytes participants := by
  intro p hp flush hflush world _
  simp only [participants, List.mem_cons, List.not_mem_nil, or_false] at hp
  rcases hp with rfl | rfl
  all_goals
    cases hflush
    exact Nat.min_le_right _ _

end ShareSample

theorem share_conserves_budget_two :
    let outcome := ReplicationBandwidthShare.run ShareSample.participants 101
      (({ availableBytes := 101 } : ReplicationBandwidthBudget Nat), ())
    outcome.firstCalls.map (·.index) = [1, 0] ∧ outcome.allowances = [(1, 51), (0, 50)] ∧
    outcome.extraCalls.map (·.index) = [0] ∧ outcome.combined.chargedBytes = 101 ∧
    outcome.combined.chargedBytes ≤ 101 := by
  intro outcome
  have h := share_conserves_budget ShareSample.bytes ShareSample.participants 101
    (({ availableBytes := 101 } : ReplicationBandwidthBudget Nat), ()) ShareSample.participants_within (by decide)
  exact ⟨by decide, by decide, by decide, by decide, (h.2 (by decide) (by decide)).2.2.2.2.2.2.2.2⟩

/-- Without bytes to share, a participant with a callback is not called. -/
theorem share_not_called :
    ¬∀ (α σ : Type) (bytes : AvailableBytes α) (participants : List (Participant α σ)) (totalBytes : Nat)
      (world : World α σ), ChargesWithin bytes participants →
      totalBytes * ((eligible participants).map (weightOf participants)).sum < 2 ^ 64 →
      ((ReplicationBandwidthShare.run participants totalBytes world).firstCalls.map (·.index)).Perm
        (eligible participants) := by
  intro h
  have hperm := h Nat Unit ShareSample.bytes ShareSample.participants 0 ({ availableBytes := 0 }, ())
    ShareSample.participants_within (by decide)
  exact absurd hperm (by decide)

end AshiatoSync
