import Mathlib.Algebra.Order.Ring.Nat
import Mathlib.Algebra.Order.BigOperators.Group.List
import Mathlib.Data.List.Sort

/-!
# Integer shares

A total is divided by weights: every share is rounded down, and what is left
over is handed out one by one from the front.  Nothing is lost.
-/

namespace Shares

def bump : Nat → List Nat → List Nat
  | 0, l => l
  | _ + 1, [] => []
  | n + 1, a :: l => (a + 1) :: bump n l

theorem length_bump : ∀ (n : Nat) (l : List Nat), (bump n l).length = l.length
  | 0, _ => rfl
  | _ + 1, [] => rfl
  | n + 1, _ :: l => congrArg (· + 1) (length_bump n l)

theorem sum_bump : ∀ {n : Nat} {l : List Nat}, n ≤ l.length → (bump n l).sum = l.sum + n
  | 0, _, _ => rfl
  | n + 1, a :: l, h => by
    simp only [bump, List.sum_cons, sum_bump (Nat.le_of_succ_le_succ h)]
    omega

theorem mul_sum_div_add_sum_mod (total d : Nat) : ∀ weights : List Nat,
    d * (weights.map fun w => total * w / d).sum + (weights.map fun w => total * w % d).sum = total * weights.sum
  | [] => rfl
  | w :: weights => by
    have ih := mul_sum_div_add_sum_mod total d weights
    have hdiv := Nat.div_add_mod (total * w) d
    simp only [List.map_cons, List.sum_cons, Nat.mul_add]
    omega

theorem sum_mod_le (total : Nat) {d : Nat} (hd : 0 < d) : ∀ weights : List Nat,
    (weights.map fun w => total * w % d).sum ≤ d * weights.length
  | [] => Nat.le_refl _
  | w :: weights => by
    have ih := sum_mod_le total hd weights
    have hlt := Nat.mod_lt (total * w) hd
    simp only [List.map_cons, List.sum_cons, List.length_cons, Nat.mul_succ]
    omega

theorem sum_div_le (total : Nat) {weights : List Nat} (hpos : 0 < weights.sum) :
    (weights.map fun w => total * w / weights.sum).sum ≤ total := by
  have h := mul_sum_div_add_sum_mod total weights.sum weights
  rw [Nat.mul_comm total] at h
  exact Nat.le_of_mul_le_mul_left (Nat.le.intro h) hpos

theorem remainder_le_length (total : Nat) {weights : List Nat} (hpos : 0 < weights.sum) :
    total - (weights.map fun w => total * w / weights.sum).sum ≤ weights.length := by
  have h := mul_sum_div_add_sum_mod total weights.sum weights
  have hmod := sum_mod_le total hpos weights
  apply Nat.le_of_mul_le_mul_left _ hpos
  rw [Nat.mul_sub, Nat.mul_comm _ total]
  omega

theorem sum_shares (total : Nat) {weights : List Nat} (hpos : 0 < weights.sum) :
    (bump (total - (weights.map fun w => total * w / weights.sum).sum)
      (weights.map fun w => total * w / weights.sum)).sum = total := by
  rw [sum_bump (by simpa using remainder_le_length total hpos)]
  exact Nat.add_sub_cancel' (sum_div_le total hpos)

/-! ## Stable descending order -/

section

variable {α : Type*} (key : α → Int)

def Before (first : α → α → Prop) (a b : α) : Prop := key b < key a ∨ (key b = key a ∧ first a b)

theorem pairwise_orderedInsert {first : α → α → Prop} {a : α} : ∀ {l : List α},
    l.Pairwise (Before key first) → (∀ b ∈ l, first a b) →
    (l.orderedInsert (fun x y => key y ≤ key x) a).Pairwise (Before key first)
  | [], _, _ => List.pairwise_singleton _ _
  | b :: l, hl, hfirst => by
    obtain ⟨hb, hl'⟩ := List.pairwise_cons.mp hl
    by_cases hle : key b ≤ key a
    case pos =>
      rw [List.orderedInsert_cons, if_pos hle]
      refine List.pairwise_cons.mpr ⟨fun c hc => ?_, hl⟩
      have hcb : key c ≤ key b := by
        rcases List.mem_cons.mp hc with rfl | hc
        · exact Int.le_refl _
        · rcases hb c hc with hlt | ⟨heq, _⟩
          · exact Int.le_of_lt hlt
          · exact Int.le_of_eq heq
      rcases Int.lt_or_eq_of_le (Int.le_trans hcb hle) with hlt | heq
      · exact .inl hlt
      · exact .inr ⟨heq, hfirst c hc⟩
    case neg =>
      rw [List.orderedInsert_cons, if_neg hle]
      have hrest := pairwise_orderedInsert hl' fun c hc => hfirst c (List.mem_cons_of_mem _ hc)
      refine List.pairwise_cons.mpr ⟨fun c hc => ?_, hrest⟩
      rcases (List.mem_orderedInsert _).mp hc with rfl | hc
      · exact .inl (Int.lt_of_not_ge hle)
      · exact hb c hc

theorem pairwise_insertionSort {first : α → α → Prop} : ∀ {l : List α}, l.Pairwise first →
    (l.insertionSort fun x y => key y ≤ key x).Pairwise (Before key first)
  | [], _ => .nil
  | a :: l, hl => by
    obtain ⟨ha, hl'⟩ := List.pairwise_cons.mp hl
    rw [List.insertionSort_cons]
    exact pairwise_orderedInsert key (pairwise_insertionSort hl') fun b hb => ha b ((List.mem_insertionSort _).mp hb)

end

end Shares
