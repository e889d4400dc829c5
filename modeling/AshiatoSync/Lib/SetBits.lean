import Mathlib.Algebra.Order.Ring.Nat
import Mathlib.Data.Nat.BitIndices
import Mathlib.Data.Set.Card

/-!
# The set bits of a number

Clearing the lowest set bit leaves one set bit fewer.
-/

namespace SetBits

theorem length_bitIndices_and_pred (n : Nat) (h : n ≠ 0) :
    (n &&& (n - 1)).bitIndices.length + 1 = n.bitIndices.length := by
  induction n using Nat.strongRecOn with
  | ind n ih =>
    have hhalf : (n &&& (n - 1)) / 2 = n / 2 &&& (n - 1) / 2 := Nat.and_div_two
    have hbit : (n &&& (n - 1)) % 2 = 1 ↔ n % 2 = 1 ∧ (n - 1) % 2 = 1 := Nat.and_mod_two_eq_one
    rcases Nat.mod_two_eq_zero_or_one n with heven | hodd
    · -- the lowest set bit is one of the half
      have hn : n = 2 * (n / 2) := by omega
      have hand : n &&& (n - 1) = 2 * (n / 2 &&& (n / 2 - 1)) := by
        have hpred : (n - 1) / 2 = n / 2 - 1 := by omega
        rw [hpred] at hhalf
        omega
      rw [hand, Nat.bitIndices_two_mul, List.length_map]
      conv_rhs => rw [hn, Nat.bitIndices_two_mul, List.length_map]
      exact ih (n / 2) (by omega) (by omega)
    · have hn : n = 2 * (n / 2) + 1 := by omega
      have hand : n &&& (n - 1) = 2 * (n / 2) := by
        have hpred : (n - 1) / 2 = n / 2 := by omega
        rw [hpred, Nat.and_self] at hhalf
        omega
      rw [hand, Nat.bitIndices_two_mul, List.length_map]
      conv_rhs => rw [hn, Nat.bitIndices_two_mul_add_one, List.length_cons, List.length_map]

theorem length_bitIndices (n : Nat) : n.bitIndices.length = Set.ncard {k | n.testBit k = true} := by
  have hset : {k | n.testBit k = true} = ↑n.bitIndices.toFinset := by
    ext k
    simp
  rw [hset, Set.ncard_coe_finset, List.toFinset_card_of_nodup Nat.bitIndices_nodup]

end SetBits
