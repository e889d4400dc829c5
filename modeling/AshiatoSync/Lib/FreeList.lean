import Mathlib.Algebra.Order.Ring.Nat
import Mathlib.Data.List.Basic

/-!
# Intrusive free lists

A free list threaded through the elements of an array: `next i` is the index the
element `i` points to, and index 0 ends the list.
-/

namespace FreeList

inductive Linked (next : Nat → Option Nat) : Nat → List Nat → Prop where
  | nil : Linked next 0 []
  | cons {i tail : Nat} {l : List Nat} : i ≠ 0 → next i = some tail → Linked next tail l →
    Linked next i (i :: l)

variable {next next' : Nat → Option Nat} {head : Nat} {l : List Nat}

theorem Linked.nil_of_zero (h : Linked next 0 l) : l = [] := by
  cases h with
  | nil => rfl
  | cons h0 _ _ => exact absurd rfl h0

theorem Linked.uncons (h : Linked next head l) (h0 : head ≠ 0) :
    ∃ tail rest, l = head :: rest ∧ next head = some tail ∧ Linked next tail rest := by
  cases h with
  | nil => exact absurd rfl h0
  | cons _ hn hl => exact ⟨_, _, rfl, hn, hl⟩

theorem Linked.congr (h : Linked next head l) (hc : ∀ i ∈ l, next' i = next i) : Linked next' head l := by
  induction h with
  | nil => exact .nil
  | cons h0 hn _ ih =>
    exact .cons h0 ((hc _ (by simp)).trans hn) (ih fun i hi => hc i (by simp [hi]))

theorem Linked.ne_zero (h : Linked next head l) : ∀ i ∈ l, i ≠ 0 := by
  induction h with
  | nil => simp
  | cons h0 _ _ ih =>
    intro i hi
    rcases List.mem_cons.mp hi with rfl | hi
    · exact h0
    · exact ih i hi

theorem Linked.unique (h : Linked next head l) : ∀ {l' : List Nat}, Linked next head l' → l' = l := by
  induction h with
  | nil => exact fun h' => h'.nil_of_zero
  | cons h0 hn _ ih =>
    intro l' h'
    obtain ⟨tail, rest, rfl, hn', hl'⟩ := h'.uncons h0
    rw [hn] at hn'
    obtain rfl := Option.some.inj hn'
    rw [ih hl']

end FreeList
