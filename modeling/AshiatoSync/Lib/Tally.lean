import Mathlib.Algebra.Order.Ring.Nat
import Mathlib.Algebra.BigOperators.Group.List.Basic

/-!
# Counting over a list that changes in one place

Sums of a measure over a list when one element is replaced, removed or added:
the equations are additive, so that no subtraction appears.
-/

namespace Tally

variable {α : Type} (g : α → Nat)

theorem sum_set {l : List α} {i : Nat} {a b : α} (h : l[i]? = some a) :
    ((l.set i b).map g).sum + g a = (l.map g).sum + g b := by
  induction l generalizing i with
  | nil => simp at h
  | cons x l ih =>
    cases i with
    | zero =>
      obtain rfl : x = a := by simpa using h
      simp only [List.set_cons_zero, List.map_cons, List.sum_cons]
      omega
    | succ i =>
      have := ih (by simpa using h)
      simp only [List.set_cons_succ, List.map_cons, List.sum_cons]
      omega

theorem sum_modify {l : List α} {i : Nat} {a : α} {f : α → α} (h : l[i]? = some a) :
    ((l.modify i f).map g).sum + g a = (l.map g).sum + g (f a) := by
  have : l.modify i f = l.set i (f a) := by
    apply List.ext_getElem?
    intro j
    simp only [List.getElem?_modify, List.getElem?_set]
    by_cases hj : i = j
    · subst hj
      obtain ⟨hlt, rfl⟩ := List.getElem?_eq_some_iff.mp h
      simp [hlt]
    · simp [hj]
  rw [this]
  exact sum_set g h

theorem sum_modify_same {l : List α} {i : Nat} {f : α → α} (h : ∀ a, g (f a) = g a) :
    ((l.modify i f).map g).sum = (l.map g).sum := by
  congr 1
  apply List.ext_getElem?
  intro j
  simp only [List.getElem?_map, List.getElem?_modify]
  cases l[j]? with
  | none => rfl
  | some a => by_cases hj : i = j <;> simp [hj, h]

theorem le_sum_of_mem {l : List α} {a : α} (h : a ∈ l) : g a ≤ (l.map g).sum := by
  induction l with
  | nil => simp at h
  | cons x l ih =>
    simp only [List.map_cons, List.sum_cons]
    rcases List.mem_cons.mp h with rfl | h
    · omega
    · have := ih h
      omega

theorem sum_eraseIdx {l : List α} {i : Nat} {a : α} (h : l[i]? = some a) :
    ((l.eraseIdx i).map g).sum + g a = (l.map g).sum := by
  induction l generalizing i with
  | nil => simp at h
  | cons x l ih =>
    cases i with
    | zero =>
      obtain rfl : x = a := by simpa using h
      simp only [List.eraseIdx_cons_zero, List.map_cons, List.sum_cons]
      omega
    | succ i =>
      have := ih (by simpa using h)
      simp only [List.eraseIdx_cons_succ, List.map_cons, List.sum_cons]
      omega

end Tally
