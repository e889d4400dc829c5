import Mathlib.Algebra.Order.Ring.Nat
import Mathlib.Data.List.Basic

/-!
# Ring buffers

A window of `count` cells that starts at `head` and wraps around the end.  A
push writes the cell after the window; on a full ring this is the oldest cell,
and the window moves on by one.
-/

namespace Ring

variable {α : Type*} [Inhabited α]

def at' (cells : List α) (head i : Nat) : α := cells.getD ((head + i) % cells.length) default

def contents (cells : List α) (head count : Nat) : List α := (List.range count).map (at' cells head)

theorem length_contents (cells : List α) (head count : Nat) : (contents cells head count).length = count := by
  simp [contents]

theorem contents_zero (cells : List α) : contents cells 0 cells.length = cells := by
  apply List.ext_getElem (length_contents _ _ _)
  intro i hi hi'
  simp [contents, at', Nat.mod_eq_of_lt hi', hi']

theorem mod_ne_of_lt {n head i j : Nat} (hij : i < j) (hj : j < i + n) : (head + i) % n ≠ (head + j) % n := by
  intro h
  have hdvd : n ∣ head + j - (head + i) := Nat.dvd_of_mod_eq_zero (Nat.sub_mod_eq_zero_of_mod_eq h.symm)
  have hle := Nat.le_of_dvd (by omega) hdvd
  omega

theorem at_set_ne {cells : List α} {head i j : Nat} {x : α} (hij : i < j) (hj : j < i + cells.length) :
    at' (cells.set ((head + j) % cells.length) x) head i = at' cells head i := by
  have hne : (head + i) % cells.length ≠ (head + j) % cells.length := mod_ne_of_lt hij hj
  simp [at', List.getD_eq_getElem?_getD, hne.symm]

theorem at_set_eq {cells : List α} {head j : Nat} {x : α} (hn : 0 < cells.length) :
    at' (cells.set ((head + j) % cells.length) x) head j = x := by
  simp [at', List.getD_eq_getElem?_getD, Nat.mod_lt _ hn]

theorem at_succ (cells : List α) (head i : Nat) :
    at' cells ((head + 1) % cells.length) i = at' cells head (i + 1) := by
  simp [at', Nat.add_assoc, Nat.add_comm 1 i]

theorem contents_push {cells : List α} {head count : Nat} {x : α} (h : count < cells.length) :
    contents (cells.set ((head + count) % cells.length) x) head (count + 1) = contents cells head count ++ [x] := by
  simp only [contents, List.range_succ, List.map_append, List.map_cons, List.map_nil]
  rw [at_set_eq (by omega)]
  congr 1
  apply List.map_congr_left
  intro i hi
  have hi := List.mem_range.mp hi
  exact at_set_ne hi (by omega)

theorem contents_push_full {cells : List α} {head : Nat} {x : α} (h : 0 < cells.length) :
    contents (cells.set ((head + cells.length) % cells.length) x) ((head + 1) % cells.length) cells.length =
      (contents cells head cells.length).tail ++ [x] := by
  obtain ⟨n, hn⟩ : ∃ n, cells.length = n + 1 := ⟨cells.length - 1, by omega⟩
  have hnew : contents (cells.set ((head + cells.length) % cells.length) x) ((head + 1) % cells.length) (n + 1) =
      (List.range n).map (fun i => at' cells head (i + 1)) ++ [x] := by
    simp only [contents, List.range_succ, List.map_append, List.map_cons, List.map_nil]
    have hlen : (cells.set ((head + cells.length) % cells.length) x).length = cells.length := by simp
    have hat := at_succ (cells.set ((head + cells.length) % cells.length) x) head
    rw [hlen] at hat
    congr 1
    · apply List.map_congr_left
      intro i hi
      have hi := List.mem_range.mp hi
      rw [hat i]
      exact at_set_ne (by omega) (by omega)
    · rw [hat n, ← hn, at_set_eq h]
  have hold : (contents cells head (n + 1)).tail = (List.range n).map (fun i => at' cells head (i + 1)) := by
    simp [contents, List.range_succ_eq_map]
  rw [hn] at hnew ⊢
  rw [hnew, hold]

end Ring
