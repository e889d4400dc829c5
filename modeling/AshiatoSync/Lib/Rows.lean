import Mathlib.Algebra.Order.Ring.Nat
import Mathlib.Data.List.Basic

/-!
# Rows of a flat array

An array that holds rows of `stride` cells one after another.  A store into a row
leaves the others, and a copy into an array of a greater stride keeps every row
with zeros behind it.
-/

namespace Rows

variable {α : Type*}

def row (cells : List α) (stride i : Nat) : List α := (cells.drop (i * stride)).take stride

def store (cells : List α) (offset : Nat) (values : List α) : List α :=
  cells.take offset ++ values ++ cells.drop (offset + values.length)

def widen (zero : α) (cells : List α) (n stride stride' : Nat) : List α :=
  (List.range n).foldl (fun wide i => store wide (i * stride') (row cells stride i)) (List.replicate (n * stride') zero)

theorem getElem?_row (cells : List α) (stride i k : Nat) :
    (row cells stride i)[k]? = if k < stride then cells[i * stride + k]? else none := by
  rw [row, List.getElem?_take, List.getElem?_drop]

theorem length_row {cells : List α} {n stride i : Nat} (hlen : cells.length = n * stride) (hi : i < n) :
    (row cells stride i).length = stride := by
  have hfit : (i + 1) * stride ≤ n * stride := Nat.mul_le_mul_right _ hi
  rw [Nat.succ_mul] at hfit
  rw [row, List.length_take, List.length_drop, hlen]
  omega

theorem length_store {cells values : List α} {offset : Nat} (hfit : offset + values.length ≤ cells.length) :
    (store cells offset values).length = cells.length := by
  rw [store, List.length_append, List.length_append, List.length_take, List.length_drop]
  omega

theorem getElem?_store {cells values : List α} {offset : Nat} (hfit : offset + values.length ≤ cells.length)
    (k : Nat) :
    (store cells offset values)[k]? =
      if offset ≤ k ∧ k < offset + values.length then values[k - offset]? else cells[k]? := by
  have htake : (cells.take offset).length = offset := by
    rw [List.length_take]
    omega
  rw [store, List.append_assoc]
  by_cases hlow : k < offset
  · rw [if_neg (by omega), List.getElem?_append_left (by omega), List.getElem?_take, if_pos hlow]
  · rw [List.getElem?_append_right (by omega), htake]
    by_cases hhigh : k < offset + values.length
    · rw [if_pos ⟨by omega, hhigh⟩, List.getElem?_append_left (by omega)]
    · rw [if_neg (by omega), List.getElem?_append_right (by omega), List.getElem?_drop]
      congr 1
      omega

theorem disjoint {i j stride k : Nat} (hne : i ≠ j) (hk : k < stride) :
    ¬(i * stride ≤ j * stride + k ∧ j * stride + k < i * stride + stride) := by
  rcases Nat.lt_or_gt_of_ne hne with hlt | hlt
  · have := Nat.mul_le_mul_right stride (Nat.succ_le_of_lt hlt)
    rw [Nat.succ_mul] at this
    omega
  · have := Nat.mul_le_mul_right stride (Nat.succ_le_of_lt hlt)
    rw [Nat.succ_mul] at this
    omega

section

variable {cells values : List α} {n stride i : Nat}

theorem fits (hlen : cells.length = n * stride) (hi : i < n) (hvalues : values.length ≤ stride) :
    i * stride + values.length ≤ cells.length := by
  have hfit : (i + 1) * stride ≤ n * stride := Nat.mul_le_mul_right _ hi
  rw [Nat.succ_mul] at hfit
  omega

theorem row_store_self (hlen : cells.length = n * stride) (hi : i < n) (hvalues : values.length ≤ stride) :
    row (store cells (i * stride) values) stride i = values ++ (row cells stride i).drop values.length := by
  have hfit := fits hlen hi hvalues
  apply List.ext_getElem?
  intro k
  rw [getElem?_row, getElem?_store hfit]
  by_cases hk : k < values.length
  · rw [if_pos (by omega), if_pos ⟨by omega, by omega⟩, List.getElem?_append_left hk, Nat.add_sub_cancel_left]
  · rw [List.getElem?_append_right (by omega), List.getElem?_drop, getElem?_row, if_neg (show ¬(_ ∧ _) by omega)]
    have hsum : values.length + (k - values.length) = k := by omega
    rw [hsum]

theorem row_store_of_ne (hlen : cells.length = n * stride) (hi : i < n) (hvalues : values.length ≤ stride) {j : Nat}
    (hne : i ≠ j) : row (store cells (i * stride) values) stride j = row cells stride j := by
  have hfit := fits hlen hi hvalues
  apply List.ext_getElem?
  intro k
  rw [getElem?_row, getElem?_row]
  by_cases hk : k < stride
  · rw [if_pos hk, if_pos hk, getElem?_store hfit, if_neg]
    have := disjoint hne hk
    omega
  · rw [if_neg hk, if_neg hk]

end

theorem row_replicate (zero : α) {n stride i : Nat} (hi : i < n) :
    row (List.replicate (n * stride) zero) stride i = List.replicate stride zero := by
  have hfit : (i + 1) * stride ≤ n * stride := Nat.mul_le_mul_right _ hi
  rw [Nat.succ_mul] at hfit
  rw [row, List.drop_replicate, List.take_replicate]
  congr 1
  omega

theorem widen_rows (zero : α) {cells : List α} {n stride stride' : Nat} (hlen : cells.length = n * stride)
    (hle : stride ≤ stride') :
    ∀ m, m ≤ n → ((List.range m).foldl (fun wide i => store wide (i * stride') (row cells stride i))
        (List.replicate (n * stride') zero)).length = n * stride' ∧
      ∀ i, i < n → row ((List.range m).foldl (fun wide i => store wide (i * stride') (row cells stride i))
        (List.replicate (n * stride') zero)) stride' i =
          if i < m then row cells stride i ++ List.replicate (stride' - stride) zero
          else List.replicate stride' zero := by
  intro m
  induction m with
  | zero =>
    intro _
    refine ⟨List.length_replicate, fun i hi => ?_⟩
    rw [if_neg (Nat.not_lt_zero i)]
    exact row_replicate zero hi
  | succ m ih =>
    intro hm
    obtain ⟨hwide, hrows⟩ := ih (by omega)
    have hrow : (row cells stride m).length = stride := length_row hlen (by omega)
    have hvalues : (row cells stride m).length ≤ stride' := hrow.le.trans hle
    rw [List.range_succ, List.foldl_append, List.foldl_cons, List.foldl_nil]
    refine ⟨(length_store (fits hwide (by omega) hvalues)).trans hwide, fun i hi => ?_⟩
    by_cases heq : m = i
    · subst heq
      rw [if_pos (Nat.lt_succ_self m), row_store_self hwide hi hvalues, hrows m hi, if_neg (Nat.lt_irrefl m), hrow,
        List.drop_replicate]
    · rw [row_store_of_ne hwide (by omega) hvalues heq, hrows i hi]
      by_cases him : i < m
      · rw [if_pos him, if_pos (by omega)]
      · rw [if_neg him, if_neg (by omega)]

theorem length_widen (zero : α) {cells : List α} {n stride stride' : Nat} (hlen : cells.length = n * stride)
    (hle : stride ≤ stride') : (widen zero cells n stride stride').length = n * stride' :=
  (widen_rows zero hlen hle n (Nat.le_refl n)).1

theorem row_widen (zero : α) {cells : List α} {n stride stride' i : Nat} (hlen : cells.length = n * stride)
    (hle : stride ≤ stride') (hi : i < n) :
    row (widen zero cells n stride stride') stride' i = row cells stride i ++
      List.replicate (stride' - stride) zero := by
  rw [widen, (widen_rows zero hlen hle n (Nat.le_refl n)).2 i hi, if_pos hi]

end Rows
