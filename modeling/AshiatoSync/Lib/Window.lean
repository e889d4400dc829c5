import Mathlib.Algebra.Order.Ring.Nat
import Mathlib.Data.List.Basic
import Mathlib.Data.Set.Card
import Mathlib.Order.Interval.Finset.Nat

/-!
# Windows over numbered arrivals

The last `size` numbers up to the newest arrival, but none before the first one.  A
number is received when it arrives while the window holds it, and lost when the
window has left it behind without that.
-/

namespace Window

variable {size : Nat} {arrivals : List Nat}

def first (arrivals : List Nat) : Nat := arrivals.headD 0

def newest (arrivals : List Nat) : Nat := arrivals.foldl max 0

def start (size : Nat) (arrivals : List Nat) : Nat := max (first arrivals) (newest arrivals + 1 - size)

def Received (size : Nat) (arrivals : List Nat) (n : Nat) : Prop :=
  ∃ earlier later, arrivals = earlier ++ n :: later ∧ start size (earlier ++ [n]) ≤ n

def lost (size : Nat) (arrivals : List Nat) : Set Nat :=
  {n | first arrivals < n ∧ n < start size arrivals ∧ ¬ Received size arrivals n}

theorem first_append (h : arrivals ≠ []) (a : Nat) : first (arrivals ++ [a]) = first arrivals := by
  cases arrivals with
  | nil => exact absurd rfl h
  | cons b rest => rfl

theorem newest_append (arrivals : List Nat) (a : Nat) : newest (arrivals ++ [a]) = max (newest arrivals) a := by
  rw [newest, List.foldl_append]
  rfl

theorem newest_singleton (a : Nat) : newest [a] = a := Nat.zero_max a

theorem first_le_newest (h : arrivals ≠ []) : first arrivals ≤ newest arrivals := by
  induction arrivals using List.reverseRecOn with
  | nil => exact absurd rfl h
  | append_singleton rest a ih =>
    by_cases hrest : rest = []
    · rw [hrest, List.nil_append, newest_singleton]
      exact Nat.le_refl a
    · rw [first_append hrest, newest_append]
      exact Nat.le_trans (ih hrest) (Nat.le_max_left _ _)

theorem first_le_start (size : Nat) (arrivals : List Nat) : first arrivals ≤ start size arrivals :=
  Nat.le_max_left _ _

theorem start_singleton (hsize : 0 < size) (a : Nat) : start size [a] = a := by
  rw [start, newest_singleton]
  show max a (a + 1 - size) = a
  omega

variable (size) in
theorem start_le_start (h : arrivals ≠ []) (a : Nat) : start size arrivals ≤ start size (arrivals ++ [a]) := by
  rw [start, start, first_append h, newest_append]
  omega

theorem received_append (a n : Nat) : Received size (arrivals ++ [a]) n ↔
    Received size arrivals n ∨ n = a ∧ start size (arrivals ++ [a]) ≤ a := by
  constructor
  · rintro ⟨earlier, later, heq, hin⟩
    rcases List.eq_nil_or_concat later with rfl | ⟨later, b, rfl⟩
    · obtain ⟨rfl, rfl⟩ := List.append_singleton_inj.mp heq
      exact .inr ⟨rfl, hin⟩
    · rw [List.concat_eq_append, ← List.cons_append, ← List.append_assoc, List.append_singleton_inj] at heq
      exact .inl ⟨earlier, later, heq.1, hin⟩
  · rintro (⟨earlier, later, rfl, hin⟩ | ⟨rfl, hin⟩)
    · exact ⟨earlier, later ++ [a], by simp, hin⟩
    · exact ⟨arrivals, [], rfl, hin⟩

theorem received_first (hsize : 0 < size) (h : arrivals ≠ []) : Received size arrivals (first arrivals) := by
  cases arrivals with
  | nil => exact absurd rfl h
  | cons a rest => exact ⟨[], rest, rfl, Nat.le_of_eq (start_singleton hsize a)⟩

theorem received_mem {n : Nat} (h : Received size arrivals n) : n ∈ arrivals := by
  obtain ⟨earlier, later, rfl, -⟩ := h
  exact List.mem_append_right _ List.mem_cons_self

theorem le_newest {n : Nat} (h : n ∈ arrivals) : n ≤ newest arrivals := by
  induction arrivals using List.reverseRecOn with
  | nil => cases h
  | append_singleton rest a ih =>
    rw [newest_append]
    rcases List.mem_append.mp h with hin | hin
    · exact Nat.le_trans (ih hin) (Nat.le_max_left _ _)
    · exact List.mem_singleton.mp hin ▸ Nat.le_max_right _ _

/-- What an arrival loses: the numbers the window leaves that were not received. -/
theorem lost_append (hsize : 0 < size) (h : arrivals ≠ []) (a : Nat) :
    lost size (arrivals ++ [a]) = lost size arrivals ∪
    {n | start size arrivals ≤ n ∧ n < start size (arrivals ++ [a]) ∧ ¬ Received size arrivals n} := by
  have hstart := start_le_start size h a
  have hfirst := first_le_start size arrivals
  ext n
  simp only [lost, Set.mem_union, Set.mem_ofPred_eq, received_append, first_append h, not_or, not_and, Nat.not_le]
  constructor
  · rintro ⟨hn, hlt, hnot, -⟩
    by_cases hold : n < start size arrivals
    · exact .inl ⟨hn, hold, hnot⟩
    · exact .inr ⟨Nat.not_lt.mp hold, hlt, hnot⟩
  · rintro (⟨hn, hlt, hnot⟩ | ⟨hn, hlt, hnot⟩)
    · exact ⟨hn, Nat.lt_of_lt_of_le hlt hstart, hnot, fun heq => by omega⟩
    · have hne : first arrivals ≠ n := fun heq => hnot (heq ▸ received_first hsize h)
      exact ⟨Nat.lt_of_le_of_ne (Nat.le_trans hfirst hn) hne, hlt, hnot, fun heq => by omega⟩

theorem lost_finite (size : Nat) (arrivals : List Nat) : (lost size arrivals).Finite :=
  (Set.finite_lt_nat (start size arrivals)).subset fun _ hn => hn.2.1

theorem ncard_lost_append (hsize : 0 < size) (h : arrivals ≠ []) (a : Nat) :
    (lost size (arrivals ++ [a])).ncard = (lost size arrivals).ncard +
    Set.ncard {n | start size arrivals ≤ n ∧ n < start size (arrivals ++ [a]) ∧ ¬ Received size arrivals n} := by
  rw [lost_append hsize h]
  refine Set.ncard_union_eq ?_ (lost_finite size arrivals) ?_
  · exact Set.disjoint_left.mpr fun n hn hn' => absurd hn'.1 (Nat.not_le.mpr hn.2.1)
  · exact (Set.finite_lt_nat (start size (arrivals ++ [a]))).subset fun _ hn => hn.2.1

theorem lost_singleton (hsize : 0 < size) (a : Nat) : lost size [a] = ∅ := by
  refine Set.eq_empty_iff_forall_notMem.mpr fun n hn => ?_
  have hlt := hn.2.1
  rw [start_singleton hsize] at hlt
  exact absurd hlt (Nat.not_lt.mpr (Nat.le_of_lt hn.1))

/-- What is received and what is lost of a stretch of numbers make up the stretch. -/
theorem ncard_stretch (p : Nat → Prop) (i j : Nat) :
    Set.ncard {n | i ≤ n ∧ n < j ∧ p n} + Set.ncard {n | i ≤ n ∧ n < j ∧ ¬ p n} = j - i := by
  have hfin : ∀ q : Nat → Prop, Set.Finite {n | i ≤ n ∧ n < j ∧ q n} := fun q =>
    (Set.finite_lt_nat j).subset fun _ hn => hn.2.1
  have hdisjoint : Disjoint {n | i ≤ n ∧ n < j ∧ p n} {n | i ≤ n ∧ n < j ∧ ¬ p n} :=
    Set.disjoint_left.mpr fun n hn hn' => hn'.2.2 hn.2.2
  rw [← Set.ncard_union_eq hdisjoint (hfin p) (hfin fun n => ¬ p n)]
  have heq : {n | i ≤ n ∧ n < j ∧ p n} ∪ {n | i ≤ n ∧ n < j ∧ ¬ p n} = ↑(Finset.Ico i j) := by
    ext n
    simp only [Set.mem_union, Set.mem_ofPred_eq, Finset.coe_Ico, Set.mem_Ico]
    constructor
    · rintro (hn | hn)
      · exact ⟨hn.1, hn.2.1⟩
      · exact ⟨hn.1, hn.2.1⟩
    · intro hn
      by_cases hp : p n
      · exact .inl ⟨hn.1, hn.2, hp⟩
      · exact .inr ⟨hn.1, hn.2, hp⟩
  rw [heq, Set.ncard_coe_finset, Nat.card_Ico]

end Window
