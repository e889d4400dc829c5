import Mathlib.Algebra.Order.Ring.Nat
import Mathlib.Data.List.Basic
import Mathlib.Logic.Function.Basic

/-!
# Lists with an index

A list whose members may have a key, and the positions of the keys.  A member is
appended at the end, and leaves by the last member taking its place.
-/

namespace Indexed

variable {α β : Type*} {key : β → Option α} {members : List β} {pos : α → Option Nat}

def Indexes (key : β → Option α) (members : List β) (pos : α → Option Nat) : Prop :=
  ∀ a p, pos a = some p ↔ (members[p]?).bind key = some a

def swapRemove (members : List β) (i : Nat) : List β :=
  match members.getLast? with
  | some moved => (members.set i moved).dropLast
  | none => members

theorem Indexes.nil : Indexes key [] fun _ => none := by
  intro a p
  constructor
  · intro h
    cases h
  · intro h
    cases h

theorem Indexes.congr {pos' : α → Option Nat} (h : Indexes key members pos) (hpos : ∀ a, pos' a = pos a) :
    Indexes key members pos' := by
  intro a p
  rw [hpos a]
  exact h a p

theorem Indexes.unique (h : Indexes key members pos) {b b' : β} {a : α} {p p' : Nat} (hb : members[p]? = some b)
    (hb' : members[p']? = some b') (hk : key b = some a) (hk' : key b' = some a) : p = p' := by
  have hp := (h a p).mpr (by rw [hb]; exact hk)
  have hp' := (h a p').mpr (by rw [hb']; exact hk')
  exact Option.some.inj (hp.symm.trans hp')

theorem Indexes.eq_none_iff (h : Indexes key members pos) (a : α) :
    pos a = none ↔ ∀ b ∈ members, key b ≠ some a := by
  constructor
  · intro hnone b hb hk
    obtain ⟨p, hp⟩ := List.mem_iff_getElem?.mp hb
    have hpos := (h a p).mpr (by rw [hp]; exact hk)
    rw [hnone] at hpos
    cases hpos
  · intro hall
    cases hpos : pos a with
    | none => rfl
    | some p =>
      have hin := (h a p).mp hpos
      cases hb : members[p]? with
      | none =>
        rw [hb] at hin
        cases hin
      | some b =>
        rw [hb] at hin
        exact absurd hin (hall b (List.mem_iff_getElem?.mpr ⟨p, hb⟩))

theorem Indexes.push_none (h : Indexes key members pos) {b : β} (hk : key b = none) :
    Indexes key (members ++ [b]) pos := by
  intro a p
  rw [h a p]
  by_cases hlt : p < members.length
  · rw [List.getElem?_append_left hlt]
  · rw [List.getElem?_append_right (by omega), List.getElem?_eq_none (by omega)]
    by_cases heq : p - members.length = 0
    · simp [heq, hk]
    · rw [List.getElem?_eq_none (by rw [List.length_singleton]; omega)]

section

variable [DecidableEq α]

theorem Indexes.push (h : Indexes key members pos) {b : β} {a : α} (hk : key b = some a) (hnone : pos a = none) :
    Indexes key (members ++ [b]) (Function.update pos a (some members.length)) := by
  have hfresh := (h.eq_none_iff a).mp hnone
  intro c p
  by_cases hlt : p < members.length
  · rw [List.getElem?_append_left hlt]
    by_cases hc : c = a
    · rw [hc, Function.update_self]
      constructor
      · intro heq
        have := Option.some.inj heq
        omega
      · intro hin
        rw [List.getElem?_eq_getElem hlt] at hin
        exact absurd hin (hfresh _ (List.getElem_mem hlt))
    · rw [Function.update_of_ne hc]
      exact h c p
  · rw [List.getElem?_append_right (by omega)]
    by_cases heq : p = members.length
    · rw [heq, Nat.sub_self]
      change _ ↔ key b = some c
      rw [hk]
      by_cases hc : c = a
      · rw [hc, Function.update_self]
        exact ⟨fun _ => rfl, fun _ => rfl⟩
      · rw [Function.update_of_ne hc]
        constructor
        · intro hpos
          have hin := (h c _).mp hpos
          rw [List.getElem?_eq_none (Nat.le_refl _)] at hin
          cases hin
        · intro hac
          exact absurd (Option.some.inj hac).symm hc
    · rw [List.getElem?_eq_none (by rw [List.length_singleton]; omega)]
      constructor
      · intro hpos
        by_cases hc : c = a
        · rw [hc, Function.update_self] at hpos
          exact absurd (Option.some.inj hpos).symm heq
        · rw [Function.update_of_ne hc] at hpos
          have hin := (h c p).mp hpos
          rw [List.getElem?_eq_none (by omega)] at hin
          exact hin
      · intro hin
        cases hin

end

theorem length_swapRemove {i : Nat} (hi : i < members.length) : (swapRemove members i).length = members.length - 1 := by
  unfold swapRemove
  cases hlast : members.getLast? with
  | none =>
    rw [List.getLast?_eq_none_iff.mp hlast] at hi
    exact absurd hi (Nat.not_lt_zero i)
  | some moved => rw [List.length_dropLast, List.length_set]

theorem getElem?_swapRemove {i : Nat} (hi : i < members.length) (p : Nat) :
    (swapRemove members i)[p]? =
      if p < members.length - 1 then if p = i then members.getLast? else members[p]? else none := by
  unfold swapRemove
  cases hlast : members.getLast? with
  | none =>
    rw [List.getLast?_eq_none_iff.mp hlast] at hi
    exact absurd hi (Nat.not_lt_zero i)
  | some moved =>
    dsimp only
    by_cases hp : p < members.length - 1
    · rw [if_pos hp, List.getElem?_dropLast, List.length_set, if_pos hp, List.getElem?_set]
      by_cases heq : p = i
      · rw [if_pos heq, if_pos heq.symm, if_pos hi]
      · rw [if_neg heq, if_neg fun h => heq h.symm]
    · rw [if_neg hp, List.getElem?_eq_none]
      rw [List.length_dropLast, List.length_set]
      omega

/-- The positions after a removal: the leaving key has none, and the moved key the free one. -/
theorem Indexes.swapRemove (h : Indexes key members pos) {i : Nat} (hi : i < members.length) {pos' : α → Option Nat}
    (hleft : ∀ a, (members[i]?).bind key = some a → pos' a = none)
    (hmoved : ∀ a, (members[i]?).bind key ≠ some a → (members.getLast?).bind key = some a → pos' a = some i)
    (hothers : ∀ a, (members[i]?).bind key ≠ some a → (members.getLast?).bind key ≠ some a → pos' a = pos a) :
    Indexes key (Indexed.swapRemove members i) pos' := by
  have hlast : members.getLast? = members[members.length - 1]? := List.getLast?_eq_getElem?
  rw [hlast] at hmoved hothers
  intro a p
  rw [getElem?_swapRemove hi, hlast]
  by_cases hal : (members[i]?).bind key = some a
  · rw [hleft a hal]
    have hpos := (h a i).mpr hal
    constructor
    · intro hnone
      cases hnone
    · intro hin
      by_cases hp : p < members.length - 1
      · rw [if_pos hp] at hin
        by_cases heq : p = i
        · rw [if_pos heq] at hin
          have := Option.some.inj (hpos.symm.trans ((h a _).mpr hin))
          omega
        · rw [if_neg heq] at hin
          exact absurd (Option.some.inj (hpos.symm.trans ((h a p).mpr hin))).symm heq
      · rw [if_neg hp] at hin
        cases hin
  · by_cases ham : (members[members.length - 1]?).bind key = some a
    · rw [hmoved a hal ham]
      have hpos := (h a _).mpr ham
      have hne : i ≠ members.length - 1 := fun heq => hal (heq ▸ ham)
      constructor
      · intro heq
        rw [← Option.some.inj heq, if_pos (by omega), if_pos rfl]
        exact ham
      · intro hin
        by_cases hp : p < members.length - 1
        · rw [if_pos hp] at hin
          by_cases heq : p = i
          · rw [heq]
          · rw [if_neg heq] at hin
            have := Option.some.inj (hpos.symm.trans ((h a p).mpr hin))
            omega
        · rw [if_neg hp] at hin
          cases hin
    · rw [hothers a hal ham, h a p]
      by_cases hp : p < members.length - 1
      · rw [if_pos hp]
        by_cases heq : p = i
        · rw [if_pos heq, heq]
          exact ⟨fun hin => absurd hin hal, fun hin => absurd hin ham⟩
        · rw [if_neg heq]
      · rw [if_neg hp]
        constructor
        · intro hin
          by_cases heq : p = members.length - 1
          · exact absurd (heq ▸ hin) ham
          · rw [List.getElem?_eq_none (by omega)] at hin
            exact hin
        · intro hin
          cases hin

theorem mem_swapRemove {i : Nat} {b : β} (h : b ∈ swapRemove members i) : b ∈ members := by
  unfold swapRemove at h
  cases hlast : members.getLast? with
  | none =>
    rw [hlast] at h
    exact h
  | some moved =>
    rw [hlast] at h
    rcases List.mem_or_eq_of_mem_set ((List.dropLast_sublist _).mem h) with hmem | rfl
    · exact hmem
    · exact List.mem_of_getLast? hlast

section

variable [DecidableEq α]

/-- The positions when only a member that really moved is entered again. -/
theorem Indexes.swapRemove_last (h : Indexes key members pos) {i : Nat} {removed last : β}
    (hremoved : members[i]? = some removed) (hlast : members.getLast? = some last) {pos' : α → Option Nat}
    (hpos : ∀ a, pos' a = if key removed = some a then none
      else if i ≠ members.length - 1 ∧ key last = some a then some i else pos a) :
    Indexes key (Indexed.swapRemove members i) pos' := by
  refine h.swapRemove (List.getElem?_eq_some_iff.mp hremoved).1 (fun a hk => ?_) (fun a hne hk => ?_) fun a hne hk => ?_
  · rw [hremoved, Option.bind_some] at hk
    rw [hpos, if_pos hk]
  · rw [hremoved, Option.bind_some] at hne
    rw [hlast, Option.bind_some] at hk
    have hmoved : i ≠ members.length - 1 := by
      rintro rfl
      rw [List.getLast?_eq_getElem?, hremoved] at hlast
      exact hne (Option.some.inj hlast ▸ hk)
    rw [hpos, if_neg hne, if_pos ⟨hmoved, hk⟩]
  · rw [hremoved, Option.bind_some] at hne
    rw [hlast, Option.bind_some] at hk
    rw [hpos, if_neg hne, if_neg fun h => hk h.2]

end

end Indexed
