import Mathlib.Algebra.Order.Ring.Nat
import Mathlib.Logic.Relation
import Mathlib.Data.List.Sort

/-!
# Computations that may throw, and what a loop over a list preserves

`Except` models a C++ function that may leave by an exception.  `bind_eq_ok`
takes a successful run apart; `foldlM_inv` and `foldl_inv` are the loop rules,
with the invariant allowed to speak about the part of the list still to come.
-/

namespace Monadic

variable {ε : Type*} {α β σ : Type}

theorem bind_eq_ok {x : Except ε α} {f : α → Except ε β} {r : β} :
    (x >>= f) = .ok r ↔ ∃ a, x = .ok a ∧ f a = .ok r := by
  cases x with
  | error e => simp [bind, Except.bind]
  | ok a => simp [bind, Except.bind]

theorem map_eq_ok {x : Except ε α} {f : α → β} {r : β} :
    (f <$> x) = .ok r ↔ ∃ a, x = .ok a ∧ f a = r := by
  cases x with
  | error e => simp [Functor.map, Except.map]
  | ok a => simp [Functor.map, Except.map]

theorem Except_map_eq_ok {x : Except ε α} {f : α → β} {r : β} :
    x.map f = .ok r ↔ ∃ a, x = .ok a ∧ f a = r := map_eq_ok

theorem pure_eq_ok {a b : α} : (pure a : Except ε α) = .ok b ↔ a = b := by
  simp [pure, Except.pure]

theorem throw_ne_ok {e : ε} {b : α} : (throw e : Except ε α) ≠ .ok b := by
  simp [throw, throwThe, MonadExceptOf.throw]

/-- The loop rule: `P` is indexed by what the loop has not read yet. -/
theorem foldlM_inv {f : σ → α → Except ε σ} (P : List α → σ → Prop) :
    ∀ (l : List α) (s s' : σ),
      (∀ a l s s', P (a :: l) s → f s a = .ok s' → P l s') →
      P l s → l.foldlM f s = .ok s' → P [] s'
  | [], s, s', _, hs, h => by
    rw [List.foldlM_nil, pure_eq_ok] at h
    exact h ▸ hs
  | a :: l, s, s', step, hs, h => by
    rw [List.foldlM_cons, bind_eq_ok] at h
    obtain ⟨s₁, h₁, h₂⟩ := h
    exact foldlM_inv P l s₁ s' step (step a l s s₁ hs h₁) h₂

theorem foldl_inv {f : σ → α → σ} (P : List α → σ → Prop) :
    ∀ (l : List α) (s : σ), (∀ a l s, P (a :: l) s → P l (f s a)) → P l s → P [] (l.foldl f s)
  | [], _, _, hs => hs
  | a :: l, s, step, hs => foldl_inv P l (f s a) step (step a l s hs)

end Monadic
