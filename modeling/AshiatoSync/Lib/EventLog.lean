import Mathlib.Algebra.Order.Ring.Nat
import Mathlib.Data.List.Basic

/-!
# Event logs

A log is a list of events, newest first.  `Since mark settle` says that some
event of it is a mark and no later one settles it.
-/

namespace EventLog

variable {α : Type*} {mark settle : α → Prop}

def Since (mark settle : α → Prop) : List α → Prop
  | [] => False
  | a :: log => mark a ∨ ¬settle a ∧ Since mark settle log

theorem split {a : α} : ∀ {after before : List α}, mark a → (∀ b ∈ after, ¬settle b) →
    Since mark settle (after ++ a :: before)
  | [], _, ha, _ => .inl ha
  | b :: _, _, ha, h => .inr ⟨h b (by simp), split ha fun c hc => h c (by simp [hc])⟩

theorem Since.mem : ∀ {log : List α}, Since mark settle log → ∃ a ∈ log, mark a
  | a :: _, .inl ha => ⟨a, List.mem_cons_self, ha⟩
  | _ :: _, .inr ⟨_, h⟩ =>
    let ⟨b, hb, hm⟩ := h.mem
    ⟨b, List.mem_cons_of_mem _ hb, hm⟩

/-- Under events that are no marks, the mark is an older one they do not settle. -/
theorem Since.old : ∀ {new log : List α}, (∀ a ∈ new, ¬mark a) → Since mark settle (new ++ log) →
    Since mark settle log ∧ ∀ a ∈ new, ¬settle a
  | [], _, _, h => ⟨h, by simp⟩
  | a :: new, log, hno, h => by
    rcases h with h | ⟨hns, h⟩
    · exact absurd h (hno a (by simp))
    · obtain ⟨hold, hrest⟩ := Since.old (fun b hb => hno b (by simp [hb])) h
      refine ⟨hold, fun b hb => ?_⟩
      rcases List.mem_cons.mp hb with rfl | hb
      · exact hns
      · exact hrest b hb

theorem split_old {new log after before : List α} {a : α} (h : new ++ log = after ++ a :: before) (hno : a ∉ new) :
    ∃ after', after = new ++ after' ∧ log = after' ++ a :: before := by
  rcases List.append_eq_append_iff.mp h with ⟨mid, rfl, hlog⟩ | ⟨mid, rfl, hmid⟩
  · exact ⟨mid, rfl, hlog⟩
  · cases mid with
    | nil => exact ⟨[], by simp, by simpa using hmid.symm⟩
    | cons b mid =>
      obtain ⟨rfl, -⟩ := List.cons.inj hmid
      exact absurd (by simp) hno

end EventLog
