import Mathlib.Algebra.Order.Ring.Nat
import Mathlib.Data.List.Basic

/-!
# Bit readers

A reader consumes a prefix of a bit list.  `Reads r bits a` says that `r`
consumes exactly `bits`, whatever follows, and returns `a`; a reader built from
others reads the concatenation of what they read.
-/

namespace BitCodec

abbrev Reader (α : Type) := StateT (List Bool) Option α

def bits (value n : Nat) : List Bool := (List.range n).map value.testBit

def readBit : Reader Bool := fun
  | [] => none
  | b :: rest => some (b, rest)

def readBits : Nat → Reader Nat
  | 0 => pure 0
  | n + 1 => do
    let b ← readBit
    let v ← readBits n
    pure (b.toNat + 2 * v)

variable {α β : Type}

def Reads (r : Reader α) (front : List Bool) (a : α) : Prop := ∀ rest, r (front ++ rest) = some (a, rest)

theorem Reads.pure (a : α) : Reads (Pure.pure a) [] a := fun _ => rfl

theorem Reads.bind {r : Reader α} {next : α → Reader β} {front back : List Bool} {a : α} {b : β}
    (hr : Reads r front a) (hnext : Reads (next a) back b) : Reads (r >>= next) (front ++ back) b := by
  intro rest
  change (r (front ++ back ++ rest)).bind (fun p => next p.1 p.2) = _
  rw [List.append_assoc, hr, Option.bind_some]
  exact hnext rest

theorem Reads.bind_nil {r : Reader α} {next : α → Reader β} {front : List Bool} {a : α} {b : β}
    (hr : Reads r front a) (hnext : Reads (next a) [] b) : Reads (r >>= next) front b := by
  simpa using hr.bind hnext

theorem Reads.map {r : Reader α} {f : α → β} {front : List Bool} {a : α} (hr : Reads r front a) :
    Reads (f <$> r) front (f a) := by
  intro rest
  change (r (front ++ rest)).bind (fun p => some (f p.1, p.2)) = _
  rw [hr, Option.bind_some]

theorem reads_bit (b : Bool) : Reads readBit [b] b := fun _ => rfl

theorem length_bits (value n : Nat) : (bits value n).length = n := by simp [bits]

theorem bits_succ (value n : Nat) : bits value (n + 1) = value.testBit 0 :: bits (value / 2) n := by
  simp [bits, List.range_succ_eq_map, Function.comp_def, Nat.testBit_succ]

theorem reads_bits {value : Nat} : ∀ {n : Nat}, value < 2 ^ n → Reads (readBits n) (bits value n) value := by
  intro n
  induction n generalizing value with
  | zero =>
    intro h
    obtain rfl : value = 0 := by omega
    exact Reads.pure 0
  | succ n ih =>
    intro h
    have hhalf : value / 2 < 2 ^ n := by omega
    have hvalue : (value.testBit 0).toNat + 2 * (value / 2) = value := by
      rw [Nat.testBit_zero]
      rcases Nat.mod_two_eq_zero_or_one value with h0 | h1 <;> simp [*] <;> omega
    rw [bits_succ]
    refine (reads_bit (value.testBit 0)).bind ((ih hhalf).bind_nil ?_)
    simp only [hvalue]
    exact Reads.pure value

theorem readBits_lt {value : Nat} {rest : List Bool} : ∀ {n : Nat} {stream : List Bool},
    readBits n stream = some (value, rest) → value < 2 ^ n := by
  intro n
  induction n generalizing value with
  | zero =>
    intro stream h
    cases h
    exact Nat.one_pos
  | succ n ih =>
    intro stream h
    cases stream with
    | nil => cases h
    | cons b stream =>
      change (readBits n stream).bind (fun p => some (b.toNat + 2 * p.1, p.2)) = _ at h
      obtain ⟨p, hp, heq⟩ := Option.bind_eq_some_iff.mp h
      obtain ⟨rfl, rfl⟩ := Prod.mk.inj (Option.some.inj heq)
      have hlt := ih (show readBits n stream = some (p.1, p.2) from hp)
      have hbit := b.toNat_lt
      omega

def ofBits : List Bool → Nat
  | [] => 0
  | b :: rest => b.toNat + 2 * ofBits rest

theorem reads_ofBits : ∀ front : List Bool, Reads (readBits front.length) front (ofBits front)
  | [] => Reads.pure 0
  | b :: front => (reads_bit b).bind ((reads_ofBits front).bind_nil (Reads.pure _))

theorem testBit_ofBits : ∀ (front : List Bool) (i : Nat), (ofBits front).testBit i = front.getD i false
  | [], i => by simp [ofBits]
  | b :: front, 0 => by cases b <;> simp [ofBits, Nat.testBit_zero, Nat.add_mod]
  | b :: front, i + 1 => by
    have hhalf : (b.toNat + 2 * ofBits front) / 2 = ofBits front := by
      have hbit := b.toNat_lt
      omega
    rw [ofBits, Nat.testBit_succ, hhalf, testBit_ofBits front i]
    rfl

end BitCodec
