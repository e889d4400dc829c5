import AshiatoSync.Types
import AshiatoSync.Lib.Shares

/-!
# Sharing a bandwidth budget

`ReplicationBandwidthShare::run` and the part of `ReplicationBandwidthBudget` it
uses.  The available bytes are a `double`: their type and its two operations are
parameters.
-/

namespace AshiatoSync

/-- Sums and products of `std::size_t`. -/
def sizeAdd (a b : Nat) : Nat := (a + b) % 2 ^ 64
def sizeMul (a b : Nat) : Nat := a * b % 2 ^ 64

/-- `static_cast<std::size_t>` of the available bytes, and what is left of them after some are spent. -/
structure AvailableBytes (α : Type) where
  toSize : α → Nat
  spent : Nat → α → α

structure ReplicationBandwidthBudget (α : Type) where
  availableBytes : α
  sendLimitBytes : Nat := 0
  sendLimitActive : Bool := false
  deriving DecidableEq, Repr

namespace ReplicationBandwidthBudget

variable {α : Type} (bytes : AvailableBytes α)

def beginSendLimit (limit : Nat) (budget : ReplicationBandwidthBudget α) : ReplicationBandwidthBudget α :=
  { budget with sendLimitBytes := limit, sendLimitActive := true }

def clearSendLimit (budget : ReplicationBandwidthBudget α) : ReplicationBandwidthBudget α :=
  { budget with sendLimitBytes := 0, sendLimitActive := false }

def sendAvailableBytes (budget : ReplicationBandwidthBudget α) : Nat :=
  let available := bytes.toSize budget.availableBytes
  if budget.sendLimitActive then min available budget.sendLimitBytes else available

def spend (count : Nat) (budget : ReplicationBandwidthBudget α) : ReplicationBandwidthBudget α :=
  { budget with
    availableBytes := bytes.spent count budget.availableBytes
    sendLimitBytes := if budget.sendLimitActive then budget.sendLimitBytes - count else budget.sendLimitBytes }

end ReplicationBandwidthBudget

namespace ReplicationBandwidthShare

structure Result where
  chargedBytes : Nat := 0
  hadPendingData : Bool := false
  stoppedForBudget : Bool := false
  deriving DecidableEq, Repr

def combine (combined result : Result) : Result where
  chargedBytes := sizeAdd combined.chargedBytes result.chargedBytes
  hadPendingData := combined.hadPendingData || result.hadPendingData
  stoppedForBudget := combined.stoppedForBudget || result.stoppedForBudget

/-- What a flush callback reads and changes: the budget, and everything else. -/
abbrev World (α σ : Type) := ReplicationBandwidthBudget α × σ

structure Participant (α σ : Type) where
  weight : Nat := 1
  priority : Int := 0
  flush : Option (World α σ → Result × World α σ)

structure FlushCall where
  index : Nat
  limit : Nat
  result : Result
  deriving DecidableEq, Repr

/-- What `run` returns, with the allowances, its calls in order and the leftover of the first pass. -/
structure Outcome (α σ : Type) where
  combined : Result := {}
  world : World α σ
  allowances : List (Nat × Nat) := []
  firstCalls : List FlushCall := []
  leftover : Nat := 0
  extraCalls : List FlushCall := []

variable {α σ : Type} (participants : List (Participant α σ))

def eligible : List Nat :=
  (List.range participants.length).filter fun index =>
    match participants[index]? with
    | some participant => participant.weight != 0 && participant.flush.isSome
    | none => false

def weightOf (index : Nat) : Nat := (participants[index]?.map (·.weight)).getD 0

def priorityOf (index : Nat) : Int := (participants[index]?.map (·.priority)).getD 0

def totalWeight : Nat := ((eligible participants).map (weightOf participants)).foldl sizeAdd 0

/-- `std::stable_sort` by descending priority. -/
def order : List Nat :=
  (eligible participants).insertionSort fun lhs rhs => priorityOf participants rhs ≤ priorityOf participants lhs

/-- The two loops over `allowances`, which is only read at the indices of the order: rounded shares, and one more of
the remainder from the front. -/
def allowances (totalBytes : Nat) : List Nat :=
  let floors := (order participants).map fun index =>
    sizeMul totalBytes (weightOf participants index) / totalWeight participants
  let allocated := floors.foldl sizeAdd 0
  Shares.bump (totalBytes - allocated) floors

/-- `begin_send_limit`, the flush of one participant and `clear_send_limit`. -/
def flushUnder (index limit : Nat) (world : World α σ) : Result × World α σ :=
  let world := (world.1.beginSendLimit limit, world.2)
  let (result, world) := match participants[index]?.bind (·.flush) with
    | some flush => flush world
    | none => ({}, world)
  (result, (world.1.clearSendLimit, world.2))

def firstPass : List (Nat × Nat) → Outcome α σ → Outcome α σ
  | [], outcome => outcome
  | (index, allowance) :: rest, outcome =>
    let (result, world) := flushUnder participants index allowance outcome.world
    firstPass rest { outcome with
      world
      combined := combine outcome.combined result
      leftover := sizeAdd outcome.leftover
        (if allowance > result.chargedBytes then allowance - result.chargedBytes else 0)
      firstCalls := outcome.firstCalls ++ [⟨index, allowance, result⟩] }

/-- The second pass over the results of the first; `leftover` is what is left before each of them. -/
def secondPass : List FlushCall → Nat → Outcome α σ → Outcome α σ
  | [], _, outcome => outcome
  | call :: rest, leftover, outcome =>
    if leftover = 0 then outcome
    else if !call.result.stoppedForBudget then secondPass rest leftover outcome
    else
      let (extra, world) := flushUnder participants call.index leftover outcome.world
      secondPass rest (if extra.chargedBytes ≥ leftover then 0 else leftover - extra.chargedBytes)
        { outcome with
          world
          combined := combine outcome.combined extra
          extraCalls := outcome.extraCalls ++ [⟨call.index, leftover, extra⟩] }

def run (totalBytes : Nat) (world : World α σ) : Outcome α σ :=
  if participants.isEmpty || totalBytes == 0 then { world }
  else if totalWeight participants = 0 then { world }
  else
    let allowances := (order participants).zip (allowances participants totalBytes)
    let outcome := firstPass participants allowances { world, allowances }
    secondPass participants outcome.firstCalls outcome.leftover outcome

end ReplicationBandwidthShare

end AshiatoSync
