import AshiatoSync.Lib.Tally
import AshiatoSync.TrackerSound

/-!
# Bytes in flight on shared budgets

The replicators of any number of servers, each attached to a budget that others
may share.  A budget counts what it is told: while a replicator keeps its budget
until nothing it charged is tracked, the count is the bytes of the tracked
packets; a replicator that is dropped or attached elsewhere earlier takes the
release of its packets along.
-/

namespace AshiatoSync

open ServerClientReplicator

/-! ## Budgets and replicators -/

/-- `packet_sent`, `packet_acked` and `packet_lost` on `in_flight_bytes_`. -/
def BudgetEvent.inFlight (inFlightBytes : Nat) : BudgetEvent → Nat
  | .packetSent chargedBytes => inFlightBytes + chargedBytes
  | .packetAcked _ _ chargedBytes => if chargedBytes ≤ inFlightBytes then inFlightBytes - chargedBytes else 0
  | .packetLost _ chargedBytes => if chargedBytes ≤ inFlightBytes then inFlightBytes - chargedBytes else 0
  | .spend _ => inFlightBytes

/-- A live replicator with the budget its `bandwidth` points to, and the budget each of its packet ids was last
charged to. -/
structure AttachedReplicator where
  core : ServerCore
  client : ServerClientReplicator
  bandwidth : Nat
  chargedTo : Nat → Nat := fun _ => 0

namespace AttachedReplicator

def pending (r : AttachedReplicator) : List PendingPacketAck := r.client.ackTracker.pendingPacketAcks

def run (r : AttachedReplicator) : TrackedRun := { core := r.core, client := r.client }

def tracked (r : AttachedReplicator) : Nat := (r.pending.map (·.chargedBytes)).sum

def trackedOn (budget : Nat) (r : AttachedReplicator) : Nat :=
  ((r.pending.filter fun p => r.chargedTo p.packetId == budget).map (·.chargedBytes)).sum

def events (r : AttachedReplicator) (op : TrackerOp) : List BudgetEvent :=
  let budget := (r.run.act op).client.budget
  (budget.take (budget.length - r.client.budget.length)).reverse

def act (r : AttachedReplicator) (op : TrackerOp) : AttachedReplicator where
  core := (r.run.act op).core
  client := (r.run.act op).client
  bandwidth := r.bandwidth
  chargedTo packetId :=
    if (r.run.tracks op).any fun p => p.packetId == packetId then r.bandwidth else r.chargedTo packetId

end AttachedReplicator

structure BudgetSystem where
  replicators : List AttachedReplicator := []
  inFlight : Nat → Nat := fun _ => 0
  budgets : Nat := 0

inductive BudgetOp where
  | createClientReplicator (core : ServerCore) (client : ClientId) (peer : PeerId)
  | packets (i : Nat) (op : TrackerOp)
  /-- `remove_client`, also of a client that timed out. -/
  | removeClient (i : Nat)
  /-- With no budget given, a new one is made. -/
  | setClientBandwidthBudget (i : Nat) (budget : Option Nat)

namespace BudgetSystem

def tracked (s : BudgetSystem) (budget : Nat) : Nat := (s.replicators.map (·.trackedOn budget)).sum

def exec (s : BudgetSystem) : BudgetOp → BudgetSystem
  | .createClientReplicator core client peer =>
    { s with
      replicators := s.replicators ++ [{ core, client := { id := client, peer }, bandwidth := s.budgets }]
      budgets := s.budgets + 1 }
  | .packets i op =>
    match s.replicators[i]? with
    | none => s
    | some r =>
      { s with
        replicators := s.replicators.set i (r.act op)
        inFlight := Function.update s.inFlight r.bandwidth
          ((r.events op).foldl BudgetEvent.inFlight (s.inFlight r.bandwidth)) }
  | .removeClient i => { s with replicators := s.replicators.eraseIdx i }
  | .setClientBandwidthBudget i budget =>
    match s.replicators[i]? with
    | none => s
    | some r =>
      { s with
        replicators := s.replicators.set i { r with bandwidth := budget.getD s.budgets }
        budgets := max s.budgets (budget.getD s.budgets + 1) }

/-- The states of every run of servers with adaptive bandwidth in which each operation meets `meets`.  Between the
operations, anything may happen to a server and a replicator that leaves its tracker and its options alone. -/
inductive Reachable (meets : BudgetSystem → BudgetOp → Prop) : BudgetSystem → Prop
  | start : Reachable meets {}
  | step {s : BudgetSystem} (op : BudgetOp) : Reachable meets s → meets s op →
      (∀ core client peer, op = .createClientReplicator core client peer →
      core.options.bandwidth.enabled = true) →
      Reachable meets (s.exec op)
  | elsewhere {s : BudgetSystem} {i : Nat} {r : AttachedReplicator} (core : ServerCore)
      (client : ServerClientReplicator) : Reachable meets s → s.replicators[i]? = some r →
      core.options = r.core.options → client.ackTracker = r.client.ackTracker →
      Reachable meets { s with replicators := s.replicators.set i { r with core, client } }

end BudgetSystem

def BudgetOp.Released (s : BudgetSystem) : BudgetOp → Prop
  | .removeClient i => ∀ r, s.replicators[i]? = some r → r.tracked = 0
  | .setClientBandwidthBudget i budget =>
    ∀ r, s.replicators[i]? = some r → budget = some r.bandwidth ∨ r.tracked = 0
  | _ => True

/-! ## What an operation tells the budget -/

/-- The new events of a budget log and what they make of the bytes in flight, for a tracker whose packets were charged
`before` and are charged `after`. -/
def Accounted (old new : List BudgetEvent) (before after : Nat) : Prop :=
  ∃ events, new = events ++ old ∧ ∀ bytes, before ≤ bytes →
    events.reverse.foldl BudgetEvent.inFlight bytes + before = bytes + after

def chargedSum (packets : List PendingPacketAck) : Nat := (packets.map (·.chargedBytes)).sum

theorem chargedSum_append (a b : List PendingPacketAck) : chargedSum (a ++ b) = chargedSum a + chargedSum b := by
  simp [chargedSum]

theorem chargedSum_perm {a b : List PendingPacketAck} (h : a.Perm b) : chargedSum a = chargedSum b :=
  (h.map _).sum_eq

theorem Accounted.refl (log : List BudgetEvent) (n : Nat) : Accounted log log n n :=
  ⟨[], rfl, fun _ _ => rfl⟩

theorem Accounted.trans {a b c : List BudgetEvent} {x y z : Nat} (h : Accounted a b x y) (h' : Accounted b c y z) :
    Accounted a c x z := by
  obtain ⟨new, rfl, hnew⟩ := h
  obtain ⟨new', rfl, hnew'⟩ := h'
  refine ⟨new' ++ new, by simp, fun bytes hle => ?_⟩
  have hfirst := hnew bytes hle
  have hsecond := hnew' (new.reverse.foldl BudgetEvent.inFlight bytes) (by omega)
  rw [List.reverse_append, List.foldl_append]
  omega

theorem Accounted.lost {core : ServerCore} (henabled : core.options.bandwidth.enabled = true)
    (client : ServerClientReplicator) {lost pending kept : List PendingPacketAck}
    (hperm : pending.Perm (lost ++ kept)) :
    Accounted client.budget (client.notifyLost core lost).budget (chargedSum pending) (chargedSum kept) := by
  have hrelease : ∀ (lost : List PendingPacketAck) (bytes : Nat), chargedSum lost ≤ bytes →
      (lost.map fun p => BudgetEvent.packetLost core.frame p.chargedBytes).foldl BudgetEvent.inFlight bytes +
        chargedSum lost = bytes := by
    intro lost
    induction lost with
    | nil => exact fun _ _ => rfl
    | cons p lost ih =>
      intro bytes hle
      have hcons : chargedSum (p :: lost) = p.chargedBytes + chargedSum lost := rfl
      have hrest := ih (bytes - p.chargedBytes) (by omega)
      simp only [List.map_cons, List.foldl_cons, BudgetEvent.inFlight]
      rw [if_pos (by omega)]
      omega
  have hsum := chargedSum_perm hperm
  rw [chargedSum_append] at hsum
  refine ⟨(lost.map fun p => BudgetEvent.packetLost core.frame p.chargedBytes).reverse, ?_, fun bytes hle => ?_⟩
  · unfold notifyLost
    rw [if_pos henabled]
  · rw [List.reverse_reverse]
    have := hrelease lost bytes (by omega)
    omega

theorem Accounted.track (client : ServerClientReplicator) (packetId : Nat) (frame : SyncFrame) (charged : Nat)
    (records : List PacketAckRecord) :
    Accounted client.budget (client.trackPacketAck packetId frame charged records).budget
      (chargedSum client.ackTracker.pendingPacketAcks)
      (chargedSum (client.trackPacketAck packetId frame charged records).ackTracker.pendingPacketAcks) := by
  unfold trackPacketAck
  split
  · exact .refl _ _
  · dsimp only
    split
    · refine ⟨[.packetSent charged], rfl, fun bytes _ => ?_⟩
      simp only [setPacketAcks, chargedSum_append, List.reverse_singleton, List.foldl_cons, List.foldl_nil,
        BudgetEvent.inFlight]
      simp [chargedSum]
      omega
    · rename_i hzero
      refine ⟨[], rfl, fun bytes _ => ?_⟩
      simp only [ne_eq, not_not] at hzero
      simp [setPacketAcks, chargedSum, hzero]

theorem Accounted.act {s : TrackedRun} (henabled : s.core.options.bandwidth.enabled = true) (op : TrackerOp) :
    Accounted s.client.budget (s.act op).client.budget (chargedSum s.pending) (chargedSum (s.act op).pending) := by
  cases op with
  | sendPacket frame entityCount records recordsBits ackRecords =>
    by_cases hcount : entityCount = 0
    case pos =>
      simp only [TrackedRun.act, TrackedRun.pending, sendPacket, if_pos hcount]
      exact .refl _ _
    case neg =>
      set charged := s.core.chargedPacketBytes
        (bytesForBits (serverUpdateHeaderBits s.core.options.protocol + recordsBits)) with hcharged
      set allocated := (s.client.allocatePacketId s.core).1 with hallocated
      set tracked := allocated.trackPacketAck s.nextId frame charged ackRecords with htracked
      -- an older packet with the id, the new packet, the transport, the packets over the limit
      have hallocate : Accounted s.client.budget allocated.budget (chargedSum s.pending)
          (chargedSum allocated.ackTracker.pendingPacketAcks) :=
        .lost henabled s.client (List.filter_append_perm _ _).symm
      have hspend : Accounted tracked.budget (.spend charged :: tracked.budget)
          (chargedSum tracked.ackTracker.pendingPacketAcks) (chargedSum tracked.ackTracker.pendingPacketAcks) :=
        ⟨[.spend charged], rfl, fun _ _ => rfl⟩
      have hsplit : ∀ k, tracked.ackTracker.pendingPacketAcks.Perm
          (tracked.ackTracker.pendingPacketAcks.take k ++ tracked.ackTracker.pendingPacketAcks.drop k) :=
        fun k => by rw [List.take_append_drop]
      have hlimit := Accounted.lost henabled { tracked with budget := .spend charged :: tracked.budget } (hsplit
        (tracked.ackTracker.pendingPacketAcks.length - s.core.options.protocol.maxPendingPacketAcksPerClient))
      have hall := ((hallocate.trans (.track allocated s.nextId frame charged ackRecords)).trans hspend).trans hlimit
      have hact : (s.act (.sendPacket frame entityCount records recordsBits ackRecords)).client.ackTracker =
            (enforcePendingPacketAckLimit s.core { tracked with
              budget := .spend charged :: tracked.budget }).ackTracker ∧
          (s.act (.sendPacket frame entityCount records recordsBits ackRecords)).client.budget =
            (enforcePendingPacketAckLimit s.core { tracked with
              budget := .spend charged :: tracked.budget }).budget := by
        simp only [TrackedRun.act, sendPacket, if_neg hcount]
        exact ⟨rfl, rfl⟩
      unfold TrackedRun.pending at hall ⊢
      rw [hact.1, hact.2]
      exact hall
  | acknowledgePacket packetId =>
    have hspec := acknowledgePacket_tracker s.core s.client packetId
    simp only [TrackedRun.act, TrackedRun.pending]
    cases hfind : s.client.ackTracker.pendingPacketAcks.find? fun p => p.packetId == packetId with
    | none =>
      rw [hfind] at hspec
      rw [hspec]
      exact .refl _ _
    | some found =>
      rw [hfind] at hspec
      rw [hspec]
      have hsum := chargedSum_perm (find?_perm_eraseP hfind)
      rw [chargedSum_append] at hsum
      have hfound : chargedSum [found] = found.chargedBytes := by simp [chargedSum]
      simp only [henabled, if_true]
      refine ⟨[.packetAcked found.sentFrame s.core.frame found.chargedBytes], rfl, fun bytes hle => ?_⟩
      simp only [List.reverse_singleton, List.foldl_cons, List.foldl_nil, BudgetEvent.inFlight]
      rw [if_pos (by omega)]
      omega
  | cleanupPacketAcks =>
    refine .lost henabled s.client ?_
    exact (List.filter_append_perm (fun p : PendingPacketAck => p.records.any fun record =>
      s.client.packetAckRecordPending s.core record) s.pending).symm.trans List.perm_append_comm

/-! ## The invariant -/

structure FlightInv (s : BudgetSystem) : Prop where
  flight : ∀ budget, s.inFlight budget = s.tracked budget
  attached : ∀ r ∈ s.replicators, ∀ p ∈ r.pending, p.chargedBytes = 0 ∨ r.chargedTo p.packetId = r.bandwidth
  enabled : ∀ r ∈ s.replicators, r.core.options.bandwidth.enabled = true

/-- A replicator that never left its budget has all its packets there. -/
theorem trackedOn_eq {r : AttachedReplicator}
    (h : ∀ p ∈ r.pending, p.chargedBytes = 0 ∨ r.chargedTo p.packetId = r.bandwidth) (budget : Nat) :
    r.trackedOn budget = if r.bandwidth = budget then r.tracked else 0 := by
  unfold AttachedReplicator.trackedOn AttachedReplicator.tracked
  generalize r.pending = pending at h
  induction pending with
  | nil => simp
  | cons p pending ih =>
    have hrest := ih fun q hq => h q (by simp [hq])
    rw [List.filter_cons]
    rcases h p (by simp) with hzero | hto
    · split
      · simp [hzero, hrest]
      · simp [hzero, hrest]
    · by_cases hb : r.bandwidth = budget
      · simp only [hto, hb, beq_self_eq_true, if_true, List.map_cons, List.sum_cons, hrest]
      · simp only [hto, beq_iff_eq, hb, if_false, hrest]

section

variable {s : BudgetSystem} {i : Nat} {r r' : AttachedReplicator}

theorem tracked_set (r' : AttachedReplicator) (hr : s.replicators[i]? = some r) (budget : Nat) :
    ({ s with replicators := s.replicators.set i r' } : BudgetSystem).tracked budget + r.trackedOn budget =
      s.tracked budget + r'.trackedOn budget :=
  Tally.sum_set (AttachedReplicator.trackedOn budget) hr

theorem FlightInv.tracked_le (h : FlightInv s) (hr : s.replicators[i]? = some r) :
    r.tracked ≤ s.inFlight r.bandwidth := by
  have hmem := List.mem_of_getElem? hr
  have hle := Tally.le_sum_of_mem (AttachedReplicator.trackedOn r.bandwidth) hmem
  rw [trackedOn_eq (h.attached r hmem), if_pos rfl] at hle
  rw [h.flight]
  exact hle

theorem FlightInv.set (h : FlightInv s) (hr : s.replicators[i]? = some r) (budgets : Nat)
    (hsame : ∀ budget, r'.trackedOn budget = r.trackedOn budget)
    (hatt : ∀ p ∈ r'.pending, p.chargedBytes = 0 ∨ r'.chargedTo p.packetId = r'.bandwidth)
    (hen : r'.core.options.bandwidth.enabled = true) :
    FlightInv { s with replicators := s.replicators.set i r', budgets } where
  flight budget := by
    have hsum := tracked_set r' hr budget
    rw [hsame budget] at hsum
    exact (h.flight budget).trans (Nat.add_right_cancel hsum).symm
  attached q hq := by
    rcases List.mem_or_eq_of_mem_set hq with hq | rfl
    · exact h.attached q hq
    · exact hatt
  enabled q hq := by
    rcases List.mem_or_eq_of_mem_set hq with hq | rfl
    · exact h.enabled q hq
    · exact hen

/-- The packets tracked after an operation: those tracked before, and the one it sent. -/
theorem act_pending (s : TrackedRun) (op : TrackerOp) {p : PendingPacketAck} (hp : p ∈ (s.act op).pending) :
    p ∈ s.pending ∨ p ∈ s.tracks op := by
  cases op with
  | sendPacket frame entityCount records recordsBits ackRecords =>
    by_cases hcount : entityCount = 0
    case pos =>
      simp only [TrackedRun.act, TrackedRun.pending, sendPacket, if_pos hcount] at hp
      exact .inl hp
    case neg =>
      obtain ⟨hpending, -⟩ := sendPacket_tracker s frame hcount records recordsBits ackRecords
      rw [hpending] at hp
      rcases List.mem_append.mp (List.mem_of_mem_drop hp) with hp | hp
      · exact .inl (List.mem_of_mem_filter hp)
      · exact .inr hp
  | acknowledgePacket packetId =>
    left
    have hspec := acknowledgePacket_tracker s.core s.client packetId
    simp only [TrackedRun.act, TrackedRun.pending] at hp ⊢
    cases hfind : s.client.ackTracker.pendingPacketAcks.find? fun p => p.packetId == packetId with
    | none =>
      rw [hfind] at hspec
      rw [hspec] at hp
      exact hp
    | some found =>
      rw [hfind] at hspec
      rw [hspec] at hp
      exact List.mem_of_mem_eraseP hp
  | cleanupPacketAcks => exact .inl (List.mem_of_mem_filter hp)

theorem act_options (s : TrackedRun) (op : TrackerOp) : (s.act op).core.options = s.core.options := by
  cases op with
  | sendPacket => rfl
  | cleanupPacketAcks => rfl
  | acknowledgePacket packetId =>
    have hspec := acknowledgePacket_tracker s.core s.client packetId
    simp only [TrackedRun.act]
    cases hfind : s.client.ackTracker.pendingPacketAcks.find? fun p => p.packetId == packetId with
    | none =>
      rw [hfind] at hspec
      rw [hspec]
    | some found =>
      rw [hfind] at hspec
      rw [hspec]
      exact (acknowledgeRecords_frame s.core s.client found).2.2.options

theorem FlightInv.packets (h : FlightInv s) (hr : s.replicators[i]? = some r) (op : TrackerOp) :
    FlightInv (s.exec (.packets i op)) := by
  have hmem := List.mem_of_getElem? hr
  have hatt : ∀ p ∈ (r.act op).pending, p.chargedBytes = 0 ∨
      (r.act op).chargedTo p.packetId = (r.act op).bandwidth := by
    intro p hp
    simp only [AttachedReplicator.act]
    split
    · exact .inr rfl
    · rename_i hold
      rcases act_pending r.run op hp with hp | hp
      · exact h.attached r hmem p hp
      · exact absurd (List.any_eq_true.mpr ⟨p, hp, by simp⟩) hold
  obtain ⟨events, hlog, hcount⟩ := Accounted.act (s := r.run) (h.enabled r hmem) op
  have hevents : r.events op = events.reverse := by
    have hold : r.run.client.budget = r.client.budget := rfl
    rw [hold] at hlog
    unfold AttachedReplicator.events
    simp [hlog]
  have hbytes := hcount (s.inFlight r.bandwidth) (h.tracked_le hr)
  have hexec : s.exec (.packets i op) = { s with
      replicators := s.replicators.set i (r.act op)
      inFlight := Function.update s.inFlight r.bandwidth
        (events.reverse.foldl BudgetEvent.inFlight (s.inFlight r.bandwidth)) } := by
    simp only [BudgetSystem.exec, hr, hevents]
  rw [hexec]
  refine ⟨fun budget => ?_, ?_, ?_⟩
  · have hsum := tracked_set (r.act op) hr budget
    rw [trackedOn_eq (h.attached r hmem), trackedOn_eq hatt] at hsum
    have hflight := h.flight budget
    by_cases hb : budget = r.bandwidth
    · subst hb
      rw [if_pos rfl, if_pos (show (r.act op).bandwidth = r.bandwidth from rfl)] at hsum
      have hbefore : chargedSum r.run.pending = r.tracked := rfl
      have hafter : chargedSum (r.run.act op).pending = (r.act op).tracked := rfl
      rw [hbefore, hafter] at hbytes
      have hnew : ({ s with replicators := s.replicators.set i (r.act op) } : BudgetSystem).tracked r.bandwidth =
          events.reverse.foldl BudgetEvent.inFlight (s.inFlight r.bandwidth) := by omega
      simp only [Function.update_self]
      exact hnew.symm
    · rw [if_neg (Ne.symm hb), if_neg (show (r.act op).bandwidth ≠ budget from Ne.symm hb)] at hsum
      simp only [Function.update_of_ne hb]
      exact hflight.trans (Nat.add_right_cancel hsum).symm
  · intro q hq
    rcases List.mem_or_eq_of_mem_set hq with hq | rfl
    · exact h.attached q hq
    · exact hatt
  · intro q hq
    rcases List.mem_or_eq_of_mem_set hq with hq | rfl
    · exact h.enabled q hq
    · exact (congrArg (·.bandwidth.enabled) (act_options r.run op)).trans (h.enabled r hmem)

end

theorem FlightInv.exec {s : BudgetSystem} (h : FlightInv s) (op : BudgetOp) (hrel : op.Released s)
    (hnew : ∀ core client peer, op = .createClientReplicator core client peer →
      core.options.bandwidth.enabled = true) : FlightInv (s.exec op) := by
  cases op with
  | createClientReplicator core client peer =>
    refine ⟨fun budget => ?_, ?_, ?_⟩
    · simp only [BudgetSystem.exec, BudgetSystem.tracked, List.map_append, List.sum_append, h.flight]
      rfl
    · intro r hr
      rcases List.mem_append.mp hr with hr | hr
      · exact h.attached r hr
      · obtain rfl := List.mem_singleton.mp hr
        exact fun p hp => by cases hp
    · intro r hr
      rcases List.mem_append.mp hr with hr | hr
      · exact h.enabled r hr
      · obtain rfl := List.mem_singleton.mp hr
        exact hnew core client peer rfl
  | packets i op =>
    cases hr : s.replicators[i]? with
    | none =>
      simp only [BudgetSystem.exec, hr]
      exact h
    | some r => exact h.packets hr op
  | removeClient i =>
    have hsub : (s.replicators.eraseIdx i).Sublist s.replicators := List.eraseIdx_sublist _ _
    refine ⟨fun budget => ?_, fun r hr => h.attached r (hsub.subset hr), fun r hr => h.enabled r (hsub.subset hr)⟩
    rw [show (s.exec (.removeClient i)).inFlight = s.inFlight from rfl, h.flight]
    cases hr : s.replicators[i]? with
    | none =>
      rw [List.getElem?_eq_none_iff] at hr
      simp only [BudgetSystem.exec, List.eraseIdx_of_length_le hr]
    | some r =>
      -- what it takes along is nothing
      have hzero : r.trackedOn budget = 0 := by
        rw [trackedOn_eq (h.attached r (List.mem_of_getElem? hr)), hrel r hr, ite_self]
      have hsum := Tally.sum_eraseIdx (AttachedReplicator.trackedOn budget) hr
      rw [hzero] at hsum
      exact hsum.symm
  | setClientBandwidthBudget i budget =>
    cases hr : s.replicators[i]? with
    | none =>
      simp only [BudgetSystem.exec, hr]
      exact h
    | some r =>
      have hmem := List.mem_of_getElem? hr
      have hatt : ∀ p ∈ r.pending, p.chargedBytes = 0 ∨ r.chargedTo p.packetId = budget.getD s.budgets := by
        intro p hp
        rcases hrel r hr with hsame | hzero
        · rw [hsame]
          exact h.attached r hmem p hp
        · left
          have hle := Tally.le_sum_of_mem (fun p : PendingPacketAck => p.chargedBytes) hp
          exact Nat.le_zero.mp (hzero ▸ hle)
      simp only [BudgetSystem.exec, hr]
      exact h.set hr _ (fun _ => rfl) hatt (h.enabled r hmem)

theorem flightInv {s : BudgetSystem} (h : BudgetSystem.Reachable (fun s op => op.Released s) s) : FlightInv s := by
  induction h with
  | start => exact ⟨fun _ => rfl, fun _ hr => (by cases hr), fun _ hr => (by cases hr)⟩
  | step op _ hrel hnew ih => exact ih.exec op hrel hnew
  | @elsewhere s i r core client _ hr hoptions htracker ih =>
    have hmem := List.mem_of_getElem? hr
    have hsame : ({ r with core, client } : AttachedReplicator).pending = r.pending := by
      simp only [AttachedReplicator.pending, htracker]
    refine ih.set hr s.budgets (fun budget => ?_) ?_ ?_
    · unfold AttachedReplicator.trackedOn
      rw [hsame]
    · rw [hsame]
      exact ih.attached r hmem
    · exact (congrArg (·.bandwidth.enabled) hoptions).trans (ih.enabled r hmem)

/-! ## Bytes in flight -/

/-- In every run in which replicators leave their budgets only with nothing charged still tracked, what each budget has
in flight is what is tracked of the packets charged to it, and so nothing once these are resolved. -/
theorem inFlight_tracked (s : BudgetSystem) (h : BudgetSystem.Reachable (fun s op => op.Released s) s) (budget : Nat) :
    s.inFlight budget = s.tracked budget ∧
    ((∀ r ∈ s.replicators, ∀ p ∈ r.pending, r.chargedTo p.packetId ≠ budget) → s.inFlight budget = 0) := by
  have hflight := (flightInv h).flight budget
  refine ⟨hflight, fun hnone => ?_⟩
  rw [hflight]
  refine List.sum_eq_zero fun n hn => ?_
  obtain ⟨r, hr, rfl⟩ := List.mem_map.mp hn
  have hempty : (r.pending.filter fun p => r.chargedTo p.packetId == budget) = [] :=
    List.filter_eq_nil_iff.mpr fun p hp => by simpa using hnone r hr p hp
  unfold AttachedReplicator.trackedOn
  rw [hempty]
  rfl

instance (s : BudgetSystem) : (op : BudgetOp) → Decidable (op.Released s)
  | .removeClient i => inferInstanceAs (Decidable (∀ r ∈ s.replicators[i]?, r.tracked = 0))
  | .setClientBandwidthBudget i budget =>
    inferInstanceAs (Decidable (∀ r ∈ s.replicators[i]?, budget = some r.bandwidth ∨ r.tracked = 0))
  | .createClientReplicator _ _ _ | .packets _ _ => .isTrue trivial

namespace Sample

def destroyPacket : TrackerOp := .sendPacket 5 1 [] 16 [⟨entity, 5, true, ⟨entity, 1, 1, 5, .destroy⟩⟩]

/-- Two replicators, of a server and of a replay server, on the first one's budget; each sends a packet. -/
def sharedBudget : List BudgetOp :=
  [.createClientReplicator (ReplicationServer.start adaptive settings).core 1 1,
    .createClientReplicator (ReplicationServer.start adaptive settings).core 1 1,
    .setClientBandwidthBudget 1 (some 0), .packets 0 destroyPacket, .packets 1 destroyPacket]

def budgetsAfter (ops : List BudgetOp) : BudgetSystem := ops.foldl BudgetSystem.exec {}

def adaptiveOnly : BudgetOp → Bool
  | .createClientReplicator core _ _ => core.options.bandwidth.enabled
  | _ => true

theorem budgets_reachable {meets : BudgetSystem → BudgetOp → Prop} [∀ s op, Decidable (meets s op)] :
    ∀ (ops : List BudgetOp) (s : BudgetSystem), BudgetSystem.Reachable meets s → (ops.all adaptiveOnly) = true →
    ((ops.foldl (fun (ok, s) op => (ok && decide (meets s op), s.exec op)) (true, s)).1 = true) →
    BudgetSystem.Reachable meets (ops.foldl BudgetSystem.exec s)
  | [], _, h, _, _ => h
  | op :: ops, s, h, hall, hok => by
    have hfalse : ∀ (ops : List BudgetOp) (s : BudgetSystem),
        (ops.foldl (fun (ok, s) op => (ok && decide (meets s op), s.exec op)) (false, s)).1 = false := by
      intro ops
      induction ops with
      | nil => exact fun _ => rfl
      | cons op ops ih => exact fun s => ih _
    rw [List.all_cons, Bool.and_eq_true] at hall
    simp only [List.foldl_cons, Bool.true_and] at hok ⊢
    by_cases hmeets : meets s op
    · simp only [hmeets, decide_true] at hok
      refine budgets_reachable ops (s.exec op) (.step op h hmeets ?_) hall.2 hok
      rintro core client peer rfl
      exact hall.1
    · simp only [hmeets, decide_false] at hok
      rw [hfalse] at hok
      cases hok

end Sample

theorem inFlight_tracked_shared :
    (Sample.budgetsAfter Sample.sharedBudget).tracked 0 ≠ 0 ∧
    (Sample.budgetsAfter Sample.sharedBudget).inFlight 0 = (Sample.budgetsAfter Sample.sharedBudget).tracked 0 := by
  refine ⟨by decide +kernel, (inFlight_tracked _ ?_ 0).1⟩
  exact Sample.budgets_reachable Sample.sharedBudget {} .start (by decide +kernel) (by decide +kernel)

/-- A client removed with a packet in flight leaves its bytes on the shared budget for good; a replicator attached to a
new budget releases its packet there. -/
theorem inFlight_left_behind :
    BudgetSystem.Reachable (fun _ _ => True)
      (Sample.budgetsAfter (Sample.sharedBudget ++ [.removeClient 1, .packets 0 (.acknowledgePacket 1)])) ∧
    (let s := Sample.budgetsAfter (Sample.sharedBudget ++ [.removeClient 1, .packets 0 (.acknowledgePacket 1)])
     s.replicators.map (·.pending) = [[]] ∧ s.tracked 0 = 0 ∧ s.inFlight 0 ≠ 0) ∧
    BudgetSystem.Reachable (fun _ _ => True)
      (Sample.budgetsAfter (Sample.sharedBudget ++ [.setClientBandwidthBudget 1 none, .packets 0 (.acknowledgePacket 1),
        .packets 1 (.acknowledgePacket 1)])) ∧
    (let s := Sample.budgetsAfter (Sample.sharedBudget ++ [.setClientBandwidthBudget 1 none,
        .packets 0 (.acknowledgePacket 1), .packets 1 (.acknowledgePacket 1)])
     s.replicators.map (·.pending) = [[], []] ∧ s.tracked 0 = 0 ∧ s.inFlight 0 ≠ 0) := by
  refine ⟨?_, by decide +kernel, ?_, by decide +kernel⟩
  · exact Sample.budgets_reachable _ {} .start (by decide +kernel) (by decide +kernel)
  · exact Sample.budgets_reachable _ {} .start (by decide +kernel) (by decide +kernel)

end AshiatoSync
