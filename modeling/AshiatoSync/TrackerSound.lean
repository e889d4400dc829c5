import AshiatoSync.Runs

/-!
# The acknowledgement tracker over whole runs

Packets are sent, acknowledged under arbitrary ids and cleaned up in any order,
whatever else happens to the entity states between.  What is tracked under an id
is the packet last sent with it, and a packet that leaves the tracker is reported
to the budget when it leaves.
-/

namespace AshiatoSync

open ServerClientReplicator

/-! ## Runs -/

structure TrackedRun where
  core : ServerCore
  client : ServerClientReplicator
  sent : List PendingPacketAck := []

inductive TrackerOp where
  | sendPacket (frame : SyncFrame) (entityCount : Nat) (records : List WrittenRecord) (recordsBits : Nat)
    (ackRecords : List PacketAckRecord)
  | acknowledgePacket (packetId : Nat)
  | cleanupPacketAcks

namespace TrackedRun

def pending (s : TrackedRun) : List PendingPacketAck := s.client.ackTracker.pendingPacketAcks

def maxPending (s : TrackedRun) : Nat := s.core.options.protocol.maxPendingPacketAcksPerClient

/-- The id `allocate_packet_id` gives to the next packet. -/
def nextId (s : TrackedRun) : Nat := (allocateId (maxPacketId s.core.options) s.client.ackTracker.nextPacketId).1

def sends (s : TrackedRun) : TrackerOp → List PendingPacketAck
  | .sendPacket frame entityCount _ recordsBits ackRecords =>
    if entityCount = 0 then []
    else
      [⟨s.nextId, frame, s.core.chargedPacketBytes
        (bytesForBits (serverUpdateHeaderBits s.core.options.protocol + recordsBits)), ackRecords⟩]
  | _ => []

/-- The packet an operation tracks: one without acknowledgement records is sent, but not tracked. -/
def tracks (s : TrackedRun) (op : TrackerOp) : List PendingPacketAck := (s.sends op).filter fun p => !p.records.isEmpty

def act (s : TrackedRun) (op : TrackerOp) : TrackedRun :=
  match op with
  | .sendPacket frame entityCount records recordsBits ackRecords =>
    { s with
      client := s.client.sendPacket s.core frame entityCount records recordsBits ackRecords
      sent := s.sends op ++ s.sent }
  | .acknowledgePacket packetId =>
    let result := s.client.acknowledgePacket s.core packetId
    { s with core := result.1, client := result.2.1 }
  | .cleanupPacketAcks => { s with client := s.client.cleanupPacketAcks s.core }

/-- Between the operations, anything may happen that leaves the tracker, the budget and the options alone. -/
inductive Reachable (options : ReplicationServerOptions) : TrackedRun → Prop
  | start {core : ServerCore} {client : ServerClientReplicator} (hoptions : core.options = options)
    (hnew : client.ackTracker = {}) : Reachable options { core, client }
  | act {s : TrackedRun} (op : TrackerOp) : Reachable options s → Reachable options (s.act op)
  | elsewhere {s : TrackedRun} (core : ServerCore) (client : ServerClientReplicator)
    (hoptions : core.options = options) (htracker : client.ackTracker = s.client.ackTracker) :
    Reachable options s → Reachable options { s with core, client }

end TrackedRun

/-! ## What holds of the tracker -/

/-- Packets under distinct ids of `idBits` bits, in the order they were sent, each the last one sent with its id. -/
structure TrackedIn (idBits : Nat) (sent pending : List PendingPacketAck) : Prop where
  distinct : (pending.map (·.packetId)).Nodup
  ids : ∀ p ∈ pending, p.packetId ≠ 0 ∧ p.packetId < 2 ^ idBits
  order : pending.reverse.Sublist sent
  recent : ∀ p ∈ pending, sent.find? (fun q => q.packetId == p.packetId) = some p

structure TrackerOk (s : TrackedRun) : Prop extends
    TrackedIn (packetIdBits s.core.options.protocol) s.sent s.pending where
  count : s.pending.length ≤ s.maxPending

theorem TrackedIn.sublist {idBits : Nat} {sent pending pending' : List PendingPacketAck}
    (h : TrackedIn idBits sent pending) (hsub : pending'.Sublist pending) : TrackedIn idBits sent pending' where
  distinct := h.distinct.sublist (hsub.map _)
  ids p hp := h.ids p (hsub.subset hp)
  order := hsub.reverse.trans h.order
  recent p hp := h.recent p (hsub.subset hp)

def BudgetEvent.isReport : BudgetEvent → Bool
  | .packetAcked _ _ _ => true
  | .packetLost _ _ => true
  | .packetSent _ => false
  | .spend _ => false

def reports (client : ServerClientReplicator) : List BudgetEvent := client.budget.filter BudgetEvent.isReport

/-- Every packet that was pending or tracked is pending after the operation or reported by it, once. -/
def ReportsLeft (s s' : TrackedRun) (tracked : List PendingPacketAck) : Prop :=
  ∃ left : List (PendingPacketAck × BudgetEvent),
    (∀ l ∈ left, l.2 = .packetLost s.core.frame l.1.chargedBytes ∨
      l.2 = .packetAcked l.1.sentFrame s.core.frame l.1.chargedBytes) ∧
    (s.pending ++ tracked).Perm (left.map Prod.fst ++ s'.pending) ∧
    reports s'.client = (left.map Prod.snd).reverse ++ reports s.client

/-! ## Ids -/

theorem packetIdBits_pos (maxPending : Nat) : 0 < packetIdBitsForMaxPending maxPending := by
  unfold packetIdBitsForMaxPending bitsForRange
  dsimp only
  split
  · exact Nat.succ_pos _
  · split
    · exact Nat.succ_pos _
    · split <;> exact Nat.succ_pos _

theorem packetIdBits_le (maxPending : Nat) : packetIdBitsForMaxPending maxPending ≤ 32 := by
  unfold packetIdBitsForMaxPending
  dsimp only
  split
  · exact Nat.le_refl _
  · split
    · exact Nat.le_refl _
    · rename_i h
      exact Nat.le_of_not_lt h

theorem maxPacketId_succ (options : ReplicationServerOptions) :
    maxPacketId options + 1 = 2 ^ packetIdBits options.protocol := by
  unfold maxPacketId packetIdMask packetIdBits
  have hle := packetIdBits_le options.protocol.maxPendingPacketAcksPerClient
  generalize packetIdBitsForMaxPending options.protocol.maxPendingPacketAcksPerClient = bits at hle ⊢
  split
  · obtain rfl : bits = 32 := by omega
    rfl
  · have hpos := Nat.two_pow_pos bits
    omega

theorem maxPacketId_pos (options : ReplicationServerOptions) : 0 < maxPacketId options := by
  have hsucc := maxPacketId_succ options
  have hbits := Nat.one_lt_two_pow (Nat.ne_of_gt (packetIdBits_pos options.protocol.maxPendingPacketAcksPerClient))
  unfold packetIdBits at hsucc
  omega

theorem allocateId_range {maxPacketId next : Nat} (hpos : 0 < maxPacketId) :
    0 < (allocateId maxPacketId next).1 ∧ (allocateId maxPacketId next).1 ≤ maxPacketId := by
  unfold allocateId
  dsimp only
  split <;> omega

theorem nextId_range (s : TrackedRun) :
    s.nextId ≠ 0 ∧ s.nextId < 2 ^ packetIdBits s.core.options.protocol := by
  have h := @allocateId_range _ s.client.ackTracker.nextPacketId (maxPacketId_pos s.core.options)
  rw [← maxPacketId_succ]
  exact ⟨Nat.ne_of_gt h.1, Nat.lt_succ_of_le h.2⟩

/-! ## Reports -/

theorem notifyLost_reports {core : ServerCore} (henabled : core.options.bandwidth.enabled = true)
    (client : ServerClientReplicator) (lost : List PendingPacketAck) :
    reports (client.notifyLost core lost) =
      (lost.map fun p => BudgetEvent.packetLost core.frame p.chargedBytes).reverse ++ reports client := by
  have hall : ((lost.map fun p => BudgetEvent.packetLost core.frame p.chargedBytes).reverse).filter
      BudgetEvent.isReport = (lost.map fun p => BudgetEvent.packetLost core.frame p.chargedBytes).reverse := by
    apply List.filter_eq_self.mpr
    intro event hevent
    obtain ⟨p, _, rfl⟩ := List.mem_map.mp (List.mem_reverse.mp hevent)
    rfl
  unfold notifyLost reports
  rw [if_pos henabled, List.filter_append, hall]

theorem ReportsLeft.lost {s s' : TrackedRun} {tracked : List PendingPacketAck} (lost : List PendingPacketAck)
    (hperm : (s.pending ++ tracked).Perm (lost ++ s'.pending))
    (hreports : reports s'.client =
      (lost.map fun p => BudgetEvent.packetLost s.core.frame p.chargedBytes).reverse ++ reports s.client) :
    ReportsLeft s s' tracked := by
  refine ⟨lost.map fun p => (p, .packetLost s.core.frame p.chargedBytes), ?_, ?_, ?_⟩
  · intro l hl
    obtain ⟨p, _, rfl⟩ := List.mem_map.mp hl
    exact .inl rfl
  · rw [List.map_map]
    simpa [Function.comp_def] using hperm
  · rw [List.map_map]
    exact hreports

/-! ## Sending -/

theorem trackPacketAck_tracker (client : ServerClientReplicator) (packetId : Nat) (frame : SyncFrame) (charged : Nat)
    (ackRecords : List PacketAckRecord) :
    (client.trackPacketAck packetId frame charged ackRecords).ackTracker.pendingPacketAcks =
      client.ackTracker.pendingPacketAcks ++
        [(⟨packetId, frame, charged, ackRecords⟩ : PendingPacketAck)].filter (fun p => !p.records.isEmpty) ∧
    reports (client.trackPacketAck packetId frame charged ackRecords) = reports client := by
  unfold trackPacketAck
  cases hempty : ackRecords.isEmpty with
  | true => simp [hempty]
  | false =>
    simp only [Bool.false_eq_true, if_false]
    split <;> simp [hempty, setPacketAcks, reports, BudgetEvent.isReport]

theorem enforce_tracker (core : ServerCore) (client : ServerClientReplicator) :
    let dropCount := client.ackTracker.pendingPacketAcks.length - core.options.protocol.maxPendingPacketAcksPerClient
    (client.enforcePendingPacketAckLimit core).ackTracker.pendingPacketAcks =
      client.ackTracker.pendingPacketAcks.drop dropCount ∧
    (core.options.bandwidth.enabled = true → reports (client.enforcePendingPacketAckLimit core) =
      ((client.ackTracker.pendingPacketAcks.take dropCount).map fun p =>
        BudgetEvent.packetLost core.frame p.chargedBytes).reverse ++ reports client) :=
  ⟨rfl, fun henabled => notifyLost_reports henabled client _⟩

/-- What a sent packet does to the tracker: it takes the place of an older one with its id, and the oldest are dropped
beyond the limit. -/
theorem sendPacket_tracker (s : TrackedRun) (frame : SyncFrame) {entityCount : Nat} (hcount : entityCount ≠ 0)
    (records : List WrittenRecord) (recordsBits : Nat) (ackRecords : List PacketAckRecord) :
    let op := TrackerOp.sendPacket frame entityCount records recordsBits ackRecords
    let candidates := (s.pending.filter fun p => !(p.packetId == s.nextId)) ++ s.tracks op
    (s.act op).pending = candidates.drop (candidates.length - s.maxPending) ∧
    (s.core.options.bandwidth.enabled = true → reports (s.act op).client =
      (((s.pending.filter fun p => p.packetId == s.nextId) ++
        candidates.take (candidates.length - s.maxPending)).map fun p =>
          BudgetEvent.packetLost s.core.frame p.chargedBytes).reverse ++ reports s.client) := by
  intro op candidates
  set charged := s.core.chargedPacketBytes
    (bytesForBits (serverUpdateHeaderBits s.core.options.protocol + recordsBits)) with hcharged
  set allocated := (s.client.allocatePacketId s.core).1 with hallocated
  set tracked := allocated.trackPacketAck s.nextId frame charged ackRecords with htracked
  have htracks : s.tracks op =
      [(⟨s.nextId, frame, charged, ackRecords⟩ : PendingPacketAck)].filter fun p => !p.records.isEmpty := by
    simp only [TrackedRun.tracks, TrackedRun.sends, op, if_neg hcount, hcharged]
  obtain ⟨hpending, hreports⟩ := trackPacketAck_tracker allocated s.nextId frame charged ackRecords
  have hcandidates : tracked.ackTracker.pendingPacketAcks = candidates := by
    rw [htracked, hpending, ← htracks]
    rfl
  obtain ⟨hdrop, hlost⟩ := enforce_tracker s.core { tracked with budget := .spend charged :: tracked.budget }
  have hact : (s.act op).client.ackTracker =
        (enforcePendingPacketAckLimit s.core { tracked with budget := .spend charged :: tracked.budget }).ackTracker ∧
      (s.act op).client.budget =
        (enforcePendingPacketAckLimit s.core { tracked with budget := .spend charged :: tracked.budget }).budget := by
    simp only [TrackedRun.act, op, sendPacket, if_neg hcount]
    exact ⟨rfl, rfl⟩
  constructor
  case left =>
    unfold TrackedRun.pending
    rw [hact.1, hdrop]
    exact congrArg (fun acks : List PendingPacketAck => acks.drop (acks.length - s.maxPending)) hcandidates
  case right =>
    intro henabled
    have hfirst : reports allocated = _ := notifyLost_reports henabled s.client _
    have hspend : reports { tracked with budget := .spend charged :: tracked.budget } = reports allocated := hreports
    have hall : reports (s.act op).client = _ :=
      (congrArg (List.filter BudgetEvent.isReport) hact.2).trans (hlost henabled)
    rw [hall, hspend, hfirst, List.map_append, List.reverse_append, List.append_assoc]
    simp only [hcandidates]
    rfl

theorem TrackerOk.candidates {s : TrackedRun} (h : TrackerOk s) {new : PendingPacketAck}
    (hid : new.packetId = s.nextId) {tracked : List PendingPacketAck} (htracked : tracked.Sublist [new]) :
    TrackedIn (packetIdBits s.core.options.protocol) (new :: s.sent)
      ((s.pending.filter fun p => !(p.packetId == s.nextId)) ++ tracked) := by
  have hothers : ∀ p ∈ s.pending.filter (fun p => !(p.packetId == s.nextId)), p ∈ s.pending ∧
      p.packetId ≠ s.nextId := by
    intro p hp
    obtain ⟨hmem, hne⟩ := List.mem_filter.mp hp
    exact ⟨hmem, by simpa using hne⟩
  have hnew : ∀ p ∈ tracked, p = new := fun p hp => List.mem_singleton.mp (htracked.subset hp)
  constructor
  case distinct =>
    rw [List.map_append]
    apply List.nodup_append.mpr
    refine ⟨h.distinct.sublist (List.filter_sublist.map _), (List.nodup_singleton _).sublist (htracked.map _), ?_⟩
    intro a ha b hb hab
    obtain ⟨p, hp, rfl⟩ := List.mem_map.mp ha
    obtain ⟨q, hq, rfl⟩ := List.mem_map.mp hb
    rw [hnew q hq, hid] at hab
    exact (hothers p hp).2 hab
  case ids =>
    intro p hp
    rcases List.mem_append.mp hp with hp | hp
    · exact h.ids p (hothers p hp).1
    · rw [hnew p hp, hid]
      exact nextId_range s
  case order =>
    rw [List.reverse_append]
    have hfront : tracked.reverse.Sublist [new] := by simpa using htracked.reverse
    exact hfront.append ((List.filter_sublist.reverse).trans h.order)
  case recent =>
    intro p hp
    rcases List.mem_append.mp hp with hp | hp
    · obtain ⟨hmem, hne⟩ := hothers p hp
      rw [List.find?_cons_of_neg (by simpa [hid] using Ne.symm hne)]
      exact h.recent p hmem
    · obtain rfl := hnew p hp
      exact List.find?_cons_of_pos (by simp)

theorem TrackerOk.sendPacket {s : TrackedRun} (h : TrackerOk s) (frame : SyncFrame) (entityCount : Nat)
    (records : List WrittenRecord) (recordsBits : Nat) (ackRecords : List PacketAckRecord) :
    TrackerOk (s.act (.sendPacket frame entityCount records recordsBits ackRecords)) := by
  by_cases hcount : entityCount = 0
  case pos =>
    have hsame : s.act (.sendPacket frame entityCount records recordsBits ackRecords) = s := by
      simp [TrackedRun.act, TrackedRun.sends, ServerClientReplicator.sendPacket, hcount]
    rw [hsame]
    exact h
  case neg =>
    obtain ⟨hpending, _⟩ := sendPacket_tracker s frame hcount records recordsBits ackRecords
    constructor
    case count =>
      rw [hpending, List.length_drop]
      change _ ≤ s.maxPending
      omega
    case toTrackedIn =>
      rw [hpending]
      refine TrackedIn.sublist ?_ (List.drop_sublist _ _)
      simp only [TrackedRun.act, TrackedRun.sends, TrackedRun.tracks, if_neg hcount]
      exact h.candidates rfl List.filter_sublist

theorem ReportsLeft.sendPacket {s : TrackedRun} (henabled : s.core.options.bandwidth.enabled = true)
    (frame : SyncFrame) (entityCount : Nat) (records : List WrittenRecord) (recordsBits : Nat)
    (ackRecords : List PacketAckRecord) :
    let op := TrackerOp.sendPacket frame entityCount records recordsBits ackRecords
    ReportsLeft s (s.act op) (s.tracks op) := by
  intro op
  by_cases hcount : entityCount = 0
  case pos =>
    have hsame : s.act op = s := by
      simp [op, TrackedRun.act, TrackedRun.sends, ServerClientReplicator.sendPacket, hcount]
    have hnone : s.tracks op = [] := by simp [op, TrackedRun.tracks, TrackedRun.sends, hcount]
    rw [hsame, hnone]
    refine .lost [] ?_ rfl
    rw [List.append_nil]
    exact .refl _
  case neg =>
    obtain ⟨hpending, hreports⟩ := sendPacket_tracker s frame hcount records recordsBits ackRecords
    refine .lost _ ?_ (hreports henabled)
    rw [hpending, List.append_assoc, List.take_append_drop, ← List.append_assoc]
    exact (List.filter_append_perm _ _).symm.append_right _

/-! ## Acknowledgements and clean-up -/

theorem acknowledgeRecord_budget (core : ServerCore) (client : ServerClientReplicator) (packet : PendingPacketAck)
    (record : PacketAckRecord) : (client.acknowledgeRecord core packet record).2.1.budget = client.budget := by
  unfold acknowledgeRecord
  split
  · obtain ⟨calls, hlog⟩ := logRetired_eq client packet record
    simp only [hlog, acknowledgeDestroy]
    split
    · rfl
    · simp only [freeNetworkId]
      split
      · rfl
      · split <;> rfl
  · split
    · rfl
    · rename_i slot _
      rcases acknowledgeEntity_spec core client slot record.frame with
        ⟨-, h⟩ | ⟨s, found, eligible, -, -, -, -, -, h⟩
      · rw [h]
      · rw [h]
        split <;> rfl

theorem acknowledgeRecord_sameSlots (core : ServerCore) (client : ServerClientReplicator) (packet : PendingPacketAck)
    (record : PacketAckRecord) : SameSlots core (client.acknowledgeRecord core packet record).1 := by
  unfold acknowledgeRecord
  split
  · exact .refl _
  · split
    · exact .refl _
    · exact acknowledgeEntity_sameSlots ..

/-- Applying the records of a packet leaves the tracker, the budget and the options alone. -/
theorem acknowledgeRecords_frame (core : ServerCore) (client : ServerClientReplicator) (packet : PendingPacketAck) :
    (client.acknowledgeRecords core packet).2.1.ackTracker = client.ackTracker ∧
    (client.acknowledgeRecords core packet).2.1.budget = client.budget ∧
    SameSlots core (client.acknowledgeRecords core packet).1 := by
  apply Monadic.foldl_inv (fun _ (acc : ServerCore × ServerClientReplicator × Bool) =>
    acc.2.1.ackTracker = client.ackTracker ∧ acc.2.1.budget = client.budget ∧ SameSlots core acc.1)
  · rintro record records ⟨core', client', allValid⟩ ⟨htracker, hbudget, hsame⟩
    exact ⟨(acknowledgeRecord_tracker core' client' packet record).trans htracker,
      (acknowledgeRecord_budget core' client' packet record).trans hbudget,
      hsame.trans (acknowledgeRecord_sameSlots core' client' packet record)⟩
  · exact ⟨rfl, rfl, .refl _⟩

theorem find?_perm_eraseP {α : Type} {p : α → Bool} {l : List α} {a : α} (h : l.find? p = some a) :
    l.Perm ([a] ++ l.eraseP p) := by
  obtain ⟨hp, before, after, rfl, hbefore⟩ := List.find?_eq_some_iff_append.mp h
  have hnot : ∀ b ∈ before, ¬p b = true := fun b hb => by simpa using hbefore b hb
  rw [List.eraseP_append_right _ hnot, List.eraseP_cons_of_pos hp]
  exact List.perm_middle

/-- An acknowledged id applies the records of the packet under it and takes it out; an unknown one does nothing. -/
theorem acknowledgePacket_tracker (core : ServerCore) (client : ServerClientReplicator) (packetId : Nat) :
    match client.ackTracker.pendingPacketAcks.find? fun p => p.packetId == packetId with
    | none => client.acknowledgePacket core packetId = (core, client, false)
    | some found =>
      let applied := client.acknowledgeRecords core found
      client.acknowledgePacket core packetId =
        (applied.1, { applied.2.1 with
          budget := (if core.options.bandwidth.enabled then
            [BudgetEvent.packetAcked found.sentFrame core.frame found.chargedBytes] else []) ++ client.budget
          ackTracker := { client.ackTracker with
            pendingPacketAcks := client.ackTracker.pendingPacketAcks.eraseP fun p => p.packetId == packetId } },
          applied.2.2) := by
  unfold acknowledgePacket
  cases client.ackTracker.pendingPacketAcks.find? fun p => p.packetId == packetId with
  | none => rfl
  | some found =>
    obtain ⟨htracker, hbudget, hsame⟩ := acknowledgeRecords_frame core client found
    dsimp only
    rw [hsame.options, hsame.frame]
    split
    · simp only [setPacketAcks, htracker, hbudget, List.singleton_append]
    · simp only [setPacketAcks, htracker, ← hbudget, List.nil_append]

theorem TrackerOk.acknowledgePacket {s : TrackedRun} (h : TrackerOk s) (packetId : Nat) :
    TrackerOk (s.act (.acknowledgePacket packetId)) ∧
    (s.core.options.bandwidth.enabled = true → ReportsLeft s (s.act (.acknowledgePacket packetId)) []) := by
  have hspec := acknowledgePacket_tracker s.core s.client packetId
  cases hfind : s.client.ackTracker.pendingPacketAcks.find? fun p => p.packetId == packetId with
  | none =>
    rw [hfind] at hspec
    have hsame : s.act (.acknowledgePacket packetId) = s := by
      simp only [TrackedRun.act]
      rw [hspec]
    rw [hsame]
    exact ⟨h, fun _ => .lost [] (by rw [List.append_nil]; exact .refl _) rfl⟩
  | some found =>
    rw [hfind] at hspec
    obtain ⟨_, _, hslots⟩ := acknowledgeRecords_frame s.core s.client found
    have hpending : (s.act (.acknowledgePacket packetId)).pending =
        s.pending.eraseP fun p => p.packetId == packetId := by
      simp only [TrackedRun.act, TrackedRun.pending]
      rw [hspec]
    have hoptions : (s.act (.acknowledgePacket packetId)).core.options = s.core.options := by
      simp only [TrackedRun.act]
      rw [hspec]
      exact hslots.options
    constructor
    case left =>
      constructor
      case toTrackedIn =>
        rw [hpending, hoptions]
        exact h.toTrackedIn.sublist List.eraseP_sublist
      case count =>
        rw [hpending, TrackedRun.maxPending, hoptions]
        exact Nat.le_trans List.eraseP_sublist.length_le h.count
    case right =>
      intro henabled
      refine ⟨[(found, .packetAcked found.sentFrame s.core.frame found.chargedBytes)], ?_, ?_, ?_⟩
      · intro l hl
        obtain rfl := List.mem_singleton.mp hl
        exact .inr rfl
      · rw [List.append_nil, hpending]
        exact find?_perm_eraseP hfind
      · simp only [TrackedRun.act]
        rw [hspec]
        simp only [henabled, if_true]
        exact List.filter_cons_of_pos rfl

theorem TrackerOk.cleanupPacketAcks {s : TrackedRun} (h : TrackerOk s) :
    TrackerOk (s.act .cleanupPacketAcks) ∧
    (s.core.options.bandwidth.enabled = true → ReportsLeft s (s.act .cleanupPacketAcks) []) := by
  set live := fun p : PendingPacketAck => p.records.any fun record => s.client.packetAckRecordPending s.core record
    with hlive
  have hpending : (s.act .cleanupPacketAcks).pending = s.pending.filter live := rfl
  constructor
  case left =>
    constructor
    case toTrackedIn => exact h.toTrackedIn.sublist List.filter_sublist
    case count => exact Nat.le_trans List.filter_sublist.length_le h.count
  case right =>
    intro henabled
    refine .lost (s.pending.filter fun p => !live p) ?_ (notifyLost_reports henabled s.client _)
    rw [List.append_nil, hpending]
    exact ((List.filter_append_perm live s.pending).symm).trans List.perm_append_comm

/-! ## Whole runs -/

theorem TrackedRun.Reachable.options {options : ReplicationServerOptions} {s : TrackedRun} (h : s.Reachable options) :
    s.core.options = options := by
  induction h with
  | start hoptions _ => exact hoptions
  | elsewhere core client hoptions _ _ _ => exact hoptions
  | @act s op _ ih =>
    cases op with
    | sendPacket frame entityCount records recordsBits ackRecords => exact ih
    | cleanupPacketAcks => exact ih
    | acknowledgePacket packetId =>
      have hspec := acknowledgePacket_tracker s.core s.client packetId
      simp only [TrackedRun.act]
      cases hfind : s.client.ackTracker.pendingPacketAcks.find? fun p => p.packetId == packetId with
      | none =>
        rw [hfind] at hspec
        rw [hspec]
        exact ih
      | some found =>
        rw [hfind] at hspec
        rw [hspec]
        exact (acknowledgeRecords_frame s.core s.client found).2.2.options.trans ih

theorem TrackedRun.Reachable.ok {options : ReplicationServerOptions} {s : TrackedRun} (h : s.Reachable options) :
    TrackerOk s := by
  induction h with
  | @start core client hoptions hnew =>
    have hnone : (⟨core, client, []⟩ : TrackedRun).pending = [] := by rw [TrackedRun.pending, hnew]
    refine ⟨⟨?_, ?_, ?_, ?_⟩, ?_⟩ <;> simp [hnone]
  | @elsewhere s core client hoptions htracker hs ih =>
    have hsame : (⟨core, client, s.sent⟩ : TrackedRun).pending = s.pending := by
      rw [TrackedRun.pending, htracker, TrackedRun.pending]
    have hopt : core.options = s.core.options := hoptions.trans hs.options.symm
    constructor
    case toTrackedIn =>
      rw [hsame, hopt]
      exact ih.toTrackedIn
    case count =>
      rw [hsame, TrackedRun.maxPending, hopt]
      exact ih.count
  | act op _ ih =>
    cases op with
    | sendPacket frame entityCount records recordsBits ackRecords => exact ih.sendPacket ..
    | acknowledgePacket packetId => exact (ih.acknowledgePacket packetId).1
    | cleanupPacketAcks => exact ih.cleanupPacketAcks.1

namespace Sample

def adaptive : ReplicationServerOptions := { options with bandwidth := { enabled := true } }

end Sample

end AshiatoSync
