import AshiatoSync.SendRuns

/-!
# What holds after every run

Reference counts are exact and network ids are partitioned in every state a
server can reach, whatever the calls and their order.
-/

namespace AshiatoSync

open ServerClientReplicator FreeList

/-! ## Runs are sequences of moves -/

namespace ReplicationServer

def run (server : ReplicationServer) (ops : List ServerOp) : Except StdException ReplicationServer :=
  ops.foldlM exec server

/-- The states of every run whose frame numbers are in order. -/
inductive InOrderReachable (options : ReplicationServerOptions) (settings : SyncSettings) :
    ReplicationServer → Prop where
  | start : InOrderReachable options settings (start options settings)
  | step {server server' : ReplicationServer} (op : ServerOp) : InOrderReachable options settings server →
      op.InOrder server → server.exec op = .ok server' → InOrderReachable options settings server'

theorem Reachable.run {options : ReplicationServerOptions} {settings : SyncSettings} :
    ∀ {ops : List ServerOp} {server server' : ReplicationServer}, Reachable options settings server →
    server.run ops = .ok server' → Reachable options settings server'
  | [], server, server', h, hrun => by
    obtain rfl := Except.ok.inj hrun
    exact h
  | op :: ops, server, server', h, hrun => by
    simp only [ReplicationServer.run, List.foldlM_cons, Monadic.bind_eq_ok] at hrun
    obtain ⟨next, hexec, hrun⟩ := hrun
    exact Reachable.run (.step op h hexec) hrun

end ReplicationServer

open ReplicationServer

section

variable {options : ReplicationServerOptions} {settings : SyncSettings} {s : ReplicationServer}

theorem moves_start_inv {strict : Prop} (m : Moves strict (start options settings) s) :
    ServerInv s ∧ ∀ client ∈ s.clients, IdInv client := by
  have hstart := ServerInv.start options settings
  exact ⟨hstart.moves m, (idRule strict).moves hstart m (by simp [ReplicationServer.start])⟩

theorem reachable_moves (h : Reachable options settings s) : Moves False (start options settings) s := by
  induction h with
  | start => exact .refl
  | step op _ hexec ih =>
    obtain ⟨hs, hids⟩ := moves_start_inv ih
    exact ih.trans (exec_moves hs hids False.elim hexec)

theorem inOrder_moves (h : InOrderReachable options settings s) : Moves True (start options settings) s := by
  induction h with
  | start => exact .refl
  | step op _ hop hexec ih =>
    obtain ⟨hs, hids⟩ := moves_start_inv ih
    exact ih.trans (exec_moves hs hids (fun _ => hop) hexec)

theorem ClientRule.inOrder {P : ServerCore → ServerClientReplicator → Prop} (rule : ClientRule True P)
    (h : InOrderReachable options settings s) : ∀ client ∈ s.clients, P s.core client :=
  rule.moves (ServerInv.start options settings) (inOrder_moves h) (by simp [ReplicationServer.start])

theorem ClientRule.reachable {P : ServerCore → ServerClientReplicator → Prop} (rule : ClientRule False P)
    (h : Reachable options settings s) : ∀ client ∈ s.clients, P s.core client :=
  rule.moves (ServerInv.start options settings) (reachable_moves h) (by simp [ReplicationServer.start])

theorem ReplicationServer.InOrderReachable.reachable (h : InOrderReachable options settings s) :
    Reachable options settings s := by
  induction h with
  | start => exact .start
  | step op _ _ hexec ih => exact .step op ih hexec

end

/-! ## A sample server

One archetype of two byte components, a cue of bytes, and one client of priority 1. -/

namespace Sample

def floats : FloatOps where
  lt a b := a.toNat < b.toNat
  add a b := if a = 0 then b else if b = 0 then a else 0x40000000
  sub a _ := a
  relevanceFrames _ := some 60

def bytesToBits (bytes : Bytes) : Bits := bytes.flatMap fun b => unsignedBits b.toNat 8

def byteOps : SyncComponentOps where
  quantizedSize := 1
  referencesEntities := false
  quantize := id
  serialize _ current _ := .done (bytesToBits current)
  deserialize _ bits _ := .done [UInt8.ofNat (Nat.ofBits fun i : Fin 8 => bits.getD i false)] (bits.drop 8)
  pushToRegistry := some
  interpolate := none
  shouldRollBack := some fun predicted authoritative => predicted != authoritative

def archetype : SyncArchetype where
  tags := []
  components :=
    [{ component := 0, audience := .all, ops := byteOps }, { component := 1, audience := .all, ops := byteOps }]

def settings : SyncSettings where
  archetypes := [archetype]
  componentOps := [0, 1]
  cueOps := [{
    serialize := fun bytes => .done (bytesToBits bytes)
    deserialize := some fun bits _ =>
      .done [UInt8.ofNat (Nat.ofBits fun i : Fin 8 => bits.getD i false)] (bits.drop 8)
    equals := some (· == ·), play := some fun _ _ _ => true, rollback := some fun _ _ => true
    referencesEntities := false }]

def options : ReplicationServerOptions where
  entityReplicationDecisionIntervalFrames := 0
  floats

def registry (entities : List Entity) (values : List (Option UInt8)) : Registry where
  alive e := e ∈ entities
  replicated e := if e ∈ entities then some 0 else none
  replicatedView := entities
  networkOwner _ := none
  get _ component := values[component]?.join.map ([·])
  hasTag _ _ := false

/-- All components of the `dirty` entities changed; the `added` ones became replicated, the `removed` ones stopped. -/
def dirtyView (dirty added removed : List Entity) : DirtyView where
  dirty
    | .component _ => dirty
    | _ => []
  added
    | .replicated => added
    | _ => []
  removed
    | .replicated => removed
    | _ => []

def decider (mask : Mask) : Entity → EntityReplicationDecision := fun _ => ⟨0x3f800000, mask⟩

def entity : Entity := ⟨1, 1⟩

def advance (frame : SyncFrame) (entities dirty added removed : List Entity) (values : List (Option UInt8))
    (cues : List QueuedSyncCue := []) : ServerOp :=
  .advance frame (registry entities values) (dirtyView dirty added removed) cues

def send (entities : List Entity) (values : List (Option UInt8)) (mask : Mask := allComponents) : ServerOp :=
  .send 1 (registry entities values) 0 100000 (decider mask)

def after (ops : List ServerOp) : ReplicationServer :=
  match (start options settings).run ops with
  | .ok server => server
  | .error _ => start options settings

def ordered (server : ReplicationServer) : List ServerOp → Bool
  | [] => true
  | op :: ops => op.InOrder server && match server.exec op with
    | .ok server => ordered server ops
    | .error _ => false

theorem ordered_run {options : ReplicationServerOptions} {settings : SyncSettings} : ∀ {server : ReplicationServer}
    {ops : List ServerOp}, InOrderReachable options settings server → ordered server ops = true →
    ∃ server', server.run ops = .ok server' ∧ InOrderReachable options settings server'
  | server, [], hr, _ => ⟨server, rfl, hr⟩
  | server, op :: ops, hr, h => by
    simp only [ordered, Bool.and_eq_true, decide_eq_true_eq] at h
    obtain ⟨hop, h⟩ := h
    split at h
    · rename_i server' hexec
      obtain ⟨server'', hrun, hr'⟩ := ordered_run (.step op hr hop hexec) h
      refine ⟨server'', ?_, hr'⟩
      simp only [ReplicationServer.run, List.foldlM_cons, Monadic.bind_eq_ok]
      exact ⟨server', hexec, hrun⟩
    · cases h

theorem inOrder (ops : List ServerOp) (h : ordered (start options settings) ops = true) :
    InOrderReachable options settings (after ops) := by
  obtain ⟨server, hrun, hr⟩ := ordered_run .start h
  simp only [after, hrun]
  exact hr

def client (ops : List ServerOp) : ServerClientReplicator := (after ops).clients.headD { id := 0, peer := 0 }

def twoFrames : List ServerOp := [.addClient 1 1, advance 1 [entity] [] [] [] [some 7, some 9],
  send [entity] [some 7, some 9], .acks 1 [1], advance 2 [entity] [entity] [] [] [some 8, some 9],
  send [entity] [some 8, some 9]]

end Sample

section

variable {options : ReplicationServerOptions} {settings : SyncSettings} {s : ReplicationServer}

/-! ## Reference counts -/

/-- Every frame is alive exactly while it is referenced, its count is the number of baselines and pending entries
that hold it, the free list holds each dead index once, and a held frame is one of its holder's slot and archetype. -/
theorem quantizedFrames_exact (h : Reachable options settings s) :
    (∀ (q : Nat) (f : QuantizedFrame), s.core.quantizedFrames[q]? = some f →
      (f.active = true ↔ 0 < f.refCount) ∧ f.refCount = s.holds q ∧
      s.core.freeQuantizedFrames.count q = if f.active then 0 else 1) ∧
    (∀ q, s.core.quantizedFrames[q]? = none → s.holds q = 0 ∧ q ∉ s.core.freeQuantizedFrames) ∧
    ∀ client ∈ s.clients, ∀ (slot : Nat) (state : ClientEntityState), client.states[slot]? = some state →
      ∀ q, 0 < state.holds q → ∃ f r, s.core.quantizedFrames[q]? = some f ∧ f.active = true ∧
        s.core.replicated[slot]? = some r ∧ f.slot = slot ∧ f.archetype = r.archetype := by
  obtain ⟨hs, -⟩ := moves_start_inv (reachable_moves h)
  refine ⟨?_, ?_, ?_⟩
  · intro q f hf
    refine ⟨hs.ref.alive q f hf, hs.ref.count q f hf, ?_⟩
    have hfree := hs.ref.free q
    cases ha : f.active with
    | true =>
      rw [if_pos rfl]
      exact List.count_eq_zero.mpr (hs.ref.not_free hf ha)
    | false => exact List.count_eq_one_of_mem hs.ref.freeNodup (hfree.mpr ⟨f, hf, ha⟩)
  · intro q hnone
    constructor
    · by_contra hne
      have := hs.ref.range q (Nat.pos_of_ne_zero hne)
      rw [List.getElem?_eq_none_iff] at hnone
      omega
    · rw [hs.ref.free q, hnone]
      simp
  · intro client hc slot state hst q hq
    obtain ⟨f, hf⟩ := (hs.held client hc).holds hst hq
    obtain ⟨r, hr, harch⟩ := hf.archetype
    exact ⟨f, r, hf.get, hf.active, hr, hf.ofSlot, harch⟩

theorem quantizedFrames_exact_twoFrames :
    (Sample.after Sample.twoFrames).core.quantizedFrames.map (·.refCount) = [1, 1] ∧
    ∀ (q : Nat) (f : QuantizedFrame), (Sample.after Sample.twoFrames).core.quantizedFrames[q]? = some f →
      f.refCount = (Sample.after Sample.twoFrames).holds q :=
  ⟨by decide +kernel, fun q f hf =>
    ((quantizedFrames_exact (Sample.inOrder _ (by decide +kernel)).reachable).1 q f hf).2.1⟩

/-! ## Network ids -/

def IdActive (client : ServerClientReplicator) (id : Nat) (e : NetworkIdEntry) : Prop :=
  e.active = true ∧ e.pendingDestroy = false ∧
  (∃ s, client.states[e.replicatedIndexOrNextFreeNetworkId]? = some s ∧ s.hasNetworkId = true ∧
  s.networkId = id ∧
    s.networkVersion = e.version) ∧
  ∀ (slot : Nat) (s : ClientEntityState), client.states[slot]? = some s → s.hasNetworkId = true →
  s.networkId = id →
    slot = e.replicatedIndexOrNextFreeNetworkId

def IdUnowned (client : ServerClientReplicator) (id : Nat) : Prop :=
  ∀ (slot : Nat) (s : ClientEntityState), client.states[slot]? = some s → s.hasNetworkId = true →
  s.networkId ≠ id

def IdPendingDestroy (client : ServerClientReplicator) (id : Nat) (e : NetworkIdEntry) : Prop :=
  e.active = false ∧ e.pendingDestroy = true ∧ (client.destroys.map (·.networkId)).count id = 1 ∧
  IdUnowned client id

def IdFree (client : ServerClientReplicator) (free : List Nat) (id : Nat) (e : NetworkIdEntry) : Prop :=
  e.active = false ∧ e.pendingDestroy = false ∧ free.count id = 1 ∧ IdUnowned client id ∧
    id ∉ client.destroys.map (·.networkId)

/-- Every id is in exactly one of the three states, the free list is acyclic, ids stay below the wire's limit, and no
two states or queued destroys share an id. -/
theorem networkIds_partition (h : Reachable options settings s) (client : ServerClientReplicator)
    (hc : client ∈ s.clients) :
    (∃ free, Linked (nextFree client.networkIds) client.networkIds.freeNetworkId free ∧ free.Nodup ∧
      ∀ id, 0 < id → id < client.networkIds.entries.length → ∃ e, client.networkIds.entries[id]? = some e ∧
        (IdActive client id e ∧ id ∉ free ∧ id ∉ client.destroys.map (·.networkId) ∨
          IdPendingDestroy client id e ∧ id ∉ free ∨ IdFree client free id e)) ∧
    (∀ id, client.networkIds.entries.length ≤ id → IdUnowned client id ∧
    id ∉ client.destroys.map (·.networkId)) ∧
    client.networkIds.entries.length ≤ maxClientLocalWireNetworkId + 1 := by
  obtain ⟨-, hids⟩ := moves_start_inv (reachable_moves h)
  have hid := hids client hc
  obtain ⟨free, hlinked, hnodup, hmem⟩ := hid.free
  have hentry : ∀ {id : Nat} {e : NetworkIdEntry}, client.networkIds.entry? id = some e →
      id < client.networkIds.entries.length := by
    intro id e he
    simp only [NetworkIds.entry?] at he
    split at he
    · cases he
    · exact (List.getElem?_eq_some_iff.mp he).1
  refine ⟨⟨free, hlinked, hnodup, ?_⟩, ?_, hid.bound⟩
  · intro id hpos hlt
    have he : client.networkIds.entries[id]? = some client.networkIds.entries[id] := List.getElem?_eq_getElem hlt
    refine ⟨_, he, ?_⟩
    generalize client.networkIds.entries[id] = e at he
    have he' : client.networkIds.entry? id = some e := by
      simp [NetworkIds.entry?, Nat.ne_of_gt hpos, he]
    have hdestroyed : id ∈ client.destroys.map (·.networkId) → e.active = false ∧ e.pendingDestroy = true := by
      intro hin
      obtain ⟨d, hd, rfl⟩ := List.mem_map.mp hin
      obtain ⟨e₁, he₁, ha, hp, -⟩ := hid.destroyed d hd
      rw [he'] at he₁
      obtain rfl := Option.some.inj he₁
      exact ⟨ha, hp⟩
    have hunowned : e.active = false → IdUnowned client id := by
      rintro ha slot st hst hsid rfl
      obtain ⟨e₁, he₁, ha₁, -⟩ := hid.owner slot st hst hsid
      rw [he'] at he₁
      obtain rfl := Option.some.inj he₁
      simp [ha] at ha₁
    have hfree : id ∈ free ↔ e.active = false ∧ e.pendingDestroy = false := by
      rw [hmem id, he']
      simp
    cases ha : e.active with
    | true =>
      left
      obtain ⟨st, hst, hsid, hnet⟩ := hid.active id e he' ha
      obtain ⟨e₁, he₁, -, hp, -, hv⟩ := hid.owner _ st hst hsid
      rw [hnet, he'] at he₁
      obtain rfl := Option.some.inj he₁
      refine ⟨⟨ha, hp, ⟨st, hst, hsid, hnet, hv.symm⟩, ?_⟩, ?_, ?_⟩
      · rintro slot st' hst' hsid' rfl
        obtain ⟨e₂, he₂, -, -, hslot, -⟩ := hid.owner slot st' hst' hsid'
        rw [he'] at he₂
        obtain rfl := Option.some.inj he₂
        exact hslot.symm
      · simp [hfree, ha]
      · intro hin
        simp [(hdestroyed hin).1] at ha
    | false =>
      cases hp : e.pendingDestroy with
      | true =>
        right; left
        exact ⟨⟨ha, hp, List.count_eq_one_of_mem hid.destroyNodup (hid.pending id e he' hp), hunowned ha⟩,
          by simp [hfree, hp]⟩
      | false =>
        right; right
        refine ⟨ha, hp, List.count_eq_one_of_mem hnodup (hfree.mpr ⟨ha, hp⟩), hunowned ha, fun hin => ?_⟩
        simp [(hdestroyed hin).2] at hp
  · intro id hle
    constructor
    · rintro slot st hst hsid rfl
      obtain ⟨e, he, -⟩ := hid.owner slot st hst hsid
      have := hentry he
      omega
    · intro hin
      obtain ⟨d, hd, rfl⟩ := List.mem_map.mp hin
      obtain ⟨e, he, -⟩ := hid.destroyed d hd
      have := hentry he
      omega

theorem networkIds_partition_twoFrames :
    (Sample.client Sample.twoFrames).networkIds.entries.length = 2 ∧
    ∃ free e, (Sample.client Sample.twoFrames).networkIds.entries[1]? = some e ∧
      (IdActive (Sample.client Sample.twoFrames) 1 e ∧ 1 ∉ free ∧
          1 ∉ (Sample.client Sample.twoFrames).destroys.map (·.networkId) ∨
        IdPendingDestroy (Sample.client Sample.twoFrames) 1 e ∧ 1 ∉ free ∨
        IdFree (Sample.client Sample.twoFrames) free 1 e) := by
  have hlen : (Sample.client Sample.twoFrames).networkIds.entries.length = 2 := by decide +kernel
  obtain ⟨⟨free, -, -, h⟩, -⟩ :=
    networkIds_partition (Sample.inOrder Sample.twoFrames (by decide +kernel)).reachable
    (Sample.client Sample.twoFrames) (by decide +kernel)
  obtain ⟨e, he, hstate⟩ := h 1 (by decide) (by rw [hlen]; decide)
  exact ⟨hlen, free, e, he, hstate⟩

end

end AshiatoSync
