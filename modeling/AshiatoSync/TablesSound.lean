import AshiatoSync.IndexSound
import AshiatoSync.Lib.Indexed
import AshiatoSync.ServerClients

/-!
# The tables of the server

The clients are indexed by their ids and by the peers of the remote ones, and the
slots by their entities, in every state of a run: what a call does to a list it does
to the maps over it.
-/

namespace AshiatoSync

namespace ConnectedServer

def remotePeer (client : ClientState) : Option PeerId := if client.isLocal then none else some client.peer

theorem remotePeer_local {client : ClientState} (h : client.isLocal = true) : remotePeer client = none := if_pos h

theorem remotePeer_remote {client : ClientState} (h : client.isLocal = false) : remotePeer client = some client.peer :=
  if_neg (Bool.not_eq_true _ ▸ h)

structure TablesInv (server : ConnectedServer) : Prop where
  slots : SlotTables server.core
  ids : Indexed.Indexes (fun client : ClientState => some client.id) server.clients server.clientToIndex
  peers : Indexed.Indexes remotePeer server.clients server.peerToIndex
  valid : ∀ client ∈ server.clients, client.id ≠ invalidClientId ∧ client.id ≤ maxClientEntityNetworkIdClient
  next : 1 ≤ server.nextConnectClientId ∧ server.nextConnectClientId ≤ maxClientEntityNetworkIdClient

/-! ## The next id -/

section

variable {taken : ClientId → Bool}

theorem nextId_range (id : Nat) : 1 ≤ (if id ≥ maxClientEntityNetworkIdClient then 1 else id + 1) ∧
    (if id ≥ maxClientEntityNetworkIdClient then 1 else id + 1) ≤ 254 := by
  by_cases hlast : id ≥ maxClientEntityNetworkIdClient
  · rw [if_pos hlast]
    decide
  · rw [if_neg hlast]
    simp only [maxClientEntityNetworkIdClient] at hlast
    omega

def candidateAfter (start n : Nat) : Nat := (start - 1 + n) % 254 + 1

theorem candidateAfter_zero {start : Nat} (h : 1 ≤ start ∧ start ≤ 254) : candidateAfter start 0 = start := by
  simp only [candidateAfter]
  omega

theorem candidateAfter_succ {start : Nat} (h : 1 ≤ start ∧ start ≤ 254) (n : Nat) :
    candidateAfter start (n + 1) = candidateAfter (if start ≥ 254 then 1 else start + 1) n := by
  simp only [candidateAfter]
  by_cases hlast : start ≥ 254
  · rw [if_pos hlast]
    omega
  · rw [if_neg hlast]
    omega

theorem candidateAfter_surj {start id : Nat} (hstart : 1 ≤ start ∧ start ≤ 254) (hid : 1 ≤ id ∧ id ≤ 254) :
    ∃ n, n < 254 ∧ candidateAfter start n = id := by
  by_cases hle : start ≤ id
  · refine ⟨id - start, by omega, ?_⟩
    simp only [candidateAfter]
    omega
  · refine ⟨id + 254 - start, by omega, ?_⟩
    simp only [candidateAfter]
    omega

theorem availableFrom_spec {attempts : Nat} : ∀ {start : Nat}, 1 ≤ start ∧ start ≤ 254 →
    ∀ {n : Nat}, n < attempts → taken (candidateAfter start n) = false →
      1 ≤ availableFrom taken attempts start ∧ availableFrom taken attempts start ≤ 254 ∧
        taken (availableFrom taken attempts start) = false := by
  induction attempts with
  | zero => exact fun _ n hn => absurd hn (Nat.not_lt_zero n)
  | succ attempts ih =>
    intro start hstart n hn hfree
    have hvalid : start ≠ invalidClientId := fun heq => absurd (heq ▸ hstart.2) (by decide)
    unfold availableFrom
    cases htaken : taken start with
    | false =>
      simp only [Bool.not_false, Bool.and_true, bne_iff_ne, ne_eq, hvalid, not_false_eq_true, if_true]
      exact ⟨hstart.1, hstart.2, htaken⟩
    | true =>
      simp only [Bool.not_true, Bool.and_false, Bool.false_eq_true, if_false]
      cases n with
      | zero =>
        rw [candidateAfter_zero hstart, htaken] at hfree
        cases hfree
      | succ n =>
        rw [candidateAfter_succ hstart] at hfree
        exact ih (nextId_range start) (Nat.lt_of_succ_lt_succ hn) hfree

end

section

variable {s s' : ConnectedServer}

theorem TablesInv.taken_iff (h : TablesInv s) (id : ClientId) :
    (s.clientToIndex id).isSome = false ↔ ∀ client ∈ s.clients, client.id ≠ id := by
  rw [Option.isSome_eq_false_iff, Option.isNone_iff_eq_none, h.ids.eq_none_iff]
  exact forall₂_congr fun client _ => by rw [Ne, Option.some.injEq]

theorem TablesInv.findNext (h : TablesInv s) {id : ClientId} (hid : 1 ≤ id ∧ id ≤ maxClientEntityNetworkIdClient)
    (hfree : ∀ client ∈ s.clients, client.id ≠ id) :
    1 ≤ s.findNextAvailableClientId ∧ s.findNextAvailableClientId ≤ maxClientEntityNetworkIdClient ∧
      ∀ client ∈ s.clients, client.id ≠ s.findNextAvailableClientId := by
  obtain ⟨n, hn, rfl⟩ := candidateAfter_surj h.next hid
  rw [← h.taken_iff] at hfree ⊢
  exact availableFrom_spec h.next hn hfree

/-! ## Joining -/

theorem createClientReplicator_keeps (core : ServerCore) (client : ClientState) :
    (createClientReplicator core client).id = client.id ∧ (createClientReplicator core client).peer = client.peer ∧
      (createClientReplicator core client).isLocal = client.isLocal := by
  unfold createClientReplicator
  split
  · exact ⟨rfl, rfl, rfl⟩
  · exact ⟨rfl, rfl, rfl⟩

theorem TablesInv.addClientState (h : TablesInv s) {state : ClientState} (hadd : s.addClientState state = some s') :
    TablesInv s' := by
  unfold ConnectedServer.addClientState at hadd
  split at hadd
  · cases hadd
  rename_i hid
  simp only [Bool.or_eq_true, decide_eq_true_eq, not_or, Bool.not_eq_true, Option.isSome_eq_false_iff,
    Option.isNone_iff_eq_none, gt_iff_lt, Nat.not_lt] at hid
  obtain ⟨⟨hvalid, hmax⟩, hfree⟩ := hid
  split at hadd
  · cases hadd
  rename_i hpeer
  obtain rfl := Option.some.inj hadd
  have hkeeps : ∀ joined, joined = (if (!state.isLocal && state.readyForUpdates) = true then
      createClientReplicator s.core state else state) →
      joined.id = state.id ∧ joined.peer = state.peer ∧ joined.isLocal = state.isLocal := by
    rintro _ rfl
    split
    · exact createClientReplicator_keeps s.core state
    · exact ⟨rfl, rfl, rfl⟩
  generalize hjoin : (if (!state.isLocal && state.readyForUpdates) = true then
    createClientReplicator s.core state else state) = joined
  obtain ⟨hjoined, hpeers, hlocals⟩ := hkeeps joined hjoin.symm
  simp only [hjoined, hpeers, hlocals]
  refine ⟨h.slots, h.ids.push (congrArg some hjoined) hfree, ?_, fun client hmem => ?_, ?_⟩
  · show Indexed.Indexes remotePeer _ (if _ then _ else _)
    split
    · rename_i hlocal
      refine h.peers.push_none ?_
      exact remotePeer_local (hlocals.trans hlocal)
    · rename_i hlocal
      rw [Bool.not_eq_true] at hlocal
      refine h.peers.push ?_ ?_
      · rw [remotePeer_remote (hlocals.trans hlocal), hpeers]
      · simp only [hlocal, Bool.not_false, Bool.true_and, Bool.or_eq_true, beq_iff_eq, not_or, Bool.not_eq_true,
          Option.isSome_eq_false_iff, Option.isNone_iff_eq_none] at hpeer
        exact hpeer.2
  · rcases List.mem_append.mp hmem with hmem | hmem
    · exact h.valid client hmem
    · rw [List.mem_singleton.mp hmem, hjoined]
      exact ⟨hvalid, hmax⟩
  · show 1 ≤ (if _ then _ else _) ∧ (if _ then _ else _) ≤ _
    split
    · exact nextId_range state.id
    · exact h.next

theorem TablesInv.addClientForPeer (h : TablesInv s) {peer : PeerId} {client : ClientId} {ready : Bool} :
    TablesInv ((s.addClientForPeer peer client ready).getD s) := by
  unfold ConnectedServer.addClientForPeer
  split
  · exact h
  cases hadd : s.addClientState { id := client, peer, readyForUpdates := ready } with
  | none => exact h
  | some s' => exact h.addClientState hadd

theorem TablesInv.addLocalClient (h : TablesInv s) : TablesInv s.addLocalClient := by
  unfold ConnectedServer.addLocalClient
  split
  · exact h
  simp only
  split
  · exact h
  split
  · exact h
  · rename_i s' hadd
    have h' := h.addClientState hadd
    exact ⟨h'.slots, h'.ids, h'.peers, h'.valid, h'.next⟩

theorem TablesInv.processConnectRequest (h : TablesInv s) (peer : PeerId) (handler : ClientId → Bool × ClientId) :
    TablesInv (s.processConnectRequest peer handler) := by
  unfold ConnectedServer.processConnectRequest
  split
  · exact h
  simp only
  split
  · exact h
  · exact h.addClientForPeer

theorem TablesInv.of_clients (h : TablesInv s) {core : ServerCore} {clients : List ClientState}
    (hslots : SlotTables core)
    (hclients : clients.map (fun client => (client.id, remotePeer client)) =
      s.clients.map fun client => (client.id, remotePeer client)) : TablesInv { s with core, clients } := by
  have hget : ∀ p : Nat, (clients[p]?).map (fun client => (client.id, remotePeer client)) =
      (s.clients[p]?).map fun client => (client.id, remotePeer client) := fun p => by
    rw [← List.getElem?_map, hclients, List.getElem?_map]
  have hkey : ∀ {α : Type} (key : ClientId × Option PeerId → Option α) (p : Nat),
      (clients[p]?).bind (fun client => key (client.id, remotePeer client)) =
        (s.clients[p]?).bind fun client => key (client.id, remotePeer client) := fun key p => by
    have hp := congrArg (fun o => Option.bind o key) (hget p)
    rw [Option.bind_map, Option.bind_map] at hp
    exact hp
  refine ⟨hslots, fun id p => ?_, fun peer p => ?_, fun client hmem => ?_, h.next⟩
  · rw [h.ids id p]
    exact iff_of_eq (congrArg (· = some id) (hkey (fun v => some v.1) p).symm)
  · rw [h.peers peer p]
    exact iff_of_eq (congrArg (· = some peer) (hkey Prod.snd p).symm)
  · have hmem' := List.mem_map_of_mem (f := fun client => (client.id, remotePeer client)) hmem
    rw [hclients] at hmem'
    obtain ⟨client', hmem', heq⟩ := List.mem_map.mp hmem'
    have hid : client'.id = client.id := congrArg Prod.fst heq
    rw [← hid]
    exact h.valid client' hmem'

theorem TablesInv.processConnectionRequestAck (h : TablesInv s) (peer : PeerId) (ackedClient : ClientId) :
    TablesInv (s.processConnectionRequestAck peer ackedClient) := by
  unfold ConnectedServer.processConnectionRequestAck
  split
  · exact h
  rename_i index hindex
  refine h.of_clients h.slots (List.ext_getElem? fun p => ?_)
  rw [List.getElem?_map, List.getElem?_map, List.getElem?_modify]
  cases s.clients[p]? with
  | none => rfl
  | some client =>
    split
    · show some _ = some _
      simp only [Option.some.injEq]
      split
      · obtain ⟨hid, hpeer, hlocal⟩ := createClientReplicator_keeps s.core { client with readyForUpdates := true }
        rw [remotePeer, hid, hpeer, hlocal, remotePeer]
      · rfl
    · rfl

/-! ## Leaving -/

theorem clearReplication_spec (s : ConnectedServer) (client : ClientState) :
    SameSlots s.core (s.clearReplication client).core ∧
      s.clearReplication client = { s with core := (s.clearReplication client).core } := by
  unfold clearReplication
  cases client.replication with
  | none => exact ⟨.refl _, rfl⟩
  | some replication => exact ⟨clearAll_sameSlots _ _, rfl⟩

theorem moveLast_clients {index : Nat} {last : ClientState}
    (hlast : s.clients.getLast? = some last) :
    (s.moveLast index last).clients.dropLast = Indexed.swapRemove s.clients index := by
  unfold moveLast Indexed.swapRemove
  rw [hlast]
  dsimp only
  split
  · rename_i heq
    have hget : s.clients[index]? = some last := by rw [heq, ← List.getLast?_eq_getElem?, hlast]
    obtain ⟨_, hget⟩ := List.getElem?_eq_some_iff.mp hget
    rw [← hget, List.set_getElem_self]
  · rfl

theorem moveLast_rest (index : Nat) (last : ClientState) : (s.moveLast index last).core = s.core ∧
    (s.moveLast index last).nextConnectClientId = s.nextConnectClientId := by
  unfold moveLast
  split
  · exact ⟨rfl, rfl⟩
  · exact ⟨rfl, rfl⟩

theorem moveLast_clientToIndex (index : Nat) (last : ClientState) (id : ClientId) :
    (s.moveLast index last).clientToIndex id =
      if index ≠ s.clients.length - 1 ∧ some last.id = some id then some index else s.clientToIndex id := by
  unfold moveLast
  split
  · rename_i heq
    rw [if_neg fun h => h.1 heq]
  · rename_i hne
    simp only [Function.update_apply, Option.some.injEq]
    by_cases hid : last.id = id
    · rw [if_pos hid.symm, if_pos ⟨hne, hid⟩]
    · rw [if_neg fun heq => hid heq.symm, if_neg fun heq => hid heq.2]

theorem moveLast_peerToIndex (index : Nat) (last : ClientState) (peer : PeerId) :
    (s.moveLast index last).peerToIndex peer =
      if index ≠ s.clients.length - 1 ∧ remotePeer last = some peer then some index else s.peerToIndex peer := by
  unfold moveLast remotePeer
  split
  · rename_i heq
    rw [if_neg fun h => h.1 heq]
  · rename_i hne
    cases last.isLocal with
    | true => simp
    | false =>
      simp only [Function.update_apply, Bool.false_eq_true, if_false, Option.some.injEq]
      by_cases hpeer : last.peer = peer
      · rw [if_pos hpeer.symm, if_pos ⟨hne, hpeer⟩]
      · rw [if_neg fun heq => hpeer heq.symm, if_neg fun heq => hpeer heq.2]

/-- A client that is indexed leaves, and the last one takes its place. -/
theorem removeClient_spec {client : ClientId} {index : Nat} {removed last : ClientState}
    (hindex : s.clientToIndex client = some index) (hremoved : s.clients[index]? = some removed)
    (hlast : s.clients.getLast? = some last) :
    SameSlots s.core (s.removeClient client).core ∧
      (s.removeClient client).clients = Indexed.swapRemove s.clients index ∧
      (∀ id, (s.removeClient client).clientToIndex id = if some client = some id then none
        else if index ≠ s.clients.length - 1 ∧ some last.id = some id then some index else s.clientToIndex id) ∧
      (∀ peer, (s.removeClient client).peerToIndex peer = if remotePeer removed = some peer then none
        else if index ≠ s.clients.length - 1 ∧ remotePeer last = some peer then some index
          else s.peerToIndex peer) ∧
      (s.removeClient client).nextConnectClientId = s.nextConnectClientId := by
  unfold ConnectedServer.removeClient
  simp only [hindex, hremoved, hlast]
  obtain ⟨hsame, heq⟩ := clearReplication_spec s removed
  generalize s.clearReplication removed = t at hsame heq
  have hclients : t.clients = s.clients := by rw [heq]
  have hids : t.clientToIndex = s.clientToIndex := by rw [heq]
  have hpeers : t.peerToIndex = s.peerToIndex := by rw [heq]
  have hnext : t.nextConnectClientId = s.nextConnectClientId := by rw [heq]
  obtain ⟨hcore', hnext'⟩ := moveLast_rest (s := t) index last
  have hmoved : (t.moveLast index last).clients.dropLast = Indexed.swapRemove s.clients index := by
    rw [← hclients]
    exact moveLast_clients (hclients.symm ▸ hlast)
  have hleft : ∀ id, Function.update (t.moveLast index last).clientToIndex client none id =
      if some client = some id then none
      else if index ≠ s.clients.length - 1 ∧ some last.id = some id then some index else s.clientToIndex id := by
    intro id
    rw [Function.update_apply, moveLast_clientToIndex, hclients, hids]
    by_cases hid : client = id
    · rw [if_pos hid.symm, if_pos (congrArg some hid)]
    · rw [if_neg fun heq => hid heq.symm, if_neg fun heq => hid (Option.some.inj heq)]
  cases hlocal : removed.isLocal with
  | true =>
    rw [if_pos rfl]
    refine ⟨?_, hmoved, hleft, fun peer => ?_, hnext'.trans hnext⟩
    · show SameSlots s.core (t.moveLast index last).core
      rw [hcore']
      exact hsame
    rw [remotePeer_local hlocal, if_neg (Option.some_ne_none peer).symm]
    show (t.moveLast index last).peerToIndex peer = _
    rw [moveLast_peerToIndex, hclients, hpeers]
  | false =>
    rw [if_neg Bool.false_ne_true]
    refine ⟨?_, hmoved, hleft, fun peer => ?_, hnext'.trans hnext⟩
    · show SameSlots s.core (t.moveLast index last).core
      rw [hcore']
      exact hsame
    show Function.update (t.moveLast index last).peerToIndex removed.peer none peer = _
    rw [Function.update_apply, moveLast_peerToIndex, hclients, hpeers]
    by_cases hpeer : removed.peer = peer
    · rw [if_pos hpeer.symm, remotePeer_remote hlocal, if_pos (congrArg some hpeer)]
    · rw [if_neg fun heq => hpeer heq.symm, remotePeer_remote hlocal, if_neg fun heq => hpeer (Option.some.inj heq)]

theorem TablesInv.removeClient (h : TablesInv s) (client : ClientId) : TablesInv (s.removeClient client) := by
  cases hindex : s.clientToIndex client with
  | none =>
    unfold ConnectedServer.removeClient
    simp only [hindex]
    exact h
  | some index =>
    have hin := (h.ids client index).mp hindex
    cases hremoved : s.clients[index]? with
    | none =>
      rw [hremoved] at hin
      cases hin
    | some removed =>
      have hid : removed.id = client := by
        rw [hremoved] at hin
        exact Option.some.inj hin
      have hi := (List.getElem?_eq_some_iff.mp hremoved).1
      cases hlast : s.clients.getLast? with
      | none =>
        rw [List.getLast?_eq_none_iff.mp hlast] at hi
        exact absurd hi (Nat.not_lt_zero index)
      | some last =>
        obtain ⟨hsame, hclients, hids, hpeers, hnext⟩ := removeClient_spec hindex hremoved hlast
        refine ⟨h.slots.of_sameSlots hsame, ?_, ?_, fun other hmem => ?_, ?_⟩
        · rw [hclients]
          exact h.ids.swapRemove_last hremoved hlast fun id => by rw [hids, ← hid]
        · rw [hclients]
          exact h.peers.swapRemove_last hremoved hlast hpeers
        · rw [hclients] at hmem
          exact h.valid other (Indexed.mem_swapRemove hmem)
        · rw [hnext]
          exact h.next

theorem TablesInv.disconnectFrom {timedOut : ClientState → Bool} {fuel : Nat} :
    ∀ {index : Nat} {s : ConnectedServer}, TablesInv s → TablesInv (disconnectFrom timedOut fuel index s) := by
  induction fuel with
  | zero => exact fun h => h
  | succ fuel ih =>
    intro index s h
    unfold ConnectedServer.disconnectFrom
    split
    · exact h
    split
    · exact ih h
    split
    · exact ih (h.removeClient _)
    · exact ih h

theorem TablesInv.disconnectTimedOutClients (h : TablesInv s) (timedOut : ClientState → Bool) :
    TablesInv (s.disconnectTimedOutClients timedOut) := h.disconnectFrom

/-! ## Replication -/

theorem withReplicators_keeps : ∀ (clients : List ClientState) (replications : List ServerClientReplicator),
    (withReplicators clients replications).map (fun client => (client.id, remotePeer client)) =
      clients.map fun client => (client.id, remotePeer client) := by
  intro clients
  induction clients with
  | nil => exact fun _ => rfl
  | cons client rest ih =>
    intro replications
    unfold withReplicators
    split
    · rw [List.map_cons, List.map_cons, ih]
      rfl
    · rw [List.map_cons, List.map_cons, ih]

theorem TablesInv.restore (h : TablesInv s) {replicated : ReplicationServer} (hslots : SlotTables replicated.core) :
    TablesInv (s.restore replicated) := h.of_clients hslots (withReplicators_keeps _ _)

theorem TablesInv.restore_map (h : TablesInv s) {result : Except StdException ReplicationServer}
    (hslots : ∀ {replicated}, result = .ok replicated → SlotTables replicated.core)
    (hmap : result.map s.restore = .ok s') : TablesInv s' := by
  obtain ⟨replicated, hresult, rfl⟩ := Monadic.Except_map_eq_ok.mp hmap
  exact h.restore (hslots hresult)

theorem TablesInv.exec (h : TablesInv s) {op : ConnectedOp} (hexec : s.exec op = .ok s') : TablesInv s' := by
  have hslots : SlotTables s.replicators.core := h.slots
  cases op with
  | addClient client => exact Except.ok.inj hexec ▸ h.addClientForPeer
  | addLocalClient => exact Except.ok.inj hexec ▸ h.addLocalClient
  | connectRequest peer handler => exact Except.ok.inj hexec ▸ h.processConnectRequest peer handler
  | connectionRequestAck peer ackedClient =>
    exact Except.ok.inj hexec ▸ h.processConnectionRequestAck peer ackedClient
  | removeClient client => exact Except.ok.inj hexec ▸ h.removeClient client
  | disconnectTimedOutClients timedOut => exact Except.ok.inj hexec ▸ h.disconnectTimedOutClients timedOut
  | upsertReplicated registry entity archetype => exact h.restore_map hslots.upsertReplicated hexec
  | deactivateReplicated slot => exact Except.ok.inj hexec ▸ h.restore (hslots.deactivateReplicated slot).1
  | deactivateEntityIndex entityIndex =>
    exact Except.ok.inj hexec ▸ h.restore (hslots.deactivateEntityIndex entityIndex).1
  | rediscoverAll registry => exact h.restore_map hslots.exec hexec
  | advance frame registry dirty cues => exact h.restore_map hslots.exec hexec
  | send client registry inputAckFrame available decider => exact h.restore_map hslots.exec hexec
  | acks client packetIds => exact h.restore_map hslots.exec hexec

theorem tablesInv_start (options : ReplicationServerOptions) (settings : SyncSettings) :
    TablesInv (ConnectedServer.start options settings) :=
  ⟨slotTables_start options settings, .nil, .nil, fun _ hmem => absurd hmem List.not_mem_nil, Nat.le_refl 1,
  Nat.le_add_left 1 253⟩

theorem tablesInv_reachable {options : ReplicationServerOptions} {settings : SyncSettings}
    (h : Reachable options settings s) : TablesInv s := by
  induction h with
  | start => exact tablesInv_start options settings
  | step op _ hexec ih => exact ih.exec hexec

/-! ## The tables -/

structure TablesConsistent (server : ConnectedServer) : Prop where
  clients : ∀ id p, server.clientToIndex id = some p ↔ ∃ client, server.clients[p]? = some client ∧
    client.id = id
  peers : ∀ peer p, server.peerToIndex peer = some p ↔
    ∃ client, server.clients[p]? = some client ∧ client.isLocal = false ∧ client.peer = peer
  valid : ∀ client ∈ server.clients, client.id ≠ invalidClientId
  distinct : (server.clients.map fun client => client.id).Nodup
  nextUnused : ∀ id, 1 ≤ id → id ≤ maxClientEntityNetworkIdClient →
    (∀ client ∈ server.clients, client.id ≠ id) →
    1 ≤ server.findNextAvailableClientId ∧ server.findNextAvailableClientId ≤ maxClientEntityNetworkIdClient ∧
      ∀ client ∈ server.clients, client.id ≠ server.findNextAvailableClientId
  entities : ∀ entity slot, server.core.entityToReplicatedIndex entity = some slot ↔
    ∃ r, server.core.replicated[slot]? = some r ∧ r.active = true ∧ r.entity = entity
  entityIndices : ∀ index slot, server.core.entityIndexToReplicatedIndex index = some slot ↔
    ∃ r, server.core.replicated[slot]? = some r ∧ r.active = true ∧ r.entity.index = index
  free : ∀ slot, slot ∈ server.core.freeReplicatedIndices ↔
    ∃ r, server.core.replicated[slot]? = some r ∧ r.active = false
  freeOnce : server.core.freeReplicatedIndices.Nodup
  count : server.core.activeReplicatedCount = server.core.replicated.countP fun r => r.active

theorem TablesInv.consistent (h : TablesInv s) : TablesConsistent s where
  clients id p := by
    rw [h.ids id p, Option.bind_eq_some_iff]
    simp only [Option.some.injEq]
  peers peer p := by
    rw [h.peers peer p, Option.bind_eq_some_iff]
    refine exists_congr fun client => and_congr_right fun _ => ?_
    cases hlocal : client.isLocal with
    | true => simp [remotePeer_local hlocal]
    | false => simp [remotePeer_remote hlocal]
  valid client hmem := (h.valid client hmem).1
  distinct := by
    rw [List.nodup_iff_getElem?_ne_getElem?]
    intro i j hij hj heq
    rw [List.length_map] at hj
    have hi := List.getElem?_eq_getElem (Nat.lt_trans hij hj)
    have hget := List.getElem?_eq_getElem hj
    rw [List.getElem?_map, List.getElem?_map, hi, hget] at heq
    exact absurd (h.ids.unique hi hget heq rfl) (Nat.ne_of_lt hij)
  nextUnused id hid hmax hfree := h.findNext ⟨hid, hmax⟩ hfree
  entities entity slot := by
    constructor
    · exact fun hslot => h.slots.entities entity slot hslot
    · rintro ⟨r, hr, ha, rfl⟩
      exact (h.slots.indexed slot r hr ha).1
  entityIndices index slot := by
    constructor
    · exact fun hslot => h.slots.indices index slot hslot
    · rintro ⟨r, hr, ha, rfl⟩
      exact (h.slots.indexed slot r hr ha).2
  free slot := by
    constructor
    · exact fun hslot => h.slots.free slot hslot
    · rintro ⟨r, hr, ha⟩
      exact h.slots.listed slot r hr ha
  freeOnce := h.slots.freeNodup
  count := by
    rw [h.slots.counted, slotView, List.countP_map]
    rfl

/-- In every state of every run the tables agree with the clients and the slots. -/
theorem server_tables_consistent {options : ReplicationServerOptions} {settings : SyncSettings} {s : ConnectedServer}
    (h : Reachable options settings s) : TablesConsistent s :=
  (tablesInv_reachable h).consistent

end

/-! ### A local client between two remote ones, the first of which leaves -/

section

open Sample

def joined : ConnectedServer :=
  (((start options settings).addClient 7).addLocalClient).processConnectRequest 30 fun id => (true, id + 200)

theorem joined_left_reachable : Reachable options settings (joined.removeClient 7) :=
  .step (.removeClient 7) (.step (.connectRequest 30 fun id => (true, id + 200))
    (.step .addLocalClient (.step (.addClient 7) .start rfl) rfl) rfl) rfl

theorem server_tables_consistent_joined_left :
    (joined.removeClient 7).clients.map (fun client => client.id) = [209, 8] ∧
      (joined.removeClient 7).clientToIndex 209 = some 0 ∧ TablesConsistent (joined.removeClient 7) :=
  ⟨by decide, by decide, server_tables_consistent joined_left_reachable⟩

end

end ConnectedServer

end AshiatoSync
