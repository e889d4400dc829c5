import AshiatoSync.HeldSound

/-!
# The server's invariant and the rule for a client's

`ServerInv` holds after every sequence of moves.  `Moves.clients` is the rule by
which a client's own invariant follows: it is kept by the client's moves, and by
what the others' moves change around it.
-/

namespace AshiatoSync

open ServerClientReplicator

/-! ## The invariant -/

structure ServerInv (s : ReplicationServer) : Prop where
  base : BaseInv s
  ref : RefInv s.core s.holds
  held : ∀ client ∈ s.clients, HeldInv s.core client
  data : ∀ (q : Nat) (f : QuantizedFrame), s.core.quantizedFrames[q]? = some f → f.active = true →
    ∃ archetype, s.core.settings.archetypes[f.archetype]? = some archetype ∧ WellFormedData archetype f.data

def ReplicationServer.others (s : ReplicationServer) (c i : Nat) : Nat :=
  ((s.clients.eraseIdx c).map fun client => client.holds i).sum

theorem holds_others {s : ReplicationServer} {c : Nat} {client : ServerClientReplicator}
    (h : s.clients[c]? = some client) (i : Nat) : s.holds i = s.others c i + client.holds i :=
  (Tally.sum_eraseIdx (fun client : ServerClientReplicator => client.holds i) h).symm

theorem holds_setClient {s : ReplicationServer} {c : Nat} {client : ServerClientReplicator} (core' : ServerCore)
    (client' : ServerClientReplicator) (h : s.clients[c]? = some client) (i : Nat) :
    (s.setClient c core' client').holds i =
      s.others c i + client'.holds i := by
  have h1 := Tally.sum_set (fun client : ServerClientReplicator => client.holds i) (b := client') h
  have h2 := holds_others h i
  simp only [ReplicationServer.holds, ReplicationServer.setClient] at h1 h2 ⊢
  omega

theorem getLast?_set_self {α : Type} {l : List α} {c : Nat} {a : α} (h : l.getLast? = some a) :
    (l.set c a).getLast? = some a := by
  rw [List.getLast?_eq_getElem?] at h ⊢
  rw [List.length_set, List.getElem?_set]
  split
  · rename_i hc
    subst hc
    rw [if_pos (List.getElem?_eq_some_iff.mp h).1]
  · exact h

theorem holds_swapRemove {clients : List ServerClientReplicator} {c : Nat} {client : ServerClientReplicator}
    (h : clients[c]? = some client) (g : ServerClientReplicator → Nat) :
    ((ReplicationServer.swapRemove clients c).map g).sum + g client = (clients.map g).sum := by
  unfold ReplicationServer.swapRemove
  split
  · rename_i hnil
    rw [List.getLast?_eq_none_iff] at hnil
    simp [hnil] at h
  · rename_i last hlast
    have h1 := Tally.sum_set g (b := last) h
    have h2 := List.dropLast_append_getLast? last (getLast?_set_self (c := c) hlast)
    rw [← h2] at h1
    simp only [List.map_append, List.map_cons, List.map_nil, List.sum_append, List.sum_cons, List.sum_nil] at h1
    omega

theorem clearAll_ref {core : ServerCore} {client : ServerClientReplicator} {others : Nat → Nat}
    (h : RefInv core fun i => others i + client.holds i) : RefInv (client.clearAll core).1 others := by
  have key : ∀ (states : List ClientEntityState) (core : ServerCore),
      (RefInv core fun i => others i + (states.map fun s => s.holds i).sum) →
      RefInv (states.foldl releaseEntityState core) others := by
    intro states
    induction states with
    | nil => exact fun core h => h.congr fun i => by simp
    | cons s states ih =>
      intro core h
      apply ih
      apply RefInv.releaseEntityState
      exact h.congr fun i => by simp only [List.map_cons, List.sum_cons]; omega
  exact key client.states core h

theorem clearAll_shrinks (core : ServerCore) (client : ServerClientReplicator) :
    Shrinks core (client.clearAll core).1 := by
  show Shrinks core (client.states.foldl releaseEntityState core)
  generalize client.states = states
  induction states generalizing core with
  | nil => exact .refl _
  | cons s states ih => exact (releaseEntityState_shrinks core s).trans (ih _)

/-! ## What moves change around a client -/

structure ClientInv (core : ServerCore) (client : ServerClientReplicator) (others : Nat → Nat) : Prop where
  slots : SlotsInv core
  queue : QueueInv core client
  ref : RefInv core fun i => others i + client.holds i
  held : HeldInv core client
  data : ∀ (q : Nat) (f : QuantizedFrame), core.quantizedFrames[q]? = some f → f.active = true →
    ∃ archetype, core.settings.archetypes[f.archetype]? = some archetype ∧ WellFormedData archetype f.data

theorem ServerInv.client {s : ReplicationServer} (h : ServerInv s) {c : Nat} {client : ServerClientReplicator}
    (hc : s.clients[c]? = some client) : ClientInv s.core client (s.others c) where
  slots := h.base.slots
  queue := h.base.queues client (List.mem_of_getElem? hc)
  ref := h.ref.congr (holds_others hc)
  held := h.held client (List.mem_of_getElem? hc)
  data := h.data

structure Around (strict : Prop) (core : ServerCore) (client : ServerClientReplicator) (core' : ServerCore) : Prop where
  settings : core'.settings = core.settings
  frame : core'.frame = core.frame ∨ (strict → core.frame < core'.frame)
  evolves : Evolves core core'
  slot : ∀ (slot : Nat) (s : ClientEntityState) (r : ReplicatedSlot), client.states[slot]? = some s → s ≠ {} →
    core.replicated[slot]? = some r →
    ∃ r', core'.replicated[slot]? = some r' ∧ r'.entity = r.entity ∧ r'.archetype = r.archetype ∧
    r'.active = r.active

theorem SameSlots.around {strict : Prop} {core core' : ServerCore} {client : ServerClientReplicator}
    (h : SameSlots core core') (he : Evolves core core') : Around strict core client core' where
  settings := h.settings
  frame := .inl h.frame
  evolves := he
  slot _ _ _ _ _ hr := h.slot hr

theorem evolves_of_frames {core core' : ServerCore} (h : core'.quantizedFrames = core.quantizedFrames) :
    Evolves core core' := by
  intro q f hf ha
  rw [h] at hf
  exact .inl ⟨f, hf, ha, .refl f⟩

inductive ClientsMove (strict : Prop) (s s' : ReplicationServer) : Prop where
  | around : s'.clients = s.clients → s'.core.settings = s.core.settings →
      s'.core.quantizedFrames = s.core.quantizedFrames → s'.core.freeQuantizedFrames = s.core.freeQuantizedFrames →
      (∀ client ∈ s.clients, Around strict s.core client s'.core) → ClientsMove strict s s'
  | client {c : Nat} {client client' : ServerClientReplicator} : s.clients[c]? = some client →
      LocalMove strict s.core client s'.core client' → s'.clients = s.clients.set c client' →
      ClientsMove strict s s'
  | connect (peer : PeerId) (id : ClientId) : s'.core = s.core →
    s'.clients = s.clients ++ [{ id := id, peer := peer }] →
      ClientsMove strict s s'
  | disconnect {c : Nat} {client : ServerClientReplicator} : s.clients[c]? = some client →
      s'.core = (client.clearAll s.core).1 → s'.clients = ReplicationServer.swapRemove s.clients c →
      ClientsMove strict s s'

theorem Move.clientsMove {strict : Prop} {s s' : ReplicationServer} (m : Move strict s s') (h : BaseInv s) :
    ClientsMove strict s s' := by
  cases m with
  | setFrame hlt =>
    refine .around rfl rfl rfl rfl fun client hc => ⟨rfl, .inr hlt, evolves_of_frames rfl, ?_⟩
    exact fun _ _ r _ _ hr => ⟨r, hr, rfl, rfl, rfl⟩
  | @generations slot which =>
    have hframes : (ReplicationServer.bumpGenerations s.core slot which).quantizedFrames = s.core.quantizedFrames ∧
        (ReplicationServer.bumpGenerations s.core slot which).freeQuantizedFrames = s.core.freeQuantizedFrames := by
      unfold ReplicationServer.bumpGenerations
      split
      · exact ⟨rfl, rfl⟩
      · split
        · exact ⟨rfl, rfl⟩
        · split <;> exact ⟨rfl, rfl⟩
    exact .around rfl (bumpGenerations_sameSlots s.core slot which).settings hframes.1 hframes.2 fun client _ =>
      (bumpGenerations_sameSlots s.core slot which).around (evolves_of_frames hframes.1)
  | initialized =>
    refine .around rfl rfl rfl rfl fun client _ => ⟨rfl, .inl rfl, evolves_of_frames rfl, ?_⟩
    exact fun _ _ r _ _ hr => ⟨r, hr, rfl, rfl, rfl⟩
  | forget =>
    refine .around rfl rfl rfl rfl fun client _ => ⟨rfl, .inl rfl, evolves_of_frames rfl, ?_⟩
    exact fun _ _ r _ _ hr => ⟨r, hr, rfl, rfl, rfl⟩
  | activate ha =>
    have ht := ha.taken h.slots
    refine .around rfl ht.settings ht.frames ht.freeFrames fun client hc =>
      ⟨ht.settings, .inl ht.frame, evolves_of_frames ht.frames, ?_⟩
    intro i st r hst hne hr
    refine ⟨r, ?_, rfl, rfl, rfl⟩
    rw [ht.other i ?_]
    · exact hr
    · rintro rfl
      exact hne ((h.queues client hc).idleState i st ht.idle hst)
  | @deactivate slot r hr ha hs he =>
    refine .around rfl rfl rfl rfl fun client hc => ⟨rfl, .inl rfl, evolves_of_frames rfl, ?_⟩
    intro i st r' hst hne hr'
    refine ⟨r', ?_, rfl, rfl, rfl⟩
    rw [deactivateSlot_get]
    · exact hr'
    · rintro rfl
      exact hne (hs client hc st hst)
  | client hc hm => exact .client hc hm rfl
  | connect peer id => exact .connect peer id rfl rfl
  | disconnect hc => exact .disconnect hc rfl rfl

theorem ServerInv.move {strict : Prop} {s s' : ReplicationServer} (h : ServerInv s) (m : Move strict s s') :
    ServerInv s' := by
  have hbase := m.base h.base
  cases m.clientsMove h.base with
  | around hcl hset hqf hfree har =>
    have hholds : s'.holds = s.holds := by
      funext i
      simp only [ReplicationServer.holds, hcl]
    have href : RefInv s'.core s'.holds := by
      rw [hholds]
      exact ⟨hqf ▸ h.ref.count, hqf ▸ h.ref.alive, hqf ▸ h.ref.range, hfree ▸ h.ref.freeNodup,
        hfree ▸ hqf ▸ h.ref.free⟩
    refine ⟨hbase, href, ?_, ?_⟩
    · intro client hc
      rw [hcl] at hc
      obtain ⟨c, hget⟩ := List.getElem?_of_mem hc
      have ha := har client hc
      refine (h.held client hc).evolve (s.others c) ha.evolves ?_ (href.congr fun i => ?_)
      · intro slot st r hst hne hr
        obtain ⟨r', hr', -, harch, -⟩ := ha.slot slot st r hst hne hr
        exact ⟨r', hr', harch⟩
      · rw [hholds, holds_others hget]
    · intro q f hf ha
      rw [hqf] at hf
      rw [hset]
      exact h.data q f hf ha
  | @client c client client' hc hm hcl =>
    have href := hm.ref (h.client hc).ref
    have hev := hm.evolves (h.client hc).ref
    have hholds : ∀ i, s'.holds i = s.others c i + client'.holds i := by
      intro i
      rw [← holds_setClient s'.core client' hc i]
      simp only [ReplicationServer.holds, ReplicationServer.setClient, hcl]
    refine ⟨hbase, href.congr fun i => (hholds i).symm, ?_, ?_⟩
    · intro other hmem
      rw [hcl] at hmem
      obtain ⟨d, hd⟩ := List.getElem?_of_mem hmem
      rw [List.getElem?_set] at hd
      split at hd
      · split at hd
        · obtain rfl := Option.some.inj hd
          exact hm.held (h.client hc).ref (h.client hc).held
        · cases hd
      · rename_i hne
        have hd' : s'.clients[d]? = some other := by
          rw [hcl, List.getElem?_set_ne hne]
          exact hd
        refine (h.held other (List.mem_of_getElem? hd)).evolve (s'.others d) hev ?_
          (href.congr fun i => by rw [← hholds, holds_others hd'])
        intro slot st r _ _ hr
        obtain ⟨r', hr', -, harch, -⟩ := hm.sameSlots.slot hr
        exact ⟨r', hr', harch⟩
    · intro q f hf ha
      rw [hm.sameSlots.settings]
      rcases hev q f hf ha with ⟨f₀, hf₀, ha₀, hc⟩ | ⟨-, hfresh⟩
      · obtain ⟨archetype, harch, hwf⟩ := h.data q f₀ hf₀ ha₀
        exact ⟨archetype, by rw [hc.archetype]; exact harch, by rw [hc.data]; exact hwf⟩
      · exact hfresh.data
  | connect peer id hcore hcl =>
    refine ⟨hbase, ?_, ?_, hcore ▸ h.data⟩
    · rw [hcore]
      refine h.ref.congr fun i => ?_
      simp [ReplicationServer.holds, hcl, ServerClientReplicator.holds]
    · intro client hmem
      rw [hcl] at hmem
      rw [hcore]
      rcases List.mem_append.mp hmem with hmem | hmem
      · exact h.held client hmem
      · obtain rfl := List.mem_singleton.mp hmem
        constructor <;> simp
  | @disconnect c client hc hcore hcl =>
    have href : RefInv s'.core (s.others c) := hcore ▸ clearAll_ref (h.client hc).ref
    have hholds : ∀ i, s'.holds i = s.others c i := by
      intro i
      have h1 := holds_swapRemove hc fun client => client.holds i
      have h2 := holds_others hc i
      simp only [ReplicationServer.holds, hcl] at h1 h2 ⊢
      omega
    have hshr : Shrinks s.core s'.core := hcore ▸ clearAll_shrinks s.core client
    have hsame : SameSlots s.core s'.core := hcore ▸ clearAll_sameSlots s.core client
    have href' : RefInv s'.core s'.holds := href.congr fun i => (hholds i).symm
    refine ⟨hbase, href', ?_, ?_⟩
    · intro other hmem
      obtain ⟨d, hd⟩ := List.getElem?_of_mem hmem
      rw [hcl] at hmem
      refine (h.held other (mem_swapRemove hmem)).evolve (s'.others d) hshr.evolves ?_
        (href'.congr (holds_others hd))
      intro slot st r _ _ hr
      obtain ⟨r', hr', -, harch, -⟩ := hsame.slot hr
      exact ⟨r', hr', harch⟩
    · intro q f hf ha
      obtain ⟨f₀, hf₀, ha₀, hc⟩ := hshr q f hf ha
      obtain ⟨archetype, harch, hwf⟩ := h.data q f₀ hf₀ ha₀
      rw [hsame.settings]
      exact ⟨archetype, by rw [hc.archetype]; exact harch, by rw [hc.data]; exact hwf⟩

theorem ServerInv.moves {strict : Prop} {s s' : ReplicationServer} (h : ServerInv s) (m : Moves strict s s') :
    ServerInv s' := by
  induction m with
  | refl => exact h
  | tail _ m ih => exact ih.move m

theorem ServerInv.start (options : ReplicationServerOptions) (settings : SyncSettings) :
    ServerInv (ReplicationServer.start options settings) := by
  refine ⟨BaseInv.start options settings, ⟨?_, ?_, ?_, ?_, ?_⟩, ?_, ?_⟩ <;>
    simp [ReplicationServer.start, ReplicationServer.holds]

/-! ## The rule for a client's invariant -/

structure ClientRule (strict : Prop) (P : ServerCore → ServerClientReplicator → Prop) : Prop where
  new : ∀ core peer id, P core { id, peer }
  own : ∀ {core client core' client' others}, ClientInv core client others →
    LocalMove strict core client core' client' → P core client → P core' client'
  around : ∀ {core client core' others others'}, ClientInv core client others → ClientInv core' client others' →
    Around strict core client core' → P core client → P core' client

theorem ClientRule.move {strict : Prop} {P : ServerCore → ServerClientReplicator → Prop}
    (rule : ClientRule strict P) {s s' : ReplicationServer} (hs : ServerInv s) (m : Move strict s s')
    (h : ∀ client ∈ s.clients, P s.core client) : ∀ client ∈ s'.clients, P s'.core client := by
  have hs' := hs.move m
  -- a client of both states that did not move
  have still : ∀ client c d, s.clients[c]? = some client → s'.clients[d]? = some client →
      Around strict s.core client s'.core → P s'.core client := fun client c d hc hd ha =>
    rule.around (hs.client hc) (hs'.client hd) ha (h client (List.mem_of_getElem? hc))
  intro client hmem
  obtain ⟨d, hd⟩ := List.getElem?_of_mem hmem
  cases m.clientsMove hs.base with
  | around hcl _ _ _ har =>
    have hc : s.clients[d]? = some client := by
      rw [← hcl]
      exact hd
    exact still client d d hc hd (har client (List.mem_of_getElem? hc))
  | @client c moved moved' hc hm hcl =>
    have hget := hd
    rw [hcl, List.getElem?_set] at hget
    split at hget
    · split at hget
      · obtain rfl := Option.some.inj hget
        exact rule.own (hs.client hc) hm (h moved (List.mem_of_getElem? hc))
      · cases hget
    · exact still client d d hget hd (hm.sameSlots.around (hm.evolves (hs.client hc).ref))
  | connect peer id hcore hcl =>
    rw [hcl] at hmem
    rcases List.mem_append.mp hmem with hmem | hmem
    · rw [hcore]
      exact h client hmem
    · obtain rfl := List.mem_singleton.mp hmem
      exact rule.new _ _ _
  | @disconnect c gone hc hcore hcl =>
    rw [hcl] at hmem
    obtain ⟨e, he⟩ := List.getElem?_of_mem (mem_swapRemove hmem)
    refine still client e d he hd ?_
    rw [hcore]
    exact (clearAll_sameSlots s.core gone).around (clearAll_shrinks s.core gone).evolves

theorem ClientRule.moves {strict : Prop} {P : ServerCore → ServerClientReplicator → Prop}
    (rule : ClientRule strict P) {s s' : ReplicationServer} (hs : ServerInv s) (m : Moves strict s s')
    (h : ∀ client ∈ s.clients, P s.core client) : ∀ client ∈ s'.clients, P s'.core client := by
  induction m with
  | refl => exact h
  | tail ms m ih => exact rule.move (hs.moves ms) m ih

end AshiatoSync
