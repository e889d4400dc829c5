import AshiatoSync.IdsSound

/-!
# Sequences of moves

A replicator's operations are sequences of its moves; a loop over the clients, or
an operation of one of them, is then a sequence of the server's.
-/

namespace AshiatoSync

open ServerClientReplicator

/-! ## One replicator -/

def LocalMoves (strict : Prop) (core : ServerCore) (client : ServerClientReplicator) (core' : ServerCore)
    (client' : ServerClientReplicator) : Prop :=
  Relation.ReflTransGen
    (fun a b : ServerCore × ServerClientReplicator => LocalMove strict a.1 a.2 b.1 b.2) (core, client) (core', client')

section

variable {strict : Prop} {core core₁ core' : ServerCore} {client client₁ client' : ServerClientReplicator}
  {others : Nat → Nat}

theorem LocalMoves.refl : LocalMoves strict core client core client := Relation.ReflTransGen.refl

theorem LocalMove.moves (m : LocalMove strict core client core' client') :
    LocalMoves strict core client core' client' :=
  Relation.ReflTransGen.single m

theorem LocalMoves.trans (m : LocalMoves strict core client core₁ client₁)
    (m' : LocalMoves strict core₁ client₁ core' client') : LocalMoves strict core client core' client' :=
  Relation.ReflTransGen.trans m m'

theorem LocalMoves.of_eq (hcore : core' = core) (hclient : client' = client) :
    LocalMoves strict core client core' client' := by
  rw [hcore, hclient]
  exact .refl

theorem LocalMoves.keep {P : ServerCore → ServerClientReplicator → Prop}
    (m : LocalMoves strict core client core' client')
    (step : ∀ {core client core' client'}, LocalMove strict core client core' client' → P core client →
    P core' client')
    (h : P core client) : P core' client' := by
  have key : ∀ b : ServerCore × ServerClientReplicator, Relation.ReflTransGen
      (fun a b : ServerCore × ServerClientReplicator => LocalMove strict a.1 a.2 b.1 b.2) (core, client) b →
      P b.1 b.2 := by
    intro b hb
    induction hb with
    | refl => exact h
    | tail _ m ih => exact step m ih
  exact key (core', client') m

theorem LocalMoves.sameSlots (m : LocalMoves strict core client core' client') : SameSlots core core' :=
  m.keep (P := fun c _ => SameSlots core c) (fun m h => h.trans m.sameSlots) (.refl core)

theorem ClientInv.move (h : ClientInv core client others) (m : LocalMove strict core client core' client') :
    ClientInv core' client' others where
  slots := h.slots.of_sameSlots m.sameSlots
  queue := (m.queue h.slots h.queue).of_sameSlots m.sameSlots
  ref := m.ref h.ref
  held := m.held h.ref h.held
  data := by
    intro q f hf ha
    rw [m.sameSlots.settings]
    rcases m.evolves h.ref q f hf ha with ⟨f₀, hf₀, ha₀, hc⟩ | ⟨-, hfresh⟩
    · obtain ⟨archetype, harch, hwf⟩ := h.data q f₀ hf₀ ha₀
      exact ⟨archetype, by rw [hc.archetype]; exact harch, by rw [hc.data]; exact hwf⟩
    · exact hfresh.data

theorem ClientInv.moves (h : ClientInv core client others) (m : LocalMoves strict core client core' client') :
    ClientInv core' client' others :=
  m.keep (P := fun core client => ClientInv core client others) (fun m h => h.move m) h

theorem LocalMoves.ids (m : LocalMoves strict core client core' client') (h : IdInv client) : IdInv client' :=
  m.keep (P := fun _ client => IdInv client) (fun m h => m.ids h) h

theorem localMoves_foldl {α : Type} {f : ServerClientReplicator → α → ServerClientReplicator} {l : List α}
    (h : ∀ a ∈ l, ∀ client, LocalMoves strict core client core (f client a)) :
    LocalMoves strict core client core (l.foldl f client) := by
  induction l generalizing client with
  | nil => exact .refl
  | cons a l ih =>
    exact (h a (by simp) client).trans (ih fun b hb => h b (by simp [hb]))

end

/-! ## The server -/

section

variable {strict : Prop} {s s₁ s' : ReplicationServer}

theorem Moves.refl : Moves strict s s := Relation.ReflTransGen.refl

theorem Move.moves (m : Move strict s s') : Moves strict s s' := Relation.ReflTransGen.single m

theorem Moves.trans (m : Moves strict s s₁) (m' : Moves strict s₁ s') : Moves strict s s' :=
  Relation.ReflTransGen.trans m m'

theorem setClient_self {c : Nat} {client : ServerClientReplicator} (hc : s.clients[c]? = some client) :
    s.setClient c s.core client = s := by
  obtain ⟨hlt, rfl⟩ := List.getElem?_eq_some_iff.mp hc
  simp [ReplicationServer.setClient]

theorem setClient_get {c : Nat} {client client' : ServerClientReplicator} {core' : ServerCore}
    (hc : s.clients[c]? = some client) : (s.setClient c core' client').clients[c]? = some client' := by
  simp [ReplicationServer.setClient, (List.getElem?_eq_some_iff.mp hc).1]

theorem setClient_setClient (c : Nat) (client client' : ServerClientReplicator) (core core' : ServerCore) :
    (s.setClient c core client).setClient c core' client' = s.setClient c core' client' := by
  simp [ReplicationServer.setClient]

theorem LocalMoves.lift {c : Nat} {client client' : ServerClientReplicator} {core' : ServerCore}
    (hc : s.clients[c]? = some client) (m : LocalMoves strict s.core client core' client') :
    Moves strict s (s.setClient c core' client') := by
  refine m.keep (P := fun core client => Moves strict s (s.setClient c core client)) ?_ ?_
  · intro core₁ client₁ core₂ client₂ m h
    refine h.trans ?_
    have hstep := Move.client (s := s.setClient c core₁ client₁) (setClient_get hc) m
    rw [setClient_setClient] at hstep
    exact hstep.moves
  · rw [setClient_self hc]
    exact .refl

theorem moves_foldl (strict : Prop) {α : Type} {f : ReplicationServer → α → ReplicationServer} {l : List α}
    (hs : ServerInv s) (h : ∀ a ∈ l, ∀ s, ServerInv s → Moves strict s (f s a)) :
    Moves strict s (l.foldl f s) := by
  induction l generalizing s with
  | nil => exact .refl
  | cons a l ih =>
    have m := h a (by simp) s hs
    exact m.trans (ih (hs.moves m) fun b hb => h b (by simp [hb]))

theorem moves_foldlM {α : Type} {f : ReplicationServer → α → Except StdException ReplicationServer} {l : List α}
    (hs : ServerInv s) (h : ∀ a s s', ServerInv s → f s a = .ok s' → Moves strict s s')
    (hr : l.foldlM f s = .ok s') : Moves strict s s' := by
  have key := Monadic.foldlM_inv (fun _ t => ServerInv t ∧ Moves strict s t) l s s'
    (fun a _ t t' ⟨ht, hm⟩ hstep => ⟨ht.moves (h a t t' ht hstep), hm.trans (h a t t' ht hstep)⟩) ⟨hs,
      .refl⟩ hr
  exact key.2

end

/-! ## Loops over the clients -/

section

variable {strict : Prop}

theorem eachClient_moves {f : ServerCore → ServerClientReplicator → ServerCore × ServerClientReplicator}
    {core₀ : ServerCore} : ∀ (rest done : List ServerClientReplicator) (core : ServerCore),
    ServerInv ⟨core, done ++ rest⟩ → SameSlots core₀ core →
    (∀ client ∈ rest, ∀ core others, SameSlots core₀ core → ClientInv core client others →
      LocalMoves strict core client (f core client).1 (f core client).2) →
    Moves strict ⟨core, done ++ rest⟩ ⟨(eachClient f core rest).1, done ++ (eachClient f core rest).2⟩
  | [], done, core, _, _, _ => .refl
  | client :: rest, done, core, hs, hsame, hf => by
    have hget : (ReplicationServer.mk core (done ++ client :: rest)).clients[done.length]? = some client := by simp
    have hlocal := hf client (by simp) core _ hsame (hs.client hget)
    have m := hlocal.lift hget
    have heq : (ReplicationServer.mk core (done ++ client :: rest)).setClient done.length (f core client).1
        (f core client).2 = ⟨(f core client).1, (done ++ [(f core client).2]) ++ rest⟩ := by
      simp [ReplicationServer.setClient]
    rw [heq] at m
    refine m.trans ?_
    have ih := eachClient_moves rest (done ++ [(f core client).2]) (f core client).1 (hs.moves m)
      (hsame.trans hlocal.sameSlots) fun client hc => hf client (by simp [hc])
    simpa [eachClient] using ih

theorem overClients_moves (strict : Prop) {s : ReplicationServer}
    {f : ServerCore → ServerClientReplicator → ServerCore × ServerClientReplicator} (hs : ServerInv s)
    (hf : ∀ client ∈ s.clients, ∀ core others, SameSlots s.core core → ClientInv core client others →
      LocalMoves strict core client (f core client).1 (f core client).2) : Moves strict s (s.overClients f) :=
  eachClient_moves s.clients [] s.core hs (.refl _) hf

/-- The same for a loop that may throw and leaves the shared state alone. -/
theorem mapM_moves {core : ServerCore} {f : ServerClientReplicator → Except StdException ServerClientReplicator} :
    ∀ (rest done rest' : List ServerClientReplicator), ServerInv ⟨core, done ++ rest⟩ →
    (∀ client client' others, ClientInv core client others → f client = .ok client' →
      LocalMoves strict core client core client') →
    rest.mapM f = .ok rest' → Moves strict ⟨core, done ++ rest⟩ ⟨core, done ++ rest'⟩
  | [], done, rest', _, _, h => by
    rw [List.mapM_nil, Monadic.pure_eq_ok] at h
    rw [← h]
    exact .refl
  | client :: rest, done, rest', hs, hf, h => by
    rw [List.mapM_cons, Monadic.bind_eq_ok] at h
    obtain ⟨client', hclient, h⟩ := h
    rw [Monadic.bind_eq_ok] at h
    obtain ⟨rest₁, hrest, h⟩ := h
    rw [Monadic.pure_eq_ok] at h
    subst h
    have hget : (ReplicationServer.mk core (done ++ client :: rest)).clients[done.length]? = some client := by simp
    have m := (hf client client' _ (hs.client hget) hclient).lift hget
    have heq : (ReplicationServer.mk core (done ++ client :: rest)).setClient done.length core client' =
        ⟨core, (done ++ [client']) ++ rest⟩ := by
      simp [ReplicationServer.setClient]
    simp only [heq] at m
    refine m.trans ?_
    have ih := mapM_moves rest (done ++ [client']) rest₁ (hs.moves m) hf hrest
    simpa using ih

end

end AshiatoSync
