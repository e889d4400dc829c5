import AshiatoSync.ReaderSound
import AshiatoSync.ModeMoves

/-!
# The client's entities and their ids

An id the client made names one entity: the version in it is the number of times
its wire id was destroyed before, and the wire id maps to the entity of its newest
version only.
-/

namespace AshiatoSync

open LocalRegistry ReplicationClient

variable {R : Type} [LocalRegistry R]

/-! ## The invariant of the client -/

def ClientCall.destroys (w : Nat) : ClientCall → Bool
  | .destroy call => call.wireNetworkId == w
  | _ => false

def destroyCount (w : Nat) (trace : List ClientCall) : Nat := trace.countP (ClientCall.destroys w)

def ReplicationClient.currentId (client : ReplicationClient R) (w : Nat) : ClientEntityNetworkId :=
  makeClientEntityNetworkId (networkIdClient client.clientId) w (client.store.wireNetworkIds w).version

def Named (client : ReplicationClient R) (e : Nat) : Prop :=
  let w := (client.entity e).wireNetworkId
  (0 < w ∧ w ≤ maxClientLocalWireNetworkId) ∧ ∃ version, 0 < version ∧
    version ≤ (client.store.wireNetworkIds w).version ∧
    (client.entity e).clientEntityNetworkId = makeClientEntityNetworkId (networkIdClient client.clientId) w version

structure StoreOk (client : ReplicationClient R) : Prop where
  pushes : client.settings.PushesAll
  capacity : 0 < client.options.bufferedFrameCapacity
  separate : Separate client
  unused : ∀ e, (client.entity e).clientEntityNetworkId = invalidClientEntityNetworkId →
    (client.view e).state = {} ∧ (client.view e).ring = []
  free : ∀ e ∈ client.store.freeEntityIndices, e < client.store.entities.length ∧
    (client.entity e).clientEntityNetworkId = invalidClientEntityNetworkId
  nodup : client.store.freeEntityIndices.Nodup
  unmapped : client.store.clientEntityIndices invalidClientEntityNetworkId = none
  indexed : ∀ e, (client.entity e).clientEntityNetworkId ≠ invalidClientEntityNetworkId →
    client.store.clientEntityIndices (client.entity e).clientEntityNetworkId = some e
  named : ∀ e, (client.entity e).clientEntityNetworkId ≠ invalidClientEntityNetworkId → Named client e
  wires : ∀ w e, (client.store.wireNetworkIds w).entityIndex = some e → (client.entity e).wireNetworkId = w ∧
    (client.entity e).clientEntityNetworkId = client.currentId w ∧
    (client.entity e).clientEntityNetworkId ≠ invalidClientEntityNetworkId
  versions : ∀ w, (client.store.wireNetworkIds w).version ≤ destroyCount w client.trace + 1
  selected : ∀ e, (client.entity e).clientEntityNetworkId ≠ invalidClientEntityNetworkId →
    (client.entity e).modeSelected = true
  inv : ∀ e, EntityInv client.settings (client.view e)
  sound : TraceSound client

def PresentNow (client : ReplicationClient R) (e : Nat) : Prop :=
  (client.entity e).clientEntityNetworkId = client.currentId (client.entity e).wireNetworkId →
    (client.entity e).entityPresent = true

structure ClientOk (client : ReplicationClient R) : Prop extends StoreOk client where
  present : ∀ e, PresentNow client e

section

variable {client client' : ReplicationClient R} {e : Nat}

omit [LocalRegistry R] in
theorem lt_length_of_used (h : (client.entity e).clientEntityNetworkId ≠ invalidClientEntityNetworkId) :
    e < client.store.entities.length := by
  by_contra hle
  refine h ?_
  simp [ReplicationClient.entity, List.getElem?_eq_none (Nat.le_of_not_lt hle)]

omit [LocalRegistry R] in
theorem entity_eq_getElem? (h : e < client.store.entities.length) :
    client.store.entities[e]? = some (client.entity e) := by
  simp [ReplicationClient.entity, h]

omit [LocalRegistry R] in
theorem entity_of_getElem? {s : EntityState} (h : client.store.entities[e]? = some s) : client.entity e = s := by
  simp [ReplicationClient.entity, h]

theorem destroyCount_append {calls trace : List ClientCall} (h : ∀ call ∈ calls, call.isDestroy = false) (w : Nat) :
    destroyCount w (calls ++ trace) = destroyCount w trace := by
  have hzero : calls.countP (ClientCall.destroys w) = 0 := by
    refine List.countP_eq_zero.mpr fun call hcall => ?_
    have hnot := h call hcall
    cases call with
    | destroy _ => cases hnot
    | upsert _ => simp [ClientCall.destroys]
    | sample _ => simp [ClientCall.destroys]
    | play _ => simp [ClientCall.destroys]
  rw [destroyCount, List.countP_append, hzero, Nat.zero_add]
  rfl

theorem WorksOn.destroyCount (h : WorksOn e client client') (w : Nat) :
    AshiatoSync.destroyCount w client'.trace = AshiatoSync.destroyCount w client.trace := by
  obtain ⟨calls, heq, hnot⟩ := h.trace
  rw [heq, destroyCount_append hnot]

theorem StoreOk.works (h : StoreOk client)
    (hused : (client.entity e).clientEntityNetworkId ≠ invalidClientEntityNetworkId)
    (hworks : WorksOn e client client') (hinv : EntityInv client.settings (client'.view e))
    (hsound : TraceSound client') :
    StoreOk client' where
  pushes := by rw [hworks.settings]; exact h.pushes
  capacity := by rw [hworks.options]; exact h.capacity
  separate := hworks.separate h.separate
  unused i hi := by
    rw [hworks.id] at hi
    have hne : i ≠ e := by
      rintro rfl
      exact hused hi
    rw [hworks.others i hne]
    exact h.unused i hi
  free := by
    intro i hi
    rw [hworks.free] at hi
    rw [hworks.length, hworks.id]
    exact h.free i hi
  nodup := by rw [hworks.free]; exact h.nodup
  unmapped := by rw [hworks.indices]; exact h.unmapped
  indexed i hi := by
    rw [hworks.id] at hi
    rw [hworks.indices, hworks.id]
    exact h.indexed i hi
  named i hi := by
    rw [hworks.id] at hi
    unfold Named
    rw [hworks.id, hworks.wire, hworks.wires, hworks.clientId]
    exact h.named i hi
  wires w i hi := by
    rw [hworks.wires] at hi
    rw [hworks.id, hworks.wire, ReplicationClient.currentId, hworks.wires, hworks.clientId]
    exact h.wires w i hi
  versions w := by
    rw [hworks.wires, hworks.destroyCount]
    exact h.versions w
  selected i hi := hworks.selected i (h.selected i (by rwa [hworks.id] at hi))
  inv i := by
    by_cases hi : i = e
    · rw [hi, hworks.settings]
      exact hinv
    · rw [hworks.others i hi, hworks.settings]
      exact h.inv i
  sound := hsound

theorem presentNow_of_others (hworks : WorksOn e client client') {i : Nat} (hi : i ≠ e) (h : PresentNow client i) :
    PresentNow client' i := by
  intro hcurrent
  rw [hworks.id, hworks.wire, ReplicationClient.currentId, hworks.wires, hworks.clientId] at hcurrent
  change (client'.view i).state.entityPresent = true
  rw [hworks.others i hi]
  exact h hcurrent

theorem ClientOk.moves (h : ClientOk client)
    (hused : (client.entity e).clientEntityNetworkId ≠ invalidClientEntityNetworkId)
    (hmoves : MovesOn e client client') : ClientOk client' := by
  refine ⟨h.toStoreOk.works hused hmoves.works hmoves.inv hmoves.sound, fun i => ?_⟩
  by_cases hi : i = e
  · subst hi
    intro hcurrent
    have hworks := hmoves.works
    rw [hworks.id, hworks.wire, ReplicationClient.currentId, hworks.wires, hworks.clientId] at hcurrent
    exact hmoves.present (h.present i hcurrent)
  · exact presentNow_of_others hmoves.works hi (h.present i)

end

/-! ## Versions that are touched -/

section

variable {client client' : ReplicationClient R}

theorem Touched.view (h : Touched client client') (e : Nat) : client'.view e = client.view e := by
  obtain ⟨wires, rfl⟩ := h.same
  rfl

omit [LocalRegistry R] in
theorem Touched.version_le (h : Touched client client') (w : Nat) :
    (client.store.wireNetworkIds w).version ≤ (client'.store.wireNetworkIds w).version := by
  rcases h.wires w with heq | ⟨hzero, heq⟩
  · rw [heq]
  · rw [hzero]
    exact Nat.zero_le _

omit [LocalRegistry R] in
theorem Touched.clientId (h : Touched client client') : client'.clientId = client.clientId := by
  obtain ⟨wires, rfl⟩ := h.same
  rfl

omit [LocalRegistry R] in
theorem Touched.currentId (h : Touched client client') {w : Nat} (hne : (client.store.wireNetworkIds w).version ≠ 0) :
    client'.currentId w = client.currentId w := by
  rw [ReplicationClient.currentId, ReplicationClient.currentId, h.version hne, h.clientId]

omit [LocalRegistry R] in
theorem Touched.acks (h : Touched client client') : client'.ackQueue = client.ackQueue := by
  obtain ⟨wires, rfl⟩ := h.same
  rfl

omit [LocalRegistry R] in
theorem Touched.trace (h : Touched client client') : client'.trace = client.trace := by
  obtain ⟨wires, rfl⟩ := h.same
  rfl

theorem StoreOk.version_ne (h : StoreOk client) {e : Nat}
    (hused : (client.entity e).clientEntityNetworkId ≠ invalidClientEntityNetworkId) :
    (client.store.wireNetworkIds (client.entity e).wireNetworkId).version ≠ 0 := by
  obtain ⟨_, version, hpos, hle, _⟩ := h.named e hused
  exact Nat.ne_of_gt (Nat.lt_of_lt_of_le hpos hle)

theorem StoreOk.touched (h : StoreOk client) (htouched : Touched client client') : StoreOk client' := by
  have hle := htouched.version_le
  have hcurrent := @Touched.currentId R client client' htouched
  have hindex : ∀ w, (client'.store.wireNetworkIds w).entityIndex = (client.store.wireNetworkIds w).entityIndex := by
    intro w
    rcases htouched.wires w with heq | ⟨_, heq⟩
    · rw [heq]
    · rw [heq]
  have hbound : ∀ w, (client'.store.wireNetworkIds w).version ≤ destroyCount w client.trace + 1 := by
    intro w
    rcases htouched.wires w with heq | ⟨_, heq⟩
    · rw [heq]
      exact h.versions w
    · rw [heq]
      exact Nat.le_add_left 1 _
  obtain ⟨wires, rfl⟩ := htouched.same
  refine ⟨h.pushes, h.capacity, ⟨h.separate.alive, h.separate.distinct⟩, h.unused, h.free, h.nodup,
    h.unmapped, h.indexed,
    fun e hused => ?_, fun w e hi => ?_, hbound, h.selected, h.inv, h.sound⟩
  · obtain ⟨hrange, version, hpos, hv, heq⟩ := h.named e hused
    exact ⟨hrange, version, hpos, Nat.le_trans hv (hle _), heq⟩
  · rw [hindex] at hi
    obtain ⟨hwire, hid, hused⟩ := h.wires w e hi
    refine ⟨hwire, ?_, hused⟩
    rw [hcurrent]
    · exact hid
    · rw [← hwire]
      exact h.version_ne hused

theorem ClientOk.touched (h : ClientOk client) (htouched : Touched client client') : ClientOk client' := by
  refine ⟨h.toStoreOk.touched htouched, fun e hcurrent => ?_⟩
  rw [htouched.entity] at hcurrent ⊢
  by_cases hused : (client.entity e).clientEntityNetworkId = invalidClientEntityNetworkId
  · obtain ⟨hstate, _⟩ := h.unused e hused
    exact congrArg EntityState.entityPresent hstate
  · rw [htouched.currentId (h.version_ne hused)] at hcurrent
    exact h.present e hcurrent

omit [LocalRegistry R] in
theorem makeClientEntityNetworkId_inj {id : ClientId} {w w' v v' : Nat} (hw : w ≤ maxClientLocalWireNetworkId)
    (hw' : w' ≤ maxClientLocalWireNetworkId) (hv : v < 2 ^ 32) (hv' : v' < 2 ^ 32)
    (h : makeClientEntityNetworkId id w v = makeClientEntityNetworkId id w' v') : w = w' ∧ v = v' := by
  unfold maxClientLocalWireNetworkId at hw hw'
  have hparts : ∀ n : Nat, n + (w % 2 ^ 20) * 2 ^ 32 + v % 2 ^ 32 = n + (w' % 2 ^ 20) * 2 ^ 32 + v' % 2 ^ 32 →
      w = w' ∧ v = v' := by
    intro n h
    omega
  exact hparts ((id % 2 ^ 8) * 2 ^ 52) h

end

/-! ## New entities -/

structure StateCreated (store store' : ClientEntityStore) (e : Nat) (id : ClientEntityNetworkId) (w : Nat) : Prop where
  free : store.freeEntityIndices = e :: store'.freeEntityIndices ∨
    (store'.freeEntityIndices = store.freeEntityIndices ∧ e = store.entities.length)
  length : e < store'.entities.length ∧ store.entities.length ≤ store'.entities.length
  indices : store'.clientEntityIndices = Function.update store.clientEntityIndices id (some e)
  wires : store'.wireNetworkIds = Function.update store.wireNetworkIds w { store.wireNetworkIds w with
    entityIndex := some e }
  self : ((store'.entities[e]?).getD ({} : EntityState)).unlisted = { clientEntityNetworkId := id, wireNetworkId := w }
  others : ∀ i, i ≠ e → ((store'.entities[i]?).getD ({} : EntityState)).unlisted =
    ((store.entities[i]?).getD ({} : EntityState)).unlisted

theorem mapEntityState_created {store : ClientEntityStore} {e : Nat} (he : e < store.entities.length)
    (id : ClientEntityNetworkId) (w : Nat) :
    let store' := store.mapEntityState e id w
    store'.freeEntityIndices = store.freeEntityIndices ∧ store'.entities.length = store.entities.length ∧
      store'.clientEntityIndices = Function.update store.clientEntityIndices id (some e) ∧
      store'.wireNetworkIds = Function.update store.wireNetworkIds w { store.wireNetworkIds w with
        entityIndex := some e } ∧
      ((store'.entities[e]?).getD ({} : EntityState)).unlisted = { clientEntityNetworkId := id, wireNetworkId := w } ∧
      ∀ i, i ≠ e → ((store'.entities[i]?).getD ({} : EntityState)).unlisted =
        ((store.entities[i]?).getD ({} : EntityState)).unlisted := by
  have hlisted := relisted_setMembership
    { store with entities := store.entities.set e { clientEntityNetworkId := id, wireNetworkId := w } } .active e true
  refine ⟨hlisted.free, hlisted.length.trans (by simp), rfl, rfl, (hlisted.unlisted e).trans ?_,
    fun i hi => (hlisted.unlisted i).trans ?_⟩
  · simp [he, EntityState.unlisted]
  · simp [Ne.symm hi]

theorem ensureEntityState_created {store : ClientEntityStore} {id : ClientEntityNetworkId} {w : Nat}
    (hid : id ≠ invalidClientEntityNetworkId) (hw : w ≠ 0) (hnone : store.findByClientEntityNetworkId id = none)
    (hfree : ∀ e ∈ store.freeEntityIndices, e < store.entities.length) :
    ∃ store' e, store.ensureEntityState id w = (store', some e) ∧ StateCreated store store' e id w := by
  unfold ClientEntityStore.ensureEntityState
  rw [if_neg (not_or.mpr ⟨hid, hw⟩), hnone]
  dsimp only
  split
  · rename_i e rest hrest
    have he : e < store.entities.length := hfree e (by rw [hrest]; exact List.mem_cons_self)
    obtain ⟨hf, hl, hi, hws, hs, ho⟩ := @mapEntityState_created { store with freeEntityIndices := rest } e he id w
    refine ⟨_, e, rfl, .inl ?_, ?_, hi, hws, hs, ho⟩
    · rw [hf]
      exact hrest
    · rw [hl]
      exact ⟨he, Nat.le_refl _⟩
  · obtain ⟨hf, hl, hi, hws, hs, ho⟩ := @mapEntityState_created
      { store with entities := store.entities ++ [({} : EntityState)] } store.entities.length (by simp) id w
    refine ⟨_, _, rfl, .inr ⟨hf, rfl⟩, ?_, hi, hws, hs, fun i hi => (ho i hi).trans ?_⟩
    · rw [hl]
      simp
    · rcases Nat.lt_or_ge i store.entities.length with hlt | hge
      · rw [List.getElem?_append_left hlt]
      · have hgt : store.entities.length < i := Nat.lt_of_le_of_ne hge (Ne.symm hi)
        have hout : (store.entities ++ [({} : EntityState)])[i]? = none := List.getElem?_eq_none (by simp; exact hgt)
        rw [hout, List.getElem?_eq_none hge]

section

variable {client client' : ReplicationClient R} {e : Nat} {id : ClientEntityNetworkId} {w : Nat}

structure CreatedIn (client client' : ReplicationClient R) (e : Nat) (mode : ReplicationClientMode)
    (id : ClientEntityNetworkId) (w : Nat) : Prop where
  settings : client'.settings = client.settings
  options : client'.options = client.options
  clientId : client'.clientId = client.clientId
  acks : client'.ackQueue = client.ackQueue
  trace : client'.trace = client.trace
  free : client.store.freeEntityIndices = e :: client'.store.freeEntityIndices ∨
    (client'.store.freeEntityIndices = client.store.freeEntityIndices ∧ e = client.store.entities.length)
  length : e < client'.store.entities.length ∧ client.store.entities.length ≤ client'.store.entities.length
  indices : client'.store.clientEntityIndices = Function.update client.store.clientEntityIndices id (some e)
  wires : client'.store.wireNetworkIds =
    Function.update client.store.wireNetworkIds w { client.store.wireNetworkIds w with entityIndex := some e }
  state : (client'.view e).state = { clientEntityNetworkId := id, wireNetworkId := w, mode, modeSelected := true }
  ring : (client'.view e).ring = (client.view e).ring
  others : ∀ i, i ≠ e → client'.view i = client.view i
  registry : client'.registry = client.registry

theorem createdIn_of_created {store : ClientEntityStore} (h : StateCreated client.store store e id w)
    (mode : ReplicationClientMode) :
    CreatedIn client (({ client with store } : ReplicationClient R).modifyEntity e (·.markModeSelected mode)) e
      mode id w := by
  have hf := keepsIds_markModeSelected mode
  have hview := @view_modifyEntity R _ { client with store } e _ hf h.length.1
  have hworks := @worksOn_modifyEntity R _ { client with store } e _ hf
  refine ⟨rfl, rfl, rfl, rfl, rfl, h.free, ?_, h.indices, h.wires, ?_, rfl, fun i hi => ?_, rfl⟩
  · rw [hworks.length]
    exact h.length
  · rw [hview]
    have hself : (({ client with store } : ReplicationClient R).view e).state =
        { clientEntityNetworkId := id, wireNetworkId := w } := h.self
    rw [hself]
    rfl
  · rw [hworks.others i hi]
    have hstate : (({ client with store } : ReplicationClient R).entity i).unlisted = (client.entity i).unlisted :=
      h.others i hi
    simp only [ReplicationClient.view, hstate, (EntityState.of_unlisted hstate).1]

theorem CreatedIn.fresh (h : StoreOk client) {mode : ReplicationClientMode}
    (hcreated : CreatedIn client client' e mode id w) :
    (client.entity e).clientEntityNetworkId = invalidClientEntityNetworkId := by
  rcases hcreated.free with hfree | ⟨_, rfl⟩
  · exact (h.free e (by rw [hfree]; exact List.mem_cons_self)).2
  · simp [ReplicationClient.entity]

theorem ClientOk.created (h : ClientOk client) {mode : ReplicationClientMode}
    (hcreated : CreatedIn client client' e mode id w) (hid : id = client.currentId w)
    (hne : id ≠ invalidClientEntityNetworkId) (hrange : 0 < w ∧ w ≤ maxClientLocalWireNetworkId)
    (hversion : (client.store.wireNetworkIds w).version ≠ 0)
    (hnone : client.store.findByClientEntityNetworkId id = none) :
    ClientOk client' := by
  have hfresh := hcreated.fresh h.toStoreOk
  have hstate : ∀ i, i ≠ e → (client'.entity i).unlisted = (client.entity i).unlisted := fun i hi =>
    congrArg EntityView.state (hcreated.others i hi)
  have hids : ∀ i, i ≠ e → (client'.entity i).clientEntityNetworkId = (client.entity i).clientEntityNetworkId :=
    fun i hi =>
    (EntityState.of_unlisted (hstate i hi)).2.1
  have hwires : ∀ i, i ≠ e → (client'.entity i).wireNetworkId = (client.entity i).wireNetworkId := fun i hi =>
    (EntityState.of_unlisted (hstate i hi)).2.2.1
  have hide : (client'.entity e).clientEntityNetworkId = id := congrArg EntityState.clientEntityNetworkId hcreated.state
  have hwiree : (client'.entity e).wireNetworkId = w := congrArg EntityState.wireNetworkId hcreated.state
  have hlocale : (client'.entity e).localEntity = none := congrArg EntityState.localEntity hcreated.state
  have hversions : ∀ x, (client'.store.wireNetworkIds x).version = (client.store.wireNetworkIds x).version :=
    fun x => by
    rw [hcreated.wires]
    by_cases hx : x = w
    · subst hx
      rw [Function.update_self]
    · rw [Function.update_of_ne hx]
  have hcurrent : ∀ x, client'.currentId x = client.currentId x := fun x => by
    rw [ReplicationClient.currentId, ReplicationClient.currentId, hversions, hcreated.clientId]
  have hother : ∀ i, (client'.entity i).clientEntityNetworkId = invalidClientEntityNetworkId → i ≠ e := by
    rintro i hi rfl
    exact hne (hide.symm.trans hi)
  have hlocal : ∀ i l, (client'.entity i).localEntity = some l → (client.entity i).localEntity = some l := by
    intro i l hl
    by_cases hi : i = e
    · subst hi
      rw [hlocale] at hl
      cases hl
    · exact (EntityState.of_unlisted (hstate i hi)).1.symm.trans hl
  refine ⟨⟨?_, ?_, ⟨fun i l hl => ?_, fun i j l hi hj => ?_⟩, fun i hi => ?_, fun i hi => ?_, ?_, ?_,
    fun i hi => ?_, fun i hi => ?_,
    fun x i hi => ?_, fun x => ?_, fun i hi => ?_, fun i => ?_, ?_⟩, fun i hi => ?_⟩
  · rw [hcreated.settings]
    exact h.pushes
  · rw [hcreated.options]
    exact h.capacity
  · rw [hcreated.registry]
    exact h.separate.alive i l (hlocal i l hl)
  · exact h.separate.distinct i j l (hlocal i l hi) (hlocal j l hj)
  · have hie := hother i hi
    rw [hcreated.others i hie]
    exact h.unused i ((hids i hie).symm.trans hi)
  · rcases hcreated.free with hfree | ⟨hfree, _⟩
    · obtain ⟨hlt, hinvalid⟩ := h.free i (by rw [hfree]; exact List.mem_cons_of_mem e hi)
      have hie : i ≠ e := by
        rintro rfl
        have hnodup := h.nodup
        rw [hfree] at hnodup
        exact (List.nodup_cons.mp hnodup).1 hi
      exact ⟨Nat.lt_of_lt_of_le hlt hcreated.length.2, (hids i hie).trans hinvalid⟩
    · rw [hfree] at hi
      obtain ⟨hlt, hinvalid⟩ := h.free i hi
      have hie : i ≠ e := by
        rintro rfl
        rename_i heq
        exact absurd heq (Nat.ne_of_lt hlt)
      exact ⟨Nat.lt_of_lt_of_le hlt hcreated.length.2, (hids i hie).trans hinvalid⟩
  · rcases hcreated.free with hfree | ⟨hfree, _⟩
    · have hnodup := h.nodup
      rw [hfree] at hnodup
      exact (List.nodup_cons.mp hnodup).2
    · rw [hfree]
      exact h.nodup
  · rw [hcreated.indices, Function.update_of_ne (Ne.symm hne)]
    exact h.unmapped
  · rw [hcreated.indices]
    by_cases hie : i = e
    · rw [hie, hide, Function.update_self]
    · rw [hids i hie] at hi ⊢
      have hidne : (client.entity i).clientEntityNetworkId ≠ id := by
        intro heq
        have hfound := findByClientEntityNetworkId_eq_some.mpr
          ⟨heq ▸ h.indexed i hi, entity_eq_getElem? (lt_length_of_used hi), heq⟩
        rw [hnone] at hfound
        cases hfound
      rw [Function.update_of_ne hidne]
      exact h.indexed i hi
  · unfold Named
    dsimp only
    rw [hversions, hcreated.clientId]
    by_cases hie : i = e
    · rw [hie, hide, hwiree]
      exact ⟨hrange, _, Nat.pos_of_ne_zero hversion, Nat.le_refl _, hid⟩
    · rw [hids i hie] at hi ⊢
      rw [hwires i hie]
      exact h.named i hi
  · rw [hcurrent]
    by_cases hx : x = w
    · subst hx
      rw [hcreated.wires, Function.update_self] at hi
      obtain rfl : e = i := Option.some.inj hi
      rw [hide]
      exact ⟨hwiree, hid, hne⟩
    · rw [hcreated.wires, Function.update_of_ne hx] at hi
      obtain ⟨hwire, hcur, hused⟩ := h.wires x i hi
      have hie : i ≠ e := by
        rintro rfl
        exact hused hfresh
      rw [hids i hie, hwires i hie]
      exact ⟨hwire, hcur, hused⟩
  · rw [hversions, hcreated.trace]
    exact h.versions x
  · by_cases hie : i = e
    · rw [hie]
      exact congrArg EntityState.modeSelected hcreated.state
    · rw [hids i hie] at hi
      exact (EntityState.of_unlisted (hstate i hie)).2.2.2.trans (h.selected i hi)
  · rw [hcreated.settings]
    by_cases hie : i = e
    · subst hie
      have hring : (client'.view i).ring = [] := hcreated.ring.trans (h.unused i hfresh).2
      intro definition _
      refine EntityOk.new ?_ ?_ ?_ ?_ ?_ fun g => by rw [hring]; rfl
      all_goals rw [hcreated.state]
    · rw [hcreated.others i hie]
      exact h.inv i
  · exact h.sound.same hcreated.settings hcreated.trace
  · by_cases hie : i = e
    · rw [hie]
      exact congrArg EntityState.entityPresent hcreated.state
    · rw [hids i hie, hwires i hie, hcurrent] at hi
      exact (congrArg EntityState.entityPresent (hstate i hie)).trans (h.present i hi)

end

/-! ## Erased entities -/

section

variable {client client' : ReplicationClient R} {e : Nat}

structure Erased (e : Nat) (client client' : ReplicationClient R) : Prop where
  settings : client'.settings = client.settings
  options : client'.options = client.options
  clientId : client'.clientId = client.clientId
  acks : client'.ackQueue = client.ackQueue
  trace : client'.trace = client.trace
  length : client'.store.entities.length = client.store.entities.length
  free : client'.store.freeEntityIndices = e :: client.store.freeEntityIndices
  indices : client'.store.clientEntityIndices =
    Function.update client.store.clientEntityIndices (client.entity e).clientEntityNetworkId none
  versions : ∀ w, (client'.store.wireNetworkIds w).version = (client.store.wireNetworkIds w).version
  wires : ∀ w i, (client'.store.wireNetworkIds w).entityIndex = some i →
    (client.store.wireNetworkIds w).entityIndex = some i ∧ (i = e → w ≠ (client.entity e).wireNetworkId)
  state : (client'.view e).state = {}
  ring : (client'.view e).ring = []
  others : ∀ i, i ≠ e → client'.view i = client.view i
  separate : Separate client → Separate client'

theorem unmapEntityState_spec {store : ClientEntityStore} {s : EntityState} (hs : store.entities[e]? = some s)
    (hindex : store.clientEntityIndices s.clientEntityNetworkId = some e) :
    let store' := store.unmapEntityState e
    store'.entities = store.entities ∧ store'.freeEntityIndices = store.freeEntityIndices ∧
      store'.clientEntityIndices = Function.update store.clientEntityIndices s.clientEntityNetworkId none ∧
      (∀ w, (store'.wireNetworkIds w).version = (store.wireNetworkIds w).version) ∧
      ∀ w i, (store'.wireNetworkIds w).entityIndex = some i →
        (store.wireNetworkIds w).entityIndex = some i ∧ (i = e → w ≠ s.wireNetworkId) := by
  unfold ClientEntityStore.unmapEntityState
  rw [hs]
  simp only [hindex, if_true]
  split
  · rename_i hwire
    refine ⟨rfl, rfl, rfl, fun w => ?_, fun w i hi => ?_⟩
    · by_cases hw : w = s.wireNetworkId
      · subst hw
        simp [ClientEntityStore.setWire]
      · simp [ClientEntityStore.setWire, Function.update_of_ne hw]
    · by_cases hw : w = s.wireNetworkId
      · subst hw
        simp [ClientEntityStore.setWire] at hi
      · simp only [ClientEntityStore.setWire, Function.update_of_ne hw] at hi
        exact ⟨hi, fun _ => hw⟩
  · rename_i hwire
    refine ⟨rfl, rfl, rfl, fun _ => rfl, fun w i hi => ⟨hi, ?_⟩⟩
    rintro rfl rfl
    exact hwire hi

theorem releaseEntityState_spec {store : ClientEntityStore} (he : e < store.entities.length) :
    let store' := store.releaseEntityState e
    store'.entities.length = store.entities.length ∧ store'.freeEntityIndices = e :: store.freeEntityIndices ∧
      store'.clientEntityIndices = store.clientEntityIndices ∧ store'.wireNetworkIds = store.wireNetworkIds ∧
      (store'.entities[e]?).getD ({} : EntityState) = {} ∧
      ∀ i, i ≠ e → ((store'.entities[i]?).getD ({} : EntityState)).unlisted =
        ((store.entities[i]?).getD ({} : EntityState)).unlisted := by
  have hlisted : Relisted store ([Membership.buffered, .snapError, .predicted, .predictionRollback, .active].foldl
      (fun store kind => store.setMembership kind e false) store) :=
    ((((relisted_setMembership _ _ _ _).trans (relisted_setMembership _ _ _ _)).trans
      (relisted_setMembership _ _ _ _)).trans
      (relisted_setMembership _ _ _ _)).trans (relisted_setMembership _ _ _ _)
  unfold ClientEntityStore.releaseEntityState
  rw [if_neg (Nat.not_le.mpr he)]
  dsimp only
  generalize [Membership.buffered, .snapError, .predicted, .predictionRollback, .active].foldl
    (fun store kind => store.setMembership kind e false) store = store₁ at hlisted
  have he₁ : e < store₁.entities.length := by rw [hlisted.length]; exact he
  refine ⟨by simp [hlisted.length], by rw [hlisted.free], hlisted.indices, hlisted.wires, by simp [he₁],
    fun i hi => ?_⟩
  rw [List.getElem?_set_ne (Ne.symm hi)]
  exact hlisted.unlisted i

theorem eraseEntityState_eq {s : EntityState} (hs : client.store.entities[e]? = some s)
    (hused : s.clientEntityNetworkId ≠ invalidClientEntityNetworkId) (destroyLocal : Bool) :
    ∃ registry : R, (∀ l, s.localEntity ≠ some l → alive registry l = alive client.registry l ∧
        ∀ c, get registry l c = get client.registry l c) ∧
      client.eraseEntityState e destroyLocal = { ((client.setBufferedRing e []).setPredictedRing e []) with
        registry
        store := (client.store.unmapEntityState e).releaseEntityState e
        cueStore := client.cueStore.eraseForEntity e } := by
  unfold eraseEntityState
  rw [hs]
  dsimp only
  rw [if_neg hused]
  refine ⟨_, fun l hl => ?_, rfl⟩
  split
  · rename_i entity hentity
    split
    · have hne : l ≠ entity := by
        rintro rfl
        exact hl hentity
      exact ⟨by simp [alive_destroy, hne], fun c => get_destroy client.registry entity l c hne⟩
    · exact ⟨rfl, fun _ => rfl⟩
  · exact ⟨rfl, fun _ => rfl⟩

/-- `erase_entity_state` of an entity that is in use. -/
theorem eraseEntityState_erased (h : StoreOk client)
    (hused : (client.entity e).clientEntityNetworkId ≠ invalidClientEntityNetworkId) (destroyLocal : Bool) :
    Erased e client (client.eraseEntityState e destroyLocal) := by
  have he := lt_length_of_used hused
  have hget := entity_eq_getElem? he
  obtain ⟨hents, hfree, hindices, hversions, hwires⟩ := unmapEntityState_spec hget (h.indexed e hused)
  obtain ⟨hlength', hfree', hindices', hwires', hself', hothers'⟩ :=
    @releaseEntityState_spec e (client.store.unmapEntityState e) (by rw [hents]; exact he)
  obtain ⟨registry, hkeeps, heq⟩ := eraseEntityState_eq hget hused destroyLocal
  rw [heq]
  generalize hclient' : ({ ((client.setBufferedRing e []).setPredictedRing e []) with
    registry
    store := (client.store.unmapEntityState e).releaseEntityState e
    cueStore := client.cueStore.eraseForEntity e } : ReplicationClient R) = client'
  have hentity : client'.entity e = {} := by
    rw [← hclient']
    exact hself'
  have hstate : ∀ i, i ≠ e → (client'.entity i).unlisted = (client.entity i).unlisted := fun i hi => by
    rw [← hclient']
    exact (hothers' i hi).trans (by rw [hents]; rfl)
  have hlocal : ∀ i l, (client'.entity i).localEntity = some l → i ≠ e ∧
      (client.entity i).localEntity = some l := by
    intro i l hl
    by_cases hi : i = e
    · subst hi
      rw [hentity] at hl
      cases hl
    · exact ⟨hi, (EntityState.of_unlisted (hstate i hi)).1.symm.trans hl⟩
  have hreg : client'.registry = registry := by rw [← hclient']
  refine ⟨by rw [← hclient']; rfl, by rw [← hclient']; rfl, by rw [← hclient']; rfl, by rw [← hclient']; rfl,
    by rw [← hclient']; rfl,
    by rw [← hclient']; exact hlength'.trans (by rw [hents]),
    by rw [← hclient']; exact hfree'.trans (by rw [hfree]),
    by rw [← hclient']; exact hindices'.trans hindices, fun w => ?_, fun w i hi => ?_, ?_, ?_, fun i hi => ?_,
    fun hsep => ⟨fun i l hl => ?_, fun i j l hi hj => ?_⟩⟩
  · rw [← hclient']
    change (((client.store.unmapEntityState e).releaseEntityState e).wireNetworkIds w).version = _
    rw [hwires', hversions]
  · rw [← hclient'] at hi
    change (((client.store.unmapEntityState e).releaseEntityState e).wireNetworkIds w).entityIndex = _ at hi
    rw [hwires'] at hi
    exact hwires w i hi
  · simp only [ReplicationClient.view, hentity]
    rfl
  · rw [← hclient']
    exact Function.update_self ..
  · have hrings : client'.bufferedRuntime.rings i = client.bufferedRuntime.rings i := by
      rw [← hclient']
      exact Function.update_of_ne hi ..
    simp only [ReplicationClient.view, hstate i hi, hrings, hreg, (EntityState.of_unlisted (hstate i hi)).1]
    congr 1
    funext c
    cases hl : (client.entity i).localEntity with
    | none => rfl
    | some l => exact (hkeeps l fun hle => hi (h.separate.distinct i e l hl hle)).2 c
  · obtain ⟨hi, hl⟩ := hlocal i l hl
    rw [hreg, (hkeeps l fun hle => hi (hsep.distinct i e l hl hle)).1]
    exact hsep.alive i l hl
  · exact hsep.distinct i j l (hlocal i l hi).2 (hlocal j l hj).2

theorem Erased.ids (h : Erased e client client') {i : Nat} (hi : i ≠ e) :
    (client'.entity i).clientEntityNetworkId = (client.entity i).clientEntityNetworkId ∧
      (client'.entity i).wireNetworkId = (client.entity i).wireNetworkId ∧
      (client'.entity i).modeSelected = (client.entity i).modeSelected ∧
      (client'.entity i).entityPresent = (client.entity i).entityPresent := by
  have hstate : (client'.entity i).unlisted = (client.entity i).unlisted := congrArg EntityView.state (h.others i hi)
  have hof := EntityState.of_unlisted hstate
  have hpresent := congrArg EntityState.entityPresent hstate
  exact ⟨hof.2.1, hof.2.2.1, hof.2.2.2, hpresent⟩

theorem StoreOk.erased (h : StoreOk client)
    (hused : (client.entity e).clientEntityNetworkId ≠ invalidClientEntityNetworkId)
    (herased : Erased e client client') : StoreOk client' := by
  have hids := fun i (hi : i ≠ e) => (herased.ids hi).1
  have hwires := fun i (hi : i ≠ e) => (herased.ids hi).2.1
  have hentity : (client'.entity e).clientEntityNetworkId = invalidClientEntityNetworkId :=
    congrArg EntityState.clientEntityNetworkId herased.state
  have hother : ∀ i, (client'.entity i).clientEntityNetworkId ≠ invalidClientEntityNetworkId → i ≠ e := by
    rintro i hi rfl
    exact hi hentity
  refine ⟨?_, ?_, herased.separate h.separate, fun i hi => ?_, fun i hi => ?_, ?_, ?_, fun i hi => ?_, fun i hi => ?_,
    fun w i hi => ?_, fun w => ?_, fun i hi => ?_, fun i => ?_, h.sound.same herased.settings herased.trace⟩
  · rw [herased.settings]
    exact h.pushes
  · rw [herased.options]
    exact h.capacity
  · by_cases hie : i = e
    · rw [hie]
      exact ⟨herased.state, herased.ring⟩
    · rw [herased.others i hie]
      exact h.unused i ((hids i hie).symm.trans hi)
  · rw [herased.length]
    rw [herased.free] at hi
    rcases List.mem_cons.mp hi with rfl | hold
    · exact ⟨lt_length_of_used hused, hentity⟩
    · obtain ⟨hlt, hinvalid⟩ := h.free i hold
      have hie : i ≠ e := by
        rintro rfl
        exact hused hinvalid
      exact ⟨hlt, (hids i hie).trans hinvalid⟩
  · rw [herased.free]
    exact List.nodup_cons.mpr ⟨fun hmem => hused (h.free e hmem).2, h.nodup⟩
  · rw [herased.indices, Function.update_of_ne (Ne.symm hused)]
    exact h.unmapped
  · have hie := hother i hi
    rw [hids i hie] at hi ⊢
    have hne : (client.entity i).clientEntityNetworkId ≠ (client.entity e).clientEntityNetworkId := by
      intro heq
      have hi' := h.indexed i hi
      rw [heq, h.indexed e hused] at hi'
      exact hie (Option.some.inj hi').symm
    rw [herased.indices, Function.update_of_ne hne]
    exact h.indexed i hi
  · have hie := hother i hi
    rw [hids i hie] at hi
    unfold Named
    dsimp only
    rw [herased.versions, herased.clientId, hids i hie, hwires i hie]
    exact h.named i hi
  · obtain ⟨hi, hw⟩ := herased.wires w i hi
    obtain ⟨hwire, hcurrent, hne⟩ := h.wires w i hi
    have hie : i ≠ e := by
      rintro rfl
      exact hw rfl hwire.symm
    rw [hids i hie, hwires i hie, ReplicationClient.currentId, herased.versions, herased.clientId]
    exact ⟨hwire, hcurrent, hne⟩
  · rw [herased.versions, herased.trace]
    exact h.versions w
  · have hie := hother i hi
    rw [(herased.ids hie).2.2.1]
    exact h.selected i (by rwa [hids i hie] at hi)
  · rw [herased.settings]
    by_cases hie : i = e
    · subst hie
      intro definition _
      refine EntityOk.new ?_ ?_ ?_ ?_ ?_ fun g => by rw [herased.ring]; rfl
      all_goals rw [herased.state]
    · rw [herased.others i hie]
      exact h.inv i

theorem Erased.presentNow (herased : Erased e client client') {i : Nat} (hi : i ≠ e) (h : PresentNow client i) :
    PresentNow client' i := by
  intro hcurrent
  rw [(herased.ids hi).1, (herased.ids hi).2.1, ReplicationClient.currentId, herased.versions,
    herased.clientId] at hcurrent
  rw [(herased.ids hi).2.2.2]
  exact h hcurrent

theorem Erased.presentNow_self (herased : Erased e client client') : PresentNow client' e := fun _ =>
  congrArg EntityState.entityPresent herased.state

/-- `erase_entity_state` on a client in order. -/
theorem ClientOk.eraseEntityState (h : ClientOk client) (e : Nat) (destroyLocal : Bool) :
    ClientOk (client.eraseEntityState e destroyLocal) ∧
      (client.eraseEntityState e destroyLocal).trace = client.trace := by
  by_cases hused : (client.entity e).clientEntityNetworkId = invalidClientEntityNetworkId
  · have hsame : client.eraseEntityState e destroyLocal = client := by
      unfold ReplicationClient.eraseEntityState
      split
      · rfl
      · rename_i s hs
        rw [entity_of_getElem? hs] at hused
        rw [if_pos hused]
    rw [hsame]
    exact ⟨h, rfl⟩
  · have herased := eraseEntityState_erased h.toStoreOk hused destroyLocal
    refine ⟨⟨h.toStoreOk.erased hused herased, fun i => ?_⟩, herased.trace⟩
    by_cases hie : i = e
    · rw [hie]
      exact herased.presentNow_self
    · exact herased.presentNow hie (h.present i)

end

end AshiatoSync
