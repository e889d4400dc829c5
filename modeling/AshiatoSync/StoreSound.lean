import AshiatoSync.ClientIds
import AshiatoSync.Lib.Indexed

/-!
# Soundness of the entity store's tables

Each list has the places that the states store for it, an index is free or active,
and the ids map to the active states.  Two states can have one wire id, as a
buffered destroy keeps the old one until its frame: the wire id maps to the new one,
and releasing the old one leaves it there.
-/

namespace AshiatoSync

open Indexed

/-! ## The index of local entities -/

structure IndexedEntityStore where
  store : ClientEntityStore := {}
  localEntityIndices : Entity → Option Nat := fun _ => none

def ClientEntityStore.entityAt (store : ClientEntityStore) (e : Nat) : EntityState := (store.entities[e]?).getD {}

namespace IndexedEntityStore

def registerLocalEntityIndex (store : IndexedEntityStore) (e : Nat) : IndexedEntityStore :=
  match (store.store.entityAt e).localEntity with
  | none => store
  | some entity => { store with localEntityIndices := Function.update store.localEntityIndices entity (some e) }

def unregisterLocalEntityIndex (store : IndexedEntityStore) (e : Nat) : IndexedEntityStore :=
  match (store.store.entityAt e).localEntity with
  | none => store
  | some entity =>
    if store.localEntityIndices entity = some e then
      { store with localEntityIndices := Function.update store.localEntityIndices entity none }
    else store

/-- `ReplicationClient::erase_entity_state`, as far as the store goes. -/
def eraseEntityState (store : IndexedEntityStore) (e : Nat) : IndexedEntityStore :=
  if e ≥ store.store.entities.length then store
  else if (store.store.entityAt e).clientEntityNetworkId = invalidClientEntityNetworkId then store
  else
    let store := { store with store := store.store.unmapEntityState e }
    let store := store.unregisterLocalEntityIndex e
    { store with store := store.store.releaseEntityState e }

end IndexedEntityStore

/-! ## Lists -/

namespace ClientEntityStore

def placeOf (store : ClientEntityStore) (kind : Membership) (e : Nat) : Option Nat :=
  (store.entityAt e).membershipIndex kind

def Listed (store : ClientEntityStore) : Prop := ∀ kind, Indexes some (store.members kind) (store.placeOf kind)

variable {store : ClientEntityStore} {e : Nat}

theorem entityAt_of_le (h : store.entities.length ≤ e) : store.entityAt e = {} := by
  rw [entityAt, List.getElem?_eq_none h]
  rfl

theorem placeOf_setMembershipIndex (store : ClientEntityStore) (kind kind' : Membership) (e i : Nat)
    (index : Option Nat) :
    (store.setMembershipIndex kind e index).placeOf kind' i =
      if i = e ∧ kind' = kind ∧ e < store.entities.length then index else store.placeOf kind' i := by
  simp only [placeOf, entityAt, setMembershipIndex, modifyEntity, List.getElem?_modify]
  by_cases hlen : i < store.entities.length
  · rw [List.getElem?_eq_getElem hlen]
    by_cases heq : e = i
    · subst heq
      by_cases hkind : kind' = kind
      · simp [hkind, hlen]
      · simp [hkind]
    · simp [heq, Ne.symm heq]
  · rw [List.getElem?_eq_none (by omega)]
    rw [if_neg fun hi : i = e ∧ kind' = kind ∧ e < store.entities.length => hlen (hi.1 ▸ hi.2.2)]
    rfl

/-- What `set_indexed_membership` does to the lists. -/
structure Enlisted (store : ClientEntityStore) (kind : Membership) (e : Nat) (active : Bool)
    (store' : ClientEntityStore) :
    Prop where
  relisted : Relisted store store'
  listed : store'.Listed
  self : e < store.entities.length → (store'.placeOf kind e).isSome = active
  others : ∀ i, i ≠ e → (store'.placeOf kind i).isSome = (store.placeOf kind i).isSome
  lists : ∀ kind', kind' ≠ kind → store'.members kind' = store.members kind'
  places : ∀ kind' i, kind' ≠ kind → store'.placeOf kind' i = store.placeOf kind' i

theorem Listed.kept (h : store.Listed) {kind : Membership} {active : Bool}
    (hself : e < store.entities.length → (store.placeOf kind e).isSome = active) :
    Enlisted store kind e active store :=
  ⟨.refl store, h, hself, fun _ _ => rfl, fun _ _ => rfl, fun _ _ _ => rfl⟩

theorem Listed.of_kind {store' : ClientEntityStore} (h : store.Listed) (kind : Membership)
    (hkind : Indexes some (store'.members kind) (store'.placeOf kind))
    (hlists : ∀ kind', kind' ≠ kind → store'.members kind' = store.members kind')
    (hplaces : ∀ kind' i, kind' ≠ kind → store'.placeOf kind' i = store.placeOf kind' i) : store'.Listed := by
  intro kind'
  by_cases heq : kind' = kind
  · rw [heq]
    exact hkind
  · rw [hlists kind' heq]
    exact (h kind').congr fun i => hplaces kind' i heq

theorem enlisted_enter (h : store.Listed) {kind : Membership} (he : e < store.entities.length)
    (hnone : store.placeOf kind e = none) :
    Enlisted store kind e true { store.setMembershipIndex kind e (some (store.members kind).length) with
      members := Function.update store.members kind (store.members kind ++ [e]) } := by
  let store' : ClientEntityStore := { store.setMembershipIndex kind e (some (store.members kind).length) with
    members := Function.update store.members kind (store.members kind ++ [e]) }
  have hplaces : ∀ kind' i, store'.placeOf kind' i =
      if i = e ∧ kind' = kind ∧ e < store.entities.length then some (store.members kind).length
      else store.placeOf kind' i :=
    fun kind' i => placeOf_setMembershipIndex store kind kind' e i _
  have hothers : ∀ kind' i, kind' ≠ kind → store'.placeOf kind' i = store.placeOf kind' i := fun kind' i hne => by
    rw [hplaces, if_neg fun heq => hne heq.2.1]
  have hlists : ∀ kind', kind' ≠ kind → store'.members kind' = store.members kind' := fun kind' hne =>
    Function.update_of_ne hne ..
  have hr := relisted_setMembershipIndex store kind e (some (store.members kind).length)
  refine ⟨⟨hr.length, hr.free, hr.wires, hr.indices, hr.tombstones, hr.unlisted⟩, ?_, fun _ => ?_, fun i hi => ?_,
    hlists, hothers⟩
  · refine h.of_kind kind ?_ hlists hothers
    have hmembers : store'.members kind = store.members kind ++ [e] := Function.update_self ..
    rw [hmembers]
    refine ((h kind).push rfl hnone).congr fun i => ?_
    rw [hplaces]
    by_cases heq : i = e
    · rw [if_pos ⟨heq, rfl, he⟩, heq, Function.update_self]
    · rw [if_neg fun hi => heq hi.1, Function.update_of_ne heq]
  · rw [hplaces, if_pos ⟨rfl, rfl, he⟩]
    rfl
  · rw [hplaces, if_neg fun heq => hi heq.1]

theorem enlisted_leave (h : store.Listed) {kind : Membership} (he : e < store.entities.length) {p moved : Nat}
    (hp : store.placeOf kind e = some p) (hlast : (store.members kind).getLast? = some moved) :
    Enlisted store kind e false { (store.setMembershipIndex kind moved (some p)).setMembershipIndex kind e none with
      members := Function.update store.members kind ((store.members kind).set p moved).dropLast } := by
  let store₁ := store.setMembershipIndex kind moved (some p)
  let store' : ClientEntityStore := { store₁.setMembershipIndex kind e none with
    members := Function.update store.members kind ((store.members kind).set p moved).dropLast }
  have hat : (store.members kind)[p]? = some e := by
    have hin := (h kind e p).mp hp
    rw [Option.bind_fun_some] at hin
    exact hin
  have hlt : p < (store.members kind).length := (List.getElem?_eq_some_iff.mp hat).1
  have hmoved : moved < store.entities.length := by
    have hat' := List.getLast?_eq_getElem? (l := store.members kind) ▸ hlast
    have hplace := (h kind moved _).mpr (by rw [hat']; rfl)
    by_contra hge
    rw [placeOf, entityAt_of_le (by omega)] at hplace
    cases hplace
  have hlen₁ : store₁.entities.length = store.entities.length :=
    (relisted_setMembershipIndex store kind moved (some p)).length
  have hplaces : ∀ kind' i, store'.placeOf kind' i = if i = e ∧ kind' = kind then none
      else if i = moved ∧ kind' = kind then some p else store.placeOf kind' i := by
    intro kind' i
    refine (placeOf_setMembershipIndex store₁ kind kind' e i none).trans ?_
    rw [hlen₁]
    by_cases hself : i = e ∧ kind' = kind
    · rw [if_pos ⟨hself.1, hself.2, he⟩, if_pos hself]
    · rw [if_neg fun hi => hself ⟨hi.1, hi.2.1⟩, if_neg hself]
      refine (placeOf_setMembershipIndex store kind kind' moved i (some p)).trans ?_
      by_cases heq : i = moved ∧ kind' = kind
      · rw [if_pos ⟨heq.1, heq.2, hmoved⟩, if_pos heq]
      · rw [if_neg fun hi => heq ⟨hi.1, hi.2.1⟩, if_neg heq]
  have hothers : ∀ kind' i, kind' ≠ kind → store'.placeOf kind' i = store.placeOf kind' i := fun kind' i hne => by
    rw [hplaces, if_neg fun heq => hne heq.2, if_neg fun heq => hne heq.2]
  have hlists : ∀ kind', kind' ≠ kind → store'.members kind' = store.members kind' := fun kind' hne =>
    Function.update_of_ne hne ..
  have hr :=
    (relisted_setMembershipIndex store kind moved (some p)).trans (relisted_setMembershipIndex store₁ kind e none)
  refine ⟨⟨hr.length, hr.free, hr.wires, hr.indices, hr.tombstones, hr.unlisted⟩, ?_, fun _ => ?_, fun i hi => ?_,
    hlists, hothers⟩
  · refine h.of_kind kind ?_ hlists hothers
    have hmembers : store'.members kind = swapRemove (store.members kind) p := by
      rw [swapRemove, hlast]
      exact Function.update_self ..
    rw [hmembers]
    refine (h kind).swapRemove hlt (fun i hi => ?_) (fun i hi hi' => ?_) fun i hi hi' => ?_
    · rw [hat] at hi
      rw [hplaces, if_pos ⟨(Option.some.inj hi).symm, rfl⟩]
    · rw [hat] at hi
      rw [hlast] at hi'
      rw [hplaces, if_neg fun heq => hi (congrArg some heq.1.symm), if_pos ⟨(Option.some.inj hi').symm, rfl⟩]
    · rw [hat] at hi
      rw [hlast] at hi'
      rw [hplaces, if_neg fun heq => hi (congrArg some heq.1.symm), if_neg fun heq => hi' (congrArg some heq.1.symm)]
  · rw [hplaces, if_pos ⟨rfl, rfl⟩]
    rfl
  · rw [hplaces, if_neg fun heq => hi heq.1]
    by_cases heq : i = moved
    · have hat' := List.getLast?_eq_getElem? (l := store.members kind) ▸ hlast
      have hplace := (h kind moved _).mpr (by rw [hat']; rfl)
      rw [if_pos ⟨heq, rfl⟩, heq, hplace]
      rfl
    · rw [if_neg fun hi => heq hi.1]

theorem enlisted (h : store.Listed) (kind : Membership) (e : Nat) (active : Bool) :
    Enlisted store kind e active (store.setMembership kind e active) := by
  unfold setMembership
  cases hget : store.entities[e]? with
  | none =>
    have hge := List.getElem?_eq_none_iff.mp hget
    exact h.kept fun he => absurd he (by omega)
  | some state =>
    have he : e < store.entities.length := (List.getElem?_eq_some_iff.mp hget).1
    have hplace : store.placeOf kind e = state.membershipIndex kind := by
      rw [placeOf, entityAt, hget]
      rfl
    dsimp only
    cases active with
    | true =>
      cases hindex : state.membershipIndex kind with
      | some p => exact h.kept fun _ => congrArg Option.isSome (hplace.trans hindex)
      | none => exact enlisted_enter h he (hplace.trans hindex)
    | false =>
      cases hindex : state.membershipIndex kind with
      | none => exact h.kept fun _ => congrArg Option.isSome (hplace.trans hindex)
      | some p =>
        have hat := (h kind e p).mp (hplace.trans hindex)
        have hlt : p < (store.members kind).length := by
          by_contra hge
          rw [List.getElem?_eq_none (by omega)] at hat
          cases hat
        cases hlast : (store.members kind).getLast? with
        | none =>
          rw [List.getLast?_eq_none_iff.mp hlast] at hlt
          exact absurd hlt (Nat.not_lt_zero p)
        | some moved =>
          dsimp only
          rw [if_neg (Nat.not_le.mpr hlt)]
          exact enlisted_leave h he (hplace.trans hindex) hlast

/-! ## Tables -/

structure TablesOk (store : ClientEntityStore) : Prop where
  listed : store.Listed
  freeNodup : store.freeEntityIndices.Nodup
  free : ∀ e ∈ store.freeEntityIndices, e < store.entities.length ∧
    (store.entityAt e).clientEntityNetworkId = invalidClientEntityNetworkId
  cover : ∀ e, e < store.entities.length →
    e ∈ store.freeEntityIndices ∨ (store.entityAt e).clientEntityNetworkId ≠ invalidClientEntityNetworkId
  used : ∀ kind e, (store.placeOf kind e).isSome → (store.entityAt e).clientEntityNetworkId ≠
    invalidClientEntityNetworkId
  active : ∀ e, (store.entityAt e).clientEntityNetworkId ≠ invalidClientEntityNetworkId →
    (store.placeOf .active e).isSome
  indexed : ∀ id e, store.clientEntityIndices id = some e ↔
    id ≠ invalidClientEntityNetworkId ∧ (store.entityAt e).clientEntityNetworkId = id
  wires : ∀ w e, (store.wireNetworkIds w).entityIndex = some e →
    (store.entityAt e).clientEntityNetworkId ≠ invalidClientEntityNetworkId ∧ (store.entityAt e).wireNetworkId = w

theorem tablesOk_empty : TablesOk {} := by
  have hentity : ∀ e, entityAt {} e = {} := fun e => rfl
  have hplace : ∀ kind e, placeOf {} kind e = none := fun kind e => rfl
  refine ⟨fun kind => Indexes.nil.congr fun e => hplace kind e, List.nodup_nil, fun e he => ?_, fun e he => ?_,
    fun kind e he => ?_, fun e he => absurd rfl he, fun id e => ?_, fun w e he => ?_⟩
  · cases he
  · exact absurd he (Nat.not_lt_zero e)
  · rw [hplace] at he
    cases he
  · constructor
    · intro h
      cases h
    · rintro ⟨hid, heq⟩
      exact absurd heq.symm hid
  · cases he

theorem Relisted.entityAt {store store' : ClientEntityStore} (h : Relisted store store') (e : Nat) :
    (store'.entityAt e).clientEntityNetworkId = (store.entityAt e).clientEntityNetworkId ∧
      (store'.entityAt e).wireNetworkId = (store.entityAt e).wireNetworkId :=
  have hstate := EntityState.of_unlisted (h.unlisted e)
  ⟨hstate.2.1, hstate.2.2.1⟩

theorem TablesOk.setMembership (h : store.TablesOk) {kind : Membership} (hkind : kind ≠ .active) {active : Bool}
    (hused : active = true → (store.entityAt e).clientEntityNetworkId ≠ invalidClientEntityNetworkId) :
    (store.setMembership kind e active).TablesOk := by
  have hlist := enlisted h.listed kind e active
  have hentity := Relisted.entityAt hlist.relisted
  refine ⟨hlist.listed, ?_, fun i hi => ?_, fun i hi => ?_, fun kind' i hi => ?_, fun i hi => ?_, fun id i => ?_,
    fun w i hi => ?_⟩
  · rw [hlist.relisted.free]
    exact h.freeNodup
  · rw [hlist.relisted.free] at hi
    rw [hlist.relisted.length, (hentity i).1]
    exact h.free i hi
  · rw [hlist.relisted.length] at hi
    rw [hlist.relisted.free, (hentity i).1]
    exact h.cover i hi
  · rw [(hentity i).1]
    by_cases heq : kind' = kind
    · subst heq
      by_cases hie : i = e
      · subst hie
        by_cases hlt : i < store.entities.length
        · rw [hlist.self hlt] at hi
          exact hused hi
        · rw [placeOf, entityAt_of_le (by rw [hlist.relisted.length]; omega)] at hi
          cases hi
      · rw [hlist.others i hie] at hi
        exact h.used kind' i hi
    · rw [hlist.places kind' i heq] at hi
      exact h.used kind' i hi
  · rw [(hentity i).1] at hi
    rw [hlist.places .active i hkind.symm]
    exact h.active i hi
  · rw [hlist.relisted.indices, (hentity i).1]
    exact h.indexed id i
  · rw [hlist.relisted.wires] at hi
    rw [(hentity i).1, (hentity i).2]
    exact h.wires w i hi

theorem TablesOk.syncEntityMemberships (h : store.TablesOk) (e : Nat) : (store.syncEntityMemberships e).TablesOk := by
  unfold ClientEntityStore.syncEntityMemberships
  cases hget : store.entities[e]? with
  | none => exact h
  | some state =>
    dsimp only
    have hentity : store.entityAt e = state := by
      rw [entityAt, hget]
      rfl
    by_cases hid : state.clientEntityNetworkId = invalidClientEntityNetworkId
    · rw [if_pos hid]
      exact h
    · rw [if_neg hid]
      cases hmapped : store.clientEntityIndices state.clientEntityNetworkId with
      | none => exact h
      | some mapped =>
        dsimp only
        by_cases heq : mapped = e
        · rw [if_pos heq]
          rw [← hentity] at hid
          have h₁ :=
            @TablesOk.setMembership _ e h .buffered (by decide) (state.mode = .bufferedInterpolation) fun _ => hid
          have hid₁ :=
            (Relisted.entityAt (relisted_setMembership store .buffered e (state.mode = .bufferedInterpolation)) e).1
          have h₂ := @TablesOk.setMembership _ e h₁ .predicted (by decide) (state.mode = .predict)
            fun _ => by rw [hid₁]; exact hid
          refine h₂.setMembership (by decide) fun _ => ?_
          rw [(Relisted.entityAt (relisted_setMembership _ .predicted e _) e).1, hid₁]
          exact hid
        · rw [if_neg heq]
          exact h

/-! ### Assignments to a state -/

theorem entityAt_modifyEntity (store : ClientEntityStore) (e i : Nat) (f : EntityState → EntityState) :
    (store.modifyEntity e f).entityAt i = if i = e ∧ e < store.entities.length then f (store.entityAt i)
    else store.entityAt i := by
  simp only [entityAt, modifyEntity, List.getElem?_modify]
  by_cases hlen : i < store.entities.length
  · rw [List.getElem?_eq_getElem hlen]
    by_cases heq : e = i
    · simp [heq, hlen]
    · simp [heq, Ne.symm heq]
  · rw [List.getElem?_eq_none (by omega), if_neg fun hi : i = e ∧ e < store.entities.length => hlen (hi.1 ▸ hi.2)]
    rfl

structure Assigns (f : EntityState → EntityState) : Prop where
  id : ∀ s, (f s).clientEntityNetworkId = s.clientEntityNetworkId
  wire : ∀ s, (f s).wireNetworkId = s.wireNetworkId
  places : ∀ s, (f s).membershipIndex = s.membershipIndex

theorem TablesOk.modifyEntity (h : store.TablesOk) {f : EntityState → EntityState} (hf : Assigns f) (e : Nat) :
    (store.modifyEntity e f).TablesOk := by
  have hid : ∀ i, ((store.modifyEntity e f).entityAt i).clientEntityNetworkId =
      (store.entityAt i).clientEntityNetworkId := by
    intro i
    rw [entityAt_modifyEntity]
    split
    · exact hf.id _
    · rfl
  have hwire : ∀ i, ((store.modifyEntity e f).entityAt i).wireNetworkId = (store.entityAt i).wireNetworkId := by
    intro i
    rw [entityAt_modifyEntity]
    split
    · exact hf.wire _
    · rfl
  have hplace : ∀ kind i, (store.modifyEntity e f).placeOf kind i = store.placeOf kind i := by
    intro kind i
    rw [placeOf, entityAt_modifyEntity]
    split
    · rw [hf.places]
      rfl
    · rfl
  have hlen : (store.modifyEntity e f).entities.length = store.entities.length := List.length_modify ..
  refine ⟨fun kind => (h.listed kind).congr (hplace kind), h.freeNodup, fun i hi => ?_, fun i hi => ?_,
    fun kind i hi => ?_,
    fun i hi => ?_, fun id i => ?_, fun w i hi => ?_⟩
  · rw [hlen, hid]
    exact h.free i hi
  · rw [hlen] at hi
    rw [hid]
    exact h.cover i hi
  · rw [hplace] at hi
    rw [hid]
    exact h.used kind i hi
  · rw [hid] at hi
    rw [hplace]
    exact h.active i hi
  · rw [hid]
    exact h.indexed id i
  · rw [hid, hwire]
    exact h.wires w i hi

theorem TablesOk.queuePredictionRollback (h : store.TablesOk)
    (hused : (store.entityAt e).clientEntityNetworkId ≠ invalidClientEntityNetworkId) (frame : SyncFrame) :
    (store.queuePredictionRollback e frame).TablesOk := by
  unfold ClientEntityStore.queuePredictionRollback
  cases hget : store.entities[e]? with
  | none => exact h
  | some state =>
    dsimp only
    have hassigns : Assigns fun s : EntityState => { s with
        rollbackPending := true
        rollbackFrame := if s.rollbackFrame = 0 then frame else max s.rollbackFrame frame } :=
      ⟨fun _ => rfl, fun _ => rfl, fun _ => rfl⟩
    refine TablesOk.modifyEntity ?_ hassigns e
    split
    · exact h
    · exact h.setMembership (by decide) fun _ => hused

/-! ### Clearing the rollbacks -/

def unqueued (s : EntityState) : EntityState :=
  { s with
    rollbackPending := false, rollbackFrame := 0
    membershipIndex := Function.update s.membershipIndex .predictionRollback none }

theorem membershipIndex_unqueued (s : EntityState) (kind : Membership) :
    (unqueued s).membershipIndex kind = if kind = .predictionRollback then none else s.membershipIndex kind :=
  Function.update_apply ..

theorem entityAt_unqueue (members : List Nat) : ∀ (store : ClientEntityStore) (i : Nat),
    let store' := members.foldl (fun store e => store.modifyEntity e unqueued) store
    ((store'.entityAt i).clientEntityNetworkId = (store.entityAt i).clientEntityNetworkId ∧
        (store'.entityAt i).wireNetworkId = (store.entityAt i).wireNetworkId) ∧
      (∀ kind, kind ≠ .predictionRollback → store'.placeOf kind i = store.placeOf kind i) ∧
      store'.placeOf .predictionRollback i = (if i ∈ members then none else store.placeOf .predictionRollback i) ∧
      store'.entities.length = store.entities.length ∧ store'.freeEntityIndices = store.freeEntityIndices ∧
      store'.clientEntityIndices = store.clientEntityIndices ∧ store'.wireNetworkIds = store.wireNetworkIds ∧
      store'.members = store.members := by
  induction members with
  | nil => exact fun store i => ⟨⟨rfl, rfl⟩, fun _ _ => rfl, rfl, rfl, rfl, rfl, rfl, rfl⟩
  | cons e members ih =>
    intro store i
    obtain ⟨⟨hid, hwire⟩, hplaces, hrollback, hlen, hfree, hindices, hwires, hmembers⟩ :=
      ih (store.modifyEntity e unqueued) i
    refine ⟨⟨hid.trans ?_, hwire.trans ?_⟩, fun kind hkind => (hplaces kind hkind).trans ?_, hrollback.trans ?_,
      hlen.trans (List.length_modify ..), hfree, hindices, hwires, hmembers⟩
    · rw [entityAt_modifyEntity]
      split <;> rfl
    · rw [entityAt_modifyEntity]
      split <;> rfl
    · rw [placeOf, entityAt_modifyEntity]
      split
      · rw [membershipIndex_unqueued, if_neg hkind]
        rfl
      · rfl
    · by_cases hin : i ∈ members
      · rw [if_pos hin, if_pos (List.mem_cons_of_mem e hin)]
      · rw [if_neg hin, placeOf, entityAt_modifyEntity]
        by_cases heq : i = e
        · rw [if_pos (List.mem_cons.mpr (.inl heq))]
          by_cases hlt : e < store.entities.length
          · rw [if_pos ⟨heq, hlt⟩, membershipIndex_unqueued, if_pos rfl]
          · rw [if_neg fun hi => hlt hi.2, entityAt_of_le (by omega)]
        · rw [if_neg fun hi => heq hi.1, if_neg fun hi => (List.mem_cons.mp hi).elim heq hin]
          rfl

theorem TablesOk.clearPredictionRollbackMemberships (h : store.TablesOk) :
    store.clearPredictionRollbackMemberships.TablesOk := by
  have hspec := fun i => entityAt_unqueue (store.members .predictionRollback) store i
  let cleared := (store.members .predictionRollback).foldl (fun store e => store.modifyEntity e unqueued) store
  have hresult : store.clearPredictionRollbackMemberships =
      { cleared with members := Function.update store.members .predictionRollback [] } := rfl
  -- every state with a place was in the list
  have hnone : ∀ i, cleared.placeOf .predictionRollback i = none := by
    intro i
    rw [(hspec i).2.2.1]
    by_cases hin : i ∈ store.members .predictionRollback
    · exact if_pos hin
    · rw [if_neg hin]
      exact (h.listed .predictionRollback).eq_none_iff i |>.mpr fun b hb heq => hin (Option.some.inj heq ▸ hb)
  have hplace : ∀ kind i, (cleared.placeOf kind i).isSome → (store.placeOf kind i).isSome := by
    intro kind i hi
    by_cases heq : kind = .predictionRollback
    · rw [heq, hnone] at hi
      cases hi
    · rw [(hspec i).2.1 kind heq] at hi
      exact hi
  obtain ⟨_, _, _, hlen, hfree, hindices, hwires, _⟩ := hspec 0
  rw [hresult]
  refine ⟨fun kind => ?_, ?_, fun i hi => ?_, fun i hi => ?_, fun kind i hi => ?_, fun i hi => ?_, fun id i => ?_,
    fun w i hi => ?_⟩
  · by_cases heq : kind = .predictionRollback
    · subst heq
      change Indexes some (Function.update store.members .predictionRollback [] .predictionRollback) _
      rw [Function.update_self]
      exact Indexes.nil.congr hnone
    · change Indexes some (Function.update store.members .predictionRollback [] kind) _
      rw [Function.update_of_ne heq]
      exact (h.listed kind).congr fun i => (hspec i).2.1 kind heq
  · exact hfree ▸ h.freeNodup
  · have hi' : i ∈ store.freeEntityIndices := hfree ▸ hi
    exact ⟨hlen.symm ▸ (h.free i hi').1, (hspec i).1.1.trans (h.free i hi').2⟩
  · have hcover := h.cover i (hlen ▸ hi)
    rw [← (hspec i).1.1, ← hfree] at hcover
    exact hcover
  · have hused := h.used kind i (hplace kind i hi)
    rw [← (hspec i).1.1] at hused
    exact hused
  · have hactive := h.active i (by rw [← (hspec i).1.1]; exact hi)
    rw [← (hspec i).2.1 .active (by decide)] at hactive
    exact hactive
  · have hindexed := h.indexed id i
    rw [← (hspec i).1.1, ← hindices] at hindexed
    exact hindexed
  · have hwire := h.wires w i (by rw [← hwires]; exact hi)
    rw [← (hspec i).1.1, ← (hspec i).1.2] at hwire
    exact hwire

/-! ### Creation -/

structure Vacant (store : ClientEntityStore) (e : Nat) : Prop where
  listed : store.Listed
  freeNodup : store.freeEntityIndices.Nodup
  free : ∀ i ∈ store.freeEntityIndices, i ≠ e ∧ i < store.entities.length ∧
    (store.entityAt i).clientEntityNetworkId = invalidClientEntityNetworkId
  cover : ∀ i, i ≠ e → i < store.entities.length →
    i ∈ store.freeEntityIndices ∨ (store.entityAt i).clientEntityNetworkId ≠ invalidClientEntityNetworkId
  inside : e < store.entities.length
  vacant : (store.entityAt e).clientEntityNetworkId = invalidClientEntityNetworkId
  used : ∀ kind i, (store.placeOf kind i).isSome → (store.entityAt i).clientEntityNetworkId ≠
    invalidClientEntityNetworkId
  active : ∀ i, (store.entityAt i).clientEntityNetworkId ≠ invalidClientEntityNetworkId →
    (store.placeOf .active i).isSome
  indexed : ∀ id i, store.clientEntityIndices id = some i ↔
    id ≠ invalidClientEntityNetworkId ∧ (store.entityAt i).clientEntityNetworkId = id
  wires : ∀ w i, (store.wireNetworkIds w).entityIndex = some i →
    (store.entityAt i).clientEntityNetworkId ≠ invalidClientEntityNetworkId ∧ (store.entityAt i).wireNetworkId = w

theorem entityAt_set (store : ClientEntityStore) (he : e < store.entities.length) (state : EntityState) (i : Nat) :
    ({ store with entities := store.entities.set e state } : ClientEntityStore).entityAt i =
      if i = e then state else store.entityAt i := by
  simp only [entityAt, List.getElem?_set]
  by_cases heq : e = i
  · simp [heq, heq ▸ he]
  · simp [heq, Ne.symm heq]

theorem Vacant.unlisted (h : store.Vacant e) (kind : Membership) : store.placeOf kind e = none := by
  cases hplace : store.placeOf kind e with
  | none => rfl
  | some p => exact absurd h.vacant (h.used kind e (by rw [hplace]; rfl))

theorem Vacant.mapEntityState (h : store.Vacant e) {id : ClientEntityNetworkId}
    (hid : id ≠ invalidClientEntityNetworkId) (hnew : store.clientEntityIndices id = none) (w : Nat) :
    (store.mapEntityState e id w).TablesOk := by
  let fresh : EntityState := { clientEntityNetworkId := id, wireNetworkId := w }
  let store₁ : ClientEntityStore := { store with entities := store.entities.set e fresh }
  have hentity₁ : ∀ i, store₁.entityAt i = if i = e then fresh else store.entityAt i :=
    entityAt_set store h.inside fresh
  have hplace₁ : ∀ kind i, store₁.placeOf kind i = store.placeOf kind i := by
    intro kind i
    rw [placeOf, hentity₁]
    by_cases heq : i = e
    · rw [if_pos heq, heq, h.unlisted kind]
    · rw [if_neg heq]
      rfl
  have hlist : Enlisted store₁ .active e true _ :=
    @enlisted store₁ (fun kind => (h.listed kind).congr (hplace₁ kind)) .active e true
  have hlen₁ : store₁.entities.length = store.entities.length := List.length_set ..
  have hentity : ∀ i, i ≠ e →
      ((store.mapEntityState e id w).entityAt i).clientEntityNetworkId = (store.entityAt i).clientEntityNetworkId ∧
        ((store.mapEntityState e id w).entityAt i).wireNetworkId = (store.entityAt i).wireNetworkId := by
    intro i hi
    have hsame := Relisted.entityAt hlist.relisted i
    rw [hentity₁, if_neg hi] at hsame
    exact hsame
  have hself : ((store.mapEntityState e id w).entityAt e).clientEntityNetworkId = id ∧
      ((store.mapEntityState e id w).entityAt e).wireNetworkId = w := by
    have hsame := Relisted.entityAt hlist.relisted e
    rw [hentity₁, if_pos rfl] at hsame
    exact hsame
  have hplaces : ∀ kind i, i ≠ e →
      ((store.mapEntityState e id w).placeOf kind i).isSome = (store.placeOf kind i).isSome := by
    intro kind i hi
    rw [← hplace₁]
    by_cases hkind : kind = .active
    · subst hkind
      exact hlist.others i hi
    · exact congrArg Option.isSome (hlist.places kind i hkind)
  have hfree : (store.mapEntityState e id w).freeEntityIndices = store.freeEntityIndices := hlist.relisted.free
  have hlen : (store.mapEntityState e id w).entities.length = store.entities.length :=
    hlist.relisted.length.trans hlen₁
  refine ⟨hlist.listed, ?_, fun i hi => ?_, fun i hi => ?_, fun kind i hi => ?_, fun i hi => ?_, fun id' i => ?_,
    fun w' i hi => ?_⟩
  · rw [hfree]
    exact h.freeNodup
  · rw [hfree] at hi
    obtain ⟨hne, hlt, hinvalid⟩ := h.free i hi
    rw [hlen, (hentity i hne).1]
    exact ⟨hlt, hinvalid⟩
  · by_cases heq : i = e
    · rw [heq, hself.1]
      exact .inr hid
    · rw [hfree, (hentity i heq).1]
      exact h.cover i heq (hlen ▸ hi)
  · by_cases heq : i = e
    · rw [heq, hself.1]
      exact hid
    · rw [hplaces kind i heq] at hi
      rw [(hentity i heq).1]
      exact h.used kind i hi
  · by_cases heq : i = e
    · rw [heq]
      exact hlist.self (hlen₁.symm ▸ h.inside)
    · rw [(hentity i heq).1] at hi
      rw [hplaces .active i heq]
      exact h.active i hi
  · change Function.update store.clientEntityIndices id (some e) id' = some i ↔ _
    by_cases hsame : id' = id
    · rw [hsame, Function.update_self]
      constructor
      · intro heq
        rw [← Option.some.inj heq, hself.1]
        exact ⟨hid, rfl⟩
      · rintro ⟨_, heq⟩
        by_cases hie : i = e
        · rw [hie]
        · rw [(hentity i hie).1] at heq
          have hold := (h.indexed id i).mpr ⟨hid, heq⟩
          rw [hnew] at hold
          cases hold
    · rw [Function.update_of_ne hsame]
      by_cases hie : i = e
      · rw [hie, hself.1]
        constructor
        · intro hold
          obtain ⟨hvalid, heq⟩ := (h.indexed id' e).mp hold
          exact absurd (heq.symm.trans h.vacant) hvalid
        · rintro ⟨_, heq⟩
          exact absurd heq.symm hsame
      · rw [(hentity i hie).1]
        exact h.indexed id' i
  · change (Function.update store.wireNetworkIds w { store.wireNetworkIds w with
      entityIndex := some e } w').entityIndex =
      some i at hi
    by_cases hsame : w' = w
    · rw [hsame, Function.update_self] at hi
      rw [← Option.some.inj hi, hself.1, hself.2, hsame]
      exact ⟨hid, rfl⟩
    · rw [Function.update_of_ne hsame] at hi
      obtain ⟨hvalid, hwire⟩ := h.wires w' i hi
      have hie : i ≠ e := fun heq => hvalid (heq ▸ h.vacant)
      rw [(hentity i hie).1, (hentity i hie).2]
      exact ⟨hvalid, hwire⟩

theorem TablesOk.vacant_free (h : store.TablesOk) {rest : List Nat} (hfree : store.freeEntityIndices = e :: rest) :
    ({ store with freeEntityIndices := rest } : ClientEntityStore).Vacant e := by
  have hnodup := h.freeNodup
  have hin := h.free
  have hcover := h.cover
  rw [hfree] at hnodup hin hcover
  obtain ⟨hnot, hrest⟩ := List.nodup_cons.mp hnodup
  obtain ⟨hlt, hinvalid⟩ := hin e List.mem_cons_self
  refine ⟨h.listed, hrest, fun i hi => ?_, fun i hne hi => ?_, hlt, hinvalid, h.used, h.active, h.indexed, h.wires⟩
  · exact ⟨fun heq => hnot (heq ▸ hi), hin i (List.mem_cons_of_mem e hi)⟩
  · exact (hcover i hi).imp_left fun hmem => (List.mem_cons.mp hmem).resolve_left hne

theorem TablesOk.vacant_new (h : store.TablesOk) :
    ({ store with entities := store.entities ++ [({} : EntityState)] } : ClientEntityStore).Vacant
    store.entities.length := by
  let grown : ClientEntityStore := { store with entities := store.entities ++ [({} : EntityState)] }
  have hentity : ∀ i, grown.entityAt i = store.entityAt i := by
    intro i
    simp only [grown, entityAt]
    by_cases hlt : i < store.entities.length
    · rw [List.getElem?_append_left hlt]
    · rw [List.getElem?_append_right (by omega), List.getElem?_singleton,
        List.getElem?_eq_none (l := store.entities) (by omega)]
      split <;> rfl
  have hplace : ∀ kind i, grown.placeOf kind i = store.placeOf kind i :=
    fun kind i => by rw [placeOf, hentity, placeOf]
  have hlen : grown.entities.length = store.entities.length + 1 := List.length_append
  refine ⟨fun kind => (h.listed kind).congr (hplace kind), h.freeNodup, fun i hi => ?_, fun i hne hi => ?_, ?_, ?_,
    fun kind i hi => ?_, fun i hi => ?_, fun id i => ?_, fun w i hi => ?_⟩
  · obtain ⟨hlt, hinvalid⟩ := h.free i hi
    rw [hentity, hlen]
    exact ⟨by omega, by omega, hinvalid⟩
  · rw [hentity]
    rw [hlen] at hi
    exact h.cover i (by omega)
  · rw [hlen]
    exact Nat.lt_succ_self _
  · rw [hentity, entityAt_of_le (Nat.le_refl _)]
  · rw [hplace] at hi
    rw [hentity]
    exact h.used kind i hi
  · rw [hentity] at hi
    rw [hplace]
    exact h.active i hi
  · rw [hentity]
    exact h.indexed id i
  · rw [hentity]
    exact h.wires w i hi

theorem TablesOk.ensureEntityState (h : store.TablesOk) (id : ClientEntityNetworkId) (w : Nat) :
    (store.ensureEntityState id w).1.TablesOk := by
  unfold ClientEntityStore.ensureEntityState
  by_cases hbad : id = invalidClientEntityNetworkId ∨ w = 0
  · rw [if_pos hbad]
    exact h
  · rw [if_neg hbad]
    have hid : id ≠ invalidClientEntityNetworkId := fun heq => hbad (.inl heq)
    cases hfound : store.findByClientEntityNetworkId id with
    | some found => exact h
    | none =>
      have hnew : store.clientEntityIndices id = none := by
        cases hmapped : store.clientEntityIndices id with
        | none => rfl
        | some i =>
          obtain ⟨_, heq⟩ := (h.indexed id i).mp hmapped
          have hlt : i < store.entities.length := by
            by_contra hge
            rw [entityAt_of_le (by omega)] at heq
            exact hid heq.symm
          have hget := List.getElem?_eq_getElem hlt
          have hsome := findByClientEntityNetworkId_eq_some.mpr ⟨hmapped, hget, by
            rw [← heq, entityAt, hget]
            rfl⟩
          rw [hfound] at hsome
          cases hsome
      cases hfree : store.freeEntityIndices with
      | nil =>
        have hmapped := h.vacant_new.mapEntityState hid hnew w
        rw [hfree] at hmapped
        exact hmapped
      | cons e rest => exact (h.vacant_free hfree).mapEntityState hid hnew w

/-! ### Removal -/

theorem wires_unmapEntityState {w i : Nat} (hi : i ≠ e) (hwire : (store.wireNetworkIds w).entityIndex = some i) :
    ((store.unmapEntityState e).wireNetworkIds w).entityIndex = some i := by
  unfold ClientEntityStore.unmapEntityState
  cases hget : store.entities[e]? with
  | none => exact hwire
  | some state =>
    dsimp only
    have hkeeps : ∀ store' : ClientEntityStore, store'.wireNetworkIds = store.wireNetworkIds →
        ((if (store'.wireNetworkIds state.wireNetworkId).entityIndex = some e then
          store'.setWire state.wireNetworkId { store'.wireNetworkIds state.wireNetworkId with entityIndex := none }
          else store').wireNetworkIds w).entityIndex = some i := by
      intro store' hsame
      by_cases hmapped : (store'.wireNetworkIds state.wireNetworkId).entityIndex = some e
      · rw [if_pos hmapped]
        by_cases hw : w = state.wireNetworkId
        · rw [hsame, ← hw, hwire] at hmapped
          exact absurd (Option.some.inj hmapped) hi
        · change (Function.update store'.wireNetworkIds state.wireNetworkId _ w).entityIndex = some i
          rw [Function.update_of_ne hw, hsame, hwire]
      · rw [if_neg hmapped, hsame, hwire]
    split
    · exact hkeeps _ rfl
    · exact hkeeps _ rfl

structure Left (store : ClientEntityStore) (e : Nat) (kinds : List Membership) (store' : ClientEntityStore) : Prop where
  relisted : Relisted store store'
  listed : store'.Listed
  left : ∀ kind, kind ∈ kinds ∨ store.placeOf kind e = none → store'.placeOf kind e = none
  others : ∀ kind i, i ≠ e → (store'.placeOf kind i).isSome = (store.placeOf kind i).isSome

theorem Listed.leave : ∀ (kinds : List Membership) {store : ClientEntityStore}, store.Listed →
    e < store.entities.length →
    Left store e kinds (kinds.foldl (fun store kind => store.setMembership kind e false) store) := by
  intro kinds
  induction kinds with
  | nil =>
    intro store h _
    refine ⟨.refl store, h, fun kind hkind => hkind.resolve_left fun hin => ?_, fun _ _ _ => rfl⟩
    cases hin
  | cons kind kinds ih =>
    intro store h he
    have hlist := enlisted h kind e false
    have hrest := ih hlist.listed (hlist.relisted.length.symm ▸ he)
    have hself : (store.setMembership kind e false).placeOf kind e = none :=
      Option.isSome_eq_false_iff.mp (hlist.self he) |>
      Option.isNone_iff_eq_none.mp
    refine ⟨hlist.relisted.trans hrest.relisted, hrest.listed, fun kind' hkind' => ?_, fun kind' i hi => ?_⟩
    · by_cases heq : kind' = kind
      · exact hrest.left kind' (.inr (heq ▸ hself))
      · refine hrest.left kind' (hkind'.imp (fun hin => (List.mem_cons.mp hin).resolve_left heq) fun hnone => ?_)
        rw [hlist.places kind' e heq]
        exact hnone
    · rw [List.foldl_cons, hrest.others kind' i hi]
      by_cases heq : kind' = kind
      · rw [heq]
        exact hlist.others i hi
      · rw [hlist.places kind' i heq]

theorem mem_releaseKinds (kind : Membership) :
    kind ∈ [Membership.buffered, .snapError, .predicted, .predictionRollback, .active] := by
  cases kind <;> decide

structure Released (store : ClientEntityStore) (e : Nat) (store' : ClientEntityStore) : Prop where
  length : store'.entities.length = store.entities.length
  free : store'.freeEntityIndices = e :: store.freeEntityIndices
  indices : store'.clientEntityIndices = store.clientEntityIndices
  wires : store'.wireNetworkIds = store.wireNetworkIds
  self : store'.entityAt e = {}
  unlisted : ∀ i, i ≠ e → (store'.entityAt i).unlisted = (store.entityAt i).unlisted
  listed : store'.Listed
  others : ∀ kind i, i ≠ e → (store'.placeOf kind i).isSome = (store.placeOf kind i).isSome

theorem Listed.release (h : store.Listed) (he : e < store.entities.length) :
    Released store e (store.releaseEntityState e) := by
  let kinds := [Membership.buffered, .snapError, .predicted, .predictionRollback, .active]
  let left := kinds.foldl (fun store kind => store.setMembership kind e false) store
  have hleft : Left store e kinds left := h.leave kinds he
  have he' : e < left.entities.length := hleft.relisted.length.symm ▸ he
  have hresult : store.releaseEntityState e =
      { left with
        entities := left.entities.set e ({} : EntityState), freeEntityIndices := e :: left.freeEntityIndices } := by
    unfold ClientEntityStore.releaseEntityState
    exact if_neg (Nat.not_le.mpr he)
  have hentity : ∀ i, (store.releaseEntityState e).entityAt i = if i = e then {} else left.entityAt i := by
    intro i
    rw [hresult]
    exact entityAt_set left he' {} i
  have hplace : ∀ kind i, (store.releaseEntityState e).placeOf kind i = left.placeOf kind i := by
    intro kind i
    rw [placeOf, hentity]
    by_cases heq : i = e
    · rw [if_pos heq, heq, hleft.left kind (.inl (mem_releaseKinds kind))]
    · rw [if_neg heq]
      rfl
  refine ⟨?_, ?_, ?_, ?_, by rw [hentity, if_pos rfl], fun i hi => ?_, fun kind => ?_, fun kind i hi => ?_⟩
  · rw [hresult]
    exact (List.length_set ..).trans hleft.relisted.length
  · rw [hresult]
    exact congrArg (e :: ·) hleft.relisted.free
  · rw [hresult]
    exact hleft.relisted.indices
  · rw [hresult]
    exact hleft.relisted.wires
  · rw [hentity, if_neg hi]
    exact hleft.relisted.unlisted i
  · rw [show (store.releaseEntityState e).members kind = left.members kind by rw [hresult]]
    exact (hleft.listed kind).congr (hplace kind)
  · rw [hplace, hleft.others kind i hi]

theorem TablesOk.erase (h : store.TablesOk)
    (hused : (store.entityAt e).clientEntityNetworkId ≠ invalidClientEntityNetworkId) :
    Released (store.unmapEntityState e) e ((store.unmapEntityState e).releaseEntityState e) ∧
      ((store.unmapEntityState e).releaseEntityState e).TablesOk := by
  have he : e < store.entities.length := by
    by_contra hge
    rw [entityAt_of_le (by omega)] at hused
    exact hused rfl
  have hget : store.entities[e]? = some (store.entityAt e) := by
    rw [entityAt, List.getElem?_eq_getElem he]
    rfl
  have hmapped := (h.indexed _ e).mpr ⟨hused, rfl⟩
  obtain ⟨hents, hfree, hindices, _, hwires⟩ := unmapEntityState_spec hget hmapped
  have hentity : ∀ i, (store.unmapEntityState e).entityAt i = store.entityAt i :=
    fun i => by rw [entityAt, hents, entityAt]
  have hplace : ∀ kind i, (store.unmapEntityState e).placeOf kind i = store.placeOf kind i := fun kind i => by
    rw [placeOf, hentity, placeOf]
  have hmembers : (store.unmapEntityState e).members = store.members := by
    unfold ClientEntityStore.unmapEntityState
    rw [hget]
    dsimp only
    split <;> split <;> rfl
  have hlisted : (store.unmapEntityState e).Listed := fun kind => by
    rw [hmembers]
    exact (h.listed kind).congr (hplace kind)
  have hreleased := hlisted.release (hents.symm ▸ he : e < (store.unmapEntityState e).entities.length)
  refine ⟨hreleased, ?_⟩
  generalize (store.unmapEntityState e).releaseEntityState e = store' at hreleased
  have hothers : ∀ i, i ≠ e → (store'.entityAt i).clientEntityNetworkId =
      (store.entityAt i).clientEntityNetworkId ∧
      (store'.entityAt i).wireNetworkId = (store.entityAt i).wireNetworkId := by
    intro i hi
    have hstate := EntityState.of_unlisted (hreleased.unlisted i hi)
    rw [hentity] at hstate
    exact ⟨hstate.2.1, hstate.2.2.1⟩
  have hplaces : ∀ kind i, i ≠ e → (store'.placeOf kind i).isSome = (store.placeOf kind i).isSome :=
    fun kind i hi => by
    rw [hreleased.others kind i hi, hplace]
  have hlen : store'.entities.length = store.entities.length := by rw [hreleased.length, hents]
  have hfree' : store'.freeEntityIndices = e :: store.freeEntityIndices := by rw [hreleased.free, hfree]
  have hnot : e ∉ store.freeEntityIndices := fun hin => hused (h.free e hin).2
  refine ⟨hreleased.listed, ?_, fun i hi => ?_, fun i hi => ?_, fun kind i hi => ?_, fun i hi => ?_, fun id i => ?_,
    fun w i hi => ?_⟩
  · rw [hfree']
    exact List.nodup_cons.mpr ⟨hnot, h.freeNodup⟩
  · rw [hfree'] at hi
    rw [hlen]
    rcases List.mem_cons.mp hi with rfl | hi
    · rw [hreleased.self]
      exact ⟨he, rfl⟩
    · have hne : i ≠ e := fun heq => hnot (heq ▸ hi)
      rw [(hothers i hne).1]
      exact h.free i hi
  · rw [hlen] at hi
    rw [hfree']
    by_cases heq : i = e
    · exact .inl (List.mem_cons.mpr (.inl heq))
    · rw [(hothers i heq).1]
      exact (h.cover i hi).imp_left (List.mem_cons_of_mem e)
  · have hne : i ≠ e := fun heq => by
      rw [heq, placeOf, hreleased.self] at hi
      cases hi
    rw [hplaces kind i hne] at hi
    rw [(hothers i hne).1]
    exact h.used kind i hi
  · have hne : i ≠ e := fun heq => by
      rw [heq, hreleased.self] at hi
      exact hi rfl
    rw [(hothers i hne).1] at hi
    rw [hplaces .active i hne]
    exact h.active i hi
  · rw [hreleased.indices, hindices]
    by_cases hsame : id = (store.entityAt e).clientEntityNetworkId
    · rw [hsame, Function.update_self]
      constructor
      · intro hnone
        cases hnone
      · rintro ⟨_, heq⟩
        by_cases hie : i = e
        · rw [hie, hreleased.self] at heq
          exact absurd heq.symm hused
        · rw [(hothers i hie).1] at heq
          have hold := (h.indexed _ i).mpr ⟨hused, heq⟩
          exact absurd (Option.some.inj (hold.symm.trans hmapped)) hie
    · rw [Function.update_of_ne hsame]
      by_cases hie : i = e
      · rw [hie, hreleased.self]
        constructor
        · intro hold
          exact absurd ((h.indexed id e).mp hold).2.symm hsame
        · rintro ⟨hvalid, heq⟩
          exact absurd heq.symm hvalid
      · rw [(hothers i hie).1]
        exact h.indexed id i
  · rw [hreleased.wires] at hi
    obtain ⟨hold, hne⟩ := hwires w i hi
    obtain ⟨hvalid, hwire⟩ := h.wires w i hold
    have hie : i ≠ e := fun heq => hne heq (heq ▸ hwire.symm)
    rw [(hothers i hie).1, (hothers i hie).2]
    exact ⟨hvalid, hwire⟩

theorem TablesOk.advanceWireVersion (h : store.TablesOk) (w : Nat) : (store.advanceWireVersion w).TablesOk := by
  refine ⟨h.listed, h.freeNodup, h.free, h.cover, h.used, h.active, h.indexed, fun w' i hi => ?_⟩
  change (Function.update store.wireNetworkIds w _ w').entityIndex = some i at hi
  by_cases heq : w' = w
  · rw [heq, Function.update_self] at hi
    cases hi
  · rw [Function.update_of_ne heq] at hi
    exact h.wires w' i hi

end ClientEntityStore

/-! ## Runs -/

inductive StoreCall where
  | ensureEntityState (id : ClientEntityNetworkId) (wireNetworkId : Nat)
  | syncModeMemberships (e : Nat)
  | setMembership (kind : Membership) (e : Nat) (active : Bool)
  | queuePredictionRollback (e : Nat) (frame : SyncFrame)
  | clearPredictionRollbackMemberships
  | registerLocalEntityIndex (e : Nat)
  | unregisterLocalEntityIndex (e : Nat)
  | advanceWireVersion (wireNetworkId : Nat)
  | eraseEntityState (e : Nat)
  | assign (e : Nat) (f : EntityState → EntityState)

def EntityState.assigned (f : EntityState → EntityState) (s : EntityState) : EntityState :=
  { f s with
    clientEntityNetworkId := s.clientEntityNetworkId, wireNetworkId := s.wireNetworkId
    membershipIndex := s.membershipIndex, rollbackPending := s.rollbackPending, rollbackFrame := s.rollbackFrame }

namespace IndexedEntityStore

def step (store : IndexedEntityStore) : StoreCall → IndexedEntityStore
  | .ensureEntityState id w => { store with store := (store.store.ensureEntityState id w).1 }
  | .syncModeMemberships e => { store with store := store.store.syncEntityMemberships e }
  | .setMembership kind e active => { store with store := store.store.setMembership kind e active }
  | .queuePredictionRollback e frame => { store with store := store.store.queuePredictionRollback e frame }
  | .clearPredictionRollbackMemberships => { store with store := store.store.clearPredictionRollbackMemberships }
  | .registerLocalEntityIndex e => store.registerLocalEntityIndex e
  | .unregisterLocalEntityIndex e => store.unregisterLocalEntityIndex e
  | .advanceWireVersion w => { store with store := store.store.advanceWireVersion w }
  | .eraseEntityState e => store.eraseEntityState e
  | .assign e f => { store with store := store.store.modifyEntity e (EntityState.assigned f) }

/-- The calls the client makes: only the store itself changes the active list, and an
entity enters a list, or has a rollback queued, while it is active. -/
def Allowed (store : IndexedEntityStore) : StoreCall → Prop
  | .setMembership kind e active => kind ≠ .active ∧ (active = true → e ∈ store.store.members .active)
  | .queuePredictionRollback e _ => e ∈ store.store.members .active
  | _ => True

inductive Reachable : IndexedEntityStore → Prop
  | empty : Reachable {}
  | step {store : IndexedEntityStore} {call : StoreCall} : Reachable store → store.Allowed call →
    Reachable (store.step call)

end IndexedEntityStore

/-! ## The tables of a store -/

structure StoreTables (store : ClientEntityStore) : Prop where
  nodup : ∀ kind, (store.members kind).Nodup
  position : ∀ kind i p, i < store.entities.length →
    ((store.members kind)[p]? = some i ↔ store.placeOf kind i = some p)
  inside : ∀ kind, ∀ i ∈ store.members kind, i < store.entities.length
  freeNodup : store.freeEntityIndices.Nodup
  partition : ∀ i, i < store.entities.length ↔ i ∈ store.freeEntityIndices ∨ i ∈ store.members .active
  disjoint : ∀ i ∈ store.freeEntityIndices, i ∉ store.members .active
  ids : ∀ id i, store.clientEntityIndices id = some i ↔
    i ∈ store.members .active ∧ (store.entityAt i).clientEntityNetworkId = id
  wires : ∀ w i, (store.wireNetworkIds w).entityIndex = some i →
    i ∈ store.members .active ∧ (store.entityAt i).wireNetworkId = w

structure StateStays (store store' : ClientEntityStore) (i : Nat) : Prop where
  unlisted : (store'.entityAt i).unlisted = (store.entityAt i).unlisted
  lists : ∀ kind, i ∈ store'.members kind ↔ i ∈ store.members kind
  id : store'.clientEntityIndices (store.entityAt i).clientEntityNetworkId = some i
  wires : ∀ w, (store.wireNetworkIds w).entityIndex = some i → (store'.wireNetworkIds w).entityIndex = some i

namespace ClientEntityStore

variable {store : ClientEntityStore} {e : Nat}

theorem Listed.mem_iff (h : store.Listed) (kind : Membership) (i : Nat) :
    i ∈ store.members kind ↔ (store.placeOf kind i).isSome := by
  rw [List.mem_iff_getElem?, Option.isSome_iff_exists]
  constructor
  · rintro ⟨p, hp⟩
    exact ⟨p, (h kind i p).mpr (by rw [Option.bind_fun_some]; exact hp)⟩
  · rintro ⟨p, hp⟩
    have hin := (h kind i p).mp hp
    rw [Option.bind_fun_some] at hin
    exact ⟨p, hin⟩

theorem TablesOk.mem_active_iff (h : store.TablesOk) (i : Nat) : i ∈ store.members .active ↔
    (store.entityAt i).clientEntityNetworkId ≠ invalidClientEntityNetworkId := by
  rw [h.listed.mem_iff]
  exact ⟨h.used .active i, h.active i⟩

theorem lt_of_placeOf {kind : Membership} {i p : Nat} (h : store.placeOf kind i = some p) :
    i < store.entities.length := by
  by_contra hge
  rw [placeOf, entityAt_of_le (by omega)] at h
  cases h

theorem TablesOk.tables (h : store.TablesOk) : StoreTables store := by
  have hplaces : ∀ kind i p, (store.members kind)[p]? = some i ↔ store.placeOf kind i = some p := fun kind i p => by
    have hlist := h.listed kind i p
    rw [Option.bind_fun_some] at hlist
    exact hlist.symm
  refine ⟨fun kind => ?_, fun kind i p _ => hplaces kind i p, fun kind i hi => ?_, h.freeNodup, fun i => ?_,
    fun i hi => ?_,
    fun id i => ?_, fun w i hi => ?_⟩
  · refine List.nodup_iff_getElem?_ne_getElem?.mpr fun p q hpq hq heq => ?_
    have hget := List.getElem?_eq_getElem hq
    rw [hget] at heq
    have hp := (hplaces kind _ p).mp heq
    have hq' := (hplaces kind _ q).mp hget
    have := Option.some.inj (hp.symm.trans hq')
    omega
  · obtain ⟨p, hp⟩ := List.mem_iff_getElem?.mp hi
    exact lt_of_placeOf ((hplaces kind i p).mp hp)
  · rw [h.mem_active_iff]
    constructor
    · exact h.cover i
    · rintro (hin | hused)
      · exact (h.free i hin).1
      · obtain ⟨p, hp⟩ := Option.isSome_iff_exists.mp (h.active i hused)
        exact lt_of_placeOf hp
  · rw [h.mem_active_iff]
    exact not_not_intro (h.free i hi).2
  · rw [h.indexed, h.mem_active_iff]
    constructor
    · rintro ⟨hvalid, heq⟩
      exact ⟨heq.symm ▸ hvalid, heq⟩
    · rintro ⟨hvalid, heq⟩
      exact ⟨heq ▸ hvalid, heq⟩
  · rw [h.mem_active_iff]
    exact h.wires w i hi

end ClientEntityStore

namespace IndexedEntityStore

open ClientEntityStore

variable {store : IndexedEntityStore}

theorem store_registerLocalEntityIndex (e : Nat) : (store.registerLocalEntityIndex e).store = store.store := by
  unfold registerLocalEntityIndex
  split <;> rfl

theorem store_unregisterLocalEntityIndex (e : Nat) : (store.unregisterLocalEntityIndex e).store = store.store := by
  unfold unregisterLocalEntityIndex
  split
  · rfl
  · split <;> rfl

theorem store_eraseEntityState (e : Nat) : (store.eraseEntityState e).store =
    if e ≥ store.store.entities.length ∨ (store.store.entityAt e).clientEntityNetworkId =
      invalidClientEntityNetworkId then
      store.store
    else (store.store.unmapEntityState e).releaseEntityState e := by
  unfold eraseEntityState
  by_cases hout : e ≥ store.store.entities.length
  · rw [if_pos hout, if_pos (.inl hout)]
  · rw [if_neg hout]
    by_cases hid : (store.store.entityAt e).clientEntityNetworkId = invalidClientEntityNetworkId
    · rw [if_pos hid, if_pos (.inr hid)]
    · rw [if_neg hid, if_neg (not_or.mpr ⟨hout, hid⟩)]
      exact congrArg (·.releaseEntityState e) (store_unregisterLocalEntityIndex e)

theorem tablesOk_step (h : store.store.TablesOk) {call : StoreCall} (hallowed : store.Allowed call) :
    (store.step call).store.TablesOk := by
  cases call with
  | ensureEntityState id w => exact h.ensureEntityState id w
  | syncModeMemberships e => exact h.syncEntityMemberships e
  | setMembership kind e active =>
    exact h.setMembership hallowed.1 fun hactive => (h.mem_active_iff e).mp (hallowed.2 hactive)
  | queuePredictionRollback e frame => exact h.queuePredictionRollback ((h.mem_active_iff e).mp hallowed) frame
  | clearPredictionRollbackMemberships => exact h.clearPredictionRollbackMemberships
  | registerLocalEntityIndex e =>
    change (store.registerLocalEntityIndex e).store.TablesOk
    rw [store_registerLocalEntityIndex]
    exact h
  | unregisterLocalEntityIndex e =>
    change (store.unregisterLocalEntityIndex e).store.TablesOk
    rw [store_unregisterLocalEntityIndex]
    exact h
  | advanceWireVersion w => exact h.advanceWireVersion w
  | eraseEntityState e =>
    change (store.eraseEntityState e).store.TablesOk
    rw [store_eraseEntityState]
    split
    case isTrue => exact h
    case isFalse hused => exact (h.erase fun hid => hused (.inr hid)).2
  | assign e f => exact h.modifyEntity (f := EntityState.assigned f) ⟨fun _ => rfl, fun _ => rfl, fun _ => rfl⟩ e

theorem Reachable.tablesOk (h : Reachable store) : store.store.TablesOk := by
  induction h with
  | empty => exact tablesOk_empty
  | step _ hallowed ih => exact tablesOk_step ih hallowed

theorem stateStays_erase (h : store.store.TablesOk) {e i : Nat} (hi : i ∈ store.store.members .active)
    (hne : i ≠ e) :
    StateStays store.store (store.eraseEntityState e).store i := by
  have hid := (h.mem_active_iff i).mp hi
  have hmapped := (h.indexed _ i).mpr ⟨hid, rfl⟩
  rw [store_eraseEntityState]
  split
  case isTrue => exact ⟨rfl, fun _ => Iff.rfl, hmapped, fun _ hw => hw⟩
  case isFalse hused =>
    have hused' : (store.store.entityAt e).clientEntityNetworkId ≠ invalidClientEntityNetworkId :=
      fun heq => hused (.inr heq)
    obtain ⟨hreleased, hok⟩ := h.erase hused'
    have he : e < store.store.entities.length := Nat.lt_of_not_le fun hge => hused (.inl hge)
    have hget : store.store.entities[e]? = some (store.store.entityAt e) := by
      rw [entityAt, List.getElem?_eq_getElem he]
      rfl
    obtain ⟨hents, _, _, _, _⟩ := unmapEntityState_spec hget ((h.indexed _ e).mpr ⟨hused', rfl⟩)
    have hentity : (store.store.unmapEntityState e).entityAt i = store.store.entityAt i := by
      rw [entityAt, hents, entityAt]
    have hunlisted := hreleased.unlisted i hne
    rw [hentity] at hunlisted
    refine ⟨hunlisted, fun kind => ?_, ?_, fun w hw => ?_⟩
    · rw [hok.listed.mem_iff, h.listed.mem_iff, hreleased.others kind i hne, placeOf, hentity, placeOf]
    · exact (hok.indexed _ i).mpr ⟨hid, (EntityState.of_unlisted hunlisted).2.1⟩
    · rw [hreleased.wires]
      exact wires_unmapEntityState hne hw

end IndexedEntityStore

/-- In every reachable store the tables agree, and erasing a state leaves the others, also those with its wire id. -/
theorem store_tables_consistent (store : IndexedEntityStore) (h : store.Reachable) :
    StoreTables store.store ∧
      ∀ e i, i ∈ store.store.members .active → i ≠ e →
      StateStays store.store (store.eraseEntityState e).store i :=
  ⟨h.tablesOk.tables, fun _ _ hi hne => IndexedEntityStore.stateStays_erase h.tablesOk hi hne⟩

def twoIncarnations : IndexedEntityStore :=
  ((({} : IndexedEntityStore).step (.ensureEntityState 10 3)).step (.advanceWireVersion 3)).step
    (.ensureEntityState 11 3)

theorem twoIncarnations_consistent : StoreTables twoIncarnations.store ∧
    ∀ e i, i ∈ twoIncarnations.store.members .active → i ≠ e →
      StateStays twoIncarnations.store (twoIncarnations.eraseEntityState e).store i :=
  store_tables_consistent twoIncarnations (.step (.step (.step .empty trivial) trivial) trivial)

/-- The active list taken away from the store's hands, and a rollback queued for an erased entity. -/
theorem store_tables_inconsistent :
    ¬StoreTables
      ((({} : IndexedEntityStore).step (.ensureEntityState 10 3)).step (.setMembership .active 0 false)).store ∧
    ¬StoreTables ((((({} : IndexedEntityStore).step (.ensureEntityState 10 3)).step (.eraseEntityState 0)).step
      (.queuePredictionRollback 0 5)).step (.ensureEntityState 11 3)).store := by
  constructor
  · intro h
    have hpartition := (h.partition 0).mp (by decide)
    revert hpartition
    decide
  · intro h
    have hposition := (h.position .predictionRollback 0 0 (by decide)).mp (by decide)
    revert hposition
    decide

end AshiatoSync
