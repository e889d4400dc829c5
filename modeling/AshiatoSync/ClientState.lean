import Mathlib.Algebra.Order.Ring.Nat
import Mathlib.Data.List.AList
import Mathlib.Data.List.Sort
import AshiatoSync.Protocol

/-!
# The client's entity store

The state a client keeps for each replicated entity, found by the id the client
made for it or by the wire id that maps to it now, and the tombstones of the
destroyed wire ids.  The index of local entities is read by nothing modelled here,
and of the visual error state only whether there is any.
-/

namespace AshiatoSync

/-! ## Entity states -/

inductive ReplicationClientMode where
  | snap
  | bufferedInterpolation
  | predict
  deriving DecidableEq, Repr

inductive Membership where
  | active
  | buffered
  | snapError
  | predicted
  | predictionRollback
  deriving DecidableEq, Repr

def invalidSyncArchetypeId : SyncArchetypeId := 2 ^ 32 - 1
def invalidClientEntityNetworkId : ClientEntityNetworkId := 0

structure EntityFrameBaseline where
  frame : SyncFrame := 0
  valid : Bool := false
  baseline : QuantizedFrameData := {}
  deriving DecidableEq, Repr

/-- `EntityState`, its nested parts in one record.  `accepted` is ghost: the baselines recorded since the state was
created or reset, newest first. -/
structure EntityState where
  localEntity : Option Entity := none
  clientEntityNetworkId : ClientEntityNetworkId := invalidClientEntityNetworkId
  wireNetworkId : Nat := 0
  archetype : SyncArchetypeId := invalidSyncArchetypeId
  frame : SyncFrame := 0
  entityPresent : Bool := true
  baseline : QuantizedFrameData := {}
  history : List EntityFrameBaseline := []
  pinnedWireBaseline : EntityFrameBaseline := {}
  referencedBaselineFrame : SyncFrame := 0
  hasReferencedBaseline : Bool := false
  appliedPresentMask : Mask := 0
  mode : ReplicationClientMode := .snap
  modeSelected : Bool := false
  lastAppliedBufferedFrame : SyncFrame := 0
  membershipIndex : Membership → Option Nat := fun _ => none
  rollbackPending : Bool := false
  rollbackFrame : SyncFrame := 0
  hasSnapErrors : Bool := false
  accepted : List (SyncFrame × QuantizedFrameData) := []

namespace EntityState

/-- `find_baseline`; `history_next` is always 0, so the scan of a short history starts at its end. -/
def findBaseline (state : EntityState) (frame : SyncFrame) : Option QuantizedFrameData :=
  let found :=
    if state.history.length = baselineRetentionCount then
      (state.history[frame % baselineRetentionCount]?).filter fun b => b.valid && b.frame == frame
    else state.history.reverse.find? fun b => b.valid && b.frame == frame
  match found with
  | some b => some b.baseline
  | none =>
    if state.pinnedWireBaseline.valid && state.pinnedWireBaseline.frame == frame then
      some state.pinnedWireBaseline.baseline
    else none

/-- `remember_baseline` -/
def rememberBaseline (state : EntityState) : EntityState :=
  let history :=
    if state.history.length ≠ baselineRetentionCount then List.replicate baselineRetentionCount {} else state.history
  let slot := state.frame % baselineRetentionCount
  let entry := (history[slot]?).getD {}
  let kept : EntityFrameBaseline := { frame := state.frame, valid := true, baseline := state.baseline }
  if state.hasReferencedBaseline && entry.valid && entry.frame == state.referencedBaselineFrame then
    { state with history := history.set slot kept, pinnedWireBaseline := entry }
  else { state with history := history.set slot kept }

/-- `record_authoritative_present`; `replacement` is the frame of `ReplaceAndApplyMask`, none for `KeepExisting`. -/
def recordAuthoritativePresent (state : EntityState) (frame : SyncFrame) (archetype : SyncArchetypeId)
    (replacement : Option QuantizedFrameData) : EntityState :=
  let state := { state with archetype }
  let state := match replacement with
    | some data => { state with baseline := data, appliedPresentMask := data.presentMask }
    | none => state
  let state := { state with frame, entityPresent := true, accepted := (frame, state.baseline) :: state.accepted }
  state.rememberBaseline

/-- `record_authoritative_absent` -/
def recordAuthoritativeAbsent (state : EntityState) (frame : SyncFrame) : EntityState :=
  ({ state with baseline := {}, appliedPresentMask := 0, frame, entityPresent := false }).rememberBaseline

/-- `protect_referenced_baseline` -/
def protectReferencedBaseline (state : EntityState) (frame : SyncFrame) : EntityState :=
  { state with referencedBaselineFrame := frame, hasReferencedBaseline := true }

/-- `mark_mode_auto_selected`, and `mark_mode_user_selected`. -/
def markModeSelected (state : EntityState) (mode : ReplicationClientMode) : EntityState :=
  { state with mode, modeSelected := true }

/-- `reset_absent_entity_state`, before its membership update. -/
def resetAbsent (state : EntityState) (archetype : SyncArchetypeId) : EntityState :=
  { state with
    archetype, mode := .snap, modeSelected := false, lastAppliedBufferedFrame := 0, entityPresent := false
    baseline := {}, history := [], pinnedWireBaseline := {}, referencedBaselineFrame := 0
    hasReferencedBaseline := false, appliedPresentMask := 0, accepted := [] }

def absent (state : EntityState) : Bool := !state.entityPresent && state.localEntity.isNone

end EntityState

/-! ## Tombstones -/

structure DestroyTombstone where
  frame : SyncFrame := 0
  generation : Nat := 0
  ageOrder : Nat := 0
  deriving DecidableEq, Repr

structure DestroyTombstoneAgeEntry where
  wireNetworkId : Nat
  generation : Nat
  ageOrder : Nat
  deriving DecidableEq, Repr

inductive DestroyTombstoneRecordResult where
  | ignored
  | inserted
  | updated
  deriving DecidableEq, Repr

def maxDestroyTombstones : Nat := 65536

abbrev TombstoneMap := AList fun _ : Nat => DestroyTombstone

structure DestroyTombstones where
  tombstones : TombstoneMap := ∅
  ages : List DestroyTombstoneAgeEntry := []
  ageBegin : Nat := 0
  nextAgeOrder : Nat := 0

namespace DestroyTombstones

/-- `destroy_tombstone_blocks` -/
def blocks (t : DestroyTombstones) (wireNetworkId : Nat) (frame : SyncFrame) : Bool :=
  match t.tombstones.lookup wireNetworkId with
  | some tombstone => decide (frame ≤ tombstone.frame)
  | none => false

/-- The first part of `compact_destroy_tombstone_ages`: the consumed ages, once they are many. -/
def dropConsumedAges (t : DestroyTombstones) : DestroyTombstones :=
  if t.ageBegin ≠ 0 ∧ t.ageBegin ≥ 4096 ∧ t.ageBegin * 2 ≥ t.ages.length then
    { t with ages := t.ages.drop t.ageBegin, ageBegin := 0 }
  else t

/-- `compact_destroy_tombstone_ages` -/
def compactAges (t : DestroyTombstones) : DestroyTombstones :=
  if t.ageBegin = t.ages.length then { t with ages := [], ageBegin := 0 }
  else
    let t := t.dropConsumedAges
    if t.ages.length ≤ maxDestroyTombstones * 2 then t
    else { t with
      ages := (t.tombstones.entries.map fun e => DestroyTombstoneAgeEntry.mk e.1 e.2.generation
        e.2.ageOrder).insertionSort
        fun a b => a.ageOrder ≤ b.ageOrder
      ageBegin := 0 }

/-- The eviction loop over the ages from `ageBegin` on: the map left, and the ages consumed. -/
def evict (tombstones : TombstoneMap) : List DestroyTombstoneAgeEntry → TombstoneMap × Nat
  | [] => (tombstones, 0)
  | age :: rest =>
    if tombstones.keys.length ≤ maxDestroyTombstones then (tombstones, 0)
    else
      let tombstones := match tombstones.lookup age.wireNetworkId with
        | some found =>
          if found.generation = age.generation ∧ found.ageOrder = age.ageOrder then tombstones.erase age.wireNetworkId
          else tombstones
        | none => tombstones
      let (tombstones, consumed) := evict tombstones rest
      (tombstones, consumed + 1)

def enforceLimit (t : DestroyTombstones) : DestroyTombstones :=
  if t.tombstones.keys.length ≤ maxDestroyTombstones then t
  else
    let (tombstones, consumed) := evict t.tombstones (t.ages.drop t.ageBegin)
    ({ t with tombstones, ageBegin := t.ageBegin + consumed }).compactAges

def store (t : DestroyTombstones) (wireNetworkId : Nat) (frame : SyncFrame) (generation : Nat) : DestroyTombstones :=
  ({ t with
    tombstones := t.tombstones.insert wireNetworkId (DestroyTombstone.mk frame generation t.nextAgeOrder)
    ages := t.ages ++ [DestroyTombstoneAgeEntry.mk wireNetworkId generation t.nextAgeOrder]
    nextAgeOrder := t.nextAgeOrder + 1 }).compactAges.enforceLimit

/-- `record_destroy_tombstone` -/
def record (t : DestroyTombstones) (wireNetworkId : Nat) (frame : SyncFrame) :
    DestroyTombstones × DestroyTombstoneRecordResult :=
  if wireNetworkId = 0 then (t, .ignored)
  else
    match t.tombstones.lookup wireNetworkId with
    | some found =>
      if frame ≤ found.frame then (t, .ignored)
      else (t.store wireNetworkId frame ((found.generation + 1) % 2 ^ 32), .updated)
    | none => (t.store wireNetworkId frame 0, .inserted)

/-- `erase_destroy_tombstone` -/
def erase (t : DestroyTombstones) (wireNetworkId : Nat) : DestroyTombstones :=
  { t with tombstones := t.tombstones.erase wireNetworkId }

end DestroyTombstones

/-! ## The store -/

structure WireNetworkIdState where
  version : Nat := 0
  entityIndex : Option Nat := none
  deriving DecidableEq, Repr

/-- `ClientEntityStore`.  A wire id beyond the source's vector has the default state. -/
structure ClientEntityStore where
  entities : List EntityState := []
  freeEntityIndices : List Nat := []
  wireNetworkIds : Nat → WireNetworkIdState := fun _ => {}
  clientEntityIndices : ClientEntityNetworkId → Option Nat := fun _ => none
  destroyTombstones : DestroyTombstones := {}
  members : Membership → List Nat := fun _ => []

namespace ClientEntityStore

def modifyEntity (store : ClientEntityStore) (e : Nat) (f : EntityState → EntityState) : ClientEntityStore :=
  { store with entities := store.entities.modify e f }

/-! ### Lookup -/

/-- `find_by_client_entity_network_id`: the index and the state. -/
def findByClientEntityNetworkId (store : ClientEntityStore) (id : ClientEntityNetworkId) :
    Option (Nat × EntityState) :=
  match store.clientEntityIndices id with
  | none => none
  | some e =>
    match store.entities[e]? with
    | none => none
    | some state => if state.clientEntityNetworkId = id then some (e, state) else none

/-- `find_by_wire_id` -/
def findByWireId (store : ClientEntityStore) (wireNetworkId : Nat) : Option (Nat × EntityState) :=
  if wireNetworkId = 0 then none
  else
    match (store.wireNetworkIds wireNetworkId).entityIndex with
    | none => none
    | some e =>
      match store.entities[e]? with
      | none => none
      | some state => if state.wireNetworkId = wireNetworkId then some (e, state) else none

/-! ### Versions -/

def setWire (store : ClientEntityStore) (wireNetworkId : Nat) (state : WireNetworkIdState) : ClientEntityStore :=
  { store with wireNetworkIds := Function.update store.wireNetworkIds wireNetworkId state }

/-- `ensure_wire_version` -/
def ensureWireVersion (store : ClientEntityStore) (wireNetworkId : Nat) : ClientEntityStore × Nat :=
  let state := store.wireNetworkIds wireNetworkId
  if state.version = 0 then (store.setWire wireNetworkId { state with version := 1 }, 1) else (store, state.version)

def nextWireVersion (version : Nat) : Nat :=
  if version = 0 then 1 else if (version + 1) % 2 ^ 32 = 0 then 1 else (version + 1) % 2 ^ 32

/-- `advance_wire_version` -/
def advanceWireVersion (store : ClientEntityStore) (wireNetworkId : Nat) : ClientEntityStore :=
  store.setWire wireNetworkId {
    version := nextWireVersion (store.wireNetworkIds wireNetworkId).version, entityIndex := none }

/-- `client_entity_network_id_for_wire` -/
def clientEntityNetworkIdForWire (store : ClientEntityStore) (client : ClientId) (wireNetworkId : Nat) :
    ClientEntityStore × ClientEntityNetworkId :=
  if wireNetworkId = 0 ∨ wireNetworkId > maxClientLocalWireNetworkId then (store, invalidClientEntityNetworkId)
  else
    let (store, version) := store.ensureWireVersion wireNetworkId
    (store, makeClientEntityNetworkId (networkIdClient client) wireNetworkId version)

/-! ### Membership -/

def setMembershipIndex (store : ClientEntityStore) (kind : Membership) (e : Nat) (index : Option Nat) :
    ClientEntityStore :=
  store.modifyEntity e fun s => { s with membershipIndex := Function.update s.membershipIndex kind index }

/-- `set_indexed_membership`: leaving a list moves its last member into the place. -/
def setMembership (store : ClientEntityStore) (kind : Membership) (e : Nat) (active : Bool) : ClientEntityStore :=
  match store.entities[e]? with
  | none => store
  | some state =>
    let members := store.members kind
    match active, state.membershipIndex kind with
    | true, some _ => store
    | true, none =>
      { store.setMembershipIndex kind e (some members.length) with
        members := Function.update store.members kind (members ++ [e]) }
    | false, none => store
    | false, some i =>
      match members.getLast? with
      | none => store.setMembershipIndex kind e none
      | some moved =>
        if i ≥ members.length then store.setMembershipIndex kind e none
        else
          { (store.setMembershipIndex kind moved (some i)).setMembershipIndex kind e none with
            members := Function.update store.members kind (members.set i moved).dropLast }

/-- `sync_entity_memberships`, through `sync_mode_memberships`. -/
def syncEntityMemberships (store : ClientEntityStore) (e : Nat) : ClientEntityStore :=
  match store.entities[e]? with
  | none => store
  | some state =>
    if state.clientEntityNetworkId = invalidClientEntityNetworkId then store
    else
      match store.clientEntityIndices state.clientEntityNetworkId with
      | none => store
      | some mapped =>
        if mapped = e then
          ((store.setMembership .buffered e (state.mode = .bufferedInterpolation)).setMembership .predicted e
            (state.mode = .predict)).setMembership .snapError e
            ((state.mode = .snap || state.mode = .predict) && state.hasSnapErrors)
        else store

/-- `queue_prediction_rollback` -/
def queuePredictionRollback (store : ClientEntityStore) (e : Nat) (frame : SyncFrame) : ClientEntityStore :=
  match store.entities[e]? with
  | none => store
  | some state =>
    let store := if state.rollbackPending then store else store.setMembership .predictionRollback e true
    store.modifyEntity e fun s => { s with
      rollbackPending := true
      rollbackFrame := if s.rollbackFrame = 0 then frame else max s.rollbackFrame frame }

/-- `clear_prediction_rollback_memberships` -/
def clearPredictionRollbackMemberships (store : ClientEntityStore) : ClientEntityStore :=
  { (store.members .predictionRollback).foldl (fun store e =>
      store.modifyEntity e fun s => { s with
        rollbackPending := false, rollbackFrame := 0
        membershipIndex := Function.update s.membershipIndex .predictionRollback none }) store with
    members := Function.update store.members .predictionRollback [] }

/-! ### Creation and removal -/

def mapEntityState (store : ClientEntityStore) (e : Nat) (id : ClientEntityNetworkId) (wireNetworkId : Nat) :
    ClientEntityStore :=
  let store := { store with entities := store.entities.set e { clientEntityNetworkId := id, wireNetworkId } }
  { store.setMembership .active e true with
    clientEntityIndices := Function.update store.clientEntityIndices id (some e)
    wireNetworkIds := Function.update store.wireNetworkIds wireNetworkId {
      store.wireNetworkIds wireNetworkId with entityIndex := some e } }

/-- `ensure_entity_state` -/
def ensureEntityState (store : ClientEntityStore) (id : ClientEntityNetworkId) (wireNetworkId : Nat) :
    ClientEntityStore × Option Nat :=
  if id = invalidClientEntityNetworkId ∨ wireNetworkId = 0 then (store, none)
  else
    match store.findByClientEntityNetworkId id with
    | some (e, _) => (store, some e)
    | none =>
      match store.freeEntityIndices with
      | e :: rest => (({ store with freeEntityIndices := rest }).mapEntityState e id wireNetworkId, some e)
      | [] =>
        (({ store with entities := store.entities ++ [({} : EntityState)] }).mapEntityState store.entities.length
          id wireNetworkId,
          some store.entities.length)

/-- `unmap_entity_state` -/
def unmapEntityState (store : ClientEntityStore) (e : Nat) : ClientEntityStore :=
  match store.entities[e]? with
  | none => store
  | some state =>
    let store :=
      if store.clientEntityIndices state.clientEntityNetworkId = some e then
        { store with
          clientEntityIndices := Function.update store.clientEntityIndices state.clientEntityNetworkId none }
      else store
    let wire := store.wireNetworkIds state.wireNetworkId
    if wire.entityIndex = some e then store.setWire state.wireNetworkId { wire with entityIndex := none } else store

/-- `release_entity_state` -/
def releaseEntityState (store : ClientEntityStore) (e : Nat) : ClientEntityStore :=
  if e ≥ store.entities.length then store
  else
    let store := [Membership.buffered, .snapError, .predicted, .predictionRollback, .active].foldl
      (fun store kind => store.setMembership kind e false) store
    { store with
      entities := store.entities.set e ({} : EntityState), freeEntityIndices := e :: store.freeEntityIndices }

/-- `ReplicationClient::local_entity` -/
def localEntity (store : ClientEntityStore) (id : ClientEntityNetworkId) : Option Entity :=
  (store.findByClientEntityNetworkId id).bind fun found => found.2.localEntity

end ClientEntityStore

end AshiatoSync
