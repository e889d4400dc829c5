import AshiatoSync.Lib.Monadic
import AshiatoSync.Types

/-!
# Registering components, serializers, cues and archetypes

What a program may put into `SyncSettings` before it replicates.  A component has
default operations, under its id in `component_ops`, and any number of further
profiles in `component_serializers`; an archetype names one of them for each of
its components.
-/

namespace AshiatoSync

def maxArchetypeTags : Nat := 64
def maxArchetypeComponents : Nat := 63
def maxQuantizedBytes : Nat := 1200
def maxSyncCueTypeId : Nat := 2 ^ 16 - 1

inductive RegistrationException where
  | invalidArgument (what : String)
  | lengthError (what : String)
  deriving DecidableEq, Repr

/-- A registered `SyncComponentOps`: the component it is for, and which error callbacks it has. -/
structure ComponentProfile where
  component : ComponentId
  ops : SyncComponentOps
  computeError : Bool
  applyError : Bool
  blendOutError : Bool
  errorSize : Nat

/-- `component_profile_capabilities_match` -/
def componentProfileCapabilitiesMatch (lhs rhs : ComponentProfile) : Bool :=
  lhs.ops.referencesEntities == rhs.ops.referencesEntities &&
  lhs.ops.interpolate.isSome == rhs.ops.interpolate.isSome &&
  lhs.computeError == rhs.computeError &&
  lhs.applyError == rhs.applyError &&
  lhs.blendOutError == rhs.blendOutError &&
  lhs.ops.shouldRollBack.isSome == rhs.ops.shouldRollBack.isSome &&
  lhs.errorSize == rhs.errorSize

/-- A `ComponentReplication` as it is given to `define_archetype`. -/
structure ComponentReplicationDesc where
  component : ComponentId
  audience : ReplicationAudience := .all
  interpolated : Bool := false
  serializer : Option Nat := none

structure SyncArchetypeDesc where
  tags : List SyncTagReplication := []
  components : List ComponentReplicationDesc := []

/-- The registered components, with their tag flag, and the settings. -/
structure SyncRegistry where
  componentInfo : ComponentId → Option Bool := fun _ => none
  componentOps : List (ComponentId × ComponentProfile) := []
  componentSerializers : List ComponentProfile := []
  archetypes : List SyncArchetype := []
  cueOps : List SyncCueOps := []
  cueTypeIds : List (Nat × SyncCueTypeId) := []

namespace SyncRegistry

def settings (registry : SyncRegistry) : SyncSettings where
  archetypes := registry.archetypes
  componentOps := registry.componentOps.map Prod.fst
  cueOps := registry.cueOps

/-- `Registry::register_component`: a type is registered once. -/
def registerComponent (registry : SyncRegistry) (component : ComponentId) (tag : Bool) : SyncRegistry :=
  { registry with
    componentInfo := Function.update registry.componentInfo component
      (some ((registry.componentInfo component).getD tag)) }

/-- `find_component_ops` -/
def findComponentOps (registry : SyncRegistry) (component : ComponentId) : Option ComponentProfile :=
  registry.componentOps.lookup component

/-- `find_component_serializer_ops` -/
def findComponentSerializerOps (registry : SyncRegistry) (serializer : Nat) : Option ComponentProfile :=
  registry.componentSerializers[serializer]?

/-- `component_ops[component] = profile` -/
def storeComponentOps (entries : List (ComponentId × ComponentProfile)) (profile : ComponentProfile) :
    List (ComponentId × ComponentProfile) :=
  if profile.component ∈ entries.map Prod.fst then
    entries.map fun entry => if entry.1 = profile.component then (entry.1, profile) else entry
  else entries ++ [(profile.component, profile)]

/-- `validate_component_profile_capabilities` -/
def validateComponentProfileCapabilities (registry : SyncRegistry) (candidate : ComponentProfile) :
    Except RegistrationException Unit :=
  if ((registry.findComponentOps candidate.component).any fun profile =>
        !componentProfileCapabilitiesMatch profile candidate) ||
      registry.componentSerializers.any fun profile =>
        profile.component == candidate.component && !componentProfileCapabilitiesMatch profile candidate then
    .error (.invalidArgument "sync component serializer profiles must have homogeneous capabilities")
  else .ok ()

/-- `register_sync_component`, of a type whose component is registered as a tag or not. -/
def registerSyncComponent (registry : SyncRegistry) (profile : ComponentProfile) (tag : Bool) :
    Except RegistrationException SyncRegistry := do
  let registry := registry.registerComponent profile.component tag
  registry.validateComponentProfileCapabilities profile
  return { registry with componentOps := storeComponentOps registry.componentOps profile }

/-- `register_sync_component_serializer`; the new serializer's id is its position. -/
def registerSyncComponentSerializer (registry : SyncRegistry) (profile : ComponentProfile) (tag : Bool) :
    Except RegistrationException (SyncRegistry × Nat) := do
  let registry := registry.registerComponent profile.component tag
  registry.validateComponentProfileCapabilities profile
  return ({ registry with componentSerializers := registry.componentSerializers ++ [profile] },
    registry.componentSerializers.length)

/-- `register_sync_cue`; a cue's type stands for its `type_index`. -/
def registerSyncCue (registry : SyncRegistry) (type : Nat) (ops : SyncCueOps) :
    Except RegistrationException (SyncRegistry × SyncCueTypeId) :=
  match registry.cueTypeIds.lookup type with
  | some id => .ok (registry, id)
  | none =>
    if registry.cueOps.length ≥ maxSyncCueTypeId then .error (.lengthError "sync cue type id space exhausted")
    else
      .ok ({ registry with
        cueOps := registry.cueOps ++ [ops]
        cueTypeIds := registry.cueTypeIds ++ [(type, registry.cueOps.length)] }, registry.cueOps.length)

/-! ## Archetypes -/

/-- `validate_tag_replication`; a null tag is 0. -/
def validateTagReplication (registry : SyncRegistry) (replication : SyncTagReplication) :
    Except RegistrationException Unit :=
  if replication.tag = 0 || registry.componentInfo replication.tag != some true then
    .error (.invalidArgument "sync archetype references an unregistered tag")
  else .ok ()

/-- `validate_component_replication` -/
def validateComponentReplication (registry : SyncRegistry) (replication : ComponentReplicationDesc) :
    Except RegistrationException Unit :=
  if replication.component = 0 || (registry.componentInfo replication.component).isNone then
    .error (.invalidArgument "sync archetype references an unregistered component")
  else
    match replication.serializer with
    | some serializer =>
      match registry.findComponentSerializerOps serializer with
      | some profile =>
        if profile.component ≠ replication.component then
          .error (.invalidArgument "sync archetype references an invalid component serializer")
        else .ok ()
      | none => .error (.invalidArgument "sync archetype references an invalid component serializer")
    | none =>
      if (registry.findComponentOps replication.component).isNone then
        .error (.invalidArgument "sync archetype references a component without sync traits")
      else .ok ()

/-- The profile an archetype takes for a component: a named serializer, or the default operations. -/
def profileFor (registry : SyncRegistry) (replication : ComponentReplicationDesc) : Option ComponentProfile :=
  match replication.serializer with
  | some serializer => registry.findComponentSerializerOps serializer
  | none => registry.findComponentOps replication.component

def resolveComponent (registry : SyncRegistry) (replication : ComponentReplicationDesc) :
    Except RegistrationException ComponentReplication :=
  match registry.profileFor replication with
  | none => .error (.invalidArgument "sync archetype references a component without sync traits")
  | some profile =>
    if profile.component ≠ replication.component then
      .error (.invalidArgument "sync archetype references a serializer for a different component")
    else if profile.ops.quantizedSize = 0 || profile.ops.quantizedSize > maxQuantizedBytes then
      .error (.invalidArgument "sync archetype references a component with invalid quantized size")
    else
      .ok {
        component := replication.component, audience := replication.audience, ops := profile.ops
        interpolated := replication.interpolated }

theorem resolveComponent_component {registry : SyncRegistry} {replication : ComponentReplicationDesc}
    {c : ComponentReplication} (h : registry.resolveComponent replication = .ok c) :
    c.component = replication.component := by
  unfold resolveComponent at h
  split at h
  · cases h
  split at h
  · cases h
  split at h
  · cases h
  · obtain rfl := Except.ok.inj h
    rfl

theorem resolveComponents_components {registry : SyncRegistry} :
    ∀ {descs : List ComponentReplicationDesc} {cs : List ComponentReplication},
      descs.mapM registry.resolveComponent = .ok cs →
      cs.map ComponentReplication.component = descs.map ComponentReplicationDesc.component
  | [], cs, h => by
    obtain rfl := Except.ok.inj h
    rfl
  | desc :: descs, cs, h => by
    rw [List.mapM_cons, Monadic.bind_eq_ok] at h
    obtain ⟨c, hc, h⟩ := h
    rw [Monadic.bind_eq_ok] at h
    obtain ⟨rest, hrest, h⟩ := h
    rw [Monadic.pure_eq_ok] at h
    subst h
    rw [List.map_cons, List.map_cons, resolveComponent_component hc, resolveComponents_components hrest]

/-- The checks of `define_archetype` before it looks up any operations. -/
def validateArchetype (registry : SyncRegistry) (desc : SyncArchetypeDesc) : Except RegistrationException Unit := do
  if desc.tags.length > maxArchetypeTags then
    throw (.invalidArgument "sync archetypes may not contain more than 64 tags")
  if desc.components.length > maxArchetypeComponents then
    throw (.invalidArgument "sync archetypes may not contain more than 63 components")
  desc.tags.forM registry.validateTagReplication
  if ¬(desc.tags.map SyncTagReplication.tag).Nodup then
    throw (.invalidArgument "sync archetype contains duplicate tags")
  desc.components.forM registry.validateComponentReplication

/-- `define_archetype`; the new archetype's id is its position. -/
def defineArchetype (registry : SyncRegistry) (desc : SyncArchetypeDesc) :
    Except RegistrationException (SyncRegistry × SyncArchetypeId) :=
  match registry.validateArchetype desc with
  | .error e => .error e
  | .ok () =>
    if hd : (desc.components.map ComponentReplicationDesc.component).Nodup then
      match hr : desc.components.mapM registry.resolveComponent with
      | .error e => .error e
      | .ok components =>
        let archetype : SyncArchetype := {
          tags := desc.tags, components, distinct := resolveComponents_components hr ▸ hd }
        .ok ({ registry with archetypes := registry.archetypes ++ [archetype] }, registry.archetypes.length)
    else .error (.invalidArgument "sync archetype contains duplicate components")

end SyncRegistry

/-! ## Every way of registering -/

inductive RegistrationOp where
  | component (component : ComponentId) (tag : Bool)
  | syncComponent (profile : ComponentProfile) (tag : Bool)
  | syncComponentSerializer (profile : ComponentProfile) (tag : Bool)
  | syncCue (type : Nat) (ops : SyncCueOps)
  | archetype (desc : SyncArchetypeDesc)

namespace SyncRegistry

def exec (registry : SyncRegistry) : RegistrationOp → Except RegistrationException SyncRegistry
  | .component component tag => .ok (registry.registerComponent component tag)
  | .syncComponent profile tag => registry.registerSyncComponent profile tag
  | .syncComponentSerializer profile tag => (registry.registerSyncComponentSerializer profile tag).map Prod.fst
  | .syncCue type ops => (registry.registerSyncCue type ops).map Prod.fst
  | .archetype desc => (registry.defineArchetype desc).map Prod.fst

/-- The registries of every sequence of calls that do not throw; a call that throws leaves at most a component
registered. -/
inductive Reachable : SyncRegistry → Prop where
  | empty : Reachable {}
  | step {registry registry' : SyncRegistry} (op : RegistrationOp) :
      Reachable registry → registry.exec op = .ok registry' → Reachable registry'

theorem storeComponentOps_keys (entries : List (ComponentId × ComponentProfile)) (profile : ComponentProfile) :
    (storeComponentOps entries profile).map Prod.fst =
      if profile.component ∈ entries.map Prod.fst then entries.map Prod.fst
      else entries.map Prod.fst ++ [profile.component] := by
  unfold storeComponentOps
  split
  · rw [List.map_map]
    apply List.map_congr_left
    intro entry _
    by_cases h : entry.1 = profile.component <;> simp [h]
  · simp

theorem storeComponentOps_nodup {entries : List (ComponentId × ComponentProfile)} (profile : ComponentProfile)
    (h : (entries.map Prod.fst).Nodup) : ((storeComponentOps entries profile).map Prod.fst).Nodup := by
  rw [storeComponentOps_keys]
  split
  · exact h
  · rename_i hnot
    exact List.nodup_append.mpr ⟨h, List.nodup_singleton _, fun a ha b hb => by
      rw [List.mem_singleton.mp hb]
      rintro rfl
      exact hnot ha⟩

/-- `component_ops` is a map: no key is there twice. -/
theorem Reachable.keys_nodup {registry : SyncRegistry} (h : Reachable registry) :
    registry.settings.componentOps.Nodup := by
  induction h with
  | empty => exact List.nodup_nil
  | step op _ hexec ih =>
    cases op with
    | component component tag =>
      obtain rfl := Except.ok.inj hexec
      exact ih
    | syncComponent profile tag =>
      simp only [exec, registerSyncComponent, Monadic.bind_eq_ok, Monadic.pure_eq_ok] at hexec
      obtain ⟨-, -, rfl⟩ := hexec
      exact storeComponentOps_nodup profile ih
    | syncComponentSerializer profile tag =>
      obtain ⟨⟨registry', id⟩, hres, rfl⟩ := Monadic.Except_map_eq_ok.mp hexec
      simp only [registerSyncComponentSerializer, Monadic.bind_eq_ok, Monadic.pure_eq_ok, Prod.mk.injEq] at hres
      obtain ⟨-, -, rfl, -⟩ := hres
      exact ih
    | syncCue type ops =>
      obtain ⟨⟨registry', id⟩, hres, rfl⟩ := Monadic.Except_map_eq_ok.mp hexec
      unfold registerSyncCue at hres
      split at hres
      · obtain ⟨rfl, -⟩ := Prod.mk.inj (Except.ok.inj hres)
        exact ih
      split at hres
      · cases hres
      · obtain ⟨rfl, -⟩ := Prod.mk.inj (Except.ok.inj hres)
        exact ih
    | archetype desc =>
      obtain ⟨⟨registry', id⟩, hres, rfl⟩ := Monadic.Except_map_eq_ok.mp hexec
      unfold defineArchetype at hres
      split at hres
      · cases hres
      split at hres
      · split at hres
        · cases hres
        · obtain ⟨rfl, -⟩ := Prod.mk.inj (Except.ok.inj hres)
          exact ih
      · cases hres

end SyncRegistry

end AshiatoSync
