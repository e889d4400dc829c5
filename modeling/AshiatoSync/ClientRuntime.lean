import AshiatoSync.ClientUpdate

/-!
# The buffered timeline and mode switches

`applyFrame` shows one frame of the buffered timeline on every buffered entity;
`setEntityMode` moves an entity to another mode.
-/

namespace AshiatoSync

namespace ReplicationClient

section

variable {R : Type} [LocalRegistry R]

open LocalRegistry

/-! ## The buffered runtime -/

/-- Whether a missing sample fails `apply_frame`. -/
inductive MissingBufferedFramePolicy where
  | failApply
  | allowMissing
  deriving DecidableEq, Repr

def clientEntityNetworkIdVersion (id : ClientEntityNetworkId) : Nat := id % 2 ^ 32

/-- A missing sample that is no starvation: of an entity that is not there yet, or not any more. -/
def expectedMissing (state : EntityState) (frame : SyncFrame) : Bool :=
  state.localEntity.isNone &&
    ((state.entityPresent && decide (frame < state.frame) &&
        decide (clientEntityNetworkIdVersion state.clientEntityNetworkId > 1)) ||
      (!state.entityPresent && decide (frame > state.frame)))

/-- The loop of `apply_frame`, with its answer so far and the destroys it applied. -/
structure FrameLoop (R : Type) where
  client : ReplicationClient R
  allValid : Bool := true
  appliedDestroys : List Nat := []

/-- One buffered entity of `apply_frame`. -/
def applyFrameTo (frame : SyncFrame) (policy : MissingBufferedFramePolicy) (loop : FrameLoop R) (e : Nat) :
    FrameLoop R :=
  if e ≥ loop.client.store.entities.length then loop
  else if (loop.client.bufferedRuntime.rings e).isEmpty then loop
  else
    match (loop.client.bufferedRuntime.rings e).view frame with
    | none =>
      if expectedMissing (loop.client.entity e) frame || policy = .allowMissing then loop
      else { loop with allValid := false }
    | some sample =>
      match loop.client.applyBufferedSample e sample with
      | (client, false) => { loop with client, allValid := false }
      | (client, true) =>
        if !sample.entityPresent then { loop with client, appliedDestroys := loop.appliedDestroys ++ [e] }
        else { loop with client := client.playBufferedForFrame e frame }

/-- `ClientBufferedRuntime::apply_frame` -/
def applyFrame (client : ReplicationClient R) (frame : SyncFrame) (policy : MissingBufferedFramePolicy := .failApply) :
    ReplicationClient R × Bool :=
  let client := { client with bufferedRuntime := { client.bufferedRuntime with
      lastAppliedBufferedFrame := frame, hasAppliedBufferedFrame := true } }
  let members := client.store.members .buffered
  if members.isEmpty then (client, true)
  else
    let loop := members.foldl (applyFrameTo frame policy) { client }
    ((loop.appliedDestroys.foldl (fun client e => client.eraseEntityState e false) loop.client).discardAppliedBuffered
      frame, loop.allValid)

/-- `apply_frames` over the frames after `previous` up to `next`. -/
def applyFrames (client : ReplicationClient R) (previous next : SyncFrame) : ReplicationClient R :=
  (List.range' (previous + 1) (next - previous)).foldl (fun client frame => (client.applyFrame frame).1) client

/-! ## Mode switches -/

/-- `finish_immediate_mode_transition` -/
def finishImmediateModeTransition (client : ReplicationClient R) (e : Nat) (previous : ReplicationClientMode) :
    ReplicationClient R :=
  let client := if previous = .bufferedInterpolation then client.playBufferedOnModeTransition e else client
  let client := client.setBufferedRing e (client.bufferedRuntime.rings e).clear
  client.setCueStore (client.cueStore.eraseBufferedForEntity e)

/-- `transition_to_buffered` -/
def transitionToBuffered (client : ReplicationClient R) (e : Nat) : ReplicationClient R × Bool :=
  if !client.validateBufferedArchetype (client.entity e).archetype then (client, false)
  else
    let client := (client.modifyEntity e fun s =>
      { s.markModeSelected .bufferedInterpolation with lastAppliedBufferedFrame := 0 }).ensureBufferedRing e
    let state := client.entity e
    let written :=
      if state.frame = 0 then (client.bufferedRuntime.rings e, true)
      else
        match client.archetypeOf e with
        | none => (client.bufferedRuntime.rings e, false)
        | some archetype =>
          writeBufferedFrame archetype client.options.bufferedFrameCapacity (client.bufferedRuntime.rings e) state.frame
            state.entityPresent none (if state.entityPresent then some state.baseline else none) state.frame state.frame
    let client := client.setBufferedRing e written.1
    if !written.2 then (client, false)
    else
      ((client.modifyEntity e fun s => { s with appliedPresentMask := s.baseline.presentMask }).syncEntityMemberships e,
        true)

/-- `apply_latest_snap` -/
def applyLatestSnap (client : ReplicationClient R) (e : Nat) : ReplicationClient R × Bool :=
  let state := client.entity e
  if !state.entityPresent then ((client.hideEntity e).syncEntityMemberships e, true)
  else client.applySnapSample e state.baseline state.baseline.presentMask

/-- `transition_to_snap` -/
def transitionToSnap (client : ReplicationClient R) (e : Nat) : ReplicationClient R × Bool :=
  let previous := (client.entity e).mode
  match (client.modifyEntity e (·.markModeSelected .snap)).applyLatestSnap e with
  | (client, false) => (client.modifyEntity e fun s => { s with mode := previous }, false)
  | (client, true) => ((client.finishImmediateModeTransition e previous).syncEntityMemberships e, true)

/-- `transition_to_predict` -/
def transitionToPredict (client : ReplicationClient R) (e : Nat) : ReplicationClient R × Bool :=
  if !client.validatePredictedArchetype (client.entity e).archetype then (client, false)
  else
    let previous := (client.entity e).mode
    let client := (client.modifyEntity e (·.markModeSelected .predict)).ensurePredictedRing e
    let state := client.entity e
    let seeded :=
      if state.frame = 0 then (client, true)
      else
        match client.applyFrameData e state.frame state.entityPresent state.baseline with
        | (client, false) => (client, false)
        | (client, true) =>
          let client := client.setPredictedRing e ((client.prediction.predictedFrames e).write {
            frame := state.frame, valid := true, entityPresent := state.entityPresent
            writeSource := .authoritativeSeed, baseline := state.baseline })
          (if state.entityPresent then client.seedExistingAuthoritativeFrame state.frame else client, true)
    match seeded with
    | (client, false) => (client, false)
    | (client, true) => ((client.finishImmediateModeTransition e previous).syncEntityMemberships e, true)

/-- `switch_entity_mode` -/
def switchEntityMode (client : ReplicationClient R) (e : Nat) (mode : ReplicationClientMode) :
    ReplicationClient R × Bool :=
  match mode with
  | .bufferedInterpolation => client.transitionToBuffered e
  | .predict => client.transitionToPredict e
  | .snap => client.transitionToSnap e

/-- `reset_predicted_frame` -/
def resetPredictedFrame (client : ReplicationClient R) : ReplicationClient R :=
  { client with prediction := { client.prediction with hasPredictedFrame := false, lastPredictedFrame := 0 } }

/-- `set_entity_mode`; every exception leaves the client as it is at that point. -/
def setEntityMode (client : ReplicationClient R) (id : ClientEntityNetworkId) (mode : ReplicationClientMode) :
    ReplicationClient R :=
  match client.store.findByClientEntityNetworkId id with
  | none => client
  | some (e, state) =>
    if state.absent || decide (state.mode = mode) then client
    else if decide (mode = .predict) && !client.validatePredictedArchetype state.archetype then client
    else
      let client :=
        if mode = .predict ∧ client.store.members .predicted = [] then client.resetPredictedFrame else client
      match client.switchEntityMode e mode with
      | (client, false) => client
      | (client, true) =>
        let client := client.syncEntityMemberships e
        if mode ≠ .predict ∧ client.store.members .predicted = [] then client.resetPredictedFrame else client

end

end ReplicationClient

end AshiatoSync
