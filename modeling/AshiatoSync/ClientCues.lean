import AshiatoSync.ClientApply

/-!
# Cues on the client

A cue of a snap or predicted entity is played when it arrives, one of a buffered
entity when the buffered timeline reaches its frame.  How late a cue is played,
and what the handlers do to the registry, is read by nothing modelled here.
-/

namespace AshiatoSync

variable {R : Type} [LocalRegistry R]

/-! ## The store -/

/-- The candidate of `find_played` and `find_authoritative`. -/
def EntityCue.matches (cue : EntityCue) (ops : SyncCueOps) (candidate : EntityCue) : Bool :=
  candidate.frame == cue.frame && candidate.type == cue.type &&
    match ops.equals with
    | some equals => equals candidate.value cue.value
    | none => false

namespace ClientCueStore

/-- `find_played` -/
def findPlayed (store : ClientCueStore) (settings : SyncSettings) (e : Nat) (cue : EntityCue) : Option Nat :=
  match settings.cueOps[cue.type]? with
  | none => none
  | some ops => store.played.findIdx? fun candidate => candidate.entityIndex == e && cue.matches ops candidate.cue

/-- `confirm_played` -/
def confirmPlayed (store : ClientCueStore) (i : Nat) : ClientCueStore :=
  { store with played := store.played.modify i fun p => { p with confirmed := true } }

/-- `mark_seen_in_resim` -/
def markSeenInResim (store : ClientCueStore) (i : Nat) : ClientCueStore :=
  { store with played := store.played.modify i fun p => { p with seenResimGeneration := store.resimGeneration } }

/-- `store_buffered` -/
def storeBuffered (store : ClientCueStore) (ring : FrameRing) (e : Nat) (frame : SyncFrame) (cues : List EntityCue)
    (hasApplied : Bool) (lastApplied : SyncFrame) : ClientCueStore :=
  if (ring.view frame).isNone then store
  else { store with
    buffered := store.buffered ++
      (cues.filter fun cue => !(hasApplied && decide (cue.frame ≤ lastApplied))).map (BufferedEntityCue.mk e) }

/-- `erase_buffered_for_entity` -/
def eraseBufferedForEntity (store : ClientCueStore) (e : Nat) : ClientCueStore :=
  { store with buffered := store.buffered.filter fun cue => cue.entityIndex != e }

end ClientCueStore

namespace ReplicationClient

def setCueStore (client : ReplicationClient R) (cueStore : ClientCueStore) : ReplicationClient R :=
  { client with cueStore }

/-! ## Playing -/

def playNew (client : ReplicationClient R) (ops : SyncCueOps) (e : Nat) (cue : EntityCue) (confirmed : Bool) :
    ReplicationClient R × Bool :=
  match (client.entity e).localEntity, ops.play with
  | some entity, some play =>
    if !LocalRegistry.alive client.registry entity || !play entity cue.value cue.frame then (client, false)
    else
      ((client.setCueStore { client.cueStore with
          played := client.cueStore.played ++ [⟨e, cue, confirmed, client.cueStore.resimGeneration⟩] }).logCall
        (.play { index := e, clientEntityNetworkId := (client.entity e).clientEntityNetworkId, cue }), true)
  | _, _ => (client, false)

/-- `ClientCueRuntime::play` -/
def playCue (client : ReplicationClient R) (e : Nat) (confirmed : Bool) (cue : EntityCue) :
    ReplicationClient R × Bool :=
  match client.settings.cueOps[cue.type]? with
  | none => (client, false)
  | some ops =>
    if ops.play.isNone then (client, false)
    else
      match client.cueStore.findPlayed client.settings e cue with
      | some i =>
        let store := if confirmed then client.cueStore.confirmPlayed i else client.cueStore
        (client.setCueStore (store.markSeenInResim i), true)
      | none => client.playNew ops e cue confirmed

def playCues (client : ReplicationClient R) (e : Nat) (cues : List EntityCue) : ReplicationClient R :=
  cues.foldl (fun client cue => (client.playCue e true cue).1) client

/-- `play_snap` -/
def playSnap (client : ReplicationClient R) (e : Nat) (cues : List EntityCue) : ReplicationClient R :=
  client.playCues e cues

/-! ## Predicted entities -/

/-- The first loop of `reconcile_authoritative_predicted`. -/
def confirmOrPlay (client : ReplicationClient R) (e : Nat) (cue : EntityCue) : ReplicationClient R :=
  match client.cueStore.findPlayed client.settings e cue with
  | some i => client.setCueStore (client.cueStore.confirmPlayed i)
  | none => (client.playCue e true cue).1

/-- What the second loop of `reconcile_authoritative_predicted` makes of a played cue. -/
def reconcilePlayed (settings : SyncSettings) (e : Nat) (frame : SyncFrame) (cues : List EntityCue)
    (played : EntityPlayedCue) : Option EntityPlayedCue :=
  if played.entityIndex ≠ e ∨ played.confirmed = true ∨ played.cue.frame ≠ frame then some played
  else
    match settings.cueOps[played.cue.type]? with
    | none => none
    | some ops =>
      if cues.any fun cue => cue.matches ops played.cue then some { played with confirmed := true } else none

/-- `reconcile_authoritative_predicted` -/
def reconcileAuthoritativePredicted (client : ReplicationClient R) (e : Nat) (cues : List EntityCue)
    (frame : SyncFrame) : ReplicationClient R :=
  let client := cues.foldl (fun client cue => client.confirmOrPlay e cue) client
  client.setCueStore { client.cueStore with
    played := client.cueStore.played.filterMap (reconcilePlayed client.settings e frame cues) }

/-! ## Buffered entities -/

/-- `play_buffered_for_frame` -/
def playBufferedForFrame (client : ReplicationClient R) (e : Nat) (frame : SyncFrame) : ReplicationClient R :=
  let due (cue : BufferedEntityCue) := cue.entityIndex == e && cue.cue.frame == frame
  let played := client.playCues e ((client.cueStore.buffered.filter due).map BufferedEntityCue.cue)
  played.setCueStore { played.cueStore with buffered := played.cueStore.buffered.filter fun cue => !due cue }

/-- `play_buffered_on_mode_transition` -/
def playBufferedOnModeTransition (client : ReplicationClient R) (e : Nat) : ReplicationClient R :=
  let pending := (client.cueStore.buffered.filter fun cue => cue.entityIndex == e).map BufferedEntityCue.cue
  (client.setCueStore (client.cueStore.eraseBufferedForEntity e)).playCues e
    (pending.mergeSort fun a b => a.frame ≤ b.frame)

/-- `discard_applied_buffered` -/
def discardAppliedBuffered (client : ReplicationClient R) (frame : SyncFrame) : ReplicationClient R :=
  client.setCueStore { client.cueStore with
    buffered := client.cueStore.buffered.filter fun cue => !decide (cue.cue.frame ≤ frame) }

/-- `store_authoritative_buffered` -/
def storeAuthoritativeBuffered (client : ReplicationClient R) (e : Nat) (frame : SyncFrame) (cues : List EntityCue) :
    ReplicationClient R :=
  let runtime := client.bufferedRuntime
  let stored := client.setCueStore (client.cueStore.storeBuffered (runtime.rings e) e frame cues
    runtime.hasAppliedBufferedFrame runtime.lastAppliedBufferedFrame)
  if !runtime.hasAppliedBufferedFrame then stored
  else stored.playCues e (cues.filter fun cue => decide (cue.frame ≤ runtime.lastAppliedBufferedFrame))

end ReplicationClient

end AshiatoSync
