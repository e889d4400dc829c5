import AshiatoSync.Types
import AshiatoSync.Lib.Ring

/-!
# The replay streamer

The streamer keeps the last replay frames in a ring.  A session copies a run of
them, from a full frame on, and plays its copy back on a registry and a replay
server of its own.
-/

namespace AshiatoSync

inductive ReplicationReplayFrameKind where
  | full
  | delta
  deriving DecidableEq, Repr

structure ReplicationReplayFrame where
  frame : SyncFrame := 0
  kind : ReplicationReplayFrameKind := .full
  payload : Bits := []
  deriving DecidableEq, Repr

instance : Inhabited ReplicationReplayFrame := ⟨{}⟩

structure ReplicationReplayStreamerOptions where
  maxFrames : Nat := 600
  prerollFrames : SyncFrame := 180
  tailFrames : SyncFrame := 120

structure ReplicationReplayStreamer where
  options : ReplicationReplayStreamerOptions
  frames : List ReplicationReplayFrame
  head : Nat := 0
  count : Nat := 0

/-- `ReplicationReplayStreamSession`, without the entity map that the stage holds. -/
structure ReplicationReplayStreamSession where
  nextFrameIndex : Nat := 0
  playbackFrame : SyncFrame := 0
  endFrame : SyncFrame := 0
  active : Bool := false
  frames : List ReplicationReplayFrame := []

/-- What a session plays on: the session's entity map, the registry and the replay server. -/
structure ReplayStage (σ : Type) where
  forgetEntities : σ → σ
  applyFrame : ReplicationReplayFrame → Bool → σ → Bool × σ
  rediscoverAllReplicatedEntities : σ → σ
  setFrameWithoutBroadcast : SyncFrame → σ → Bool × σ
  advanceFrameWithoutSimulating : SyncFrame → σ → Bool × σ

namespace ReplicationReplayStreamer

def new (options : ReplicationReplayStreamerOptions) : ReplicationReplayStreamer :=
  { options, frames := if options.maxFrames = 0 then [] else List.replicate options.maxFrames {} }

def pushFrame (streamer : ReplicationReplayStreamer) (frame : ReplicationReplayFrame) : ReplicationReplayStreamer :=
  if streamer.options.maxFrames = 0 then
    { streamer with frames := streamer.frames ++ [frame], count := (streamer.frames ++ [frame]).length }
  else
    let index := (streamer.head + streamer.count) % streamer.frames.length
    let frames := streamer.frames.set index frame
    if streamer.count < frames.length then { streamer with frames, count := streamer.count + 1 }
    else { streamer with frames, head := (streamer.head + 1) % frames.length }

def frameAt (streamer : ReplicationReplayStreamer) (index : Nat) : ReplicationReplayFrame :=
  streamer.frames.getD ((streamer.head + index) % streamer.frames.length) {}

/-- `frame_at(0)`, …, `frame_at(count - 1)` -/
def stored (streamer : ReplicationReplayStreamer) : List ReplicationReplayFrame :=
  (List.range streamer.count).map streamer.frameAt

def startTarget (options : ReplicationReplayStreamerOptions) (focusFrame : SyncFrame) : SyncFrame :=
  if focusFrame > options.prerollFrames then focusFrame - options.prerollFrames else 1

def startsAt (target : SyncFrame) (frame : ReplicationReplayFrame) : Bool :=
  frame.kind == .full && decide (frame.frame ≤ target)

/-- `find_start_frame`: the last index that fits, `count` when none does. -/
def findStartFrame (streamer : ReplicationReplayStreamer) (focusFrame : SyncFrame) : Nat :=
  (List.range streamer.count).foldl
    (fun start index =>
      if startsAt (startTarget streamer.options focusFrame) (streamer.frameAt index) then index else start)
    streamer.count

/-- `append_available_frames` -/
def appendAvailableFrames (streamer : ReplicationReplayStreamer) (session : ReplicationReplayStreamSession) :
    ReplicationReplayStreamSession :=
  match session.frames.getLast? with
  | none => session
  | some last =>
    let appended := (streamer.stored.foldl
      (fun acc frame =>
        if frame.frame ≤ acc.2 ∨ frame.frame > session.endFrame then acc
        else (acc.1 ++ [frame], frame.frame))
      (session.frames, last.frame)).1
    { session with frames := appended }

section
variable {σ : Type} (stage : ReplayStage σ)

def beginSession (streamer : ReplicationReplayStreamer) (focusFrame : SyncFrame)
    (session : ReplicationReplayStreamSession) (s : σ) : Bool × ReplicationReplayStreamSession × σ :=
  if streamer.count = 0 then (false, session, s)
  else
    let start := streamer.findStartFrame focusFrame
    if start ≥ streamer.count then (false, session, s)
    else
      let s := stage.forgetEntities s
      let endFrame := (focusFrame + streamer.options.tailFrames) % 2 ^ 32
      -- the copy stops at the first frame after the end
      let frames := (streamer.stored.drop start).takeWhile fun frame => decide (frame.frame ≤ endFrame)
      match frames with
      | [] => (false, {}, stage.forgetEntities s)
      | first :: _ =>
        match stage.applyFrame first false s with
        | (false, s) => (false, {}, stage.forgetEntities s)
        | (true, s) =>
          let s := stage.rediscoverAllReplicatedEntities s
          match stage.setFrameWithoutBroadcast first.frame s with
          | (false, s) => (false, {}, stage.forgetEntities s)
          | (true, s) => (true, { playbackFrame := first.frame, endFrame, active := true, frames }, s)

/-- The `while` loop of `tick_session`, over the frames from `next_frame_index` on. -/
def applyDueFrames (playbackFrame : SyncFrame) : List ReplicationReplayFrame → Nat → σ → Bool × Nat × σ
  | [], next, s => (true, next, s)
  | frame :: rest, next, s =>
    if frame.frame ≤ playbackFrame then
      match stage.applyFrame frame true s with
      | (true, s) => applyDueFrames playbackFrame rest (next + 1) s
      | (false, s) => (false, next, s)
    else (true, next, s)

def tickSession (streamer : ReplicationReplayStreamer) (session : ReplicationReplayStreamSession) (s : σ) :
    Bool × ReplicationReplayStreamSession × σ :=
  if ¬session.active then (false, { session with active := false }, s)
  else
    let session := streamer.appendAvailableFrames session
    if session.playbackFrame = 0 ∨ session.playbackFrame > session.endFrame then
      (false, { session with active := false }, s)
    else
      match applyDueFrames stage session.playbackFrame (session.frames.drop session.nextFrameIndex)
          session.nextFrameIndex s with
      | (false, next, s) => (false, { session with nextFrameIndex := next, active := false }, s)
      | (true, next, s) =>
        let session := { session with nextFrameIndex := next }
        match stage.advanceFrameWithoutSimulating session.playbackFrame s with
        | (false, s) => (false, { session with active := false }, s)
        | (true, s) => (true, { session with playbackFrame := (session.playbackFrame + 1) % 2 ^ 32 }, s)

end

end ReplicationReplayStreamer

end AshiatoSync
