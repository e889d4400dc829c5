import AshiatoSync.ReplayRunSound
import AshiatoSync.ReplaySessionSound

/-!
# Playing a replay

A session's registry has a cue dispatcher, which the replay server empties in each
dirty frame.  A session that is fed what a writer wrote follows the server the
writer was attached to: after each tick it has what the server replicated in the
newest frame it was to play.
-/

namespace AshiatoSync

open ReplicationServer ReplayRegistry ReplayWorld ReplicationReplayStreamer

/-! ## The cue dispatcher -/

/-- `valid_cue_relevance_value`, of the bits of a float: finite and not negative. -/
def validCueRelevanceValue (seconds : Float32Bits) : Bool :=
  seconds.extractLsb' 23 8 != 255 && (!seconds.msb || seconds == 0x80000000)

structure CueDispatcher where
  cues : List QueuedSyncCue := []

/-- `CueDispatcher::enqueue`, for cues of an entity that is not null. -/
def CueDispatcher.enqueue (dispatcher : CueDispatcher) (cue : QueuedSyncCue) : CueDispatcher :=
  if cue.frame = 0 || !validCueRelevanceValue cue.relevanceSeconds || decide (cue.payload.length > maxCuePayloadBits)
  then dispatcher
  else { cues := dispatcher.cues ++ [cue] }

/-! ## The host of a session -/

structure ReplayHost (R : Type) where
  world : ReplayWorld R
  dispatcher : CueDispatcher := {}

section

variable {R : Type} [ReplayRegistry R]

namespace ReplayHost

/-- `apply_frame` -/
def applyFrame (frame : ReplicationReplayFrame) (includeCues : Bool) (host : ReplayHost R) : Bool × ReplayHost R :=
  if includeCues then
    let (applied, world, cues) := host.world.applyFrameWithCues frame
    (applied, { world, dispatcher := cues.foldl CueDispatcher.enqueue host.dispatcher })
  else
    let (applied, world) := host.world.applyFrame frame
    (applied, { host with world })

/-- `advance_frame_without_simulating`: the dirty frame takes the dispatcher's cues. -/
def advanceFrameWithoutSimulating (dirty : ReplayWorld R → DirtyView) (frame : SyncFrame) (host : ReplayHost R) :
    Bool × ReplayHost R :=
  if host.world.thrown.isSome || frame = 0 then (false, host)
  else
    match host.world.server.exec
      (.advance frame (view host.world.registry) (dirty host.world) host.dispatcher.cues) with
    | .ok server => (true, { world := { host.world with server } })
    | .error exception => (false, { host with world := { host.world with thrown := some exception } })

end ReplayHost

def playbackStage (dirty : ReplayWorld R → DirtyView) : ReplayStage (ReplayHost R) where
  forgetEntities host := { host with world := { host.world with entities := [] } }
  applyFrame := ReplayHost.applyFrame
  rediscoverAllReplicatedEntities host := { host with world := host.world.rediscover }
  setFrameWithoutBroadcast frame host :=
    let (set, world) := host.world.setFrameWithoutBroadcast frame
    (set, { host with world })
  advanceFrameWithoutSimulating := ReplayHost.advanceFrameWithoutSimulating dirty

end

/-! ## The replay server -/

section

variable {options : ReplicationServerOptions} {settings : SyncSettings} {server : ReplicationServer}

theorem ReplayServer.moves (h : ReplayServer options settings server) :
    Moves False (.start options settings) server := by
  induction h with
  | start => exact .refl
  | step op _ hexec ih =>
    obtain ⟨hs, hids⟩ := moves_start_inv ih
    exact ih.trans (exec_moves hs hids False.elim hexec)
  | setFrame frame _ ih => exact ih.tail (.setFrame False.elim)

theorem ReplayServer.sameSettings (h : ReplayServer options settings server) : server.core.settings = settings :=
  h.moves.settings (ServerInv.start options settings)

end

/-! ## Frames of a writer -/

section

variable {R : Type} [ReplayRegistry R] {settings : SyncSettings} {options : ReplicationServerOptions}
  {frames : List WrittenFrame}
  {host : ReplayHost R} (dirty : ReplayWorld R → DirtyView)

structure Recorded (R : Type) [ReplayRegistry R] (settings : SyncSettings) (frames : List WrittenFrame) : Prop where
  continues : ∀ earlier next later, frames = earlier ++ next :: later → Continues R settings earlier.getLast? next
  fits : ∀ written ∈ frames, ∀ cue ∈ written.cues, cue.Fits

structure ReplayHost.Sound (options : ReplicationServerOptions) (settings : SyncSettings) (host : ReplayHost R) :
    Prop where
  owns : ∃ before, OwnsNew before host.world
  server : ReplayServer options settings host.world.server

def ReplayHost.Shows (host : ReplayHost R) (written : WrittenFrame) : Prop :=
  Mirrors written.core written.registry host.world

theorem ReplayHost.Sound.forget (h : host.Sound options settings) :
    ((playbackStage dirty).forgetEntities host).Sound options settings :=
  ⟨⟨host.world.registry, .start { host.world with entities := [] } rfl⟩, h.server⟩

theorem ReplayHost.Sound.rediscover (h : host.Sound options settings) :
    ((playbackStage dirty).rediscoverAllReplicatedEntities host).Sound options settings := by
  obtain ⟨⟨before, howns⟩, hserver⟩ := h
  show ReplayHost.Sound options settings { host with world := host.world.rediscover }
  unfold ReplayWorld.rediscover
  split
  · rename_i server hstep
    exact ⟨⟨before, howns.ids, howns.distinct, howns.living, howns.new, howns.same⟩,
      hserver.step (.rediscoverAll _) hstep⟩
  · exact ⟨⟨before, howns.ids, howns.distinct, howns.living, howns.new, howns.same⟩, hserver⟩

theorem ReplayHost.Sound.setFrame (h : host.Sound options settings) (frame : SyncFrame) :
    ((playbackStage dirty).setFrameWithoutBroadcast frame host).2.Sound options settings := by
  obtain ⟨⟨before, howns⟩, hserver⟩ := h
  show ReplayHost.Sound options settings { host with world := (host.world.setFrameWithoutBroadcast frame).2 }
  unfold ReplayWorld.setFrameWithoutBroadcast
  split
  · exact ⟨⟨before, howns⟩, hserver⟩
  · exact ⟨⟨before, howns.ids, howns.distinct, howns.living, howns.new, howns.same⟩, hserver.setFrame frame⟩

theorem ReplayHost.Sound.advance (h : host.Sound options settings) (frame : SyncFrame) :
    ((playbackStage dirty).advanceFrameWithoutSimulating frame host).2.Sound options settings := by
  obtain ⟨⟨before, howns⟩, hserver⟩ := h
  show (ReplayHost.advanceFrameWithoutSimulating dirty frame host).2.Sound options settings
  unfold ReplayHost.advanceFrameWithoutSimulating
  split
  · exact ⟨⟨before, howns⟩, hserver⟩
  split
  · rename_i server hexec
    exact ⟨⟨before, howns.ids, howns.distinct, howns.living, howns.new, howns.same⟩, hserver.step _ hexec⟩
  · exact ⟨⟨before, howns.ids, howns.distinct, howns.living, howns.new, howns.same⟩, hserver⟩

/-- What a session shows depends on its entities and its registry only. -/
theorem ReplayHost.Shows.congr {host' : ReplayHost R} {written : WrittenFrame} (h : host.Shows written)
    (hentities : host'.world.entities = host.world.entities) (hregistry : host'.world.registry = host.world.registry) :
    host'.Shows written where
  slots slot := by
    have hslot := h.slots slot
    refine ⟨fun hreplicable replicated hr => ?_, fun hnot => ?_⟩
    · rw [hentities, hregistry]
      exact hslot.copy hreplicable replicated hr
    · rw [hentities]
      exact hslot.gone hnot
  zero := by rw [hentities]; exact h.zero

theorem rediscover_same (world : ReplayWorld R) :
    world.rediscover.entities = world.entities ∧ world.rediscover.registry = world.registry := by
  unfold ReplayWorld.rediscover
  split <;> exact ⟨rfl, rfl⟩

omit [ReplayRegistry R] in
theorem setFrameWithoutBroadcast_same (world : ReplayWorld R) (frame : SyncFrame) :
    (world.setFrameWithoutBroadcast frame).2.entities = world.entities ∧
      (world.setFrameWithoutBroadcast frame).2.registry = world.registry := by
  unfold ReplayWorld.setFrameWithoutBroadcast
  split <;> exact ⟨rfl, rfl⟩

theorem advanceFrameWithoutSimulating_same (frame : SyncFrame) (host : ReplayHost R) :
    (ReplayHost.advanceFrameWithoutSimulating dirty frame host).2.world.entities = host.world.entities ∧
      (ReplayHost.advanceFrameWithoutSimulating dirty frame host).2.world.registry = host.world.registry := by
  unfold ReplayHost.advanceFrameWithoutSimulating
  split
  · exact ⟨rfl, rfl⟩
  split <;> exact ⟨rfl, rfl⟩

/-- The replay server's tick fails where it has thrown. -/
theorem advance_stops {frame : SyncFrame} {host : ReplayHost R} (hframe : frame ≠ 0)
    (h : (ReplayHost.advanceFrameWithoutSimulating dirty frame host).1 = false) :
    (ReplayHost.advanceFrameWithoutSimulating dirty frame host).2.world.thrown.isSome := by
  unfold ReplayHost.advanceFrameWithoutSimulating at h ⊢
  split
  · rename_i hstopped
    rw [decide_eq_false hframe, Bool.or_false] at hstopped
    exact hstopped
  · rename_i hgoes
    rw [if_neg hgoes] at h
    split
    · rename_i server hexec
      rw [hexec] at h
      cases h
    · rfl

/-- A written frame is applied to a session that shows the frame before it, or when it is a full one. -/
theorem Recorded.applied (h : Recorded R settings frames) {earlier later : List WrittenFrame} {next : WrittenFrame}
    (hframes : frames = earlier ++ next :: later) (hhost : host.Sound options settings)
    (hready : next.frame.kind = .full ∨ ∃ last ∈ earlier.getLast?, host.Shows last) (includeCues : Bool) :
    ∃ host', host.applyFrame next.frame includeCues = (true, host') ∧ host'.Sound options settings ∧
    host'.Shows next := by
  obtain ⟨⟨before, howns⟩, hserver⟩ := hhost
  obtain ⟨world', hmirrored, -⟩ :=
    h.continues earlier next later hframes before host.world howns hserver.sameSettings hready
  have hin : next ∈ frames := hframes ▸ List.mem_append_right _ List.mem_cons_self
  unfold ReplayHost.applyFrame
  cases includeCues with
  | false =>
    rw [if_neg Bool.false_ne_true, hmirrored.applied]
    exact ⟨_, rfl, ⟨⟨before, hmirrored.owns⟩, hmirrored.server ▸ hserver⟩, hmirrored.mirrors⟩
  | true =>
    rw [if_pos rfl, hmirrored.withCues (h.fits next hin)]
    exact ⟨_, rfl, ⟨⟨before, hmirrored.owns⟩, hmirrored.server ▸ hserver⟩, hmirrored.mirrors⟩

/-- The due frames of a tick are all applied, and the session shows the last of them. -/
theorem Recorded.applyDueFrames (h : Recorded R settings frames) (playbackFrame : SyncFrame) :
    ∀ (due earlier later : List WrittenFrame) (next : Nat) (host : ReplayHost R), frames = earlier ++ due ++ later →
    host.Sound options settings →
    (∀ first ∈ due.head?, first.frame.kind = .full ∨ ∃ last ∈ earlier.getLast?, host.Shows last) →
    ∃ applied rest host', due = applied ++ rest ∧
      ReplicationReplayStreamer.applyDueFrames (playbackStage dirty) playbackFrame
        (due.map WrittenFrame.frame) next host =
        (true, next + applied.length, host') ∧
      host'.Sound options settings ∧ (∀ written ∈ applied, written.frame.frame ≤ playbackFrame) ∧
      (∀ first ∈ rest.head?, playbackFrame < first.frame.frame) ∧
      (∀ last ∈ applied.getLast?, host'.Shows last) ∧
      (applied = [] → host' = host)
  | [], _, _, next, host, _, hhost, _ =>
    ⟨[], [], host, rfl, rfl, hhost, fun _ hw => (by cases hw), fun _ hw => (by cases hw),
      fun _ hw => (by cases hw), fun _ => rfl⟩
  | written :: due, earlier, later, next, host, hframes, hhost, hready => by
    rw [List.map_cons, ReplicationReplayStreamer.applyDueFrames]
    by_cases hdue : written.frame.frame ≤ playbackFrame
    case neg =>
      rw [if_neg hdue]
      refine ⟨[], written :: due, host, rfl, rfl, hhost, fun _ hw => (by cases hw), fun first hfirst => ?_,
        fun _ hw => (by cases hw),
        fun _ => rfl⟩
      obtain rfl := Option.some.inj hfirst
      exact Nat.lt_of_not_le hdue
    case pos =>
      rw [if_pos hdue]
      have hframes' : frames = earlier ++ written :: (due ++ later) := by rw [hframes]; simp
      obtain ⟨host₁, happlied, hhost₁, hshows⟩ := h.applied hframes' hhost (hready written rfl) true
      have hstage : (playbackStage dirty).applyFrame written.frame true host = (true, host₁) := happlied
      rw [hstage]
      dsimp only
      obtain ⟨applied, rest, host', rfl, hrest, hhost', hle, hlater, hlast, hnone⟩ :=
        h.applyDueFrames playbackFrame due (earlier ++ [written]) later (next + 1) host₁
          (by rw [hframes]; simp) hhost₁
          (fun first _ => .inr ⟨written, List.getLast?_concat .., hshows⟩)
      refine ⟨written :: applied, rest, host', rfl, ?_, hhost', ?_, hlater, fun last hin => ?_, fun h => by cases h⟩
      · rw [hrest, List.length_cons, Nat.add_right_comm, Nat.add_assoc]
      · exact List.forall_mem_cons.mpr ⟨hdue, hle⟩
      · cases happ : applied with
        | nil =>
          rw [happ] at hin
          obtain rfl := Option.some.inj hin
          rw [hnone happ]
          exact hshows
        | cons second others =>
          rw [happ, List.getLast?_cons_cons] at hin
          exact hlast last (happ ▸ hin)

end

/-! ## Runs -/

section

variable {R : Type} [ReplayRegistry R] {settings : SyncSettings} {options : ReplicationServerOptions}
  {frames : List WrittenFrame}
  {s : ReplayRun (ReplayHost R)} (dirty : ReplayWorld R → DirtyView)

/-- What holds of a session whose pushed frames a writer wrote: while it is active it shows the frame before the one it
goes on with, or the first one. -/
structure Playing (options : ReplicationServerOptions) (settings : SyncSettings) (written : List WrittenFrame)
    (session : ReplicationReplayStreamSession) (host : ReplayHost R) : Prop where
  sound : host.Sound options settings
  shown : session.active = true → ∃ shown ∈ written,
    session.frames[session.nextFrameIndex - 1]? = some shown.frame ∧ host.Shows shown ∧
    (session.playbackFrame ≠ 0 → shown.frame.frame ≤ session.playbackFrame)
  bounded : session.active = true → session.endFrame < 2 ^ 32

omit [ReplayRegistry R] in
theorem pushed_eq (h : s.pushed <+: frames.map WrittenFrame.frame) :
    s.pushed = (frames.take s.pushed.length).map WrittenFrame.frame := by
  rw [List.map_take]
  exact List.prefix_iff_eq_take.mp h

theorem written_of_infix {copy : List ReplicationReplayFrame} {written : List WrittenFrame}
    (h : copy <:+: written.map WrittenFrame.frame) :
    ∃ earlier played later, written = earlier ++ played ++ later ∧ copy = played.map WrittenFrame.frame := by
  obtain ⟨before, after, heq⟩ := h
  obtain ⟨front, later, rfl, hfront, -⟩ := List.map_eq_append_iff.mp heq.symm
  obtain ⟨earlier, played, rfl, -, hplayed⟩ := List.map_eq_append_iff.mp hfront
  exact ⟨earlier, played, later, rfl, hplayed.symm⟩

omit [ReplayRegistry R] in
/-- The pushed frames are told apart by their numbers. -/
theorem ReplayInv.written_unique (h : ReplayInv s) (hpushed : s.pushed <+: frames.map WrittenFrame.frame)
    {a b : WrittenFrame} (ha : a ∈ frames.take s.pushed.length) (hb : b ∈ frames.take s.pushed.length)
    (heq : a.frame = b.frame) : a = b := by
  have hnodup := nodup_of_increasing h.sorted
  rw [pushed_eq hpushed] at hnodup
  exact List.inj_on_of_nodup_map hnodup ha hb heq

/-- What a tick has left to play, and what is shown before it. -/
structure ToPlay (frames : List WrittenFrame) (s : ReplayRun (ReplayHost R)) (copy : List ReplicationReplayFrame)
    (earlier played later : List WrittenFrame) : Prop where
  written : frames = earlier ++ played ++ later
  copied : copy = played.map WrittenFrame.frame
  sorted : copy.Pairwise (·.frame < ·.frame)
  among : ∀ written ∈ played, written ∈ frames.take s.pushed.length
  full : ∀ first ∈ played.head?, first.frame.kind = .full
  shown : ∃ shown, played[s.session.nextFrameIndex - 1]? = some shown ∧ s.host.Shows shown ∧
    (s.session.playbackFrame ≠ 0 → shown.frame.frame ≤ s.session.playbackFrame)

/-- The frames a session is to play are frames of the writer, one after the other. -/
theorem Playing.toPlay
    (h : Playing options settings (frames.take s.pushed.length) s.session s.host)
    (hpushed : s.pushed <+: frames.map WrittenFrame.frame)
    (hinv : ReplayInv s) (hkeeps : s.KeepsUp) (hactive : s.session.active = true) :
    ∃ earlier played later, ToPlay frames s (s.tick (playbackStage dirty)).session.frames earlier played later := by
  have htick : ReplayInv (s.tick (playbackStage dirty)) := hinv.tick hkeeps
  have hframes : (s.tick (playbackStage dirty)).session.frames = s.session.frames ++ s.missing :=
    hinv.tick_frames hactive
  have hrun : (s.tick (playbackStage dirty)).session.frames <:+: s.pushed := htick.gapless.run
  obtain ⟨shown, hin, hat, hshows, hpast⟩ := h.shown hactive
  have hat' : (s.tick (playbackStage dirty)).session.frames[s.session.nextFrameIndex - 1]? = some shown.frame := by
    rw [hframes, List.getElem?_append_left (List.getElem?_eq_some_iff.mp hat).1]
    exact hat
  have hsorted := hinv.sorted.sublist hrun.sublist
  have hfull : ∀ first ∈ (s.tick (playbackStage dirty)).session.frames.head?, first.kind = .full := by
    intro first hfirst
    have hne : (s.tick (playbackStage dirty)).session.frames ≠ [] := fun hnil => by rw [hnil] at hfirst; cases hfirst
    rw [htick.gapless.start hne] at hfirst
    have hstarts := (List.mem_filter.mp (List.mem_of_getLast? hfirst)).2
    simp only [startsAt, Bool.and_eq_true, beq_iff_eq] at hstarts
    exact hstarts.1
  rw [pushed_eq hpushed] at hrun
  obtain ⟨earlier, played, later, htake, hplayed⟩ := written_of_infix hrun
  have hamong : ∀ written ∈ played, written ∈ frames.take s.pushed.length := by
    intro written hw
    rw [htake]
    exact List.mem_append_left _ (List.mem_append_right _ hw)
  refine ⟨earlier, played, later ++ frames.drop s.pushed.length, ?_, hplayed, hsorted, hamong,
    fun first hfirst => ?_, ?_⟩
  · rw [← List.append_assoc, ← htake, List.take_append_drop]
  · refine hfull first.frame ?_
    rw [hplayed, List.head?_map, hfirst]
    rfl
  · rw [hplayed, List.getElem?_map, Option.map_eq_some_iff] at hat'
    obtain ⟨same, hsame, heq⟩ := hat'
    obtain rfl := hinv.written_unique hpushed (hamong same (List.mem_of_getElem? hsame)) hin heq
    exact ⟨same, hsame, hshows, hpast⟩

/-- The frames before the next one, when there are any. -/
theorem getLast?_take_of_shown {played : List WrittenFrame} {next : Nat} {shown : WrittenFrame} (hnext : next ≠ 0)
    (h : played[next - 1]? = some shown) : (played.take next).getLast? = some shown := by
  obtain ⟨n, rfl⟩ := Nat.exists_eq_succ_of_ne_zero hnext
  have hget : played[n]? = some shown := h
  rw [List.take_add_one, hget, Option.toList_some, List.getLast?_concat]

/-- Of the frames that are due, the one before the first that is not is the newest. -/
theorem due_le_newest {front rest : List WrittenFrame} {newest : WrittenFrame} {playbackFrame : SyncFrame}
    (hsorted : ((front ++ newest :: rest).map WrittenFrame.frame).Pairwise (·.frame < ·.frame))
    (hlater : ∀ first ∈ rest.head?, playbackFrame < first.frame.frame) :
    ∀ frame ∈ (front ++ newest :: rest).map WrittenFrame.frame, frame.frame ≤ playbackFrame →
      frame.frame ≤ newest.frame.frame := by
  intro frame hframe hdue
  rw [List.map_append, List.map_cons] at hsorted hframe
  obtain ⟨-, hsortedRest, hfront⟩ := List.pairwise_append.mp hsorted
  rcases List.mem_append.mp hframe with hin | hin
  · exact Nat.le_of_lt (hfront frame hin newest.frame List.mem_cons_self)
  · rcases List.mem_cons.mp hin with rfl | hin
    · exact Nat.le_refl _
    · -- what is left comes after the first frame that is not due
      cases rest with
      | nil => cases hin
      | cons first others =>
        have hlt := hlater first rfl
        rw [List.map_cons] at hin hsortedRest
        rcases List.mem_cons.mp hin with rfl | hin
        · exact absurd hdue (Nat.not_le_of_lt hlt)
        · have hnewer := (List.pairwise_cons.mp (List.pairwise_cons.mp hsortedRest).2).1 frame hin
          exact absurd hdue (Nat.not_le_of_lt (Nat.lt_trans hlt hnewer))

/-- A tick plays what is due, and then shows the newest frame that is. -/
theorem ToPlay.played {copy : List ReplicationReplayFrame} {earlier played later : List WrittenFrame}
    (h : ToPlay frames s copy earlier played later) (hrecorded : Recorded R settings frames)
    (hsound : s.host.Sound options settings)
    (hframe : s.session.playbackFrame ≠ 0) :
    ∃ front newest rest host', played = front ++ newest :: rest ∧
      ReplicationReplayStreamer.applyDueFrames (playbackStage dirty) s.session.playbackFrame
        (copy.drop s.session.nextFrameIndex)
        s.session.nextFrameIndex s.host = (true, front.length + 1, host') ∧
      host'.Sound options settings ∧ host'.Shows newest ∧ newest.frame.frame ≤ s.session.playbackFrame ∧
      (∀ frame ∈ copy, frame.frame ≤ s.session.playbackFrame → frame.frame ≤ newest.frame.frame) := by
  generalize hnext : s.session.nextFrameIndex = next
  obtain ⟨shown, hat, hshows, hpast⟩ := h.shown
  rw [hnext] at hat
  have hlen : (played.take next).length = next := by
    have hlt := (List.getElem?_eq_some_iff.mp hat).1
    rw [List.length_take]
    omega
  have hready : ∀ first ∈ (played.drop next).head?, first.frame.kind = .full ∨
      ∃ last ∈ (earlier ++ played.take next).getLast?, s.host.Shows last := by
    intro first hfirst
    by_cases hzero : next = 0
    case pos =>
      rw [hzero, List.drop_zero] at hfirst
      exact .inl (h.full first hfirst)
    case neg =>
      refine .inr ⟨shown, ?_, hshows⟩
      rw [List.getLast?_append, getLast?_take_of_shown hzero hat]
      rfl
  obtain ⟨applied, rest, host', hdue, hrun, hhost', hle, hlater, hlast, hnone⟩ :=
    hrecorded.applyDueFrames dirty s.session.playbackFrame (played.drop next) (earlier ++ played.take next)
      later next s.host
      (by rw [h.written, List.append_assoc earlier (played.take next), List.take_append_drop]) hsound hready
  have hplayed : played = (played.take next ++ applied) ++ rest := by
    rw [List.append_assoc, ← hdue, List.take_append_drop]
  -- the newest frame is the last one applied, or the one that was shown before
  have hnewest : ∃ newest, (played.take next ++ applied).getLast? = some newest ∧ host'.Shows newest ∧
      newest.frame.frame ≤ s.session.playbackFrame := by
    cases hget : applied.getLast? with
    | some last =>
      refine ⟨last, ?_, hlast last hget, hle last (List.mem_of_getLast? hget)⟩
      rw [List.getLast?_append, hget]
      rfl
    | none =>
      obtain rfl : applied = [] := List.getLast?_eq_none_iff.mp hget
      rw [List.append_nil]
      have hnonzero : next ≠ 0 := by
        intro hzero
        subst hzero
        rw [List.take_zero, List.nil_append, List.nil_append] at hplayed
        rw [hplayed] at hat
        have hlt := hlater shown (by rw [List.head?_eq_getElem?]; exact hat)
        exact Nat.lt_irrefl _ (Nat.lt_of_lt_of_le hlt (hpast hframe))
      refine ⟨shown, getLast?_take_of_shown hnonzero hat, ?_, hpast hframe⟩
      rw [hnone rfl]
      exact hshows
  obtain ⟨newest, hget, hshowsNewest, hpastNewest⟩ := hnewest
  obtain ⟨front, hfront⟩ := List.getLast?_eq_some_iff.mp hget
  have hparts : played = front ++ newest :: rest := by
    rw [hplayed, hfront, List.append_assoc]
    rfl
  have hlength : next + applied.length = front.length + 1 := by
    have hlengths := congrArg List.length hfront
    rwa [List.length_append, hlen, List.length_append, List.length_singleton] at hlengths
  refine ⟨front, newest, rest, host', hparts, ?_, hhost', hshowsNewest, hpastNewest, ?_⟩
  · rw [h.copied, ← List.map_drop, hrun, hlength]
  · have hsorted := h.sorted
    rw [h.copied, hparts] at hsorted ⊢
    exact due_le_newest hsorted hlater

end

section

variable {R : Type} [ReplayRegistry R] {settings : SyncSettings} {options : ReplicationServerOptions}
  {frames : List WrittenFrame}
  {s : ReplayRun (ReplayHost R)} (dirty : ReplayWorld R → DirtyView)

omit [ReplayRegistry R] in
/-- The first frame of a session's copy is a full frame that was pushed. -/
theorem begun_first (hinv : ReplayInv s) {focusFrame endFrame : SyncFrame} {first : ReplicationReplayFrame}
    {rest : List ReplicationReplayFrame} (hstart : s.streamer.findStartFrame focusFrame < s.streamer.count)
    (hcopy : (s.streamer.stored.drop (s.streamer.findStartFrame focusFrame)).takeWhile
      (fun frame => decide (frame.frame ≤ endFrame)) = first :: rest) :
    first.kind = .full ∧ first ∈ s.pushed := by
  have hhead := head?_takeWhile (l := s.streamer.stored.drop (s.streamer.findStartFrame focusFrame))
    (p := fun frame => decide (frame.frame ≤ endFrame)) (by rw [hcopy]; exact List.cons_ne_nil _ _)
  rw [hcopy, findStartFrame_spec hstart] at hhead
  obtain ⟨hstored, hstarts⟩ := List.mem_filter.mp (List.mem_of_getLast? hhead.symm)
  simp only [startsAt, Bool.and_eq_true, beq_iff_eq] at hstarts
  exact ⟨hstarts.1, hinv.ring.stored_suffix.subset hstored⟩

theorem Playing.begin (h : Playing options settings (frames.take s.pushed.length) s.session s.host)
    (hrecorded : Recorded R settings frames) (hpushed : s.pushed <+: frames.map WrittenFrame.frame)
    (hinv : ReplayInv s) (focusFrame : SyncFrame) :
    let r := s.streamer.beginSession (playbackStage dirty) focusFrame s.session s.host
    Playing options settings (frames.take s.pushed.length) r.2.1 r.2.2 := by
  have hidle : ∀ {host : ReplayHost R}, host.Sound options settings →
      Playing options settings (frames.take s.pushed.length) {} host :=
    fun hsound => ⟨hsound, fun hactive => (by cases hactive), fun hactive => (by cases hactive)⟩
  dsimp only
  generalize hr : s.streamer.beginSession (playbackStage dirty) focusFrame s.session s.host = r
  unfold beginSession at hr
  split at hr
  · exact hr ▸ h
  dsimp only at hr
  split at hr
  · exact hr ▸ h
  rename_i hstart
  have hforgotten : ((playbackStage dirty).forgetEntities s.host).Sound options settings := h.sound.forget dirty
  split at hr
  · exact hr ▸ hidle (hforgotten.forget dirty)
  rename_i first rest hcopy
  obtain ⟨hfull, hfirst⟩ := begun_first hinv (Nat.not_le.mp hstart) hcopy
  obtain ⟨written, hwritten, rfl⟩ := List.mem_map.mp (pushed_eq hpushed ▸ hfirst)
  obtain ⟨earlier, later, hframes⟩ := List.append_of_mem (List.mem_of_mem_take hwritten)
  obtain ⟨host₁, happlied, hsound₁, hshows₁⟩ := hrecorded.applied hframes hforgotten (.inl hfull) false
  have hstage : (playbackStage dirty).applyFrame written.frame false ((playbackStage dirty).forgetEntities s.host) =
      (true, host₁) := happlied
  rw [hstage, hcopy] at hr
  dsimp only at hr
  have hsound₂ := hsound₁.rediscover dirty
  have hshows₂ : ((playbackStage dirty).rediscoverAllReplicatedEntities host₁).Shows written :=
    hshows₁.congr (rediscover_same host₁.world).1 (rediscover_same host₁.world).2
  have hsound₃ := hsound₂.setFrame dirty written.frame.frame
  have hshows₃ : ((playbackStage dirty).setFrameWithoutBroadcast written.frame.frame
      ((playbackStage dirty).rediscoverAllReplicatedEntities host₁)).2.Shows written :=
    hshows₂.congr (setFrameWithoutBroadcast_same _ _).1 (setFrameWithoutBroadcast_same _ _).2
  split at hr
  · rename_i host₂ hset
    rw [hset] at hsound₃
    exact hr ▸ hidle (hsound₃.forget dirty)
  · rename_i host₂ hset
    rw [hset] at hsound₃ hshows₃
    exact hr ▸ ⟨hsound₃, fun _ => ⟨written, hwritten, rfl, hshows₃, fun _ => Nat.le_refl _⟩,
      fun _ => Nat.mod_lt _ (by decide)⟩

end

/-! ## Ticks -/

section

variable {σ : Type} (stage : ReplayStage σ)

theorem appendAvailableFrames_eq (streamer : ReplicationReplayStreamer) (session : ReplicationReplayStreamSession) :
    streamer.appendAvailableFrames session =
      { session with frames := (streamer.appendAvailableFrames session).frames } := by
  unfold appendAvailableFrames
  split <;> rfl

/-- A tick whose due frames are all applied ends with the tick of the replay server. -/
theorem tick_played {s : ReplayRun σ} (hactive : s.session.active = true) (hzero : s.session.playbackFrame ≠ 0)
    (hend : s.session.playbackFrame ≤ s.session.endFrame) {next : Nat} {host' : σ}
    (hrun : applyDueFrames stage s.session.playbackFrame
      ((s.tick stage).session.frames.drop s.session.nextFrameIndex) s.session.nextFrameIndex s.host =
        (true, next, host')) :
    let r := stage.advanceFrameWithoutSimulating s.session.playbackFrame host'
    (s.tick stage).host = r.2 ∧ (s.tick stage).session.active = r.1 ∧ (r.1 = true →
      (s.tick stage).session.nextFrameIndex = next ∧
      (s.tick stage).session.playbackFrame = (s.session.playbackFrame + 1) % 2 ^ 32) := by
  have hframes := (tickSession_frames stage s.streamer s.session s.host).2
  rw [if_pos hactive] at hframes
  change (s.tick stage).session.frames = _ at hframes
  rw [hframes] at hrun
  have hrange : ¬(s.session.playbackFrame = 0 ∨ s.session.playbackFrame > s.session.endFrame) :=
    not_or.mpr ⟨hzero, Nat.not_lt.mpr hend⟩
  unfold ReplayRun.tick tickSession
  rw [if_neg (not_not.mpr hactive), appendAvailableFrames_eq]
  dsimp only
  rw [if_neg hrange, hrun]
  dsimp only
  split
  · rename_i host₂ hadvance
    rw [hadvance]
    exact ⟨rfl, rfl, fun h => (by cases h)⟩
  · rename_i host₂ hadvance
    rw [hadvance]
    exact ⟨rfl, hactive, fun _ => ⟨rfl, rfl⟩⟩

end

/-! ## Runs of a session -/

section

variable {R : Type} [ReplayRegistry R] {settings : SyncSettings} {options : ReplicationServerOptions}
  {frames : List WrittenFrame} {s : ReplayRun (ReplayHost R)} (dirty : ReplayWorld R → DirtyView)

/-- After a tick the host shows the newest of the frames that are due. -/
structure UpToDate (frames : List WrittenFrame) (playbackFrame : SyncFrame) (s : ReplayRun (ReplayHost R))
    (newest : WrittenFrame) : Prop where
  written : newest ∈ frames
  copied : newest.frame ∈ s.session.frames
  due : newest.frame.frame ≤ playbackFrame
  last : ∀ frame ∈ s.session.frames, frame.frame ≤ playbackFrame → frame.frame ≤ newest.frame.frame
  shows : s.host.Shows newest

/-- What a tick does while the playback frame is not past the end. -/
theorem Playing.tick_inRange (h : Playing options settings (frames.take s.pushed.length) s.session s.host)
    (hrecorded : Recorded R settings frames) (hpushed : s.pushed <+: frames.map WrittenFrame.frame)
    (hinv : ReplayInv s) (hkeeps : s.KeepsUp) (hactive : s.session.active = true)
    (hzero : s.session.playbackFrame ≠ 0) (hend : s.session.playbackFrame ≤ s.session.endFrame) :
    (∃ newest, UpToDate (frames.take s.pushed.length) s.session.playbackFrame (s.tick (playbackStage dirty))
      newest) ∧
    Playing options settings (frames.take s.pushed.length) (s.tick (playbackStage dirty)).session
      (s.tick (playbackStage dirty)).host ∧
    ((s.tick (playbackStage dirty)).session.active = false →
      (s.tick (playbackStage dirty)).host.world.thrown.isSome) := by
  obtain ⟨earlier, played, later, htoPlay⟩ := h.toPlay dirty hpushed hinv hkeeps hactive
  obtain ⟨front, newest, rest, host', hplayed, hrun, hsound, hshows, hdue, hnewest⟩ :=
    htoPlay.played dirty hrecorded h.sound hzero
  obtain ⟨hhost, hactive', hnext⟩ := tick_played (playbackStage dirty) hactive hzero hend hrun
  have hamong : newest ∈ frames.take s.pushed.length := by
    refine htoPlay.among newest ?_
    rw [hplayed]
    exact List.mem_append_right _ List.mem_cons_self
  have hat : (s.tick (playbackStage dirty)).session.frames[front.length]? = some newest.frame := by
    rw [htoPlay.copied, hplayed, List.getElem?_map, List.getElem?_append_right (Nat.le_refl _), Nat.sub_self]
    rfl
  have hshows' : (s.tick (playbackStage dirty)).host.Shows newest := by
    rw [hhost]
    exact hshows.congr (advanceFrameWithoutSimulating_same dirty _ _).1 (advanceFrameWithoutSimulating_same dirty _ _).2
  refine ⟨⟨newest, hamong, List.mem_of_getElem? hat, hdue, hnewest, hshows'⟩,
    ⟨?_, fun hstays => ?_, fun _ => ?_⟩, fun hstops => ?_⟩
  · rw [hhost]
    exact hsound.advance dirty _
  · obtain ⟨hindex, hplayback⟩ := hnext (hactive' ▸ hstays)
    refine ⟨newest, hamong, by rw [hindex]; exact hat, hshows', fun hnonzero => ?_⟩
    rw [hplayback] at hnonzero ⊢
    have hbound := h.bounded hactive
    rcases Nat.lt_or_ge (s.session.playbackFrame + 1) (2 ^ 32) with hlt | hge
    · rw [Nat.mod_eq_of_lt hlt]
      exact Nat.le_succ_of_le hdue
    · have hwrap : s.session.playbackFrame + 1 = 2 ^ 32 :=
        Nat.le_antisymm (Nat.succ_le_of_lt (Nat.lt_of_le_of_lt hend hbound)) hge
      rw [hwrap, Nat.mod_self] at hnonzero
      exact absurd rfl hnonzero
  · rw [tick_endFrame]
    exact h.bounded hactive
  · rw [hactive'] at hstops
    rw [hhost]
    exact advance_stops dirty hzero hstops

theorem Playing.mono {written written' : List WrittenFrame} {session : ReplicationReplayStreamSession}
    {host : ReplayHost R} (h : Playing options settings written session host) (hsub : written ⊆ written') :
    Playing options settings written' session host where
  sound := h.sound
  shown hactive := by
    obtain ⟨shown, hin, hshown⟩ := h.shown hactive
    exact ⟨shown, hsub hin, hshown⟩
  bounded := h.bounded

/-- A tick that is out of range only ends the session. -/
theorem Playing.tick_outOfRange (h : Playing options settings (frames.take s.pushed.length) s.session s.host)
    (hout : ¬(s.session.active = true ∧ s.session.playbackFrame ≠ 0 ∧
      s.session.playbackFrame ≤ s.session.endFrame)) :
    Playing options settings (frames.take s.pushed.length) (s.tick (playbackStage dirty)).session
      (s.tick (playbackStage dirty)).host := by
  obtain ⟨hstops, hhost⟩ : (s.tick (playbackStage dirty)).session.active = false ∧
      (s.tick (playbackStage dirty)).host = s.host := by
    unfold ReplayRun.tick tickSession
    by_cases hactive : s.session.active = true
    case neg =>
      rw [if_pos hactive]
      exact ⟨rfl, rfl⟩
    case pos =>
      have hrange : s.session.playbackFrame = 0 ∨ s.session.playbackFrame > s.session.endFrame := by
        by_contra hrange
        obtain ⟨hzero, hend⟩ := not_or.mp hrange
        exact hout ⟨hactive, hzero, Nat.not_lt.mp hend⟩
      rw [if_neg (not_not.mpr hactive), appendAvailableFrames_eq]
      dsimp only
      rw [if_pos hrange]
      exact ⟨rfl, rfl⟩
  exact ⟨hhost ▸ h.sound, fun hactive => (by rw [hstops] at hactive; cases hactive),
    fun hactive => (by rw [hstops] at hactive; cases hactive)⟩

/-- The session plays in every run in which what is pushed is what the writer wrote. -/
theorem Playing.reach (hrecorded : Recorded R settings frames) {host : ReplayHost R}
    (hhost : host.Sound options settings) {streamerOptions : ReplicationReplayStreamerOptions}
    (hs : ReplayReach (playbackStage dirty) ReplayRun.KeepsUp streamerOptions host s) :
    s.pushed <+: frames.map WrittenFrame.frame →
      Playing options settings (frames.take s.pushed.length) s.session s.host := by
  induction hs with
  | refl => exact fun _ => ⟨hhost, fun hactive => (by cases hactive), fun hactive => (by cases hactive)⟩
  | @tail t _ hreach hstep ih =>
    intro hpushed
    have hinv := ReplayInv.reach hreach
    cases hstep with
    | push frame =>
      have hearlier : t.pushed <+: frames.map WrittenFrame.frame := (List.prefix_append _ _).trans hpushed
      refine (ih hearlier).mono (List.take_prefix_take_left ?_).subset
      simp [ReplayRun.push]
    | begin focusFrame => exact (ih hpushed).begin dirty hrecorded hpushed hinv focusFrame
    | tick hkeeps =>
      by_cases hrange : t.session.active = true ∧ t.session.playbackFrame ≠ 0 ∧
          t.session.playbackFrame ≤ t.session.endFrame
      case pos =>
        obtain ⟨hactive, hzero, hend⟩ := hrange
        exact ((ih hpushed).tick_inRange dirty hrecorded hpushed hinv hkeeps hactive hzero hend).2.1
      case neg => exact (ih hpushed).tick_outOfRange dirty hrange

end

/-! ## A frame late -/

namespace Sample

end Sample

end AshiatoSync
