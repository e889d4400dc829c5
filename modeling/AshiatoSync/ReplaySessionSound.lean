import AshiatoSync.ReplayStreamer
import Mathlib.Logic.Relation
import Mathlib.Data.List.TakeWhile

/-!
# Replay sessions over whole runs

The ring holds the last pushed frames, and a session's copy is a run of the
pushed sequence as long as no frame it still needs leaves the ring before a tick
copies it.
-/

namespace AshiatoSync

open ReplicationReplayStreamer

/-- A streamer, one session on it, and every frame pushed so far; `opened` is what the session began on. -/
structure ReplayRun (σ : Type) where
  streamer : ReplicationReplayStreamer
  session : ReplicationReplayStreamSession := {}
  host : σ
  pushed : List ReplicationReplayFrame := []
  opened : List ReplicationReplayFrame × SyncFrame := ([], 0)

namespace ReplayRun

variable {σ : Type}

def push (s : ReplayRun σ) (frame : ReplicationReplayFrame) : ReplayRun σ :=
  { s with streamer := s.streamer.pushFrame frame, pushed := s.pushed ++ [frame] }

def open' (stage : ReplayStage σ) (s : ReplayRun σ) (focusFrame : SyncFrame) : ReplayRun σ :=
  let r := s.streamer.beginSession stage focusFrame s.session s.host
  { s with session := r.2.1
           host := r.2.2
           opened := if r.1 then (s.streamer.stored, focusFrame) else s.opened }

def tick (stage : ReplayStage σ) (s : ReplayRun σ) : ReplayRun σ :=
  let r := s.streamer.tickSession stage s.session s.host
  { s with session := r.2.1, host := r.2.2 }

def Needs (s : ReplayRun σ) (frame : ReplicationReplayFrame) : Prop :=
  ∃ last ∈ s.session.frames.getLast?, last.frame < frame.frame ∧ frame.frame ≤ s.session.endFrame

/-- The ring still has every pushed frame the session needs, or has none of them. -/
def KeepsUp (s : ReplayRun σ) : Prop :=
  s.session.active = true →
    (∀ frame ∈ s.pushed, s.Needs frame → frame ∈ s.streamer.stored) ∨
    ∀ frame ∈ s.streamer.stored, ¬s.Needs frame

/-- The stored frames are the last `max_frames` pushed ones. -/
def StoresNewest (s : ReplayRun σ) : Prop :=
  s.streamer.stored =
    if s.streamer.options.maxFrames = 0 then s.pushed
    else s.pushed.drop (s.pushed.length - min s.pushed.length s.streamer.options.maxFrames)

/-- The session's copy is a contiguous run of the pushed sequence, from the right full frame on. -/
structure Gapless (s : ReplayRun σ) : Prop where
  run : s.session.frames <:+: s.pushed
  nodup : s.session.frames.Nodup
  upToEnd : ∀ frame ∈ s.session.frames, frame.frame ≤ s.session.endFrame
  start : s.session.frames ≠ [] →
    s.session.frames.head? =
      (s.opened.1.filter (startsAt (startTarget s.streamer.options s.opened.2))).getLast?

end ReplayRun

section
variable {σ : Type} (stage : ReplayStage σ) (may : ReplayRun σ → Prop)

inductive ReplayStep : ReplayRun σ → ReplayRun σ → Prop
  | push (s) (frame : ReplicationReplayFrame) (increasing : ∀ earlier ∈ s.pushed, earlier.frame < frame.frame) :
    ReplayStep s (s.push frame)
  | begin (s) (focusFrame : SyncFrame) : ReplayStep s (s.open' stage focusFrame)
  | tick (s) (ready : may s) : ReplayStep s (s.tick stage)

def ReplayReach (options : ReplicationReplayStreamerOptions) (host : σ) : ReplayRun σ → Prop :=
  Relation.ReflTransGen (ReplayStep stage may) { streamer := ReplicationReplayStreamer.new options, host }

end

/-! ## The ring -/

section
variable {σ : Type}

structure RingInv (s : ReplayRun σ) : Prop where
  unbounded : s.streamer.options.maxFrames = 0 →
    s.streamer.frames = s.pushed ∧ s.streamer.head = 0 ∧ s.streamer.count = s.pushed.length
  bounded : s.streamer.options.maxFrames ≠ 0 →
    s.streamer.frames.length = s.streamer.options.maxFrames ∧
    s.streamer.count = min s.pushed.length s.streamer.options.maxFrames ∧
    Ring.contents s.streamer.frames s.streamer.head s.streamer.count =
      s.pushed.drop (s.pushed.length - s.streamer.count)

theorem stored_eq_contents (streamer : ReplicationReplayStreamer) :
    streamer.stored = Ring.contents streamer.frames streamer.head streamer.count := rfl

theorem RingInv.storesNewest {s : ReplayRun σ} (h : RingInv s) : s.StoresNewest := by
  unfold ReplayRun.StoresNewest
  split
  case isTrue h0 =>
    obtain ⟨hframes, hhead, hcount⟩ := h.unbounded h0
    rw [stored_eq_contents, hframes, hhead, hcount, Ring.contents_zero]
  case isFalse h0 =>
    obtain ⟨-, hcount, hcontents⟩ := h.bounded h0
    rw [stored_eq_contents, hcontents, hcount]

@[simp] theorem pushFrame_options (streamer : ReplicationReplayStreamer) (frame : ReplicationReplayFrame) :
    (streamer.pushFrame frame).options = streamer.options := by
  unfold pushFrame
  split
  · rfl
  · dsimp only
    split <;> rfl

theorem pushFrame_room {streamer : ReplicationReplayStreamer} (frame : ReplicationReplayFrame)
    (h0 : streamer.options.maxFrames ≠ 0) (h : streamer.count < streamer.frames.length) :
    streamer.pushFrame frame =
      { streamer with
        frames := streamer.frames.set ((streamer.head + streamer.count) % streamer.frames.length) frame
        count := streamer.count + 1 } := by
  simp [pushFrame, h0, h]

theorem pushFrame_full {streamer : ReplicationReplayStreamer} (frame : ReplicationReplayFrame)
    (h0 : streamer.options.maxFrames ≠ 0) (h : streamer.count = streamer.frames.length) :
    streamer.pushFrame frame =
      { streamer with
        frames := streamer.frames.set ((streamer.head + streamer.frames.length) % streamer.frames.length) frame
        head := (streamer.head + 1) % streamer.frames.length } := by
  simp [pushFrame, h0, h]

theorem RingInv.push {s : ReplayRun σ} (h : RingInv s) (frame : ReplicationReplayFrame) : RingInv (s.push frame) := by
  by_cases h0 : s.streamer.options.maxFrames = 0
  case pos =>
    obtain ⟨hframes, hhead, hcount⟩ := h.unbounded h0
    refine ⟨fun _ => ?_, fun hne => absurd ?_ hne⟩
    · simp [ReplayRun.push, pushFrame, h0, hframes, hhead]
    · simp [ReplayRun.push, h0]
  case neg =>
    obtain ⟨hlen, hcount, hcontents⟩ := h.bounded h0
    refine ⟨fun heq => absurd (by simpa [ReplayRun.push] using heq) h0, fun _ => ?_⟩
    by_cases hroom : s.streamer.count < s.streamer.frames.length
    case pos =>
      have hall : s.streamer.count = s.pushed.length := by omega
      simp only [ReplayRun.push, pushFrame_room frame h0 hroom, List.length_set, List.length_append,
        List.length_singleton]
      refine ⟨hlen, by omega, ?_⟩
      rw [Ring.contents_push hroom, hcontents, hall]
      simp
    case neg =>
      have hfull : s.streamer.count = s.streamer.frames.length := by omega
      simp only [ReplayRun.push, pushFrame_full frame h0 hfull, List.length_set, List.length_append,
        List.length_singleton]
      refine ⟨hlen, by omega, ?_⟩
      rw [hfull] at hcontents
      rw [hfull, Ring.contents_push_full (by omega), hcontents, List.tail_drop,
        List.drop_append_of_le_length (by omega)]
      congr 2
      omega

end

/-! ## What a begin and a tick copy -/

theorem foldl_lastIndex (p : Nat → Bool) (d : Nat) : ∀ n,
    let start := (List.range n).foldl (fun start i => if p i then i else start) d
    (start = d ∧ ∀ j < n, p j = false) ∨
      (start < n ∧ p start = true ∧ ∀ j, start < j → j < n → p j = false)
  | 0 => .inl ⟨rfl, by simp⟩
  | n + 1 => by
    simp only [List.range_succ, List.foldl_append, List.foldl_cons, List.foldl_nil]
    by_cases hp : p n = true
    case pos =>
      rw [if_pos hp]
      exact .inr ⟨by omega, hp, fun j hj hj' => absurd hj' (by omega)⟩
    case neg =>
      rw [if_neg hp]
      have hp : p n = false := by simpa using hp
      rcases foldl_lastIndex p d n with ⟨heq, hnone⟩ | ⟨hlt, hstart, hlater⟩
      · refine .inl ⟨heq, fun j hj => ?_⟩
        rcases Nat.lt_succ_iff_lt_or_eq.mp hj with hj | rfl
        · exact hnone j hj
        · exact hp
      · refine .inr ⟨by omega, hstart, fun j hj hj' => ?_⟩
        rcases Nat.lt_succ_iff_lt_or_eq.mp hj' with hj' | rfl
        · exact hlater j hj hj'
        · exact hp

theorem filter_getLast {α : Type*} {p : α → Bool} {l : List α} {i : Nat} (hi : i < l.length) (hp : p l[i] = true)
    (hlater : ∀ j (h : j < l.length), i < j → p l[j] = false) : (l.filter p).getLast? = some l[i] := by
  have hsplit : l = l.take i ++ l[i] :: l.drop (i + 1) := by simp
  have hrest : (l.drop (i + 1)).filter p = [] := by
    simp only [List.filter_eq_nil_iff, List.mem_iff_getElem]
    rintro x ⟨k, hk, rfl⟩
    have hk' : k < l.length - (i + 1) := by simpa using hk
    rw [List.getElem_drop, hlater (i + 1 + k) (by omega) (by omega)]
    simp
  have hfilter : l.filter p = (l.take i).filter p ++ [l[i]] := by
    conv_lhs => rw [hsplit]
    rw [List.filter_append, List.filter_cons_of_pos hp, hrest]
  rw [hfilter, List.getLast?_concat]

theorem findStartFrame_spec {streamer : ReplicationReplayStreamer} {focusFrame : SyncFrame}
    (h : streamer.findStartFrame focusFrame < streamer.count) :
    (streamer.stored.drop (streamer.findStartFrame focusFrame)).head? =
      (streamer.stored.filter (startsAt (startTarget streamer.options focusFrame))).getLast? := by
  have hlen : streamer.stored.length = streamer.count := by simp [stored]
  have hget : ∀ j (hj : j < streamer.stored.length), streamer.stored[j] = streamer.frameAt j := by
    intro j hj
    simp [stored]
  obtain ⟨heq, -⟩ | ⟨-, hstart, hlater⟩ := foldl_lastIndex
    (fun i => startsAt (startTarget streamer.options focusFrame) (streamer.frameAt i)) streamer.count streamer.count
  · change streamer.findStartFrame focusFrame = _ at heq
    omega
  · change startsAt _ (streamer.frameAt (streamer.findStartFrame focusFrame)) = true at hstart
    rw [filter_getLast (i := streamer.findStartFrame focusFrame) (by omega) (by rw [hget]; exact hstart)
      (fun j hj hij => by rw [hget]; exact hlater j hij (by omega)),
      List.head?_drop, List.getElem?_eq_getElem (by omega)]

theorem foldl_append_newer (endFrame : SyncFrame) : ∀ (frames copy : List ReplicationReplayFrame) (last : SyncFrame),
    frames.Pairwise (·.frame < ·.frame) →
    (frames.foldl
      (fun acc frame =>
        if frame.frame ≤ acc.2 ∨ frame.frame > endFrame then acc else (acc.1 ++ [frame], frame.frame))
      (copy, last)).1 =
    copy ++ frames.filter fun frame => decide (last < frame.frame ∧ frame.frame ≤ endFrame)
  | [], copy, last, _ => by simp
  | frame :: frames, copy, last, h => by
    obtain ⟨hall, hrest⟩ := List.pairwise_cons.mp h
    by_cases hskip : frame.frame ≤ last ∨ frame.frame > endFrame
    case pos =>
      rw [List.foldl_cons, if_pos hskip, foldl_append_newer endFrame frames copy last hrest,
        List.filter_cons_of_neg (by simp only [decide_eq_true_eq]; grind)]
    case neg =>
      rw [List.foldl_cons, if_neg hskip, foldl_append_newer endFrame frames _ frame.frame hrest,
        List.filter_cons_of_pos (by simp only [decide_eq_true_eq]; grind)]
      have hsame : frames.filter (fun f => decide (frame.frame < f.frame ∧ f.frame ≤ endFrame)) =
          frames.filter fun f => decide (last < f.frame ∧ f.frame ≤ endFrame) := by
        apply List.filter_congr
        intro f hf
        have hnewer := hall f hf
        simp only [decide_eq_decide]
        grind
      rw [hsame, List.append_assoc, List.singleton_append]

/-! ## Runs -/

section
variable {σ : Type} {stage : ReplayStage σ}

structure ReplayInv (s : ReplayRun σ) : Prop where
  ring : RingInv s
  sorted : s.pushed.Pairwise (·.frame < ·.frame)
  gapless : s.Gapless

theorem RingInv.stored_suffix {s : ReplayRun σ} (h : RingInv s) : s.streamer.stored <:+ s.pushed := by
  rw [h.storesNewest]
  split
  · exact List.suffix_rfl
  · exact List.drop_suffix _ _

theorem ReplayInv.stored_sorted {s : ReplayRun σ} (h : ReplayInv s) :
    s.streamer.stored.Pairwise (·.frame < ·.frame) :=
  h.sorted.sublist h.ring.stored_suffix.sublist

theorem nodup_of_increasing {frames : List ReplicationReplayFrame} (h : frames.Pairwise (·.frame < ·.frame)) :
    frames.Nodup :=
  h.imp fun hlt heq => by simp [heq] at hlt

theorem ReplayInv.push {s : ReplayRun σ} (h : ReplayInv s) {frame : ReplicationReplayFrame}
    (hnew : ∀ earlier ∈ s.pushed, earlier.frame < frame.frame) : ReplayInv (s.push frame) where
  ring := h.ring.push frame
  sorted := by
    simp only [ReplayRun.push, List.pairwise_append, List.pairwise_singleton, List.mem_singleton]
    exact ⟨h.sorted, trivial, fun earlier he _ hf => hf ▸ hnew earlier he⟩
  gapless :=
    { run := h.gapless.run.trans (List.prefix_append _ _).isInfix
      nodup := h.gapless.nodup
      upToEnd := h.gapless.upToEnd
      start := by simpa [ReplayRun.push] using h.gapless.start }

theorem RingInv.congr {s s' : ReplayRun σ} (h : RingInv s) (hs : s'.streamer = s.streamer)
    (hp : s'.pushed = s.pushed) :
    RingInv s' := by
  constructor
  · rw [hs, hp]
    exact h.unbounded
  · rw [hs, hp]
    exact h.bounded

/-- A begin leaves the session, empties it, or copies a run of the stored frames. -/
theorem beginSession_cases (stage : ReplayStage σ) (streamer : ReplicationReplayStreamer) (focusFrame : SyncFrame)
    (session : ReplicationReplayStreamSession) (host : σ) :
    let r := streamer.beginSession stage focusFrame session host
    (r.1 = false ∧ (r.2.1 = session ∨ r.2.1 = {})) ∨
    (r.1 = true ∧ streamer.findStartFrame focusFrame < streamer.count ∧
      r.2.1.endFrame = (focusFrame + streamer.options.tailFrames) % 2 ^ 32 ∧
      r.2.1.frames = (streamer.stored.drop (streamer.findStartFrame focusFrame)).takeWhile
        fun frame => decide (frame.frame ≤ (focusFrame + streamer.options.tailFrames) % 2 ^ 32)) := by
  dsimp only
  unfold beginSession
  split
  case isTrue => exact .inl ⟨rfl, .inl rfl⟩
  case isFalse =>
    dsimp only
    split
    case isTrue => exact .inl ⟨rfl, .inl rfl⟩
    case isFalse hstart =>
      split
      case h_1 => exact .inl ⟨rfl, .inr rfl⟩
      case h_2 first rest hframes =>
        rcases stage.applyFrame first false (stage.forgetEntities host) with ⟨_ | _, host⟩
        case false => exact .inl ⟨rfl, .inr rfl⟩
        case true =>
          dsimp only
          rcases stage.setFrameWithoutBroadcast first.frame (stage.rediscoverAllReplicatedEntities host) with
            ⟨_ | _, host⟩
          case false => exact .inl ⟨rfl, .inr rfl⟩
          case true => exact .inr ⟨rfl, Nat.lt_of_not_ge hstart, rfl, rfl⟩

theorem head?_takeWhile {α : Type*} {p : α → Bool} : ∀ {l : List α}, l.takeWhile p ≠ [] →
    (l.takeWhile p).head? = l.head?
  | [], h => absurd rfl h
  | a :: l, h => by
    by_cases hp : p a = true
    · simp [hp]
    · simp [hp] at h

theorem ReplayInv.begin {s : ReplayRun σ} (h : ReplayInv s) (focusFrame : SyncFrame) :
    ReplayInv (s.open' stage focusFrame) where
  ring := h.ring.congr rfl rfl
  sorted := h.sorted
  gapless := by
    rcases beginSession_cases stage s.streamer focusFrame s.session s.host with
      ⟨hok, hsame | hempty⟩ | ⟨hok, hstart, hend, hframes⟩
    · constructor
      · simpa [ReplayRun.open', hok, hsame] using h.gapless.run
      · simpa [ReplayRun.open', hok, hsame] using h.gapless.nodup
      · simpa [ReplayRun.open', hok, hsame] using h.gapless.upToEnd
      · simpa [ReplayRun.open', hok, hsame] using h.gapless.start
    · constructor <;> simp [ReplayRun.open', hempty]
    · have hinitial : (s.open' stage focusFrame).session.frames <+:
          s.streamer.stored.drop (s.streamer.findStartFrame focusFrame) := by
        simp only [ReplayRun.open']
        rw [hframes]
        exact List.takeWhile_prefix _
      have hwithin := hinitial.isInfix.trans (List.drop_suffix _ _).isInfix
      refine ⟨hwithin.trans h.ring.stored_suffix.isInfix,
        nodup_of_increasing (h.stored_sorted.sublist hwithin.sublist), ?_, fun hne => ?_⟩
      · intro frame hf
        simp only [ReplayRun.open'] at hf ⊢
        rw [hframes] at hf
        rw [hend]
        simpa using List.mem_takeWhile_imp hf
      · simp only [ReplayRun.open', hok, if_true] at hne ⊢
        rw [← findStartFrame_spec hstart, hframes]
        rw [hframes] at hne
        exact head?_takeWhile hne

theorem tickSession_frames (stage : ReplayStage σ) (streamer : ReplicationReplayStreamer)
    (session : ReplicationReplayStreamSession) (host : σ) :
    let r := streamer.tickSession stage session host
    r.2.1.endFrame = session.endFrame ∧
    r.2.1.frames =
      if session.active = true then (streamer.appendAvailableFrames session).frames else session.frames := by
  have hend : (streamer.appendAvailableFrames session).endFrame = session.endFrame := by
    unfold appendAvailableFrames
    split <;> rfl
  dsimp only
  unfold tickSession
  by_cases hactive : session.active = true
  case pos =>
    rw [if_neg (by simpa using hactive), if_pos hactive]
    dsimp only
    split
    · exact ⟨hend, rfl⟩
    · split
      · exact ⟨hend, rfl⟩
      · split <;> exact ⟨hend, rfl⟩
  case neg =>
    rw [if_pos (by simpa using hactive), if_neg hactive]
    exact ⟨rfl, rfl⟩

theorem tick_endFrame (s : ReplayRun σ) : (s.tick stage).session.endFrame = s.session.endFrame :=
  (tickSession_frames stage s.streamer s.session s.host).1

theorem tick_inactive {s : ReplayRun σ} (h : s.session.active ≠ true) :
    (s.tick stage).session.frames = s.session.frames := by
  have hframes := (tickSession_frames stage s.streamer s.session s.host).2
  rwa [if_neg h] at hframes

def ReplayRun.missing (s : ReplayRun σ) : List ReplicationReplayFrame :=
  match s.session.frames.getLast? with
  | none => []
  | some last => s.streamer.stored.filter fun f => decide (last.frame < f.frame ∧ f.frame ≤ s.session.endFrame)

theorem ReplayInv.tick_frames {s : ReplayRun σ} (h : ReplayInv s) (hactive : s.session.active = true) :
    (s.tick stage).session.frames = s.session.frames ++ s.missing := by
  have hframes := (tickSession_frames stage s.streamer s.session s.host).2
  rw [if_pos hactive] at hframes
  change (s.tick stage).session.frames = _ at hframes
  rw [hframes, appendAvailableFrames, ReplayRun.missing]
  cases s.session.frames.getLast? with
  | none => simp
  | some last => exact foldl_append_newer s.session.endFrame s.streamer.stored s.session.frames _ h.stored_sorted

theorem mem_missing {s : ReplayRun σ} {last frame : ReplicationReplayFrame}
    (hlast : s.session.frames.getLast? = some last) :
    frame ∈ s.missing ↔ frame ∈ s.streamer.stored ∧ s.Needs frame := by
  simp [ReplayRun.missing, ReplayRun.Needs, hlast]

theorem ReplayInv.split {s : ReplayRun σ} (h : ReplayInv s) {last : ReplicationReplayFrame}
    (hlast : s.session.frames.getLast? = some last) :
    ∃ before after, s.pushed = before ++ s.session.frames ++ after ∧
      (∀ frame ∈ before ++ s.session.frames, frame.frame ≤ last.frame) ∧
      (∀ frame ∈ after, last.frame < frame.frame) := by
  obtain ⟨before, after, hpushed⟩ := h.gapless.run
  obtain ⟨copy, hcopy⟩ := List.getLast?_eq_some_iff.mp hlast
  have hsorted := h.sorted
  rw [← hpushed, hcopy, ← List.append_assoc] at hsorted
  obtain ⟨hfront, -, hback⟩ := List.pairwise_append.mp hsorted
  obtain ⟨-, -, hfront⟩ := List.pairwise_append.mp hfront
  refine ⟨before, after, hpushed.symm, fun frame hf => ?_, fun frame hf => hback last (by simp) frame hf⟩
  rw [hcopy, ← List.append_assoc] at hf
  rcases List.mem_append.mp hf with hf | hf
  · exact Nat.le_of_lt (hfront frame hf last (by simp))
  · simp [List.mem_singleton.mp hf]

theorem filter_eq_takeWhile {endFrame : SyncFrame} : ∀ {frames : List ReplicationReplayFrame},
    frames.Pairwise (·.frame < ·.frame) →
    frames.filter (fun f => decide (f.frame ≤ endFrame)) = frames.takeWhile fun f => decide (f.frame ≤ endFrame)
  | [], _ => rfl
  | frame :: frames, h => by
    obtain ⟨hall, hrest⟩ := List.pairwise_cons.mp h
    by_cases hf : frame.frame ≤ endFrame
    case pos => simp [hf, filter_eq_takeWhile hrest]
    case neg =>
      rw [List.filter_cons_of_neg (by simpa using hf), List.takeWhile_cons_of_neg (by simpa using hf),
        List.filter_eq_nil_iff]
      intro later hlater
      have hnewer := hall later hlater
      simp only [decide_eq_true_eq]
      grind

/-- When every needed frame is stored, the tick adds what follows the copy in the pushed sequence. -/
theorem ReplayInv.missing_eq {s : ReplayRun σ} (h : ReplayInv s) {last : ReplicationReplayFrame}
    (hlast : s.session.frames.getLast? = some last) {before after : List ReplicationReplayFrame}
    (hpushed : s.pushed = before ++ s.session.frames ++ after)
    (hold : ∀ frame ∈ before ++ s.session.frames, frame.frame ≤ last.frame)
    (hnew : ∀ frame ∈ after, last.frame < frame.frame)
    (hall : ∀ frame ∈ s.pushed, s.Needs frame → frame ∈ s.streamer.stored) :
    s.missing = after.takeWhile fun f => decide (f.frame ≤ s.session.endFrame) := by
  let needed := fun f : ReplicationReplayFrame => decide (last.frame < f.frame ∧ f.frame ≤ s.session.endFrame)
  have hneeds : ∀ f, needed f = true → s.Needs f := by
    intro f hf
    simpa [needed, ReplayRun.Needs, hlast] using hf
  obtain ⟨evicted, hstored⟩ := h.ring.stored_suffix
  -- an evicted frame is not needed, as it would also be stored
  have hevicted : evicted.filter needed = [] := by
    rw [List.filter_eq_nil_iff]
    intro f hf hneed
    have hmem := hall f (by rw [← hstored]; simp [hf]) (hneeds f hneed)
    have hsorted := h.sorted
    rw [← hstored] at hsorted
    exact Nat.lt_irrefl _ ((List.pairwise_append.mp hsorted).2.2 f hf f hmem)
  have hfront : (before ++ s.session.frames).filter needed = [] := by
    rw [List.filter_eq_nil_iff]
    intro f hf hneed
    have hle := hold f hf
    simp only [needed, decide_eq_true_eq] at hneed
    exact Nat.lt_irrefl _ (Nat.lt_of_lt_of_le hneed.1 hle)
  have hafter : after.filter needed = after.filter fun f => decide (f.frame ≤ s.session.endFrame) := by
    apply List.filter_congr
    intro f hf
    simp [needed, hnew f hf]
  have hsorted := h.sorted
  rw [hpushed] at hsorted
  calc s.missing = s.streamer.stored.filter needed := by simp [ReplayRun.missing, hlast, needed]
    _ = s.pushed.filter needed := by rw [← hstored, List.filter_append, hevicted, List.nil_append]
    _ = after.filter needed := by rw [hpushed, List.filter_append, hfront, List.nil_append]
    _ = after.takeWhile fun f => decide (f.frame ≤ s.session.endFrame) := by
      rw [hafter, filter_eq_takeWhile (List.pairwise_append.mp hsorted).2.1]

theorem ReplayInv.tick {s : ReplayRun σ} (h : ReplayInv s) (hkeeps : s.KeepsUp) : ReplayInv (s.tick stage) where
  ring := h.ring.congr rfl rfl
  sorted := h.sorted
  gapless := by
    by_cases hactive : s.session.active = true
    case neg =>
      have hframes : (s.tick stage).session.frames = s.session.frames := tick_inactive hactive
      exact ⟨hframes ▸ h.gapless.run, hframes ▸ h.gapless.nodup,
        by rw [hframes, tick_endFrame]; exact h.gapless.upToEnd, by rw [hframes]; exact h.gapless.start⟩
    case pos =>
      have hframes : (s.tick stage).session.frames = s.session.frames ++ s.missing := h.tick_frames hactive
      cases hlast : s.session.frames.getLast? with
      | none =>
        have hnil : s.session.frames = [] := List.getLast?_eq_none_iff.mp hlast
        have hempty : (s.tick stage).session.frames = [] := by rw [hframes, hnil]; simp [ReplayRun.missing, hlast]
        constructor <;> simp [hempty]
      | some last =>
        have hne : s.session.frames ≠ [] := fun hnil => by simp [hnil] at hlast
        obtain ⟨before, after, hpushed, hold, hnew⟩ := h.split hlast
        -- the copy is extended by a prefix of what follows it
        have hinitial : s.missing <+: after := by
          rcases hkeeps hactive with hall | hnone
          · rw [h.missing_eq hlast hpushed hold hnew hall]
            exact List.takeWhile_prefix _
          · have hempty : s.missing = [] := by
              apply List.eq_nil_iff_forall_not_mem.mpr
              intro f hf
              obtain ⟨hstored, hneed⟩ := (mem_missing hlast).mp hf
              exact hnone f hstored hneed
            rw [hempty]
            exact List.nil_prefix
        obtain ⟨rest, hrest⟩ := hinitial
        have hrun : (s.tick stage).session.frames <:+: s.pushed := by
          refine ⟨before, rest, ?_⟩
          rw [hframes, hpushed, ← hrest]
          simp
        refine ⟨hrun, nodup_of_increasing (h.sorted.sublist hrun.sublist), fun f hf => ?_, fun _ => ?_⟩
        · rw [hframes] at hf
          rw [tick_endFrame]
          rcases List.mem_append.mp hf with hf | hf
          · exact h.gapless.upToEnd f hf
          · obtain ⟨-, -, -, -, hend⟩ := (mem_missing hlast).mp hf
            exact hend
        · rw [hframes, List.head?_append_of_ne_nil _ hne]
          exact h.gapless.start hne

theorem ReplayInv.keepsUp {s : ReplayRun σ} (h : ReplayInv s) (hgapless : (s.tick stage).Gapless) : s.KeepsUp := by
  intro hactive
  have hframes : (s.tick stage).session.frames = s.session.frames ++ s.missing := h.tick_frames hactive
  cases hlast : s.session.frames.getLast? with
  | none =>
    refine .inr fun f _ hneed => ?_
    simp [ReplayRun.Needs, hlast] at hneed
  | some last =>
    by_cases hmissing : s.missing = []
    case pos =>
      refine .inr fun f hf hneed => ?_
      have hmem := (mem_missing hlast).mpr ⟨hf, hneed⟩
      simp [hmissing] at hmem
    case neg =>
      refine .inl fun f hf hneed => ?_
      obtain ⟨added, hadded⟩ := List.exists_mem_of_ne_nil _ hmissing
      obtain ⟨haddedStored, -⟩ := (mem_missing hlast).mp hadded
      have hlt : last.frame < f.frame := by
        obtain ⟨_, hlast', hlt, -⟩ := hneed
        rw [hlast, Option.mem_some_iff] at hlast'
        exact hlast' ▸ hlt
      obtain ⟨evicted, hstored⟩ := h.ring.stored_suffix
      obtain ⟨before, after, hpushed⟩ := hgapless.run
      change before ++ (s.tick stage).session.frames ++ after = s.pushed at hpushed
      have hsorted := h.sorted
      rw [← hpushed, hframes] at hsorted
      obtain ⟨hfront, -, hback⟩ := List.pairwise_append.mp hsorted
      obtain ⟨-, -, hfront⟩ := List.pairwise_append.mp hfront
      have hlastMem : last ∈ s.session.frames := List.mem_of_getLast? hlast
      rw [← hpushed, hframes, List.mem_append, List.mem_append, List.mem_append] at hf
      rcases hf with (hf | hf | hf) | hf
      · exact absurd (hfront f hf last (by simp [hlastMem])) (Nat.lt_asymm hlt)
      · obtain ⟨_, _, -, hold, -⟩ := h.split hlast
        exact absurd (hold f (by simp [hf])) (Nat.not_le_of_lt hlt)
      · exact ((mem_missing hlast).mp hf).1
      · have hlater : added.frame < f.frame := hback added (by simp [hadded]) f hf
        have hmem : f ∈ evicted ++ s.streamer.stored := by
          rw [hstored, ← hpushed]
          simp [hf]
        rcases List.mem_append.mp hmem with hmem | hmem
        · have hsorted := h.sorted
          rw [← hstored] at hsorted
          exact absurd ((List.pairwise_append.mp hsorted).2.2 f hmem added haddedStored) (Nat.lt_asymm hlater)
        · exact hmem

theorem ReplayInv.new (options : ReplicationReplayStreamerOptions) (host : σ) :
    ReplayInv { streamer := ReplicationReplayStreamer.new options, host } where
  ring :=
    { unbounded := fun h => by
        have h : options.maxFrames = 0 := h
        simp [ReplicationReplayStreamer.new, h]
      bounded := fun h => by
        have h : options.maxFrames ≠ 0 := h
        simp [ReplicationReplayStreamer.new, h, Ring.contents] }
  sorted := List.Pairwise.nil
  gapless := by constructor <;> simp

theorem ReplayInv.reach {options : ReplicationReplayStreamerOptions} {host : σ} {s : ReplayRun σ}
    (hs : ReplayReach stage ReplayRun.KeepsUp options host s) : ReplayInv s := by
  induction hs with
  | refl => exact ReplayInv.new options host
  | tail _ hstep ih =>
    cases hstep with
    | push _ hnew => exact ih.push hnew
    | begin focusFrame => exact ih.begin focusFrame
    | tick hkeeps => exact ih.tick hkeeps

end

/-- In a run whose ticks all keep up, the ring has the newest frames and the session has no gap; the next tick keeps
it so exactly when it keeps up too. -/
theorem replay_session_gapless {σ : Type} (stage : ReplayStage σ) (options : ReplicationReplayStreamerOptions)
    (host : σ) (s : ReplayRun σ) (hs : ReplayReach stage ReplayRun.KeepsUp options host s) :
    s.StoresNewest ∧ s.Gapless ∧ ((s.tick stage).Gapless ↔ s.KeepsUp) :=
  have h := ReplayInv.reach hs
  ⟨h.ring.storesNewest, h.gapless, h.keepsUp, fun hkeeps => (h.tick hkeeps).gapless⟩

namespace ReplaySample

def stage : ReplayStage Unit where
  forgetEntities := id
  applyFrame _ _ := (true, ·)
  rediscoverAllReplicatedEntities := id
  setFrameWithoutBroadcast _ := (true, ·)
  advanceFrameWithoutSimulating _ := (true, ·)

def options : ReplicationReplayStreamerOptions := { maxFrames := 2, prerollFrames := 0, tailFrames := 10 }

def frame (frame : SyncFrame) (kind : ReplicationReplayFrameKind) : ReplicationReplayFrame := { frame, kind }

def begun : ReplayRun Unit :=
  (ReplayRun.push { streamer := ReplicationReplayStreamer.new options, host := () } (frame 1 .full)).open' stage 1

def lagging : ReplayRun Unit := ((begun.push (frame 2 .delta)).push (frame 3 .delta)).push (frame 4 .delta)

theorem begun_reach (may : ReplayRun Unit → Prop) : ReplayReach stage may options () begun :=
  (Relation.ReflTransGen.single (.push _ _ (by simp))).tail (.begin _ 1)

theorem lagging_reach (may : ReplayRun Unit → Prop) : ReplayReach stage may options () lagging :=
  (((begun_reach may).tail (.push _ _ (by decide))).tail (.push _ _ (by decide))).tail (.push _ _ (by decide))

def followed : ReplayRun Unit :=
  (((begun.push (frame 2 .delta)).tick stage).push (frame 3 .delta)).push (frame 4 .delta)

theorem begun_keepsUp : (begun.push (frame 2 .delta)).KeepsUp := by
  unfold ReplayRun.KeepsUp ReplayRun.Needs
  decide

theorem followed_keepsUp : followed.KeepsUp := by
  unfold ReplayRun.KeepsUp ReplayRun.Needs
  decide

theorem followed_reach : ReplayReach stage ReplayRun.KeepsUp options () followed :=
  ((((begun_reach _).tail (.push _ _ (by decide))).tail (.tick _ begun_keepsUp)).tail (.push _ _ (by decide))).tail
    (.push _ _ (by decide))

end ReplaySample

/-- The ticks of a ring of two frames keep up, and the session has all four frames. -/
theorem replay_session_gapless_followed :
    (ReplaySample.followed.tick ReplaySample.stage).StoresNewest ∧
    (ReplaySample.followed.tick ReplaySample.stage).Gapless ∧
    (ReplaySample.followed.tick ReplaySample.stage).session.frames.map (·.frame) = [1, 2, 3, 4] :=
  have h := replay_session_gapless _ _ _ _ (ReplaySample.followed_reach.tail (.tick _ ReplaySample.followed_keepsUp))
  ⟨h.1, h.2.1, by decide⟩

/-- The tick of the session that lags copies frames 3 and 4 and never applies the changes of frame 2. -/
theorem replay_session_gap :
    ¬∀ (σ : Type) (stage : ReplayStage σ) (options : ReplicationReplayStreamerOptions) (host : σ)
      (s : ReplayRun σ),
      ReplayReach stage (fun _ => True) options host s → s.StoresNewest ∧ s.Gapless := by
  intro h
  have hreach : ReplayReach ReplaySample.stage (fun _ => True) ReplaySample.options ()
      (ReplaySample.lagging.tick ReplaySample.stage) := (ReplaySample.lagging_reach _).tail (.tick _ trivial)
  have hrun := (h _ _ _ _ _ hreach).2.run
  revert hrun
  decide

end AshiatoSync
