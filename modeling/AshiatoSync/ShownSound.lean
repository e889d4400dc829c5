import AshiatoSync.ClientRuns
import AshiatoSync.ClientSample

/-!
# What a client shows

A client takes packets, applies frames of its buffered timeline and switches
modes, in any order and with other code in between.  Every record it snaps and
every sample it applies is then shown with all its components; whether a
component the sample lacks is removed depends on `applied_present_mask`.
-/

namespace AshiatoSync

open LocalRegistry ReplicationClient

/-! ## Runs -/

section

variable {R : Type} [LocalRegistry R]

/-- One call of the client, or what other code does between two.  A packet has a server frame, and no wire id has used
up its 32-bit versions. -/
inductive ClientStep : ReplicationClient R → ReplicationClient R → Prop
  | receive {client : ReplicationClient R} (packetId frame recordCount : Nat) (bits : Bits) (hpos : 0 < frame)
      (hrange : frame < 2 ^ 32) (hversions : ∀ w, destroyCount w client.trace + recordCount + 1 < 2 ^ 32) :
      ClientStep client (client.applyUpdate packetId frame recordCount bits).1
  | applyFrame {client : ReplicationClient R} (frame : SyncFrame) (policy : MissingBufferedFramePolicy) :
      ClientStep client (client.applyFrame frame policy).1
  | setEntityMode {client : ReplicationClient R} (id : ClientEntityNetworkId) (mode : ReplicationClientMode) :
      ClientStep client (client.setEntityMode id mode)
  | others {client client' : ReplicationClient R} (hleaves : LeavesReplicated client client') : ClientStep client
    client'

/-- The clients that calls lead to; `push_to_registry` takes what it is given, and the ring capacity is not 0. -/
inductive ClientReachable : ReplicationClient R → Prop
  | init (options : ReplicationClientOptions) (settings : SyncSettings) (clientId : ClientId) (registry : R)
      (hpush : settings.PushesAll) (hcapacity : 0 < options.bufferedFrameCapacity) :
      ClientReachable { options, settings, clientId, registry }
  | step {client client' : ReplicationClient R} (h : ClientReachable client) (hstep : ClientStep client client') :
      ClientReachable client'

variable {client client' : ReplicationClient R}

theorem ClientOk.new (options : ReplicationClientOptions) (settings : SyncSettings) (clientId : ClientId) (registry : R)
    (hpush : settings.PushesAll) (hcapacity : 0 < options.bufferedFrameCapacity) :
    ClientOk { options, settings, clientId, registry } := by
  constructor
  · constructor
    · exact hpush
    · exact hcapacity
    · exact ⟨nofun, nofun⟩
    · exact fun _ _ => ⟨rfl, rfl⟩
    · exact fun _ h => by cases h
    · exact List.nodup_nil
    · rfl
    · exact fun e he => absurd rfl he
    · exact fun e he => absurd rfl he
    · exact nofun
    · exact fun _ => Nat.zero_le _
    · exact fun e he => absurd rfl he
    · exact fun e definition _ => EntityOk.new rfl rfl rfl rfl rfl fun _ => rfl
    · exact fun _ h => by cases h
  · exact fun _ _ => rfl

theorem ClientStep.ok (hstep : ClientStep client client') (h : ClientOk client) : ClientOk client' := by
  cases hstep with
  | receive packetId frame recordCount bits hpos hrange hversions =>
    exact applyUpdate_ok h hversions hpos hrange packetId bits
  | applyFrame frame policy => exact applyFrame_ok h frame policy
  | setEntityMode id mode => exact setEntityMode_ok h id mode
  | others hleaves => exact h.replicated hleaves

theorem ClientReachable.ok (h : ClientReachable client) : ClientOk client := by
  induction h with
  | init options settings clientId registry hpush hcapacity =>
    exact .new options settings clientId registry hpush hcapacity
  | step _ hstep ih => exact hstep.ok ih

/-! ## Selective application -/

/-- After every snapped record, and after every sample of the buffered timeline, the local entity has each component of
the record or sample with the value of its bytes. -/
theorem selective_application_whole (h : ClientReachable client) :
    (∀ call, .upsert call ∈ client.trace → call.after.mode = .snap →
      ∀ definition, client.settings.archetypes[call.archetype]? = some definition →
        ShownWhole definition call.decoded call.shown) ∧
    ∀ call, .sample call ∈ client.trace → call.before.mode = .bufferedInterpolation →
      ∀ definition, client.settings.archetypes[call.archetype]? = some definition →
        ShownWhole definition call.sample.baseline call.shownAfter :=
  ⟨fun _ hcall => h.ok.sound _ hcall,
  fun _ hcall hmode definition hdef => (h.ok.sound _ hcall hmode definition hdef).1⟩

/-- A sample removes exactly what it lacks when, and only when, `applied_present_mask` has every component that is shown
and that the sample lacks. -/
theorem sample_removes_missing_iff (h : ClientReachable client) {call : SampleCall}
    (hcall : .sample call ∈ client.trace) (hmode : call.before.mode = .bufferedInterpolation)
    {definition : SyncArchetype} (hdef : client.settings.archetypes[call.archetype]? = some definition) :
    ShownExactly definition call.sample.baseline call.shownAfter ↔
      CoversMissing definition call.sample.baseline call.shownBefore call.before.appliedPresentMask :=
  (h.ok.sound _ hcall hmode definition hdef).2

end

/-! ## Two frames of an entity that loses a component -/

namespace Sample

def lastSample (client : ReplicationClient Table) : Option SampleCall :=
  client.trace.findSome? fun
    | .sample call => some call
    | _ => none

theorem lastSample_mem {client : ReplicationClient Table} {call : SampleCall} (h : lastSample client = some call) :
    .sample call ∈ client.trace := by
  obtain ⟨found, hmem, heq⟩ := List.exists_of_findSome?_eq_some h
  cases found with
  | sample sample =>
    obtain rfl : sample = call := Option.some.inj heq
    exact hmem
  | upsert _ => cases heq
  | destroy _ => cases heq
  | play _ => cases heq

theorem settings_pushesAll : settings.PushesAll := by
  intro definition hdef c hc bytes
  simp only [settings, List.mem_singleton] at hdef
  subst hdef
  simp only [archetype, List.mem_cons, List.not_mem_nil, or_false] at hc
  rcases hc with rfl | rfl
  · rfl
  · rfl

def whole : ReplicationClient Table :=
  (receive (newClient .bufferedInterpolation) 1 (fullRecord 1 [some 5, some 6])).applyFrame 1 |>.1

def dropped : ReplicationClient Table := (receive whole 2 (fullRecord 1 [some 7, none])).applyFrame 2 |>.1

theorem step_receive (client : ReplicationClient Table) (frame : Nat) (record : Bits) (hpos : 0 < frame)
    (hrange : frame < 2 ^ 32) (hlength : client.trace.length + 2 < 2 ^ 32) :
    ClientStep client (receive client frame record) := by
  refine .receive frame frame 1 record hpos hrange fun w => ?_
  have hle : destroyCount w client.trace ≤ client.trace.length := List.countP_le_length
  omega

theorem whole_reachable : ClientReachable whole :=
  .step (.step (.init _ _ _ _ settings_pushesAll (by decide)) (step_receive _ 1 _ (by decide) (by decide) (by decide)))
    (.applyFrame 1 .failApply)

theorem dropped_reachable : ClientReachable dropped :=
  .step (.step whole_reachable (step_receive _ 2 _ (by decide) (by decide) (by decide +kernel)))
    (.applyFrame 2 .failApply)

structure LastShown where
  mode : ReplicationClientMode
  components : Nat
  mask : Mask
  before : Shown
  after : Shown
  deriving DecidableEq

def lastShown (client : ReplicationClient Table) : Option LastShown :=
  (lastSample client).bind fun call => (client.settings.archetypes[call.archetype]?).map fun definition =>
    ⟨call.before.mode, definition.components.length, call.sample.baseline.presentMask, call.shownBefore,
      call.shownAfter⟩

theorem lastShown_eq_some {client : ReplicationClient Table} {last : LastShown} (h : lastShown client = some last) :
    ∃ call definition, .sample call ∈ client.trace ∧ client.settings.archetypes[call.archetype]? =
      some definition ∧
      call.before.mode = last.mode ∧ definition.components.length = last.components ∧
      call.sample.baseline.presentMask = last.mask ∧ call.shownBefore = last.before ∧
      call.shownAfter = last.after := by
  obtain ⟨call, hcall, heq⟩ := Option.bind_eq_some_iff.mp h
  obtain ⟨definition, hdef, rfl⟩ := Option.map_eq_some_iff.mp heq
  exact ⟨call, definition, lastSample_mem hcall, hdef, rfl, rfl, rfl, rfl, rfl⟩

theorem whole_shown : lastShown whole = some ⟨.bufferedInterpolation, 2, 3, [none, none],
    [some [5], some [6]]⟩ := by
  decide +kernel

theorem dropped_shown :
    lastShown dropped = some ⟨.bufferedInterpolation, 2, 1, [some [5], some [6]], [some [7], some [6]]⟩ := by
  decide +kernel

end Sample

theorem selective_application_whole_dropped : ∃ call definition, .sample call ∈ Sample.dropped.trace ∧
    call.before.mode = .bufferedInterpolation ∧ Sample.dropped.settings.archetypes[call.archetype]? =
      some definition ∧
    ShownWhole definition call.sample.baseline call.shownAfter := by
  obtain ⟨call, definition, hmem, hdef, hmode, _⟩ := Sample.lastShown_eq_some Sample.dropped_shown
  exact ⟨call, definition, hmem, hmode, hdef,
    (selective_application_whole Sample.dropped_reachable).2 call hmem hmode definition hdef⟩

/-- The component that frame 2 lacks is still shown after it. -/
theorem dropped_component_shown : ∃ client : ReplicationClient Sample.Table, ClientReachable client ∧
    ∃ call definition, .sample call ∈ client.trace ∧ call.before.mode = .bufferedInterpolation ∧
      client.settings.archetypes[call.archetype]? = some definition ∧
      ¬ ShownExactly definition call.sample.baseline call.shownAfter := by
  obtain ⟨call, definition, hmem, hdef, hmode, hlength, hmask, _, hafter⟩ :=
    Sample.lastShown_eq_some Sample.dropped_shown
  refine ⟨Sample.dropped, Sample.dropped_reachable, call, definition, hmem, hmode, hdef, fun hexact => ?_⟩
  obtain ⟨y, hy, heq⟩ := hexact 1 _ (List.getElem?_eq_getElem (by rw [hlength]; decide))
  rw [hafter] at hy
  obtain rfl := Option.some.inj hy
  rw [frameHasComponent, hmask] at heq
  cases heq

/-- Frame 1 of the sample entity, whose components are all new, is shown exactly. -/
theorem sample_removes_missing_iff_whole : ∃ call definition, .sample call ∈ Sample.whole.trace ∧
    call.before.mode = .bufferedInterpolation ∧ Sample.whole.settings.archetypes[call.archetype]? =
      some definition ∧
    ShownExactly definition call.sample.baseline call.shownAfter := by
  obtain ⟨call, definition, hmem, hdef, hmode, hlength, _, hbefore, _⟩ :=
    Sample.lastShown_eq_some Sample.whole_shown
  refine ⟨call, definition, hmem, hmode, hdef,
    (sample_removes_missing_iff Sample.whole_reachable hmem hmode hdef).mpr fun i c hc y hy _ => ?_⟩
  have hi : i < 2 := Nat.lt_of_lt_of_eq (List.getElem?_eq_some_iff.mp hc).1 hlength
  rw [hbefore] at hy
  obtain rfl | rfl : i = 0 ∨ i = 1 := by omega
  · cases hy
  · cases hy

end AshiatoSync
