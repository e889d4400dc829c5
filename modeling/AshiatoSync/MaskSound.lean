import AshiatoSync.AgreeSound

/-!
# Components that are masked out

A record does not bring the components its mask leaves out: a delta carries them
over from its baseline, and a full record has none of them.  The client keeps
such a component while every record is a delta against a baseline with its value.
-/

namespace AshiatoSync

open LocalRegistry ReplicationClient

/-! ## Records of one entity -/

section

variable {records : List UpsertCall} {newest call : UpsertCall} {rest : List UpsertCall}

/-- The newest record is what the state's frame is found as. -/
theorem Retained.findBaseline_newest {s : EntityState} (h : Retained (newest :: records) s) (hframe : s.frame ≠ 0) :
    s.findBaseline s.frame = some newest.after.baseline := by
  have hlatest : newest.frame = s.frame := by simpa using h.latest hframe
  have hheld : StillHeld (newest :: records) newest.frame := .inl fun later hlater hlt =>
    absurd (hlatest ▸ h.reached later hlater) (Nat.not_le_of_gt hlt)
  rw [← hlatest]
  exact (h.findBaseline_iff List.mem_cons_self).mpr hheld

theorem suffix_of_filter {p : UpsertCall → Bool} (h : call :: rest <:+ records.filter p) :
    ∃ older, call :: older <:+ records ∧ older.filter p = rest := by
  obtain ⟨front, heq⟩ := h
  obtain ⟨_, back, rfl, -, hback⟩ := List.filter_eq_append_iff.mp heq.symm
  obtain ⟨skipped, older, rfl, -, -, hrest⟩ := List.filter_eq_cons_iff.mp hback
  exact ⟨older, ⟨_, List.append_assoc _ _ _⟩, hrest⟩

theorem suffix_of_sinceCreated (hrest : rest ≠ []) : ∀ {records : List UpsertCall},
    call :: rest <:+ sinceCreated records → ∃ older, call :: older <:+ records ∧ sinceCreated older = rest
  | [], h => absurd (List.suffix_nil.mp h) (List.cons_ne_nil call rest)
  | later :: records, h => by
    rw [sinceCreated_cons] at h
    split at h
    · rcases List.suffix_cons_iff.mp h with heq | hnil
      · exact absurd (List.cons.inj heq).2 hrest
      · exact absurd (List.suffix_nil.mp hnil) (List.cons_ne_nil call rest)
    · rcases List.suffix_cons_iff.mp h with heq | hearlier
      · obtain ⟨rfl, rfl⟩ := List.cons.inj heq
        exact ⟨records, List.suffix_refl _, rfl⟩
      · obtain ⟨older, hsuffix, hsame⟩ := suffix_of_sinceCreated hrest hearlier
        exact ⟨older, hsuffix.trans (List.suffix_cons later records), hsame⟩

theorem suffix_of_recordsOf {R : Type} {client : ReplicationClient R} {e : Nat} (hrest : rest ≠ [])
    (h : call :: rest <:+ client.recordsOf e) :
    ∃ older, call :: older <:+ client.upserts ∧ call.sameEntity older = rest := by
  obtain ⟨-, -, hid⟩ := mem_recordsOf (h.mem List.mem_cons_self)
  unfold ReplicationClient.recordsOf at h
  split at h
  · exact absurd (List.suffix_nil.mp h) (List.cons_ne_nil call rest)
  · obtain ⟨kept, hkept, hsame⟩ := suffix_of_sinceCreated hrest h
    obtain ⟨older, hsuffix, rfl⟩ := suffix_of_filter hkept
    refine ⟨older, hsuffix, ?_⟩
    rw [UpsertCall.sameEntity, hid]
    exact hsame

end

/-! ## Values that are carried -/

/-- A delta against the record a value came with, a later one, or one of the `earlier` records that has the value. -/
def BasedOn (earlier : List UpsertCall) (i : Nat) (x : Bytes) (call : UpsertCall) : Prop :=
  ∃ frame, call.baselineFrame = some frame ∧
    ∀ old ∈ earlier, old.frame = frame → frameComponentData old.after.baseline i = some x

section

variable {first call : UpsertCall} {earlier : List UpsertCall} {i : Nat} {x : Bytes}

/-- The induction is on the records since `first`: each carries the component over from one before it. -/
theorem carried_value (hfirst : frameComponentData first.after.baseline i = some x) : ∀ {later : List UpsertCall},
    (∀ call rest, call :: rest <:+ later ++ first :: earlier → first ∈ rest → call ∈ later →
      ∃ older, call.sameEntity older = rest ∧ Carries call older i) →
    (∀ call ∈ later, BasedOn earlier i x call) →
    ∀ call ∈ later, frameComponentData call.after.baseline i = some x
  | [], _, _, _, hcall => by cases hcall
  | newer :: later, hcarries, hbased, call, hcall => by
    obtain ⟨hnewer, hbased⟩ := List.forall_mem_cons.mp hbased
    have hlater := carried_value hfirst (fun call rest hsuffix hin hmem =>
      hcarries call rest (hsuffix.trans (List.suffix_cons newer _)) hin (List.mem_cons_of_mem newer hmem)) hbased
    rcases List.mem_cons.mp hcall with rfl | hmem
    · obtain ⟨older, hsame, hcarried⟩ :=
        hcarries call _ (List.suffix_refl _) (by simp) List.mem_cons_self
      obtain ⟨frame, hdelta, hearlier⟩ := hnewer
      cases hcarried with
      | full hfull =>
        rw [hfull] at hdelta
        cases hdelta
      | @delta base hbase hframe hcomponent =>
        rw [hcomponent]
        rw [hsame] at hbase
        rcases List.mem_append.mp hbase with hsince | hbefore
        · exact hlater base hsince
        · rcases List.mem_cons.mp hbefore with rfl | hold
          · exact hfirst
          · exact hearlier base hold (Option.some.inj (hframe.symm.trans hdelta))
    · exact hlater call hmem

/-- Each record since `first` keeps the value exactly when it is a delta that is based on it. -/
theorem carried_value_iff (hfirst : frameComponentData first.after.baseline i = some x) {later : List UpsertCall}
    (hordered : (later ++ first :: earlier).Pairwise fun newer older => older.frame < newer.frame)
    (hcarries : ∀ call rest, call :: rest <:+ later ++ first :: earlier → first ∈ rest → call ∈ later →
      ∃ older, call.sameEntity older = rest ∧ Carries call older i) :
    (∀ call ∈ later, frameComponentData call.after.baseline i = some x) ↔
    ∀ call ∈ later, BasedOn earlier i x call := by
  refine ⟨fun hvalues call hcall => ?_, carried_value hfirst hcarries⟩
  obtain ⟨newer, since, rfl⟩ := List.append_of_mem hcall
  have hsuffix : call :: (since ++ first :: earlier) <:+ newer ++ call :: since ++ first :: earlier :=
    ⟨newer, by rw [List.append_assoc, List.cons_append]⟩
  obtain ⟨older, hsame, hcarried⟩ := hcarries call _ hsuffix (by simp) hcall
  have hvalue := hvalues call hcall
  cases hcarried with
  | full _ hnone =>
    rw [hnone] at hvalue
    cases hvalue
  | @delta base hbase hframe hcomponent =>
    refine ⟨base.frame, hframe, fun old hold hat => ?_⟩
    rw [hsame] at hbase
    have hin : ∀ {record : UpsertCall}, record ∈ since ++ first :: earlier →
        record ∈ newer ++ call :: since ++ first :: earlier := fun hmem =>
      hsuffix.mem (List.mem_cons_of_mem call hmem)
    obtain rfl := eq_of_frame hordered (hin (by simp [hold])) (hin hbase) hat
    rw [← hcomponent]
    exact hvalue

end

/-! ## What is shown -/

section

variable {R : Type} [LocalRegistry R] {client : ReplicationClient R} {settings : SyncSettings}
  {options : ReplicationServerOptions} {s : ReplicationServer} {replicator : ServerClientReplicator} {w e : Nat}
  {state : EntityState} {definition : SyncArchetype} {i : Nat} {c : ComponentReplication} {x : Bytes}

/-- The local entity of `state` has component `c`, with the value of the bytes `x`. -/
def ShowsValue (client : ReplicationClient R) (state : EntityState) (c : ComponentReplication) (x : Bytes) : Prop :=
  ∃ entity value, state.localEntity = some entity ∧ c.ops.pushToRegistry x = some value ∧
    get client.registry entity c.component = some value

/-- What a wire id is mapped to is present, with the baselines of its records. -/
theorem ClientReachable.retained_found (h : ClientReachable client)
    (hfound : client.store.findByWireId w = some (e, state)) :
    state.entityPresent = true ∧ Retained (client.recordsOf e) state := by
  obtain ⟨-, hmapped, hget, -⟩ := findByWireId_eq_some.mp hfound
  obtain rfl : client.entity e = state := entity_of_getElem? hget
  obtain ⟨hwire, hcurrent, -⟩ := h.ok.wires w e hmapped
  have hpresent := h.ok.present e (by rw [hwire, hcurrent])
  exact ⟨hpresent, h.retains e hpresent⟩

/-- In `Snap` mode the local entity shows the components of the newest record. -/
theorem shows_newest (hreachable : ClientReachable client) (hfound : client.store.findByWireId w = some (e, state))
    (hmode : state.mode = .snap) {newest : UpsertCall} {records : List UpsertCall}
    (hrecords : client.recordsOf e = newest :: records)
    (hdef : client.settings.archetypes[state.archetype]? = some definition)
    (hc : definition.components[i]? = some c) (hx : frameComponentData newest.after.baseline i = some x) :
    ShowsValue client state c x := by
  have hok := hreachable.ok
  obtain ⟨hpresent, hretained⟩ := hreachable.retained_found hfound
  obtain ⟨-, -, hget, -⟩ := findByWireId_eq_some.mp hfound
  obtain rfl : client.entity e = state := entity_of_getElem? hget
  obtain ⟨hstarted, -, -⟩ :=
    mem_recordsOf (by rw [hrecords]; exact List.mem_cons_self : newest ∈ client.recordsOf e)
  rw [hrecords] at hretained
  have hentity : EntityOk definition (client.view e) := hok.inv e definition hdef
  have hbaseline : frameComponentData (client.entity e).baseline i = some x :=
    hentity.current hpresent _ (hretained.findBaseline_newest hstarted) i x hx
  have hshown := hentity.snap hmode i c hc x hbaseline
  obtain ⟨value, hvalue⟩ := Option.isSome_iff_exists.mp
    (hok.pushes definition (List.mem_of_getElem? hdef) c (List.mem_of_getElem? hc) x)
  rw [hvalue] at hshown
  obtain ⟨entity, hentity, hget⟩ := Option.bind_eq_some_iff.mp hshown
  exact ⟨entity, value, hentity, hvalue, hget⟩

open ReplicationServer in
/-- Since `first`, which came with the bytes `x` of component `i`, every record was written with the component masked
out.  They leave what the client stored of it exactly when each is a delta that is based on the value, and then the
local entity keeps it. -/
theorem masked_component_kept (hs : InOrderReachable options settings s) (hf : settings.Faithful)
    (hreplicator : replicator ∈ s.clients) (hcues : ∀ v ∈ replicator.trace.written, CuesWritten settings v)
    (hfed : ClientFed s.core.options.protocol settings replicator.transport client)
    (hfound : client.store.findByWireId w = some (e, state)) (hmode : state.mode = .snap)
    {later earlier : List UpsertCall} {first : UpsertCall}
    (hrecords : client.recordsOf e = later ++ first :: earlier)
    (hdef : settings.archetypes[state.archetype]? = some definition) (hc : definition.components[i]? = some c)
    (hx : frameComponentData first.after.baseline i = some x)
    (hmasked : ∀ call ∈ later, ∃ v ∈ replicator.trace.written, v.networkId = call.wireNetworkId ∧
      v.frame = call.frame ∧ v.MasksOut i) :
    ((∀ call ∈ later, frameComponentData call.after.baseline i = some x) ↔
      ∀ call ∈ later, BasedOn earlier i x call) ∧
    ((∀ call ∈ later, BasedOn earlier i x call) → ShowsValue client state c x) := by
  obtain ⟨hordered, hsame, hreachable, hagreed⟩ := fed_agreed hs hf hreplicator hcues hfed
  obtain ⟨-, hretained⟩ := hreachable.retained_found hfound
  obtain ⟨-, -, hget, -⟩ := findByWireId_eq_some.mp hfound
  obtain rfl : client.entity e = state := entity_of_getElem? hget
  have hcarries : ∀ call rest, call :: rest <:+ later ++ first :: earlier → first ∈ rest → call ∈ later →
      ∃ older, call.sameEntity older = rest ∧ Carries call older i := by
    intro call rest hsuffix hin hmem
    rw [← hrecords] at hsuffix
    obtain ⟨older, holder, hrest⟩ := suffix_of_recordsOf (List.ne_nil_of_mem hin) hsuffix
    obtain ⟨-, -, v, hv, hsource, hcarried⟩ := hagreed call older holder
    obtain ⟨v', hv', hid, hframe, hmasks⟩ := hmasked call hmem
    -- the record that was masked is the one that was stored
    obtain rfl : v = v' := by
      obtain ⟨_, _, _, _, _, _, _, hcontent, -⟩ := hmasks
      obtain ⟨_, _, _, _, _, _, _, hcontent', -⟩ := hsource.content
      exact eq_of_inOrder hordered hv hv' (by simp [WrittenRecord.slot?, hcontent'])
        (by simp [WrittenRecord.slot?, hcontent]) (hsource.networkId.trans hid.symm) (hsource.frame.trans hframe.symm)
    refine ⟨older, hrest, hcarried definition ?_ i (List.getElem?_eq_some_iff.mp hc).1 hmasks⟩
    have hcall := hsuffix.mem List.mem_cons_self
    rw [hretained.kinds (mem_recordsOf hcall).1 call hcall]
    exact hdef
  have hiff := carried_value_iff hx (hrecords ▸ hretained.ordered) hcarries
  refine ⟨hiff, fun hbased => ?_⟩
  have hvalues := hiff.mpr hbased
  rw [← hsame] at hdef
  cases later with
  | nil => exact shows_newest hreachable hfound hmode hrecords hdef hc hx
  | cons newest later =>
    exact shows_newest hreachable hfound hmode hrecords hdef hc (hvalues newest List.mem_cons_self)

end

/-! ## A component that is masked out -/

/-- The record was written with component `i` masked out, while the entity had it. -/
def WrittenRecord.MasksPresent (w : WrittenRecord) (i : Nat) : Prop :=
  ∃ slot q archetype data mask record cues, w.content = .update slot q archetype data mask record cues ∧
    mask.getLsbD i = false ∧ frameHasComponent data i = true

theorem WrittenRecord.MasksPresent.masksOut {w : WrittenRecord} {i : Nat} (h : w.MasksPresent i) : w.MasksOut i := by
  obtain ⟨slot, q, archetype, data, mask, record, cues, hcontent, hbit, -⟩ := h
  exact ⟨slot, q, archetype, data, mask, record, cues, hcontent, hbit⟩

namespace Sample

def second : ComponentReplication := { component := 1, audience := .all, ops := sizedOps }

/-- The client has the entity of wire id 1 in `Snap` mode.  Its record `first` came with the bytes `x` of the second
component, and the next and last one with the component masked out. -/
structure LastMasked (written : List WrittenRecord) (client : ReplicationClient Table) (state : EntityState)
    (last first : UpsertCall) (earlier : List UpsertCall) (x : Bytes) : Prop where
  found : client.store.findByWireId 1 = some (0, state)
  mode : state.mode = .snap
  archetype : sizedSettings.archetypes[state.archetype]? = sizedSettings.archetypes[0]?
  records : client.recordsOf 0 = last :: first :: earlier
  value : frameComponentData first.after.baseline 1 = some x
  masked : ∃ v ∈ written, v.networkId = last.wireNetworkId ∧ v.frame = last.frame ∧ v.MasksPresent 1

def masksPresent (i : Nat) (w : WrittenRecord) : Bool :=
  match w.content with
  | .update _ _ _ data mask _ _ => !mask.getLsbD i && frameHasComponent data i
  | .destroy => false

theorem masksPresent_sound {w : WrittenRecord} {i : Nat} (h : masksPresent i w = true) : w.MasksPresent i := by
  unfold masksPresent at h
  split at h
  · rename_i hcontent
    simp only [Bool.and_eq_true, Bool.not_eq_true'] at h
    exact ⟨_, _, _, _, _, _, _, hcontent, h⟩
  · cases h

def lastMasked (written : List WrittenRecord) (client : ReplicationClient Table) (x : Bytes)
    (baselineFrame : Option SyncFrame) (shown : Option Bytes) : Bool :=
  match client.store.findByWireId 1, client.recordsOf 0 with
  | some (0, state), last :: first :: _ =>
    state.mode == .snap && state.archetype == 0 && frameComponentData first.after.baseline 1 == some x &&
      last.baselineFrame == baselineFrame && (state.localEntity.bind fun l => get client.registry l 1) == shown &&
      written.any fun v => v.networkId == last.wireNetworkId && v.frame == last.frame && masksPresent 1 v
  | _, _ => false

theorem lastMasked_sound {written : List WrittenRecord} {client : ReplicationClient Table} {x : Bytes}
    {baselineFrame : Option SyncFrame} {shown : Option Bytes}
    (h : lastMasked written client x baselineFrame shown = true) :
    ∃ state last first earlier, LastMasked written client state last first earlier x ∧
      last.baselineFrame = baselineFrame ∧ (state.localEntity.bind fun l => get client.registry l 1) = shown := by
  unfold lastMasked at h
  split at h
  · rename_i state last first earlier hfound hrecords
    simp only [Bool.and_eq_true, beq_iff_eq, List.any_eq_true] at h
    obtain ⟨⟨⟨⟨⟨hmode, harchetype⟩, hvalue⟩, hbaseline⟩, hshown⟩, v, hv,
      ⟨hid, hframe⟩, hmasks⟩ := h
    exact ⟨state, last, first, earlier, ⟨hfound, hmode, by rw [harchetype], hrecords, hvalue, v, hv, hid, hframe,
      masksPresent_sound hmasks⟩, hbaseline, hshown⟩
  · cases h

theorem not_showsValue {client : ReplicationClient Table} {state : EntityState} {x : Bytes} {shown : Option Bytes}
    (hshown : (state.localEntity.bind fun l => get client.registry l 1) = shown) (hne : shown ≠ some x) :
    ¬ShowsValue client state second x := by
  rintro ⟨entity, value, hentity, hvalue, hget⟩
  obtain rfl : x = value := Option.some.inj hvalue
  rw [hentity] at hshown
  exact hne (hshown.symm.trans hget)

/-- Frame 1 is acknowledged, and then the second component is masked out. -/
def maskedOps : List ServerOp :=
  [.addClient 1 1, advance 1 [entity] [] [] [] [some 7, some 9], send [entity] [some 7, some 9], .acks 1 [1],
  advance 2 [entity] [entity] [] [] [some 8, some 10], send [entity] [some 8, some 10] 1]

/-- The second component is masked out before the ACK of frame 1 comes. -/
def maskedFullOps : List ServerOp :=
  [.addClient 1 1, advance 1 [entity] [] [] [] [some 7, some 9], send [entity] [some 7, some 9],
  advance 2 [entity] [entity] [] [] [some 8, some 9], send [entity] [some 8, some 9] 1]

/-- The second component changes at frame 2, and is masked out before the ACK of frame 2 comes. -/
def maskedOlderOps : List ServerOp :=
  [.addClient 1 1, advance 1 [entity] [] [] [] [some 7, some 9], send [entity] [some 7, some 9], .acks 1 [1],
  advance 2 [entity] [entity] [] [] [some 7, some 10], send [entity] [some 7, some 10],
  advance 3 [entity] [entity] [] [] [some 8, some 10], send [entity] [some 8, some 10] 1]

def maskedReplicator (ops : List ServerOp) : ServerClientReplicator :=
  (sizedAfter ops).clients.headD { id := 0, peer := 0 }

/-- The client is given the last two packets. -/
def maskedClient (ops : List ServerOp) (client : ReplicationClient Table) : ReplicationClient Table :=
  givenPair sizedSettings client (sentPacketAt (maskedReplicator ops) 0) (sentPacketAt (maskedReplicator ops) 1)

/-- The run is in order, its packets hold no cues, and the client can be given the last two. -/
def maskedRun (ops : List ServerOp) (client : ReplicationClient Table) : Bool :=
  ordered (ReplicationServer.start options sizedSettings) ops &&
    pairInFlight sizedSettings (sizedAfter ops) (maskedReplicator ops) client (sentPacketAt (maskedReplicator ops) 0)
      (sentPacketAt (maskedReplicator ops) 1) &&
    (maskedReplicator ops).trace.written.all withoutCues

theorem maskedRun_sound {ops : List ServerOp} {client : ReplicationClient Table} (h : maskedRun ops client = true)
    (hfed : ClientFed ({} : ReplicationClientOptions).protocol sizedSettings (maskedReplicator ops).transport client) :
    ReplicationServer.InOrderReachable options sizedSettings (sizedAfter ops) ∧
    maskedReplicator ops ∈ (sizedAfter ops).clients ∧
    (∀ v ∈ (maskedReplicator ops).trace.written, CuesWritten sizedSettings v) ∧
    ClientFed (sizedAfter ops).core.options.protocol sizedSettings (maskedReplicator ops).transport
      (maskedClient ops client) := by
  simp only [maskedRun, Bool.and_eq_true, List.all_eq_true] at h
  obtain ⟨⟨hordered, hpair⟩, hcues⟩ := h
  obtain ⟨hin, hfed⟩ := pair_fed hpair hfed
  exact ⟨sizedAfter_inOrder hordered, hin, fun v hv => cuesWritten_of_none (hcues v hv), hfed⟩

theorem maskedClient_shows : maskedRun maskedOps sizedStart = true ∧
    lastMasked (maskedReplicator maskedOps).trace.written (maskedClient maskedOps sizedStart) [9] (some 1)
      (some [9]) = true ∧ ((maskedClient maskedOps sizedStart).recordsOf 0).length = 2 := by
  decide +kernel

theorem maskedFullClient_shows : maskedRun maskedFullOps sizedStart = true ∧
    lastMasked (maskedReplicator maskedFullOps).trace.written (maskedClient maskedFullOps sizedStart) [9] none
      none = true := by
  decide +kernel

/-- The client was given the first packet. -/
def maskedOlderStart : ReplicationClient Table :=
  (sizedStart.receiveEntityUpdate (updateBits sizedSettings (sentPacketAt (maskedReplicator maskedOlderOps) 2))).1

theorem maskedOlderClient_shows :
    inFlightTo sizedSettings (maskedReplicator maskedOlderOps) sizedStart
      (sentPacketAt (maskedReplicator maskedOlderOps) 2) = true ∧
    maskedRun maskedOlderOps maskedOlderStart = true ∧
    lastMasked (maskedReplicator maskedOlderOps).trace.written (maskedClient maskedOlderOps maskedOlderStart) [10]
      (some 1) (some [9]) = true := by
  decide +kernel

end Sample

/-- Before the first ACK the record with the component masked out is a full one, and the client removes it. -/
theorem masked_component_removed : Sample.sizedSettings.Faithful ∧
    ∃ s, ReplicationServer.InOrderReachable Sample.options Sample.sizedSettings s ∧ ∃ replicator ∈ s.clients,
      (∀ v ∈ replicator.trace.written, CuesWritten Sample.sizedSettings v) ∧
    ∃ client : ReplicationClient Sample.Table,
      ClientFed s.core.options.protocol Sample.sizedSettings replicator.transport client ∧
    ∃ state last first earlier, Sample.LastMasked replicator.trace.written client state last first earlier [9] ∧
      last.baselineFrame = none ∧ ¬ShowsValue client state Sample.second [9] := by
  obtain ⟨hrun, hlast⟩ := Sample.maskedFullClient_shows
  obtain ⟨hs, hin, hcues, hfed⟩ := Sample.maskedRun_sound hrun (Sample.sizedStart_fed _)
  obtain ⟨state, last, first, earlier, hmasked, hfull, hshown⟩ := Sample.lastMasked_sound hlast
  exact ⟨Sample.sizedSettings_faithful, _, hs, _, hin, hcues, _, hfed, state, last, first, earlier, hmasked, hfull,
    Sample.not_showsValue hshown (by decide)⟩

/-- A delta against a baseline from before the last value brings the older value back. -/
theorem masked_component_reverted : Sample.sizedSettings.Faithful ∧
    ∃ s, ReplicationServer.InOrderReachable Sample.options Sample.sizedSettings s ∧ ∃ replicator ∈ s.clients,
      (∀ v ∈ replicator.trace.written, CuesWritten Sample.sizedSettings v) ∧
    ∃ client : ReplicationClient Sample.Table,
      ClientFed s.core.options.protocol Sample.sizedSettings replicator.transport client ∧
    ∃ state last first earlier, Sample.LastMasked replicator.trace.written client state last first earlier [10] ∧
      last.baselineFrame = some 1 ∧ ¬ShowsValue client state Sample.second [10] := by
  obtain ⟨hfirst, hrun, hlast⟩ := Sample.maskedOlderClient_shows
  obtain ⟨hs, hin, hcues, hfed⟩ := Sample.maskedRun_sound hrun (Sample.fed_next (Sample.sizedStart_fed _) hfirst)
  obtain ⟨state, last, first, earlier, hmasked, hdelta, hshown⟩ := Sample.lastMasked_sound hlast
  exact ⟨Sample.sizedSettings_faithful, _, hs, _, hin, hcues, _, hfed, state, last, first, earlier, hmasked, hdelta,
    Sample.not_showsValue hshown (by decide)⟩

/-- Once frame 1 is acknowledged, its value stays while the component is masked out. -/
theorem masked_component_kept_sample : ∃ state last first,
    Sample.LastMasked (Sample.maskedReplicator Sample.maskedOps).trace.written
      (Sample.maskedClient Sample.maskedOps Sample.sizedStart) state last first [] [9] ∧
    last.baselineFrame = some 1 ∧
    ShowsValue (Sample.maskedClient Sample.maskedOps Sample.sizedStart) state Sample.second [9] := by
  obtain ⟨hrun, hlast, hlength⟩ := Sample.maskedClient_shows
  obtain ⟨hs, hin, hcues, hfed⟩ := Sample.maskedRun_sound hrun (Sample.sizedStart_fed _)
  obtain ⟨state, last, first, earlier, hmasked, hdelta, -⟩ := Sample.lastMasked_sound hlast
  obtain rfl : earlier = [] := by
    rw [hmasked.records] at hlength
    exact List.eq_nil_of_length_eq_zero (Nat.succ.inj (Nat.succ.inj hlength))
  obtain ⟨v, hv, hid, hframe, hpresent⟩ := hmasked.masked
  have hrecords : (Sample.maskedClient Sample.maskedOps Sample.sizedStart).recordsOf 0 = [last] ++ first :: [] :=
    hmasked.records
  refine ⟨state, last, first, hmasked, hdelta, (masked_component_kept hs Sample.sizedSettings_faithful hin hcues hfed
    hmasked.found hmasked.mode hrecords hmasked.archetype rfl hmasked.value ?_).2 ?_⟩
  · exact List.forall_mem_singleton.mpr ⟨v, hv, hid, hframe, hpresent.masksOut⟩
  · exact List.forall_mem_singleton.mpr ⟨1, hdelta, fun old hold => by cases hold⟩

end AshiatoSync
