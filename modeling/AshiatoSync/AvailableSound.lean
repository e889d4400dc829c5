import AshiatoSync.AgreeSound

/-!
# Which deltas find their baseline

The server writes a delta against the baseline it was told of last.  The client that
accepted it has it while no accepted frame is a multiple of 64 later, or while it is
pinned; the 64 records the server remembers may be spread over more frames than that.
-/

namespace AshiatoSync

open BitCodec ReplicationServer ReadM

section

variable {R : Type} [LocalRegistry R] {client : ReplicationClient R} {settings : SyncSettings}

/-- What is left of a record for `read_upsert_metadata`: all but the flag and the network id. -/
def WrittenRecord.upsertBits (tier0Bits : Nat) (settings : SyncSettings) (w : WrittenRecord) : Bits :=
  (w.bits tier0Bits settings).drop (1 + (writeNetworkEntityId w.networkId tier0Bits).length)

/-- `find_baseline` returns the baseline stored for `call`, and the record is not refused for the want of it. -/
structure FindsBaseline (settings : SyncSettings) (client : ReplicationClient R) (w : WrittenRecord) (e : Nat)
    (call : UpsertCall) : Prop where
  found : (client.entity e).findBaseline call.frame = some call.after.baseline
  taken : ∀ tier0Bits rest s, readUpsertMetadata w.frame w.networkId
    (client, w.upsertBits tier0Bits settings ++ rest) ≠ .error "delta_missing_baseline" s

omit [LocalRegistry R] in
theorem readDeltaMetadata_found {e w : Nat} {id : ClientEntityNetworkId} {frame baselineFrame : SyncFrame}
    {bits rest : Bits} (hfound : client.store.findByWireId w = some (e, client.entity e)) {data : QuantizedFrameData}
    (hread : readBaselineFrame frame bits = some (baselineFrame, rest))
    (hdata : (client.entity e).findBaseline baselineFrame = some data) (s : ReplicationClient R × Bits) :
    readDeltaMetadata frame w id (client, bits) ≠ .error "delta_missing_baseline" s := by
  have hfield : field "delta_baseline_frame_read_failed" (readBaselineFrame frame) (client, bits) =
      .ok baselineFrame (client, rest) := by
    unfold field
    dsimp only
    rw [hread]
  have hother : ∀ (reason : String), reason ≠ "delta_missing_baseline" →
      ∀ s', (.error reason s' : EStateM.Result String _ UpsertMetadata) ≠ .error "delta_missing_baseline" s :=
    fun reason hreason s' h => hreason (EStateM.Result.error.inj h).1
  unfold readDeltaMetadata
  simp only [ReadM.client_bind, hfound]
  by_cases habsent : (client.entity e).absent = true
  · rw [if_pos habsent]
    exact hother "delta_missing_entity_state" (by decide) _
  rw [if_neg habsent]
  simp only [ReadM.client_bind]
  by_cases harchetype : (client.entity e).archetype ≥ client.settings.archetypes.length
  · rw [if_pos harchetype]
    exact hother "delta_invalid_archetype" (by decide) _
  rw [if_neg harchetype]
  by_cases hstale : frame ≤ (client.entity e).frame
  · rw [if_pos hstale]
    exact hother "delta_stale_frame" (by decide) _
  rw [if_neg hstale]
  change EStateM.bind (field _ _) _ (client, bits) ≠ _
  unfold EStateM.bind
  rw [hfield]
  dsimp only
  rw [hdata]
  intro h
  cases h

/-- A delta record goes on with a clear bit and the frame of its baseline. -/
theorem upsertBits_delta {w : WrittenRecord} {slot q : Nat} {archetype : SyncArchetypeId} {data : QuantizedFrameData}
    {mask : Mask} {record : UpdateRecord} {cues : List PendingCue} {baselineFrame : SyncFrame} {tagMask : Option Mask}
    {components : List (Nat × Bits)} {definition : SyncArchetype} (tier0Bits : Nat)
    (hcontent : w.content = .update slot q archetype data mask record cues)
    (hbody : record.body = .delta baselineFrame tagMask components) (hid : record.networkId = w.networkId)
    (hdef : settings.archetypes[archetype]? = some definition) :
    ∃ body, w.upsertBits tier0Bits settings = [false] ++ (writeBaselineFrame w.frame baselineFrame ++ body) := by
  refine ⟨encodeDeltaBody definition tagMask components ++ writePendingCues w.frame record.cues, ?_⟩
  have hbits : w.bits tier0Bits settings = ([false] ++ writeNetworkEntityId w.networkId tier0Bits) ++
      ([false] ++ (writeBaselineFrame w.frame baselineFrame ++
        (encodeDeltaBody definition tagMask components ++ writePendingCues w.frame record.cues))) := by
    simp only [WrittenRecord.bits, hcontent, hdef, Option.elim_some, encodeUpdateRecord, hbody, hid,
      List.append_assoc, List.cons_append, List.nil_append]
  unfold WrittenRecord.upsertBits
  rw [hbits, Nat.add_comm, ← List.length_singleton (a := false), Nat.add_comm, ← List.length_append, List.drop_left]

omit [LocalRegistry R] in
/-- A record whose baseline is found is not refused for the want of it. -/
theorem readUpsertMetadata_found {w : WrittenRecord} {e : Nat} {baselineFrame : SyncFrame} {bits body rest : Bits}
    (hfound : client.store.findByWireId w.networkId = some (e, client.entity e)) {data : QuantizedFrameData}
    (hbits : bits = [false] ++ (writeBaselineFrame w.frame baselineFrame ++ body)) (hrange : baselineFrame < 2 ^ 32)
    (hdata : (client.entity e).findBaseline baselineFrame = some data) (s : ReplicationClient R × Bits) :
    readUpsertMetadata w.frame w.networkId (client, bits ++ rest) ≠ .error "delta_missing_baseline" s := by
  have htouched := Touched.networkIdForWire client client.clientId w.networkId
  have hread : readBaselineFrame w.frame (writeBaselineFrame w.frame baselineFrame ++ (body ++ rest)) =
      some (baselineFrame, body ++ rest) := (reads_frameBack hrange : Reads (readBaselineFrame w.frame) _ _) _
  rw [hbits, List.append_assoc, List.append_assoc]
  unfold readUpsertMetadata
  rw [ReadM.field_bind _ (reads_bit false), ReadM.networkIdForWire_bind]
  split
  · intro h
    exact absurd (EStateM.Result.error.inj h).1 (by decide)
  rw [if_neg Bool.false_ne_true]
  dsimp only
  have hfound' := (htouched.findByWireId w.networkId).trans hfound
  have hsame := htouched.entity e
  generalize ({ client with store := (client.store.clientEntityNetworkIdForWire client.clientId w.networkId).1 } :
    ReplicationClient R) = touched at htouched hfound' hsame ⊢
  rw [← hsame] at hfound' hdata
  exact readDeltaMetadata_found hfound' hread hdata s

end

section

variable {R : Type} [LocalRegistry R] {client : ReplicationClient R} {options : ReplicationServerOptions}
  {settings : SyncSettings} {s : ReplicationServer} {replicator : ServerClientReplicator} {w : WrittenRecord}

/-- Whatever packets a client was given, a delta that the server wrote against a baseline the client accepted finds it
exactly while the client still holds it. -/
theorem baseline_available_iff (hs : InOrderReachable options settings s) (hreplicator : replicator ∈ s.clients)
    (hw : w ∈ replicator.trace.written) {slot q : Nat} {archetype : SyncArchetypeId} {data : QuantizedFrameData}
    {mask : Mask} {record : UpdateRecord} {cues : List PendingCue}
    (hcontent : w.content = .update slot q archetype data mask record cues) {baselineFrame : SyncFrame}
    {tagMask : Option Mask} {components : List (Nat × Bits)}
    (hdelta : record.body = .delta baselineFrame tagMask components) (hclient : ClientReachable client) {e : Nat}
    (hfound : client.store.findByWireId w.networkId = some (e, client.entity e))
    (hpresent : (client.entity e).entityPresent = true) {call : UpsertCall} (hcall : call ∈ client.recordsOf e)
    (hframe : call.frame = baselineFrame) :
    FindsBaseline settings client w e call ↔ StillHeld (client.recordsOf e) call.frame := by
  have hretained := hclient.retains e hpresent
  refine ⟨fun h => (hretained.findBaseline_iff hcall).mp h.found, fun hheld => ?_⟩
  have hdata := (hretained.findBaseline_iff hcall).mpr hheld
  obtain ⟨-, -, hwritten⟩ := writtenInvRule.inOrder hs replicator hreplicator
  have hsettings : s.core.settings = settings := (inOrder_moves hs).settings (ServerInv.start options settings)
  rcases hwritten.source w hw with hdestroy | ⟨hcontent', hfrom⟩
  · rw [hdestroy] at hcontent
    cases hcontent
  rw [hcontent] at hcontent'
  simp only [WrittenContent.update.injEq] at hcontent'
  obtain ⟨-, -, rfl, rfl, rfl, rfl, rfl⟩ := hcontent'
  have hbody := hfrom.body
  rw [hdelta] at hbody
  cases hbody with
  | delta hbaseline =>
    obtain ⟨-, v, hv, hearlier⟩ := hfrom.baseline _ hbaseline
    obtain ⟨_, _, _, _, _, hearlierContent, -⟩ := hearlier.content
    have hat : v.frame = baselineFrame := hearlier.frame
    have hrange : baselineFrame < 2 ^ 32 := by
      rw [← hat]
      exact (hwritten.frames v hv (by simp [WrittenRecord.slot?, hearlierContent])).2
    refine ⟨hdata, fun tier0Bits rest => ?_⟩
    have hdef := hfrom.archetype
    rw [hsettings] at hdef
    obtain ⟨body, hbits⟩ := upsertBits_delta tier0Bits hcontent hdelta hfrom.networkId hdef
    exact readUpsertMetadata_found hfound hbits hrange (hframe ▸ hdata)

end

/-! ## Sixty-four frames apart -/

namespace Sample

def heldClient : ReplicationClient Table :=
  receive (newClient .snap) 1 (((client twoFrames).trace.written.find? fun w => w.frame == 1).elim [] recordBits)

theorem heldClient_reachable : ClientReachable heldClient :=
  .step (.init _ _ _ _ settings_pushesAll (by decide)) (step_receive _ 1 _ (by decide) (by decide) (by decide))

theorem findByWireId_first {client : ReplicationClient Table} {w : Nat} (hw : w = 1)
    (hindex : (client.store.wireNetworkIds 1).entityIndex = some 0) (hlength : client.store.entities.length = 1)
    (hid : (client.entity 0).wireNetworkId = 1) : client.store.findByWireId w = some (0, client.entity 0) := by
  subst hw
  have hget := List.getElem?_eq_getElem (hlength ▸ Nat.zero_lt_one : 0 < client.store.entities.length)
  refine findByWireId_eq_some.mpr ⟨Nat.one_ne_zero, hindex, ?_, hid⟩
  rw [ReplicationClient.entity, hget, Option.getD_some]

def deltaAgainst (frame : SyncFrame) (w : WrittenRecord) : Bool :=
  match w.content with
  | .update _ _ _ _ _ record _ => match record.body with
    | .delta baselineFrame _ _ => baselineFrame == frame && w.networkId == 1
    | .full .. => false
  | .destroy => false

theorem deltaAgainst_content {frame : SyncFrame} {w : WrittenRecord} (h : deltaAgainst frame w = true) :
    w.networkId = 1 ∧ ∃ slot q archetype data mask record cues tagMask components,
      w.content = .update slot q archetype data mask record cues ∧ record.body = .delta frame tagMask components := by
  unfold deltaAgainst at h
  split at h
  · split at h
    · rename_i hcontent _ _ _ _ hbody
      simp only [Bool.and_eq_true, beq_iff_eq] at h
      exact ⟨h.2, _, _, _, _, _, _, _, _, _, hcontent, h.1 ▸ hbody⟩
    · cases h
  · cases h

/-- Of the run and of the client that has its first packet. -/
theorem heldClient_entity : ordered (ReplicationServer.start options settings) twoFrames = true ∧
    client twoFrames ∈ (after twoFrames).clients ∧
    (∃ w ∈ (client twoFrames).trace.written, deltaAgainst 1 w = true) ∧
    (heldClient.store.wireNetworkIds 1).entityIndex = some 0 ∧ heldClient.store.entities.length = 1 ∧
    (heldClient.entity 0).wireNetworkId = 1 ∧ (heldClient.entity 0).entityPresent = true ∧
    (heldClient.recordsOf 0).map (fun call => call.frame) = [1] := by
  decide +kernel

def farPacket (i : Nat) : SentPacket := sentPacketAt (client farOps) i

/-- It was given the packets of frames 1 and 65. -/
def spreadClient : ReplicationClient Table := givenPair settings (newClient .snap) (farPacket 1) (farPacket 2)

def refused (result : EStateM.Result String (ReplicationClient Table × Bits) UpsertMetadata) : Bool :=
  match result with
  | .error reason _ => reason == "delta_missing_baseline"
  | .ok .. => false

theorem refused_error {result : EStateM.Result String (ReplicationClient Table × Bits) UpsertMetadata}
    (h : refused result = true) : ∃ s, result = .error "delta_missing_baseline" s := by
  cases result with
  | ok => cases h
  | error reason s => exact ⟨s, congrArg (EStateM.Result.error · s) (beq_iff_eq.mp h)⟩

/-- Of the run, and of the client that is to read the third packet. -/
theorem spreadClient_entity : ordered (ReplicationServer.start options settings) farOps = true ∧
    pairInFlight settings (after farOps) (client farOps) (newClient .snap) (farPacket 1) (farPacket 2) = true ∧
    farPacket 0 ∈ (client farOps).transport ∧
    (∃ w ∈ (farPacket 0).records, deltaAgainst 1 w = true ∧ w ∈ (client farOps).trace.written ∧
      refused (readUpsertMetadata w.frame w.networkId (spreadClient, w.upsertBits 11 settings)) = true) ∧
    (spreadClient.store.wireNetworkIds 1).entityIndex = some 0 ∧ spreadClient.store.entities.length = 1 ∧
    (spreadClient.entity 0).wireNetworkId = 1 ∧ (spreadClient.entity 0).entityPresent = true ∧
    1 ∈ (spreadClient.recordsOf 0).map (fun call => call.frame) ∧
    (spreadClient.entity 0).findBaseline 1 = none ∧ spreadClient.ackQueue = [1, 2] := by
  decide +kernel

end Sample

theorem baseline_available_iff_held : ∃ call ∈ Sample.heldClient.recordsOf 0, call.frame = 1 ∧
    ∃ w ∈ (Sample.client Sample.twoFrames).trace.written,
    FindsBaseline Sample.settings Sample.heldClient w 0 call := by
  have hreachable := Sample.heldClient_reachable
  obtain ⟨hordered, hin, ⟨w, hw, hdelta⟩, hindex, hlength, hid, hpresent, hframes⟩ := Sample.heldClient_entity
  obtain ⟨hwire, _, _, _, _, _, _, _, _, _, hcontent, hbody⟩ := Sample.deltaAgainst_content hdelta
  generalize Sample.heldClient = client at *
  obtain ⟨call, hcall, hframe⟩ := List.mem_map.mp (hframes ▸ List.mem_cons_self : 1 ∈ _)
  have hfound := Sample.findByWireId_first hwire hindex hlength hid
  have hheld : StillHeld (client.recordsOf 0) call.frame := by
    refine .inl fun later hlater hnewer => ?_
    have hone := List.mem_map_of_mem (f := fun call : UpsertCall => call.frame) hlater
    rw [hframes, List.mem_singleton] at hone
    rw [hone, hframe] at hnewer
    exact absurd hnewer (Nat.lt_irrefl 1)
  exact ⟨call, hcall, hframe, w, hw, (baseline_available_iff (Sample.inOrder Sample.twoFrames hordered)
    hin hw hcontent hbody hreachable hfound hpresent hcall hframe).mpr hheld⟩

/-- The acknowledgement of frame 65 is late: the server writes frame 66 against frame 1, which the client no longer
has. -/
theorem baseline_unavailable : ∃ (s : ReplicationServer) (replicator : ServerClientReplicator)
    (client : ReplicationClient Sample.Table), InOrderReachable Sample.options Sample.settings s ∧
    replicator ∈ s.clients ∧
    ClientFed s.core.options.protocol Sample.settings replicator.transport client ∧ client.ackQueue = [1, 2] ∧
    ∃ p ∈ replicator.transport, ∃ w ∈ p.records, w ∈ replicator.trace.written ∧
    (∃ slot q archetype data mask record cues tagMask components,
      w.content = .update slot q archetype data mask record cues ∧ record.body = .delta 1 tagMask components) ∧
    client.store.findByWireId w.networkId = some (0, client.entity 0) ∧ (client.entity 0).entityPresent = true ∧
    ∃ call ∈ client.recordsOf 0, call.frame = 1 ∧ ¬ FindsBaseline Sample.settings client w 0 call ∧
      ∃ left, readUpsertMetadata w.frame w.networkId (client, w.upsertBits 11 Sample.settings) =
        .error "delta_missing_baseline" left := by
  obtain ⟨hordered, hpair, hpacket, ⟨w, hw, hdelta, hwritten, hrefused⟩, hindex, hlength, hid, hpresent,
    hframes, hnone,
    hacks⟩ := Sample.spreadClient_entity
  obtain ⟨hwire, hcontent⟩ := Sample.deltaAgainst_content hdelta
  obtain ⟨hclient, hfed⟩ := Sample.pair_fed hpair
    (.init { defaultMode := .snap } 1 _ rfl Sample.settings_pushesAll (by decide))
  change ClientFed _ _ _ Sample.spreadClient at hfed
  generalize Sample.spreadClient = client at *
  obtain ⟨call, hcall, hframe⟩ := List.mem_map.mp hframes
  have hfound := Sample.findByWireId_first hwire hindex hlength hid
  refine ⟨_, _, client, Sample.inOrder Sample.farOps hordered, hclient, hfed, hacks, _, hpacket, w, hw, hwritten,
    hcontent, hfound, hpresent, call, hcall, hframe, fun hfinds => ?_, Sample.refused_error hrefused⟩
  have hsome := hfinds.found
  rw [hframe, hnone] at hsome
  cases hsome

end AshiatoSync
