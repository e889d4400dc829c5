import AshiatoSync.CodecSound
import AshiatoSync.ShownSound

/-!
# Which baselines a client still has

A state keeps the last baseline of each slot of its history, and pins the one it
overwrites while the deltas refer to it.  So the baseline of an accepted record
can be found until a record is accepted whose frame is a multiple of 64 later,
and from then on only while it is the one that was pinned.
-/

namespace AshiatoSync

open LocalRegistry ReplicationClient ReadM BitCodec

/-! ## What stored records leave -/

def UpsertCall.entry (call : UpsertCall) : EntityFrameBaseline where
  frame := call.frame
  valid := true
  baseline := call.after.baseline

def UpsertCall.referenced (call : UpsertCall) : Option SyncFrame :=
  match call.baselineFrame with
  | some frame => some frame
  | none => if call.before.hasReferencedBaseline then some call.before.referencedBaselineFrame else none

def newestInSlot (records : List UpsertCall) (frame : SyncFrame) : Option UpsertCall :=
  records.find? fun call => call.frame % baselineRetentionCount == frame % baselineRetentionCount

def UpsertCall.pins (call : UpsertCall) (earlier : List UpsertCall) : Option UpsertCall :=
  (newestInSlot earlier call.frame).filter fun old => call.referenced == some old.frame

def pinnedRecord : List UpsertCall → Option UpsertCall
  | [] => none
  | call :: earlier => (call.pins earlier).or (pinnedRecord earlier)

/-- No later record is a multiple of 64 frames later, or the baseline of `frame` was pinned when one came and no other
baseline has been pinned since. -/
def StillHeld (records : List UpsertCall) (frame : SyncFrame) : Prop :=
  (∀ later ∈ records, frame < later.frame → later.frame % baselineRetentionCount ≠
    frame % baselineRetentionCount) ∨
    (pinnedRecord records).map UpsertCall.frame = some frame

structure Retained (records : List UpsertCall) (s : EntityState) : Prop where
  sized : s.history = [] ∨ s.history.length = baselineRetentionCount
  slots : ∀ frame, s.fullHistory[frame % baselineRetentionCount]? =
    some (((newestInSlot records frame).map UpsertCall.entry).getD {})
  pinned : s.pinnedWireBaseline = ((pinnedRecord records).map UpsertCall.entry).getD {}
  ordered : records.Pairwise fun later earlier => earlier.frame < later.frame
  reached : ∀ call ∈ records, call.frame ≤ s.frame
  kinds : s.frame ≠ 0 → ∀ call ∈ records, call.archetype = s.archetype
  latest : s.frame ≠ 0 → records.head?.map UpsertCall.frame = some s.frame

section

variable {s : EntityState} {records : List UpsertCall} {call : UpsertCall} {frame : SyncFrame}

theorem Retained.new (hframe : s.frame = 0) (hhistory : s.history = []) (hpinned : s.pinnedWireBaseline = {}) :
    Retained [] s := by
  refine ⟨.inl hhistory, fun frame => ?_, hpinned, .nil, (fun _ h => by cases h), (fun _ _ h => by cases h),
    fun hne => absurd hframe hne⟩
  have hfull : s.fullHistory = List.replicate baselineRetentionCount {} := by
    unfold EntityState.fullHistory
    rw [hhistory, if_pos (by decide)]
  rw [hfull, List.getElem?_replicate_of_lt (Nat.mod_lt frame (by decide))]
  simp [newestInSlot]

/-- `find_baseline`, on a history that is empty or whole. -/
theorem findBaseline_of_sized (hsized : s.history = [] ∨ s.history.length = baselineRetentionCount)
    (frame : SyncFrame) :
    s.findBaseline frame =
      (((s.fullHistory[frame % baselineRetentionCount]?).filter fun b => b.valid && b.frame == frame).or
      ((some s.pinnedWireBaseline).filter fun b => b.valid && b.frame == frame)).map EntityFrameBaseline.baseline := by
  have hfound : (if s.history.length = baselineRetentionCount then
      (s.history[frame % baselineRetentionCount]?).filter fun b => b.valid && b.frame == frame
      else s.history.reverse.find? fun b => b.valid && b.frame == frame) =
      (s.fullHistory[frame % baselineRetentionCount]?).filter fun b => b.valid && b.frame == frame := by
    unfold EntityState.fullHistory
    rcases hsized with hnil | hlength
    · rw [hnil, if_neg (by decide), if_pos (by decide), List.getElem?_replicate_of_lt (Nat.mod_lt frame (by decide))]
      rfl
    · rw [if_pos hlength, if_neg (not_not.mpr hlength)]
  unfold EntityState.findBaseline
  dsimp only
  rw [hfound]
  cases (s.fullHistory[frame % baselineRetentionCount]?).filter fun b => b.valid && b.frame == frame with
  | some b => rfl
  | none =>
    dsimp only
    rw [Option.none_or, Option.filter_some]
    split
    · rfl
    · rfl

theorem filter_entry (found : Option UpsertCall) (frame : SyncFrame) :
    (some ((found.map UpsertCall.entry).getD {})).filter (fun b => b.valid && b.frame == frame) =
      (found.filter fun call => call.frame == frame).map UpsertCall.entry := by
  cases found with
  | none => rfl
  | some call =>
    simp only [Option.map_some, Option.getD_some, Option.filter_some, UpsertCall.entry, Bool.true_and]
    split
    · rfl
    · rfl

theorem Retained.findBaseline_eq (h : Retained records s) (frame : SyncFrame) :
    s.findBaseline frame = (((newestInSlot records frame).filter fun call => call.frame == frame).or
      ((pinnedRecord records).filter fun call => call.frame == frame)).map fun call => call.after.baseline := by
  rw [findBaseline_of_sized h.sized, h.slots, h.pinned, filter_entry, filter_entry, ← Option.map_or, Option.map_map]
  rfl

theorem newestInSlot_eq_some (h : newestInSlot records frame = some call) :
    call ∈ records ∧ call.frame % baselineRetentionCount = frame % baselineRetentionCount :=
  ⟨List.mem_of_find?_eq_some h, by simpa using List.find?_some h⟩

theorem mem_of_pinnedRecord : ∀ {records : List UpsertCall} {call : UpsertCall}, pinnedRecord records =
    some call → call ∈ records
  | [], _, h => by cases h
  | later :: records, call, h => by
    unfold pinnedRecord at h
    rcases Option.or_eq_some_iff.mp h with hpins | ⟨_, hearlier⟩
    · unfold UpsertCall.pins at hpins
      exact List.mem_cons_of_mem later (newestInSlot_eq_some (Option.filter_eq_some_iff.mp hpins).1).1
    · exact List.mem_cons_of_mem later (mem_of_pinnedRecord hearlier)

theorem eq_of_frame :
    ∀ {records : List UpsertCall}, records.Pairwise (fun later earlier => earlier.frame < later.frame) →
    ∀ {call call' : UpsertCall}, call ∈ records → call' ∈ records → call.frame = call'.frame → call = call'
  | [], _, _, _, hcall, _, _ => by cases hcall
  | later :: records, hordered, call, call', hcall, hcall', hframe => by
    obtain ⟨hnewer, hordered⟩ := List.pairwise_cons.mp hordered
    rcases List.mem_cons.mp hcall with rfl | hmem
    · rcases List.mem_cons.mp hcall' with rfl | hmem'
      · rfl
      · exact absurd hframe (Nat.ne_of_gt (hnewer call' hmem'))
    · rcases List.mem_cons.mp hcall' with rfl | hmem'
      · exact absurd hframe (Nat.ne_of_lt (hnewer call hmem))
      · exact eq_of_frame hordered hmem hmem' hframe

theorem le_newestInSlot :
    ∀ {records : List UpsertCall}, records.Pairwise (fun later earlier => earlier.frame < later.frame) →
    ∀ {newest call : UpsertCall}, newestInSlot records frame = some newest → call ∈ records →
      call.frame % baselineRetentionCount = frame % baselineRetentionCount → call.frame ≤ newest.frame
  | [], _, _, _, _, hcall, _ => by cases hcall
  | later :: records, hordered, newest, call, hnewest, hcall, hslot => by
    obtain ⟨hnewer, hordered⟩ := List.pairwise_cons.mp hordered
    by_cases hlater : later.frame % baselineRetentionCount = frame % baselineRetentionCount
    · have hfirst : newestInSlot (later :: records) frame = some later :=
        List.find?_cons_of_pos (by simpa using hlater)
      obtain rfl : later = newest := Option.some.inj (hfirst.symm.trans hnewest)
      rcases List.mem_cons.mp hcall with rfl | hmem
      · exact Nat.le_refl _
      · exact Nat.le_of_lt (hnewer call hmem)
    · have hrest : newestInSlot (later :: records) frame = newestInSlot records frame :=
        List.find?_cons_of_neg (by simpa using hlater)
      rcases List.mem_cons.mp hcall with rfl | hmem
      · exact absurd hslot hlater
      · exact le_newestInSlot hordered (hrest.symm.trans hnewest) hmem hslot

theorem Retained.found_data (h : Retained records s) (hcall : call ∈ records) {data : QuantizedFrameData}
    (hfound : s.findBaseline call.frame = some data) : data = call.after.baseline := by
  rw [h.findBaseline_eq] at hfound
  obtain ⟨found, hor, rfl⟩ := Option.map_eq_some_iff.mp hfound
  rcases Option.or_eq_some_iff.mp hor with hnewest | ⟨_, hpinned⟩
  · obtain ⟨hnewest, hframe⟩ := Option.filter_eq_some_iff.mp hnewest
    rw [eq_of_frame h.ordered (newestInSlot_eq_some hnewest).1 hcall (by simpa using hframe)]
  · obtain ⟨hpinned, hframe⟩ := Option.filter_eq_some_iff.mp hpinned
    rw [eq_of_frame h.ordered (mem_of_pinnedRecord hpinned) hcall (by simpa using hframe)]

theorem Retained.findBaseline_iff (h : Retained records s) (hcall : call ∈ records) :
    s.findBaseline call.frame = some call.after.baseline ↔ StillHeld records call.frame := by
  obtain ⟨newest, hnewest⟩ : ∃ newest, newestInSlot records call.frame = some newest := by
    refine Option.isSome_iff_exists.mp (List.find?_isSome.mpr ⟨call, hcall, ?_⟩)
    simp
  obtain ⟨hmem, hslot⟩ := newestInSlot_eq_some hnewest
  have hle := le_newestInSlot h.ordered hnewest hcall rfl
  rw [h.findBaseline_eq, hnewest]
  by_cases hframe : newest.frame = call.frame
  · -- no later record came into its slot
    obtain rfl := eq_of_frame h.ordered hmem hcall hframe
    have hheld : StillHeld records newest.frame := .inl fun later hlater hlt heq =>
      absurd (le_newestInSlot h.ordered hnewest hlater heq) (Nat.not_le_of_gt hlt)
    simp [hheld]
  · have hlater : newest.frame % baselineRetentionCount = call.frame % baselineRetentionCount := hslot
    have hlt : call.frame < newest.frame := Nat.lt_of_le_of_ne hle (Ne.symm hframe)
    have hfilter : (some newest).filter (fun old => old.frame == call.frame) = none := by
      rw [Option.filter_some, if_neg (by simpa using hframe)]
    rw [hfilter, Option.none_or]
    constructor
    · intro hfound
      obtain ⟨pinned, hpinned, _⟩ := Option.map_eq_some_iff.mp hfound
      obtain ⟨hpinned, hat⟩ := Option.filter_eq_some_iff.mp hpinned
      refine .inr ?_
      rw [hpinned, Option.map_some, (by simpa using hat : pinned.frame = call.frame)]
    · rintro (hnone | hpinned)
      · exact absurd hlater (hnone newest hmem hlt)
      · obtain ⟨pinned, hrecord, hat⟩ := Option.map_eq_some_iff.mp hpinned
        obtain rfl := eq_of_frame h.ordered (mem_of_pinnedRecord hrecord) hcall hat
        rw [hrecord, Option.filter_some, if_pos (by simp), Option.map_some]

/-- What `remember_baseline` makes of the history and the pin. -/
theorem rememberBaseline_fields (s : EntityState) :
    s.rememberBaseline.history = s.fullHistory.set (s.frame % baselineRetentionCount)
      { frame := s.frame, valid := true, baseline := s.baseline } ∧
    s.rememberBaseline.pinnedWireBaseline =
      (if s.hasReferencedBaseline && ((s.fullHistory[s.frame % baselineRetentionCount]?).getD {}).valid &&
          ((s.fullHistory[s.frame % baselineRetentionCount]?).getD {}).frame == s.referencedBaselineFrame then
        (s.fullHistory[s.frame % baselineRetentionCount]?).getD {}
      else s.pinnedWireBaseline) ∧
    s.rememberBaseline.frame = s.frame ∧ s.rememberBaseline.archetype = s.archetype := by
  have heq : s.rememberBaseline =
      if s.hasReferencedBaseline && ((s.fullHistory[s.frame % baselineRetentionCount]?).getD {}).valid &&
          ((s.fullHistory[s.frame % baselineRetentionCount]?).getD {}).frame == s.referencedBaselineFrame then
        { s with
          history :=
            s.fullHistory.set
              (s.frame % baselineRetentionCount) { frame := s.frame, valid := true, baseline := s.baseline }
          pinnedWireBaseline := (s.fullHistory[s.frame % baselineRetentionCount]?).getD {} }
      else { s with
        history :=
          s.fullHistory.set
            (s.frame % baselineRetentionCount) { frame := s.frame, valid := true, baseline := s.baseline } } := rfl
  rw [heq]
  split
  · exact ⟨rfl, rfl, rfl, rfl⟩
  · exact ⟨rfl, rfl, rfl, rfl⟩

/-- `remember_baseline` of a newer record. -/
theorem Retained.remember {s₀ : EntityState} (h : Retained records s₀) (hhistory : s.history = s₀.history)
    (hpinned : s.pinnedWireBaseline = s₀.pinnedWireBaseline) (hnewer : s₀.frame < s.frame)
    (hframe : call.frame = s.frame) (hbaseline : call.after.baseline = s.baseline)
    (hreferenced : call.referenced = if s.hasReferencedBaseline then some s.referencedBaselineFrame else none)
    (hkind : call.archetype = s.archetype) (hkept : s₀.frame ≠ 0 → s.archetype = s₀.archetype)
    (hnone : s₀.frame = 0 → records = []) :
    Retained (call :: records) s.rememberBaseline := by
  obtain ⟨hhistory', hpinned', hframe', harchetype'⟩ := rememberBaseline_fields s
  have hfull : s.fullHistory = s₀.fullHistory := by
    unfold EntityState.fullHistory
    rw [hhistory]
  have hentry : ({ frame := s.frame, valid := true, baseline := s.baseline } : EntityFrameBaseline) = call.entry := by
    rw [UpsertCall.entry, hframe, hbaseline]
  have hlength : s.rememberBaseline.history.length = baselineRetentionCount := by
    rw [hhistory', List.length_set, length_fullHistory]
  have hsame : s.rememberBaseline.fullHistory = s.rememberBaseline.history := by
    conv => lhs; unfold EntityState.fullHistory
    rw [if_neg (not_not.mpr hlength)]
  refine ⟨.inr hlength, fun frame => ?_, ?_, List.pairwise_cons.mpr ⟨fun old hold => ?_, h.ordered⟩,
    fun old hold => ?_, fun _ old hold => ?_, fun _ => ?_⟩
  · rw [hsame, hhistory', hentry, ← hframe, hfull]
    by_cases hslot : call.frame % baselineRetentionCount = frame % baselineRetentionCount
    · have hfirst : newestInSlot (call :: records) frame = some call := List.find?_cons_of_pos (by simpa using hslot)
      rw [hfirst, hslot, List.getElem?_set_self (slot_lt_fullHistory frame)]
      rfl
    · have hrest : newestInSlot (call :: records) frame = newestInSlot records frame :=
        List.find?_cons_of_neg (by simpa using hslot)
      rw [hrest, List.getElem?_set_ne hslot]
      exact h.slots frame
  · rw [hpinned', hfull, ← hframe, h.slots, Option.getD_some, hpinned, h.pinned]
    have hpins : pinnedRecord (call :: records) = (call.pins records).or (pinnedRecord records) := rfl
    rw [hpins, UpsertCall.pins, hreferenced]
    cases hold : newestInSlot records call.frame with
    | none => simp
    | some old =>
      simp only [Option.map_some, Option.getD_some, Option.filter_some]
      cases s.hasReferencedBaseline with
      | false => simp
      | true =>
        by_cases heq : old.frame = s.referencedBaselineFrame
        · simp [UpsertCall.entry, heq]
        · simp [UpsertCall.entry, heq, Ne.symm heq]
  · rw [hframe]
    exact Nat.lt_of_le_of_lt (h.reached old hold) hnewer
  · rw [hframe']
    rcases List.mem_cons.mp hold with rfl | hmem
    · exact Nat.le_of_eq hframe
    · exact Nat.le_of_lt (Nat.lt_of_le_of_lt (h.reached old hmem) hnewer)
  · rw [harchetype']
    rcases List.mem_cons.mp hold with rfl | hmem
    · exact hkind
    · have hstarted : s₀.frame ≠ 0 := fun hzero => by
        rw [hnone hzero] at hmem
        cases hmem
      rw [hkept hstarted]
      exact h.kinds hstarted old hmem
  · rw [List.head?_cons, Option.map_some, hframe, hframe']

end

/-! ## Calls that store nothing -/

structure StoredPart where
  id : ClientEntityNetworkId
  present : Bool
  frame : SyncFrame
  history : List EntityFrameBaseline
  pinned : EntityFrameBaseline
  referenced : SyncFrame
  hasReferenced : Bool
  archetype : SyncArchetypeId

def EntityState.storedPart (s : EntityState) : StoredPart where
  id := s.clientEntityNetworkId
  present := s.entityPresent
  frame := s.frame
  history := s.history
  pinned := s.pinnedWireBaseline
  referenced := s.referencedBaselineFrame
  hasReferenced := s.hasReferencedBaseline
  -- before its first record a state may be of any archetype
  archetype := if s.frame = 0 then 0 else s.archetype

def ClientCall.upsert? : ClientCall → Option UpsertCall
  | .upsert call => some call
  | _ => none

def ReplicationClient.upserts {R : Type} (client : ReplicationClient R) : List UpsertCall :=
  client.trace.filterMap ClientCall.upsert?

structure SameSession {R : Type} (client client' : ReplicationClient R) : Prop where
  settings : client'.settings = client.settings
  options : client'.options = client.options
  clientId : client'.clientId = client.clientId

structure StoresNothing {R : Type} (client client' : ReplicationClient R) : Prop where
  session : SameSession client client'
  length : client'.store.entities.length = client.store.entities.length
  states : ∀ i, (client'.entity i).storedPart = (client.entity i).storedPart
  upserts : client'.upserts = client.upserts

section

variable {R : Type} {client client' client'' : ReplicationClient R} {e : Nat}

theorem SameSession.refl (client : ReplicationClient R) : SameSession client client := ⟨rfl, rfl, rfl⟩

theorem SameSession.trans (h : SameSession client client') (h' : SameSession client' client'') :
    SameSession client client'' :=
  ⟨h'.settings.trans h.settings, h'.options.trans h.options, h'.clientId.trans h.clientId⟩

theorem StoresNothing.refl (client : ReplicationClient R) : StoresNothing client client :=
  ⟨.refl client, rfl, fun _ => rfl, rfl⟩

theorem StoresNothing.trans (h : StoresNothing client client') (h' : StoresNothing client' client'') :
    StoresNothing client client'' :=
  ⟨h.session.trans h'.session, h'.length.trans h.length, fun i => (h'.states i).trans (h.states i),
  h'.upserts.trans h.upserts⟩

theorem StoresNothing.of_eq (hstore : client'.store = client.store) (htrace : client'.trace = client.trace)
    (hsession : SameSession client client') : StoresNothing client client' := by
  refine ⟨hsession, by rw [hstore], fun i => ?_, ?_⟩
  · rw [ReplicationClient.entity, ReplicationClient.entity, hstore]
  · rw [ReplicationClient.upserts, ReplicationClient.upserts, htrace]

theorem storesNothing_modifyEntity {f : EntityState → EntityState} (hf : ∀ s, (f s).storedPart = s.storedPart)
    (e : Nat) :
    StoresNothing client (client.modifyEntity e f) := by
  refine ⟨⟨rfl, rfl, rfl⟩, by simp [ReplicationClient.modifyEntity, ClientEntityStore.modifyEntity],
    fun i => ?_, rfl⟩
  rcases @entity_modifyEntity_or R client e f i with h | h
  · rw [h]
  · rw [h, hf]

theorem storesNothing_modifyEntity_at {f : EntityState → EntityState}
    (hf : (f (client.entity e)).storedPart = (client.entity e).storedPart) :
    StoresNothing client (client.modifyEntity e f) := by
  refine ⟨⟨rfl, rfl, rfl⟩, by simp [ReplicationClient.modifyEntity, ClientEntityStore.modifyEntity],
    fun i => ?_, rfl⟩
  by_cases hi : i = e
  · subst hi
    rcases @entity_modifyEntity_or R client i f i with h | h
    · rw [h]
    · rw [h, hf]
  · rw [entity_modifyEntity_ne hi]

theorem storedPart_setArchetype {s : EntityState} {archetype : SyncArchetypeId}
    (hkind : s.frame ≠ 0 → archetype = s.archetype) :
    ({ s with archetype } : EntityState).storedPart = s.storedPart := by
  unfold EntityState.storedPart
  by_cases hframe : s.frame = 0
  · simp [hframe]
  · simp [hkind hframe]

theorem storesNothing_setArchetype {archetype : SyncArchetypeId}
    (hkind : (client.entity e).frame ≠ 0 → archetype = (client.entity e).archetype) :
    StoresNothing client (client.modifyEntity e fun s => { s with archetype }) :=
  storesNothing_modifyEntity_at (storedPart_setArchetype hkind)

theorem storedPart_of_unlisted {s t : EntityState} (h : s.unlisted = t.unlisted) : s.storedPart = t.storedPart := by
  have hstored := congrArg EntityState.storedPart h
  exact hstored

theorem StoresNothing.relisted {store : ClientEntityStore} (h : Relisted client.store store) :
    StoresNothing client { client with store } :=
  ⟨⟨rfl, rfl, rfl⟩, h.length, fun i => storedPart_of_unlisted (h.unlisted i), rfl⟩

theorem storesNothing_sync (client : ReplicationClient R) (e : Nat) :
    StoresNothing client (client.syncEntityMemberships e) :=
  .relisted (relisted_sync client.store e)

theorem storesNothing_logCall {call : ClientCall} (h : call.upsert? = none) :
    StoresNothing client (client.logCall call) :=
  ⟨⟨rfl, rfl, rfl⟩, rfl, fun _ => rfl, List.filterMap_cons_none h⟩

theorem Quiet.storesNothing (h : Quiet client client') : StoresNothing client client' := by
  obtain ⟨plays, hplays⟩ := h.trace
  refine ⟨⟨h.settings, h.options, h.clientId⟩, by rw [h.store], fun i => by rw [h.entity], ?_⟩
  unfold ReplicationClient.upserts
  rw [hplays, List.filterMap_append, List.filterMap_map]
  have hnone : plays.filterMap (ClientCall.upsert? ∘ ClientCall.play) = [] :=
    List.filterMap_eq_nil_iff.mpr fun _ _ => rfl
  rw [hnone, List.nil_append]

theorem Touched.storesNothing (h : Touched client client') : StoresNothing client client' := by
  obtain ⟨wires, rfl⟩ := h.same
  exact ⟨⟨rfl, rfl, rfl⟩, rfl, fun _ => rfl, rfl⟩

end

section

variable {R : Type} [LocalRegistry R] {client client' : ReplicationClient R} {e : Nat}

theorem storesNothing_applyRegistryFrame (client : ReplicationClient R) (e : Nat) (archetype : SyncArchetype)
    (input : RegistryFrameApplyInfo) : StoresNothing client (client.applyRegistryFrame e archetype input).1 := by
  have h : StoresNothing client (client.modifyEntity e fun s =>
      { s with localEntity := some (ensureLocalEntity client.registry (client.entity e).localEntity).2 }) := by
    apply storesNothing_modifyEntity
    intro _
    rfl
  exact ⟨⟨rfl, rfl, rfl⟩, h.length, h.states, h.upserts⟩

theorem storesNothing_hideEntity (client : ReplicationClient R) (e : Nat) :
    StoresNothing client (client.hideEntity e) := by
  have h : StoresNothing client
      (client.modifyEntity e fun s => { s with localEntity := none, appliedPresentMask := 0 }) := by
    apply storesNothing_modifyEntity
    intro _
    rfl
  exact ⟨⟨rfl, rfl, rfl⟩, h.length, h.states, h.upserts⟩

omit [LocalRegistry R] in
theorem storesNothing_markApplied (client : ReplicationClient R) (e : Nat) (sample : EntityBufferedFrame) :
    StoresNothing client (client.markApplied e sample) := by
  unfold markApplied
  split
  · exact storesNothing_modifyEntity (by intro _; rfl) e
  · exact .refl client

theorem storesNothing_applyBufferedSample (client : ReplicationClient R) (e : Nat) (sample : EntityBufferedFrame) :
    StoresNothing client (client.applyBufferedSample e sample).1 := by
  unfold applyBufferedSample
  split
  · exact (storesNothing_hideEntity client e).trans (storesNothing_markApplied _ e sample)
  · split
    · exact .refl client
    · rename_i archetype harchetype
      dsimp only
      split
      · rename_i applied happlied
        have h := storesNothing_applyRegistryFrame client e archetype {
          frameData := { sample.baseline with
            presentMask := sample.baseline.presentMask &&& sampleApplyMask (client.entity e) sample }
          previousPresentMask := (client.entity e).appliedPresentMask, nextPresentMask := sample.baseline.presentMask }
        rwa [happlied] at h
      · rename_i applied happlied
        have h := storesNothing_applyRegistryFrame client e archetype {
          frameData := { sample.baseline with
            presentMask := sample.baseline.presentMask &&& sampleApplyMask (client.entity e) sample }
          previousPresentMask := (client.entity e).appliedPresentMask, nextPresentMask := sample.baseline.presentMask }
        rw [happlied] at h
        exact ((h.trans (storesNothing_modifyEntity (by intro _; rfl) e)).trans
          (storesNothing_markApplied _ e sample)).trans
          (storesNothing_logCall rfl)

/-- `apply_snap_sample` of an entity that is there. -/
theorem storesNothing_applySnapSample (hpresent : (client.entity e).entityPresent = true)
    (authoritative : QuantizedFrameData) (mask : Mask) :
    StoresNothing client (client.applySnapSample e authoritative mask).1 := by
  unfold applySnapSample
  split
  · exact .refl client
  · dsimp only
    split
    · exact .refl client
    · rename_i archetype harchetype _ stored hstored
      have hbaseline : StoresNothing client (client.modifyEntity e fun s => { s with baseline := stored }) :=
        storesNothing_modifyEntity (by intro _; rfl) e
      have hframe :=
        storesNothing_applyRegistryFrame (client.modifyEntity e fun s => { s with baseline := stored }) e archetype {
        frameData := { authoritative with presentMask := authoritative.presentMask &&& mask }
        previousPresentMask := (client.entity e).appliedPresentMask, nextPresentMask := authoritative.presentMask }
      split
      · rename_i applied happlied
        rw [happlied] at hframe
        exact hbaseline.trans hframe
      · rename_i applied happlied
        rw [happlied] at hframe
        have happliedPresent : (applied.entity e).entityPresent = true :=
          (congrArg StoredPart.present ((hbaseline.trans hframe).states e)).trans hpresent
        refine ((hbaseline.trans hframe).trans (storesNothing_modifyEntity_at ?_)).trans (storesNothing_sync _ e)
        simp [EntityState.storedPart, happliedPresent]

theorem storesNothing_removeStaleTags (client : ReplicationClient R) (e : Nat) (archetype : SyncArchetypeId)
    (full : Bool) :
    StoresNothing client (client.removeStaleTags e archetype full) := by
  unfold removeStaleTags
  split
  · split
    · exact .of_eq rfl rfl ⟨rfl, rfl, rfl⟩
    · exact .refl client
  · exact .refl client

theorem storesNothing_applyPassedSample (client : ReplicationClient R) (e : Nat) (frame : SyncFrame) :
    StoresNothing client (client.applyPassedSample e frame).1 := by
  unfold applyPassedSample
  split
  · exact .refl client
  · exact storesNothing_applyBufferedSample client e _

omit [LocalRegistry R] in
theorem storesNothing_fillBufferedFrames (client : ReplicationClient R) (e : Nat) (frame : SyncFrame)
    (target : Option QuantizedFrameData) : StoresNothing client (client.fillBufferedFrames e frame target).1 := by
  unfold fillBufferedFrames
  dsimp only
  split
  · exact .refl client
  · split
    · exact .refl client
    · exact .of_eq rfl rfl ⟨rfl, rfl, rfl⟩

omit [LocalRegistry R] in
theorem storesNothing_queueRollback (client : ReplicationClient R) (e : Nat) (frame : SyncFrame) :
    StoresNothing client (client.queueRollback e frame) := by
  have hqueued : StoresNothing client { client with store := client.store.queuePredictionRollback e frame } := by
    unfold ClientEntityStore.queuePredictionRollback
    split
    · exact .refl client
    · dsimp only
      split
      · exact storesNothing_modifyEntity (f := fun s => { s with
          rollbackPending := true, rollbackFrame := if s.rollbackFrame = 0 then frame else max s.rollbackFrame frame })
          (fun _ => rfl) e
      · exact (StoresNothing.relisted (relisted_setMembership client.store .predictionRollback e true)).trans
          (storesNothing_modifyEntity (f := fun s => { s with
            rollbackPending := true
            rollbackFrame := if s.rollbackFrame = 0 then frame else max s.rollbackFrame frame })
            (fun _ => rfl) e)
  exact hqueued.trans (.of_eq rfl rfl ⟨rfl, rfl, rfl⟩)

end

/-! ## Mode switches and frames -/

section

variable {R : Type} [LocalRegistry R] {client : ReplicationClient R} {e : Nat}

omit [LocalRegistry R] in
theorem storesNothing_markModeSelected (client : ReplicationClient R) (e : Nat) (mode : ReplicationClientMode) :
    StoresNothing client (client.modifyEntity e (·.markModeSelected mode)) :=
  storesNothing_modifyEntity (by intro _; rfl) e

theorem storesNothing_finishImmediateModeTransition (client : ReplicationClient R) (e : Nat)
    (previous : ReplicationClientMode) :
    StoresNothing client (client.finishImmediateModeTransition e previous) := by
  have hplayed : StoresNothing client
      (if previous = .bufferedInterpolation then client.playBufferedOnModeTransition e else client) := by
    split
    · exact (quiet_playBufferedOnModeTransition client e).storesNothing
    · exact .refl client
  exact hplayed.trans (.of_eq rfl rfl ⟨rfl, rfl, rfl⟩)

omit [LocalRegistry R] in
theorem storesNothing_transitionToBuffered (client : ReplicationClient R) (e : Nat) :
    StoresNothing client (client.transitionToBuffered e).1 := by
  have hwritten : ∀ (client : ReplicationClient R) (written : FrameRing × Bool), StoresNothing client
      (if !written.2 then (client.setBufferedRing e written.1, false)
      else ((((client.setBufferedRing e written.1).modifyEntity e fun s =>
        { s with appliedPresentMask := s.baseline.presentMask }).syncEntityMemberships e), true)).1 := by
    intro client written
    have hring : StoresNothing client (client.setBufferedRing e written.1) := .of_eq rfl rfl ⟨rfl, rfl, rfl⟩
    split
    · exact hring
    · exact (hring.trans (storesNothing_modifyEntity (by intro _; rfl) e)).trans (storesNothing_sync _ e)
  unfold transitionToBuffered
  split
  · exact .refl client
  · have hmarked : StoresNothing client ((client.modifyEntity e fun s =>
        { s.markModeSelected .bufferedInterpolation with lastAppliedBufferedFrame := 0 }).ensureBufferedRing e) :=
      (storesNothing_modifyEntity (by intro _; rfl) e).trans (.of_eq rfl rfl ⟨rfl, rfl, rfl⟩)
    exact hmarked.trans (hwritten _ _)

theorem storesNothing_applyLatestSnap (client : ReplicationClient R) (e : Nat) :
    StoresNothing client (client.applyLatestSnap e).1 := by
  unfold applyLatestSnap
  dsimp only
  split
  · exact (storesNothing_hideEntity client e).trans (storesNothing_sync _ e)
  · rename_i hpresent
    exact storesNothing_applySnapSample (by simpa using hpresent) _ _

theorem storesNothing_transitionToSnap (client : ReplicationClient R) (e : Nat) :
    StoresNothing client (client.transitionToSnap e).1 := by
  have hsnap := (storesNothing_markModeSelected client e .snap).trans (storesNothing_applyLatestSnap _ e)
  unfold transitionToSnap
  dsimp only
  split
  · rename_i applied happlied
    rw [happlied] at hsnap
    exact hsnap.trans (storesNothing_modifyEntity (by intro _; rfl) e)
  · rename_i applied happlied
    rw [happlied] at hsnap
    exact (hsnap.trans (storesNothing_finishImmediateModeTransition applied e _)).trans (storesNothing_sync _ e)

omit [LocalRegistry R] in
theorem storesNothing_seedExistingAuthoritativeFrame (client : ReplicationClient R) (frame : SyncFrame) :
    StoresNothing client (client.seedExistingAuthoritativeFrame frame) := by
  unfold seedExistingAuthoritativeFrame
  split
  · exact .refl client
  · exact .of_eq rfl rfl ⟨rfl, rfl, rfl⟩

theorem storesNothing_transitionToPredict (client : ReplicationClient R) (e : Nat) :
    StoresNothing client (client.transitionToPredict e).1 := by
  unfold transitionToPredict
  split
  · exact .refl client
  · have hmarked :
        StoresNothing client ((client.modifyEntity e (·.markModeSelected .predict)).ensurePredictedRing e) :=
      (storesNothing_markModeSelected client e .predict).trans (.of_eq rfl rfl ⟨rfl, rfl, rfl⟩)
    dsimp only
    generalize ((client.modifyEntity e (·.markModeSelected .predict)).ensurePredictedRing e) = marked at hmarked
    by_cases hzero : (marked.entity e).frame = 0
    · rw [if_pos hzero]
      exact hmarked.trans ((storesNothing_finishImmediateModeTransition marked e _).trans (storesNothing_sync _ e))
    · rw [if_neg hzero]
      have happly : StoresNothing marked
          (marked.applyFrameData e (marked.entity e).frame (marked.entity e).entityPresent
            (marked.entity e).baseline).1 :=
        storesNothing_applyBufferedSample marked e _
      generalize marked.applyFrameData e (marked.entity e).frame (marked.entity e).entityPresent
        (marked.entity e).baseline = result at happly
      obtain ⟨applied, ok⟩ := result
      cases ok with
      | false => exact hmarked.trans happly
      | true =>
        refine (hmarked.trans happly).trans (StoresNothing.trans ?_
          ((storesNothing_finishImmediateModeTransition _ e _).trans (storesNothing_sync _ e)))
        dsimp only
        split
        · refine StoresNothing.trans ?_ (storesNothing_seedExistingAuthoritativeFrame _ _)
          exact .of_eq rfl rfl ⟨rfl, rfl, rfl⟩
        · exact .of_eq rfl rfl ⟨rfl, rfl, rfl⟩

theorem storesNothing_setEntityMode (client : ReplicationClient R) (id : ClientEntityNetworkId)
    (mode : ReplicationClientMode) :
    StoresNothing client (client.setEntityMode id mode) := by
  have hreset : ∀ client : ReplicationClient R, StoresNothing client client.resetPredictedFrame :=
    fun _ => .of_eq rfl rfl ⟨rfl, rfl, rfl⟩
  unfold setEntityMode
  split
  · exact .refl client
  · rename_i e s _
    split
    · exact .refl client
    · split
      · exact .refl client
      · dsimp only
        generalize hclient₁ : (if mode = .predict ∧ client.store.members .predicted = []
          then client.resetPredictedFrame
          else client) = client₁
        have h₁ : StoresNothing client client₁ := by
          rw [← hclient₁]
          split
          · exact hreset client
          · exact .refl client
        have hswitch : StoresNothing client₁ (client₁.switchEntityMode e mode).1 := by
          unfold switchEntityMode
          cases mode with
          | snap => exact storesNothing_transitionToSnap client₁ e
          | bufferedInterpolation => exact storesNothing_transitionToBuffered client₁ e
          | predict => exact storesNothing_transitionToPredict client₁ e
        split
        · rename_i switched heq
          rw [heq] at hswitch
          exact h₁.trans hswitch
        · rename_i switched heq
          rw [heq] at hswitch
          have hsynced := (h₁.trans hswitch).trans (storesNothing_sync switched e)
          split
          · exact hsynced.trans (hreset _)
          · exact hsynced

end

/-! ## Records that are stored -/

def sinceCreated : List UpsertCall → List UpsertCall
  | [] => []
  | call :: earlier => if call.before.frame = 0 then [call] else call :: sinceCreated earlier

theorem sinceCreated_cons (call : UpsertCall) (earlier : List UpsertCall) :
    sinceCreated (call :: earlier) = if call.before.frame = 0 then [call] else call :: sinceCreated earlier := rfl

def ReplicationClient.recordsOf {R : Type} (client : ReplicationClient R) (e : Nat) : List UpsertCall :=
  if (client.entity e).frame = 0 then []
  else sinceCreated
    (client.upserts.filter fun call => call.clientEntityNetworkId == (client.entity e).clientEntityNetworkId)

def Retains {R : Type} (client : ReplicationClient R) : Prop :=
  ∀ e, (client.entity e).entityPresent = true → Retained (client.recordsOf e) (client.entity e)

structure SameBaselines (s t : EntityState) : Prop where
  id : t.clientEntityNetworkId = s.clientEntityNetworkId
  present : t.entityPresent = s.entityPresent
  frame : t.frame = s.frame
  history : t.history = s.history
  pinned : t.pinnedWireBaseline = s.pinnedWireBaseline
  archetype : s.frame ≠ 0 → t.archetype = s.archetype

structure StoresRecord {R : Type} (P : QuantizedFrameData → Prop) (e : Nat) (call : UpsertCall)
    (client client' : ReplicationClient R) : Prop where
  session : SameSession client client'
  others : ∀ i, i ≠ e → (client'.entity i).storedPart = (client.entity i).storedPart
  recorded : ∃ (s : EntityState) (after : EntityState) (shown : Shown),
    client'.upserts = { call with after, shown } :: client.upserts ∧
    (client'.entity e).storedPart = s.rememberBaseline.storedPart ∧ after.baseline = s.baseline ∧ P s.baseline ∧
    s.storedPart = { (client.entity e).storedPart with
      present := true, frame := call.frame, archetype := if call.frame = 0 then 0 else call.archetype }

section

variable {R : Type} {client client' client'' : ReplicationClient R} {e : Nat} {call : UpsertCall}
  {P : QuantizedFrameData → Prop}

theorem archetype_of_storedPart {s : EntityState} {part : StoredPart} (h : s.storedPart = part)
    (hframe : s.frame ≠ 0) :
    s.archetype = part.archetype := by
  rw [← h, EntityState.storedPart, if_neg hframe]

theorem SameBaselines.of_storedPart {s t : EntityState} (h : t.storedPart = s.storedPart) : SameBaselines s t := by
  have hframe : t.frame = s.frame := congrArg StoredPart.frame h
  refine ⟨congrArg StoredPart.id h, congrArg StoredPart.present h, hframe, congrArg StoredPart.history h,
    congrArg StoredPart.pinned h, fun hs => ?_⟩
  rw [archetype_of_storedPart h (hframe ▸ hs), EntityState.storedPart, if_neg hs]

theorem Retained.of_same {records : List UpsertCall} {s t : EntityState} (h : Retained records s)
    (hsame : SameBaselines s t) :
    Retained records t := by
  have hfull : t.fullHistory = s.fullHistory := by
    unfold EntityState.fullHistory
    rw [hsame.history]
  refine ⟨by rw [hsame.history]; exact h.sized, fun frame => ?_, by rw [hsame.pinned]; exact h.pinned, h.ordered,
    by rw [hsame.frame]; exact h.reached, fun hframe => ?_, by rw [hsame.frame]; exact h.latest⟩
  · rw [hfull]
    exact h.slots frame
  · rw [hsame.frame] at hframe
    rw [hsame.archetype hframe]
    exact h.kinds hframe

theorem recordsOf_congr (hupserts : client'.upserts = client.upserts)
    (hsame : SameBaselines (client.entity e) (client'.entity e)) :
    client'.recordsOf e = client.recordsOf e := by
  rw [ReplicationClient.recordsOf, ReplicationClient.recordsOf, hupserts, hsame.id, hsame.frame]

theorem Retains.kept_at (h : Retains client) (hupserts : client'.upserts = client.upserts)
    (hsame : SameBaselines (client.entity e) (client'.entity e)) (hpresent : (client'.entity e).entityPresent = true) :
    Retained (client'.recordsOf e) (client'.entity e) := by
  rw [recordsOf_congr hupserts hsame]
  exact (h e (hsame.present.symm.trans hpresent)).of_same hsame

theorem Retains.kept (h : Retains client) (hupserts : client'.upserts = client.upserts)
    (hsame : ∀ i, SameBaselines (client.entity i) (client'.entity i)) : Retains client' :=
  fun i hi => h.kept_at hupserts (hsame i) hi

theorem Retains.same (h : Retains client) (hsame : StoresNothing client client') : Retains client' :=
  h.kept hsame.upserts fun i => .of_storedPart (hsame.states i)

/-- Every other entity has the baselines it had, and `e` has none or is not there. -/
theorem Retains.lost (h : Retains client) (hupserts : client'.upserts = client.upserts)
    (hothers : ∀ i, i ≠ e → (client'.entity i).storedPart = (client.entity i).storedPart)
    (hself : (client'.entity e).entityPresent = false ∨
    ((client'.entity e).frame = 0 ∧ (client'.entity e).history = [] ∧
      (client'.entity e).pinnedWireBaseline = {})) : Retains client' := by
  intro i hi
  by_cases hie : i = e
  · subst hie
    rcases hself with habsent | ⟨hframe, hhistory, hpinned⟩
    · rw [habsent] at hi
      cases hi
    · have hrecords : client'.recordsOf i = [] := if_pos hframe
      rw [hrecords]
      exact .new hframe hhistory hpinned
  · exact h.kept_at hupserts (.of_storedPart (hothers i hie)) hi

theorem StoresRecord.after (h : StoresNothing client client') (h' : StoresRecord P e call client' client'') :
    StoresRecord P e call client client'' := by
  obtain ⟨s, after, shown, hupserts, hstored, hbaseline, hdata, hs⟩ := h'.recorded
  refine ⟨h.session.trans h'.session, fun i hi => (h'.others i hi).trans (h.states i), s, after, shown, ?_,
    hstored, hbaseline,
    hdata, ?_⟩
  · rw [hupserts, h.upserts]
  · rw [hs, h.states e]

theorem StoresRecord.then (h : StoresRecord P e call client client') (h' : StoresNothing client' client'') :
    StoresRecord P e call client client'' := by
  obtain ⟨s, after, shown, hupserts, hstored, hbaseline, hdata, hs⟩ := h.recorded
  exact ⟨h.session.trans h'.session, fun i hi => (h'.states i).trans (h.others i hi), s, after, shown,
    h'.upserts.trans hupserts,
    (h'.states e).trans hstored, hbaseline, hdata, hs⟩

theorem Retains.stored (h : Retains client) (hstores : StoresRecord P e call client client')
    (hid : call.clientEntityNetworkId = (client.entity e).clientEntityNetworkId)
    (hothers : ∀ i, i ≠ e → (client.entity i).clientEntityNetworkId ≠ call.clientEntityNetworkId)
    (hpresent : (client.entity e).entityPresent = true) (hnewer : (client.entity e).frame < call.frame)
    (hbefore : call.before.frame = (client.entity e).frame)
    (hreferenced : call.referenced =
      if (client.entity e).hasReferencedBaseline then some (client.entity e).referencedBaselineFrame else none)
    (hkind : (client.entity e).frame ≠ 0 → call.archetype = (client.entity e).archetype) : Retains client' := by
  obtain ⟨s, after, shown, hupserts, hstored, hbaseline, -, hs⟩ := hstores.recorded
  intro i hi
  by_cases hie : i = e
  · subst hie
    obtain ⟨hhistory, hpinned, hframe, hof⟩ : s.history = (client.entity i).history ∧
        s.pinnedWireBaseline = (client.entity i).pinnedWireBaseline ∧ s.frame = call.frame ∧
        s.clientEntityNetworkId = (client.entity i).clientEntityNetworkId :=
      ⟨congrArg StoredPart.history hs, congrArg StoredPart.pinned hs, congrArg StoredPart.frame hs,
      congrArg StoredPart.id hs⟩
    have hreferencing : s.hasReferencedBaseline = (client.entity i).hasReferencedBaseline ∧
        s.referencedBaselineFrame = (client.entity i).referencedBaselineFrame :=
      ⟨congrArg StoredPart.hasReferenced hs, congrArg StoredPart.referenced hs⟩
    have hsame := SameBaselines.of_storedPart hstored
    have hid' : (client'.entity i).clientEntityNetworkId = call.clientEntityNetworkId := by
      rw [hsame.id, (rememberBaseline_keeps s).1, hof, hid]
    have hpos : call.frame ≠ 0 := Nat.ne_of_gt (Nat.lt_of_le_of_lt (Nat.zero_le _) hnewer)
    have hof' : s.archetype = call.archetype := by
      rw [archetype_of_storedPart hs (hframe ▸ hpos)]
      exact if_neg hpos
    have hframe' : (client'.entity i).frame ≠ 0 := by
      rw [hsame.frame, (rememberBaseline_fields s).2.2.1, hframe]
      exact hpos
    have hrecords : client'.recordsOf i = { call with after, shown } :: client.recordsOf i := by
      unfold ReplicationClient.recordsOf
      rw [if_neg hframe', hupserts, hid', List.filter_cons_of_pos (by simp), hid]
      rw [sinceCreated_cons, hbefore]
      split
      · rfl
      · rfl
    rw [hrecords]
    refine Retained.of_same
      ((h i hpresent).remember hhistory hpinned (hframe ▸ hnewer) hframe.symm hbaseline ?_ hof'.symm
      (fun hstarted => hof'.trans (hkind hstarted)) fun hzero => if_pos hzero) hsame
    rw [hreferencing.1, hreferencing.2]
    exact hreferenced
  · have hsame := SameBaselines.of_storedPart (hstores.others i hie)
    have hrecords : client'.recordsOf i = client.recordsOf i := by
      unfold ReplicationClient.recordsOf
      rw [hupserts, hsame.id, hsame.frame, List.filter_cons_of_neg (by simpa using (hothers i hie).symm)]
    rw [hrecords]
    exact (h i (hsame.present.symm.trans hi)).of_same hsame

end

def StoresOnly {R : Type} (P : QuantizedFrameData → Prop) (e : Nat) (call : UpsertCall)
    (client client' : ReplicationClient R) :
    Prop :=
  StoresNothing client client' ∨ StoresRecord P e call client client'

section

variable {R : Type} [LocalRegistry R] {client client' client'' : ReplicationClient R} {e : Nat} {call : UpsertCall}
  {P : QuantizedFrameData → Prop}

omit [LocalRegistry R] in
theorem StoresOnly.after (h : StoresNothing client client') (h' : StoresOnly P e call client' client'') :
    StoresOnly P e call client client'' := by
  rcases h' with hnothing | hrecord
  · exact .inl (h.trans hnothing)
  · exact .inr (hrecord.after h)

/-- `record_authoritative_present` -/
theorem storesRecord_recordPresent (he : e < client.store.entities.length) (call : UpsertCall)
    (replacement : Option QuantizedFrameData) (hdata : P (replacement.getD (client.entity e).baseline)) :
    StoresRecord P e call client (client.recordPresent e call replacement) := by
  have hsync := storesNothing_sync
    (client.modifyEntity e (·.recordAuthoritativePresent call.frame call.archetype replacement)) e
  have hself : (client.modifyEntity e (·.recordAuthoritativePresent call.frame call.archetype replacement)).entity e =
      (client.entity e).recordAuthoritativePresent call.frame call.archetype replacement := entity_modifyEntity_self he
  have hmodified : ∀ i, i ≠ e →
      (client.modifyEntity e (·.recordAuthoritativePresent call.frame call.archetype replacement)).entity i =
        client.entity i :=
    fun i hi => entity_modifyEntity_ne hi
  have hunlisted :
      (((client.modifyEntity e
        (·.recordAuthoritativePresent call.frame call.archetype replacement)).syncEntityMemberships e).entity
          e).unlisted =
      ((client.entity e).recordAuthoritativePresent call.frame call.archetype replacement).unlisted := by
    rw [← hself]
    exact (relisted_sync _ e).unlisted e
  -- the state `remember_baseline` is called on
  obtain ⟨s, hs, hsdata, hfields⟩ :
      ∃ s : EntityState, (client.entity e).recordAuthoritativePresent call.frame call.archetype replacement =
      s.rememberBaseline ∧ P s.baseline ∧ s.storedPart = { (client.entity e).storedPart with
        present := true, frame := call.frame, archetype := if call.frame = 0 then 0 else call.archetype } := by
    cases replacement with
    | none => exact ⟨_, rfl, hdata, rfl⟩
    | some data => exact ⟨_, rfl, hdata, rfl⟩
  unfold recordPresent
  dsimp only
  generalize
    ((client.modifyEntity e (·.recordAuthoritativePresent call.frame call.archetype replacement)).syncEntityMemberships
    e) =
    recorded at hsync hunlisted
  suffices hlogged : ∀ shown, StoresRecord P e call client (recorded.logCall (.upsert { call with
      after := recorded.entity e, shown })) from hlogged _
  intro shown
  refine ⟨⟨hsync.session.settings, hsync.session.options, hsync.session.clientId⟩, fun i hi => ?_, s,
    recorded.entity e, shown, ?_, ?_,
    ?_, hsdata, hfields⟩
  · rw [← hmodified i hi]
    exact hsync.states i
  · exact congrArg (_ :: ·) hsync.upserts
  · rw [← hs, ← hself]
    exact hsync.states e
  · have hbaseline : (recorded.entity e).baseline = s.rememberBaseline.baseline := by
      rw [← hs]
      have heq := congrArg EntityState.baseline hunlisted
      exact heq
    rw [hbaseline]
    obtain ⟨pinned, heq, _⟩ := rememberBaseline_eq s
    rw [heq]

/-- `apply_snap_upsert` -/
theorem storesOnly_applySnapUpsert (he : e < client.store.entities.length)
    (hpresent : (client.entity e).entityPresent = true) (call : UpsertCall) (metadata : UpsertMetadata)
    (record : AuthoritativeUpsertRecord) (mask : Mask)
    (hkind : (client.entity e).frame ≠ 0 → metadata.archetype = (client.entity e).archetype)
    (hdata : P record.authoritative)
    (hsnap : metadata.isFullUpsert = true →
    ∀ applied, ((client.removeStaleTags e metadata.archetype true).modifyEntity e fun s =>
      { s with archetype := metadata.archetype }).applySnapSample e record.authoritative mask = (applied, true) →
      P (applied.entity e).baseline) :
    StoresOnly P e call client (client.applySnapUpsert e call metadata record mask).1 := by
  have hstale : (client.removeStaleTags e metadata.archetype metadata.isFullUpsert).entity e = client.entity e := by
    unfold removeStaleTags
    split
    · split
      · rfl
      · rfl
    · rfl
  have htags := (storesNothing_removeStaleTags client e metadata.archetype metadata.isFullUpsert).trans
    (@storesNothing_setArchetype R _ _ metadata.archetype (by rw [hstale]; exact hkind))
  unfold applySnapUpsert
  dsimp only
  generalize htagged : ((client.removeStaleTags e metadata.archetype metadata.isFullUpsert).modifyEntity e fun s =>
    { s with archetype := metadata.archetype }) = tagged at htags
  have hthere : (tagged.entity e).entityPresent = true := (congrArg StoredPart.present (htags.states e)).trans hpresent
  have hsample := htags.trans (storesNothing_applySnapSample hthere record.authoritative mask)
  generalize hresult : tagged.applySnapSample e record.authoritative mask = result at hsample
  obtain ⟨applied, ok⟩ := result
  cases ok with
  | false => exact .inl hsample
  | true =>
    have hquiet := quiet_playCues applied e record.receivedCues
    have hplayed := hsample.trans hquiet.storesNothing
    refine .inr ((storesRecord_recordPresent (by rw [hplayed.length]; exact he) call _ ?_).after hplayed)
    cases hfull : metadata.isFullUpsert with
    | false => exact hdata
    | true =>
      rw [hfull] at htagged
      rw [if_pos rfl, Option.getD_none, hquiet.entity]
      exact hsnap hfull applied (by rw [htagged]; exact hresult)

/-- `apply_buffered_upsert` -/
theorem storesOnly_applyBufferedUpsert (call : UpsertCall) (metadata : UpsertMetadata) (decoded : QuantizedFrameData)
    {s : EntityState} (hfound : client.store.findByClientEntityNetworkId metadata.clientEntityNetworkId = some (e, s))
    (hkind : (client.entity e).frame ≠ 0 → metadata.archetype = (client.entity e).archetype) (hdata : P decoded) :
    StoresOnly P e call client (client.applyBufferedUpsert call metadata decoded).1 := by
  have he : e < client.store.entities.length :=
    (List.getElem?_eq_some_iff.mp (findByClientEntityNetworkId_eq_some.mp hfound).2.1).1
  unfold applyBufferedUpsert
  split
  · exact .inl (.refl client)
  · rw [hfound]
    dsimp only
    have hmarked : StoresNothing client ((client.modifyEntity e fun s =>
        { s.markModeSelected .bufferedInterpolation with archetype := metadata.archetype }).ensureBufferedRing e) :=
      (storesNothing_modifyEntity_at (storedPart_setArchetype (s := (client.entity e).markModeSelected _) hkind)).trans
        (.of_eq rfl rfl ⟨rfl, rfl, rfl⟩)
    generalize ((client.modifyEntity e fun s =>
      { s.markModeSelected .bufferedInterpolation with archetype := metadata.archetype }).ensureBufferedRing e) =
        marked at hmarked
    have hfilled := hmarked.trans (storesNothing_fillBufferedFrames marked e metadata.frame (some decoded))
    generalize marked.fillBufferedFrames e metadata.frame (some decoded) = result at hfilled
    obtain ⟨filled, ok⟩ := result
    cases ok with
    | false => exact .inl hfilled
    | true =>
      dsimp only at hfilled ⊢
      have hrecorded :=
        (storesRecord_recordPresent (by rw [hfilled.length]; exact he) call (some decoded) hdata).after hfilled
      generalize filled.recordPresent e call (some decoded) = recorded at hrecorded
      split
      · have hpassed := storesNothing_applyPassedSample recorded e metadata.frame
        generalize recorded.applyPassedSample e metadata.frame = result at hpassed
        obtain ⟨applied, ok⟩ := result
        cases ok with
        | false => exact .inr (hrecorded.then hpassed)
        | true => exact .inr (hrecorded.then hpassed)
      · exact .inr hrecorded

/-- `apply_predicted_upsert` -/
theorem storesOnly_applyPredictedUpsert (call : UpsertCall) (metadata : UpsertMetadata)
    (authoritative : QuantizedFrameData) {s : EntityState}
    (hfound : client.store.findByClientEntityNetworkId metadata.clientEntityNetworkId = some (e, s))
    (hkind : (client.entity e).frame ≠ 0 → metadata.archetype = (client.entity e).archetype)
    (hdata : P authoritative) :
    StoresOnly P e call client (client.applyPredictedUpsert call metadata authoritative).1 := by
  have he : e < client.store.entities.length :=
    (List.getElem?_eq_some_iff.mp (findByClientEntityNetworkId_eq_some.mp hfound).2.1).1
  unfold applyPredictedUpsert
  split
  · exact .inl (.refl client)
  · rw [hfound]
    dsimp only
    have hring : StoresNothing client (client.ensurePredictedRing e) := .of_eq rfl rfl ⟨rfl, rfl, rfl⟩
    have hkept : (client.ensurePredictedRing e).entity e = client.entity e := rfl
    generalize client.ensurePredictedRing e = ensured at hring hkept
    split
    · exact .inl hring
    · have hmarked := hring.trans (storesNothing_modifyEntity_at (f := fun s => { s.markModeSelected .predict with
        archetype := metadata.archetype })
        (storedPart_setArchetype (s := (ensured.entity e).markModeSelected _) (by rw [hkept]; exact hkind)))
      generalize (ensured.modifyEntity e fun s => { s.markModeSelected .predict with
        archetype := metadata.archetype }) = marked
        at hmarked
      generalize hqueued : (if marked.comparePredictedFrame e metadata.frame authoritative = true then
        marked.queueRollback e metadata.frame else marked) = queued
      have hqueue : StoresNothing client queued := by
        rw [← hqueued]
        split
        · exact hmarked.trans (storesNothing_queueRollback marked e metadata.frame)
        · exact hmarked
      have hrecorded :=
        (storesRecord_recordPresent (by rw [hqueue.length]; exact he) call (some authoritative) hdata).after hqueue
      generalize queued.recordPresent e call (some authoritative) = recorded at hrecorded
      have hseed :
          ∀ client : ReplicationClient R, StoresNothing client (client.seedFirstAuthoritativeFrame metadata.frame) :=
        fun client => (quiet_seedFirstAuthoritativeFrame client metadata.frame).storesNothing
      generalize (s.frame == 0 || !marked.shows e) = first
      cases first with
      | false => exact .inr (hrecorded.then (hseed recorded))
      | true =>
        have happlied : StoresNothing recorded (recorded.applyFrameData e metadata.frame true authoritative).1 :=
          storesNothing_applyBufferedSample recorded e _
        rw [if_pos rfl]
        generalize recorded.applyFrameData e metadata.frame true authoritative = result at happlied
        obtain ⟨applied, ok⟩ := result
        cases ok with
        | false => exact .inr (hrecorded.then happlied)
        | true => exact .inr (hrecorded.then (happlied.trans (hseed applied)))

end

/-! ## Runs -/

section

variable {R : Type} [LocalRegistry R] {client client' : ReplicationClient R} {e : Nat} {frame : SyncFrame} {w : Nat}
  {metadata : UpsertMetadata} {record : AuthoritativeUpsertRecord} {P : QuantizedFrameData → Prop}

theorem applyUpsertRecord_stores {s : EntityState}
    (hfound : client.store.findByClientEntityNetworkId metadata.clientEntityNetworkId = some (e, s))
    (hpresent : (client.entity e).entityPresent = true) (call : UpsertCall)
    (hkind : (client.entity e).frame ≠ 0 → metadata.archetype = (client.entity e).archetype)
    (hdata : P record.authoritative)
    (hsnap : ∀ definition, client.settings.archetypes[metadata.archetype]? = some definition →
    (client.entity e).mode = .snap →
      metadata.isFullUpsert = true →
      ∀ applied, ((client.removeStaleTags e metadata.archetype true).modifyEntity e fun s =>
        { s with archetype := metadata.archetype }).applySnapSample e record.authoritative
          (snapApplyMask definition (client.entity e) metadata record) = (applied, true) →
            P (applied.entity e).baseline) :
    StoresOnly P e call client (client.applyUpsertRecord e call metadata record).1 := by
  have he : e < client.store.entities.length :=
    (List.getElem?_eq_some_iff.mp (findByClientEntityNetworkId_eq_some.mp hfound).2.1).1
  unfold applyUpsertRecord
  cases hdef : client.settings.archetypes[metadata.archetype]? with
  | none => exact .inl (.refl client)
  | some definition =>
    dsimp only
    unfold applyUpsertForMode
    cases hmode : (client.entity e).mode with
    | bufferedInterpolation =>
      have hstores := storesOnly_applyBufferedUpsert call metadata record.authoritative hfound hkind hdata
      generalize client.applyBufferedUpsert call metadata record.authoritative = result at hstores
      obtain ⟨applied, reason⟩ := result
      cases reason with
      | some reason => exact hstores
      | none =>
        have hquiet := (quiet_storeAuthoritativeBuffered applied e metadata.frame record.receivedCues).storesNothing
        rcases hstores with hnothing | hrecord
        · exact .inl (hnothing.trans hquiet)
        · exact .inr (hrecord.then hquiet)
    | predict =>
      have hstores := storesOnly_applyPredictedUpsert call metadata record.authoritative hfound hkind hdata
      generalize client.applyPredictedUpsert call metadata record.authoritative = result at hstores
      obtain ⟨applied, reason⟩ := result
      cases reason with
      | some reason => exact hstores
      | none =>
        have hquiet :=
          (quiet_reconcileAuthoritativePredicted applied e record.receivedCues metadata.frame).storesNothing
        rcases hstores with hnothing | hrecord
        · exact .inl (hnothing.trans hquiet)
        · exact .inr (hrecord.then hquiet)
    | snap =>
      exact storesOnly_applySnapUpsert he hpresent call metadata record _ hkind hdata (hsnap definition hdef hmode)

theorem StoreOk.id_ne (h : StoreOk client)
    (hused : (client.entity e).clientEntityNetworkId ≠ invalidClientEntityNetworkId) {i : Nat} (hi : i ≠ e) :
    (client.entity i).clientEntityNetworkId ≠ (client.entity e).clientEntityNetworkId := by
  intro heq
  have hindex := h.indexed i (heq ▸ hused)
  rw [heq, h.indexed e hused] at hindex
  exact hi (Option.some.inj hindex).symm

end

section

variable {R : Type} [LocalRegistry R] {client client' : ReplicationClient R} {e : Nat} {frame : SyncFrame} {w : Nat}
  {metadata : UpsertMetadata} {record : AuthoritativeUpsertRecord}

omit [LocalRegistry R] in
theorem entities_unmapEntityState (store : ClientEntityStore) (e : Nat) :
    (store.unmapEntityState e).entities = store.entities := by
  unfold ClientEntityStore.unmapEntityState
  split
  · rfl
  · dsimp only
    split
    · split
      · rfl
      · rfl
    · split
      · rfl
      · rfl

/-- `erase_entity_state` -/
theorem Retains.erased (h : Retains client) (e : Nat) (destroyLocal : Bool) :
    Retains (client.eraseEntityState e destroyLocal) := by
  unfold eraseEntityState
  split
  · exact h
  · rename_i s hs
    split
    · exact h
    · have he : e < (client.store.unmapEntityState e).entities.length := by
        rw [entities_unmapEntityState]
        exact (List.getElem?_eq_some_iff.mp hs).1
      obtain ⟨-, -, -, -, hself, hothers⟩ := releaseEntityState_spec he
      refine h.lost (e := e) rfl (fun i hi => ?_) (.inr ?_)
      · refine storedPart_of_unlisted ((hothers i hi).trans ?_)
        rw [entities_unmapEntityState]
        rfl
      · exact ⟨congrArg EntityState.frame hself, congrArg EntityState.history hself,
          congrArg EntityState.pinnedWireBaseline hself⟩

/-- `apply_buffered_destroy` -/
theorem Retains.bufferedDestroy (h : Retains client) (he : e < client.store.entities.length) (frame : SyncFrame) :
    Retains (client.applyBufferedDestroy e frame).1 := by
  unfold applyBufferedDestroy
  dsimp only
  have hmarked : StoresNothing client
      ((client.modifyEntity e (·.markModeSelected .bufferedInterpolation)).ensureBufferedRing e) :=
    (storesNothing_markModeSelected client e _).trans (.of_eq rfl rfl ⟨rfl, rfl, rfl⟩)
  generalize ((client.modifyEntity e (·.markModeSelected .bufferedInterpolation)).ensureBufferedRing e) =
    marked at hmarked
  have hfilled := hmarked.trans (storesNothing_fillBufferedFrames marked e frame none)
  generalize marked.fillBufferedFrames e frame none = result at hfilled
  obtain ⟨filled, ok⟩ := result
  cases ok with
  | false => exact h.same hfilled
  | true =>
    have hsync := storesNothing_sync (filled.modifyEntity e (·.recordAuthoritativeAbsent frame)) e
    have hself : (filled.modifyEntity e (·.recordAuthoritativeAbsent frame)).entity e =
        (filled.entity e).recordAuthoritativeAbsent frame := entity_modifyEntity_self (by rw [hfilled.length]; exact he)
    have hrecorded : Retains (filled.recordAbsent e frame) := by
      refine (h.same hfilled).lost (e := e) hsync.upserts (fun i hi => ?_) (.inl ?_)
      · rw [← @entity_modifyEntity_ne R filled e (·.recordAuthoritativeAbsent frame) i hi]
        exact hsync.states i
      · refine (congrArg StoredPart.present (hsync.states e)).trans ?_
        rw [hself]
        exact (recordAuthoritativeAbsent_fields (filled.entity e) frame).2.2.1
    dsimp only
    generalize filled.recordAbsent e frame = recorded at hrecorded
    split
    · have hpassed := hrecorded.same (storesNothing_applyPassedSample recorded e frame)
      generalize recorded.applyPassedSample e frame = result at hpassed
      obtain ⟨applied, ok⟩ := result
      cases ok with
      | false => exact hpassed
      | true => exact Retains.erased hpassed e false
    · exact hrecorded

/-- `apply_destroy` -/
theorem Retains.destroy (h : Retains client) (frame : SyncFrame) (w : Nat) :
    Retains (client.applyDestroy frame w).1 := by
  have htombstone : ∀ client : ReplicationClient R, StoresNothing client (client.recordDestroyTombstone w frame).1 :=
    fun _ =>
    ⟨⟨rfl, rfl, rfl⟩, rfl, fun _ => rfl, rfl⟩
  have hadvance : ∀ client : ReplicationClient R, StoresNothing client (client.advanceWireNetworkIdVersion w) :=
    fun client => by
    unfold advanceWireNetworkIdVersion
    split
    · exact .refl client
    · exact ⟨⟨rfl, rfl, rfl⟩, rfl, fun _ => rfl, rfl⟩
  unfold applyDestroy
  split
  · have hrecorded := h.same (htombstone client)
    generalize client.recordDestroyTombstone w frame = result at hrecorded
    obtain ⟨recorded, outcome⟩ := result
    cases outcome with
    | ignored => exact h
    | inserted => exact (hrecorded.same (hadvance recorded)).same (storesNothing_logCall rfl)
    | updated => exact hrecorded.same (storesNothing_logCall rfl)
  · rename_i i s hfound
    have hmode : Retains (client.applyDestroyForMode s frame).1 := by
      unfold applyDestroyForMode
      split
      · split
        · exact h
        · rename_i e _ hfound'
          exact h.bufferedDestroy
            (List.getElem?_eq_some_iff.mp (findByClientEntityNetworkId_eq_some.mp hfound').2.1).1 frame
      · split
        · exact h
        · unfold applyImmediateDestroy
          split
          · exact h
          · exact h.erased _ true
      · split
        · exact h
        · split
          · exact h
          · exact h.erased _ true
    generalize client.applyDestroyForMode s frame = result at hmode
    obtain ⟨applied, reason⟩ := result
    cases reason with
    | some reason => exact hmode
    | none => exact ((hmode.same (htombstone applied)).same (hadvance _)).same (storesNothing_logCall rfl)

/-- `ensure_upsert_entity` -/
theorem Retains.ensured (h : Retains client) (hok : StoreOk client) (metadata : UpsertMetadata)
    (record : AuthoritativeUpsertRecord) : Retains (client.ensureUpsertEntity metadata record).1 := by
  have hstore : ∃ store result, client.store.ensureEntityState metadata.clientEntityNetworkId metadata.wireNetworkId =
      (store, result) ∧ Retains ({ client with store } : ReplicationClient R) := by
    by_cases hvalid : metadata.clientEntityNetworkId = invalidClientEntityNetworkId ∨ metadata.wireNetworkId = 0
    · refine ⟨client.store, none, ?_, h⟩
      unfold ClientEntityStore.ensureEntityState
      rw [if_pos hvalid]
    · cases hfound : client.store.findByClientEntityNetworkId metadata.clientEntityNetworkId with
      | some found =>
        refine ⟨client.store, some found.1, ?_, h⟩
        unfold ClientEntityStore.ensureEntityState
        rw [if_neg hvalid, hfound]
      | none =>
        obtain ⟨store, e, hensured, hcreated⟩ :=
          ensureEntityState_created (not_or.mp hvalid).1 (not_or.mp hvalid).2 hfound
          fun e he => (hok.free e he).1
        refine ⟨store, some e, hensured, h.lost (e := e) rfl (fun i hi => ?_) (.inr ?_)⟩
        · exact storedPart_of_unlisted (hcreated.others i hi)
        · exact ⟨congrArg EntityState.frame hcreated.self, congrArg EntityState.history hcreated.self,
            congrArg EntityState.pinnedWireBaseline hcreated.self⟩
  obtain ⟨store, result, hensured, hretains⟩ := hstore
  unfold ensureUpsertEntity
  rw [hensured]
  cases client.modeNeedsSelection metadata with
  | false =>
    cases result with
    | none => exact hretains
    | some e => exact hretains
  | true =>
    simp only [if_true, Bool.true_and]
    split
    · exact h
    · cases result with
      | none => exact hretains
      | some e => exact hretains.same (storesNothing_markModeSelected _ e _)

/-- A record of an entity that has one already is of its archetype. -/
theorem ensureUpsertEntity_archetype (hok : ClientOk client')
    (hversions : ∀ w, (client'.store.wireNetworkIds w).version < 2 ^ 32) (htouched : Touched client client')
    (hread : RecordRead client client' frame w metadata record) :
    ∀ client₁ e, client'.ensureUpsertEntity metadata record = (client₁, .ok e) →
      (client₁.entity e).frame ≠ 0 → metadata.archetype = (client₁.entity e).archetype := by
  have hforId := hread.forId htouched
  have hne : metadata.clientEntityNetworkId ≠ invalidClientEntityNetworkId := by
    rw [hforId]
    exact makeClientEntityNetworkId_ne_zero hread.inRange.1 hread.inRange.2
  have hw : metadata.wireNetworkId ≠ 0 := by
    rw [hread.fits.atWire]
    exact Nat.ne_of_gt hread.inRange.1
  have hmarked : ∀ (client : ReplicationClient R) (i : Nat) (mode : ReplicationClientMode) (chosen : Bool),
      ((if chosen = true then client.modifyEntity i (·.markModeSelected mode) else client).entity i).frame =
        (client.entity i).frame ∧
      ((if chosen = true then client.modifyEntity i (·.markModeSelected mode) else client).entity i).archetype =
        (client.entity i).archetype := by
    intro client i mode chosen
    split
    · rcases @entity_modifyEntity_or R client i (·.markModeSelected mode) i with h | h
      · rw [h]
        exact ⟨rfl, rfl⟩
      · rw [h]
        exact ⟨rfl, rfl⟩
    · exact ⟨rfl, rfl⟩
  intro client₁ e hensured hframe
  unfold ensureUpsertEntity at hensured
  dsimp only at hensured
  generalize (if client'.modeNeedsSelection metadata = true then client'.selectEntityMode metadata record
    else client'.options.defaultMode) = mode at hensured
  split at hensured
  · cases hensured
  · cases hfound : client'.store.findByClientEntityNetworkId metadata.clientEntityNetworkId with
    | some found =>
      obtain ⟨i, s⟩ := found
      have hready := (hread.ready hok hversions htouched hfound).2
      have hstate : client'.store.ensureEntityState metadata.clientEntityNetworkId metadata.wireNetworkId =
          (client'.store, some i) := by
        unfold ClientEntityStore.ensureEntityState
        rw [if_neg (not_or.mpr ⟨hne, hw⟩), hfound]
      rw [hstate] at hensured
      obtain ⟨rfl, hi⟩ := Prod.mk.inj hensured
      obtain rfl : i = e := Except.ok.inj hi
      obtain ⟨hsame, harchetype⟩ := hmarked client' i mode (client'.modeNeedsSelection metadata)
      refine Eq.trans ?_ harchetype.symm
      obtain rfl : client'.entity i = s := entity_of_getElem? (findByClientEntityNetworkId_eq_some.mp hfound).2.1
      rcases hread.fits.kind with hfull | hdelta
      · rw [htouched.find, hread.fits.forId] at hfound
        exact ((hfull.found i _ hfound).2.1 hready.present).symm
      · obtain ⟨j, t, baseline, hwire, hstate, -, hkind, -⟩ := hdelta.found
        rw [(hread.ready hok hversions htouched hfound).1] at hstate
        obtain rfl : i = j := Option.some.inj hstate
        rw [← htouched.findByWireId] at hwire
        obtain rfl : client'.entity i = t := entity_of_getElem? (findByWireId_eq_some.mp hwire).2.2.1
        exact hkind
    | none =>
      obtain ⟨store, i, hstate, hcreated⟩ := ensureEntityState_created hne hw hfound fun e he => (hok.free e he).1
      rw [hstate] at hensured
      obtain ⟨rfl, hi⟩ := Prod.mk.inj hensured
      obtain rfl : i = e := Except.ok.inj hi
      -- a state that was just made has no frame
      exfalso
      refine hframe ((hmarked { client' with store } i _ _).1.trans ?_)
      exact congrArg EntityState.frame hcreated.self

/-- The part of `apply_upsert` after its reads. -/
theorem Retains.upsert (h : Retains client') (hok : ClientOk client')
    (hversions : ∀ w, (client'.store.wireNetworkIds w).version < 2 ^ 32) (htouched : Touched client client')
    (hread : RecordRead client client' frame w metadata record) (hpos : 0 < frame) :
    Retains (client'.applyUpsert metadata record).1 := by
  have hframe := hread.fits.atFrame
  have hready := ensureUpsertEntity_ready hok hversions htouched hread (hframe ▸ hpos)
  have hensured := h.ensured hok.toStoreOk metadata record
  have hof := ensureUpsertEntity_archetype hok hversions htouched hread
  unfold applyUpsert
  generalize client'.ensureUpsertEntity metadata record = ensured at hready hensured hof
  obtain ⟨client₁, result⟩ := ensured
  cases result with
  | error reason => exact hensured
  | ok e =>
    obtain ⟨hok₁, -, -, hready⟩ := hready
    dsimp only at hensured ⊢
    obtain ⟨s, hfound⟩ := hready.found
    obtain ⟨hindex, hget, hid⟩ := findByClientEntityNetworkId_eq_some.mp hfound
    obtain rfl := entity_of_getElem? hget
    have he := lt_length_of_used hready.used
    have hpresent : (client₁.entity e).entityPresent = true := hready.present
    have hnewer : (client₁.entity e).frame < metadata.frame := hready.newer
    have hkept := hof client₁ e rfl
    have hothers : ∀ i, i ≠ e → (client₁.entity i).clientEntityNetworkId ≠ metadata.clientEntityNetworkId :=
      fun i hi => by
      rw [← hid]
      exact hok₁.id_ne hready.used hi
    -- the protected baseline, and the record stored on top of it
    have hprotected : ∀ client₂, (if metadata.isFullUpsert = true then client₁
        else client₁.modifyEntity e (·.protectReferencedBaseline metadata.baselineFrame)) = client₂ →
        Retains (client₂.applyUpsertRecord e (client₁.upsertCall e metadata record) metadata record).1 := by
      rintro client₂ rfl
      cases hkind : metadata.isFullUpsert with
      | true =>
        rcases @applyUpsertRecord_stores R _ client₁ e metadata record (fun _ => True) _ hfound hpresent
          (client₁.upsertCall e metadata record) hkept trivial (fun _ _ _ _ _ _ => trivial) with hnothing | hrecord
        · exact hensured.same hnothing
        · refine hensured.stored hrecord hid.symm hothers hpresent hnewer rfl ?_ hkept
          simp [UpsertCall.referenced, ReplicationClient.upsertCall, hkind]
      | false =>
        have hself : (client₁.modifyEntity e (·.protectReferencedBaseline metadata.baselineFrame)).entity e =
            (client₁.entity e).protectReferencedBaseline metadata.baselineFrame := entity_modifyEntity_self he
        have hne : ∀ i, i ≠ e →
            (client₁.modifyEntity e (·.protectReferencedBaseline metadata.baselineFrame)).entity i =
              client₁.entity i :=
          fun i hi => entity_modifyEntity_ne hi
        have hlength : e < (client₁.modifyEntity e
            (·.protectReferencedBaseline metadata.baselineFrame)).store.entities.length := by
          simpa [ReplicationClient.modifyEntity, ClientEntityStore.modifyEntity] using he
        have hretains : Retains (client₁.modifyEntity e (·.protectReferencedBaseline metadata.baselineFrame)) := by
          refine hensured.kept rfl fun i => ?_
          by_cases hi : i = e
          · rw [hi, hself]
            exact ⟨rfl, rfl, rfl, rfl, rfl, fun _ => rfl⟩
          · rw [hne i hi]
            exact ⟨rfl, rfl, rfl, rfl, rfl, fun _ => rfl⟩
        have hfound₂ :
            (client₁.modifyEntity e
              (·.protectReferencedBaseline metadata.baselineFrame)).store.findByClientEntityNetworkId
              metadata.clientEntityNetworkId =
              some (e, (client₁.entity e).protectReferencedBaseline metadata.baselineFrame) := by
          refine findByClientEntityNetworkId_eq_some.mpr ⟨hindex, ?_, hid⟩
          rw [← hself]
          exact entity_eq_getElem? hlength
        rw [if_neg (by decide)]
        generalize (client₁.modifyEntity e (·.protectReferencedBaseline metadata.baselineFrame)) = client₂
          at hself hne hretains hfound₂
        rcases @applyUpsertRecord_stores R _ client₂ e metadata record (fun _ => True) _ hfound₂
          (by rw [hself]; exact hpresent)
          (client₁.upsertCall e metadata record) (by rw [hself]; exact hkept) trivial
          (fun _ _ _ _ _ _ => trivial) with hnothing | hrecord
        · exact hretains.same hnothing
        · refine hretains.stored hrecord (by rw [hself]; exact hid.symm) (fun i hi => ?_)
            (by rw [hself]; exact hpresent)
            (by rw [hself]; exact hnewer) (by rw [hself]; rfl) ?_ (by rw [hself]; exact hkept)
          · rw [hne i hi]
            exact hothers i hi
          · rw [hself]
            simp [UpsertCall.referenced, ReplicationClient.upsertCall, hkind, EntityState.protectReferencedBaseline]
    have hstored := hprotected _ rfl
    generalize (if metadata.isFullUpsert = true then client₁
      else client₁.modifyEntity e (·.protectReferencedBaseline metadata.baselineFrame)) = client₂ at hstored ⊢
    generalize client₂.applyUpsertRecord e (client₁.upsertCall e metadata record) metadata record =
      result at hstored
    obtain ⟨applied, reason⟩ := result
    cases reason with
    | some reason => exact hstored
    | none =>
      dsimp only
      unfold finishUpsert
      split
      · exact hstored.same ⟨⟨rfl, rfl, rfl⟩, rfl, fun _ => rfl, rfl⟩
      · exact hstored

end

/-! ### Packets -/

section

variable {R : Type} [LocalRegistry R] {client client' : ReplicationClient R} {frame : SyncFrame}

omit [LocalRegistry R] in
theorem ReadM.Leaves.and {α : Type} {m : ReadM R α} {P P' : ReplicationClient R → Prop} (h : Leaves m client P)
    (h' : Leaves m client P') : Leaves m client fun client' => P client' ∧ P' client' := by
  intro bits
  have hm := h bits
  have hm' := h' bits
  cases hrun : m (client, bits) with
  | error reason s =>
    rw [hrun] at hm hm'
    exact ⟨hm, hm'⟩
  | ok a s =>
    rw [hrun] at hm hm'
    exact ⟨hm, hm'⟩

theorem applyRecord_retains (hr : Retains client) (h : ClientOk client)
    (hversions : ∀ x, destroyCount x client.trace + 2 < 2 ^ 32) (hpos : 0 < frame) :
    Leaves (applyRecord frame) client Retains := by
  have htouch : ∀ client', Touched client client' → Retains client' :=
    fun client' htouched => hr.same htouched.storesNothing
  have hbound : ∀ client', Touched client client' → ∀ x, destroyCount x client'.trace + 2 < 2 ^ 32 :=
    fun client' htouched x => by
    rw [htouched.trace]
    exact hversions x
  unfold applyRecord
  refine (gives_client (Q := fun _ client' => client = client') rfl).leaves_bind htouch ?_
  rintro _ _ - rfl
  refine (gives_field (Q := fun _ _ => True) _ _ fun _ => trivial).leaves_bind htouch
    fun header client₁ htouched _ => ?_
  obtain ⟨destroy, w⟩ := header
  dsimp only
  split
  · exact fun _ => htouch client₁ htouched
  · split
    · exact leaves_apply ((htouch client₁ htouched).destroy frame w)
    · have hok₁ := h.touched htouched
      have hread :=
        @gives_readUpsert R client₁ frame w
          (fun e s hfound => hok₁.found_present (hbound client₁ htouched) hfound)
          fun e s hfound _ definition hdef g baseline hbaseline => hok₁.found_sized hfound hdef hbaseline
      refine hread.leaves_bind (fun client₂ htouched₂ => htouch client₂ (htouched.trans htouched₂)) ?_
      rintro ⟨metadata, record⟩ client₂ htouched₂ hrecord
      have htouched₂' := htouched.trans htouched₂
      have hok₂ := hok₁.touched htouched₂
      exact leaves_apply
        ((htouch client₂ htouched₂').upsert hok₂ (hok₂.version_lt (hbound client₂ htouched₂'))
        htouched₂ hrecord hpos)

theorem applyRecords_retains (hpos : 0 < frame) (hrange : frame < 2 ^ 32) :
    ∀ (count i : Nat) (client : ReplicationClient R),
    Retains client → ClientOk client → (∀ x, destroyCount x client.trace + count + 1 < 2 ^ 32) →
    Leaves (applyRecords frame count i) client Retains
  | 0, _, _, hr, _, _ => fun _ => hr
  | count + 1, i, client, hr, h, hversions => by
    unfold applyRecords
    have hbound : ∀ x, destroyCount x client.trace + 2 < 2 ^ 32 := fun x => by
      have hlt := hversions x
      omega
    refine (((applyRecord_retains hr h hbound hpos).and (applyRecord_ok h hbound hpos hrange)).inRecord i).bind
      (fun client' h' => h'.1) fun _ client' h' => ?_
    refine applyRecords_retains hpos hrange count (i + 1) client' h'.1 h'.2.1 fun x => ?_
    have hle := h'.2.2.2 x
    have hlt := hversions x
    omega

/-- `apply_update` -/
theorem Retains.update (hr : Retains client) (h : ClientOk client) {recordCount : Nat}
    (hversions : ∀ x, destroyCount x client.trace + recordCount + 1 < 2 ^ 32) (hpos : 0 < frame)
    (hrange : frame < 2 ^ 32) (packetId : Nat) (bits : Bits) :
    Retains (client.applyUpdate packetId frame recordCount bits).1 := by
  have hleaves := applyRecords_retains hpos hrange recordCount 0 client hr h hversions bits
  unfold ReplicationClient.applyUpdate
  cases hrun : applyRecords frame recordCount 0 (client, bits) with
  | error reason s =>
    rw [hrun] at hleaves
    exact hleaves
  | ok a s =>
    rw [hrun] at hleaves
    obtain ⟨client', rest⟩ := s
    dsimp only at hleaves ⊢
    split
    · exact hleaves
    · exact hleaves.same (.of_eq rfl rfl ⟨rfl, rfl, rfl⟩)

/-! ### Frames of the buffered timeline -/

theorem storesNothing_applyFrameTo (frame : SyncFrame) (policy : MissingBufferedFramePolicy) (loop : FrameLoop R)
    (e : Nat) :
    StoresNothing loop.client (applyFrameTo frame policy loop e).client := by
  unfold applyFrameTo
  split
  · exact .refl _
  · split
    · exact .refl _
    · split
      · split
        · exact .refl _
        · exact .refl _
      · rename_i sample hview
        have happlied := storesNothing_applyBufferedSample loop.client e sample
        generalize loop.client.applyBufferedSample e sample = result at happlied
        obtain ⟨applied, ok⟩ := result
        cases ok with
        | false => exact happlied
        | true =>
          dsimp only at happlied ⊢
          split
          · exact happlied
          · exact happlied.trans (quiet_playBufferedForFrame applied e frame).storesNothing

/-- `apply_frame` -/
theorem Retains.applied (h : Retains client) (frame : SyncFrame) (policy : MissingBufferedFramePolicy) :
    Retains (client.applyFrame frame policy).1 := by
  have hloop : ∀ (members : List Nat) (loop : FrameLoop R),
      StoresNothing loop.client (members.foldl (applyFrameTo frame policy) loop).client := by
    intro members
    induction members with
    | nil => exact fun loop => .refl _
    | cons e members ih => exact fun loop => (storesNothing_applyFrameTo frame policy loop e).trans (ih _)
  have herase : ∀ (destroys : List Nat) (client : ReplicationClient R), Retains client →
      Retains (destroys.foldl (fun client e => client.eraseEntityState e false) client) := by
    intro destroys
    induction destroys with
    | nil => exact fun client hr => hr
    | cons e destroys ih => exact fun client hr => ih _ (hr.erased e false)
  have hmarked : StoresNothing client { client with bufferedRuntime := { client.bufferedRuntime with
      lastAppliedBufferedFrame := frame, hasAppliedBufferedFrame := true } } := .of_eq rfl rfl ⟨rfl, rfl, rfl⟩
  unfold applyFrame
  dsimp only
  split
  · exact h.same hmarked
  · refine (herase _ _ ?_).same (quiet_setCueStore _ _).storesNothing
    exact Retains.same (h.same hmarked)
      (hloop _ { client := { client with bufferedRuntime := { client.bufferedRuntime with
      lastAppliedBufferedFrame := frame, hasAppliedBufferedFrame := true } } })

theorem LeavesReplicated.retains (h : LeavesReplicated client client') (hr : Retains client) : Retains client' := by
  refine hr.kept ?_ fun i => ?_
  · obtain ⟨calls, htrace, hcalls⟩ := h.trace
    unfold ReplicationClient.upserts
    rw [htrace, List.filterMap_append]
    have hnone : calls.filterMap ClientCall.upsert? = [] := by
      refine List.filterMap_eq_nil_iff.mpr fun call hcall => ?_
      rcases hcalls call hcall with ⟨play, rfl⟩ | ⟨sample, rfl, _⟩
      · rfl
      · rfl
    rw [hnone, List.nil_append]
  · obtain ⟨halike, harchetype, hid, -, -⟩ := h.ids i
    exact ⟨hid, halike.entityPresent, halike.frame, halike.history, halike.pinned, fun _ => harchetype⟩

theorem ClientReachable.retains (h : ClientReachable client) : Retains client := by
  induction h with
  | init options settings clientId registry hpush hcapacity => exact fun _ _ => .new rfl rfl rfl
  | step hreachable hstep ih =>
    cases hstep with
    | receive packetId frame recordCount bits hpos hrange hversions =>
      exact ih.update hreachable.ok hversions hpos hrange packetId bits
    | applyFrame frame policy => exact ih.applied frame policy
    | setEntityMode id mode => exact ih.same (storesNothing_setEntityMode _ id mode)
    | others hleaves => exact hleaves.retains ih

/-! ## Availability -/

omit [LocalRegistry R] in
/-- A delta of an entity that is there is refused for its baseline exactly when that is not found. -/
theorem readDeltaMetadata_missing_iff {e w : Nat} {id : ClientEntityNetworkId} {frame baselineFrame : SyncFrame}
    {bits rest : Bits} (hfound : client.store.findByWireId w = some (e, client.entity e))
    (hpresent : (client.entity e).entityPresent = true)
    (harchetype : (client.entity e).archetype < client.settings.archetypes.length)
    (hnewer : (client.entity e).frame < frame) (hread : readBaselineFrame frame bits = some (baselineFrame, rest)) :
    (∃ s, readDeltaMetadata frame w id (client, bits) = .error "delta_missing_baseline" s) ↔
      (client.entity e).findBaseline baselineFrame = none := by
  have habsent : (client.entity e).absent = false := by simp [EntityState.absent, hpresent]
  have hfield : field "delta_baseline_frame_read_failed" (readBaselineFrame frame) (client, bits) =
      .ok baselineFrame (client, rest) := by
    unfold field
    dsimp only
    rw [hread]
  unfold readDeltaMetadata
  simp only [ReadM.client_bind, hfound, habsent, Bool.false_eq_true, if_false, ge_iff_le, Nat.not_le.mpr harchetype,
    Nat.not_le.mpr hnewer]
  change (∃ s, EStateM.bind (field _ _) _ (client, bits) = _) ↔ _
  unfold EStateM.bind
  rw [hfield]
  dsimp only
  cases (client.entity e).findBaseline baselineFrame with
  | none => exact ⟨fun _ => rfl, fun _ => ⟨_, rfl⟩⟩
  | some baseline =>
    refine ⟨fun hrefused => ?_, fun hnone => by cases hnone⟩
    obtain ⟨s, hs⟩ := hrefused
    cases hs

/-- The baseline of a record is found, and a delta against it is not refused for its baseline, exactly while it is held:
until a record a multiple of 64 frames later, or from then on while it is the pinned one, which a later baseline that
is pinned replaces. -/
theorem accepted_baseline_found_iff (h : ClientReachable client) {e : Nat}
    (hpresent : (client.entity e).entityPresent = true) {call : UpsertCall} (hcall : call ∈ client.recordsOf e) :
    ((client.entity e).findBaseline call.frame = some call.after.baseline ↔
    StillHeld (client.recordsOf e) call.frame) ∧
    ∀ w id frame bits rest, client.store.findByWireId w = some (e, client.entity e) →
      (client.entity e).archetype < client.settings.archetypes.length → (client.entity e).frame < frame →
      readBaselineFrame frame bits = some (call.frame, rest) →
      ((¬ ∃ s, readDeltaMetadata frame w id (client, bits) = .error "delta_missing_baseline" s) ↔
        StillHeld (client.recordsOf e) call.frame) := by
  have hretained := h.retains e hpresent
  refine ⟨hretained.findBaseline_iff hcall, fun w id frame bits rest hfound harchetype hnewer hread => ?_⟩
  rw [readDeltaMetadata_missing_iff hfound hpresent harchetype hnewer hread, ← hretained.findBaseline_iff hcall]
  constructor
  · intro hsome
    obtain ⟨data, hdata⟩ := Option.ne_none_iff_exists'.mp hsome
    rw [hdata, hretained.found_data hcall hdata]
  · intro hdata hnone
    rw [hdata] at hnone
    cases hnone

end

/-! ## Two frames 64 apart -/

instance (records : List UpsertCall) (frame : SyncFrame) : Decidable (StillHeld records frame) :=
  inferInstanceAs (Decidable (_ ∨ _))

namespace Sample

def recordBits (w : WrittenRecord) : Bits :=
  match w.wire with
  | .destroy networkId => destroyRecord networkId
  | .update record => false :: encodeUpdateRecord 11 archetype w.frame record

def farOps : List ServerOp :=
  [.addClient 1 1, advance 1 [entity] [] [] [] [some 7, some 9], send [entity] [some 7, some 9],
  advance 65 [entity] [entity] [] [] [some 8, some 9], send [entity] [some 8, some 9], .acks 1 [1],
  advance 66 [entity] [entity] [] [] [some 8, some 5], send [entity] [some 8, some 5]]

def farBits (frame : SyncFrame) : Bits :=
  ((client farOps).trace.written.find? fun w => w.frame == frame).elim [] recordBits

def farClient : ReplicationClient Table := receive (receive (newClient .snap) 1 (farBits 1)) 65 (farBits 65)

theorem farClient_reachable : ClientReachable farClient :=
  .step (.step (.init _ _ _ _ settings_pushesAll (by decide)) (step_receive _ 1 _ (by decide) (by decide) (by decide)))
    (step_receive _ 65 _ (by decide) (by decide) (by decide +kernel))

theorem farClient_entity : (farClient.store.wireNetworkIds 1).entityIndex = some 0 ∧
    farClient.store.entities.length = 1 ∧
    (farClient.entity 0).wireNetworkId = 1 ∧ (farClient.entity 0).entityPresent = true ∧
    (farClient.entity 0).archetype = 0 ∧
    (farClient.entity 0).frame = 65 ∧ farClient.settings.archetypes.length = 1 := by
  decide +kernel

theorem farClient_records : (farClient.recordsOf 0).map (fun call => call.frame) = [65, 1] ∧
    StillHeld (farClient.recordsOf 0) 65 ∧ ¬ StillHeld (farClient.recordsOf 0) 1 := by
  decide +kernel

end Sample

/-- The client has accepted frame 1, and refuses a delta against it after frame 65, but none against that. -/
theorem accepted_baseline_found_iff_far :
    ∃ old ∈ Sample.farClient.recordsOf 0, ∃ new ∈ Sample.farClient.recordsOf 0,
    old.frame = 1 ∧ new.frame = 65 ∧ (Sample.farClient.entity 0).findBaseline 1 ≠ some old.after.baseline ∧
    (∃ s, readDeltaMetadata 66 1 0 (Sample.farClient, writeBaselineFrame 66 1) =
    .error "delta_missing_baseline" s) ∧
    ¬ ∃ s, readDeltaMetadata 66 1 0 (Sample.farClient, writeBaselineFrame 66 65) =
      .error "delta_missing_baseline" s := by
  obtain ⟨hframes, hheld, hlost⟩ := Sample.farClient_records
  obtain ⟨hindex, hlength, hwire, hpresent, harchetype, hframe, hsettings⟩ := Sample.farClient_entity
  have hreachable := Sample.farClient_reachable
  generalize Sample.farClient = client at *
  obtain ⟨new, hnew, hnewFrame⟩ := List.mem_map.mp (hframes ▸ List.mem_cons_self : 65 ∈ _)
  obtain ⟨old, hold, holdFrame⟩ := List.mem_map.mp (hframes ▸ List.mem_cons_of_mem _ List.mem_cons_self : 1 ∈ _)
  have hfound : client.store.findByWireId 1 = some (0, client.entity 0) := by
    have hget := List.getElem?_eq_getElem (hlength ▸ Nat.zero_lt_one : 0 < client.store.entities.length)
    refine findByWireId_eq_some.mpr ⟨Nat.one_ne_zero, hindex, ?_, hwire⟩
    rw [ReplicationClient.entity, hget, Option.getD_some]
  have hknown : (client.entity 0).archetype < client.settings.archetypes.length := by
    rw [harchetype, hsettings]
    decide
  have hnewer : (client.entity 0).frame < 66 := by
    rw [hframe]
    decide
  have hbefore := accepted_baseline_found_iff hreachable hpresent hold
  have hafter := accepted_baseline_found_iff hreachable hpresent hnew
  rw [holdFrame] at hbefore
  rw [hnewFrame] at hafter
  have hread : ∀ frame : Nat, frame < 2 ^ 32 →
      readBaselineFrame 66 (writeBaselineFrame 66 frame) = some (frame, []) := by
    intro frame hrange
    have hreads : Reads (readBaselineFrame 66) (writeBaselineFrame 66 frame) frame := reads_frameBack hrange
    have hall := hreads []
    rwa [List.append_nil] at hall
  refine ⟨old, hold, new, hnew, holdFrame, hnewFrame, fun h => hlost (hbefore.1.mp h), ?_, ?_⟩
  · by_contra hnone
    exact hlost ((hbefore.2 1 0 66 _ _ hfound hknown hnewer (hread 1 (by decide))).mp hnone)
  · exact (hafter.2 1 0 66 _ _ hfound hknown hnewer (hread 65 (by decide))).mpr hheld

end AshiatoSync
