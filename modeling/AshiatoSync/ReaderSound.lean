import AshiatoSync.UpdateReader
import AshiatoSync.ViewSound

/-!
# What the client reads

Whatever bits a packet holds, reading a record leaves the client as it is up to
wire versions that are touched, and a record that is accepted fits the state its
entity has.
-/

namespace AshiatoSync

open BitCodec

/-! ## Touched clients -/

theorem makeClientEntityNetworkId_ne_zero {client : ClientId} {wireNetworkId version : Nat} (h : 0 < wireNetworkId)
    (hmax : wireNetworkId ≤ maxClientLocalWireNetworkId) :
    makeClientEntityNetworkId client wireNetworkId version ≠ invalidClientEntityNetworkId := by
  change (client % 2 ^ 8) * 2 ^ 52 + (wireNetworkId % 2 ^ 20) * 2 ^ 32 + version % 2 ^ 32 ≠ (0 : Nat)
  unfold maxClientLocalWireNetworkId at hmax
  omega

section

variable {R : Type}

structure Touched (client client' : ReplicationClient R) : Prop where
  same : ∃ wires, client' = { client with store := { client.store with wireNetworkIds := wires } }
  wires : ∀ w, client'.store.wireNetworkIds w = client.store.wireNetworkIds w ∨
    ((client.store.wireNetworkIds w).version = 0 ∧
      client'.store.wireNetworkIds w = { client.store.wireNetworkIds w with version := 1 })

theorem Touched.refl (client : ReplicationClient R) : Touched client client := ⟨⟨_, rfl⟩, fun _ => .inl rfl⟩

theorem Touched.trans {a b c : ReplicationClient R} (hab : Touched a b) (hbc : Touched b c) : Touched a c where
  same := by
    obtain ⟨wires, rfl⟩ := hab.same
    obtain ⟨wires', rfl⟩ := hbc.same
    exact ⟨wires', rfl⟩
  wires w := by
    rcases hbc.wires w with heq | ⟨h0, heq⟩
    · rw [heq]
      exact hab.wires w
    · rcases hab.wires w with heq' | ⟨h0', heq'⟩
      · rw [heq'] at h0 heq
        exact .inr ⟨h0, heq⟩
      · simp [heq'] at h0

theorem Touched.networkIdForWire (client : ReplicationClient R) (id : ClientId) (w : Nat) :
    Touched client { client with store := (client.store.clientEntityNetworkIdForWire id w).1 } := by
  unfold ClientEntityStore.clientEntityNetworkIdForWire
  split
  · exact .refl client
  · dsimp only
    unfold ClientEntityStore.ensureWireVersion
    dsimp only
    split
    case isTrue h0 =>
      refine ⟨⟨_, rfl⟩, fun v => ?_⟩
      by_cases hv : v = w
      · subst hv
        exact .inr ⟨h0, by simp [ClientEntityStore.setWire]⟩
      · exact .inl (by simp [ClientEntityStore.setWire, Function.update_of_ne hv])
    case isFalse => exact .refl client

theorem Touched.findByWireId {a b : ReplicationClient R} (h : Touched a b) (w : Nat) :
    b.store.findByWireId w = a.store.findByWireId w := by
  have hindex : (b.store.wireNetworkIds w).entityIndex = (a.store.wireNetworkIds w).entityIndex := by
    rcases h.wires w with heq | ⟨-, heq⟩ <;> rw [heq]
  obtain ⟨wires, rfl⟩ := h.same
  rw [ClientEntityStore.findByWireId, ClientEntityStore.findByWireId, hindex]

theorem Touched.find {a b : ReplicationClient R} (h : Touched a b) (id : ClientEntityNetworkId) :
    b.store.findByClientEntityNetworkId id = a.store.findByClientEntityNetworkId id := by
  obtain ⟨wires, rfl⟩ := h.same
  rfl

theorem Touched.entity {a b : ReplicationClient R} (h : Touched a b) (e : Nat) : b.entity e = a.entity e := by
  obtain ⟨wires, rfl⟩ := h.same
  rfl

theorem Touched.settings {a b : ReplicationClient R} (h : Touched a b) : b.settings = a.settings := by
  obtain ⟨wires, rfl⟩ := h.same
  rfl

theorem Touched.version {a b : ReplicationClient R} (h : Touched a b) {w : Nat}
    (hne : (a.store.wireNetworkIds w).version ≠ 0) :
    (b.store.wireNetworkIds w).version = (a.store.wireNetworkIds w).version := by
  rcases h.wires w with heq | ⟨hzero, _⟩
  · rw [heq]
  · exact absurd hzero hne

/-! ## Outcomes of a read -/

def ReadM.Gives {α : Type} (m : ReadM R α) (client : ReplicationClient R) (Q : α → ReplicationClient R → Prop) :
    Prop :=
  ∀ bits, match m (client, bits) with
    | .ok a (client', _) => Touched client client' ∧ Q a client'
    | .error _ (client', _) => Touched client client'

namespace ReadM

variable {α β : Type} {client : ReplicationClient R} {Q : α → ReplicationClient R → Prop}

theorem gives_pure {a : α} (h : Q a client) : Gives (pure a) client Q := fun _ => ⟨.refl client, h⟩

theorem gives_throw (reason : String) : Gives (throw reason : ReadM R α) client Q := fun _ => .refl client

theorem gives_throw_bind (reason : String) (f : β → ReadM R α) : Gives (throw reason >>= f) client Q :=
  fun _ => .refl client

theorem Gives.bind {m : ReadM R α} {f : α → ReadM R β} {Q' : β → ReplicationClient R → Prop}
    (h : Gives m client Q) (hf : ∀ a client', Touched client client' → Q a client' → Gives (f a) client' Q') :
    Gives (m >>= f) client Q' := by
  intro bits
  have hm := h bits
  change match EStateM.bind m f (client, bits) with
    | .ok a (client', _) => Touched client client' ∧ Q' a client'
    | .error _ (client', _) => Touched client client'
  unfold EStateM.bind
  cases hrun : m (client, bits) with
  | error reason s => rwa [hrun] at hm
  | ok a s =>
    obtain ⟨client', bits'⟩ := s
    rw [hrun] at hm
    have hnext := hf a client' hm.1 hm.2 bits'
    dsimp only
    cases hrun' : f a (client', bits') with
    | error reason s =>
      rw [hrun'] at hnext
      exact hm.1.trans hnext
    | ok b s =>
      rw [hrun'] at hnext
      exact ⟨hm.1.trans hnext.1, hnext.2⟩

theorem Gives.weaken {m : ReadM R α} {Q' : α → ReplicationClient R → Prop} (h : Gives m client Q)
    (hQ : ∀ a client', Q a client' → Q' a client') : Gives m client Q' := by
  intro bits
  have hm := h bits
  cases hrun : m (client, bits) with
  | error reason s => rwa [hrun] at hm
  | ok a s =>
    rw [hrun] at hm
    exact ⟨hm.1, hQ a s.1 hm.2⟩

theorem gives_field (reason : String) (read : Reader α) (h : ∀ a, Q a client) :
    Gives (field reason read) client Q := by
  intro bits
  unfold field
  dsimp only
  cases read bits with
  | none => exact .refl client
  | some found => exact ⟨.refl client, h found.1⟩

theorem gives_client {Q : ReplicationClient R → ReplicationClient R → Prop} (h : Q client client) :
    Gives ReadM.client client Q :=
  fun _ => ⟨.refl client, h⟩

theorem gives_stream : Gives ReadM.stream client fun _ client' => client' = client := fun _ => ⟨.refl client, rfl⟩

theorem gives_networkIdForWire (w : Nat) : Gives (networkIdForWire w) client fun id client' =>
    (id, client'.store) = ((client.store.clientEntityNetworkIdForWire client.clientId w).2,
      (client.store.clientEntityNetworkIdForWire client.clientId w).1) :=
  fun _ => ⟨.networkIdForWire client client.clientId w, rfl⟩

theorem gives_deserialized (references : Bool) (reason : String) (reader : RecordReader)
    (client : ReplicationClient R) :
    Gives (deserialized references reason reader) client fun _ _ => True := by
  induction reader generalizing client with
  | fail => exact gives_throw reason
  | done bytes rest => exact fun _ => ⟨.refl client, trivial⟩
  | networkIdForWire w next ih =>
    unfold deserialized
    dsimp only
    split
    · exact (gives_networkIdForWire w).bind fun id client' _ _ => ih id client'
    · exact ih invalidClientEntityNetworkId client
  | localEntity id next ih =>
    unfold deserialized
    exact Gives.bind (gives_client (Q := fun _ _ => True) trivial) fun found client' _ _ => ih _ client'

theorem gives_component (c : ComponentReplication) (reason : String) (previous : Option Bytes)
    (context : SerializationContext) :
    Gives (component c reason previous context) client fun _ _ => True := by
  unfold component
  exact gives_stream.bind fun bits client' _ _ => gives_deserialized _ _ _ client'

end ReadM

/-! ## Metadata -/

structure FullFits (client : ReplicationClient R) (frame : SyncFrame) (w : Nat) (id : ClientEntityNetworkId)
    (metadata : UpsertMetadata) : Prop where
  full : metadata.isFullUpsert = true
  notBlocked : client.store.destroyTombstones.blocks w frame = false
  fresh : client.store.findByClientEntityNetworkId id = none → metadata.foundState = none
  found : ∀ e s, client.store.findByClientEntityNetworkId id = some (e, s) → metadata.foundState = some e ∧
    (s.entityPresent = true → s.archetype = metadata.archetype) ∧ s.frame < frame

structure DeltaFits (client : ReplicationClient R) (frame : SyncFrame) (w : Nat) (metadata : UpsertMetadata) :
    Prop where
  delta : metadata.isFullUpsert = false
  found : ∃ e s baseline, client.store.findByWireId w = some (e, s) ∧ metadata.foundState = some e ∧
    s.absent = false ∧
    metadata.archetype = s.archetype ∧ s.frame < frame ∧ metadata.previousBaseline = some baseline ∧
    s.findBaseline metadata.baselineFrame = some baseline

structure MetadataFits (client : ReplicationClient R) (frame : SyncFrame) (w : Nat) (id : ClientEntityNetworkId)
    (metadata : UpsertMetadata) : Prop where
  atFrame : metadata.frame = frame
  atWire : metadata.wireNetworkId = w
  forId : metadata.clientEntityNetworkId = id
  archetype : metadata.archetype < client.settings.archetypes.length
  notAbsent : metadata.previousAbsent = false
  kind : FullFits client frame w id metadata ∨ DeltaFits client frame w metadata

namespace ReadM

variable {client : ReplicationClient R} {frame : SyncFrame} {w : Nat} {id : ClientEntityNetworkId}

theorem gives_readFullMetadata (hpresent : ∀ e s, client.store.findByClientEntityNetworkId id = some (e, s) →
    s.absent = false) :
    Gives (readFullMetadata frame w id) client fun metadata client' =>
      client' = client ∧ MetadataFits client frame w id metadata := by
  unfold readFullMetadata
  refine (gives_client (Q := fun found client' => client = found ∧ client = client') ⟨rfl, rfl⟩).bind ?_
  rintro _ _ - ⟨rfl, rfl⟩
  dsimp only
  split
  · exact gives_throw_bind _ _
  rename_i hblocked
  refine (gives_client (Q := fun found client' => client = found ∧ client = client') ⟨rfl, rfl⟩).bind ?_
  rintro _ _ - ⟨rfl, rfl⟩
  refine (gives_field (Q := fun _ client' => client = client') _ _ fun _ => rfl).bind ?_
  rintro archetype _ - rfl
  refine (gives_client (Q := fun found client' => client = found ∧ client = client') ⟨rfl, rfl⟩).bind ?_
  rintro _ _ - ⟨rfl, rfl⟩
  split
  · exact gives_throw_bind _ _
  rename_i harchetype
  split
  · rename_i hnone
    refine gives_pure ⟨rfl, rfl, rfl, rfl, Nat.lt_of_not_le harchetype, rfl,
      .inl ⟨rfl, ?_, fun _ => rfl, fun e s hsome => ?_⟩⟩
    · simpa using hblocked
    · rw [hnone] at hsome
      cases hsome
  · rename_i e s hsome
    have habsent := hpresent e s hsome
    simp only [habsent, Bool.not_false, Bool.true_and, Bool.false_eq_true, if_false]
    split
    · exact gives_throw_bind _ _
    rename_i hmatch
    split
    · exact gives_throw_bind _ _
    rename_i hstale
    refine gives_pure ⟨rfl, rfl, rfl, rfl, Nat.lt_of_not_le harchetype, rfl,
      .inl ⟨rfl, ?_, fun hnone => ?_, fun e' s' hsome' => ?_⟩⟩
    · simpa using hblocked
    · rw [hnone] at hsome
      cases hsome
    · obtain ⟨rfl, rfl⟩ : e = e' ∧ s = s' := by simpa using hsome.symm.trans hsome'
      refine ⟨rfl, fun htrue => ?_, Nat.lt_of_not_le (by simpa using hstale)⟩
      simpa [htrue] using hmatch

theorem gives_readDeltaMetadata : Gives (readDeltaMetadata frame w id) client fun metadata client' =>
    client' = client ∧ MetadataFits client frame w id metadata := by
  unfold readDeltaMetadata
  refine (gives_client (Q := fun found client' => client = found ∧ client = client') ⟨rfl, rfl⟩).bind ?_
  rintro _ _ - ⟨rfl, rfl⟩
  split
  · exact gives_throw _
  rename_i e s hfound
  dsimp only
  split
  · exact gives_throw_bind _ _
  rename_i habsent
  refine (gives_client (Q := fun found client' => client = found ∧ client = client') ⟨rfl, rfl⟩).bind ?_
  rintro _ _ - ⟨rfl, rfl⟩
  split
  · exact gives_throw_bind _ _
  rename_i harchetype
  split
  · exact gives_throw_bind _ _
  rename_i hstale
  refine (gives_field (Q := fun _ client' => client = client') _ _ fun _ => rfl).bind ?_
  rintro baselineFrame _ - rfl
  split
  · exact gives_throw _
  · rename_i baseline hbaseline
    refine gives_pure ⟨rfl, rfl, rfl, rfl, Nat.lt_of_not_le harchetype, rfl,
      .inr ⟨rfl, e, s, baseline, hfound, rfl, ?_, rfl, ?_, rfl, hbaseline⟩⟩
    · simpa using habsent
    · exact Nat.lt_of_not_le hstale

/-- `read_upsert_metadata` accepts only what fits the state of the wire id. -/
theorem gives_readUpsertMetadata (hpresent : ∀ e s, client.store.findByClientEntityNetworkId
      (client.store.clientEntityNetworkIdForWire client.clientId w).2 = some (e, s) → s.absent = false) :
    Gives (readUpsertMetadata frame w) client fun metadata client' =>
      client'.store = (client.store.clientEntityNetworkIdForWire client.clientId w).1 ∧
      (client.store.clientEntityNetworkIdForWire client.clientId w).2 ≠ invalidClientEntityNetworkId ∧
      MetadataFits client frame w (client.store.clientEntityNetworkIdForWire client.clientId w).2 metadata := by
  unfold readUpsertMetadata
  refine (gives_field (Q := fun _ client' => client = client') _ _ fun _ => rfl).bind ?_
  rintro full _ - rfl
  refine (gives_networkIdForWire w).bind ?_
  rintro id client' htouched heq
  obtain ⟨rfl, hstore⟩ := Prod.mk.inj heq
  dsimp only
  split
  · exact gives_throw_bind _ _
  rename_i hvalid
  -- what fits the touched client fits the client
  have hback : ∀ metadata,
      MetadataFits client' frame w (client.store.clientEntityNetworkIdForWire client.clientId w).2 metadata →
      MetadataFits client frame w (client.store.clientEntityNetworkIdForWire client.clientId w).2 metadata := by
    intro metadata h
    have hfind := htouched.find
    have hwire := htouched.findByWireId w
    have hsettings := htouched.settings
    have htombstones : client'.store.destroyTombstones = client.store.destroyTombstones := by
      obtain ⟨wires, rfl⟩ := htouched.same
      rfl
    refine ⟨h.atFrame, h.atWire, h.forId, hsettings ▸ h.archetype, h.notAbsent, ?_⟩
    rcases h.kind with hfull | hdelta
    · refine .inl ⟨hfull.full, htombstones ▸ hfull.notBlocked, fun hnone => hfull.fresh ?_,
        fun e s hsome => hfull.found e s ?_⟩
      · rw [hfind, hnone]
      · rw [hfind, hsome]
    · obtain ⟨e, s, baseline, hfound, hrest⟩ := hdelta.found
      exact .inr ⟨hdelta.delta, e, s, baseline, hwire ▸ hfound, hrest⟩
  split
  · refine (gives_readFullMetadata fun e s hsome => hpresent e s (by rw [← htouched.find]; exact hsome)).weaken ?_
    rintro metadata _ ⟨rfl, hfits⟩
    exact ⟨hstore, hvalid, hback metadata hfits⟩
  · refine gives_readDeltaMetadata.weaken ?_
    rintro metadata _ ⟨rfl, hfits⟩
    exact ⟨hstore, hvalid, hback metadata hfits⟩

end ReadM

/-! ## Payloads -/

namespace ReadM

variable {client : ReplicationClient R} {definition : SyncArchetype} {frame : SyncFrame}
  {context : SerializationContext}

theorem gives_readSlot {record : AuthoritativeUpsertRecord} (h : Sized definition record.authoritative) (slot : Nat) :
    Gives (readSlot definition frame record slot) client fun record' _ => Sized definition record'.authoritative := by
  unfold readSlot
  dsimp only
  split
  · exact gives_throw_bind _ _
  split
  · split
    · exact gives_throw_bind _ _
    · refine (gives_field (Q := fun _ _ => True) _ _ fun _ => trivial).bind fun tagMask client' _ _ => ?_
      exact gives_pure h
  · split
    · exact gives_throw _
    · refine (gives_component _ _ _ _).bind fun bytes client' _ _ => ?_
      exact gives_pure (h.write _ _)

theorem gives_readSlots : ∀ (slots : List Nat) {record : AuthoritativeUpsertRecord} (client : ReplicationClient R),
    Sized definition record.authoritative →
    Gives (readSlots definition frame slots record) client fun record' _ => Sized definition record'.authoritative
  | [], _, _, h => gives_pure h
  | slot :: slots, _, _, h => (gives_readSlot h slot).bind fun _ client' _ h' => gives_readSlots slots client' h'

theorem gives_readListedSlots : ∀ (count : Nat) {record : AuthoritativeUpsertRecord} (client : ReplicationClient R),
    Sized definition record.authoritative →
    Gives (readListedSlots definition frame count record) client fun record' _ => Sized definition record'.authoritative
  | 0, _, _, h => gives_pure h
  | count + 1, _, client, h => by
    unfold readListedSlots
    refine (gives_field (Q := fun _ _ => True) _ _ fun _ => trivial).bind fun slot client' _ _ => ?_
    exact (gives_readSlot h slot).bind fun _ client'' _ h' => gives_readListedSlots count client'' h'

theorem gives_decodeFull {record : AuthoritativeUpsertRecord} (h : Sized definition record.authoritative) :
    Gives (decodeFullUpsertRecordPayload definition frame record) client fun record' _ =>
      Sized definition record'.authoritative := by
  unfold decodeFullUpsertRecordPayload
  refine (gives_field (Q := fun _ _ => True) _ _ fun _ => trivial).bind fun usesMask client' _ _ => ?_
  split
  · refine (gives_field (Q := fun _ _ => True) _ _ fun _ => trivial).bind fun mask client'' _ _ => ?_
    exact gives_readSlots _ client'' h
  · refine (gives_field (Q := fun _ _ => True) _ _ fun _ => trivial).bind fun count client'' _ _ => ?_
    exact gives_readListedSlots count client'' h

theorem gives_readChangedComponents {baseline : QuantizedFrameData} :
    ∀ (l : List Nat) {record : AuthoritativeUpsertRecord} (client : ReplicationClient R),
      Sized definition record.authoritative →
      Gives (readChangedComponents definition context baseline l record) client fun record' _ =>
        Sized definition record'.authoritative ∧ record'.changedSyncSlots = record.changedSyncSlots ∧
        ∀ i, i ∉ l → frameComponentData record'.authoritative i = frameComponentData record.authoritative i
  | [], _, _, h => gives_pure ⟨h, rfl, fun _ _ => rfl⟩
  | j :: rest, record, client, h => by
    unfold readChangedComponents
    split
    · exact gives_throw _
    · exact gives_throw _
    · refine (gives_component _ _ _ _).bind fun bytes client' _ _ => ?_
      refine (gives_readChangedComponents rest client' (h.write j bytes)).weaken ?_
      rintro record' _ ⟨hsized, hslots, hkept⟩
      refine ⟨hsized, hslots, fun i hi => ?_⟩
      obtain ⟨hij, hrest⟩ : i ≠ j ∧ i ∉ rest := by simpa using hi
      rw [hkept i hrest]
      exact frameComponentData_write_ne hij

theorem gives_decodeDelta {baseline : QuantizedFrameData} {baselineFrame : SyncFrame} (h : Sized definition baseline)
    (hsmall : definition.components.length ≤ 63) :
    Gives (decodeDeltaUpsertRecordPayload definition frame baselineFrame baseline) client fun record _ =>
      Sized definition record.authoritative ∧ ∀ i < definition.components.length,
        record.changedSyncSlots.getLsbD (i + 1) = false →
        frameComponentData record.authoritative i = frameComponentData baseline i := by
  unfold decodeDeltaUpsertRecordPayload
  refine (gives_field (Q := fun _ _ => True) _ _ fun _ => trivial).bind fun changed client' _ _ => ?_
  have hrest : ∀ (client : ReplicationClient R) (record : AuthoritativeUpsertRecord),
      Sized definition record.authoritative →
      record.changedSyncSlots = BitVec.ofNat 64 changed →
      (∀ i, frameComponentData record.authoritative i = frameComponentData baseline i) →
      Gives (readChangedComponents definition ⟨frame, baselineFrame⟩ baseline
        ((List.range definition.components.length).filter fun i => changed.testBit (i + 1)) record) client
          fun record _ =>
        Sized definition record.authoritative ∧ ∀ i < definition.components.length,
          record.changedSyncSlots.getLsbD (i + 1) = false →
          frameComponentData record.authoritative i = frameComponentData baseline i := by
    intro client record hsized hslots hsame
    refine (gives_readChangedComponents _ client hsized).weaken ?_
    rintro record' _ ⟨hsized', hslots', hkept⟩
    refine ⟨hsized', fun i hi hbit => ?_⟩
    rw [hkept i fun hmem => ?_, hsame]
    have htest := (List.mem_filter.mp hmem).2
    have h64 : i + 1 < 64 := by omega
    rw [hslots', hslots, BitVec.getLsbD_ofNat] at hbit
    simp [h64, htest] at hbit
  dsimp only
  split
  · split
    · exact gives_throw_bind _ _
    · refine (gives_field (Q := fun _ _ => True) _ _ fun _ => trivial).bind fun tagMask client'' _ _ => ?_
      exact hrest client'' _ h rfl fun _ => rfl
  · exact hrest client' _ h rfl fun _ => rfl

/-- What decoding a record gives: a whole frame, which a delta record takes from its baseline where it says nothing. -/
structure Decoded (definition : SyncArchetype) (metadata : UpsertMetadata) (record : AuthoritativeUpsertRecord) :
    Prop where
  sized : Sized definition record.authoritative
  kept : ∀ baseline, metadata.isFullUpsert = false → metadata.previousBaseline = some baseline →
    ∀ i < definition.components.length, record.changedSyncSlots.getLsbD (i + 1) = false →
      frameComponentData record.authoritative i = frameComponentData baseline i

theorem gives_decodeUpsertRecord {metadata : UpsertMetadata}
    (hdef : client.settings.archetypes[metadata.archetype]? = some definition)
    (hsized : ∀ baseline, metadata.previousBaseline = some baseline → metadata.isFullUpsert = false →
      Sized definition baseline) :
    Gives (decodeUpsertRecord metadata) client fun record _ => Decoded definition metadata record := by
  unfold decodeUpsertRecord
  refine (gives_client (Q := fun found client' => client = found ∧ client = client') ⟨rfl, rfl⟩).bind ?_
  rintro _ _ - ⟨rfl, rfl⟩
  rw [hdef]
  dsimp only
  split
  · exact gives_throw _
  · rename_i data hinit
    have hsmall : definition.components.length ≤ 63 := by
      unfold initFrameData at hinit
      split at hinit
      · cases hinit
      · rename_i hlen
        simp only [Bool.or_eq_true, decide_eq_true_eq, not_or, Nat.not_lt] at hlen
        exact hlen.2
    split
    · rename_i hfull
      refine (gives_decodeFull (length_initFrameData hinit).1).weaken fun record _ h => ⟨h,
        fun baseline hdelta => ?_⟩
      rw [hfull] at hdelta
      cases hdelta
    · rename_i hdelta
      split
      · exact gives_throw _
      · rename_i baseline hbaseline
        refine (gives_decodeDelta (hsized baseline hbaseline (by simpa using hdelta)) hsmall).weaken
          fun record _ h => ⟨h.1, fun baseline' _ heq => ?_⟩
        obtain rfl : baseline = baseline' := Option.some.inj (hbaseline.symm.trans heq)
        exact h.2

theorem gives_readCues (frame : SyncFrame) : ∀ (fuel : Nat) (client : ReplicationClient R),
    Gives (readCues frame fuel) client fun _ _ => True
  | 0, _ => gives_throw _
  | fuel + 1, client => by
    unfold readCues
    refine (gives_field (Q := fun _ _ => True) _ _ fun _ => trivial).bind fun hasCue client' _ _ => ?_
    split
    · refine (gives_field (Q := fun _ _ => True) _ _ fun _ => trivial).bind fun header client'' _ _ => ?_
      refine (gives_client (Q := fun _ _ => True) trivial).bind fun found client₃ _ _ => ?_
      split
      · exact gives_throw _
      · split
        · exact gives_throw _
        · refine gives_stream.bind fun bits client₄ _ _ => ?_
          refine (gives_deserialized _ _ _ client₄).bind fun value client₅ _ _ => ?_
          exact (gives_readCues frame fuel client₅).bind fun cues client₆ _ _ => gives_pure trivial
    · exact gives_pure trivial

/-- A record that was read fits the state of its entity and decodes to a whole frame; its id has the version its wire id
has now. -/
structure RecordRead (client client' : ReplicationClient R) (frame : SyncFrame) (w : Nat) (metadata : UpsertMetadata)
    (record : AuthoritativeUpsertRecord) : Prop where
  inRange : 0 < w ∧ w ≤ maxClientLocalWireNetworkId
  version : (client'.store.wireNetworkIds w).version ≠ 0
  fits : MetadataFits client frame w
    (makeClientEntityNetworkId (networkIdClient client.clientId) w (client'.store.wireNetworkIds w).version) metadata
  decoded : ∀ definition, client.settings.archetypes[metadata.archetype]? = some definition →
    Decoded definition metadata record

theorem clientEntityNetworkIdForWire_spec {store : ClientEntityStore} {id : ClientId} {w : Nat}
    (h : (store.clientEntityNetworkIdForWire id w).2 ≠ invalidClientEntityNetworkId) :
    (0 < w ∧ w ≤ maxClientLocalWireNetworkId) ∧
      ((store.clientEntityNetworkIdForWire id w).1.wireNetworkIds w).version ≠ 0 ∧
      (store.clientEntityNetworkIdForWire id w).2 =
        makeClientEntityNetworkId (networkIdClient id) w
          ((store.clientEntityNetworkIdForWire id w).1.wireNetworkIds w).version := by
  unfold ClientEntityStore.clientEntityNetworkIdForWire at h ⊢
  split at h
  · exact absurd rfl h
  · rename_i hrange
    rw [if_neg hrange]
    refine ⟨by omega, ?_⟩
    unfold ClientEntityStore.ensureWireVersion
    dsimp only
    split
    · simp [ClientEntityStore.setWire]
    · rename_i hversion
      exact ⟨hversion, rfl⟩

/-- The reads of `apply_upsert`. -/
theorem gives_readUpsert {w : Nat} (hpresent : ∀ e s, client.store.findByClientEntityNetworkId
      (client.store.clientEntityNetworkIdForWire client.clientId w).2 = some (e, s) → s.absent = false)
    (hstored : ∀ e s, client.store.findByWireId w = some (e, s) → s.absent = false → ∀ definition,
      client.settings.archetypes[s.archetype]? = some definition →
      ∀ g baseline, s.findBaseline g = some baseline → Sized definition baseline) :
    Gives (readUpsert frame w) client fun (metadata, record) client' => RecordRead client client' frame w
      metadata record := by
  unfold readUpsert
  refine (gives_readUpsertMetadata hpresent).bind fun metadata client₁ htouched₁ hmetadata => ?_
  obtain ⟨hstore, hvalid, hfits⟩ := hmetadata
  obtain ⟨hrange, hversion, hid⟩ := clientEntityNetworkIdForWire_spec hvalid
  rw [← hstore] at hversion hid
  rw [hid] at hfits
  obtain ⟨definition, hdef⟩ : ∃ definition, client.settings.archetypes[metadata.archetype]? = some definition :=
    ⟨_, List.getElem?_eq_getElem hfits.archetype⟩
  have hsized : ∀ baseline, metadata.previousBaseline = some baseline → metadata.isFullUpsert = false →
      Sized definition baseline := by
    intro baseline hbaseline hdelta
    rcases hfits.kind with hfull | ⟨_, e, s, baseline', hfound, _, habsent, harchetype, _, hprevious, hfind⟩
    · rw [hfull.full] at hdelta
      cases hdelta
    · obtain rfl : baseline' = baseline := Option.some.inj (hprevious.symm.trans hbaseline)
      exact hstored e s hfound habsent definition (harchetype ▸ hdef) _ _ hfind
  refine (gives_decodeUpsertRecord (by rw [htouched₁.settings]; exact hdef) hsized).bind
    fun record client₂ htouched₂ hdecoded => ?_
  refine gives_stream.bind fun bits client₃ htouched₃ _ => ?_
  refine (gives_readCues frame _ client₃).bind fun cues client₄ htouched₄ _ => gives_pure ?_
  have hsame : (client₄.store.wireNetworkIds w).version = (client₁.store.wireNetworkIds w).version :=
    ((htouched₂.trans htouched₃).trans htouched₄).version hversion
  refine ⟨hrange, hsame ▸ hversion, hsame ▸ hfits, fun definition' hdef' => ?_⟩
  obtain rfl : definition = definition' := Option.some.inj (hdef.symm.trans hdef')
  exact ⟨hdecoded.sized, hdecoded.kept⟩

end ReadM

end

end AshiatoSync
