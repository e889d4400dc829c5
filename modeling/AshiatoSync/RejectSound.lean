import AshiatoSync.ShownSound

/-!
# Rejected records

Whatever the bits of a packet are, its records are applied one after the other up
to the first that is rejected.  A record that is rejected while it is read leaves
no trace, and the packet is acknowledged when no record was rejected.
-/

namespace AshiatoSync

open BitCodec ReplicationClient ReadM

/-! ## The cues end -/

def RecordReader.Advances (n : Nat) : RecordReader → Prop
  | .fail => True
  | .done _ rest => rest.length ≤ n
  | .networkIdForWire _ next => ∀ id, (next id).Advances n
  | .localEntity _ next => ∀ entity, (next entity).Advances n

def SyncSettings.CuesAdvance (settings : SyncSettings) : Prop :=
  ∀ ops ∈ settings.cueOps, ∀ deserialize, ops.deserialize = some deserialize →
    ∀ bits context, (deserialize bits context).Advances bits.length

section

variable {R : Type}

def ReadM.Narrows {α : Type} (m : ReadM R α) (s : ReplicationClient R × Bits) : Prop :=
  ∀ a s', m s = .ok a s' → s'.1.settings = s.1.settings ∧ s'.2.length ≤ s.2.length

theorem length_readBits : ∀ (n : Nat) {bits : Bits} {v : Nat} {rest : Bits}, readBits n bits = some (v, rest) →
    rest.length ≤ bits.length
  | 0, bits, v, rest, h => by
    obtain ⟨_, rfl⟩ := Prod.mk.inj (Option.some.inj h)
    exact Nat.le_refl _
  | n + 1, bits, v, rest, h => by
    cases bits with
    | nil => cases h
    | cons b bits =>
      change (readBits n bits).bind (fun p => some (b.toNat + 2 * p.1, p.2)) = _ at h
      obtain ⟨p, hp, heq⟩ := Option.bind_eq_some_iff.mp h
      obtain ⟨_, rfl⟩ := Prod.mk.inj (Option.some.inj heq)
      exact Nat.le_succ_of_le (length_readBits n hp)

theorem length_readFrameBack {n : Nat} {current v : SyncFrame} {bits rest : Bits}
    (h : readFrameBack n current bits = some (v, rest)) :
    rest.length ≤ bits.length := by
  cases bits with
  | nil => cases h
  | cons full bits =>
    cases full with
    | true =>
      change readBits 32 bits = _ at h
      exact Nat.le_succ_of_le (length_readBits 32 h)
    | false =>
      change (readBits n bits).bind
        (fun p => (if p.1 > current then failure else pure (current - p.1) : Reader SyncFrame) p.2) = _ at h
      obtain ⟨p, hp, heq⟩ := Option.bind_eq_some_iff.mp h
      have hle := length_readBits n hp
      split at heq
      · cases heq
      · obtain ⟨_, rfl⟩ := Prod.mk.inj (Option.some.inj heq)
        exact Nat.le_succ_of_le hle

theorem length_cueHeader {frame : SyncFrame} {bits rest : Bits} {header : SyncFrame × Nat}
    (h : (do
      let cueFrame ← readCueFrame frame
      let type ← readBits 16
      pure (cueFrame, type) : Reader (SyncFrame × Nat)) bits = some (header, rest)) : rest.length ≤ bits.length := by
  change (readCueFrame frame bits).bind (fun p => (readBits 16 p.2).bind fun q => some ((p.1, q.1), q.2)) = _ at h
  obtain ⟨p, hp, h⟩ := Option.bind_eq_some_iff.mp h
  obtain ⟨q, hq, heq⟩ := Option.bind_eq_some_iff.mp h
  obtain ⟨_, rfl⟩ := Prod.mk.inj (Option.some.inj heq)
  exact Nat.le_trans (length_readBits 16 hq) (length_readFrameBack hp)

theorem narrows_deserialized (references : Bool) (reason : String) :
    ∀ (reader : RecordReader) (s : ReplicationClient R × Bits),
    reader.Advances s.2.length → Narrows (deserialized references reason reader) s
  | .fail, _, _ => nofun
  | .done bytes rest, s, h => by
    rintro a s' heq
    cases heq
    exact ⟨rfl, h⟩
  | .networkIdForWire w next, s, h => by
    intro a s' heq
    cases references with
    | true =>
      exact narrows_deserialized true reason (next (s.1.store.clientEntityNetworkIdForWire s.1.clientId w).2)
        ({ s.1 with store := (s.1.store.clientEntityNetworkIdForWire s.1.clientId w).1 }, s.2) (h _) a s' heq
    | false => exact narrows_deserialized false reason (next invalidClientEntityNetworkId) s (h _) a s' heq
  | .localEntity id next, s, h => fun a s' heq => narrows_deserialized references reason (next _) s (h _) a s' heq

theorem bind_congr_of_ok {α β : Type} {m : ReadM R α} {f g : α → ReadM R β} {s : ReplicationClient R × Bits}
    (h : ∀ a s', m s = .ok a s' → f a s' = g a s') : (m >>= f) s = (m >>= g) s := by
  change EStateM.bind m f s = EStateM.bind m g s
  unfold EStateM.bind
  cases hm : m s with
  | error reason s' => rfl
  | ok a s' => exact h a s' hm

theorem field_ok {α : Type} {reason : String} {read : Reader α} {s s' : ReplicationClient R × Bits} {a : α}
    (h : field reason read s = .ok a s') : read s.2 = some (a, s'.2) ∧ s'.1 = s.1 := by
  unfold field at h
  cases hread : read s.2 with
  | none =>
    simp only [hread] at h
    cases h
  | some p =>
    simp only [hread] at h
    cases h
    exact ⟨rfl, rfl⟩

/-- Every round of `read_cues` takes a bit: any two fuels above the number of bits give the same answer. -/
theorem readCues_fuel {settings : SyncSettings} (hadvance : settings.CuesAdvance) (frame : SyncFrame) :
    ∀ (fuel fuel' : Nat) (s : ReplicationClient R × Bits), s.1.settings = settings → s.2.length < fuel →
    s.2.length < fuel' →
      readCues frame fuel s = readCues frame fuel' s
  | 0, _, _, _, h, _ => absurd h (Nat.not_lt_zero _)
  | _, 0, _, _, _, h => absurd h (Nat.not_lt_zero _)
  | fuel + 1, fuel' + 1, s, hsettings, h, h' => by
    unfold readCues
    refine bind_congr_of_ok fun hasCue s₁ hs₁ => ?_
    obtain ⟨hbit, hclient₁⟩ := field_ok hs₁
    have hlen₁ : s₁.2.length + 1 = s.2.length := by
      cases hbits : s.2 with
      | nil =>
        rw [hbits] at hbit
        cases hbit
      | cons b rest =>
        rw [hbits] at hbit
        obtain ⟨_, hrest⟩ := Prod.mk.inj (Option.some.inj hbit)
        rw [← hrest]
        rfl
    split
    case isFalse => rfl
    case isTrue =>
      refine bind_congr_of_ok fun header s₂ hs₂ => ?_
      obtain ⟨hheader, hclient₂⟩ := field_ok hs₂
      have hlen₂ := length_cueHeader hheader
      refine bind_congr_of_ok fun client s₃ hs₃ => ?_
      cases hs₃
      cases hops : s₂.1.settings.cueOps[header.2]? with
      | none => rfl
      | some ops =>
        dsimp only
        cases hdeserialize : ops.deserialize with
        | none => rfl
        | some deserialize =>
          refine bind_congr_of_ok fun bits s₄ hs₄ => ?_
          cases hs₄
          refine bind_congr_of_ok fun value s₅ hs₅ => ?_
          have hsettings₂ : s₂.1.settings = settings := by rw [hclient₂, hclient₁, hsettings]
          have hmem : ops ∈ settings.cueOps := by
            rw [← hsettings₂]
            exact List.mem_of_getElem? hops
          obtain ⟨hsettings₅, hlen₅⟩ :=
            narrows_deserialized ops.referencesEntities "cue_deserialize_failed" _ s₂
            (hadvance ops hmem deserialize hdeserialize s₂.2 _) value s₅ hs₅
          have heq :=
            readCues_fuel hadvance frame fuel fuel' s₅ (hsettings₅.trans hsettings₂) (by omega) (by omega)
          change EStateM.bind _ _ s₅ = EStateM.bind _ _ s₅
          unfold EStateM.bind
          rw [heq]

end

/-! ## One record after the other -/

section

variable {R : Type} [LocalRegistry R] {frame : SyncFrame}

def readRecordHeader (protocol : ProtocolDescriptor) : Reader (Bool × Nat) := do
  let destroy ← BitCodec.readBit
  let wireNetworkId ← readNetworkEntityId protocol.networkEntityIdTier0Bits
  pure (destroy, wireNetworkId)

/-- The next record is an update that `read_upsert_metadata`, `decode_upsert_record` or `read_cues` rejects. -/
def RefusedWhileRead (frame : SyncFrame) (s : ReplicationClient R × Bits) : Prop :=
  ∃ w rest reason s', readRecordHeader s.1.options.protocol s.2 = some ((false, w), rest) ∧ w ≠ 0 ∧
    readUpsert frame w (s.1, rest) = .error reason s'

omit [LocalRegistry R] in
theorem readUpsert_error {client : ReplicationClient R} [LocalRegistry R] (h : ClientOk client)
    (hversions : ∀ x, destroyCount x client.trace + 2 < 2 ^ 32) {w : Nat} {bits : Bits} {reason : String}
    {s' : ReplicationClient R × Bits} (herror : readUpsert frame w (client, bits) = .error reason s') :
    Touched client s'.1 := by
  have hread := @gives_readUpsert R client frame w (fun e s hfound => h.found_present hversions hfound)
    (fun e s hfound _ definition hdef g baseline hbaseline => h.found_sized hfound hdef hbaseline) bits
  rw [herror] at hread
  exact hread

/-- A record that is rejected while it is read only touches versions. -/
theorem applyRecord_refused {s s' : ReplicationClient R × Bits} {reason : String} (h : ClientOk s.1)
    (hversions : ∀ x, destroyCount x s.1.trace + 2 < 2 ^ 32) (hrefused : RefusedWhileRead frame s)
    (herror : applyRecord frame s = .error reason s') : Touched s.1 s'.1 := by
  obtain ⟨w, rest, reason', s₁, hheader, hw, hread⟩ := hrefused
  obtain ⟨client, bits⟩ := s
  have hfield : field "record_header_read_failed" (readRecordHeader client.options.protocol) (client, bits) =
      .ok (false, w) (client, rest) := by
    unfold field
    dsimp only at hheader ⊢
    rw [hheader]
  have hrun : applyRecord frame (client, bits) = .error reason' s₁ := by
    unfold applyRecord
    change EStateM.bind (field "record_header_read_failed" (readRecordHeader client.options.protocol)) _
      (client, bits) = _
    unfold EStateM.bind
    rw [hfield]
    dsimp only
    rw [if_neg hw]
    change EStateM.bind (readUpsert frame w) _ (client, rest) = _
    unfold EStateM.bind
    rw [hread]
  rw [hrun] at herror
  cases herror
  exact readUpsert_error h hversions hread

/-- The records are applied in order, up to the first that is rejected. -/
theorem applyRecords_outcome : ∀ (count i : Nat) (s : ReplicationClient R × Bits),
    (∃ s', applyRecords frame count i s = .ok () s') ∨
      ∃ n s₁ reason s₂, n < count ∧ applyRecords frame n i s = .ok () s₁ ∧
      applyRecord frame s₁ = .error reason s₂ ∧
        applyRecords frame count i s = .error ("record_" ++ toString (i + n) ++ "_" ++ reason) s₂
  | 0, _, s => .inl ⟨s, rfl⟩
  | count + 1, i, s => by
    cases hfirst : applyRecord frame s with
    | error reason s₂ =>
      refine .inr ⟨0, s, reason, s₂, Nat.succ_pos count, rfl, hfirst, ?_⟩
      unfold applyRecords
      change EStateM.bind (inRecord i (applyRecord frame)) _ s = _
      unfold EStateM.bind inRecord
      rw [hfirst]
      rfl
    | ok a s₁ =>
      have hstep : ∀ n, applyRecords frame (n + 1) i s = applyRecords frame n (i + 1) s₁ := by
        intro n
        conv => lhs; unfold applyRecords
        change EStateM.bind (inRecord i (applyRecord frame)) _ s = _
        unfold EStateM.bind inRecord
        rw [hfirst]
      rcases applyRecords_outcome count (i + 1) s₁ with ⟨s', hok⟩ | ⟨n, s₂, reason, s₃, hn,
        hbefore, hrecord, hall⟩
      · exact .inl ⟨s', (hstep count).trans hok⟩
      · refine .inr ⟨n + 1, s₂, reason, s₃, Nat.succ_lt_succ hn, (hstep n).trans hbefore, hrecord,
          (hstep count).trans ?_⟩
        rw [hall, Nat.add_assoc, Nat.add_comm 1 n]

end

/-! ## Packets -/

section

variable {R : Type} [LocalRegistry R] {client : ReplicationClient R} {frame : SyncFrame}

/-- `apply_update` on any bits: reading cues ends, the packet is acknowledged when it has a record and all of them were
applied, and a record that is rejected while it is read leaves the client as the records before it made it. -/
theorem malformed_record_changes_nothing (h : ClientReachable client) (hadvance : client.settings.CuesAdvance)
    (hpos : 0 < frame) (hrange : frame < 2 ^ 32) {recordCount : Nat}
    (hversions : ∀ w, destroyCount w client.trace + recordCount + 1 < 2 ^ 32) (packetId : Nat) (bits : Bits) :
    (∀ s : ReplicationClient R × Bits, s.1.settings = client.settings → ∀ fuel, s.2.length < fuel →
      readCues frame fuel s = readCues frame (s.2.length + 1) s) ∧
    ((∃ applied rest, applyRecords frame recordCount 0 (client, bits) = .ok () (applied, rest) ∧
        applied.ackQueue = client.ackQueue ∧
        client.applyUpdate packetId frame recordCount bits =
          if recordCount = 0 then (applied, some "empty_update")
          else ({ applied with ackQueue := client.ackQueue ++ [packetId] }, none)) ∨
      ∃ n before rest reason after rest', n < recordCount ∧
        applyRecords frame n 0 (client, bits) = .ok () (before, rest) ∧
        applyRecord frame (before, rest) = .error reason (after, rest') ∧
        client.applyUpdate packetId frame recordCount bits =
          (after, some ("record_" ++ toString n ++ "_" ++ reason)) ∧
        after.ackQueue = client.ackQueue ∧ (RefusedWhileRead frame (before, rest) → Touched before after)) := by
  refine ⟨fun s hs fuel hfuel => readCues_fuel hadvance frame fuel _ s hs hfuel (Nat.lt_succ_self _), ?_⟩
  have hleaves := applyRecords_ok hpos hrange recordCount 0 client h.ok hversions bits
  rcases @applyRecords_outcome R _ frame recordCount 0 (client, bits) with ⟨⟨applied, rest⟩, hall⟩ | hrejected
  · refine .inl ⟨applied, rest, hall, ?_, ?_⟩
    · rw [hall] at hleaves
      exact hleaves.2.1
    · unfold ReplicationClient.applyUpdate
      rw [hall] at hleaves ⊢
      dsimp only at hleaves ⊢
      rw [hleaves.2.1]
  · obtain ⟨n, ⟨before, rest⟩, reason, ⟨after, rest'⟩, hn, hbefore, hrecord, hall⟩ := hrejected
    rw [Nat.zero_add] at hall
    refine .inr ⟨n, before, rest, reason, after, rest', hn, hbefore, hrecord, ?_, ?_, fun hrefused => ?_⟩
    · unfold ReplicationClient.applyUpdate
      rw [hall]
    · rw [hall] at hleaves
      exact hleaves.2.1
    · have hearlier := applyRecords_ok hpos hrange n 0 client h.ok (fun w => ?_) bits
      · rw [hbefore] at hearlier
        refine @applyRecord_refused R _ frame (before, rest) (after, rest') reason hearlier.1 (fun x => ?_)
          hrefused hrecord
        have hle := hearlier.2.2 x
        have hlt := hversions x
        dsimp only at hle ⊢
        omega
      · have hlt := hversions w
        omega

end

namespace Sample

theorem settings_cuesAdvance : settings.CuesAdvance := by
  intro ops hops deserialize hdeserialize bits context
  simp only [settings, List.mem_singleton] at hops
  subst hops
  obtain rfl := Option.some.inj hdeserialize
  simp [RecordReader.Advances]

set_option maxRecDepth 10000 in
theorem whole_settings : whole.settings = settings := rfl

/-- A record of the sample entity that breaks off. -/
def truncated : Bits := (deltaRecord 1 2 1 [some 7, none]).take 20

theorem truncated_refused : RefusedWhileRead 2 (whole, truncated) := by
  obtain ⟨rest, hheader, hrefused⟩ : ∃ rest,
      readRecordHeader whole.options.protocol truncated = some ((false, 1), rest) ∧
      (match readUpsert 2 1 (whole, rest) with
        | .error _ _ => true
        | .ok _ _ => false) = true :=
    ⟨truncated.drop 13, by decide +kernel, by decide +kernel⟩
  cases hread : readUpsert 2 1 (whole, rest) with
  | error reason s' => exact ⟨1, rest, reason, s', hheader, Nat.one_ne_zero, hread⟩
  | ok a s' =>
    rw [hread] at hrefused
    cases hrefused

end Sample

/-- The packet of a record that breaks off is not acknowledged, and the record only touches versions. -/
theorem malformed_record_changes_nothing_truncated :
    (Sample.whole.applyUpdate 2 2 1 Sample.truncated).1.ackQueue = Sample.whole.ackQueue ∧
    Touched Sample.whole (Sample.whole.applyUpdate 2 2 1 Sample.truncated).1 := by
  have hreason : (Sample.whole.applyUpdate 2 2 1 Sample.truncated).2.isSome = true := by decide +kernel
  have hsettings : Sample.whole.settings.CuesAdvance := by
    rw [Sample.whole_settings]
    exact Sample.settings_cuesAdvance
  have hbound : ∀ w, destroyCount w Sample.whole.trace + 1 + 1 < 2 ^ 32 := fun w => by
    have hle : destroyCount w Sample.whole.trace ≤ Sample.whole.trace.length := List.countP_le_length
    have hlength : Sample.whole.trace.length = 2 := by decide +kernel
    omega
  obtain ⟨_, ⟨applied, rest, _, _, hresult⟩ | ⟨n, before, rest, reason, after, rest', hn, hbefore, _, hresult,
    hacks, htouched⟩⟩ :=
    malformed_record_changes_nothing Sample.whole_reachable hsettings (by decide : 0 < 2) (by decide) hbound 2
      Sample.truncated
  · rw [hresult] at hreason
    cases hreason
  · obtain rfl : n = 0 := Nat.lt_one_iff.mp hn
    cases hbefore
    rw [hresult]
    exact ⟨hacks, htouched Sample.truncated_refused⟩

end AshiatoSync
