import AshiatoSync.ClientRuntime
import AshiatoSync.Runs

/-!
# A sample client

A local registry of tables, and packets for one client whose entities have the
sample server's archetype.
-/

namespace AshiatoSync

namespace Sample

/-! ## The registry -/

structure Table where
  next : Nat := 0
  living : Entity → Bool := fun _ => false
  bounded : ∀ e, living e = true → e.index < next := by nofun
  values : Entity → ComponentId → Option Bytes := fun _ _ => none
  tags : Entity → ComponentId → Bool := fun _ _ => false

namespace Table

def made (t : Table) : Entity := ⟨t.next, 1⟩

theorem living_made (t : Table) : t.living t.made = false := by
  by_contra h
  exact absurd (t.bounded t.made (by simpa using h)) (Nat.lt_irrefl t.next)

instance : LocalRegistry Table where
  alive := living
  get := values
  hasTag := tags
  create t := ({
    next := t.next + 1
    living := fun e => decide (e = t.made) || t.living e
    bounded := fun e h => by
      rcases Bool.or_eq_true_iff.mp h with hmade | hold
      · rw [of_decide_eq_true hmade]
        exact Nat.lt_succ_self t.next
      · exact Nat.lt_succ_of_lt (t.bounded e hold)
    values := fun e c => if e = t.made then none else t.values e c
    tags := fun e c => !decide (e = t.made) && t.tags e c }, t.made)
  destroy t e := { t with
    living := fun e' => !decide (e' = e) && t.living e'
    bounded := fun e' h => t.bounded e' (Bool.and_eq_true_iff.mp h).2 }
  set t e c v := { t with values := fun e' c' => if e' = e ∧ c' = c then some v else t.values e' c' }
  remove t e c := { t with values := fun e' c' => if e' = e ∧ c' = c then none else t.values e' c' }
  addTag t e tag := some { t with tags := fun e' tag' => decide (e' = e ∧ tag' = tag) || t.tags e' tag' }
  removeTag t e tag := { t with tags := fun e' tag' => !decide (e' = e ∧ tag' = tag) && t.tags e' tag' }
  create_fresh := living_made
  alive_create _ _ := rfl
  get_create _ _ _ := rfl
  hasTag_create _ _ _ := rfl
  alive_destroy _ _ _ := rfl
  get_destroy _ _ _ _ _ := rfl
  hasTag_destroy _ _ _ _ _ := rfl
  alive_set _ _ _ _ _ := rfl
  get_set _ _ _ _ _ _ := rfl
  hasTag_set _ _ _ _ _ _ := rfl
  alive_remove _ _ _ _ := rfl
  get_remove _ _ _ _ _ := rfl
  hasTag_remove _ _ _ _ _ := rfl
  alive_addTag _ _ _ _ _ h := by cases h; rfl
  get_addTag _ _ _ _ _ _ h := by cases h; rfl
  hasTag_addTag _ _ _ _ _ _ h := by cases h; rfl
  alive_removeTag _ _ _ _ := rfl
  get_removeTag _ _ _ _ _ := rfl
  hasTag_removeTag _ _ _ _ _ := rfl

end Table

/-! ## Packets -/

def newClient (defaultMode : ReplicationClientMode) : ReplicationClient Table where
  options := { defaultMode }
  settings
  clientId := 1
  registry := {}

def fullRecord (w : Nat) (values : List (Option UInt8)) : Bits :=
  false :: writeNetworkEntityId w 11 ++ [true] ++ unsignedBits 0 32 ++ [true, false] ++ values.map Option.isSome ++
    values.flatMap (fun value => bytesToBits value.toList) ++ [false]

def deltaRecord (w : Nat) (frame baselineFrame : SyncFrame) (values : List (Option UInt8)) : Bits :=
  false :: writeNetworkEntityId w 11 ++ [false] ++ writeBaselineFrame frame baselineFrame ++ [false] ++
    values.map Option.isSome ++
    values.flatMap (fun value => bytesToBits value.toList) ++ [false]

def destroyRecord (w : Nat) : Bits := true :: writeNetworkEntityId w 11

def receive (client : ReplicationClient Table) (frame : SyncFrame) (record : Bits) : ReplicationClient Table :=
  (client.applyUpdate frame frame 1 record).1

end Sample

end AshiatoSync
