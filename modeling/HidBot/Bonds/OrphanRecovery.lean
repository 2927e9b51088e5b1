import HidBot.Bonds.Startup
import HidBot.Sorting.Exchange
import Mathlib.Data.List.Lex

/-!
# The recovery of orphan schema records

`persistent_store_recovery.hpp`: the identities of the durable and the restored bonds are
compared, the schema records without a bond are planned for removal in a fixed order, and
the plan is carried out until a removal fails.
-/

namespace HidBot.Bonds

open Sorting (exchangeSort)

/-- What the loops see is the first `count` identities. -/
structure IdentitySet (capacity : ℕ) where
  identities : Vector StoreIdentity capacity := .replicate capacity {}
  count : ℕ := 0
  trustworthy : Bool := true

abbrev SecurityIdentitySet := IdentitySet bondCapacity

abbrev SchemaIdentitySet := IdentitySet schemaRecoveryCapacity

def sameIdentity (left right : StoreIdentity) : Bool :=
  left.type == right.type && left.value == right.value

namespace IdentitySet

variable {capacity : ℕ}

def listed (set : IdentitySet capacity) : List StoreIdentity :=
  set.identities.toList.take set.count

/-- The two loops of `valid_set`, from the `left` position on. -/
def validIdentities : List StoreIdentity → Bool
  | [] => true
  | left :: rest =>
      validIdentity left && rest.all (fun right => !sameIdentity left right) &&
        validIdentities rest

def validSet (set : IdentitySet capacity) : Bool :=
  if !set.trustworthy || capacity < set.count then false else validIdentities set.listed

def contains (set : IdentitySet capacity) (identity : StoreIdentity) : Bool :=
  set.listed.any (sameIdentity · identity)

def sameSet (left right : SecurityIdentitySet) : Bool :=
  if !left.validSet || !right.validSet || left.count ≠ right.count then false
  else left.listed.all right.contains

end IdentitySet

inductive RecoveryPlanKind where
  | ready
  | storageFailure
  deriving DecidableEq

/-- `orphans` is what the array holds up to `orphan_count`. -/
structure RecoveryPlan where
  kind : RecoveryPlanKind := .storageFailure
  orphans : List StoreIdentity := []
  deriving DecidableEq

/-- The complete model of the store before the start. -/
structure RecoveryInputs where
  persistentOur : SecurityIdentitySet
  persistentPeer : SecurityIdentitySet
  restoredOur : SecurityIdentitySet
  restoredPeer : SecurityIdentitySet
  schemas : SchemaIdentitySet

/-- The loop over the schema records, which ends early at a half bond. -/
def collectOrphans (our peer : SecurityIdentitySet) :
    List StoreIdentity → Option (List StoreIdentity)
  | [] => some []
  | identity :: rest =>
      if our.contains identity ≠ peer.contains identity then none
      else if !our.contains identity then
        (collectOrphans our peer rest).map (identity :: ·)
      else collectOrphans our peer rest

/-- `make_recovery_plan` -/
def RecoveryInputs.plan (inputs : RecoveryInputs) : RecoveryPlan :=
  let { persistentOur, persistentPeer, restoredOur, restoredPeer, schemas } := inputs
  if !persistentOur.validSet || !persistentPeer.validSet || !restoredOur.validSet ||
      !restoredPeer.validSet || !schemas.validSet ||
      !IdentitySet.sameSet persistentOur restoredOur ||
      !IdentitySet.sameSet persistentPeer restoredPeer then {}
  else if !persistentOur.listed.all persistentPeer.contains then {}
  else if !persistentPeer.listed.all persistentOur.contains then {}
  else
    match collectOrphans persistentOur persistentPeer schemas.listed with
    | none => {}
    | some orphans => { kind := .ready, orphans := exchangeSort identityLess orphans }

structure RecoveryExecutionResult where
  status : Int := 0
  completed : ℕ := 0
  deriving DecidableEq

section Execution

variable {σ : Type} (deleteVerified : StoreIdentity → σ → Int × σ)

/-- The loop of `run_orphan_recovery`, from `index` on. -/
def deleteOrphans (index : ℕ) : List StoreIdentity → σ → RecoveryExecutionResult × σ
  | [], state => ({ completed := index }, state)
  | orphan :: rest, state =>
      let deleted := deleteVerified orphan state
      if deleted.1 ≠ 0 then ({ status := deleted.1, completed := index }, deleted.2)
      else deleteOrphans (index + 1) rest deleted.2

def runOrphanRecovery (plan : RecoveryPlan) (state : σ) : RecoveryExecutionResult × σ :=
  if plan.kind ≠ .ready ∨ schemaRecoveryCapacity < plan.orphans.length then
    ({ status := -1 }, state)
  else deleteOrphans deleteVerified 0 plan.orphans state

end Execution

/-! ### The removal of a record -/

/-- A status that is not `ESP_OK`. -/
structure EspError where
  code : Int
  failed : code ≠ 0

/-- What the flash storage answers: a change that fails may have been applied. -/
inductive NvsAnswer where
  | done
  | failed (error : EspError) (applied : Bool)

def espInvalidState : Int := 0x103

/-- The answers to the removal of a record and to the read that checks it. -/
structure RemovalAnswers where
  erase : NvsAnswer := .done
  readBack : NvsAnswer := .done

/-- `delete_schema_revision_verified`, on the identities that have a record. -/
def deleteSchemaRevisionVerified (answers : RemovalAnswers) (identity : StoreIdentity)
    (records : List StoreIdentity) : Int × List StoreIdentity :=
  let erased := records.filter (· ≠ identity)
  match answers.erase with
  | .failed error applied => (error.code, if applied then erased else records)
  | .done =>
      match answers.readBack with
      | .failed error _ => (error.code, erased)
      | .done => (if identity ∈ erased then espInvalidState else 0, erased)

/-! ### The order of the identities -/

/-- The numbers that an identity is made of. -/
def identityKey (identity : StoreIdentity) : List ℕ :=
  identity.type.toNat :: identity.value.toList.map (·.toNat)

theorem lt_iff_numbers {left right : List UInt8} (same : left.length = right.length) :
    left < right ↔ left.map (·.toNat) < right.map (·.toNat) := by
  induction left generalizing right with
  | nil =>
      obtain rfl := List.length_eq_zero_iff.mp same.symm
      simp
  | cons first left ih =>
      obtain ⟨second, right, rfl⟩ := List.exists_cons_of_length_eq_add_one same.symm
      rw [List.map_cons, List.map_cons, List.cons_lt_cons_iff, List.cons_lt_cons_iff,
        ih (Nat.succ.inj same), UInt8.lt_iff_toNat_lt, UInt8.toNat_inj]

theorem identityLess_iff (left right : StoreIdentity) :
    identityLess left right ↔ identityKey left < identityKey right := by
  have same : left.value.toList.length = right.value.toList.length := by simp
  rw [identityKey, identityKey, List.cons_lt_cons_iff, identityLess, lt_iff_numbers same,
    UInt8.lt_iff_toNat_lt, UInt8.toNat_inj]

theorem identityKey_injective : identityKey.Injective := by
  rintro ⟨leftType, leftValue⟩ ⟨rightType, rightValue⟩ same
  obtain ⟨type, value⟩ := List.cons.inj same
  have bytes : Function.Injective UInt8.toNat := fun _ _ => UInt8.toNat_inj.mp
  obtain rfl : leftType = rightType := bytes type
  obtain rfl : leftValue = rightValue :=
    Vector.toList_inj.mp (List.map_injective_iff.mpr bytes value)
  rfl

/-! ### Sets -/

@[simp] theorem sameIdentity_iff {left right : StoreIdentity} :
    sameIdentity left right = true ↔ left = right := by
  cases left
  cases right
  simp [sameIdentity]

namespace IdentitySet

variable {capacity : ℕ}

/-- A set that the plan may be built from. -/
structure Sound (set : IdentitySet capacity) : Prop where
  trustworthy : set.trustworthy = true
  fits : set.count ≤ capacity
  valid : ∀ identity ∈ set.listed, validIdentity identity = true
  distinct : set.listed.Nodup

theorem validIdentities_iff {identities : List StoreIdentity} :
    validIdentities identities = true ↔
      (∀ identity ∈ identities, validIdentity identity = true) ∧ identities.Nodup := by
  induction identities with
  | nil => simp [validIdentities]
  | cons left rest ih =>
      have apart : rest.all (fun right => !sameIdentity left right) = true ↔ left ∉ rest := by
        have other (right : StoreIdentity) :
            (!sameIdentity left right) = true ↔ left ≠ right := by
          rw [Bool.not_eq_true', ← Bool.not_eq_true, sameIdentity_iff]
        rw [List.all_eq_true]
        simp only [other]
        exact ⟨fun each member => each left member rfl,
          fun absent right member same => absent (same ▸ member)⟩
      rw [validIdentities, Bool.and_eq_true, Bool.and_eq_true, ih, apart, List.forall_mem_cons,
        List.nodup_cons]
      tauto

theorem validSet_iff {set : IdentitySet capacity} : set.validSet = true ↔ set.Sound := by
  unfold validSet
  split
  · rename_i amiss
    refine iff_of_false Bool.false_ne_true fun sound => ?_
    simp [sound.trustworthy, Nat.not_lt.mpr sound.fits] at amiss
  · rename_i fine
    simp only [Bool.or_eq_true, Bool.not_eq_true', decide_eq_true_eq, not_or, Nat.not_lt,
      Bool.not_eq_false] at fine
    rw [validIdentities_iff]
    exact ⟨fun each => ⟨fine.1, fine.2, each.1, each.2⟩, fun sound => ⟨sound.valid, sound.distinct⟩⟩

theorem contains_iff {set : IdentitySet capacity} {identity : StoreIdentity} :
    set.contains identity = true ↔ identity ∈ set.listed := by
  rw [contains, List.any_eq_true]
  simp

theorem Sound.length {set : IdentitySet capacity} (sound : set.Sound) :
    set.listed.length = set.count := by
  rw [listed, List.length_take, Vector.length_toList, Nat.min_eq_left sound.fits]

/-- Sound sets of one size, one of them inside the other, are equal as sets. -/
theorem sameSet_iff {left right : SecurityIdentitySet} (one : left.Sound) (two : right.Sound) :
    sameSet left right = true ↔ ∀ identity, identity ∈ left.listed ↔ identity ∈ right.listed := by
  unfold sameSet
  rw [validSet_iff.mpr one, validSet_iff.mpr two]
  have inside : left.listed.all right.contains = true ↔ left.listed ⊆ right.listed := by
    simp [contains_iff, List.subset_def]
  by_cases sizes : left.count = right.count
  · simp only [Bool.not_true, Bool.or_self, sizes, ne_eq, not_true_eq_false, decide_false,
      Bool.false_eq_true, if_false, inside]
    have lengths : right.listed.length ≤ left.listed.length := by
      rw [one.length, two.length, sizes]
    constructor
    · intro subset identity
      have perm := (List.subperm_of_subset one.distinct subset).perm_of_length_le lengths
      exact perm.mem_iff
    · exact fun same identity => (same identity).mp
  · simp only [Bool.not_true, Bool.or_self, sizes, ne_eq, not_false_eq_true, decide_true,
      Bool.or_true, if_true, Bool.false_eq_true, false_iff]
    intro same
    have perm := (List.perm_ext_iff_of_nodup one.distinct two.distinct).mpr same
    rw [one.length.symm, two.length.symm] at sizes
    exact sizes perm.length_eq

/-- The same identities in another order. -/
structure Reordered (set other : IdentitySet capacity) : Prop where
  trustworthy : set.trustworthy = other.trustworthy
  count : set.count = other.count
  listed : set.listed.Perm other.listed

theorem Sound.reordered {set other : IdentitySet capacity} (sound : set.Sound)
    (reordered : set.Reordered other) : other.Sound where
  trustworthy := reordered.trustworthy ▸ sound.trustworthy
  fits := reordered.count ▸ sound.fits
  valid identity member := sound.valid identity (reordered.listed.mem_iff.mpr member)
  distinct := reordered.listed.nodup_iff.mp sound.distinct

theorem Reordered.symm {set other : IdentitySet capacity} (reordered : set.Reordered other) :
    other.Reordered set :=
  ⟨reordered.trustworthy.symm, reordered.count.symm, reordered.listed.symm⟩

end IdentitySet

/-! ### The plan -/

namespace RecoveryInputs

variable {inputs other : RecoveryInputs}

/-- Every set is sound, the restored bonds are the durable ones, and no bond is half there. -/
structure Consistent (inputs : RecoveryInputs) : Prop where
  persistentOur : inputs.persistentOur.Sound
  persistentPeer : inputs.persistentPeer.Sound
  restoredOur : inputs.restoredOur.Sound
  restoredPeer : inputs.restoredPeer.Sound
  schemas : inputs.schemas.Sound
  our : ∀ identity,
    identity ∈ inputs.persistentOur.listed ↔ identity ∈ inputs.restoredOur.listed
  peer : ∀ identity,
    identity ∈ inputs.persistentPeer.listed ↔ identity ∈ inputs.restoredPeer.listed
  paired : ∀ identity,
    identity ∈ inputs.persistentOur.listed ↔ identity ∈ inputs.persistentPeer.listed

theorem collectOrphans_paired {our peer : SecurityIdentitySet}
    (paired : ∀ identity, identity ∈ our.listed ↔ identity ∈ peer.listed)
    (identities : List StoreIdentity) :
    collectOrphans our peer identities = some (identities.filter (· ∉ our.listed)) := by
  induction identities with
  | nil => rfl
  | cons identity rest ih =>
      have same : our.contains identity = peer.contains identity := by
        rw [Bool.eq_iff_iff, IdentitySet.contains_iff, IdentitySet.contains_iff, paired]
      rw [collectOrphans, if_neg (not_not.mpr same), ih]
      by_cases bonded : identity ∈ our.listed
      · simp [IdentitySet.contains_iff.mpr bonded, bonded]
      · have absent : our.contains identity = false :=
          Bool.eq_false_iff.mpr (mt IdentitySet.contains_iff.mp bonded)
        simp [absent, bonded]

/-- The plan of consistent inputs. -/
theorem plan_consistent (consistent : inputs.Consistent) : inputs.plan =
    ⟨.ready, exchangeSort identityLess
      (inputs.schemas.listed.filter (· ∉ inputs.persistentOur.listed))⟩ := by
  have our := (IdentitySet.sameSet_iff consistent.persistentOur consistent.restoredOur).mpr
    consistent.our
  have peer := (IdentitySet.sameSet_iff consistent.persistentPeer consistent.restoredPeer).mpr
    consistent.peer
  have inside : inputs.persistentOur.listed.all inputs.persistentPeer.contains = true := by
    rw [List.all_eq_true]
    exact fun identity member =>
      IdentitySet.contains_iff.mpr ((consistent.paired identity).mp member)
  have outside : inputs.persistentPeer.listed.all inputs.persistentOur.contains = true := by
    rw [List.all_eq_true]
    exact fun identity member =>
      IdentitySet.contains_iff.mpr ((consistent.paired identity).mpr member)
  rw [plan]
  simp only [IdentitySet.validSet_iff.mpr consistent.persistentOur,
    IdentitySet.validSet_iff.mpr consistent.persistentPeer,
    IdentitySet.validSet_iff.mpr consistent.restoredOur,
    IdentitySet.validSet_iff.mpr consistent.restoredPeer,
    IdentitySet.validSet_iff.mpr consistent.schemas, our, peer, inside, outside, Bool.not_true,
    Bool.or_self, Bool.false_eq_true, if_false, collectOrphans_paired consistent.paired]

/-- Inputs that are not consistent have no plan. -/
theorem plan_refused (inputs : RecoveryInputs) : inputs.plan = {} ∨ inputs.Consistent := by
  rw [plan]
  split
  · exact .inl rfl
  rename_i sets
  split
  · exact .inl rfl
  rename_i inside
  split
  · exact .inl rfl
  rename_i outside
  simp only [Bool.or_eq_true, Bool.not_eq_true', not_or, Bool.not_eq_false] at sets inside outside
  obtain ⟨⟨⟨⟨⟨⟨persistentOur, persistentPeer⟩, restoredOur⟩, restoredPeer⟩, schemas⟩, our⟩, peer⟩ :=
    sets
  rw [IdentitySet.validSet_iff] at persistentOur persistentPeer restoredOur restoredPeer schemas
  rw [List.all_eq_true] at inside outside
  refine .inr ⟨persistentOur, persistentPeer, restoredOur, restoredPeer, schemas,
    (IdentitySet.sameSet_iff persistentOur restoredOur).mp our,
    (IdentitySet.sameSet_iff persistentPeer restoredPeer).mp peer, fun identity => ⟨?_, ?_⟩⟩
  · exact fun member => IdentitySet.contains_iff.mp (inside identity member)
  · exact fun member => IdentitySet.contains_iff.mp (outside identity member)

theorem plan_ready_iff : inputs.plan.kind = .ready ↔ inputs.Consistent := by
  refine ⟨fun ready => inputs.plan_refused.resolve_left fun refused => ?_,
    fun consistent => by rw [plan_consistent consistent]⟩
  rw [refused] at ready
  cases ready

theorem mem_orphans (consistent : inputs.Consistent) (identity : StoreIdentity) :
    identity ∈ inputs.plan.orphans ↔
      identity ∈ inputs.schemas.listed ∧ identity ∉ inputs.persistentOur.listed := by
  rw [plan_consistent consistent]
  dsimp only
  rw [(Sorting.exchangeSort_perm _).mem_iff, List.mem_filter, decide_eq_true_iff]

/-- The orphans come in strictly increasing order, so each comes once. -/
theorem orphans_increasing (inputs : RecoveryInputs) :
    inputs.plan.orphans.Pairwise identityLess := by
  rcases inputs.plan_refused with refused | consistent
  · rw [refused]
    exact .nil
  · rw [plan_consistent consistent]
    exact Sorting.exchangeSort_increasing identityLess_iff identityKey_injective
      (consistent.schemas.distinct.filter _)

/-- The same sets in another order. -/
structure Reordered (inputs other : RecoveryInputs) : Prop where
  persistentOur : inputs.persistentOur.Reordered other.persistentOur
  persistentPeer : inputs.persistentPeer.Reordered other.persistentPeer
  restoredOur : inputs.restoredOur.Reordered other.restoredOur
  restoredPeer : inputs.restoredPeer.Reordered other.restoredPeer
  schemas : inputs.schemas.Reordered other.schemas

theorem Reordered.symm (reordered : inputs.Reordered other) : other.Reordered inputs :=
  ⟨reordered.persistentOur.symm, reordered.persistentPeer.symm, reordered.restoredOur.symm,
    reordered.restoredPeer.symm, reordered.schemas.symm⟩

theorem Consistent.reordered (consistent : inputs.Consistent) (reordered : inputs.Reordered other) :
    other.Consistent where
  persistentOur := consistent.persistentOur.reordered reordered.persistentOur
  persistentPeer := consistent.persistentPeer.reordered reordered.persistentPeer
  restoredOur := consistent.restoredOur.reordered reordered.restoredOur
  restoredPeer := consistent.restoredPeer.reordered reordered.restoredPeer
  schemas := consistent.schemas.reordered reordered.schemas
  our identity := by
    rw [← reordered.persistentOur.listed.mem_iff, ← reordered.restoredOur.listed.mem_iff]
    exact consistent.our identity
  peer identity := by
    rw [← reordered.persistentPeer.listed.mem_iff, ← reordered.restoredPeer.listed.mem_iff]
    exact consistent.peer identity
  paired identity := by
    rw [← reordered.persistentOur.listed.mem_iff, ← reordered.persistentPeer.listed.mem_iff]
    exact consistent.paired identity

/-- Only the schema records have changed. -/
theorem Consistent.withSchemas (consistent : inputs.Consistent) {schemas : SchemaIdentitySet}
    (sound : schemas.Sound) : { inputs with schemas }.Consistent where
  persistentOur := consistent.persistentOur
  persistentPeer := consistent.persistentPeer
  restoredOur := consistent.restoredOur
  restoredPeer := consistent.restoredPeer
  schemas := sound
  our := consistent.our
  peer := consistent.peer
  paired := consistent.paired

theorem plan_reordered (reordered : inputs.Reordered other) : other.plan = inputs.plan := by
  rcases inputs.plan_refused with refused | consistent
  · rcases other.plan_refused with refused' | consistent
    · rw [refused, refused']
    · have ready := plan_ready_iff.mpr (consistent.reordered reordered.symm)
      rw [refused] at ready
      cases ready
  · have bonded : (fun identity => decide (identity ∉ other.persistentOur.listed)) =
        fun identity => decide (identity ∉ inputs.persistentOur.listed) := by
      funext identity
      simp only [reordered.persistentOur.listed.mem_iff]
    rw [plan_consistent consistent, plan_consistent (consistent.reordered reordered), bonded]
    congr 1
    exact Sorting.exchangeSort_congr identityLess_iff identityKey_injective
      (reordered.schemas.listed.symm.filter _)

end RecoveryInputs

/-! ### The execution -/

section Execution

variable {σ : Type} {deleteVerified : StoreIdentity → σ → Int × σ}

variable (deleteVerified) in
/-- All of these removals succeed, one after the other. -/
inductive Removed : List StoreIdentity → σ → σ → Prop
  | none (state : σ) : Removed [] state state
  | next {orphan : StoreIdentity} {rest : List StoreIdentity} {state final : σ}
      (succeeds : (deleteVerified orphan state).1 = 0)
      (later : Removed rest (deleteVerified orphan state).2 final) :
      Removed (orphan :: rest) state final

variable (deleteVerified) in
/-- How the removal of these orphans ends: all are removed, or those before the first
failure. -/
inductive Stops : List StoreIdentity → σ → RecoveryExecutionResult → σ → Prop
  | all {orphans : List StoreIdentity} {state final : σ}
      (removed : Removed deleteVerified orphans state final) :
      Stops orphans state ⟨0, orphans.length⟩ final
  | failed {done : List StoreIdentity} {next : StoreIdentity} {state middle : σ}
      (rest : List StoreIdentity) (removed : Removed deleteVerified done state middle)
      (fails : (deleteVerified next middle).1 ≠ 0) :
      Stops (done ++ next :: rest) state ⟨(deleteVerified next middle).1, done.length⟩
        (deleteVerified next middle).2

theorem Stops.next {orphan : StoreIdentity} {rest : List StoreIdentity} {state final : σ}
    {result : RecoveryExecutionResult} (succeeds : (deleteVerified orphan state).1 = 0)
    (stops : Stops deleteVerified rest (deleteVerified orphan state).2 result final) :
    Stops deleteVerified (orphan :: rest) state ⟨result.status, result.completed + 1⟩ final := by
  cases stops with
  | all removed => exact .all (.next succeeds removed)
  | failed rest removed fails => exact .failed rest (.next succeeds removed) fails

theorem deleteOrphans_stops (orphans : List StoreIdentity) (index : ℕ) (state : σ) :
    ∃ completed, (deleteOrphans deleteVerified index orphans state).1.completed =
        index + completed ∧
      Stops deleteVerified orphans state
        ⟨(deleteOrphans deleteVerified index orphans state).1.status, completed⟩
        (deleteOrphans deleteVerified index orphans state).2 := by
  induction orphans generalizing index state with
  | nil => exact ⟨0, rfl, .all (.none state)⟩
  | cons orphan rest ih =>
      rw [deleteOrphans]
      by_cases failed : (deleteVerified orphan state).1 ≠ 0
      · rw [if_pos failed]
        exact ⟨0, rfl, Stops.failed rest (.none state) failed⟩
      · rw [if_neg failed]
        obtain ⟨completed, counted, stops⟩ := ih (index + 1) (deleteVerified orphan state).2
        refine ⟨completed + 1, by omega, ?_⟩
        exact Stops.next (not_not.mp failed) stops

/-- A plan that is ready is carried out up to the first failure. -/
theorem runOrphanRecovery_stops {inputs : RecoveryInputs} (ready : inputs.plan.kind = .ready)
    (state : σ) :
    Stops deleteVerified inputs.plan.orphans state
      (runOrphanRecovery deleteVerified inputs.plan state).1
      (runOrphanRecovery deleteVerified inputs.plan state).2 := by
  have consistent := RecoveryInputs.plan_ready_iff.mp ready
  have fits : inputs.plan.orphans.length ≤ schemaRecoveryCapacity := by
    rw [RecoveryInputs.plan_consistent consistent]
    dsimp only
    rw [(Sorting.exchangeSort_perm _).length_eq]
    refine (List.length_filter_le ..).trans ?_
    rw [consistent.schemas.length]
    exact consistent.schemas.fits
  have runs : ¬(inputs.plan.kind ≠ .ready ∨ schemaRecoveryCapacity < inputs.plan.orphans.length) :=
    not_or.mpr ⟨not_not.mpr ready, Nat.not_lt.mpr fits⟩
  rw [runOrphanRecovery, if_neg runs]
  obtain ⟨completed, counted, stops⟩ := deleteOrphans_stops inputs.plan.orphans 0 state
  rw [Nat.zero_add] at counted
  rw [← counted] at stops
  exact stops

end Execution

/-! ### The records -/

section Records

variable {answers : StoreIdentity → RemovalAnswers} {records final : List StoreIdentity}

/-- The removal of the orphans from the records, with these answers of the storage. -/
def removal (answers : StoreIdentity → RemovalAnswers) (identity : StoreIdentity)
    (records : List StoreIdentity) : Int × List StoreIdentity :=
  deleteSchemaRevisionVerified (answers identity) identity records

theorem removal_succeeds {identity : StoreIdentity}
    (succeeds : (removal answers identity records).1 = 0) :
    (removal answers identity records).2 = records.filter (· ≠ identity) := by
  unfold removal deleteSchemaRevisionVerified at *
  cases erase : (answers identity).erase with
  | failed error applied => exact absurd (by simpa [erase] using succeeds) error.failed
  | done => cases readBack : (answers identity).readBack <;> rfl

/-- A removal that fails may have been applied. -/
theorem removal_any (answers : StoreIdentity → RemovalAnswers) (identity : StoreIdentity)
    (records : List StoreIdentity) :
    (removal answers identity records).2 = records ∨
      (removal answers identity records).2 = records.filter (· ≠ identity) := by
  unfold removal deleteSchemaRevisionVerified
  cases erase : (answers identity).erase with
  | failed error applied =>
      cases applied
      · exact .inl rfl
      · exact .inr rfl
  | done => cases readBack : (answers identity).readBack <;> exact .inr rfl

theorem removal_done (identity : StoreIdentity) (records : List StoreIdentity) :
    (removal (fun _ => {}) identity records).1 = 0 := by
  have absent : identity ∉ records.filter (· ≠ identity) := by simp
  exact if_neg absent

theorem records_of_removed {done : List StoreIdentity}
    (removed : Removed (removal answers) done records final) :
    final = records.filter (· ∉ done) := by
  induction removed with
  | none state => simp
  | next succeeds later ih =>
      rw [ih, removal_succeeds succeeds, List.filter_filter]
      refine List.filter_congr fun identity _ => ?_
      simp [Bool.and_comm]

/-- A run removes nothing but orphans. -/
theorem records_of_stops {orphans : List StoreIdentity} {result : RecoveryExecutionResult}
    (stops : Stops (removal answers) orphans records result final) :
    ∃ gone ⊆ orphans, final = records.filter (· ∉ gone) := by
  cases stops with
  | all removed => exact ⟨orphans, fun _ => id, records_of_removed removed⟩
  | @failed done next _ middle rest removed fails =>
      have before := records_of_removed removed
      rcases removal_any answers next middle with kept | gone
      · exact ⟨done, List.subset_append_left .., kept.trans before⟩
      · refine ⟨done ++ [next], ?_, ?_⟩
        · simp
        · rw [gone, before, List.filter_filter]
          refine List.filter_congr fun identity _ => ?_
          simp [Bool.and_comm]

theorem removed_of_done {orphans : List StoreIdentity} (records : List StoreIdentity) :
    ∃ final, Removed (removal fun _ => {}) orphans records final := by
  induction orphans generalizing records with
  | nil => exact ⟨records, .none records⟩
  | cons orphan rest ih =>
      obtain ⟨final, later⟩ := ih (removal (fun _ => {}) orphan records).2
      exact ⟨final, .next (removal_done orphan records) later⟩

/-- A run without failures removes all of the orphans. -/
theorem records_of_done {orphans : List StoreIdentity} {result : RecoveryExecutionResult}
    (stops : Stops (removal fun _ => {}) orphans records result final) :
    result.status = 0 ∧ final = records.filter (· ∉ orphans) := by
  cases stops with
  | all removed => exact ⟨rfl, records_of_removed removed⟩
  | failed rest removed fails => exact absurd (removal_done ..) fails

end Records

/-- What the recovery of orphans guarantees, from these inputs. -/
structure OrphansRecovered (inputs : RecoveryInputs) : Prop where
  ready : inputs.plan.kind = .ready ↔ inputs.Consistent
  orphans : inputs.plan.kind = .ready → ∀ identity, identity ∈ inputs.plan.orphans ↔
    identity ∈ inputs.schemas.listed ∧ identity ∉ inputs.persistentOur.listed
  distinct : inputs.plan.orphans.Nodup
  increasing : inputs.plan.orphans.Pairwise identityLess
  reordered : ∀ other, inputs.Reordered other → other.plan = inputs.plan
  /-- The removals are made in the order of the plan, up to the first failure. -/
  executed : inputs.plan.kind = .ready →
    ∀ {σ : Type} (deleteVerified : StoreIdentity → σ → Int × σ) (state : σ),
      Stops deleteVerified inputs.plan.orphans state
        (runOrphanRecovery deleteVerified inputs.plan state).1
        (runOrphanRecovery deleteVerified inputs.plan state).2
  /-- After any run, a plan that is built again from what is left and carried out without
  failures leaves the records that have a bond. -/
  completed : inputs.plan.kind = .ready →
    ∀ (answers : StoreIdentity → RemovalAnswers) (records : List StoreIdentity)
      (again : RecoveryInputs), records.Perm inputs.schemas.listed →
      inputs.persistentOur.Reordered again.persistentOur →
      inputs.persistentPeer.Reordered again.persistentPeer →
      inputs.restoredOur.Reordered again.restoredOur →
      inputs.restoredPeer.Reordered again.restoredPeer →
      again.schemas.trustworthy = true → again.schemas.count ≤ schemaRecoveryCapacity →
      let left := (runOrphanRecovery (removal answers) inputs.plan records).2
      again.schemas.listed.Perm left →
      again.plan.kind = .ready ∧
        let ending := runOrphanRecovery (removal fun _ => {}) again.plan left
        ending.1.status = 0 ∧
          ending.2 = records.filter (· ∈ inputs.persistentOur.listed)

/-- **Recovery removes exactly the orphans.** -/
theorem orphans_recovered (inputs : RecoveryInputs) : OrphansRecovered inputs where
  ready := RecoveryInputs.plan_ready_iff
  orphans ready := RecoveryInputs.mem_orphans (RecoveryInputs.plan_ready_iff.mp ready)
  distinct := by
    refine inputs.orphans_increasing.imp fun less same => ?_
    rw [same, identityLess_iff] at less
    exact lt_irrefl _ less
  increasing := inputs.orphans_increasing
  reordered _ := RecoveryInputs.plan_reordered
  executed ready _ _ state := runOrphanRecovery_stops ready state
  completed := by
    intro ready answers records again same our peer restoredOur restoredPeer trusted fits left
      listed
    have consistent := RecoveryInputs.plan_ready_iff.mp ready
    have orphans := RecoveryInputs.mem_orphans consistent
    obtain ⟨gone, inside, kept⟩ := records_of_stops (runOrphanRecovery_stops ready records)
    change left = records.filter (· ∉ gone) at kept
    have sound : again.schemas.Sound := by
      have kept' : again.schemas.listed.Perm (records.filter (· ∉ gone)) := kept ▸ listed
      refine ⟨trusted, fits, fun identity member => ?_, ?_⟩
      · have here := List.mem_of_mem_filter (kept'.mem_iff.mp member)
        exact consistent.schemas.valid identity (same.mem_iff.mp here)
      · exact kept'.nodup_iff.mpr ((same.nodup_iff.mpr consistent.schemas.distinct).filter _)
    have bonds : inputs.Reordered { again with schemas := inputs.schemas } :=
      ⟨our, peer, restoredOur, restoredPeer, rfl, rfl, .refl _⟩
    have consistent' : again.Consistent := (consistent.reordered bonds).withSchemas sound
    have ready' := RecoveryInputs.plan_ready_iff.mpr consistent'
    obtain ⟨status, final⟩ := records_of_done (runOrphanRecovery_stops ready' left)
    refine ⟨ready', status, final.trans ?_⟩
    rw [kept, List.filter_filter]
    refine List.filter_congr fun identity member => ?_
    have orphan := RecoveryInputs.mem_orphans consistent' identity
    rw [listed.mem_iff, kept, List.mem_filter, ← our.listed.mem_iff] at orphan
    by_cases bonded : identity ∈ inputs.persistentOur.listed
    · have staying : identity ∉ gone :=
        fun removed => ((orphans identity).mp (inside removed)).2 bonded
      simp [bonded, staying, mt orphan.mp fun both => both.2 bonded]
    · by_cases removed : identity ∈ gone
      · simp [bonded, removed]
      · simp [bonded, orphan.mpr ⟨⟨member, by simpa using removed⟩, bonded⟩]

end HidBot.Bonds
