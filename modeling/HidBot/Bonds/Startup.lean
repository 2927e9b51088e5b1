import HidBot.Bonds.Association
import Mathlib.Data.List.Sort

/-!
# The checks of the bond store at a start

Before the host stack is started, the sidecar must hold complete associations of valid
pairs only, and no bond may be half there. Schema revisions without a bond are removed.
A start that fails leaves the store as it is.
-/

namespace HidBot.Bonds

/-! ### The recovery plan -/

def schemaRecoveryCapacity : Nat := 16

def validSet (capacity : Nat) (identities : List StoreIdentity) : Bool :=
  identities.length ≤ capacity ∧ identities.all validIdentity ∧ identities.Nodup

def sameSet (left right : List StoreIdentity) : Bool :=
  validSet bondCapacity left ∧ validSet bondCapacity right ∧ left.length = right.length ∧
    left.all (· ∈ right)

def identityLess (left right : StoreIdentity) : Prop :=
  left.type < right.type ∨ left.type = right.type ∧ left.value.toList < right.value.toList

instance : DecidableRel identityLess := fun left right =>
  inferInstanceAs (Decidable (left.type < right.type ∨
    left.type = right.type ∧ left.value.toList < right.value.toList))

/-- The schema records without a bond, in a fixed order, unless something is amiss. -/
def makeRecoveryPlan (persistentOur persistentPeer restoredOur restoredPeer
    schemas : List StoreIdentity) : Option (List StoreIdentity) :=
  if ¬validSet bondCapacity persistentOur ∨ ¬validSet bondCapacity persistentPeer ∨
      ¬validSet bondCapacity restoredOur ∨ ¬validSet bondCapacity restoredPeer ∨
      ¬validSet schemaRecoveryCapacity schemas ∨ ¬sameSet persistentOur restoredOur ∨
      ¬sameSet persistentPeer restoredPeer then none
  -- A half bond is inconsistent even when it has no schema entry.
  else if ¬persistentOur.all (· ∈ persistentPeer) ∨ ¬persistentPeer.all (· ∈ persistentOur) then
    none
  else if schemas.any fun identity =>
      decide (identity ∈ persistentOur) ≠ decide (identity ∈ persistentPeer) then none
  else some ((schemas.filter (· ∉ persistentOur)).insertionSort fun left right =>
    ¬identityLess right left)

theorem sameSet_self {identities : List StoreIdentity} (valid : validSet bondCapacity identities) :
    sameSet identities identities := by
  simp_all [sameSet]

theorem validSet_sublist {capacity : Nat} {fewer identities : List StoreIdentity}
    (sublist : fewer.Sublist identities) (valid : validSet capacity identities) :
    validSet capacity fewer := by
  simp only [validSet, List.all_eq_true, decide_eq_true_eq] at valid ⊢
  exact ⟨sublist.length_le.trans valid.1, fun identity member =>
    valid.2.1 identity (sublist.subset member), valid.2.2.sublist sublist⟩

/-- The RAM copies agree with the durable records: only the pairs matter. -/
theorem makeRecoveryPlan_isSome_iff {our peer schemas : List StoreIdentity} :
    (makeRecoveryPlan our peer our peer schemas).isSome ↔
      validSet bondCapacity our ∧ validSet bondCapacity peer ∧
        validSet schemaRecoveryCapacity schemas ∧ ∀ identity, identity ∈ our ↔ identity ∈ peer := by
  unfold makeRecoveryPlan
  split_ifs with amiss half mixed
  · have unsound : ¬(validSet bondCapacity our ∧ validSet bondCapacity peer ∧
        validSet schemaRecoveryCapacity schemas) := fun ⟨ours, peers, rest⟩ => by
      simp [ours, peers, rest, sameSet_self] at amiss
    simp only [Option.isSome_none, Bool.false_eq_true, false_iff]
    exact fun ⟨ours, peers, rest, _⟩ => unsound ⟨ours, peers, rest⟩
  · simp only [Option.isSome_none, Bool.false_eq_true, false_iff]
    rintro ⟨-, -, -, same⟩
    simp [same] at half
  · simp only [Option.isSome_none, Bool.false_eq_true, false_iff]
    rintro ⟨-, -, -, same⟩
    simp [same] at mixed
  · simp only [Option.isSome_some, true_iff]
    simp only [not_or, not_not, List.all_eq_true, decide_eq_true_eq] at amiss half
    exact ⟨amiss.1, amiss.2.1, amiss.2.2.2.2.1, fun identity =>
      ⟨half.1 identity, half.2 identity⟩⟩

/-! ### The start -/

namespace BondStore

/-- The pair behind one entry of the sidecar. -/
def associationPairValid (store : BondStore) (entry : (_ : StoreIdentity) × UInt32) : Bool :=
  match store.durablePair .done entry.1 with
  | .error _ => false
  | .ok records =>
      persistedBondIsValid records (associationProfile (store.association entry.1).bondClass).id

def validateCompleteAssociations (store : BondStore) : Except Failure Unit := do
  let _ ← store.validateAssociationNamespace true
  if store.associations.entries.all store.associationPairValid then .ok ()
  else .error invalidState

def eraseRevision (store : BondStore) (identity : StoreIdentity) : BondStore :=
  { store with revisions := store.revisions.erase identity }

def recoverOrphanSchemaRecords (store : BondStore) : Except Failure BondStore :=
  match makeRecoveryPlan (store.durable .our).keys (store.durable .peer).keys
    (store.ram .our).keys (store.ram .peer).keys store.revisions.keys with
  | none => .error .invalid
  | some orphans => .ok (orphans.foldl eraseRevision store)

/-- The host stack loads its RAM copy when it is initialized. -/
def restore (store : BondStore) : BondStore := { store with ram := store.durable }

/-- The start of the host stack on this store, if no operation of the storage fails. -/
def startup (store : BondStore) : Except Failure BondStore := do
  store.restore.validateCompleteAssociations
  store.restore.recoverOrphanSchemaRecords

/-! ### When a start succeeds -/

/-- No bond is half there. -/
def Paired (store : BondStore) : Prop :=
  ∀ peer, peer ∈ store.durable .our ↔ peer ∈ store.durable .peer

/-- The store on which a start succeeds. -/
structure Startable (store : BondStore) : Prop where
  few : store.associations.entries.length ≤ bondCapacity
  complete : ∀ entry ∈ store.associations.entries, associationEntryValid true entry
  valid : ∀ entry ∈ store.associations.entries, store.associationPairValid entry
  records : ∀ side, validSet bondCapacity (store.durable side).keys
  schemas : validSet schemaRecoveryCapacity store.revisions.keys
  paired : store.Paired

theorem associationPairValid_restore (store : BondStore) :
    store.restore.associationPairValid = store.associationPairValid := rfl

theorem validateCompleteAssociations_ok_iff {store : BondStore} :
    store.validateCompleteAssociations = .ok () ↔
      store.associations.entries.length ≤ bondCapacity ∧
        (∀ entry ∈ store.associations.entries, associationEntryValid true entry) ∧
        ∀ entry ∈ store.associations.entries, store.associationPairValid entry := by
  unfold validateCompleteAssociations validateAssociationNamespace
  split_ifs with amiss pairs <;> simp_all [bind, Except.bind]
  grind

/-- Only schema revisions are erased. -/
theorem foldl_eraseRevision (orphans : List StoreIdentity) (store : BondStore) :
    ∃ revisions, orphans.foldl eraseRevision store = { store with revisions } ∧
      revisions.keys.Sublist store.revisions.keys := by
  induction orphans generalizing store with
  | nil => exact ⟨store.revisions, rfl, .refl _⟩
  | cons orphan orphans erased =>
      obtain ⟨revisions, same, sublist⟩ := erased (store.eraseRevision orphan)
      refine ⟨revisions, same, sublist.trans ?_⟩
      rw [eraseRevision, AList.keys_erase]
      exact List.erase_sublist

theorem startup_ok_iff {store ready : BondStore} :
    store.startup = .ok ready ↔ store.restore.validateCompleteAssociations = .ok () ∧
      store.restore.recoverOrphanSchemaRecords = .ok ready := by
  unfold startup
  cases store.restore.validateCompleteAssociations <;> simp [bind, Except.bind]

theorem startup_isOk_iff {store : BondStore} :
    (∃ ready, store.startup = .ok ready) ↔ store.Startable := by
  have planned : (∃ ready, store.restore.recoverOrphanSchemaRecords = .ok ready) ↔
      (makeRecoveryPlan (store.durable .our).keys (store.durable .peer).keys
        (store.durable .our).keys (store.durable .peer).keys store.revisions.keys).isSome := by
    unfold recoverOrphanSchemaRecords
    simp only [restore]
    split <;> simp_all
  rw [makeRecoveryPlan_isSome_iff] at planned
  constructor
  · rintro ⟨ready, started⟩
    obtain ⟨checked, recovered⟩ := startup_ok_iff.mp started
    obtain ⟨few, complete, valid⟩ := validateCompleteAssociations_ok_iff.mp checked
    obtain ⟨ours, peers, schemas, same⟩ := planned.mp ⟨ready, recovered⟩
    exact ⟨few, complete, valid, fun side => by cases side <;> assumption, schemas, same⟩
  · intro startable
    obtain ⟨ready, recovered⟩ := planned.mpr
      ⟨startable.records .our, startable.records .peer, startable.schemas, startable.paired⟩
    have checked : store.restore.validateCompleteAssociations = .ok () :=
      validateCompleteAssociations_ok_iff.mpr ⟨startable.few, startable.complete, startable.valid⟩
    exact ⟨ready, startup_ok_iff.mpr ⟨checked, recovered⟩⟩

/-- A start keeps the sidecar and the durable records, and loads these into RAM. -/
theorem startup_ok {store ready : BondStore} (started : store.startup = .ok ready) :
    ready.associations = store.associations ∧ ready.durable = store.durable ∧
      ready.ram = store.durable ∧ ready.Startable := by
  have startable := startup_isOk_iff.mp ⟨ready, started⟩
  have recovered := (startup_ok_iff.mp started).2
  unfold recoverOrphanSchemaRecords at recovered
  split at recovered
  · simp at recovered
  · rename_i orphans planned
    obtain ⟨revisions, same, sublist⟩ := foldl_eraseRevision orphans store.restore
    obtain rfl : { store.restore with revisions } = ready := by
      rw [← same]
      exact Except.ok.inj recovered
    exact ⟨rfl, rfl, rfl, { startable with schemas := validSet_sublist sublist startable.schemas }⟩

end BondStore

end HidBot.Bonds
