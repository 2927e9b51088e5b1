import HidBot.Bonds.DeleteTransaction
import HidBot.Protocol.Messages
import Mathlib.Data.List.AList

/-!
# The association of a bond with the class of its profile

`bond_association.hpp` and the store below it in `ble_transport.cpp`. Beside the
security records of the host stack, which are held durably and in RAM, a sidecar record
says for which class of profile a peer has been bonded. A peer without one belongs to
the strict composite. Every operation of the storage takes its answer as an argument.
-/

namespace HidBot.Bonds

open ControlProtocol (ProfileId)

/-! ### Profiles -/

inductive BondClass where
  | strictComposite
  | standaloneMouseJustWorks
  | standaloneKeyboard
  | standaloneMouseJustWorksId7
  | standaloneKeyboardLeds
  | mouseMetadata
  | mouseSimulatedSleepV1
  | mouseHostInitiatedSecurity
  deriving DecidableEq

namespace BondClass

def code : BondClass → UInt32
  | strictComposite => 0
  | standaloneMouseJustWorks => 1
  | standaloneKeyboard => 2
  | standaloneMouseJustWorksId7 => 3
  | standaloneKeyboardLeds => 4
  | mouseMetadata => 5
  | mouseSimulatedSleepV1 => 6
  | mouseHostInitiatedSecurity => 7

def all : List BondClass :=
  [strictComposite, standaloneMouseJustWorks, standaloneKeyboard, standaloneMouseJustWorksId7,
    standaloneKeyboardLeds, mouseMetadata, mouseSimulatedSleepV1, mouseHostInitiatedSecurity]

def ofCode (code : UInt32) : Option BondClass := all.find? (·.code = code)

end BondClass

structure SecurityOutcomePolicy where
  authenticated : Bool
  secureConnectionsRequired : Bool := false
  keySize : UInt8 := 16
  deriving DecidableEq

structure ProfileDefinition where
  id : ProfileId
  bondClass : BondClass
  security : SecurityOutcomePolicy

/-- The policy of the profiles with a keyboard. -/
def authenticatedBonded : SecurityOutcomePolicy := { authenticated := true }

/-- The policy of the mice that just work. -/
def unauthenticatedBonded : SecurityOutcomePolicy := { authenticated := false }

def findDefinition (id : ProfileId) : ProfileDefinition :=
  match id with
  | .strictComposite => ⟨id, .strictComposite, authenticatedBonded⟩
  | .standaloneMouseJustWorks => ⟨id, .standaloneMouseJustWorks, unauthenticatedBonded⟩
  | .standaloneKeyboard => ⟨id, .standaloneKeyboard, authenticatedBonded⟩
  | .standaloneMouseJustWorksId7 => ⟨id, .standaloneMouseJustWorksId7, unauthenticatedBonded⟩
  | .standaloneKeyboardLeds => ⟨id, .standaloneKeyboardLeds, authenticatedBonded⟩
  | .mouseMetadata => ⟨id, .mouseMetadata, unauthenticatedBonded⟩
  | .mouseSimulatedSleepV1 => ⟨id, .mouseSimulatedSleepV1, unauthenticatedBonded⟩
  | .mouseHostInitiatedSecurity => ⟨id, .mouseHostInitiatedSecurity, unauthenticatedBonded⟩

def associationProfile : BondClass → ProfileDefinition
  | .strictComposite => findDefinition .strictComposite
  | .standaloneMouseJustWorks => findDefinition .standaloneMouseJustWorks
  | .standaloneKeyboard => findDefinition .standaloneKeyboard
  | .standaloneMouseJustWorksId7 => findDefinition .standaloneMouseJustWorksId7
  | .standaloneKeyboardLeds => findDefinition .standaloneKeyboardLeds
  | .mouseMetadata => findDefinition .mouseMetadata
  | .mouseSimulatedSleepV1 => findDefinition .mouseSimulatedSleepV1
  | .mouseHostInitiatedSecurity => findDefinition .mouseHostInitiatedSecurity

theorem associationProfile_bondClass (bondClass : BondClass) :
    (associationProfile bondClass).bondClass = bondClass := by
  cases bondClass <;> rfl

theorem bondClass_strict (id : ProfileId) :
    (findDefinition id).bondClass = .strictComposite ↔ id = .strictComposite := by
  cases id <;> decide

/-! ### Association records -/

inductive AssociationState where
  | missing
  | pending
  | complete
  | invalid
  deriving DecidableEq

def AssociationState.code : AssociationState → UInt32
  | missing => 0
  | pending => 1
  | complete => 2
  | invalid => 3

structure AssociationRecord where
  state : AssociationState := .missing
  bondClass : BondClass := .strictComposite
  deriving DecidableEq

/-- The upper half of every record of format 1. -/
def associationFormat : UInt32 := 0xa5010000

def encodeAssociation (record : AssociationRecord) : UInt32 :=
  associationFormat ||| (record.bondClass.code <<< 8) ||| record.state.code

def decodeAssociation (value : UInt32) : AssociationRecord :=
  match BondClass.ofCode ((value >>> 8) &&& 0xff) with
  | none => { state := .invalid }
  | some bondClass =>
      if value &&& 0xffff0000 ≠ associationFormat ∨ bondClass = .strictComposite then
        { state := .invalid }
      else if value &&& 0xff = AssociationState.pending.code then ⟨.pending, bondClass⟩
      else if value &&& 0xff = AssociationState.complete.code then ⟨.complete, bondClass⟩
      else { state := .invalid }

theorem decode_encode {record : AssociationRecord}
    (begun : record.state = .pending ∨ record.state = .complete)
    (relaxed : record.bondClass ≠ .strictComposite) :
    decodeAssociation (encodeAssociation record) = record := by
  obtain ⟨state, bondClass⟩ := record
  rcases begun with rfl | rfl <;> cases bondClass <;>
    first | exact absurd rfl relaxed | decide

/-- What decodes at all was begun or completed for a class that is not strict. -/
theorem decodeAssociation_begun (value : UInt32) :
    (decodeAssociation value).state = .invalid ∨
      ((decodeAssociation value).state = .pending ∨ (decodeAssociation value).state = .complete) ∧
        (decodeAssociation value).bondClass ≠ .strictComposite := by
  unfold decodeAssociation
  split
  · exact .inl rfl
  · split_ifs with foreign
    · exact .inl rfl
    · exact .inr ⟨.inl rfl, fun strict => foreign (.inr strict)⟩
    · exact .inr ⟨.inr rfl, fun strict => foreign (.inr strict)⟩
    · exact .inl rfl

inductive AssociationDecision where
  | allowed
  | incompatible
  | incomplete
  | storageFailure
  deriving DecidableEq

def associationCompatibility (record : AssociationRecord) (selected : BondClass) :
    AssociationDecision :=
  match record.state with
  | .invalid => .storageFailure
  | .pending => .incomplete
  | .missing => if BondClass.strictComposite = selected then .allowed else .incompatible
  | .complete => if record.bondClass = selected then .allowed else .incompatible

theorem associationCompatibility_allowed {record : AssociationRecord} {selected : BondClass} :
    associationCompatibility record selected = .allowed ↔
      record.state = .missing ∧ selected = .strictComposite ∨
        record.state = .complete ∧ record.bondClass = selected := by
  obtain ⟨state, bondClass⟩ := record
  cases state <;> simp [associationCompatibility, eq_comm]

/-- The claim of one connection to create the bond of its peer. -/
structure AssociationCreation where
  connection : UInt64 := 0
  peer : StoreIdentity := {}
  bondClass : BondClass := .strictComposite
  deriving DecidableEq

def AssociationCreation.owns (claim : AssociationCreation) (id : UInt64) (key : StoreIdentity)
    (selected : BondClass) : Bool :=
  id ≠ 0 ∧ claim.connection = id ∧ claim.peer = key ∧ claim.bondClass = selected

/-! ### Security records -/

/-- The two records that make up the bond of a peer. -/
inductive Side where
  | our
  | peer
  deriving DecidableEq

/-- `ble_store_value_sec`, with the long-term key for all the keys in it. -/
structure SecurityValue where
  peerAddr : StoreIdentity
  ltkPresent : Bool
  authenticated : Bool
  sc : Bool
  keySize : UInt8
  ltk : List UInt8 := []
  deriving DecidableEq

structure StoredSecurityRecord where
  found : Bool := false
  identityMatches : Bool := false
  ltkPresent : Bool := false
  authenticated : Bool := false
  secureConnections : Bool := false
  keySize : UInt8 := 0
  deriving DecidableEq

structure PersistedSecurityEvidence where
  our : StoredSecurityRecord := {}
  peer : StoredSecurityRecord := {}
  deriving DecidableEq

def securityRecord (identity : StoreIdentity) (value : SecurityValue) : StoredSecurityRecord where
  found := true
  identityMatches := identity = value.peerAddr
  ltkPresent := value.ltkPresent
  authenticated := value.authenticated
  secureConnections := value.sc
  keySize := value.keySize

def recordIsValid (record : StoredSecurityRecord) (policy : SecurityOutcomePolicy) : Bool :=
  record.found ∧ record.identityMatches ∧ record.ltkPresent ∧
    record.authenticated = policy.authenticated ∧ record.keySize = policy.keySize ∧
    (policy.secureConnectionsRequired → record.secureConnections)

def persistedBondIsValid (persisted : PersistedSecurityEvidence) (profile : ProfileId) : Bool :=
  recordIsValid persisted.our (findDefinition profile).security ∧
    recordIsValid persisted.peer (findDefinition profile).security ∧
    persisted.our.secureConnections = persisted.peer.secureConnections

/-! ### The store -/

def bondCapacity : Nat := 3

/-- A record in the store. No operation reads under which class it was written. -/
structure Kept where
  value : SecurityValue
  writtenUnder : BondClass
  deriving DecidableEq

/-- The entries of a namespace whose keys are identities. -/
abbrev Namespace (β : Type) := AList fun _ : StoreIdentity => β

structure BondStore where
  associations : Namespace UInt32 := ∅
  revisions : Namespace UInt8 := ∅
  durable : Side → Namespace Kept := fun _ => ∅
  ram : Side → Namespace Kept := fun _ => ∅

/-- `ESP_ERR_NVS_NOT_ENOUGH_SPACE`. -/
def notEnoughSpace : Failure := .storage 0x1105

/-- An operation that changes nothing. -/
def IoAnswer.query {α : Type} (answer : IoAnswer) (result : Except Failure α) : Except Failure α :=
  match answer with
  | .done => result
  | .failed status _ => .error (.storage status)

namespace BondStore

def association (store : BondStore) (peer : StoreIdentity) : AssociationRecord :=
  match store.associations.lookup peer with
  | none => {}
  | some word => decodeAssociation word

theorem association_congr {store other : BondStore}
    (same : store.associations = other.associations) (peer : StoreIdentity) :
    store.association peer = other.association peer := by
  simp only [association, same]

def readAssociation (io : IoAnswer) (store : BondStore) (peer : StoreIdentity) :
    Except Failure AssociationRecord :=
  io.query (.ok (store.association peer))

/-- An entry of the sidecar that the store accepts. -/
def associationEntryValid (startup : Bool) (entry : (_ : StoreIdentity) × UInt32) : Bool :=
  validIdentity entry.1 ∧ (decodeAssociation entry.2).state ≠ .invalid ∧
    (startup → (decodeAssociation entry.2).state = .complete)

/-- The number of its entries, if all of them are valid. -/
def validateAssociationNamespace (startup : Bool) (store : BondStore) : Except Failure Nat :=
  if bondCapacity < store.associations.entries.length ∨
      ¬store.associations.entries.all (associationEntryValid startup) then
    .error invalidState
  else .ok store.associations.entries.length

def setAssociation (store : BondStore) (peer : StoreIdentity) (record : AssociationRecord) :
    BondStore :=
  { store with associations := store.associations.insert peer (encodeAssociation record) }

theorem association_setAssociation {record : AssociationRecord}
    (begun : record.state = .pending ∨ record.state = .complete)
    (relaxed : record.bondClass ≠ .strictComposite) (store : BondStore) (peer : StoreIdentity) :
    (store.setAssociation peer record).association peer = record := by
  simp [association, setAssociation, decode_encode begun relaxed]

theorem association_setAssociation_of_ne {peer other : StoreIdentity} (different : other ≠ peer)
    (store : BondStore) (record : AssociationRecord) :
    (store.setAssociation peer record).association other = store.association other := by
  simp [association, setAssociation, AList.lookup_insert_ne different]

def writeAssociation (io : IoAnswer) (store : BondStore) (peer : StoreIdentity)
    (record : AssociationRecord) : Except Failure Unit × BondStore :=
  match store.validateAssociationNamespace false with
  | .error failure => (.error failure, store)
  | .ok count =>
      if (store.association peer).state = .missing ∧ bondCapacity ≤ count then
        (.error notEnoughSpace, store)
      else
        let written := store.setAssociation peer record
        match io with
        | .done => ((written.validateAssociationNamespace false).map fun _ => (), written)
        | .failed status applied =>
            (.error (.storage status), if applied then written else store)

theorem validateAssociationNamespace_ok {startup : Bool} {store : BondStore} {count : Nat}
    (counted : store.validateAssociationNamespace startup = .ok count) :
    count = store.associations.entries.length := by
  unfold validateAssociationNamespace at counted
  split_ifs at counted
  exact (Except.ok.inj counted).symm

/-- The record is written, with room for it, or the store stays as it is. -/
theorem writeAssociation_store (io : IoAnswer) (store : BondStore) (peer : StoreIdentity)
    (record : AssociationRecord) :
    (store.writeAssociation io peer record).2 = store ∨
      ((store.association peer).state = .missing →
        store.associations.entries.length < bondCapacity) ∧
      (store.writeAssociation io peer record).2 = store.setAssociation peer record := by
  unfold writeAssociation
  split
  · exact .inl rfl
  · rename_i count counted
    obtain rfl := validateAssociationNamespace_ok counted
    split_ifs with full
    · exact .inl rfl
    · have room (missing : (store.association peer).state = .missing) :
          store.associations.entries.length < bondCapacity :=
        not_le.mp fun many => full ⟨missing, many⟩
      split
      · exact .inr ⟨room, rfl⟩
      · simp only
        split_ifs
        · exact .inr ⟨room, rfl⟩
        · exact .inl rfl

/-- A write that is done has been applied. -/
theorem writeAssociation_ok {io : IoAnswer} {store written : BondStore} {peer : StoreIdentity}
    {record : AssociationRecord}
    (done : store.writeAssociation io peer record = (.ok (), written)) :
    written = store.setAssociation peer record := by
  unfold writeAssociation at done
  split at done
  · simp at done
  · split_ifs at done
    · simp at done
    · cases io with
      | done => exact (congrArg Prod.snd done).symm
      | failed status applied => simp at done

theorem readAssociation_ok {io : IoAnswer} {store : BondStore} {peer : StoreIdentity}
    {record : AssociationRecord} (read : store.readAssociation io peer = .ok record) :
    record = store.association peer := by
  cases io <;> simp_all [readAssociation, IoAnswer.query]

def evidence (store : BondStore) (peer : StoreIdentity) (side : Side) : StoredSecurityRecord :=
  ((store.durable side).lookup peer).elim {} fun kept => securityRecord peer kept.value

def durablePair (io : IoAnswer) (store : BondStore) (peer : StoreIdentity) :
    Except Failure PersistedSecurityEvidence :=
  io.query
    (if (store.durable .our).keys.all validIdentity ∧ (store.durable .peer).keys.all validIdentity
      then .ok ⟨store.evidence peer .our, store.evidence peer .peer⟩
      else .error invalidState)

/-- Neither the durable store nor RAM has a record of the peer. -/
def proveSecurityAbsent (io : IoAnswer) (store : BondStore) (peer : StoreIdentity) :
    Except Failure Bool := do
  let durable ← store.durablePair io peer
  return !durable.our.found && !durable.peer.found &&
    ((store.ram .our).lookup peer).isNone && ((store.ram .peer).lookup peer).isNone

end BondStore

/-! ### Creation and completion -/

/-- The answers of the storage to `prepareAssociation`, in its order. -/
structure PrepareAnswers where
  read : IoAnswer := .done
  absence : IoAnswer := .done
  write : IoAnswer := .done
  verify : IoAnswer := .done

/-- The answers of the storage to `completeAssociation`, in its order. -/
structure CompleteAnswers where
  read : IoAnswer := .done
  pair : IoAnswer := .done
  write : IoAnswer := .done
  verify : IoAnswer := .done

namespace BondStore

/-- The pending record is written and read back before the claim is made. -/
def createAssociation (io : PrepareAnswers) (store : BondStore) (claim : AssociationCreation)
    (connection : UInt64) (peer : StoreIdentity) (selected : BondClass) :
    AssociationDecision × BondStore × AssociationCreation :=
  match store.proveSecurityAbsent io.absence peer with
  | .error _ => (.storageFailure, store, claim)
  | .ok false => (.incompatible, store, claim)
  | .ok true =>
      match store.writeAssociation io.write peer ⟨.pending, selected⟩ with
      | (.error _, written) => (.storageFailure, written, claim)
      | (.ok (), written) =>
          match written.readAssociation io.verify peer with
          | .error _ => (.storageFailure, written, claim)
          | .ok verified =>
              if verified = ⟨.pending, selected⟩ then
                (.allowed, written, ⟨connection, peer, selected⟩)
              else (.storageFailure, written, claim)

def prepareAssociation (io : PrepareAnswers) (store : BondStore) (claim : AssociationCreation)
    (connection : UInt64) (peer : StoreIdentity) (selected : BondClass) :
    AssociationDecision × BondStore × AssociationCreation :=
  match store.readAssociation io.read peer with
  | .error _ => (.storageFailure, store, claim)
  | .ok record =>
      if record.state = .invalid then (.storageFailure, store, claim)
      else if selected = .strictComposite then
        (associationCompatibility record selected, store, claim)
      else if claim.owns connection peer selected then
        if record.state = .complete then (.incompatible, store, claim)
        else if record.bondClass = selected ∧ record.state = .pending then
          (.allowed, store, claim)
        else (.storageFailure, store, claim)
      else if record.state = .pending then (.incomplete, store, claim)
      else if record.state ≠ .missing then (.incompatible, store, claim)
      else if connection = 0 ∨ claim.connection ≠ 0 then (.incomplete, store, claim)
      else store.createAssociation io claim connection peer selected

/-- Both records are durable: the pending record becomes complete if they are valid. -/
def finishAssociation (io : CompleteAnswers) (store : BondStore) (record : AssociationRecord)
    (records : PersistedSecurityEvidence) (peer : StoreIdentity) (selected : BondClass) :
    AssociationDecision × BondStore :=
  if ¬persistedBondIsValid records (associationProfile selected).id then (.storageFailure, store)
  else if record.state = .complete then (.allowed, store)
  else
    match store.writeAssociation io.write peer ⟨.complete, selected⟩ with
    | (.error _, written) => (.storageFailure, written)
    | (.ok (), written) =>
        match written.readAssociation io.verify peer with
        | .error _ => (.storageFailure, written)
        | .ok verified =>
            if verified = ⟨.complete, selected⟩ then (.allowed, written)
            else (.storageFailure, written)

def completeAssociation (io : CompleteAnswers) (store : BondStore) (claim : AssociationCreation)
    (connection : UInt64) (peer : StoreIdentity) (selected : BondClass) :
    AssociationDecision × BondStore :=
  if selected = .strictComposite then (.allowed, store)
  else if ¬claim.owns connection peer selected then (.incomplete, store)
  else
    match store.readAssociation io.read peer with
    | .error _ => (.storageFailure, store)
    | .ok record =>
        if record.bondClass ≠ selected ∨ (record.state ≠ .pending ∧ record.state ≠ .complete) then
          (.storageFailure, store)
        else
          match store.durablePair io.pair peer with
          | .error _ => (.storageFailure, store)
          | .ok records =>
              if ¬records.our.found ∨ ¬records.peer.found then
                (if record.state = .pending then .allowed else .storageFailure, store)
              else store.finishAssociation io record records peer selected

end BondStore

/-! ### What creation and completion do -/

namespace BondStore

/-- The store has no record of the peer. -/
def Absent (store : BondStore) (peer : StoreIdentity) : Prop :=
  ∀ side, (store.durable side).lookup peer = none ∧ (store.ram side).lookup peer = none

theorem association_relaxed {store : BondStore} {peer : StoreIdentity}
    (known : (store.association peer).state ≠ .missing)
    (legible : (store.association peer).state ≠ .invalid) :
    (store.association peer).bondClass ≠ .strictComposite := by
  unfold association at known legible ⊢
  cases stored : store.associations.lookup peer with
  | none => simp [stored] at known
  | some word =>
      simp only [stored] at legible ⊢
      exact ((decodeAssociation_begun word).resolve_left legible).2

theorem durablePair_ok {io : IoAnswer} {store : BondStore} {peer : StoreIdentity}
    {records : PersistedSecurityEvidence} (read : store.durablePair io peer = .ok records) :
    records = ⟨store.evidence peer .our, store.evidence peer .peer⟩ := by
  cases io with
  | failed status applied => simp [durablePair, IoAnswer.query] at read
  | done =>
      simp only [durablePair, IoAnswer.query] at read
      split_ifs at read
      exact (Except.ok.inj read).symm

theorem evidence_found {store : BondStore} {peer : StoreIdentity} {side : Side} :
    (store.evidence peer side).found = ((store.durable side).lookup peer).isSome := by
  unfold evidence
  cases (store.durable side).lookup peer <;> rfl

theorem absent_of_proveSecurityAbsent {io : IoAnswer} {store : BondStore} {peer : StoreIdentity}
    (proved : store.proveSecurityAbsent io peer = .ok true) : store.Absent peer := by
  unfold proveSecurityAbsent at proved
  cases read : store.durablePair io peer with
  | error failure => simp [read, bind, Except.bind] at proved
  | ok durable =>
      obtain rfl := durablePair_ok read
      simp only [read, bind, Except.bind, pure, Except.pure, evidence_found, Except.ok.injEq,
        Bool.and_eq_true, Bool.not_eq_true', Option.isSome_eq_false_iff, Option.isNone_iff_eq_none]
        at proved
      rintro (_ | _)
      · exact ⟨proved.1.1.1, proved.1.2⟩
      · exact ⟨proved.1.1.2, proved.2⟩

section Prepare

variable {io : PrepareAnswers} {store prepared : BondStore} {claim mine : AssociationCreation}
  {connection : UInt64} {peer : StoreIdentity} {selected : BondClass}
  {decision : AssociationDecision}

/-- A pending record is created only for a peer without any record. -/
theorem createAssociation_store
    (created : store.createAssociation io claim connection peer selected =
      (decision, prepared, mine)) :
    prepared = store ∨
      store.Absent peer ∧ ((store.association peer).state = .missing →
        store.associations.entries.length < bondCapacity) ∧
      prepared = store.setAssociation peer ⟨.pending, selected⟩ := by
  unfold createAssociation at created
  split at created
  · simp_all
  · simp_all
  · rename_i absent
    have absent := absent_of_proveSecurityAbsent absent
    have either := writeAssociation_store io.write store peer ⟨.pending, selected⟩
    split at created
    · simp_all
    · split at created
      · simp_all
      · split_ifs at created <;> simp_all

theorem createAssociation_allowed
    (created : store.createAssociation io claim connection peer selected =
      (.allowed, prepared, mine)) :
    prepared.association peer = ⟨.pending, selected⟩ ∧ mine = ⟨connection, peer, selected⟩ := by
  unfold createAssociation at created
  split at created
  · simp at created
  · simp at created
  · split at created
    · simp at created
    · split at created
      · simp at created
      · rename_i read
        split_ifs at created with same
        · obtain ⟨rfl, rfl⟩ := by simpa using created
          exact ⟨(readAssociation_ok read).symm.trans same, rfl⟩
        · simp at created

theorem prepareAssociation_store
    (done : store.prepareAssociation io claim connection peer selected =
      (decision, prepared, mine)) :
    prepared = store ∨
      (selected ≠ .strictComposite ∧ store.Absent peer ∧
        (store.association peer).state = .missing ∧
        store.associations.entries.length < bondCapacity ∧
        prepared = store.setAssociation peer ⟨.pending, selected⟩) := by
  unfold prepareAssociation at done
  split at done
  · simp_all
  · rename_i record read
    obtain rfl := readAssociation_ok read
    split_ifs at done with invalid strict owned complete begun pending known idle
    all_goals
      first
      | exact (createAssociation_store done).imp_right fun ⟨absent, room, set⟩ =>
          ⟨strict, absent, by simpa using known, room (by simpa using known), set⟩
      | simp_all

theorem prepareAssociation_allowed
    (done : store.prepareAssociation io claim connection peer selected =
      (.allowed, prepared, mine)) :
    (selected = .strictComposite ∧ prepared = store ∧ (store.association peer).state = .missing) ∨
      (selected ≠ .strictComposite ∧ prepared.association peer = ⟨.pending, selected⟩ ∧
        mine.owns connection peer selected) := by
  unfold prepareAssociation at done
  split at done
  · simp at done
  · rename_i record read
    obtain rfl := readAssociation_ok read
    split_ifs at done with invalid strict owned complete begun pending known idle
    -- Every other branch refuses.
    all_goals try (simp at done; done)
    · obtain ⟨compatible, rfl, -⟩ := by simpa only [Prod.mk.injEq] using done
      rcases associationCompatibility_allowed.mp compatible with ⟨missing, -⟩ | ⟨complete, same⟩
      · exact .inl ⟨strict, rfl, missing⟩
      · have relaxed := association_relaxed (by simp [complete]) invalid
        exact absurd (same.trans strict) relaxed
    · obtain ⟨-, rfl, rfl⟩ := by simpa only [Prod.mk.injEq] using done
      refine .inr ⟨strict, ?_, owned⟩
      cases same : store.association peer
      simp_all
    · obtain ⟨recorded, rfl⟩ := createAssociation_allowed done
      refine .inr ⟨strict, recorded, ?_⟩
      have active : connection ≠ 0 := fun none => idle (.inl none)
      simp [AssociationCreation.owns, active]

end Prepare

section Complete

variable {io : CompleteAnswers} {store finished : BondStore} {claim : AssociationCreation}
  {connection : UInt64} {peer : StoreIdentity} {selected : BondClass}
  {decision : AssociationDecision}

/-- Both records of the peer are durable, and satisfy the policy of the class. -/
def PairValid (store : BondStore) (peer : StoreIdentity) (bondClass : BondClass) : Prop :=
  (∀ side, peer ∈ store.durable side) ∧
    persistedBondIsValid ⟨store.evidence peer .our, store.evidence peer .peer⟩
      (associationProfile bondClass).id

theorem finishAssociation_store {record : AssociationRecord} {records : PersistedSecurityEvidence}
    (done : store.finishAssociation io record records peer selected = (decision, finished)) :
    finished = store ∨
      (record.state ≠ .complete ∧ persistedBondIsValid records (associationProfile selected).id ∧
        finished = store.setAssociation peer ⟨.complete, selected⟩) := by
  unfold finishAssociation at done
  split_ifs at done with valid complete
  · simp_all
  · have either := (writeAssociation_store io.write store peer ⟨.complete, selected⟩).imp_right
      And.right
    split at done
    · simp_all
    · split at done
      · simp_all
      · split_ifs at done <;> simp_all
  · simp_all

/-- An association becomes complete only from the pending one, and with a valid pair. -/
theorem completeAssociation_store
    (done : store.completeAssociation io claim connection peer selected = (decision, finished)) :
    finished = store ∨
      (store.association peer = ⟨.pending, selected⟩ ∧ selected ≠ .strictComposite ∧
        store.PairValid peer selected ∧
        finished = store.setAssociation peer ⟨.complete, selected⟩) := by
  unfold completeAssociation at done
  split_ifs at done with strict owned
  · simp_all
  · split at done
    · simp_all
    · rename_i record read
      obtain rfl := readAssociation_ok read
      split at done
      · simp_all
      · rename_i own
        split at done
        · simp_all
        · rename_i records paired
          obtain rfl := durablePair_ok paired
          by_cases half : ¬(store.evidence peer .our).found ∨ ¬(store.evidence peer .peer).found
          · rw [if_pos half] at done
            simp_all
          · rw [if_neg half] at done
            refine (finishAssociation_store done).imp_right fun ⟨open_, valid, set⟩ => ?_
            have pending : store.association peer = ⟨.pending, selected⟩ := by
              cases same : store.association peer
              simp_all
            have found : ∀ side, peer ∈ store.durable side := by
              simp only [evidence_found, not_or, not_not] at half
              rintro (_ | _)
              · exact AList.lookup_isSome.mp half.1
              · exact AList.lookup_isSome.mp half.2
            exact ⟨pending, strict, ⟨found, valid⟩, set⟩
  · simp_all

end Complete

end BondStore

/-! ### The store of the host stack -/

/-- What the host stack does with a record for which it has room. -/
inductive RawAnswer where
  | stored
  | full
  /-- The RAM copy is changed before the durable one. -/
  | failed (status : Int) (ram durable : Bool)
  deriving DecidableEq

/-- The statuses of the host stack other than success. -/
inductive StoreError where
  | notFound
  | failed
  | capacity
  | other (status : Int)
  deriving DecidableEq

namespace BondStore

def put (records : Side → Namespace Kept) (side : Side) (kept : Kept) : Side → Namespace Kept :=
  Function.update records side ((records side).insert kept.value.peerAddr kept)

def putRam (store : BondStore) (side : Side) (kept : Kept) : BondStore :=
  { store with ram := put store.ram side kept }

def putDurable (store : BondStore) (side : Side) (kept : Kept) : BondStore :=
  { store with durable := put store.durable side kept }

def hasRoom (store : BondStore) (side : Side) (peer : StoreIdentity) : Bool :=
  ((store.ram side).lookup peer).isSome ∨ (store.ram side).entries.length < bondCapacity

def rawWrite (io : RawAnswer) (store : BondStore) (side : Side) (kept : Kept) :
    Except StoreError Unit × BondStore :=
  if ¬store.hasRoom side kept.value.peerAddr then (.error .capacity, store)
  else
    match io with
    | .stored => (.ok (), (store.putRam side kept).putDurable side kept)
    | .full => (.error .capacity, store)
    | .failed status ram durable =>
        let inRam := if ram then store.putRam side kept else store
        (.error (.other status), if ram ∧ durable then inRam.putDurable side kept else inRam)

/-- The store keeps this record of the peer, durably or in RAM. -/
def Holds (store : BondStore) (side : Side) (peer : StoreIdentity) (kept : Kept) : Prop :=
  (store.durable side).lookup peer = some kept ∨ (store.ram side).lookup peer = some kept

theorem lookup_put (records : Side → Namespace Kept) (side : Side) (kept : Kept) (other : Side)
    (peer : StoreIdentity) :
    (put records side kept other).lookup peer =
      if other = side ∧ peer = kept.value.peerAddr then some kept
      else (records other).lookup peer := by
  unfold put
  by_cases same : other = side
  · subst same
    by_cases target : peer = kept.value.peerAddr
    · subst target
      simp
    · simp [target, AList.lookup_insert_ne target]
  · simp [same]

/-- The host stack changes nothing, its RAM copy, or both copies. -/
theorem rawWrite_store (io : RawAnswer) (store : BondStore) (side : Side) (kept : Kept) :
    (store.rawWrite io side kept).2 = store ∨ (store.rawWrite io side kept).2 = store.putRam side kept ∨
      (store.rawWrite io side kept).2 = (store.putRam side kept).putDurable side kept := by
  unfold rawWrite
  split_ifs
  · cases io with
    | stored => exact .inr (.inr rfl)
    | full => exact .inl rfl
    | failed status ram durable => cases ram <;> cases durable <;> simp
  · exact .inl rfl

theorem rawWrite_associations (io : RawAnswer) (store : BondStore) (side : Side) (kept : Kept) :
    (store.rawWrite io side kept).2.associations = store.associations := by
  rcases rawWrite_store io store side kept with same | same | same <;> rw [same] <;> rfl

theorem lookup_rawWrite (store : BondStore) (io : RawAnswer) (kept : Kept) {side other : Side}
    {peer : StoreIdentity} (unwritten : ¬(other = side ∧ peer = kept.value.peerAddr)) :
    ((store.rawWrite io side kept).2.durable other).lookup peer =
        (store.durable other).lookup peer ∧
      ((store.rawWrite io side kept).2.ram other).lookup peer = (store.ram other).lookup peer := by
  rcases rawWrite_store io store side kept with same | same | same <;> rw [same] <;>
    simp [putRam, putDurable, lookup_put, unwritten]

theorem lookup_put_some {records : Side → Namespace Kept} {side other : Side}
    {kept held : Kept} {peer : StoreIdentity}
    (stored : (put records side kept other).lookup peer = some held) :
    (records other).lookup peer = some held ∨ (peer = kept.value.peerAddr ∧ held = kept) := by
  rw [lookup_put] at stored
  split_ifs at stored with written
  · exact .inr ⟨written.2, (Option.some.inj stored).symm⟩
  · exact .inl stored

/-- Afterwards the store keeps the record that was written, or what it kept before. -/
theorem Holds.of_rawWrite {io : RawAnswer} {store : BondStore} {side other : Side}
    {kept held : Kept} {peer : StoreIdentity}
    (holds : (store.rawWrite io side kept).2.Holds other peer held) :
    store.Holds other peer held ∨ (peer = kept.value.peerAddr ∧ held = kept) := by
  rcases rawWrite_store io store side kept with same | same | same <;> rw [same] at holds
  · exact .inl holds
  · rcases holds with durable | ram
    · exact .inl (.inl durable)
    · exact (lookup_put_some ram).imp_left .inr
  · rcases holds with durable | ram
    · exact (lookup_put_some durable).imp_left .inl
    · exact (lookup_put_some ram).imp_left .inr

/-- Nothing is taken out of RAM. -/
theorem mem_ram_rawWrite {store : BondStore} {side other : Side} {peer : StoreIdentity}
    (io : RawAnswer) (kept : Kept) (held : peer ∈ store.ram other) :
    peer ∈ (store.rawWrite io side kept).2.ram other := by
  have added : peer ∈ put store.ram side kept other := by
    rw [← AList.lookup_isSome, lookup_put]
    split_ifs
    · rfl
    · exact AList.lookup_isSome.mpr held
  rcases rawWrite_store io store side kept with same | same | same <;> rw [same]
  exacts [held, added, added]

end BondStore

end HidBot.Bonds
