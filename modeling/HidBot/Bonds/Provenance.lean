import HidBot.Bonds.Backend

/-!
# The bonds of one class of profile are kept from the others

A security record is written only for a peer whose association is pending for the
selected class, or for the strict composite if the peer has no association. A peer gets an
association only while the store has no record of it. So all records of a peer are of the
class that its association retains, and an exact lookup finds them under this class only.
-/

namespace HidBot.Bonds

open ControlProtocol (ProfileId)

/-! ### The class of a record -/

/-- The class under which a peer with this association is bonded. -/
def AssociationRecord.Retains (record : AssociationRecord) (bondClass : BondClass) : Prop :=
  match record.state with
  | .missing => bondClass = .strictComposite
  | .pending | .complete => bondClass = record.bondClass
  | .invalid => True

namespace BondStore

/-- Every record was written under the class that the association of its peer retains. -/
def Classed (store : BondStore) : Prop :=
  ∀ side peer kept, store.Holds side peer kept →
    (store.association peer).Retains kept.writtenUnder

/-- RAM has both records of a peer without association, or the store has none of it. -/
def Whole (store : BondStore) : Prop :=
  ∀ peer, (store.association peer).state = .missing →
    ∀ side kept, store.Holds side peer kept → ∀ other, peer ∈ store.ram other

/-- What holds of the store while the host stack runs with a class of profile. -/
structure Separated (store : BondStore) (selected : BondClass) : Prop where
  classed : store.Classed
  whole : selected ≠ .strictComposite → store.Whole

theorem Separated.setAssociation {store : BondStore} {selected : BondClass}
    (separated : store.Separated selected) {peer : StoreIdentity} {record : AssociationRecord}
    (begun : record.state = .pending ∨ record.state = .complete)
    (relaxed : record.bondClass ≠ .strictComposite)
    (same : ∀ side kept, store.Holds side peer kept → kept.writtenUnder = record.bondClass) :
    (store.setAssociation peer record).Separated selected where
  classed side other kept holds := by
    by_cases target : other = peer
    · subst target
      rw [association_setAssociation begun relaxed]
      have written := same side kept holds
      rcases begun with state | state <;> simp [AssociationRecord.Retains, state, written]
    · rw [association_setAssociation_of_ne target]
      exact separated.classed side other kept holds
  whole mild other missing := by
    by_cases target : other = peer
    · subst target
      rw [association_setAssociation begun relaxed] at missing
      rcases begun with state | state <;> simp [state] at missing
    · rw [association_setAssociation_of_ne target] at missing
      exact separated.whole mild other missing

/-- The associations for which a class may write a record. -/
def Writable (store : BondStore) (peer : StoreIdentity) (selected : BondClass) : Prop :=
  selected = .strictComposite ∧ (store.association peer).state = .missing ∨
    selected ≠ .strictComposite ∧ store.association peer = ⟨.pending, selected⟩

theorem Writable.retains {store : BondStore} {peer : StoreIdentity} {selected bondClass : BondClass}
    (writable : store.Writable peer selected) :
    (store.association peer).Retains bondClass ↔ bondClass = selected := by
  rcases writable with ⟨rfl, missing⟩ | ⟨-, pending⟩
  · simp [AssociationRecord.Retains, missing]
  · simp [AssociationRecord.Retains, pending]

theorem Separated.rawWrite {store : BondStore} {selected : BondClass}
    (separated : store.Separated selected) {value : SecurityValue}
    (writable : store.Writable value.peerAddr selected) (io : RawAnswer) (side : Side) :
    (store.rawWrite io side ⟨value, selected⟩).2.Separated selected := by
  have same (peer : StoreIdentity) :
      (store.rawWrite io side ⟨value, selected⟩).2.association peer = store.association peer :=
    association_congr (rawWrite_associations io store side _) peer
  constructor
  · intro other peer kept holds
    rw [same]
    rcases holds.of_rawWrite with held | ⟨rfl, rfl⟩
    · exact separated.classed other peer kept held
    · exact writable.retains.mpr rfl
  · intro mild peer missing other kept holds third
    rw [same] at missing
    rcases holds.of_rawWrite with held | ⟨rfl, rfl⟩
    · exact mem_ram_rawWrite io _ (separated.whole mild peer missing other kept held third)
    · obtain ⟨-, pending⟩ := writable.resolve_left fun strict => mild strict.1
      simp [pending] at missing

theorem Separated.completeAssociation {store finished : BondStore} {selected bondClass : BondClass}
    (separated : store.Separated selected) {io : CompleteAnswers} {claim : AssociationCreation}
    {connection : UInt64} {peer : StoreIdentity} {decision : AssociationDecision}
    (done : store.completeAssociation io claim connection peer bondClass = (decision, finished)) :
    finished.Separated selected := by
  rcases completeAssociation_store done with rfl | ⟨pending, relaxed, -, rfl⟩
  · exact separated
  · refine separated.setAssociation (.inr rfl) relaxed fun side kept holds => ?_
    have retained := separated.classed side peer kept holds
    simpa [AssociationRecord.Retains, pending] using retained

/-- A start loads whole bonds, and changes no association. -/
theorem Separated.startup {store ready : BondStore} (classed : store.Classed)
    (started : store.startup = .ok ready) (selected : BondClass) : ready.Separated selected := by
  obtain ⟨associations, durable, ram, startable⟩ := startup_ok started
  have stored {side peer kept} (holds : ready.Holds side peer kept) :
      (store.durable side).lookup peer = some kept := by
    simpa [Holds, durable, ram] using holds
  constructor
  · intro side peer kept holds
    have retained := classed side peer kept (.inl (stored holds))
    rwa [association_congr associations]
  · intro mild peer missing side kept holds other
    have member : peer ∈ ready.durable side := by
      rw [durable, ← AList.lookup_isSome, stored holds]
      rfl
    have both : ∀ third, peer ∈ ready.durable third := by
      have paired := startable.paired peer
      rintro (_ | _) <;> cases side <;> simp_all
    rw [ram, ← durable]
    exact both other

end BondStore

/-! ### Runs -/

namespace Backend

theorem profile_bondClass (backend : Backend) :
    backend.profile.bondClass = (findDefinition backend.profileId).bondClass := rfl

/-- The associations retain the classes of the records, in the way of the selected class
while the host stack runs. -/
structure Separates (backend : Backend) : Prop where
  classed : backend.store.Classed
  running : backend.initialized → backend.store.Separated backend.profile.bondClass

theorem Separates.of_separated {backend after : Backend}
    (separated : after.store.Separated backend.profile.bondClass)
    (profile : after.profileId = backend.profileId) : after.Separates where
  classed := separated.classed
  running _ := by
    rw [profile_bondClass, profile]
    exact separated

section Write

variable {backend admitted : Backend} {io : PrepareAnswers} {value : SecurityValue}
  {result : Except StoreError Unit}

theorem Separates.admitWrite (separates : backend.Separates) (runs : backend.initialized)
    (done : backend.admitWrite io value = (result, admitted)) :
    admitted.store.Separated backend.profile.bondClass := by
  have separated := separates.running runs
  rcases admitWrite_cases done with ⟨-, rfl⟩ | ⟨-, decision, store, claim, _, prepared, -, rfl⟩
  · exact separated
  · rcases BondStore.prepareAssociation_store prepared with rfl | ⟨relaxed, absent, -, -, rfl⟩
    · exact separated
    · refine separated.setAssociation (.inl rfl) relaxed fun side kept holds => ?_
      rcases holds with durable | ram
      · simp [(absent side).1] at durable
      · simp [(absent side).2] at ram

theorem profile_admitWrite (done : backend.admitWrite io value = (result, admitted)) :
    admitted.profileId = backend.profileId ∧ admitted.initialized = backend.initialized ∧
      admitted.activeHostConnection = backend.activeHostConnection := by
  rcases admitWrite_cases done with ⟨-, rfl⟩ | ⟨-, decision, store, claim, _, prepared, -, rfl⟩ <;>
    exact ⟨rfl, rfl, rfl⟩

/-- An admitted record belongs to a peer for which the selected class may write. -/
theorem writable_of_admitWrite (done : backend.admitWrite io value = (.ok (), admitted)) :
    admitted.store.Writable value.peerAddr backend.profile.bondClass ∧
      (backend.profile.bondClass ≠ .strictComposite → admitted.associationCreation.owns
        admitted.activeHostConnection value.peerAddr backend.profile.bondClass) := by
  rcases admitWrite_cases done with 
    ⟨refused, -⟩ | ⟨-, decision, store, claim, _, prepared, allows, rfl⟩
  · exact absurd rfl refused
  · obtain rfl := allows.mp rfl
    rcases BondStore.prepareAssociation_allowed prepared with
      ⟨strict, rfl, missing⟩ | ⟨relaxed, pending, owned⟩
    · exact ⟨.inl ⟨strict, missing⟩, fun mild => absurd strict mild⟩
    · exact ⟨.inr ⟨relaxed, pending⟩, fun _ => owned⟩

theorem Separates.storeWrite (separates : backend.Separates) (runs : backend.initialized)
    (io : WriteAnswers) (side : Side) (value : SecurityValue) :
    (backend.storeWrite io side value).2.Separates ∧
      (backend.storeWrite io side value).2.profileId = backend.profileId := by
  rcases storeWrite_cases io backend side value with
    ⟨-, same⟩ | ⟨admitted, admits, store, securityInhibit, same, written⟩
  · rw [same]
    rcases admits : backend.admitWrite io.prepare value with ⟨result, refused⟩
    have profile := (profile_admitWrite admits).1
    exact ⟨.of_separated (separates.admitWrite runs admits) profile, profile⟩
  · have admittedSeparated := separates.admitWrite runs admits
    obtain ⟨profile, -, -⟩ := profile_admitWrite admits
    have selected : admitted.profile.bondClass = backend.profile.bondClass := by
      rw [profile_bondClass, profile, profile_bondClass]
    have raw := admittedSeparated.rawWrite (writable_of_admitWrite admits).1 io.raw side
    have separated : store.Separated backend.profile.bondClass := by
      rw [selected] at written
      rcases written with rfl | ⟨decision, done⟩
      · exact raw
      · exact raw.completeAssociation done
    rw [same]
    exact ⟨.of_separated separated profile, profile⟩

end Write

/-- A step of the connection leaves the store and the profile alone. -/
theorem Separates.of_same {backend after : Backend} (separates : backend.Separates)
    (store : after.store = backend.store) (profile : after.profileId = backend.profileId)
    (runs : after.initialized = backend.initialized) : after.Separates where
  classed := store ▸ separates.classed
  running initialized := by
    rw [store, profile_bondClass, profile]
    exact separates.running (runs ▸ initialized)

theorem Separates.initializeStack {backend : Backend} (classed : backend.store.Classed)
    (io : IoAnswer) (profileId : ProfileId) : (backend.initializeStack io profileId).Separates := by
  unfold Backend.initializeStack
  split
  · exact ⟨classed, by simp⟩
  · rename_i store started
    have started : backend.store.startup = .ok store := by
      cases io <;> simp_all [IoAnswer.query]
    have separated := BondStore.Separated.startup classed started (findDefinition profileId).bondClass
    exact ⟨separated.classed, fun _ => separated⟩

theorem Separates.reboot {backend : Backend} (classed : backend.store.Classed)
    (io : IoAnswer) (profileId : ProfileId) : (backend.reboot io profileId).Separates := by
  have fresh : ({ store := backend.store } : Backend).store.Classed := classed
  exact Separates.initializeStack fresh io profileId

theorem Separates.handle {backend : Backend} (separates : backend.Separates)
    (runs : backend.initialized) (event : Event) : (backend.handle event).Separates := by
  cases event with
  | storeWrite io side value => exact (separates.storeWrite runs io side value).1
  | connect handle identity => exact separates.of_same rfl rfl rfl
  | disconnect => exact separates.of_same rfl rfl rfl
  | reset => exact separates.of_same rfl rfl rfl
  | identityResolved handle identity =>
      simp only [Backend.handle, Backend.identityResolved]
      split_ifs
      · exact separates.of_same rfl rfl rfl
      · exact separates
  | beginSecurity generation handle => exact separates.of_same rfl rfl rfl
  | retireSecurity generation handle => exact separates.of_same rfl rfl rfl
  | storeFull handle => exact separates.of_same rfl rfl rfl
  | setGeneration generation => exact separates.of_same rfl rfl rfl
  | selectProfile io profileId => exact Separates.initializeStack separates.classed io profileId
  | reboot io profileId => exact Separates.reboot separates.classed io profileId

theorem Separates.step {backend : Backend} (separates : backend.Separates) (event : Event) :
    (backend.step event).Separates := by
  unfold Backend.step
  split_ifs with runs
  · exact separates.handle runs event
  · split
    · exact Separates.initializeStack separates.classed _ _
    · exact Separates.reboot separates.classed _ _
    · exact separates

theorem Separates.run {backend : Backend} (separates : backend.Separates) (events : List Event) :
    (backend.run events).Separates := by
  unfold Backend.run
  induction events generalizing backend with
  | nil => exact separates
  | cons event events ih => exact ih (separates.step event)

/-! ### Isolation -/

/-- The event hands a record of the peer to the host stack, in this state of the backend. -/
def Writes (backend : Backend) (event : Event) (side : Side) (peer : StoreIdentity)
    (admitted : Backend) : Prop :=
  ∃ io value, event = .storeWrite io side value ∧ value.peerAddr = peer ∧ backend.initialized ∧
    backend.admitWrite io.prepare value = (.ok (), admitted)

/-- The bonds of the selected class are kept from the others. -/
structure Isolated (backend : Backend) : Prop where
  /-- A record is written for a pending association that the connection claims, or for the
  strict composite if the peer has no association. -/
  written : ∀ {event side peer admitted}, backend.Writes event side peer admitted →
    (admitted.store.association peer = ⟨.pending, backend.profile.bondClass⟩ ∧
        admitted.associationCreation.owns admitted.activeHostConnection peer
          backend.profile.bondClass) ∨
      (backend.profile.bondClass = .strictComposite ∧
        (admitted.store.association peer).state = .missing)
  /-- No record of the peer is then of another class. -/
  unmixed : ∀ {event side peer admitted}, backend.Writes event side peer admitted →
    ∀ {other kept}, admitted.store.Holds other peer kept →
      kept.writtenUnder = backend.profile.bondClass
  /-- The durable records of a peer are written in no other way. -/
  durable : ∀ {event side peer}, (∀ admitted, ¬backend.Writes event side peer admitted) →
    ((backend.step event).store.durable side).lookup peer = (backend.store.durable side).lookup peer
  /-- Nor are those in RAM, which a start loads. -/
  ram : ∀ {event side peer}, (∀ admitted, ¬backend.Writes event side peer admitted) →
    ((backend.step event).store.ram side).lookup peer = (backend.store.ram side).lookup peer ∨
      ((backend.step event).store.ram side).lookup peer =
        (backend.store.durable side).lookup peer
  /-- An association becomes complete with two durable records that satisfy its policy. -/
  completed : ∀ {event peer bondClass},
    (backend.step event).store.association peer = ⟨.complete, bondClass⟩ →
      backend.store.association peer = ⟨.complete, bondClass⟩ ∨
        (backend.step event).store.PairValid peer bondClass
  /-- What an exact lookup finds is of the class that the association retains. -/
  read : ∀ {before raw after side peer value},
    backend.storeRead before raw after side peer = .ok value →
      (backend.profile.bondClass = .strictComposite ∧
          (backend.store.association peer).state = .missing ∨
        backend.store.association peer = ⟨.complete, backend.profile.bondClass⟩) ∧
      ∃ kept, backend.store.Holds side peer kept ∧ kept.value = value ∧
        kept.writtenUnder = backend.profile.bondClass
  /-- A peer that has a record of another class is not reported as unknown. -/
  known : backend.initialized → ∀ {before raw after side peer},
    backend.storeRead before raw after side peer = .error .notFound →
      ∀ {other kept}, backend.store.Holds other peer kept →
        kept.writtenUnder = backend.profile.bondClass

/-- What the host stack answers is what RAM holds. -/
theorem rawRead_ok {io : IoAnswer} {backend : Backend} {side : Side} {peer : StoreIdentity}
    {value : SecurityValue} (read : backend.rawRead io side peer = .ok value) :
    ∃ kept, (backend.store.ram side).lookup peer = some kept ∧ kept.value = value := by
  unfold rawRead at read
  cases io with
  | failed status applied => simp at read
  | done =>
      cases stored : (backend.store.ram side).lookup peer with
      | none => simp [stored] at read
      | some kept => exact ⟨kept, rfl, by simpa [stored] using read⟩

theorem rawRead_notFound {io : IoAnswer} {backend : Backend} {side : Side} {peer : StoreIdentity}
    (read : backend.rawRead io side peer = .error .notFound) : peer ∉ backend.store.ram side := by
  unfold rawRead at read
  cases io with
  | failed status applied => simp at read
  | done =>
      cases stored : (backend.store.ram side).lookup peer with
      | none => exact AList.lookup_eq_none.mp stored
      | some kept => simp [stored] at read

section Read

variable {backend : Backend} {before raw after : IoAnswer} {side : Side} {peer : StoreIdentity}

theorem storeRead_ok {value : SecurityValue}
    (found : backend.storeRead before raw after side peer = .ok value) :
    backend.rawRead raw side peer = .ok value ∧ backend.compatibleAssociation after peer := by
  unfold storeRead at found
  split at found
  · simp at found
  · split at found
    · simp at found
    · split at found
      · simp at found
      · rename_i stored answered
        split_ifs at found with compatible
        exact ⟨answered.trans found, compatible⟩

/-- The host stack is asked only for a peer without association, or with a compatible one. -/
theorem storeRead_notFound
    (unknown : backend.storeRead before raw after side peer = .error .notFound) :
    peer ∉ backend.store.ram side ∧
      ((backend.store.association peer).state = .missing ∨
        backend.store.association peer = ⟨.complete, backend.profile.bondClass⟩) := by
  unfold storeRead at unknown
  split at unknown
  · simp at unknown
  · rename_i record read
    obtain rfl := BondStore.readAssociation_ok read
    split at unknown
    · simp at unknown
    · rename_i foreign
      split at unknown
      · rename_i failure answered
        obtain rfl := Except.error.inj unknown
        refine ⟨rawRead_notFound answered, or_iff_not_imp_left.mpr fun known => ?_⟩
        have compatible := not_not.mp fun barred => foreign ⟨known, barred⟩
        obtain ⟨state, same⟩ := (associationCompatibility_allowed.mp compatible).resolve_left
          fun strict => known strict.1
        rw [← state, ← same]
      · split_ifs at unknown
        simp at unknown

theorem compatible_of_read {io : IoAnswer} (compatible : backend.compatibleAssociation io peer) :
    backend.profile.bondClass = .strictComposite ∧
        (backend.store.association peer).state = .missing ∨
      backend.store.association peer = ⟨.complete, backend.profile.bondClass⟩ := by
  unfold compatibleAssociation at compatible
  split at compatible
  · simp at compatible
  · rename_i record read
    obtain rfl := BondStore.readAssociation_ok read
    simp only [decide_eq_true_eq] at compatible
    rcases associationCompatibility_allowed.mp compatible with ⟨missing, strict⟩ | ⟨state, same⟩
    · exact .inl ⟨strict, missing⟩
    · refine .inr ?_
      rw [← state, ← same]

theorem Separates.found (separates : backend.Separates) {value : SecurityValue} (found : backend.storeRead before raw after side peer = .ok value) :
    (backend.profile.bondClass = .strictComposite ∧
          (backend.store.association peer).state = .missing ∨
        backend.store.association peer = ⟨.complete, backend.profile.bondClass⟩) ∧
      ∃ kept, backend.store.Holds side peer kept ∧ kept.value = value ∧
        kept.writtenUnder = backend.profile.bondClass := by
  obtain ⟨answered, compatible⟩ := storeRead_ok found
  have retained := compatible_of_read compatible
  obtain ⟨kept, loaded, rfl⟩ := rawRead_ok answered
  refine ⟨retained, kept, .inr loaded, rfl, ?_⟩
  have written := separates.classed side peer kept (.inr loaded)
  rcases retained with ⟨strict, missing⟩ | complete
  · simpa [AssociationRecord.Retains, missing, strict] using written
  · simpa [AssociationRecord.Retains, complete] using written

theorem Separates.unknown (separates : backend.Separates) (runs : backend.initialized)
    (unknown : backend.storeRead before raw after side peer = .error .notFound) {other : Side}
    {kept : Kept} (holds : backend.store.Holds other peer kept) :
    kept.writtenUnder = backend.profile.bondClass := by
  have written := separates.classed other peer kept holds
  obtain ⟨absent, missing | complete⟩ := storeRead_notFound unknown
  · have strict : kept.writtenUnder = .strictComposite := by
      simpa [AssociationRecord.Retains, missing] using written
    by_contra mixed
    have mild : backend.profile.bondClass ≠ .strictComposite := fun same =>
      mixed (strict.trans same.symm)
    exact absent ((separates.running runs).whole mild peer missing other kept holds side)
  · simpa [AssociationRecord.Retains, complete] using written

end Read

section Frame

variable {backend admitted : Backend} {io : PrepareAnswers} {value : SecurityValue}
  {result : Except StoreError Unit}

/-- Before the host stack is asked, only the sidecar is written. -/
theorem records_admitWrite (done : backend.admitWrite io value = (result, admitted)) :
    admitted.store.durable = backend.store.durable ∧ admitted.store.ram = backend.store.ram := by
  rcases admitWrite_cases done with ⟨-, rfl⟩ | ⟨-, decision, store, claim, _, prepared, -, rfl⟩
  · exact ⟨rfl, rfl⟩
  · rcases BondStore.prepareAssociation_store prepared with rfl | ⟨-, -, -, -, rfl⟩ <;>
      exact ⟨rfl, rfl⟩

/-- And no association becomes complete. -/
theorem association_admitWrite (done : backend.admitWrite io value = (result, admitted))
    {peer : StoreIdentity} {bondClass : BondClass}
    (complete : admitted.store.association peer = ⟨.complete, bondClass⟩) :
    backend.store.association peer = ⟨.complete, bondClass⟩ := by
  rcases admitWrite_cases done with ⟨-, rfl⟩ | ⟨-, decision, store, claim, _, prepared, -, rfl⟩
  · exact complete
  · rcases BondStore.prepareAssociation_store prepared with rfl | ⟨relaxed, -, -, -, rfl⟩
    · exact complete
    · by_cases target : peer = value.peerAddr
      · subst target
        rw [BondStore.association_setAssociation (.inl rfl) relaxed] at complete
        simp at complete
      · rwa [BondStore.association_setAssociation_of_ne target] at complete

end Frame

theorem records_storeWrite {backend : Backend} {io : WriteAnswers} {side other : Side}
    {value : SecurityValue} {peer : StoreIdentity}
    (unwritten : ∀ admitted, backend.admitWrite io.prepare value = (.ok (), admitted) →
      ¬(other = side ∧ peer = value.peerAddr)) :
    let after := (backend.storeWrite io side value).2
    (after.store.durable other).lookup peer = (backend.store.durable other).lookup peer ∧
      (after.store.ram other).lookup peer = (backend.store.ram other).lookup peer := by
  rcases storeWrite_cases io backend side value with
    ⟨-, same⟩ | ⟨admitted, admits, store, securityInhibit, same, written⟩
  · rcases admits : backend.admitWrite io.prepare value with ⟨result, refused⟩
    obtain ⟨durable, ram⟩ := records_admitWrite admits
    simp [same, admits, durable, ram]
  · obtain ⟨durable, ram⟩ := records_admitWrite admits
    have raw := admitted.store.lookup_rawWrite io.raw ⟨value, admitted.profile.bondClass⟩
      (unwritten admitted admits)
    simp only [same]
    rcases written with rfl | ⟨decision, done⟩
    · rw [← durable, ← ram]
      exact raw
    · rcases BondStore.completeAssociation_store done with rfl | ⟨-, -, -, rfl⟩ <;>
        (rw [← durable, ← ram]; exact raw)

theorem completed_storeWrite {backend : Backend} {io : WriteAnswers} {side : Side}
    {value : SecurityValue} {peer : StoreIdentity} {bondClass : BondClass}
    (complete : (backend.storeWrite io side value).2.store.association peer =
      ⟨.complete, bondClass⟩) :
    backend.store.association peer = ⟨.complete, bondClass⟩ ∨
      (backend.storeWrite io side value).2.store.PairValid peer bondClass := by
  rcases storeWrite_cases io backend side value with
    ⟨-, same⟩ | ⟨admitted, admits, store, securityInhibit, same, written⟩
  · rcases admits : backend.admitWrite io.prepare value with ⟨result, refused⟩
    rw [same, admits] at complete
    exact .inl (association_admitWrite admits complete)
  · rw [same] at complete ⊢
    have before {written : BondStore} (kept : written.associations = admitted.store.associations)
        (complete : written.association peer = ⟨.complete, bondClass⟩) :
        backend.store.association peer = ⟨.complete, bondClass⟩ :=
      association_admitWrite admits ((BondStore.association_congr kept peer).symm.trans complete)
    have raw := BondStore.rawWrite_associations io.raw admitted.store side
      ⟨value, admitted.profile.bondClass⟩
    rcases written with rfl | ⟨decision, done⟩
    · exact .inl (before raw complete)
    · rcases BondStore.completeAssociation_store done with rfl | ⟨-, relaxed, valid, rfl⟩
      · exact .inl (before raw complete)
      · by_cases target : peer = value.peerAddr
        · subst target
          rw [BondStore.association_setAssociation (.inr rfl) relaxed] at complete
          obtain rfl : admitted.profile.bondClass = bondClass := by simpa using complete
          exact .inr valid
        · rw [BondStore.association_setAssociation_of_ne target] at complete
          exact .inl (before raw complete)

/-- A start leaves the sidecar and the durable records alone. -/
theorem store_initializeStack (io : IoAnswer) (backend : Backend) (profileId : ProfileId) :
    let after := backend.initializeStack io profileId
    after.store.associations = backend.store.associations ∧
      after.store.durable = backend.store.durable ∧
      (after.store.ram = backend.store.ram ∨ after.store.ram = backend.store.durable) := by
  unfold initializeStack
  split
  · exact ⟨rfl, rfl, .inl rfl⟩
  · rename_i store started
    have started : backend.store.startup = .ok store := by
      cases io <;> simp_all [IoAnswer.query]
    obtain ⟨associations, durable, ram, -⟩ := BondStore.startup_ok started
    exact ⟨associations, durable, .inr ram⟩

/-- A step leaves the sidecar and the durable records alone, and at most loads RAM, unless
it is a write of a record. -/
theorem store_step (backend : Backend) (event : Event) :
    ((backend.step event).store.associations = backend.store.associations ∧
        (backend.step event).store.durable = backend.store.durable ∧
        ((backend.step event).store.ram = backend.store.ram ∨
          (backend.step event).store.ram = backend.store.durable)) ∨
      ∃ io side value, event = .storeWrite io side value ∧ backend.initialized ∧
        backend.step event = (backend.storeWrite io side value).2 := by
  unfold step
  split_ifs with runs
  · cases event with
    | storeWrite io side value => exact .inr ⟨io, side, value, rfl, runs, rfl⟩
    | selectProfile io profileId => exact .inl (store_initializeStack io backend profileId)
    | reboot io profileId =>
        exact .inl (store_initializeStack io { store := backend.store } profileId)
    | identityResolved connection identity =>
        simp only [handle, identityResolved]
        split_ifs <;> exact .inl ⟨rfl, rfl, .inl rfl⟩
    | _ => exact .inl ⟨rfl, rfl, .inl rfl⟩
  · split
    · exact .inl (store_initializeStack _ backend _)
    · exact .inl (store_initializeStack _ { store := backend.store } _)
    · exact .inl ⟨rfl, rfl, .inl rfl⟩

theorem records_step {backend : Backend} {event : Event} {side : Side} {peer : StoreIdentity}
    (unwritten : ∀ admitted, ¬backend.Writes event side peer admitted) :
    ((backend.step event).store.durable side).lookup peer =
        (backend.store.durable side).lookup peer ∧
      (((backend.step event).store.ram side).lookup peer = (backend.store.ram side).lookup peer ∨
        ((backend.step event).store.ram side).lookup peer =
          (backend.store.durable side).lookup peer) := by
  rcases store_step backend event with ⟨-, durable, ram⟩ | ⟨io, written, value, rfl, runs, after⟩
  · exact ⟨by rw [durable], ram.imp (by rw [·]) (by rw [·])⟩
  · rw [after]
    have same := records_storeWrite fun admitted admits (target : side = written ∧ _) =>
      unwritten admitted ⟨io, value, by rw [target.1], target.2.symm, runs, admits⟩
    exact ⟨same.1, .inl same.2⟩

theorem Separates.isolated {backend : Backend} (separates : backend.Separates) :
    backend.Isolated where
  written := by
    rintro event side peer admitted ⟨io, value, rfl, rfl, runs, admits⟩
    obtain ⟨writable, owned⟩ := writable_of_admitWrite admits
    rcases writable with ⟨strict, missing⟩ | ⟨mild, pending⟩
    · exact .inr ⟨strict, missing⟩
    · exact .inl ⟨pending, owned mild⟩
  unmixed := by
    rintro event side peer admitted ⟨io, value, rfl, rfl, runs, admits⟩ other kept holds
    have retained := (separates.admitWrite runs admits).classed other _ kept holds
    exact (writable_of_admitWrite admits).1.retains.mp retained
  durable unwritten := (records_step unwritten).1
  ram unwritten := (records_step unwritten).2
  completed := by
    intro event peer bondClass complete
    rcases store_step backend event with ⟨associations, -⟩ | ⟨io, side, value, rfl, runs, after⟩
    · exact .inl ((BondStore.association_congr associations peer).symm.trans complete)
    · rw [after] at complete ⊢
      exact completed_storeWrite complete
  read := separates.found
  known runs _ _ _ _ _ unknown := separates.unknown runs unknown

/-- **Bond provenance.** On every run from a store whose records are of the classes that
their associations retain, the bonds of the profile classes are kept apart. -/
theorem run_isolated (store : BondStore) (classed : store.Classed) (events : List Event) :
    (run { store } events).Isolated := by
  have separates : ({ store } : Backend).Separates := ⟨classed, by simp⟩
  exact (separates.run events).isolated

/-- A bond of the strict composite. -/
def strictBond : BondStore where
  durable _ := AList.singleton { type := 1 } {
    value := {
      peerAddr := { type := 1 }, ltkPresent := true, authenticated := true, sc := true
      keySize := 16 }
    writtenUnder := .strictComposite }

theorem run_isolated_strictBond :
    (run { store := strictBond }
      [.reboot .done .standaloneMouseJustWorks, .connect 1 (some { type := 1 })]).Isolated := by
  refine run_isolated strictBond (fun side peer kept holds => ?_) _
  have stored := AList.mem_lookup_iff.mp (holds.resolve_right (by simp [strictBond]))
  obtain ⟨rfl, same⟩ : peer = { type := 1 } ∧ _ := by simpa [strictBond] using stored
  rw [same]
  rfl

end Backend

end HidBot.Bonds
