import HidBot.Bonds.Startup

/-!
# The security store of the BLE backend

`ble_transport.cpp`: the callbacks through which the host stack reads and writes security
records, and the events of the connection that they consult. All of them run on the task
of the host stack, which runs only after a start has succeeded.
-/

namespace HidBot.Bonds

open ControlProtocol (ProfileId)

def noConnection : UInt16 := 0xffff

/-! ### Readiness -/

structure ReadinessInhibit where
  generation : UInt32 := 0
  connectionHandle : UInt16 := noConnection
  authorityToken : UInt32 := 0
  inhibitedToken : UInt32 := 0
  persistentStoreUnhealthy : Bool := false
  nextAuthorityToken : UInt32 := 1

namespace ReadinessInhibit

def beginConnection (inhibit : ReadinessInhibit) (generation : UInt32) (handle : UInt16) :
    ReadinessInhibit :=
  -- The token zero is of no connection.
  let token := if inhibit.nextAuthorityToken = 0 then 1 else inhibit.nextAuthorityToken
  { inhibit with
    generation, connectionHandle := handle, authorityToken := token
    nextAuthorityToken := token + 1 }

def concerns (inhibit : ReadinessInhibit) (generation : UInt32) (handle : UInt16) : Bool :=
  inhibit.authorityToken ≠ 0 ∧ inhibit.generation = generation ∧ inhibit.connectionHandle = handle

def retireConnection (inhibit : ReadinessInhibit) (generation : UInt32) (handle : UInt16) :
    ReadinessInhibit :=
  if inhibit.concerns generation handle then { inhibit with authorityToken := 0 } else inhibit

def inhibit (inhibit : ReadinessInhibit) (generation : UInt32) (handle : UInt16)
    (persistentStoreUnhealthy : Bool) : ReadinessInhibit :=
  let observed := { inhibit with
    persistentStoreUnhealthy := inhibit.persistentStoreUnhealthy || persistentStoreUnhealthy }
  if inhibit.concerns generation handle then
    { observed with inhibitedToken := inhibit.authorityToken }
  else observed

def inhibits (inhibit : ReadinessInhibit) (generation : UInt32) (handle : UInt16) : Bool :=
  inhibit.persistentStoreUnhealthy ∨
    (inhibit.concerns generation handle ∧ inhibit.inhibitedToken = inhibit.authorityToken)

end ReadinessInhibit

/-! ### The backend -/

structure Backend where
  store : BondStore := {}
  profileId : ProfileId := .strictComposite
  /-- The task of the host stack runs. -/
  initialized : Bool := false
  associationCreation : AssociationCreation := {}
  activeHostConnection : UInt64 := 0
  hostConnectionIncarnation : UInt64 := 0
  hostConnectionHandle : UInt16 := noConnection
  hostConnectionIdentity : StoreIdentity := {}
  hostIdentityValid : Bool := false
  generation : UInt32 := 0
  currentConnection : UInt16 := noConnection
  securityInhibit : ReadinessInhibit := {}

/-- The answers of the storage to one write. -/
structure WriteAnswers where
  prepare : PrepareAnswers := {}
  raw : RawAnswer := .stored
  complete : CompleteAnswers := {}

namespace Backend

def profile (backend : Backend) : ProfileDefinition := findDefinition backend.profileId

def observeStoreFailure (backend : Backend) (persistentStoreUnhealthy : Bool) (handle : UInt16) :
    Backend :=
  { backend with
    securityInhibit :=
      backend.securityInhibit.inhibit backend.generation handle persistentStoreUnhealthy }

def compatibleAssociation (io : IoAnswer) (backend : Backend) (identity : StoreIdentity) : Bool :=
  match backend.store.readAssociation io identity with
  | .error _ => false
  | .ok record => associationCompatibility record backend.profile.bondClass = .allowed

/-- `original_store_read_` for the key of one peer: the RAM copy, or a failure. -/
def rawRead (io : IoAnswer) (backend : Backend) (side : Side) (peer : StoreIdentity) :
    Except StoreError SecurityValue :=
  match io with
  | .failed status _ => .error (.other status)
  | .done =>
      match (backend.store.ram side).lookup peer with
      | none => .error .notFound
      | some kept => .ok kept.value

/-- `store_read` of a security record for an exact peer. The three answers are to the
reading of the association, to the host stack, and to the second reading of the
association. -/
def storeRead (before raw after : IoAnswer) (backend : Backend) (side : Side)
    (peer : StoreIdentity) : Except StoreError SecurityValue :=
  match backend.store.readAssociation before peer with
  | .error _ => .error .failed
  | .ok record =>
      if record.state ≠ .missing ∧
          associationCompatibility record backend.profile.bondClass ≠ .allowed then
        .error .failed
      else
        match backend.rawRead raw side peer with
        | .error failure => .error failure
        | .ok value =>
            -- Existing and incompatible is not "no bond".
            if backend.compatibleAssociation after peer then .ok value else .error .failed

/-- A record that a profile other than the strict one may store for the connection. -/
def admissible (backend : Backend) (value : SecurityValue) : Bool :=
  let record := securityRecord value.peerAddr value
  ¬backend.securityInhibit.inhibits backend.generation backend.currentConnection ∧
    persistedBondIsValid ⟨record, record⟩ backend.profileId ∧
    backend.activeHostConnection ≠ 0 ∧ backend.hostIdentityValid ∧
    backend.hostConnectionIdentity = value.peerAddr

/-- What `store_write` does before it hands the record to the host stack. -/
def admitWrite (io : PrepareAnswers) (backend : Backend) (value : SecurityValue) :
    Except StoreError Unit × Backend :=
  if ¬validIdentity value.peerAddr then (.error .failed, backend)
  else if backend.profileId ≠ .strictComposite ∧ ¬backend.admissible value then
    (.error .failed, backend)
  else
    match backend.store.prepareAssociation io backend.associationCreation
      backend.activeHostConnection value.peerAddr backend.profile.bondClass with
    | (.allowed, store, claim) => (.ok (), { backend with store, associationCreation := claim })
    | (.storageFailure, store, claim) =>
        (.error .failed,
          { backend with store, associationCreation := claim }.observeStoreFailure true
            backend.currentConnection)
    | (_, store, claim) => (.error .failed, { backend with store, associationCreation := claim })

/-- `store_write` of a security record. -/
def storeWrite (io : WriteAnswers) (backend : Backend) (side : Side) (value : SecurityValue) :
    Except StoreError Unit × Backend :=
  match backend.admitWrite io.prepare value with
  | (.error failure, refused) => (.error failure, refused)
  | (.ok (), admitted) =>
      match admitted.store.rawWrite io.raw side ⟨value, admitted.profile.bondClass⟩ with
      | (.error failure, store) =>
          (.error failure, { admitted with store }.observeStoreFailure (failure ≠ StoreError.capacity)
            admitted.currentConnection)
      | (.ok (), written) =>
          match written.completeAssociation io.complete admitted.associationCreation
            admitted.activeHostConnection value.peerAddr admitted.profile.bondClass with
          | (.allowed, store) => (.ok (), { admitted with store })
          | (_, store) =>
              (.error .failed,
                { admitted with store }.observeStoreFailure true admitted.currentConnection)

/-- A write consults the association first, and then changes at most what is named. -/
theorem admitWrite_cases {io : PrepareAnswers} {backend admitted : Backend} {value : SecurityValue}
    {result : Except StoreError Unit} (done : backend.admitWrite io value = (result, admitted)) :
    (result ≠ .ok () ∧ admitted = backend) ∨ validIdentity value.peerAddr ∧
      ∃ decision store claim securityInhibit,
        backend.store.prepareAssociation io backend.associationCreation
          backend.activeHostConnection value.peerAddr backend.profile.bondClass =
            (decision, store, claim) ∧
        (result = .ok () ↔ decision = .allowed) ∧
        admitted = { backend with store, associationCreation := claim, securityInhibit } := by
  unfold admitWrite at done
  split_ifs at done with known barred
  · obtain ⟨rfl, rfl⟩ := Prod.mk.inj done
    exact .inl ⟨by simp, rfl⟩
  · refine .inr ⟨known, ?_⟩
    split at done
    all_goals
      obtain ⟨rfl, rfl⟩ := Prod.mk.inj done
      exact ⟨_, _, _, _, by assumption, by simp_all, rfl⟩
  · obtain ⟨rfl, rfl⟩ := Prod.mk.inj done
    exact .inl ⟨by simp, rfl⟩

/-- An admitted record is handed to the host stack, and what it stored may then complete
the association. -/
theorem storeWrite_cases (io : WriteAnswers) (backend : Backend) (side : Side)
    (value : SecurityValue) :
    ((backend.admitWrite io.prepare value).1 ≠ .ok () ∧
        (backend.storeWrite io side value).2 = (backend.admitWrite io.prepare value).2) ∨
      ∃ admitted, backend.admitWrite io.prepare value = (.ok (), admitted) ∧
        ∃ store securityInhibit,
          (backend.storeWrite io side value).2 = { admitted with store, securityInhibit } ∧
          let kept : Kept := ⟨value, admitted.profile.bondClass⟩
          let written := (admitted.store.rawWrite io.raw side kept).2
          (store = written ∨ ∃ decision, written.completeAssociation io.complete
            admitted.associationCreation admitted.activeHostConnection value.peerAddr
            admitted.profile.bondClass = (decision, store)) := by
  unfold storeWrite
  split
  · rename_i failure refused refuses
    exact .inl ⟨by simp [refuses], by simp [refuses]⟩
  · rename_i admitted admits
    refine .inr ⟨admitted, admits, ?_⟩
    split
    · rename_i failure store raw
      exact ⟨store, _, rfl, .inl (by simp [raw])⟩
    · rename_i written raw
      split
      · rename_i store completes
        exact ⟨store, _, rfl, .inr ⟨_, by simpa [raw] using completes⟩⟩
      · rename_i decision store _ completes
        exact ⟨store, _, rfl, .inr ⟨decision, by simpa [raw] using completes⟩⟩

/-! ### The connection -/

/-- `BLE_GAP_EVENT_CONNECT` with the identity of the peer, if the host stack has it. An
incarnation is not used twice. -/
def connect (backend : Backend) (handle : UInt16) (identity : Option StoreIdentity) : Backend :=
  let last := backend.hostConnectionIncarnation
  let incarnation := if last = 0xffffffffffffffff then last else last + 1
  { backend with
    associationCreation := {}
    hostConnectionIncarnation := incarnation
    activeHostConnection := if last = 0xffffffffffffffff then 0 else incarnation
    hostConnectionHandle := handle
    hostConnectionIdentity := identity.getD backend.hostConnectionIdentity
    hostIdentityValid := identity.any validIdentity }

/-- `BLE_GAP_EVENT_DISCONNECT`. -/
def disconnect (backend : Backend) : Backend :=
  { backend with
    associationCreation := {}
    activeHostConnection := 0
    hostConnectionHandle := noConnection
    hostIdentityValid := false }

def onReset (backend : Backend) : Backend :=
  { backend.disconnect with
    generation := backend.generation + 1
    currentConnection := noConnection }

/-- `BLE_GAP_EVENT_IDENTITY_RESOLVED`. -/
def identityResolved (backend : Backend) (handle : UInt16) (identity : StoreIdentity) : Backend :=
  if backend.hostConnectionHandle = handle then
    { backend with
      hostConnectionIdentity := identity
      hostIdentityValid := validIdentity identity }
  else backend

def beginSecurity (backend : Backend) (generation : UInt32) (handle : UInt16) : Backend :=
  { backend with
    currentConnection := handle
    securityInhibit := backend.securityInhibit.beginConnection generation handle }

def retireSecurity (backend : Backend) (generation : UInt32) (handle : UInt16) : Backend :=
  { backend with
    securityInhibit := backend.securityInhibit.retireConnection generation handle
    currentConnection :=
      if backend.currentConnection = handle then noConnection else backend.currentConnection }

/-! ### Starts -/

/-- The start that follows `configure_profile`. An operation of the storage that fails
refuses it. -/
def initializeStack (io : IoAnswer) (backend : Backend) (profileId : ProfileId) : Backend :=
  match io.query backend.store.startup with
  | .error _ => { backend with profileId, initialized := false }
  | .ok store => { backend with profileId, initialized := true, store }

/-- The fixture loses its power and is started again. -/
def reboot (io : IoAnswer) (backend : Backend) (profileId : ProfileId) : Backend :=
  { store := backend.store : Backend }.initializeStack io profileId

/-! ### Runs -/

/-- What happens on the task of the host stack, or at its ends. -/
inductive Event where
  | storeWrite (io : WriteAnswers) (side : Side) (value : SecurityValue)
  | connect (handle : UInt16) (identity : Option StoreIdentity)
  | disconnect
  | reset
  | identityResolved (handle : UInt16) (identity : StoreIdentity)
  | beginSecurity (generation : UInt32) (handle : UInt16)
  | retireSecurity (generation : UInt32) (handle : UInt16)
  | storeFull (handle : UInt16)
  | setGeneration (generation : UInt32)
  /-- The stack is stopped and started with a profile. -/
  | selectProfile (io : IoAnswer) (profileId : ProfileId)
  | reboot (io : IoAnswer) (profileId : ProfileId)

/-- The event on a backend whose host stack runs. -/
def handle (backend : Backend) : Event → Backend
  | .storeWrite io side value => (backend.storeWrite io side value).2
  | .connect handle identity => backend.connect handle identity
  | .disconnect => backend.disconnect
  | .reset => backend.onReset
  | .identityResolved handle identity => backend.identityResolved handle identity
  | .beginSecurity generation handle => backend.beginSecurity generation handle
  | .retireSecurity generation handle => backend.retireSecurity generation handle
  | .storeFull handle => backend.observeStoreFailure false handle
  | .setGeneration generation => { backend with generation }
  | .selectProfile io profileId => backend.initializeStack io profileId
  | .reboot io profileId => backend.reboot io profileId

def step (backend : Backend) (event : Event) : Backend :=
  if backend.initialized then backend.handle event
  else
    match event with
    | .selectProfile io profileId => backend.initializeStack io profileId
    | .reboot io profileId => backend.reboot io profileId
    | _ => backend

def run (backend : Backend) (events : List Event) : Backend := events.foldl step backend

end Backend

end HidBot.Bonds
