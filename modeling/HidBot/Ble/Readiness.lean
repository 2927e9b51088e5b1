import HidBot.Bonds.Association
import HidBot.Ble.Lifecycle

/-!
# Readiness of a BLE connection for reports

`ble_security.cpp` and the two calls of the transport that begin and retire a connection
in it. The executor is the only writer of the security state, whose flags are written
between two steps of a sequence counter; a callback only sets the token that inhibits the
connection published to it.
-/

namespace HidBot.BleSecurity

open BleLifecycle (Generation ConnectionHandle noConnection)
open Bonds (findDefinition PersistedSecurityEvidence persistedBondIsValid)
open ControlProtocol (ProfileId)

/-! ### The security state -/

/-- The outcome that a profile asks for; no profile changes the defaults below. -/
structure SecurityOutcomePolicy extends Bonds.SecurityOutcomePolicy where
  encrypted : Bool := true
  bonded : Bool := true
  persistedBond : Bool := true
  identityResolved : Bool := true

def policy (profile : ProfileId) : SecurityOutcomePolicy where
  toSecurityOutcomePolicy := (findDefinition profile).security

inductive StoreFailureKind where
  | none
  | capacityFull
  | read
  | write
  | delete
  deriving DecidableEq

structure LinkSecurityEvidence where
  encrypted : Bool := false
  authenticated : Bool := false
  nimbleBonded : Bool := false
  secureConnections : Bool := false
  identityResolved : Bool := false
  keySize : UInt8 := 0
  deriving DecidableEq

/-- The bits of the flag word. -/
structure Flags where
  connected : Bool := false
  encrypted : Bool := false
  authenticated : Bool := false
  nimbleBonded : Bool := false
  persisted : Bool := false
  secureConnections : Bool := false
  identityResolved : Bool := false
  storeHealthy : Bool := false
  lifecycleHealthy : Bool := false
  deriving DecidableEq

structure Snapshot where
  profile : ProfileId := .strictComposite
  generation : Generation := 0
  connectionHandle : ConnectionHandle := noConnection
  flags : Flags := { storeHealthy := true }
  coherent : Bool := false
  keySize : UInt8 := 0
  lastStoreFailure : StoreFailureKind := .none
  lastStoreStatus : Int32 := 0

structure State where
  profile : ProfileId := .strictComposite
  sequence : UInt32 := 0
  generation : Generation := 0
  connectionHandle : ConnectionHandle := noConnection
  flags : Flags := { storeHealthy := true }
  keySize : UInt8 := 0
  lastStoreFailure : StoreFailureKind := .none
  lastStoreStatus : Int32 := 0
  persistentStoreHealthy : Bool := true

namespace State

variable (state : State) (generation : Generation) (connectionHandle : ConnectionHandle)

def beginWrite : State := { state with sequence := state.sequence + 1 }

def endWrite : State := { state with sequence := state.sequence + 1 }

/-- The stores of a mutator between the two steps of the sequence counter. -/
def write (stores : State → State) : State := (stores state.beginWrite).endWrite

/-- At an odd sequence an attempt gives up; no operation runs between two attempts. -/
def attempt : Nat → Snapshot
  | 0 => {}
  | attempts + 1 =>
      if state.sequence &&& 1 ≠ 0 then attempt attempts
      else {
        profile := state.profile, generation := state.generation
        connectionHandle := state.connectionHandle, flags := state.flags, coherent := true
        keySize := state.keySize, lastStoreFailure := state.lastStoreFailure
        lastStoreStatus := state.lastStoreStatus }

def snapshot : Snapshot := state.attempt 3

def beginConnection (lifecycleHealthy : Bool) (profile : ProfileId) : State :=
  state.write fun state => { state with
    profile, generation, connectionHandle
    flags := { connected := true, storeHealthy := state.persistentStoreHealthy, lifecycleHealthy }
    keySize := 0, lastStoreFailure := .none, lastStoreStatus := 0 }

def retireConnection : State :=
  let current := state.snapshot
  if !current.coherent ∨ current.generation ≠ generation ∨
      current.connectionHandle ≠ connectionHandle then state
  else state.write fun state => { state with
    connectionHandle := noConnection
    flags := { storeHealthy := state.persistentStoreHealthy }, keySize := 0 }

def applyStoreFailure (kind : StoreFailureKind) (status : Int32) : State :=
  let current := state.snapshot
  if !current.coherent ∨ current.generation ≠ generation ∨
      current.connectionHandle ≠ connectionHandle then state
  else state.write fun state => { state with
    flags := { state.flags with persisted := false, storeHealthy := false }
    lastStoreFailure := kind, lastStoreStatus := status }

def applyPersistentStoreFailure (kind : StoreFailureKind) (status : Int32) : State :=
  state.write fun state => { state with
    persistentStoreHealthy := false
    flags := {
      state.flags with persisted := false, storeHealthy := false, lifecycleHealthy := false }
    lastStoreFailure := kind, lastStoreStatus := status }

def applyVerification (link : LinkSecurityEvidence) (persisted : PersistedSecurityEvidence) :
    State :=
  let current := state.snapshot
  if !current.coherent ∨ !current.flags.connected ∨ current.generation ≠ generation ∨
      current.connectionHandle ≠ connectionHandle then state
  else state.write fun state =>
    let healthy := current.flags.storeHealthy && state.persistentStoreHealthy
    { state with
      flags := {
        connected := true, encrypted := link.encrypted, authenticated := link.authenticated
        nimbleBonded := link.nimbleBonded, secureConnections := link.secureConnections
        identityResolved := link.identityResolved, storeHealthy := healthy
        persisted := healthy && persistedBondIsValid persisted current.profile
        lifecycleHealthy := current.flags.lifecycleHealthy }
      keySize := link.keySize }

def markLifecycleUnhealthy : State :=
  let current := state.snapshot
  if !current.coherent ∨ current.generation ≠ generation then state
  else state.write fun state => { state with
    flags := { state.flags with lifecycleHealthy := false, persisted := false } }

def securityReadyForHid : Bool :=
  let value := state.snapshot
  let policy := policy value.profile
  value.coherent && value.generation = generation && value.connectionHandle = connectionHandle &&
    value.flags.connected && value.flags.encrypted = policy.encrypted &&
    value.flags.authenticated = policy.authenticated &&
    value.flags.nimbleBonded = policy.bonded && value.flags.persisted = policy.persistedBond &&
    value.flags.identityResolved = policy.identityResolved &&
    (!policy.secureConnectionsRequired || value.flags.secureConnections) &&
    value.keySize = policy.keySize && value.flags.storeHealthy && value.flags.lifecycleHealthy

end State

/-! ### The inhibition -/

structure ReadinessInhibit where
  generation : Generation := 0
  connectionHandle : ConnectionHandle := noConnection
  authorityToken : UInt32 := 0
  inhibitedToken : UInt32 := 0
  persistentStoreUnhealthy : Bool := false
  nextAuthorityToken : UInt32 := 1

namespace ReadinessInhibit

variable (words : ReadinessInhibit) (generation : Generation)
  (connectionHandle : ConnectionHandle)

/-- Zero is the token of no authority and is skipped. -/
def beginConnection : ReadinessInhibit :=
  let token := if words.nextAuthorityToken = 0 then 1 else words.nextAuthorityToken
  { words with
    generation, connectionHandle, authorityToken := token, nextAuthorityToken := token + 1 }

/-- The connection whose authority is published. -/
def governs : Bool :=
  words.authorityToken ≠ 0 && words.generation = generation &&
    words.connectionHandle = connectionHandle

def retireConnection : ReadinessInhibit :=
  if words.governs generation connectionHandle then { words with authorityToken := 0 } else words

def inhibit (persistentStoreUnhealthy : Bool) : Bool × ReadinessInhibit :=
  let words := { words with
    persistentStoreUnhealthy := words.persistentStoreUnhealthy || persistentStoreUnhealthy }
  if words.governs generation connectionHandle then
    (true, { words with inhibitedToken := words.authorityToken })
  else (false, words)

def inhibits : Bool :=
  words.persistentStoreUnhealthy || (words.governs generation connectionHandle &&
    words.inhibitedToken = words.authorityToken)

end ReadinessInhibit

/-! ### Runs -/

inductive StateOperation where
  | beginConnection (generation : Generation) (connectionHandle : ConnectionHandle)
      (lifecycleHealthy : Bool) (profile : ProfileId)
  | retireConnection (generation : Generation) (connectionHandle : ConnectionHandle)
  | applyStoreFailure (generation : Generation) (connectionHandle : ConnectionHandle)
      (kind : StoreFailureKind) (status : Int32)
  | applyPersistentStoreFailure (kind : StoreFailureKind) (status : Int32)
  | applyVerification (generation : Generation) (connectionHandle : ConnectionHandle)
      (link : LinkSecurityEvidence) (persisted : PersistedSecurityEvidence)
  | markLifecycleUnhealthy (generation : Generation)

def State.apply (state : State) : StateOperation → State
  | .beginConnection generation handle healthy profile =>
      state.beginConnection generation handle healthy profile
  | .retireConnection generation handle => state.retireConnection generation handle
  | .applyStoreFailure generation handle kind status =>
      state.applyStoreFailure generation handle kind status
  | .applyPersistentStoreFailure kind status => state.applyPersistentStoreFailure kind status
  | .applyVerification generation handle link persisted =>
      state.applyVerification generation handle link persisted
  | .markLifecycleUnhealthy generation => state.markLifecycleUnhealthy generation

inductive InhibitOperation where
  | beginConnection (generation : Generation) (connectionHandle : ConnectionHandle)
  | retireConnection (generation : Generation) (connectionHandle : ConnectionHandle)
  | inhibit (generation : Generation) (connectionHandle : ConnectionHandle)
      (persistentStoreUnhealthy : Bool)

def ReadinessInhibit.apply (words : ReadinessInhibit) : InhibitOperation → ReadinessInhibit
  | .beginConnection generation handle => words.beginConnection generation handle
  | .retireConnection generation handle => words.retireConnection generation handle
  | .inhibit generation handle persistent => (words.inhibit generation handle persistent).2

inductive Operation where
  | state (operation : StateOperation)
  | inhibit (operation : InhibitOperation)

structure Backend where
  security : State := {}
  securityInhibit : ReadinessInhibit := {}

namespace Backend

def apply (backend : Backend) : Operation → Backend
  | .state operation => { backend with security := backend.security.apply operation }
  | .inhibit operation =>
      { backend with securityInhibit := backend.securityInhibit.apply operation }

/-- The operations in their order, from the state at boot. -/
def run (operations : List Operation) : Backend := operations.foldl apply {}

@[simp]
theorem run_snoc (operations : List Operation) (operation : Operation) :
    run (operations ++ [operation]) = (run operations).apply operation := by
  simp [run]

def securityReadyForHid (backend : Backend) (generation : Generation)
    (connectionHandle : ConnectionHandle) : Bool :=
  !backend.securityInhibit.inhibits generation connectionHandle &&
    backend.security.securityReadyForHid generation connectionHandle

def persistentStoreFailureObserved (backend : Backend) : Bool :=
  backend.securityInhibit.persistentStoreUnhealthy

end Backend

/-- The calls of the executor and the callbacks: the transport begins and retires the
connection of both components together. -/
inductive Call where
  | beginSecurity (generation : Generation) (connectionHandle : ConnectionHandle)
      (profile : ProfileId)
  | retireSecurity (generation : Generation) (connectionHandle : ConnectionHandle)
  | state (operation : StateOperation)
  | inhibit (generation : Generation) (connectionHandle : ConnectionHandle)
      (persistentStoreUnhealthy : Bool)

def Call.operations : Call → List Operation
  | .beginSecurity generation handle profile =>
      [.inhibit (.beginConnection generation handle),
        .state (.beginConnection generation handle true profile)]
  | .retireSecurity generation handle =>
      [.inhibit (.retireConnection generation handle), .state (.retireConnection generation handle)]
  | .state operation => [.state operation]
  | .inhibit generation handle persistent => [.inhibit (.inhibit generation handle persistent)]

end HidBot.BleSecurity
