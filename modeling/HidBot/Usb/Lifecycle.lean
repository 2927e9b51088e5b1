import HidBot.Interleaving.Rely

/-!
# USB lifecycle words

The atomic words of `usb_lifecycle::StateMachine` and its operations as programs
of atomic accesses. `state_` packs desired exposure, three flags and the
observed state in one byte, so it is one word here. A compare-exchange loop over
it writes only when it succeeds, on the value it decided from, so the loop is
one access.
-/

namespace HidBot.UsbLifecycle

open Interleaving

abbrev Generation := UInt32

inductive DesiredExposure where
  | hidden
  | exposed
  deriving DecidableEq, Repr

inductive ObservedState where
  | driverNotInstalled
  | disconnected
  | attaching
  | mounted
  | suspended
  | detaching
  deriving DecidableEq, Repr

inductive ExecutorAction where
  | install
  | uninstall
  deriving DecidableEq, Repr

inductive TransitionResult where
  | accepted
  | noOp
  | busy
  deriving DecidableEq, Repr

inductive LifecycleOperation where
  | install
  | uninstall
  | runtime
  deriving DecidableEq, Repr

def tinyUsbRuntimeDiagnosticError : Int32 := -0x7601

def tinyUsbEventQueueOverflowError : Int32 := -0x7602

structure LastError where
  present : Bool := false
  operation : LifecycleOperation := .install
  code : Int32 := 0
  deriving DecidableEq, Repr

structure Snapshot where
  desired : DesiredExposure := .exposed
  observed : ObservedState := .driverNotInstalled
  generation : Generation := 0
  uncertaintyGeneration : Generation := 0
  safetyPending : Bool := false
  hostReleaseUncertain : Bool := false
  recoveryRequired : Bool := false
  lastError : LastError := {}
  deriving DecidableEq, Repr

structure TransitionOutcome where
  actionResult : TransitionResult := .busy
  snapshotValid : Bool := false
  snapshot : Snapshot := {}
  deriving DecidableEq, Repr

/-- The packed `state_` byte. -/
structure StateByte where
  desired : DesiredExposure := .hidden
  safetyPending : Bool := false
  uncertain : Bool := false
  recoveryRequired : Bool := false
  observed : ObservedState := .driverNotInstalled
  deriving DecidableEq, Repr

/-- The atomic words; the defaults are `initialize_hidden_boot_policy`. -/
structure Words where
  generation : Generation := 0
  uncertaintyGeneration : Generation := 0
  lastErrorCode : Int32 := 0
  lastErrorOperation : LifecycleOperation := .install
  lastErrorPresent : Bool := false
  teardownBoundaryStarted : Bool := false
  runtimeFaultPending : Bool := false
  state : StateByte := {}
  deriving DecidableEq, Repr

/-- One access that replaces the packed byte. -/
def writeState (update : StateByte → StateByte) : Program Words Unit :=
  .write fun words => { words with state := update words.state }

def desired : Program Words DesiredExposure := .read (·.state.desired)

def observed : Program Words ObservedState := .read (·.state.observed)

def generation : Program Words Generation := .read (·.generation)

def setObserved (observedState : ObservedState) : Program Words Unit :=
  writeState fun state => { state with observed := observedState }

def setRecoveryRequired (required : Bool) : Program Words Unit :=
  writeState fun state => { state with recoveryRequired := required }

def advanceGeneration : Program Words Unit :=
  .write fun words => { words with generation := words.generation + 1 }

def storeTeardownBoundary (started : Bool) : Program Words Unit :=
  .write fun words => { words with teardownBoundaryStarted := started }

def clearLastError : Program Words Unit := do
  .write fun words => { words with lastErrorCode := 0 }
  .write fun words => { words with lastErrorOperation := .install }
  .write fun words => { words with lastErrorPresent := false }

def recordError (operation : LifecycleOperation) (errorCode : Int32) : Program Words Unit := do
  .write fun words => { words with lastErrorCode := errorCode }
  .write fun words => { words with lastErrorOperation := operation }
  .write fun words => { words with lastErrorPresent := true }

/-- A snapshot is six loads, so it can mix values from different moments. -/
def snapshot : Program Words Snapshot := do
  let state ← .read (·.state)
  let errorPresent ← .read (·.lastErrorPresent)
  let generation ← .read (·.generation)
  let uncertaintyGeneration ← .read (·.uncertaintyGeneration)
  let operation ← .read (·.lastErrorOperation)
  let code ← .read (·.lastErrorCode)
  return {
    desired := state.desired
    observed := state.observed
    generation
    uncertaintyGeneration
    safetyPending := state.safetyPending
    hostReleaseUncertain := state.uncertain
    recoveryRequired := state.recoveryRequired
    lastError := ⟨errorPresent, operation, code⟩ }

/-! ### Control-plane requests -/

/-- How the exchange loop of a request ends. -/
inductive Exchange where
  | rejected
  | noOp
  | accepted
  deriving DecidableEq, Repr

/-- The loop of `request_attach`: its checks and its exchange of `state_`. -/
def attachExchange (state : StateByte) : Exchange × StateByte :=
  let exposed := state.desired = .exposed
  if state.observed = .detaching ∨ state.recoveryRequired then
    (.rejected, state)
  else if exposed ∧ state.observed ≠ .driverNotInstalled then
    (.noOp, state)
  else if ¬exposed ∧ state.observed ≠ .driverNotInstalled then
    (.rejected, state)
  else
    (.accepted, { state with
      desired := .exposed, recoveryRequired := false, observed := .attaching })

/-- The loop of `request_detach`. -/
def detachExchange (state : StateByte) : Exchange × StateByte :=
  let exposed := state.desired = .exposed
  if state.observed = .attaching then
    (.rejected, state)
  else if ¬exposed ∧ (state.observed = .driverNotInstalled ∨ state.observed = .detaching) then
    (.noOp, state)
  else if ¬exposed ∨ state.observed = .driverNotInstalled ∨ state.recoveryRequired then
    (.rejected, state)
  else
    (.accepted, { state with desired := .hidden, safetyPending := true, observed := .detaching })

def exchangeState (loop : StateByte → Exchange × StateByte) : Program Words Exchange :=
  .readModifyWrite fun words =>
    ((loop words.state).1, { words with state := (loop words.state).2 })

section Requests

/- The lifecycle words are one component of the state that the scheduler acts on. -/
variable {τ : Type} (view : τ → Words) (set : Words → τ → τ)
  (schedule : ExecutorAction → Snapshot → Program τ Bool)

/-- Schedule an accepted transition; a full queue leaves a fail-closed error. -/
def scheduleAccepted (action : ExecutorAction) (operation : LifecycleOperation) :
    Program τ TransitionOutcome := do
  let accepted ← snapshot.zoom view set
  if ← schedule action accepted then
    return { actionResult := .accepted, snapshotValid := true, snapshot := accepted }
  (recordError operation (-1)).zoom view set
  (setRecoveryRequired true).zoom view set
  return {}

def requestAttach : Program τ TransitionOutcome := do
  match ← (exchangeState attachExchange).zoom view set with
  | .rejected => return {}
  | .noOp =>
      let current ← snapshot.zoom view set
      return { actionResult := .noOp, snapshotValid := true, snapshot := current }
  | .accepted =>
      clearLastError.zoom view set
      (storeTeardownBoundary false).zoom view set
      advanceGeneration.zoom view set
      scheduleAccepted view set schedule .install .install

def requestDetach : Program τ TransitionOutcome := do
  match ← (exchangeState detachExchange).zoom view set with
  | .rejected => return {}
  | .noOp =>
      let current ← snapshot.zoom view set
      return { actionResult := .noOp, snapshotValid := true, snapshot := current }
  | .accepted =>
      clearLastError.zoom view set
      -- Stage A keeps the generation for lifecycle-owned all-up work.
      scheduleAccepted view set schedule .uninstall .uninstall

end Requests

/-! ### Completions -/

/-- The guard of the install completions: two separate loads of `state_`. -/
def installExpected : Program Words Bool := do
  if (← desired) = .exposed then
    return (← observed) = .attaching
  return false

/-- The guard of the uninstall completions. -/
def uninstallExpected : Program Words Bool := do
  if (← desired) = .hidden then
    return (← observed) = .detaching
  return false

def completeInstallSuccess : Program Words Unit := do
  if ← installExpected then
    setRecoveryRequired false
    setObserved .disconnected

def completeInstallCleanFailure (errorCode : Int32) : Program Words Unit := do
  if ← installExpected then
    recordError .install errorCode
    setRecoveryRequired false
    setObserved .driverNotInstalled

def completeInstallAmbiguousFailure (errorCode : Int32) : Program Words Unit := do
  if ← installExpected then
    recordError .install errorCode
    setRecoveryRequired true

def beginUninstall : Program Words Generation := do
  if ← uninstallExpected then
    let started ← .readModifyWrite fun words =>
      (words.teardownBoundaryStarted, { words with teardownBoundaryStarted := true })
    unless started do
      advanceGeneration
  generation

def completeUninstallSuccess : Program Words Unit := do
  if ← uninstallExpected then
    setRecoveryRequired false
    setObserved .driverNotInstalled

def completeUninstallFailure (errorCode : Int32) : Program Words Unit := do
  if ← uninstallExpected then
    recordError .uninstall errorCode
    setRecoveryRequired true

/-! ### Runtime faults -/

def beginRuntimeFault (errorCode : Int32) : Program Words Bool := do
  let pending ← .readModifyWrite fun words =>
    (words.runtimeFaultPending, { words with runtimeFaultPending := true })
  if pending then
    return false
  recordError .runtime errorCode
  storeTeardownBoundary false
  writeState fun state =>
    { state with desired := .hidden, safetyPending := true, observed := .detaching }
  return true

def updateRuntimeFault (errorCode : Int32) : Program Words Unit := do
  if ← .read (·.runtimeFaultPending) then
    recordError .runtime errorCode

def completeRuntimeFault (driverUninstalled : Bool) : Program Words Unit := do
  if ← .read (·.runtimeFaultPending) then
    setRecoveryRequired true
    if driverUninstalled then
      setObserved .driverNotInstalled

/-! ### Observations -/

/-- The guard of the observations: exposed, an observed state they apply to, and
no recovery due, each loaded separately. -/
def observationExpected (applies : ObservedState → Bool) : Program Words Bool := do
  if (← desired) ≠ .exposed then
    return false
  if applies (← observed) then
    return !(← snapshot).recoveryRequired
  return false

def observeMount : Program Words Bool := do
  if ← observationExpected (· != .detaching) then
    setObserved .mounted
    return true
  return false

def observeUnmount : Program Words Bool := do
  if ← observationExpected (· != .detaching) then
    if (← observed) ≠ .disconnected then
      advanceGeneration
    setObserved .disconnected
    return true
  return false

def observeSuspend : Program Words Bool := do
  if ← observationExpected (· == .mounted) then
    setObserved .suspended
    return true
  return false

def observeResume : Program Words Bool := do
  if ← observationExpected (· == .suspended) then
    setObserved .mounted
    return true
  return false

/-! ### Detach safety accounting -/

def markReleasePending : Program Words Unit :=
  writeState fun state => { state with safetyPending := true }

def clearReleasePendingIfNotUncertain : Program Words Bool :=
  .readModifyWrite fun words =>
    if words.state.uncertain then (false, words)
    else (true, { words with state := { words.state with safetyPending := false } })

def markReleaseConfirmed : Program Words Unit := do
  writeState fun state => { state with safetyPending := false, uncertain := false }
  .write fun words => { words with uncertaintyGeneration := 0 }

def markReleaseUncertainForGeneration (generation : Generation) : Program Words Unit := do
  writeState fun state => { state with safetyPending := true, uncertain := true }
  .write fun words => { words with uncertaintyGeneration := generation }

def markReleaseUncertain : Program Words Unit := do
  markReleaseUncertainForGeneration (← generation)

def acceptsHid (endpointReady : Bool) : Program Words Bool := do
  let current ← snapshot
  return !current.recoveryRequired && current.desired == .exposed &&
    current.observed == .mounted && endpointReady

def hasUnresolvedPriorGeneration : Program Words Bool := do
  let current ← snapshot
  return current.hostReleaseUncertain && current.uncertaintyGeneration != current.generation

end HidBot.UsbLifecycle
