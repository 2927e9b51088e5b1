import HidBot.Interleaving.Program

/-!
# BLE lifecycle words

The atomic words of `ble_lifecycle::StateMachine` and its operations. Every
operation takes a snapshot by separate loads, checks it and publishes by
separate stores; nothing ties the stores to the loads.
-/

namespace HidBot.BleLifecycle

open Interleaving

abbrev Generation := UInt32

/-- A generation that is not the last one is followed by a larger one. -/
theorem toNat_succ_of_ne_max {generation : Generation} (bounded : generation ≠ 0xffffffff) :
    (generation + 1).toNat = generation.toNat + 1 := by
  have below := generation.toNat_lt
  have last : generation.toNat ≠ 4294967295 := fun same => bounded (UInt32.toNat_inj.mp same)
  rw [UInt32.toNat_add, show (1 : Generation).toNat = 1 from rfl]
  omega

abbrev ConnectionHandle := UInt16

def noConnection : ConnectionHandle := 0xffff

inductive DesiredExposure where
  | hidden
  | exposed
  deriving DecidableEq, Repr

inductive ObservedState where
  | uninitialized
  | enabling
  | idle
  | advertising
  | connected
  | disabling
  | fault
  deriving DecidableEq, Repr

inductive LifecycleOperation where
  | enable
  | disable
  | runtime
  deriving DecidableEq, Repr

inductive TransitionResult where
  | accepted
  | noOp
  | busy
  deriving DecidableEq, Repr

structure LastError where
  present : Bool := false
  operation : LifecycleOperation := .runtime
  code : Int32 := 0
  deriving DecidableEq, Repr

structure Snapshot where
  desired : DesiredExposure := .hidden
  observed : ObservedState := .uninitialized
  generation : Generation := 0
  stackReady : Bool := false
  advertising : Bool := false
  connected : Bool := false
  recoveryRequired : Bool := false
  lastError : LastError := {}
  deriving DecidableEq, Repr

structure TransitionOutcome where
  actionResult : TransitionResult := .busy
  snapshotValid : Bool := false
  snapshot : Snapshot := {}
  deriving DecidableEq, Repr

/-- The packed `state_` byte. -/
structure StateByte where
  desired : DesiredExposure := .hidden
  observed : ObservedState := .uninitialized
  stackReady : Bool := false
  advertising : Bool := false
  connected : Bool := false
  recoveryRequired : Bool := false
  deriving DecidableEq, Repr

structure Words where
  generation : Generation := 0
  connectionHandle : ConnectionHandle := noConnection
  errorCode : Int32 := 0
  errorOperation : LifecycleOperation := .enable
  errorPresent : Bool := false
  state : StateByte := {}
  resetRecoveryUsed : Bool := false
  deriving DecidableEq, Repr

def publish (state : StateByte) : Program Words Unit :=
  .write fun words => { words with state }

def advanceGeneration : Program Words Unit :=
  .write fun words => { words with generation := words.generation + 1 }

def storeConnectionHandle (handle : ConnectionHandle) : Program Words Unit :=
  .write fun words => { words with connectionHandle := handle }

def storeResetRecoveryUsed (used : Bool) : Program Words Unit :=
  .write fun words => { words with resetRecoveryUsed := used }

def setError (operation : LifecycleOperation) (code : Int32) : Program Words Unit := do
  .write fun words => { words with errorCode := code }
  .write fun words => { words with errorOperation := operation }
  .write fun words => { words with errorPresent := true }

def clearError : Program Words Unit := do
  .write fun words => { words with errorCode := 0 }
  .write fun words => { words with errorOperation := .runtime }
  .write fun words => { words with errorPresent := false }

def snapshotOf (state : StateByte) (errorPresent : Bool) (generation : Generation)
    (operation : LifecycleOperation) (code : Int32) : Snapshot where
  desired := state.desired
  observed := state.observed
  generation := generation
  stackReady := state.stackReady
  advertising := state.advertising
  connected := state.connected
  recoveryRequired := state.recoveryRequired
  lastError := ⟨errorPresent, operation, code⟩

def snapshot : Program Words Snapshot := do
  let state ← .read (·.state)
  let errorPresent ← .read (·.errorPresent)
  let generation ← .read (·.generation)
  let operation ← .read (·.errorOperation)
  let code ← .read (·.errorCode)
  return snapshotOf state errorPresent generation operation code

/-- The snapshot of words that do not change meanwhile. -/
def Words.current (words : Words) : Snapshot :=
  snapshotOf words.state words.errorPresent words.generation words.errorOperation words.errorCode

theorem exec_snapshot_bind {α : Type} (rest : Snapshot → Program Words α) (words : Words) :
    (snapshot >>= rest).exec words = (rest words.current).exec words := rfl

theorem exec_snapshot (words : Words) : snapshot.exec words = (words.current, words) := rfl

def generation : Program Words Generation := .read (·.generation)

/-! ### Control commands -/

/-- The states in which neither enable nor disable is taken. -/
def Snapshot.inTransition (current : Snapshot) : Bool :=
  current.recoveryRequired || current.observed == .fault || current.observed == .enabling ||
    current.observed == .disabling

def noOpOutcome (current : Snapshot) : TransitionOutcome :=
  { actionResult := .noOp, snapshotValid := true, snapshot := current }

def acceptedOutcome : Program Words TransitionOutcome := do
  return { actionResult := .accepted, snapshotValid := true, snapshot := ← snapshot }

def beginEnable : Program Words TransitionOutcome := do
  let current ← snapshot
  if current.inTransition then
    return {}
  if current.desired = .exposed ∧
      (current.observed = .advertising ∨ current.observed = .connected) then
    return noOpOutcome current
  if current.desired ≠ .hidden ∨
      (current.observed ≠ .uninitialized ∧ current.observed ≠ .idle) then
    return {}
  advanceGeneration
  clearError
  storeResetRecoveryUsed false
  publish { desired := .exposed, observed := .enabling, stackReady := current.stackReady }
  acceptedOutcome

def beginDisable : Program Words TransitionOutcome := do
  let current ← snapshot
  if current.inTransition then
    return {}
  if current.desired = .hidden ∧
      (current.observed = .uninitialized ∨ current.observed = .idle) then
    return noOpOutcome current
  if current.desired ≠ .exposed then
    return {}
  advanceGeneration
  clearError
  publish {
    desired := .hidden
    observed := .disabling
    stackReady := current.stackReady
    advertising := current.advertising
    connected := current.connected }
  acceptedOutcome

def beginHiddenRestart : Program Words Bool := do
  let current ← snapshot
  if current.desired ≠ .hidden ∨ current.observed ≠ .idle ∨ !current.stackReady ∨
      current.connected ∨ current.advertising ∨ current.recoveryRequired ∨
      current.generation = 0xffffffff then
    return false
  advanceGeneration
  clearError
  publish { desired := .hidden, observed := .disabling }
  return true

def beginHiddenInitialization (expected : Generation) : Program Words Bool := do
  let current ← snapshot
  if current.generation ≠ expected ∨ current.recoveryRequired ∨ current.desired ≠ .hidden ∨
      current.observed ≠ .disabling then
    return false
  storeResetRecoveryUsed false
  publish { desired := .hidden, observed := .enabling }
  return true

/-! ### Completions and observations -/

def completeHiddenSync (expected : Generation) : Program Words Bool := do
  let current ← snapshot
  if current.generation ≠ expected ∨ current.recoveryRequired ∨ current.desired ≠ .hidden then
    return false
  if current.observed ≠ .enabling then
    if current.observed ≠ .idle then
      return false
    unless ← .read (·.resetRecoveryUsed) do
      return false
  publish { desired := .hidden, observed := .idle, stackReady := true }
  return true

def completeSync (expected : Generation) : Program Words Bool := do
  let current ← snapshot
  if expected ≠ current.generation ∨ current.desired ≠ .exposed ∨
      current.observed ≠ .enabling then
    return false
  publish { desired := current.desired, observed := current.observed, stackReady := true }
  return true

def completeAdvertising (expected : Generation) : Program Words Bool := do
  let current ← snapshot
  if expected ≠ current.generation ∨ current.desired ≠ .exposed ∨
      (current.observed ≠ .enabling ∧ current.observed ≠ .advertising) then
    return false
  publish { desired := current.desired, observed := .advertising, stackReady := true,
            advertising := true }
  return true

def observeConnect (expected : Generation) (handle : ConnectionHandle) : Program Words Bool := do
  let current ← snapshot
  if expected ≠ current.generation ∨ current.desired ≠ .exposed ∨
      current.observed ≠ .advertising then
    return false
  storeConnectionHandle handle
  publish { desired := current.desired, observed := .connected, stackReady := true,
            connected := true }
  return true

def observeDisconnect (expected : Generation) (handle : ConnectionHandle) (expectedLoss : Bool) :
    Program Words Bool := do
  let current ← snapshot
  if expected ≠ current.generation then
    return false
  if (← .read (·.connectionHandle)) ≠ handle then
    return false
  storeConnectionHandle noConnection
  if expectedLoss ∧ current.desired = .hidden ∧ current.observed = .disabling then
    return true
  if current.desired ≠ .exposed ∨ current.observed ≠ .connected then
    return false
  advanceGeneration
  publish { desired := current.desired, observed := .enabling, stackReady := true }
  return true

def completeDisable (expected : Generation) : Program Words Bool := do
  let current ← snapshot
  if expected ≠ current.generation ∨ current.desired ≠ .hidden ∨
      current.observed ≠ .disabling then
    return false
  storeConnectionHandle noConnection
  publish { desired := current.desired, observed := .idle, stackReady := current.stackReady }
  return true

def beginResetRecovery (expected : Generation) (reason : Int32) : Program Words Bool := do
  let current ← snapshot
  if expected ≠ current.generation ∨ current.recoveryRequired ∨ current.observed = .fault then
    return false
  advanceGeneration
  storeConnectionHandle noConnection
  setError .runtime reason
  let used ← .readModifyWrite fun words =>
    (words.resetRecoveryUsed, { words with resetRecoveryUsed := true })
  unless used do
    publish {
      desired := current.desired
      observed := if current.desired = .exposed then .enabling else .idle }
    return true
  publish { desired := current.desired, observed := .fault, recoveryRequired := true }
  return false

def publishFault (current : Snapshot) (operation : LifecycleOperation) (code : Int32) :
    Program Words Unit := do
  setError operation code
  storeConnectionHandle noConnection
  publish { desired := current.desired, observed := .fault, stackReady := current.stackReady,
            recoveryRequired := true }

/-- Whether the fault was published; the source keeps that to itself. -/
def completeFault (expected : Generation) (operation : LifecycleOperation) (code : Int32) :
    Program Words Bool := do
  let current ← snapshot
  if expected ≠ current.generation then
    return false
  publishFault current operation code
  return true

/-! ### Calls that are refused -/

section Refused

variable {words : Words} {expected : Generation}

theorem exec_completeFault_stale (stale : expected ≠ words.generation)
    (operation : LifecycleOperation) (code : Int32) :
    (completeFault expected operation code).exec words = (false, words) := by
  simp [completeFault, exec_snapshot_bind, Words.current, snapshotOf, stale]

theorem exec_completeSync_refused (settled : words.state.observed ≠ .enabling) :
    (completeSync expected).exec words = (false, words) := by
  simp [completeSync, exec_snapshot_bind, Words.current, snapshotOf, settled]

theorem exec_observeConnect_refused (busy : words.state.observed ≠ .advertising)
    (handle : ConnectionHandle) : (observeConnect expected handle).exec words = (false, words) := by
  simp [observeConnect, exec_snapshot_bind, Words.current, snapshotOf, busy]

theorem exec_observeDisconnect_other {handle : ConnectionHandle}
    (other : expected ≠ words.generation ∨ words.connectionHandle ≠ handle) (loss : Bool) :
    (observeDisconnect expected handle loss).exec words = (false, words) := by
  by_cases same : expected = words.generation
  · have elsewhere := other.resolve_left (not_not_intro same)
    simp [observeDisconnect, exec_snapshot_bind, Words.current, snapshotOf, same, elsewhere]
  · simp [observeDisconnect, exec_snapshot_bind, Words.current, snapshotOf, same]

theorem exec_observeDisconnect_connected (desired : words.state.desired = .exposed)
    (observed : words.state.observed = .connected) (loss : Bool) :
    ((observeDisconnect words.generation words.connectionHandle loss).exec words).1 = true := by
  simp [observeDisconnect, exec_snapshot_bind, Words.current, snapshotOf, desired, observed,
    storeConnectionHandle, advanceGeneration, publish]

theorem exec_observeDisconnect_disabling (desired : words.state.desired = .hidden)
    (observed : words.state.observed = .disabling) :
    (observeDisconnect words.generation words.connectionHandle true).exec words =
      (true, { words with connectionHandle := noConnection }) := by
  simp [observeDisconnect, exec_snapshot_bind, Words.current, snapshotOf, desired, observed,
    storeConnectionHandle]

theorem exec_beginEnable_connected (desired : words.state.desired = .exposed)
    (observed : words.state.observed = .connected) :
    ((beginEnable).exec words).1.actionResult ≠ .accepted ∧ ((beginEnable).exec words).2 = words := by
  cases recovery : words.state.recoveryRequired <;>
    simp [beginEnable, exec_snapshot_bind, Words.current, snapshotOf, Snapshot.inTransition,
      noOpOutcome, desired, observed, recovery]

/-- A disable over a connection is refused by a fault only. -/
theorem exec_beginDisable_connected (desired : words.state.desired = .exposed)
    (observed : words.state.observed = .connected) :
    (((beginDisable).exec words).1.actionResult ≠ .accepted ∧
        ((beginDisable).exec words).2 = words) ∨
      (((beginDisable).exec words).1.actionResult = .accepted ∧
        ((beginDisable).exec words).2.state.desired = .hidden ∧
        ((beginDisable).exec words).2.state.observed = .disabling ∧
        ((beginDisable).exec words).2.state.connected = words.state.connected) := by
  cases recovery : words.state.recoveryRequired
  · right
    simp [beginDisable, Words.current, snapshotOf, Snapshot.inTransition, desired, observed,
      recovery, acceptedOutcome, advanceGeneration, clearError, publish, Program.exec_bind,
      exec_snapshot]
  · left
    simp [beginDisable, exec_snapshot_bind, Words.current, snapshotOf, Snapshot.inTransition,
      desired, observed, recovery]

/-- A connect that is observed was awaited on this generation. -/
theorem exec_observeConnect_taken {handle : ConnectionHandle}
    (taken : ((observeConnect expected handle).exec words).1 = true) :
    expected = words.generation ∧ ((observeConnect expected handle).exec words).2 =
      { words with
        connectionHandle := handle
        state := { desired := .exposed, observed := .connected, stackReady := true,
                   connected := true } } := by
  by_cases awaited : expected = words.generation ∧ words.state.desired = .exposed ∧
      words.state.observed = .advertising
  · obtain ⟨rfl, desired, observed⟩ := awaited
    simp [observeConnect, exec_snapshot_bind, Words.current, snapshotOf, desired, observed,
      storeConnectionHandle, publish]
  · have refused : (observeConnect expected handle).exec words = (false, words) := by
      have refusal : expected ≠ words.generation ∨ words.state.desired ≠ .exposed ∨
          words.state.observed ≠ .advertising := by
        by_contra missing
        exact awaited (by simpa [not_or] using missing)
      simp [observeConnect, exec_snapshot_bind, Words.current, snapshotOf, refusal]
    rw [refused] at taken
    cases taken

end Refused

end HidBot.BleLifecycle
