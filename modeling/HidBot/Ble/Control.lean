import HidBot.Ble.Lifecycle
import HidBot.Control.Operation

/-!
# BLE control

The words through which the control task, the executor and the BLE callbacks
drive one BLE lifecycle: the operation claim, the action queue, the two
callback-side fail-closed marks and the boot-lifetime faults. The calls here are
those that several activities of the executor share.
-/

namespace HidBot.BleControl

open Interleaving BleLifecycle

abbrev StackIncarnation := UInt32

inductive BleEventKind where
  | sync
  | connect
  | disconnect
  | advertisingComplete
  | reset
  | timeout
  | passkeyAction
  | encryptionChange
  | pairingComplete
  | identityResolved
  | repeatPairing
  | pairingTimeout
  | storeFull
  | storageFailure
  | subscription
  | controlPoint
  | reportMapRead
  | serviceChangedSubscription
  deriving DecidableEq, Repr

abbrev AttributeHandle := UInt16

inductive BleHidInterface where
  | unknown
  | keyboard
  | mouse
  deriving DecidableEq, Repr

structure BleEvent where
  kind : BleEventKind := .sync
  generation : Generation := 0
  connectionHandle : ConnectionHandle := noConnection
  status : Int32 := 0
  attributeHandle : AttributeHandle := 0
  hidInterface : BleHidInterface := .unknown
  subscriptionReasonKnown : Bool := false
  notifyEnabled : Bool := false
  suspended : Bool := false
  stackIncarnation : StackIncarnation := 0
  deriving DecidableEq, Repr

structure BleHidHandles where
  keyboardValue : AttributeHandle := 0
  mouseValue : AttributeHandle := 0
  controlPointValue : AttributeHandle := 0
  deriving DecidableEq, Repr

/-- `BleHidPeerSnapshot`: the executor's own record of the connected peer. -/
structure HidPeer where
  generation : Generation := 0
  connectionHandle : ConnectionHandle := noConnection
  handles : BleHidHandles := {}
  active : Bool := false
  keyboardNotifyEnabled : Bool := false
  mouseNotifyEnabled : Bool := false
  suspended : Bool := false
  deriving DecidableEq, Repr

/-- The queued actions that concern BLE. A BLE event carries a note whether it
lost readiness for the authority that was current when it was signalled. -/
inductive Action where
  | bleEvent (event : BleEvent) (fences : Bool)
  | bleEnable
  | bleDisable
  | profileSelect (incarnation : StackIncarnation)
  deriving DecidableEq, Repr

/-- What a run remembers for the statements about it; no access of the code
depends on it. -/
structure Record where
  /-- The generation that the executor last published a fault for. -/
  failClosed : Option Generation := none
  /-- The generation that a store or handoff fault was committed for. -/
  strongerFault : Option Generation := none
  /-- The mark that the executor is about to clear as stale. -/
  sweeping : Option Generation := none
  deriving DecidableEq, Repr

structure State where
  lifecycle : Words := {}
  activeOperation : ControlOperation := .none
  queue : List Action := []
  stackIncarnation : StackIncarnation := 0
  /-- The generation that the backend stamps on its events. -/
  backendGeneration : Generation := 0
  overflowAuthority : Generation := 0
  overflowAuthorityZero : Bool := false
  routeLossAuthority : Generation := 0
  routeLossAuthorityZero : Bool := false
  persistentStoreFailureObserved : Bool := false
  persistentStoreFailureCommitted : Bool := false
  handoffFailure : Bool := false
  handoffFailureCommitted : Bool := false
  peer : HidPeer := {}
  pairingTerminalCommitted : Bool := false
  /-- The generation of the disable that the watchdog is armed for. -/
  disableWatch : Option Generation := none
  profileDeadline : Bool := false
  profileStop : Bool := false
  record : Record := {}
  deriving DecidableEq, Repr

/-- Run a lifecycle operation on the lifecycle words. -/
def onBle {α : Type} (call : Program Words α) : Program State α :=
  call.zoom (·.lifecycle) fun lifecycle state => { state with lifecycle }

section OnBle

variable {α β : Type}

@[simp] theorem onBle_done (result : α) : onBle (.done result) = .done result := rfl

@[simp] theorem onBle_read (view : Words → α) :
    onBle (.read view) = .read fun state => view state.lifecycle := rfl

@[simp] theorem onBle_write (update : Words → Words) :
    onBle (.write update) =
      .write fun state => { state with lifecycle := update state.lifecycle } := rfl

@[simp] theorem onBle_readModifyWrite (change : Words → α × Words) :
    onBle (.readModifyWrite change) = .readModifyWrite fun state =>
      ((change state.lifecycle).1, { state with lifecycle := (change state.lifecycle).2 }) := rfl

@[simp] theorem onBle_bind (call : Program Words α) (rest : α → Program Words β) :
    onBle (call >>= rest) = onBle call >>= fun result => onBle (rest result) :=
  Program.zoom_bind ..

@[simp] theorem onBle_ite (condition : Prop) {_ : Decidable condition}
    (first second : Program Words α) :
    onBle (if condition then first else second) =
      if condition then onBle first else onBle second := by
  split <;> rfl

/-- A lifecycle call run alone touches the lifecycle words only. -/
theorem exec_onBle (call : Program Words α) (state : State) :
    (onBle call).exec state =
      ((call.exec state.lifecycle).1, { state with lifecycle := (call.exec state.lifecycle).2 }) := by
  have general (call : Program Words α) (words : Words) (state : State) :
      (onBle call).exec { state with lifecycle := words } =
        ((call.exec words).1, { state with lifecycle := (call.exec words).2 }) := by
    induction call generalizing words state with
    | done result => rfl
    | access update next ih => exact ih words (update words) state
  exact general call state.lifecycle state

theorem exec_onBle_snapshot_bind (rest : Snapshot → Program State α) (state : State) :
    (onBle snapshot >>= rest).exec state = (rest state.lifecycle.current).exec state := rfl

end OnBle

def releaseOperation (operation : ControlOperation) : Program State Unit :=
  .write fun state =>
    { state with activeOperation := operation.release state.activeOperation }

/-! ### Current authority -/

/-- The part of `event_targets_current_ble_authority` after its loads. -/
def targets (event : BleEvent) (current : Snapshot) (connection : ConnectionHandle) : Bool :=
  match event.kind with
  | .connect =>
      !current.connected && current.desired == .exposed && current.observed == .advertising &&
        event.connectionHandle != noConnection
  | .disconnect | .passkeyAction | .encryptionChange | .pairingComplete | .identityResolved
  | .repeatPairing | .pairingTimeout | .storeFull | .subscription | .controlPoint
  | .reportMapRead | .serviceChangedSubscription =>
      current.connected && event.connectionHandle == connection
  | .sync | .advertisingComplete | .reset | .timeout | .storageFailure => true

def eventTargetsCurrentBleAuthority (event : BleEvent) : Program State Bool := do
  if event.stackIncarnation ≠ (← .read (·.stackIncarnation)) then
    return false
  let generation ← onBle generation
  if event.generation ≠ generation then
    return false
  let current ← onBle snapshot
  let connection ← .read (·.lifecycle.connectionHandle)
  if current.generation ≠ generation then
    return false
  if (← onBle BleLifecycle.generation) ≠ generation then
    return false
  return targets event current connection

def eventImmediatelyLosesBleHidReadiness (event : BleEvent) : Bool :=
  match event.kind with
  | .disconnect | .reset | .timeout | .pairingTimeout | .repeatPairing | .passkeyAction
  | .encryptionChange | .pairingComplete | .identityResolved | .storeFull | .storageFailure => true
  | .subscription => !event.notifyEnabled
  | .controlPoint => event.suspended
  | .reportMapRead | .serviceChangedSubscription | .sync | .connect | .advertisingComplete => false

/-! ### Faults -/

def clearBleHidPeer : Program State Unit :=
  .write fun state => { state with peer := {} }

def dropProfileSelection : Program State Unit :=
  .write fun state => { state with profileStop := false, profileDeadline := false }

/-- `complete_fault`; the record is written with the fault it is about. -/
def recordFault (expected : Generation) (operation : LifecycleOperation) (code : Int32) :
    Program State Unit := do
  if ← onBle (completeFault expected operation code) then
    .write fun state =>
      { state with record := { state.record with failClosed := some expected } }

def failBle (expected : Generation) (operation : LifecycleOperation) (code : Int32)
    (owner : ControlOperation) : Program State Unit := do
  let generation ← onBle generation
  .onlyIf (expected = generation ∧ owner = .profileSelection) dropProfileSelection
  recordFault expected operation code
  .onlyIf (expected = generation) clearBleHidPeer
  releaseOperation owner

/-- The BLE claim that a fault handler may release: the one whose transition the
snapshot shows. -/
def transitionOwner (current : Snapshot) (active : ControlOperation) : ControlOperation :=
  if current.observed = .enabling ∧ active = .bleEnable then .bleEnable
  else if current.observed = .disabling ∧ active = .bleDisable then .bleDisable
  else .none

end HidBot.BleControl
