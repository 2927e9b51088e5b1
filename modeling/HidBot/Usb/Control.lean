import HidBot.Control.Operation
import HidBot.Usb.Lifecycle

/-!
# USB control tasks

The part of `hid_control_executor::Controller` that drives the USB lifecycle:
the operation claim, the action queue, the executor's processing of USB actions
and its reconciliation of a runtime fault. Four kinds of task share it: the
control task, the executor, the TinyUSB callbacks and the fault reporters, which
may be interrupts.
-/

namespace HidBot.UsbControl

open Interleaving UsbLifecycle

inductive UsbRuntimeFaultReason where
  | none
  | diagnostic
  | eventQueueOverflow
  deriving DecidableEq, Repr

inductive BackendResultKind where
  | success
  | cleanInstallFailure
  | ambiguousInstallFailure
  | uninstallFailure
  deriving DecidableEq, Repr

structure BackendResult where
  kind : BackendResultKind
  errorCode : Int32 := 0
  deriving DecidableEq, Repr

/-- A queued `kUsbInstall` or `kUsbDetach` action with its lifecycle payload. -/
structure LifecycleAction where
  kind : ExecutorAction
  lifecycle : Snapshot
  operation : ControlOperation
  deriving DecidableEq, Repr

/-- How far the accepted fault report has come. This records the history of the
run; no access of the code reads it. -/
inductive FaultStage where
  | none
  | accepted (reporter : Nat)
  | signalled
  deriving DecidableEq, Repr

structure State where
  usb : Words := {}
  activeOperation : ControlOperation := .none
  queue : List LifecycleAction := []
  /-- The executor's own copy of the action it is processing. -/
  current : Option LifecycleAction := Option.none
  faultReason : UsbRuntimeFaultReason := .none
  faultCommitted : Bool := false
  wakePending : Bool := false
  faultStage : FaultStage := .none
  /-- `complete_runtime_fault` was called after the fault was accepted. -/
  faultCompleted : Bool := false
  deriving DecidableEq, Repr

/-- Run a lifecycle operation on the lifecycle words. -/
def onUsb {α : Type} (call : Program Words α) : Program State α :=
  call.zoom (·.usb) fun usb state => { state with usb }

section OnUsb

variable {α β : Type}

@[simp] theorem onUsb_done (result : α) : onUsb (.done result) = .done result := rfl

@[simp] theorem onUsb_read (view : Words → α) :
    onUsb (.read view) = .read fun state => view state.usb := rfl

@[simp] theorem onUsb_write (update : Words → Words) :
    onUsb (.write update) = .write fun state => { state with usb := update state.usb } := rfl

@[simp] theorem onUsb_readModifyWrite (change : Words → α × Words) :
    onUsb (.readModifyWrite change) = .readModifyWrite fun state =>
      ((change state.usb).1, { state with usb := (change state.usb).2 }) := rfl

@[simp] theorem onUsb_bind (call : Program Words α) (rest : α → Program Words β) :
    onUsb (call >>= rest) = onUsb call >>= fun result => onUsb (rest result) :=
  Program.zoom_bind ..

@[simp] theorem onUsb_ite (condition : Prop) [Decidable condition]
    (first second : Program Words α) :
    onUsb (if condition then first else second) =
      if condition then onUsb first else onUsb second := by
  split <;> rfl

end OnUsb

def operationFor : ExecutorAction → ControlOperation
  | .install => .usbAttach
  | .uninstall => .usbDetach

def claimOperation (operation : ControlOperation) : Program State Bool :=
  .readModifyWrite fun state =>
    if state.activeOperation = .none then
      (true, { state with activeOperation := operation })
    else (false, state)

def releaseOperation (operation : ControlOperation) : Program State Unit :=
  .write fun state =>
    if state.activeOperation = operation then { state with activeOperation := .none } else state

/-- `release_operation` at the end of an action; the executor drops its copy of
the action with it. -/
def finishAction (operation : ControlOperation) : Program State Unit :=
  .write fun state =>
    { (if state.activeOperation = operation then { state with activeOperation := .none }
        else state) with current := Option.none }

def requestExecutorWake : Program State Unit :=
  .write fun state => { state with wakePending := true }

/-- The queue also holds the actions of other domains, so whether it has room is
an input. -/
def enqueue (room : Bool) (item : LifecycleAction) : Program State Bool := do
  if room then
    .write fun state => { state with queue := state.queue ++ [item] }
    requestExecutorWake
    return true
  return false

def schedule (room : Bool) (action : ExecutorAction) (accepted : Snapshot) :
    Program State Bool := do
  let operation := operationFor action
  if (← .read (·.activeOperation)) ≠ operation then
    return false
  enqueue room { kind := action, lifecycle := accepted, operation }

def requestAttach (room : Bool) : Program State TransitionOutcome := do
  if ← claimOperation .usbAttach then
    let outcome ← UsbLifecycle.requestAttach (·.usb) (fun usb state => { state with usb })
      (schedule room)
    if outcome.actionResult ≠ .accepted then
      releaseOperation .usbAttach
    return outcome
  return {}

def requestDetach (room : Bool) : Program State TransitionOutcome := do
  if ← claimOperation .usbDetach then
    let outcome ← UsbLifecycle.requestDetach (·.usb) (fun usb state => { state with usb })
      (schedule room)
    if outcome.actionResult ≠ .accepted then
      releaseOperation .usbDetach
    return outcome
  return {}

/-- How the bounded all-up work of a detach ends; the report runtime decides. -/
inductive SafetyOutcome where
  | clean
  | resolved
  | timedOut
  deriving DecidableEq, Repr

def runLifecycleDetachSafety (outcome : SafetyOutcome) : Program Words Unit := do
  let oldGeneration ← generation
  let lifecycle ← snapshot
  if lifecycle.desired ≠ .hidden ∨ lifecycle.observed ≠ .detaching then
    markReleaseUncertainForGeneration oldGeneration
  else
    match outcome with
    | .clean => markReleaseConfirmed
    | .resolved => markReleasePending
    | .timedOut => do
        markReleasePending
        markReleaseUncertainForGeneration oldGeneration

def faultCode : UsbRuntimeFaultReason → Int32
  | .eventQueueOverflow => tinyUsbEventQueueOverflowError
  | _ => tinyUsbRuntimeDiagnosticError

/-- The one-time shutdown: `usb_runtime_fault_committed_` and the claim are
overwritten first, and the driver is removed whatever the lifecycle says. -/
def commitRuntimeFault (safety : SafetyOutcome) (teardown : BackendResult) :
    Program State Unit := do
  .write fun state => { state with faultCommitted := true }
  .write fun state => { state with activeOperation := .none }
  onUsb (runLifecycleDetachSafety safety)
  let _ ← onUsb beginUninstall
  let accepted ← .read (·.faultStage)
  onUsb (completeRuntimeFault (teardown.kind = .success))
  if accepted ≠ .none then
    .write fun state => { state with faultCompleted := true }

def reconcileUsbRuntimeFault (safety : SafetyOutcome) (teardown : BackendResult) :
    Program State Unit := do
  let reason ← .read (·.faultReason)
  if reason ≠ .none then
    onUsb (updateRuntimeFault (faultCode reason))
    unless ← .read (·.faultCommitted) do
      commitRuntimeFault safety teardown

/-- The arguments of one executor step: what the backend and the report runtime
answer when they are asked. -/
structure Environment where
  safety : SafetyOutcome := .clean
  teardown : BackendResult := ⟨.success, 0⟩
  install : BackendResult := ⟨.success, 0⟩
  uninstall : BackendResult := ⟨.success, 0⟩
  deriving DecidableEq, Repr

def completeInstall (result : BackendResult) : Program Words Unit :=
  match result.kind with
  | .success => completeInstallSuccess
  | .cleanInstallFailure => completeInstallCleanFailure result.errorCode
  | .ambiguousInstallFailure => completeInstallAmbiguousFailure result.errorCode
  | .uninstallFailure => completeInstallAmbiguousFailure result.errorCode

def completeUninstall (result : BackendResult) : Program Words Unit :=
  if result.kind = .success then completeUninstallSuccess
  else completeUninstallFailure result.errorCode

/-- The lifecycle state that an action of this kind was scheduled in. -/
def expectedLifecycleState (kind : ExecutorAction) (current : Snapshot) : Bool :=
  match kind with
  | .install => current.desired = .exposed ∧ current.observed = .attaching
  | .uninstall => current.desired = .hidden ∧ current.observed = .detaching

/-- The work of an action that passed its checks. -/
def performAction (environment : Environment) (kind : ExecutorAction) : Program Words Unit :=
  match kind with
  | .install => completeInstall environment.install
  | .uninstall => do
      runLifecycleDetachSafety environment.safety
      let _ ← beginUninstall
      completeUninstall environment.uninstall

/-- `Controller::process` for a USB action. -/
def process (environment : Environment) (action : LifecycleAction) : Program State Unit := do
  reconcileUsbRuntimeFault environment.safety environment.teardown
  let current ← onUsb snapshot
  let active ← .read (·.activeOperation)
  if active = action.operation ∧ expectedLifecycleState action.kind current ∧
      current.desired = action.lifecycle.desired ∧
      current.observed = action.lifecycle.observed ∧
      current.generation = action.lifecycle.generation then
    onUsb (performAction environment action.kind)
  finishAction action.operation

/-- One iteration of the queue drain in `task_loop`. -/
def processNext (environment : Environment) : Program State Unit := do
  let received ← .readModifyWrite fun state =>
    match state.queue with
    | [] => (Option.none, state)
    | action :: queue => (some action, { state with queue, current := some action })
  match received with
  | Option.none => return ()
  | some action => process environment action

/-- The head of `task_loop`: take the wake notification, then reconcile. -/
def cycleHead (environment : Environment) : Program State Unit := do
  .write fun state => { state with wakePending := false }
  reconcileUsbRuntimeFault environment.safety environment.teardown

/-- An overflow replaces any reason; a diagnostic only fills an empty one. -/
def publishFaultReason (reason : UsbRuntimeFaultReason) (state : State) : State :=
  match reason with
  | .eventQueueOverflow => { state with faultReason := .eventQueueOverflow }
  | _ => if state.faultReason = .none then { state with faultReason := .diagnostic } else state

/-- `signal_usb_runtime_fault`, returning whether this report began the fault. -/
def signalUsbRuntimeFault (reporter : Nat) (reason : UsbRuntimeFaultReason) :
    Program State Bool := do
  .write (publishFaultReason reason)
  let retained ← .read (·.faultReason)
  let began ← onUsb (beginRuntimeFault (faultCode retained))
  if began then
    .write fun state => { state with faultStage := .accepted reporter }
    .write fun state => { state with wakePending := true, faultStage := .signalled }
    return true
  onUsb (updateRuntimeFault (faultCode retained))
  requestExecutorWake
  return false

/-! ### Tasks and calls -/

inductive Task where
  | control
  | executor
  | callback
  | reporter (id : Nat)
  deriving DecidableEq, Repr

inductive Operation where
  | requestAttach (room : Bool)
  | requestDetach (room : Bool)
  | cycleHead (environment : Environment)
  | processNext (environment : Environment)
  | observeMount
  | observeUnmount
  | observeSuspend
  | observeResume
  | signalFault (reason : UsbRuntimeFaultReason)
  deriving DecidableEq, Repr

inductive Response where
  | outcome (result : TransitionOutcome)
  | flag (result : Bool)
  | unit
  deriving DecidableEq, Repr

/-- The task that makes a call of each kind. -/
def Operation.By : Operation → Task → Prop
  | .requestAttach _, task | .requestDetach _, task => task = .control
  | .cycleHead _, task | .processNext _, task => task = .executor
  | .observeMount, task | .observeUnmount, task
  | .observeSuspend, task | .observeResume, task => task = .callback
  | .signalFault _, task => ∃ id, task = .reporter id

def Task.id : Task → Nat
  | .reporter id => id
  | _ => 0

def program (task : Task) : Operation → Program State Response
  | .requestAttach room => do return .outcome (← requestAttach room)
  | .requestDetach room => do return .outcome (← requestDetach room)
  | .cycleHead environment => do cycleHead environment; return .unit
  | .processNext environment => do processNext environment; return .unit
  | .observeMount => do return .flag (← onUsb observeMount)
  | .observeUnmount => do return .flag (← onUsb observeUnmount)
  | .observeSuspend => do return .flag (← onUsb observeSuspend)
  | .observeResume => do return .flag (← onUsb observeResume)
  | .signalFault reason => do return .flag (← signalUsbRuntimeFault task.id reason)

abbrev Tasks := Config Task State Operation Response

/-- Cold boot: hidden, no driver, no fault. -/
def boot : Tasks := Config.initial {}

end HidBot.UsbControl
