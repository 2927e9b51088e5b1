import HidBot.Ble.Overflow

/-!
# The executor's BLE work

What `hid_control_executor` does with a queued BLE event or command, with the
boot-lifetime faults and with the disable watchdog. The answers of the BLE
backend, of the clock and of the pairing, security and schema components are
inputs. The route side of these calls belongs to the report runtime.
-/

namespace HidBot.BleControl

open Interleaving BleLifecycle

/-- What the security and schema components ask of the connection. -/
inductive SecurityVerdict where
  | none
  | terminate (fatal : Bool)
  | storageFailure
  deriving DecidableEq, Repr

/-- The answers that one executor step gets. -/
structure Environment where
  advertising : Int32 := 0
  initialized : Int32 := 0
  configureProfile : Bool := true
  hiddenSyncRefused : Bool := false
  security : SecurityVerdict := .none
  disconnect : Int32 := 0
  alreadyDisconnected : Bool := false
  beginHiddenExposure : Int32 := 0
  physicalExposureHidden : Bool := false
  disableExpired : Bool := false
  profileQuiescent : Bool := true
  beginStop : Bool := true
  stopped : Bool := false
  stopFailed : Bool := false
  profileExpired : Bool := false
  handles : BleHidHandles := {}
  handlesValid : Bool := true
  deriving DecidableEq, Repr

def setPeer (update : HidPeer → HidPeer) : Program State Unit :=
  .write fun state => { state with peer := update state.peer }

/-- `ble_backend_->set_generation`. -/
def setGeneration (generation : Generation) : Program State Unit :=
  .write fun state => { state with backendGeneration := generation }

def storePairingTerminal (committed : Bool) : Program State Unit :=
  .write fun state => { state with pairingTerminalCommitted := committed }

def storeDisableWatch (watch : Option Generation) : Program State Unit :=
  .write fun state => { state with disableWatch := watch }

def storeProfileDeadline (armed : Bool) : Program State Unit :=
  .write fun state => { state with profileDeadline := armed }

def storeProfileStop (started : Bool) : Program State Unit :=
  .write fun state => { state with profileStop := started }

/-! ### Boot-lifetime faults -/

/-- The claim that a store failure releases. -/
def storeFailureOwner (active : ControlOperation) : ControlOperation :=
  if active = .bleEnable ∨ active = .bleDisable then active else .none

def commitPersistentStoreFailure : Program State Unit := do
  unless ← .read (·.persistentStoreFailureCommitted) do
    .write fun state => { state with persistentStoreFailureCommitted := true }
    let current ← onBle snapshot
    let active ← .read (·.activeOperation)
    failBle current.generation .runtime (-3) (storeFailureOwner active)

/-- One turn of the loop of `fail_current_ble_queue_overflow`: whether the fault
is in place for the generation the turn has read. -/
def failCurrentTurn : Program State Bool := do
  let current ← onBle snapshot
  if current.generation ≠ (← onBle generation) then
    return false
  let active ← .read (·.activeOperation)
  failBle current.generation .runtime (-2) (transitionOwner current active)
  let terminal ← onBle snapshot
  return terminal.generation = current.generation && terminal.observed == .fault &&
    terminal.recoveryRequired

/-- The loop, if it ends within `turns` turns. -/
def failCurrentBleQueueOverflow : Nat → Program State Bool
  | 0 => return false
  | turns + 1 => do
      if ← failCurrentTurn then
        return true
      failCurrentBleQueueOverflow turns

/-- Whether the handoff has failed. The commit is not reached while the loop of
the fault goes on. -/
def reconcileBleLifecycleHandoffFailure (turns : Nat) : Program State Bool := do
  if ← .read (·.handoffFailure) then
    unless ← .read (·.handoffFailureCommitted) do
      if ← .read (·.persistentStoreFailureCommitted) then
        .write fun state => { state with handoffFailureCommitted := true }
      else if ← failCurrentBleQueueOverflow turns then
        .write fun state => { state with handoffFailureCommitted := true }
    return true
  return false

/-- `reconcile_ble_fallbacks`: whether a queued BLE event is to be dropped. -/
def reconcileBleFallbacks (turns : Nat) : Program State Bool := do
  let observed ← .read (·.persistentStoreFailureObserved)
  .onlyIf (observed = true) commitPersistentStoreFailure
  let failed ← reconcileBleLifecycleHandoffFailure turns
  let overflowed ← consumeBleOverflow turns
  return failed || overflowed == some true

/-! ### Disable and profile watchdogs -/

def driveBleDisable (environment : Environment) : Program State Unit := do
  if (← .read (·.activeOperation)) ≠ .bleDisable then
    storeDisableWatch none
  else
    match ← .read (·.disableWatch) with
    | none => return ()
    | some watched => do
        let current ← onBle snapshot
        if current.generation ≠ watched ∨ current.recoveryRequired ∨ current.desired ≠ .hidden ∨
            current.observed ≠ .disabling ∨ environment.disableExpired then
          storeDisableWatch none
          failBle current.generation .disable (-4) .bleDisable
        else if environment.physicalExposureHidden then
          if ← onBle (completeDisable watched) then
            storeDisableWatch none
            releaseOperation .bleDisable

def driveProfileSelection (environment : Environment) : Program State Unit := do
  if (← .read (·.activeOperation)) = .profileSelection then
    if ← .read (·.profileDeadline) then
      let current ← onBle snapshot
      if current.recoveryRequired ∨ environment.profileExpired then
        failBle current.generation .runtime (-4) .profileSelection
      else if ← .read (·.profileStop) then
        if environment.stopFailed then
          failBle current.generation .runtime (-5) .profileSelection
        else if environment.stopped then
          storeProfileStop false
          if (← onBle (beginHiddenInitialization current.generation)) = false ∨
              environment.configureProfile = false then
            failBle current.generation .runtime (-6) .profileSelection
          else
            storeProfileDeadline true
            setGeneration current.generation
            .onlyIf (environment.initialized ≠ 0)
              (failBle current.generation .runtime environment.initialized .profileSelection)

/-! ### Events -/

/-- `reconcile_ble_disconnect`. -/
def reconcileBleDisconnect (environment : Environment) (event : BleEvent) (expected : Bool) :
    Program State Unit := do
  if ← onBle (observeDisconnect event.generation event.connectionHandle expected) then
    storePairingTerminal false
    clearBleHidPeer
    if expected then
      driveBleDisable environment
    else
      unless ← .read (·.persistentStoreFailureObserved) do
        let generation ← onBle generation
        setGeneration generation
        if environment.advertising = 0 then
          let _ ← onBle (completeAdvertising generation)
        else
          failBle generation .runtime environment.advertising .none

/-- `reconcile_security_disconnect_absent`. -/
def reconcileSecurityDisconnectAbsent (environment : Environment) (expected : Generation)
    (handle : ConnectionHandle) : Program State Unit := do
  let current ← onBle snapshot
  let generation ← onBle generation
  let connection ← .read (·.lifecycle.connectionHandle)
  .onlyIf (current.generation = expected ∧ expected = generation ∧ current.connected ∧
      current.desired = .exposed ∧ current.observed = .connected ∧ handle = connection)
    (reconcileBleDisconnect environment
      { kind := .disconnect, generation := expected, connectionHandle := handle } false)

/-- `terminate_security_connection`. -/
def terminateSecurityConnection (environment : Environment) (fatal : Bool) :
    Program State Unit := do
  let current ← onBle snapshot
  if current.connected then
    unless ← .read (·.pairingTerminalCommitted) do
      storePairingTerminal true
      let handle ← .read (·.lifecycle.connectionHandle)
      if fatal then
        failBle current.generation .runtime (-3) .none
      else if environment.alreadyDisconnected then
        reconcileSecurityDisconnectAbsent environment current.generation handle
      else
        .onlyIf (environment.disconnect ≠ 0)
          (failBle current.generation .runtime environment.disconnect .none)

def applyVerdict (environment : Environment) : Program State Unit :=
  match environment.security with
  | .none => return ()
  | .terminate fatal => terminateSecurityConnection environment fatal
  | .storageFailure => commitPersistentStoreFailure

/-- The guard of the security events: the exact current connection. -/
def eventIsCurrent (event : BleEvent) : Program State Bool := do
  if event.generation = (← onBle generation) then
    return event.connectionHandle = (← .read (·.lifecycle.connectionHandle))
  return false

/-- The guard of the GATT events: the exact peer. -/
def peerIsCurrent (event : BleEvent) : Program State Bool :=
  .read fun state => state.peer.active && event.generation == state.peer.generation &&
    event.connectionHandle == state.peer.connectionHandle

/-- `complete_hidden_sync`, unless the conditions before it refuse the sync. -/
def syncHidden (refused : Bool) (expected : Generation) : Program State Bool :=
  if refused then return false else onBle (completeHiddenSync expected)

def processSync (environment : Environment) (event : BleEvent) : Program State Unit := do
  let current ← onBle snapshot
  let owner ← .read (·.activeOperation)
  if current.desired = .hidden then
    if event.generation = current.generation ∧ ¬current.recoveryRequired ∧ ¬current.stackReady ∧
        (current.observed = .enabling ∨ current.observed = .idle) then
      let observed ← .read (·.persistentStoreFailureObserved)
      if ← syncHidden (observed || environment.hiddenSyncRefused) event.generation then
        storeProfileDeadline false
        .onlyIf (owner = .profileSelection) (releaseOperation owner)
      else
        failBle event.generation .runtime (-10) owner
  else if ← onBle (completeSync event.generation) then
    unless ← .read (·.persistentStoreFailureObserved) do
      if environment.advertising = 0 then
        let _ ← onBle (completeAdvertising event.generation)
        let owner ← .read (·.activeOperation)
        .onlyIf (owner = .bleEnable) (releaseOperation owner)
      else
        failBle event.generation .enable environment.advertising .bleEnable

def processReset (event : BleEvent) : Program State Unit := do
  let before ← onBle snapshot
  if event.generation = before.generation ∧ ¬before.recoveryRequired ∧ before.observed ≠ .fault then
    clearBleHidPeer
    storePairingTerminal false
    if ← onBle (beginResetRecovery event.generation event.status) then
      let generation ← onBle generation
      setGeneration generation
    else
      let generation ← onBle generation
      let active ← .read (·.activeOperation)
      failBle generation .runtime event.status active

/-- The part of a subscription that concerns readiness. -/
def subscribe (event : BleEvent) (peer : HidPeer) : HidPeer :=
  if event.hidInterface = .keyboard ∧ event.attributeHandle = peer.handles.keyboardValue then
    { peer with keyboardNotifyEnabled := event.notifyEnabled }
  else if event.hidInterface = .mouse ∧ event.attributeHandle = peer.handles.mouseValue then
    { peer with mouseNotifyEnabled := event.notifyEnabled }
  else peer

def beginBleHidPeer (environment : Environment) (generation : Generation)
    (connectionHandle : ConnectionHandle) : Program State Unit :=
  .onlyIf (connectionHandle ≠ noConnection ∧ environment.handlesValid)
    (setPeer fun _ =>
      { generation, connectionHandle, handles := environment.handles, active := true })

def processBleEvent (environment : Environment) (event : BleEvent) : Program State Unit := do
  match event.kind with
  | .sync => processSync environment event
  | .connect =>
      if ← onBle (observeConnect event.generation event.connectionHandle) then
        beginBleHidPeer environment event.generation event.connectionHandle
        storePairingTerminal false
        applyVerdict environment
  | .disconnect =>
      let active ← .read (·.activeOperation)
      reconcileBleDisconnect environment event (active = .bleDisable)
  | .advertisingComplete =>
      if event.generation = (← onBle generation) then
        if (← onBle snapshot).desired = .exposed then
          unless (← onBle snapshot).connected do
            let observed ← .read (·.persistentStoreFailureObserved)
            .onlyIf (¬observed ∧ environment.advertising ≠ 0)
              (failBle event.generation .runtime environment.advertising .none)
  | .reset => processReset event
  | .timeout =>
      let active ← .read (·.activeOperation)
      failBle event.generation .runtime event.status active
  | .passkeyAction | .pairingTimeout => applyVerdict environment
  | .encryptionChange =>
      if ← eventIsCurrent event then
        if event.status ≠ 0 then
          terminateSecurityConnection environment false
        else
          applyVerdict environment
  | .pairingComplete =>
      if ← eventIsCurrent event then
        .onlyIf (event.status ≠ 0) (terminateSecurityConnection environment false)
  | .identityResolved =>
      if ← eventIsCurrent event then
        applyVerdict environment
  | .repeatPairing | .storeFull =>
      if ← eventIsCurrent event then
        terminateSecurityConnection environment false
  | .storageFailure => commitPersistentStoreFailure
  | .subscription =>
      if ← peerIsCurrent event then
        if event.subscriptionReasonKnown ∧ event.attributeHandle ≠ 0 then
          setPeer (subscribe event)
          applyVerdict environment
  | .controlPoint =>
      if ← peerIsCurrent event then
        setPeer fun peer =>
          if event.attributeHandle = peer.handles.controlPointValue then
            { peer with suspended := event.suspended }
          else peer
  | .reportMapRead | .serviceChangedSubscription =>
      if ← peerIsCurrent event then
        applyVerdict environment

/-! ### The route-loss mark -/

def storeRouteLossAuthority (authority : Generation) (state : State) : State :=
  { state with routeLossAuthority := authority }

def markBleRouteLoss (event : BleEvent) (turns : List Bool) : Program State Unit := do
  if eventImmediatelyLosesBleHidReadiness event then
    if ← eventTargetsCurrentBleAuthority event then
      if event.generation = 0 then
        .write fun state => { state with routeLossAuthorityZero := true }
      else
        let observed ← .read (·.routeLossAuthority)
        markTurns (·.routeLossAuthority) storeRouteLossAuthority event turns observed

def bleRouteLossPending (generation : Generation) : Program State Bool := do
  if generation = 0 then
    .read (·.routeLossAuthorityZero)
  else
    return (← .read (·.routeLossAuthority)) = generation

def clearBleRouteLoss (generation : Generation) : Program State Unit :=
  if generation = 0 then
    .write fun state => { state with routeLossAuthorityZero := false }
  else
    .write fun state =>
      if state.routeLossAuthority = generation then { state with routeLossAuthority := 0 }
      else state

/-! ### The queue -/

/-- The queue is shared with other domains, so whether it has room is an input. -/
def enqueue (room : Bool) (action : Action) : Program State Bool := do
  if room then
    .write fun state => { state with queue := state.queue ++ [action] }
    return true
  return false

def losesCurrentRoute (event : BleEvent) : Program State Bool :=
  if eventImmediatelyLosesBleHidReadiness event then eventTargetsCurrentBleAuthority event
  else return false

/-- `signal_ble_event`, called by the BLE host. -/
def signalBleEvent (room : Bool) (turns : List Bool) (event : BleEvent) :
    Program State Bool := do
  if event.stackIncarnation ≠ (← .read (·.stackIncarnation)) then
    return true
  let fences ← losesCurrentRoute event
  markBleRouteLoss event turns
  if ← enqueue room (.bleEvent event fences) then
    return true
  markBleEventOverflow event turns
  return false

/-- The executor takes the head of the queue. -/
def dequeue : Program State (Option Action) :=
  .readModifyWrite fun state =>
    match state.queue with
    | [] => (none, state)
    | action :: queue => (some action, { state with queue })

/-- The event branch of `Controller::process` up to its last access, which clears
the route-loss mark of the generation returned. -/
def processQueuedEvent (environment : Environment) (event : BleEvent) :
    Program State (Option Generation) := do
  if event.stackIncarnation = (← .read (·.stackIncarnation)) then
    processBleEvent environment event
    return if eventImmediatelyLosesBleHidReadiness event then some event.generation else none
  return none

def processEnable (environment : Environment) : Program State Unit := do
  let current ← onBle snapshot
  let active ← .read (·.activeOperation)
  if active ≠ .bleEnable ∨ current.desired ≠ .exposed ∨ current.observed ≠ .enabling then
    releaseOperation .bleEnable
  else
    setGeneration current.generation
    if ¬current.stackReady then
      if environment.configureProfile = false then
        failBle current.generation .enable (-6) .bleEnable
      else
        .onlyIf (environment.initialized ≠ 0)
          (failBle current.generation .enable environment.initialized .bleEnable)
    else
      unless ← .read (·.persistentStoreFailureObserved) do
        if environment.advertising = 0 then
          let _ ← onBle (completeAdvertising current.generation)
          releaseOperation .bleEnable
        else
          failBle current.generation .enable environment.advertising .bleEnable

def processDisable (environment : Environment) : Program State Unit := do
  let current ← onBle snapshot
  let active ← .read (·.activeOperation)
  if active ≠ .bleDisable ∨ current.desired ≠ .hidden ∨ current.observed ≠ .disabling then
    releaseOperation .bleDisable
  else
    clearBleHidPeer
    setGeneration current.generation
    storeDisableWatch (some current.generation)
    if environment.beginHiddenExposure ≠ 0 then
      storeDisableWatch none
      failBle current.generation .disable environment.beginHiddenExposure .bleDisable
    else
      driveBleDisable environment

def processProfileSelect (environment : Environment) (incarnation : StackIncarnation) :
    Program State Unit := do
  if (← .read (·.activeOperation)) = .profileSelection then
    if incarnation = (← .read (·.stackIncarnation)) then
      clearBleHidPeer
      let current ← onBle snapshot
      if current.recoveryRequired ∨ environment.profileQuiescent = false then
        failBle current.generation .runtime (-7) .profileSelection
      else if current.observed = .uninitialized then
        releaseOperation .profileSelection
      else if current.observed ≠ .disabling ∨ current.desired ≠ .hidden then
        failBle current.generation .runtime (-8) .profileSelection
      else
        storeProfileDeadline true
        storeProfileStop environment.beginStop
        .onlyIf (environment.beginStop = false)
          (failBle current.generation .runtime (-9) .profileSelection)

/-- `Controller::process` for a BLE action after the faults, which may drop an event. -/
def act (environment : Environment) (suppressed : Bool) : Action → Program State (Option Generation)
  | .bleEvent event _ =>
      if suppressed then return none else processQueuedEvent environment event
  | .bleEnable => processEnable environment >>= fun _ => return none
  | .bleDisable => processDisable environment >>= fun _ => return none
  | .profileSelect incarnation =>
      processProfileSelect environment incarnation >>= fun _ => return none

def process (turns : Nat) (environment : Environment) (action : Action) :
    Program State (Option Generation) := do
  act environment (← reconcileBleFallbacks turns) action

/-- The drain of `task_loop` takes an action and processes it. -/
def processNext (turns : Nat) (environment : Environment) :
    Program State (Option Generation) := do
  match ← dequeue with
  | none => return none
  | some action => process turns environment action

/-- The last access of processing. -/
def clearProcessed : Option Generation → Program State Unit
  | none => return ()
  | some generation => clearBleRouteLoss generation

/-- The failure path of `start_ble_route_disconnect`. -/
def failBleRouteDisconnect (released : Generation) (result : Int32) (owner : ControlOperation) :
    Program State Unit := do
  failBle released .runtime result .none
  releaseOperation owner

def driveWatchdogs (environment : Environment) : Program State Unit := do
  driveProfileSelection environment
  driveBleDisable environment

/-- The end of a `task_loop` cycle. -/
def cycleTail (turns : Nat) (environment : Environment) : Program State Unit := do
  let _ ← reconcileBleFallbacks turns
  driveWatchdogs environment

/-! ### Control requests -/

def claimOperation (operation : ControlOperation) : Program State Bool :=
  .readModifyWrite fun state =>
    ((operation.claim state.activeOperation).1,
      { state with activeOperation := (operation.claim state.activeOperation).2 })

/-- What follows an accepted transition: queue its action or fault it. -/
def scheduleTransition (room : Bool) (operation : ControlOperation) (action : Action)
    (kind : LifecycleOperation) (outcome : TransitionOutcome) : Program State TransitionOutcome := do
  if outcome.actionResult = .accepted then
    if ← enqueue room action then
      return outcome
    let _ ← onBle (completeFault outcome.snapshot.generation kind (-1))
    clearBleHidPeer
    releaseOperation operation
    return {}
  releaseOperation operation
  return outcome

def requestBleEnable (room : Bool) : Program State TransitionOutcome := do
  if ← claimOperation .bleEnable then
    let outcome ← onBle beginEnable
    scheduleTransition room .bleEnable .bleEnable .enable outcome
  else
    return {}

/-- The route check before the claim is an input: disable is refused while the
BLE route is active. -/
def requestBleDisable (room routeFree : Bool) : Program State TransitionOutcome := do
  if routeFree then
    if ← claimOperation .bleDisable then
      let outcome ← onBle beginDisable
      scheduleTransition room .bleDisable .bleDisable .disable outcome
    else
      return {}
  else
    return {}

/-- A stack that is not ready has nothing to restart. -/
def restartHidden (stackReady : Bool) : Program State Bool :=
  if stackReady then onBle beginHiddenRestart else return true

/-- `request_profile_select` for a profile other than the selected one; the
checks of route, pairing and runtime are one input. -/
def requestProfileSelect (room quiescent : Bool) : Program State Bool := do
  if ← claimOperation .profileSelection then
    let lifecycle ← onBle snapshot
    let incarnation ← .read (·.stackIncarnation)
    let ready := quiescent ∧ lifecycle.desired = .hidden ∧ ¬lifecycle.connected ∧
      ¬lifecycle.advertising ∧ ¬lifecycle.recoveryRequired ∧
      (lifecycle.observed = .uninitialized ∨ lifecycle.observed = .idle)
    if ¬ready ∨ incarnation = 0xffffffff then
      releaseOperation .profileSelection
      return false
    if (← restartHidden lifecycle.stackReady) = false then
      releaseOperation .profileSelection
      return false
    .write fun state => { state with stackIncarnation := incarnation + 1 }
    if ← enqueue room (.profileSelect (incarnation + 1)) then
      return true
    let generation ← onBle generation
    let _ ← onBle (completeFault generation .runtime (-1))
    releaseOperation .profileSelection
    return false
  else
    return false

end HidBot.BleControl
