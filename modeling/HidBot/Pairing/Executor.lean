import HidBot.Ble.Executor
import HidBot.Pairing.Machine

/-!
# Pairing in the executor

What `hid_control_executor` does for a pairing: the requests of the control task,
the BLE callbacks, and the executor's own work, each of them one step. The answers
of the BLE backend and of the security and schema components are inputs. Profile
selection, reports and the output route belong to other models.
-/

namespace HidBot.BlePairing

open Interleaving BleLifecycle
open BleControl (storeFailureOwner transitionOwner)

inductive BleEventKind where
  | sync
  | connect
  | disconnect
  | advertisingComplete
  | reset
  | timeout
  | passkeyAction
  | encryptionChange
  | pairingComplete
  | identityResolved
  | repeatPairing
  | pairingTimeout
  | storeFull
  | storageFailure
  deriving DecidableEq, Repr

structure BleEvent where
  kind : BleEventKind := .sync
  generation : Generation := 0
  connectionHandle : ConnectionHandle := noConnection
  status : Int32 := 0
  pairingId : PairingId := 0
  deriving DecidableEq, Repr

abbrev Token := UInt32

/-- Six bytes; a passkey has a digit in each. -/
abbrev Secret := Vector UInt8 6

def Secret.zero : Secret := .replicate 6 0

/-- The number that six digits spell. -/
def Secret.value (secret : Secret) : Option Nat :=
  secret.toList.foldlM (fun value digit =>
    if 48 ≤ digit ∧ digit ≤ 57 then some (value * 10 + (digit.toNat - 48)) else none) 0

structure PairingMailbox where
  generation : Generation := 0
  connectionHandle : ConnectionHandle := noConnection
  pairingId : PairingId := 0
  secret : Secret := .zero
  token : Token := 0
  occupied : Bool := false
  deriving DecidableEq, Repr

/-- Every byte of a wiped mailbox is zero. -/
def PairingMailbox.wiped : PairingMailbox := { connectionHandle := 0 }

inductive Action where
  | bleEvent (event : BleEvent)
  | bleEnable
  | bleDisable
  | pairingStatus (token : Token)
  | pairingRespond (token : Token)
  deriving DecidableEq, Repr

structure PairingStatusSnapshot where
  available : Bool := false
  pairing : Snapshot := {}
  generation : Generation := 0
  connected : Bool := false
  remainingMs : Nat := 0
  deriving DecidableEq, Repr

/-- Where the control task is in a pairing request. -/
inductive Requester where
  | idle
  | filled (token : Token)
  | waiting (token : Token)
  deriving DecidableEq, Repr

/-- A pairing whose input was asked for, and when. -/
structure Begun where
  pairingId : PairingId
  generation : Generation
  connectionHandle : ConnectionHandle
  now : Nat
  deriving DecidableEq, Repr

def inputTimeoutUs : Nat := inputTimeoutMs * 1000

def Begun.deadline (begun : Begun) : Nat := begun.now + inputTimeoutUs

theorem Begun.deadline_ne_zero (begun : Begun) : begun.deadline ≠ 0 := by
  have positive : 0 < inputTimeoutUs := by decide
  exact Nat.ne_of_gt (Nat.lt_of_lt_of_le positive (Nat.le_add_left ..))

/-- A call of `inject_passkey`: the response that it is for, and what was current. -/
structure Injection where
  pairingId : PairingId
  generation : Generation
  connectionHandle : ConnectionHandle
  passkey : Nat
  pairing : Snapshot
  lifecycle : Words
  now : Nat
  deriving DecidableEq, Repr

structure State where
  lifecycle : Words := {}
  pairing : StateMachine := {}
  activeOperation : ControlOperation := .none
  queue : List Action := []
  now : Nat := 0
  pairingDeadline : Nat := 0
  pairingCompleteSeen : Bool := false
  pairingTerminalCommitted : Bool := false
  disableGeneration : Generation := 0
  disableDeadline : Nat := 0
  overflowAuthority : Generation := 0
  overflowAuthorityZero : Bool := false
  persistentStoreFailureObserved : Bool := false
  persistentStoreFailureCommitted : Bool := false
  handoffFailure : Bool := false
  handoffFailureCommitted : Bool := false
  mailbox : PairingMailbox := {}
  rpcPending : Token := 0
  nextRpcToken : Token := 1
  rpcStatus : PairingStatusSnapshot := {}
  rpcResult : RespondResult := .notPending
  requester : Requester := .idle
  /-- The pairings begun and the passkeys injected so far, earliest first; nothing
  in the code depends on them. -/
  begun : List Begun := []
  injections : List Injection := []
  /-- Whether a pairing waited for input when the mailbox was last filled. -/
  filledWaiting : Bool := false
  deriving DecidableEq, Repr

/-- What the schema component answers for a secured peer. -/
inductive GattSchemaVerdict where
  | none
  | incompatible
  | capacityFull
  | storageFailure
  deriving DecidableEq, Repr

/-- The answers that one executor step gets. -/
structure Environment where
  advertising : Int32 := 0
  configureProfile : Bool := true
  initialized : Int32 := 0
  hiddenSyncRefused : Bool := false
  initiateSecurity : Int32 := 0
  injectPasskey : Int32 := 0
  securityReady : Bool := false
  /-- The connection is encrypted, its identity resolved and the store healthy. -/
  securitySettled : Bool := false
  withinPolicy : Bool := true
  bondPersisted : Bool := true
  schema : GattSchemaVerdict := .none
  disconnect : Int32 := 0
  alreadyDisconnected : Bool := false
  beginHiddenExposure : Int32 := 0
  physicalExposureHidden : Bool := false
  deriving DecidableEq, Repr

namespace State

variable (state : State)

/-- Run a call of the lifecycle on its words. -/
def onLifecycle {α : Type} (call : Program Words α) : α × State :=
  ((call.exec state.lifecycle).1, { state with lifecycle := (call.exec state.lifecycle).2 })

def current : BleLifecycle.Snapshot := state.lifecycle.current

def wipePairingMailbox : State := { state with mailbox := .wiped }

def releaseOperation (operation : ControlOperation) : State :=
  { state with activeOperation := operation.release state.activeOperation }

def completeFault (generation : Generation) (operation : LifecycleOperation) (code : Int32) :
    State :=
  (state.onLifecycle (BleLifecycle.completeFault generation operation code)).2

def failBle (generation : Generation) (operation : LifecycleOperation) (code : Int32)
    (owner : ControlOperation) : State :=
  (state.completeFault generation operation code).releaseOperation owner

/-! ### Boot-lifetime faults -/

/-- The pairing half of a fault: what was current fails closed. -/
def failPairingClosed (result : LastResult) : State :=
  { state with
    pairing := state.pairing.failClosed state.lifecycle.generation
      state.lifecycle.connectionHandle result
    pairingDeadline := 0
    mailbox := .wiped }

def commitPersistentStoreFailure : State :=
  if state.persistentStoreFailureCommitted then state
  else
    { state.failPairingClosed .storage with
      persistentStoreFailureCommitted := true
      pairingCompleteSeen := false }.failBle state.lifecycle.generation .runtime (-3)
      (storeFailureOwner state.activeOperation)

def failCurrentBleQueueOverflow : State :=
  (state.failPairingClosed .queueOverflow).failBle state.lifecycle.generation .runtime (-2)
    (transitionOwner state.current state.activeOperation)

/-- Whether the handoff has failed. -/
def reconcileBleLifecycleHandoffFailure : Bool × State :=
  if state.handoffFailure = false then (false, state)
  else if state.handoffFailureCommitted then (true, state)
  else (true, {
    (if state.persistentStoreFailureCommitted then state
      else state.failCurrentBleQueueOverflow) with
    handoffFailureCommitted := true })

def overflowPending (authority : Generation) : Bool :=
  if authority = 0 then state.overflowAuthorityZero else state.overflowAuthority == authority

def clearOverflow (authority : Generation) : State :=
  if authority = 0 then { state with overflowAuthorityZero := false }
  else { state with overflowAuthority := 0 }

/-- Whether the overflow of the current generation was consumed. Marks of other
generations are dropped. -/
def consumeBleOverflow : Bool × State :=
  let authority := state.lifecycle.generation
  if state.overflowPending authority then
    if state.persistentStoreFailureCommitted ∨ state.handoffFailureCommitted then
      (true, state.clearOverflow authority)
    else (true, state.failCurrentBleQueueOverflow.clearOverflow authority)
  else (false, { state with overflowAuthority := 0, overflowAuthorityZero := false })

/-- `reconcile_ble_fallbacks`: whether a queued BLE event is to be dropped. -/
def reconcileBleFallbacks : Bool × State :=
  let committed := if state.persistentStoreFailureObserved then
    state.commitPersistentStoreFailure else state
  let failed := committed.reconcileBleLifecycleHandoffFailure
  let consumed := failed.2.consumeBleOverflow
  (failed.1 || consumed.1, consumed.2)

/-! ### Ends of a connection -/

def disableTimeoutUs : Nat := 5000000

def driveBleDisable (environment : Environment) : State :=
  if state.activeOperation ≠ .bleDisable then { state with disableDeadline := 0 }
  else if state.disableDeadline = 0 then state
  else
    let current := state.current
    if current.generation ≠ state.disableGeneration ∨ current.recoveryRequired ∨
        current.desired ≠ .hidden ∨ current.observed ≠ .disabling ∨
        state.disableDeadline ≤ state.now then
      { state with disableDeadline := 0 }.failBle current.generation .disable (-4) .bleDisable
    else if environment.physicalExposureHidden then
      let completed := state.onLifecycle (completeDisable state.disableGeneration)
      if completed.1 then
        { completed.2 with disableDeadline := 0 }.releaseOperation .bleDisable
      else completed.2
    else state

/-- Advertise again on the current generation. -/
def readvertise (environment : Environment) : State :=
  if state.persistentStoreFailureObserved then state
  else
    let generation := state.lifecycle.generation
    if environment.advertising = 0 then (state.onLifecycle (completeAdvertising generation)).2
    else state.failBle generation .runtime environment.advertising .none

/-- The pairing half of a disconnect. -/
def losePairing (generation : Generation) (handle : ConnectionHandle) : State :=
  { state with
    pairingDeadline := 0
    mailbox := .wiped
    pairingCompleteSeen := false
    pairingTerminalCommitted := false
    pairing := state.pairing.disconnect generation handle }

def reconcileBleDisconnect (environment : Environment) (generation : Generation)
    (handle : ConnectionHandle) (expected : Bool) : State :=
  let observed := state.onLifecycle (observeDisconnect generation handle expected)
  if observed.1 then
    let ended := observed.2.losePairing generation handle
    if expected then ended.driveBleDisable environment else ended.readvertise environment
  else observed.2

def reconcileSecurityDisconnectAbsent (environment : Environment) (generation : Generation)
    (handle : ConnectionHandle) : State :=
  let current := state.current
  if current.generation = generation ∧ current.connected ∧ current.desired = .exposed ∧
      current.observed = .connected ∧ handle = state.lifecycle.connectionHandle then
    state.reconcileBleDisconnect environment generation handle false
  else state

/-- The pairing half of a termination, which is committed once for a connection. -/
def commitPairingTerminal (result : LastResult) : State :=
  { state with
    pairingTerminalCommitted := true
    pairingDeadline := 0
    mailbox := .wiped
    pairing := state.pairing.complete state.lifecycle.generation
      state.lifecycle.connectionHandle result }

def terminateSecurityConnection (environment : Environment) (result : LastResult)
    (fatal : Bool) : State :=
  let current := state.current
  if current.connected = false then state
  else if state.pairingTerminalCommitted then state
  else
    let ended := state.commitPairingTerminal result
    if fatal then ended.failBle current.generation .runtime (-3) .none
    else if environment.alreadyDisconnected then
      ended.reconcileSecurityDisconnectAbsent environment current.generation
        state.lifecycle.connectionHandle
    else if environment.disconnect ≠ 0 then
      ended.failBle current.generation .runtime environment.disconnect .none
    else ended

/-- `reconcile_gatt_cache`. -/
def reconcileGattCache (environment : Environment) : State :=
  match environment.schema with
  | .none => state
  | .incompatible => state.terminateSecurityConnection environment .securityPolicy false
  | .capacityFull => state.terminateSecurityConnection environment .storeFull false
  | .storageFailure => state.commitPersistentStoreFailure

/-- A pairing that secured the connection. -/
def succeedPairing : State :=
  { state with
    pairing := state.pairing.complete state.lifecycle.generation
      state.lifecycle.connectionHandle .succeeded
    pairingDeadline := 0
    mailbox := .wiped }

def reconcileSecurity (environment : Environment) (handle : ConnectionHandle)
    (terminalEvidenceReady : Bool) : State :=
  let current := state.current
  if current.connected = false ∨ handle ≠ state.lifecycle.connectionHandle then state
  else if state.pairingTerminalCommitted then state
  else if environment.securityReady then
    state.succeedPairing.reconcileGattCache environment
  else if terminalEvidenceReady ∧ state.pairingCompleteSeen ∧ environment.securitySettled then
    if environment.withinPolicy = false then
      state.terminateSecurityConnection environment .securityPolicy false
    else if environment.bondPersisted = false then
      state.terminateSecurityConnection environment .storage true
    else state
  else state

def withPairing (pairing : StateMachine) : State := { state with pairing }

/-- The input is over, with this outcome. -/
def closeInput (pairing : StateMachine) : State :=
  { state with
    pairing
    pairingDeadline := 0
    mailbox := .wiped }

/-- `StateMachine::timeout` and what follows it. -/
def expirePairing (environment : Environment) (generation : Generation)
    (handle : ConnectionHandle) (id : PairingId) : State :=
  let ended := state.pairing.timeout generation handle id
  if ended.1 then
    (state.closeInput ended.2).terminateSecurityConnection environment .timeout false
  else state

def reconcilePairingDeadline (environment : Environment) : State :=
  if state.pairingDeadline = 0 then state
  else if state.pairing.liveState ≠ .waitingInput ∨ state.pairing.pairingActive = false then
    { state with pairingDeadline := 0, mailbox := .wiped }
  else if state.now < state.pairingDeadline then state
  else state.expirePairing environment state.pairing.generation state.pairing.connectionHandle
    state.pairing.pairingId

/-! ### Pairing requests in the executor -/

def currentPairingStatus : PairingStatusSnapshot where
  available := true
  pairing := state.pairing.toSnapshot
  generation := state.lifecycle.generation
  connected := state.current.connected
  remainingMs :=
    if state.pairing.liveState = .waitingInput ∧ state.pairing.pairingActive ∧
        state.pairingDeadline ≠ 0 ∧ state.now < state.pairingDeadline then
      (state.pairingDeadline - state.now + 999) / 1000
    else 0

def completePairingRpc (token : Token) : State :=
  if state.rpcPending = token then { state with rpcPending := 0 } else state

/-- The call of `inject_passkey`. -/
def injectPasskey (generation : Generation) (handle : ConnectionHandle) (id : PairingId)
    (passkey : Nat) : State :=
  { state with injections := state.injections ++ [{
      pairingId := id, generation, connectionHandle := handle, passkey
      pairing := state.pairing.toSnapshot, lifecycle := state.lifecycle, now := state.now }] }

def respondToPairing (environment : Environment) (generation : Generation)
    (handle : ConnectionHandle) (id : PairingId) (secret : Secret) : RespondResult × State :=
  match state.pairing.validateResponse generation handle id with
  | .accepted =>
      match secret.value with
      | none => (.invalidSecret, state)
      | some passkey =>
          let injected := state.injectPasskey generation handle id passkey
          if environment.injectPasskey ≠ 0 then
            (.injectionFailed, injected.terminateSecurityConnection environment .smpFailed false)
          else (.accepted, { injected with
            pairing := state.pairing.consumeResponse generation handle id
            pairingDeadline := 0 })
  | refused => (refused, state)

def processPairingStatus (environment : Environment) (token : Token) : State :=
  if state.rpcPending ≠ token then state
  else
    let reconciled := state.reconcilePairingDeadline environment
    { reconciled with rpcStatus := reconciled.currentPairingStatus }.completePairingRpc token

def processPairingRespond (environment : Environment) (token : Token) : State :=
  if state.rpcPending ≠ token then state
  else
    let mailbox := state.mailbox
    let reconciled := state.wipePairingMailbox.reconcilePairingDeadline environment
    let answered := if mailbox.occupied ∧ mailbox.token = token then
        reconciled.respondToPairing environment mailbox.generation mailbox.connectionHandle
          mailbox.pairingId mailbox.secret
      else (.notPending, reconciled)
    { answered.2 with rpcResult := answered.1 }.completePairingRpc token

/-! ### BLE events -/

def processSync (environment : Environment) (event : BleEvent) : State :=
  let current := state.current
  if current.desired = .hidden then
    if event.generation = current.generation ∧ ¬current.recoveryRequired ∧ ¬current.stackReady ∧
        (current.observed = .enabling ∨ current.observed = .idle) then
      let refused := state.persistentStoreFailureObserved || environment.hiddenSyncRefused
      let synced := if refused then (false, state)
        else state.onLifecycle (completeHiddenSync event.generation)
      if synced.1 then synced.2
      else synced.2.failBle event.generation .runtime (-10) state.activeOperation
    else state
  else
    let synced := state.onLifecycle (completeSync event.generation)
    if synced.1 = false then synced.2
    else if state.persistentStoreFailureObserved then synced.2
    else if environment.advertising = 0 then
      (synced.2.onLifecycle (completeAdvertising event.generation)).2.releaseOperation .bleEnable
    else synced.2.failBle event.generation .enable environment.advertising .bleEnable

/-- The pairing half of a connect. -/
def beginPairing (generation : Generation) (handle : ConnectionHandle) : State :=
  { state with
    pairingCompleteSeen := false
    pairingTerminalCommitted := false
    pairingDeadline := 0
    mailbox := .wiped
    pairing := state.pairing.beginConnection generation handle }

def processConnect (environment : Environment) (event : BleEvent) : State :=
  let observed := state.onLifecycle (observeConnect event.generation event.connectionHandle)
  if observed.1 then
    let begun := observed.2.beginPairing event.generation event.connectionHandle
    if environment.initiateSecurity ≠ 0 then
      begun.terminateSecurityConnection environment .smpFailed false
    else begun
  else observed.2

def processAdvertisingComplete (environment : Environment) (event : BleEvent) : State :=
  let current := state.current
  if event.generation ≠ current.generation ∨ current.desired ≠ .exposed ∨ current.connected ∨
      state.persistentStoreFailureObserved then state
  else if environment.advertising ≠ 0 then
    state.failBle event.generation .runtime environment.advertising .none
  else state

/-- The pairing half of a host reset. -/
def resetPairing : State :=
  { state with
    pairing := state.pairing.reset
    pairingDeadline := 0
    mailbox := .wiped
    pairingCompleteSeen := false
    pairingTerminalCommitted := false }

def processReset (event : BleEvent) : State :=
  let before := state.current
  if event.generation ≠ before.generation ∨ before.recoveryRequired ∨ before.observed = .fault then
    state
  else
    let recovery :=
      state.resetPairing.onLifecycle (beginResetRecovery event.generation event.status)
    if recovery.1 then recovery.2
    else recovery.2.failBle recovery.2.lifecycle.generation .runtime event.status
      state.activeOperation

/-- The stack asks for input with status 1; it asks for nothing else that is supported. -/
def processPasskeyAction (environment : Environment) (event : BleEvent) : State :=
  if event.status = 1 then
    let decision := state.pairing.beginPasskeyInput event.generation event.connectionHandle
    let decided := state.withPairing decision.2
    match decision.1 with
    | .started =>
        { decided with
          pairingDeadline := state.now + inputTimeoutUs
          begun := state.begun ++ [⟨decision.2.pairingId, event.generation,
            event.connectionHandle, state.now⟩] }
    | .idExhausted => decided.terminateSecurityConnection environment .securityPolicy true
    | _ => decided
  else
    let decision := state.pairing.rejectUnsupportedAction event.generation event.connectionHandle
    let decided := state.withPairing decision.2
    if decision.1 = .unsupported then
      decided.terminateSecurityConnection environment .securityPolicy false
    else decided

/-- The guard of the security events: the exact current connection. -/
def eventIsCurrent (event : BleEvent) : Bool :=
  event.generation == state.lifecycle.generation &&
    event.connectionHandle == state.lifecycle.connectionHandle

/-- An event of the security component for the current connection. -/
def processSecurityEvent (environment : Environment) (event : BleEvent) : State :=
  match event.kind with
  | .encryptionChange =>
      if event.status ≠ 0 then state.terminateSecurityConnection environment .smpFailed false
      else state.reconcileSecurity environment event.connectionHandle true
  | .pairingComplete =>
      if event.status ≠ 0 then state.terminateSecurityConnection environment .smpFailed false
      else { state with pairingCompleteSeen := true }
  | .identityResolved => state.reconcileSecurity environment event.connectionHandle false
  | .repeatPairing => state.terminateSecurityConnection environment .repeatPairing false
  | .storeFull => state.terminateSecurityConnection environment .storeFull false
  | _ => state

def processBleEvent (environment : Environment) (event : BleEvent) : State :=
  match event.kind with
  | .sync => state.processSync environment event
  | .connect => state.processConnect environment event
  | .disconnect => state.reconcileBleDisconnect environment event.generation
      event.connectionHandle (state.activeOperation == .bleDisable)
  | .advertisingComplete => state.processAdvertisingComplete environment event
  | .reset => state.processReset event
  | .timeout => state.failBle event.generation .runtime event.status state.activeOperation
  | .passkeyAction => state.processPasskeyAction environment event
  | .encryptionChange | .pairingComplete | .identityResolved | .repeatPairing | .storeFull =>
      if state.eventIsCurrent event then state.processSecurityEvent environment event else state
  | .pairingTimeout => state.expirePairing environment event.generation event.connectionHandle
      event.pairingId
  | .storageFailure => state.commitPersistentStoreFailure

/-! ### Commands -/

def processEnable (environment : Environment) : State :=
  let current := state.current
  if state.activeOperation ≠ .bleEnable ∨ current.desired ≠ .exposed ∨
      current.observed ≠ .enabling then
    state.releaseOperation .bleEnable
  else if current.stackReady = false then
    if environment.configureProfile = false then
      state.failBle current.generation .enable (-6) .bleEnable
    else if environment.initialized ≠ 0 then
      state.failBle current.generation .enable environment.initialized .bleEnable
    else state
  else if state.persistentStoreFailureObserved then state
  else if environment.advertising = 0 then
    (state.onLifecycle (completeAdvertising current.generation)).2.releaseOperation .bleEnable
  else state.failBle current.generation .enable environment.advertising .bleEnable

/-- The pairing half of a disable, of which the generation is noted. -/
def disablePairing : State :=
  { state with
    mailbox := .wiped
    pairingDeadline := 0
    pairing := state.pairing.disable
    pairingCompleteSeen := false
    disableGeneration := state.lifecycle.generation }

def processDisable (environment : Environment) : State :=
  let current := state.current
  if state.activeOperation ≠ .bleDisable ∨ current.desired ≠ .hidden ∨
      current.observed ≠ .disabling then
    state.releaseOperation .bleDisable
  else
    let ended := state.disablePairing
    if environment.beginHiddenExposure ≠ 0 then
      { ended with disableDeadline := 0 }.failBle current.generation .disable
        environment.beginHiddenExposure .bleDisable
    else { ended with disableDeadline := state.now + disableTimeoutUs }.driveBleDisable environment

/-- `process` after the faults, which may drop an event. -/
def act (environment : Environment) (suppressed : Bool) : Action → State
  | .bleEvent event => if suppressed then state else state.processBleEvent environment event
  | .bleEnable => state.processEnable environment
  | .bleDisable => state.processDisable environment
  | .pairingStatus token => state.processPairingStatus environment token
  | .pairingRespond token => state.processPairingRespond environment token

/-- The drain of `task_loop` takes an action and processes it. -/
def processNext (environment : Environment) : State :=
  match state.queue with
  | [] => state
  | action :: queue =>
      let reconciled := { state with queue }.reconcileBleFallbacks
      reconciled.2.act environment reconciled.1 action

/-- The end of a `task_loop` cycle. -/
def cycleTail (environment : Environment) : State :=
  state.reconcileBleFallbacks.2.driveBleDisable environment

/-! ### Control requests -/

def enqueue (action : Action) : State := { state with queue := state.queue ++ [action] }

def claimOperation (operation : ControlOperation) : State :=
  { state with activeOperation := (operation.claim state.activeOperation).2 }

/-- A claimed transition that was begun is queued, faults if the queue is full, or
gives the claim back. -/
def scheduleTransition (room : Bool) (operation : ControlOperation) (action : Action)
    (kind : LifecycleOperation) (outcome : TransitionOutcome) : State :=
  if outcome.actionResult = .accepted then
    if room then state.enqueue action
    else (state.completeFault outcome.snapshot.generation kind (-1)).releaseOperation operation
  else state.releaseOperation operation

def requestBleEnable (room : Bool) : State :=
  if (ControlOperation.bleEnable.claim state.activeOperation).1 then
    let begun := (state.claimOperation .bleEnable).onLifecycle beginEnable
    begun.2.scheduleTransition room .bleEnable .bleEnable .enable begun.1
  else state

/-- `routeHeld`: the output route is at BLE, or cannot be read. -/
def requestBleDisable (room routeHeld : Bool) : State :=
  if routeHeld = false ∧ (ControlOperation.bleDisable.claim state.activeOperation).1 then
    let begun := (state.claimOperation .bleDisable).onLifecycle beginDisable
    begun.2.scheduleTransition room .bleDisable .bleDisable .disable begun.1
  else state

/-- A token that is not zero, and the one to try next. -/
def takeRpcToken : Token × Token :=
  if state.nextRpcToken = 0 then (1, 2) else (state.nextRpcToken, state.nextRpcToken + 1)

def requestPairingStatus (room : Bool) : State :=
  if state.rpcPending ≠ 0 then state
  else
    let token := state.takeRpcToken
    let taken := { state with nextRpcToken := token.2 }
    if room then
      { taken.enqueue (.pairingStatus token.1) with
        rpcPending := token.1, requester := .waiting token.1 }
    else taken

/-- `request_pairing_response` up to its publication. A torn snapshot of the
pairing is the default one. -/
def fillPairingMailbox (coherent : Bool) (id : PairingId) (secret : Secret) : State :=
  if state.rpcPending ≠ 0 then state
  else
    let pending : Snapshot := if coherent then state.pairing.toSnapshot else {}
    let token := state.takeRpcToken
    { state with
      nextRpcToken := token.2
      mailbox := {
        generation := pending.generation, connectionHandle := pending.connectionHandle
        pairingId := id, secret, token := token.1, occupied := true }
      rpcResult := .notPending
      requester := .filled token.1
      filledWaiting := state.pairing.liveState == .waitingInput }

/-- The rest of `request_pairing_response`, which then waits or returns. -/
def submitPairingResponse (room : Bool) (token : Token) : State :=
  if room then
    { state.enqueue (.pairingRespond token) with
      rpcPending := token, requester := .waiting token }
  else { state.wipePairingMailbox with requester := .idle }

/-! ### Callbacks of the BLE host -/

/-- `event_targets_current_ble_authority`. -/
def targetsCurrentBleAuthority (event : BleEvent) : Bool :=
  let current := state.current
  event.generation == current.generation &&
    match event.kind with
    | .connect => !current.connected && current.desired == .exposed &&
        current.observed == .advertising && event.connectionHandle != noConnection
    | .sync | .advertisingComplete | .reset | .timeout | .storageFailure => true
    | _ => current.connected && event.connectionHandle == state.lifecycle.connectionHandle

def markBleEventOverflow (event : BleEvent) : State :=
  if state.targetsCurrentBleAuthority event then
    if event.generation = 0 then { state with overflowAuthorityZero := true }
    else { state with overflowAuthority := event.generation }
  else state

def signalBleEvent (room : Bool) (event : BleEvent) : State :=
  if room then state.enqueue (.bleEvent event) else state.markBleEventOverflow event

end State

/-! ### Runs -/

/-- A step of the control task, of the BLE host or of the executor. -/
inductive Step where
  | requestBleEnable (room : Bool)
  | requestBleDisable (room routeHeld : Bool)
  | requestPairingStatus (room : Bool)
  | fillPairingMailbox (coherent : Bool) (id : PairingId) (secret : Secret)
  | submitPairingResponse (room : Bool)
  | returnPairingRequest
  | signalBleEvent (room : Bool) (event : BleEvent)
  | observeStoreFailure
  | failHandoff
  | processNext (environment : Environment)
  | cycleTail (environment : Environment)
  | tick (elapsed : Nat)
  deriving DecidableEq, Repr

/-- A step, if its task can take it: the control task makes one request at a time. -/
def State.step (state : State) : Step → State
  | .requestBleEnable room =>
      if state.requester = .idle then state.requestBleEnable room else state
  | .requestBleDisable room routeHeld =>
      if state.requester = .idle then state.requestBleDisable room routeHeld else state
  | .requestPairingStatus room =>
      if state.requester = .idle then state.requestPairingStatus room else state
  | .fillPairingMailbox coherent id secret =>
      if state.requester = .idle then state.fillPairingMailbox coherent id secret else state
  | .submitPairingResponse room =>
      match state.requester with
      | .filled token => state.submitPairingResponse room token
      | _ => state
  | .returnPairingRequest =>
      match state.requester with
      | .waiting token =>
          if state.rpcPending = token then state else { state with requester := .idle }
      | _ => state
  | .signalBleEvent room event => state.signalBleEvent room event
  | .observeStoreFailure => { state with persistentStoreFailureObserved := true }
  | .failHandoff => { state with handoffFailure := true }
  | .processNext environment => state.processNext environment
  | .cycleTail environment => state.cycleTail environment
  | .tick elapsed => { state with now := state.now + elapsed }

def boot : State := {}

/-- The state after these steps of a boot. -/
def run (steps : List Step) : State := steps.foldl State.step boot

end HidBot.BlePairing
