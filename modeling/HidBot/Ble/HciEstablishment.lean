import HidBot.Interleaving.Program
import Mathlib

/-!
# The HCI establishment lease

`observe_hci_ingress` of the controller task and `process_hci_establishment` of the host
task, access by access, beside the retirements of the lease. The log is no part of the
code: it says what an access has done, the latest first.
-/

namespace HidBot.BleTransport

open Interleaving

abbrev EstablishmentId := Nat

/-- `UINT64_MAX`, which stands for the establishment that is being published. -/
def reservation : EstablishmentId := 0xffffffffffffffff

abbrev ConnectionHandle := UInt16

/-- `kNoConnection`. -/
def noConnection : ConnectionHandle := 0xffff

/-- What an access has done on behalf of an establishment; `before` is the published id
that it has replaced. -/
inductive Note where
  | reserved (id before : EstablishmentId)
  | released (id before : EstablishmentId)
  | published (id : EstablishmentId) (handle : ConnectionHandle) (before : EstablishmentId)
  | confirmed (id : EstablishmentId)
  | withdrawn (id before : EstablishmentId)
  | registered (id : EstablishmentId) (handle : ConnectionHandle)
  | owned (id : EstablishmentId)
  | probed (id : EstablishmentId) (handle : ConnectionHandle) (published : EstablishmentId)
  | unknown (id : EstablishmentId)
  | resolved (id before : EstablishmentId)
  | retired (before : EstablishmentId)
  | failed
  deriving DecidableEq

structure HciCells where
  id : EstablishmentId := 0
  next : EstablishmentId := 1
  disconnectOwner : EstablishmentId := 0
  stack : UInt32 := 0
  generation : UInt32 := 0
  handle : ConnectionHandle := noConnection
  ingressEnabled : Bool := false
  ingressEpoch : Nat := 1
  hiddenExposureRequested : Bool := false
  stackIncarnation : UInt32 := 0
  backendGeneration : UInt32 := 0
  log : List Note := []
  deriving DecidableEq

def HciCells.note (cells : HciCells) (note : Note) : HciCells :=
  { cells with log := note :: cells.log }

abbrev HciProgram := Program HciCells

/-- `sink_->signal_ble_lifecycle_handoff_failure()`. -/
def signalHandoffFailure : HciProgram Unit := .write (·.note .failed)

/-! ### Events -/

inductive Ingress where
  | disconnectComplete
  | connectionComplete (handle : ConnectionHandle)
  | other
  deriving DecidableEq

/-- What an event says, of which the caller has checked the length. -/
def decodeIngress (event : List UInt8) : Ingress :=
  let byte (index : Nat) := event.getD index 0
  if byte 0 = 0x05 ∧ byte 1 = 4 ∧ byte 2 = 0 then .disconnectComplete
  else if byte 0 ≠ 0x3e ∨ byte 1 < 1 then .other
  else
    let expectedLength : UInt8 := if byte 2 = 0x01 then 19 else if byte 2 = 0x0a then 31 else 0
    if expectedLength = 0 then .other
    else if byte 1 ≠ expectedLength ∨ byte 3 ≠ 0 ∨ byte 6 ≠ 1 then .other
    else .connectionComplete ((byte 4).toUInt16 ||| (byte 5).toUInt16 <<< 8)

/-! ### Identities -/

inductive Allocation where
  | allocated (id : EstablishmentId)
  | exhausted
  | unfinished
  deriving DecidableEq

/-- The exchanges of `allocate_hci_establishment_id`, each of which may fail spuriously. -/
def allocateFrom : List Bool → EstablishmentId → HciProgram Allocation
  | [], _ => pure .unfinished
  | spurious :: turns, candidate =>
      if candidate = 0 ∨ candidate = reservation then pure .exhausted
      else do
        let seen ← Program.readModifyWrite fun cells =>
          if ¬spurious ∧ cells.next = candidate then (none, { cells with next := candidate + 1 })
          else (some cells.next, cells)
        match seen with
        | none => pure (.allocated candidate)
        | some seen => allocateFrom turns seen

def allocateHciEstablishmentId (turns : List Bool) : HciProgram Allocation := do
  allocateFrom turns (← Program.read HciCells.next)

/-! ### Ownership -/

def ownsHciEstablishment (id : EstablishmentId) (stack generation : UInt32)
    (handle : ConnectionHandle) : HciProgram Bool := do
  if id = 0 ∨ id = reservation then pure false
  else if (← Program.read HciCells.id) ≠ id then pure false
  else if (← Program.read HciCells.stack) ≠ stack then pure false
  else if (← Program.read HciCells.generation) ≠ generation then pure false
  else pure (decide ((← Program.read HciCells.handle) = handle))

/-- `hci_establishment_id_.compare_exchange_strong`. -/
def exchangeId (expected desired : EstablishmentId) (note : EstablishmentId → Note) :
    HciProgram Bool :=
  .readModifyWrite fun cells =>
    if cells.id = expected then
      (true, { cells with id := desired, log := note cells.id :: cells.log })
    else (false, cells)

/-- Its disconnect owner goes with it. -/
def clearDisconnectOwner (id : EstablishmentId) : HciProgram Unit :=
  .write fun cells =>
    if cells.disconnectOwner = id then { cells with disconnectOwner := 0 } else cells

/-- The note tells the callers apart. -/
def resolveHciEstablishment (id : EstablishmentId) (note : EstablishmentId → Note) :
    HciProgram Unit := do
  if id = 0 ∨ id = reservation then pure ()
  else if ← exchangeId id 0 note then clearDisconnectOwner id
  else pure ()

/-- `retire_hci_establishment`. -/
def retireHciEstablishment : HciProgram Unit := do
  .write fun cells => { cells with ingressEnabled := false }
  .write fun cells => { cells with ingressEpoch := (cells.ingressEpoch + 1) % 2 ^ 64 }
  .write fun cells => { cells with id := 0, log := .retired cells.id :: cells.log }
  .write fun cells => { cells with disconnectOwner := 0 }
  .write fun cells => { cells with stack := 0 }
  .write fun cells => { cells with generation := 0 }
  .write fun cells => { cells with handle := noConnection }

def setIngressEnabled (enabled : Bool) : HciProgram Unit :=
  .write fun cells => { cells with ingressEnabled := enabled }

/-! ### The controller task -/

/-- The ingress is enabled in the epoch in which the call began. -/
def ingressOpen (epoch : Nat) : HciProgram Bool := do
  if ← Program.read HciCells.ingressEnabled then
    pure (decide ((← Program.read HciCells.ingressEpoch) = epoch))
  else pure false

/-- The same, when it decides that the new lease is returned. -/
def confirmOpen (id : EstablishmentId) (epoch : Nat) : HciProgram Bool := do
  if ← Program.read HciCells.ingressEnabled then
    .readModifyWrite fun cells =>
      if cells.ingressEpoch = epoch then (true, cells.note (.confirmed id)) else (false, cells)
  else pure false

def isDuplicate (current : EstablishmentId) (handle : ConnectionHandle) : HciProgram Bool := do
  if current = reservation then pure false
  else
    let stack ← Program.read HciCells.stack
    if stack ≠ (← Program.read HciCells.stackIncarnation) then pure false
    else
      let generation ← Program.read HciCells.generation
      if generation ≠ (← Program.read HciCells.backendGeneration) then pure false
      else pure (decide ((← Program.read HciCells.handle) = handle))

def isReplacingProbed (current : EstablishmentId) : HciProgram Bool := do
  if current = reservation then pure false
  else pure (decide ((← Program.read HciCells.disconnectOwner) = current))

/-- From the reservation on. -/
def publishEstablishment (id : EstablishmentId) (handle : ConnectionHandle) (epoch : Nat) :
    HciProgram Bool := do
  if ← ingressOpen epoch then
    let incarnation ← Program.read HciCells.stackIncarnation
    .write fun cells => { cells with stack := incarnation }
    let generation ← Program.read HciCells.backendGeneration
    .write fun cells => { cells with generation }
    .write fun cells => { cells with handle }
    .write fun cells => { cells with disconnectOwner := 0 }
    .write fun cells => { cells with id, log := .published id handle cells.id :: cells.log }
    if ← confirmOpen id epoch then pure true
    else
      resolveHciEstablishment id (.withdrawn id)
      pure false
  else
    let _ ← exchangeId reservation 0 (.released id)
    pure false

/-- What becomes of a Connection Complete once the lease is free or may be replaced. -/
def reserveEstablishment (current : EstablishmentId) (handle : ConnectionHandle) (epoch : Nat)
    (turns : List Bool) : HciProgram (Option Bool) := do
  match ← allocateHciEstablishmentId turns with
  | .unfinished => pure none
  | .exhausted =>
      signalHandoffFailure
      pure (some false)
  | .allocated id =>
      if ← exchangeId current reservation (.reserved id) then
        some <$> publishEstablishment id handle epoch
      else
        signalHandoffFailure
        pure (some false)

def observeConnection (handle : ConnectionHandle) (epoch : Nat) (turns : List Bool) :
    HciProgram (Option Bool) := do
  let current ← Program.read HciCells.id
  if current = 0 then reserveEstablishment current handle epoch turns
  else
    let duplicate ← isDuplicate current handle
    let replacing ← isReplacingProbed current
    if duplicate ∧ ¬replacing then pure (some true)
    else if ¬replacing then
      signalHandoffFailure
      pure (some false)
    else reserveEstablishment current handle epoch turns

/-- None while the allocation has not come to its end. -/
def observeHciIngress (event : List UInt8) (turns : List Bool) : HciProgram (Option Bool) := do
  let epoch ← Program.read HciCells.ingressEpoch
  if ← ingressOpen epoch then
    match decodeIngress event with
    | .disconnectComplete =>
        let current ← Program.read HciCells.id
        pure (some (decide (current ≠ 0 ∧ current ≠ reservation)))
    | .connectionComplete handle => observeConnection handle epoch turns
    | .other => pure (some false)
  else pure (some false)

/-! ### The host task -/

/-- `BLE_HS_HCI_ERR(BLE_ERR_UNK_CONN_ID)`. -/
def unknownConnection : Int := 0x202

/-- The outcome of the command that the probe sends. -/
def disconnectControllerHandle (id : EstablishmentId) (handle : ConnectionHandle) (result : Int) :
    HciProgram Int := do
  .write fun cells => cells.note (.probed id handle cells.id)
  if result = unknownConnection then .write (·.note (.unknown id)) else pure ()
  pure result

/-- None when the owner has been taken, and another owner otherwise. -/
def takeDisconnectOwner (id : EstablishmentId) : HciProgram (Option EstablishmentId) :=
  .readModifyWrite fun cells =>
    if cells.disconnectOwner = 0 then
      (none, { cells with disconnectOwner := id, log := .owned id :: cells.log })
    else (some cells.disconnectOwner, cells)

/-- The handles that NimBLE knows when it is asked; none of them is `kNoConnection`. -/
abbrev Registry := { handles : List ConnectionHandle // noConnection ∉ handles }

/-- Nobody else is probing. -/
def probeEstablishment (id : EstablishmentId) (stack generation : UInt32)
    (handle : ConnectionHandle) (answer : Int) : HciProgram Unit := do
  let result ← disconnectControllerHandle id handle answer
  if result = unknownConnection then
    if ← ownsHciEstablishment id stack generation handle then
      if (← Program.read HciCells.disconnectOwner) = id then
        resolveHciEstablishment id (.resolved id)
      else pure ()
    else pure ()
  else if result ≠ 0 then signalHandoffFailure
  else if ← Program.read HciCells.hiddenExposureRequested then pure ()
  else signalHandoffFailure

/-- The termination of a registered connection goes through GAP and is left out. -/
def settleEstablishment (id : EstablishmentId) (stack generation : UInt32)
    (handle : ConnectionHandle) (registry : Registry) (answer : Int) : HciProgram Unit := do
  if handle ∈ registry.val then
    .write (·.note (.registered id handle))
    resolveHciEstablishment id (.resolved id)
  else
    match ← takeDisconnectOwner id with
    | none => probeEstablishment id stack generation handle answer
    | some owner =>
        if owner = id then probeEstablishment id stack generation handle answer
        else signalHandoffFailure

def processHciEstablishment (registry : Registry) (answer : Int) : HciProgram Unit := do
  let id ← Program.read HciCells.id
  if id = 0 ∨ id = reservation then pure ()
  else
    let stack ← Program.read HciCells.stack
    let generation ← Program.read HciCells.generation
    let handle ← Program.read HciCells.handle
    if stack ≠ (← Program.read HciCells.stackIncarnation) then signalHandoffFailure
    else if generation ≠ (← Program.read HciCells.backendGeneration) then signalHandoffFailure
    else if ← ownsHciEstablishment id stack generation handle then
      settleEstablishment id stack generation handle registry answer
    else signalHandoffFailure

/-! ### Operations -/

inductive HciTask where
  | controller
  | host
  | control
  deriving DecidableEq

inductive HciOperation where
  | observe (event : List UInt8) (turns : List Bool)
  | process (registry : Registry) (answer : Int)
  | reset (closing : Bool)
  | start (incarnation generation : UInt32)
  | beginStop (refused : Bool)
  | stop
  | setGeneration (generation : UInt32)
  | setHidden (requested : Bool)

/-- The part of an operation that has to do with the lease. -/
def hciProgram (_ : HciTask) : HciOperation → HciProgram (Option Bool)
  | .observe event turns => observeHciIngress event turns
  | .process registry answer => do
      processHciEstablishment registry answer
      pure none
  | .reset closing => do
      retireHciEstablishment
      Program.onlyIf (¬closing) (setIngressEnabled true)
      .write fun cells => { cells with backendGeneration := cells.backendGeneration + 1 }
      pure none
  | .start incarnation generation => do
      .write fun cells => { cells with stackIncarnation := incarnation }
      .write fun cells => { cells with backendGeneration := generation }
      retireHciEstablishment
      setIngressEnabled true
      pure none
  | .beginStop refused => do
      setIngressEnabled false
      .write fun cells => { cells with ingressEpoch := (cells.ingressEpoch + 1) % 2 ^ 64 }
      Program.onlyIf refused (setIngressEnabled true)
      pure none
  | .stop => do
      retireHciEstablishment
      pure none
  | .setGeneration generation => do
      .write fun cells => { cells with backendGeneration := generation }
      pure none
  | .setHidden requested => do
      .write fun cells => { cells with hiddenExposureRequested := requested }
      pure none

/-- The tasks in which the operations run. -/
def HciOperation.belongsTo : HciOperation → HciTask → Bool
  | .observe .., .controller => true
  | .process .., .host => true
  | .reset _, .host => true
  | .start .., .control => true
  | .beginStop _, .control => true
  | .stop, .control => true
  | .setGeneration _, .control => true
  | .setHidden _, .control => true
  | _, _ => false

end HidBot.BleTransport
