import HidBot.Runtime.Observation

/-!
# Authority

The operations that end authority: cancellations, epochs and release requests.
On top of them the retained BLE route: its publication, its retirement and the
completion of its release.
-/

namespace HidBot.Runtime

open Interleaving

variable {α : Type}

/-! ### Admission gate -/

def sleepQuiescenceAdmissionMask : UInt32 := 0x1fffffff

def sleepQuiescenceClaimed : UInt32 := 0x20000000

def sleepQuiescenceConflict : UInt32 := 0x40000000

def sleepQuiescenceCommitted : UInt32 := 0x80000000

def sleepQuiescenceControlMask : UInt32 := 0xe0000000

/-- The gate after an admission and whether it was acquired. A full gate aborts
the device for safety work; here it rejects. -/
def admission (safety : Bool) (observed : UInt32) : Bool × UInt32 :=
  let control := observed &&& sleepQuiescenceControlMask
  if observed &&& sleepQuiescenceAdmissionMask = sleepQuiescenceAdmissionMask then
    (false, observed)
  else if control = 0 then
    (true, observed + 1)
  else if safety = false then
    (false, if control = sleepQuiescenceClaimed then observed ||| sleepQuiescenceConflict
      else observed)
  else if control = sleepQuiescenceClaimed ∨
      control = sleepQuiescenceClaimed ||| sleepQuiescenceConflict then
    (true, (observed + 1) ||| sleepQuiescenceConflict)
  else
    (true, observed + 1)

/-- `ScopedConflictingAdmission` around a call. -/
def admitted (safety : Bool) (call : Bool → Program Words α) : Program Words α := do
  let acquired ← .readModifyWrite fun words =>
    ((admission safety words.sleepQuiescenceGate).1,
      { words with sleepQuiescenceGate := (admission safety words.sleepQuiescenceGate).2 })
  let result ← call acquired
  .onlyIf (acquired = true) (.write fun words =>
    { words with sleepQuiescenceGate := words.sleepQuiescenceGate - 1 })
  return result

/-! ### Cancellation -/

def ReleaseAllTicket.cancel (ticket : ReleaseAllTicket) : ReleaseAllTicket :=
  if ticket.state = .admitting ∨ ticket.state = .open then
    { ticket with state := .canceled, keyboard := .canceled, mouse := .canceled }
  else ticket

def cancelReleaseTicket : Program Words Unit :=
  .write fun words => { words with releaseTicket := words.releaseTicket.cancel }

/-- A section under the lock of a ticket: the ticket it leaves and what it did. -/
def Words.withTicket (words : Words) (interface : Interface) (ticket : ReportTicket)
    (events : List Event) : Words :=
  { words with
    tickets := Function.update words.tickets interface ticket
    record := { words.record with events := events ++ words.record.events } }

/-- A ticket becomes terminal. -/
def ReportTicket.settle (ticket : ReportTicket) (state : TicketState) (outcome : TicketOutcome) :
    ReportTicket :=
  { ticket with state, outcome }

/-- `cancel_keyboard_ticket` and `cancel_mouse_ticket`: a claimed ticket is past
the point where it can be canceled. -/
def cancelTicket (interface : Interface) (outcome : TicketOutcome) : Program Words Unit :=
  .write fun words =>
    let ticket := words.tickets interface
    match ticket.state with
    | .writing => words.withTicket interface (ticket.settle .writingCanceled outcome) []
    | .published =>
        words.withTicket interface (ticket.settle .canceled outcome)
          [.settled ticket.token.ticketId outcome]
    | _ => words

def cancelKeyboardTicket (outcome : TicketOutcome) : Program Words Unit :=
  cancelTicket .keyboard outcome

def cancelMouseTicket (outcome : TicketOutcome) : Program Words Unit := cancelTicket .mouse outcome

/-! ### Epochs -/

def advanceAuthorityEpoch : Program Words Unit :=
  .write fun words => { words with authorityEpoch := words.authorityEpoch + 1 }

def advanceReleaseEpoch : Program Words Unit :=
  .write fun words => { words with releaseEpoch := words.releaseEpoch + 1 }

/-- The release epoch stands still while a retained BLE route waits for it. -/
def advanceReleaseEpochUnlessReleasing : Program Words Unit := do
  let ble ← bleRouteAuthoritySnapshot
  .onlyIf (ble.releasing = false) advanceReleaseEpoch

/-- The three cancellations with which every loss of authority begins. -/
def cancelWork : Program Words Unit := do
  cancelReleaseTicket
  cancelKeyboardTicket .authorityLost
  cancelMouseTicket .authorityLost

def retireUnsafeRouteAuthority : Program Words Unit := do
  cancelWork
  advanceAuthorityEpoch
  advanceReleaseEpoch

/-! ### Release requests -/

/-- `fail_release_locked`. -/
def ReleaseAllTicket.fail (ticket : ReleaseAllTicket) (expectedId : ReleaseAllId)
    (continuityLost : Bool) : ReleaseAllTicket :=
  if expectedId = 0 ∨ expectedId ≠ ticket.id then ticket
  else if ticket.state = .admitting ∨ ticket.state = .open then
    { ticket with state := .failed, bleContinuityLost := continuityLost }
  else ticket

/-- The section of `publish_release_request` that draws the request epoch. -/
def drawRequestEpoch : Program Words Unit :=
  .write fun words =>
    let ble := bleRouteAuthoritySnapshot.value words
    let releaseEpoch := if ble.releasing then words.releaseEpoch else words.releaseEpoch + 1
    { words with
      releaseTicket := words.releaseTicket.fail words.releaseTicket.id false
      releaseEpoch
      releaseRequestEpoch := if ble.releasing then ble.releaseEpoch else releaseEpoch }

def publishReleaseRequest : Program Words Unit := do
  .write fun words => { words with sequenceGeneration := 0 }
  let generation ← attachGeneration
  .write fun words => { words with releaseRequestGeneration := generation }
  let authority ← authorityEpoch
  .write fun words => { words with releaseRequestAuthorityEpoch := authority }
  drawRequestEpoch
  cancelKeyboardTicket .safetyPending
  cancelMouseTicket .safetyPending
  onUsb UsbLifecycle.markReleasePending
  .write fun words => { words with releaseRequested := true }

def storeReleaseRequested (requested : Bool) : Program Words Unit :=
  .write fun words => { words with releaseRequested := requested }

/-- The request is dropped with its identity. -/
def clearReleaseRequest : Program Words Unit := do
  .write fun words => { words with releaseRequestGeneration := 0 }
  .write fun words => { words with releaseRequestAuthorityEpoch := 0 }
  .write fun words => { words with releaseRequestEpoch := 0 }
  storeReleaseRequested false

/-- Both checks of `reconcile_zero_work_release`. -/
def zeroWorkRelease (generation : UsbGeneration) (authority : AuthorityEpoch) (epoch : UInt32)
    (requireUnavailableTransport : Bool) : Program Words Bool :=
  .allOf [releaseRequestIsCurrent generation authority epoch,
    knownAllUp .keyboard,
    knownAllUp .mouse,
    do return !(← usbSnapshot).hostReleaseUncertain,
    do return !(← usbSnapshot).recoveryRequired,
    if requireUnavailableTransport then unavailableUsbTransportIsClean else return true]

def reconcileZeroWorkRelease (generation : UsbGeneration) (authority : AuthorityEpoch)
    (epoch : UInt32) (requireUnavailableTransport : Bool) : Program Words Unit := do
  if ← zeroWorkRelease generation authority epoch requireUnavailableTransport then
    if ← zeroWorkRelease generation authority epoch requireUnavailableTransport then
      let _ ← onUsb UsbLifecycle.clearReleasePendingIfNotUncertain
      let afterClear ← usbSnapshot
      -- A newer request may have been published since the second check.
      if ← .anyOf [releaseRequested, do return !(← knownAllUp .keyboard),
          do return !(← knownAllUp .mouse),
          return afterClear.hostReleaseUncertain || afterClear.recoveryRequired] then
        onUsb UsbLifecycle.markReleasePending

/-- The request words name the current generation and epochs. -/
def releaseRequestNamesCurrent : Program Words Bool := do
  let generation ← attachGeneration
  let authority ← authorityEpoch
  let epoch ← releaseEpoch
  .allOf [.read (·.releaseRequestGeneration == generation),
    .read (·.releaseRequestAuthorityEpoch == authority),
    .read (·.releaseRequestEpoch == epoch)]

/-- The inner loop of `reconcile_unavailable_zero_work_release`, with the turns
that are left. -/
def reconcileRequests : Nat → Program Words Unit
  | 0 => return ()
  | turns + 1 => do
      if ← .allOf [releaseRequested, unavailableUsbTransportIsClean] then
        let generation ← .read (·.releaseRequestGeneration)
        let authority ← .read (·.releaseRequestAuthorityEpoch)
        let epoch ← .read (·.releaseRequestEpoch)
        if ← activeReleaseRequestIsCurrent generation authority epoch then
          storeReleaseRequested false
          if ← releaseRequestIsCurrent generation authority epoch then
            reconcileZeroWorkRelease generation authority epoch true
          else if ← releaseRequestNamesCurrent then
            storeReleaseRequested true
            onUsb UsbLifecycle.markReleasePending
          reconcileRequests turns

/-- The outer loop, entered as the active reconciler. -/
def reconcileAsActive (inner : Nat) : Nat → Program Words Unit
  | 0 => return ()
  | turns + 1 => do
      reconcileRequests inner
      .write fun words => { words with unavailableReleaseReconcilerActive := false }
      if ← .allOf [releaseRequested, unavailableUsbTransportIsClean] then
        let active ← .readModifyWrite fun words =>
          (words.unavailableReleaseReconcilerActive,
            { words with unavailableReleaseReconcilerActive := true })
        if !active then
          reconcileAsActive inner turns

/-- The turns after which the loops are cut off. A call that runs alone leaves
them by itself when its request names the current epochs. -/
def reconcilerTurns : Nat := 2

def reconcileUnavailableZeroWorkRelease : Program Words Unit := do
  let active ← .readModifyWrite fun words =>
    (words.unavailableReleaseReconcilerActive,
      { words with unavailableReleaseReconcilerActive := true })
  if !active then
    reconcileAsActive reconcilerTurns reconcilerTurns

def requestReleaseAll : Program Words Unit :=
  admitted true fun _ => do
    publishReleaseRequest
    reconcileUnavailableZeroWorkRelease

/-! ### Cleared interfaces -/

/-- The stores of `clear_interface`. -/
def InterfaceState.clear (state : InterfaceState) : InterfaceState :=
  { state with
    slotState := .empty
    inFlight := false
    safetyRequired := false
    hostStateUncertain := false
    logicalStateHeld := false
    keyboard := {}
    mouse := {} }

/-- Only the confirmed state of the interface itself is written. -/
def InterfaceState.confirmAllUp (interface : Interface) (state : InterfaceState) : InterfaceState :=
  match interface with
  | .keyboard => { state with confirmedKeyboard := Interface.keyboard.allUp }
  | .mouse => { state with confirmedMouseButtons := 0 }

def clearInterface (interface : Interface) : Program Words Unit :=
  onInterface interface fun state => state.clear.confirmAllUp interface

def bothInterfaces (call : Interface → Program Words Unit) : Program Words Unit := do
  call .keyboard
  call .mouse

/-- The two stores that oblige the executor to send an all-up report. -/
def requireSafety (interface : Interface) : Program Words Unit :=
  onInterface interface fun state => { state with safetyRequired := true }

def storeUncertain (interface : Interface) : Program Words Unit :=
  onInterface interface fun state => { state with hostStateUncertain := true }

/-! ### The retained BLE route -/

def onBleRoute (change : Words → BleRouteAuthoritySnapshot) : Program Words Unit := do
  .write fun words => { words with bleRouteSequence := words.bleRouteSequence + 1 }
  .write fun words => { words with bleRoute := change words }
  .write fun words => { words with bleRouteSequence := words.bleRouteSequence + 1 }

def publishBleRouteAuthority (activation : BleRouteActivation) (authority : AuthorityEpoch)
    (generation : RouteGeneration) : Program Words Unit :=
  onBleRoute fun words =>
    { authorityEpoch := authority
      routeGeneration := generation
      bleGeneration := activation.bleGeneration
      connectionHandle := activation.connectionHandle
      profileActivationEpoch := activation.profileActivationEpoch
      presentRoles := activation.presentRoles
      requiredInputSubscriptions := activation.requiredInputSubscriptions
      reportHandles := activation.reportHandles
      active := true
      releasing := false
      releaseEpoch := words.releaseEpoch }

def clearBleRouteAuthority : Program Words Unit := onBleRoute fun _ => {}

/-- The identity that two snapshots share, whatever their phase. -/
def BleRouteAuthoritySnapshot.sameTuple (current expected : BleRouteAuthoritySnapshot) : Bool :=
  current.authorityEpoch == expected.authorityEpoch &&
    current.routeGeneration == expected.routeGeneration &&
    current.bleGeneration == expected.bleGeneration &&
    current.connectionHandle == expected.connectionHandle &&
    current.profileActivationEpoch == expected.profileActivationEpoch &&
    current.presentRoles == expected.presentRoles &&
    current.requiredInputSubscriptions == expected.requiredInputSubscriptions &&
    current.reportHandles == expected.reportHandles &&
    current.releaseEpoch == expected.releaseEpoch

/-- A coherent snapshot of this route with no invalidation pending. -/
def routeIsExactly (route expected : Route.Snapshot) : Bool :=
  route.coherent && !route.invalidationPending && route.sameRoute expected

/-- `uncertain`: the interface whose last report the host may have lost. -/
def retireBleRouteIfMatches (task : Route.Task) (expected : BleRouteAuthoritySnapshot)
    (uncertain : Option Interface) : Program Words Bool := do
  let current ← bleRouteAuthoritySnapshot
  let route ← routeSnapshot
  if expected.coherent && expected.active && !expected.releasing && current.coherent &&
      current.active && current.sameTuple expected &&
      routeIsExactly route (.stable .ble expected.routeGeneration) then
    if (← onRoute (Route.beginRelease task .ble)).isSome then
      retireUnsafeRouteAuthority
      let retirementEpoch ← releaseEpoch
      onBleRoute fun words =>
        { words.bleRoute with active := false, releasing := true, releaseEpoch := retirementEpoch }
      match uncertain with
      | some affected => do
          storeUncertain affected
          requireSafety affected
      | none => pure ()
      bothInterfaces fun interface => do
        if ← .anyOf [logicalStateHeld interface, hostStateUncertain interface] then
          requireSafety interface
      return true
    else
      return false
  else
    return false

def bleRouteNormalAuthorityMatches (expected : BleRouteAuthoritySnapshot) :
    Program Words Bool := do
  let current ← bleRouteAuthoritySnapshot
  if expected.coherent && expected.active && !expected.releasing && current.coherent &&
      current.active && !current.releasing && current.sameTuple expected then
    if (← authorityEpoch) = expected.authorityEpoch then
      return (← releaseEpoch) = expected.releaseEpoch
    else
      return false
  else
    return false

def bleRouteReleaseMatches (expected : BleRouteAuthoritySnapshot) : Program Words Bool := do
  let current ← bleRouteAuthoritySnapshot
  let route ← routeSnapshot
  if expected.coherent && expected.releasing && !expected.active && current.coherent &&
      current.releasing && !current.active && current.sameTuple expected then
    if (← releaseEpoch) = expected.releaseEpoch then
      return routeIsExactly route (.releasing .ble expected.routeGeneration)
    else
      return false
  else
    return false

def completeBleRouteReleaseIfMatches (task : Route.Task) (expected : BleRouteAuthoritySnapshot) :
    Program Words Bool := do
  if ← bleRouteReleaseMatches expected then
    let route ← routeSnapshot
    if ← onRoute (Route.completeRelease task .ble route) then
      let lifecycle ← usbSnapshot
      let preserveUsbUncertainty ← .anyOf [return lifecycle.hostReleaseUncertain,
        onUsb UsbLifecycle.hasUnresolvedPriorGeneration]
      clearBleRouteAuthority
      advanceReleaseEpoch
      bothInterfaces clearInterface
      cancelReleaseTicket
      clearReleaseRequest
      if preserveUsbUncertainty then
        bothInterfaces fun interface => do
          requireSafety interface
          storeUncertain interface
        requestReleaseAll
      else
        onUsb UsbLifecycle.markReleaseConfirmed
      return true
    else
      return false
  else
    return false

end HidBot.Runtime
