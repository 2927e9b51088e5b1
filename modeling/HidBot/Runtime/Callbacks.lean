import HidBot.Runtime.Execute

/-!
# USB callbacks and lifecycle

What the runtime does when the USB stack reports a mount, an unmount, a suspend,
a resume or a stalled link, and when the control executor attaches, detaches or
shuts the stack down after a fault.
-/

namespace HidBot.Runtime

open Interleaving

/-! ### Safety debt -/

/-- The host may hold something of the interface. -/
def owesSafety (interface : Interface) : Program Words Bool :=
  .anyOf [logicalStateHeld interface, inFlight interface, hostStateUncertain interface]

/-- `preserve_suspend_safety`. A completed all-up report is the only proof that
the host has released an interface. -/
def InterfaceState.preserveSuspendSafety (state : InterfaceState) : InterfaceState :=
  let queuedUnsafeHoldsState := state.slotState == .ready && state.slot.holds
  { state with
    safetyRequired := state.keyboard.held || state.mouse.held || queuedUnsafeHoldsState ||
      state.inFlight || state.hostStateUncertain || state.safetyRequired
    hostStateUncertain := state.inFlight || state.hostStateUncertain
    inFlight := false
    slotState := if state.slotState = .ready then .canceled else state.slotState }

/-- The interface of a host that may still hold what was sent before. -/
def InterfaceState.uncertain (state : InterfaceState) : InterfaceState :=
  { state with
    slotState := .empty
    inFlight := false
    safetyRequired := true
    hostStateUncertain := true
    logicalStateHeld := false }

def storeStatus (statusBits : StatusSnapshot) : Program Words Unit :=
  .write fun words => { words with statusBits }

def onStatus (change : StatusSnapshot → StatusSnapshot) : Program Words Unit :=
  .write fun words => { words with statusBits := change words.statusBits }

def StatusSnapshot.unready (status : StatusSnapshot) : StatusSnapshot :=
  { status with keyboardReady := false, mouseReady := false }

/-- The veto loop makes one turn when nothing interferes. -/
def publishUsbLifecycleVeto : Program Words Unit := onRoute (Route.publishUsbLifecycleVeto [false])

/-- A callback leaves the USB route, and only that. -/
def invalidateUsbRoute (task : Route.Task) : Program Words Unit := do
  let activeRoute ← routeSnapshot
  .onlyIf ((activeRoute.coherent && activeRoute.active == .usb) = true) do
    let _ ← onRoute (Route.invalidateIfMatches task activeRoute)

/-! ### Mount, unmount, suspend and resume -/

/-- The BLE route keeps its held state over a mount. -/
def preserveOverMount (interface : Interface) : Program Words Unit := do
  storeSlot interface .empty
  let needsSafety ← owesSafety interface
  landReport interface
  .onlyIf (needsSafety = true) (requireSafety interface)

def onMount : Program Words Unit :=
  admitted true fun _ => do
    if ← onUsb UsbLifecycle.observeMount then
      let bleRoute ← bleRouteAuthoritySnapshot
      let activeRoute ← routeSnapshot
      cancelWork
      advanceAuthorityEpoch
      .onlyIf (bleRoute.releasing = false) advanceReleaseEpoch
      let retainedStateNeedsSafety ← .anyOf [owesSafety .keyboard, safetyRequired .keyboard,
        owesSafety .mouse, safetyRequired .mouse]
      if ← onUsb UsbLifecycle.hasUnresolvedPriorGeneration then
        -- A reinstalled stack cannot prove that the prior host saw an all-up report.
        bothInterfaces fun interface => onInterface interface (·.uncertain)
        requestReleaseAll
      else if bleRoute.coherent && bleRoute.active || !activeRoute.coherent ||
          activeRoute.active == .ble || activeRoute.desired == .ble ||
          retainedStateNeedsSafety then
        bothInterfaces preserveOverMount
      else
        bothInterfaces clearInterface
      clearReleaseRequest
      storeStatus { mounted := true }
      if (← usbSnapshot).hostReleaseUncertain = false then
        onUsb UsbLifecycle.markReleaseConfirmed

/-- The interface is cleared unless the host may hold something of it. -/
def retireInterface (interface : Interface) : Program Words Bool := do
  let needsSafety ← owesSafety interface
  if needsSafety then
    onInterface interface (·.uncertain)
  else
    clearInterface interface
  return needsSafety

def onUnmount (task : Route.Task) : Program Words Unit :=
  admitted true fun _ => do
    let retiredGeneration ← attachGeneration
    if ← onUsb UsbLifecycle.observeUnmount then
      publishUsbLifecycleVeto
      invalidateUsbRoute task
      cancelWork
      advanceAuthorityEpoch
      advanceReleaseEpochUnlessReleasing
      storeStatus {}
      let keyboard ← retireInterface .keyboard
      let mouse ← retireInterface .mouse
      .onlyIf ((keyboard || mouse) = true)
        (onUsb (UsbLifecycle.markReleaseUncertainForGeneration retiredGeneration))
      clearReleaseRequest
    else if (← usbSnapshot).observed = .detaching then
      storeStatus {}

def onSuspend (task : Route.Task) : Program Words Unit :=
  admitted true fun _ => do
    if ← onUsb UsbLifecycle.observeSuspend then
      publishUsbLifecycleVeto
      invalidateUsbRoute task
      cancelWork
      advanceAuthorityEpoch
      advanceReleaseEpochUnlessReleasing
      bothInterfaces fun interface => onInterface interface (·.preserveSuspendSafety)
      onStatus fun status => { status.unready with suspended := true }

def onResume : Program Words Unit :=
  admitted true fun _ => do
    if ← onUsb UsbLifecycle.observeResume then
      cancelWork
      advanceAuthorityEpoch
      onStatus fun status => { status with suspended := false }

def noteSofActivity : Program Words Unit :=
  .write fun words => { words with sofHeartbeat := words.sofHeartbeat + 1 }

def StatusSnapshot.setReady (status : StatusSnapshot) (interface : Interface) (ready : Bool) :
    StatusSnapshot :=
  match interface with
  | .keyboard => { status with keyboardReady := ready }
  | .mouse => { status with mouseReady := ready }

def setReady (interface : Interface) (ready : Bool) : Program Words Unit := do
  let usable ← .allOf [return ready, do return (← status).mounted, do return !(← status).suspended]
  onStatus (·.setReady interface usable)

/-! ### A stalled link -/

structure UsbLinkWatchdogSnapshot where
  attachGeneration : UsbGeneration := 0
  authorityEpoch : AuthorityEpoch := 0
  routeGeneration : RouteGeneration := 0
  sofHeartbeat : SofHeartbeat := 0
  deriving DecidableEq, Repr

inductive UsbLinkStallResult where
  | applied
  | stale
  | pending
  deriving DecidableEq, Repr

/-- The lifecycle that the watchdog saw is still the mounted one. -/
def linkMounted (expected : UsbLinkWatchdogSnapshot) (lifecycle : UsbLifecycle.Snapshot)
    (runtime : StatusSnapshot) : Bool :=
  lifecycle.generation == expected.attachGeneration && lifecycle.desired == .exposed &&
    lifecycle.observed == .mounted && !lifecycle.recoveryRequired && runtime.mounted &&
    !runtime.suspended

/-- Neither the authority nor the heartbeat has moved. -/
def linkSilent (expected : UsbLinkWatchdogSnapshot) : Program Words Bool :=
  .allOf [do return (← authorityEpoch) == expected.authorityEpoch,
    .read (·.sofHeartbeat == expected.sofHeartbeat)]

def withdrawConditional (expected : UsbLinkWatchdogSnapshot)
    (token : Route.ConditionalInvalidationToken) :
    Program Words (UsbLinkStallResult × Route.ConditionalInvalidationToken) := do
  .onlyIf (token ≠ Route.noConditionalInvalidationToken) do
    let _ ← onRoute (Route.cancelConditionalInvalidation expected.routeGeneration token)
  return (.stale, Route.noConditionalInvalidationToken)

/-- The stall as the holder of the exact route claim, which it leaves at its end. -/
def stallClaimed (task : Route.Task) (expected : UsbLinkWatchdogSnapshot) :
    Program Words UsbLinkStallResult := do
  let lifecycle ← usbSnapshot
  let runtime ← status
  if !linkMounted expected lifecycle runtime then
    onRoute (Route.releaseClaim task)
    return .stale
  if !(← linkSilent expected) then
    onRoute (Route.releaseClaim task)
    return .stale
  if !(← onRoute (Route.retireClaim task)) then
    onRoute (Route.releaseClaim task)
    return .stale
  cancelWork
  advanceAuthorityEpoch
  advanceReleaseEpochUnlessReleasing
  bothInterfaces fun interface => onInterface interface (·.preserveSuspendSafety)
  onStatus StatusSnapshot.unready
  onRoute (Route.releaseClaim task)
  return .applied

/-- Tokens 0 and 2^32 - 1 are skipped, so the third attempt finds one. -/
def conditionalTokenAttempts : Nat := 3

def onUsbLinkStall (task : Route.Task) (expected : UsbLinkWatchdogSnapshot)
    (token : Route.ConditionalInvalidationToken) :
    Program Words (UsbLinkStallResult × Route.ConditionalInvalidationToken) :=
  admitted true fun _ => do
    let lifecycle ← usbSnapshot
    let runtime ← status
    let route ← routeSnapshot
    if !linkMounted expected lifecycle runtime then
      return ← withdrawConditional expected token
    if !(← linkSilent expected) then
      return ← withdrawConditional expected token
    if route.coherent = false then
      if route.invalidationPending && token != Route.noConditionalInvalidationToken then
        return (.pending, token)
      return ← withdrawConditional expected token
    if !route.sameRoute (.stable .usb expected.routeGeneration) then
      return ← withdrawConditional expected token
    let claim ← onRoute (Route.claimInvalidationIfMatches task route token false
      conditionalTokenAttempts)
    match claim with
    | (.pending, token) => return (.pending, token)
    | (.stale, token) => withdrawConditional expected token
    | (.claimedExact, _) =>
        return (← stallClaimed task expected, Route.noConditionalInvalidationToken)

/-! ### Attach and detach -/

structure UsbTransitionOutcome where
  actionResult : UsbLifecycle.TransitionResult := .busy
  snapshotValid : Bool := false
  lifecycle : UsbLifecycle.Snapshot := {}
  runtime : StatusSnapshot := {}
  deriving DecidableEq, Repr

/-- The outcome that an accepted or rejected lifecycle request reports. -/
def transitionOutcome (transition : UsbLifecycle.TransitionOutcome) (runtime : StatusSnapshot) :
    UsbTransitionOutcome :=
  { actionResult := transition.actionResult
    snapshotValid := transition.snapshotValid
    lifecycle := transition.snapshot
    runtime }

/-- The executor takes the scheduled action or has no room for it. -/
def scheduling (taken : Bool) (_ : UsbLifecycle.ExecutorAction) (_ : UsbLifecycle.Snapshot) :
    Program Words Bool :=
  return taken

def setUsbLifecycle (usbLifecycle : UsbLifecycle.Words) (words : Words) : Words :=
  { words with usbLifecycle }

def requestUsbAttach (taken : Bool) : Program Words UsbTransitionOutcome := do
  let preTransitionRuntime ← status
  let transition ← UsbLifecycle.requestAttach (·.usbLifecycle) setUsbLifecycle (scheduling taken)
  if transition.actionResult = .accepted then
    cancelWork
    advanceAuthorityEpoch
    advanceReleaseEpochUnlessReleasing
    storeStatus {}
    return transitionOutcome transition {}
  else
    return transitionOutcome transition preTransitionRuntime

/-- A detach or a shutdown drops the work of an interface and keeps what it owes. -/
def abandonInterface (interface : Interface) : Program Words Unit := do
  if ← owesSafety interface then
    requireSafety interface
    storeUncertain interface
  landReport interface
  cancelQueued interface

def requestUsbDetach (taken : Bool) : Program Words UsbTransitionOutcome := do
  let stageARuntime ← status
  let transition ← UsbLifecycle.requestDetach (·.usbLifecycle) setUsbLifecycle (scheduling taken)
  if transition.actionResult = .accepted then
    cancelWork
    advanceAuthorityEpoch
    advanceReleaseEpochUnlessReleasing
    bothInterfaces abandonInterface
  return transitionOutcome transition stageARuntime

inductive LifecycleSafetyResult where
  | clean
  | pending
  | uncertain
  deriving DecidableEq, Repr

/-- The safety that an interface owes before its transport is given up. -/
def requireUnlessClean (interface : Interface) : Program Words Bool := do
  let knownClean ← .allOf [knownAllUp interface, do return !(← inFlight interface),
    do return !(← hostStateUncertain interface)]
  .onlyIf (knownClean = false) (requireSafety interface)
  return !knownClean

/-- The common end of `begin_lifecycle_detach_safety` and `begin_route_release_safety`. -/
def beginSafety : Program Words LifecycleSafetyResult := do
  let keyboard ← requireUnlessClean .keyboard
  let mouse ← requireUnlessClean .mouse
  if keyboard || mouse then
    requestReleaseAll
    return .pending
  onUsb UsbLifecycle.markReleaseConfirmed
  return .clean

def beginLifecycleDetachSafety : Program Words LifecycleSafetyResult := do
  let lifecycle ← usbSnapshot
  if lifecycle.desired = .hidden ∧ lifecycle.observed = .detaching then
    beginSafety
  else
    return .uncertain

def beginRouteReleaseSafety (stageA : Route.Snapshot) : Program Words LifecycleSafetyResult := do
  let current ← routeSnapshot
  let lifecycle ← usbSnapshot
  if routeIsExactly current (.releasing .usb stageA.generation) && lifecycle.desired == .exposed &&
      lifecycle.observed == .mounted then
    beginSafety
  else
    return .uncertain

def lifecycleDetachSafetyClean : Program Words Bool :=
  .allOf [do return !(← anySafetyRequired), do return !(← inFlight .keyboard),
    do return !(← inFlight .mouse), do return !(← hostStateUncertain .keyboard),
    do return !(← hostStateUncertain .mouse)]

def markLifecycleDetachUncertain (oldGeneration : UsbGeneration) : Program Words Unit :=
  admitted true fun _ => do
    bothInterfaces fun interface => onInterface interface fun state =>
      { state with
        safetyRequired := true, hostStateUncertain := true, inFlight := false, slotState := .empty }
    onUsb (UsbLifecycle.markReleaseUncertainForGeneration oldGeneration)

def onDriverUninstalled : Program Words Unit :=
  admitted true fun _ => do
    cancelWork
    storeStatus {}
    if (← usbSnapshot).hostReleaseUncertain then
      bothInterfaces fun interface => onInterface interface (·.uncertain)
    else
      bothInterfaces clearInterface
    clearReleaseRequest

/-- `complete_usb_detach_route_invalidation`: the executor names the route that it
captured when the detach was scheduled. -/
def completeUsbDetachRouteInvalidation (task : Route.Task) (oldRoute : Route.Snapshot) :
    Program Words Unit := do
  let _ ← onRoute (Route.invalidateIfMatches task oldRoute)

/-! ### Runtime faults -/

def beginUsbRuntimeFault (errorCode : Int32) : Program Words Bool :=
  admitted true fun _ => do
    if ← onUsb (UsbLifecycle.beginRuntimeFault errorCode) then
      publishUsbLifecycleVeto
      onStatus StatusSnapshot.unready
      return true
    return false

def commitUsbRuntimeFaultShutdown (task : Route.Task) : Program Words Unit := do
  invalidateUsbRoute task
  cancelWork
  advanceAuthorityEpoch
  advanceReleaseEpochUnlessReleasing
  bothInterfaces abandonInterface

end HidBot.Runtime
