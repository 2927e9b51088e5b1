import HidBot.Runtime.Callbacks

/-!
# Route requests, sequences and sleep

The requests that select and leave an output route, the sequences that reserve
it for one owner, and the claim of a quiet runtime that simulated sleep takes.
-/

namespace HidBot.Runtime

open Interleaving

/-! ### Route status -/

structure RouteStatusSnapshot where
  route : Route.Snapshot := {}
  ready : Bool := false
  deriving DecidableEq, Repr

def routeUsbReady (route : Route.Snapshot) (lifecycle : UsbLifecycle.Snapshot)
    (runtime : StatusSnapshot) : Program Words Bool :=
  .allOf [return routeIsExactly route (.stable .usb route.generation) &&
      lifecycle.desired == .exposed && lifecycle.observed == .mounted && runtime.mounted &&
      !runtime.suspended && runtime.keyboardReady && runtime.mouseReady,
    do return !(← anySafetyRequired),
    return !lifecycle.safetyPending && !lifecycle.hostReleaseUncertain &&
      !lifecycle.recoveryRequired]

/-- Two snapshots of the route between which nothing has moved. -/
def routeStable (before after : Route.Snapshot) : Bool :=
  before.coherent && after.coherent && before.sameRoute after &&
    before.invalidationPending == after.invalidationPending

/-- Two snapshots of the lifecycle with the same exposure and the same safety flags. -/
def lifecycleStable (before after : UsbLifecycle.Snapshot) : Bool :=
  before.desired == after.desired && before.observed == after.observed &&
    before.generation == after.generation && before.safetyPending == after.safetyPending &&
    before.hostReleaseUncertain == after.hostReleaseUncertain &&
    before.recoveryRequired == after.recoveryRequired

/-- `route_status_snapshot`, with the attempts that are left. -/
def routeStatusWithin : Nat → Route.Snapshot → Program Words RouteStatusSnapshot
  | 0, fallback => return { route := fallback }
  | attempts + 1, _ => do
      let routeBefore ← routeSnapshot
      let lifecycleBefore ← usbSnapshot
      let runtimeBefore ← status
      let lifecycleAfter ← usbSnapshot
      let runtimeAfter ← status
      let routeAfter ← routeSnapshot
      if routeStable routeBefore routeAfter && lifecycleStable lifecycleBefore lifecycleAfter &&
          runtimeBefore == runtimeAfter then
        return { route := routeAfter
                 ready := ← routeUsbReady routeAfter lifecycleAfter runtimeAfter }
      routeStatusWithin attempts routeAfter

def routeStatusSnapshot : Program Words RouteStatusSnapshot := do
  routeStatusWithin 3 (← routeSnapshot)

/-! ### Route requests -/

inductive RouteTransitionResult where
  | accepted
  | noOp
  | busy
  | notReady
  | safetyPending
  deriving DecidableEq, Repr

structure RouteTransitionOutcome where
  actionResult : RouteTransitionResult := .busy
  snapshotValid : Bool := false
  asyncRequired : Bool := false
  snapshot : RouteStatusSnapshot := {}
  deriving DecidableEq, Repr

/-- An outcome that reports the route as it was found or left. -/
def routeOutcome (actionResult : RouteTransitionResult) (snapshot : RouteStatusSnapshot) :
    RouteTransitionOutcome :=
  { actionResult, snapshotValid := true, snapshot }

/-- The lifecycle and the runtime can carry a USB route. -/
def usbRouteUsable (lifecycle : UsbLifecycle.Snapshot) (runtime : StatusSnapshot) : Bool :=
  lifecycle.desired == .exposed && lifecycle.observed == .mounted &&
    !lifecycle.recoveryRequired && runtime.mounted && !runtime.suspended &&
    runtime.keyboardReady && runtime.mouseReady

def requestRouteUsb (task : Route.Task) : Program Words RouteTransitionOutcome := do
  let publicationCut ← onRoute (.read (·.usbPublication))
  let before ← routeStatusSnapshot
  let lifecycle ← usbSnapshot
  let safetyOwed := lifecycle.safetyPending || lifecycle.hostReleaseUncertain
  if before.route.sameRoute (.stable .usb before.route.generation) then
    return routeOutcome
      (if before.ready then .noOp else if safetyOwed then .safetyPending else .notReady) before
  if !routeIsExactly before.route (.stable .none before.route.generation) then
    return {}
  let runtime ← status
  if ← .anyOf [return safetyOwed, anySafetyRequired] then
    return routeOutcome .safetyPending before
  if !usbRouteUsable lifecycle runtime then
    return routeOutcome .notReady before
  retireUnsafeRouteAuthority
  let committed ← onRoute (Route.commitUsbIfNone task (some publicationCut) [false])
  return routeOutcome (if committed then .accepted else .notReady) (← routeStatusSnapshot)

def notReadyOn (route : Route.Snapshot) : RouteTransitionOutcome :=
  routeOutcome .notReady { route }

/-- `allocate_generation` on the activation epochs. -/
def drawProfileActivationEpoch : Program Words (Option ProfileActivationEpoch) :=
  .readModifyWrite fun words =>
    if words.nextProfileActivationEpoch = 0 then (none, words)
    else (some words.nextProfileActivationEpoch,
      { words with nextProfileActivationEpoch := words.nextProfileActivationEpoch + 1 })

/-- Commit the BLE route under a fresh activation and publish its authority. -/
def commitBleRoute (task : Route.Task) (activation : BleRouteActivation) :
    Program Words RouteTransitionOutcome := do
  retireUnsafeRouteAuthority
  if !(← onRoute (Route.commitBleIfNone task)) then
    return notReadyOn (← routeSnapshot)
  let active ← routeSnapshot
  if !routeIsExactly active (.stable .ble active.generation) then
    let _ ← onRoute (Route.invalidateIfMatches task active)
    return notReadyOn (← routeSnapshot)
  publishBleRouteAuthority activation (← authorityEpoch) active.generation
  return routeOutcome .accepted { route := active, ready := true }

def requestRouteBle (task : Route.Task) (activation : BleRouteActivation) :
    Program Words RouteTransitionOutcome := do
  let before ← routeSnapshot
  let defined := inputRouteDefinitionValid activation.presentRoles
    activation.requiredInputSubscriptions activation.reportHandles
  if ← .anyOf [return activation.connectionHandle == noBleConnection || !defined,
      do return activation.expectedAuthorityEpoch != (← authorityEpoch),
      return activation.expectedRouteGeneration != before.generation] then
    return notReadyOn before
  if !routeIsExactly before (.stable .none before.generation) then
    return {}
  if ← .anyOf [releaseRequested, anySafetyRequired] then
    return routeOutcome .safetyPending { route := before }
  match ← drawProfileActivationEpoch with
  | none => return notReadyOn before
  | some profileActivationEpoch => commitBleRoute task { activation with profileActivationEpoch }

/-- What an interface owes when its USB route is released. -/
def releaseUsbInterface (interface : Interface) : Program Words Bool := do
  let needsSafety ← .anyOf [do return !(← knownAllUp interface), inFlight interface,
    hostStateUncertain interface]
  .onlyIf (needsSafety = true) do
    requireSafety interface
    storeUncertain interface
  landReport interface
  cancelQueued interface
  return needsSafety

def releaseUsbRoute (task : Route.Task) : Program Words RouteTransitionOutcome := do
  match ← onRoute (Route.beginRelease task .usb) with
  | none => return {}
  | some stageA =>
      retireUnsafeRouteAuthority
      let keyboard ← releaseUsbInterface .keyboard
      let mouse ← releaseUsbInterface .mouse
      let requiresSafety := keyboard || mouse
      .onlyIf (requiresSafety = false) do
        onUsb UsbLifecycle.markReleaseConfirmed
        let _ ← onRoute (Route.completeRelease task .usb stageA)
      return { routeOutcome .accepted { route := stageA } with asyncRequired := requiresSafety }

def requestRouteNone (task : Route.Task) : Program Words RouteTransitionOutcome := do
  let before ← routeStatusSnapshot
  if before.route.sameRoute (.stable .none before.route.generation) then
    return routeOutcome .noOp before
  if !before.route.coherent || before.route.invalidationPending ||
      before.route.transition != .stable then
    return {}
  if before.route.desired = .ble ∧ before.route.active = .ble then
    let authority ← bleRouteAuthoritySnapshot
    if ← retireBleRouteIfMatches task authority none then
      return { routeOutcome .accepted (← routeStatusSnapshot) with asyncRequired := true }
    return {}
  if before.route.desired = .usb ∧ before.route.active = .usb then
    releaseUsbRoute task
  else
    return {}

def completeRouteRelease (task : Route.Task) (stageA : Route.Snapshot) : Program Words Unit := do
  let _ ← onRoute (Route.completeRelease task .usb stageA)

def terminalizeRouteReleaseScheduleFailure (task : Route.Task) (stageA : Route.Snapshot) :
    Program Words Unit := do
  markLifecycleDetachUncertain (← attachGeneration)
  completeRouteRelease task stageA

/-! ### Sequences -/

structure ConfirmedHidState where
  keyboard : KeyboardState := {}
  mouse : MouseState := {}
  deriving DecidableEq, Repr

inductive SequenceAdmission where
  | accepted (state : ConfirmedHidState) (authority : SequenceAuthority)
  | busy
  | notReady
  | safetyPending
  deriving DecidableEq, Repr

/-- A compare-exchange that gives up the sequence, if it is still this one. -/
def dropSequence (generation : UInt32) : Program Words Unit :=
  .write fun words =>
    if words.sequenceGeneration = generation then { words with sequenceGeneration := 0 } else words

/-- `allocate_generation` on the sequences. -/
def drawSequenceGeneration : Program Words (Option UInt32) :=
  .readModifyWrite fun words =>
    if words.nextSequenceGeneration = 0 then (none, words)
    else (some words.nextSequenceGeneration,
      { words with nextSequenceGeneration := words.nextSequenceGeneration + 1 })

/-- The compare-exchange that takes the sequence word. -/
def takeSequence (generation : UInt32) : Program Words Bool :=
  .readModifyWrite fun words =>
    if words.sequenceGeneration = 0 then (true, { words with sequenceGeneration := generation })
    else (false, words)

/-- A ticket that is not at rest keeps a sequence out. -/
def TicketState.busy : TicketState → Bool
  | .writing | .writingCanceled | .published | .claimed => true
  | .free | .submitted | .notReady | .canceled => false

def sequenceSafetyPending : Program Words Bool :=
  .anyOf [safetyPending, hostStateUncertain .keyboard, hostStateUncertain .mouse]

def mailboxesBusy : Program Words Bool :=
  .anyOf [inFlight .keyboard, inFlight .mouse, slotBusy .keyboard, slotBusy .mouse]

/-- USB is ready for a sequence on both interfaces. -/
def usbSequenceReady (route : Route.Snapshot) (runtime : StatusSnapshot) : Program Words Bool :=
  .allOf [return route.coherent && route.active == .usb && runtime.mounted &&
      !runtime.suspended && runtime.keyboardReady && runtime.mouseReady,
    unsafeRouteActive route.generation .usb]

def bleSequenceReady (route : Route.Snapshot) (ble : BleRouteAuthoritySnapshot)
    (authority : AuthorityEpoch) : Program Words Bool :=
  .allOf [return route.coherent && ble.coherent && ble.active && route.active == .ble &&
      ble.routeGeneration == route.generation && ble.authorityEpoch == authority,
    unsafeRouteActive route.generation .ble]

/-- What a sequence finds before it reads the confirmed state. -/
def sequenceObstacle (usbReady bleReady : Bool) : Program Words (Option SequenceAdmission) := do
  if usbReady = false ∧ bleReady = false then
    return some .notReady
  if ← sequenceSafetyPending then
    return some .safetyPending
  if ← .anyOf [ticketField .keyboard (·.state.busy), ticketField .mouse (·.state.busy),
      mailboxesBusy] then
    return some .busy
  return none

/-- What a sequence finds after it has read the confirmed state. -/
def lateSequenceObstacle (usbReady bleReady : Bool) (route : Route.Snapshot)
    (ble : BleRouteAuthoritySnapshot) (authority : AuthorityEpoch) :
    Program Words (Option SequenceAdmission) := do
  let finalStatus ← status
  let finalRoute ← routeSnapshot
  let usbStillReady ← .allOf [return usbReady && finalRoute.coherent &&
      finalRoute.active == .usb && finalRoute.generation == route.generation &&
      finalStatus.mounted && !finalStatus.suspended && finalStatus.keyboardReady &&
      finalStatus.mouseReady, unsafeRouteActive route.generation .usb]
  let bleStillReady ← .allOf [return bleReady, bleRouteNormalAuthorityMatches ble]
  if ← .anyOf [do return (← authorityEpoch) != authority,
      return !usbStillReady && !bleStillReady] then
    return some .notReady
  if ← sequenceSafetyPending then
    return some .safetyPending
  if ← mailboxesBusy then
    return some .busy
  return none

/-- The rest of `begin_sequence`, after the sequence word was taken. -/
def admitSequence (generation : UInt32) : Program Words SequenceAdmission := do
  let authority ← authorityEpoch
  let current ← status
  let route ← routeSnapshot
  let ble ← bleRouteAuthoritySnapshot
  let usbReady ← usbSequenceReady route current
  let bleReady ← bleSequenceReady route ble authority
  match ← sequenceObstacle usbReady bleReady with
  | some obstacle => return obstacle
  | none =>
      let keyboard ← interfaceField .keyboard (·.confirmedKeyboard)
      let mouse ← interfaceField .mouse (·.confirmedMouseButtons)
      match ← lateSequenceObstacle usbReady bleReady route ble authority with
      | some obstacle => return obstacle
      | none =>
          let epoch ← releaseEpoch
          let admitted : SequenceAuthority := {
            generation
            authorityEpoch := authority
            releaseEpoch := epoch
            profileActivationEpoch := if usbReady then 0 else ble.profileActivationEpoch
            activeRoles := if usbReady then inputRoles else ble.presentRoles
            transport := if usbReady then .usb else .ble
            routeGeneration := route.generation }
          if ← sequenceAuthorityCurrent admitted then
            return .accepted { keyboard := .ofReport keyboard, mouse := { buttons := mouse } }
              admitted
          return .safetyPending

def beginSequence : Program Words SequenceAdmission :=
  admitted false fun acquired => do
    if acquired = false then
      return .busy
    match ← drawSequenceGeneration with
    | none => return .notReady
    | some generation =>
        if !(← takeSequence generation) then
          return .busy
        let admission ← admitSequence generation
        match admission with
        | .accepted .. => return admission
        | _ =>
            dropSequence generation
            return admission

def endSequence (sequence : SequenceAuthority) : Program Words Unit :=
  dropSequence sequence.generation

def revokeSequence : Program Words Unit :=
  admitted true fun _ => .write fun words => { words with sequenceGeneration := 0 }

/-! ### Simulated sleep -/

def profileSwitchQuiescent : Program Words Bool :=
  .allOf [do return !(← sequenceActive), do return !(← releaseProducersBlocked),
    do return !(← releaseRequested), knownAllUp .keyboard, knownAllUp .mouse,
    do return !(← releaseInterfaceWorkPending .keyboard),
    do return !(← releaseInterfaceWorkPending .mouse), lifecycleDetachSafetyClean]

def releaseSleepQuiescence : Program Words Unit :=
  .write fun words => { words with
    sleepQuiescenceGate := words.sleepQuiescenceGate &&& sleepQuiescenceAdmissionMask }

def claimSleepQuiescence (expectedAuthorityEpoch : AuthorityEpoch)
    (expectedRouteGeneration : RouteGeneration) : Program Words Bool := do
  let claimed ← .readModifyWrite fun words =>
    if words.sleepQuiescenceGate = 0 then
      (true, { words with sleepQuiescenceGate := sleepQuiescenceClaimed })
    else (false, words)
  if !claimed then
    return false
  let route ← routeSnapshot
  if ← .allOf [do return (← authorityEpoch) == expectedAuthorityEpoch,
      return routeIsExactly route (.stable .none expectedRouteGeneration),
      profileSwitchQuiescent] then
    return true
  releaseSleepQuiescence
  return false

def commitSleepQuiescence : Program Words Bool :=
  .readModifyWrite fun words =>
    if words.sleepQuiescenceGate = sleepQuiescenceClaimed then
      (true, { words with sleepQuiescenceGate := sleepQuiescenceCommitted })
    else (false, words)

end HidBot.Runtime
