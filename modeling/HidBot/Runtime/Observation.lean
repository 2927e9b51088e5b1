import HidBot.Runtime.Words

/-!
# What the runtime observes

The loads of `hid_runtime::StateMachine`: snapshots, the fences that admit unsafe
work, and the predicates over the interfaces and their tickets.
-/

namespace HidBot.Runtime

open Interleaving

variable {α : Type}

def onRoute (call : Program Route.Words α) : Program Words α :=
  call.zoom (·.route) fun route words => { words with route }

def onUsb (call : Program UsbLifecycle.Words α) : Program Words α :=
  call.zoom (·.usbLifecycle) fun usbLifecycle words => { words with usbLifecycle }

/-! ### Snapshots -/

def status : Program Words StatusSnapshot := .read (·.statusBits)

def routeSnapshot : Program Words Route.Snapshot := onRoute Route.snapshot

def usbSnapshot : Program Words UsbLifecycle.Snapshot := onUsb UsbLifecycle.snapshot

def attachGeneration : Program Words UsbGeneration := onUsb UsbLifecycle.generation

def authorityEpoch : Program Words AuthorityEpoch := .read (·.authorityEpoch)

def releaseEpoch : Program Words UInt32 := .read (·.releaseEpoch)

/-- `ble_route_authority_snapshot`, with the attempts that are left. -/
def bleRouteAuthorityWithin : Nat → Program Words BleRouteAuthoritySnapshot
  | 0 => return { coherent := false }
  | attempts + 1 => do
      let before ← .read (·.bleRouteSequence)
      if Route.publicationBusy before then
        bleRouteAuthorityWithin attempts
      else
        let result ← .read (·.bleRoute)
        let after ← .read (·.bleRouteSequence)
        if before = after ∧ Route.publicationBusy after = false then
          return result
        bleRouteAuthorityWithin attempts

def bleRouteAuthoritySnapshot : Program Words BleRouteAuthoritySnapshot :=
  bleRouteAuthorityWithin 3

/-! ### Interfaces -/

def interfaceField (interface : Interface) (field : InterfaceState → α) : Program Words α :=
  .read fun words => field (words.interfaces interface)

def ticketField (interface : Interface) (field : ReportTicket → α) : Program Words α :=
  .read fun words => field (words.tickets interface)

def Words.withInterface (words : Words) (interface : Interface)
    (change : InterfaceState → InterfaceState) : Words :=
  { words with
    interfaces := Function.update words.interfaces interface (change (words.interfaces interface)) }

/-- One store to the fields of an interface. -/
def onInterface (interface : Interface) (change : InterfaceState → InterfaceState) :
    Program Words Unit :=
  .write fun words => words.withInterface interface change

def safetyRequired (interface : Interface) : Program Words Bool :=
  interfaceField interface (·.safetyRequired)

def hostStateUncertain (interface : Interface) : Program Words Bool :=
  interfaceField interface (·.hostStateUncertain)

def inFlight (interface : Interface) : Program Words Bool := interfaceField interface (·.inFlight)

def logicalStateHeld (interface : Interface) : Program Words Bool :=
  interfaceField interface (·.logicalStateHeld)

def slotBusy (interface : Interface) : Program Words Bool :=
  interfaceField interface (·.slotState != .empty)

def anySafetyRequired : Program Words Bool :=
  .anyOf [safetyRequired .keyboard, safetyRequired .mouse]

/-- A ticket that is being written, is published, or is claimed. -/
def TicketState.live : TicketState → Bool
  | .writing | .published | .claimed => true
  | .free | .writingCanceled | .submitted | .notReady | .canceled => false

def SlotState.live : SlotState → Bool
  | .writing | .ready | .executing => true
  | .empty | .canceled => false

def knownAllUp (interface : Interface) : Program Words Bool := do
  if ← ticketField interface (·.state.live) then
    return false
  if ← .anyOf [logicalStateHeld interface, inFlight interface, safetyRequired interface,
      hostStateUncertain interface] then
    return false
  return !(← interfaceField interface (·.slotState.live))

def releaseInterfaceWorkPending (interface : Interface) : Program Words Bool :=
  .anyOf [interfaceField interface (·.slotState.live), inFlight interface,
    ticketField interface fun ticket => ticket.bleActionPending || ticket.state.live]

def releaseProducersBlocked : Program Words Bool := .read (·.releaseTicket.state.active)

def releaseRequested : Program Words Bool := .read (·.releaseRequested)

def sequenceActive : Program Words Bool := .read (·.sequenceGeneration != 0)

/-- Some release or safety work forbids new unsafe reports. -/
def safetyPending : Program Words Bool :=
  .anyOf [releaseProducersBlocked, releaseRequested, anySafetyRequired]

/-! ### Fences -/

def mountedAndActive (interface : Interface) : Program Words Bool := do
  let snapshot ← status
  if ← onUsb UsbLifecycle.hasUnresolvedPriorGeneration then
    return false
  onUsb (UsbLifecycle.acceptsHid
    (snapshot.mounted && !snapshot.suspended && snapshot.ready interface))

def routeMatches (transport : HidTransport) (generation : RouteGeneration) : Program Words Bool :=
  onRoute (Route.matchesRoute transport.route generation)

def unsafeRouteActive (generation : RouteGeneration) : HidTransport → Program Words Bool
  | .usb => routeMatches .usb generation
  | .ble => do
      let ble ← bleRouteAuthoritySnapshot
      if ble.coherent && ble.active && ble.routeGeneration == generation then
        if ble.authorityEpoch = (← authorityEpoch) then
          routeMatches .ble generation
        else
          return false
      else
        return false

/-- The retained BLE route still carries this work. -/
def BleRouteAuthoritySnapshot.carries (ble : BleRouteAuthoritySnapshot) (interface : Interface)
    (token : HidWorkToken) : Bool :=
  let expectedHandle := ble.reportHandles.get interface.role
  ble.coherent && ble.active && ble.authorityEpoch == token.authorityEpoch &&
    ble.routeGeneration == token.routeGeneration &&
    ble.bleGeneration == token.transportGeneration &&
    ble.profileActivationEpoch == token.profileActivationEpoch &&
    hasRole ble.presentRoles interface.role && ble.connectionHandle == token.connectionHandle &&
    expectedHandle != 0 && expectedHandle == token.characteristicHandle

def unsafeWorkCurrent (interface : Interface) (token : HidWorkToken) : Program Words Bool := do
  let currentSequence ← .read (·.sequenceGeneration)
  if token.reportKind ≠ interface.unsafeKind then
    return false
  if token.authorityEpoch ≠ (← authorityEpoch) then
    return false
  if token.releaseEpoch ≠ (← releaseEpoch) then
    return false
  -- Ordinary work has generation zero, and so has no sequence.
  if token.sequenceGeneration ≠ currentSequence then
    return false
  if !(← unsafeRouteActive token.routeGeneration token.transport) then
    return false
  match token.transport with
  | .usb =>
      if token.transportGeneration = (← attachGeneration) then
        mountedAndActive interface
      else
        return false
  | .ble => return (← bleRouteAuthoritySnapshot).carries interface token

def safetyTransportActive (interface : Interface) : Program Words Bool := do
  let snapshot ← status
  let lifecycle ← usbSnapshot
  return snapshot.mounted && !snapshot.suspended && snapshot.ready interface &&
    !lifecycle.recoveryRequired &&
    (lifecycle.desired == .exposed && lifecycle.observed == .mounted ||
      lifecycle.desired == .hidden && lifecycle.observed == .detaching)

def sequenceAuthorityCurrent (sequence : SequenceAuthority) : Program Words Bool := do
  if sequence.generation = 0 then
    return false
  if (← .read (·.sequenceGeneration)) ≠ sequence.generation then
    return false
  if (← authorityEpoch) ≠ sequence.authorityEpoch then
    return false
  if (← releaseEpoch) ≠ sequence.releaseEpoch then
    return false
  if ← safetyPending then
    return false
  match sequence.transport with
  | .usb =>
      if sequence.profileActivationEpoch == 0 && sequence.activeRoles == inputRoles then
        unsafeRouteActive sequence.routeGeneration .usb
      else
        return false
  | .ble => do
      let ble ← bleRouteAuthoritySnapshot
      if ble.coherent && ble.active && ble.authorityEpoch == sequence.authorityEpoch &&
          ble.routeGeneration == sequence.routeGeneration &&
          ble.profileActivationEpoch == sequence.profileActivationEpoch &&
          ble.presentRoles == sequence.activeRoles then
        unsafeRouteActive sequence.routeGeneration .ble
      else
        return false

/-! ### Releases -/

def activeReleaseRequestIsCurrent (generation : UsbGeneration) (authority : AuthorityEpoch)
    (epoch : UInt32) : Program Words Bool :=
  .allOf [releaseRequested,
    .read (·.releaseRequestGeneration == generation),
    .read (·.releaseRequestAuthorityEpoch == authority),
    .read (·.releaseRequestEpoch == epoch),
    do return (← attachGeneration) == generation,
    do return (← authorityEpoch) == authority,
    do return (← releaseEpoch) == epoch]

def releaseRequestIsCurrent (generation : UsbGeneration) (authority : AuthorityEpoch)
    (epoch : UInt32) : Program Words Bool :=
  .allOf [do return !(← releaseRequested),
    .read (·.releaseRequestGeneration == generation),
    .read (·.releaseRequestAuthorityEpoch == authority),
    .read (·.releaseRequestEpoch == epoch),
    do return (← attachGeneration) == generation,
    do return (← authorityEpoch) == authority,
    do return (← releaseEpoch) == epoch]

def unavailableUsbTransportIsClean : Program Words Bool := do
  let runtime ← status
  let lifecycle ← usbSnapshot
  if (lifecycle.observed == .driverNotInstalled || lifecycle.observed == .disconnected) &&
      !runtime.mounted && !runtime.suspended && !lifecycle.recoveryRequired &&
      !lifecycle.hostReleaseUncertain then
    .allOf [knownAllUp .keyboard, knownAllUp .mouse]
  else
    return false

end HidBot.Runtime
