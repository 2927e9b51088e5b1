import HidBot.Runtime.Release

/-!
# The USB executor

The mailbox of each interface, one pass of the executor over tickets and
mailboxes, and the completions that the USB stack reports.
-/

namespace HidBot.Runtime

open Interleaving

/-! ### Mailboxes -/

def storeSlot (interface : Interface) (slotState : SlotState) : Program Words Unit :=
  onInterface interface fun state => { state with slotState }

/-- A compare-exchange on the slot state. -/
def exchangeSlot (interface : Interface) (expected replacement : SlotState) :
    Program Words Bool :=
  .readModifyWrite fun words =>
    if (words.interfaces interface).slotState = expected then
      (true, words.withInterface interface fun state => { state with slotState := replacement })
    else (false, words)

/-- A queued report that has not been claimed is dropped by the next pass. -/
def cancelQueued (interface : Interface) : Program Words Unit := do
  let _ ← exchangeSlot interface .ready .canceled

/-- `next_ticket_id_.fetch_add(1)`. -/
def drawMailboxId : Program Words UInt32 :=
  .readModifyWrite fun words =>
    (words.nextTicketId, { words with nextTicketId := words.nextTicketId + 1 })

def storeSlotReport (interface : Interface) (slot : MailboxReport) : Program Words Unit :=
  onInterface interface fun state => { state with slot }

/-- The admission that `queue_report` checks once before it takes the slot. -/
def mailboxAdmits (interface : Interface) (generation : RouteGeneration) : Program Words Bool := do
  if ← .anyOf [safetyPending, do return !(← unsafeRouteActive generation .usb)] then
    return false
  return !(← .anyOf [safetyRequired interface, inFlight interface])

/-- `queue_report`, which is only called with unsafe reports. -/
def queueReport (request : ReportRequest) : Program Words Bool :=
  admitted false fun acquired => do
    let interface := request.interface
    if acquired = false then
      return false
    if ← .anyOf [do return !(← mountedAndActive interface), sequenceActive] then
      return false
    let queueGeneration ← attachGeneration
    let queueAuthorityEpoch ← authorityEpoch
    let queueRoute ← routeSnapshot
    let epoch ← releaseEpoch
    if !(← mailboxAdmits interface queueRoute.generation) then
      return false
    if !(← exchangeSlot interface .empty .writing) then
      return false
    let id ← drawMailboxId
    storeSlotReport interface {
      token := {
        authorityEpoch := queueAuthorityEpoch
        routeGeneration := queueRoute.generation
        transportGeneration := queueGeneration
        ticketId := id.toUInt64
        releaseEpoch := epoch
        transport := .usb
        reportKind := interface.unsafeKind }
      report := request.report }
    if ← .anyOf [releaseProducersBlocked, releaseRequested,
        do return (← releaseEpoch) != epoch,
        do return (← attachGeneration) != queueGeneration,
        do return (← authorityEpoch) != queueAuthorityEpoch,
        sequenceActive,
        do return !(← unsafeRouteActive queueRoute.generation .usb),
        do return !(← mountedAndActive interface)] then
      storeSlot interface .empty
      return false
    storeSlot interface .ready
    return true

def queueKeyboardReport (modifiers : UInt8) (keycodes : Vector UInt8 6) : Program Words Bool :=
  queueReport (.keyboard modifiers keycodes)

def queueMouseReport (buttons x y vertical horizontal : UInt8) : Program Words Bool :=
  queueReport (.mouse buttons x y vertical horizontal)

/-- The section that binds a safety report to the release that owns it. -/
def bindSafety (interface : Interface) (generation : UsbGeneration) (authority : AuthorityEpoch) :
    Program Words Unit :=
  .write fun words =>
    let release := words.releaseTicket
    let owned := release.state.active && release.ownsUsb generation authority words.releaseEpoch
    words.withInterface interface fun state =>
      { state with slot := { state.slot with
        token := { state.slot.token with releaseEpoch := words.releaseEpoch }
        release := if owned then release.id else 0 } }

def queueSafety (interface : Interface) : Program Words Bool := do
  if !(← .allOf [safetyRequired interface, do return !(← inFlight interface)]) then
    return false
  if !(← exchangeSlot interface .empty .writing) then
    return false
  let queueGeneration ← attachGeneration
  let queueAuthorityEpoch ← authorityEpoch
  let queueRoute ← routeSnapshot
  let id ← drawMailboxId
  storeSlotReport interface {
    token := {
      authorityEpoch := queueAuthorityEpoch
      routeGeneration := queueRoute.generation
      transportGeneration := queueGeneration
      ticketId := id.toUInt64
      transport := .usb
      reportKind := interface.safetyKind }
    report := interface.allUp }
  bindSafety interface queueGeneration queueAuthorityEpoch
  if ← .anyOf [do return (← attachGeneration) != queueGeneration,
      do return (← authorityEpoch) != queueAuthorityEpoch,
      do return !(← safetyTransportActive interface)] then
    storeSlot interface .empty
    return false
  storeSlot interface .ready
  return true

/-! ### One pass -/

/-- The report of a mailbox would leave something held at the host. -/
def MailboxReport.holds (mailbox : MailboxReport) : Bool :=
  !mailbox.token.reportKind.isSafety &&
    unsafeReportHoldsState mailbox.token.reportKind mailbox.report

/-- A consumed release request obliges the interface to an all-up report. -/
def InterfaceState.owesRelease (state : InterfaceState) (interface : Interface) : Bool :=
  let held := match interface with
    | .keyboard => state.keyboard.held
    | .mouse => state.mouse.held
  held || state.hostStateUncertain || state.safetyRequired ||
    state.slotState == .ready && state.slot.holds || state.inFlight && state.inFlightReport.holds

def publishReleaseDebt (interface : Interface) : Program Words Unit := do
  if ← interfaceField interface (·.owesRelease interface) then
    requireSafety interface

/-- An unsafe report of an earlier epoch, route or sequence. -/
def staleUnsafe (slot : MailboxReport) : Program Words Bool :=
  .allOf [return !slot.token.reportKind.isSafety,
    .anyOf [releaseEpochLost slot.token, sequenceActive,
      do return !(← unsafeRouteActive slot.token.routeGeneration slot.token.transport)]]

/-- The USB stack can take this kind of report. -/
def transportActive (interface : Interface) (slot : MailboxReport) : Program Words Bool :=
  if slot.token.reportKind.isSafety then safetyTransportActive interface
  else mountedAndActive interface

/-- The last check before a mailbox report is submitted. -/
def mailboxFenceBroken (interface : Interface) (slot : MailboxReport) : Program Words Bool :=
  .anyOf [generationOrAuthorityLost slot.token,
    .allOf [return !slot.token.reportKind.isSafety,
      .anyOf [sequenceActive,
        do return !(← unsafeRouteActive slot.token.routeGeneration slot.token.transport)]],
    do return !(← transportActive interface slot),
    interfaceField interface (·.slotState != .executing)]

/-- What the interface records of a mailbox report that USB accepted. -/
def InterfaceState.attemptMailbox (state : InterfaceState) (interface : Interface)
    (slot : MailboxReport) : InterfaceState :=
  if slot.token.reportKind.isSafety then
    { state with keyboard := {}, mouse := {}, logicalStateHeld := false }
  else
    { state.attempt interface slot.report with
      logicalStateHeld := unsafeReportHoldsState slot.token.reportKind slot.report }

/-- Submit the mailbox report that the pass has claimed; true ends the pass. -/
def submitMailbox (interface : Interface) (slot : MailboxReport)
    (currentGeneration : UsbGeneration) (currentAuthorityEpoch : AuthorityEpoch) :
    Program Words Bool := do
  let safetyKind := slot.token.reportKind.isSafety
  let note (outcome : ReleaseAllInterfaceState) : Program Words Unit :=
    .onlyIf (safetyKind = true) (noteUsbReleaseOutcome slot.release interface currentGeneration
      currentAuthorityEpoch slot.token.releaseEpoch outcome)
  if ← mailboxFenceBroken interface slot then
    storeSlot interface .empty
    return false
  let accepted ← submit (.mailbox slot.release) interface slot.token slot.report
  if accepted ≠ .stackAccepted then
    storeSlot interface .empty
    note .pending
    return false
  let flying := { slot with token := { slot.token with
    transportGeneration := currentGeneration
    authorityEpoch := currentAuthorityEpoch } }
  putInFlight interface flying
  -- Submission is provisional: the intended state counts until it completes.
  onInterface interface (·.attemptMailbox interface slot)
  note .submitted
  storeSlot interface .empty
  return true

/-- The first check of a claimed mailbox report. -/
def rejectMailbox (interface : Interface) (slot : MailboxReport)
    (currentGeneration : UsbGeneration) (currentAuthorityEpoch : AuthorityEpoch) :
    Program Words Bool := do
  let safetyKind := slot.token.reportKind.isSafety
  let staleUnsafe ← staleUnsafe slot
  let safetyNow ← .anyOf [safetyRequired interface, releaseRequested]
  let anySafetyPending ← anySafetyRequired
  let rejected ← .anyOf [return slot.token.transportGeneration != currentGeneration ||
      slot.token.authorityEpoch != currentAuthorityEpoch,
    do return !(← transportActive interface slot),
    return staleUnsafe || (safetyNow || anySafetyPending) && !safetyKind]
  .onlyIf (rejected = true) do
    .onlyIf ((!safetyKind && (safetyNow ||
        unsafeReportHoldsState slot.token.reportKind slot.report)) = true)
      (requireSafety interface)
    storeSlot interface .empty
  return rejected

/-- One interface of the mailbox loop; true ends the pass. -/
def processMailbox (interface : Interface) (currentGeneration : UsbGeneration)
    (currentAuthorityEpoch : AuthorityEpoch) : Program Words Bool := do
  if (← interfaceField interface (·.slotState)) = .canceled then
    storeSlot interface .empty
    return false
  if ← .allOf [do return !(← inFlight interface), safetyRequired interface,
      do return !(← slotBusy interface)] then
    let _ ← queueSafety interface
  if !(← exchangeSlot interface .ready .executing) then
    return false
  let slot ← interfaceField interface (·.slot)
  if ← rejectMailbox interface slot currentGeneration currentAuthorityEpoch then
    return false
  submitMailbox interface slot currentGeneration currentAuthorityEpoch

/-- The identity of the release request that the pass consumed, if it is for the
current attachment. -/
structure ConsumedRequest where
  current : Bool
  epoch : UInt32
  deriving DecidableEq, Repr

def consumeReleaseRequest (currentGeneration : UsbGeneration)
    (currentAuthorityEpoch : AuthorityEpoch) : Program Words ConsumedRequest := do
  let requested ← .readModifyWrite fun words =>
    (words.releaseRequested, { words with releaseRequested := false })
  if requested then
    let generation ← .read (·.releaseRequestGeneration)
    let authority ← .read (·.releaseRequestAuthorityEpoch)
    let epoch ← .read (·.releaseRequestEpoch)
    let current ← .allOf [return generation == currentGeneration &&
      authority == currentAuthorityEpoch, do return epoch == (← releaseEpoch)]
    return { current, epoch }
  else
    return { current := false, epoch := 0 }

def execute (task : Route.Task) : Program Words Unit := do
  let snapshot ← status
  if snapshot.mounted && !snapshot.suspended then
    let currentGeneration ← attachGeneration
    let currentAuthorityEpoch ← authorityEpoch
    let request ← consumeReleaseRequest currentGeneration currentAuthorityEpoch
    .onlyIf (request.current = true) (bothInterfaces publishReleaseDebt)
    if ← .anyOf [processKeyboardTicket task currentGeneration currentAuthorityEpoch,
        processMouseTicket task currentGeneration currentAuthorityEpoch] then
      return ()
    let _ ← .anyOf [processMailbox .keyboard currentGeneration currentAuthorityEpoch,
      processMailbox .mouse currentGeneration currentAuthorityEpoch]
    .onlyIf (request.current = true)
      (reconcileZeroWorkRelease currentGeneration currentAuthorityEpoch request.epoch false)

/-! ### Completions -/

/-- `in_flight_token`. -/
def inFlightToken (interface : Interface) : Program Words HidWorkToken :=
  interfaceField interface (·.inFlightReport.token)

/-- The fields of a completion token that must name the report in flight. -/
def HidWorkToken.sameFlight (flying token : HidWorkToken) : Bool :=
  flying.transportGeneration == token.transportGeneration &&
    flying.authorityEpoch == token.authorityEpoch &&
    flying.routeGeneration == token.routeGeneration && flying.transport == token.transport &&
    flying.ticketId == token.ticketId && flying.releaseEpoch == token.releaseEpoch &&
    flying.originatingLocalOwnerId == token.originatingLocalOwnerId

/-- A completion or a failure is for the report that is in flight. -/
def completionCurrent (interface : Interface) (token : HidWorkToken) : Program Words Bool := do
  if !(← inFlight interface) then
    return false
  let flying ← interfaceField interface (·.inFlightReport.token)
  .allOf [do return flying.transportGeneration == (← attachGeneration),
    do return flying.authorityEpoch == (← authorityEpoch),
    .anyOf [return flying.reportKind.isSafety,
      unsafeRouteActive flying.routeGeneration flying.transport],
    return flying.sameFlight token]

/-- The stores of a completion, before the report leaves the flight. -/
def InterfaceState.complete (state : InterfaceState) (interface : Interface) : InterfaceState :=
  let flying := state.inFlightReport
  if flying.token.reportKind.isSafety then
    { state with
      safetyRequired := false
      hostStateUncertain := false
      keyboard := {}
      mouse := {} }.confirm interface flying.report
  else
    { state with hostStateUncertain := false }.confirm interface flying.report

def landReport (interface : Interface) : Program Words Unit :=
  onInterface interface fun state => { state with inFlight := false }

/-- `report`: the payload the stack names, if it names one. -/
def reportCompleteForToken (interface : Interface) (token : HidWorkToken)
    (report : Option (List UInt8)) : Program Words Bool := do
  if !(← completionCurrent interface token) then
    return false
  let flying ← interfaceField interface (·.inFlightReport)
  if report.any (· != flying.report) then
    return false
  onInterface interface (·.complete interface)
  landReport interface
  if ← .allOf [return flying.token.reportKind.isSafety, do return !(← anySafetyRequired)] then
    onUsb UsbLifecycle.markReleaseConfirmed
  return true

def reportComplete (interface : Interface) (report : Option (List UInt8)) :
    Program Words Bool := do
  reportCompleteForToken interface (← inFlightToken interface) report

/-- The owner of the failed report, if the failure is for the report in flight. -/
def reportFailedForToken (interface : Interface) (token : HidWorkToken)
    (report : Option (List UInt8)) : Program Words (Option ReportOriginOwnerId) := do
  if !(← completionCurrent interface token) then
    return none
  let flying ← interfaceField interface (·.inFlightReport)
  -- A short transfer is the failure itself and is not compared.
  if report.any fun bytes => bytes.length == flying.report.length && bytes != flying.report then
    return none
  storeUncertain interface
  requireSafety interface
  onUsb UsbLifecycle.markReleaseUncertain
  .onlyIf (flying.token.reportKind.isSafety = true)
    (noteUsbReleaseOutcome flying.release interface flying.token.transportGeneration
      flying.token.authorityEpoch flying.token.releaseEpoch .pending)
  landReport interface
  return some token.originatingLocalOwnerId

def reportFailed (interface : Interface) (report : Option (List UInt8)) :
    Program Words (Option ReportOriginOwnerId) := do
  reportFailedForToken interface (← inFlightToken interface) report

end HidBot.Runtime
