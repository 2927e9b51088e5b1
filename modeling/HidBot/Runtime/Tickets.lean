import HidBot.Runtime.Authority

/-!
# Report tickets

Each interface has one reusable ticket. A writer fills it in two sections under
its lock, cancellers may end it until an executor claims it, and the claimer
submits the report and settles the ticket. The keyboard and the mouse differ in
their report and in what they find already set.
-/

namespace HidBot.Runtime

open Interleaving

variable {α : Type}

/-- A section under the lock of a ticket that makes its own decision. -/
def ticketSection (interface : Interface) (change : ReportTicket → Words → α × Words) :
    Program Words α :=
  .readModifyWrite fun words => change (words.tickets interface) words

/-! ### Writing a ticket -/

inductive ReportBeginResult where
  | alreadySet
  | published (ticket : HidTicketId)
  | notReady
  | busy
  | safetyPending
  | authorityLost
  | unsupportedOperation
  deriving DecidableEq, Repr

/-- The id after this one; zero when the ids are exhausted. -/
def nextId (id : UInt64) : UInt64 := if id = 0xffffffffffffffff then 0 else id + 1

/-- The ticket may be written over. -/
def ReportTicket.terminal (ticket : ReportTicket) : Bool :=
  match ticket.state with
  | .free | .submitted | .notReady => true
  | .canceled => !ticket.bleActionPending
  | .writing | .writingCanceled | .published | .claimed => false

/-- Free a terminal ticket; false when the ticket is busy. -/
def reapTicket (interface : Interface) : Program Words Bool :=
  ticketSection interface fun ticket words =>
    if ticket.terminal then
      if ticket.state = .free then (true, words)
      else (true, words.withTicket interface { ticket with state := .free }
        [.freed ticket.token.ticketId])
    else (false, words)

inductive WriteResult where
  | busy
  | exhausted
  | written (ticket : HidTicketId)
  deriving DecidableEq, Repr

/-- Draw an id and fill the free ticket. -/
def writeTicket (request : ReportRequest) (token : HidWorkToken) : Program Words WriteResult :=
  ticketSection request.interface fun ticket words =>
    if ticket.state ≠ .free then (.busy, words)
    else if words.nextPublicTicketId = 0 then (.exhausted, words)
    else
      let id := words.nextPublicTicketId
      (.written id,
        { words with nextPublicTicketId := nextId id }.withTicket request.interface
          { state := .writing
            token := { token with ticketId := id }
            bleActionPending := false
            outcome := .none
            report := request.report }
          [.opened id request])

/-- What the writer found after it had filled the ticket. -/
structure FinalFence where
  ordinarySequenceConflict : Bool
  staleSequence : Bool
  failed : Bool
  deriving DecidableEq, Repr

def FinalFence.sequenceConflict (fence : FinalFence) : Bool :=
  fence.ordinarySequenceConflict || fence.staleSequence

/-- The authority under which the ticket was written is gone. -/
def authorityGone (token : HidWorkToken) : Program Words Bool :=
  .anyOf [do return token.authorityEpoch != (← authorityEpoch),
    do return !(← unsafeRouteActive token.routeGeneration token.transport)]

def FinalFence.outcome (fence : FinalFence) (token : HidWorkToken) (words : Words) :
    TicketOutcome :=
  if fence.sequenceConflict then
    if fence.staleSequence then .authorityLost else .busy
  else if (authorityGone token).value words then .authorityLost
  else if safetyPending.value words then .safetyPending
  else .notReady

/-- The result that reports the outcome of a ticket that was not published. -/
def TicketOutcome.beginResult : TicketOutcome → ReportBeginResult
  | .authorityLost => .authorityLost
  | .busy => .busy
  | .notReady => .notReady
  | .none | .submitted | .safetyPending => .safetyPending

/-- The second section of the writer. A ticket that was canceled meanwhile ends
here; the words that decide its outcome are loaded in the section. -/
def publishTicket (interface : Interface) (id : HidTicketId) (token : HidWorkToken)
    (fence : FinalFence) : Program Words ReportBeginResult :=
  ticketSection interface fun ticket words =>
    if ticket.token.ticketId ≠ id then (.authorityLost, words)
    else match ticket.state with
      | .writingCanceled =>
          let outcome :=
            if fence.staleSequence || (authorityGone token).value words then .authorityLost
            else ticket.outcome
          (if outcome = .authorityLost then .authorityLost else .safetyPending,
            words.withTicket interface (ticket.settle .canceled outcome) [.settled id outcome])
      | .writing =>
          if fence.failed then
            let outcome := fence.outcome token words
            (outcome.beginResult,
              words.withTicket interface (ticket.settle .canceled outcome) [.settled id outcome])
          else
            (.published id, words.withTicket interface { ticket with state := .published } [])
      | _ => (.authorityLost, words)

/-- The report may already be the confirmed state of the interface. -/
def ReportRequest.persistent : ReportRequest → Bool
  | .keyboard modifiers keycodes => !(modifiers == 0 && keycodes == .replicate 6 0)
  | .mouse _ x y vertical horizontal => x == 0 && y == 0 && vertical == 0 && horizontal == 0

def ReportRequest.confirmedBy (request : ReportRequest) (state : InterfaceState) : Bool :=
  match request with
  | .keyboard .. => state.confirmedKeyboard == request.report
  | .mouse buttons .. => buttons &&& buttonMask == state.confirmedMouseButtons

def reportAlreadySet (request : ReportRequest) : Program Words Bool :=
  .allOf [return request.persistent,
    interfaceField request.interface request.confirmedBy,
    do return !(← hostStateUncertain request.interface),
    do return !(← safetyRequired request.interface)]

/-- The transport of the route that is ready for a report. -/
def readyTransport (interface : Interface) (snapshot : StatusSnapshot) (route : Route.Snapshot)
    (ble : BleRouteAuthoritySnapshot) : Program Words (Option HidTransport) := do
  let usbRoute ← .allOf [return route.coherent && route.active == .usb && !snapshot.suspended &&
      snapshot.mounted && snapshot.ready interface,
    unsafeRouteActive route.generation .usb]
  let bleRoute ← .allOf [return route.coherent && ble.coherent && ble.active &&
      route.active == .ble && ble.routeGeneration == route.generation,
    do return ble.authorityEpoch == (← authorityEpoch),
    unsafeRouteActive route.generation .ble]
  return if usbRoute then some .usb else if bleRoute then some .ble else none

/-- The identity that the writer binds the report to; the id is drawn later. -/
def workToken (request : ReportRequest) (transport : HidTransport) (route : Route.Snapshot)
    (ble : BleRouteAuthoritySnapshot) (sequence : SequenceAuthority)
    (owner : ReportOriginOwnerId) : Program Words HidWorkToken := do
  let transportGeneration ←
    match transport with
    | .usb => attachGeneration
    | .ble => pure ble.bleGeneration
  let authority ← authorityEpoch
  let epoch ← releaseEpoch
  return {
    authorityEpoch := authority
    routeGeneration := route.generation
    transportGeneration
    profileActivationEpoch := if transport = .usb then 0 else ble.profileActivationEpoch
    releaseEpoch := epoch
    sequenceGeneration := sequence.generation
    originatingLocalOwnerId := owner
    connectionHandle := if transport = .usb then noBleConnection else ble.connectionHandle
    characteristicHandle :=
      if transport = .usb then 0 else ble.reportHandles.get request.interface.role
    transport
    reportKind := request.interface.unsafeKind }

/-- The fence before publication. It reloads the ticket fields that the first
section wrote. -/
def finalFence (interface : Interface) (token : HidWorkToken) (sequence : SequenceAuthority) :
    Program Words FinalFence := do
  let profileActivationEpoch ← ticketField interface (·.token.profileActivationEpoch)
  let connectionHandle ← ticketField interface (·.token.connectionHandle)
  let characteristicHandle ← ticketField interface (·.token.characteristicHandle)
  let ordinarySequenceConflict ←
    .allOf [return sequence.generation == 0, sequenceActive]
  let staleSequence ←
    .allOf [return sequence.generation != 0, do return !(← sequenceAuthorityCurrent sequence)]
  let failed ← .anyOf [return ordinarySequenceConflict || staleSequence,
    do return !(← unsafeWorkCurrent interface
      { token with profileActivationEpoch, connectionHandle, characteristicHandle }),
    do return token.releaseEpoch != (← releaseEpoch),
    safetyPending,
    inFlight interface,
    slotBusy interface]
  return { ordinarySequenceConflict, staleSequence, failed }

/-- Write and publish the ticket of a request that was admitted. -/
def issueTicket (request : ReportRequest) (sequence : SequenceAuthority) (token : HidWorkToken) :
    Program Words ReportBeginResult := do
  match ← writeTicket request token with
  | .busy => return .busy
  | .exhausted => return .notReady
  | .written id =>
      let token := { token with ticketId := id }
      let fence ← finalFence request.interface token sequence
      publishTicket request.interface id token fence

/-- Admit a request on the route that was found ready. -/
def admitRequest (request : ReportRequest) (sequence : SequenceAuthority)
    (owner : ReportOriginOwnerId) (transport : HidTransport) (route : Route.Snapshot)
    (ble : BleRouteAuthoritySnapshot) : Program Words ReportBeginResult := do
  if ← safetyPending then
    return .safetyPending
  -- A missing capability is rejected before the ticket is touched.
  if transport == .ble && !hasRole ble.presentRoles request.interface.role then
    return .unsupportedOperation
  if !(← reapTicket request.interface) then
    return .busy
  if ← .anyOf [inFlight request.interface, slotBusy request.interface] then
    return .busy
  if ← reportAlreadySet request then
    return .alreadySet
  let token ← workToken request transport route ble sequence owner
  issueTicket request sequence token

/-- The common body of `begin_keyboard_report` and `begin_mouse_report`. -/
def beginReport (request : ReportRequest) (sequence : SequenceAuthority)
    (owner : ReportOriginOwnerId) : Program Words ReportBeginResult :=
  admitted false fun acquired => do
    if acquired = false then
      return .busy
    if ← .allOf [return sequence.generation == 0, sequenceActive] then
      return .busy
    if ← .allOf [return sequence.generation != 0,
        do return !(← sequenceAuthorityCurrent sequence)] then
      return .authorityLost
    if !(← ticketField request.interface (·.terminal)) then
      return .busy
    let snapshot ← status
    let route ← routeSnapshot
    let ble ← bleRouteAuthoritySnapshot
    match ← readyTransport request.interface snapshot route ble with
    | none => return .notReady
    | some transport => admitRequest request sequence owner transport route ble

def beginKeyboardReport (modifiers : UInt8) (keycodes : Vector UInt8 6)
    (sequence : SequenceAuthority) (owner : ReportOriginOwnerId) :
    Program Words ReportBeginResult :=
  beginReport (.keyboard modifiers keycodes) sequence owner

def beginMouseReport (buttons x y vertical horizontal : UInt8) (sequence : SequenceAuthority)
    (owner : ReportOriginOwnerId) : Program Words ReportBeginResult :=
  beginReport (.mouse buttons x y vertical horizontal) sequence owner

/-! ### Observing and ending a ticket -/

structure ReportSnapshot where
  state : TicketState := .free
  outcome : TicketOutcome := .none
  ticketId : HidTicketId := 0
  deriving DecidableEq, Repr

def ReportTicket.snapshot (ticket : ReportTicket) : ReportSnapshot :=
  { state := ticket.state, outcome := ticket.outcome, ticketId := ticket.token.ticketId }

def reportSnapshot (interface : Interface) : Program Words ReportSnapshot :=
  ticketField interface ReportTicket.snapshot

/-- The snapshot that is asked for by id. -/
def reportSnapshotOf (interface : Interface) (id : HidTicketId) :
    Program Words (Option ReportSnapshot) :=
  ticketField interface fun ticket =>
    if id = 0 ∨ ticket.token.ticketId ≠ id then none else some ticket.snapshot

/-- `cancel_keyboard_report` and `cancel_mouse_report`. -/
def cancelReport (interface : Interface) (id : HidTicketId) : Program Words Bool :=
  ticketSection interface fun ticket words =>
    if id = 0 ∨ ticket.token.ticketId ≠ id then (false, words)
    else if ticket.state ≠ .published then (false, words)
    else (true, words.withTicket interface (ticket.settle .canceled .notReady)
      [.settled id .notReady])

/-- `finalize_keyboard_report` and `finalize_mouse_report`. -/
def finalizeReport (interface : Interface) (id : HidTicketId) : Program Words Bool :=
  ticketSection interface fun ticket words =>
    if id = 0 ∨ ticket.token.ticketId ≠ id then (false, words)
    else if ticket.terminal = false ∨ ticket.state = .free then (false, words)
    else (true, words.withTicket interface { ticket with state := .free } [.freed id])

/-! ### Tokens -/

/-- `current_report_token_locked`. -/
def ReportTicket.currentToken (ticket : ReportTicket) (interface : Interface) : HidWorkToken :=
  { ticket.token with reportKind := interface.unsafeKind }

def publishedReportToken (interface : Interface) : Program Words HidWorkToken :=
  ticketField interface fun ticket =>
    if ticket.state = .published then ticket.currentToken interface else {}

def markBleReportScheduled (interface : Interface) (token : HidWorkToken) : Program Words Bool :=
  ticketSection interface fun ticket words =>
    if token.transport ≠ .ble ∨ token.ticketId = 0 ∨ ticket.currentToken interface ≠ token then
      (false, words)
    else if ticket.bleActionPending then (false, words)
    else if ticket.state ≠ .published then (false, words)
    else (true, words.withTicket interface { ticket with bleActionPending := true } [])

def abandonBleReport (interface : Interface) (token : HidWorkToken) : Program Words Unit :=
  ticketSection interface fun ticket words =>
    if token.ticketId = 0 ∨ ticket.currentToken interface ≠ token then ((), words)
    else ((), words.withTicket interface { ticket with bleActionPending := false } [])

def bleWorkTokenCurrent (interface : Interface) (token : HidWorkToken) : Program Words Bool := do
  if token.transport ≠ .ble ∨ token.ticketId = 0 then
    return false
  if !(← unsafeWorkCurrent interface token) then
    return false
  ticketField interface fun ticket =>
    (ticket.state == .published || ticket.state == .claimed) &&
      ticket.currentToken interface == token

/-! ### Submitting a ticket -/

/-- One call of `submit`; the transport answers as the run has it. -/
def submit (origin : Origin) (interface : Interface) (token : HidWorkToken) (report : List UInt8) :
    Program Words BleSubmitResult :=
  .readModifyWrite fun words =>
    let answer := words.record.answers words.record.submissions
    let submission : Submission :=
      { origin, interface, token, report, accepted := answer == .stackAccepted }
    (answer, { words with record := { words.record with
      submissions := words.record.submissions + 1
      events := .submitted submission :: words.record.events } })

/-- The ticket is claimed by the task. -/
def Words.withClaim (words : Words) (task : Route.Task) (interface : Interface) : Words :=
  { words with record := { words.record with
    claimer := Function.update words.record.claimer interface (some task) } }

/-- Claim the published ticket of a token that was scheduled for BLE. -/
def claimForBle (task : Route.Task) (interface : Interface) (token : HidWorkToken) :
    Program Words (Option (List UInt8)) :=
  ticketSection interface fun ticket words =>
    if ticket.currentToken interface ≠ token then (none, words)
    else if ticket.bleActionPending = false then (none, words)
    else match ticket.state with
      | .canceled =>
          (none, words.withTicket interface { ticket with bleActionPending := false } [])
      | .published =>
          (some ticket.report,
            (words.withTicket interface
              { ticket with state := .claimed, bleActionPending := false }
              [.claimed ticket.token.ticketId]).withClaim task interface)
      | _ => (none, words)

/-- Claim the published ticket for the USB executor. -/
def claimForUsb (task : Route.Task) (interface : Interface) :
    Program Words (Option (HidWorkToken × List UInt8)) :=
  ticketSection interface fun ticket words =>
    if ticket.state = .published ∧ ticket.token.transport = .usb then
      (some (ticket.token, ticket.report),
        (words.withTicket interface { ticket with state := .claimed }
          [.claimed ticket.token.ticketId]).withClaim task interface)
    else (none, words)

/-- Settle the claimed ticket if it is still the one that was claimed. -/
def settleClaim (interface : Interface) (same : ReportTicket → Bool) (state : TicketState)
    (outcome : TicketOutcome) : Program Words Bool :=
  ticketSection interface fun ticket words =>
    if same ticket = false ∨ ticket.state ≠ .claimed then (false, words)
    else (true, words.withTicket interface (ticket.settle state outcome)
      [.settled ticket.token.ticketId outcome])

/-- What the executor stores of a report that the transport accepted. -/
def InterfaceState.attempt (state : InterfaceState) (interface : Interface)
    (report : List UInt8) : InterfaceState :=
  match interface with
  | .keyboard => { state with keyboard := .ofReport report }
  | .mouse => { state with mouse := .ofReport report }

/-- `write_confirmed_keyboard` and `write_confirmed_mouse`. -/
def InterfaceState.confirm (state : InterfaceState) (interface : Interface)
    (report : List UInt8) : InterfaceState :=
  match interface with
  | .keyboard => { state with confirmedKeyboard := report }
  | .mouse => { state with confirmedMouseButtons := byteAt report 0 &&& buttonMask }

def storeHeld (interface : Interface) (held : Bool) : Program Words Unit :=
  onInterface interface fun state => { state with logicalStateHeld := held }

/-- The BLE stack is the confirmation of a BLE report. -/
def acceptBleReport (interface : Interface) (report : List UInt8) : Program Words Unit := do
  onInterface interface fun state => { state with hostStateUncertain := false }
  onInterface interface fun state => (state.attempt interface report).confirm interface report
  storeHeld interface (unsafeReportHoldsState interface.unsafeKind report)

/-- The fence of a claimed BLE ticket. -/
def bleFence (interface : Interface) (token : HidWorkToken) : Program Words Bool :=
  .allOf [bleWorkTokenCurrent interface token, do return !(← safetyPending)]

def processBleReport (task : Route.Task) (interface : Interface) (token : HidWorkToken) :
    Program Words Bool := do
  if token.transport ≠ .ble ∨ token.ticketId = 0 then
    return false
  let same (ticket : ReportTicket) : Bool := ticket.currentToken interface == token
  match ← claimForBle task interface token with
  | none => return false
  | some payload =>
      -- The fence is passed twice, so that an event between the two is seen.
      if !(← .allOf [bleFence interface token, bleFence interface token]) then
        let _ ← settleClaim interface same .canceled .authorityLost
        return false
      let result ← submit .ticket interface token payload
      if result ≠ .stackAccepted then
        let routeAuthority ← bleRouteAuthoritySnapshot
        let uncertain := result = .resourceFailure ∨ result = .stackRejected
        let _ ← retireBleRouteIfMatches task routeAuthority
          (if uncertain then some interface else none)
        let _ ← settleClaim interface same .canceled .authorityLost
        return false
      acceptBleReport interface payload
      settleClaim interface same .submitted .submitted

/-- The sequence word is not the one of the work. -/
def sequenceLost (token : HidWorkToken) : Program Words Bool :=
  .read fun words => words.sequenceGeneration != token.sequenceGeneration

def releaseEpochLost (token : HidWorkToken) : Program Words Bool := do
  return token.releaseEpoch != (← releaseEpoch)

/-- The first fence of a claimed USB ticket: the outcome that ends it. -/
def usbFence (interface : Interface) (token : HidWorkToken) (currentGeneration : UsbGeneration)
    (currentAuthorityEpoch : AuthorityEpoch) : Program Words (Option TicketOutcome) := do
  let authorityLost ← .anyOf [return token.transportGeneration != currentGeneration ||
    token.authorityEpoch != currentAuthorityEpoch, sequenceLost token]
  let safetyPending ← .anyOf [releaseEpochLost token, safetyPending]
  let notReady ← .anyOf [do return !(← mountedAndActive interface),
    do return !(← unsafeRouteActive token.routeGeneration token.transport)]
  let busy ← .anyOf [inFlight interface, slotBusy interface]
  return if authorityLost then some .authorityLost
    else if safetyPending then some .safetyPending
    else if busy then some .busy
    else if notReady then some .notReady
    else none

def generationOrAuthorityLost (token : HidWorkToken) : Program Words Bool :=
  .anyOf [do return token.transportGeneration != (← attachGeneration),
    do return token.authorityEpoch != (← authorityEpoch)]

/-- The last check before the submission. -/
def usbFenceBroken (interface : Interface) (token : HidWorkToken) : Program Words Bool :=
  .anyOf [generationOrAuthorityLost token,
    releaseEpochLost token,
    sequenceLost token,
    do return !(← unsafeRouteActive token.routeGeneration token.transport),
    do return !(← mountedAndActive interface),
    safetyPending]

/-- The stores of a USB report in flight. -/
def putInFlight (interface : Interface) (flying : MailboxReport) : Program Words Unit := do
  onInterface interface fun state => { state with inFlightReport := flying }
  onInterface interface fun state => { state with inFlight := true }

/-- The common body of `process_keyboard_ticket` and `process_mouse_ticket`. -/
def processTicket (task : Route.Task) (interface : Interface) (currentGeneration : UsbGeneration)
    (currentAuthorityEpoch : AuthorityEpoch) : Program Words Bool := do
  match ← claimForUsb task interface with
  | none => return false
  | some (token, report) =>
      let same (ticket : ReportTicket) : Bool := ticket.token.ticketId == token.ticketId
      match ← usbFence interface token currentGeneration currentAuthorityEpoch with
      | some outcome =>
          let _ ← settleClaim interface same .canceled outcome
          return false
      | none =>
          if ← usbFenceBroken interface token then
            let lost ← generationOrAuthorityLost token
            let _ ← settleClaim interface same .canceled
              (if lost then .authorityLost else .safetyPending)
            return false
          if (← submit .ticket interface token report) ≠ .stackAccepted then
            let _ ← settleClaim interface same .notReady .notReady
            return false
          let flying := { token with
            transportGeneration := currentGeneration
            authorityEpoch := currentAuthorityEpoch
            reportKind := interface.unsafeKind }
          putInFlight interface { token := flying, report }
          onInterface interface fun state => state.attempt interface report
          storeHeld interface (unsafeReportHoldsState interface.unsafeKind report)
          settleClaim interface same .submitted .submitted

def processKeyboardTicket (task : Route.Task) (currentGeneration : UsbGeneration)
    (currentAuthorityEpoch : AuthorityEpoch) : Program Words Bool :=
  processTicket task .keyboard currentGeneration currentAuthorityEpoch

def processMouseTicket (task : Route.Task) (currentGeneration : UsbGeneration)
    (currentAuthorityEpoch : AuthorityEpoch) : Program Words Bool :=
  processTicket task .mouse currentGeneration currentAuthorityEpoch

end HidBot.Runtime
