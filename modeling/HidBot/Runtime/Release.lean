import HidBot.Runtime.Tickets

/-!
# Release-all

The one release transaction: its admission, the scan of both interfaces, the
outcomes that USB and BLE report for it, and its end. The flags of a snapshot
are functions of the transaction state, so a snapshot is the ticket itself.
-/

namespace HidBot.Runtime

open Interleaving

abbrev ReleaseAllSnapshot := ReleaseAllTicket

namespace ReleaseAllTicket

def outcome (ticket : ReleaseAllTicket) : Interface → ReleaseAllInterfaceState
  | .keyboard => ticket.keyboard
  | .mouse => ticket.mouse

/-- `set_release_outcome_locked`. -/
def setOutcome (ticket : ReleaseAllTicket) (interface : Interface)
    (outcome : ReleaseAllInterfaceState) : ReleaseAllTicket :=
  match interface with
  | .keyboard => { ticket with keyboard := outcome }
  | .mouse => { ticket with mouse := outcome }

/-- The transaction can still be failed or canceled. -/
def pending (ticket : ReleaseAllTicket) : Bool :=
  ticket.state == .admitting || ticket.state == .open

/-- The snapshot flag `failed_before_finalization`. -/
def failedBeforeFinalization (ticket : ReleaseAllTicket) : Bool :=
  ticket.state == .failed || ticket.state == .finalizedFailure || ticket.state == .timedOut

/-- The snapshot flag `success_committed`. -/
def successCommitted (ticket : ReleaseAllTicket) : Bool :=
  ticket.state == .succeeded || ticket.state == .finalizedSuccess

/-- The identity under which a USB report was queued is the one of the transaction. -/
def ownsUsb (ticket : ReleaseAllTicket) (generation : UsbGeneration) (authority : AuthorityEpoch)
    (epoch : UInt32) : Bool :=
  ticket.transport == .usb && ticket.transportGeneration == generation &&
    ticket.authorityEpoch == authority && ticket.releaseEpoch == epoch

/-- `note_usb_release_outcome`. -/
def noteUsb (ticket : ReleaseAllTicket) (expectedId : ReleaseAllId) (interface : Interface)
    (generation : UsbGeneration) (authority : AuthorityEpoch) (epoch : UInt32)
    (outcome : ReleaseAllInterfaceState) : ReleaseAllTicket :=
  if expectedId = 0 ∨ ticket.id ≠ expectedId ∨ ticket.pending = false ∨
      ticket.ownsUsb generation authority epoch = false then ticket
  else if outcome = .pending then (ticket.setOutcome interface .pending).fail ticket.id false
  else if ticket.outcome interface = .unresolved then ticket.setOutcome interface outcome
  else ticket

/-- `release_ticket_matches_locked`. -/
def matchesBle (ticket : ReleaseAllTicket) (expected : ReleaseAllSnapshot) : Bool :=
  expected.id != 0 && expected.id == ticket.id && ticket.state.active &&
    expected.transport == .ble && expected.state.active && ticket.transport == .ble &&
    ticket.transportGeneration == expected.transportGeneration &&
    ticket.authorityEpoch == expected.authorityEpoch &&
    ticket.routeGeneration == expected.routeGeneration &&
    ticket.releaseEpoch == expected.releaseEpoch &&
    ticket.profileActivationEpoch == expected.profileActivationEpoch &&
    ticket.connectionHandle == expected.connectionHandle &&
    ticket.presentRoles == expected.presentRoles &&
    ticket.requiredInputSubscriptions == expected.requiredInputSubscriptions &&
    ticket.reportHandles == expected.reportHandles

/-- The route that the transaction was admitted on, apart from its epochs. -/
def sameBleRoute (ticket : ReleaseAllTicket) (expected : BleRouteAuthoritySnapshot) : Bool :=
  expected.coherent && expected.active && expected.authorityEpoch == ticket.authorityEpoch &&
    expected.routeGeneration == ticket.routeGeneration &&
    expected.bleGeneration == ticket.transportGeneration &&
    expected.connectionHandle == ticket.connectionHandle &&
    expected.presentRoles == ticket.presentRoles &&
    expected.requiredInputSubscriptions == ticket.requiredInputSubscriptions &&
    expected.reportHandles == ticket.reportHandles

/-- How far the epochs of the route may have moved in each phase. -/
def epochsContinue (ticket : ReleaseAllTicket) (expected : BleRouteAuthoritySnapshot)
    (currentEpoch : UInt32) : Bool :=
  let sameActivation := expected.profileActivationEpoch == ticket.profileActivationEpoch
  let nextActivation := expected.profileActivationEpoch != 0 && !sameActivation
  let sameEpoch := expected.releaseEpoch == ticket.releaseEpoch
  match ticket.state with
  | .succeeded => sameEpoch && nextActivation
  | .admitting =>
      sameActivation &&
        (sameEpoch && (currentEpoch == ticket.releaseEpoch ||
            currentEpoch == ticket.releaseEpoch + 1) ||
          !sameEpoch && currentEpoch == ticket.releaseEpoch)
  | .successCommitting => !sameEpoch && sameActivation || sameEpoch && nextActivation
  | .open => currentEpoch == ticket.releaseEpoch && !sameEpoch && sameActivation
  | _ => false

end ReleaseAllTicket

/-- A section under the lock of the release ticket. -/
def releaseSection {α : Type} (change : ReleaseAllTicket → Words → α × Words) : Program Words α :=
  .readModifyWrite fun words => change words.releaseTicket words

def noteUsbReleaseOutcome (expectedId : ReleaseAllId) (interface : Interface)
    (generation : UsbGeneration) (authority : AuthorityEpoch) (epoch : UInt32)
    (outcome : ReleaseAllInterfaceState) : Program Words Unit :=
  .write fun words => { words with
    releaseTicket :=
      words.releaseTicket.noteUsb expectedId interface generation authority epoch outcome }

def releaseAllSnapshot : Program Words ReleaseAllSnapshot := .read (·.releaseTicket)

/-! ### Admission -/

/-- The route and the authority of an explicit BLE release. -/
def bleExplicit (route : Route.Snapshot) (ble : BleRouteAuthoritySnapshot) : Program Words Bool :=
  .allOf [return routeIsExactly route (.stable .ble route.generation),
    bleRouteNormalAuthorityMatches ble]

/-- The ticket of a new transaction. -/
def newReleaseTicket (id : ReleaseAllId) (explicit : Bool) (route : Route.Snapshot)
    (ble : BleRouteAuthoritySnapshot) (words : Words) : ReleaseAllTicket :=
  if explicit then
    { id
      transportGeneration := ble.bleGeneration
      authorityEpoch := words.authorityEpoch
      routeGeneration := route.generation
      transport := .ble
      releaseEpoch := words.releaseEpoch + 1
      profileActivationEpoch := ble.profileActivationEpoch
      connectionHandle := ble.connectionHandle
      presentRoles := ble.presentRoles
      requiredInputSubscriptions := ble.requiredInputSubscriptions
      reportHandles := ble.reportHandles
      state := .admitting }
  else
    { id
      transportGeneration := attachGeneration.value words
      authorityEpoch := words.authorityEpoch
      routeGeneration := route.generation
      transport := .usb
      releaseEpoch := words.releaseRequestEpoch
      state := .admitting }

inductive ReleaseAdmission where
  | blocked (id : ReleaseAllId)
  | exhausted
  | lost
  | admitted (id : ReleaseAllId)
  deriving DecidableEq, Repr

/-- The section that admits the transaction. -/
def admitRelease (explicit : Bool) (route : Route.Snapshot) (ble : BleRouteAuthoritySnapshot) :
    Program Words ReleaseAdmission :=
  releaseSection fun ticket words =>
    if ticket.state.active then (.blocked ticket.id, words)
    else if words.nextReleaseId = 0 then (.exhausted, words)
    else if explicit && !(bleRouteNormalAuthorityMatches ble).value words then (.lost, words)
    else
      let id := words.nextReleaseId
      let admitted := { words with
        nextReleaseId := nextId id
        releaseTicket := newReleaseTicket id explicit route ble words }
      (.admitted id,
        if explicit then
          { admitted with sequenceGeneration := 0, releaseEpoch := words.releaseEpoch + 1 }
        else admitted)

/-- The scan of one interface. -/
def scanInterface (id : ReleaseAllId) (explicit : Bool) (interface : Interface) :
    Program Words Unit :=
  releaseSection fun ticket words =>
    if ticket.id ≠ id ∨ ticket.state ≠ .admitting then ((), words)
    else if (knownAllUp interface).value words then
      ((), { words with releaseTicket := ticket.setOutcome interface .alreadyUp })
    else if explicit then
      ((), words.withInterface interface fun state => { state with safetyRequired := true })
    else
      let state := words.interfaces interface
      let ticketActive := (words.tickets interface).state.live
      let available := (mountedAndActive interface).value words
      let existingSafety := state.safetyRequired || state.inFlight || state.slotState.live ||
        ticketActive
      let pending := existingSafety || !available
      let safety := ticketActive ||
        pending && !available && (state.logicalStateHeld || state.hostStateUncertain)
      let required := if safety then
          words.withInterface interface fun state => { state with safetyRequired := true }
        else words
      ((), if pending then
          { required with releaseTicket := ticket.setOutcome interface .pending }
        else required)

/-- The admitted transaction opens unless it has ended. -/
def openRelease (id : ReleaseAllId) : Program Words Unit :=
  .write fun words =>
    if words.releaseTicket.id = id ∧ words.releaseTicket.state = .admitting then
      { words with releaseTicket := { words.releaseTicket with state := .open } }
    else words

/-- What follows the admission of a transaction. -/
def openAdmitted (id : ReleaseAllId) (explicit : Bool) : Program Words ReleaseAllId := do
  .onlyIf (explicit = true) do
    cancelKeyboardTicket .safetyPending
    cancelMouseTicket .safetyPending
  bothInterfaces (scanInterface id explicit)
  openRelease id
  return id

/-- Zero is not an admission. -/
def beginReleaseAll : Program Words ReleaseAllId :=
  admitted true fun acquired => do
    if acquired = false then
      return 0
    let ticket ← releaseAllSnapshot
    if ticket.state.active then
      return ticket.id
    if (← .read (·.nextReleaseId)) = 0 then
      requestReleaseAll
      return 0
    let route ← routeSnapshot
    let ble ← bleRouteAuthoritySnapshot
    let explicit ← bleExplicit route ble
    .onlyIf (explicit = false) requestReleaseAll
    match ← admitRelease explicit route ble with
    | .blocked id => return id
    | .exhausted => return 0
    | .lost =>
        requestReleaseAll
        return 0
    | .admitted id => openAdmitted id explicit

/-! ### Finalization -/

def ReleaseAllInterfaceState.complete : ReleaseAllInterfaceState → Bool
  | .alreadyUp | .submitted => true
  | .unresolved | .pending | .canceled => false

/-- The state in which `finalize_release_all` leaves the transaction. -/
def ReleaseAllTicket.terminal (ticket : ReleaseAllTicket) : ReleaseAllTransactionState :=
  match ticket.state with
  | .succeeded => .finalizedSuccess
  | .failed => .finalizedFailure
  | .admitting => .timedOut
  | .open =>
      if ticket.transport = .usb ∧ ticket.keyboard.complete = true ∧
          ticket.mouse.complete = true then .finalizedSuccess
      else .timedOut
  | state => state

def finalizeReleaseAll (expectedId : ReleaseAllId) : Program Words ReleaseAllSnapshot :=
  releaseSection fun ticket words =>
    if expectedId = 0 ∨ ticket.id ≠ expectedId then
      ({ id := expectedId, state := .canceled }, words)
    else
      let terminal := { ticket with state := ticket.terminal }
      (terminal, { words with releaseTicket := terminal })

/-! ### BLE outcomes -/

/-- `ble_release_all_route_continuity_matches_locked`. -/
def bleRouteContinues (ticket : ReleaseAllTicket) (expected : BleRouteAuthoritySnapshot)
    (words : Words) : Bool :=
  ticket.matchesBle ticket && ticket.state != .canceled && !ticket.failedBeforeFinalization &&
    !ticket.bleContinuityLost && !expected.releasing && ticket.sameBleRoute expected &&
    words.authorityEpoch == ticket.authorityEpoch &&
    routeIsExactly (routeSnapshot.value words) (.stable .ble ticket.routeGeneration) &&
    ticket.epochsContinue expected words.releaseEpoch

def bleReleaseAllRouteContinuityMatches (expected : BleRouteAuthoritySnapshot) :
    Program Words Bool :=
  .read fun words => bleRouteContinues words.releaseTicket expected words

def noteBleRouteContinuityLoss (expected : BleRouteAuthoritySnapshot) : Program Words Unit :=
  admitted true fun _ => .write fun words =>
    let ticket := words.releaseTicket
    if ticket.matchesBle ticket && ticket.sameBleRoute expected &&
        expected.profileActivationEpoch == ticket.profileActivationEpoch then
      { words with releaseTicket := ticket.fail ticket.id true }
    else words

inductive BleReleaseAllAction where
  | notApplicable
  | waitForOldWork
  | alreadyUp
  | submitNeutral
  deriving DecidableEq, Repr

/-- The open transaction is the one of the snapshot, which was taken of it open. -/
def ReleaseAllTicket.opensBle (ticket : ReleaseAllTicket) (expected : ReleaseAllSnapshot) : Bool :=
  ticket.matchesBle expected && expected.state == .open && ticket.state == .open

def prepareBleReleaseAllInterface (expected : ReleaseAllSnapshot) (interface : Interface) :
    Program Words BleReleaseAllAction :=
  releaseSection fun ticket words =>
    if ticket.opensBle expected = false then (.notApplicable, words)
    else if (ticket.outcome interface).complete then (.alreadyUp, words)
    else if ticket.outcome interface ≠ .unresolved ∨
        (releaseInterfaceWorkPending interface).value words = true then (.waitForOldWork, words)
    else if (knownAllUp interface).value words then
      (.alreadyUp, { words with releaseTicket := ticket.setOutcome interface .alreadyUp })
    else (.submitNeutral, words)

/-- The interface after the BLE stack took its neutral report. -/
def InterfaceState.released (state : InterfaceState) (interface : Interface) : InterfaceState :=
  { state with
    keyboard := {}
    mouse := {}
    logicalStateHeld := false
    hostStateUncertain := false
    safetyRequired := false }.confirmAllUp interface

def completeBleReleaseAllInterface (expected : ReleaseAllSnapshot) (interface : Interface) :
    Program Words Bool :=
  releaseSection fun ticket words =>
    if ticket.opensBle expected = false ∨
        (releaseInterfaceWorkPending interface).value words = true then (false, words)
    else
      (true, { words.withInterface interface (·.released interface) with
        releaseTicket := ticket.setOutcome interface .submitted })

def failBleReleaseAll (expected : ReleaseAllSnapshot) (uncertainInterface : Interface) :
    Program Words Unit :=
  .write fun words =>
    let ticket := words.releaseTicket
    if ticket.matchesBle expected && ticket.pending then
      { words.withInterface uncertainInterface fun state =>
          { state with hostStateUncertain := true, safetyRequired := true } with
        releaseTicket := (ticket.fail expected.id false).setOutcome uncertainInterface .pending }
    else words

/-- The first section of `commit_ble_release_all`. -/
def bleReleaseReady (expected : ReleaseAllSnapshot) : Program Words Bool :=
  .read fun words =>
    let ticket := words.releaseTicket
    ticket.opensBle expected &&
      [.keyboard, .mouse].all (fun interface =>
        !(releaseInterfaceWorkPending interface).value words &&
          (knownAllUp interface).value words && (ticket.outcome interface).complete) &&
      bleRouteContinues ticket (bleRouteAuthoritySnapshot.value words) words

/-- Its second section: the success and the next activation of the route. -/
def commitBleRelease (expected : ReleaseAllSnapshot) : Program Words Bool :=
  releaseSection fun ticket words =>
    let ble := bleRouteAuthoritySnapshot.value words
    if (ticket.matchesBle expected && ticket.state == .open &&
        bleRouteContinues ticket ble words) = false then (false, words)
    else if words.nextProfileActivationEpoch = 0 then
      (false, { words with releaseTicket := ticket.fail expected.id false })
    else
      (true, { words with
        nextProfileActivationEpoch := words.nextProfileActivationEpoch + 1
        bleRouteSequence := words.bleRouteSequence + 2
        bleRoute := { words.bleRoute with
          profileActivationEpoch := words.nextProfileActivationEpoch
          releaseEpoch := expected.releaseEpoch }
        releaseTicket := { ticket with state := .succeeded } })

def commitBleReleaseAll (expected : ReleaseAllSnapshot) : Program Words Bool := do
  if ← bleReleaseReady expected then
    commitBleRelease expected
  else
    return false

end HidBot.Runtime
