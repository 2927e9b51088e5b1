import HidBot.Protocol.Messages

/-!
# Response frames and command dispatch

The formatters, and what `handle_frame` does with a new request of the current
session: which provider it calls, which response it makes of the result, and
whether the request has completed.
-/

namespace HidBot.ControlProtocol

open ControlSession

structure FirmwareIdentity where
  version : String
  sourceRevision : Option String
  appElfSha256 : String
  buildProfile : String

structure Metadata where
  project : String := ""
  target : String := ""
  idfVersion : String := ""
  firmwareIdentity : Option FirmwareIdentity := none

/-- The result object of a successful response. -/
inductive Result where
  | hello (project : String) (clientNonce bootId session : Token) (leaseMs : Nat)
      (identity : Bool)
  | ping
  | info (metadata : Metadata)
  | usbStatus (status : UsbStatus)
  | usbExposureStatus (status : UsbExposureStatus)
  | ledStatus (status : LedStatus)
  | profileList
  | profileStatus (status : SelectionSnapshot)
  | bleExposureStatus (status : BleExposureStatus)
  | pairingStatus (status : BlePairingStatus)
  | pairingRespond (pairingId : Int)
  | bondList (result : BleBondListResult)
  | bondRemove (bondId : BondId) (remaining : Nat)
  | hidRouteStatus (status : HidRouteStatus)
  | releaseAll (keyboard mouse : ReleaseAllInterfaceState)
  | sequenceStart (sequenceId : Int)
  | sequenceStatus (status : SequenceStatus)
  | keyboardReport (state : ReportState)
  | mouseReport (state : ReportState)

inductive Body where
  | result (result : Result)
  | error (code message : String)

structure ResponseFrame where
  id : Option Int
  session : Option Token
  body : Body

/-- `format_session_field` and the frame around the body. -/
def makeFrame (session : Option Token) (id : Option Int) (body : Body) : Option ResponseFrame :=
  if session.all isLowerHexToken then some ⟨id, session, body⟩ else none

def makeError (session : Option Token) (id : Option Int) (code message : String) :
    Option ResponseFrame := makeFrame session id (.error code message)

def makeResult (session : Token) (id : Int) (result : Result) : Option ResponseFrame :=
  makeFrame (some session) (some id) (.result result)

def makeHello (session : Token) (id : Int) (metadata : Metadata) (clientNonce bootId : Token) :
    Option ResponseFrame :=
  if isLowerHexToken clientNonce && isLowerHexToken bootId then
    makeResult session id (.hello metadata.project clientNonce bootId session leaseMilliseconds
      metadata.firmwareIdentity.isSome)
  else none

def makeLedStatus (session : Token) (id : Int) (status : LedStatus) : Option ResponseFrame :=
  if status.leds > 31 ∨ (status.supported = false ∧ status.valid = true) ∨
      (status.valid = false ∧ status.leds ≠ 0) then none
  else makeResult session id (.ledStatus status)

def makePairingStatus (session : Token) (id : Int) (status : BlePairingStatus) :
    Option ResponseFrame :=
  if status.available = false then
    makeError (some session) (some id) "INTERNAL_ERROR" "pairing status is unavailable"
  else if status.state = .waitingInput ∧ (status.inputPending = false ∨ status.pairingId = 0) then
    none
  else makeResult session id (.pairingStatus status)

def BleBondInfo.wellFormed (bond : BleBondInfo) : Bool :=
  isLowerHexToken bond.bondId && (!bond.schemaCurrent || bond.schemaRevision.isSome) &&
    (!bond.verified || (bond.ourSec && bond.peerSec))

def makeBondList (session : Token) (id : Int) (result : BleBondListResult) :
    Option ResponseFrame :=
  if result.bonds.length ≤ 3 ∧ result.available = 3 - result.bonds.length ∧
      result.bonds.all (·.wellFormed) ∧ (result.bonds.map (·.bondId)).Pairwise (· < ·) ∧
      result.healthy = result.bonds.all (·.verified) then
    makeResult session id (.bondList result)
  else none

def makeBondRemove (session : Token) (id : Int) (result : BleBondRemoveResult) :
    Option ResponseFrame :=
  if isLowerHexToken result.bondId ∧ result.remaining < 3 then
    makeResult session id (.bondRemove result.bondId result.remaining)
  else none

def makeVersionedHidRouteStatus (session : Token) (id : Int) (status : HidRouteStatus)
    (routeV2 : Bool) : Option ResponseFrame :=
  if routeV2 = false ∧ status.active = .ble then
    makeError (some session) (some id) "HID_ROUTE_V2_REQUIRED" "v2 required"
  else makeResult session id (.hidRouteStatus status)

def ReportFailure.code : ReportFailure → String
  | busy => "HID_BUSY"
  | safetyPending => "HID_SAFETY_PENDING"
  | authorityLost => "SESSION_MISMATCH"
  | unsupportedOperation => "HID_UNSUPPORTED_OPERATION"
  | notReady | none => "HID_NOT_READY"

/-- `make_keyboard_error` and `make_mouse_error`, for the device of this name. -/
def ReportFailure.message (device : String) : ReportFailure → String
  | busy => device ++ " report is busy"
  | safetyPending => "HID safety recovery is pending"
  | authorityLost => "request session is not active"
  | unsupportedOperation => "active HID route has no " ++ device ++ " report role"
  | notReady | none => device ++ " endpoint is not ready"

/-! ### The environment of one frame -/

/-- What the environment answers while one frame is handled. The epoch is loaded
once before the command and once after it. -/
structure Answers where
  epoch : AuthorityEpoch := 0
  epochAfter : AuthorityEpoch := 0
  now : UInt64 := 0
  randomBytes : Vector UInt8 16 := .replicate 16 0
  hmacReady : Bool := true
  written : Bool := true
  usbStatus : UsbStatus := ⟨false, false, false, false⟩
  usbExposureStatus : UsbExposureStatus := {}
  usbAttach : UsbExposureActionOutcome := {}
  usbDetach : UsbExposureActionOutcome := {}
  bleLedStatus : LedStatus := {}
  bleProfileStatus : SelectionSnapshot := {}
  bleProfileSelect : SelectionOutcome := {}
  bleExposureStatus : BleExposureStatus := {}
  bleEnable : BleExposureActionOutcome := {}
  bleDisable : BleExposureActionOutcome := {}
  blePairingStatus : BlePairingStatus := {}
  blePairingRespond : BlePairingRespondResult := .notPending
  bleBondList : BleBondListResult := {}
  bleBondRemove : BleBondRemoveResult := {}
  hidRouteStatus : HidRouteStatus := {}
  hidRouteSet : HidRouteActionOutcome := {}
  releaseAll : ReleaseAllResult := {}
  sequenceStart : SequenceStartResult := .notReady
  sequenceStatus : Option SequenceStatus := none
  keyboardReport : ReportResult := {}
  mouseReport : ReportResult := {}

/-- The configuration that the protocol reads. A missing provider gives the
default result, a missing hook is not called. -/
structure Config where
  metadata : Metadata := {}
  sessionTakeover : Bool := true
  leaseExpired : Bool := true
  hidSafetyFailure : Bool := true
  sequenceOwnerRetired : Bool := true
  releaseAllProvider : Bool := true
  keyboardReportProvider : Bool := true
  mouseReportProvider : Bool := true

/-! ### Dispatch -/

/-- A request of the current session that is to be executed. -/
structure Request where
  session : Token
  id : Int
  command : String
  routeV2 : Bool := false
  params : Option Json := none
  backslash : Bool := false
  escapedNul : Bool := false

/-- What the dispatch of a request leaves: the response in the frame, if any, and
how the request is to be finished. -/
structure Outcome where
  response : Option ResponseFrame
  completed : Bool := true
  semanticallyValid : Bool := true
  cacheResponse : Bool := true
  /-- A transition of the authority was accepted. -/
  accepted : Bool := false
  calls : List ProviderCall := []

/-- The command was executed, but its response is not stored. -/
def Outcome.forgotten (outcome : Outcome) : Bool :=
  if outcome.completed then outcome.response.isNone || !outcome.cacheResponse
  else outcome.semanticallyValid

/-- A request with valid parameters completes if its response could be made. -/
def Outcome.complete (calls : List ProviderCall) (response : Option ResponseFrame) : Outcome :=
  { response, completed := response.isSome, calls }

namespace Request

variable (request : Request)

def error (code message : String) : Option ResponseFrame :=
  makeError (some request.session) (some request.id) code message

def result (result : Result) : Option ResponseFrame :=
  makeResult request.session request.id result

def invalidParams (message : String) (calls : List ProviderCall := []) : Outcome :=
  { response := request.error "INVALID_PARAMS" message, completed := false,
    semanticallyValid := false, calls }

/-- A command without parameters. -/
def withoutParams (message : String) (outcome : Outcome) : Outcome :=
  if validateNoParams request.params then outcome else request.invalidParams message

/-- A command with parameters. -/
def withParams {Params : Type} (params : Option Params) (message : String)
    (outcome : Params → Outcome) : Outcome :=
  match params with
  | some params => outcome params
  | none => request.invalidParams message

/-- The authority was lost while the command ran: nothing is remembered. -/
def authorityLost (calls : List ProviderCall) : Outcome :=
  { response := makeError none (some request.id) "SESSION_MISMATCH" "request session is not active"
    semanticallyValid := false, cacheResponse := false, calls }

def usbTransition (call : ProviderCall) (action : UsbExposureActionOutcome) : Outcome :=
  if action.actionResult = .busy then
    .complete [call] (request.error "HID_BUSY" "USB lifecycle transition is active")
  else
    { Outcome.complete [call] (match action.snapshot with
        | none => request.error "INTERNAL_ERROR" "USB lifecycle transition snapshot is unavailable"
        | some snapshot => request.result (.usbExposureStatus snapshot)) with
      accepted := action.actionResult = .accepted }

def bleTransition (call : ProviderCall) (action : BleExposureActionOutcome) : Outcome :=
  .complete [call] <|
    if action.actionResult = .busy then
      request.error "HID_BUSY" "control transition is active"
    else match action.snapshot with
      | none => request.error "INTERNAL_ERROR" "BLE lifecycle snapshot is unavailable"
      | some snapshot => request.result (.bleExposureStatus snapshot)

def routeSet (desired : OutputRoute) (action : HidRouteActionOutcome) : Outcome :=
  match action.actionResult with
  | .busy => .complete [.hidRouteSet desired]
      (request.error "HID_BUSY" "stable none needed")
  | .notReady => .complete [.hidRouteSet desired]
      (request.error "HID_NOT_READY" "requested HID route is not ready")
  | .safetyPending => .complete [.hidRouteSet desired]
      (request.error "HID_SAFETY_PENDING" "HID safety recovery is pending")
  | .accepted | .noOp =>
      match action.snapshot with
      | none => .complete [.hidRouteSet desired]
          (request.error "INTERNAL_ERROR" "HID route snapshot is unavailable")
      | some snapshot =>
          { Outcome.complete [.hidRouteSet desired]
              (makeVersionedHidRouteStatus request.session request.id snapshot request.routeV2) with
            accepted := action.actionResult = .accepted }

def pairingRespond (params : BlePairingRespondRequest) (answer : BlePairingRespondResult) :
    Outcome :=
  .complete [.blePairingRespond params] <|
    match answer with
    | .accepted => request.result (.pairingRespond params.pairingId)
    | .injectionFailed => request.error "BLE_PAIRING_FAILED" "pairing response was not accepted"
    | .notPending => request.error "BLE_PAIRING_NOT_PENDING" "pairing input is not pending"

def bondList (answer : BleBondListResult) : Outcome :=
  .complete [.bleBondList] <|
    match answer.kind with
    | .success => makeBondList request.session request.id answer
    | .storageFailure => request.error "BLE_BOND_STORAGE" "bond store is not trustworthy"
    | .notReady => request.error "BLE_NOT_READY" "BLE bond store is not initialized"

def bondRemove (bondId : BondId) (answer : BleBondRemoveResult) : Outcome :=
  .complete [.bleBondRemove bondId] <|
    match answer.kind with
    | .success => makeBondRemove request.session request.id answer
    | .notFound => request.error "BLE_BOND_NOT_FOUND" "exact bond was not found"
    | .ambiguous => request.error "BLE_BOND_AMBIGUOUS" "bond identifier is not unique"
    | .busy => request.error "BLE_BOND_BUSY" "bond removal is not currently safe"
    | .storageFailure => request.error "BLE_BOND_STORAGE" "bond removal postcondition failed"
    | .notReady => request.error "BLE_NOT_READY" "BLE bond store is not initialized"

def releaseAll (provided : Bool) (answers : Answers) : Outcome :=
  let calls := if provided then [.releaseAll] else []
  let answer := if provided then answers.releaseAll else {}
  if answer.authorityLost = true ∨ answers.epochAfter ≠ answers.epoch then
    request.authorityLost calls
  else .complete calls <|
    if answer.success = false then
      request.error "HID_SAFETY_PENDING" "all-up safety release is pending"
    else request.result (.releaseAll answer.keyboard answer.mouse)

/-- `hid.keyboard.report` and `hid.mouse.report`. -/
def report (provided : Bool) (call : ProviderCall) (answer : ReportResult) (device : String)
    (result : ReportState → Result) (answers : Answers) : Outcome :=
  let calls := if provided then [call] else []
  let answer := if provided then answer else {}
  if answer.authorityLost = true ∨ answer.failure = .authorityLost ∨
      answers.epochAfter ≠ answers.epoch then
    request.authorityLost calls
  else .complete calls <|
    if answer.success = false then
      request.error answer.failure.code (answer.failure.message device)
    else request.result (result answer.state)

def sequenceStart (owner : LocalOwnerId) (code : String) (answer : SequenceStartResult) :
    Outcome :=
  let calls := [.sequenceStart owner request.id code]
  match answer with
  | .invalid => request.invalidParams "sequence code is invalid" calls
  | .busy => .complete calls (request.error "HID_BUSY" "HID sequence executor is busy")
  | .safetyPending =>
      .complete calls (request.error "HID_SAFETY_PENDING" "HID safety recovery is pending")
  | .notReady =>
      .complete calls (request.error "HID_NOT_READY" "HID route is not ready")
  | .unsupportedOperation => .complete calls
      (request.error "HID_UNSUPPORTED_OPERATION" "active HID route lacks a sequence report role")
  | .accepted => .complete calls (request.result (.sequenceStart request.id))

def sequenceStatus (owner : LocalOwnerId) (sequenceId : Int) (answer : Option SequenceStatus) :
    Outcome :=
  .complete [.sequenceStatus owner sequenceId] <|
    match answer with
    | none => request.error "SEQUENCE_NOT_FOUND" "sequence status is not retained"
    | some status => request.result (.sequenceStatus status)

/-- The command branches of `handle_frame`. -/
def dispatch (config : Config) (answers : Answers) (owner : LocalOwnerId) : Outcome :=
  match request.command with
  | "system.ping" => request.withoutParams "system.ping accepts no params" <|
      .complete [] (request.result .ping)
  | "system.info" => request.withoutParams "system.info accepts no params" <|
      .complete [] (request.result (.info config.metadata))
  | "usb.status" => request.withoutParams "usb.status accepts no params" <|
      .complete [.usbStatus] (request.result (.usbStatus answers.usbStatus))
  | "usb.exposure.status" => request.withoutParams "usb.exposure.status accepts no params" <|
      .complete [.usbExposureStatus]
        (request.result (.usbExposureStatus answers.usbExposureStatus))
  | "usb.attach" => request.withoutParams "usb.attach accepts no params" <|
      request.usbTransition .usbAttach answers.usbAttach
  | "usb.detach" => request.withoutParams "usb.detach accepts no params" <|
      request.usbTransition .usbDetach answers.usbDetach
  | "ble.led.status" => request.withoutParams "BLE LED query accepts no params" <|
      .complete [.bleLedStatus]
        (makeLedStatus request.session request.id answers.bleLedStatus)
  | "ble.profile.list" => request.withoutParams "BLE profile query accepts no params" <|
      .complete [] (request.result .profileList)
  | "ble.profile.status" => request.withoutParams "BLE profile query accepts no params" <|
      .complete [.bleProfileStatus] (request.result (.profileStatus answers.bleProfileStatus))
  | "ble.profile.select" =>
      request.withParams (if request.escapedNul then none
        else validateProfileSelectParams request.params) "finite BLE profile ID is required"
        fun profile => .complete [.bleProfileSelect profile] <|
          if answers.bleProfileSelect.result = .busy then
            request.error "HID_BUSY" "BLE profile selection requires quiescence"
          else request.result (.profileStatus answers.bleProfileSelect.snapshot)
  | "ble.exposure.status" => request.withoutParams "ble.exposure.status accepts no params" <|
      .complete [.bleExposureStatus]
        (request.result (.bleExposureStatus answers.bleExposureStatus))
  | "ble.enable" => request.withoutParams "ble.enable accepts no params" <|
      request.bleTransition .bleEnable answers.bleEnable
  | "ble.disable" => request.withoutParams "ble.disable accepts no params" <|
      request.bleTransition .bleDisable answers.bleDisable
  | "ble.pairing.status" => request.withoutParams "ble.pairing.status accepts no params" <|
      .complete [.blePairingStatus]
        (makePairingStatus request.session request.id answers.blePairingStatus)
  | "ble.pairing.respond" =>
      request.withParams (validatePairingRespondParams request.params)
        "pairing response params are invalid"
        fun params => request.pairingRespond params answers.blePairingRespond
  | "ble.bond.list" => request.withoutParams "ble.bond.list accepts no params" <|
      request.bondList answers.bleBondList
  | "ble.bond.remove" =>
      request.withParams (validateBondRemoveParams request.params)
        "ble.bond.remove requires one exact bond_id"
        fun bondId => request.bondRemove bondId answers.bleBondRemove
  | "hid.route.status" =>
      request.withoutParams
        (if request.routeV2 then "invalid route" else "hid.route.status accepts no params") <|
        .complete [.hidRouteStatus]
          (makeVersionedHidRouteStatus request.session request.id answers.hidRouteStatus
            request.routeV2)
  | "hid.route.set" =>
      request.withParams (validateRouteSetParams request.params request.routeV2)
        (if request.routeV2 then "invalid route" else "hid.route.set route must be none or usb")
        fun desired => request.routeSet desired answers.hidRouteSet
  | "hid.release_all" => request.withoutParams "hid.release_all accepts no params" <|
      request.releaseAll config.releaseAllProvider answers
  | "hid.sequence.start" =>
      request.withParams (validateSequenceStartParams request.params request.backslash)
        "sequence code is invalid"
        fun code => request.sequenceStart owner code answers.sequenceStart
  | "hid.sequence.status" =>
      request.withParams (validateSequenceStatusParams request.params)
        "sequence status params are invalid"
        fun sequenceId => request.sequenceStatus owner sequenceId answers.sequenceStatus
  | "hid.keyboard.report" =>
      request.withParams (validateKeyboardReportParams request.params)
        "keyboard report params are invalid"
        fun params => request.report config.keyboardReportProvider (.keyboardReport owner params)
          answers.keyboardReport "keyboard" .keyboardReport answers
  | "hid.mouse.report" =>
      request.withParams (validateMouseReportParams request.params)
        "mouse report params are invalid"
        fun params => request.report config.mouseReportProvider (.mouseReport owner params)
          answers.mouseReport "mouse" .mouseReport answers
  | _ => request.withoutParams "unknown command accepts no params" <|
      { Outcome.complete [] (request.error "UNKNOWN_COMMAND" "command is not registered") with
        semanticallyValid := false }

end Request

end HidBot.ControlProtocol
