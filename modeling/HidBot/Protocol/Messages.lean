import HidBot.Protocol.Json
import HidBot.Protocol.Session

/-!
# Commands and responses

What the command providers take and return, how the parameters of a command are
validated, and the response frames. A response frame stands for its text, which
is a function of these fields.
-/

namespace HidBot.ControlProtocol

open ControlSession

/-! ### Providers -/

structure UsbStatus where
  mounted : Bool
  suspended : Bool
  keyboardReady : Bool
  mouseReady : Bool

inductive ExposureDesired where
  | hidden
  | exposed

inductive UsbExposureObserved where
  | driverNotInstalled
  | disconnected
  | attaching
  | mounted
  | suspended
  | detaching

inductive UsbExposureOperation where
  | install
  | uninstall
  | runtime

structure UsbExposureStatus where
  desired : ExposureDesired := .hidden
  observed : UsbExposureObserved := .driverNotInstalled
  generation : UInt32 := 0
  mounted : Bool := false
  suspended : Bool := false
  keyboardReady : Bool := false
  mouseReady : Bool := false
  safetyPending : Bool := false
  hostReleaseUncertain : Bool := false
  recoveryRequired : Bool := false
  lastError : Option (UsbExposureOperation × Int32) := none

/-- `UsbExposureActionResult` and `BleExposureActionResult`. -/
inductive ExposureActionResult where
  | accepted
  | noOp
  | busy
  deriving DecidableEq

/-- The snapshot is there only if it is valid. -/
structure UsbExposureActionOutcome where
  actionResult : ExposureActionResult := .busy
  snapshot : Option UsbExposureStatus := none

inductive ProfileId where
  | strictComposite
  | standaloneMouseJustWorks
  | standaloneKeyboard
  | standaloneMouseJustWorksId7
  | standaloneKeyboardLeds
  | mouseMetadata
  | mouseSimulatedSleepV1
  | mouseHostInitiatedSecurity
  deriving DecidableEq

/-- The names of the catalog. -/
def ProfileId.name : ProfileId → String
  | strictComposite => "strict_composite"
  | standaloneMouseJustWorks => "standalone_mouse_just_works"
  | standaloneKeyboard => "standalone_keyboard"
  | standaloneMouseJustWorksId7 => "standalone_mouse_just_works_id7"
  | standaloneKeyboardLeds => "standalone_keyboard_leds"
  | mouseMetadata => "mouse_metadata"
  | mouseSimulatedSleepV1 => "mouse_simulated_sleep_v1"
  | mouseHostInitiatedSecurity => "mouse_host_initiated_security"

/-- `kCatalog`, in its order. -/
def catalog : List ProfileId :=
  [.strictComposite, .standaloneMouseJustWorks, .standaloneKeyboard, .standaloneMouseJustWorksId7,
    .standaloneKeyboardLeds, .mouseMetadata, .mouseSimulatedSleepV1, .mouseHostInitiatedSecurity]

def findProfile (name : String) : Option ProfileId := catalog.find? (·.name == name)

inductive SelectionTransition where
  | stable
  | initializing
  | fault

structure SelectionSnapshot where
  selected : ProfileId := .strictComposite
  active : Option ProfileId := none
  transition : SelectionTransition := .stable

inductive SelectionResult where
  | noOp
  | accepted
  | busy
  deriving DecidableEq

structure SelectionOutcome where
  result : SelectionResult := .busy
  snapshot : SelectionSnapshot := {}

structure LedStatus where
  supported : Bool := false
  valid : Bool := false
  leds : UInt8 := 0

inductive BleExposureObserved where
  | uninitialized
  | enabling
  | idle
  | advertising
  | connected
  | disabling
  | fault

inductive BleExposureOperation where
  | enable
  | disable
  | runtime

structure BleExposureStatus where
  desired : ExposureDesired := .hidden
  observed : BleExposureObserved := .uninitialized
  generation : UInt32 := 0
  stackReady : Bool := false
  advertising : Bool := false
  connected : Bool := false
  recoveryRequired : Bool := false
  lastError : Option (BleExposureOperation × Int32) := none

structure BleExposureActionOutcome where
  actionResult : ExposureActionResult := .busy
  snapshot : Option BleExposureStatus := none

inductive BlePairingState where
  | idle
  | securing
  | waitingInput
  deriving DecidableEq

inductive BlePairingLastResult where
  | none
  | succeeded
  | smpFailed
  | timeout
  | peerDisconnected
  | storeFull
  | storage
  | queueOverflow
  | repeatPairing
  | securityPolicy

structure BlePairingStatus where
  available : Bool := true
  state : BlePairingState := .idle
  generation : UInt32 := 0
  connected : Bool := false
  inputPending : Bool := false
  pairingId : UInt32 := 0
  remainingMs : UInt32 := 0
  encrypted : Bool := false
  authenticated : Bool := false
  bonded : Bool := false
  secureConnections : Bool := false
  keySize : UInt8 := 0
  lastResult : BlePairingLastResult := .none

structure BlePairingRespondRequest where
  pairingId : Int
  passkey : String

inductive BlePairingRespondResult where
  | accepted
  | notPending
  | injectionFailed

abbrev BondId := String

structure BleBondInfo where
  bondId : BondId
  ourSec : Bool := false
  peerSec : Bool := false
  verified : Bool := false
  schemaRevision : Option UInt8 := none
  schemaCurrent : Bool := false
  connected : Bool := false

inductive BleBondListResultKind where
  | success
  | notReady
  | storageFailure

/-- The first `count` bonds, at most three. -/
structure BleBondListResult where
  kind : BleBondListResultKind := .notReady
  bonds : List BleBondInfo := []
  available : Nat := 3
  healthy : Bool := false

inductive BleBondRemoveResultKind where
  | success
  | notReady
  | notFound
  | ambiguous
  | busy
  | storageFailure

structure BleBondRemoveResult where
  kind : BleBondRemoveResultKind := .notReady
  bondId : BondId := ""
  remaining : Nat := 0

inductive OutputRoute where
  | none
  | usb
  | ble
  deriving DecidableEq

inductive RouteTransition where
  | stable
  | releasing

structure HidRouteStatus where
  desired : OutputRoute := .none
  active : OutputRoute := .none
  generation : UInt32 := 0
  transition : RouteTransition := .stable
  ready : Bool := false

inductive HidRouteActionResult where
  | accepted
  | noOp
  | busy
  | notReady
  | safetyPending
  deriving DecidableEq

structure HidRouteActionOutcome where
  actionResult : HidRouteActionResult := .busy
  snapshot : Option HidRouteStatus := none

inductive ReleaseAllInterfaceState where
  | alreadyUp
  | submitted

structure ReleaseAllResult where
  success : Bool := false
  authorityLost : Bool := false
  keyboard : ReleaseAllInterfaceState := .alreadyUp
  mouse : ReleaseAllInterfaceState := .alreadyUp

/-- `KeyboardReportState` and `MouseReportState`. -/
inductive ReportState where
  | alreadySet
  | submitted

/-- `KeyboardReportFailure` and `MouseReportFailure`. -/
inductive ReportFailure where
  | none
  | notReady
  | busy
  | safetyPending
  | authorityLost
  | unsupportedOperation
  deriving DecidableEq

structure KeyboardReportRequest where
  modifiers : Int
  keycodes : List Int

structure MouseReportRequest where
  buttons : Int
  x : Int
  y : Int
  wheel : Int
  pan : Int

/-- `KeyboardReportResult` and `MouseReportResult`. -/
structure ReportResult where
  success : Bool := false
  authorityLost : Bool := false
  state : ReportState := .submitted
  failure : ReportFailure := .notReady

inductive SequenceStartResult where
  | accepted
  | invalid
  | busy
  | notReady
  | safetyPending
  | unsupportedOperation

inductive SequenceState where
  | accepted
  | running
  | completed
  | failed
  | aborted

structure SequenceStatus where
  sequenceId : Int
  state : SequenceState := .accepted
  started : Bool := false
  executed : UInt8 := 0
  failedToken : Option UInt8 := none
  code : Option String := none

/-- A call of a command provider. -/
inductive ProviderCall where
  | usbStatus
  | usbExposureStatus
  | usbAttach
  | usbDetach
  | bleLedStatus
  | bleProfileStatus
  | bleProfileSelect (profile : ProfileId)
  | bleExposureStatus
  | bleEnable
  | bleDisable
  | blePairingStatus
  | blePairingRespond (request : BlePairingRespondRequest)
  | bleBondList
  | bleBondRemove (bondId : BondId)
  | hidRouteStatus
  | hidRouteSet (desired : OutputRoute)
  | releaseAll
  | sequenceStart (owner : LocalOwnerId) (id : Int) (code : String)
  | sequenceStatus (owner : LocalOwnerId) (sequenceId : Int)
  | keyboardReport (owner : LocalOwnerId) (request : KeyboardReportRequest)
  | mouseReport (owner : LocalOwnerId) (request : MouseReportRequest)

/-! ### Parameters -/

def validateNoParams : Option Json → Bool
  | none => true
  | some (.object members) => members.isEmpty
  | some _ => false

def validateHelloParams (params : Option Json) : Option Token := do
  let params ← params
  guard (params.isObject && params.hasOnlyFields ["client_nonce"])
  let nonce ← params.boundedNonemptyString "client_nonce" tokenHexLength
  guard (isLowerHexToken nonce)
  return nonce

def validatePairingRespondParams (params : Option Json) : Option BlePairingRespondRequest := do
  let params ← params
  guard (params.hasOnlyFields ["pairing_id", "passkey"] && params.size == 2)
  let pairingId ← params.integerWithin "pairing_id" 1 4294967295
  let passkey ← params.boundedNonemptyString "passkey" 6
  guard (passkey.length == 6 && passkey.toList.all Char.isDigit)
  return { pairingId, passkey }

def validateBondRemoveParams (params : Option Json) : Option BondId := do
  let params ← params
  guard (params.hasOnlyFields ["bond_id"] && params.size == 1)
  let bondId ← params.boundedNonemptyString "bond_id" 32
  guard (isLowerHexToken bondId)
  return bondId

def validateProfileSelectParams (params : Option Json) : Option ProfileId := do
  let params ← params
  guard (params.hasOnlyFields ["profile"] && params.size == 1)
  findProfile (← params.boundedNonemptyString "profile" 48)

def validateRouteSetParams (params : Option Json) (allowBle : Bool) : Option OutputRoute := do
  let params ← params
  guard (params.hasOnlyFields ["route"])
  match ← params.boundedNonemptyString "route" 4 with
  | "none" => return .none
  | "usb" => return .usb
  | "ble" => if allowBle then return .ble else failure
  | _ => failure

def allowedKeyboardUsage (usage : Int) : Bool :=
  (0x04 ≤ usage && usage ≤ 0xA4) || (0xB0 ≤ usage && usage ≤ 0xDD)

/-- The key usages, strictly ascending from `previous`. -/
def keycodesAfter (previous : Int) : List Json → Option (List Int)
  | [] => some []
  | key :: keys => do
      let value ← Json.integer (some key)
      guard (0 ≤ value && value ≤ 255 && previous < value && allowedKeyboardUsage value)
      return value :: (← keycodesAfter value keys)

def validateKeyboardReportParams (params : Option Json) : Option KeyboardReportRequest := do
  let params ← params
  guard (params.hasOnlyFields ["modifiers", "keys"])
  let modifiers ← params.integerWithin "modifiers" 0 255
  match params.item "keys" with
  | some (.array keys) =>
      guard (keys.length ≤ 6)
      return { modifiers, keycodes := ← keycodesAfter (-1) keys }
  | _ => failure

def validateMouseReportParams (params : Option Json) : Option MouseReportRequest := do
  let params ← params
  guard (params.hasOnlyFields ["buttons", "x", "y", "wheel", "pan"])
  return {
    buttons := ← params.integerWithin "buttons" 0 31
    x := ← params.integerWithin "x" (-127) 127
    y := ← params.integerWithin "y" (-127) 127
    wheel := ← params.integerWithin "wheel" (-127) 127
    pan := ← params.integerWithin "pan" (-127) 127 }

/-- `backslash`: the raw request contains one. -/
def validateSequenceStartParams (params : Option Json) (backslash : Bool) : Option String := do
  let params ← params
  guard (params.hasOnlyFields ["code"] && !backslash)
  params.boundedNonemptyString "code" Json.maxSequenceCodeBytes

def validateSequenceStatusParams (params : Option Json) : Option Int := do
  let params ← params
  guard (params.hasOnlyFields ["sequence_id"])
  params.integerWithin "sequence_id" 0 2147483647

end HidBot.ControlProtocol
