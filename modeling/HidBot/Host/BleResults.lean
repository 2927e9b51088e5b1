import HidBot.Host.Results

/-!
# Results about BLE at the host

The validators of `protocol.py` for exposure, pairing, bonds, routes, profiles and LEDs, and
`validate_system_info`.
-/

namespace HidBot.HostProtocol

open Python

/-! ### Exposure -/

inductive BleExposureDesired where
  | hidden
  | exposed
  deriving DecidableEq

def BleExposureDesired.names : List (String × BleExposureDesired) :=
  [("hidden", hidden), ("exposed", exposed)]

inductive BleExposureObserved where
  | uninitialized
  | enabling
  | idle
  | advertising
  | connected
  | disabling
  | fault
  deriving DecidableEq

def BleExposureObserved.names : List (String × BleExposureObserved) :=
  [("uninitialized", uninitialized), ("enabling", enabling), ("idle", idle),
    ("advertising", advertising), ("connected", connected), ("disabling", disabling),
    ("fault", fault)]

structure BleExposureStatus where
  desired : BleExposureDesired
  observed : BleExposureObserved
  generation : Int
  stackReady : Bool
  advertising : Bool
  connected : Bool
  recoveryRequired : Bool
  lastError : Option ExposureLastError
  deriving DecidableEq

def bleLastError (value : Value) : Received (Option ExposureLastError) :=
  match value with
  | .null => pure none
  | value => some <$> exposureLastError ["enable", "disable", "runtime"] value
      "BLE exposure last_error fields are invalid"
      "BLE exposure last_error operation is invalid"
      "BLE exposure last_error code is invalid"

def bleExposureFields : List String :=
  ["desired", "observed", "generation", "stack_ready", "advertising", "connected",
    "recovery_required", "last_error"]

def validateBleExposureStatus (value : Value) : Received BleExposureStatus := do
  let result ← record bleExposureFields value "ble.exposure.status result fields are invalid"
  let desired ← member BleExposureDesired.names (result.get "desired")
    "BLE exposure lifecycle state is invalid"
  let observed ← member BleExposureObserved.names (result.get "observed")
    "BLE exposure lifecycle state is invalid"
  let generation ← integer 0 maxUint32 (result.get "generation")
    "BLE exposure generation is invalid"
  let stackReady ← boolean (result.get "stack_ready") "BLE exposure boolean state is invalid"
  let advertising ← boolean (result.get "advertising") "BLE exposure boolean state is invalid"
  let connected ← boolean (result.get "connected") "BLE exposure boolean state is invalid"
  let recoveryRequired ← boolean (result.get "recovery_required")
    "BLE exposure boolean state is invalid"
  require (observed = .uninitialized → ¬(stackReady ∨ advertising ∨ connected))
    (.protocol "BLE uninitialized state is incoherent")
  require (¬(advertising ∧ connected))
    (.protocol "BLE cannot advertise and be connected simultaneously")
  let lastError ← bleLastError (result.get "last_error")
  pure {
    desired, observed, generation, stackReady, advertising, connected, recoveryRequired,
    lastError }

/-! ### Pairing -/

inductive BlePairingState where
  | idle
  | securing
  | waitingInput
  deriving DecidableEq

def BlePairingState.names : List (String × BlePairingState) :=
  [("idle", idle), ("securing", securing), ("waiting_input", waitingInput)]

inductive BlePairingAction where
  | passkeyInput
  deriving DecidableEq

def BlePairingAction.names : List (String × BlePairingAction) :=
  [("passkey_input", passkeyInput)]

inductive BlePairingLastResult where
  | none
  | succeeded
  | smpFailed
  | timeout
  | peerDisconnected
  | storeFull
  | storage
  | queueOverflow
  | repeatPairing
  | securityPolicy
  deriving DecidableEq

def BlePairingLastResult.names : List (String × BlePairingLastResult) :=
  [("none", none), ("succeeded", succeeded), ("smp_failed", smpFailed), ("timeout", timeout),
    ("peer_disconnected", peerDisconnected), ("store_full", storeFull), ("storage", storage),
    ("queue_overflow", queueOverflow), ("repeat_pairing", repeatPairing),
    ("security_policy", securityPolicy)]

structure BlePairingStatus where
  state : BlePairingState
  generation : Int
  connected : Bool
  pairingId : Option Int
  action : Option BlePairingAction
  remainingMs : Option Int
  encrypted : Bool
  authenticated : Bool
  bonded : Bool
  secureConnections : Bool
  keySize : Int
  lastResult : BlePairingLastResult
  deriving DecidableEq

def blePairingFields : List String :=
  ["state", "generation", "connected", "pairing_id", "action", "remaining_ms", "encrypted",
    "authenticated", "bonded", "secure_connections", "key_size", "last_result"]

def validateBlePairingStatus (value : Value) : Received BlePairingStatus := do
  let result ← record blePairingFields value "ble.pairing.status result fields are invalid"
  let state ← member BlePairingState.names (result.get "state") "BLE pairing state is invalid"
  let lastResult ← member BlePairingLastResult.names (result.get "last_result")
    "BLE pairing state is invalid"
  let generation ← integer 0 maxUint32 (result.get "generation")
    "BLE pairing generation is invalid"
  let pairingId ← optionalInteger 1 maxUint32 (result.get "pairing_id")
    "BLE pairing ID is invalid"
  let remainingMs ← optionalInteger 0 maxUint32 (result.get "remaining_ms")
    "BLE pairing remaining time is invalid"
  let keySize ← integer 0 maxBleKeySize (result.get "key_size")
    "BLE pairing key size is invalid"
  let boolean (value : Value) : Received Bool :=
    boolean value "BLE pairing boolean state is invalid"
  let connected ← boolean (result.get "connected")
  let encrypted ← boolean (result.get "encrypted")
  let authenticated ← boolean (result.get "authenticated")
  let bonded ← boolean (result.get "bonded")
  let secureConnections ← boolean (result.get "secure_connections")
  let action ← demand
    ((result.get "action").asOptional (·.asMember BlePairingAction.names))
    (.protocol "BLE pairing action is invalid")
  require (state = .waitingInput →
    pairingId ≠ none ∧ action = some .passkeyInput ∧ remainingMs ≠ none)
    (.protocol "BLE pairing waiting-input fields are incoherent")
  require (state ≠ .waitingInput → pairingId = none ∧ action = none ∧ remainingMs = none)
    (.protocol "BLE pairing inactive fields must be null")
  pure {
    state, generation, connected, pairingId, action, remainingMs, encrypted, authenticated,
    bonded, secureConnections, keySize, lastResult }

/-- An answer that was not accepted has no result. -/
structure BlePairingRespondResult where
  pairingId : Int
  deriving DecidableEq

def validateBlePairingRespondResult (value : Value) : Received BlePairingRespondResult := do
  let result ← record ["accepted", "pairing_id"] value
    "ble.pairing.respond result fields are invalid"
  require ((result.get "accepted").asBool = some true)
    (.protocol "BLE pairing response acceptance is invalid")
  let pairingId ← integer 1 maxUint32 (result.get "pairing_id")
    "BLE pairing response ID is invalid"
  pure { pairingId }

/-! ### Bonds -/

structure BleBondInfo where
  bondId : Text
  ourSec : Bool
  peerSec : Bool
  verified : Bool
  schemaRevision : Option Int
  schemaCurrent : Bool
  connected : Bool
  deriving DecidableEq

def validateBondId (value : Value) : Received Text :=
  demand (value.asStr.filter isToken)
    (.protocol "BLE bond ID must be exactly 32 lowercase hexadecimal characters")

def bleBondFields : List String :=
  ["bond_id", "our_sec", "peer_sec", "verified", "schema_revision", "schema_current",
    "connected"]

def bleBondInfo (value : Value) : Received BleBondInfo := do
  let raw ← record bleBondFields value "BLE bond entry fields are invalid"
  let bondId ← validateBondId (raw.get "bond_id")
  let boolean (value : Value) : Received Bool :=
    boolean value "BLE bond entry boolean state is invalid"
  let ourSec ← boolean (raw.get "our_sec")
  let peerSec ← boolean (raw.get "peer_sec")
  let verified ← boolean (raw.get "verified")
  let schemaCurrent ← boolean (raw.get "schema_current")
  let connected ← boolean (raw.get "connected")
  let schemaRevision ← optionalInteger 0 255 (raw.get "schema_revision")
    "BLE bond schema revision is invalid"
  require (schemaCurrent → schemaRevision ≠ none)
    (.protocol "BLE bond schema state is incoherent")
  require (verified → ourSec ∧ peerSec) (.protocol "BLE bond verification state is incoherent")
  pure { bondId, ourSec, peerSec, verified, schemaRevision, schemaCurrent, connected }

structure BleBondList where
  capacity : Int
  count : Int
  available : Int
  healthy : Bool
  bonds : List BleBondInfo
  deriving DecidableEq

def validateBleBondList (value : Value) : Received BleBondList := do
  let result ← record ["capacity", "count", "available", "healthy", "bonds"] value
    "ble.bond.list result fields are invalid"
  let capacity ← integer maxBonds maxBonds (result.get "capacity")
    "BLE bond capacity is invalid"
  let count ← integer 0 maxBonds (result.get "count") "BLE bond count is invalid"
  let available ← integer (maxBonds - count) (maxBonds - count) (result.get "available")
    "BLE bond available capacity is invalid"
  let healthy ← boolean (result.get "healthy") "BLE bond store health is invalid"
  let rawBonds ← demand (result.get "bonds").asList
    (.protocol "BLE bond list length is invalid")
  require (rawBonds.length = count) (.protocol "BLE bond list length is invalid")
  let bonds ← rawBonds.mapM bleBondInfo
  let ids := bonds.map BleBondInfo.bondId
  require (ids = sortedBy id ids) (.protocol "BLE bond list ordering is invalid")
  require (healthy ↔ (∀ bond ∈ bonds, bond.verified) ∧ ids.Nodup)
    (.protocol "BLE bond store health is incoherent")
  pure { capacity, count, available, healthy, bonds }

structure BleBondRemoveResult where
  bondId : Text
  remaining : Int
  deriving DecidableEq

def validateBleBondRemoveResult (value : Value) : Received BleBondRemoveResult := do
  let result ← record ["bond_id", "removed", "remaining"] value
    "ble.bond.remove result fields are invalid"
  let bondId ← validateBondId (result.get "bond_id")
  require ((result.get "removed").asBool = some true)
    (.protocol "BLE bond removal result is invalid")
  let remaining ← integer 0 (maxBonds - 1) (result.get "remaining")
    "BLE bond removal remaining count is invalid"
  pure { bondId, remaining }

/-! ### Routes -/

inductive OutputRoute where
  | none
  | usb
  deriving DecidableEq

inductive OutputRouteV2 where
  | none
  | usb
  | ble
  deriving DecidableEq

structure HidRouteStatus (Route : Type) where
  desired : Route
  active : Route
  generation : Int
  transition : Text
  ready : Bool
  deriving DecidableEq

/-- What the two versions of the route status do differently. -/
structure RouteVersion (Route : Type) where
  names : List (String × Route)
  inactive : Route
  releasable : List Route
  fieldsMessage : String
  valueMessage : String
  releasingMessage : String

def routeFields : List String := ["desired", "active", "generation", "transition", "ready"]

def validateRoute {Route : Type} [DecidableEq Route] (version : RouteVersion Route)
    (value : Value) : Received (HidRouteStatus Route) := do
  let result ← record routeFields value version.fieldsMessage
  let desired ← member version.names (result.get "desired") version.valueMessage
  let active ← member version.names (result.get "active") version.valueMessage
  let generation ← integer 0 maxUint32 (result.get "generation")
    "HID route generation is invalid"
  let transition ← literal ["stable", "releasing"] (result.get "transition")
    (.protocol "HID route transition is invalid")
  let ready ← boolean (result.get "ready") "HID route readiness is invalid"
  require (transition = text "releasing" →
    desired = version.inactive ∧ active ∈ version.releasable ∧ ¬ready)
    (.protocol version.releasingMessage)
  require (transition = text "stable" → desired = active)
    (.protocol "HID route stable state is invalid")
  require (¬(active = version.inactive ∧ ready)) (.protocol "HID route none cannot be ready")
  pure { desired, active, generation, transition, ready }

def routeV1 : RouteVersion OutputRoute where
  names := [("none", .none), ("usb", .usb)]
  inactive := .none
  releasable := [.usb]
  fieldsMessage := "hid.route status result fields are invalid"
  valueMessage := "HID output route value is invalid"
  releasingMessage := "HID route releasing state is invalid"

def routeV2 : RouteVersion OutputRouteV2 where
  names := [("none", .none), ("usb", .usb), ("ble", .ble)]
  inactive := .none
  releasable := [.usb, .ble]
  fieldsMessage := "hid.route.v2 status result fields are invalid"
  valueMessage := "HID output route v2 value is invalid"
  releasingMessage := "HID route v2 releasing state is invalid"

def validateHidRouteStatus (value : Value) : Received (HidRouteStatus OutputRoute) :=
  validateRoute routeV1 value

def validateHidRouteV2Status (value : Value) : Received (HidRouteStatus OutputRouteV2) :=
  validateRoute routeV2 value

/-! ### Profiles -/

inductive BleProfileId where
  | strictComposite
  | standaloneMouseJustWorks
  | standaloneKeyboard
  | standaloneKeyboardLeds
  | mouseMetadata
  | mouseSimulatedSleepV1
  | mouseHostInitiatedSecurity
  | standaloneMouseJustWorksId7
  deriving DecidableEq

def BleProfileId.names : List (String × BleProfileId) :=
  [("strict_composite", strictComposite),
    ("standalone_mouse_just_works", standaloneMouseJustWorks),
    ("standalone_keyboard", standaloneKeyboard),
    ("standalone_keyboard_leds", standaloneKeyboardLeds),
    ("mouse_metadata", mouseMetadata),
    ("mouse_simulated_sleep_v1", mouseSimulatedSleepV1),
    ("mouse_host_initiated_security", mouseHostInitiatedSecurity),
    ("standalone_mouse_just_works_id7", standaloneMouseJustWorksId7)]

structure BleFixtureProfile where
  profileId : BleProfileId
  revision : Int
  schema : Int
  reportMapSha256 : Text
  bondClass : Int
  identityClass : Int
  deriving DecidableEq

def profileId (value : Value) : Received BleProfileId := do
  let _ ← demand value.asStr (.protocol "BLE profile ID must be a finite name")
  member BleProfileId.names value "unknown BLE profile ID"

def profileRowFields : List Text := ["id", "rev", "schema", "map", "bond", "identity"].map text

def reportMaps (value : Value) : Received (List Text) := do
  let maps ← demand value.asTexts (.protocol "BLE Report Map table is invalid")
  require ((1 ≤ maps.length ∧ maps.length ≤ BleProfileId.names.length) ∧
    (∀ map ∈ maps, isHex 64 map) ∧ maps.Nodup) (.protocol "BLE Report Map table is invalid")
  pure maps

/-- One row, after the profiles that come before it. -/
def profileRow (maps : List Text) (result : List BleFixtureProfile) (row : Value) :
    Received (List BleFixtureProfile) :=
  match row with
  | .list [name, revision, schema, reportMap, bond, identity] => do
      let profileId ← profileId name
      let revision ← integer 1 65535 revision "BLE profile revision is invalid"
      let schema ← integer 1 255 schema "BLE profile schema is invalid"
      let reference ← integer 0 (maps.length - 1) reportMap "BLE Report Map reference is invalid"
      let bondClass ← integer 0 7 bond "BLE bond association class is invalid"
      let identityClass ← integer 0 0 identity "BLE logical identity class is invalid"
      require (∀ profile ∈ result, profile.profileId ≠ profileId)
        (.protocol "duplicate BLE profile ID")
      let reportMapSha256 := maps.getD reference.toNat []
      pure (result ++
        [{ profileId, revision, schema, reportMapSha256, bondClass, identityClass }])
  | _ => refuse (.protocol "BLE profile definition fields are invalid")

def validateBleProfileList (value : Value) : Received (List BleFixtureProfile) := do
  let result ← record ["fields", "maps", "profiles"] value "BLE profile list fields are invalid"
  require ((result.get "fields").asTexts = some profileRowFields)
    (.protocol "BLE profile row fields are invalid")
  let maps ← reportMaps (result.get "maps")
  let profiles ← demand (result.get "profiles").asList
    (.protocol "BLE profile catalog size is invalid")
  require (1 ≤ profiles.length ∧ profiles.length ≤ BleProfileId.names.length)
    (.protocol "BLE profile catalog size is invalid")
  profiles.foldlM (profileRow maps) []

structure BleProfileStatus where
  selected : BleProfileId
  active : Option BleProfileId
  transition : Text
  deriving DecidableEq

def activeProfile (value : Value) : Received (Option BleProfileId) :=
  match value with
  | .null => pure none
  | value => some <$> profileId value

def validateBleProfileStatus (value : Value) : Received BleProfileStatus := do
  let result ← record ["selected", "active", "transition"] value
    "BLE profile status fields are invalid"
  let selected ← profileId (result.get "selected")
  let active ← activeProfile (result.get "active")
  let transition ← demand ((result.get "transition").asName ["stable", "initializing", "fault"])
    (.protocol "BLE profile transition is invalid")
  require (active ≠ none → active = some selected ∧ transition = text "stable")
    (.protocol "BLE active profile is incoherent")
  pure { selected, active, transition }

/-! ### LEDs -/

structure BleLedStatus where
  supported : Bool
  valid : Bool
  leds : Int
  deriving DecidableEq

def validateBleLedStatus (value : Value) : Received BleLedStatus := do
  let result ← record ["supported", "valid", "leds"] value
    "BLE LED status has unexpected fields"
  let supported ← boolean (result.get "supported") "BLE LED status flags must be booleans"
  let valid ← boolean (result.get "valid") "BLE LED status flags must be booleans"
  let leds ← integer 0 31 (result.get "leds") "BLE LED value must be a five-bit mask"
  require (¬((valid ∧ ¬supported) ∨ (¬valid ∧ leds ≠ 0)))
    (.protocol "BLE LED status is inconsistent")
  pure { supported, valid, leds }

/-! ### System information -/

structure FirmwareIdentity where
  version : Text
  sourceRevision : Option Text
  appElfSha256 : Text
  buildProfile : Text
  deriving DecidableEq

structure SystemInfo where
  project : Text
  target : Text
  idfVersion : Text
  protocolVersion : Int
  firmware : Option FirmwareIdentity
  deriving DecidableEq

/-- The text satisfies a condition on characters, and has no surrogates. -/
def accepted (accepts : List Char → Bool) (value : Value) : Option Text :=
  value.asStr.filter fun value => (Text.characters value).any accepts

def asciiText (value : Value) (message : String) : Received Text :=
  demand (accepted (Identity.Protocol.boundedAscii · maxStringBytes) value) (.protocol message)

def parseFirmwareIdentity (value : Value) : Received FirmwareIdentity := do
  let identity ← record ["version", "source_revision", "app_elf_sha256", "build_profile"] value
    "firmware identity fields are invalid"
  let version ← demand (accepted Identity.Protocol.acceptsVersion (identity.get "version"))
    (.protocol "firmware identity version is invalid")
  let sourceRevision ← demand
    ((identity.get "source_revision").asOptional (·.asStr.filter (isHex 40)))
    (.protocol "firmware identity source revision is invalid")
  let appElfSha256 ← demand ((identity.get "app_elf_sha256").asStr.filter (isHex 64))
    (.protocol "firmware identity ELF SHA256 is invalid")
  let buildProfile ← demand
    (accepted Identity.Protocol.acceptsBuildProfile (identity.get "build_profile"))
    (.protocol "firmware identity build profile is invalid")
  pure { version, sourceRevision, appElfSha256, buildProfile }

/-- `except ProtocolError`, which becomes another error. -/
def asCompatibility {α : Type} (check : Received α) (message : String) : Received α :=
  match check with
  | .error (.own (.protocol _)) => refuse (.compatibility message)
  | outcome => outcome

def systemInfoFields : List String := ["project", "target", "idf_version", "protocol_version"]

/-- The fields that both versions have. -/
def systemInfo {names : List String} (result : Record names)
    (known : ∀ name ∈ systemInfoFields, name ∈ names) : Received SystemInfo := do
  let project ← demand (result.get "project" (known _ (by decide))).asStr
    (.protocol "system.info project has an invalid type")
  require (project = text "s3-hidbot")
    (.compatibility "system.info identifies an incompatible project")
  let target ← asciiText (result.get "target" (known _ (by decide)))
    "system.info target is invalid"
  let idfVersion ← asciiText (result.get "idf_version" (known _ (by decide)))
    "system.info IDF version is invalid"
  let version ← demand (result.get "protocol_version" (known _ (by decide))).asInteger
    (.protocol "system.info protocol version has an invalid type")
  require (version = protocolVersion)
    (.compatibility "system.info protocol version is incompatible")
  pure { project, target, idfVersion, protocolVersion := version, firmware := none }

def capabilityError : ResultError := .protocol "system.info capabilities are invalid"

/-- The capabilities, in the order in which their set is iterated. -/
def infoCapabilities (capabilities : List Text) : Received Unit := do
  require (capabilities.length ≤ maxCapabilities ∧ capabilities.Nodup) capabilityError
  capabilities.forM fun item => do
    require (item ≠ []) capabilityError
    boundedText capabilityError item

def validateSystemInfo (value : Value) (capabilities : List Text) : Received SystemInfo := do
  infoCapabilities capabilities
  require value.asDict.isSome (.protocol "system.info result must be an object")
  if text "firmware.identity-v1" ∈ capabilities then do
    let result ← demand (value.asRecord (systemInfoFields ++ ["firmware"]))
      (.compatibility "firmware.identity-v1 requires the exact identity system.info shape")
    let info ← systemInfo result (by decide)
    let firmware ← asCompatibility (parseFirmwareIdentity (result.get "firmware"))
      "firmware.identity-v1 system.info identity is incompatible"
    pure { info with firmware := some firmware }
  else do
    let result ← demand (value.asRecord systemInfoFields) (.compatibility
      "legacy system.info cannot contain identity fields without firmware.identity-v1")
    systemInfo result (by decide)

end HidBot.HostProtocol
