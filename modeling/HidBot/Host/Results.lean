import HidBot.Host.Response
import HidBot.Identity.Patterns
import HidBot.Python.Sorted

/-!
# Results at the host

The validators of `protocol.py` for the results of the single commands. A name of a
`Literal` type stays the text that it is in the source; the classes that derive from `Enum`
are types of their own.
-/

namespace HidBot.HostProtocol

open Python

/-- `ProtocolError` and `CompatibilityError`. -/
inductive ResultError where
  | protocol (message : String)
  | compatibility (message : String)
  deriving DecidableEq

abbrev Received := Check ResultError

def maxUint32 : Int := 0xFFFFFFFF
def maxBleKeySize : Int := 16
def maxBonds : Int := 3
def protocolVersion : Int := 1
def leaseMilliseconds : Int := 5000
def maxSequenceTokens : Int := 64

section Fields

variable {names : List String}

def record (names : List String) (value : Value) (message : String) : Received (Record names) :=
  demand (value.asRecord names) (.protocol message)

def integer (low high : Int) (value : Value) (message : String) : Received Int :=
  demand (value.asInt low high) (.protocol message)

def optionalInteger (low high : Int) (value : Value) (message : String) :
    Received (Option Int) :=
  demand (value.asOptional (·.asInt low high)) (.protocol message)

def boolean (value : Value) (message : String) : Received Bool :=
  demand value.asBool (.protocol message)

def member {α : Type} (table : List (String × α)) (value : Value) (message : String) :
    Received α :=
  demand (value.asMember table) (.protocol message)

end Fields

/-- `_token`, where null is not allowed. -/
def presentToken (value : Value) (field : String) : Received Text :=
  demand (value.asStr.filter isToken) (.protocol (tokenError field))

/-! ### Hello -/

structure HelloResponse where
  session : Text
  bootId : Text
  clientNonce : Text
  project : Text
  protocolVersion : Int
  capabilities : List Text
  leaseMs : Int
  deriving DecidableEq

def helloFields : List String :=
  ["project", "protocol_version", "client_nonce", "boot_id", "session", "capabilities",
    "lease_ms"]

def baselineRequiredCapabilities : List Text :=
  ["protocol.hello-v1", "system.ping-v1", "system.info-v1", "usb.status-v1", "hid.lease-v1",
    "hid.release-all-v1"].map text

def capabilitiesError : ResultError :=
  .protocol "hello response capabilities are incompatible"

/-- The capabilities of a hello. -/
def helloCapabilities (value : Value) : Received (List Text) := do
  let capabilities ← demand value.asTexts capabilitiesError
  require ((∀ item ∈ capabilities, item ≠ []) ∧ capabilities.length ≤ maxCapabilities ∧
    capabilities.Nodup) capabilitiesError
  boundedTexts capabilitiesError capabilities
  require (∀ capability ∈ baselineRequiredCapabilities, capability ∈ capabilities)
    (.compatibility "hello response is missing baseline capabilities")
  pure capabilities

/-- The fields of a hello that are read before its capabilities. -/
structure HelloIdentity where
  session : Text
  bootId : Text
  clientNonce : Text
  project : Text
  protocolVersion : Int

def helloIdentity (response : Response) (expectedId : Int) (expectedNonce : Text) :
    Received (HelloIdentity × Record helloFields) := do
  require (response.responseId = some expectedId ∧ response.ok)
    (.protocol "response is not a successful hello")
  let session ← demand response.session (.protocol "hello response session/result is invalid")
  require response.result.asDict.isSome (.protocol "hello response session/result is invalid")
  let result ← record helloFields response.result "hello result fields are invalid"
  let resultSession ← presentToken (result.get "session") "result.session"
  let bootId ← presentToken (result.get "boot_id") "boot_id"
  let clientNonce ← presentToken (result.get "client_nonce") "client_nonce"
  require (resultSession = session ∧ clientNonce = expectedNonce)
    (.protocol "hello response correlation is invalid")
  let project ← demand (result.get "project").asStr
    (.protocol "hello response project/version types are invalid")
  let version ← demand (result.get "protocol_version").asInteger
    (.protocol "hello response project/version types are invalid")
  require (project = text "s3-hidbot" ∧ version = protocolVersion)
    (.compatibility "hello response identifies an incompatible project")
  pure ({ session, bootId, clientNonce, project, protocolVersion := version }, result)

def validateHelloResponse (response : Response) (expectedId : Int) (expectedNonce : Text) :
    Received HelloResponse := do
  let (identity, result) ← helloIdentity response expectedId expectedNonce
  let capabilities ← helloCapabilities (result.get "capabilities")
  let lease ← demand (result.get "lease_ms").asInteger
    (.protocol "hello response lease type is invalid")
  require (lease = leaseMilliseconds) (.compatibility "hello response lease is incompatible")
  pure {
    session := identity.session
    bootId := identity.bootId
    clientNonce := identity.clientNonce
    project := identity.project
    protocolVersion := identity.protocolVersion
    capabilities
    leaseMs := lease }

/-! ### Reports -/

structure ReleaseAllResult where
  keyboard : Text
  mouse : Text
  deriving DecidableEq

def releaseStates : List String := ["already_up", "submitted"]

def validateReleaseAllResult (value : Value) : Received ReleaseAllResult := do
  let result ← record ["keyboard", "mouse"] value "hid.release_all result fields are invalid"
  let keyboard ← literal releaseStates (result.get "keyboard")
    (.protocol "hid.release_all result state is invalid")
  let mouse ← literal releaseStates (result.get "mouse")
    (.protocol "hid.release_all result state is invalid")
  pure { keyboard, mouse }

/-- The result of a report, of which only the state is returned. -/
def reportResult (fieldsMessage stateMessage : String) (value : Value) : Received Text := do
  let result ← record ["state"] value fieldsMessage
  literal ["already_set", "submitted"] (result.get "state") (.protocol stateMessage)

def validateKeyboardReportResult (value : Value) : Received Text :=
  reportResult "hid.keyboard.report result fields are invalid"
    "hid.keyboard.report result state is invalid" value

def validateMouseReportResult (value : Value) : Received Text :=
  reportResult "hid.mouse.report result fields are invalid"
    "hid.mouse.report result state is invalid" value

/-! ### Sequences -/

/-- The state of a handle is always `"accepted"`. -/
structure SequenceHandle where
  sequenceId : Int
  deriving DecidableEq

def validateSequenceHandle (value : Value) : Received SequenceHandle := do
  let result ← record ["sequence_id", "state"] value
    "hid.sequence.start result fields are invalid"
  let sequenceId ← integer 0 maxId (result.get "sequence_id")
    "hid.sequence.start result ID is invalid"
  require ((result.get "state").isName ["accepted"])
    (.protocol "hid.sequence.start result state is invalid")
  pure { sequenceId }

structure SequenceStatus where
  sequenceId : Int
  state : Text
  started : Bool
  executed : Int
  failedToken : Option Int
  code : Option Text
  deriving DecidableEq

def failureCodes : List String :=
  ["HID_BUSY", "HID_NOT_READY", "HID_SAFETY_PENDING", "SEQUENCE_TIMEOUT"]

def abortCodes : List String := ["SESSION_MISMATCH", "SEQUENCE_ABORTED"]

/-- How the fields of a status fit together. -/
def SequenceStatus.checkCoherent (status : SequenceStatus) : Received Unit := do
  let stateIn (names : List String) : Bool := (names.map text).contains status.state
  let codeIn (names : List String) : Bool := status.code.any (names.map text).contains
  require (stateIn ["accepted"] → ¬status.started ∧ status.executed = 0)
    (.protocol "hid.sequence.status accepted lifecycle is invalid")
  require (stateIn ["running", "completed", "failed", "aborted"] → status.started)
    (.protocol "hid.sequence.status started lifecycle is invalid")
  require (stateIn ["completed"] → status.executed ≠ 0)
    (.protocol "hid.sequence.status completed count is invalid")
  require (stateIn ["accepted", "running", "completed"] →
    status.failedToken = none ∧ status.code = none)
    (.protocol "hid.sequence.status nonterminal failure is invalid")
  require (stateIn ["failed", "aborted"] → status.failedToken ≠ none ∧ status.code ≠ none)
    (.protocol "hid.sequence.status terminal failure is incomplete")
  require (stateIn ["failed", "aborted"] → status.failedToken = some status.executed)
    (.protocol "hid.sequence.status terminal count is inconsistent")
  require (stateIn ["failed"] → codeIn failureCodes)
    (.protocol "hid.sequence.status failure code is inconsistent")
  require (stateIn ["aborted"] → codeIn abortCodes)
    (.protocol "hid.sequence.status abort code is inconsistent")

def validateSequenceStatus (value : Value) : Received SequenceStatus := do
  let result ← record ["sequence_id", "state", "started", "executed", "failed_token", "code"]
    value "hid.sequence.status result fields are invalid"
  let sequenceId ← integer 0 maxId (result.get "sequence_id")
    "hid.sequence.status sequence ID is invalid"
  let state ← demand
    ((result.get "state").asName ["accepted", "running", "completed", "failed", "aborted"])
    (.protocol "hid.sequence.status state is invalid")
  let started ← boolean (result.get "started") "hid.sequence.status state is invalid"
  let executed ← integer 0 maxSequenceTokens (result.get "executed")
    "hid.sequence.status executed count is invalid"
  let failedToken ← optionalInteger 0 (maxSequenceTokens - 1) (result.get "failed_token")
    "hid.sequence.status failed token is invalid"
  let code ← demand
    ((result.get "code").asOptional (·.asName (failureCodes ++ abortCodes)))
    (.protocol "hid.sequence.status terminal code is invalid")
  let status : SequenceStatus := { sequenceId, state, started, executed, failedToken, code }
  status.checkCoherent
  pure status

/-! ### Exposure -/

structure ExposureLastError where
  operation : Text
  code : Int
  deriving DecidableEq

structure UsbExposureStatus where
  desired : Text
  observed : Text
  generation : Int
  mounted : Bool
  suspended : Bool
  keyboardReady : Bool
  mouseReady : Bool
  safetyPending : Bool
  hostReleaseUncertain : Bool
  recoveryRequired : Bool
  lastError : Option ExposureLastError
  deriving DecidableEq

/-- The diagnostic of the stack and the overflow of its event queue. -/
def usbRuntimeErrorCodes : List Int := [-0x7601, -0x7602]

/-- An error of an exposure, of which the operation is looked up before its type is known. -/
def exposureLastError (operations : List String) (value : Value)
    (fieldsMessage operationMessage codeMessage : String) : Received ExposureLastError := do
  let error ← record ["operation", "code"] value fieldsMessage
  let operation ← literal operations (error.get "operation") (.protocol operationMessage)
  let code ← integer (-2147483648) 2147483647 (error.get "code") codeMessage
  pure { operation, code }

def usbLastError (value : Value) : Received (Option ExposureLastError) :=
  match value with
  | .null => pure none
  | value => do
      let error ← exposureLastError ["install", "uninstall", "runtime"] value
        "USB exposure last_error fields are invalid"
        "USB exposure last_error operation is invalid"
        "USB exposure last_error code is invalid"
      require (error.operation = text "runtime" → error.code ∈ usbRuntimeErrorCodes)
        (.protocol "USB exposure runtime error code is invalid")
      pure (some error)

def usbExposureFields : List String :=
  ["desired", "observed", "generation", "mounted", "suspended", "keyboard_ready", "mouse_ready",
    "safety_pending", "host_release_uncertain", "recovery_required", "last_error"]

def usbDesired : List String := ["hidden", "exposed"]

def usbObserved : List String :=
  ["driver_not_installed", "disconnected", "attaching", "mounted", "suspended", "detaching"]

def validateUsbExposureStatus (value : Value) : Received UsbExposureStatus := do
  let result ← record usbExposureFields value "usb.exposure.status result fields are invalid"
  let desired ← literal usbDesired (result.get "desired")
    (.protocol "USB exposure desired state is invalid")
  let observed ← literal usbObserved (result.get "observed")
    (.protocol "USB exposure observed state is invalid")
  let generation ← integer 0 maxUint32 (result.get "generation")
    "USB exposure generation is invalid"
  let boolean (value : Value) : Received Bool :=
    boolean value "USB exposure boolean state is invalid"
  let mounted ← boolean (result.get "mounted")
  let suspended ← boolean (result.get "suspended")
  let keyboardReady ← boolean (result.get "keyboard_ready")
  let mouseReady ← boolean (result.get "mouse_ready")
  let safetyPending ← boolean (result.get "safety_pending")
  let hostReleaseUncertain ← boolean (result.get "host_release_uncertain")
  let recoveryRequired ← boolean (result.get "recovery_required")
  let lastError ← usbLastError (result.get "last_error")
  pure {
    desired, observed, generation, mounted, suspended, keyboardReady, mouseReady,
    safetyPending, hostReleaseUncertain, recoveryRequired, lastError }

end HidBot.HostProtocol
