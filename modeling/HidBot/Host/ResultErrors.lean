import HidBot.Host.BleResults
import HidBot.Host.Malformed

/-!
# Malformed output of the device

Which errors the host raises for it. A validator that looks a field up in a set before it
knows its type raises an error of Python's own where the field is a list or an object.
-/

namespace HidBot.HostProtocol

open Python

/-! ### Validators that raise their own errors only -/

section Results

variable {value : Value}

theorem handled_validateSequenceHandle : Handled (validateSequenceHandle value) := by
  simp [validateSequenceHandle, record, integer, handled_bind]

theorem handled_validateSequenceStatus : Handled (validateSequenceStatus value) := by
  simp [validateSequenceStatus, SequenceStatus.checkCoherent, record, integer, optionalInteger,
    boolean, handled_bind]

theorem handled_validateBlePairingStatus : Handled (validateBlePairingStatus value) := by
  simp [validateBlePairingStatus, record, member, integer, optionalInteger, boolean,
    handled_bind]

theorem handled_validateBlePairingRespondResult :
    Handled (validateBlePairingRespondResult value) := by
  simp [validateBlePairingRespondResult, record, integer, handled_bind]

theorem handled_bleBondInfo : Handled (bleBondInfo value) := by
  simp [bleBondInfo, validateBondId, record, optionalInteger, boolean, handled_bind]

theorem handled_validateBleBondList : Handled (validateBleBondList value) := by
  have bonds (raw : List Value) : Handled (raw.mapM bleBondInfo) :=
    handled_mapM fun _ _ => handled_bleBondInfo
  simp [validateBleBondList, record, integer, boolean, handled_bind, bonds]

theorem handled_validateBleBondRemoveResult : Handled (validateBleBondRemoveResult value) := by
  simp [validateBleBondRemoveResult, validateBondId, record, integer, handled_bind]

theorem handled_profileId : Handled (profileId value) := by
  simp [profileId, member, handled_bind]

theorem handled_profileRow (maps : List Text) (result : List BleFixtureProfile) :
    Handled (profileRow maps result value) := by
  unfold profileRow
  split
  · simp [handled_profileId, integer, handled_bind]
  · exact handled_refuse _

theorem handled_validateBleProfileList : Handled (validateBleProfileList value) := by
  have rows (maps : List Text) (profiles : List Value) :
      Handled (profiles.foldlM (profileRow maps) []) :=
    handled_foldlM.mpr fun _ _ _ reached _ _ => handled_profileRow maps reached
  simp [validateBleProfileList, reportMaps, record, handled_bind, rows]

theorem handled_activeProfile : Handled (activeProfile value) := by
  unfold activeProfile
  split
  · exact handled_pure none
  · exact handled_map.mpr handled_profileId

theorem handled_validateBleProfileStatus : Handled (validateBleProfileStatus value) := by
  simp [validateBleProfileStatus, record, handled_bind, handled_profileId,
    handled_activeProfile]

theorem handled_validateBleLedStatus : Handled (validateBleLedStatus value) := by
  simp [validateBleLedStatus, record, integer, boolean, handled_bind]

/-! ### Fields that are looked up in a set -/

/-- The field is reached, and is no list and no object. -/
@[mk_iff]
structure ReleaseHashable (value : Value) : Prop where
  hashable : ∀ result, value.asRecord ["keyboard", "mouse"] = some result →
    (result.get "keyboard").hashable ∧
      ((result.get "keyboard").isName releaseStates → (result.get "mouse").hashable)

@[mk_iff]
structure StateHashable (value : Value) : Prop where
  hashable : ∀ result, value.asRecord ["state"] = some result → (result.get "state").hashable

@[mk_iff]
structure OperationHashable (value : Value) : Prop where
  hashable : ∀ error, value.asRecord ["operation", "code"] = some error →
    (error.get "operation").hashable

/-- The fields of a USB exposure before its last error. -/
structure UsbLeading (result : Record usbExposureFields) : Prop where
  generation : ((result.get "generation").asInt 0 maxUint32).isSome
  mounted : (result.get "mounted").asBool.isSome
  suspended : (result.get "suspended").asBool.isSome
  keyboardReady : (result.get "keyboard_ready").asBool.isSome
  mouseReady : (result.get "mouse_ready").asBool.isSome
  safetyPending : (result.get "safety_pending").asBool.isSome
  hostReleaseUncertain : (result.get "host_release_uncertain").asBool.isSome
  recoveryRequired : (result.get "recovery_required").asBool.isSome

@[mk_iff]
structure UsbHashable (value : Value) : Prop where
  hashable : ∀ result, value.asRecord usbExposureFields = some result →
    (result.get "desired").hashable ∧ ((result.get "desired").isName usbDesired →
      (result.get "observed").hashable ∧ ((result.get "observed").isName usbObserved →
        UsbLeading result → OperationHashable (result.get "last_error")))

/-- The fields of a BLE exposure before its last error, with the values that have to fit. -/
structure BleLeading (result : Record bleExposureFields) (observed : BleExposureObserved)
    (stackReady advertising connected : Bool) : Prop where
  uninitialized : observed = .uninitialized → ¬(stackReady ∨ advertising ∨ connected)
  exclusive : ¬(advertising ∧ connected)
  desired : ((result.get "desired").asMember BleExposureDesired.names).isSome
  observed : (result.get "observed").asMember BleExposureObserved.names = some observed
  generation : ((result.get "generation").asInt 0 maxUint32).isSome
  stackReady : (result.get "stack_ready").asBool = some stackReady
  advertising : (result.get "advertising").asBool = some advertising
  connected : (result.get "connected").asBool = some connected
  recoveryRequired : (result.get "recovery_required").asBool.isSome

@[mk_iff]
structure BleHashable (value : Value) : Prop where
  hashable : ∀ result observed stackReady advertising connected,
    value.asRecord bleExposureFields = some result →
      BleLeading result observed stackReady advertising connected →
        OperationHashable (result.get "last_error")

@[mk_iff]
structure RouteHashable {Route : Type} (names : List (String × Route)) (value : Value) :
    Prop where
  hashable : ∀ result, value.asRecord routeFields = some result →
    ((result.get "desired").asMember names).isSome →
      ((result.get "active").asMember names).isSome →
        ((result.get "generation").asInt 0 maxUint32).isSome →
          (result.get "transition").hashable

theorem handled_validateReleaseAllResult :
    Handled (validateReleaseAllResult value) ↔ ReleaseHashable value := by
  rw [releaseHashable_iff]
  refine handled_demand_bind.trans (forall₂_congr fun result _ => ?_)
  refine handled_literal_then fun keyboard => ?_
  rw [handled_bind, handled_literal]
  exact and_iff_left fun _ _ => handled_pure _

theorem handled_reportResult {fieldsMessage stateMessage : String} :
    Handled (reportResult fieldsMessage stateMessage value) ↔ StateHashable value := by
  rw [stateHashable_iff]
  exact handled_demand_bind.trans (forall₂_congr fun _ _ => handled_literal)

theorem handled_exposureLastError {operations : List String}
    {fieldsMessage operationMessage codeMessage : String} :
    Handled (exposureLastError operations value fieldsMessage operationMessage codeMessage) ↔
      OperationHashable value := by
  rw [operationHashable_iff]
  refine handled_demand_bind.trans (forall₂_congr fun error _ => ?_)
  rw [handled_bind, handled_literal]
  exact and_iff_left fun _ _ => by simp [integer]

/-- Null is no record. -/
theorem operationHashable_null : OperationHashable .null :=
  ⟨fun _ found => by cases found⟩

theorem handled_usbLastError : Handled (usbLastError value) ↔ OperationHashable value := by
  unfold usbLastError
  split
  · exact iff_of_true (handled_pure none) operationHashable_null
  · rw [handled_bind, handled_exposureLastError]
    exact and_iff_left fun _ _ => by simp

theorem handled_validateUsbExposureStatus :
    Handled (validateUsbExposureStatus value) ↔ UsbHashable value := by
  rw [usbHashable_iff]
  refine handled_demand_bind.trans (forall₂_congr fun result _ => ?_)
  refine handled_literal_then fun desired => handled_literal_then fun observed => ?_
  simp only [integer, boolean, handled_bind, handled_demand, demand_ok, handled_usbLastError,
    handled_pure, implies_true, true_and, and_true]
  constructor
  · intro handled leading
    obtain ⟨generation, numbered⟩ := Option.isSome_iff_exists.mp leading.generation
    obtain ⟨mounted, isMounted⟩ := Option.isSome_iff_exists.mp leading.mounted
    obtain ⟨suspended, isSuspended⟩ := Option.isSome_iff_exists.mp leading.suspended
    obtain ⟨keyboard, keyboardReady⟩ := Option.isSome_iff_exists.mp leading.keyboardReady
    obtain ⟨mouse, mouseReady⟩ := Option.isSome_iff_exists.mp leading.mouseReady
    obtain ⟨pending, isPending⟩ := Option.isSome_iff_exists.mp leading.safetyPending
    obtain ⟨uncertain, isUncertain⟩ := Option.isSome_iff_exists.mp leading.hostReleaseUncertain
    obtain ⟨recovery, required⟩ := Option.isSome_iff_exists.mp leading.recoveryRequired
    exact handled generation numbered mounted isMounted suspended isSuspended keyboard
      keyboardReady mouse mouseReady pending isPending uncertain isUncertain recovery required
  · intro hashable generation numbered mounted isMounted suspended isSuspended keyboard
      keyboardReady mouse mouseReady pending isPending uncertain isUncertain recovery required
    exact hashable ⟨numbered ▸ rfl, isMounted ▸ rfl, isSuspended ▸ rfl, keyboardReady ▸ rfl,
      mouseReady ▸ rfl, isPending ▸ rfl, isUncertain ▸ rfl, required ▸ rfl⟩

theorem handled_bleLastError : Handled (bleLastError value) ↔ OperationHashable value := by
  unfold bleLastError
  split
  · exact iff_of_true (handled_pure none) operationHashable_null
  · rw [handled_map, handled_exposureLastError]

theorem handled_validateBleExposureStatus :
    Handled (validateBleExposureStatus value) ↔ BleHashable value := by
  rw [bleHashable_iff]
  simp only [validateBleExposureStatus, record, member, integer, boolean, handled_bind,
    handled_demand, demand_ok, handled_require, require_ok, handled_bleLastError, handled_pure,
    implies_true, true_and, and_true]
  constructor
  · intro handled result observed stackReady advertising connected found leading
    obtain ⟨desired, wanted⟩ := Option.isSome_iff_exists.mp leading.desired
    obtain ⟨generation, numbered⟩ := Option.isSome_iff_exists.mp leading.generation
    obtain ⟨recovery, flagged⟩ := Option.isSome_iff_exists.mp leading.recoveryRequired
    exact handled result found desired wanted observed leading.observed generation numbered
      stackReady leading.stackReady advertising leading.advertising connected leading.connected
      recovery flagged () leading.uninitialized () leading.exclusive
  · intro hashable result found desired wanted observed seen generation numbered stackReady
      ready advertising advertised connected linked recovery flagged _ uninitialized _ exclusive
    exact hashable result observed stackReady advertising connected found
      ⟨uninitialized, exclusive, wanted ▸ rfl, seen, numbered ▸ rfl, ready, advertised, linked,
        flagged ▸ rfl⟩

theorem handled_validateRoute {Route : Type} [DecidableEq Route] {version : RouteVersion Route} :
    Handled (validateRoute version value) ↔ RouteHashable version.names value := by
  rw [routeHashable_iff]
  refine handled_demand_bind.trans (forall₂_congr fun result _ => ?_)
  refine handled_demand_then fun desired => handled_demand_then fun active =>
    handled_demand_then fun generation => ?_
  rw [handled_bind, handled_literal]
  exact and_iff_left fun _ _ => by simp [boolean, handled_bind]

end Results

/-! ### Capabilities -/

section Capabilities

variable {response : Response} {expectedId : Int} {expectedNonce : Text}

/-- The fields of a hello before its capabilities. -/
structure HelloLeading (response : Response) (expectedId : Int) (expectedNonce : Text)
    (result : Record helloFields) : Prop where
  answered : response.responseId = some expectedId ∧ response.ok
  found : response.result.asRecord helloFields = some result
  session : ∃ session, response.session = some session ∧
    (result.get "session").asStr.filter isToken = some session
  boot : ((result.get "boot_id").asStr.filter isToken).isSome
  nonce : (result.get "client_nonce").asStr.filter isToken = some expectedNonce
  project : (result.get "project").asStr = some (text "s3-hidbot")
  version : (result.get "protocol_version").asInteger = some protocolVersion

/-- Where the capabilities are encoded, no lone surrogate comes before a text too long. -/
def CapabilitiesCovered (value : Value) : Prop :=
  ∀ capabilities, value.asTexts = some capabilities →
    (∀ item ∈ capabilities, item ≠ []) ∧ capabilities.length ≤ maxCapabilities ∧
      capabilities.Nodup → Covered (capabilities.flatMap (textFaults capabilitiesError))

@[mk_iff]
structure HelloCovered (response : Response) (expectedId : Int) (expectedNonce : Text) :
    Prop where
  covered : ∀ result, HelloLeading response expectedId expectedNonce result →
    CapabilitiesCovered (result.get "capabilities")

theorem handled_helloCapabilities {value : Value} :
    Handled (helloCapabilities value) ↔ CapabilitiesCovered value := by
  refine handled_demand_bind.trans (forall₂_congr fun capabilities _ => ?_)
  rw [handled_require_bind, boundedTexts_verdict, handled_bind, handled_verdict]
  exact forall_congr' fun _ => and_iff_left fun _ _ => by simp

theorem helloIdentity_ok {identity : HelloIdentity} {result : Record helloFields}
    (accepted : helloIdentity response expectedId expectedNonce = .ok (identity, result)) :
    HelloLeading response expectedId expectedNonce result := by
  simp only [helloIdentity, presentToken, record, bind_ok, require_ok, demand_ok] at accepted
  obtain ⟨_, answered, session, here, _, -, _, found, _, token, boot, started, nonce, known, _,
    ⟨rfl, rfl⟩, _, project, _, version, _, ⟨rfl, rfl⟩, same⟩ := accepted
  cases same
  exact ⟨answered, found, ⟨_, here, token⟩, started ▸ rfl, known, project, version⟩

theorem helloIdentity_of_leading {result : Record helloFields}
    (leading : HelloLeading response expectedId expectedNonce result) :
    ∃ identity, helloIdentity response expectedId expectedNonce = .ok (identity, result) := by
  obtain ⟨session, here, token⟩ := leading.session
  obtain ⟨boot, started⟩ := Option.isSome_iff_exists.mp leading.boot
  have dict : response.result.asDict.isSome := by
    rw [Value.of_asRecord leading.found]
    rfl
  refine ⟨⟨session, boot, expectedNonce, text "s3-hidbot", protocolVersion⟩, ?_⟩
  simp only [helloIdentity, presentToken, record, bind_ok, require_ok, demand_ok]
  exact ⟨(), leading.answered, session, here, (), dict, result, leading.found, session, token,
    boot, started, expectedNonce, leading.nonce, (), ⟨rfl, rfl⟩, _, leading.project, _,
    leading.version, (), ⟨rfl, rfl⟩, rfl⟩

theorem handled_validateHelloResponse :
    Handled (validateHelloResponse response expectedId expectedNonce) ↔
      HelloCovered response expectedId expectedNonce := by
  have leading : Handled (helloIdentity response expectedId expectedNonce) := by
    simp [helloIdentity, presentToken, record, handled_bind]
  have rest {identity : HelloIdentity} {result : Record helloFields} :
      Handled (helloCapabilities (result.get "capabilities") >>= fun capabilities => do
        let lease ← demand (result.get "lease_ms").asInteger
          (.protocol "hello response lease type is invalid")
        require (lease = leaseMilliseconds)
          (.compatibility "hello response lease is incompatible")
        pure (HelloResponse.mk identity.session identity.bootId identity.clientNonce
          identity.project identity.protocolVersion capabilities lease)) ↔
        CapabilitiesCovered (result.get "capabilities") := by
    rw [handled_bind, handled_helloCapabilities]
    exact and_iff_left fun _ _ => by simp [handled_bind]
  rw [validateHelloResponse, handled_bind, helloCovered_iff]
  constructor
  · intro handled result fields
    obtain ⟨identity, accepted⟩ := helloIdentity_of_leading fields
    exact rest.mp (handled.2 _ accepted)
  · exact fun covered => ⟨leading, fun accepted ok => rest.mpr (covered _ (helloIdentity_ok ok))⟩

/-- Where the capabilities are encoded, no lone surrogate comes first. -/
def InfoCovered (capabilities : List Text) : Prop :=
  capabilities.length ≤ maxCapabilities ∧ capabilities.Nodup →
    Covered (capabilities.flatMap fun item =>
      limitUnless (item ≠ []) capabilityError ++ textFaults capabilityError item)

theorem handled_infoCapabilities {capabilities : List Text} :
    Handled (infoCapabilities capabilities) ↔ InfoCovered capabilities := by
  rw [infoCapabilities, handled_require_bind]
  refine forall_congr' fun _ => ?_
  rw [← handled_verdict, ← verdict_flatMap]
  refine iff_of_eq (congrArg (Handled <| capabilities.forM ·) (funext fun item => ?_))
  rw [verdict_append, ← require_verdict, ← boundedText_verdict]

theorem handled_systemInfo {names : List String} {result : Record names}
    {known : ∀ name ∈ systemInfoFields, name ∈ names} : Handled (systemInfo result known) := by
  simp [systemInfo, asciiText, handled_bind]

theorem handled_parseFirmwareIdentity {value : Value} : Handled (parseFirmwareIdentity value) := by
  simp [parseFirmwareIdentity, record, handled_bind]

theorem handled_asCompatibility {α : Type} {check : Received α} {message : String}
    (handled : Handled check) : Handled (asCompatibility check message) := by
  unfold asCompatibility
  split
  · exact handled_refuse _
  · exact handled

theorem handled_validateSystemInfo {value : Value} {capabilities : List Text} :
    Handled (validateSystemInfo value capabilities) ↔ InfoCovered capabilities := by
  rw [validateSystemInfo, handled_bind, handled_infoCapabilities]
  refine and_iff_left fun _ _ => ?_
  split_ifs
  all_goals simp [handled_bind, handled_systemInfo,
    handled_asCompatibility handled_parseFirmwareIdentity]

end Capabilities

/-! ### What the device sends -/

/-- What the host is given to read: payloads, events of the framer and results. -/
inductive Output where
  | payload (bytes : List ControlFraming.Byte)
  | responses (call : Call) (progress : Progress) (events : List Host.FrameEvent)
  | hello (response : Response) (expectedId : Int) (expectedNonce : Text)
  | systemInfo (value : Value) (capabilities : List Text)
  | releaseAll (value : Value)
  | keyboardReport (value : Value)
  | mouseReport (value : Value)
  | sequenceHandle (value : Value)
  | sequenceStatus (value : Value)
  | usbExposure (value : Value)
  | bleExposure (value : Value)
  | blePairing (value : Value)
  | blePairingRespond (value : Value)
  | bleBondList (value : Value)
  | bleBondRemove (value : Value)
  | hidRoute (value : Value)
  | hidRouteV2 (value : Value)
  | bleProfileList (value : Value)
  | bleProfileStatus (value : Value)
  | bleLed (value : Value)

section Output

variable (decode : List ControlFraming.Byte → Option Value)

/-- The host raises for it nothing but what it has meant to raise. -/
def Output.Classified : Output → Prop
  | payload bytes => Handled (parseResponse decode bytes)
  | responses call progress events => Handled (waitForResponse decode call events progress)
  | hello response expectedId expectedNonce =>
      Handled (validateHelloResponse response expectedId expectedNonce)
  | systemInfo value capabilities => Handled (validateSystemInfo value capabilities)
  | releaseAll value => Handled (validateReleaseAllResult value)
  | keyboardReport value => Handled (validateKeyboardReportResult value)
  | mouseReport value => Handled (validateMouseReportResult value)
  | sequenceHandle value => Handled (validateSequenceHandle value)
  | sequenceStatus value => Handled (validateSequenceStatus value)
  | usbExposure value => Handled (validateUsbExposureStatus value)
  | bleExposure value => Handled (validateBleExposureStatus value)
  | blePairing value => Handled (validateBlePairingStatus value)
  | blePairingRespond value => Handled (validateBlePairingRespondResult value)
  | bleBondList value => Handled (validateBleBondList value)
  | bleBondRemove value => Handled (validateBleBondRemoveResult value)
  | hidRoute value => Handled (validateHidRouteStatus value)
  | hidRouteV2 value => Handled (validateHidRouteV2Status value)
  | bleProfileList value => Handled (validateBleProfileList value)
  | bleProfileStatus value => Handled (validateBleProfileStatus value)
  | bleLed value => Handled (validateBleLedStatus value)

/-- No lone surrogate is encoded, and no list and no object is looked up in a set. -/
def Output.Proper : Output → Prop
  | payload bytes => Plain decode bytes
  | responses call progress events => FramesPlain decode call progress events
  | hello response expectedId expectedNonce => HelloCovered response expectedId expectedNonce
  | systemInfo _ capabilities => InfoCovered capabilities
  | releaseAll value => ReleaseHashable value
  | keyboardReport value | mouseReport value => StateHashable value
  | usbExposure value => UsbHashable value
  | bleExposure value => BleHashable value
  | hidRoute value => RouteHashable routeV1.names value
  | hidRouteV2 value => RouteHashable routeV2.names value
  | _ => True

/-- The errors of the host are the only ones exactly where the output is proper. -/
theorem malformed_output (output : Output) : output.Classified decode ↔ output.Proper decode := by
  cases output with
  | payload => exact handled_parseResponse
  | responses => exact handled_waitForResponse
  | hello => exact handled_validateHelloResponse
  | systemInfo => exact handled_validateSystemInfo
  | releaseAll => exact handled_validateReleaseAllResult
  | keyboardReport | mouseReport => exact handled_reportResult
  | sequenceHandle => exact iff_true_intro handled_validateSequenceHandle
  | sequenceStatus => exact iff_true_intro handled_validateSequenceStatus
  | usbExposure => exact handled_validateUsbExposureStatus
  | bleExposure => exact handled_validateBleExposureStatus
  | blePairing => exact iff_true_intro handled_validateBlePairingStatus
  | blePairingRespond => exact iff_true_intro handled_validateBlePairingRespondResult
  | bleBondList => exact iff_true_intro handled_validateBleBondList
  | bleBondRemove => exact iff_true_intro handled_validateBleBondRemoveResult
  | hidRoute | hidRouteV2 => exact handled_validateRoute
  | bleProfileList => exact iff_true_intro handled_validateBleProfileList
  | bleProfileStatus => exact iff_true_intro handled_validateBleProfileStatus
  | bleLed => exact iff_true_intro handled_validateBleLedStatus

end Output

/-- The escape of half a pair, which is `"\ud800"`. -/
def surrogatePayload : List ControlFraming.Byte := [0x22, 0x5c, 0x75, 0x64, 0x38, 0x30, 0x30, 0x22]

/-- A decoder that knows this payload alone. -/
def surrogateDecode (payload : List ControlFraming.Byte) : Option Value :=
  if payload = surrogatePayload then some (.str [.surrogate 0]) else none

/-- Half a pair stops the client, and so does a state that is a list. -/
theorem malformed_output_aborts :
    ¬(Output.payload surrogatePayload).Classified surrogateDecode ∧
      ¬(Output.keyboardReport (.dict [(text "state", .list [])])).Classified surrogateDecode := by
  constructor
  · intro classified
    have covered := handled_parseResponse.mp classified (by decide) _ (if_pos rfl)
    exact absurd covered (by decide)
  · intro classified
    have hashable := (handled_reportResult.mp classified).hashable ⟨_, by decide⟩ rfl
    exact absurd hashable (by decide)

end HidBot.HostProtocol
