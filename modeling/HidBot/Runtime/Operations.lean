import HidBot.Runtime.RouteMoves

/-!
# Operations of the runtime

The calls that the tasks of the firmware make on `hid_runtime::StateMachine`, any number
of tasks at a time.
-/

namespace HidBot.Runtime

open Interleaving

/-- What the executor of the USB driver reports to the lifecycle. -/
inductive DriverReport where
  | installSuccess
  | installCleanFailure (errorCode : Int32)
  | installAmbiguousFailure (errorCode : Int32)
  | beginUninstall
  | uninstallSuccess
  | uninstallFailure (errorCode : Int32)
  | updateRuntimeFault (errorCode : Int32)
  | completeRuntimeFault (driverUninstalled : Bool)

def DriverReport.call : DriverReport → Program UsbLifecycle.Words Unit
  | installSuccess => UsbLifecycle.completeInstallSuccess
  | installCleanFailure errorCode => UsbLifecycle.completeInstallCleanFailure errorCode
  | installAmbiguousFailure errorCode => UsbLifecycle.completeInstallAmbiguousFailure errorCode
  | beginUninstall => do let _ ← UsbLifecycle.beginUninstall
  | uninstallSuccess => UsbLifecycle.completeUninstallSuccess
  | uninstallFailure errorCode => UsbLifecycle.completeUninstallFailure errorCode
  | updateRuntimeFault errorCode => UsbLifecycle.updateRuntimeFault errorCode
  | completeRuntimeFault driverUninstalled =>
      UsbLifecycle.completeRuntimeFault driverUninstalled

inductive RuntimeOperation where
  | beginReport (request : ReportRequest) (sequence : SequenceAuthority)
      (owner : ReportOriginOwnerId)
  | reportSnapshot (interface : Interface) (id : HidTicketId)
  | cancelReport (interface : Interface) (id : HidTicketId)
  | finalizeReport (interface : Interface) (id : HidTicketId)
  | markBleReportScheduled (interface : Interface) (token : HidWorkToken)
  | abandonBleReport (interface : Interface) (token : HidWorkToken)
  | processBleReport (interface : Interface) (token : HidWorkToken)
  | queueReport (request : ReportRequest)
  | execute
  | reportComplete (interface : Interface) (report : Option (List UInt8))
  | reportCompleteForToken (interface : Interface) (token : HidWorkToken)
      (report : Option (List UInt8))
  | reportFailed (interface : Interface) (report : Option (List UInt8))
  | reportFailedForToken (interface : Interface) (token : HidWorkToken)
      (report : Option (List UInt8))
  | requestReleaseAll
  | beginReleaseAll
  | releaseAllSnapshot
  | finalizeReleaseAll (id : ReleaseAllId)
  | noteBleRouteContinuityLoss (expected : BleRouteAuthoritySnapshot)
  | prepareBleReleaseAllInterface (expected : ReleaseAllSnapshot) (interface : Interface)
  | completeBleReleaseAllInterface (expected : ReleaseAllSnapshot) (interface : Interface)
  | failBleReleaseAll (expected : ReleaseAllSnapshot) (uncertainInterface : Interface)
  | commitBleReleaseAll (expected : ReleaseAllSnapshot)
  | retireBleRouteIfMatches (expected : BleRouteAuthoritySnapshot) (uncertain : Option Interface)
  | completeBleRouteReleaseIfMatches (expected : BleRouteAuthoritySnapshot)
  | onMount
  | onUnmount
  | onSuspend
  | onResume
  | noteSofActivity
  | setReady (interface : Interface) (ready : Bool)
  | onUsbLinkStall (expected : UsbLinkWatchdogSnapshot)
      (token : Route.ConditionalInvalidationToken)
  | requestUsbAttach (taken : Bool)
  | requestUsbDetach (taken : Bool)
  | driver (report : DriverReport)
  | beginLifecycleDetachSafety
  | beginRouteReleaseSafety (stageA : Route.Snapshot)
  | markLifecycleDetachUncertain (oldGeneration : UsbGeneration)
  | onDriverUninstalled
  | completeUsbDetachRouteInvalidation (oldRoute : Route.Snapshot)
  | beginUsbRuntimeFault (errorCode : Int32)
  | commitUsbRuntimeFaultShutdown
  | requestRouteUsb
  | requestRouteBle (activation : BleRouteActivation)
  | requestRouteNone
  | completeRouteRelease (stageA : Route.Snapshot)
  | terminalizeRouteReleaseScheduleFailure (stageA : Route.Snapshot)
  | beginSequence
  | endSequence (sequence : SequenceAuthority)
  | revokeSequence
  | sequenceAuthorityCurrent (sequence : SequenceAuthority)
  | claimSleepQuiescence (authority : AuthorityEpoch) (generation : RouteGeneration)
  | commitSleepQuiescence
  | releaseSleepQuiescence

/-- What a call returns, as far as the statements about it need it. -/
inductive RuntimeAnswer where
  | none
  | flag (result : Bool)
  | report (result : ReportBeginResult)
  | ticket (snapshot : Option ReportSnapshot)
  | releaseId (id : ReleaseAllId)
  | release (snapshot : ReleaseAllSnapshot)
  | sequence (admission : SequenceAdmission)
  deriving DecidableEq

def runtimeProgram (task : Route.Task) : RuntimeOperation → Program Words RuntimeAnswer
  | .beginReport request sequence owner =>
      return .report (← beginReport request sequence owner)
  | .reportSnapshot interface id => return .ticket (← reportSnapshotOf interface id)
  | .cancelReport interface id => return .flag (← cancelReport interface id)
  | .finalizeReport interface id => return .flag (← finalizeReport interface id)
  | .markBleReportScheduled interface token =>
      return .flag (← markBleReportScheduled interface token)
  | .abandonBleReport interface token => do
      abandonBleReport interface token
      return .none
  | .processBleReport interface token => return .flag (← processBleReport task interface token)
  | .queueReport request => return .flag (← queueReport request)
  | .execute => do
      execute task
      return .none
  | .reportComplete interface report => return .flag (← reportComplete interface report)
  | .reportCompleteForToken interface token report =>
      return .flag (← reportCompleteForToken interface token report)
  | .reportFailed interface report => return .flag (← reportFailed interface report).isSome
  | .reportFailedForToken interface token report =>
      return .flag (← reportFailedForToken interface token report).isSome
  | .requestReleaseAll => do
      requestReleaseAll
      return .none
  | .beginReleaseAll => return .releaseId (← beginReleaseAll)
  | .releaseAllSnapshot => return .release (← releaseAllSnapshot)
  | .finalizeReleaseAll id => return .release (← finalizeReleaseAll id)
  | .noteBleRouteContinuityLoss expected => do
      noteBleRouteContinuityLoss expected
      return .none
  | .prepareBleReleaseAllInterface expected interface => do
      let _ ← prepareBleReleaseAllInterface expected interface
      return .none
  | .completeBleReleaseAllInterface expected interface =>
      return .flag (← completeBleReleaseAllInterface expected interface)
  | .failBleReleaseAll expected uncertainInterface => do
      failBleReleaseAll expected uncertainInterface
      return .none
  | .commitBleReleaseAll expected => return .flag (← commitBleReleaseAll expected)
  | .retireBleRouteIfMatches expected uncertain =>
      return .flag (← retireBleRouteIfMatches task expected uncertain)
  | .completeBleRouteReleaseIfMatches expected =>
      return .flag (← completeBleRouteReleaseIfMatches task expected)
  | .onMount => do
      onMount
      return .none
  | .onUnmount => do
      onUnmount task
      return .none
  | .onSuspend => do
      onSuspend task
      return .none
  | .onResume => do
      onResume
      return .none
  | .noteSofActivity => do
      noteSofActivity
      return .none
  | .setReady interface ready => do
      setReady interface ready
      return .none
  | .onUsbLinkStall expected token => do
      let _ ← onUsbLinkStall task expected token
      return .none
  | .requestUsbAttach taken => do
      let _ ← requestUsbAttach taken
      return .none
  | .requestUsbDetach taken => do
      let _ ← requestUsbDetach taken
      return .none
  | .driver report => do
      onUsb report.call
      return .none
  | .beginLifecycleDetachSafety => do
      let _ ← beginLifecycleDetachSafety
      return .none
  | .beginRouteReleaseSafety stageA => do
      let _ ← beginRouteReleaseSafety stageA
      return .none
  | .markLifecycleDetachUncertain oldGeneration => do
      markLifecycleDetachUncertain oldGeneration
      return .none
  | .onDriverUninstalled => do
      onDriverUninstalled
      return .none
  | .completeUsbDetachRouteInvalidation oldRoute => do
      completeUsbDetachRouteInvalidation task oldRoute
      return .none
  | .beginUsbRuntimeFault errorCode => return .flag (← beginUsbRuntimeFault errorCode)
  | .commitUsbRuntimeFaultShutdown => do
      commitUsbRuntimeFaultShutdown task
      return .none
  | .requestRouteUsb => do
      let _ ← requestRouteUsb task
      return .none
  | .requestRouteBle activation => do
      let _ ← requestRouteBle task activation
      return .none
  | .requestRouteNone => do
      let _ ← requestRouteNone task
      return .none
  | .completeRouteRelease stageA => do
      completeRouteRelease task stageA
      return .none
  | .terminalizeRouteReleaseScheduleFailure stageA => do
      terminalizeRouteReleaseScheduleFailure task stageA
      return .none
  | .beginSequence => return .sequence (← beginSequence)
  | .endSequence sequence => do
      endSequence sequence
      return .none
  | .revokeSequence => do
      revokeSequence
      return .none
  | .sequenceAuthorityCurrent sequence => return .flag (← sequenceAuthorityCurrent sequence)
  | .claimSleepQuiescence authority generation =>
      return .flag (← claimSleepQuiescence authority generation)
  | .commitSleepQuiescence => return .flag (← commitSleepQuiescence)
  | .releaseSleepQuiescence => do
      releaseSleepQuiescence
      return .none

abbrev RuntimeConfig := Config Route.Task Words RuntimeOperation RuntimeAnswer

/-- The operation has accesses that are no moves. -/
def RuntimeOperation.own : RuntimeOperation → Bool
  | .processBleReport .. | .execute | .commitBleReleaseAll _ | .requestRouteBle _ |
    .beginSequence => true
  | _ => false

/-- **All other operations only move.** -/
theorem runtimeProgram_moves (task : Route.Task) {operation : RuntimeOperation}
    (plain : operation.own = false) : (runtimeProgram task operation).Each Move := by
  cases operation with
  | processBleReport | execute | commitBleReleaseAll | requestRouteBle | beginSequence =>
      cases plain
  | beginReport request sequence owner => exact .bind (Move.beginReport _ _ _) fun _ => trivial
  | reportSnapshot interface id => exact .bind (Move.read _) fun _ => trivial
  | cancelReport interface id => exact .bind (Move.cancelReport _) fun _ => trivial
  | finalizeReport interface id => exact .bind (Move.finalizeReport _) fun _ => trivial
  | markBleReportScheduled interface token =>
      exact .bind (Move.markBleReportScheduled _) fun _ => trivial
  | abandonBleReport interface token => exact .bind (Move.abandonBleReport _) fun _ => trivial
  | queueReport request => exact .bind (Move.queueReport _) fun _ => trivial
  | reportComplete interface report => exact .bind (Move.reportComplete _) fun _ => trivial
  | reportCompleteForToken interface token report =>
      exact .bind (Move.reportCompleteForToken _ _) fun _ => trivial
  | reportFailed interface report => exact .bind (Move.reportFailed _) fun _ => trivial
  | reportFailedForToken interface token report =>
      exact .bind (Move.reportFailedForToken _ _) fun _ => trivial
  | requestReleaseAll => exact .bind Move.requestReleaseAll fun _ => trivial
  | beginReleaseAll => exact .bind Move.beginReleaseAll fun _ => trivial
  | releaseAllSnapshot => exact .bind (Move.read _) fun _ => trivial
  | finalizeReleaseAll id => exact .bind (Move.finalizeReleaseAll _) fun _ => trivial
  | noteBleRouteContinuityLoss expected =>
      exact .bind (Move.noteBleRouteContinuityLoss _) fun _ => trivial
  | prepareBleReleaseAllInterface expected interface =>
      exact .bind (Move.prepareBleReleaseAllInterface _) fun _ => trivial
  | completeBleReleaseAllInterface expected interface =>
      exact .bind (Move.completeBleReleaseAllInterface _) fun _ => trivial
  | failBleReleaseAll expected uncertainInterface =>
      exact .bind (Move.failBleReleaseAll _ _) fun _ => trivial
  | retireBleRouteIfMatches expected uncertain =>
      exact .bind (Move.retireBleRouteIfMatches _ _ _) fun _ => trivial
  | completeBleRouteReleaseIfMatches expected =>
      exact .bind (Move.completeBleRouteReleaseIfMatches _ _) fun _ => trivial
  | onMount => exact .bind Move.onMount fun _ => trivial
  | onUnmount => exact .bind (Move.onUnmount _) fun _ => trivial
  | onSuspend => exact .bind (Move.onSuspend _) fun _ => trivial
  | onResume => exact .bind Move.onResume fun _ => trivial
  | noteSofActivity => exact .bind Move.noteSofActivity fun _ => trivial
  | setReady interface ready => exact .bind (Move.setReady _) fun _ => trivial
  | onUsbLinkStall expected token => exact .bind (Move.onUsbLinkStall _ _ _) fun _ => trivial
  | requestUsbAttach taken => exact .bind (Move.requestUsbAttach _) fun _ => trivial
  | requestUsbDetach taken => exact .bind (Move.requestUsbDetach _) fun _ => trivial
  | driver report => exact .bind (Move.onUsb _) fun _ => trivial
  | beginLifecycleDetachSafety => exact .bind Move.beginLifecycleDetachSafety fun _ => trivial
  | beginRouteReleaseSafety stageA =>
      exact .bind (Move.beginRouteReleaseSafety _) fun _ => trivial
  | markLifecycleDetachUncertain oldGeneration =>
      exact .bind (Move.markLifecycleDetachUncertain _) fun _ => trivial
  | onDriverUninstalled => exact .bind Move.onDriverUninstalled fun _ => trivial
  | completeUsbDetachRouteInvalidation oldRoute =>
      exact .bind (Move.completeUsbDetachRouteInvalidation _ _) fun _ => trivial
  | beginUsbRuntimeFault errorCode => exact .bind (Move.beginUsbRuntimeFault _) fun _ => trivial
  | commitUsbRuntimeFaultShutdown =>
      exact .bind (Move.commitUsbRuntimeFaultShutdown _) fun _ => trivial
  | requestRouteUsb => exact .bind (Move.requestRouteUsb _) fun _ => trivial
  | requestRouteNone => exact .bind (Move.requestRouteNone _) fun _ => trivial
  | completeRouteRelease stageA => exact .bind (Move.completeRouteRelease _ _) fun _ => trivial
  | terminalizeRouteReleaseScheduleFailure stageA =>
      exact .bind (Move.terminalizeRouteReleaseScheduleFailure _ _) fun _ => trivial
  | endSequence sequence => exact .bind (Move.endSequence _) fun _ => trivial
  | revokeSequence => exact .bind Move.revokeSequence fun _ => trivial
  | sequenceAuthorityCurrent sequence =>
      exact .bind (Move.loads (sequenceAuthorityCurrent_loads _)) fun _ => trivial
  | claimSleepQuiescence authority generation =>
      exact .bind (Move.claimSleepQuiescence _ _) fun _ => trivial
  | commitSleepQuiescence => exact .bind Move.commitSleepQuiescence fun _ => trivial
  | releaseSleepQuiescence => exact .bind Move.releaseSleepQuiescence fun _ => trivial

end HidBot.Runtime
