import HidBot.Runtime.LinkMoves
import HidBot.Runtime.TicketMoves

/-!
# Moves of the routes, the sequences and the executor

The route requests, the sequences and the claim for sleep. The operations that draw a
number, use a claim or commit a release are followed for any steps that their own accesses
make.
-/

namespace HidBot.Runtime

open Interleaving

variable {α : Type} {interface : Interface}

namespace Move

/-! ### Route requests -/

theorem routeUsbReady_loads (route : Route.Snapshot) (lifecycle : UsbLifecycle.Snapshot)
    (runtime : StatusSnapshot) : (routeUsbReady route lifecycle runtime).Loads :=
  .allOf ⟨.done _, not_loads anySafetyRequired_loads, .done _⟩

theorem routeStatusWithin_loads (attempts : Nat) (fallback : Route.Snapshot) :
    (routeStatusWithin attempts fallback).Loads := by
  induction attempts generalizing fallback with
  | zero => exact .done _
  | succ attempts ih =>
      refine .bind routeSnapshot_loads fun _ => .bind usbSnapshot_loads fun _ => ?_
      refine .bind status_loads fun _ => .bind usbSnapshot_loads fun _ => ?_
      refine .bind status_loads fun _ => .bind routeSnapshot_loads fun _ => ?_
      exact .ite (.bind (routeUsbReady_loads _ _ _) fun _ => .done _) (ih _)

theorem routeStatusSnapshot_loads : routeStatusSnapshot.Loads :=
  .bind routeSnapshot_loads fun _ => routeStatusWithin_loads _ _

theorem requestRouteUsb (task : Route.Task) : (Runtime.requestRouteUsb task).Each Move := by
  refine .bind (onRoute _) fun _ => .bind (loads routeStatusSnapshot_loads) fun _ => ?_
  refine .bind (loads usbSnapshot_loads) fun _ => .ite trivial <| .ite trivial ?_
  refine .bind (loads status_loads) fun _ => ?_
  refine .bind (loads (.anyOf ⟨.done _, anySafetyRequired_loads⟩)) fun _ => .ite trivial ?_
  refine .ite trivial <| .bind retireUnsafeRouteAuthority fun _ => .bind (onRoute _) fun _ => ?_
  exact .bind (loads routeStatusSnapshot_loads) fun _ => trivial

theorem releaseUsbInterface : (Runtime.releaseUsbInterface interface).Each Move :=
  .bind (loads (.anyOf ⟨not_loads knownAllUp_loads, .read _, .read _⟩)) fun _ =>
    .bind (.onlyIf _ (.bind requireSafety fun _ => storeUncertain)) fun _ =>
      .bind landReport fun _ => .bind cancelQueued fun _ => trivial

theorem releaseUsbRoute (task : Route.Task) : (Runtime.releaseUsbRoute task).Each Move := by
  refine .bind (onRoute _) fun stageA => ?_
  cases stageA with
  | none => trivial
  | some stageA =>
      refine .bind retireUnsafeRouteAuthority fun _ => .bind releaseUsbInterface fun _ => ?_
      refine .bind releaseUsbInterface fun _ => .bind (.onlyIf _ ?_) fun _ => trivial
      exact .bind (onUsb _) fun _ => .bind (onRoute _) fun _ => trivial

theorem requestRouteNone (task : Route.Task) : (Runtime.requestRouteNone task).Each Move := by
  refine .bind (loads routeStatusSnapshot_loads) fun _ => .ite trivial <| .ite trivial ?_
  refine .ite ?_ (.ite (releaseUsbRoute _) trivial)
  refine .bind (loads bleRouteAuthoritySnapshot_loads) fun _ => ?_
  exact .bind (retireBleRouteIfMatches _ _ _) fun _ => .ite
    (.bind (loads routeStatusSnapshot_loads) fun _ => trivial) trivial

theorem completeRouteRelease (task : Route.Task) (stageA : Route.Snapshot) :
    (Runtime.completeRouteRelease task stageA).Each Move :=
  .bind (onRoute _) fun _ => trivial

theorem terminalizeRouteReleaseScheduleFailure (task : Route.Task) (stageA : Route.Snapshot) :
    (Runtime.terminalizeRouteReleaseScheduleFailure task stageA).Each Move :=
  .bind (loads attachGeneration_loads) fun _ => .bind (markLifecycleDetachUncertain _) fun _ =>
    completeRouteRelease _ _

/-! ### Sequences -/

theorem dropSequence (generation : UInt32) : (Runtime.dropSequence generation).Each Move := by
  refine .write fun words => ?_
  split
  · exact .revoke words
  · exact .refl words

theorem endSequence (sequence : SequenceAuthority) : (Runtime.endSequence sequence).Each Move :=
  dropSequence _

theorem revokeSequence : Runtime.revokeSequence.Each Move :=
  admitted (fun _ _ => id) fun _ => .write .revoke

theorem sequenceSafetyPending_loads : sequenceSafetyPending.Loads :=
  .anyOf ⟨safetyPending_loads, .read _, .read _⟩

theorem mailboxesBusy_loads : mailboxesBusy.Loads := .anyOf ⟨.read _, .read _, .read _, .read _⟩

theorem usbSequenceReady_loads (route : Route.Snapshot) (runtime : StatusSnapshot) :
    (usbSequenceReady route runtime).Loads := .allOf ⟨.done _, unsafeRouteActive_loads _ _⟩

theorem bleSequenceReady_loads (route : Route.Snapshot) (ble : BleRouteAuthoritySnapshot)
    (authority : AuthorityEpoch) : (bleSequenceReady route ble authority).Loads :=
  .allOf ⟨.done _, unsafeRouteActive_loads _ _⟩

theorem sequenceObstacle_loads (usbReady bleReady : Bool) :
    (sequenceObstacle usbReady bleReady).Loads :=
  .ite (.done _) <| .bind sequenceSafetyPending_loads fun _ => .ite (.done _) <|
    .bind (.anyOf ⟨.read _, .read _, mailboxesBusy_loads⟩) fun _ => .ite (.done _) (.done _)

theorem lateSequenceObstacle_loads (usbReady bleReady : Bool) (route : Route.Snapshot)
    (ble : BleRouteAuthoritySnapshot) (authority : AuthorityEpoch) :
    (lateSequenceObstacle usbReady bleReady route ble authority).Loads := by
  refine .bind status_loads fun _ => .bind routeSnapshot_loads fun _ => ?_
  refine .bind (.allOf ⟨.done _, unsafeRouteActive_loads _ _⟩) fun _ => ?_
  refine .bind (.allOf ⟨.done _, bleRouteNormalAuthorityMatches_loads _⟩) fun _ => ?_
  refine .bind (.anyOf ⟨compare_loads authorityEpoch_loads _, .done _⟩) fun _ => .ite (.done _) ?_
  refine .bind sequenceSafetyPending_loads fun _ => .ite (.done _) ?_
  exact .bind mailboxesBusy_loads fun _ => .ite (.done _) (.done _)

theorem admitSequence_loads (generation : UInt32) : (admitSequence generation).Loads := by
  refine .bind authorityEpoch_loads fun _ => .bind status_loads fun _ => ?_
  refine .bind routeSnapshot_loads fun _ => .bind bleRouteAuthoritySnapshot_loads fun _ => ?_
  refine .bind (usbSequenceReady_loads _ _) fun _ => .bind (bleSequenceReady_loads _ _ _)
    fun _ => ?_
  refine .bind (sequenceObstacle_loads _ _) fun obstacle => ?_
  cases obstacle with
  | some obstacle => exact .done _
  | none =>
      refine .bind (.read _) fun _ => .bind (.read _) fun _ => ?_
      refine .bind (lateSequenceObstacle_loads _ _ _ _ _) fun obstacle => ?_
      cases obstacle with
      | some obstacle => exact .done _
      | none =>
          exact .bind releaseEpoch_loads fun _ => .bind (sequenceAuthorityCurrent_loads _)
            fun _ => .ite (.done _) (.done _)

/-! ### Simulated sleep -/

theorem profileSwitchQuiescent_loads : profileSwitchQuiescent.Loads :=
  .allOf ⟨not_loads (.read _), not_loads (.read _), not_loads (.read _), knownAllUp_loads,
    knownAllUp_loads, not_loads (.anyOf ⟨.read _, .read _, .read _⟩),
    not_loads (.anyOf ⟨.read _, .read _, .read _⟩),
    .allOf ⟨not_loads anySafetyRequired_loads, not_loads (.read _), not_loads (.read _),
      not_loads (.read _), not_loads (.read _)⟩⟩

theorem releaseSleepQuiescence : Runtime.releaseSleepQuiescence.Each Move :=
  .write fun _ => .beside rfl

theorem claimSleepQuiescence (authority : AuthorityEpoch) (generation : RouteGeneration) :
    (Runtime.claimSleepQuiescence authority generation).Each Move := by
  refine .bind (.readModifyWrite fun words => ?_) fun _ => .ite trivial ?_
  · split
    · exact .beside rfl
    · exact .refl words
  refine .bind (loads routeSnapshot_loads) fun _ => ?_
  refine .bind (loads (.allOf ⟨compare_loads authorityEpoch_loads _, .done _,
    profileSwitchQuiescent_loads⟩)) fun _ => ?_
  exact .ite trivial (.bind releaseSleepQuiescence fun _ => trivial)

theorem commitSleepQuiescence : Runtime.commitSleepQuiescence.Each Move := by
  refine .readModifyWrite fun words => ?_
  split
  · exact .beside rfl
  · exact .refl words

/-! ### Submissions -/

theorem acceptBleReport (report : List UInt8) :
    (Runtime.acceptBleReport interface report).Each Move := by
  refine .bind (onInterface fun _ => rfl) fun _ => .bind (onInterface fun state => ?_) fun _ =>
    storeHeld _
  cases interface <;> rfl

theorem usbFence_loads (token : HidWorkToken) (generation : UsbGeneration)
    (authority : AuthorityEpoch) : (usbFence interface token generation authority).Loads := by
  refine .bind (.anyOf ⟨.done _, .read _⟩) fun _ => ?_
  refine .bind (.anyOf ⟨releaseEpochLost_loads _, safetyPending_loads⟩) fun _ => ?_
  refine .bind (.anyOf ⟨not_loads mountedAndActive_loads,
    not_loads (unsafeRouteActive_loads _ _)⟩) fun _ => ?_
  exact .bind (.anyOf ⟨.read _, .read _⟩) fun _ => .done _

theorem usbFenceBroken_loads (token : HidWorkToken) : (usbFenceBroken interface token).Loads :=
  .anyOf ⟨generationOrAuthorityLost_loads _, releaseEpochLost_loads _, .read _,
    not_loads (unsafeRouteActive_loads _ _), not_loads mountedAndActive_loads, safetyPending_loads⟩

end Move

/-! ### Operations with accesses of their own -/

section Own

variable {step : Words → Words → Prop}
  (move : ∀ before after, Move before after → step before after)

include move

theorem commitBleReleaseAll_each
    (commits : ∀ expected, (commitBleRelease expected).Each step) (expected : ReleaseAllSnapshot) :
    (commitBleReleaseAll expected).Each step :=
  .bind (.mono move (Move.read _)) fun _ => .ite (commits _) trivial

theorem requestRouteBle_each (draws : drawProfileActivationEpoch.Each step)
    (publishes : ∀ activation authority generation,
      (publishBleRouteAuthority activation authority generation).Each step)
    (task : Route.Task) (activation : BleRouteActivation) :
    (requestRouteBle task activation).Each step := by
  refine .bind (.mono move (Move.loads routeSnapshot_loads)) fun _ => ?_
  refine .bind (.mono move (Move.loads (.anyOf ⟨.done _, compare_loads authorityEpoch_loads _,
    .done _⟩))) fun _ => .ite trivial <| .ite trivial ?_
  refine .bind (.mono move (Move.loads (.anyOf ⟨.read _, anySafetyRequired_loads⟩))) fun _ =>
    .ite trivial <| .bind draws fun drawn => ?_
  cases drawn with
  | none => trivial
  | some epoch =>
      refine .bind (.mono move Move.retireUnsafeRouteAuthority) fun _ => ?_
      refine .bind (.mono move (Move.onRoute _)) fun _ => .ite
        (.bind (.mono move (Move.loads routeSnapshot_loads)) fun _ => trivial) ?_
      refine .bind (.mono move (Move.loads routeSnapshot_loads)) fun _ => .ite
        (.bind (.mono move (Move.onRoute _)) fun _ =>
          .bind (.mono move (Move.loads routeSnapshot_loads)) fun _ => trivial) ?_
      exact .bind (.mono move (Move.loads authorityEpoch_loads)) fun _ =>
        .bind (publishes _ _ _) fun _ => trivial

theorem beginSequence_each (draws : drawSequenceGeneration.Each step)
    (takes : ∀ generation, (takeSequence generation).Each step) : beginSequence.Each step := by
  refine Move.admitted move fun _ => .ite trivial <| .bind draws fun drawn => ?_
  cases drawn with
  | none => trivial
  | some generation =>
      refine .bind (takes _) fun _ => .ite trivial ?_
      refine .bind (.mono move (Move.loads (Move.admitSequence_loads _))) fun admission => ?_
      cases admission with
      | accepted => trivial
      | busy | notReady | safetyPending =>
          exact .bind (.mono move (Move.dropSequence _)) fun _ => trivial

theorem processBleReport_each (task : Route.Task) (token : HidWorkToken)
    (claims : (claimForBle task interface token).Each step)
    (submits : ∀ report, (submit .ticket interface token report).Each step)
    (settles : ∀ same state outcome, (settleClaim interface same state outcome).Each step) :
    (processBleReport task interface token).Each step := by
  refine .ite trivial <| .bind claims fun payload => ?_
  cases payload with
  | none => trivial
  | some payload =>
      have fence : (bleFence interface token).Loads :=
        .allOf ⟨Move.bleWorkTokenCurrent_loads _, not_loads safetyPending_loads⟩
      refine .bind (.mono move (Move.loads (.allOf ⟨fence, fence⟩))) fun _ => ?_
      refine .ite (.bind (settles _ _ _) fun _ => trivial) <| .bind (submits _) fun _ => .ite ?_ ?_
      · refine .bind (.mono move (Move.loads bleRouteAuthoritySnapshot_loads)) fun _ => ?_
        exact .bind (.mono move (Move.retireBleRouteIfMatches _ _ _)) fun _ =>
          .bind (settles _ _ _) fun _ => trivial
      · refine .bind (.mono move (Move.acceptBleReport _)) fun _ => settles _ _ _

theorem processTicket_each (task : Route.Task) (generation : UsbGeneration)
    (authority : AuthorityEpoch) (claims : (claimForUsb task interface).Each step)
    (submits : ∀ token report, (submit .ticket interface token report).Each step)
    (settles : ∀ same state outcome, (settleClaim interface same state outcome).Each step) :
    (processTicket task interface generation authority).Each step := by
  refine .bind claims fun claimed => ?_
  rcases claimed with _ | ⟨token, report⟩
  · trivial
  refine .bind (.mono move (Move.loads (Move.usbFence_loads _ _ _))) fun broken => ?_
  cases broken with
  | some outcome => exact .bind (settles _ _ _) fun _ => trivial
  | none =>
      refine .bind (.mono move (Move.loads (Move.usbFenceBroken_loads _))) fun _ => .ite ?_ ?_
      · exact .bind (.mono move (Move.loads (Move.generationOrAuthorityLost_loads _))) fun _ =>
          .bind (settles _ _ _) fun _ => trivial
      refine .bind (submits _ _) fun _ => .ite (.bind (settles _ _ _) fun _ => trivial) ?_
      refine .bind (.mono move (Move.putInFlight _)) fun _ => ?_
      refine .bind (.mono move (Move.attempt _)) fun _ => ?_
      exact .bind (.mono move (Move.storeHeld _)) fun _ => settles _ _ _

theorem submitMailbox_each (slot : MailboxReport) (generation : UsbGeneration)
    (authority : AuthorityEpoch)
    (submits : ∀ token report, (submit (.mailbox slot.release) interface token report).Each step)
    (notes : ∀ generation authority epoch outcome,
      (noteUsbReleaseOutcome slot.release interface generation authority epoch outcome).Each step) :
    (submitMailbox interface slot generation authority).Each step := by
  refine .bind (.mono move (Move.loads (Move.mailboxFenceBroken_loads _))) fun _ => .ite
    (.bind (.mono move (Move.storeSlot _)) fun _ => trivial) ?_
  refine .bind (submits _ _) fun _ => .ite (.bind (.mono move (Move.storeSlot _)) fun _ =>
    .bind (.onlyIf _ (notes _ _ _ _)) fun _ => trivial) ?_
  refine .bind (.mono move (Move.putInFlight _)) fun _ => ?_
  refine .bind (.mono move (Move.attemptMailbox _)) fun _ => ?_
  exact .bind (.onlyIf _ (notes _ _ _ _)) fun _ => .bind (.mono move (Move.storeSlot _))
    fun _ => trivial

theorem processMailbox_each (generation : UsbGeneration) (authority : AuthorityEpoch)
    (submits : ∀ slot, (submitMailbox interface slot generation authority).Each step) :
    (processMailbox interface generation authority).Each step := by
  refine .bind (.mono move (Move.read _)) fun _ => .ite
    (.bind (.mono move (Move.storeSlot _)) fun _ => trivial) ?_
  have rest : (do
      if !(← exchangeSlot interface .ready .executing) then
        return false
      let slot ← interfaceField interface (·.slot)
      if ← rejectMailbox interface slot generation authority then
        return false
      submitMailbox interface slot generation authority).Each step :=
    .bind (.mono move (Move.exchangeSlot _ _)) fun _ => .ite trivial <|
      .bind (.mono move (Move.read _)) fun slot =>
        .bind (.mono move (Move.rejectMailbox _ _ _)) fun _ => .ite trivial (submits slot)
  refine .bind (.mono move (Move.loads (.allOf ⟨not_loads (.read _), .read _,
    not_loads (.read _)⟩))) fun _ => .ite ?_ rest
  exact .bind (.mono move Move.queueSafety) fun _ => rest

theorem execute_each (task : Route.Task)
    (tickets : ∀ interface generation authority,
      (processTicket task interface generation authority).Each step)
    (mailboxes : ∀ interface generation authority,
      (processMailbox interface generation authority).Each step) : (execute task).Each step := by
  refine .bind (.mono move (Move.loads status_loads)) fun _ => .ite ?_ trivial
  refine .bind (.mono move (Move.loads attachGeneration_loads)) fun _ => ?_
  refine .bind (.mono move (Move.loads authorityEpoch_loads)) fun _ => ?_
  refine .bind (.mono move (Move.consumeReleaseRequest _ _)) fun _ => ?_
  refine .bind (.onlyIf _ (.mono move (Move.bothInterfaces fun _ => Move.publishReleaseDebt)))
    fun _ => ?_
  refine .bind (.anyOf ⟨tickets _ _ _, tickets _ _ _⟩) fun _ => .ite trivial ?_
  refine .bind (.anyOf ⟨mailboxes _ _ _, mailboxes _ _ _⟩) fun _ => ?_
  exact .onlyIf _ (.mono move (Move.reconcileZeroWorkRelease _ _ _ _))

end Own

end HidBot.Runtime
