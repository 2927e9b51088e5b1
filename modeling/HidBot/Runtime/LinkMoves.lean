import HidBot.Runtime.ReleaseMoves

/-!
# Moves of the mailboxes, the link and the routes

The mailboxes of the executor, what the USB stack calls back, the lifecycle and the routes.
-/

namespace HidBot.Runtime.Move

open Interleaving

variable {α : Type} {interface : Interface}

/-! ### Mailboxes -/

/-- A store of a sound mailbox report. -/
theorem withSlot {words : Words} {change : InterfaceState → InterfaceState}
    (keeps : (words.slots interface).Sound interface →
      (change (words.interfaces interface)).slot.Sound interface) :
    Move words (words.withInterface interface change) where
  grows := List.suffix_rfl
  tickets := .of_same rfl rfl rfl
  slots other sound := by
    by_cases same : other = interface
    · subst same
      simpa [Words.slots, Words.withInterface] using keeps sound
    · simpa [Words.slots, Words.withInterface, Function.update_of_ne same] using sound
  release := .of_same rfl rfl
  sequence := sequence_still rfl (.inl rfl)
  activation := activation_still rfl (.inl rfl)

theorem storeSlotReport {slot : MailboxReport} (sound : slot.Sound interface) :
    (Runtime.storeSlotReport interface slot).Each Move :=
  .write fun _ => .withSlot fun _ => sound

theorem drawMailboxId : Runtime.drawMailboxId.Each Move := .readModifyWrite fun _ => .beside rfl

theorem mailboxAdmits_loads (generation : RouteGeneration) :
    (mailboxAdmits interface generation).Loads :=
  .bind (.anyOf ⟨safetyPending_loads, not_loads (unsafeRouteActive_loads _ _)⟩) fun _ =>
    .ite (.done _) (.bind (.anyOf ⟨.read _, .read _⟩) fun _ => .done _)

theorem unsafe_sound (request : ReportRequest) {slot : MailboxReport}
    (kind : slot.token.reportKind = request.interface.unsafeKind) :
    slot.Sound request.interface := by
  intro safety
  rw [kind] at safety
  cases request <;> cases safety

theorem queueReport (request : ReportRequest) : (Runtime.queueReport request).Each Move := by
  refine admitted (fun _ _ => id) fun _ => .ite trivial ?_
  refine .bind (loads (.anyOf ⟨not_loads mountedAndActive_loads, .read _⟩)) fun _ =>
    .ite trivial ?_
  refine .bind (loads attachGeneration_loads) fun _ => .bind (loads authorityEpoch_loads)
    fun _ => ?_
  refine .bind (loads routeSnapshot_loads) fun _ => .bind (loads releaseEpoch_loads) fun _ => ?_
  refine .bind (loads (mailboxAdmits_loads _)) fun _ => .ite trivial ?_
  refine .bind (exchangeSlot _ _) fun _ => .ite trivial ?_
  refine .bind drawMailboxId fun _ => .bind (storeSlotReport (unsafe_sound request rfl)) fun _ => ?_
  refine .bind (loads (.anyOf ⟨.read _, .read _, compare_loads releaseEpoch_loads _,
    compare_loads attachGeneration_loads _, compare_loads authorityEpoch_loads _, .read _,
    not_loads (unsafeRouteActive_loads _ _), not_loads mountedAndActive_loads⟩)) fun _ => ?_
  exact .ite (.bind (storeSlot _) fun _ => trivial) (.bind (storeSlot _) fun _ => trivial)

theorem bindSafety (generation : UsbGeneration) (authority : AuthorityEpoch) :
    (Runtime.bindSafety interface generation authority).Each Move :=
  .write fun _ => .withSlot fun sound => sound

theorem queueSafety : (Runtime.queueSafety interface).Each Move := by
  refine .bind (loads (.allOf ⟨.read _, not_loads (.read _)⟩)) fun _ => .ite trivial ?_
  refine .bind (exchangeSlot _ _) fun _ => .ite trivial ?_
  refine .bind (loads attachGeneration_loads) fun _ => .bind (loads authorityEpoch_loads)
    fun _ => ?_
  refine .bind (loads routeSnapshot_loads) fun _ => .bind drawMailboxId fun _ => ?_
  refine .bind (storeSlotReport fun _ => ⟨rfl, rfl⟩) fun _ => .bind (bindSafety _ _) fun _ => ?_
  refine .bind (loads (.anyOf ⟨compare_loads attachGeneration_loads _,
    compare_loads authorityEpoch_loads _, not_loads safetyTransportActive_loads⟩)) fun _ => ?_
  exact .ite (.bind (storeSlot _) fun _ => trivial) (.bind (storeSlot _) fun _ => trivial)

theorem publishReleaseDebt : (Runtime.publishReleaseDebt interface).Each Move :=
  .bind (read _) fun _ => .ite requireSafety trivial

theorem generationOrAuthorityLost_loads (token : HidWorkToken) :
    (generationOrAuthorityLost token).Loads :=
  .anyOf ⟨compare_loads attachGeneration_loads _, compare_loads authorityEpoch_loads _⟩

theorem releaseEpochLost_loads (token : HidWorkToken) : (releaseEpochLost token).Loads :=
  compare_loads releaseEpoch_loads _

theorem transportActive_loads (slot : MailboxReport) : (transportActive interface slot).Loads :=
  .ite safetyTransportActive_loads mountedAndActive_loads

theorem staleUnsafe_loads (slot : MailboxReport) : (staleUnsafe slot).Loads :=
  .allOf ⟨.done _, .anyOf ⟨releaseEpochLost_loads _, .read _,
    not_loads (unsafeRouteActive_loads _ _)⟩⟩

theorem mailboxFenceBroken_loads (slot : MailboxReport) :
    (mailboxFenceBroken interface slot).Loads :=
  .anyOf ⟨generationOrAuthorityLost_loads _,
    .allOf ⟨.done _, .anyOf ⟨.read _, not_loads (unsafeRouteActive_loads _ _)⟩⟩,
    not_loads (transportActive_loads _), .read _⟩

theorem rejectMailbox (slot : MailboxReport) (generation : UsbGeneration)
    (authority : AuthorityEpoch) :
    (Runtime.rejectMailbox interface slot generation authority).Each Move := by
  refine .bind (loads (staleUnsafe_loads _)) fun _ => ?_
  refine .bind (loads (.anyOf ⟨.read _, .read _⟩)) fun _ => ?_
  refine .bind (loads anySafetyRequired_loads) fun _ => ?_
  refine .bind (loads (.anyOf ⟨.done _, not_loads (transportActive_loads _), .done _⟩))
    fun _ => ?_
  exact .bind (.onlyIf _ (.bind (.onlyIf _ requireSafety) fun _ => storeSlot _)) fun _ => trivial

theorem putInFlight (flying : MailboxReport) : (Runtime.putInFlight interface flying).Each Move :=
  .bind (onInterface fun _ => rfl) fun _ => onInterface fun _ => rfl

theorem attempt (report : List UInt8) :
    (Runtime.onInterface interface fun state => state.attempt interface report).Each Move := by
  refine onInterface fun state => ?_
  cases interface <;> rfl

theorem attemptMailbox (slot : MailboxReport) :
    (Runtime.onInterface interface (·.attemptMailbox interface slot)).Each Move := by
  refine onInterface fun state => ?_
  unfold InterfaceState.attemptMailbox
  split
  · rfl
  · cases interface <;> rfl

theorem consumeReleaseRequest (generation : UsbGeneration) (authority : AuthorityEpoch) :
    (Runtime.consumeReleaseRequest generation authority).Each Move := by
  refine .bind (.readModifyWrite fun _ => .beside rfl) fun _ => .ite ?_ trivial
  refine .bind (read _) fun _ => .bind (read _) fun _ => .bind (read _) fun _ => ?_
  exact .bind (loads (.allOf ⟨.done _, compare_loads releaseEpoch_loads _⟩)) fun _ => trivial

/-! ### Completions -/

theorem completionCurrent_loads (token : HidWorkToken) :
    (completionCurrent interface token).Loads :=
  .bind (.read _) fun _ => .ite (.done _) <| .bind (.read _) fun _ =>
    .allOf ⟨compare_loads attachGeneration_loads _, compare_loads authorityEpoch_loads _,
      .anyOf ⟨.done _, unsafeRouteActive_loads _ _⟩, .done _⟩

theorem complete :
    (Runtime.onInterface interface (·.complete interface)).Each Move := by
  refine onInterface fun state => ?_
  unfold InterfaceState.complete
  dsimp only
  split
  · cases interface <;> rfl
  · cases interface <;> rfl

theorem reportCompleteForToken (token : HidWorkToken) (report : Option (List UInt8)) :
    (Runtime.reportCompleteForToken interface token report).Each Move := by
  refine .bind (loads (completionCurrent_loads _)) fun _ => .ite trivial <|
    .bind (read _) fun _ => .ite trivial ?_
  refine .bind complete fun _ => .bind landReport fun _ => ?_
  refine .bind (loads (.allOf ⟨.done _, not_loads anySafetyRequired_loads⟩)) fun _ => ?_
  exact .ite (.bind (onUsb _) fun _ => trivial) trivial

theorem reportComplete (report : Option (List UInt8)) :
    (Runtime.reportComplete interface report).Each Move :=
  .bind (read _) fun _ => reportCompleteForToken _ _

theorem reportFailedForToken (token : HidWorkToken) (report : Option (List UInt8)) :
    (Runtime.reportFailedForToken interface token report).Each Move := by
  refine .bind (loads (completionCurrent_loads _)) fun _ => .ite trivial <|
    .bind (read _) fun _ => .ite trivial ?_
  refine .bind storeUncertain fun _ => .bind requireSafety fun _ => .bind (onUsb _) fun _ => ?_
  exact .bind (.onlyIf _ (noteUsbPending _ _ _ _)) fun _ => .bind landReport fun _ => trivial

theorem reportFailed (report : Option (List UInt8)) :
    (Runtime.reportFailed interface report).Each Move :=
  .bind (read _) fun _ => reportFailedForToken _ _

/-! ### Mount, unmount, suspend and resume -/

theorem storeStatus (status : StatusSnapshot) : (Runtime.storeStatus status).Each Move :=
  .write fun _ => .beside rfl

theorem onStatus (change : StatusSnapshot → StatusSnapshot) :
    (Runtime.onStatus change).Each Move :=
  .write fun _ => .beside rfl

theorem owesSafety_loads : (owesSafety interface).Loads := .anyOf ⟨.read _, .read _, .read _⟩

theorem publishUsbLifecycleVeto : Runtime.publishUsbLifecycleVeto.Each Move := onRoute _

theorem invalidateUsbRoute (task : Route.Task) : (Runtime.invalidateUsbRoute task).Each Move :=
  .bind (loads routeSnapshot_loads) fun _ => .onlyIf _ (.bind (onRoute _) fun _ => trivial)

theorem preserveOverMount : (Runtime.preserveOverMount interface).Each Move :=
  .bind (storeSlot _) fun _ => .bind (loads owesSafety_loads) fun _ =>
    .bind landReport fun _ => .onlyIf _ requireSafety

theorem uncertain : (Runtime.onInterface interface (·.uncertain)).Each Move :=
  onInterface fun _ => rfl

theorem preserveSuspendSafety :
    (Runtime.onInterface interface (·.preserveSuspendSafety)).Each Move :=
  onInterface fun _ => rfl

theorem onMount : Runtime.onMount.Each Move := by
  refine admitted (fun _ _ => id) fun _ => .bind (onUsb _) fun _ => .ite ?_ trivial
  refine .bind (loads bleRouteAuthoritySnapshot_loads) fun _ => ?_
  refine .bind (loads routeSnapshot_loads) fun _ => .bind cancelWork fun _ => ?_
  refine .bind advanceAuthorityEpoch fun _ => .bind (.onlyIf _ advanceReleaseEpoch) fun _ => ?_
  refine .bind (loads (.anyOf ⟨owesSafety_loads, .read _, owesSafety_loads, .read _⟩)) fun _ => ?_
  refine .bind (loads hasUnresolvedPriorGeneration_loads) fun _ => ?_
  have last : (do
      Runtime.clearReleaseRequest
      Runtime.storeStatus { mounted := true }
      if (← usbSnapshot).hostReleaseUncertain = false then
        Runtime.onUsb UsbLifecycle.markReleaseConfirmed).Each Move :=
    .bind clearReleaseRequest fun _ => .bind (storeStatus _) fun _ =>
      .bind (loads usbSnapshot_loads) fun _ => .ite (onUsb _) trivial
  refine .ite ?_ (.ite ?_ ?_)
  · exact .bind (bothInterfaces fun _ => uncertain) fun _ => .bind requestReleaseAll fun _ => last
  · exact .bind (bothInterfaces fun _ => preserveOverMount) fun _ => last
  · exact .bind (bothInterfaces fun _ => clearInterface) fun _ => last

theorem retireInterface : (Runtime.retireInterface interface).Each Move :=
  .bind (loads owesSafety_loads) fun _ =>
    .ite (.bind uncertain fun _ => trivial) (.bind clearInterface fun _ => trivial)

theorem onUnmount (task : Route.Task) : (Runtime.onUnmount task).Each Move := by
  refine admitted (fun _ _ => id) fun _ => .bind (loads attachGeneration_loads) fun _ => ?_
  refine .bind (onUsb _) fun _ => .ite ?_ ?_
  · refine .bind publishUsbLifecycleVeto fun _ => .bind (invalidateUsbRoute _) fun _ => ?_
    refine .bind cancelWork fun _ => .bind advanceAuthorityEpoch fun _ => ?_
    refine .bind advanceReleaseEpochUnlessReleasing fun _ => .bind (storeStatus _) fun _ => ?_
    refine .bind retireInterface fun _ => .bind retireInterface fun _ => ?_
    exact .bind (.onlyIf _ (onUsb _)) fun _ => clearReleaseRequest
  · exact .bind (loads usbSnapshot_loads) fun _ => .ite (storeStatus _) trivial

theorem onSuspend (task : Route.Task) : (Runtime.onSuspend task).Each Move := by
  refine admitted (fun _ _ => id) fun _ => .bind (onUsb _) fun _ => .ite ?_ trivial
  refine .bind publishUsbLifecycleVeto fun _ => .bind (invalidateUsbRoute _) fun _ => ?_
  refine .bind cancelWork fun _ => .bind advanceAuthorityEpoch fun _ => ?_
  refine .bind advanceReleaseEpochUnlessReleasing fun _ => ?_
  exact .bind (bothInterfaces fun _ => preserveSuspendSafety) fun _ => onStatus _

theorem onResume : Runtime.onResume.Each Move :=
  admitted (fun _ _ => id) fun _ => .bind (onUsb _) fun _ => .ite
    (.bind cancelWork fun _ => .bind advanceAuthorityEpoch fun _ => onStatus _) trivial

theorem noteSofActivity : Runtime.noteSofActivity.Each Move := .write fun _ => .beside rfl

theorem setReady (ready : Bool) : (Runtime.setReady interface ready).Each Move :=
  .bind (loads (.allOf ⟨.done _, compare_loads status_loads _,
    compare_loads status_loads fun status => !status.suspended⟩)) fun _ => onStatus _

/-! ### A stalled link -/

theorem linkSilent_loads (expected : UsbLinkWatchdogSnapshot) : (linkSilent expected).Loads :=
  .allOf ⟨compare_loads authorityEpoch_loads _, .read _⟩

theorem withdrawConditional (expected : UsbLinkWatchdogSnapshot)
    (token : Route.ConditionalInvalidationToken) :
    (Runtime.withdrawConditional expected token).Each Move :=
  .bind (.onlyIf _ (.bind (onRoute _) fun _ => trivial)) fun _ => trivial

theorem stallClaimed (task : Route.Task) (expected : UsbLinkWatchdogSnapshot) :
    (Runtime.stallClaimed task expected).Each Move := by
  refine .bind (loads usbSnapshot_loads) fun _ => .bind (loads status_loads) fun _ => ?_
  refine .ite (.bind (onRoute _) fun _ => trivial) ?_
  refine .bind (loads (linkSilent_loads _)) fun _ => .ite (.bind (onRoute _) fun _ => trivial) ?_
  refine .bind (onRoute _) fun _ => .ite (.bind (onRoute _) fun _ => trivial) ?_
  refine .bind cancelWork fun _ => .bind advanceAuthorityEpoch fun _ => ?_
  refine .bind advanceReleaseEpochUnlessReleasing fun _ => ?_
  refine .bind (bothInterfaces fun _ => preserveSuspendSafety) fun _ => ?_
  exact .bind (onStatus _) fun _ => .bind (onRoute _) fun _ => trivial

theorem onUsbLinkStall (task : Route.Task) (expected : UsbLinkWatchdogSnapshot)
    (token : Route.ConditionalInvalidationToken) :
    (Runtime.onUsbLinkStall task expected token).Each Move := by
  refine admitted (fun _ _ => id) fun _ => .bind (loads usbSnapshot_loads) fun _ => ?_
  refine .bind (loads status_loads) fun _ => .bind (loads routeSnapshot_loads) fun _ => ?_
  have withdrawn := withdrawConditional expected token
  refine .ite withdrawn <| .bind (loads (linkSilent_loads _)) fun _ => ?_
  refine .ite withdrawn <| .ite (.ite trivial withdrawn) <| .ite withdrawn ?_
  refine .bind (onRoute _) fun claim => ?_
  rcases claim with ⟨_ | _ | _, held⟩
  · exact .bind (stallClaimed _ _) fun _ => trivial
  · exact withdrawConditional _ _
  · trivial

/-! ### Attach and detach -/

theorem ofUsb (call : Program UsbLifecycle.Words α) :
    (call.zoom (·.usbLifecycle) setUsbLifecycle).Each Move :=
  Program.Each.zoom (fun _ _ _ => .beside rfl) (Program.each_any call)

theorem scheduleAccepted (taken : Bool) (action : UsbLifecycle.ExecutorAction)
    (operation : UsbLifecycle.LifecycleOperation) :
    (UsbLifecycle.scheduleAccepted (·.usbLifecycle) setUsbLifecycle (scheduling taken) action
      operation).Each Move := by
  refine .bind (ofUsb _) fun _ => ?_
  refine .bind (loads (.done taken)) fun _ => .ite trivial ?_
  exact .bind (ofUsb _) fun _ => .bind (ofUsb _) fun _ => trivial

theorem requestUsbAttach (taken : Bool) : (Runtime.requestUsbAttach taken).Each Move := by
  have requested : (UsbLifecycle.requestAttach (·.usbLifecycle) setUsbLifecycle
      (scheduling taken)).Each Move := by
    refine .bind (ofUsb _) fun exchange => ?_
    cases exchange with
    | rejected => trivial
    | noOp => exact .bind (ofUsb _) fun _ => trivial
    | accepted =>
        exact .bind (ofUsb _) fun _ => .bind (ofUsb _) fun _ => .bind (ofUsb _) fun _ =>
          scheduleAccepted _ _ _
  refine .bind (loads status_loads) fun _ => .bind requested fun _ => .ite ?_ trivial
  exact .bind cancelWork fun _ => .bind advanceAuthorityEpoch fun _ =>
    .bind advanceReleaseEpochUnlessReleasing fun _ => .bind (storeStatus _) fun _ => trivial

theorem abandonInterface : (Runtime.abandonInterface interface).Each Move :=
  .bind (loads owesSafety_loads) fun _ => .ite
    (.bind requireSafety fun _ => .bind storeUncertain fun _ => .bind landReport fun _ =>
      cancelQueued)
    (.bind landReport fun _ => cancelQueued)

theorem requestUsbDetach (taken : Bool) : (Runtime.requestUsbDetach taken).Each Move := by
  have requested : (UsbLifecycle.requestDetach (·.usbLifecycle) setUsbLifecycle
      (scheduling taken)).Each Move := by
    refine .bind (ofUsb _) fun exchange => ?_
    cases exchange with
    | rejected => trivial
    | noOp => exact .bind (ofUsb _) fun _ => trivial
    | accepted => exact .bind (ofUsb _) fun _ => scheduleAccepted _ _ _
  refine .bind (loads status_loads) fun _ => .bind requested fun _ => .ite ?_ trivial
  exact .bind cancelWork fun _ => .bind advanceAuthorityEpoch fun _ =>
    .bind advanceReleaseEpochUnlessReleasing fun _ => .bind (bothInterfaces fun _ =>
      abandonInterface) fun _ => trivial

theorem requireUnlessClean : (Runtime.requireUnlessClean interface).Each Move :=
  .bind (loads (.allOf ⟨knownAllUp_loads, not_loads (.read _), not_loads (.read _)⟩)) fun _ =>
    .bind (.onlyIf _ requireSafety) fun _ => trivial

theorem beginSafety : Runtime.beginSafety.Each Move :=
  .bind requireUnlessClean fun _ => .bind requireUnlessClean fun _ => .ite
    (.bind requestReleaseAll fun _ => trivial) (.bind (onUsb _) fun _ => trivial)

theorem beginLifecycleDetachSafety : Runtime.beginLifecycleDetachSafety.Each Move :=
  .bind (loads usbSnapshot_loads) fun _ => .ite beginSafety trivial

theorem beginRouteReleaseSafety (stageA : Route.Snapshot) :
    (Runtime.beginRouteReleaseSafety stageA).Each Move :=
  .bind (loads routeSnapshot_loads) fun _ => .bind (loads usbSnapshot_loads) fun _ =>
    .ite beginSafety trivial

theorem markLifecycleDetachUncertain (oldGeneration : UsbGeneration) :
    (Runtime.markLifecycleDetachUncertain oldGeneration).Each Move :=
  admitted (fun _ _ => id) fun _ => .bind (bothInterfaces fun _ => onInterface fun _ => rfl)
    fun _ => onUsb _

theorem onDriverUninstalled : Runtime.onDriverUninstalled.Each Move := by
  refine admitted (fun _ _ => id) fun _ => .bind cancelWork fun _ => .bind (storeStatus _)
    fun _ => ?_
  refine .bind (loads usbSnapshot_loads) fun _ => .ite ?_ ?_
  · exact .bind (bothInterfaces fun _ => uncertain) fun _ => clearReleaseRequest
  · exact .bind (bothInterfaces fun _ => clearInterface) fun _ => clearReleaseRequest

theorem completeUsbDetachRouteInvalidation (task : Route.Task) (oldRoute : Route.Snapshot) :
    (Runtime.completeUsbDetachRouteInvalidation task oldRoute).Each Move :=
  .bind (onRoute _) fun _ => trivial

theorem beginUsbRuntimeFault (errorCode : Int32) :
    (Runtime.beginUsbRuntimeFault errorCode).Each Move :=
  admitted (fun _ _ => id) fun _ => .bind (onUsb _) fun _ => .ite
    (.bind publishUsbLifecycleVeto fun _ => .bind (onStatus _) fun _ => trivial) trivial

theorem commitUsbRuntimeFaultShutdown (task : Route.Task) :
    (Runtime.commitUsbRuntimeFaultShutdown task).Each Move :=
  .bind (invalidateUsbRoute _) fun _ => .bind cancelWork fun _ =>
    .bind advanceAuthorityEpoch fun _ => .bind advanceReleaseEpochUnlessReleasing fun _ =>
      bothInterfaces fun _ => abandonInterface

end HidBot.Runtime.Move
