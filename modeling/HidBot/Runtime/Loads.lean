import HidBot.Runtime.Routing

/-!
# Calls of loads

The observations of the runtime change nothing. A call of loads has a value in
every state, and the predicates of the source are those values.
-/

namespace HidBot.Runtime

open Interleaving Program

variable {α : Type} {interface : Interface}

theorem onRoute_loads {call : Program Route.Words α} (loads : call.Loads) : (onRoute call).Loads :=
  loads.zoom fun _ => rfl

theorem onUsb_loads {call : Program UsbLifecycle.Words α} (loads : call.Loads) :
    (onUsb call).Loads :=
  loads.zoom fun _ => rfl

/-! ### Snapshots -/

theorem pendingWithout_loads : Route.invalidationPendingWithoutUsbPublication.Loads :=
  .bind (.read _) fun _ => .ite (.done _) (.bind (.read _) fun _ => .done _)

theorem pending_loads : Route.invalidationPending.Loads :=
  .bind (.read _) fun _ => .ite (.done _) pendingWithout_loads

theorem routeSnapshotWithin_loads (attempts : Nat) : (Route.snapshotWithin attempts).Loads := by
  induction attempts with
  | zero => exact .bind (.read _) fun _ => .done _
  | succ attempts ih =>
      refine .bind (.read _) fun _ => .ite ih ?_
      refine .bind (.read _) fun _ => .bind (.read _) fun _ => .bind (.read _) fun _ => ?_
      refine .bind (.read _) fun _ => .bind pending_loads fun _ => .bind (.read _) fun _ => ?_
      exact .ite (.done _) ih

theorem routeSnapshot_loads : routeSnapshot.Loads := onRoute_loads (routeSnapshotWithin_loads 3)

theorem matchesRoute_loads (route : Route.OutputRoute) (generation : RouteGeneration) :
    (Route.matchesRoute route generation).Loads :=
  .bind pending_loads fun _ => .ite (.done _) <| .bind (.read _) fun _ =>
    .ite (.done _) (.bind (.read _) fun _ => .done _)

theorem usbLifecycleSnapshot_loads : UsbLifecycle.snapshot.Loads :=
  .bind (.read _) fun _ => .bind (.read _) fun _ => .bind (.read _) fun _ => .bind (.read _)
    fun _ => .bind (.read _) fun _ => .bind (.read _) fun _ => .done _

theorem usbSnapshot_loads : usbSnapshot.Loads := onUsb_loads usbLifecycleSnapshot_loads

theorem attachGeneration_loads : attachGeneration.Loads := onUsb_loads (.read _)

theorem hasUnresolvedPriorGeneration_loads :
    (onUsb UsbLifecycle.hasUnresolvedPriorGeneration).Loads :=
  onUsb_loads (.bind usbLifecycleSnapshot_loads fun _ => .done _)

theorem status_loads : status.Loads := .read _

theorem authorityEpoch_loads : authorityEpoch.Loads := .read _

theorem releaseEpoch_loads : releaseEpoch.Loads := .read _

theorem bleRouteAuthorityWithin_loads (attempts : Nat) : (bleRouteAuthorityWithin attempts).Loads := by
  induction attempts with
  | zero => exact .done _
  | succ attempts ih =>
      exact .bind (.read _) fun _ => .ite ih <| .bind (.read _) fun _ => .bind (.read _) fun _ =>
        .ite (.done _) ih

theorem bleRouteAuthoritySnapshot_loads : bleRouteAuthoritySnapshot.Loads :=
  bleRouteAuthorityWithin_loads 3

/-! ### Interfaces -/

theorem interfaceField_loads (field : InterfaceState → α) : (interfaceField interface field).Loads :=
  .read _

theorem ticketField_loads (field : ReportTicket → α) : (ticketField interface field).Loads :=
  .read _

/-- A negated load. -/
theorem not_loads {condition : Program Words Bool} (loads : condition.Loads) :
    (do return !(← condition)).Loads :=
  .bind loads fun _ => .done _

theorem anySafetyRequired_loads : anySafetyRequired.Loads := .anyOf ⟨.read _, .read _⟩

theorem knownAllUp_loads : (knownAllUp interface).Loads :=
  .bind (.read _) fun _ => .ite (.done _) <|
    .bind (.anyOf ⟨.read _, .read _, .read _, .read _⟩) fun _ =>
      .ite (.done _) (.bind (.read _) fun _ => .done _)

theorem releaseInterfaceWorkPending_loads : (releaseInterfaceWorkPending interface).Loads :=
  .anyOf ⟨.read _, .read _, .read _⟩

theorem safetyPending_loads : safetyPending.Loads :=
  .anyOf ⟨.read _, .read _, anySafetyRequired_loads⟩

/-! ### Fences -/

theorem acceptsHid_loads (ready : Bool) : (UsbLifecycle.acceptsHid ready).Loads :=
  .bind usbLifecycleSnapshot_loads fun _ => .done _

theorem mountedAndActive_loads : (mountedAndActive interface).Loads :=
  .bind (.read _) fun _ => .bind hasUnresolvedPriorGeneration_loads fun _ =>
    .ite (.done _) (onUsb_loads (acceptsHid_loads _))

theorem routeMatches_loads (transport : HidTransport) (generation : RouteGeneration) :
    (routeMatches transport generation).Loads :=
  onRoute_loads (matchesRoute_loads _ _)

theorem unsafeRouteActive_loads (generation : RouteGeneration) (transport : HidTransport) :
    (unsafeRouteActive generation transport).Loads := by
  cases transport with
  | usb => exact routeMatches_loads _ _
  | ble =>
      exact .bind bleRouteAuthoritySnapshot_loads fun _ =>
        .ite (.bind (.read _) fun _ => .ite (routeMatches_loads _ _) (.done _)) (.done _)

theorem unsafeWorkCurrent_loads (token : HidWorkToken) :
    (unsafeWorkCurrent interface token).Loads := by
  refine .bind (.read _) fun _ => .ite (.done _) <| .bind (.read _) fun _ => .ite (.done _) ?_
  refine .bind (.read _) fun _ => .ite (.done _) <| .ite (.done _) ?_
  refine .bind (unsafeRouteActive_loads _ _) fun _ => .ite (.done _) ?_
  split
  · exact .bind attachGeneration_loads fun _ => .ite mountedAndActive_loads (.done _)
  · exact .bind bleRouteAuthoritySnapshot_loads fun _ => .done _

theorem safetyTransportActive_loads : (safetyTransportActive interface).Loads :=
  .bind (.read _) fun _ => .bind usbSnapshot_loads fun _ => .done _

theorem sequenceAuthorityCurrent_loads (sequence : SequenceAuthority) :
    (sequenceAuthorityCurrent sequence).Loads := by
  refine .ite (.done _) <| .bind (.read _) fun _ => .ite (.done _) <| .bind (.read _) fun _ => ?_
  refine .ite (.done _) <| .bind (.read _) fun _ => .ite (.done _) ?_
  refine .bind safetyPending_loads fun _ => .ite (.done _) ?_
  split
  · exact .ite (unsafeRouteActive_loads _ _) (.done _)
  · exact .bind bleRouteAuthoritySnapshot_loads fun _ =>
      .ite (unsafeRouteActive_loads _ _) (.done _)

/-! ### Tickets -/

/-- A load that is compared. -/
theorem compare_loads {call : Program Words α} (loads : call.Loads) (compare : α → Bool) :
    (do return compare (← call)).Loads :=
  .bind loads fun _ => .done _

theorem authorityGone_loads (token : HidWorkToken) : (authorityGone token).Loads :=
  .anyOf ⟨compare_loads authorityEpoch_loads _, not_loads (unsafeRouteActive_loads _ _)⟩

end HidBot.Runtime
