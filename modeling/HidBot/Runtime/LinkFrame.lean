import HidBot.Runtime.Loads

/-!
# Accesses beside the USB link

The observed state of the USB lifecycle and the status bits of the runtime both say
whether a host is there. Only a few accesses move either of them. The lemmas follow the
operations and say which leave both alone.
-/

namespace HidBot.Runtime

open Interleaving

/-- What the two state words say about the host. -/
structure Link where
  observed : UsbLifecycle.ObservedState
  status : StatusSnapshot
  deriving DecidableEq

def Words.link (words : Words) : Link := ⟨words.usbLifecycle.state.observed, words.statusBits⟩

/-- The access leaves the link alone. -/
def SameLink (before after : Words) : Prop := after.link = before.link

theorem SameLink.refl (words : Words) : SameLink words words := rfl

namespace SameLink

variable {α : Type} {interface : Interface}

theorem loads {call : Program Words α} (loads : call.Loads) : call.Each SameLink :=
  Program.Loads.each SameLink.refl loads

theorem onRoute (call : Program Route.Words α) : (Runtime.onRoute call).Each SameLink := by
  refine Program.Each.zoom ?_ (Program.each_any call)
  exact fun _ _ _ => rfl

theorem onInterface (change : InterfaceState → InterfaceState) :
    (Runtime.onInterface interface change).Each SameLink :=
  .write fun _ => rfl

theorem onUsb {call : Program UsbLifecycle.Words α}
    (each : call.Each fun before after => after.state.observed = before.state.observed) :
    (Runtime.onUsb call).Each SameLink :=
  Program.Each.zoom (fun state _ same => by rw [SameLink, Words.link, same]; rfl) each

theorem markReleasePending : (Runtime.onUsb UsbLifecycle.markReleasePending).Each SameLink :=
  onUsb (.write fun _ => rfl)

theorem admitted {safety : Bool} {call : Bool → Program Words α}
    (each : ∀ acquired, (call acquired).Each SameLink) :
    (Runtime.admitted safety call).Each SameLink :=
  .bind (.readModifyWrite fun _ => rfl) fun acquired => .bind (each acquired) fun _ =>
    .bind (.onlyIf _ (.write fun _ => rfl)) fun _ => trivial

/-! ### Authority -/

theorem cancelTicket (outcome : TicketOutcome) :
    (Runtime.cancelTicket interface outcome).Each SameLink := by
  refine .write fun words => ?_
  dsimp only
  split <;> rfl

theorem cancelWork : Runtime.cancelWork.Each SameLink :=
  .bind (.write fun _ => rfl) fun _ => .bind (cancelTicket _) fun _ => cancelTicket _

theorem advanceAuthorityEpoch : Runtime.advanceAuthorityEpoch.Each SameLink := .write fun _ => rfl

theorem advanceReleaseEpoch : Runtime.advanceReleaseEpoch.Each SameLink := .write fun _ => rfl

theorem advanceReleaseEpochUnlessReleasing :
    Runtime.advanceReleaseEpochUnlessReleasing.Each SameLink :=
  .bind (loads bleRouteAuthoritySnapshot_loads) fun _ => .onlyIf _ advanceReleaseEpoch

theorem clearReleaseRequest : Runtime.clearReleaseRequest.Each SameLink :=
  .bind (.write fun _ => rfl) fun _ => .bind (.write fun _ => rfl) fun _ =>
    .bind (.write fun _ => rfl) fun _ => .write fun _ => rfl

theorem publishReleaseRequest : Runtime.publishReleaseRequest.Each SameLink := by
  refine .bind (.write fun _ => rfl) fun _ => .bind (loads attachGeneration_loads) fun _ => ?_
  refine .bind (.write fun _ => rfl) fun _ => .bind (loads authorityEpoch_loads) fun _ => ?_
  refine .bind (.write fun _ => rfl) fun _ => .bind (.write fun _ => rfl) fun _ => ?_
  refine .bind (cancelTicket _) fun _ => .bind (cancelTicket _) fun _ => ?_
  exact .bind markReleasePending fun _ => .write fun _ => rfl

theorem publishUsbLifecycleVeto : Runtime.publishUsbLifecycleVeto.Each SameLink := onRoute _

theorem invalidateUsbRoute (task : Route.Task) :
    (Runtime.invalidateUsbRoute task).Each SameLink :=
  .bind (loads routeSnapshot_loads) fun _ => .onlyIf _ (.bind (onRoute _) fun _ => trivial)

/-! ### Release requests that need no work -/

theorem unavailableUsbTransportIsClean_loads : Runtime.unavailableUsbTransportIsClean.Loads :=
  .bind status_loads fun _ => .bind usbSnapshot_loads fun _ =>
    .ite (.allOf ⟨knownAllUp_loads, knownAllUp_loads⟩) (.done _)

theorem releaseRequestIsCurrent_loads (generation : UsbGeneration) (authority : AuthorityEpoch)
    (epoch : UInt32) : (releaseRequestIsCurrent generation authority epoch).Loads :=
  .allOf ⟨not_loads (.read _), .read _, .read _, .read _, compare_loads attachGeneration_loads _,
    compare_loads authorityEpoch_loads _, compare_loads releaseEpoch_loads _⟩

theorem activeReleaseRequestIsCurrent_loads (generation : UsbGeneration)
    (authority : AuthorityEpoch) (epoch : UInt32) :
    (activeReleaseRequestIsCurrent generation authority epoch).Loads :=
  .allOf ⟨.read _, .read _, .read _, .read _, compare_loads attachGeneration_loads _,
    compare_loads authorityEpoch_loads _, compare_loads releaseEpoch_loads _⟩

theorem zeroWorkRelease_loads (generation : UsbGeneration) (authority : AuthorityEpoch)
    (epoch : UInt32) (required : Bool) :
    (zeroWorkRelease generation authority epoch required).Loads :=
  .allOf ⟨releaseRequestIsCurrent_loads _ _ _, knownAllUp_loads, knownAllUp_loads,
    .bind usbSnapshot_loads fun _ => .done _, .bind usbSnapshot_loads fun _ => .done _,
    .ite unavailableUsbTransportIsClean_loads (.done _)⟩

theorem releaseRequestNamesCurrent_loads : releaseRequestNamesCurrent.Loads :=
  .bind attachGeneration_loads fun _ => .bind authorityEpoch_loads fun _ =>
    .bind releaseEpoch_loads fun _ => .allOf ⟨.read _, .read _, .read _⟩

theorem reconcileZeroWorkRelease (generation : UsbGeneration) (authority : AuthorityEpoch)
    (epoch : UInt32) (required : Bool) :
    (Runtime.reconcileZeroWorkRelease generation authority epoch required).Each SameLink := by
  have cleared : (Runtime.onUsb UsbLifecycle.clearReleasePendingIfNotUncertain).Each SameLink := by
    refine onUsb (.readModifyWrite fun words => ?_)
    split <;> rfl
  refine .bind (loads (zeroWorkRelease_loads _ _ _ _)) fun _ => .ite ?_ trivial
  refine .bind (loads (zeroWorkRelease_loads _ _ _ _)) fun _ => .ite ?_ trivial
  refine .bind cleared fun _ => .bind (loads usbSnapshot_loads) fun _ => ?_
  refine .bind (loads (.anyOf ⟨.read _, not_loads knownAllUp_loads, not_loads knownAllUp_loads,
    .done _⟩)) fun _ => .ite markReleasePending trivial

theorem reconcileRequests (turns : Nat) : (Runtime.reconcileRequests turns).Each SameLink := by
  induction turns with
  | zero => trivial
  | succ turns ih =>
      refine .bind (loads (.allOf ⟨.read _, unavailableUsbTransportIsClean_loads⟩)) fun _ =>
        .ite ?_ trivial
      refine .bind (.read SameLink.refl _) fun _ => .bind (.read SameLink.refl _) fun _ => ?_
      refine .bind (.read SameLink.refl _) fun _ => ?_
      refine .bind (loads (activeReleaseRequestIsCurrent_loads _ _ _)) fun _ => .ite ?_ trivial
      refine .bind (.write fun _ => rfl) fun _ => ?_
      refine .bind (loads (releaseRequestIsCurrent_loads _ _ _)) fun _ => ?_
      refine .ite (.bind (reconcileZeroWorkRelease _ _ _ _) fun _ => ih) ?_
      refine .bind (loads releaseRequestNamesCurrent_loads) fun _ => .ite ?_ ih
      exact .bind (.write fun _ => rfl) fun _ => .bind markReleasePending fun _ => ih

theorem reconcileAsActive (inner turns : Nat) :
    (Runtime.reconcileAsActive inner turns).Each SameLink := by
  induction turns with
  | zero => trivial
  | succ turns ih =>
      refine .bind (reconcileRequests inner) fun _ => .bind (.write fun _ => rfl) fun _ => ?_
      refine .bind (loads (.allOf ⟨.read _, unavailableUsbTransportIsClean_loads⟩)) fun _ =>
        .ite ?_ trivial
      exact .bind (.readModifyWrite fun _ => rfl) fun _ => .ite ih trivial

theorem requestReleaseAll : Runtime.requestReleaseAll.Each SameLink :=
  admitted fun _ => .bind publishReleaseRequest fun _ =>
    .bind (.readModifyWrite fun _ => rfl) fun _ => .ite (reconcileAsActive _ _) trivial

/-! ### Interfaces -/

theorem owesSafety_loads : (Runtime.owesSafety interface).Loads :=
  .anyOf ⟨.read _, .read _, .read _⟩

theorem bothInterfaces {call : Interface → Program Words Unit}
    (each : ∀ interface, (call interface).Each SameLink) :
    (Runtime.bothInterfaces call).Each SameLink :=
  .bind (each .keyboard) fun _ => each .mouse

theorem preserveOverMount : (Runtime.preserveOverMount interface).Each SameLink :=
  .bind (onInterface _) fun _ => .bind (loads owesSafety_loads) fun _ =>
    .bind (onInterface _) fun _ => .onlyIf _ (onInterface _)

theorem retireInterface : (Runtime.retireInterface interface).Each SameLink :=
  .bind (loads owesSafety_loads) fun _ =>
    .ite (.bind (onInterface _) fun _ => trivial) (.bind (onInterface _) fun _ => trivial)

end SameLink

end HidBot.Runtime
