import HidBot.Interleaving.Numbering
import HidBot.Runtime.LinkFrame
import HidBot.Runtime.ReleaseSteps

/-!
# Moves of the runtime

What one access can do to the tickets, the mailboxes, the release transaction, the
sequences and the activations, whichever operation makes it. The lemmas follow the
operations; those that claim, settle, draw or commit something of their own come with their
own modules.
-/

namespace HidBot.Runtime

open Interleaving

/-! ### Books -/

/-- A safety report in a mailbox is all up. -/
def MailboxReport.Sound (mailbox : MailboxReport) (interface : Interface) : Prop :=
  mailbox.token.reportKind.isSafety = true →
    mailbox.report = interface.allUp ∧ mailbox.token.transport = .usb

/-- The numbers below have been drawn; zero means that all have. -/
def drawnBelow (next : UInt32) : Nat := if next = 0 then 4294967296 else next.toNat

/-- The generations of the sequences. -/
def sequences : Numbering Words where
  next words := drawnBelow words.nextSequenceGeneration
  shown words := words.sequenceGeneration.toNat

/-- The activations of the retained BLE route. -/
def activations : Numbering Words where
  next words := drawnBelow words.nextProfileActivationEpoch
  shown words := words.bleRoute.profileActivationEpoch.toNat

/-- The words that an invariant is about. -/
structure Books where
  tickets : Interface → ReportTicket
  nextPublicTicketId : HidTicketId
  record : Record
  slots : Interface → MailboxReport
  nextReleaseId : ReleaseAllId
  releaseTicket : ReleaseAllTicket
  sequenceGeneration : UInt32
  nextSequenceGeneration : UInt32
  activation : ProfileActivationEpoch
  nextProfileActivationEpoch : ProfileActivationEpoch

def Words.slots (words : Words) (interface : Interface) : MailboxReport :=
  (words.interfaces interface).slot

def Words.books (words : Words) : Books where
  tickets := words.tickets
  nextPublicTicketId := words.nextPublicTicketId
  record := words.record
  slots := words.slots
  nextReleaseId := words.nextReleaseId
  releaseTicket := words.releaseTicket
  sequenceGeneration := words.sequenceGeneration
  nextSequenceGeneration := words.nextSequenceGeneration
  activation := words.bleRoute.profileActivationEpoch
  nextProfileActivationEpoch := words.nextProfileActivationEpoch

/-- The access leaves the contents of the mailboxes sound. -/
def SlotsKept (before after : Words) : Prop :=
  ∀ interface, (before.slots interface).Sound interface → (after.slots interface).Sound interface

/-- What an access does that neither uses a claim nor ends a transaction well. -/
structure Move (before after : Words) : Prop where
  grows : before.record.events <:+ after.record.events
  tickets : Quiet before after
  slots : SlotsKept before after
  release : ReleaseStep before after
  sequence : sequences.Still before after
  activation : activations.Still before after

section Kinds

variable {words before after : Words} {interface : Interface}

theorem Quiet.of_same (tickets : after.tickets = before.tickets)
    (next : after.nextPublicTicketId = before.nextPublicTicketId)
    (record : after.record = before.record) : Quiet before after :=
  .aside [] tickets next (record ▸ rfl) (record ▸ rfl) (by simp)

theorem sequence_still (next : after.nextSequenceGeneration = before.nextSequenceGeneration)
    (shown : after.sequenceGeneration = before.sequenceGeneration ∨ after.sequenceGeneration = 0) :
    sequences.Still before after := by
  refine ⟨congrArg drawnBelow next, ?_⟩
  rcases shown with same | ended
  · exact .inl (congrArg UInt32.toNat same)
  · exact .inr (congrArg UInt32.toNat ended)

theorem activation_still
    (next : after.nextProfileActivationEpoch = before.nextProfileActivationEpoch)
    (shown : after.bleRoute.profileActivationEpoch = before.bleRoute.profileActivationEpoch ∨
      after.bleRoute.profileActivationEpoch = 0) : activations.Still before after := by
  refine ⟨congrArg drawnBelow next, ?_⟩
  rcases shown with same | ended
  · exact .inl (congrArg UInt32.toNat same)
  · exact .inr (congrArg UInt32.toNat ended)

theorem SlotsKept.of_same (same : after.slots = before.slots) : SlotsKept before after :=
  fun interface sound => (congrFun same interface).symm ▸ sound

/-- An access that moves nothing but the transaction. -/
theorem Move.releasing (release : ReleaseStep before after)
    (others : { after.books with
      nextReleaseId := before.nextReleaseId
      releaseTicket := before.releaseTicket } = before.books) : Move before after := by
  have record : after.record = before.record := congrArg Books.record others
  refine ⟨record ▸ List.suffix_rfl, .of_same ?_ ?_ record, .of_same (congrArg Books.slots others),
    release, sequence_still ?_ (.inl ?_), activation_still ?_ (.inl ?_)⟩
  · exact congrArg Books.tickets others
  · exact congrArg Books.nextPublicTicketId others
  · exact congrArg Books.nextSequenceGeneration others
  · exact congrArg Books.sequenceGeneration others
  · exact congrArg Books.nextProfileActivationEpoch others
  · exact congrArg Books.activation others

/-- An access beside the books. -/
theorem Move.beside (same : after.books = before.books) : Move before after := by
  have next : after.nextReleaseId = before.nextReleaseId := congrArg Books.nextReleaseId same
  have ticket : after.releaseTicket = before.releaseTicket := congrArg Books.releaseTicket same
  refine .releasing (.of_same next ticket) ?_
  rw [← next, ← ticket]
  exact same

theorem Move.refl (words : Words) : Move words words := .beside rfl

theorem slots_withInterface {change : InterfaceState → InterfaceState}
    (keeps : ∀ state, (change state).slot = state.slot) :
    (words.withInterface interface change).slots = words.slots := by
  funext other
  by_cases same : other = interface
  · subst same
    simp [Words.slots, Words.withInterface, keeps]
  · simp [Words.slots, Words.withInterface, Function.update_of_ne same]

theorem books_withInterface {change : InterfaceState → InterfaceState}
    (keeps : ∀ state, (change state).slot = state.slot) :
    (words.withInterface interface change).books = words.books := by
  rw [Words.books, slots_withInterface keeps]
  rfl

/-- An access to a field of an interface. -/
theorem Move.withInterface {change : InterfaceState → InterfaceState}
    (keeps : ∀ state, (change state).slot = state.slot) :
    Move words (words.withInterface interface change) :=
  .beside (books_withInterface keeps)

/-- A step of the transaction beside a store that the books do not see. -/
theorem Move.releasingBeside {aside : Words} {ticket : ReleaseAllTicket}
    (same : aside.books = words.books)
    (step : ReleaseStep words { aside with releaseTicket := ticket }) :
    Move words { aside with releaseTicket := ticket } := by
  refine .releasing step ?_
  change { aside.books with
    nextReleaseId := words.nextReleaseId
    releaseTicket := words.releaseTicket } = words.books
  rw [same]
  rfl

/-- An outcome of an interface. -/
theorem Move.resolve {aside : Words} {outcome : ReleaseAllInterfaceState}
    (same : aside.books = words.books) (pending : words.releaseTicket.pending = true)
    (resolution : Resolution words
      { aside with releaseTicket := words.releaseTicket.setOutcome interface outcome } interface
      outcome) :
    Move words { aside with releaseTicket := words.releaseTicket.setOutcome interface outcome } :=
  .releasingBeside same
    (.resolved interface outcome (congrArg Books.nextReleaseId same) pending resolution rfl)

/-- A section on a ticket. -/
theorem Move.turn {ticket : ReportTicket} {noted : List Event}
    (turn : Turn words.record.events (words.tickets interface) ticket noted)
    (unclaimed : (words.tickets interface).state = .claimed →
      ticket.state = .claimed ∧ noted = []) :
    Move words (words.withTicket interface ticket noted) where
  grows := List.suffix_append ..
  tickets := .turn interface ticket noted ⟨rfl, rfl, rfl⟩ rfl turn unclaimed
  slots := .of_same rfl
  release := .of_same rfl rfl
  sequence := sequence_still rfl (.inl rfl)
  activation := activation_still rfl (.inl rfl)

end Kinds

namespace Move

variable {α : Type} {interface : Interface}

/-! ### Loads and stores -/

theorem loads {call : Program Words α} (loads : call.Loads) : call.Each Move :=
  Program.Loads.each Move.refl loads

theorem read (view : Words → α) : (Program.read view).Each Move := .read Move.refl view

theorem onRoute (call : Program Route.Words α) : (Runtime.onRoute call).Each Move :=
  Program.Each.zoom (fun _ _ _ => .beside rfl) (Program.each_any call)

theorem onUsb (call : Program UsbLifecycle.Words α) : (Runtime.onUsb call).Each Move :=
  Program.Each.zoom (fun _ _ _ => .beside rfl) (Program.each_any call)

theorem onInterface {change : InterfaceState → InterfaceState}
    (keeps : ∀ state, (change state).slot = state.slot) :
    (Runtime.onInterface interface change).Each Move :=
  .write fun _ => .withInterface keeps

theorem admitted {safety : Bool} {call : Bool → Program Words α} {step : Words → Words → Prop}
    (move : ∀ before after, Move before after → step before after)
    (each : ∀ acquired, (call acquired).Each step) : (Runtime.admitted safety call).Each step :=
  .bind (.readModifyWrite fun _ => move _ _ (.beside rfl)) fun acquired =>
    .bind (each acquired) fun _ =>
      .bind (.onlyIf _ (.write fun _ => move _ _ (.beside rfl))) fun _ => trivial

theorem bothInterfaces {call : Interface → Program Words Unit}
    (each : ∀ interface, (call interface).Each Move) : (Runtime.bothInterfaces call).Each Move :=
  .bind (each .keyboard) fun _ => each .mouse

theorem requireSafety : (Runtime.requireSafety interface).Each Move := onInterface fun _ => rfl

theorem storeUncertain : (Runtime.storeUncertain interface).Each Move := onInterface fun _ => rfl

theorem landReport : (Runtime.landReport interface).Each Move := onInterface fun _ => rfl

theorem storeHeld (held : Bool) : (Runtime.storeHeld interface held).Each Move :=
  onInterface fun _ => rfl

theorem storeSlot (slotState : SlotState) : (Runtime.storeSlot interface slotState).Each Move :=
  onInterface fun _ => rfl

theorem exchangeSlot (expected replacement : SlotState) :
    (Runtime.exchangeSlot interface expected replacement).Each Move := by
  refine .readModifyWrite fun words => ?_
  split
  · dsimp only
    exact .withInterface fun _ => rfl
  · exact .refl words

theorem cancelQueued : (Runtime.cancelQueued interface).Each Move :=
  .bind (exchangeSlot _ _) fun _ => trivial

/-! ### Authority -/

theorem cancel_step (words : Words) :
    ReleaseStep words { words with releaseTicket := words.releaseTicket.cancel } := by
  by_cases pending : words.releaseTicket.state = .admitting ∨ words.releaseTicket.state = .open
  · refine .ended rfl ?_ ?_ ?_
    · rcases pending with state | state <;> simp [ReleaseAllTicket.pending, state]
    · simp [ReleaseAllTicket.cancel, pending, ReleaseAllTicket.identity]
    · simp only [ReleaseAllTicket.cancel, if_pos pending]
      refine ⟨fun none => (by cases none), fun interface submitted => ?_, fun won => (by cases won)⟩
      cases interface <;> cases submitted
  · refine .of_same rfl ?_
    simp [ReleaseAllTicket.cancel, pending]

theorem fail_step {before after : Words} {id : ReleaseAllId} {lost : Bool}
    (next : after.nextReleaseId = before.nextReleaseId)
    (ticket : after.releaseTicket = before.releaseTicket.fail id lost) :
    ReleaseStep before after := by
  unfold ReleaseAllTicket.fail at ticket
  split at ticket
  · exact .of_same next ticket
  · split at ticket
    · rename_i pending
      refine .ended next ?_ ?_ ⟨?_, fun interface submitted => ?_, fun won => ?_⟩
      · rcases pending with state | state <;> simp [ReleaseAllTicket.pending, state]
      · rw [ticket]
        rfl
      · rw [ticket]
        exact fun none => by cases none
      · rw [ticket] at submitted
        cases interface <;> exact submitted
      · rw [ticket] at won
        cases won
    · exact .of_same next ticket

theorem cancelReleaseTicket : Runtime.cancelReleaseTicket.Each Move :=
  .write fun words => .releasing (cancel_step words) rfl

/-- A ticket in a state before the claim is taken out of circulation. -/
theorem turn_settle {events : List Event} {ticket : ReportTicket} {outcome : TicketOutcome}
    (early : ticket.state = .writing ∨ ticket.state = .writingCanceled ∨
      ticket.state = .published) (silent : outcome = .submitted → ticket.outcome = .submitted) :
    Turn events ticket (ticket.settle .canceled outcome)
      [.settled ticket.token.ticketId outcome] := by
  have rank : ticket.state.rank = 0 := by
    rcases early with state | state | state <;> rw [state] <;> rfl
  have used : ticket.state ≠ .free := by
    rcases early with state | state | state <;> rw [state] <;> decide
  refine ⟨rfl, rfl, fun _ => used, (by omega), Nat.le_refl 1, fun event member => ?_, by simp,
    fun state => (by cases state), fun submitted => .inl (silent submitted)⟩
  obtain rfl := List.mem_singleton.mp member
  exact ⟨rfl, by rw [rank]; exact Nat.zero_lt_succ 2, Nat.le_refl 3, used⟩

theorem cancelTicket {outcome : TicketOutcome} (silent : outcome ≠ .submitted) :
    (Runtime.cancelTicket interface outcome).Each Move := by
  refine .write fun words => ?_
  dsimp only
  split
  · rename_i writing
    refine .turn ⟨rfl, rfl, fun _ => (by simp [writing]), ?_, by simp, by simp, by simp,
      fun state => (by cases state), fun submitted => absurd submitted silent⟩ (by simp [writing])
    rw [writing]
    exact Nat.le_refl 0
  · rename_i published
    exact .turn (turn_settle (.inr (.inr published)) (absurd · silent)) (by simp [published])
  · exact .refl words

theorem cancelWork : Runtime.cancelWork.Each Move :=
  .bind cancelReleaseTicket fun _ => .bind (cancelTicket (by decide)) fun _ =>
    cancelTicket (by decide)

theorem advanceAuthorityEpoch : Runtime.advanceAuthorityEpoch.Each Move :=
  .write fun _ => .beside rfl

theorem advanceReleaseEpoch : Runtime.advanceReleaseEpoch.Each Move := .write fun _ => .beside rfl

theorem advanceReleaseEpochUnlessReleasing : Runtime.advanceReleaseEpochUnlessReleasing.Each Move :=
  .bind (loads bleRouteAuthoritySnapshot_loads) fun _ => .onlyIf _ advanceReleaseEpoch

theorem retireUnsafeRouteAuthority : Runtime.retireUnsafeRouteAuthority.Each Move :=
  .bind cancelWork fun _ => .bind advanceAuthorityEpoch fun _ => advanceReleaseEpoch

/-- An access that ends the sequence. -/
theorem revoke (words : Words) : Move words { words with sequenceGeneration := 0 } where
  grows := List.suffix_rfl
  tickets := .of_same rfl rfl rfl
  slots := .of_same rfl
  release := .of_same rfl rfl
  sequence := sequence_still rfl (.inr rfl)
  activation := activation_still rfl (.inl rfl)

theorem publishReleaseRequest : Runtime.publishReleaseRequest.Each Move := by
  refine .bind (.write revoke) fun _ => .bind (loads attachGeneration_loads) fun _ => ?_
  refine .bind (.write fun _ => .beside rfl) fun _ => .bind (loads authorityEpoch_loads) fun _ => ?_
  refine .bind (.write fun _ => .beside rfl) fun _ => .bind (.write fun words => ?_) fun _ => ?_
  · exact .releasing (fail_step rfl rfl) rfl
  refine .bind (cancelTicket (by decide)) fun _ => .bind (cancelTicket (by decide)) fun _ => ?_
  exact .bind (onUsb _) fun _ => .write fun _ => .beside rfl

theorem clearReleaseRequest : Runtime.clearReleaseRequest.Each Move :=
  .bind (.write fun _ => .beside rfl) fun _ => .bind (.write fun _ => .beside rfl) fun _ =>
    .bind (.write fun _ => .beside rfl) fun _ => .write fun _ => .beside rfl

theorem reconcileZeroWorkRelease (generation : UsbGeneration) (authority : AuthorityEpoch)
    (epoch : UInt32) (required : Bool) :
    (Runtime.reconcileZeroWorkRelease generation authority epoch required).Each Move := by
  refine .bind (loads (SameLink.zeroWorkRelease_loads _ _ _ _)) fun _ => .ite ?_ trivial
  refine .bind (loads (SameLink.zeroWorkRelease_loads _ _ _ _)) fun _ => .ite ?_ trivial
  refine .bind (onUsb _) fun _ => .bind (loads usbSnapshot_loads) fun _ => ?_
  refine .bind (loads (.anyOf ⟨.read _, not_loads knownAllUp_loads, not_loads knownAllUp_loads,
    .done _⟩)) fun _ => .ite (onUsb _) trivial

theorem reconcileRequests (turns : Nat) : (Runtime.reconcileRequests turns).Each Move := by
  induction turns with
  | zero => trivial
  | succ turns ih =>
      refine .bind (loads (.allOf ⟨.read _, SameLink.unavailableUsbTransportIsClean_loads⟩))
        fun _ => .ite ?_ trivial
      refine .bind (read _) fun _ => .bind (read _) fun _ => .bind (read _) fun _ => ?_
      refine .bind (loads (SameLink.activeReleaseRequestIsCurrent_loads _ _ _)) fun _ =>
        .ite ?_ trivial
      refine .bind (.write fun _ => .beside rfl) fun _ => ?_
      refine .bind (loads (SameLink.releaseRequestIsCurrent_loads _ _ _)) fun _ => ?_
      refine .ite (.bind (reconcileZeroWorkRelease _ _ _ _) fun _ => ih) ?_
      refine .bind (loads SameLink.releaseRequestNamesCurrent_loads) fun _ => .ite ?_ ih
      exact .bind (.write fun _ => .beside rfl) fun _ => .bind (onUsb _) fun _ => ih

theorem reconcileAsActive (inner turns : Nat) :
    (Runtime.reconcileAsActive inner turns).Each Move := by
  induction turns with
  | zero => trivial
  | succ turns ih =>
      refine .bind (reconcileRequests inner) fun _ => .bind (.write fun _ => .beside rfl)
        fun _ => ?_
      refine .bind (loads (.allOf ⟨.read _, SameLink.unavailableUsbTransportIsClean_loads⟩))
        fun _ => .ite ?_ trivial
      exact .bind (.readModifyWrite fun _ => .beside rfl) fun _ => .ite ih trivial

theorem requestReleaseAll : Runtime.requestReleaseAll.Each Move :=
  admitted (fun _ _ => id) fun _ => .bind publishReleaseRequest fun _ =>
    .bind (.readModifyWrite fun _ => .beside rfl) fun _ => .ite (reconcileAsActive _ _) trivial

theorem clearInterface : (Runtime.clearInterface interface).Each Move := by
  refine onInterface fun state => ?_
  cases interface <;> rfl

/-! ### The retained BLE route -/

theorem onBleRoute {change : Words → BleRouteAuthoritySnapshot}
    (keeps : ∀ words,
      (change words).profileActivationEpoch = words.bleRoute.profileActivationEpoch ∨
        (change words).profileActivationEpoch = 0) : (Runtime.onBleRoute change).Each Move := by
  refine .bind (.write fun _ => .beside rfl) fun _ => .bind (.write fun words => ?_) fun _ =>
    .write fun _ => .beside rfl
  exact {
    grows := List.suffix_rfl
    tickets := .of_same rfl rfl rfl
    slots := .of_same rfl
    release := .of_same rfl rfl
    sequence := sequence_still rfl (.inl rfl)
    activation := activation_still rfl (keeps words) }

theorem retireBleRouteIfMatches (task : Route.Task) (expected : BleRouteAuthoritySnapshot)
    (uncertain : Option Interface) :
    (Runtime.retireBleRouteIfMatches task expected uncertain).Each Move := by
  refine .bind (loads bleRouteAuthoritySnapshot_loads) fun _ => ?_
  refine .bind (loads routeSnapshot_loads) fun _ => .ite ?_ trivial
  refine .bind (onRoute _) fun _ => .ite ?_ trivial
  refine .bind retireUnsafeRouteAuthority fun _ => .bind (loads releaseEpoch_loads) fun _ => ?_
  refine .bind (onBleRoute fun _ => .inl rfl) fun _ => ?_
  have both : (Runtime.bothInterfaces fun interface => do
      if ← .anyOf [logicalStateHeld interface, hostStateUncertain interface] then
        Runtime.requireSafety interface).Each Move :=
    bothInterfaces fun _ => .bind (loads (.anyOf ⟨.read _, .read _⟩)) fun _ =>
      .ite requireSafety trivial
  cases uncertain with
  | some affected =>
      exact .bind storeUncertain fun _ => .bind requireSafety fun _ => .bind both fun _ => trivial
  | none => exact .bind both fun _ => trivial

theorem bleRouteNormalAuthorityMatches_loads (expected : BleRouteAuthoritySnapshot) :
    (bleRouteNormalAuthorityMatches expected).Loads :=
  .bind bleRouteAuthoritySnapshot_loads fun _ => .ite
    (.bind authorityEpoch_loads fun _ => .ite (.bind releaseEpoch_loads fun _ => .done _) (.done _))
    (.done _)

theorem bleRouteReleaseMatches_loads (expected : BleRouteAuthoritySnapshot) :
    (bleRouteReleaseMatches expected).Loads :=
  .bind bleRouteAuthoritySnapshot_loads fun _ => .bind routeSnapshot_loads fun _ => .ite
    (.bind releaseEpoch_loads fun _ => .ite (.done _) (.done _)) (.done _)

theorem completeBleRouteReleaseIfMatches (task : Route.Task)
    (expected : BleRouteAuthoritySnapshot) :
    (Runtime.completeBleRouteReleaseIfMatches task expected).Each Move := by
  refine .bind (loads (bleRouteReleaseMatches_loads _)) fun _ => .ite ?_ trivial
  refine .bind (loads routeSnapshot_loads) fun _ => .bind (onRoute _) fun _ => .ite ?_ trivial
  refine .bind (loads usbSnapshot_loads) fun _ => ?_
  refine .bind (loads (.anyOf ⟨.done _, hasUnresolvedPriorGeneration_loads⟩)) fun _ => ?_
  refine .bind (onBleRoute fun _ => .inr rfl) fun _ => .bind advanceReleaseEpoch fun _ => ?_
  refine .bind (bothInterfaces fun _ => clearInterface) fun _ => ?_
  refine .bind cancelReleaseTicket fun _ => ?_
  refine .bind clearReleaseRequest fun _ => .ite ?_ (.bind (onUsb _) fun _ => trivial)
  exact .bind (bothInterfaces fun _ => .bind requireSafety fun _ => storeUncertain) fun _ =>
    .bind requestReleaseAll fun _ => trivial

end Move

end HidBot.Runtime
