import HidBot.Ble.Blocks
import HidBot.Interleaving.Whole
import Mathlib.Tactic.SplitIfs

/-!
# The route-loss fence

A BLE callback that signals a loss of readiness marks the authority generation
of the loss before it queues the event, and the executor clears the mark when it
has processed the event. One word stands for all queued losses of a generation,
so a loss is fenced as long as no other loss of its generation is processed
before it without moving the generation on.
-/

namespace HidBot.BleControl

open Interleaving BleLifecycle

/-! ### What the mark fences -/

/-- Keyboard and mouse input: the roles of a report mask that concern routes. -/
structure InputRoles where
  keyboard : Bool := false
  mouse : Bool := false
  deriving DecidableEq, Repr

/-- The selected profile and the answers of the database and the backend. -/
structure Link where
  supported : InputRoles := {}
  required : InputRoles := {}
  handles : BleHidHandles := {}
  handlesValid : Bool := true
  securityReady : Bool := true
  schemaCurrent : Bool := true
  deriving DecidableEq, Repr

def subscriptionsReady (required : InputRoles) (peer : HidPeer) : Bool :=
  (!required.keyboard || peer.keyboardNotifyEnabled) && (!required.mouse || peer.mouseNotifyEnabled)

/-- Exposed and connected without recovery. -/
def lifecycleLinked (lifecycle : Snapshot) : Bool :=
  lifecycle.desired == .exposed && lifecycle.observed == .connected && lifecycle.connected &&
    !lifecycle.recoveryRequired

def bleLinkReady (link : Link) : Program State Bool := do
  let peer ← .read (·.peer)
  if (← .read (·.handoffFailure)) || !peer.active || peer.suspended ||
      !subscriptionsReady link.required peer then
    return false
  let lifecycle ← onBle snapshot
  if ← bleEventOverflowPending lifecycle.generation then
    return false
  if ← bleRouteLossPending lifecycle.generation then
    return false
  let connection ← .read (·.lifecycle.connectionHandle)
  return lifecycle.generation == peer.generation && lifecycleLinked lifecycle &&
    connection == peer.connectionHandle && link.handlesValid && link.handles == peer.handles &&
    link.securityReady && link.schemaCurrent

inductive RouteTransitionResult where
  | accepted
  | noOp
  | busy
  | notReady
  deriving DecidableEq, Repr

/-- The answers of the report runtime to one activation. -/
structure RouteAnswers where
  /-- The route is BLE, stable, and of the peer's own authority. -/
  owned : Bool
  /-- `request_route_ble`. -/
  requested : RouteTransitionResult
  /-- `owned` after an accepted request. -/
  ownedAfter : Bool
  deriving DecidableEq, Repr

/-- How an activation ends; only `requested` has asked the runtime for the route. -/
inductive Activation where
  | notReady
  | alreadyActive
  | requested (result : RouteTransitionResult)
  deriving DecidableEq, Repr

def bleRouteReady (link : Link) (owned : Bool) : Program State Bool := do
  return (← bleLinkReady link) && owned

def activateBleRoute (link : Link) (route : RouteAnswers) : Program State Activation := do
  if ← bleRouteReady link route.owned then
    return .alreadyActive
  if (← bleLinkReady link) = false then
    return .notReady
  if route.requested ≠ .accepted then
    return .requested route.requested
  if ← bleRouteReady link route.ownedAfter then
    return .requested .accepted
  return .requested .notReady

/-- `BleHidWorkIdentity`; whether the runtime's route authority is still the one
the work was admitted under is an input. -/
structure HidWork where
  generation : Generation
  connectionHandle : ConnectionHandle
  characteristicHandle : AttributeHandle
  authorityCurrent : Bool
  deriving DecidableEq, Repr

inductive BleHidSubmitResult where
  | stackAccepted
  | notReady
  | stale
  | resourceFailure
  | stackRejected
  deriving DecidableEq, Repr

inductive BleNotifyBackendResult where
  | stackAccepted
  | resourceFailure
  | stackRejected
  deriving DecidableEq, Repr

def BleNotifyBackendResult.submitResult : BleNotifyBackendResult → BleHidSubmitResult
  | .stackAccepted => .stackAccepted
  | .resourceFailure => .resourceFailure
  | .stackRejected => .stackRejected

def expectedHandle (handles : BleHidHandles) : BleHidInterface → AttributeHandle
  | .keyboard => handles.keyboardValue
  | .mouse => handles.mouseValue
  | .unknown => 0

def currentBleHidIdentity (work : HidWork) (interface : BleHidInterface) :
    Program State Bool := do
  let peer ← .read (·.peer)
  return peer.active && work.generation == peer.generation &&
    work.connectionHandle == peer.connectionHandle &&
    expectedHandle peer.handles interface != 0 &&
    work.characteristicHandle == expectedHandle peer.handles interface && work.authorityCurrent

/-- The part of `ble_hid_interface_ready` that depends on the interface; anything
but the keyboard is taken for the mouse. -/
def interfaceServed (link : Link) (work : HidWork) (peer : HidPeer) :
    BleHidInterface → Bool
  | .keyboard => link.supported.keyboard && link.handles.keyboardValue == work.characteristicHandle &&
      peer.keyboardNotifyEnabled
  | .mouse | .unknown => link.supported.mouse &&
      link.handles.mouseValue == work.characteristicHandle && peer.mouseNotifyEnabled

def bleHidInterfaceReady (link : Link) (work : HidWork) (interface : BleHidInterface) :
    Program State Bool := do
  if (← currentBleHidIdentity work interface) = false then
    return false
  let peer ← .read (·.peer)
  if (← .read (·.handoffFailure)) || peer.suspended then
    return false
  let lifecycle ← onBle snapshot
  if ← bleEventOverflowPending lifecycle.generation then
    return false
  if ← bleRouteLossPending lifecycle.generation then
    return false
  let connection ← .read (·.lifecycle.connectionHandle)
  return interfaceServed link work peer interface && lifecycle.generation == work.generation &&
    lifecycleLinked lifecycle && connection == work.connectionHandle && link.securityReady &&
    link.schemaCurrent

/-- The answers `notReady` and `stale` are given without a call of the backend. -/
def submitBleReport (link : Link) (work : HidWork) (interface : BleHidInterface)
    (notified : BleNotifyBackendResult) : Program State BleHidSubmitResult := do
  if (← currentBleHidIdentity work interface) = false then
    return .stale
  if (← bleHidInterfaceReady link work interface) = false then
    return .notReady
  return notified.submitResult

/-! ### A mark fences -/

/-- Whether the route-loss mark stands for this authority. -/
def State.LossMarked (authority : Generation) (state : State) : Prop :=
  if authority = 0 then state.routeLossAuthorityZero = true
  else state.routeLossAuthority = authority

/-- A queued event that lost readiness for the authority current at its signal. -/
def State.Noted (event : BleEvent) (state : State) : Prop :=
  .bleEvent event true ∈ state.queue

theorem exec_bleRouteLossPending (generation : Generation) (state : State) :
    (bleRouteLossPending generation).exec state =
      (if generation = 0 then state.routeLossAuthorityZero
        else decide (state.routeLossAuthority = generation), state) := by
  unfold bleRouteLossPending
  split <;> simp

theorem bleRouteLossPending_iff (generation : Generation) (state : State) :
    ((bleRouteLossPending generation).exec state).1 = true ↔ state.LossMarked generation := by
  rw [exec_bleRouteLossPending, State.LossMarked]
  split <;> simp

/-- The rest of a readiness check is not reached. -/
theorem exec_lossPending_bind {α : Type} {rest : Bool → Program State α} {state : State}
    (lost : state.LossMarked state.lifecycle.generation) :
    (bleRouteLossPending state.lifecycle.current.generation >>= rest).exec state =
      (rest true).exec state := by
  have pending := (bleRouteLossPending_iff state.lifecycle.current.generation state).mpr lost
  rw [Program.exec_bind, pending, exec_bleRouteLossPending]

theorem exec_overflowPending_bind {α : Type} (generation : Generation)
    (rest : Bool → Program State α) (state : State) :
    ∃ pending, (bleEventOverflowPending generation >>= rest).exec state =
      (rest pending).exec state := by
  unfold bleEventOverflowPending
  split <;> exact ⟨_, rfl⟩

theorem bleLinkReady_of_lost (link : Link) {state : State}
    (lost : state.LossMarked state.lifecycle.generation) :
    (bleLinkReady link).exec state = (false, state) := by
  simp only [bleLinkReady, Program.exec_read_bind, Program.exec_ite, Program.pure_eq_done,
    Program.exec_done, exec_onBle_snapshot_bind]
  split
  · rfl
  · obtain ⟨overflowed, checked⟩ := exec_overflowPending_bind
      state.lifecycle.current.generation _ state
    rw [checked]
    cases overflowed
    · rw [if_neg (by simp), exec_lossPending_bind lost]
      rfl
    · rfl

theorem bleHidInterfaceReady_of_lost (link : Link) (work : HidWork) (interface : BleHidInterface)
    {state : State} (lost : state.LossMarked state.lifecycle.generation) :
    (bleHidInterfaceReady link work interface).exec state = (false, state) := by
  simp only [bleHidInterfaceReady, currentBleHidIdentity, Program.bind_assoc,
    Program.exec_read_bind, Program.exec_ite, Program.pure_eq_done,
    Program.exec_done, Program.done_bind, exec_onBle_snapshot_bind]
  split
  · rfl
  split
  · rfl
  obtain ⟨overflowed, checked⟩ := exec_overflowPending_bind
    state.lifecycle.current.generation _ state
  rw [checked]
  cases overflowed
  · rw [if_neg (by simp), exec_lossPending_bind lost]
    rfl
  · rfl

/-! ### Signals -/

theorem targets_loads (event : BleEvent) :
    (eventTargetsCurrentBleAuthority event).Each fun before after : State => after = before := by
  refine .bind (.read (fun _ => rfl) fun state => state.stackIncarnation) fun stack => ?_
  split
  · trivial
  refine .bind (.read (fun _ => rfl) fun state => state.lifecycle.generation) fun generation => ?_
  split
  · trivial
  refine .bind (.zoom ?_ (snapshot_each fun words => rfl)) fun current => ?_
  · rintro state after rfl
    rfl
  refine .bind (.read (fun _ => rfl) fun state => state.lifecycle.connectionHandle)
    fun connection => ?_
  split
  · trivial
  refine .bind (.read (fun _ => rfl) fun state => state.lifecycle.generation) fun generation => ?_
  split <;> trivial

/-- Whether the event targets the authority of the state. -/
def State.TargetedBy (event : BleEvent) (state : State) : Bool :=
  ((eventTargetsCurrentBleAuthority event).exec state).1

theorem exec_targets (event : BleEvent) (state : State) :
    (eventTargetsCurrentBleAuthority event).exec state = (state.TargetedBy event, state) :=
  Prod.ext rfl ((targets_loads event).exec_loads state)

theorem exec_targets_bind {α : Type} (event : BleEvent) (rest : Bool → Program State α)
    (state : State) :
    (eventTargetsCurrentBleAuthority event >>= rest).exec state =
      (rest (state.TargetedBy event)).exec state := by
  rw [Program.exec_bind, exec_targets]

theorem State.TargetedBy.current {event : BleEvent} {state : State}
    (targeted : state.TargetedBy event = true) : event.generation = state.lifecycle.generation := by
  by_contra other
  have refused : state.TargetedBy event = false := by
    unfold State.TargetedBy eventTargetsCurrentBleAuthority
    simp only [Program.exec_read_bind, Program.exec_ite, Program.pure_eq_done, Program.exec_done,
      BleLifecycle.generation, onBle_read, other, ite_true, ne_eq, not_false_eq_true]
    split <;> rfl
  simp [refused] at targeted

theorem State.TargetedBy.incarnation {event : BleEvent} {state : State}
    (targeted : state.TargetedBy event = true) :
    event.stackIncarnation = state.stackIncarnation := by
  by_contra other
  have refused : state.TargetedBy event = false := by
    unfold State.TargetedBy eventTargetsCurrentBleAuthority
    simp [other]
  simp [refused] at targeted

def markLoss (authority : Generation) (state : State) : State :=
  if authority = 0 then { state with routeLossAuthorityZero := true }
  else { state with routeLossAuthority := authority }

theorem markLoss_marked (authority : Generation) (state : State) :
    (markLoss authority state).LossMarked authority := by
  unfold markLoss State.LossMarked
  split <;> simp_all

theorem markLoss_rest (authority : Generation) (state : State) :
    (markLoss authority state).lifecycle = state.lifecycle ∧
      (markLoss authority state).queue = state.queue := by
  unfold markLoss
  split <;> exact ⟨rfl, rfl⟩

/-- The exchange succeeds at the latest when it no longer fails spuriously. -/
theorem exec_markTurns {event : BleEvent} {state : State} (targeted : state.TargetedBy event = true)
    (nonzero : event.generation ≠ 0) (spurious : Nat) :
    ((markTurns (·.routeLossAuthority) storeRouteLossAuthority event
      (List.replicate spurious true ++ [false]) state.routeLossAuthority).exec state).2 =
        markLoss event.generation state := by
  have marked (same : state.routeLossAuthority = event.generation) :
      state = markLoss event.generation state := by
    rw [markLoss, if_neg nonzero, ← same]
  induction spurious with
  | zero =>
      by_cases same : state.routeLossAuthority = event.generation
      · simpa [markTurns, same] using marked same
      · simp [markTurns, same, exec_targets_bind, targeted, exchangeMark, markLoss, nonzero,
          storeRouteLossAuthority]
  | succ spurious ih =>
      by_cases same : state.routeLossAuthority = event.generation
      · simpa [markTurns, same, List.replicate_succ] using marked same
      · simpa [List.replicate_succ, markTurns, same, exec_targets_bind, targeted, exchangeMark]
          using ih

theorem exec_markBleRouteLoss (event : BleEvent) (spurious : Nat) (state : State) :
    ((markBleRouteLoss event (List.replicate spurious true ++ [false])).exec state).2 =
      if eventImmediatelyLosesBleHidReadiness event = true ∧ state.TargetedBy event = true then
        markLoss event.generation state
      else state := by
  unfold markBleRouteLoss
  by_cases loses : eventImmediatelyLosesBleHidReadiness event = true
  · by_cases targeted : state.TargetedBy event = true
    · by_cases zero : event.generation = 0
      · simp [loses, exec_targets_bind, targeted, zero, markLoss]
      · simpa [loses, exec_targets_bind, targeted, zero] using
          exec_markTurns targeted zero spurious
    · simp [loses, exec_targets_bind, targeted]
  · simp [loses]

theorem markBleEventOverflow_only (event : BleEvent) (turns : List Bool) (state : State) :
    OnlyOverflow state ((markBleEventOverflow event turns).exec state).2 := by
  refine Program.Each.exec OnlyOverflow.refl (fun _ _ _ => OnlyOverflow.trans) ?_ state
  have targets : (eventTargetsCurrentBleAuthority event).Each OnlyOverflow := by
    refine (targets_loads event).mono ?_
    rintro before after rfl
    exact ⟨rfl⟩
  have marks (observed : Generation) : (markTurns (·.overflowAuthority) storeOverflowAuthority
      event turns observed).Each OnlyOverflow := by
    induction turns generalizing observed with
    | nil => trivial
    | cons spurious turns ih =>
        unfold markTurns
        split
        · refine .bind targets fun targeted => ?_
          split
          · refine .bind (.readModifyWrite fun state => ?_) fun exchange => ?_
            · split <;> exact ⟨rfl⟩
            · split
              · trivial
              · exact ih _
          · trivial
        · trivial
  refine .bind targets fun targeted => ?_
  split
  · split
    · refine .bind targets fun targeted => ?_
      split
      · exact .write fun _ => ⟨rfl⟩
      · trivial
    · exact .bind (.read OnlyOverflow.refl fun state => state.overflowAuthority) fun _ => marks _
  · trivial

theorem exec_losesCurrentRoute (event : BleEvent) (state : State) :
    (losesCurrentRoute event).exec state =
      (eventImmediatelyLosesBleHidReadiness event && state.TargetedBy event, state) := by
  unfold losesCurrentRoute
  split
  · rename_i loses
    rw [exec_targets, loses, Bool.true_and]
  · rename_i stays
    rw [Bool.eq_false_iff.mpr stays, Bool.false_and]
    rfl

/-- The event loses readiness for the authority of the state. -/
def State.LostBy (event : BleEvent) (state : State) : Prop :=
  eventImmediatelyLosesBleHidReadiness event = true ∧ state.TargetedBy event = true

/-- A signal notes no event but a loss of its own, and it marks that loss. -/
structure Signalled (event : BleEvent) (before after : State) : Prop where
  lifecycle : after.lifecycle = before.lifecycle
  noted : ∀ other, after.Noted other → before.Noted other ∨ other = event ∧ before.LostBy event
  marked : before.LossMarked before.lifecycle.generation ∨ before.LostBy event →
    after.LossMarked before.lifecycle.generation

/-- What the marking of the loss leaves to the rest of the signal. -/
theorem Signalled.of_marked {event : BleEvent} {state marked after : State}
    (mark : marked = if eventImmediatelyLosesBleHidReadiness event = true ∧
      state.TargetedBy event = true then markLoss event.generation state else state)
    (lifecycle : after.lifecycle = marked.lifecycle)
    (authority : after.routeLossAuthority = marked.routeLossAuthority)
    (zero : after.routeLossAuthorityZero = marked.routeLossAuthorityZero)
    (noted : ∀ other, after.Noted other → marked.Noted other ∨ other = event ∧
      state.LostBy event) : Signalled event state after := by
  have same : marked.lifecycle = state.lifecycle ∧ marked.queue = state.queue := by
    rw [mark]
    split
    · exact markLoss_rest _ _
    · exact ⟨rfl, rfl⟩
  refine ⟨lifecycle.trans same.1, fun other member => ?_, fun lost => ?_⟩
  · simpa only [State.Noted, same.2] using noted other member
  · rw [State.LossMarked, authority, zero]
    change marked.LossMarked _
    rw [mark]
    split
    · rename_i lostNow
      rw [← State.TargetedBy.current lostNow.2]
      exact markLoss_marked _ _
    · rename_i keeps
      exact lost.resolve_right keeps

theorem signalBleEvent_signalled (room : Bool) (spurious : Nat) (event : BleEvent)
    (state : State) : Signalled event state ((signalBleEvent room
      (List.replicate spurious true ++ [false]) event).exec state).2 := by
  unfold signalBleEvent
  rw [Program.exec_read_bind, Program.exec_ite]
  split
  · rename_i retired
    refine ⟨rfl, fun _ => .inl, fun lost => lost.resolve_right fun lost => ?_⟩
    exact retired (State.TargetedBy.incarnation lost.2)
  · rw [Program.exec_bind, exec_losesCurrentRoute, Program.exec_bind]
    have mark := exec_markBleRouteLoss event spurious state
    generalize ((markBleRouteLoss event
      (List.replicate spurious true ++ [false])).exec state).2 = marked at mark ⊢
    cases room with
    | true =>
        refine .of_marked mark rfl rfl rfl fun other noted => ?_
        rcases List.mem_append.mp noted with before | added
        · exact .inl before
        · have same := List.mem_singleton.mp added
          simp only [Action.bleEvent.injEq] at same
          exact .inr ⟨same.1, by simpa [State.LostBy] using same.2.symm⟩
    | false =>
        have only := (markBleEventOverflow_only event
          (List.replicate spurious true ++ [false]) marked).rest
        refine .of_marked mark ?_ ?_ ?_ ?_
        all_goals
          simp only [enqueue, Bool.false_eq_true, ite_false, Program.pure_eq_done,
            Program.done_bind, Program.exec_bind, Program.exec_done]
          rw [only]
        exact fun other noted => .inl noted

end HidBot.BleControl
