import HidBot.Ble.Executor

/-!
# What the executor's BLE programs are made of

A property of programs that holds of the building blocks and is kept by
composition holds of everything the executor does for BLE. The statements about
runs choose the property.
-/

namespace HidBot.BleControl

open Interleaving BleLifecycle

/-- `good` is kept by composition and holds of the building blocks that neither start to
advertise nor connect. -/
structure QuietBlocks (good : ∀ {α : Type}, Program State α → Prop) : Prop where
  done : ∀ {α : Type} (result : α), good (.done result)
  bind : ∀ {α β : Type} {call : Program State α} {rest : α → Program State β},
    good call → (∀ result, good (rest result)) → good (call >>= rest)
  read : ∀ {α : Type} (view : State → α), good (.read view)
  dequeue : good dequeue
  release : ∀ operation, good (releaseOperation operation)
  peer : ∀ update, good (setPeer update)
  setGeneration : ∀ generation, good (setGeneration generation)
  pairingTerminal : ∀ committed, good (storePairingTerminal committed)
  disableWatch : ∀ watch, good (storeDisableWatch watch)
  profileDeadline : ∀ armed, good (storeProfileDeadline armed)
  profileStop : ∀ started, good (storeProfileStop started)
  hiddenInitialization : ∀ expected, good (onBle (beginHiddenInitialization expected))
  hiddenSync : ∀ expected, good (onBle (completeHiddenSync expected))
  sync : ∀ expected, good (onBle (completeSync expected))
  disconnect : ∀ expected handle loss, good (onBle (observeDisconnect expected handle loss))
  disable : ∀ expected, good (onBle (completeDisable expected))
  resetRecovery : ∀ expected reason, good (onBle (beginResetRecovery expected reason))
  fail : ∀ expected operation code owner, good (failBle expected operation code owner)
  storeFailure : good commitPersistentStoreFailure
  handoff : ∀ turns, good (reconcileBleLifecycleHandoffFailure turns)
  overflow : ∀ {α : Type} (change : State → α × State),
    (∀ state, OnlyOverflow state (change state).2) → good (.readModifyWrite change)

/-- `good` holds of all building blocks and is kept by composition. -/
structure Blocks (good : ∀ {α : Type}, Program State α → Prop) : Prop
    extends QuietBlocks good where
  advertising : ∀ expected, good (onBle (completeAdvertising expected))
  connect : ∀ expected handle, good (onBle (observeConnect expected handle))

namespace QuietBlocks

variable {good : ∀ {α : Type}, Program State α → Prop} (blocks : QuietBlocks good)

include blocks

theorem snapshot : good (onBle snapshot) := by
  unfold BleLifecycle.snapshot
  simp only [onBle_bind, onBle_read]
  repeat refine blocks.bind (blocks.read _) fun _ => ?_
  exact blocks.done _

theorem generation : good (onBle generation) := blocks.read _

theorem clearBleHidPeer : good clearBleHidPeer := blocks.peer fun _ => {}

theorem onlyIf (condition : Prop) [Decidable condition] {call : Program State Unit}
    (made : good call) : good (.onlyIf condition call) := by
  unfold Program.onlyIf
  split
  · exact made
  · exact blocks.done _

theorem clearAuthority (authority : Generation) : good (clearAuthority authority) := by
  unfold BleControl.clearAuthority
  split
  · exact blocks.overflow (fun state => ((), { state with overflowAuthorityZero := false }))
      fun _ => ⟨rfl⟩
  · refine blocks.overflow (fun state => ((), if state.overflowAuthority = authority then
      { state with overflowAuthority := 0 } else state)) fun state => ?_
    dsimp only
    split <;> exact ⟨rfl⟩

theorem bleEventOverflowPending (authority : Generation) :
    good (bleEventOverflowPending authority) := by
  unfold BleControl.bleEventOverflowPending
  split
  · exact blocks.read _
  · exact blocks.bind (blocks.read _) fun _ => blocks.done _

theorem consumePending (authority : Generation) : good (consumePending authority) := by
  refine blocks.bind blocks.snapshot fun current => ?_
  split
  · exact blocks.done _
  refine blocks.bind blocks.generation fun generation => ?_
  split
  · exact blocks.done _
  refine blocks.bind (blocks.read _) fun stronger => ?_
  split
  · exact blocks.bind (blocks.clearAuthority _) fun _ => blocks.done _
  refine blocks.bind (blocks.read _) fun active => ?_
  refine blocks.bind (blocks.fail ..) fun _ => ?_
  exact blocks.bind (blocks.clearAuthority _) fun _ => blocks.done _

theorem consumeStale : good consumeStale := by
  refine blocks.bind (blocks.overflow _ fun _ => ⟨rfl⟩) fun stale => ?_
  split
  · exact blocks.done _
  refine blocks.bind (blocks.overflow (fun state => ((), { state with
    overflowAuthority :=
      if state.overflowAuthority = stale then 0 else state.overflowAuthority
    record := { state.record with sweeping := none } })) fun _ => ⟨rfl⟩) fun _ => blocks.done _

theorem consumeTurn : good consumeTurn := by
  refine blocks.bind blocks.generation fun authority => ?_
  refine blocks.bind (blocks.bleEventOverflowPending _) fun pending => ?_
  split
  · exact blocks.consumePending _
  split
  · exact blocks.consumeStale
  refine blocks.bind (blocks.overflow _ fun _ => ⟨rfl⟩) fun staleZero => ?_
  split
  · exact blocks.done _
  · exact blocks.consumeStale

theorem consumeBleOverflow (turns : Nat) : good (consumeBleOverflow turns) := by
  induction turns with
  | zero => exact blocks.done _
  | succ turns ih =>
      refine blocks.bind blocks.consumeTurn fun turn => ?_
      cases turn with
      | again => exact ih
      | returned overflowed => exact blocks.done _

/-- The faults that are reconciled before anything else. -/
theorem reconcileBleFallbacks (turns : Nat) : good (reconcileBleFallbacks turns) := by
  refine blocks.bind (blocks.read _) fun observed => ?_
  refine blocks.bind (blocks.onlyIf _ blocks.storeFailure) fun _ => ?_
  refine blocks.bind (blocks.handoff turns) fun failed => ?_
  exact blocks.bind (blocks.consumeBleOverflow turns) fun overflowed => blocks.done _

theorem driveBleDisable (environment : Environment) : good (driveBleDisable environment) := by
  refine blocks.bind (blocks.read _) fun active => ?_
  split
  · exact blocks.disableWatch _
  refine blocks.bind (blocks.read _) fun watch => ?_
  split
  · exact blocks.done _
  refine blocks.bind blocks.snapshot fun current => ?_
  split
  · exact blocks.bind (blocks.disableWatch _) fun _ => blocks.fail ..
  split
  · refine blocks.bind (blocks.disable _) fun completed => ?_
    split
    · exact blocks.bind (blocks.disableWatch _) fun _ => blocks.release _
    · exact blocks.done _
  · exact blocks.done _

theorem driveProfileSelection (environment : Environment) :
    good (driveProfileSelection environment) := by
  refine blocks.bind (blocks.read _) fun active => ?_
  split
  · refine blocks.bind (blocks.read _) fun armed => ?_
    split
    · refine blocks.bind blocks.snapshot fun current => ?_
      split
      · exact blocks.fail ..
      refine blocks.bind (blocks.read _) fun stopping => ?_
      split
      · split
        · exact blocks.fail ..
        split
        · refine blocks.bind (blocks.profileStop _) fun _ => ?_
          refine blocks.bind (blocks.hiddenInitialization _) fun begun => ?_
          split
          · exact blocks.fail ..
          refine blocks.bind (blocks.profileDeadline _) fun _ => ?_
          refine blocks.bind (blocks.setGeneration _) fun _ => ?_
          exact blocks.onlyIf _ (blocks.fail ..)
        · exact blocks.done _
      · exact blocks.done _
    · exact blocks.done _
  · exact blocks.done _

theorem eventIsCurrent (event : BleEvent) : good (eventIsCurrent event) := by
  refine blocks.bind blocks.generation fun generation => ?_
  split
  · exact blocks.bind (blocks.read _) fun _ => blocks.done _
  · exact blocks.done _

theorem syncHidden (refused : Bool) (expected : Generation) :
    good (syncHidden refused expected) := by
  unfold BleControl.syncHidden
  split
  · exact blocks.done _
  · exact blocks.hiddenSync _

theorem processReset (event : BleEvent) : good (processReset event) := by
  refine blocks.bind blocks.snapshot fun before => ?_
  split
  · refine blocks.bind blocks.clearBleHidPeer fun _ => ?_
    refine blocks.bind (blocks.pairingTerminal _) fun _ => ?_
    refine blocks.bind (blocks.resetRecovery ..) fun recovering => ?_
    split
    · exact blocks.bind blocks.generation fun _ => blocks.setGeneration _
    · refine blocks.bind blocks.generation fun _ => ?_
      exact blocks.bind (blocks.read _) fun _ => blocks.fail ..
  · exact blocks.done _

/-- A guard, then a call that is made if the guard holds. -/
theorem guarded {guard : Program State Bool} {call : Program State Unit} (checked : good guard)
    (made : good call) : good (do if ← guard then call) := by
  refine blocks.bind checked fun holds => ?_
  split
  · exact made
  · exact blocks.done _

theorem processDisable (environment : Environment) : good (processDisable environment) := by
  refine blocks.bind blocks.snapshot fun current => ?_
  refine blocks.bind (blocks.read _) fun active => ?_
  split
  · exact blocks.release _
  refine blocks.bind blocks.clearBleHidPeer fun _ => ?_
  refine blocks.bind (blocks.setGeneration _) fun _ => ?_
  refine blocks.bind (blocks.disableWatch _) fun _ => ?_
  split
  · exact blocks.bind (blocks.disableWatch _) fun _ => blocks.fail ..
  · exact blocks.driveBleDisable _

theorem processProfileSelect (environment : Environment) (incarnation : StackIncarnation) :
    good (processProfileSelect environment incarnation) := by
  refine blocks.bind (blocks.read _) fun active => ?_
  split
  · refine blocks.bind (blocks.read _) fun stack => ?_
    split
    · refine blocks.bind blocks.clearBleHidPeer fun _ => ?_
      refine blocks.bind blocks.snapshot fun current => ?_
      split
      · exact blocks.fail ..
      split
      · exact blocks.release _
      split
      · exact blocks.fail ..
      refine blocks.bind (blocks.profileDeadline _) fun _ => ?_
      exact blocks.bind (blocks.profileStop _) fun _ => blocks.onlyIf _ (blocks.fail ..)
    · exact blocks.done _
  · exact blocks.done _

theorem driveWatchdogs (environment : Environment) : good (driveWatchdogs environment) :=
  blocks.bind (blocks.driveProfileSelection _) fun _ => blocks.driveBleDisable _

/-- The end of a cycle. -/
theorem cycleTail (turns : Nat) (environment : Environment) :
    good (cycleTail turns environment) :=
  blocks.bind (blocks.reconcileBleFallbacks _) fun _ => blocks.driveWatchdogs _

end QuietBlocks

namespace Blocks

variable {good : ∀ {α : Type}, Program State α → Prop} (blocks : Blocks good)

include blocks

theorem reconcileBleDisconnect (environment : Environment) (event : BleEvent) (expected : Bool) :
    good (reconcileBleDisconnect environment event expected) := by
  refine blocks.bind (blocks.disconnect ..) fun observed => ?_
  split
  · refine blocks.bind (blocks.pairingTerminal _) fun _ => ?_
    refine blocks.bind blocks.clearBleHidPeer fun _ => ?_
    split
    · exact blocks.driveBleDisable environment
    refine blocks.bind (blocks.read _) fun failed => ?_
    split
    · exact blocks.done _
    refine blocks.bind blocks.generation fun generation => ?_
    refine blocks.bind (blocks.setGeneration _) fun _ => ?_
    split
    · exact blocks.bind (blocks.advertising _) fun _ => blocks.done _
    · exact blocks.fail ..
  · exact blocks.done _

theorem terminateSecurityConnection (environment : Environment) (fatal : Bool) :
    good (terminateSecurityConnection environment fatal) := by
  refine blocks.bind blocks.snapshot fun current => ?_
  split
  · refine blocks.bind (blocks.read _) fun committed => ?_
    split
    · exact blocks.done _
    refine blocks.bind (blocks.pairingTerminal _) fun _ => ?_
    refine blocks.bind (blocks.read _) fun handle => ?_
    split
    · exact blocks.fail ..
    split
    · refine blocks.bind blocks.snapshot fun present => ?_
      refine blocks.bind blocks.generation fun generation => ?_
      refine blocks.bind (blocks.read _) fun connection => ?_
      exact blocks.onlyIf _ (blocks.reconcileBleDisconnect ..)
    · exact blocks.onlyIf _ (blocks.fail ..)
  · exact blocks.done _

theorem applyVerdict (environment : Environment) : good (applyVerdict environment) := by
  unfold BleControl.applyVerdict
  split
  · exact blocks.done _
  · exact blocks.terminateSecurityConnection ..
  · exact blocks.storeFailure

theorem processSync (environment : Environment) (event : BleEvent) :
    good (processSync environment event) := by
  refine blocks.bind blocks.snapshot fun current => ?_
  refine blocks.bind (blocks.read _) fun owner => ?_
  split
  · split
    · refine blocks.bind (blocks.read _) fun failed => ?_
      refine blocks.bind (blocks.syncHidden ..) fun synced => ?_
      split
      · exact blocks.bind (blocks.profileDeadline _) fun _ => blocks.onlyIf _ (blocks.release _)
      · exact blocks.fail ..
    · exact blocks.done _
  · refine blocks.bind (blocks.sync _) fun synced => ?_
    split
    · refine blocks.bind (blocks.read _) fun failed => ?_
      split
      · exact blocks.done _
      split
      · refine blocks.bind (blocks.advertising _) fun _ => ?_
        exact blocks.bind (blocks.read _) fun _ => blocks.onlyIf _ (blocks.release _)
      · exact blocks.fail ..
    · exact blocks.done _

theorem processBleEvent (environment : Environment) (event : BleEvent) :
    good (processBleEvent environment event) := by
  unfold BleControl.processBleEvent
  cases event.kind with
  | sync => exact blocks.processSync ..
  | connect =>
      refine blocks.guarded (blocks.connect ..)
        (blocks.bind (blocks.onlyIf _ (blocks.peer _)) fun _ => ?_)
      exact blocks.bind (blocks.pairingTerminal _) fun _ => blocks.applyVerdict _
  | disconnect => exact blocks.bind (blocks.read _) fun _ => blocks.reconcileBleDisconnect ..
  | advertisingComplete =>
      refine blocks.bind blocks.generation fun generation => ?_
      split
      · refine blocks.bind blocks.snapshot fun current => ?_
        split
        · refine blocks.bind blocks.snapshot fun current => ?_
          split
          · exact blocks.done _
          · exact blocks.bind (blocks.read _) fun _ => blocks.onlyIf _ (blocks.fail ..)
        · exact blocks.done _
      · exact blocks.done _
  | reset => exact blocks.processReset _
  | timeout => exact blocks.bind (blocks.read _) fun _ => blocks.fail ..
  | passkeyAction | pairingTimeout => exact blocks.applyVerdict _
  | encryptionChange =>
      refine blocks.guarded (blocks.eventIsCurrent _) ?_
      split
      · exact blocks.terminateSecurityConnection ..
      · exact blocks.applyVerdict _
  | pairingComplete =>
      exact blocks.guarded (blocks.eventIsCurrent _)
        (blocks.onlyIf _ (blocks.terminateSecurityConnection ..))
  | identityResolved => exact blocks.guarded (blocks.eventIsCurrent _) (blocks.applyVerdict _)
  | repeatPairing | storeFull =>
      exact blocks.guarded (blocks.eventIsCurrent _) (blocks.terminateSecurityConnection ..)
  | storageFailure => exact blocks.storeFailure
  | subscription =>
      refine blocks.guarded (blocks.read _) ?_
      split
      · exact blocks.bind (blocks.peer _) fun _ => blocks.applyVerdict _
      · exact blocks.done _
  | controlPoint => exact blocks.guarded (blocks.read _) (blocks.peer _)
  | reportMapRead | serviceChangedSubscription =>
      exact blocks.guarded (blocks.read _) (blocks.applyVerdict _)

theorem processEnable (environment : Environment) : good (processEnable environment) := by
  refine blocks.bind blocks.snapshot fun current => ?_
  refine blocks.bind (blocks.read _) fun active => ?_
  split
  · exact blocks.release _
  refine blocks.bind (blocks.setGeneration _) fun _ => ?_
  split
  · split
    · exact blocks.fail ..
    · exact blocks.onlyIf _ (blocks.fail ..)
  · refine blocks.bind (blocks.read _) fun failed => ?_
    split
    · exact blocks.done _
    split
    · exact blocks.bind (blocks.advertising _) fun _ => blocks.release _
    · exact blocks.fail ..

/-- A queued event after the faults, if they do not drop it. -/
theorem processQueuedEvent (environment : Environment) (event : BleEvent) :
    good (processQueuedEvent environment event) := by
  refine blocks.bind (blocks.read _) fun stack => ?_
  split
  · exact blocks.bind (blocks.processBleEvent ..) fun _ => blocks.done _
  · exact blocks.done _

theorem act (environment : Environment) (suppressed : Bool) (action : Action) :
    good (act environment suppressed action) := by
  cases action with
  | bleEvent event fences =>
      cases suppressed with
      | true => exact blocks.done _
      | false => exact blocks.processQueuedEvent ..
  | bleEnable => exact blocks.bind (blocks.processEnable _) fun _ => blocks.done _
  | bleDisable => exact blocks.bind (blocks.processDisable _) fun _ => blocks.done _
  | profileSelect incarnation =>
      exact blocks.bind (blocks.processProfileSelect ..) fun _ => blocks.done _

theorem process (turns : Nat) (environment : Environment) (action : Action) :
    good (process turns environment action) :=
  blocks.bind (blocks.reconcileBleFallbacks _) fun _ => blocks.act ..

/-- The drain of the queue. -/
theorem processNext (turns : Nat) (environment : Environment) :
    good (processNext turns environment) := by
  refine blocks.bind blocks.dequeue fun head => ?_
  split
  · exact blocks.done _
  · exact blocks.process ..

end Blocks

/-! ### Accesses that are steps -/

/-- What an access leaves alone that only keeps the executor's own books. -/
structure KeepsBooks (before after : State) : Prop where
  lifecycle : after.lifecycle = before.lifecycle
  queue : after.queue = before.queue
  authority : after.routeLossAuthority = before.routeLossAuthority
  zero : after.routeLossAuthorityZero = before.routeLossAuthorityZero

theorem KeepsBooks.refl (state : State) : KeepsBooks state state := ⟨rfl, rfl, rfl, rfl⟩

/-- The lifecycle calls that neither start to advertise nor connect make steps of the words,
and the accesses that make such a step, or that keep books, are steps of the state. -/
structure QuietSteps (words : Words → Words → Prop) (step : State → State → Prop) : Prop where
  books : ∀ before after, KeepsBooks before after → step before after
  lift : ∀ state after, words state.lifecycle after → step state { state with lifecycle := after }
  refl : ∀ state, words state state
  fault : ∀ current operation code, (publishFault current operation code).Each words
  hiddenInitialization : ∀ expected, (beginHiddenInitialization expected).Each words
  hiddenSync : ∀ expected, (completeHiddenSync expected).Each words
  sync : ∀ expected, (completeSync expected).Each words
  disconnect : ∀ expected handle loss, (observeDisconnect expected handle loss).Each words
  disable : ∀ expected, (completeDisable expected).Each words
  resetRecovery : ∀ expected reason, (beginResetRecovery expected reason).Each words

namespace QuietSteps

variable {words : Words → Words → Prop} {step : State → State → Prop}
  (steps : QuietSteps words step)

include steps

theorem onBle {α : Type} {call : Program Words α} (each : call.Each words) :
    (onBle call).Each step := .zoom steps.lift each

theorem read {α : Type} (view : State → α) : (Program.read view).Each step :=
  .read (fun state => steps.books _ _ (.refl state)) view

theorem snapshot : (BleControl.onBle snapshot).Each step :=
  steps.onBle (snapshot_each steps.refl)

theorem write {update : State → State} (books : ∀ state, KeepsBooks state (update state)) :
    (Program.write update).Each step := .write fun state => steps.books _ _ (books state)

theorem completeFault (expected : Generation) (operation : LifecycleOperation) (code : Int32) :
    (BleControl.onBle (completeFault expected operation code)).Each step := by
  refine steps.onBle (.bind (snapshot_each steps.refl) fun current => ?_)
  split
  · trivial
  · exact .bind (steps.fault _ _ _) fun _ => trivial

theorem release (operation : ControlOperation) : (releaseOperation operation).Each step :=
  steps.write fun _ => ⟨rfl, rfl, rfl, rfl⟩

theorem failBle (expected : Generation) (operation : LifecycleOperation) (code : Int32)
    (owner : ControlOperation) : (failBle expected operation code owner).Each step := by
  refine .bind (steps.read _) fun generation => ?_
  refine .bind (.onlyIf _ (steps.write fun _ => ⟨rfl, rfl, rfl, rfl⟩)) fun _ => ?_
  refine .bind (.bind (steps.completeFault _ _ _) fun published => ?_) fun _ => ?_
  · split
    · exact steps.write fun _ => ⟨rfl, rfl, rfl, rfl⟩
    · trivial
  refine .bind (.onlyIf _ (steps.write fun _ => ⟨rfl, rfl, rfl, rfl⟩)) fun _ => ?_
  exact steps.release owner

theorem commitPersistentStoreFailure : commitPersistentStoreFailure.Each step := by
  refine .bind (steps.read _) fun committed => ?_
  split
  · trivial
  refine .bind (steps.write fun _ => ⟨rfl, rfl, rfl, rfl⟩) fun _ => ?_
  exact .bind steps.snapshot fun current => .bind (steps.read _) fun active => steps.failBle _ _ _ _

theorem failCurrentTurn : failCurrentTurn.Each step := by
  refine .bind steps.snapshot fun current => .bind (steps.read _) fun generation => ?_
  split
  · trivial
  refine .bind (steps.read _) fun active => .bind (steps.failBle _ _ _ _) fun _ => ?_
  exact .bind steps.snapshot fun terminal => trivial

theorem failCurrentBleQueueOverflow (turns : Nat) :
    (failCurrentBleQueueOverflow turns).Each step := by
  induction turns with
  | zero => trivial
  | succ turns ih =>
      refine .bind steps.failCurrentTurn fun ended => ?_
      split
      · trivial
      · exact ih

theorem reconcileBleLifecycleHandoffFailure (turns : Nat) :
    (reconcileBleLifecycleHandoffFailure turns).Each step := by
  refine .bind (steps.read _) fun failed => ?_
  split
  · refine .bind (steps.read _) fun committed => ?_
    split
    · trivial
    · refine .bind (steps.read _) fun stronger => ?_
      split
      · exact .bind (steps.write fun _ => ⟨rfl, rfl, rfl, rfl⟩) fun _ => trivial
      · refine .bind (steps.failCurrentBleQueueOverflow turns) fun ended => ?_
        split
        · exact .bind (steps.write fun _ => ⟨rfl, rfl, rfl, rfl⟩) fun _ => trivial
        · trivial
  · trivial

theorem blocks (taken : dequeue.Each step) : QuietBlocks fun call => call.Each step where
  done _ := trivial
  bind := .bind
  read := steps.read
  dequeue := taken
  release := steps.release
  peer _ := steps.write fun _ => ⟨rfl, rfl, rfl, rfl⟩
  setGeneration _ := steps.write fun _ => ⟨rfl, rfl, rfl, rfl⟩
  pairingTerminal _ := steps.write fun _ => ⟨rfl, rfl, rfl, rfl⟩
  disableWatch _ := steps.write fun _ => ⟨rfl, rfl, rfl, rfl⟩
  profileDeadline _ := steps.write fun _ => ⟨rfl, rfl, rfl, rfl⟩
  profileStop _ := steps.write fun _ => ⟨rfl, rfl, rfl, rfl⟩
  hiddenInitialization expected := steps.onBle (steps.hiddenInitialization expected)
  hiddenSync expected := steps.onBle (steps.hiddenSync expected)
  sync expected := steps.onBle (steps.sync expected)
  disconnect expected handle loss := steps.onBle (steps.disconnect expected handle loss)
  disable expected := steps.onBle (steps.disable expected)
  resetRecovery expected reason := steps.onBle (steps.resetRecovery expected reason)
  fail := steps.failBle
  storeFailure := steps.commitPersistentStoreFailure
  handoff := steps.reconcileBleLifecycleHandoffFailure
  overflow change only := by
    refine .readModifyWrite fun state => steps.books _ _ ?_
    rw [(only state).rest]
    exact ⟨rfl, rfl, rfl, rfl⟩

end QuietSteps

end HidBot.BleControl
