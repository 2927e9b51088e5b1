import HidBot.Pairing.Anchor

/-!
# How pairings end

The blocks of the executor's work, one by one: a live pairing stays held through
each of them, or it is over and the mailbox is wiped.
-/

namespace HidBot.BlePairing

open Interleaving BleLifecycle

variable {work : List Action} {state : State}

/-- The part of the state that holds a pairing. -/
structure Hold where
  lifecycle : Words
  pairing : StateMachine
  activeOperation : ControlOperation
  pairingTerminalCommitted : Bool
  pairingDeadline : Nat
  begun : List Begun

def State.hold (state : State) : Hold where
  lifecycle := state.lifecycle
  pairing := state.pairing
  activeOperation := state.activeOperation
  pairingTerminalCommitted := state.pairingTerminalCommitted
  pairingDeadline := state.pairingDeadline
  begun := state.begun

theorem Anchored.congr {after : State} (same : after.hold = state.hold)
    (anchored : Anchored work state) : Anchored work after := by
  have lifecycle : after.lifecycle = state.lifecycle := congrArg Hold.lifecycle same
  have pairing : after.pairing = state.pairing := congrArg Hold.pairing same
  have operation : after.activeOperation = state.activeOperation :=
    congrArg Hold.activeOperation same
  have terminal : after.pairingTerminalCommitted = state.pairingTerminalCommitted :=
    congrArg Hold.pairingTerminalCommitted same
  have deadline : after.pairingDeadline = state.pairingDeadline :=
    congrArg Hold.pairingDeadline same
  have begun : after.begun = state.begun := congrArg Hold.begun same
  rcases anchored with attached | ⟨disabling, queued⟩
  · refine .attached ⟨?_, ?_, ?_, ?_, ?_, ?_, ?_⟩
    · rw [lifecycle, attached.desired]
    · rw [lifecycle, attached.observed]
    · rw [lifecycle, attached.connected]
    · rw [lifecycle, pairing, attached.generation]
    · rw [lifecycle, pairing, attached.connectionHandle]
    · rw [terminal, attached.terminal]
    · rw [pairing, deadline, begun]
      exact attached.deadline
  · refine .disabling ⟨?_, ?_, ?_, ?_, ?_⟩ queued
    · rw [lifecycle, disabling.desired]
    · rw [lifecycle, disabling.observed]
    · rw [lifecycle, disabling.connected]
    · rw [operation, disabling.operation]
    · rw [terminal, disabling.terminal]

/-- A block that does not reach what holds a pairing. -/
theorem Settles.untouched {after : State} (held : Held work state)
    (hold : after.hold = state.hold) (mailbox : after.mailbox = state.mailbox)
    (ledger : after.ledger = state.ledger) : Settles work state after := by
  have same : after.pairing = state.pairing := congrArg Hold.pairing hold
  refine ⟨⟨same ▸ .refl, .inl mailbox, ledger⟩, fun waiting left => ?_, fun live => ?_⟩
  · exact absurd (same ▸ waiting) left
  · exact (held (same ▸ live)).congr hold

/-- The executor is not about to drive a disable whose deadline was armed earlier. -/
def State.Unwatched (state : State) : Prop :=
  state.activeOperation = .bleDisable → state.disableDeadline = 0

namespace State

/-! ### Boot-lifetime faults -/

theorem failCurrentBleQueueOverflow_settles :
    Settles work state state.failCurrentBleQueueOverflow :=
  .ended_trans (state.failPairingClosed_quiet _) rfl rfl (failBle_quiet ..)

theorem commitPersistentStoreFailure_settles (held : Held work state) :
    Settles work state state.commitPersistentStoreFailure := by
  unfold commitPersistentStoreFailure
  split
  · exact .refl held
  · refine .ended_trans ?_ ?_ ?_ (failBle_quiet ..)
    · exact ⟨StateMachine.publishInactive_keptOrIdle .., .inr rfl, rfl⟩
    · rfl
    · rfl

theorem reconcileBleLifecycleHandoffFailure_settles (held : Held work state) :
    Settles work state state.reconcileBleLifecycleHandoffFailure.2 := by
  have failed : Settles work state (if state.persistentStoreFailureCommitted = true then state
      else state.failCurrentBleQueueOverflow) := by
    split
    · exact .refl held
    · exact failCurrentBleQueueOverflow_settles
  unfold reconcileBleLifecycleHandoffFailure
  split
  · exact .refl held
  split
  · exact .refl held
  · exact failed.trans (.untouched failed.held rfl rfl rfl)

theorem clearOverflow_settles (held : Held work state) (authority : Generation) :
    Settles work state (state.clearOverflow authority) := by
  unfold clearOverflow
  split <;> exact .untouched held rfl rfl rfl

theorem consumeBleOverflow_settles (held : Held work state) :
    Settles work state state.consumeBleOverflow.2 := by
  unfold consumeBleOverflow
  dsimp only
  split
  · split
    · exact clearOverflow_settles held _
    · exact failCurrentBleQueueOverflow_settles.trans
        (clearOverflow_settles failCurrentBleQueueOverflow_settles.held _)
  · exact .untouched held rfl rfl rfl

theorem reconcileBleFallbacks_settles (held : Held work state) :
    Settles work state state.reconcileBleFallbacks.2 := by
  have committed : Settles work state (if state.persistentStoreFailureObserved = true then
      state.commitPersistentStoreFailure else state) := by
    split
    · exact commitPersistentStoreFailure_settles held
    · exact .refl held
  have failed := committed.trans (reconcileBleLifecycleHandoffFailure_settles committed.held)
  exact failed.trans (consumeBleOverflow_settles failed.held)

/-- The pairing is over, or the lifecycle and its operation are as they were. -/
def Spared (state after : State) : Prop :=
  after.pairing.liveState = .idle ∨ after.lifecycle = state.lifecycle ∧
    after.activeOperation = state.activeOperation ∧ after.disableDeadline = state.disableDeadline

theorem Spared.trans {middle after : State} (first : Spared state middle)
    (second : Spared middle after) (quiet : Quiet middle after) : Spared state after := by
  rcases first with ended | ⟨lifecycle, operation, deadline⟩
  · exact .inl (quiet.idle ended)
  rcases second with ended | ⟨lifecycle', operation', deadline'⟩
  · exact .inl ended
  · exact .inr ⟨lifecycle'.trans lifecycle, operation'.trans operation, deadline'.trans deadline⟩

theorem commitPersistentStoreFailure_spared : Spared state state.commitPersistentStoreFailure := by
  unfold commitPersistentStoreFailure
  split
  · exact .inr ⟨rfl, rfl, rfl⟩
  · exact .inl ((failBle_quiet ..).idle rfl)

theorem failCurrentBleQueueOverflow_ended :
    state.failCurrentBleQueueOverflow.pairing.liveState = .idle :=
  (failBle_quiet ..).idle rfl

theorem reconcileBleLifecycleHandoffFailure_spared :
    Spared state state.reconcileBleLifecycleHandoffFailure.2 := by
  unfold reconcileBleLifecycleHandoffFailure
  split
  · exact .inr ⟨rfl, rfl, rfl⟩
  split
  · exact .inr ⟨rfl, rfl, rfl⟩
  split
  · exact .inr ⟨rfl, rfl, rfl⟩
  · exact .inl failCurrentBleQueueOverflow_ended

theorem clearOverflow_spared (authority : Generation) :
    Spared state (state.clearOverflow authority) := by
  unfold clearOverflow
  split <;> exact .inr ⟨rfl, rfl, rfl⟩

theorem consumeBleOverflow_spared : Spared state state.consumeBleOverflow.2 := by
  unfold consumeBleOverflow
  dsimp only
  split
  · split
    · exact clearOverflow_spared _
    · exact .inl ((clearOverflow_quiet ..).idle failCurrentBleQueueOverflow_ended)
  · exact .inr ⟨rfl, rfl, rfl⟩

theorem reconcileBleFallbacks_spared : Spared state state.reconcileBleFallbacks.2 := by
  have committed : Spared state (if state.persistentStoreFailureObserved = true then
      state.commitPersistentStoreFailure else state) := by
    split
    · exact commitPersistentStoreFailure_spared
    · exact .inr ⟨rfl, rfl, rfl⟩
  have failed := committed.trans reconcileBleLifecycleHandoffFailure_spared
    (reconcileBleLifecycleHandoffFailure_quiet _)
  exact failed.trans consumeBleOverflow_spared (consumeBleOverflow_quiet _)

/-! ### Ends of a connection -/

theorem driveBleDisable_settles (held : Held work state)
    (unwatched : state.pairing.liveState ≠ .idle → state.Unwatched) (environment : Environment) :
    Settles work state (state.driveBleDisable environment) := by
  by_cases idle : state.pairing.liveState = .idle
  · exact .of_idle (state.driveBleDisable_quiet _) idle
  by_cases driven : state.activeOperation = .bleDisable
  · have unarmed := unwatched idle driven
    have same : state.driveBleDisable environment = state := by
      simp [driveBleDisable, driven, unarmed]
    rw [same]
    exact .refl held
  · have same : state.driveBleDisable environment = { state with disableDeadline := 0 } := by
      simp [driveBleDisable, driven]
    rw [same]
    exact .untouched held rfl rfl rfl

/-- A connection that the lifecycle is in loses its pairing with it. -/
theorem reconcileBleDisconnect_attached (attached : Attached state) (environment : Environment)
    (generation : Generation) (handle : ConnectionHandle) (expected : Bool) :
    Settles work state (state.reconcileBleDisconnect environment generation handle expected) := by
  by_cases mine : generation = state.lifecycle.generation ∧
      state.lifecycle.connectionHandle = handle
  · obtain ⟨rfl, rfl⟩ := mine
    have observed : (state.onLifecycle (observeDisconnect state.lifecycle.generation
        state.lifecycle.connectionHandle expected)).1 = true :=
      exec_observeDisconnect_connected attached.desired attached.observed expected
    have ended : (state.pairing.disconnect state.lifecycle.generation
        state.lifecycle.connectionHandle).liveState = .idle :=
      StateMachine.disconnect_current attached.generation attached.connectionHandle
    have lost := (state.onLifecycle_quiet (observeDisconnect state.lifecycle.generation
      state.lifecycle.connectionHandle expected)).trans (losePairing_quiet _
        state.lifecycle.generation state.lifecycle.connectionHandle)
    unfold reconcileBleDisconnect
    dsimp only
    rw [if_pos observed]
    split
    · exact .ended_trans lost ended rfl (driveBleDisable_quiet ..)
    · exact .ended_trans lost ended rfl (readvertise_quiet ..)
  · have other := exec_observeDisconnect_other (not_and_or.mp mine) expected
    have same : state.reconcileBleDisconnect environment generation handle expected = state := by
      simp [reconcileBleDisconnect, onLifecycle, other]
    rw [same]
    exact .refl fun _ => .attached attached

/-- A disconnect under a queued disable leaves the pairing to that. -/
theorem reconcileBleDisconnect_disabling (disabling : Disabling state)
    (queued : DisableQueued work) (unwatched : state.Unwatched) (environment : Environment)
    (generation : Generation) (handle : ConnectionHandle) :
    Settles work state (state.reconcileBleDisconnect environment generation handle true) := by
  by_cases mine : generation = state.lifecycle.generation ∧
      state.lifecycle.connectionHandle = handle
  · obtain ⟨rfl, rfl⟩ := mine
    have observed := exec_observeDisconnect_disabling disabling.desired disabling.observed
    have lost : Settles work state ({ state with
        lifecycle := { state.lifecycle with connectionHandle := noConnection } }.losePairing
          state.lifecycle.generation state.lifecycle.connectionHandle) := by
      refine ⟨⟨StateMachine.disconnect_keptOrIdle .., .inr rfl, rfl⟩, fun _ _ => rfl, fun _ => ?_⟩
      exact .disabling ⟨disabling.desired, disabling.observed, disabling.connected,
        disabling.operation, rfl⟩ queued
    unfold reconcileBleDisconnect onLifecycle
    dsimp only
    rw [observed]
    exact lost.trans (driveBleDisable_settles lost.held (fun _ => unwatched) environment)
  · have other := exec_observeDisconnect_other (not_and_or.mp mine) true
    have same : state.reconcileBleDisconnect environment generation handle true = state := by
      simp [reconcileBleDisconnect, onLifecycle, other]
    rw [same]
    exact .refl fun _ => .disabling disabling queued

/-- The attached connection is terminated with its pairing. -/
theorem terminateSecurityConnection_settles
    (attached : state.pairing.liveState ≠ .idle → Attached state) (environment : Environment)
    (result : LastResult) (fatal : Bool) :
    Settles work state (state.terminateSecurityConnection environment result fatal) := by
  by_cases idle : state.pairing.liveState = .idle
  · exact .of_idle (state.terminateSecurityConnection_quiet ..) idle
  have attached := attached idle
  exact .ended_trans (state.commitPairingTerminal_quiet result)
    (StateMachine.complete_current attached.generation attached.connectionHandle result) rfl
    (state.terminateSecurityConnection_committed attached.connected attached.terminal ..)

/-- A held connection whose pairing has just ended is terminated, and the mailbox wiped. -/
theorem terminateSecurityConnection_wiped (connected : state.lifecycle.state.connected = true)
    (terminal : state.pairingTerminalCommitted = false) (environment : Environment)
    (result : LastResult) (fatal : Bool) :
    (state.terminateSecurityConnection environment result fatal).mailbox = .wiped := by
  have quiet := state.terminateSecurityConnection_committed connected terminal environment result
    fatal
  rcases quiet.mailbox with same | wiped
  · exact same
  · exact wiped

theorem reconcileGattCache_settles (idle : state.pairing.liveState = .idle)
    (environment : Environment) : Settles work state (state.reconcileGattCache environment) :=
  .of_idle (state.reconcileGattCache_quiet _) idle

theorem reconcileSecurity_settles (attached : state.pairing.liveState ≠ .idle → Attached state)
    (environment : Environment) (handle : ConnectionHandle) (ready : Bool) :
    Settles work state (state.reconcileSecurity environment handle ready) := by
  by_cases idle : state.pairing.liveState = .idle
  · exact .of_idle (state.reconcileSecurity_quiet ..) idle
  have held : Held work state := fun _ => .attached (attached idle)
  unfold reconcileSecurity
  dsimp only
  split
  · exact .refl held
  split
  · exact .refl held
  split
  · have ended : state.succeedPairing.pairing.liveState = .idle :=
      StateMachine.complete_current (attached idle).generation (attached idle).connectionHandle _
    exact .ended_trans state.succeedPairing_quiet ended rfl (reconcileGattCache_quiet ..)
  split
  · split
    · exact terminateSecurityConnection_settles attached ..
    split
    · exact terminateSecurityConnection_settles attached ..
    · exact .refl held
  · exact .refl held

/-! ### Deadlines -/

theorem expirePairing_settles (held : Held work state) (environment : Environment)
    (generation : Generation) (handle : ConnectionHandle) (id : PairingId) :
    Settles work state (state.expirePairing environment generation handle id) := by
  unfold expirePairing
  dsimp only
  split
  · exact .ended_trans (state.closeInput_quiet (StateMachine.timeout_keptOrIdle ..))
      (StateMachine.timeout_taken ‹_›) rfl (terminateSecurityConnection_quiet ..)
  · exact .refl held

theorem reconcilePairingDeadline_settles (held : Held work state)
    (opened : state.pairing.liveState = .waitingInput → state.pairing.InputOpen)
    (environment : Environment) :
    Settles work state (state.reconcilePairingDeadline environment) := by
  unfold reconcilePairingDeadline
  split
  · exact .refl held
  split
  · rename_i closed
    have waits : state.pairing.liveState ≠ .waitingInput := fun waiting => by
      simp [waiting, (opened waiting).active] at closed
    refine ⟨⟨.refl, .inr rfl, rfl⟩, fun waiting => absurd waiting waits, fun live => ?_⟩
    rcases held live with attached | ⟨disabling, queued⟩
    · exact .attached ⟨attached.desired, attached.observed, attached.connected,
        attached.generation, attached.connectionHandle, attached.terminal,
        fun waiting => absurd waiting waits⟩
    · exact .disabling ⟨disabling.desired, disabling.observed, disabling.connected,
        disabling.operation, disabling.terminal⟩ queued
  split
  · exact .refl held
  · exact expirePairing_settles held ..

/-- A pairing that still waits after its deadline was looked at has time left. -/
theorem reconcilePairingDeadline_waiting (attached : Attached state)
    (opened : state.pairing.liveState = .waitingInput → state.pairing.InputOpen)
    (environment : Environment)
    (waiting : (state.reconcilePairingDeadline environment).pairing.liveState = .waitingInput) :
    state.reconcilePairingDeadline environment = state ∧ state.now < state.pairingDeadline := by
  have kept := (state.reconcilePairingDeadline_quiet environment).kept (by simp [waiting])
  have waited : state.pairing.liveState = .waitingInput := kept ▸ waiting
  have armed : state.pairingDeadline ≠ 0 := by
    obtain ⟨begun, _, _, _, _, deadline⟩ := attached.deadline waited
    exact deadline ▸ begun.deadline_ne_zero
  unfold reconcilePairingDeadline at waiting ⊢
  rw [if_neg armed] at waiting ⊢
  rw [if_neg (by simp [waited, (opened waited).active])] at waiting ⊢
  split
  · exact ⟨rfl, ‹_›⟩
  · rename_i late
    rw [if_neg late] at waiting
    have taken := StateMachine.timeout_self waited (opened waited)
    have closed : (state.closeInput (state.pairing.timeout state.pairing.generation
        state.pairing.connectionHandle state.pairing.pairingId).2).pairing.liveState = .idle :=
      StateMachine.timeout_taken taken
    simp only [expirePairing, taken, if_true] at waiting
    rw [(terminateSecurityConnection_quiet ..).idle closed] at waiting
    cases waiting

/-! ### BLE events and commands -/

theorem onLifecycle_refused {call : Program Words Bool}
    (refused : call.exec state.lifecycle = (false, state.lifecycle)) :
    state.onLifecycle call = (false, state) := by
  simp [onLifecycle, refused]

/-- A sync finds no pairing, or is refused. -/
theorem processSync_settles (held : Held work state) (environment : Environment)
    (event : BleEvent) : Settles work state (state.processSync environment event) := by
  by_cases idle : state.pairing.liveState = .idle
  · exact .of_idle (state.processSync_quiet ..) idle
  have same : state.processSync environment event = state := by
    rcases held idle with attached | ⟨disabling, _⟩
    · have refused : state.onLifecycle (completeSync event.generation) = (false, state) :=
        onLifecycle_refused (exec_completeSync_refused (by simp [attached.observed]))
      simp [processSync, current, Words.current, snapshotOf, attached.desired, refused]
    · simp [processSync, current, Words.current, snapshotOf, disabling.desired,
        disabling.observed]
  rw [same]
  exact .refl held

theorem processAdvertisingComplete_settles (held : Held work state) (environment : Environment)
    (event : BleEvent) :
    Settles work state (state.processAdvertisingComplete environment event) := by
  by_cases idle : state.pairing.liveState = .idle
  · exact .of_idle (state.processAdvertisingComplete_quiet ..) idle
  have connected : state.lifecycle.state.connected = true := by
    rcases held idle with attached | ⟨disabling, _⟩
    · exact attached.connected
    · exact disabling.connected
  have same : state.processAdvertisingComplete environment event = state := by
    simp [processAdvertisingComplete, current, Words.current, snapshotOf, connected]
  rw [same]
  exact .refl held

theorem processReset_settles (held : Held work state) (event : BleEvent) :
    Settles work state (state.processReset event) := by
  rcases state.processReset_taken event with same | taken
  · rw [same]
    exact .refl held
  · exact .ended_trans state.resetPairing_quiet rfl rfl taken

/-- A lifecycle timeout of another generation, while no disable is in progress. -/
theorem failBle_stale (held : Held work state) {expected : Generation}
    (stale : expected ≠ state.lifecycle.generation) (free : state.activeOperation ≠ .bleDisable)
    (operation : LifecycleOperation) (code : Int32) (owner : ControlOperation) :
    Settles work state (state.failBle expected operation code owner) := by
  by_cases idle : state.pairing.liveState = .idle
  · exact .of_idle (state.failBle_quiet ..) idle
  have refused : state.onLifecycle (BleLifecycle.completeFault expected operation code) =
      (false, state) := onLifecycle_refused (exec_completeFault_stale stale ..)
  have same : state.failBle expected operation code owner = state.releaseOperation owner := by
    simp [failBle, completeFault, refused]
  rw [same]
  refine .of_kept (state.releaseOperation_quiet _) rfl ?_
  rcases held idle with attached | ⟨disabling, _⟩
  · exact .attached ⟨attached.desired, attached.observed, attached.connected,
      attached.generation, attached.connectionHandle, attached.terminal, attached.deadline⟩
  · exact absurd disabling.operation free

theorem processSecurityEvent_settles (attached : state.pairing.liveState ≠ .idle → Attached state)
    (environment : Environment) (event : BleEvent) :
    Settles work state (state.processSecurityEvent environment event) := by
  have held : Held work state := fun live => .attached (attached live)
  unfold processSecurityEvent
  split
  · split
    · exact terminateSecurityConnection_settles attached ..
    · exact reconcileSecurity_settles attached ..
  · split
    · exact terminateSecurityConnection_settles attached ..
    · exact .untouched held rfl rfl rfl
  · exact reconcileSecurity_settles attached ..
  · exact terminateSecurityConnection_settles attached ..
  · exact terminateSecurityConnection_settles attached ..
  · exact .refl held

theorem releaseOperation_settles (held : Held work state) {operation : ControlOperation}
    (other : state.pairing.liveState ≠ .idle → state.activeOperation = .bleDisable →
      operation ≠ .bleDisable) :
    Settles work state (state.releaseOperation operation) := by
  by_cases idle : state.pairing.liveState = .idle
  · exact .of_idle (state.releaseOperation_quiet _) idle
  refine .of_kept (state.releaseOperation_quiet _) rfl ?_
  rcases held idle with attached | ⟨disabling, queued⟩
  · exact .attached ⟨attached.desired, attached.observed, attached.connected,
      attached.generation, attached.connectionHandle, attached.terminal, attached.deadline⟩
  · refine .disabling ⟨disabling.desired, disabling.observed, disabling.connected, ?_,
      disabling.terminal⟩ queued
    have another := other idle disabling.operation
    simp [releaseOperation, ControlOperation.release, disabling.operation, another.symm]

/-- An enable finds no pairing, or is no longer wanted. -/
theorem processEnable_settles (held : Held work state) (environment : Environment) :
    Settles work state (state.processEnable environment) := by
  by_cases idle : state.pairing.liveState = .idle
  · exact .of_idle (state.processEnable_quiet _) idle
  have observed : state.current.observed ≠ .enabling := by
    rcases held idle with attached | ⟨disabling, _⟩
    · simp [current, Words.current, snapshotOf, attached.observed]
    · simp [current, Words.current, snapshotOf, disabling.observed]
  rw [processEnable, if_pos (.inr (.inr observed))]
  refine releaseOperation_settles held fun _ _ => ?_
  decide

/-- The queued disable ends the pairing that it was begun over. -/
theorem processDisable_settles (held : Held (.bleDisable :: work) state)
    (environment : Environment) : Settles work state (state.processDisable environment) := by
  by_cases idle : state.pairing.liveState = .idle
  · exact .of_idle (state.processDisable_quiet _) idle
  rcases held idle with attached | ⟨disabling, _⟩
  · have unwanted : state.current.observed ≠ .disabling := by
      simp [current, Words.current, snapshotOf, attached.observed]
    rw [processDisable, if_pos (.inr (.inr unwanted))]
    refine .of_kept (state.releaseOperation_quiet _) rfl (.attached ?_)
    exact ⟨attached.desired, attached.observed, attached.connected, attached.generation,
      attached.connectionHandle, attached.terminal, attached.deadline⟩
  · exact .ended_trans state.disablePairing_quiet rfl rfl (state.processDisable_taken environment
      disabling.operation disabling.desired disabling.observed)

end State

end HidBot.BlePairing
