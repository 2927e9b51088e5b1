import HidBot.Pairing.Executor

/-!
# What keeps a pairing

A live pairing belongs to the connection that the lifecycle is in, or a disable
that will end it is queued. Every block of the executor's work that begins no
pairing and answers none either keeps it there or ends it, and wipes the mailbox
when it ends a pairing that waits for input.
-/

namespace HidBot.BlePairing

open Interleaving BleLifecycle

/-! ### Blocks that begin, answer and fill nothing -/

/-- The part of the state that the pairing's ends leave alone. -/
structure Ledger where
  queue : List Action
  rpcPending : Token
  nextRpcToken : Token
  requester : Requester
  begun : List Begun
  injections : List Injection
  filledWaiting : Bool

def State.ledger (state : State) : Ledger where
  queue := state.queue
  rpcPending := state.rpcPending
  nextRpcToken := state.nextRpcToken
  requester := state.requester
  begun := state.begun
  injections := state.injections
  filledWaiting := state.filledWaiting

structure Quiet (state after : State) : Prop where
  pairing : state.pairing.KeptOrIdle after.pairing
  mailbox : after.mailbox = state.mailbox ∨ after.mailbox = .wiped
  ledger : after.ledger = state.ledger

namespace Quiet

variable {state middle after : State}

theorem refl : Quiet state state := ⟨.refl, .inl rfl, rfl⟩

theorem trans (first : Quiet state middle) (second : Quiet middle after) : Quiet state after := by
  refine ⟨first.pairing.trans second.pairing, ?_, second.ledger.trans first.ledger⟩
  rcases second.mailbox with same | wiped
  · exact same ▸ first.mailbox
  · exact .inr wiped

theorem queue (quiet : Quiet state after) : after.queue = state.queue :=
  congrArg Ledger.queue quiet.ledger

theorem rpcPending (quiet : Quiet state after) : after.rpcPending = state.rpcPending :=
  congrArg Ledger.rpcPending quiet.ledger

theorem requester (quiet : Quiet state after) : after.requester = state.requester :=
  congrArg Ledger.requester quiet.ledger

theorem begun (quiet : Quiet state after) : after.begun = state.begun :=
  congrArg Ledger.begun quiet.ledger

theorem injections (quiet : Quiet state after) : after.injections = state.injections :=
  congrArg Ledger.injections quiet.ledger

theorem filledWaiting (quiet : Quiet state after) : after.filledWaiting = state.filledWaiting :=
  congrArg Ledger.filledWaiting quiet.ledger

theorem idle (quiet : Quiet state after) (idle : state.pairing.liveState = .idle) :
    after.pairing.liveState = .idle := by
  rcases quiet.pairing.pairing with same | ended
  · rw [same, idle]
  · exact ended

/-- A pairing that waits afterwards waited before, and is the same. -/
theorem kept (quiet : Quiet state after) (live : after.pairing.liveState ≠ .idle) :
    after.pairing = state.pairing := by
  rcases quiet.pairing.pairing with same | ended
  · exact same
  · exact absurd ended live

end Quiet

namespace State

variable (state : State)

theorem onLifecycle_quiet {α : Type} (call : Program Words α) :
    Quiet state (state.onLifecycle call).2 := ⟨.refl, .inl rfl, rfl⟩

theorem releaseOperation_quiet (operation : ControlOperation) :
    Quiet state (state.releaseOperation operation) := ⟨.refl, .inl rfl, rfl⟩

theorem failBle_quiet (generation : Generation) (operation : LifecycleOperation) (code : Int32)
    (owner : ControlOperation) : Quiet state (state.failBle generation operation code owner) :=
  (state.onLifecycle_quiet _).trans (releaseOperation_quiet ..)

theorem failPairingClosed_quiet (result : LastResult) :
    Quiet state (state.failPairingClosed result) :=
  ⟨StateMachine.publishInactive_keptOrIdle .., .inr rfl, rfl⟩

theorem commitPersistentStoreFailure_quiet : Quiet state state.commitPersistentStoreFailure := by
  unfold commitPersistentStoreFailure
  split
  · exact .refl
  · refine .trans ?_ (failBle_quiet ..)
    exact ⟨StateMachine.publishInactive_keptOrIdle .., .inr rfl, rfl⟩

theorem failCurrentBleQueueOverflow_quiet : Quiet state state.failCurrentBleQueueOverflow :=
  (state.failPairingClosed_quiet _).trans (failBle_quiet ..)

theorem reconcileBleLifecycleHandoffFailure_quiet :
    Quiet state state.reconcileBleLifecycleHandoffFailure.2 := by
  unfold reconcileBleLifecycleHandoffFailure
  split
  · exact .refl
  split
  · exact .refl
  have failed : Quiet state (if state.persistentStoreFailureCommitted = true then state
      else state.failCurrentBleQueueOverflow) := by
    split
    · exact .refl
    · exact state.failCurrentBleQueueOverflow_quiet
  exact failed.trans ⟨.refl, .inl rfl, rfl⟩

theorem clearOverflow_quiet (authority : Generation) :
    Quiet state (state.clearOverflow authority) := by
  unfold clearOverflow
  split <;> exact ⟨.refl, .inl rfl, rfl⟩

theorem consumeBleOverflow_quiet : Quiet state state.consumeBleOverflow.2 := by
  unfold consumeBleOverflow
  dsimp only
  split
  · split
    · exact state.clearOverflow_quiet _
    · exact state.failCurrentBleQueueOverflow_quiet.trans (clearOverflow_quiet ..)
  · exact ⟨.refl, .inl rfl, rfl⟩

theorem driveBleDisable_quiet (environment : Environment) :
    Quiet state (state.driveBleDisable environment) := by
  have disarmed : Quiet state { state with disableDeadline := 0 } := ⟨.refl, .inl rfl, rfl⟩
  unfold driveBleDisable
  dsimp only
  split
  · exact disarmed
  split
  · exact .refl
  split
  · exact disarmed.trans (failBle_quiet ..)
  split
  · split
    · exact ⟨.refl, .inl rfl, rfl⟩
    · exact state.onLifecycle_quiet _
  · exact .refl

theorem readvertise_quiet (environment : Environment) :
    Quiet state (state.readvertise environment) := by
  unfold readvertise
  dsimp only
  split
  · exact .refl
  split
  · exact state.onLifecycle_quiet _
  · exact state.failBle_quiet ..

theorem losePairing_quiet (generation : Generation) (handle : ConnectionHandle) :
    Quiet state (state.losePairing generation handle) :=
  ⟨StateMachine.disconnect_keptOrIdle .., .inr rfl, rfl⟩

theorem reconcileBleDisconnect_quiet (environment : Environment) (generation : Generation)
    (handle : ConnectionHandle) (expected : Bool) :
    Quiet state (state.reconcileBleDisconnect environment generation handle expected) := by
  unfold reconcileBleDisconnect
  dsimp only
  split
  · have lost := (state.onLifecycle_quiet (observeDisconnect generation handle expected)).trans
      (losePairing_quiet _ generation handle)
    split
    · exact lost.trans (driveBleDisable_quiet ..)
    · exact lost.trans (readvertise_quiet ..)
  · exact state.onLifecycle_quiet _

theorem reconcileSecurityDisconnectAbsent_quiet (environment : Environment)
    (generation : Generation) (handle : ConnectionHandle) :
    Quiet state (state.reconcileSecurityDisconnectAbsent environment generation handle) := by
  unfold reconcileSecurityDisconnectAbsent
  dsimp only
  split
  · exact reconcileBleDisconnect_quiet ..
  · exact .refl

theorem commitPairingTerminal_quiet (result : LastResult) :
    Quiet state (state.commitPairingTerminal result) :=
  ⟨StateMachine.complete_keptOrIdle .., .inr rfl, rfl⟩

/-- A termination that is committed starts with the pairing half. -/
theorem terminateSecurityConnection_committed (connected : state.current.connected = true)
    (open_ : state.pairingTerminalCommitted = false) (environment : Environment)
    (result : LastResult) (fatal : Bool) :
    Quiet (state.commitPairingTerminal result)
      (state.terminateSecurityConnection environment result fatal) := by
  unfold terminateSecurityConnection
  dsimp only
  rw [if_neg (by simp [connected]), if_neg (by simp [open_])]
  split
  · exact failBle_quiet ..
  split
  · exact reconcileSecurityDisconnectAbsent_quiet ..
  split
  · exact failBle_quiet ..
  · exact .refl

theorem terminateSecurityConnection_quiet (environment : Environment) (result : LastResult)
    (fatal : Bool) : Quiet state (state.terminateSecurityConnection environment result fatal) := by
  by_cases connected : state.current.connected = true
  · by_cases committed : state.pairingTerminalCommitted = true
    · rw [terminateSecurityConnection, if_neg (by simp [connected]), if_pos committed]
      exact .refl
    · exact (state.commitPairingTerminal_quiet result).trans
        (terminateSecurityConnection_committed _ connected (eq_false_of_ne_true committed) ..)
  · rw [terminateSecurityConnection, if_pos (eq_false_of_ne_true connected)]
    exact .refl

theorem reconcileGattCache_quiet (environment : Environment) :
    Quiet state (state.reconcileGattCache environment) := by
  unfold reconcileGattCache
  split
  · exact .refl
  · exact state.terminateSecurityConnection_quiet ..
  · exact state.terminateSecurityConnection_quiet ..
  · exact state.commitPersistentStoreFailure_quiet

theorem succeedPairing_quiet : Quiet state state.succeedPairing :=
  ⟨StateMachine.complete_keptOrIdle .., .inr rfl, rfl⟩

theorem reconcileSecurity_quiet (environment : Environment) (handle : ConnectionHandle)
    (ready : Bool) : Quiet state (state.reconcileSecurity environment handle ready) := by
  unfold reconcileSecurity
  dsimp only
  split
  · exact .refl
  split
  · exact .refl
  split
  · exact state.succeedPairing_quiet.trans (reconcileGattCache_quiet ..)
  split
  · split
    · exact state.terminateSecurityConnection_quiet ..
    split
    · exact state.terminateSecurityConnection_quiet ..
    · exact .refl
  · exact .refl

theorem withPairing_quiet {pairing : StateMachine}
    (ended : state.pairing.KeptOrIdle pairing) : Quiet state (state.withPairing pairing) :=
  ⟨ended, .inl rfl, rfl⟩

theorem closeInput_quiet {pairing : StateMachine}
    (ended : state.pairing.KeptOrIdle pairing) : Quiet state (state.closeInput pairing) :=
  ⟨ended, .inr rfl, rfl⟩

theorem expirePairing_quiet (environment : Environment) (generation : Generation)
    (handle : ConnectionHandle) (id : PairingId) :
    Quiet state (state.expirePairing environment generation handle id) := by
  unfold expirePairing
  dsimp only
  split
  · exact (state.closeInput_quiet (StateMachine.timeout_keptOrIdle ..)).trans
      (terminateSecurityConnection_quiet ..)
  · exact .refl

theorem reconcilePairingDeadline_quiet (environment : Environment) :
    Quiet state (state.reconcilePairingDeadline environment) := by
  unfold reconcilePairingDeadline
  split
  · exact .refl
  split
  · exact ⟨.refl, .inr rfl, rfl⟩
  split
  · exact .refl
  · exact state.expirePairing_quiet ..

theorem reconcileBleFallbacks_quiet : Quiet state state.reconcileBleFallbacks.2 := by
  have committed : Quiet state (if state.persistentStoreFailureObserved = true then
      state.commitPersistentStoreFailure else state) := by
    split
    · exact state.commitPersistentStoreFailure_quiet
    · exact .refl
  exact (committed.trans (reconcileBleLifecycleHandoffFailure_quiet _)).trans
    (consumeBleOverflow_quiet _)

theorem processSync_quiet (environment : Environment) (event : BleEvent) :
    Quiet state (state.processSync environment event) := by
  have synced (refused : Bool) : Quiet state (if refused = true then (false, state)
      else state.onLifecycle (completeHiddenSync event.generation)).2 := by
    split
    · exact .refl
    · exact state.onLifecycle_quiet _
  have finished (outcome : Bool × State) (quiet : Quiet state outcome.2) :
      Quiet state (if outcome.1 = true then outcome.2
        else outcome.2.failBle event.generation .runtime (-10) state.activeOperation) := by
    split
    · exact quiet
    · exact quiet.trans (failBle_quiet ..)
  unfold processSync
  dsimp only
  split
  · split
    · exact finished _ (synced _)
    · exact .refl
  · split
    · exact state.onLifecycle_quiet _
    split
    · exact state.onLifecycle_quiet _
    split
    · exact ⟨.refl, .inl rfl, rfl⟩
    · exact (state.onLifecycle_quiet _).trans (failBle_quiet ..)

theorem processAdvertisingComplete_quiet (environment : Environment) (event : BleEvent) :
    Quiet state (state.processAdvertisingComplete environment event) := by
  unfold processAdvertisingComplete
  dsimp only
  split
  · exact .refl
  split
  · exact state.failBle_quiet ..
  · exact .refl

theorem resetPairing_quiet : Quiet state state.resetPairing :=
  ⟨StateMachine.publishInactive_keptOrIdle .., .inr rfl, rfl⟩

/-- A reset that is taken starts with the pairing half. -/
theorem processReset_taken (event : BleEvent) :
    state.processReset event = state ∨ Quiet state.resetPairing (state.processReset event) := by
  unfold processReset
  dsimp only
  split
  · exact .inl rfl
  split
  · exact .inr (onLifecycle_quiet ..)
  · exact .inr ((onLifecycle_quiet ..).trans (failBle_quiet ..))

theorem processSecurityEvent_quiet (environment : Environment) (event : BleEvent) :
    Quiet state (state.processSecurityEvent environment event) := by
  unfold processSecurityEvent
  split
  · split
    · exact state.terminateSecurityConnection_quiet ..
    · exact state.reconcileSecurity_quiet ..
  · split
    · exact state.terminateSecurityConnection_quiet ..
    · exact ⟨.refl, .inl rfl, rfl⟩
  · exact state.reconcileSecurity_quiet ..
  · exact state.terminateSecurityConnection_quiet ..
  · exact state.terminateSecurityConnection_quiet ..
  · exact .refl

theorem processEnable_quiet (environment : Environment) :
    Quiet state (state.processEnable environment) := by
  unfold processEnable
  dsimp only
  split
  · exact state.releaseOperation_quiet _
  split
  · split
    · exact state.failBle_quiet ..
    split
    · exact state.failBle_quiet ..
    · exact .refl
  split
  · exact .refl
  split
  · exact (state.onLifecycle_quiet _).trans (releaseOperation_quiet ..)
  · exact state.failBle_quiet ..

theorem disablePairing_quiet : Quiet state state.disablePairing :=
  ⟨StateMachine.publishInactive_keptOrIdle .., .inr rfl, rfl⟩

/-- A disable that is still wanted starts with the pairing half. -/
theorem processDisable_taken (environment : Environment)
    (operation : state.activeOperation = .bleDisable)
    (desired : state.lifecycle.state.desired = .hidden)
    (observed : state.lifecycle.state.observed = .disabling) :
    Quiet state.disablePairing (state.processDisable environment) := by
  have wanted : ¬(state.activeOperation ≠ .bleDisable ∨ state.current.desired ≠ .hidden ∨
      state.current.observed ≠ .disabling) := by
    simp [operation, current, Words.current, snapshotOf, desired, observed]
  unfold processDisable
  dsimp only
  rw [if_neg wanted]
  have armed (deadline : Nat) : Quiet state.disablePairing
      { state.disablePairing with disableDeadline := deadline } := ⟨.refl, .inl rfl, rfl⟩
  split
  · exact (armed _).trans (failBle_quiet ..)
  · exact (armed _).trans (driveBleDisable_quiet ..)

theorem processDisable_quiet (environment : Environment) :
    Quiet state (state.processDisable environment) := by
  by_cases wanted : state.activeOperation = .bleDisable ∧
      state.lifecycle.state.desired = .hidden ∧ state.lifecycle.state.observed = .disabling
  · exact state.disablePairing_quiet.trans
      (state.processDisable_taken _ wanted.1 wanted.2.1 wanted.2.2)
  · rw [processDisable, if_pos]
    · exact state.releaseOperation_quiet _
    · grind [current, Words.current, snapshotOf]

end State

/-! ### Where a live pairing is held -/

/-- The pairing is of the connection that the lifecycle is in, and waits for input
under the deadline that the input was begun with. -/
structure Attached (state : State) : Prop where
  desired : state.lifecycle.state.desired = .exposed
  observed : state.lifecycle.state.observed = .connected
  connected : state.lifecycle.state.connected = true
  generation : state.pairing.generation = state.lifecycle.generation
  connectionHandle : state.pairing.connectionHandle = state.lifecycle.connectionHandle
  terminal : state.pairingTerminalCommitted = false
  deadline : state.pairing.liveState = .waitingInput → ∃ begun ∈ state.begun,
    begun.pairingId = state.pairing.pairingId ∧ begun.generation = state.pairing.generation ∧
    begun.connectionHandle = state.pairing.connectionHandle ∧
    state.pairingDeadline = begun.deadline

/-- A disable was begun over the connection and holds the claim. -/
structure Disabling (state : State) : Prop where
  desired : state.lifecycle.state.desired = .hidden
  observed : state.lifecycle.state.observed = .disabling
  connected : state.lifecycle.state.connected = true
  operation : state.activeOperation = .bleDisable
  terminal : state.pairingTerminalCommitted = false

def Action.isRpc : Action → Bool
  | .pairingStatus _ | .pairingRespond _ => true
  | _ => false

/-- The disable is ahead of every pairing request in this work. -/
def DisableQueued (work : List Action) : Prop :=
  ∃ ahead behind, work = ahead ++ .bleDisable :: behind ∧ ∀ action ∈ ahead, action.isRpc = false

/-- Where a live pairing is held, while this work is left. -/
inductive Anchored (work : List Action) (state : State) : Prop
  | attached (attached : Attached state)
  | disabling (disabling : Disabling state) (queued : DisableQueued work)

/-- Every live pairing is held. -/
def Held (work : List Action) (state : State) : Prop :=
  state.pairing.liveState ≠ .idle → Anchored work state

/-- A quiet block that wipes the mailbox when it ends a pairing that waits for
input, and loses no pairing. -/
structure Settles (work : List Action) (state after : State) : Prop where
  quiet : Quiet state after
  wiped : state.pairing.liveState = .waitingInput → after.pairing.liveState ≠ .waitingInput →
    after.mailbox = .wiped
  held : Held work after

namespace Settles

variable {work : List Action} {state middle after : State}

theorem refl (held : Held work state) : Settles work state state :=
  ⟨.refl, fun waiting left => absurd waiting left, held⟩

theorem trans (first : Settles work state middle) (second : Settles work middle after) :
    Settles work state after := by
  refine ⟨first.quiet.trans second.quiet, fun waiting left => ?_, second.held⟩
  by_cases still : middle.pairing.liveState = .waitingInput
  · exact second.wiped still left
  · rcases second.quiet.mailbox with same | wiped
    · exact same.trans (first.wiped waiting still)
    · exact wiped

theorem of_idle (quiet : Quiet state after) (idle : state.pairing.liveState = .idle) :
    Settles work state after := by
  refine ⟨quiet, fun waiting => ?_, fun live => absurd (quiet.idle idle) live⟩
  simp [idle] at waiting

/-- The pairing is over and the mailbox is wiped. -/
theorem of_ended (quiet : Quiet state after) (idle : after.pairing.liveState = .idle)
    (wiped : after.mailbox = .wiped) : Settles work state after :=
  ⟨quiet, fun _ _ => wiped, fun live => absurd idle live⟩

/-- The pairing is left alone and still held. -/
theorem of_kept (quiet : Quiet state after) (kept : after.pairing = state.pairing)
    (anchored : Anchored work after) : Settles work state after := by
  refine ⟨quiet, fun waiting left => ?_, fun _ => anchored⟩
  exact absurd (kept ▸ waiting) left

/-- What follows the end of a pairing does not matter. -/
theorem ended_trans (first : Quiet state middle) (idle : middle.pairing.liveState = .idle)
    (wiped : middle.mailbox = .wiped) (second : Quiet middle after) :
    Settles work state after := by
  refine of_ended (first.trans second) (second.idle idle) ?_
  rcases second.mailbox with same | again
  · exact same.trans wiped
  · exact again

end Settles

end HidBot.BlePairing
