import Mathlib.Data.List.Induction
import HidBot.Ble.CommandOrder

/-!
# Runs of the BLE lifecycle

The operations of the state machine, each run without interference, and what holds
in every state that they reach. A connection that is being disabled keeps its handle;
two operations on it do not keep the handle in step, and runs without them are the
ones in which everything holds.
-/

namespace HidBot.BleLifecycle

open Interleaving

/-! ### What the calls do -/

section Calls

variable (words : Words) (expected : Generation)

theorem exec_beginEnable : beginEnable.exec words =
    if words.current.inTransition then ({}, words)
    else if words.state.desired = .exposed ∧
        (words.state.observed = .advertising ∨ words.state.observed = .connected) then
      (noOpOutcome words.current, words)
    else if words.state.desired ≠ .hidden ∨
        (words.state.observed ≠ .uninitialized ∧ words.state.observed ≠ .idle) then ({}, words)
    else
      let after := { words with
        generation := words.generation + 1, errorCode := 0, errorOperation := .runtime
        errorPresent := false, resetRecoveryUsed := false
        state := {
          desired := .exposed, observed := .enabling, stackReady := words.state.stackReady } }
      ({ actionResult := .accepted, snapshotValid := true, snapshot := after.current }, after) := by
  rw [beginEnable, exec_snapshot_bind, Program.exec_ite, Program.exec_ite, Program.exec_ite]
  rfl

theorem exec_beginDisable : beginDisable.exec words =
    if words.current.inTransition then ({}, words)
    else if words.state.desired = .hidden ∧
        (words.state.observed = .uninitialized ∨ words.state.observed = .idle) then
      (noOpOutcome words.current, words)
    else if words.state.desired ≠ .exposed then ({}, words)
    else
      let after := { words with
        generation := words.generation + 1, errorCode := 0, errorOperation := .runtime
        errorPresent := false
        state := { words.state with
          desired := .hidden, observed := .disabling, recoveryRequired := false } }
      ({ actionResult := .accepted, snapshotValid := true, snapshot := after.current }, after) := by
  rw [beginDisable, exec_snapshot_bind, Program.exec_ite, Program.exec_ite, Program.exec_ite]
  rfl

theorem exec_beginHiddenRestart : beginHiddenRestart.exec words =
    if words.state.desired ≠ .hidden ∨ words.state.observed ≠ .idle ∨ !words.state.stackReady ∨
        words.state.connected ∨ words.state.advertising ∨ words.state.recoveryRequired ∨
        words.generation = 0xffffffff then (false, words)
    else (true, { words with
      generation := words.generation + 1, errorCode := 0, errorOperation := .runtime
      errorPresent := false, state := { desired := .hidden, observed := .disabling } }) := by
  rw [beginHiddenRestart, exec_snapshot_bind, Program.exec_ite]
  rfl

theorem exec_beginHiddenInitialization : (beginHiddenInitialization expected).exec words =
    if words.generation ≠ expected ∨ words.state.recoveryRequired ∨
        words.state.desired ≠ .hidden ∨ words.state.observed ≠ .disabling then (false, words)
    else (true, { words with
      resetRecoveryUsed := false, state := { desired := .hidden, observed := .enabling } }) := by
  rw [beginHiddenInitialization, exec_snapshot_bind, Program.exec_ite]
  rfl

theorem exec_completeHiddenSync : (completeHiddenSync expected).exec words =
    if words.generation ≠ expected ∨ words.state.recoveryRequired ∨
        words.state.desired ≠ .hidden then (false, words)
    else if words.state.observed ≠ .enabling ∧
        ¬(words.state.observed = .idle ∧ words.resetRecoveryUsed) then (false, words)
    else (true, { words with
      state := { desired := .hidden, observed := .idle, stackReady := true } }) := by
  rw [completeHiddenSync, exec_snapshot_bind, Program.exec_ite]
  by_cases refused : words.generation ≠ expected ∨ words.state.recoveryRequired ∨
      words.state.desired ≠ .hidden
  · exact (if_pos refused).trans (if_pos refused).symm
  refine (if_neg refused).trans ?_
  rw [if_neg refused, Program.exec_ite]
  by_cases enabling : words.state.observed ≠ .enabling
  · refine (if_pos enabling).trans ?_
    rw [Program.exec_ite]
    by_cases idle : words.state.observed ≠ .idle
    · exact (if_pos idle).trans (if_pos ⟨enabling, fun both => idle both.1⟩).symm
    refine (if_neg idle).trans ?_
    have idle := not_not.mp idle
    rw [Program.exec_read_bind]
    cases used : words.resetRecoveryUsed <;> simp [idle, publish, used]
  · exact (if_neg enabling).trans (if_neg fun settled => enabling settled.1).symm

theorem exec_completeSync : (completeSync expected).exec words =
    if expected ≠ words.generation ∨ words.state.desired ≠ .exposed ∨
        words.state.observed ≠ .enabling then (false, words)
    else (true, { words with state := {
      desired := words.state.desired, observed := words.state.observed,
      stackReady := true } }) := by
  rw [completeSync, exec_snapshot_bind, Program.exec_ite]
  rfl

theorem exec_completeAdvertising : (completeAdvertising expected).exec words =
    if expected ≠ words.generation ∨ words.state.desired ≠ .exposed ∨
        (words.state.observed ≠ .enabling ∧ words.state.observed ≠ .advertising) then (false, words)
    else (true, { words with state := {
      desired := words.state.desired, observed := .advertising, stackReady := true
      advertising := true } }) := by
  rw [completeAdvertising, exec_snapshot_bind, Program.exec_ite]
  rfl

theorem exec_observeConnect (handle : ConnectionHandle) :
    (observeConnect expected handle).exec words =
    if expected ≠ words.generation ∨ words.state.desired ≠ .exposed ∨
        words.state.observed ≠ .advertising then (false, words)
    else (true, { words with
      connectionHandle := handle
      state := {
        desired := words.state.desired, observed := .connected, stackReady := true
        connected := true } }) := by
  rw [observeConnect, exec_snapshot_bind, Program.exec_ite]
  rfl

theorem exec_observeDisconnect (handle : ConnectionHandle) (expectedLoss : Bool) :
    (observeDisconnect expected handle expectedLoss).exec words =
    if expected ≠ words.generation ∨ words.connectionHandle ≠ handle then (false, words)
    else if expectedLoss ∧ words.state.desired = .hidden ∧ words.state.observed = .disabling then
      (true, { words with connectionHandle := noConnection })
    else if words.state.desired ≠ .exposed ∨ words.state.observed ≠ .connected then
      (false, { words with connectionHandle := noConnection })
    else (true, { words with
      generation := words.generation + 1, connectionHandle := noConnection
      state := {
        desired := words.state.desired, observed := .enabling, stackReady := true } }) := by
  rw [observeDisconnect, exec_snapshot_bind, Program.exec_ite]
  by_cases stale : expected ≠ words.generation
  · exact (if_pos stale).trans (if_pos (.inl stale)).symm
  refine (if_neg stale).trans ?_
  rw [Program.exec_read_bind, Program.exec_ite]
  by_cases other : words.connectionHandle ≠ handle
  · exact (if_pos other).trans (if_pos (.inr other)).symm
  refine (if_neg other).trans ?_
  rw [if_neg (not_or.mpr ⟨stale, other⟩), storeConnectionHandle, Program.exec_write_bind,
    Program.exec_ite, Program.exec_ite]
  rfl

theorem exec_completeDisable : (completeDisable expected).exec words =
    if expected ≠ words.generation ∨ words.state.desired ≠ .hidden ∨
        words.state.observed ≠ .disabling then (false, words)
    else (true, { words with
      connectionHandle := noConnection
      state := { desired := words.state.desired, observed := .idle
                 stackReady := words.state.stackReady } }) := by
  rw [completeDisable, exec_snapshot_bind, Program.exec_ite]
  rfl

theorem exec_beginResetRecovery (reason : Int32) :
    (beginResetRecovery expected reason).exec words =
    if expected ≠ words.generation ∨ words.state.recoveryRequired ∨
        words.state.observed = .fault then (false, words)
    else
      let after := { words with
        generation := words.generation + 1, connectionHandle := noConnection
        errorCode := reason, errorOperation := .runtime, errorPresent := true
        resetRecoveryUsed := true }
      if words.resetRecoveryUsed then (false, { after with state := {
        desired := words.state.desired, observed := .fault, recoveryRequired := true } })
      else (true, { after with state := {
        desired := words.state.desired
        observed := if words.state.desired = .exposed then .enabling else .idle } }) := by
  rw [beginResetRecovery, exec_snapshot_bind, Program.exec_ite]
  cases used : words.resetRecoveryUsed <;>
    simp [Words.current, snapshotOf, storeConnectionHandle, advanceGeneration, setError, publish,
      Program.exec_bind, used]
  rfl

theorem exec_completeFault (operation : LifecycleOperation) (code : Int32) :
    (completeFault expected operation code).exec words =
    if expected ≠ words.generation then (false, words)
    else (true, { words with
      connectionHandle := noConnection
      errorCode := code, errorOperation := operation, errorPresent := true
      state := {
        desired := words.state.desired, observed := .fault, stackReady := words.state.stackReady
        recoveryRequired := true } }) := by
  rw [completeFault, exec_snapshot_bind, Program.exec_ite]
  rfl

end Calls

/-! ### Operations -/

namespace Operation

/-- Whether the operation is accepted, and the words after it. -/
def apply (words : Words) : Operation → Bool × Words
  | beginEnable =>
      ((BleLifecycle.beginEnable.exec words).1.actionResult == .accepted,
        (BleLifecycle.beginEnable.exec words).2)
  | beginDisable =>
      ((BleLifecycle.beginDisable.exec words).1.actionResult == .accepted,
        (BleLifecycle.beginDisable.exec words).2)
  | beginHiddenRestart => BleLifecycle.beginHiddenRestart.exec words
  | beginHiddenInitialization expected =>
      (BleLifecycle.beginHiddenInitialization expected).exec words
  | completeHiddenSync expected => (BleLifecycle.completeHiddenSync expected).exec words
  | completeSync expected => (BleLifecycle.completeSync expected).exec words
  | completeAdvertising expected => (BleLifecycle.completeAdvertising expected).exec words
  | observeConnect expected handle => (BleLifecycle.observeConnect expected handle).exec words
  | observeDisconnect expected handle expectedLoss =>
      (BleLifecycle.observeDisconnect expected handle expectedLoss).exec words
  | completeDisable expected => (BleLifecycle.completeDisable expected).exec words
  | beginResetRecovery expected reason =>
      (BleLifecycle.beginResetRecovery expected reason).exec words
  | completeFault expected operation code =>
      (BleLifecycle.completeFault expected operation code).exec words

/-- The operation loses the handle of a connection that is being disabled: it starts
the next stack over it, or refuses its disconnect as an unexpected one. -/
def Loses (words : Words) : Operation → Prop
  | beginHiddenInitialization expected =>
      expected = words.generation ∧ words.state.observed = .disabling ∧
        words.connectionHandle ≠ noConnection
  | observeDisconnect expected handle expectedLoss =>
      expected = words.generation ∧ words.state.observed = .disabling ∧
        words.connectionHandle ≠ noConnection ∧ handle = words.connectionHandle ∧
        expectedLoss = false
  | _ => False

end Operation

/-- The words after these operations on a constructed state machine. -/
def run (history : List Operation) : Words :=
  history.foldl (fun words operation => (operation.apply words).2) {}

theorem run_concat (history : List Operation) (operation : Operation) :
    run (history ++ [operation]) = (operation.apply (run history)).2 := by
  simp [run]

/-! ### Consistent words -/

/-- What the words keep between the operations. -/
structure Words.Consistent (words : Words) : Prop where
  recovery : words.state.recoveryRequired = true ↔ words.state.observed = .fault
  advertising : words.state.advertising = true →
    words.state.observed = .advertising ∨ words.state.observed = .disabling
  connected : words.state.connected = true →
    words.state.observed = .connected ∨ words.state.observed = .disabling
  exclusive : ¬(words.state.advertising = true ∧ words.state.connected = true)
  exposed : words.state.desired = .exposed →
    words.state.observed = .enabling ∨ words.state.observed = .advertising ∨
      words.state.observed = .connected ∨ words.state.observed = .fault
  hidden : words.state.desired = .hidden →
    words.state.observed = .uninitialized ∨ words.state.observed = .enabling ∨
      words.state.observed = .idle ∨ words.state.observed = .disabling ∨
      words.state.observed = .fault
  handle : words.state.connected = false → words.connectionHandle = noConnection

variable {words : Words}

theorem Words.Consistent.unconnected (consistent : words.Consistent)
    (settled : words.state.observed ≠ .connected) (steady : words.state.observed ≠ .disabling) :
    words.connectionHandle = noConnection := by
  apply consistent.handle
  cases connected : words.state.connected
  · rfl
  · exact absurd (consistent.connected connected) (not_or.mpr ⟨settled, steady⟩)

/-- A handle that is set is that of a connection, or of one that is being disabled. -/
theorem Words.Consistent.held (consistent : words.Consistent)
    (set : words.connectionHandle ≠ noConnection) :
    (words.state.desired = .exposed ∧ words.state.observed = .connected) ∨
      (words.state.desired = .hidden ∧ words.state.observed = .disabling) := by
  have connected : words.state.connected = true := by
    by_contra unset
    exact set (consistent.handle (by simpa using unset))
  cases desired : words.state.desired with
  | exposed =>
      have observed := consistent.exposed desired
      rcases consistent.connected connected with same | same <;> simp [same] at observed ⊢
  | hidden =>
      have observed := consistent.hidden desired
      rcases consistent.connected connected with same | same <;> simp [same] at observed ⊢

/-- Words without a connection, in a state that its exposure allows. -/
theorem Words.Consistent.of_plain (recovery : words.state.recoveryRequired = true ↔
      words.state.observed = .fault)
    (advertising : words.state.advertising = true → words.state.observed = .advertising)
    (connected : words.state.connected = false)
    (exposed : words.state.desired = .exposed → words.state.observed = .enabling ∨
      words.state.observed = .advertising ∨ words.state.observed = .fault)
    (hidden : words.state.desired = .hidden → words.state.observed = .enabling ∨
      words.state.observed = .idle ∨ words.state.observed = .disabling ∨
      words.state.observed = .fault)
    (handle : words.connectionHandle = noConnection) : words.Consistent where
  recovery := recovery
  advertising := fun set => .inl (advertising set)
  connected := fun set => by simp [connected] at set
  exclusive := fun both => by simp [connected] at both
  exposed := fun exposure => (exposed exposure).imp_right (Or.imp_right .inr)
  hidden := fun exposure => .inr (hidden exposure)
  handle := fun _ => handle

theorem apply_consistent (consistent : words.Consistent) {operation : Operation}
    (kept : ¬operation.Loses words) : (operation.apply words).2.Consistent := by
  cases operation with
  | beginEnable =>
      rw [Operation.apply, exec_beginEnable]
      split
      · exact consistent
      split
      · exact consistent
      split
      · exact consistent
      rename_i started
      obtain ⟨_, idle⟩ := not_or.mp started
      have settled : words.state.observed ≠ .connected ∧ words.state.observed ≠ .disabling := by
        constructor <;> rintro same <;> simp [same] at idle
      exact .of_plain (by simp) nofun rfl (fun _ => .inl rfl) nofun
        (consistent.unconnected settled.1 settled.2)
  | beginDisable =>
      rw [Operation.apply, exec_beginDisable]
      split
      · exact consistent
      split
      · exact consistent
      split
      · exact consistent
      exact ⟨by simp, fun _ => .inr rfl, fun _ => .inr rfl, consistent.exclusive, nofun,
        fun _ => .inr (.inr (.inr (.inl rfl))), consistent.handle⟩
  | beginHiddenRestart =>
      rw [Operation.apply, exec_beginHiddenRestart]
      split
      · exact consistent
      rename_i started
      have idle : words.state.observed = .idle := by
        by_contra other
        exact started (.inr (.inl other))
      exact .of_plain (by simp) nofun rfl nofun (fun _ => .inr (.inr (.inl rfl)))
        (consistent.unconnected (by simp [idle]) (by simp [idle]))
  | beginHiddenInitialization expected =>
      rw [Operation.apply, exec_beginHiddenInitialization]
      split
      · exact consistent
      rename_i started
      obtain ⟨current, _, _, disabling⟩ := by simpa [not_or] using started
      have handle : words.connectionHandle = noConnection := by
        by_contra set
        exact kept ⟨current.symm, disabling, set⟩
      exact .of_plain (by simp) nofun rfl nofun (fun _ => .inl rfl) handle
  | completeHiddenSync expected =>
      rw [Operation.apply, exec_completeHiddenSync]
      split
      · exact consistent
      split
      · exact consistent
      rename_i started
      have settled : words.state.observed ≠ .connected ∧ words.state.observed ≠ .disabling := by
        constructor <;> rintro same <;> simp [same] at started
      exact .of_plain (by simp) nofun rfl nofun (fun _ => .inr (.inl rfl))
        (consistent.unconnected settled.1 settled.2)
  | completeSync expected =>
      rw [Operation.apply, exec_completeSync]
      split
      · exact consistent
      rename_i synced
      obtain ⟨_, exposed, enabling⟩ := by simpa [not_or] using synced
      exact .of_plain (by simp [enabling]) nofun rfl (fun _ => .inl enabling)
        (fun _ => .inl enabling) (consistent.unconnected (by simp [enabling]) (by simp [enabling]))
  | completeAdvertising expected =>
      rw [Operation.apply, exec_completeAdvertising]
      split
      · exact consistent
      rename_i started
      have settled : words.state.observed ≠ .connected ∧ words.state.observed ≠ .disabling := by
        constructor <;> rintro same <;> simp [same] at started
      obtain ⟨_, exposed, _⟩ := by simpa [not_or] using started
      exact .of_plain (by simp) (fun _ => rfl) rfl (fun _ => .inr (.inl rfl))
        (fun hidden => by simp [exposed] at hidden) (consistent.unconnected settled.1 settled.2)
  | observeConnect expected handle =>
      rw [Operation.apply, exec_observeConnect]
      split
      · exact consistent
      rename_i observed
      obtain ⟨_, exposed, _⟩ := by simpa [not_or] using observed
      exact ⟨by simp, nofun, fun _ => .inl rfl, by simp, fun _ => .inr (.inr (.inl rfl)),
        fun hidden => by simp [exposed] at hidden, nofun⟩
  | observeDisconnect expected handle expectedLoss =>
      rw [Operation.apply, exec_observeDisconnect]
      split
      · exact consistent
      have cleared : ({ words with connectionHandle := noConnection } : Words).Consistent :=
        { consistent with handle := fun _ => rfl }
      split
      · exact cleared
      split
      · exact cleared
      rename_i observed
      obtain ⟨exposed, _⟩ := by simpa [not_or] using observed
      exact .of_plain (by simp) nofun rfl (fun _ => .inl rfl) (fun _ => .inl rfl) rfl
  | completeDisable expected =>
      rw [Operation.apply, exec_completeDisable]
      split
      · exact consistent
      rename_i disabled
      obtain ⟨_, hidden, _⟩ := by simpa [not_or] using disabled
      exact .of_plain (by simp) nofun rfl (fun exposed => by simp [hidden] at exposed)
        (fun _ => .inr (.inl rfl)) rfl
  | beginResetRecovery expected reason =>
      rw [Operation.apply, exec_beginResetRecovery]
      split
      · exact consistent
      dsimp only
      split
      · exact .of_plain (by simp) nofun rfl (fun _ => .inr (.inr rfl))
          (fun _ => .inr (.inr (.inr rfl))) rfl
      · refine .of_plain ?_ nofun rfl (fun exposed => .inl (if_pos exposed)) (fun hidden => ?_) rfl
        · dsimp only
          split <;> simp
        · refine .inr (.inl (if_neg fun exposed => ?_))
          rw [exposed] at hidden
          cases hidden
  | completeFault expected operation code =>
      rw [Operation.apply, exec_completeFault]
      split
      · exact consistent
      exact .of_plain (by simp) nofun rfl (fun _ => .inr (.inr rfl))
        (fun _ => .inr (.inr (.inr rfl))) rfl

/-! ### Refusals -/

theorem apply_stale {operation : Operation} {expected : Generation}
    (given : operation.expected = some expected) (stale : expected ≠ words.generation) :
    operation.apply words = (false, words) := by
  cases operation <;> cases given
  case beginHiddenInitialization | completeHiddenSync =>
      first
      | exact (exec_beginHiddenInitialization ..).trans (if_pos (.inl stale.symm))
      | exact (exec_completeHiddenSync ..).trans (if_pos (.inl stale.symm))
  case completeSync => exact (exec_completeSync ..).trans (if_pos (.inl stale))
  case completeAdvertising => exact (exec_completeAdvertising ..).trans (if_pos (.inl stale))
  case observeConnect => exact (exec_observeConnect ..).trans (if_pos (.inl stale))
  case observeDisconnect => exact (exec_observeDisconnect ..).trans (if_pos (.inl stale))
  case completeDisable => exact (exec_completeDisable ..).trans (if_pos (.inl stale))
  case beginResetRecovery => exact (exec_beginResetRecovery ..).trans (if_pos (.inl stale))
  case completeFault => exact (exec_completeFault ..).trans (if_pos stale)

theorem refused_guard {guard : Prop} [Decidable guard] {after : Words}
    (refused : (if guard then (false, words) else (true, after)).1 = false) :
    (if guard then (false, words) else (true, after)).2 = words := by
  split
  · rfl
  · rw [if_neg ‹_›] at refused
    cases refused

/-- A refused operation other than a reset recovery leaves the words as they were. -/
theorem apply_refused (consistent : words.Consistent) {operation : Operation}
    (kept : ¬operation.Loses words)
    (other : ∀ expected reason, operation ≠ .beginResetRecovery expected reason)
    (refused : (operation.apply words).1 = false) : (operation.apply words).2 = words := by
  cases operation with
  | beginEnable =>
      rw [Operation.apply, exec_beginEnable] at refused ⊢
      split <;> try rfl
      split <;> try rfl
      split <;> try rfl
      simp [*] at refused
  | beginDisable =>
      rw [Operation.apply, exec_beginDisable] at refused ⊢
      split <;> try rfl
      split <;> try rfl
      split <;> try rfl
      simp [*] at refused
  | beginHiddenRestart =>
      rw [Operation.apply, exec_beginHiddenRestart] at refused ⊢
      exact refused_guard refused
  | beginHiddenInitialization expected =>
      rw [Operation.apply, exec_beginHiddenInitialization] at refused ⊢
      exact refused_guard refused
  | completeHiddenSync expected =>
      rw [Operation.apply, exec_completeHiddenSync] at refused ⊢
      split
      · rfl
      · rw [if_neg ‹_›] at refused
        exact refused_guard refused
  | completeSync expected =>
      rw [Operation.apply, exec_completeSync] at refused ⊢
      exact refused_guard refused
  | completeAdvertising expected =>
      rw [Operation.apply, exec_completeAdvertising] at refused ⊢
      exact refused_guard refused
  | observeConnect expected handle =>
      rw [Operation.apply, exec_observeConnect] at refused ⊢
      exact refused_guard refused
  | observeDisconnect expected handle expectedLoss =>
      rw [Operation.apply, exec_observeDisconnect] at refused ⊢
      by_cases elsewhere : expected ≠ words.generation ∨ words.connectionHandle ≠ handle
      · rw [if_pos elsewhere]
      rw [if_neg elsewhere] at refused ⊢
      obtain ⟨current, same⟩ := by simpa [not_or] using elsewhere
      by_cases lost : expectedLoss ∧ words.state.desired = .hidden ∧
          words.state.observed = .disabling
      · rw [if_pos lost] at refused
        cases refused
      rw [if_neg lost] at refused ⊢
      by_cases settled : words.state.desired ≠ .exposed ∨ words.state.observed ≠ .connected
      · rw [if_pos settled]
        -- the handle of a connection would be one that is being disabled
        have gone : words.connectionHandle = noConnection := by
          by_contra set
          rcases consistent.held set with ⟨exposed, connected⟩ | ⟨hidden, disabling⟩
          · exact settled.elim (absurd exposed) (absurd connected)
          · have unexpected : expectedLoss = false := by
              by_contra loss
              exact lost ⟨by simpa using loss, hidden, disabling⟩
            exact kept ⟨current, disabling, set, same.symm, unexpected⟩
        rw [← gone]
      · rw [if_neg settled] at refused
        cases refused
  | completeDisable expected =>
      rw [Operation.apply, exec_completeDisable] at refused ⊢
      exact refused_guard refused
  | beginResetRecovery expected reason => exact absurd rfl (other expected reason)
  | completeFault expected operation code =>
      rw [Operation.apply, exec_completeFault] at refused ⊢
      exact refused_guard refused

/-! ### Reset recovery -/

/-- The operations that allow a reset recovery again. -/
def Operation.Restarts : Operation → Prop
  | .beginEnable | .beginHiddenInitialization _ => True
  | _ => False

/-- An accepted reset recovery is the first since the last restart, and marks that it was. -/
theorem beginResetRecovery_accepted {expected : Generation} {reason : Int32}
    (accepted : ((Operation.beginResetRecovery expected reason).apply words).1 = true) :
    words.resetRecoveryUsed = false ∧
      ((Operation.beginResetRecovery expected reason).apply words).2.resetRecoveryUsed = true := by
  rw [Operation.apply, exec_beginResetRecovery] at accepted ⊢
  split at accepted
  · cases accepted
  rw [if_neg ‹_›]
  dsimp only at accepted ⊢
  split at accepted
  · cases accepted
  rw [if_neg ‹_›]
  exact ⟨eq_false_of_ne_true ‹_›, rfl⟩

/-- The mark stays unless a restart is accepted. -/
theorem apply_resetRecoveryUsed (used : words.resetRecoveryUsed = true) (operation : Operation) :
    (operation.apply words).2.resetRecoveryUsed = true ∨
      operation.Restarts ∧ (operation.apply words).1 = true := by
  cases operation with
  | beginEnable =>
      rw [Operation.apply, exec_beginEnable]
      split
      · exact .inl used
      split
      · exact .inl used
      split
      · exact .inl used
      · exact .inr ⟨trivial, rfl⟩
  | beginHiddenInitialization expected =>
      rw [Operation.apply, exec_beginHiddenInitialization]
      split
      · exact .inl used
      · exact .inr ⟨trivial, rfl⟩
  | beginDisable =>
      rw [Operation.apply, exec_beginDisable]
      left
      split <;> try exact used
      split <;> try exact used
      split <;> exact used
  | beginHiddenRestart =>
      rw [Operation.apply, exec_beginHiddenRestart]
      left
      split <;> exact used
  | completeHiddenSync expected =>
      rw [Operation.apply, exec_completeHiddenSync]
      left
      split <;> try exact used
      split <;> exact used
  | completeSync expected =>
      rw [Operation.apply, exec_completeSync]
      left
      split <;> exact used
  | completeAdvertising expected =>
      rw [Operation.apply, exec_completeAdvertising]
      left
      split <;> exact used
  | observeConnect expected handle =>
      rw [Operation.apply, exec_observeConnect]
      left
      split <;> exact used
  | observeDisconnect expected handle expectedLoss =>
      rw [Operation.apply, exec_observeDisconnect]
      left
      split <;> try exact used
      split <;> try exact used
      split <;> exact used
  | completeDisable expected =>
      rw [Operation.apply, exec_completeDisable]
      left
      split <;> exact used
  | beginResetRecovery expected reason =>
      rw [Operation.apply, exec_beginResetRecovery]
      left
      split
      · exact used
      · rfl
  | completeFault expected operation code =>
      rw [Operation.apply, exec_completeFault]
      left
      split <;> exact used

/-- An accepted restart among these operations, which follow the earlier ones. -/
def Restarted (earlier later : List Operation) : Prop :=
  ∃ before restart after, later = before ++ restart :: after ∧ restart.Restarts ∧
    (restart.apply (run (earlier ++ before))).1 = true

theorem run_resetRecoveryUsed {earlier : List Operation}
    (used : (run earlier).resetRecoveryUsed = true) (later : List Operation) :
    (run (earlier ++ later)).resetRecoveryUsed = true ∨ Restarted earlier later := by
  induction later using List.reverseRecOn with
  | nil => exact .inl (by simpa using used)
  | append_singleton later operation ih =>
      rcases ih with still | ⟨before, restart, after, rfl, restarts, accepted⟩
      · rw [← List.append_assoc, run_concat]
        refine (apply_resetRecoveryUsed still operation).imp_right fun restarted => ?_
        exact ⟨later, operation, [], rfl, restarted⟩
      · exact .inr ⟨before, restart, after ++ [operation], by simp, restarts, accepted⟩

/-! ### Every run -/

/-- What the next operation of a run does. -/
structure Sound (history : List Operation) (operation : Operation) : Prop where
  consistent : (run history).Consistent
  stale : ∀ expected, operation.expected = some expected →
    expected ≠ (run history).generation → run (history ++ [operation]) = run history
  refused : (∀ expected reason, operation ≠ .beginResetRecovery expected reason) →
    (operation.apply (run history)).1 = false →
      (run (history ++ [operation])).state = (run history).state ∧
      (run (history ++ [operation])).generation = (run history).generation ∧
      (run (history ++ [operation])).connectionHandle = (run history).connectionHandle
  once : ∀ earlier expected reason later expected' reason',
    history = earlier ++ .beginResetRecovery expected reason :: later →
      operation = .beginResetRecovery expected' reason' →
      ((Operation.beginResetRecovery expected reason).apply (run earlier)).1 = true →
      (operation.apply (run history)).1 = true →
        Restarted (earlier ++ [.beginResetRecovery expected reason]) later

/-- No operation of the run loses the handle of a connection that is being disabled. -/
def KeepsFrom (words : Words) : List Operation → Prop
  | [] => True
  | operation :: later => ¬operation.Loses words ∧ KeepsFrom (operation.apply words).2 later

instance (words : Words) (operation : Operation) : Decidable (operation.Loses words) := by
  unfold Operation.Loses
  split <;> infer_instance

instance : (words : Words) → (history : List Operation) → Decidable (KeepsFrom words history)
  | _, [] => inferInstanceAs (Decidable True)
  | words, operation :: later =>
      have := instDecidableKeepsFrom (operation.apply words).2 later
      inferInstanceAs (Decidable (_ ∧ _))

theorem KeepsFrom.concat {history : List Operation} {operation : Operation}
    (keeps : KeepsFrom words (history ++ [operation])) :
    KeepsFrom words history ∧
      ¬operation.Loses
        (history.foldl (fun words operation => (operation.apply words).2) words) := by
  induction history generalizing words with
  | nil => exact ⟨trivial, keeps.1⟩
  | cons first history ih => exact ⟨⟨keeps.1, (ih keeps.2).1⟩, (ih keeps.2).2⟩

theorem initial_consistent : ({} : Words).Consistent :=
  ⟨by simp, nofun, nofun, by simp, nofun, fun _ => .inl rfl, fun _ => rfl⟩

theorem KeepsFrom.consistent {history : List Operation} (keeps : KeepsFrom {} history) :
    (run history).Consistent := by
  induction history using List.reverseRecOn with
  | nil => exact initial_consistent
  | append_singleton history operation ih =>
      rw [run_concat]
      exact apply_consistent (ih keeps.concat.1) keeps.concat.2

theorem ble_lifecycle_invariant {history : List Operation} {operation : Operation}
    (keeps : KeepsFrom {} (history ++ [operation])) : Sound history operation := by
  have consistent := keeps.concat.1.consistent
  refine ⟨consistent, fun expected given stale => ?_, fun other refused => ?_, ?_⟩
  · rw [run_concat, apply_stale given stale]
  · have same := apply_refused consistent keeps.concat.2 other refused
    rw [run_concat, same]
    exact ⟨rfl, rfl, rfl⟩
  · rintro earlier expected reason later expected' reason' rfl rfl before now
    have marked : (run (earlier ++ [.beginResetRecovery expected reason])).resetRecoveryUsed =
        true := by
      rw [run_concat]
      exact (beginResetRecovery_accepted before).2
    refine (run_resetRecoveryUsed marked later).resolve_left fun used => ?_
    have unused := (beginResetRecovery_accepted now).1
    rw [List.append_assoc, List.singleton_append] at used
    rw [used] at unused
    cases unused

def disablingSteps : List Operation := [
  .beginEnable, .completeSync 1, .completeAdvertising 1, .observeConnect 1 7, .beginDisable]

theorem ble_lifecycle_invariant_example :
    Sound disablingSteps (.observeDisconnect 2 7 true) :=
  ble_lifecycle_invariant (by decide)

/-- While a connection is being disabled, its disconnect is refused as an unexpected one
after it took the handle. -/
theorem ble_lifecycle_refused_disconnect : ¬∀ history operation, Sound history operation := by
  intro sound
  have kept := (sound disablingSteps (.observeDisconnect 2 7 false)).refused nofun (by decide)
  exact absurd kept.2.2 (by decide)

end HidBot.BleLifecycle
