import HidBot.Ble.RouteLoss
import HidBot.Interleaving.Run

/-!
# Boot-lifetime BLE faults

A failure of the persistent store and a failed handoff from the BLE host are
committed once, by publishing a fault over whatever the lifecycle is in. The
control task may be inside a lifecycle command meanwhile. The executor's work is
cut into the calls that `process` and `task_loop` make one after the other.
-/

namespace HidBot.BleControl

open Interleaving BleLifecycle

/-- The lifecycle words after a fault was published. -/
structure Faulted (words : Words) : Prop where
  observed : words.state.observed = .fault
  recovery : words.state.recoveryRequired = true
  advertising : words.state.advertising = false
  connected : words.state.connected = false

namespace Fatal

inductive Task where
  | control
  | executor
  | host (id : Nat)
  deriving DecidableEq, Repr

inductive Operation where
  -- The control task: a request claims, begins and then queues, gives up or releases.
  | claimOperation (operation : ControlOperation)
  | beginEnable
  | beginDisable
  | beginHiddenRestart
  | storeIncarnation (incarnation : StackIncarnation)
  | enqueue (room : Bool) (action : Action)
  | giveUp (expected : Generation) (kind : LifecycleOperation)
  | releaseOperation (operation : ControlOperation)
  -- The executor.
  | dequeue
  | reconcileBleFallbacks (turns : Nat)
  | act (environment : Environment) (suppressed : Bool) (action : Action)
  | clearProcessed (cleared : Option Generation)
  | driveWatchdogs (environment : Environment)
  | failBleRouteDisconnect (released : Generation) (result : Int32) (owner : ControlOperation)
  -- The BLE host.
  | signalBleEvent (room : Bool) (turns : List Bool) (event : BleEvent)
  | observeStoreFailure
  | failHandoff
  deriving DecidableEq, Repr

/-- The lifecycle commands of the control task. -/
def Operation.Begins : Operation → Prop
  | .beginEnable | .beginDisable | .beginHiddenRestart => True
  | _ => False

def program (_ : Task) : Operation → Program State Unit
  | .claimOperation operation => do let _ ← claimOperation operation
  | .beginEnable => do let _ ← onBle BleLifecycle.beginEnable
  | .beginDisable => do let _ ← onBle BleLifecycle.beginDisable
  | .beginHiddenRestart => do let _ ← onBle BleLifecycle.beginHiddenRestart
  | .storeIncarnation incarnation =>
      .write fun state => { state with stackIncarnation := incarnation }
  | .enqueue room action => do let _ ← enqueue room action
  | .giveUp expected kind => do
      let _ ← onBle (completeFault expected kind (-1))
      clearBleHidPeer
  | .releaseOperation operation => releaseOperation operation
  | .dequeue => do let _ ← dequeue
  | .reconcileBleFallbacks turns => do let _ ← reconcileBleFallbacks turns
  | .act environment suppressed action => do let _ ← act environment suppressed action
  | .clearProcessed cleared => clearProcessed cleared
  | .driveWatchdogs environment => driveWatchdogs environment
  | .failBleRouteDisconnect released result owner => failBleRouteDisconnect released result owner
  | .signalBleEvent room turns event => do let _ ← signalBleEvent room turns event
  | .observeStoreFailure =>
      .write fun state => { state with persistentStoreFailureObserved := true }
  | .failHandoff => .write fun state => { state with handoffFailure := true }

def Operation.By : Operation → Task → Prop
  | .claimOperation _, task | .beginEnable, task | .beginDisable, task
  | .beginHiddenRestart, task | .storeIncarnation _, task | .enqueue _ _, task
  | .giveUp _ _, task | .releaseOperation _, task => task = .control
  | .dequeue, task | .reconcileBleFallbacks _, task | .act _ _ _, task
  | .clearProcessed _, task | .driveWatchdogs _, task
  | .failBleRouteDisconnect _ _ _, task => task = .executor
  | .signalBleEvent _ _ _, task | .observeStoreFailure, task
  | .failHandoff, task => ∃ id, task = .host id

abbrev Runs := Config Task State Operation Unit

def boot : Runs := Config.initial {}

/-- Every interleaving of the accesses of every task's own calls. -/
def own (_ : Runs) : Label Task Operation → Prop
  | .call task operation => operation.By task
  | .advance _ => True

/-- A boot-lifetime failure has been committed. -/
def Committed (state : State) : Prop :=
  state.persistentStoreFailureCommitted = true ∨ state.handoffFailureCommitted = true

/-- BLE is in fault and cannot be used. -/
structure FailClosed (state : State) : Prop where
  faulted : Faulted state.lifecycle
  linkDown : ∀ link, ((bleLinkReady link).exec state).1 = false

/-- After a commit, once the executor's and the control task's calls have
returned, BLE is failed closed, and stays so. -/
def FaultSurvives (allowed : Runs → Label Task Operation → Prop) : Prop :=
  ∀ config, Reaches program allowed boot config → Committed config.shared →
    config.running .executor = none → config.running .control = none →
    ∀ later, Reaches program allowed config later → FailClosed later.shared

/-- The store of this access is a fault, whatever the state. -/
def Publishes (update : State → State) : Prop := ∀ state, Faulted (update state).lifecycle

/-- A boot-lifetime failure is known or committed. -/
def Pending (state : State) : Prop :=
  state.persistentStoreFailureCommitted = true ∨ state.handoffFailure = true

/-- While the executor publishes the fault of a boot-lifetime failure, no
lifecycle command is between its first load and its last store. No command
advances the generation once the store failure is committed, and the generation
does not wrap. -/
def commandsApart (config : Runs) : Label Task Operation → Prop
  | .call task operation => operation.By task
  | .advance .executor => ∀ operation update rest,
      config.running .executor = some (operation, .access update rest) →
        Publishes update → Pending config.shared →
          ∀ command call, config.running .control = some (command, call) → command.Begins →
            call = program .control command ∨ call.Each fun before after => after = before
  | .advance .control => ∀ operation update rest,
      config.running .control = some (operation, .access update rest) →
        (update config.shared).lifecycle.generation ≠ config.shared.lifecycle.generation →
          config.shared.persistentStoreFailureCommitted = false ∧
            config.shared.lifecycle.generation ≠ 0xffffffff
  | .advance (.host _) => True

/-! ### A command across the commit -/

/-- An enable command has taken its snapshot when the store failure is committed. -/
def enableAcrossCommit : List (Label Task Operation) :=
  [.call .control (.claimOperation .bleEnable)] ++ List.replicate 2 (.advance .control) ++
    [.call .control .beginEnable] ++ List.replicate 5 (.advance .control) ++
    [.call (.host 0) .observeStoreFailure] ++ List.replicate 2 (.advance (.host 0)) ++
    [.call .executor (.reconcileBleFallbacks 1)] ++ List.replicate 28 (.advance .executor) ++
    List.replicate 12 (.advance .control)

/-- **The committed fault is overwritten** by the enable command. -/
theorem fault_overwritten_by_enable : ¬FaultSurvives own := by
  intro survives
  have final : (replay program enableAcrossCommit boot).map (fun config =>
      (config.shared.persistentStoreFailureCommitted, config.shared.lifecycle.state,
        (config.running .executor).isNone, (config.running .control).isNone)) =
          some (true, { desired := .exposed, observed := .enabling }, true, true) := rfl
  obtain ⟨config, replayed, observed⟩ := Option.map_eq_some_iff.mp final
  simp only [Prod.mk.injEq, Option.isNone_iff_eq_none] at observed
  obtain ⟨committed, state, executor, control⟩ := observed
  have reached : Reaches program own boot config := by
    refine Reaches.of_replay ?_ replayed
    simp [enableAcrossCommit, own, Operation.By]
  have closed := survives config reached (.inl committed) executor control config .refl
  simpa [state] using closed.faulted.observed

end Fatal

end HidBot.BleControl
