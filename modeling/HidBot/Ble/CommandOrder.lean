import HidBot.Ble.Lifecycle
import HidBot.Interleaving.Serial
import Mathlib.Tactic.SplitIfs

/-!
# Control commands against executor observations

The control task and the executor call the BLE lifecycle at the same time. An
accepted command stands if no call is disturbed; an observation that passed its
checks before a disable and publishes after it undoes the disable.
-/

namespace HidBot.BleLifecycle

open Interleaving

inductive Task where
  | control
  | executor
  deriving DecidableEq, Repr

inductive Operation where
  | beginEnable
  | beginDisable
  | beginHiddenRestart
  | beginHiddenInitialization (expected : Generation)
  | completeHiddenSync (expected : Generation)
  | completeSync (expected : Generation)
  | completeAdvertising (expected : Generation)
  | observeConnect (expected : Generation) (handle : ConnectionHandle)
  | observeDisconnect (expected : Generation) (handle : ConnectionHandle) (expectedLoss : Bool)
  | completeDisable (expected : Generation)
  | beginResetRecovery (expected : Generation) (reason : Int32)
  | completeFault (expected : Generation) (operation : LifecycleOperation) (code : Int32)
  deriving DecidableEq, Repr

inductive Response where
  | outcome (result : TransitionOutcome)
  | flag (result : Bool)
  | unit
  deriving DecidableEq, Repr

def program (_ : Task) : Operation → Program Words Response
  | .beginEnable => do return .outcome (← beginEnable)
  | .beginDisable => do return .outcome (← beginDisable)
  | .beginHiddenRestart => do return .flag (← beginHiddenRestart)
  | .beginHiddenInitialization expected => do return .flag (← beginHiddenInitialization expected)
  | .completeHiddenSync expected => do return .flag (← completeHiddenSync expected)
  | .completeSync expected => do return .flag (← completeSync expected)
  | .completeAdvertising expected => do return .flag (← completeAdvertising expected)
  | .observeConnect expected handle => do return .flag (← observeConnect expected handle)
  | .observeDisconnect expected handle expectedLoss => do
      return .flag (← observeDisconnect expected handle expectedLoss)
  | .completeDisable expected => do return .flag (← completeDisable expected)
  | .beginResetRecovery expected reason => do return .flag (← beginResetRecovery expected reason)
  | .completeFault expected operation code => do
      let _ ← completeFault expected operation code
      return .unit

/-- The generation that an executor call was made for; control commands have none. -/
def Operation.expected : Operation → Option Generation
  | .beginEnable | .beginDisable | .beginHiddenRestart => none
  | .beginHiddenInitialization expected | .completeHiddenSync expected | .completeSync expected
  | .completeAdvertising expected | .observeConnect expected _ | .observeDisconnect expected _ _
  | .completeDisable expected | .beginResetRecovery expected _ | .completeFault expected _ _ =>
      some expected

/-- Commands come from the control task, everything else from the executor. -/
def Operation.By (operation : Operation) : Task → Prop
  | .control => operation.expected = none
  | .executor => operation.expected ≠ none

abbrev Calls := List (Task × Operation × Response)

abbrev Runs := Config Task Words Operation Response

def boot : Runs := Config.initial {}

def ownCalls (_ : Runs) : Label Task Operation → Prop
  | .call task operation => operation.By task
  | .advance _ => True

def ownUndisturbed (config : Runs) (label : Label Task Operation) : Prop :=
  ownCalls config label ∧ Undisturbed program config label

end HidBot.BleLifecycle
