import HidBot.Timing.OneShot
import HidBot.Pairing.Machine
import Mathlib.Data.List.Basic

/-!
# The timer of the passkey input

`arm_pairing_timeout`, `cancel_pairing_timeout` and the callback of their timer, one access
after the other. The executor is the only caller of the two, so one call is under way at a
time; the callbacks read the cells of the pairing while the executor writes them.
-/

namespace HidBot.BleTransport

open BleLifecycle (Generation)
open BlePairing (PairingId inputTimeoutMs)
open Timing

structure PairingArm where
  generation : Generation
  connectionHandle : BleLifecycle.ConnectionHandle
  id : PairingId
  deriving DecidableEq

/-- The next access of the call; a cancellation may be the first part of an arm. -/
inductive PairingCall where
  | idle
  | permitting (arm : Option PairingArm)
  | asking (arm : Option PairingArm)
  | stopping (arm : Option PairingArm)
  | clearing (arm : Option PairingArm)
  | generation (arm : PairingArm)
  | connection (arm : PairingArm)
  | naming (arm : PairingArm)
  | starting (arm : PairingArm)
  deriving DecidableEq

/-- The last arm of the timer, with the pairing that it has named. -/
structure InputWindow extends Arm where
  pairingId : PairingId := 0
  deriving DecidableEq

/-- The next access of a callback, with what it has read and, at the end, the arm that was
the last when it has read the pairing. -/
inductive PairingCallback where
  | generation
  | connection (generation : Generation)
  | id (generation : Generation) (connectionHandle : BleLifecycle.ConnectionHandle)
  | publishing (generation : Generation) (connectionHandle : BleLifecycle.ConnectionHandle)
      (id : PairingId) (window : InputWindow)
  deriving DecidableEq

def PairingCallback.unclaimed : PairingCallback → Bool
  | .generation | .connection _ | .id _ _ => true
  | .publishing .. => false

structure PairingTimeoutEvent where
  generation : Generation
  connectionHandle : BleLifecycle.ConnectionHandle
  pairingId : PairingId
  window : InputWindow
  time : Nat
  deriving DecidableEq

structure PairingTimer where
  initializationAllowed : Bool := true
  timerGeneration : Generation := 0
  timerConnection : BleLifecycle.ConnectionHandle := BleLifecycle.noConnection
  timerId : PairingId := 0
  timer : OneShot := {}
  call : PairingCall := .idle
  callbacks : List PairingCallback := []
  window : InputWindow := {}
  published : List PairingTimeoutEvent := []

inductive PairingTimerAct where
  | armPairingTimeout (arm : PairingArm)
  | cancelPairingTimeout
  | advance
  | stopTransaction (initializationAllowed : Bool)
  | expire
  | timeoutCallback (index : Nat)

/-- The input window, in the unit of the timer. -/
def inputTimeoutUs : Nat := inputTimeoutMs * 1000

namespace PairingTimer

variable (pairing : PairingTimer) (now : Nat)

/-- The next access of the call; nobody looks at the result of the start. -/
def advance : Option PairingTimer :=
  match pairing.call with
  | .idle => none
  | .permitting arm =>
      some { pairing with
        call := if pairing.initializationAllowed then .asking arm else .clearing arm }
  | .asking arm =>
      some { pairing with
        call := if pairing.timer.isActive then .stopping arm else .clearing arm }
  | .stopping arm => some { pairing with timer := pairing.timer.stop, call := .clearing arm }
  | .clearing arm =>
      some { pairing with timerId := 0, call := arm.elim .idle .generation }
  | .generation arm =>
      some { pairing with timerGeneration := arm.generation, call := .connection arm }
  | .connection arm =>
      some { pairing with timerConnection := arm.connectionHandle, call := .naming arm }
  | .naming arm =>
      some { pairing with
        timerId := arm.id, call := .starting arm
        window := { timeout := inputTimeoutUs, pairingId := arm.id } }
  | .starting _ =>
      match pairing.timer.startOnce now inputTimeoutUs with
      | (true, timer) => some { pairing with
          timer, window := { pairing.window with started := some now }, call := .idle }
      | (false, _) => some { pairing with call := .idle }

def timeoutCallback (index : Nat) : Option PairingTimer :=
  match pairing.callbacks[index]? with
  | none => none
  | some .generation =>
      some { pairing with
        callbacks := pairing.callbacks.set index (.connection pairing.timerGeneration) }
  | some (.connection generation) =>
      some { pairing with
        callbacks := pairing.callbacks.set index (.id generation pairing.timerConnection) }
  | some (.id generation connectionHandle) =>
      some { pairing with
        callbacks := pairing.callbacks.set index
          (.publishing generation connectionHandle pairing.timerId pairing.window) }
  | some (.publishing generation connectionHandle id window) =>
      some { pairing with
        published := ⟨generation, connectionHandle, id, window, now⟩ :: pairing.published
        callbacks := pairing.callbacks.eraseIdx index }

def step : PairingTimerAct → Option PairingTimer
  | .armPairingTimeout arm =>
      if pairing.call = .idle then some { pairing with call := .permitting (some arm) } else none
  | .cancelPairingTimeout =>
      if pairing.call = .idle then some { pairing with call := .permitting none } else none
  | .advance => pairing.advance now
  | .stopTransaction initializationAllowed => some { pairing with initializationAllowed }
  | .expire => (pairing.timer.expire now).map fun timer =>
      { pairing with timer, callbacks := pairing.callbacks ++ [.generation] }
  | .timeoutCallback index => pairing.timeoutCallback now index

/-! ### Naming a pairing while the timer is quiet -/

def Starting : Prop := ∃ arm, pairing.call = .starting arm

/-- A callback has still to find out which pairing it is for. -/
def Unclaimed : Prop := ∃ callback ∈ pairing.callbacks, callback.unclaimed

/-- A pairing is named only while the timer neither runs for an earlier one nor has a
callback that has not read the name. -/
def ArmsQuietly : PairingTimerAct → Prop
  | .advance => (∃ arm, pairing.call = .naming arm) →
      Kept.Quiet pairing.timer pairing.Starting pairing.Unclaimed
  | _ => True

/-- The window is the one of the pairing, and it is over. -/
def InTime (id : PairingId) (window : InputWindow) (time : Nat) : Prop :=
  (id ≠ 0 → window.pairingId = id) ∧ window.Elapsed time

structure Sound : Prop where
  kept : Kept pairing.timer pairing.window.toArm pairing.Starting pairing.Unclaimed now
  duration : pairing.Starting → pairing.window.timeout = inputTimeoutUs
  named : pairing.timerId ≠ 0 → pairing.window.pairingId = pairing.timerId
  claimed : ∀ callback ∈ pairing.callbacks, ∀ generation handle id window,
    callback = .publishing generation handle id window → InTime id window now
  published : ∀ event ∈ pairing.published, InTime event.pairingId event.window event.time

variable {pairing now}

theorem Sound.later {after : Nat} (sound : pairing.Sound now) (le : now ≤ after) :
    pairing.Sound after :=
  { sound with
    kept := sound.kept.later le
    claimed := fun callback member generation handle id window stage =>
      have ⟨named, elapsed⟩ := sound.claimed callback member generation handle id window stage
      ⟨named, elapsed.mono le⟩ }

/-- A call that has not named a pairing leaves the timer to the arm before. -/
theorem Sound.goto {call : PairingCall} (sound : pairing.Sound now)
    (other : ∀ arm, call ≠ .starting arm) : { pairing with call }.Sound now :=
  have none : ¬{ pairing with call }.Starting := fun ⟨arm, starting⟩ => other arm starting
  { sound with
    kept := sound.kept.weaken (fun yet => absurd yet none) id
    duration := fun yet => absurd yet none }

theorem Sound.advance {next : PairingTimer} (sound : pairing.Sound now)
    (quietly : pairing.ArmsQuietly .advance) (stepped : pairing.advance now = some next) :
    next.Sound now := by
  unfold PairingTimer.advance at stepped
  split at stepped
  case h_1 => cases stepped
  case h_2 arm _ | h_3 arm _ =>
    cases stepped
    exact sound.goto fun _ => by split_ifs <;> simp
  case h_4 arm _ =>
    cases stepped
    have stopped : { pairing with timer := pairing.timer.stop }.Sound now :=
      { sound with kept := sound.kept.stop }
    exact stopped.goto (by simp)
  case h_5 arm _ =>
    cases stepped
    have cleared : { pairing with timerId := 0 }.Sound now :=
      { sound with named := fun named => absurd rfl named }
    exact cleared.goto fun _ => by cases arm <;> simp
  case h_6 arm _ | h_7 arm _ =>
    cases stepped
    exact { sound.goto (by simp) with }
  case h_8 arm naming =>
    cases stepped
    exact { sound with
      kept := (Kept.take (quietly ⟨arm, naming⟩) inputTimeoutUs).weaken (fun _ => trivial) id
      duration := fun _ => rfl
      named := fun _ => rfl }
  case h_9 arm starting =>
    obtain ⟨accepted, kept⟩ := sound.kept.start ⟨arm, starting⟩
    rw [← sound.duration ⟨arm, starting⟩, accepted] at stepped
    cases stepped
    have none : ¬{ pairing with call := .idle }.Starting := fun ⟨arm, starting⟩ => by
      cases starting
    exact { sound with
      kept := kept.weaken none id
      duration := fun yet => absurd yet none }

/-- A callback that has not found out yet reads on. -/
theorem Sound.read {index : Nat} {callback after : PairingCallback} (sound : pairing.Sound now)
    (found : pairing.callbacks[index]? = some callback) (unclaimed : callback.unclaimed)
    (claimed : ∀ generation handle id window,
      after = .publishing generation handle id window → InTime id window now) :
    { pairing with callbacks := pairing.callbacks.set index after }.Sound now :=
  { sound with
    kept := sound.kept.weaken id fun _ => ⟨callback, List.mem_of_getElem? found, unclaimed⟩
    claimed := fun other member => by
      rcases List.mem_or_eq_of_mem_set member with before | rfl
      · exact sound.claimed other before
      · exact claimed }

theorem Sound.timeoutCallback {index : Nat} {next : PairingTimer} (sound : pairing.Sound now)
    (stepped : pairing.timeoutCallback now index = some next) : next.Sound now := by
  unfold PairingTimer.timeoutCallback at stepped
  split at stepped
  case h_1 => cases stepped
  case h_2 found | h_3 generation found =>
    cases stepped
    exact sound.read found rfl (by simp)
  case h_4 generation handle found =>
    cases stepped
    have elapsed := sound.kept.elapsed ⟨_, List.mem_of_getElem? found, rfl⟩
    refine sound.read found rfl fun _ _ _ _ stage => ?_
    cases stage
    exact ⟨sound.named, elapsed⟩
  case h_5 generation handle name window found =>
    cases stepped
    have inTime := sound.claimed _ (List.mem_of_getElem? found) _ _ _ _ rfl
    exact { sound with
      kept := sound.kept.weaken id fun ⟨other, member, unclaimed⟩ =>
        ⟨other, List.mem_of_mem_eraseIdx member, unclaimed⟩
      claimed := fun other member => sound.claimed other (List.mem_of_mem_eraseIdx member)
      published := List.forall_mem_cons.mpr ⟨inTime, sound.published⟩ }

/-- Every access keeps what is sound, if a pairing is named only while the timer is quiet. -/
theorem Sound.step {act : PairingTimerAct} {next : PairingTimer} (sound : pairing.Sound now)
    (quietly : pairing.ArmsQuietly act) (stepped : pairing.step now act = some next) :
    next.Sound now := by
  cases act with
  | armPairingTimeout arm | cancelPairingTimeout =>
      simp only [PairingTimer.step, Option.ite_none_right_eq_some, Option.some.injEq] at stepped
      exact stepped.2 ▸ sound.goto (by simp)
  | advance => exact sound.advance quietly stepped
  | stopTransaction allowed =>
      cases stepped
      exact { sound with }
  | expire =>
      obtain ⟨timer, due, rfl⟩ := Option.map_eq_some_iff.mp stepped
      obtain ⟨unstarted, -, kept⟩ := sound.kept.expire due
      exact { sound with
        kept := kept.weaken unstarted fun _ => trivial
        claimed := fun callback member => by
          rcases List.mem_append.mp member with before | here
          · exact sound.claimed callback before
          · simp [List.mem_singleton.mp here] }
  | timeoutCallback index => exact sound.timeoutCallback stepped

theorem Sound.initial : ({} : PairingTimer).Sound now := by
  have none : ¬({} : PairingTimer).Starting := by simp [PairingTimer.Starting]
  constructor
  case kept => exact ⟨fun yet => absurd yet none, by simp, by simp [PairingTimer.Unclaimed]⟩
  case duration => exact fun yet => absurd yet none
  all_goals simp

end PairingTimer

end HidBot.BleTransport
