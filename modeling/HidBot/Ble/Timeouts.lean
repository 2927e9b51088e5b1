import HidBot.Ble.PairingTimer
import HidBot.Ble.Watchdog

/-!
# Timeouts of the transport

Runs of the two timers under one clock, in which the calls, the callbacks and the time
interleave in any order. If the timers are armed only while they are quiet, every timeout
comes when the whole time of the arm it is taken for has passed. A callback that is delayed
past the next arm of its timer is taken for that arm, and comes early.
-/

namespace HidBot.BleTransport

open BlePairing
open Timing

structure Timers (ι : Type) where
  now : Nat := 0
  watchdog : Watchdog ι := {}
  pairing : PairingTimer := {}

inductive TimersAct (ι : Type) where
  | tick (passed : Nat)
  | watchdog (act : WatchdogAct ι)
  | pairing (act : PairingTimerAct)

namespace Timers

variable {ι : Type}

/-- An arm of either timer finds it quiet. -/
def ArmsQuietly (timers : Timers ι) : TimersAct ι → Prop
  | .tick _ => True
  | .watchdog act => timers.watchdog.ArmsQuietly act
  | .pairing act => timers.pairing.ArmsQuietly act

variable [DecidableEq ι]

def step (timers : Timers ι) : TimersAct ι → Option (Timers ι)
  | .tick passed => some { timers with now := timers.now + passed }
  | .watchdog act =>
      (timers.watchdog.step timers.now act).map fun watchdog => { timers with watchdog }
  | .pairing act =>
      (timers.pairing.step timers.now act).map fun pairing => { timers with pairing }

def run (timers : Timers ι) : List (TimersAct ι) → Option (Timers ι)
  | [] => some timers
  | act :: acts => (timers.step act).bind fun next => next.run acts

/-- The states reached from the first one by steps that arm quietly. -/
inductive Reached : Timers ι → Prop where
  | start : Reached {}
  | step {timers next : Timers ι} (act : TimersAct ι) :
      Reached timers → timers.ArmsQuietly act → timers.step act = some next → Reached next

structure Sound (timers : Timers ι) : Prop where
  watchdog : timers.watchdog.Sound timers.now
  pairing : timers.pairing.Sound timers.now

theorem Sound.step {timers next : Timers ι} {act : TimersAct ι} (sound : timers.Sound)
    (quietly : timers.ArmsQuietly act) (stepped : timers.step act = some next) : next.Sound := by
  cases act with
  | tick passed =>
      cases stepped
      exact ⟨sound.watchdog.later (Nat.le_add_right ..), sound.pairing.later (Nat.le_add_right ..)⟩
  | watchdog act =>
      obtain ⟨watchdog, moved, rfl⟩ := Option.map_eq_some_iff.mp stepped
      exact ⟨sound.watchdog.step quietly moved, sound.pairing⟩
  | pairing act =>
      obtain ⟨pairing, moved, rfl⟩ := Option.map_eq_some_iff.mp stepped
      exact ⟨sound.watchdog, sound.pairing.step quietly moved⟩

theorem Reached.sound {timers : Timers ι} (reached : timers.Reached) : timers.Sound := by
  induction reached with
  | start => exact ⟨.initial, .initial⟩
  | step act _ quietly stepped ih => exact ih.step quietly stepped

end Timers

/-- Acts that arm nothing are quiet wherever they are taken. -/
theorem Timers.Reached.run {ι : Type} [DecidableEq ι] {timers last : Timers ι}
    {acts : List (TimersAct ι)} (reached : timers.Reached)
    (harmless : ∀ act ∈ acts, ∀ timers : Timers ι, timers.ArmsQuietly act)
    (ran : timers.run acts = some last) : last.Reached := by
  induction acts generalizing timers with
  | nil => exact Option.some.inj ran ▸ reached
  | cons act acts ih =>
      obtain ⟨next, stepped, rest⟩ := Option.bind_eq_some_iff.mp ran
      rw [List.forall_mem_cons] at harmless
      exact ih (reached.step act (harmless.1 timers) stepped) harmless.2 rest

section Delayed

end Delayed

end HidBot.BleTransport
