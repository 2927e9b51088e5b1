import Mathlib.Tactic.SplitIfs

/-!
# One-shot timers

A one-shot timer becomes inactive when it expires, before the callback of the expiry has
run. Whoever arms it first takes it, then starts it; a callback finds out late for whom it
has been dispatched. If the timer is taken only while it is quiet, every callback that has
still to find out belongs to the last one who took it, and comes when all its time is over.
-/

namespace HidBot.Timing

/-- A timer with the time at which it expires, if it is active. -/
structure OneShot where
  deadline : Option Nat := none
  deriving DecidableEq

namespace OneShot

def isActive (timer : OneShot) : Bool := timer.deadline.isSome

/-- An active timer refuses to start again. -/
def startOnce (timer : OneShot) (now duration : Nat) : Bool × OneShot :=
  if timer.isActive then (false, timer) else (true, ⟨some (now + duration)⟩)

def stop (_ : OneShot) : OneShot := {}

/-- The timer after its expiry, if it is due. -/
def expire (timer : OneShot) (now : Nat) : Option OneShot :=
  match timer.deadline with
  | none => none
  | some deadline => if deadline ≤ now then some {} else none

theorem expire_eq_some {timer expired : OneShot} {now : Nat}
    (due : timer.expire now = some expired) : timer.isActive ∧ expired = {} := by
  unfold expire at due
  split at due
  · cases due
  · split_ifs at due
    exact ⟨by simp [isActive, *], (Option.some.inj due).symm⟩

end OneShot

/-- Who has taken a timer: for how long, and when it was started for it. -/
structure Arm where
  timeout : Nat := 0
  started : Option Nat := none
  deriving DecidableEq

/-- All the time of the arm has passed since the timer was started for it. -/
def Arm.Elapsed (arm : Arm) (now : Nat) : Prop :=
  ∃ started, arm.started = some started ∧ started + arm.timeout ≤ now

theorem Arm.Elapsed.mono {arm : Arm} {now later : Nat} (elapsed : arm.Elapsed now)
    (after : now ≤ later) : arm.Elapsed later := by
  obtain ⟨started, since, passed⟩ := elapsed
  exact ⟨started, since, Nat.le_trans passed after⟩

/-- A timer as its last arm sees it. `starting`: somebody has still to start it.
`unclaimed`: a callback has still to find out for whom it has been dispatched. -/
structure Kept (timer : OneShot) (arm : Arm) (starting unclaimed : Prop) (now : Nat) : Prop where
  inactive : starting → timer.deadline = none ∧ ¬unclaimed ∧ arm.started = none
  active : ∀ deadline, timer.deadline = some deadline → ¬unclaimed ∧
    ∃ started, arm.started = some started ∧ deadline = started + arm.timeout
  elapsed : unclaimed → arm.Elapsed now

namespace Kept

variable {timer : OneShot} {arm : Arm} {starting unclaimed : Prop} {now : Nat}

/-- Nothing that an earlier arm has left behind can still expire or run. -/
structure Quiet (timer : OneShot) (starting unclaimed : Prop) : Prop where
  inactive : timer.deadline = none
  started : ¬starting
  claimed : ¬unclaimed

theorem take (quiet : Quiet timer starting unclaimed) (timeout : Nat) :
    Kept timer { timeout } True unclaimed now where
  inactive := fun _ => ⟨quiet.inactive, quiet.claimed, rfl⟩
  active := fun deadline running => by simp [quiet.inactive] at running
  elapsed := fun unclaimed => absurd unclaimed quiet.claimed

theorem start (kept : Kept timer arm starting unclaimed now) (yet : starting) :
    timer.startOnce now arm.timeout = (true, ⟨some (now + arm.timeout)⟩) ∧
      Kept ⟨some (now + arm.timeout)⟩ { arm with started := some now } False unclaimed now := by
  obtain ⟨inactive, claimed, -⟩ := kept.inactive yet
  refine ⟨by simp [OneShot.startOnce, OneShot.isActive, inactive], ?_⟩
  refine ⟨False.elim, fun deadline running => ?_, fun unclaimed => absurd unclaimed claimed⟩
  exact ⟨claimed, now, rfl, (Option.some.inj running).symm⟩

theorem stop (kept : Kept timer arm starting unclaimed now) :
    Kept timer.stop arm starting unclaimed now where
  inactive := fun yet => ⟨rfl, (kept.inactive yet).2⟩
  active := fun deadline running => by cases running
  elapsed := kept.elapsed

theorem expire {expired : OneShot} (kept : Kept timer arm starting unclaimed now)
    (due : timer.expire now = some expired) :
    ¬starting ∧ ¬unclaimed ∧ Kept expired arm False True now := by
  unfold OneShot.expire at due
  split at due
  · cases due
  · rename_i deadline running
    split_ifs at due with passed
    cases due
    obtain ⟨claimed, started, since, rfl⟩ := kept.active deadline running
    refine ⟨fun yet => ?_, claimed, ⟨False.elim, fun deadline active => ?_, fun _ => ?_⟩⟩
    · simp [(kept.inactive yet).1] at running
    · cases active
    · exact ⟨started, since, passed⟩

/-- Less is still to come. -/
theorem weaken {starting' unclaimed' : Prop} (kept : Kept timer arm starting unclaimed now)
    (fewer : starting' → starting) (claims : unclaimed' → unclaimed) :
    Kept timer arm starting' unclaimed' now where
  inactive := fun yet =>
    have ⟨inactive, claimed, unstarted⟩ := kept.inactive (fewer yet)
    ⟨inactive, claimed ∘ claims, unstarted⟩
  active := fun deadline running =>
    have ⟨claimed, started⟩ := kept.active deadline running
    ⟨claimed ∘ claims, started⟩
  elapsed := kept.elapsed ∘ claims

theorem later {after : Nat} (kept : Kept timer arm starting unclaimed now) (le : now ≤ after) :
    Kept timer arm starting unclaimed after where
  inactive := kept.inactive
  active := kept.active
  elapsed := fun unclaimed => (kept.elapsed unclaimed).mono le

end Kept

end HidBot.Timing
