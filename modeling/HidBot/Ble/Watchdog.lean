import HidBot.Timing.OneShot
import Mathlib.Data.List.Basic
import Mathlib.Logic.Function.Basic

/-!
# The lifecycle watchdog

`LifecycleWatchdogOwnership` and the calls of the transport around it, one access after the
other: `arm_timeout` and `cancel_timeout` in any number of tasks, and the callbacks of the
timer, each of which may be delayed before any of its accesses. Beside the words of the
code stands the last arm, with the time at which the timer has been started for it.
-/

namespace HidBot.BleTransport

open Timing

inductive LifecycleWatchdogPurpose where
  | sync
  | disconnect
  deriving DecidableEq

inductive Phase where
  | none
  | armed (purpose : LifecycleWatchdogPurpose)
  | cancelling (purpose : LifecycleWatchdogPurpose)
  | firing (purpose : LifecycleWatchdogPurpose)
  deriving DecidableEq

/-- The next access of a call. -/
inductive WatchdogCall where
  | idle
  | starting (purpose : LifecycleWatchdogPurpose) (microseconds arm : Nat)
  | releasing (purpose : LifecycleWatchdogPurpose)
  | asking (purpose : LifecycleWatchdogPurpose)
  | stopping (purpose : LifecycleWatchdogPurpose)
  | completing (purpose : LifecycleWatchdogPurpose)
  deriving DecidableEq

/-- The next access of a dispatched callback. -/
inductive WatchdogCallback where
  | waiting
  | claiming (purpose : LifecycleWatchdogPurpose)
  | publishing (purpose : LifecycleWatchdogPurpose)
  | completing (purpose : LifecycleWatchdogPurpose)
  deriving DecidableEq

/-- The callback is still in `begin_timeout`. -/
def WatchdogCallback.unclaimed : WatchdogCallback → Bool
  | .waiting | .claiming _ => true
  | .publishing _ | .completing _ => false

/-- A timeout event, with the arm that owned the watchdog when it was published. -/
structure TimeoutEvent where
  purpose : LifecycleWatchdogPurpose
  arm : Arm
  time : Nat
  deriving DecidableEq

structure Watchdog (ι : Type) where
  phase : Phase := .none
  timer : OneShot := {}
  calls : ι → WatchdogCall := fun _ => .idle
  callbacks : List WatchdogCallback := []
  arms : Nat := 0
  arm : Arm := {}
  published : List TimeoutEvent := []

inductive WatchdogAct (ι : Type) where
  | armTimeout (task : ι) (microseconds : Nat) (purpose : LifecycleWatchdogPurpose)
  | cancelTimeout (task : ι) (purpose : LifecycleWatchdogPurpose)
  | advance (task : ι)
  | expire
  | timeoutCallback (index : Nat)

namespace Watchdog

section Steps

variable {ι : Type} [DecidableEq ι] (watchdog : Watchdog ι) (task : ι) (now : Nat)

def goto (call : WatchdogCall) : Watchdog ι :=
  { watchdog with calls := Function.update watchdog.calls task call }

/-- A compare-exchange whose result nobody looks at. -/
def exchange (expected desired : Phase) : Watchdog ι :=
  if watchdog.phase = expected then { watchdog with phase := desired } else watchdog

/-- `try_acquire`, the first access of `arm_timeout`. -/
def armTimeout (microseconds : Nat) (purpose : LifecycleWatchdogPurpose) : Watchdog ι :=
  if watchdog.phase = .none then
    { watchdog.goto task (.starting purpose microseconds (watchdog.arms + 1)) with
      phase := .armed purpose, arms := watchdog.arms + 1, arm := { timeout := microseconds } }
  else watchdog

/-- `begin_cancel`, the first access of `cancel_timeout`. -/
def cancelTimeout (purpose : LifecycleWatchdogPurpose) : Watchdog ι :=
  if watchdog.phase = .armed purpose then
    { watchdog.goto task (.asking purpose) with phase := .cancelling purpose }
  else watchdog

/-- `esp_timer_start_once`. The arm learns of it, unless another has followed. -/
def startTimer (purpose : LifecycleWatchdogPurpose) (microseconds arm : Nat) : Watchdog ι :=
  match watchdog.timer.startOnce now microseconds with
  | (true, timer) => { watchdog.goto task .idle with
      timer, arm := if arm = watchdog.arms then { watchdog.arm with started := some now }
        else watchdog.arm }
  | (false, _) => watchdog.goto task (.releasing purpose)

/-- The next access of the call that the task is in. -/
def advance : Option (Watchdog ι) :=
  match watchdog.calls task with
  | .idle => none
  | .starting purpose microseconds arm =>
      some (watchdog.startTimer task now purpose microseconds arm)
  | .releasing purpose => some ((watchdog.goto task .idle).exchange (.armed purpose) .none)
  | .asking purpose =>
      some (watchdog.goto task
        (if watchdog.timer.isActive then .stopping purpose else .completing purpose))
  | .stopping purpose =>
      some { watchdog.goto task (.completing purpose) with timer := watchdog.timer.stop }
  | .completing purpose => some ((watchdog.goto task .idle).exchange (.cancelling purpose) .none)

/-- `begin_timeout` after it has seen the phase. -/
def observe (index : Nat) : Watchdog ι :=
  match watchdog.phase with
  | .armed purpose =>
      { watchdog with callbacks := watchdog.callbacks.set index (.claiming purpose) }
  | _ => { watchdog with callbacks := watchdog.callbacks.eraseIdx index }

/-- The next access of a callback; a failed compare-exchange has seen the phase anew. -/
def timeoutCallback (index : Nat) : Option (Watchdog ι) :=
  match watchdog.callbacks[index]? with
  | none => none
  | some .waiting => some (watchdog.observe index)
  | some (.claiming purpose) =>
      if watchdog.phase = .armed purpose then
        some { watchdog with
          phase := .firing purpose
          callbacks := watchdog.callbacks.set index (.publishing purpose) }
      else some (watchdog.observe index)
  | some (.publishing purpose) =>
      some { watchdog with
        published := ⟨purpose, watchdog.arm, now⟩ :: watchdog.published
        callbacks := watchdog.callbacks.set index (.completing purpose) }
  | some (.completing purpose) =>
      some ({ watchdog with callbacks := watchdog.callbacks.eraseIdx index }.exchange
        (.firing purpose) .none)

def step : WatchdogAct ι → Option (Watchdog ι)
  | .armTimeout task microseconds purpose =>
      if watchdog.calls task = .idle then some (watchdog.armTimeout task microseconds purpose)
      else none
  | .cancelTimeout task purpose =>
      if watchdog.calls task = .idle then some (watchdog.cancelTimeout task purpose) else none
  | .advance task => watchdog.advance task now
  | .expire => (watchdog.timer.expire now).map fun timer =>
      { watchdog with timer, callbacks := watchdog.callbacks ++ [.waiting] }
  | .timeoutCallback index => watchdog.timeoutCallback now index

end Steps

/-! ### Arming a quiet timer -/

variable {ι : Type}

section Invariant

variable (watchdog : Watchdog ι) (now : Nat)

/-- An arm has still to start the timer. -/
def Starting : Prop :=
  ∃ task purpose microseconds arm, watchdog.calls task = .starting purpose microseconds arm

/-- A callback has still to find out whether the watchdog is armed. -/
def Unclaimed : Prop := ∃ callback ∈ watchdog.callbacks, callback.unclaimed

/-- The watchdog is taken only while no earlier arm can start the timer, and the timer
neither runs nor has a callback that has not looked yet. -/
def ArmsQuietly : WatchdogAct ι → Prop
  | .armTimeout _ _ _ => watchdog.phase = .none →
      Kept.Quiet watchdog.timer watchdog.Starting watchdog.Unclaimed
  | _ => True

structure Sound : Prop where
  kept : Kept watchdog.timer watchdog.arm watchdog.Starting watchdog.Unclaimed now
  owner : ∀ task purpose microseconds arm,
    watchdog.calls task = .starting purpose microseconds arm →
      arm = watchdog.arms ∧ microseconds = watchdog.arm.timeout
  unique : ∀ task purpose microseconds arm,
    watchdog.calls task = .starting purpose microseconds arm → ∀ other ≠ task,
      ∀ purpose microseconds arm, watchdog.calls other ≠ .starting purpose microseconds arm
  granted : ∀ task purpose, watchdog.calls task ≠ .releasing purpose
  fresh : watchdog.Starting ∨ watchdog.timer.isActive → watchdog.callbacks = []
  single : watchdog.callbacks.length ≤ 1
  claimed : ∀ callback ∈ watchdog.callbacks, ∀ purpose,
    callback = .publishing purpose ∨ callback = .completing purpose →
      watchdog.phase = .firing purpose ∧ watchdog.arm.Elapsed now
  published : ∀ event ∈ watchdog.published, event.arm.Elapsed event.time

end Invariant

variable {watchdog : Watchdog ι} {now : Nat}

theorem Sound.later {after : Nat} (sound : watchdog.Sound now) (le : now ≤ after) :
    watchdog.Sound after :=
  { sound with
    kept := sound.kept.later le
    claimed := fun callback member purpose stage =>
      have ⟨firing, elapsed⟩ := sound.claimed callback member purpose stage
      ⟨firing, elapsed.mono le⟩ }

/-- Only a callback that is firing minds the phase. -/
theorem Sound.rephase (sound : watchdog.Sound now)
    (unfired : watchdog.callbacks = [] ∨ ∀ purpose, watchdog.phase ≠ .firing purpose)
    (phase : Phase) : { watchdog with phase }.Sound now :=
  { sound with
    claimed := fun callback member purpose stage => by
      rcases unfired with none | unfired
      · simp [none] at member
      · exact absurd (sound.claimed callback member purpose stage).1 (unfired purpose) }

theorem Sound.exchange {expected : Phase} (sound : watchdog.Sound now)
    (unfired : watchdog.callbacks = [] ∨ ∀ purpose, expected ≠ .firing purpose)
    (desired : Phase) : (watchdog.exchange expected desired).Sound now := by
  unfold Watchdog.exchange
  split_ifs with same
  · exact sound.rephase (same ▸ unfired) desired
  · exact sound

theorem Sound.stop (sound : watchdog.Sound now) :
    { watchdog with timer := watchdog.timer.stop }.Sound now :=
  { sound with
    kept := sound.kept.stop
    fresh := fun busy => sound.fresh (.inl (busy.resolve_right (by simp [OneShot.stop,
      OneShot.isActive]))) }

/-- The only callback that there is has made its next access. -/
theorem Sound.replace {callback : WatchdogCallback} (sound : watchdog.Sound now)
    (only : watchdog.callbacks = [callback]) (rest : List WatchdogCallback)
    (fewer : rest.length ≤ 1)
    (unclaimed : (∃ other ∈ rest, other.unclaimed) → callback.unclaimed)
    (claimed : ∀ other ∈ rest, ∀ purpose,
      other = .publishing purpose ∨ other = .completing purpose →
        watchdog.phase = .firing purpose ∧ watchdog.arm.Elapsed now) :
    { watchdog with callbacks := rest }.Sound now :=
  { sound with
    kept := sound.kept.weaken id fun some => ⟨callback, by simp [only], unclaimed some⟩
    fresh := fun busy => absurd (sound.fresh busy) (by simp [only])
    single := fewer
    claimed }

theorem Sound.observe {callback : WatchdogCallback} (sound : watchdog.Sound now)
    (only : watchdog.callbacks = [callback]) (unclaimed : callback.unclaimed) :
    (watchdog.observe 0).Sound now := by
  unfold Watchdog.observe
  split
  · rw [only]
    exact sound.replace only _ (by simp) (fun _ => unclaimed) (by simp)
  · rw [only]
    exact sound.replace only _ (by simp) (by simp) (by simp)

theorem only_of_getElem? {α : Type} {items : List α} {index : Nat} {item : α}
    (single : items.length ≤ 1) (found : items[index]? = some item) :
    index = 0 ∧ items = [item] := by
  match items, single with
  | [first], _ =>
      obtain ⟨bound, rfl⟩ := List.getElem?_eq_some_iff.mp found
      obtain rfl : index = 0 := by simpa using bound
      exact ⟨rfl, rfl⟩

theorem Sound.timeoutCallback {index : Nat} {next : Watchdog ι} (sound : watchdog.Sound now)
    (stepped : watchdog.timeoutCallback now index = some next) : next.Sound now := by
  unfold Watchdog.timeoutCallback at stepped
  split at stepped
  case h_1 => cases stepped
  all_goals
    rename_i found
    obtain ⟨rfl, only⟩ := only_of_getElem? sound.single found
  case h_2 => exact Option.some.inj stepped ▸ sound.observe only rfl
  case h_3 _ purpose =>
    split_ifs at stepped with armed
    · cases stepped
      have elapsed := sound.kept.elapsed ⟨_, only ▸ List.mem_singleton_self _, rfl⟩
      have fired := sound.rephase (.inr (by simp [armed])) (.firing purpose)
      rw [only]
      exact fired.replace only _ (by simp) (by simp [WatchdogCallback.unclaimed])
        (by simpa using elapsed)
    · exact Option.some.inj stepped ▸ sound.observe only rfl
  case h_4 _ purpose =>
    cases stepped
    have claimed := sound.claimed _ (only ▸ List.mem_singleton_self _) purpose (.inl rfl)
    rw [only]
    exact { sound.replace only [.completing purpose] (by simp)
              (by simp [WatchdogCallback.unclaimed]) (by simpa using claimed) with
            published := List.forall_mem_cons.mpr ⟨claimed.2, sound.published⟩ }
  case h_5 _ purpose =>
    cases stepped
    rw [only]
    exact (sound.replace only [] (by simp) (by simp) (by simp)).exchange (.inl rfl) .none

theorem Sound.expire {timer : OneShot} (sound : watchdog.Sound now)
    (due : watchdog.timer.expire now = some timer) :
    { watchdog with timer, callbacks := watchdog.callbacks ++ [WatchdogCallback.waiting] }.Sound
      now := by
  obtain ⟨unstarted, -, kept⟩ := sound.kept.expire due
  obtain ⟨active, rfl⟩ := OneShot.expire_eq_some due
  have unstarted' : ¬(watchdog.Starting ∨ OneShot.isActive {}) := by
    simp [unstarted, OneShot.isActive]
  exact { sound with
    kept := kept.weaken unstarted fun _ => trivial
    fresh := fun busy => absurd busy unstarted'
    single := by simp [sound.fresh (.inr active)]
    claimed := by simp [sound.fresh (.inr active)] }

variable [DecidableEq ι] {task : ι}

/-- A call that neither is to start the timer nor has failed to is none to arm it. -/
theorem starting_goto {call : WatchdogCall}
    (other : ∀ purpose microseconds arm, call ≠ .starting purpose microseconds arm) {task' : ι}
    {purpose : LifecycleWatchdogPurpose} {microseconds arm : Nat}
    (starting : (watchdog.goto task call).calls task' = .starting purpose microseconds arm) :
    task' ≠ task ∧ watchdog.calls task' = .starting purpose microseconds arm := by
  by_cases same : task' = task
  · subst same
    exact absurd (by simpa [goto] using starting) (other purpose microseconds arm)
  · exact ⟨same, by simpa [goto, Function.update_of_ne same] using starting⟩

theorem Sound.goto {call : WatchdogCall} (sound : watchdog.Sound now)
    (other : ∀ purpose microseconds arm, call ≠ .starting purpose microseconds arm)
    (granted : ∀ purpose, call ≠ .releasing purpose) : (watchdog.goto task call).Sound now := by
  have fewer : (watchdog.goto task call).Starting → watchdog.Starting :=
    fun ⟨task', purpose, microseconds, arm, starting⟩ =>
      ⟨task', purpose, microseconds, arm, (starting_goto other starting).2⟩
  refine { sound with kept := sound.kept.weaken fewer id, owner := ?_, unique := ?_, granted := ?_
                      fresh := fun busy => sound.fresh (busy.imp fewer id) }
  · exact fun task' purpose microseconds arm starting =>
      sound.owner task' purpose microseconds arm (starting_goto other starting).2
  · exact fun task' purpose microseconds arm starting second different purpose' microseconds' arm'
      again => sound.unique task' purpose microseconds arm (starting_goto other starting).2 second
        different purpose' microseconds' arm' (starting_goto other again).2
  · intro task' purpose
    by_cases same : task' = task
    · subst same
      simpa [Watchdog.goto] using granted purpose
    · simpa [Watchdog.goto, Function.update_of_ne same] using sound.granted task' purpose

theorem Sound.armTimeout (sound : watchdog.Sound now) (microseconds : Nat)
    (purpose : LifecycleWatchdogPurpose)
    (quietly : watchdog.ArmsQuietly (.armTimeout task microseconds purpose)) :
    (watchdog.armTimeout task microseconds purpose).Sound now := by
  unfold Watchdog.armTimeout
  split_ifs with free
  · have quiet := quietly free
    have none : watchdog.callbacks = [] := by
      refine List.eq_nil_iff_forall_not_mem.mpr fun callback member => ?_
      cases stage : callback with
      | waiting => exact quiet.claimed ⟨callback, member, by rw [stage]; rfl⟩
      | claiming purpose => exact quiet.claimed ⟨callback, member, by rw [stage]; rfl⟩
      | publishing purpose =>
          simpa [free] using (sound.claimed callback member purpose (.inl stage)).1
      | completing purpose =>
          simpa [free] using (sound.claimed callback member purpose (.inr stage)).1
    have unique : ∀ task' purpose' microseconds' arm,
        (watchdog.goto task (.starting purpose microseconds (watchdog.arms + 1))).calls task' =
          .starting purpose' microseconds' arm →
        task' = task ∧ microseconds' = microseconds ∧ arm = watchdog.arms + 1 := by
      intro task' purpose' microseconds' arm starting
      by_cases same : task' = task
      · subst same
        simp only [Watchdog.goto, Function.update_self, WatchdogCall.starting.injEq] at starting
        exact ⟨rfl, starting.2.1.symm, starting.2.2.symm⟩
      · simp only [Watchdog.goto, Function.update_of_ne same] at starting
        exact absurd ⟨task', purpose', microseconds', arm, starting⟩ quiet.started
    constructor
    case kept => exact (Kept.take quiet microseconds).weaken (fun _ => trivial) id
    case owner =>
      intro task' purpose' microseconds' arm starting
      obtain ⟨-, rfl, rfl⟩ := unique _ _ _ _ starting
      exact ⟨rfl, rfl⟩
    case unique =>
      intro task' purpose' microseconds' arm starting other different _ _ _ again
      exact different ((unique _ _ _ _ again).1.trans (unique _ _ _ _ starting).1.symm)
    case granted =>
      intro task' purpose'
      by_cases same : task' = task
      · simp [Watchdog.goto, same]
      · simpa [Watchdog.goto, Function.update_of_ne same] using sound.granted task' purpose'
    case fresh => exact fun _ => none
    case single => exact sound.single
    case claimed => simp [none, Watchdog.goto]
    case published => exact sound.published
  · exact sound

theorem Sound.startTimer {purpose : LifecycleWatchdogPurpose} {microseconds arm : Nat}
    (sound : watchdog.Sound now)
    (starting : watchdog.calls task = .starting purpose microseconds arm) :
    (watchdog.startTimer task now purpose microseconds arm).Sound now := by
  have yet : watchdog.Starting := ⟨task, purpose, microseconds, arm, starting⟩
  obtain ⟨rfl, rfl⟩ := sound.owner task purpose microseconds arm starting
  obtain ⟨accepted, kept⟩ := sound.kept.start yet
  have rest : (watchdog.goto task .idle).Sound now := sound.goto (by simp) (by simp)
  have none : ¬(watchdog.goto task .idle).Starting := by
    rintro ⟨other, purpose', microseconds, arm, again⟩
    obtain ⟨different, before⟩ := starting_goto (by simp) again
    exact sound.unique task purpose _ _ starting other different purpose' microseconds arm before
  rw [Watchdog.startTimer, accepted]
  simp only [if_true]
  exact { rest with
    kept := kept.weaken none id
    owner := fun other purpose microseconds arm again =>
      absurd ⟨other, purpose, microseconds, arm, again⟩ none
    fresh := fun _ => sound.fresh (.inl yet)
    claimed := fun callback member => by simp [Watchdog.goto, sound.fresh (.inl yet)] at member }

theorem Sound.advance {next : Watchdog ι} (sound : watchdog.Sound now)
    (stepped : watchdog.advance task now = some next) : next.Sound now := by
  unfold Watchdog.advance at stepped
  split at stepped
  case h_1 => cases stepped
  case h_2 purpose microseconds arm starting =>
    exact Option.some.inj stepped ▸ sound.startTimer starting
  case h_3 purpose releasing => exact absurd releasing (sound.granted task purpose)
  case h_4 purpose asking =>
    cases stepped
    refine sound.goto (fun _ _ _ => ?_) fun _ => ?_ <;> split_ifs <;> simp
  case h_5 purpose stopping =>
    cases stepped
    exact (sound.goto (by simp) (by simp)).stop
  case h_6 purpose completing =>
    cases stepped
    exact (sound.goto (by simp) (by simp)).exchange (.inr (by simp)) .none

theorem Sound.cancelTimeout (sound : watchdog.Sound now) (purpose : LifecycleWatchdogPurpose) :
    (watchdog.cancelTimeout task purpose).Sound now := by
  unfold Watchdog.cancelTimeout
  split_ifs with armed
  · have called : (watchdog.goto task (.asking purpose)).Sound now :=
      sound.goto (by simp) (by simp)
    exact called.rephase (.inr (by simp [Watchdog.goto, armed])) (.cancelling purpose)
  · exact sound

/-- Every access keeps what is sound, if an arm takes the watchdog only while it is quiet. -/
theorem Sound.step {act : WatchdogAct ι} {next : Watchdog ι} (sound : watchdog.Sound now)
    (quietly : watchdog.ArmsQuietly act) (stepped : watchdog.step now act = some next) :
    next.Sound now := by
  cases act with
  | armTimeout task microseconds purpose =>
      simp only [Watchdog.step, Option.ite_none_right_eq_some, Option.some.injEq] at stepped
      exact stepped.2 ▸ sound.armTimeout microseconds purpose quietly
  | cancelTimeout task purpose =>
      simp only [Watchdog.step, Option.ite_none_right_eq_some, Option.some.injEq] at stepped
      exact stepped.2 ▸ sound.cancelTimeout purpose
  | advance task => exact sound.advance stepped
  | expire =>
      obtain ⟨timer, due, rfl⟩ := Option.map_eq_some_iff.mp stepped
      exact sound.expire due
  | timeoutCallback index => exact sound.timeoutCallback stepped

omit [DecidableEq ι] in
theorem Sound.initial : ({} : Watchdog ι).Sound now := by
  have none : ¬({} : Watchdog ι).Starting := by simp [Watchdog.Starting]
  have inactive : ¬(({} : Watchdog ι).Starting ∨ ({} : Watchdog ι).timer.isActive) := by
    simp [none, OneShot.isActive]
  constructor
  case kept => exact ⟨fun yet => absurd yet none, by simp, by simp [Watchdog.Unclaimed]⟩
  case fresh => exact fun busy => absurd busy inactive
  all_goals simp

end Watchdog

end HidBot.BleTransport
