import HidBot.Interleaving.Scripted
import HidBot.Runtime.Callbacks
import Mathlib.Data.List.Basic

/-!
# The SOF watchdog

The executor samples the USB link. A link that stays the same without a heartbeat for
as long as the timeout is reported to the runtime as stalled, and a verdict that is
pending is asked for again with its token. The runtime may change in any way, in a
turn and between two of them.
-/

namespace HidBot.Runtime

open Interleaving

def usbSofStallTimeoutMs : UInt32 := 100

/-- `usb_link_watchdog_snapshot`, if the link is one to be watched. -/
def usbLinkWatchdogSnapshot : Program Words (Option UsbLinkWatchdogSnapshot) := do
  let lifecycle ← usbSnapshot
  let runtime ← status
  let route ← routeSnapshot
  let authority ← authorityEpoch
  let sofHeartbeat ← .read (·.sofHeartbeat)
  let snapshot : UsbLinkWatchdogSnapshot :=
    { attachGeneration := lifecycle.generation
      authorityEpoch := authority
      routeGeneration := route.generation
      sofHeartbeat }
  if lifecycle.desired = .exposed ∧ lifecycle.observed = .mounted ∧
      lifecycle.recoveryRequired = false ∧ runtime.mounted = true ∧ runtime.suspended = false ∧
      route.coherent = true ∧ route.invalidationPending = false ∧ route.desired = .usb ∧
      route.active = .usb ∧ route.transition = .stable then
    return some snapshot
  else return none

def sameUsbLinkWatchdogIdentity (left right : UsbLinkWatchdogSnapshot) : Bool :=
  left.attachGeneration == right.attachGeneration &&
    left.authorityEpoch == right.authorityEpoch && left.routeGeneration == right.routeGeneration

/-- While pending, `lastProgressMs` holds the token of the verdict. -/
structure UsbSofWatchdogState where
  identity : UsbLinkWatchdogSnapshot := {}
  lastProgressMs : UInt32 := 0
  armed : Bool := false
  pending : Bool := false
  deriving DecidableEq, Repr

/-- The watchdog with an identity that makes progress now. -/
def UsbSofWatchdogState.watching (identity : UsbLinkWatchdogSnapshot) (nowMs : UInt32) :
    UsbSofWatchdogState :=
  { identity, lastProgressMs := nowMs, armed := true }

/-- A call of `on_usb_link_stall` with its answer. -/
structure StallCall where
  identity : UsbLinkWatchdogSnapshot
  token : Route.ConditionalInvalidationToken
  result : UsbLinkStallResult
  given : Route.ConditionalInvalidationToken
  deriving DecidableEq, Repr

/-- What a turn returns and leaves, and what it has seen and asked. -/
structure WatchdogTurn where
  nowMs : UInt32
  sample : Option UsbLinkWatchdogSnapshot
  stall : Option StallCall := none
  refreshed : Option UsbLinkWatchdogSnapshot := none
  watchdog : UsbSofWatchdogState
  fired : Bool := false
  deriving DecidableEq, Repr

/-- The common end of the two calls of `on_usb_link_stall`. -/
def settleStall (nowMs : UInt32) (sample : Option UsbLinkWatchdogSnapshot) (call : StallCall)
    (watchdog : UsbSofWatchdogState) : Program Words WatchdogTurn :=
  match call.result with
  | .pending =>
      return { nowMs, sample, stall := some call, watchdog :=
        { watchdog with lastProgressMs := call.given, pending := true } }
  | .applied => return { nowMs, sample, stall := some call, watchdog := {}, fired := true }
  | .stale => do
      let refreshed ← usbLinkWatchdogSnapshot
      return { nowMs, sample, stall := some call, refreshed, watchdog :=
        (refreshed.map (.watching · nowMs)).getD {} }

def reconcileUsbSofWatchdog (task : Route.Task) (nowMs : UInt32) (watchdog : UsbSofWatchdogState) :
    Program Words WatchdogTurn := do
  match ← usbLinkWatchdogSnapshot with
  | none =>
      if watchdog.armed && watchdog.pending then
        let (result, given) ← onUsbLinkStall task watchdog.identity watchdog.lastProgressMs
        settleStall nowMs none ⟨watchdog.identity, watchdog.lastProgressMs, result, given⟩ watchdog
      else return { nowMs, sample := none, watchdog := {} }
  | some current =>
      if !watchdog.armed || !sameUsbLinkWatchdogIdentity watchdog.identity current then
        return { nowMs, sample := some current, watchdog := .watching current nowMs }
      else if watchdog.identity.sofHeartbeat ≠ current.sofHeartbeat then
        return { nowMs, sample := some current, watchdog :=
          { watchdog with identity := current, lastProgressMs := nowMs, pending := false } }
      else if nowMs - watchdog.lastProgressMs < usbSofStallTimeoutMs then
        return { nowMs, sample := some current, watchdog }
      else
        let none := Route.noConditionalInvalidationToken
        let (result, given) ← onUsbLinkStall task current none
        settleStall nowMs (some current) ⟨current, none, result, given⟩ watchdog

/-! ### One turn -/

/-- A turn that ends with the answer to this call. -/
structure Settled (watchdog : UsbSofWatchdogState) (call : StallCall) (turn : WatchdogTurn) :
    Prop where
  stall : turn.stall = some call
  pending : call.result = .pending →
    turn.watchdog = { watchdog with lastProgressMs := call.given, pending := true }
  settled : call.result ≠ .pending → turn.watchdog = {} ∨
    ∃ identity, turn.refreshed = some identity ∧ turn.watchdog = .watching identity turn.nowMs

/-- What a turn can do. -/
inductive WatchdogStep (watchdog : UsbSofWatchdogState) (turn : WatchdogTurn) : Prop where
  | idle (unasked : turn.stall = none) (after : turn.watchdog = {})
  | recorded {current : UsbLinkWatchdogSnapshot} (sampled : turn.sample = some current)
      (unasked : turn.stall = none) (after : turn.watchdog = .watching current turn.nowMs)
  | waiting (armed : watchdog.armed = true) (sampled : turn.sample = some watchdog.identity)
      (unasked : turn.stall = none) (after : turn.watchdog = watchdog)
  | started (armed : watchdog.armed = true) (sampled : turn.sample = some watchdog.identity)
      {call : StallCall} (identity : call.identity = watchdog.identity)
      (token : call.token = Route.noConditionalInvalidationToken)
      (elapsed : usbSofStallTimeoutMs ≤ turn.nowMs - watchdog.lastProgressMs)
      (settled : Settled watchdog call turn)
  | continued (armed : watchdog.armed = true) (pending : watchdog.pending = true)
      (unsampled : turn.sample = none) {call : StallCall}
      (identity : call.identity = watchdog.identity)
      (token : call.token = watchdog.lastProgressMs) (settled : Settled watchdog call turn)

theorem settleStall_ends (nowMs : UInt32) (sample : Option UsbLinkWatchdogSnapshot)
    (call : StallCall) (watchdog : UsbSofWatchdogState) :
    (settleStall nowMs sample call watchdog).Ends fun turn =>
      turn.nowMs = nowMs ∧ turn.sample = sample ∧ Settled watchdog call turn := by
  unfold settleStall
  split
  · rename_i result
    exact ⟨rfl, rfl, rfl, fun _ => rfl, fun other => absurd result other⟩
  · rename_i result
    exact ⟨rfl, rfl, rfl, fun other => absurd (result.symm.trans other) (by decide),
      fun _ => .inl rfl⟩
  · rename_i result
    refine .bind (Program.ends_any _) fun refreshed _ => ⟨rfl, rfl, rfl, ?_, fun _ => ?_⟩
    · exact fun other => absurd (result.symm.trans other) (by decide)
    · cases refreshed with
      | none => exact .inl rfl
      | some identity => exact .inr ⟨identity, rfl, rfl⟩

theorem identity_eq {left right : UsbLinkWatchdogSnapshot}
    (same : sameUsbLinkWatchdogIdentity left right = true)
    (heartbeat : left.sofHeartbeat = right.sofHeartbeat) : left = right := by
  simp only [sameUsbLinkWatchdogIdentity, Bool.and_eq_true, beq_iff_eq] at same
  cases left
  cases right
  simp_all

theorem reconcile_ends (task : Route.Task) (nowMs : UInt32) (watchdog : UsbSofWatchdogState) :
    (reconcileUsbSofWatchdog task nowMs watchdog).Ends fun turn =>
      turn.nowMs = nowMs ∧ WatchdogStep watchdog turn := by
  refine .bind (Program.ends_any _) fun sample _ => ?_
  cases sample with
  | none =>
      dsimp only
      split
      · rename_i both
        obtain ⟨armed, pending⟩ := (Bool.and_eq_true ..).mp both
        refine .bind (Program.ends_any _) fun answer _ => ?_
        refine (settleStall_ends ..).mono fun turn ⟨now, unsampled, settled⟩ => ⟨now, ?_⟩
        exact .continued armed pending unsampled rfl rfl settled
      · exact ⟨rfl, .idle rfl rfl⟩
  | some current =>
      dsimp only
      split
      · exact ⟨rfl, .recorded rfl rfl rfl⟩
      rename_i known
      simp only [Bool.or_eq_true, Bool.not_eq_true', not_or, Bool.not_eq_false] at known
      split
      · refine ⟨rfl, .recorded rfl rfl ?_⟩
        simp [UsbSofWatchdogState.watching, known.1]
      rename_i silent
      have same := identity_eq known.2 (Decidable.not_not.mp silent)
      split
      · exact ⟨rfl, .waiting known.1 (congrArg some same.symm) rfl rfl⟩
      rename_i elapsed
      refine .bind (Program.ends_any _) fun answer _ => ?_
      refine (settleStall_ends ..).mono fun turn ⟨now, sampled, settled⟩ => ⟨now, ?_⟩
      refine .started known.1 (sampled.trans (congrArg some same.symm)) same.symm rfl ?_ settled
      rw [now]
      exact UInt32.not_lt.mp elapsed

theorem step_of_returns {task : Route.Task} {nowMs : UInt32} {watchdog : UsbSofWatchdogState}
    {turn : WatchdogTurn} (returns : (reconcileUsbSofWatchdog task nowMs watchdog).Returns turn) :
    WatchdogStep watchdog turn :=
  ((reconcile_ends task nowMs watchdog).returned returns).2

/-! ### Runs -/

/-- Turns one after the other, from a watchdog that is not armed, and how they leave it. -/
inductive WatchdogRun (task : Route.Task) : List WatchdogTurn → UsbSofWatchdogState → Prop where
  | start : WatchdogRun task [] {}
  | turn {turns : List WatchdogTurn} {watchdog : UsbSofWatchdogState} {nowMs : UInt32}
      {turn : WatchdogTurn} : WatchdogRun task turns watchdog →
      (reconcileUsbSofWatchdog task nowMs watchdog).Returns turn →
        WatchdogRun task (turns ++ [turn]) turn.watchdog

/-- The turn has sampled the identity, and recorded it with its own time. -/
structure Recorded (identity : UsbLinkWatchdogSnapshot) (turn : WatchdogTurn) : Prop where
  sampled : turn.sample = some identity ∨ turn.refreshed = some identity
  recorded : turn.watchdog = .watching identity turn.nowMs

/-- The turn has asked about the identity. -/
def WatchdogTurn.asks (turn : WatchdogTurn) (identity : UsbLinkWatchdogSnapshot) : Prop :=
  ∃ call, turn.stall = some call ∧ call.identity = identity

/-- The last call of these turns is this one. -/
def LastCall (turns : List WatchdogTurn) (call : StallCall) : Prop :=
  ∃ older asked between, turns = older ++ asked :: between ∧ asked.stall = some call ∧
    ∀ turn ∈ between, turn.stall = none

/-- What the watchdog holds after these turns: its identity was recorded, and since then
it has been asked about and the answer is pending, or every sample was the same. -/
structure Watching (turns : List WatchdogTurn) (watchdog : UsbSofWatchdogState) : Prop where
  recorded : watchdog.armed = true → ∃ older recorded between,
    turns = older ++ recorded :: between ∧ Recorded watchdog.identity recorded ∧
      (watchdog.pending = true → ∃ asked ∈ between, asked.asks watchdog.identity) ∧
      (watchdog.pending = false → watchdog.lastProgressMs = recorded.nowMs ∧
        ∀ turn ∈ between, turn.sample = some watchdog.identity)
  pending : watchdog.pending = true → ∃ call, LastCall turns call ∧ call.result = .pending ∧
    call.identity = watchdog.identity ∧ call.given = watchdog.lastProgressMs

theorem LastCall.concat {turns : List WatchdogTurn} {call : StallCall} {turn : WatchdogTurn}
    (last : LastCall turns call) (unasked : turn.stall = none) :
    LastCall (turns ++ [turn]) call := by
  obtain ⟨older, asked, between, rfl, stall, silent⟩ := last
  refine ⟨older, asked, between ++ [turn], by simp, stall, fun other member => ?_⟩
  rcases List.mem_append.mp member with inside | here
  · exact silent other inside
  · exact List.mem_singleton.mp here ▸ unasked

theorem LastCall.last {turns : List WatchdogTurn} {call : StallCall} {turn : WatchdogTurn}
    (asked : turn.stall = some call) : LastCall (turns ++ [turn]) call :=
  ⟨turns, turn, [], rfl, asked, nofun⟩

namespace Watching

variable {turns : List WatchdogTurn} {watchdog : UsbSofWatchdogState} {turn : WatchdogTurn}
  {call : StallCall}

theorem unarmed (turns : List WatchdogTurn) : Watching turns {} := ⟨nofun, nofun⟩

theorem watching {identity : UsbLinkWatchdogSnapshot} (recorded : Recorded identity turn) :
    Watching (turns ++ [turn]) turn.watchdog := by
  rw [recorded.recorded]
  refine ⟨fun _ => ⟨turns, turn, [], rfl, recorded, nofun, fun _ => ⟨rfl, nofun⟩⟩, nofun⟩

theorem waiting (kept : Watching turns watchdog) (armed : watchdog.armed = true)
    (sampled : turn.sample = some watchdog.identity) (unasked : turn.stall = none) :
    Watching (turns ++ [turn]) watchdog := by
  obtain ⟨older, recorded, between, same, here, asked, unchanged⟩ := kept.recorded armed
  refine ⟨fun _ => ⟨older, recorded, between ++ [turn], by simp [same], here, fun pending => ?_,
    fun settled => ⟨(unchanged settled).1, fun other member => ?_⟩⟩, fun pending => ?_⟩
  · obtain ⟨other, member, asks⟩ := asked pending
    exact ⟨other, List.mem_append_left _ member, asks⟩
  · rcases List.mem_append.mp member with inside | last
    · exact (unchanged settled).2 other inside
    · exact List.mem_singleton.mp last ▸ sampled
  · obtain ⟨call, last, rest⟩ := kept.pending pending
    exact ⟨call, last.concat unasked, rest⟩

theorem settled (kept : Watching turns watchdog) (armed : watchdog.armed = true)
    (identity : call.identity = watchdog.identity) (settled : Settled watchdog call turn) :
    Watching (turns ++ [turn]) turn.watchdog := by
  by_cases pending : call.result = .pending
  · obtain ⟨older, recorded, between, same, here, -, -⟩ := kept.recorded armed
    rw [settled.pending pending]
    refine ⟨fun _ => ⟨older, recorded, between ++ [turn], by simp [same], here, fun _ => ?_, nofun⟩,
      fun _ => ⟨call, .last settled.stall, pending, identity, rfl⟩⟩
    exact ⟨turn, by simp, call, settled.stall, identity⟩
  · rcases settled.settled pending with unarmed | ⟨refreshed, sampled, watching⟩
    · rw [unarmed]
      exact .unarmed _
    · exact .watching ⟨.inr sampled, watching⟩

theorem step (kept : Watching turns watchdog) (step : WatchdogStep watchdog turn) :
    Watching (turns ++ [turn]) turn.watchdog := by
  cases step with
  | idle unasked after =>
      rw [after]
      exact .unarmed _
  | recorded sampled unasked after => exact .watching ⟨.inl sampled, after⟩
  | waiting armed sampled unasked after =>
      rw [after]
      exact kept.waiting armed sampled unasked
  | started armed sampled identity token elapsed settled => exact kept.settled armed identity settled
  | continued armed pending unsampled identity token settled =>
      exact kept.settled armed identity settled

end Watching

theorem WatchdogRun.kept {task : Route.Task} {turns : List WatchdogTurn}
    {watchdog : UsbSofWatchdogState} (run : WatchdogRun task turns watchdog) :
    Watching turns watchdog := by
  induction run with
  | start => exact .unarmed []
  | turn _ returns ih => exact ih.step (step_of_returns returns)

/-- What stands behind a call in a turn after these. -/
structure Justified (before : List WatchdogTurn) (turn : WatchdogTurn) (call : StallCall) :
    Prop where
  /-- The identity was recorded. If it has not been asked about since, every sample since
  has shown it with its heartbeat, and the timeout has elapsed. -/
  first : ∃ older recorded between, before = older ++ recorded :: between ∧
    Recorded call.identity recorded ∧ ((∃ asked ∈ between, asked.asks call.identity) ∨
      (∀ sampled ∈ between ++ [turn], sampled.sample = some call.identity) ∧
        usbSofStallTimeoutMs ≤ turn.nowMs - recorded.nowMs)
  /-- The call asks for a verdict without a token, or for the one that the last call left
  pending, with the token that it was given. -/
  token : turn.sample = some call.identity ∧
      call.token = Route.noConditionalInvalidationToken ∨
    turn.sample = none ∧ ∃ earlier, LastCall before earlier ∧ earlier.result = .pending ∧
      earlier.identity = call.identity ∧ call.token = earlier.given
  /-- A verdict leaves the watchdog unarmed, or with the time of this turn. -/
  settled : call.result ≠ .pending →
    turn.watchdog = {} ∨ Recorded turn.watchdog.identity turn

theorem Settled.recorded {watchdog : UsbSofWatchdogState} {turn : WatchdogTurn} {call : StallCall}
    (settled : Settled watchdog call turn) (verdict : call.result ≠ .pending) :
    turn.watchdog = {} ∨ Recorded turn.watchdog.identity turn := by
  refine (settled.settled verdict).imp id fun ⟨identity, sampled, watching⟩ => ?_
  rw [watching]
  exact ⟨.inr sampled, watching⟩

theorem Watching.justified {before : List WatchdogTurn} {watchdog : UsbSofWatchdogState}
    {turn : WatchdogTurn} {call : StallCall} (kept : Watching before watchdog)
    (step : WatchdogStep watchdog turn) (stall : turn.stall = some call) :
    Justified before turn call := by
  cases step with
  | idle unasked _ => exact nomatch unasked.symm.trans stall
  | recorded _ unasked _ => exact nomatch unasked.symm.trans stall
  | waiting _ _ unasked _ => exact nomatch unasked.symm.trans stall
  | started armed sampled identity token elapsed settled =>
      cases settled.stall.symm.trans stall
      obtain ⟨older, recorded, between, same, here, asked, unchanged⟩ := kept.recorded armed
      rw [← identity] at here sampled asked unchanged
      refine ⟨⟨older, recorded, between, same, here, ?_⟩, .inl ⟨sampled, token⟩, settled.recorded⟩
      by_cases pending : watchdog.pending = true
      · exact .inl (asked pending)
      · obtain ⟨time, unmoved⟩ := unchanged (Bool.eq_false_iff.mpr pending)
        refine .inr ⟨fun other member => ?_, time ▸ elapsed⟩
        rcases List.mem_append.mp member with inside | last
        · exact unmoved other inside
        · exact List.mem_singleton.mp last ▸ sampled
  | continued armed pending unsampled identity token settled =>
      cases settled.stall.symm.trans stall
      obtain ⟨older, recorded, between, same, here, asked, -⟩ := kept.recorded armed
      obtain ⟨earlier, last, unanswered, about, given⟩ := kept.pending pending
      rw [← identity] at here asked about
      refine ⟨⟨older, recorded, between, same, here, .inl (asked pending)⟩, .inr ⟨unsampled, ?_⟩,
        settled.recorded⟩
      exact ⟨earlier, last, unanswered, about, token.trans given.symm⟩

/-- A turn of a run comes after a run of the turns before it. -/
theorem WatchdogRun.earlier {task : Route.Task} {before later : List WatchdogTurn}
    {turn : WatchdogTurn} {watchdog : UsbSofWatchdogState}
    (run : WatchdogRun task (before ++ turn :: later) watchdog) :
    ∃ earlier, WatchdogRun task before earlier ∧ WatchdogStep earlier turn := by
  generalize same : before ++ turn :: later = turns at run
  induction run generalizing later with
  | start => exact absurd same (by simp)
  | @turn turns earlier nowMs last run returns ih =>
      rcases List.eq_nil_or_concat' later with rfl | ⟨later, other, rfl⟩
      · obtain ⟨rfl, here⟩ := List.append_inj' same rfl
        cases here
        exact ⟨earlier, run, step_of_returns returns⟩
      · rw [← List.cons_append, ← List.append_assoc] at same
        exact ih (List.append_inj' same rfl).1

end HidBot.Runtime
