import HidBot.Route.Operations

/-!
# Runs of route callers

Any number of callers, each one operation at a time. Every configuration of a
run is sound, and a caller between two calls is outside the writer flag or holds
the exact claim it took.
-/

namespace HidBot.Route

open Interleaving

inductive Operation where
  | commitUsbIfNone (cut : Option UsbPublicationCut) (turns : List Bool)
  | commitBleIfNone
  | beginRelease (transport : Transport)
  | completeRelease (transport : Transport) (expected : Snapshot)
  | invalidate
  | invalidateIfMatches (expected : Snapshot)
  | claimInvalidationIfMatches (expected : Snapshot) (token : ConditionalInvalidationToken)
      (reused : Bool) (attempts : Nat)
  | cancelConditionalInvalidation (generation : Generation) (token : ConditionalInvalidationToken)
  | retireInvalidationClaim
  | releaseInvalidationClaim
  | publishUsbLifecycleVeto (turns : List Bool)
  | snapshot
  | matchesRoute (route : OutputRoute) (generation : Generation)
  deriving DecidableEq, Repr

inductive Response where
  | done
  | flag (result : Bool)
  | observed (snapshot : Snapshot)
  | stageA (snapshot : Option Snapshot)
  | claim (result : InvalidationClaimResult) (token : ConditionalInvalidationToken)
  deriving DecidableEq, Repr

def program (task : Task) : Operation → Program Words Response
  | .commitUsbIfNone cut turns => do return .flag (← commitUsbIfNone task cut turns)
  | .commitBleIfNone => do return .flag (← commitBleIfNone task)
  | .beginRelease transport => do return .stageA (← beginRelease task transport)
  | .completeRelease transport expected => do
      return .flag (← completeRelease task transport expected)
  | .invalidate => do return .flag (← invalidate task)
  | .invalidateIfMatches expected => do return .flag (← invalidateIfMatches task expected)
  | .claimInvalidationIfMatches expected token reused attempts => do
      let answer ← claimInvalidationIfMatches task expected token reused attempts
      return .claim answer.1 answer.2
  | .cancelConditionalInvalidation generation token => do
      return .flag (← cancelConditionalInvalidation generation token)
  | .retireInvalidationClaim => do return .flag (← retireClaim task)
  | .releaseInvalidationClaim => do
      releaseClaim task
      return .done
  | .publishUsbLifecycleVeto turns => do
      publishUsbLifecycleVeto turns
      return .done
  | .snapshot => do return .observed (← snapshot)
  | .matchesRoute route generation => do return .flag (← matchesRoute route generation)

abbrev Runs := Config Task Words Operation Response

def boot : Runs := Config.initial {}

/-- Every caller may make any call, in any order of accesses. -/
def anyOrder (_ : Runs) (_ : Label Task Operation) : Prop := True

/-! ### Every call keeps the contract -/

theorem matches_aside (route : OutputRoute) (generation : Generation) :
    (matchesRoute route generation).Each Aside := by
  refine .bind pending_aside fun pending => ?_
  split
  · trivial
  refine .bind (read_aside _) fun active => ?_
  split
  · trivial
  · exact .bind (read_aside _) fun _ => trivial

theorem program_safe {task : Task} {words : Words} (operation : Operation)
    (outside : Outside task false words) :
    (program task operation).Safe (Interference task) (Promise task)
      (fun _ later => Outside task false later) words := by
  have aside {α : Type} {call : Program Words α} (each : call.Each Aside) :=
    aside_safe (fun _ _ => Outside.stable) each outside
  cases operation with
  | commitUsbIfNone cut turns => exact .map _ (commitUsbIfNone_safe cut turns outside)
  | commitBleIfNone => exact .map _ (commitIfNone_safe .ble {} [] outside)
  | beginRelease transport => exact .map _ (beginRelease_safe transport outside)
  | completeRelease transport expected =>
      exact .map _ (completeRelease_safe transport expected outside)
  | invalidate => exact .map _ (invalidate_safe outside)
  | invalidateIfMatches expected => exact .map _ (invalidateIfMatches_safe expected outside)
  | claimInvalidationIfMatches expected token reused attempts =>
      exact .map _ (claimInvalidation_safe expected token reused attempts outside)
  | cancelConditionalInvalidation generation token =>
      exact .map _ (aside (cancelConditional_aside generation token))
  | retireInvalidationClaim => exact .map _ (retireClaim_safe outside)
  | releaseInvalidationClaim => exact .map _ (releaseClaim_safe outside)
  | publishUsbLifecycleVeto turns => exact .map _ (aside (veto_aside turns))
  | snapshot => exact .map _ (aside snapshot_aside)
  | matchesRoute route generation => exact .map _ (aside (matches_aside route generation))

def contract : Contract Task Words Operation Response where
  rely task _ := Interference task
  guar task _ := Promise task
  post task _ _ := Outside task false
  refl task _ := Interference.refl task
  trans _ _ _ _ _ := Interference.trans

/-- The words are sound, every running call keeps its contract, and a caller
between two calls owes nothing. -/
structure Conforming (config : Runs) : Prop where
  sound : config.shared.Sound
  running : contract.Conforms config
  idle : ∀ task, config.running task = none → Outside task false config.shared

/-- A promise to all others is one to some other caller. -/
theorem Promise.toSome {task : Task} {before after : Words} (promise : Promise task before after) :
    Interference (task + 1) before after := promise (task + 1) (Nat.succ_ne_self task)

theorem boot_sound : Words.Sound {} where
  core := ⟨fun _ => ⟨by simp, fun _ => rfl⟩, by simp, rfl⟩
  idle _ := ⟨rfl, rfl⟩
  claim := by simp
  publisher := by simp
  publishing := by simp
  durable _ _ := ⟨by simp, by simp, by simp, fun _ => .inr ⟨rfl, rfl, rfl⟩⟩

theorem boot_conforming : Conforming boot where
  sound := boot_sound
  running := Contract.conforms_initial _
  idle task _ := ⟨boot_sound, rfl, by simp [boot, Config.initial], by simp [boot, Config.initial]⟩

/-- One step keeps every contract and only advances the route. -/
theorem Conforming.step {config next : Runs} {label : Label Task Operation}
    (conforming : Conforming config) (stepped : config.step program label = some next) :
    Conforming next ∧ config.shared.core.Advances next.shared.core := by
  obtain ⟨running, changed⟩ := conforming.running.step
    (fun task operation _ idle => program_safe operation (conforming.idle task idle))
    (fun task operation update rest other operation' call' _ different _ _ after promise =>
      promise other (Ne.symm different)) stepped
  have sound : next.shared.Sound := by
    rcases changed with same | ⟨task, operation, call, -, promise⟩
    · exact same ▸ conforming.sound
    · exact promise.toSome.sound conforming.sound
  have advances : config.shared.core.Advances next.shared.core := by
    rcases changed with same | ⟨task, operation, call, -, promise⟩
    · exact same ▸ .refl _
    · exact promise.toSome.advances
  refine ⟨⟨sound, running, fun task idle => ?_⟩, advances⟩
  rcases Config.step_cases stepped with
    ⟨caller, operation, rfl, free, rfl⟩ | ⟨caller, operation, update, rest, rfl, found, rfl⟩ |
      ⟨caller, operation, result, rfl, found, rfl⟩
  · by_cases same : task = caller
    · simp [same] at idle
    · exact conforming.idle task (by simpa [Function.update_of_ne same] using idle)
  · by_cases same : task = caller
    · simp [same] at idle
    · have promise := (conforming.running caller operation _ found _ (Interference.refl ..)).1
      have before := conforming.idle task (by simpa [Function.update_of_ne same] using idle)
      exact before.stable (promise task same)
  · by_cases same : task = caller
    · subst same
      exact conforming.running.returned found
    · exact conforming.idle task (by simpa [Function.update_of_ne same] using idle)

theorem Conforming.run {allowed : Runs → Label Task Operation → Prop} {earlier later : Runs}
    (conforming : Conforming earlier) (reached : Reaches program allowed earlier later) :
    Conforming later ∧ earlier.shared.core.Advances later.shared.core := by
  induction reached with
  | refl => exact ⟨conforming, .refl _⟩
  | step label _ _ stepped ih =>
      obtain ⟨conforming, advances⟩ := ih
      obtain ⟨conforming, further⟩ := conforming.step stepped
      exact ⟨conforming, advances.trans further⟩

end HidBot.Route
