import HidBot.Route.Authority

/-!
# Durable invalidations and the handoff

A caller that loses the writer flag leaves its durable invalidation to the
writer. The writer looks for one before it leaves; an invalidation published
after that look, by a caller that then finds the flag still taken, stays.
-/

namespace HidBot.Route

open Interleaving

/-- No caller is in an operation, and none holds an exact claim. -/
structure Quiet (config : Runs) : Prop where
  idle : config.Idle
  free : config.shared.writer = .none

/-- When all is quiet, every accepted durable invalidation has been carried out. -/
structure InvalidationsConsumed (allowed : Runs → Label Task Operation → Prop) : Prop where
  consumed : ∀ config, Reaches program allowed boot config → Quiet config →
    config.shared.durableState = .none
  left : ∀ config, Reaches program allowed boot config → Quiet config →
    ∀ generation ∈ config.shared.record.requests,
      config.shared.core.generation = generation → config.shared.core.active = .none

/-- No caller loses the flag, with an active invalidation that it has published, to
a writer that has made its last check; and the generation does not wrap. -/
def neverLost (config : Runs) (label : Label Task Operation) : Prop :=
  ∀ next, config.step program label = some next →
    next.shared.record.lost = false ∧ next.shared.core.epoch < 2 ^ 32

theorem clean_of_neverLost {config : Runs} (reached : Reaches program neverLost boot config) :
    config.shared.record.lost = false ∧ config.shared.core.epoch < 2 ^ 32 := by
  cases reached with
  | refl => exact ⟨rfl, by decide⟩
  | step label _ admitted stepped => exact admitted _ stepped

theorem DurableSound.consumed_of_quiet {config : Runs} (sound : DurableSound config.shared)
    (conforming : Conforming config) (quiet : Quiet config) :
    config.shared.durableState = .none := by
  cases state : config.shared.durableState with
  | none => rfl
  | publishing =>
      have publisher := conforming.sound.publishing state
      obtain ⟨task, publishes⟩ := Option.ne_none_iff_exists'.mp publisher
      exact absurd publishes (conforming.idle task (quiet.idle task)).publisher
  | active =>
      rcases sound.found state with ⟨task, owes⟩ | ⟨busy, -⟩
      · have settled := (conforming.idle task (quiet.idle task)).owes
        simp [owes] at settled
      · exact absurd quiet.free busy

/-- **No durable invalidation is stranded** in any order of accesses in which no
caller loses the flag behind the last check of the writer. -/
theorem invalidations_consumed {allowed : Runs → Label Task Operation → Prop}
    (clean : ∀ config label, allowed config label → neverLost config label) :
    InvalidationsConsumed allowed where
  consumed config reached quiet := by
    have conforming := (boot_conforming.run reached).1
    obtain ⟨clean, bounded⟩ := clean_of_neverLost (reached.mono clean)
    exact (conforming.sound.durable clean bounded).consumed_of_quiet conforming quiet
  left config reached quiet generation accepted current := by
    have conforming := (boot_conforming.run reached).1
    obtain ⟨clean, bounded⟩ := clean_of_neverLost (reached.mono clean)
    have sound := conforming.sound.durable clean bounded
    rcases sound.requests generation accepted with past | ⟨pending, -⟩
    · exact past.not_active conforming.sound.core bounded current
    · exact absurd (sound.consumed_of_quiet conforming quiet) pending

theorem invalidations_consumed_neverLost : InvalidationsConsumed neverLost :=
  invalidations_consumed fun _ _ admitted => admitted

/-- A caller invalidates the route that another one has just committed, while that
one is between its last check and the release of the flag. -/
def invalidateBehindCheck : List (Label Task Operation) :=
  .call 0 .commitBleIfNone :: List.replicate 17 (.advance 0) ++
    .call 1 .invalidate :: List.replicate 6 (.advance 1) ++ List.replicate 11 (.advance 0)

/-- **An accepted invalidation is stranded** behind the last check of the writer. -/
theorem invalidation_stranded : ¬InvalidationsConsumed anyOrder := by
  intro consumed
  have final : (replay program invalidateBehindCheck boot).map (fun config =>
      (config.shared.durableState, config.shared.writer, (config.running 0).isNone,
        (config.running 1).isNone)) = some (.active, .none, true, true) := rfl
  obtain ⟨config, replayed, observed⟩ := Option.map_eq_some_iff.mp final
  simp only [Prod.mk.injEq, Option.isNone_iff_eq_none] at observed
  obtain ⟨stranded, free, first, second⟩ := observed
  have idle : config.Idle
    | 0 => first
    | 1 => second
    | _ + 2 => replay_running (by simp [invalidateBehindCheck, Label.task]) replayed
  have reached : Reaches program anyOrder boot config :=
    Reaches.of_replay (fun _ _ _ => trivial) replayed
  have none := consumed.consumed config reached ⟨idle, free⟩
  simp [stranded] at none

end HidBot.Route
