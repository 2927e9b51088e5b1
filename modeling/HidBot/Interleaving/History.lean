import HidBot.Interleaving.Rely

/-!
# History flags

A history flag remembers that an access of a certain kind has been made. It is
no part of the shared state: a run is followed by a run of the same programs on
the state with the flag, and contracts may speak about the flag.
-/

namespace HidBot.Interleaving

variable {ι σ ο ρ α β : Type}

namespace Program

/-- The call with a flag that turns true at the accesses that `noted` picks. -/
def noting (noted : (σ → σ) → σ → Prop) : Program σ α → Program (σ × Prop) α
  | done result => done result
  | access update next =>
      access (fun flagged => (update flagged.1, flagged.2 ∨ noted update flagged.1)) fun flagged =>
        (next flagged.1).noting noted

variable {noted : (σ → σ) → σ → Prop}

@[simp] theorem noting_done (result : α) :
    (done result : Program σ α).noting noted = done result := rfl

@[simp] theorem noting_access (update : σ → σ) (next : σ → Program σ α) :
    (access update next).noting noted =
      access (fun flagged => (update flagged.1, flagged.2 ∨ noted update flagged.1)) fun flagged =>
        (next flagged.1).noting noted := rfl

theorem noting_bind (call : Program σ α) (rest : α → Program σ β) :
    (call >>= rest).noting noted =
      call.noting noted >>= fun result => (rest result).noting noted := by
  induction call with
  | done result => rfl
  | access update next ih =>
      simp only [access_bind, noting_access]
      congr 1
      funext flagged
      exact ih flagged.1

/-- Each access with what it does to the flag. -/
theorem Each.noting {step : σ → σ → Prop} {call : Program σ α} (each : call.Each step) :
    (call.noting noted).Each fun before after =>
      step before.1 after.1 ∧ ∃ update, after = (update before.1, before.2 ∨ noted update before.1) := by
  induction call with
  | done result => trivial
  | access update next ih =>
      exact fun flagged => ⟨⟨(each flagged.1).1, update, rfl⟩, ih flagged.1 (each flagged.1).2⟩

end Program

namespace Config

variable [DecidableEq ι] (noted : ι → (σ → σ) → σ → Prop) {program : ι → ο → Program σ ρ}
  {config next : Config ι σ ο ρ} {label : Label ι ο}

/-- The configuration with the flag. -/
def noting (config : Config ι σ ο ρ) (seen : Prop) :
    Config ι (σ × Prop) ο ρ where
  shared := (config.shared, seen)
  running task := (config.running task).map fun entry => (entry.1, entry.2.noting (noted task))
  history := config.history

theorem noting_update (task : ι) (entry : Option (ο × Program σ ρ)) :
    (fun other => (Function.update config.running task entry other).map fun entry =>
        (entry.1, entry.2.noting (noted other))) =
      Function.update (fun other => (config.running other).map fun entry =>
        (entry.1, entry.2.noting (noted other))) task
        (entry.map fun entry => (entry.1, entry.2.noting (noted task))) := by
  funext other
  by_cases same : other = task
  · subst same
    simp
  · simp [Function.update_of_ne same]

/-- Every step is a step of the configuration with the flag. -/
theorem noting_step (stepped : config.step program label = some next) (seen : Prop) :
    ∃ later, (config.noting noted seen).step
      (fun task operation => (program task operation).noting (noted task)) label =
        some (next.noting noted later) := by
  rcases step_cases stepped with
    ⟨task, operation, rfl, idle, rfl⟩ | ⟨task, operation, update, rest, rfl, running, rfl⟩ |
      ⟨task, operation, result, rfl, running, rfl⟩
  · refine ⟨seen, ?_⟩
    simp [step, noting, idle, noting_update noted]
  · refine ⟨seen ∨ noted task update config.shared, ?_⟩
    simp [step, noting, running, noting_update noted]
  · refine ⟨seen, ?_⟩
    simp [step, noting, running, noting_update noted]

end Config

/-- What holds of a run with the flag holds of the run. -/
theorem Reaches.induct_noting [DecidableEq ι] {noted : ι → (σ → σ) → σ → Prop}
    {program : ι → ο → Program σ ρ} {allowed : Config ι σ ο ρ → Label ι ο → Prop}
    {start final : Config ι σ ο ρ} {property : Config ι σ ο ρ → Prop → Prop} {seen : Prop}
    (initially : property start seen)
    (preserved : ∀ config seen label next later, property config seen → allowed config label →
      config.step program label = some next →
      (config.noting noted seen).step
        (fun task operation => (program task operation).noting (noted task)) label =
          some (next.noting noted later) → property next later)
    (reached : Reaches program allowed start final) : ∃ later, property final later := by
  induction reached with
  | refl => exact ⟨seen, initially⟩
  | @step config next label _ admitted stepped ih =>
      obtain ⟨seen, holds⟩ := ih
      obtain ⟨later, flagged⟩ := Config.noting_step noted stepped seen
      exact ⟨later, preserved config seen label next later holds admitted stepped flagged⟩

end HidBot.Interleaving
