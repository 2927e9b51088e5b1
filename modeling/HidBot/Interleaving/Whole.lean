import HidBot.Interleaving.Rely

/-!
# Runs of whole calls

Where only the order of calls matters, a call is one step. `Follows` ranges over
every order of calls that a policy allows; a list of calls is one order.
-/

namespace HidBot.Interleaving

variable {σ ο : Type}

/-- The states reached from `start` by calls that `allowed` admits. -/
inductive Follows (call : ο → σ → σ) (allowed : σ → ο → Prop) (start : σ) : σ → Prop where
  | refl : Follows call allowed start start
  | step {state : σ} (operation : ο) :
      Follows call allowed start state → allowed state operation →
      Follows call allowed start (call operation state)

namespace Follows

variable {call : ο → σ → σ} {allowed : σ → ο → Prop} {start middle final : σ}

/-- What holds at the start and survives every allowed call holds in every run. -/
theorem induct {property : σ → Prop} (initially : property start)
    (preserved : ∀ state operation, property state → allowed state operation →
      property (call operation state))
    (follows : Follows call allowed start final) : property final := by
  induction follows with
  | refl => exact initially
  | step operation _ admitted ih => exact preserved _ operation ih admitted

theorem trans (first : Follows call allowed start middle)
    (second : Follows call allowed middle final) : Follows call allowed start final := by
  induction second with
  | refl => exact first
  | step operation _ admitted ih => exact .step operation ih admitted

/-- One order of calls, if the policy admits every call in every state. -/
theorem of_calls (operations : List ο)
    (admitted : ∀ operation ∈ operations, ∀ state, allowed state operation) :
    Follows call allowed start (operations.foldl (fun state operation => call operation state)
      start) := by
  induction operations generalizing start with
  | nil => exact .refl
  | cons operation operations ih =>
      have first : Follows call allowed start (call operation start) :=
        .step operation .refl (admitted operation (by simp) start)
      exact first.trans (ih fun later member => admitted later (by simp [member]))

end Follows

namespace Program

variable {α : Type} {step : σ → σ → Prop}

/-- What every access does, a whole call does. -/
theorem Each.exec (refl : ∀ state, step state state)
    (trans : ∀ first second third, step first second → step second third → step first third)
    {call : Program σ α} (each : call.Each step) (state : σ) : step state (call.exec state).2 := by
  induction call generalizing state with
  | done result => exact refl state
  | access update next ih =>
      exact trans _ _ _ (each state).1 (ih state (each state).2 (update state))

/-- A call of loads changes nothing. -/
theorem Each.exec_loads {call : Program σ α} (loads : call.Each fun before after => after = before)
    (state : σ) : (call.exec state).2 = state := by
  induction call generalizing state with
  | done result => rfl
  | access update next ih => exact (ih state (loads state).2 (update state)).trans (loads state).1

end Program

end HidBot.Interleaving
