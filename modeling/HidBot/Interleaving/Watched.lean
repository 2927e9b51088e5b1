import HidBot.Interleaving.Rely

/-!
# History variables

Each access of a call updates a history variable by what it does to the shared
state. The variable is no part of that state, and no call reads it.
-/

namespace HidBot.Interleaving

variable {σ γ α β : Type}

namespace Program

/-- The call with a history variable that each access updates. -/
def watching (note : σ → σ → γ → γ) : Program σ α → Program (σ × γ) α
  | done result => done result
  | access update next =>
      access (fun watched => (update watched.1, note watched.1 (update watched.1) watched.2))
        fun watched => (next watched.1).watching note

variable {note : σ → σ → γ → γ}

theorem watching_bind (call : Program σ α) (rest : α → Program σ β) :
    (call >>= rest).watching note =
      call.watching note >>= fun result => (rest result).watching note := by
  induction call with
  | done result => rfl
  | access update next ih =>
      simp only [access_bind, watching]
      congr 1
      funext watched
      exact ih watched.1

/-- Each access with what it does to the variable. -/
theorem Each.watching {step : σ → σ → Prop} {call : Program σ α} (each : call.Each step) :
    (call.watching note).Each fun before after =>
      step before.1 after.1 ∧ after.2 = note before.1 after.1 before.2 := by
  induction call with
  | done result => trivial
  | access update next ih =>
      exact fun watched => ⟨⟨(each watched.1).1, rfl⟩, ih watched.1 (each watched.1).2⟩

end Program

end HidBot.Interleaving
