import HidBot.Interleaving.Scripted

/-!
# Calls with holdings

A call may hold what the shared state does not show, such as a number that it has
drawn and not yet stored. Its holding changes with its accesses and is given up when it
returns. What every access keeps of the shared state and all holdings holds in every run.
-/

namespace HidBot.Interleaving

variable {ι σ ο ρ γ ν α β : Type}

namespace Program

/-- Every access is a `step` from what the call holds before it to what it holds after it,
and `last` holds of the holding and the result at the return. -/
def Holding (step : γ → σ → σ → γ → Prop) (last : γ → α → Prop) : γ → Program σ α → Prop
  | held, done result => last held result
  | held, access update next => ∀ state, ∃ after,
      step held state (update state) after ∧ (next state).Holding step last after

variable {step : γ → σ → σ → γ → Prop} {last : γ → α → Prop}

theorem Holding.bind {middle : γ → β → Prop} {call : Program σ β} {rest : β → Program σ α}
    {held : γ} (first : call.Holding step middle held)
    (later : ∀ result after, middle after result → (rest result).Holding step last after) :
    (call >>= rest).Holding step last held := by
  induction call generalizing held with
  | done result => exact later result held first
  | access update next ih =>
      intro state
      obtain ⟨after, moved, holding⟩ := first state
      exact ⟨after, moved, ih state holding⟩

/-- A call that leaves its holding alone. -/
theorem Holding.of_each {call : Program σ α} {held : γ}
    (each : call.Each fun before after => step held before after held) :
    call.Holding step (fun after _ => after = held) held := by
  induction call with
  | done result => rfl
  | access update next ih => exact fun state => ⟨held, (each state).1, ih state (each state).2⟩

theorem Holding.mono {wider : γ → α → Prop} {call : Program σ α} {held : γ}
    (weaken : ∀ after result, last after result → wider after result)
    (holding : call.Holding step last held) : call.Holding step wider held := by
  induction call generalizing held with
  | done result => exact weaken held result holding
  | access update next ih =>
      intro state
      obtain ⟨after, moved, rest⟩ := holding state
      exact ⟨after, moved, ih state rest⟩

theorem Holding.map {wrap : β → α} {call : Program σ β} {held : γ}
    (holding : call.Holding step (fun after result => last after (wrap result)) held) :
    (call >>= fun result => pure (wrap result)).Holding step last held :=
  .bind holding fun _ _ kept => kept

end Program

namespace Scripted

/-- The same for a call that takes answers, if it is not cut. -/
def Holding (step : γ → σ → σ → γ → Prop) (last : γ → α → Prop) (held : γ)
    (call : Scripted ν σ α) : Prop :=
  ∀ script, (call script).Holding step (fun after => IfUncut (last after)) held

variable {step : γ → σ → σ → γ → Prop} {last : γ → α → Prop} {held : γ}

theorem Holding.pure {result : α} (ends : last held result) :
    (pure result : Scripted ν σ α).Holding step last held := by
  rintro script answer rest ⟨⟩
  exact ends

theorem Holding.bind {middle : γ → β → Prop} {call : Scripted ν σ β} {rest : β → Scripted ν σ α}
    (first : call.Holding step middle held)
    (later : ∀ result after, middle after result → (rest result).Holding step last after) :
    (call >>= rest).Holding step last held := by
  intro script
  refine .bind (first script) fun result after ends => ?_
  cases result with
  | none => exact fun _ _ same => by cases same
  | some result => exact later result.1 after (ends _ _ rfl) result.2

/-- A call that leaves its holding alone, with what its results satisfy. -/
theorem Holding.of_each {call : Scripted ν σ α}
    (each : call.Each fun before after => step held before after held) :
    call.Holding step (fun after _ => after = held) held := by
  intro script
  exact (Program.Holding.of_each (each script)).mono fun after result same _ _ _ => same

/-- What goes before the rest of a call leaves its holding alone. -/
theorem Holding.after {call : Scripted ν σ β} {rest : β → Scripted ν σ α}
    (each : call.Each fun before after => step held before after held)
    (later : ∀ result, (rest result).Holding step last held) :
    (call >>= rest).Holding step last held := by
  refine .bind (.of_each each) ?_
  rintro result after rfl
  exact later result

theorem Holding.ite {condition : Prop} {_ : Decidable condition} {first second : Scripted ν σ α}
    (one : condition → first.Holding step last held)
    (two : ¬condition → second.Holding step last held) :
    (if condition then first else second).Holding step last held := by
  split
  · exact one ‹_›
  · exact two ‹_›

theorem Holding.readModifyWrite {change : σ → α × σ}
    (moves : ∀ state, ∃ after, step held state (change state).2 after ∧
      last after (change state).1) :
    (Scripted.readModifyWrite change : Scripted ν σ α).Holding step last held :=
  fun _ state => by
    obtain ⟨after, moved, ends⟩ := moves state
    refine ⟨after, moved, ?_⟩
    rintro answer rest ⟨⟩
    exact ends

theorem Holding.write {update : σ → σ} {last : γ → Unit → Prop}
    (moves : ∀ state, ∃ after, step held state (update state) after ∧ last after ()) :
    (Scripted.write update : Scripted ν σ Unit).Holding step last held :=
  fun _ state => by
    obtain ⟨after, moved, ends⟩ := moves state
    exact ⟨after, moved, fun _ _ _ => ends⟩

theorem Holding.read {view : σ → α}
    (moves : ∀ state, ∃ after, step held state state after ∧ last after (view state)) :
    (Scripted.read view : Scripted ν σ α).Holding step last held :=
  fun _ state => by
    obtain ⟨after, moved, ends⟩ := moves state
    refine ⟨after, moved, ?_⟩
    rintro answer rest ⟨⟩
    exact ends

/-- Every turn leaves the holding alone or ends the loop. -/
theorem Holding.iterate {body : β → Scripted ν σ (β ⊕ α)}
    (turn : ∀ state, (body state).Holding step
      (fun after result => Sum.elim (fun _ => after = held) (last after) result) held)
    (state : β) : (Scripted.iterate body state).Holding step last held := by
  intro script
  have within : ∀ turns state, (iterateWithin body turns state).Holding step last held := by
    intro turns
    induction turns with
    | zero => exact fun _ _ _ _ same => by cases same
    | succ turns ih =>
        refine fun state => .bind (turn state) fun result after ends => ?_
        cases result with
        | inl again =>
            obtain rfl : after = held := ends
            exact ih again
        | inr result => exact .pure ends
  exact within _ _ script

theorem Holding.withScript {call : Scripted ν σ α} {last : γ → Option α → Prop}
    (holding : call.Holding step (fun after result => last after (some result)) held)
    (cut : ∀ after, last after none) (script : List ν) :
    (call.withScript script).Holding step last held := by
  refine .bind (holding script) fun result after ends => ?_
  cases result with
  | none => exact cut after
  | some result => exact ends _ _ rfl

end Scripted

/-- What the tasks do with their holdings. -/
structure Custody (ι σ ο ρ γ : Type) where
  step : γ → σ → σ → γ → Prop
  last : ι → ο → γ → ρ → Prop
  nothing : γ

namespace Custody

variable (custody : Custody ι σ ο ρ γ)

/-- The running calls hold this, and a task that is in no call holds nothing. -/
structure Held (config : Config ι σ ο ρ) (held : ι → γ) : Prop where
  idle : ∀ task, config.running task = none → held task = custody.nothing
  running : ∀ task operation call, config.running task = some (operation, call) →
    call.Holding custody.step (custody.last task operation) (held task)

variable {custody}

theorem held_initial (shared : σ) :
    custody.Held (Config.initial shared : Config ι σ ο ρ) fun _ => custody.nothing :=
  ⟨fun _ _ => rfl, fun _ _ _ running => by simp [Config.initial] at running⟩

variable [DecidableEq ι] {program : ι → ο → Program σ ρ}
  {allowed : Config ι σ ο ρ → Label ι ο → Prop} {start final : Config ι σ ο ρ} {held : ι → γ}

/-- What the steps keep of the configurations and the holdings holds in every run. -/
theorem Held.follow (property : Config ι σ ο ρ → (ι → γ) → Prop)
    (starts : ∀ config task operation, allowed config (.call task operation) →
      (program task operation).Holding custody.step (custody.last task operation) custody.nothing)
    (calls : ∀ config next held task operation, Reaches program allowed config next →
      config.running task = none → held task = custody.nothing →
        next = { config with
          running := Function.update config.running task
            (some (operation, program task operation)) } →
          property config held → property next held)
    (steps : ∀ config next held task operation update rest later,
      Reaches program allowed config next →
        config.running task = some (operation, .access update rest) →
          next = { config with
            shared := update config.shared
            running := Function.update config.running task
              (some (operation, rest config.shared)) } →
            custody.step (held task) config.shared (update config.shared) later →
              property config held → property next (Function.update held task later))
    (returns : ∀ config next held task operation result, Reaches program allowed config next →
      config.running task = some (operation, .done result) →
        next = { config with
          running := Function.update config.running task none
          history := (task, operation, result) :: config.history } →
          custody.last task operation (held task) result →
            property config held → property next (Function.update held task custody.nothing))
    (kept : custody.Held start held) (initially : property start held)
    (reached : Reaches program allowed start final) :
    ∃ later, custody.Held final later ∧ property final later := by
  induction reached with
  | refl => exact ⟨held, kept, initially⟩
  | @step config next label _ admitted stepped ih =>
      obtain ⟨held, kept, now⟩ := ih
      have one : Reaches program allowed config next := .step label .refl admitted stepped
      rcases Config.step_cases stepped with
        ⟨task, operation, rfl, idle, same⟩ | ⟨task, operation, update, rest, rfl, running, same⟩ |
          ⟨task, operation, result, rfl, running, same⟩
      · have now := calls _ _ held task operation one idle (kept.idle task idle) same now
        subst same
        refine ⟨held, ⟨fun other free => ?_, fun other operation' call found => ?_⟩, now⟩
        · by_cases same : other = task
          · simp [same] at free
          · exact kept.idle other (by simpa [same] using free)
        · by_cases same : other = task
          · subst same
            obtain ⟨rfl, rfl⟩ := by simpa using found
            exact kept.idle other idle ▸ starts _ other operation admitted
          · exact kept.running other operation' call (by simpa [same] using found)
      · obtain ⟨later, moved, holding⟩ := kept.running task operation _ running config.shared
        have now := steps _ _ held task operation update rest later one running same moved now
        subst same
        refine ⟨Function.update held task later, ⟨fun other free => ?_, ?_⟩, now⟩
        · by_cases same : other = task
          · simp [same] at free
          · rw [Function.update_of_ne same]
            exact kept.idle other (by simpa [same] using free)
        · intro other operation' call found
          by_cases same : other = task
          · subst same
            obtain ⟨rfl, rfl⟩ := by simpa using found
            simpa using holding
          · rw [Function.update_of_ne same]
            exact kept.running other operation' call (by simpa [same] using found)
      · have now := returns _ _ held task operation result one running same
          (kept.running task operation _ running) now
        subst same
        refine ⟨Function.update held task custody.nothing, ⟨fun other free => ?_, ?_⟩, now⟩
        · by_cases same : other = task
          · simp [same]
          · rw [Function.update_of_ne same]
            exact kept.idle other (by simpa [same] using free)
        · intro other operation' call found
          by_cases same : other = task
          · simp [same] at found
          · rw [Function.update_of_ne same]
            exact kept.running other operation' call (by simpa [same] using found)

/-- What the accesses and the returns keep of the shared state, the history and the
holdings holds in every run. -/
theorem Held.induct (property : σ → List (ι × ο × ρ) → (ι → γ) → Prop)
    (starts : ∀ task operation, (program task operation).Holding custody.step
      (custody.last task operation) custody.nothing)
    (steps : ∀ state history held task after later, property state history held →
      custody.step (held task) state after later →
        property after history (Function.update held task later))
    (returns : ∀ state history held task operation result, property state history held →
      custody.last task operation (held task) result →
        property state ((task, operation, result) :: history)
          (Function.update held task custody.nothing))
    (kept : custody.Held start held) (initially : property start.shared start.history held)
    (reached : Reaches program allowed start final) :
    ∃ later, custody.Held final later ∧ property final.shared final.history later := by
  refine Held.follow (fun config held => property config.shared config.history held)
    (fun _ task operation _ => starts task operation) ?_ ?_ ?_ kept initially reached
  · rintro config next held task operation - - - rfl now
    exact now
  · rintro config next held task operation update rest later - - rfl moved now
    exact steps _ _ _ _ _ _ now moved
  · rintro config next held task operation result - - rfl last now
    exact returns _ _ _ _ _ _ now last

end Custody

end HidBot.Interleaving
