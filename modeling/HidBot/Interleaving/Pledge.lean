import HidBot.Interleaving.Scripted

/-!
# Pledges

An access that changes what the others see may bind the rest of its call: once the
access is made, whatever the call still sees, it returns a result of a certain
kind. What marks the shared state is then accounted for by a call that has returned
such a result or can return nothing else.
-/

namespace HidBot.Interleaving

variable {ι σ ο ρ ν α β : Type}

namespace Program

/-- Once the call has made a `step`, all its results satisfy `holds`. -/
def After (step : σ → σ → Prop) (holds : α → Prop) : Program σ α → Prop
  | done _ => True
  | access update next => ∀ state,
      (step state (update state) → (next state).Ends holds) ∧ (next state).After step holds

variable {step : σ → σ → Prop} {holds : α → Prop}

theorem After.of_each {call : Program σ α}
    (never : call.Each fun before after => ¬step before after) : call.After step holds := by
  induction call with
  | done result => trivial
  | access update next ih =>
      exact fun state => ⟨fun made => absurd made (never state).1, ih state (never state).2⟩

theorem After.mono {weaker : α → Prop} {call : Program σ α} (after : call.After step holds)
    (weaken : ∀ result, holds result → weaker result) : call.After step weaker := by
  induction call with
  | done result => trivial
  | access update next ih =>
      exact fun state =>
        ⟨fun made => ((after state).1 made).mono weaken, ih state (after state).2⟩

theorem After.bind {middle : β → Prop} {call : Program σ β} {rest : β → Program σ α}
    (first : call.After step middle) (ends : ∀ result, middle result → (rest result).Ends holds)
    (later : ∀ result, (rest result).After step holds) : (call >>= rest).After step holds := by
  induction call with
  | done result => exact later result
  | access update next ih =>
      exact fun state => ⟨fun made => .bind ((first state).1 made) ends, ih state (first state).2⟩

end Program

namespace Scripted

/-- The call returns a result that satisfies `holds`: it is not cut. -/
def Finishes (holds : α → Prop) (call : Scripted ν σ α) : Prop :=
  ∀ script, (call script).Ends fun result =>
    ∃ answer rest, result = some (answer, rest) ∧ holds answer

/-- Once the call has made a `step`, it returns a result that satisfies `holds`. -/
def After (step : σ → σ → Prop) (holds : α → Prop) (call : Scripted ν σ α) : Prop :=
  ∀ script, (call script).After step fun result =>
    ∃ answer rest, result = some (answer, rest) ∧ holds answer

variable {step : σ → σ → Prop} {holds : α → Prop}

theorem Finishes.pure {result : α} (here : holds result) :
    (pure result : Scripted ν σ α).Finishes holds := fun script => ⟨result, script, rfl, here⟩

theorem Finishes.ofProgram {call : Program σ α} (ends : call.Ends holds) :
    (ofProgram call : Scripted ν σ α).Finishes holds :=
  fun script => .bind ends fun result here => ⟨result, script, rfl, here⟩

theorem Finishes.bind {middle : β → Prop} {call : Scripted ν σ β} {rest : β → Scripted ν σ α}
    (first : call.Finishes middle)
    (later : ∀ result, middle result → (rest result).Finishes holds) :
    (call >>= rest).Finishes holds := by
  intro script
  refine Program.Ends.bind (first script) fun result outcome => ?_
  obtain ⟨answer, remaining, rfl, here⟩ := outcome
  exact later answer here remaining

/-- A call of one access. -/
theorem Finishes.write (update : σ → σ) :
    (write update : Scripted ν σ Unit).Finishes fun _ => True :=
  .ofProgram fun _ => trivial

theorem After.of_each {call : Scripted ν σ α}
    (never : call.Each fun before after => ¬step before after) : call.After step holds :=
  fun script => .of_each (never script)

theorem After.bind {middle : β → Prop} {call : Scripted ν σ β} {rest : β → Scripted ν σ α}
    (first : call.After step middle)
    (ends : ∀ result, middle result → (rest result).Finishes holds)
    (later : ∀ result, (rest result).After step holds) : (call >>= rest).After step holds := by
  intro script
  refine Program.After.bind (first script) (fun result outcome => ?_) fun result => ?_
  · obtain ⟨answer, remaining, rfl, here⟩ := outcome
    exact ends answer here remaining
  · cases result with
    | none => trivial
    | some result => exact later result.1 result.2

/-- A call before which no `step` is made. -/
theorem After.later {call : Scripted ν σ β} {rest : β → Scripted ν σ α}
    (never : call.Each fun before after => ¬step before after)
    (later : ∀ result, (rest result).After step holds) : (call >>= rest).After step holds :=
  .bind (show call.After step fun _ => False from .of_each never) (fun _ => False.elim) later

theorem After.iterate {body : β → Scripted ν σ (β ⊕ α)}
    (after : ∀ state, (body state).After step fun result =>
      ∃ answer, result = .inr answer ∧ holds answer)
    (state : β) : (iterate body state).After step holds := by
  have within : ∀ turns state, (iterateWithin body turns state).After step holds := by
    intro turns
    induction turns with
    | zero => exact fun _ _ => trivial
    | succ turns ih =>
        refine fun state => .bind (after state) (fun result outcome => ?_) fun result => ?_
        · obtain ⟨answer, rfl, here⟩ := outcome
          exact .pure here
        · cases result with
          | inl again => exact ih again
          | inr answer => exact fun _ => trivial
  exact fun script => within _ _ script

theorem After.withScript {call : Scripted ν σ α} (after : call.After step holds) (script : List ν) :
    (call.withScript script).After step fun result =>
      ∃ answer, result = some answer ∧ holds answer := by
  refine .bind (after script) (fun result outcome => ?_) fun _ => trivial
  obtain ⟨answer, rest, rfl, here⟩ := outcome
  exact ⟨answer, rfl, here⟩

end Scripted

/-! ### Runs -/

variable [DecidableEq ι]

/-- A call has returned a result of the pledged kind, or can return nothing else. -/
def Honoured (pledge : ι → ο → ρ → Prop) (config : Config ι σ ο ρ) : Prop :=
  ∃ task operation,
    (∃ call, config.running task = some (operation, call) ∧ call.Ends (pledge task operation)) ∨
      ∃ result, (task, operation, result) ∈ config.history ∧ pledge task operation result

theorem Honoured.step {pledge : ι → ο → ρ → Prop} {program : ι → ο → Program σ ρ}
    {config next : Config ι σ ο ρ} {label : Label ι ο} (honoured : Honoured pledge config)
    (stepped : config.step program label = some next) : Honoured pledge next := by
  obtain ⟨task, operation, ⟨call, running, ends⟩ | ⟨result, member, kind⟩⟩ := honoured
  · rcases Config.step_cases stepped with
      ⟨other, operation', rfl, idle, rfl⟩ | ⟨other, operation', update, rest, rfl, found, rfl⟩ |
        ⟨other, operation', result, rfl, found, rfl⟩
    · have different : task ≠ other := by
        rintro rfl
        simp [idle] at running
      exact ⟨task, operation, .inl ⟨call, by simp [different, running], ends⟩⟩
    · by_cases same : task = other
      · subst same
        obtain ⟨rfl, rfl⟩ := by simpa using running.symm.trans found
        exact ⟨task, operation, .inl ⟨rest config.shared, by simp, ends config.shared⟩⟩
      · exact ⟨task, operation, .inl ⟨call, by simp [same, running], ends⟩⟩
    · by_cases same : task = other
      · subst same
        obtain ⟨rfl, rfl⟩ := by simpa using running.symm.trans found
        exact ⟨task, operation, .inr ⟨result, by simp, ends⟩⟩
      · exact ⟨task, operation, .inl ⟨call, by simp [same, running], ends⟩⟩
  · refine ⟨task, operation, .inr ⟨result, ?_, kind⟩⟩
    rcases Config.step_cases stepped with
      ⟨_, _, rfl, _, rfl⟩ | ⟨_, _, _, _, rfl, _, rfl⟩ | ⟨_, _, _, rfl, _, rfl⟩
    · exact member
    · exact member
    · exact List.mem_cons_of_mem _ member

/-- The running calls of a step are the rests of the calls before it, or start with it. -/
theorem Config.running_of_step {program : ι → ο → Program σ ρ} {config next : Config ι σ ο ρ}
    {label : Label ι ο} {kept : ι → ο → Program σ ρ → Prop}
    (before : ∀ task operation call, config.running task = some (operation, call) →
      kept task operation call)
    (started : ∀ task operation, label = .call task operation →
      kept task operation (program task operation))
    (onward : ∀ task operation update rest, kept task operation (.access update rest) →
      kept task operation (rest config.shared))
    (stepped : config.step program label = some next) :
    ∀ task operation call, next.running task = some (operation, call) →
      kept task operation call := by
  intro task operation call running
  rcases Config.step_cases stepped with
    ⟨other, operation', rfl, idle, rfl⟩ | ⟨other, operation', update, rest, rfl, found, rfl⟩ |
      ⟨other, operation', result, rfl, found, rfl⟩
  · by_cases same : task = other
    · subst same
      obtain ⟨rfl, rfl⟩ := by simpa using running
      exact started _ _ rfl
    · exact before task operation call (by simpa [same] using running)
  · by_cases same : task = other
    · subst same
      obtain ⟨rfl, rfl⟩ := by simpa using running
      exact onward _ _ _ _ (before _ _ _ found)
    · exact before task operation call (by simpa [same] using running)
  · by_cases same : task = other
    · subst same
      simp at running
    · exact before task operation call (by simpa [same] using running)

/-- If only pledged accesses mark the state, a marked state is accounted for. -/
theorem Reaches.honoured {program : ι → ο → Program σ ρ}
    {allowed : Config ι σ ο ρ → Label ι ο → Prop} {start final : Config ι σ ο ρ}
    (marked : σ → Prop) {pledge : ι → ο → ρ → Prop}
    (idle : start.Idle) (unmarked : ¬marked start.shared)
    (pledged : ∀ config task operation, allowed config (.call task operation) →
      (program task operation).After (fun before after => ¬marked before ∧ marked after)
        (pledge task operation))
    (reached : Reaches program allowed start final) (now : marked final.shared) :
    Honoured pledge final := by
  have kept : (∀ task operation call, final.running task = some (operation, call) →
        call.After (fun before after => ¬marked before ∧ marked after) (pledge task operation)) ∧
      (marked final.shared → Honoured pledge final) := by
    clear now
    induction reached with
    | refl =>
        exact ⟨fun task _ _ running => by simp [idle task] at running, fun now => absurd now unmarked⟩
    | @step config next label _ admitted stepped ih =>
        obtain ⟨bound, honoured⟩ := ih
        refine ⟨Config.running_of_step bound ?_ ?_ stepped, fun now => ?_⟩
        · rintro task operation rfl
          exact pledged _ _ _ admitted
        · exact fun _ _ _ _ after => (after config.shared).2
        by_cases before : marked config.shared
        · exact (honoured before).step stepped
        -- Only an access of a running call can have marked the state.
        rcases Config.step_cases stepped with
          ⟨_, _, rfl, _, rfl⟩ | ⟨task, operation, update, rest, rfl, found, rfl⟩ |
            ⟨_, _, _, rfl, _, rfl⟩
        · exact absurd now before
        · have ends := (bound task operation _ found config.shared).1 ⟨before, now⟩
          exact ⟨task, operation, .inl ⟨rest config.shared, by simp, ends⟩⟩
        · exact absurd now before
  exact kept.2 now

end HidBot.Interleaving
