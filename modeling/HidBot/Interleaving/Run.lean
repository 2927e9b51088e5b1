import HidBot.Interleaving.Program

/-!
# Interleaved runs

Tasks run calls on one shared state, each task one call at a time. A step lets
one task start a call, make one access or return. `Reaches` ranges over every
order of steps that a policy allows; `replay` executes one order.
-/

namespace HidBot.Interleaving

variable {ι σ ο ρ : Type}

/-- One step of one task. -/
inductive Label (ι ο : Type) where
  | call (task : ι) (operation : ο)
  | advance (task : ι)

/-- The task that takes the step. -/
def Label.task : Label ι ο → ι
  | .call task _ => task
  | .advance task => task

/-- The shared state, the call each task is in, and the calls that have
returned, latest first. -/
structure Config (ι σ ο ρ : Type) where
  shared : σ
  running : ι → Option (ο × Program σ ρ)
  history : List (ι × ο × ρ)

namespace Config

/-- No task is in a call. -/
def Idle (config : Config ι σ ο ρ) : Prop := ∀ task, config.running task = none

/-- No task has called yet. -/
def initial (shared : σ) : Config ι σ ο ρ := ⟨shared, fun _ => none, []⟩

variable [DecidableEq ι]

/-- The next configuration, if the task of the label can take the step. A call
that has made its last access returns by one more step of its own. -/
def step (program : ι → ο → Program σ ρ) (config : Config ι σ ο ρ) :
    Label ι ο → Option (Config ι σ ο ρ)
  | .call task operation =>
      match config.running task with
      | none => some { config with
          running := Function.update config.running task
            (some (operation, program task operation)) }
      | some _ => none
  | .advance task =>
      match config.running task with
      | none => none
      | some (operation, .access update next) => some { config with
          shared := update config.shared
          running := Function.update config.running task
            (some (operation, next config.shared)) }
      | some (operation, .done result) => some { config with
          running := Function.update config.running task none
          history := (task, operation, result) :: config.history }

/-- The three things a step can do. -/
theorem step_cases {program : ι → ο → Program σ ρ} {config next : Config ι σ ο ρ}
    {label : Label ι ο} (stepped : config.step program label = some next) :
    (∃ task operation, label = .call task operation ∧ config.running task = none ∧
      next = { config with
        running := Function.update config.running task
          (some (operation, program task operation)) }) ∨
    (∃ task operation update rest, label = .advance task ∧
      config.running task = some (operation, .access update rest) ∧
      next = { config with
        shared := update config.shared
        running := Function.update config.running task
          (some (operation, rest config.shared)) }) ∨
    (∃ task operation result, label = .advance task ∧
      config.running task = some (operation, .done result) ∧
      next = { config with
        running := Function.update config.running task none
        history := (task, operation, result) :: config.history }) := by
  cases label with
  | call task operation =>
      simp only [step] at stepped
      split at stepped
      · exact .inl ⟨task, operation, rfl, by assumption, by simpa using stepped.symm⟩
      · simp at stepped
  | advance task =>
      simp only [step] at stepped
      split at stepped
      · simp at stepped
      · rename_i operation update rest running
        exact .inr (.inl ⟨task, operation, update, rest, rfl, running, by simpa using stepped.symm⟩)
      · rename_i operation result running
        exact .inr (.inr ⟨task, operation, result, rfl, running, by simpa using stepped.symm⟩)

end Config

/-- The configurations reached from `start` by steps that `allowed` admits. -/
inductive Reaches [DecidableEq ι] (program : ι → ο → Program σ ρ)
    (allowed : Config ι σ ο ρ → Label ι ο → Prop) (start : Config ι σ ο ρ) :
    Config ι σ ο ρ → Prop where
  | refl : Reaches program allowed start start
  | step {config next : Config ι σ ο ρ} (label : Label ι ο) :
      Reaches program allowed start config → allowed config label →
      config.step program label = some next → Reaches program allowed start next

namespace Reaches

variable [DecidableEq ι] {program : ι → ο → Program σ ρ}
  {allowed : Config ι σ ο ρ → Label ι ο → Prop} {start middle final : Config ι σ ο ρ}

/-- What holds at the start and survives every allowed step holds in every run. -/
theorem induct {property : Config ι σ ο ρ → Prop} (initially : property start)
    (preserved : ∀ config label next, property config → allowed config label →
      config.step program label = some next → property next)
    (reached : Reaches program allowed start final) : property final := by
  induction reached with
  | refl => exact initially
  | step label _ admitted stepped ih => exact preserved _ label _ ih admitted stepped

theorem trans (first : Reaches program allowed start middle)
    (second : Reaches program allowed middle final) : Reaches program allowed start final := by
  induction second with
  | refl => exact first
  | step label _ admitted stepped ih => exact .step label ih admitted stepped

theorem mono {wider : Config ι σ ο ρ → Label ι ο → Prop}
    (weaker : ∀ config label, allowed config label → wider config label)
    (reached : Reaches program allowed start final) : Reaches program wider start final := by
  induction reached with
  | refl => exact .refl
  | step label _ admitted stepped ih => exact .step label ih (weaker _ _ admitted) stepped

/-- Returned calls are never forgotten. -/
theorem history_suffix (reached : Reaches program allowed start final) :
    start.history <:+ final.history := by
  induction reached with
  | refl => exact List.suffix_refl _
  | @step config next label _ _ stepped ih =>
      rcases Config.step_cases stepped with
        ⟨_, _, _, _, rfl⟩ | ⟨_, _, _, _, _, _, rfl⟩ | ⟨_, _, _, _, _, rfl⟩
      · exact ih
      · exact ih
      · exact ih.trans (List.suffix_cons _ _)

/-- Every call of a run was admitted when it started. -/
theorem calls_admitted {started : ι → ο → Prop}
    (admits : ∀ config task operation, allowed config (.call task operation) →
      started task operation)
    (idle : start.Idle) (fresh : start.history = []) (reached : Reaches program allowed start final) :
    (∀ task operation call, final.running task = some (operation, call) → started task operation) ∧
      ∀ task operation result, (task, operation, result) ∈ final.history →
        started task operation := by
  induction reached with
  | refl => exact ⟨fun task _ _ running => by simp [idle task] at running, by simp [fresh]⟩
  | step label _ admitted stepped ih =>
      obtain ⟨running, history⟩ := ih
      rcases Config.step_cases stepped with
        ⟨task, operation, rfl, _, rfl⟩ | ⟨task, operation, update, rest, rfl, found, rfl⟩ |
          ⟨task, operation, result, rfl, found, rfl⟩
      · refine ⟨fun other operation' call => ?_, history⟩
        by_cases same : other = task
        · subst same
          simp only [Function.update_self, Option.some.injEq, Prod.mk.injEq]
          rintro ⟨rfl, -⟩
          exact admits _ _ _ admitted
        · simpa only [Function.update_of_ne same] using running other operation' call
      · refine ⟨fun other operation' call => ?_, history⟩
        by_cases same : other = task
        · subst same
          simp only [Function.update_self, Option.some.injEq, Prod.mk.injEq]
          rintro ⟨rfl, -⟩
          exact running _ _ _ found
        · simpa only [Function.update_of_ne same] using running other operation' call
      · refine ⟨fun other operation' call => ?_, ?_⟩
        · by_cases same : other = task
          · subst same
            simp
          · simpa only [Function.update_of_ne same] using running other operation' call
        · intro other operation' answer member
          rcases List.mem_cons.mp member with same | member
          · obtain ⟨rfl, rfl, rfl⟩ := by simpa using same
            exact running _ _ _ found
          · exact history other operation' answer member

/-- What a call needs of the history when it starts, and the history then keeps, holds of every
call. -/
theorem calls_entitled {entitled : List (ι × ο × ρ) → ι → ο → Prop}
    (lasts : ∀ entry history task operation, entitled history task operation →
      entitled (entry :: history) task operation)
    (admits : ∀ config task operation, allowed config (.call task operation) →
      entitled config.history task operation)
    (idle : start.Idle) (fresh : start.history = []) (reached : Reaches program allowed start final) :
    (∀ task operation call, final.running task = some (operation, call) →
      entitled final.history task operation) ∧
      ∀ task operation result, (task, operation, result) ∈ final.history →
        entitled final.history task operation := by
  induction reached with
  | refl => exact ⟨fun task _ _ running => by simp [idle task] at running, by simp [fresh]⟩
  | step label _ admitted stepped ih =>
      obtain ⟨running, history⟩ := ih
      rcases Config.step_cases stepped with
        ⟨task, operation, rfl, _, rfl⟩ | ⟨task, operation, update, rest, rfl, found, rfl⟩ |
          ⟨task, operation, result, rfl, found, rfl⟩
      · refine ⟨fun other operation' call => ?_, history⟩
        by_cases same : other = task
        · subst same
          simp only [Function.update_self, Option.some.injEq, Prod.mk.injEq]
          rintro ⟨rfl, -⟩
          exact admits _ _ _ admitted
        · simpa only [Function.update_of_ne same] using running other operation' call
      · refine ⟨fun other operation' call => ?_, history⟩
        by_cases same : other = task
        · subst same
          simp only [Function.update_self, Option.some.injEq, Prod.mk.injEq]
          rintro ⟨rfl, -⟩
          exact running _ _ _ found
        · simpa only [Function.update_of_ne same] using running other operation' call
      · refine ⟨fun other operation' call found' => lasts _ _ _ _ ?_,
          fun other operation' answer member => lasts _ _ _ _ ?_⟩
        · by_cases same : other = task
          · subst same
            simp at found'
          · exact running other operation' call (by simpa [same] using found')
        · rcases List.mem_cons.mp member with same | member
          · obtain ⟨rfl, rfl, rfl⟩ := by simpa using same
            exact running _ _ _ found
          · exact history other operation' answer member

/-- A run has been in the configuration in which one of its calls has just returned. -/
theorem returned_at {newer older : List (ι × ο × ρ)} {entry : ι × ο × ρ}
    (fresh : start.history = []) (reached : Reaches program allowed start final)
    (split : final.history = newer ++ entry :: older) :
    ∃ middle, Reaches program allowed start middle ∧ middle.history = entry :: older ∧
      middle.running entry.1 = none ∧ Reaches program allowed middle final := by
  induction reached generalizing newer with
  | refl => simp [fresh] at split
  | @step config next label before admitted stepped ih =>
      have goesOn (newer : List (ι × ο × ρ)) (split : config.history = newer ++ entry :: older) :
          ∃ middle, Reaches program allowed start middle ∧ middle.history = entry :: older ∧
            middle.running entry.1 = none ∧ Reaches program allowed middle next := by
        obtain ⟨middle, first, returned, idle, second⟩ := ih split
        exact ⟨middle, first, returned, idle, .step label second admitted stepped⟩
      rcases Config.step_cases stepped with
        ⟨_, _, _, _, rfl⟩ | ⟨_, _, _, _, _, _, rfl⟩ | ⟨task, operation, result, _, _, rfl⟩
      · exact goesOn newer split
      · exact goesOn newer split
      · cases newer with
        | nil =>
            obtain ⟨rfl, -⟩ := List.cons.inj split
            exact ⟨_, .step label before admitted stepped, split, by simp, .refl⟩
        | cons latest newer => exact goesOn newer (List.cons.inj split).2

end Reaches

/-- Execute one order of steps. -/
def replay [DecidableEq ι] (program : ι → ο → Program σ ρ) :
    List (Label ι ο) → Config ι σ ο ρ → Option (Config ι σ ο ρ)
  | [], config => some config
  | label :: labels, config => (config.step program label).bind (replay program labels)

theorem replay_append [DecidableEq ι] (program : ι → ο → Program σ ρ)
    (first second : List (Label ι ο)) (config : Config ι σ ο ρ) :
    replay program (first ++ second) config =
      (replay program first config).bind (replay program second) := by
  induction first generalizing config with
  | nil => rfl
  | cons label labels ih =>
      simp only [List.cons_append, replay, Option.bind_assoc]
      congr 1
      funext next
      exact ih next

/-- A task that takes no step stays where it is. -/
theorem replay_running [DecidableEq ι] {program : ι → ο → Program σ ρ} {labels : List (Label ι ο)}
    {start final : Config ι σ ο ρ} {task : ι} (absent : ∀ label ∈ labels, label.task ≠ task)
    (replayed : replay program labels start = some final) :
    final.running task = start.running task := by
  induction labels generalizing start with
  | nil =>
      obtain rfl : start = final := by simpa [replay] using replayed
      rfl
  | cons label labels ih =>
      obtain ⟨middle, stepped, rest⟩ := Option.bind_eq_some_iff.mp replayed
      have other : task ≠ label.task := Ne.symm (absent label (by simp))
      rw [ih (fun later member => absent later (by simp [member])) rest]
      rcases Config.step_cases stepped with
        ⟨_, _, rfl, _, rfl⟩ | ⟨_, _, _, _, rfl, _, rfl⟩ | ⟨_, _, _, rfl, _, rfl⟩ <;>
        exact Function.update_of_ne other ..

/-- A replayed order of steps is a run, if the policy admits its labels. -/
theorem Reaches.of_replay [DecidableEq ι] {program : ι → ο → Program σ ρ}
    {allowed : Config ι σ ο ρ → Label ι ο → Prop} {labels : List (Label ι ο)}
    {start final : Config ι σ ο ρ}
    (admitted : ∀ label ∈ labels, ∀ config, allowed config label)
    (replayed : replay program labels start = some final) :
    Reaches program allowed start final := by
  induction labels generalizing start with
  | nil =>
      obtain rfl : start = final := by simpa [replay] using replayed
      exact .refl
  | cons label labels ih =>
      obtain ⟨middle, stepped, rest⟩ := Option.bind_eq_some_iff.mp replayed
      have first : Reaches program allowed start middle :=
        .step label .refl (admitted label (by simp) start) stepped
      exact first.trans (ih (fun later member => admitted later (by simp [member])) rest)

end HidBot.Interleaving
