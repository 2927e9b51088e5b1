import HidBot.Interleaving.Run

/-!
# Rely and guarantee

A call is judged against what the other tasks may do between its accesses. Its
own accesses are in turn what the others may rely on. One step lemma combines
the judgements of all running calls, so a run never has to be taken apart by
hand.
-/

namespace HidBot.Interleaving

variable {ι σ τ ο ρ α β : Type}

namespace Program

/-- From `state`, with interference inside `rely` before each access and before
the return, every access of the call is a `guar` step and `post` holds at its
return. -/
def Safe (rely guar : σ → σ → Prop) (post : α → σ → Prop) : Program σ α → σ → Prop
  | done result, state => ∀ later, rely state later → post result later
  | access update next, state => ∀ later, rely state later →
      guar later (update later) ∧ (next later).Safe rely guar post (update later)

variable {rely guar : σ → σ → Prop} {post : α → σ → Prop}

/-- Interference does not spoil a judgement that allows for it. -/
theorem Safe.stable (trans : ∀ first second third, rely first second → rely second third →
      rely first third)
    {call : Program σ α} {state later : σ} (safe : call.Safe rely guar post state)
    (interfered : rely state later) : call.Safe rely guar post later := by
  cases call with
  | done result => exact fun last more => safe last (trans _ _ _ interfered more)
  | access update next => exact fun last more => safe last (trans _ _ _ interfered more)

theorem Safe.mono {stronger : α → σ → Prop} (weaken : ∀ result state, stronger result state →
      post result state)
    {call : Program σ α} {state : σ} (safe : call.Safe rely guar stronger state) :
    call.Safe rely guar post state := by
  induction call generalizing state with
  | done result => exact fun later interfered => weaken _ _ (safe later interfered)
  | access update next ih =>
      exact fun later interfered => ⟨(safe later interfered).1, ih _ (safe later interfered).2⟩

/-- Wrapping the result of a call makes no access. -/
theorem Safe.map (wrap : α → β) {target : β → σ → Prop} {call : Program σ α} {state : σ}
    (safe : call.Safe rely guar (fun result later => target (wrap result) later) state) :
    (call >>= fun result => pure (wrap result)).Safe rely guar target state := by
  induction call generalizing state with
  | done result => exact safe
  | access update next ih =>
      exact fun later interfered => ⟨(safe later interfered).1, ih _ (safe later interfered).2⟩

theorem Safe.bind (refl : ∀ state, rely state state) {call : Program σ α} {rest : α → Program σ β}
    {last : β → σ → Prop} {state : σ}
    (safe : call.Safe rely guar (fun result later => (rest result).Safe rely guar last later)
      state) :
    (call >>= rest).Safe rely guar last state := by
  induction call generalizing state with
  | done result => exact safe state (refl state)
  | access update next ih =>
      exact fun later interfered => ⟨(safe later interfered).1, ih _ (safe later interfered).2⟩

/-- Every access of the call is a `step`, whatever the call has seen. -/
def Each (step : σ → σ → Prop) : Program σ α → Prop
  | done _ => True
  | access update next => ∀ state, step state (update state) ∧ (next state).Each step

theorem Each.any (call : Program σ α) : call.Each fun _ _ => True := by
  induction call with
  | done result => trivial
  | access update next ih => exact fun state => ⟨trivial, ih state⟩

theorem Each.read {step : σ → σ → Prop} (refl : ∀ state, step state state) (view : σ → α) :
    (Program.read view).Each step := fun state => ⟨refl state, trivial⟩

theorem Each.write {step : σ → σ → Prop} {update : σ → σ}
    (each : ∀ state, step state (update state)) : (Program.write update).Each step :=
  fun state => ⟨each state, trivial⟩

theorem Each.readModifyWrite {step : σ → σ → Prop} {change : σ → α × σ}
    (each : ∀ state, step state (change state).2) : (Program.readModifyWrite change).Each step :=
  fun state => ⟨each state, trivial⟩

theorem Each.onlyIf {step : σ → σ → Prop} (condition : Prop) [Decidable condition]
    {call : Program σ Unit} (each : call.Each step) : (onlyIf condition call).Each step := by
  unfold Program.onlyIf
  split
  · exact each
  · trivial

theorem Each.bind {step : σ → σ → Prop} {call : Program σ α} {rest : α → Program σ β}
    (each : call.Each step) (later : ∀ result, (rest result).Each step) :
    (call >>= rest).Each step := by
  induction call with
  | done result => exact later result
  | access update next ih => exact fun state => ⟨(each state).1, ih state (each state).2⟩

theorem Each.mono {step wider : σ → σ → Prop}
    (weaken : ∀ before after, step before after → wider before after) {call : Program σ α}
    (each : call.Each step) : call.Each wider := by
  induction call with
  | done result => trivial
  | access update next ih =>
      exact fun state => ⟨weaken _ _ (each state).1, ih state (each state).2⟩

/-- A call on a component makes steps of the whole state. -/
theorem Each.zoom {step : σ → σ → Prop} {view : τ → σ} {set : σ → τ → τ} {whole : τ → τ → Prop}
    (lift : ∀ state after, step (view state) after → whole state (set after state))
    {call : Program σ α} (each : call.Each step) : (call.zoom view set).Each whole := by
  induction call with
  | done result => trivial
  | access update next ih =>
      exact fun state => ⟨lift _ _ (each (view state)).1, ih _ (each (view state)).2⟩

/-- An assertion that interference and the accesses preserve holds at the return. -/
theorem Each.safe {step : σ → σ → Prop} {assertion : σ → Prop}
    (stable : ∀ before after, assertion before → rely before after → assertion after)
    (keeps : ∀ before after, assertion before → step before after →
      guar before after ∧ assertion after)
    {call : Program σ α} (each : call.Each step) {state : σ} (holds : assertion state) :
    call.Safe rely guar (fun _ later => assertion later) state := by
  induction call generalizing state with
  | done result => exact fun later interfered => stable _ _ holds interfered
  | access update next ih =>
      intro later interfered
      have kept := keeps later _ (stable _ _ holds interfered) (each later).1
      exact ⟨kept.1, ih later (each later).2 kept.2⟩

/-! ### One access at a time -/

theorem Safe.readThen {view : σ → α} {rest : α → Program σ β} {post : β → σ → Prop} {state : σ}
    (holds : ∀ later, rely state later →
      guar later later ∧ (rest (view later)).Safe rely guar post later) :
    (Program.read view >>= rest).Safe rely guar post state := holds

theorem Safe.writeThen {update : σ → σ} {rest : Unit → Program σ β} {post : β → σ → Prop}
    {state : σ}
    (holds : ∀ later, rely state later →
      guar later (update later) ∧ (rest ()).Safe rely guar post (update later)) :
    (Program.write update >>= rest).Safe rely guar post state := holds

theorem Safe.changeThen {change : σ → α × σ} {rest : α → Program σ β} {post : β → σ → Prop}
    {state : σ}
    (holds : ∀ later, rely state later →
      guar later (change later).2 ∧
        (rest (change later).1).Safe rely guar post (change later).2) :
    (Program.readModifyWrite change >>= rest).Safe rely guar post state := holds

end Program

/-- What each call assumes of the others, promises them, and returns. -/
structure Contract (ι σ ο ρ : Type) where
  rely : ι → ο → σ → σ → Prop
  guar : ι → ο → σ → σ → Prop
  post : ι → ο → ρ → σ → Prop
  refl : ∀ task operation state, rely task operation state state
  trans : ∀ task operation first second third, rely task operation first second →
    rely task operation second third → rely task operation first third

namespace Contract

variable (contract : Contract ι σ ο ρ)

/-- The call keeps the contract of its task and operation from here on. -/
def Kept (task : ι) (operation : ο) (call : Program σ ρ) (state : σ) : Prop :=
  call.Safe (contract.rely task operation) (contract.guar task operation)
    (contract.post task operation) state

/-- Every running call keeps its contract. -/
def Conforms (config : Config ι σ ο ρ) : Prop :=
  ∀ task operation call, config.running task = some (operation, call) →
    contract.Kept task operation call config.shared

variable {contract}

theorem Kept.stable {task : ι} {operation : ο} {call : Program σ ρ} {state later : σ}
    (kept : contract.Kept task operation call state)
    (interfered : contract.rely task operation state later) :
    contract.Kept task operation call later := by
  unfold Kept at kept ⊢
  exact kept.stable (contract.trans task operation) interfered

theorem conforms_initial (shared : σ) : contract.Conforms (Config.initial shared) := by
  intro task operation call running
  simp [Config.initial] at running

/-- One step keeps every contract, if a new call starts safe and every call that
an access interferes with is safe after it. An access is a promised step. -/
theorem Conforms.step_resuming [DecidableEq ι] {program : ι → ο → Program σ ρ}
    {config next : Config ι σ ο ρ} {label : Label ι ο} (conforms : contract.Conforms config)
    (started : ∀ task operation, label = .call task operation → config.running task = none →
      contract.Kept task operation (program task operation) config.shared)
    (resumed : ∀ task operation update rest other operation' call', label = .advance task →
      task ≠ other → config.running task = some (operation, .access update rest) →
      config.running other = some (operation', call') →
      contract.guar task operation config.shared (update config.shared) →
        contract.Kept other operation' call' (update config.shared))
    (stepped : config.step program label = some next) :
    contract.Conforms next ∧ (next.shared = config.shared ∨
      ∃ task operation call, config.running task = some (operation, call) ∧
        contract.guar task operation config.shared next.shared) := by
  rcases Config.step_cases stepped with
    ⟨task, operation, rfl, idle, rfl⟩ | ⟨task, operation, update, rest, rfl, running, rfl⟩ |
      ⟨task, operation, result, rfl, running, rfl⟩
  · refine ⟨?_, .inl rfl⟩
    intro other operation' call found
    by_cases same : other = task
    · subst same
      simp only [Function.update_self, Option.some.injEq, Prod.mk.injEq] at found
      obtain ⟨rfl, rfl⟩ := found
      exact started _ _ rfl idle
    · simp only [Function.update_of_ne same] at found
      exact conforms other operation' call found
  · have kept := conforms task operation _ running config.shared (contract.refl ..)
    refine ⟨?_, .inr ⟨task, operation, _, running, kept.1⟩⟩
    intro other operation' call found
    by_cases same : other = task
    · subst same
      simp only [Function.update_self, Option.some.injEq, Prod.mk.injEq] at found
      obtain ⟨rfl, rfl⟩ := found
      exact kept.2
    · simp only [Function.update_of_ne same] at found
      exact resumed task operation update rest other operation' call rfl (Ne.symm same) running
        found kept.1
  · refine ⟨?_, .inl rfl⟩
    intro other operation' call found
    by_cases same : other = task
    · subst same
      simp at found
    · simp only [Function.update_of_ne same] at found
      exact conforms other operation' call found

/-- One step keeps every contract, if a new call starts safe and no two calls
that overlap break each other's assumption. -/
theorem Conforms.step [DecidableEq ι] {program : ι → ο → Program σ ρ}
    {config next : Config ι σ ο ρ} {label : Label ι ο} (conforms : contract.Conforms config)
    (started : ∀ task operation, label = .call task operation → config.running task = none →
      contract.Kept task operation (program task operation) config.shared)
    (compatible : ∀ task operation update rest other operation' call', label = .advance task →
      task ≠ other → config.running task = some (operation, .access update rest) →
      config.running other = some (operation', call') →
      ∀ after, contract.guar task operation config.shared after →
        contract.rely other operation' config.shared after)
    (stepped : config.step program label = some next) :
    contract.Conforms next ∧ (next.shared = config.shared ∨
      ∃ task operation call, config.running task = some (operation, call) ∧
        contract.guar task operation config.shared next.shared) := by
  refine conforms.step_resuming started ?_ stepped
  intro task operation update rest other operation' call' same different running found guar
  exact Kept.stable (conforms other operation' call' found)
    (compatible task operation update rest other operation' call' same different running found
      _ guar)

/-- A call that returns has met its postcondition. -/
theorem Conforms.returned {config : Config ι σ ο ρ} (conforms : contract.Conforms config)
    {task : ι} {operation : ο} {result : ρ}
    (running : config.running task = some (operation, .done result)) :
    contract.post task operation result config.shared :=
  conforms task operation _ running config.shared (contract.refl ..)

end Contract

end HidBot.Interleaving
