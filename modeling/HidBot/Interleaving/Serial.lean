import HidBot.Interleaving.Run
import Mathlib.Logic.Relation
import Mathlib.Order.WellFounded

/-!
# Serial runs

Calls may overlap and still have the effect of running one after another. The
policy `Undisturbed` says when: no task makes an access inside another call that
still has changes to make, and none makes a change inside another call at all.
Every call of such a run takes effect at one moment, so the results and the
state are those of a sequential order of the calls.
-/

namespace HidBot.Interleaving

variable {ι σ ο ρ α : Type}

namespace Program

/-- The rest of the call, run alone, changes nothing. -/
def Still : Program σ α → σ → Prop
  | done _, _ => True
  | access update next, state => update state = state ∧ (next state).Still state

theorem Still.exec_eq {call : Program σ α} {state : σ} (still : call.Still state) :
    call.exec state = ((call.exec state).1, state) := by
  induction call with
  | done result => rfl
  | access update next ih =>
      obtain ⟨unchanged, rest⟩ := still
      simpa only [exec, unchanged] using ih state rest

/-- Some access of the call has been made, and some is left. -/
def Underway (whole call : Program σ α) : Prop :=
  call ≠ whole ∧ ∀ result, call ≠ done result

/-- Running `whole` alone from `origin` comes past this point. -/
inductive Along (whole : Program σ α) (origin : σ) : Program σ α → σ → Prop where
  | start : Along whole origin whole origin
  | access {update : σ → σ} {next : σ → Program σ α} {state : σ} :
      Along whole origin (.access update next) state →
      Along whole origin (next state) (update state)

theorem Along.exec_eq {whole call : Program σ α} {origin state : σ}
    (along : Along whole origin call state) : call.exec state = whole.exec origin := by
  induction along with
  | start => rfl
  | access _ ih => exact ih

/-- What may be left of a call after one access. -/
inductive Remains : Program σ α → Program σ α → Prop where
  | access (update : σ → σ) (next : σ → Program σ α) (state : σ) :
      Remains (next state) (.access update next)

theorem remains_wellFounded : WellFounded (Remains : Program σ α → Program σ α → Prop) := by
  refine ⟨fun call => ?_⟩
  induction call with
  | done result => exact ⟨_, fun _ left => nomatch left⟩
  | access update next ih =>
      refine ⟨_, fun rest left => ?_⟩
      cases left with
      | access _ _ state => exact ih state

/-- Some access of the call has been made. -/
def Begun (whole call : Program σ α) : Prop := Relation.TransGen Remains call whole

theorem Begun.ne {whole call : Program σ α} (begun : Begun whole call) : call ≠ whole := by
  rintro rfl
  exact remains_wellFounded.transGen.irrefl.irrefl _ begun

theorem Begun.next {whole : Program σ α} {update : σ → σ} {next : σ → Program σ α}
    (begun : Begun whole (.access update next)) (state : σ) : Begun whole (next state) :=
  .head (.access update next state) begun

theorem Along.begun {whole call : Program σ α} {origin state : σ}
    (along : Along whole origin call state) : (call = whole ∧ state = origin) ∨ Begun whole call := by
  induction along with
  | start => exact .inl ⟨rfl, rfl⟩
  | @access update next state _ ih =>
      rcases ih with ⟨rfl, -⟩ | begun
      · exact .inr (.single (.access update next state))
      · exact .inr (begun.next state)

/-- The call left after an access of a run alone has begun. -/
theorem Along.begun_next {whole : Program σ α} {update : σ → σ} {next : σ → Program σ α}
    {origin state : σ} (along : Along whole origin (.access update next) state) :
    Begun whole (next state) := by
  rcases along.begun with ⟨rfl, -⟩ | begun
  · exact .single (.access update next state)
  · exact begun.next state

/-- Every state of the call, run alone, satisfies `holds`. -/
def Through (holds : σ → Prop) : Program σ α → σ → Prop
  | done _, state => holds state
  | access update next, state => holds state ∧ (next state).Through holds (update state)

@[simp] theorem through_done (holds : σ → Prop) (result : α) (state : σ) :
    (done result : Program σ α).Through holds state ↔ holds state := Iff.rfl

@[simp] theorem through_read {β : Type} (holds : σ → Prop) (view : σ → β) (state : σ) :
    (read view).Through holds state ↔ holds state := by
  simp [read, Through]

@[simp] theorem through_write (holds : σ → Prop) (update : σ → σ) (state : σ) :
    (write update).Through holds state ↔ holds state ∧ holds (update state) := Iff.rfl

@[simp] theorem through_readModifyWrite {β : Type} (holds : σ → Prop) (change : σ → β × σ)
    (state : σ) :
    (readModifyWrite change).Through holds state ↔ holds state ∧ holds (change state).2 := Iff.rfl

theorem Through.here {holds : σ → Prop} {call : Program σ α} {state : σ}
    (through : call.Through holds state) : holds state := by
  cases call with
  | done result => exact through
  | access update next => exact through.1

theorem Through.last {holds : σ → Prop} {call : Program σ α} {state : σ}
    (through : call.Through holds state) : holds (call.exec state).2 := by
  induction call generalizing state with
  | done result => exact through
  | access update next ih => exact ih _ through.2

@[simp] theorem through_read_bind {β : Type} (holds : σ → Prop) (view : σ → β)
    (rest : β → Program σ α) (state : σ) :
    (read view >>= rest).Through holds state ↔
      holds state ∧ (rest (view state)).Through holds state := Iff.rfl

@[simp] theorem through_write_bind (holds : σ → Prop) (update : σ → σ) (rest : Unit → Program σ α)
    (state : σ) :
    (write update >>= rest).Through holds state ↔
      holds state ∧ (rest ()).Through holds (update state) := Iff.rfl

@[simp] theorem through_readModifyWrite_bind {β : Type} (holds : σ → Prop) (change : σ → β × σ)
    (rest : β → Program σ α) (state : σ) :
    (readModifyWrite change >>= rest).Through holds state ↔
      holds state ∧ (rest (change state).1).Through holds (change state).2 := Iff.rfl

@[simp] theorem through_ite (holds : σ → Prop) (condition : Prop) {_ : Decidable condition}
    (first second : Program σ α) (state : σ) :
    (if condition then first else second).Through holds state ↔
      if condition then first.Through holds state else second.Through holds state := by
  split <;> rfl

theorem Along.through {holds : σ → Prop} {whole call : Program σ α} {origin state : σ}
    (along : Along whole origin call state) (through : whole.Through holds origin) :
    call.Through holds state := by
  induction along with
  | start => exact through
  | access _ ih => exact ih.2

end Program

open Program

/-- The calls of `order`, run one after another from `start`, return these
results and end in this state. -/
inductive Sequential (program : ι → ο → Program σ ρ) (start : σ) :
    List (ι × ο × ρ) → σ → Prop where
  | nil : Sequential program start [] start
  | snoc {order : List (ι × ο × ρ)} {state : σ} (task : ι) (operation : ο) :
      Sequential program start order state →
      Sequential program start
        (order ++ [(task, operation, ((program task operation).exec state).1)])
        ((program task operation).exec state).2

theorem Sequential.of_snoc {program : ι → ο → Program σ ρ} {start final : σ}
    {order : List (ι × ο × ρ)} {task : ι} {operation : ο} {result : ρ}
    (sequential : Sequential program start (order ++ [(task, operation, result)]) final) :
    ∃ state, Sequential program start order state ∧
      (program task operation).exec state = (result, final) := by
  generalize calls : order ++ [(task, operation, result)] = whole at sequential
  cases sequential with
  | nil => simp at calls
  | snoc task' operation' sequential =>
      obtain ⟨rfl, last⟩ := List.append_inj' calls rfl
      obtain ⟨rfl, rfl, rfl⟩ := by simpa using last
      exact ⟨_, sequential, rfl⟩

variable [DecidableEq ι] {program : ι → ο → Program σ ρ} {start : σ}
  {config next : Config ι σ ο ρ} {label : Label ι ο}

/-- While a call is underway the other tasks change nothing, and as long as it
still has changes to make they make no access. -/
def Undisturbed (program : ι → ο → Program σ ρ) (config : Config ι σ ο ρ) :
    Label ι ο → Prop
  | .call _ _ => True
  | .advance task => ∀ operation update next,
      config.running task = some (operation, .access update next) →
      ∀ other operation' call, other ≠ task → config.running other = some (operation', call) →
        Underway (program other operation') call →
        update config.shared = config.shared ∧ call.Still config.shared

/-- The calls of one task, in the order of the list. -/
def callsBy (task : ι) (calls : List (ι × ο × ρ)) : List (ι × ο × ρ) :=
  calls.filter (·.1 = task)

theorem callsBy_snoc (task other : ι) (calls : List (ι × ο × ρ)) (operation : ο) (result : ρ) :
    callsBy task (calls ++ [(other, operation, result)]) =
      callsBy task calls ++ if other = task then [(other, operation, result)] else [] := by
  by_cases same : other = task <;> simp [callsBy, same]

/-- The entry of a call that has taken effect but not returned. -/
def pendingEntry (task : ι) (running : Option (ο × Program σ ρ)) (due : Option ρ) :
    List (ι × ο × ρ) :=
  match running, due with
  | some (operation, _), some result => [(task, operation, result)]
  | _, _ => []

/-- A call that has not taken effect: it has made no access, or it is about to
make a change that only depends on the state all effects so far have left. -/
def Undecided (program : ι → ο → Program σ ρ) (settled shared : σ) (task : ι) (operation : ο)
    (call : Program σ ρ) : Prop :=
  call = program task operation ∨
    (¬call.Still shared ∧ Along (program task operation) settled call shared)

/-- A sequential order of the calls that have taken effect, the state it ends
in, and the results of those that have not returned. -/
structure Serialized (program : ι → ο → Program σ ρ) (start : σ) (config : Config ι σ ο ρ)
    (order : List (ι × ο × ρ)) (settled : σ) (due : ι → Option ρ) : Prop where
  sequential : Sequential program start order settled
  orders : ∀ task, callsBy task order =
    callsBy task config.history.reverse ++ pendingEntry task (config.running task) (due task)
  decided : ∀ task operation call result, config.running task = some (operation, call) →
    due task = some result → Begun (program task operation) call ∧
      call.Still config.shared ∧ call.exec config.shared = (result, config.shared)
  undecided : ∀ task operation call, config.running task = some (operation, call) →
    due task = none → Undecided program settled config.shared task operation call
  owned : config.shared = settled ∨ ∃ task operation call,
    config.running task = some (operation, call) ∧ due task = none ∧
      ¬call.Still config.shared ∧ Along (program task operation) settled call config.shared

theorem serialized_initial :
    Serialized program start (Config.initial start) [] start fun _ => none where
  sequential := .nil
  orders _ := rfl
  decided _ _ _ _ running := by simp [Config.initial] at running
  undecided _ _ _ running := by simp [Config.initial] at running
  owned := .inl rfl

namespace Serialized

variable {order : List (ι × ο × ρ)} {settled : σ} {due : ι → Option ρ} {task : ι} {operation : ο}

/-- A call that starts has made no access. -/
theorem call (serialized : Serialized program start config order settled due)
    (idle : config.running task = none) :
    Serialized program start { config with
      running := Function.update config.running task
        (some (operation, program task operation)) }
      order settled (Function.update due task none) where
  sequential := serialized.sequential
  orders other := by
    have orders := serialized.orders other
    by_cases same : other = task
    · subst same
      simpa [pendingEntry, idle] using orders
    · simpa [same] using orders
  decided other operation' call result found decided := by
    by_cases same : other = task
    · subst same
      simp at decided
    · simp only [Function.update_of_ne same] at found decided
      exact serialized.decided other operation' call result found decided
  undecided other operation' call found undecided := by
    by_cases same : other = task
    · subst same
      simp only [Function.update_self, Option.some.injEq, Prod.mk.injEq] at found
      obtain ⟨rfl, rfl⟩ := found
      exact .inl rfl
    · simp only [Function.update_of_ne same] at found undecided
      exact serialized.undecided other operation' call found undecided
  owned := by
    refine serialized.owned.imp_right ?_
    rintro ⟨owner, operation', call, found, undecided, changing, along⟩
    have other : owner ≠ task := by
      rintro rfl
      simp [idle] at found
    exact ⟨owner, operation', call, by simpa [other] using found, by simpa [other] using undecided,
      changing, along⟩

/-- While one task makes an access, the undecided calls of the others have not begun. -/
theorem fresh_of_admitted (serialized : Serialized program start config order settled due)
    (admitted : Undisturbed program config (.advance task))
    {update : σ → σ} {rest : σ → Program σ ρ}
    (running : config.running task = some (operation, .access update rest))
    {other : ι} {operation' : ο} {call : Program σ ρ} (different : other ≠ task)
    (found : config.running other = some (operation', call)) (waiting : due other = none) :
    call = program other operation' := by
  rcases serialized.undecided other operation' call found waiting with fresh | ⟨changing, -⟩
  · exact fresh
  · by_contra begun
    have underway : Underway (program other operation') call :=
      ⟨begun, fun result same => changing (same ▸ trivial)⟩
    exact changing (admitted operation update rest running other operation' call different found
      underway).2

/-- An undecided call may make an access only if its effect is the only one under way. -/
theorem along_of_undecided (serialized : Serialized program start config order settled due)
    (admitted : Undisturbed program config (.advance task))
    {update : σ → σ} {rest : σ → Program σ ρ}
    (running : config.running task = some (operation, .access update rest))
    (undecided : due task = none) :
    Along (program task operation) settled (.access update rest) config.shared := by
  rcases serialized.undecided task operation _ running undecided with fresh | ⟨-, along⟩
  · rcases serialized.owned with clean | ⟨owner, operation', call, found, waiting, changing, along⟩
    · rw [clean, fresh]
      exact .start
    · by_cases same : owner = task
      · subst same
        obtain ⟨rfl, rfl⟩ : operation = operation' ∧ .access update rest = call := by
          simpa [running] using found
        exact along
      · have unbegun := serialized.fresh_of_admitted admitted running same found waiting
        rcases along.begun with ⟨-, clean⟩ | begun
        · rw [clean, fresh]
          exact .start
        · exact absurd unbegun begun.ne
  · exact along

/-- A call of another task that has taken effect does not notice an access. -/
theorem decided_of_admitted (serialized : Serialized program start config order settled due)
    (admitted : Undisturbed program config (.advance task))
    {update : σ → σ} {rest : σ → Program σ ρ}
    (running : config.running task = some (operation, .access update rest))
    {other : ι} {operation' : ο} {call : Program σ ρ} {result : ρ} (different : other ≠ task)
    (found : config.running other = some (operation', call)) (taken : due other = some result) :
    Begun (program other operation') call ∧ call.Still (update config.shared) ∧
      call.exec (update config.shared) = (result, update config.shared) := by
  obtain ⟨begun, still, effect⟩ := serialized.decided other operation' call result found taken
  refine ⟨begun, ?_⟩
  cases call with
  | done answer =>
      obtain ⟨rfl⟩ : answer = result := by simpa using effect
      exact ⟨trivial, rfl⟩
  | access update' next =>
      have underway : Underway (program other operation') (.access update' next) :=
        ⟨begun.ne, by simp⟩
      have unchanged := (admitted operation update rest running other operation' _ different found
        underway).1
      rw [unchanged]
      exact ⟨still, effect⟩

/-- What the running and the returned calls have in common, every call of the order has. -/
theorem of_calls (serialized : Serialized program start config order settled due)
    {started : ι → ο → Prop}
    (running : ∀ task operation call, config.running task = some (operation, call) →
      started task operation)
    (returned : ∀ task operation result, (task, operation, result) ∈ config.history →
      started task operation)
    {task : ι} {operation : ο} {result : ρ} (member : (task, operation, result) ∈ order) :
    started task operation := by
  have member : (task, operation, result) ∈ callsBy task order := by simp [callsBy, member]
  rw [serialized.orders, List.mem_append] at member
  rcases member with member | member
  · exact returned task operation result (by simpa [callsBy] using member)
  · unfold pendingEntry at member
    split at member
    · rename_i operation' call result found taken
      obtain ⟨rfl, -⟩ := by simpa using member
      exact running task _ call found
    · simp at member

section Access

variable {update : σ → σ} {rest : σ → Program σ ρ}

/-- A call that has taken effect changes nothing by its further accesses. -/
theorem access_decided (serialized : Serialized program start config order settled due)
    (admitted : Undisturbed program config (.advance task))
    (running : config.running task = some (operation, .access update rest)) {result : ρ}
    (taken : due task = some result) :
    Serialized program start { config with
      shared := update config.shared
      running := Function.update config.running task (some (operation, rest config.shared)) }
      order settled due := by
  obtain ⟨begun, ⟨unchanged, still⟩, effect⟩ :=
    serialized.decided task operation _ result running taken
  refine ⟨serialized.sequential, ?_, ?_, ?_, ?_⟩
  · intro other
    have orders := serialized.orders other
    by_cases same : other = task
    · subst same
      simpa [pendingEntry, running, taken] using orders
    · simpa [same] using orders
  · intro other operation' call answer found decided
    by_cases same : other = task
    · subst same
      simp only [Function.update_self, Option.some.injEq, Prod.mk.injEq] at found
      obtain ⟨rfl, rfl⟩ := found
      obtain rfl : result = answer := by simpa [taken] using decided
      refine ⟨begun.next _, ?_⟩
      rw [exec, unchanged] at effect
      simpa only [unchanged] using And.intro still effect
    · simp only [Function.update_of_ne same] at found
      exact serialized.decided_of_admitted admitted running same found decided
  · intro other operation' call found waiting
    by_cases same : other = task
    · subst same
      simp [taken] at waiting
    · simp only [Function.update_of_ne same] at found
      exact .inl (serialized.fresh_of_admitted admitted running same found waiting)
  · rw [unchanged]
    refine serialized.owned.imp_right ?_
    rintro ⟨owner, operation', call, found, waiting, rest⟩
    have other : owner ≠ task := by
      rintro rfl
      simp [taken] at waiting
    exact ⟨owner, operation', call, by simpa [other] using found, waiting, rest⟩

/-- A call takes effect with its last change. -/
theorem access_effect (serialized : Serialized program start config order settled due)
    (admitted : Undisturbed program config (.advance task))
    (running : config.running task = some (operation, .access update rest))
    (undecided : due task = none) (still : (rest config.shared).Still (update config.shared)) :
    Serialized program start { config with
      shared := update config.shared
      running := Function.update config.running task (some (operation, rest config.shared)) }
      (order ++ [(task, operation, ((rest config.shared).exec (update config.shared)).1)])
      (update config.shared)
      (Function.update due task
        (some ((rest config.shared).exec (update config.shared)).1)) := by
  have along := serialized.along_of_undecided admitted running undecided
  have effect : (program task operation).exec settled =
      (((rest config.shared).exec (update config.shared)).1, update config.shared) := by
    rw [← along.exec_eq, exec]
    exact still.exec_eq
  refine ⟨?_, ?_, ?_, ?_, .inl rfl⟩
  · have sequential := serialized.sequential.snoc task operation
    rwa [effect] at sequential
  · intro other
    have orders := serialized.orders other
    rw [callsBy_snoc, orders]
    by_cases same : other = task
    · subst same
      simp [pendingEntry, undecided]
    · simp [same, Ne.symm same]
  · intro other operation' call answer found decided
    by_cases same : other = task
    · subst same
      simp only [Function.update_self, Option.some.injEq, Prod.mk.injEq] at found decided
      obtain ⟨rfl, rfl⟩ := found
      exact ⟨along.begun_next, still, decided ▸ still.exec_eq⟩
    · simp only [Function.update_of_ne same] at found decided
      exact serialized.decided_of_admitted admitted running same found decided
  · intro other operation' call found waiting
    by_cases same : other = task
    · subst same
      simp at waiting
    · simp only [Function.update_of_ne same] at found waiting
      exact .inl (serialized.fresh_of_admitted admitted running same found waiting)

/-- A call that has changes left to make is the only one with an effect under way. -/
theorem access_before (serialized : Serialized program start config order settled due)
    (admitted : Undisturbed program config (.advance task))
    (running : config.running task = some (operation, .access update rest))
    (undecided : due task = none)
    (changing : ¬(rest config.shared).Still (update config.shared)) :
    Serialized program start { config with
      shared := update config.shared
      running := Function.update config.running task (some (operation, rest config.shared)) }
      order settled due := by
  have along := serialized.along_of_undecided admitted running undecided
  refine ⟨serialized.sequential, ?_, ?_, ?_, .inr ⟨task, operation, _, by simp, undecided,
    changing, along.access⟩⟩
  · intro other
    have orders := serialized.orders other
    by_cases same : other = task
    · subst same
      simpa [pendingEntry, running, undecided] using orders
    · simpa [same] using orders
  · intro other operation' call answer found decided
    have different : other ≠ task := by
      rintro rfl
      simp [undecided] at decided
    simp only [Function.update_of_ne different] at found
    exact serialized.decided_of_admitted admitted running different found decided
  · intro other operation' call found waiting
    by_cases same : other = task
    · subst same
      simp only [Function.update_self, Option.some.injEq, Prod.mk.injEq] at found
      obtain ⟨rfl, rfl⟩ := found
      exact .inr ⟨changing, along.access⟩
    · simp only [Function.update_of_ne same] at found
      exact .inl (serialized.fresh_of_admitted admitted running same found waiting)

end Access

/-- A call that returns moves from the pending calls to the returned ones. -/
theorem returned_of_entry (serialized : Serialized program start config order settled due)
    {result : ρ} (running : config.running task = some (operation, .done result))
    {entered : List (ι × ο × ρ)} (sequential : Sequential program start entered settled)
    (entry : callsBy task entered =
      callsBy task config.history.reverse ++ [(task, operation, result)])
    (others : ∀ other, other ≠ task → callsBy other entered = callsBy other order) :
    Serialized program start { config with
      running := Function.update config.running task none
      history := (task, operation, result) :: config.history }
      entered settled (Function.update due task none) := by
  refine ⟨sequential, ?_, ?_, ?_, ?_⟩
  · intro other
    rw [List.reverse_cons, callsBy_snoc]
    by_cases same : other = task
    · subst same
      simpa [pendingEntry] using entry
    · have orders := serialized.orders other
      simp [same, Ne.symm same, others other same, orders]
  · intro other operation' call answer found decided
    have different : other ≠ task := by
      rintro rfl
      simp at found
    simp only [Function.update_of_ne different] at found decided
    exact serialized.decided other operation' call answer found decided
  · intro other operation' call found waiting
    have different : other ≠ task := by
      rintro rfl
      simp at found
    simp only [Function.update_of_ne different] at found waiting
    exact serialized.undecided other operation' call found waiting
  · refine serialized.owned.imp_right ?_
    rintro ⟨owner, operation', call, found, waiting, changing, along⟩
    have different : owner ≠ task := by
      rintro rfl
      obtain ⟨-, rfl⟩ : operation = operation' ∧ .done result = call := by
        simpa [running] using found
      exact changing trivial
    exact ⟨owner, operation', call, by simpa [different] using found,
      by simpa [different] using waiting, changing, along⟩

/-- A call that returns has taken effect; one that makes no access does so here. -/
theorem returned (serialized : Serialized program start config order settled due) {result : ρ}
    (running : config.running task = some (operation, .done result)) :
    ∃ order, Serialized program start { config with
      running := Function.update config.running task none
      history := (task, operation, result) :: config.history }
      order settled (Function.update due task none) := by
  have orders := serialized.orders task
  cases taken : due task with
  | some answer =>
      obtain ⟨-, -, effect⟩ := serialized.decided task operation _ answer running taken
      obtain rfl : result = answer := by simpa using effect
      exact ⟨order, serialized.returned_of_entry running serialized.sequential
        (by simpa [pendingEntry, running, taken] using orders) fun _ _ => rfl⟩
  | none =>
      have fresh : .done result = program task operation := by
        rcases serialized.undecided task operation _ running taken with fresh | ⟨changing, -⟩
        · exact fresh
        · exact absurd trivial changing
      have sequential := serialized.sequential.snoc task operation
      rw [← fresh] at sequential
      refine ⟨_, serialized.returned_of_entry running sequential ?_ ?_⟩
      · simpa [callsBy_snoc, pendingEntry, running, taken] using orders
      · intro other different
        simp [callsBy_snoc, Ne.symm different]

/-- Every step keeps the calls in a sequential order. -/
theorem step (serialized : Serialized program start config order settled due)
    (admitted : Undisturbed program config label)
    (stepped : config.step program label = some next) :
    ∃ order settled due, Serialized program start next order settled due := by
  rcases Config.step_cases stepped with
    ⟨task, operation, rfl, idle, rfl⟩ | ⟨task, operation, update, rest, rfl, running, rfl⟩ |
      ⟨task, operation, result, rfl, running, rfl⟩
  · exact ⟨_, _, _, serialized.call idle⟩
  · cases taken : due task with
    | some result => exact ⟨_, _, _, serialized.access_decided admitted running taken⟩
    | none =>
        by_cases still : (rest config.shared).Still (update config.shared)
        · exact ⟨_, _, _, serialized.access_effect admitted running taken still⟩
        · exact ⟨_, _, _, serialized.access_before admitted running taken still⟩
  · obtain ⟨order, serialized⟩ := serialized.returned running
    exact ⟨_, _, _, serialized⟩

end Serialized

/-- Every undisturbed run has a sequential order of its calls. -/
theorem Reaches.serialized {allowed : Config ι σ ο ρ → Label ι ο → Prop}
    (undisturbed : ∀ config label, allowed config label → Undisturbed program config label)
    (reached : Reaches program allowed (Config.initial start) config) :
    ∃ order settled due, Serialized program start config order settled due := by
  induction reached with
  | refl => exact ⟨_, _, _, serialized_initial⟩
  | step label _ admitted stepped ih =>
      obtain ⟨_, _, _, serialized⟩ := ih
      exact serialized.step (undisturbed _ _ admitted) stepped

end HidBot.Interleaving
