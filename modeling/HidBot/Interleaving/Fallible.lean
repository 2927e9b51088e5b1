import HidBot.Interleaving.Scripted

/-!
# Calls that may fail

A call that returns a status other than success ends there, and so do the calls that
wait for it. Run alone from a state, a call can be cut after any access: what every
access keeps holds at the cut. A call whose script is long enough is not cut.
-/

namespace HidBot.Interleaving

variable {ε ν σ α β : Type}

namespace Program

/-- A call without interference keeps what its accesses keep, and meets its
postcondition. -/
theorem Safe.exec {guar : σ → σ → Prop} {post : α → σ → Prop} {invariant : σ → Prop}
    (kept : ∀ before after, invariant before → guar before after → invariant after)
    {call : Program σ α} {state : σ} (safe : call.Safe (fun before after => after = before) guar
      post state) (holds : invariant state) :
    invariant (call.exec state).2 ∧ post (call.exec state).1 (call.exec state).2 := by
  induction call generalizing state with
  | done result => exact ⟨holds, safe state rfl⟩
  | access update next ih => exact ih state (safe state rfl).2 (kept _ _ holds (safe state rfl).1)

/-- An assertion that interference and the accesses keep holds at the return. -/
theorem Safe.keeping {rely step guar : σ → σ → Prop} {assertion : σ → Prop} {post : α → σ → Prop}
    (stable : ∀ before after, assertion before → rely before after → assertion after)
    (keeps : ∀ before after, assertion before → step before after →
      guar before after ∧ assertion after)
    {call : Program σ α} {state : σ} (safe : call.Safe rely step post state)
    (holds : assertion state) :
    call.Safe rely guar (fun result later => post result later ∧ assertion later) state := by
  induction call generalizing state with
  | done result =>
      exact fun later interfered => ⟨safe later interfered, stable _ _ holds interfered⟩
  | access update next ih =>
      intro later interfered
      have kept := keeps later _ (stable _ _ holds interfered) (safe later interfered).1
      exact ⟨kept.1, ih later (safe later interfered).2 kept.2⟩

/-- A call leaves alone what its accesses leave alone. -/
theorem Each.exec_view {γ : Type} {view : σ → γ} {call : Program σ α}
    (each : call.Each fun before after => view after = view before) (state : σ) :
    view (call.exec state).2 = view state := by
  induction call generalizing state with
  | done result => rfl
  | access update next ih => exact (ih state (each state).2 (update state)).trans (each state).1

/-- The rest of a call matters only for the results that the first part can return. -/
theorem Each.bind_ends {step : σ → σ → Prop} {holds : α → Prop} {call : Program σ α}
    {rest : α → Program σ β} (each : call.Each step) (ends : call.Ends holds)
    (later : ∀ result, holds result → (rest result).Each step) : (call >>= rest).Each step := by
  induction call with
  | done result => exact later result ends
  | access update next ih =>
      exact fun state => ⟨(each state).1, ih state (each state).2 (ends state)⟩

theorem Ends.exec {holds : α → Prop} {call : Program σ α} (ends : call.Ends holds) (state : σ) :
    holds (call.exec state).1 := by
  induction call generalizing state with
  | done result => exact ends
  | access update next ih => exact ih state (ends state) (update state)

end Program

namespace Scripted

theorem Safe.keeping {rely step guar : σ → σ → Prop} {assertion : σ → Prop} {post : α → σ → Prop}
    (stable : ∀ before after, assertion before → rely before after → assertion after)
    (keeps : ∀ before after, assertion before → step before after →
      guar before after ∧ assertion after)
    {call : Scripted ν σ α} {state : σ} (safe : call.Safe rely step post state)
    (holds : assertion state) :
    call.Safe rely guar (fun result later => post result later ∧ assertion later) state :=
  fun script => (Program.Safe.keeping stable keeps (safe script) holds).mono
    fun _ _ both answer rest same => ⟨both.1 answer rest same, both.2⟩

/-- With answers that are all `good`, every access is a `step` and every result `holds`;
the call takes at most `count` answers, and is not cut if there are that many. -/
def Within (good : ν → Prop) (step : σ → σ → Prop) (count : Nat) (holds : α → Prop)
    (call : Scripted ν σ α) : Prop :=
  ∀ script, (∀ answer ∈ script, good answer) →
    (call script).Each step ∧ (call script).Ends fun result => match result with
      | none => script.length < count
      | some (answer, rest) =>
          holds answer ∧ (∀ later ∈ rest, good later) ∧ script.length ≤ rest.length + count

section Within

variable {good : ν → Prop} {step : σ → σ → Prop} {count more : Nat} {holds : α → Prop}

theorem Within.pure {result : α} (here : holds result) :
    (pure result : Scripted ν σ α).Within good step 0 holds :=
  fun _ all => ⟨trivial, here, all, Nat.le_refl _⟩

theorem Within.ofProgram {call : Program σ α} (each : call.Each step) (ends : call.Ends holds) :
    (ofProgram call : Scripted ν σ α).Within good step 0 holds :=
  fun _ all => ⟨.bind each fun _ => trivial, ends.bind fun _ here => ⟨here, all, Nat.le_refl _⟩⟩

theorem Within.ask {answer : ν → Option α}
    (answers : ∀ next, good next → ∃ result, answer next = some result ∧ holds result) :
    (ask answer : Scripted ν σ α).Within good step 1 holds := by
  intro script all
  cases script with
  | nil => exact ⟨trivial, Nat.one_pos⟩
  | cons next script =>
      obtain ⟨result, same, here⟩ := answers next (all next (by simp))
      refine ⟨trivial, ?_⟩
      simp only [Scripted.ask, same, Option.map_some, Program.Ends]
      exact ⟨here, fun later member => all later (List.mem_cons_of_mem _ member), by simp⟩

theorem Within.bind {middle : β → Prop} {call : Scripted ν σ β} {rest : β → Scripted ν σ α}
    (first : call.Within good step count middle)
    (later : ∀ result, middle result → (rest result).Within good step more holds) :
    (call >>= rest).Within good step (count + more) holds := by
  intro script all
  obtain ⟨each, ends⟩ := first script all
  refine ⟨each.bind_ends ends fun result outcome => ?_, ends.bind fun result outcome => ?_⟩
  · cases result with
    | none => trivial
    | some result => exact (later result.1 outcome.1 result.2 outcome.2.1).1
  · cases result with
    | none => exact Nat.lt_add_right more outcome
    | some result =>
        refine (later result.1 outcome.1 result.2 outcome.2.1).2.mono fun last here => ?_
        have taken := outcome.2.2
        cases last with
        | none =>
            dsimp only at here ⊢
            omega
        | some last =>
            refine ⟨here.1, here.2.1, ?_⟩
            have := here.2.2
            omega

theorem Within.mono {stronger : α → Prop} {call : Scripted ν σ α}
    (within : call.Within good step count stronger) (bound : count ≤ more)
    (weaken : ∀ result, stronger result → holds result) :
    call.Within good step more holds := by
  intro script all
  obtain ⟨each, ends⟩ := within script all
  refine ⟨each, ends.mono fun result outcome => ?_⟩
  cases result with
  | none => exact Nat.lt_of_lt_of_le outcome bound
  | some result =>
      refine ⟨weaken _ outcome.1, outcome.2.1, ?_⟩
      have := outcome.2.2
      omega

end Within

end Scripted

/-- A call that returns, or fails with an `ε`. -/
abbrev Fallible (ε ν σ α : Type) := ExceptT ε (Scripted ν σ) α

namespace Fallible

/-- `Scripted.Safe` of the outcome. -/
def Safe (rely guar : σ → σ → Prop) (post : Except ε α → σ → Prop) (call : Fallible ε ν σ α)
    (state : σ) : Prop := Scripted.Safe rely guar post call.run state

section Safe

variable {rely guar : σ → σ → Prop} {state : σ}

theorem Safe.pure {post : Except ε α → σ → Prop} {result : α}
    (holds : ∀ later, rely state later → post (.ok result) later) :
    Fallible.Safe rely guar post (pure result : Fallible ε ν σ α) state :=
  Scripted.Safe.pure holds

theorem Safe.throw {post : Except ε α → σ → Prop} {failure : ε}
    (holds : ∀ later, rely state later → post (.error failure) later) :
    Fallible.Safe rely guar post (throw failure : Fallible ε ν σ α) state :=
  Scripted.Safe.pure holds

/-- The rest of a call is judged where the first part returns; a failure is the
outcome of the whole. -/
theorem Safe.bind (refl : ∀ state, rely state state) {call : Fallible ε ν σ α}
    {rest : α → Fallible ε ν σ β} {post : Except ε β → σ → Prop}
    (stable : ∀ failure before after, post (.error failure) before → rely before after →
      post (.error failure) after)
    (safe : Fallible.Safe rely guar (fun outcome later => match outcome with
      | .ok result => Fallible.Safe rely guar post (rest result) later
      | .error failure => post (.error failure) later) call state) :
    Fallible.Safe rely guar post (call >>= rest) state := by
  refine Scripted.Safe.bind refl (Scripted.Safe.mono (fun outcome later holds => ?_) safe)
  cases outcome with
  | ok result => exact holds
  | error failure =>
      exact Scripted.Safe.pure fun last interfered => stable _ _ _ holds interfered

end Safe

/-- `Scripted.Within` of a call that need not succeed. -/
def Within (good : ν → Prop) (step : σ → σ → Prop) (count : Nat) (holds : α → Prop)
    (call : Fallible ε ν σ α) : Prop :=
  Scripted.Within good step count (fun outcome => ∀ result, outcome = .ok result → holds result)
    call.run

section Within

variable {good : ν → Prop} {step : σ → σ → Prop} {count more : Nat} {holds : α → Prop}

theorem Within.pure {result : α} (here : holds result) :
    Fallible.Within good step 0 holds (pure result : Fallible ε ν σ α) :=
  Scripted.Within.pure fun _ same => by cases same; exact here

theorem Within.throw (failure : ε) :
    Fallible.Within good step 0 holds (throw failure : Fallible ε ν σ α) :=
  Scripted.Within.pure fun _ same => nomatch same

theorem Within.mono {stronger : α → Prop} {call : Fallible ε ν σ α}
    (within : Fallible.Within good step count stronger call) (bound : count ≤ more)
    (weaken : ∀ result, stronger result → holds result) :
    Fallible.Within good step more holds call :=
  Scripted.Within.mono within bound fun _ here result same => weaken result (here result same)

/-- The second part takes at most `more` answers. -/
theorem Within.bind (more : Nat) {whole : Nat} {middle : β → Prop} {call : Fallible ε ν σ β}
    {rest : β → Fallible ε ν σ α} (first : Fallible.Within good step count middle call)
    (later : ∀ result, middle result → Fallible.Within good step more holds (rest result))
    (total : count + more ≤ whole) :
    Fallible.Within good step whole holds (call >>= rest) := by
  refine (Scripted.Within.bind first fun outcome here => ?_).mono total fun _ => id
  cases outcome with
  | ok result => exact later result (here result rfl)
  | error failure =>
      exact (Scripted.Within.pure fun _ same => nomatch same).mono (Nat.zero_le _) fun _ => id

/-- After a failure there is no second part. -/
theorem Within.throwThen (failure : ε) (rest : β → Fallible ε ν σ α) :
    Fallible.Within good step count holds
      ((MonadExcept.throw failure : Fallible ε ν σ β) >>= rest) := by
  have failed : Scripted.Within good step 0 (fun outcome : Except ε α =>
      ∀ result, outcome = .ok result → holds result) (Pure.pure (.error failure)) :=
    Scripted.Within.pure fun _ same => nomatch same
  exact failed.mono (Nat.zero_le _) fun _ => id

theorem Within.ite {condition : Prop} {_ : Decidable condition} {first second : Fallible ε ν σ α}
    (one : Fallible.Within good step count holds first)
    (two : Fallible.Within good step count holds second) :
    Fallible.Within good step count holds (if condition then first else second) := by
  split
  · exact one
  · exact two

end Within

end Fallible

end HidBot.Interleaving
