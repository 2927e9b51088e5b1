import HidBot.Interleaving.Whole
import Mathlib.Data.List.Basic

/-!
# Conditions, loads and triples

Conditions of several loads stop at the load that decides them. A call of loads
changes nothing. A call that runs without interference is judged by what holds
before it and at its return.
-/

namespace HidBot.Interleaving

variable {σ τ α β : Type}

namespace Program

/-- The first condition that holds decides; the conditions after it are not evaluated. -/
def anyOf : List (Program σ Bool) → Program σ Bool
  | [] => return false
  | condition :: conditions => do
      if ← condition then
        return true
      anyOf conditions

/-- The first condition that fails decides; the conditions after it are not evaluated. -/
def allOf : List (Program σ Bool) → Program σ Bool
  | [] => return true
  | condition :: conditions => do
      if ← condition then
        allOf conditions
      else
        return false

theorem Each.anyOf {step : σ → σ → Prop} {conditions : List (Program σ Bool)}
    (each : conditions.Forall (·.Each step)) : (anyOf conditions).Each step := by
  induction conditions with
  | nil => trivial
  | cons condition conditions ih =>
      obtain ⟨first, later⟩ := (List.forall_cons ..).mp each
      refine .bind first fun holds => ?_
      split
      · trivial
      · exact ih later

theorem Each.allOf {step : σ → σ → Prop} {conditions : List (Program σ Bool)}
    (each : conditions.Forall (·.Each step)) : (allOf conditions).Each step := by
  induction conditions with
  | nil => trivial
  | cons condition conditions ih =>
      obtain ⟨first, later⟩ := (List.forall_cons ..).mp each
      refine .bind first fun holds => ?_
      split
      · exact ih later
      · trivial

theorem Each.ite {step : σ → σ → Prop} {condition : Prop} {_ : Decidable condition}
    {first second : Program σ α} (one : first.Each step) (two : second.Each step) :
    (if condition then first else second).Each step := by
  split
  · exact one
  · exact two

/-- Every access does something. -/
theorem each_any (call : Program σ α) : call.Each fun _ _ => True := by
  induction call with
  | done result => trivial
  | access update next ih => exact fun state => ⟨trivial, ih state⟩

/-! ### Calls of loads -/

/-- No access of the call changes the shared state. -/
def Loads (call : Program σ α) : Prop := call.Each fun before after => after = before

/-- What a call of loads returns when it runs alone. -/
def value (call : Program σ α) (state : σ) : α := (call.exec state).1

theorem Loads.done (result : α) : (Program.done result : Program σ α).Loads := trivial

theorem Loads.read (view : σ → α) : (Program.read view).Loads := fun _ => ⟨rfl, trivial⟩

theorem Loads.bind {call : Program σ α} {rest : α → Program σ β} (first : call.Loads)
    (later : ∀ result, (rest result).Loads) : (call >>= rest).Loads := Each.bind first later

theorem Loads.zoom {view : τ → σ} {set : σ → τ → τ} (same : ∀ state, set (view state) state = state)
    {call : Program σ α} (loads : call.Loads) : (call.zoom view set).Loads :=
  Each.zoom (fun state _ unchanged => by rw [unchanged, same]) loads

theorem Loads.anyOf {conditions : List (Program σ Bool)}
    (loads : conditions.Forall Loads) : (anyOf conditions).Loads :=
  Each.anyOf loads

theorem Loads.allOf {conditions : List (Program σ Bool)}
    (loads : conditions.Forall Loads) : (allOf conditions).Loads :=
  Each.allOf loads

theorem Loads.ite {condition : Prop} {_ : Decidable condition} {first second : Program σ α}
    (one : first.Loads) (two : second.Loads) : (if condition then first else second).Loads :=
  Each.ite one two

/-- A call of loads makes steps of every reflexive relation. -/
theorem Loads.each {step : σ → σ → Prop} (refl : ∀ state, step state state) {call : Program σ α}
    (loads : call.Loads) : call.Each step :=
  Each.mono (fun before _ same => same ▸ refl before) loads

theorem Loads.exec {call : Program σ α} (loads : call.Loads) (state : σ) :
    call.exec state = (call.value state, state) :=
  Prod.ext rfl (Each.exec_loads loads state)

theorem Loads.exec_bind {call : Program σ α} (loads : call.Loads) (rest : α → Program σ β)
    (state : σ) : (call >>= rest).exec state = (rest (call.value state)).exec state := by
  rw [Program.exec_bind, loads.exec]

@[simp] theorem value_done (result : α) (state : σ) :
    (Program.done result : Program σ α).value state = result := rfl

@[simp] theorem value_read (view : σ → α) (state : σ) : (Program.read view).value state = view state :=
  rfl

@[simp] theorem value_read_bind (view : σ → α) (rest : α → Program σ β) (state : σ) :
    (Program.read view >>= rest).value state = (rest (view state)).value state := rfl

theorem Loads.value_bind {call : Program σ α} (loads : call.Loads) (rest : α → Program σ β)
    (state : σ) : (call >>= rest).value state = (rest (call.value state)).value state :=
  congrArg Prod.fst (loads.exec_bind rest state)

@[simp] theorem value_ite (condition : Prop) {_ : Decidable condition} (first second : Program σ α)
    (state : σ) :
    (if condition then first else second).value state =
      if condition then first.value state else second.value state := by
  split <;> rfl

theorem value_anyOf {conditions : List (Program σ Bool)}
    (loads : conditions.Forall Loads) (state : σ) :
    (anyOf conditions).value state = conditions.any (·.value state) := by
  induction conditions with
  | nil => rfl
  | cons condition conditions ih =>
      obtain ⟨first, later⟩ := (List.forall_cons ..).mp loads
      rw [Program.anyOf, first.value_bind]
      cases holds : condition.value state <;> simp [holds, ih later]

theorem value_allOf {conditions : List (Program σ Bool)}
    (loads : conditions.Forall Loads) (state : σ) :
    (allOf conditions).value state = conditions.all (·.value state) := by
  induction conditions with
  | nil => rfl
  | cons condition conditions ih =>
      obtain ⟨first, later⟩ := (List.forall_cons ..).mp loads
      rw [Program.allOf, first.value_bind]
      cases holds : condition.value state <;> simp [holds, ih later]

end Program

end HidBot.Interleaving
