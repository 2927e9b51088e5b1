import Mathlib.Logic.Function.Basic

/-!
# Programs of atomic accesses

A call on a shared object is a tree of atomic accesses. An access replaces the
shared state in one step, and the rest of the call may depend on the state it
replaced, so a load, a store, an exchange and a compare-exchange are all single
accesses. `exec` is the meaning of a call that runs without interference.
-/

namespace HidBot.Interleaving

/-- A call in progress on a shared state `σ`, returning `α`. -/
inductive Program (σ α : Type) where
  | done (result : α)
  | access (update : σ → σ) (next : σ → Program σ α)

namespace Program

variable {σ τ α β : Type}

/-- Sequential composition: the accesses of the first call, then the rest. -/
def bind : Program σ α → (α → Program σ β) → Program σ β
  | done result, rest => rest result
  | access update next, rest => access update fun state => (next state).bind rest

instance : Monad (Program σ) where
  pure := done
  bind := bind

@[simp] theorem pure_eq_done (result : α) : (pure result : Program σ α) = done result := rfl

@[simp] theorem done_bind (result : α) (rest : α → Program σ β) :
    (done result >>= rest) = rest result := rfl

@[simp] theorem access_bind (update : σ → σ) (next : σ → Program σ α) (rest : α → Program σ β) :
    (access update next >>= rest) = access update fun state => next state >>= rest := rfl

theorem bind_assoc {γ : Type} (call : Program σ α) (rest : α → Program σ β)
    (last : β → Program σ γ) :
    (call >>= rest) >>= last = call >>= fun result => rest result >>= last := by
  induction call with
  | done result => rfl
  | access update next ih =>
      simp only [access_bind]
      congr 1
      funext state
      exact ih state

/-- Observe the shared state without changing it. -/
def read (view : σ → α) : Program σ α :=
  access id fun state => done (view state)

/-- Replace the shared state without observing it. -/
def write (update : σ → σ) : Program σ Unit :=
  access update fun _ => done ()

/-- Read, decide and replace in one step. -/
def readModifyWrite (change : σ → α × σ) : Program σ α :=
  access (fun state => (change state).2) fun state => done (change state).1

/-- Make the call only under a condition. -/
def onlyIf (condition : Prop) [Decidable condition] (call : Program σ Unit) : Program σ Unit :=
  if condition then call else done ()

/-- Run a call on one component of a larger shared state. -/
def zoom (view : τ → σ) (set : σ → τ → τ) : Program σ α → Program τ α
  | done result => done result
  | access update next =>
      access (fun whole => set (update (view whole)) whole) fun whole =>
        (next (view whole)).zoom view set

@[simp] theorem zoom_done (view : τ → σ) (set : σ → τ → τ) (result : α) :
    (done result).zoom view set = done result := rfl

@[simp] theorem zoom_access (view : τ → σ) (set : σ → τ → τ) (update : σ → σ)
    (next : σ → Program σ α) :
    (access update next).zoom view set =
      access (fun whole => set (update (view whole)) whole) fun whole =>
        (next (view whole)).zoom view set := rfl

theorem zoom_bind (view : τ → σ) (set : σ → τ → τ) (call : Program σ α)
    (rest : α → Program σ β) :
    (call >>= rest).zoom view set =
      call.zoom view set >>= fun result => (rest result).zoom view set := by
  induction call with
  | done result => rfl
  | access update next ih =>
      simp only [access_bind, zoom_access]
      congr 1
      funext whole
      exact ih (view whole)

/-- Run a call to its return without interference. -/
def exec : Program σ α → σ → α × σ
  | done result, state => (result, state)
  | access update next, state => (next state).exec (update state)

@[simp] theorem exec_done (result : α) (state : σ) :
    (done result : Program σ α).exec state = (result, state) := rfl

@[simp] theorem exec_read (view : σ → α) (state : σ) :
    (read view).exec state = (view state, state) := rfl

@[simp] theorem exec_write (update : σ → σ) (state : σ) :
    (write update).exec state = ((), update state) := rfl

@[simp] theorem exec_readModifyWrite (change : σ → α × σ) (state : σ) :
    (readModifyWrite change).exec state = change state := rfl

@[simp] theorem exec_read_bind (view : σ → α) (rest : α → Program σ β) (state : σ) :
    (read view >>= rest).exec state = (rest (view state)).exec state := rfl

@[simp] theorem exec_write_bind (update : σ → σ) (rest : Unit → Program σ β) (state : σ) :
    (write update >>= rest).exec state = (rest ()).exec (update state) := rfl

@[simp] theorem exec_readModifyWrite_bind (change : σ → α × σ) (rest : α → Program σ β)
    (state : σ) :
    (readModifyWrite change >>= rest).exec state =
      (rest (change state).1).exec (change state).2 := rfl

theorem exec_bind (call : Program σ α) (rest : α → Program σ β) (state : σ) :
    (call >>= rest).exec state =
      (rest (call.exec state).1).exec (call.exec state).2 := by
  induction call generalizing state with
  | done result => rfl
  | access update next ih => exact ih state (update state)

/-- Wrapping the result of a call makes no access. -/
theorem exec_map (wrap : α → β) (call : Program σ α) (state : σ) :
    (call >>= fun result => done (wrap result)).exec state =
      (wrap (call.exec state).1, (call.exec state).2) :=
  exec_bind ..

@[simp] theorem exec_ite (condition : Prop) {_ : Decidable condition} (first second : Program σ α)
    (state : σ) :
    (if condition then first else second).exec state =
      if condition then first.exec state else second.exec state := by
  split <;> rfl

end Program

end HidBot.Interleaving
