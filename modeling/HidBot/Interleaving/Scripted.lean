import HidBot.Interleaving.Triple

/-!
# Calls with a script

A call may depend on answers from outside the shared state: a clock, another
component, a spurious failure. They are taken in order from a script, and a call
whose script runs out is cut there: it makes no further access and returns
nothing. Every run of a loop that may go on forever is a run with some script.
-/

namespace HidBot.Interleaving

variable {ν σ α β : Type}

namespace Program

/-- Every result that the call can return satisfies `holds`, whatever it has seen. -/
def Ends (holds : α → Prop) : Program σ α → Prop
  | done result => holds result
  | access _ next => ∀ state, (next state).Ends holds

theorem Ends.bind {middle : α → Prop} {holds : β → Prop} {call : Program σ α}
    {rest : α → Program σ β} (first : call.Ends middle)
    (later : ∀ result, middle result → (rest result).Ends holds) :
    (call >>= rest).Ends holds := by
  induction call with
  | done result => exact later result first
  | access update next ih => exact fun state => ih state (first state)

theorem Ends.mono {holds weaker : α → Prop} {call : Program σ α} (ends : call.Ends holds)
    (weaken : ∀ result, holds result → weaker result) : call.Ends weaker := by
  induction call with
  | done result => exact weaken result ends
  | access update next ih => exact fun state => ih state (ends state)

theorem ends_any (call : Program σ α) : call.Ends fun _ => True := by
  induction call with
  | done result => trivial
  | access update next ih => exact fun state => ih state

/-- A result of the call, where the others may change the state in any way. -/
def Returns : Program σ α → α → Prop
  | done result, returned => returned = result
  | access _ next, returned => ∃ state, (next state).Returns returned

theorem Ends.returned {holds : α → Prop} {call : Program σ α} (ends : call.Ends holds)
    {result : α} (returns : call.Returns result) : holds result := by
  induction call with
  | done returned => exact returns ▸ ends
  | access update next ih =>
      obtain ⟨state, returns⟩ := returns
      exact ih state (ends state) returns

/-- What every access keeps holds at the return, together with what every result
satisfies. -/
theorem Each.safe_ends {rely guar step : σ → σ → Prop} {assertion : σ → Prop} {holds : α → Prop}
    (stable : ∀ before after, assertion before → rely before after → assertion after)
    (keeps : ∀ before after, assertion before → step before after →
      guar before after ∧ assertion after)
    {call : Program σ α} (each : call.Each step) (ends : call.Ends holds) {state : σ}
    (now : assertion state) :
    call.Safe rely guar (fun result later => holds result ∧ assertion later) state := by
  induction call generalizing state with
  | done result => exact fun later interfered => ⟨ends, stable _ _ now interfered⟩
  | access update next ih =>
      intro later interfered
      have kept := keeps later _ (stable _ _ now interfered) (each later).1
      exact ⟨kept.1, ih later (each later).2 (ends later) kept.2⟩

end Program

/-- A call that takes answers `ν` from a script. -/
def Scripted (ν σ α : Type) := List ν → Program σ (Option (α × List ν))

namespace Scripted

/-- Go on with the rest of the script, unless the call was cut. -/
def continueWith (rest : α → Scripted ν σ β) :
    Option (α × List ν) → Program σ (Option (β × List ν))
  | none => .done none
  | some (result, script) => rest result script

instance : Monad (Scripted ν σ) where
  pure result script := .done (some (result, script))
  bind call rest script := call script >>= continueWith rest

/-- The call makes no access and never returns. -/
def cut : Scripted ν σ α := fun _ => .done none

/-- A call that takes no answer. -/
def ofProgram (call : Program σ α) : Scripted ν σ α :=
  fun script => call >>= fun result => .done (some (result, script))

def read (view : σ → α) : Scripted ν σ α := ofProgram (.read view)

def write (update : σ → σ) : Scripted ν σ Unit := ofProgram (.write update)

def readModifyWrite (change : σ → α × σ) : Scripted ν σ α := ofProgram (.readModifyWrite change)

/-- The next answer of the script, if it is one of the kind asked for. -/
def ask (answer : ν → Option α) : Scripted ν σ α
  | [] => .done none
  | next :: script => .done ((answer next).map fun result => (result, script))

/-- At most `turns` turns. -/
def iterateWithin (body : β → Scripted ν σ (β ⊕ α)) : Nat → β → Scripted ν σ α
  | 0, _ => cut
  | turns + 1, state => do
      match ← body state with
      | .inl again => iterateWithin body turns again
      | .inr result => return result

/-- Repeat a body until it gives a result. A body that takes an answer in every
turn takes at most as many turns as the script is long. -/
def iterate (body : β → Scripted ν σ (β ⊕ α)) (state : β) : Scripted ν σ α :=
  fun script => iterateWithin body (script.length + 1) state script

/-- Run the call with this script. -/
def withScript (call : Scripted ν σ α) (script : List ν) : Program σ (Option α) :=
  call script >>= fun result => .done (result.map (·.1))

/-! ### Every access -/

/-- Every access of the call is a `step`, for every script. -/
def Each (step : σ → σ → Prop) (call : Scripted ν σ α) : Prop :=
  ∀ script, (call script).Each step

section Each

variable {step : σ → σ → Prop}

theorem Each.pure (result : α) : (pure result : Scripted ν σ α).Each step := fun _ => trivial

theorem Each.ofProgram {call : Program σ α} (each : call.Each step) :
    (ofProgram call : Scripted ν σ α).Each step :=
  fun _ => .bind each fun _ => trivial

theorem Each.ask (answer : ν → Option α) : (ask answer : Scripted ν σ α).Each step := by
  intro script
  cases script with
  | nil => trivial
  | cons next script =>
      unfold Scripted.ask
      split <;> trivial

theorem Each.bind {call : Scripted ν σ α} {rest : α → Scripted ν σ β} (first : call.Each step)
    (later : ∀ result, (rest result).Each step) : (call >>= rest).Each step := by
  intro script
  refine Program.Each.bind (first script) fun result => ?_
  cases result with
  | none => trivial
  | some result => exact later result.1 result.2

theorem Each.iterate {body : β → Scripted ν σ (β ⊕ α)} (each : ∀ state, (body state).Each step)
    (state : β) : (iterate body state).Each step := by
  intro script
  have within : ∀ turns state, (iterateWithin body turns state).Each step := by
    intro turns
    induction turns with
    | zero => exact fun _ _ => trivial
    | succ turns ih =>
        refine fun state => .bind (each state) fun result => ?_
        cases result with
        | inl again => exact ih again
        | inr result => exact .pure result
  exact within _ _ script

theorem Each.ite {condition : Prop} {_ : Decidable condition} {first second : Scripted ν σ α}
    (one : first.Each step) (two : second.Each step) :
    (if condition then first else second).Each step := by
  split
  · exact one
  · exact two

theorem Each.withScript {call : Scripted ν σ α} (each : call.Each step) (script : List ν) :
    (call.withScript script).Each step :=
  .bind (each script) fun _ => trivial

end Each

/-! ### Every result -/

/-- What a property of the result says of a call that may have been cut. -/
def IfUncut (holds : α → Prop) (result : Option (α × List ν)) : Prop :=
  ∀ answer script, result = some (answer, script) → holds answer

/-- Every result that the call can return satisfies `holds`, for every script. -/
def Ends (holds : α → Prop) (call : Scripted ν σ α) : Prop :=
  ∀ script, (call script).Ends (IfUncut holds)

section Ends

variable {holds : α → Prop}

theorem Ends.pure {result : α} (here : holds result) : (pure result : Scripted ν σ α).Ends holds := by
  intro script answer rest same
  cases same
  exact here

theorem ends_any (call : Scripted ν σ α) : call.Ends fun _ => True := by
  intro script
  have any := Program.ends_any (call script)
  refine Program.Ends.mono any fun _ _ _ _ _ => trivial

theorem Ends.bind {middle : β → Prop} {call : Scripted ν σ β} {rest : β → Scripted ν σ α}
    (first : call.Ends middle) (later : ∀ result, middle result → (rest result).Ends holds) :
    (call >>= rest).Ends holds := by
  intro script
  refine Program.Ends.bind (first script) fun result outcome => ?_
  cases result with
  | none =>
      intro answer rest same
      cases same
  | some result => exact later result.1 (outcome result.1 result.2 rfl) result.2

/-- The results of the first call do not matter. -/
theorem Ends.after {call : Scripted ν σ β} {rest : β → Scripted ν σ α}
    (later : ∀ result, (rest result).Ends holds) : (call >>= rest).Ends holds :=
  .bind (ends_any call) fun result _ => later result

theorem Ends.iterate {body : β → Scripted ν σ (β ⊕ α)}
    (ends : ∀ state, (body state).Ends fun result => ∀ answer, result = .inr answer → holds answer)
    (state : β) : (iterate body state).Ends holds := by
  have within : ∀ turns state, (iterateWithin body turns state).Ends holds := by
    intro turns
    induction turns with
    | zero => exact fun _ _ _ _ same => nomatch same
    | succ turns ih =>
        refine fun state => .bind (ends state) fun result outcome => ?_
        cases result with
        | inl again => exact ih again
        | inr result => exact .pure (outcome result rfl)
  exact fun script => within _ _ script

theorem Ends.ite {condition : Prop} {_ : Decidable condition} {first second : Scripted ν σ α}
    (one : condition → first.Ends holds) (two : ¬condition → second.Ends holds) :
    (if condition then first else second).Ends holds := by
  split
  · exact one ‹_›
  · exact two ‹_›

end Ends

/-! ### Calls between interference -/

/-- What a scripted call has to show of a result, if it was not cut. -/
def Uncut (post : α → σ → Prop) (result : Option (α × List ν)) (state : σ) : Prop :=
  ∀ answer script, result = some (answer, script) → post answer state

/-- `Program.Safe`, for every script. -/
def Safe (rely guar : σ → σ → Prop) (post : α → σ → Prop) (call : Scripted ν σ α)
    (state : σ) : Prop :=
  ∀ script, (call script).Safe rely guar (Uncut post) state

section Safe

variable {rely guar : σ → σ → Prop} {state : σ}

theorem Safe.pure {post : α → σ → Prop} {result : α}
    (holds : ∀ later, rely state later → post result later) :
    (pure result : Scripted ν σ α).Safe rely guar post state := by
  intro script later interfered answer rest same
  cases same
  exact holds later interfered

theorem Safe.mono {stronger post : α → σ → Prop}
    (weaken : ∀ result state, stronger result state → post result state)
    {call : Scripted ν σ α} (safe : call.Safe rely guar stronger state) :
    call.Safe rely guar post state :=
  fun script => (safe script).mono fun _ later holds answer rest same =>
    weaken answer later (holds answer rest same)

theorem Safe.bind (refl : ∀ state, rely state state) {call : Scripted ν σ α}
    {rest : α → Scripted ν σ β} {post : β → σ → Prop}
    (safe : call.Safe rely guar (fun result later => (rest result).Safe rely guar post later)
      state) :
    (call >>= rest).Safe rely guar post state := by
  intro script
  refine Program.Safe.bind refl ((safe script).mono fun result later holds => ?_)
  cases result with
  | none =>
      intro last _ answer remaining same
      cases same
  | some result => exact holds result.1 result.2 rfl result.2

theorem Safe.ofProgram {call : Program σ α} {post : α → σ → Prop}
    (safe : call.Safe rely guar post state) :
    (ofProgram call : Scripted ν σ α).Safe rely guar post state := by
  intro script
  refine Program.Safe.map _ (safe.mono fun result later holds answer rest same => ?_)
  cases same
  exact holds

theorem Safe.ite {post : α → σ → Prop} {condition : Prop} {_ : Decidable condition}
    {first second : Scripted ν σ α} (one : condition → first.Safe rely guar post state)
    (two : ¬condition → second.Safe rely guar post state) :
    (if condition then first else second).Safe rely guar post state := by
  split
  · exact one ‹_›
  · exact two ‹_›

/-- A single access. -/
theorem Safe.readModifyWrite {change : σ → α × σ} {post : α → σ → Prop}
    (holds : ∀ later, rely state later → guar later (change later).2 ∧
      ∀ last, rely (change later).2 last → post (change later).1 last) :
    (readModifyWrite change : Scripted ν σ α).Safe rely guar post state :=
  .ofProgram fun later interfered => ⟨(holds later interfered).1, (holds later interfered).2⟩

theorem Safe.read {view : σ → α} {post : α → σ → Prop}
    (holds : ∀ later, rely state later → guar later later ∧
      ∀ last, rely later last → post (view later) last) :
    (read view : Scripted ν σ α).Safe rely guar post state :=
  .ofProgram fun later interfered => ⟨(holds later interfered).1, (holds later interfered).2⟩

theorem Safe.write {update : σ → σ} {post : Unit → σ → Prop}
    (holds : ∀ later, rely state later → guar later (update later) ∧
      ∀ last, rely (update later) last → post () last) :
    (write update : Scripted ν σ Unit).Safe rely guar post state :=
  .ofProgram fun later interfered => ⟨(holds later interfered).1, (holds later interfered).2⟩

/-- An answer makes no access. -/
theorem Safe.ask {assertion : σ → Prop}
    (stable : ∀ before after, assertion before → rely before after → assertion after)
    (answer : ν → Option α) (holds : assertion state) :
    (ask answer : Scripted ν σ α).Safe rely guar (fun _ later => assertion later) state := by
  intro script
  cases script with
  | nil => exact fun _ _ _ _ same => nomatch same
  | cons next script =>
      unfold Scripted.ask
      split
      · exact fun _ _ _ _ same => nomatch same
      · exact fun later interfered _ _ _ => stable _ _ holds interfered

/-- A loop keeps the invariant of its turns. -/
theorem Safe.iterate (refl : ∀ state, rely state state) (invariant : β → σ → Prop)
    {post : α → σ → Prop} (stable : ∀ result before after, post result before →
      rely before after → post result after)
    {body : β → Scripted ν σ (β ⊕ α)}
    (turn : ∀ again later, invariant again later → (body again).Safe rely guar
      (fun result last => result.elim (invariant · last) (post · last)) later)
    {start : β} (holds : invariant start state) :
    (iterate body start).Safe rely guar post state := by
  have within : ∀ turns again later, invariant again later →
      (iterateWithin body turns again).Safe rely guar post later := by
    intro turns
    induction turns with
    | zero => exact fun _ _ _ _ _ _ _ _ same => nomatch same
    | succ turns ih =>
        intro again later holds
        refine Safe.bind refl ((turn again later holds).mono fun result last outcome => ?_)
        cases result with
        | inl next => exact ih next last outcome
        | inr result => exact Safe.pure fun final interfered => stable _ _ _ outcome interfered
  exact fun script => within _ _ _ holds script

/-- An assertion that interference and the accesses preserve holds at the return. -/
theorem Each.safe {step : σ → σ → Prop} {assertion : σ → Prop}
    (stable : ∀ before after, assertion before → rely before after → assertion after)
    (keeps : ∀ before after, assertion before → step before after →
      guar before after ∧ assertion after)
    {call : Scripted ν σ α} (each : call.Each step) (holds : assertion state) :
    call.Safe rely guar (fun _ later => assertion later) state :=
  fun script => (Program.Each.safe stable keeps (each script) holds).mono
    fun _ _ holds _ _ _ => holds

theorem Each.safe_ends {step : σ → σ → Prop} {assertion : σ → Prop} {holds : α → Prop}
    (stable : ∀ before after, assertion before → rely before after → assertion after)
    (keeps : ∀ before after, assertion before → step before after →
      guar before after ∧ assertion after)
    {call : Scripted ν σ α} (each : call.Each step) (ends : call.Ends holds)
    (now : assertion state) :
    call.Safe rely guar (fun result later => holds result ∧ assertion later) state :=
  fun script => (Program.Each.safe_ends stable keeps (each script) (ends script) now).mono
    fun _ _ outcome answer rest same => ⟨outcome.1 answer rest same, outcome.2⟩

theorem Safe.withScript {call : Scripted ν σ α} {post : α → σ → Prop}
    (safe : call.Safe rely guar post state) (script : List ν) :
    (call.withScript script).Safe rely guar
      (fun result later => ∀ answer ∈ result, post answer later) state := by
  refine Program.Safe.map _ ((safe script).mono fun result later holds answer member => ?_)
  obtain ⟨pair, same, rfl⟩ := Option.map_eq_some_iff.mp member
  exact holds pair.1 pair.2 same

end Safe

end Scripted

end HidBot.Interleaving
