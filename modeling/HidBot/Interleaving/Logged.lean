import HidBot.Interleaving.Scripted

/-!
# Calls that note what they do

A scripted call may note events beside its accesses. The notes of a call are kept
also if the call is cut, and a call without its notes makes the same accesses and
returns the same result.
-/

namespace HidBot.Interleaving

variable {ε ν σ α β : Type}

theorem Program.bind_done (call : Program σ α) : (call >>= .done) = call := by
  induction call with
  | done result => rfl
  | access update next ih => exact congrArg (Program.access update) (funext ih)

/-- What every result satisfies holds whatever the others do. -/
theorem Program.Ends.safe {rely : σ → σ → Prop} {holds : α → Prop} {call : Program σ α}
    (ends : call.Ends holds) (state : σ) :
    call.Safe rely (fun _ _ => True) (fun result _ => holds result) state := by
  induction call generalizing state with
  | done result => exact fun _ _ => ends
  | access update next ih => exact fun later _ => ⟨trivial, ih later (ends later) _⟩

theorem Scripted.Ends.safe {rely : σ → σ → Prop} {holds : α → Prop} {call : Scripted ν σ α}
    (ends : call.Ends holds) (state : σ) :
    call.Safe rely (fun _ _ => True) (fun result _ => holds result) state :=
  fun script => (ends script).safe state

@[simp] theorem Scripted.done_bind (result : α) (rest : α → Scripted ν σ β) :
    (pure result : Scripted ν σ α) >>= rest = rest result := rfl

@[simp] theorem Scripted.bind_done (call : Scripted ν σ α) : (call >>= pure) = call := by
  funext script
  refine Eq.trans (congrArg (call script >>= ·) (funext fun result => ?_))
    (Program.bind_done (call script))
  cases result <;> rfl

/-- A scripted call that notes events `ε`. -/
def Logged (ε ν σ α : Type) := List ν → Program σ (List ε × Option (α × List ν))

namespace Logged

/-- Go on after these notes, unless the call was cut. -/
def continueWith (rest : α → Logged ε ν σ β) :
    List ε × Option (α × List ν) → Program σ (List ε × Option (β × List ν))
  | (log, none) => .done (log, none)
  | (log, some (result, script)) =>
      rest result script >>= fun later => .done (log ++ later.1, later.2)

instance : Monad (Logged ε ν σ) where
  pure result script := .done ([], some (result, script))
  bind call rest script := call script >>= continueWith rest

def note (event : ε) : Logged ε ν σ Unit := fun script => .done ([event], some ((), script))

/-- A call that notes nothing. -/
def silent (call : Scripted ν σ α) : Logged ε ν σ α :=
  fun script => call script >>= fun result => .done ([], result)

/-- At most `turns` turns. -/
def iterateWithin (body : β → Logged ε ν σ (β ⊕ α)) : Nat → β → Logged ε ν σ α
  | 0, _ => silent .cut
  | turns + 1, state => do
      match ← body state with
      | .inl again => iterateWithin body turns again
      | .inr result => return result

/-- Repeat a body until it gives a result. -/
def iterate (body : β → Logged ε ν σ (β ⊕ α)) (state : β) : Logged ε ν σ α :=
  fun script => iterateWithin body (script.length + 1) state script

/-- Run the call with this script, for its notes and its result. -/
def withScript (call : Logged ε ν σ α) (script : List ν) : Program σ (List ε × Option α) :=
  call script >>= fun outcome => .done (outcome.1, outcome.2.map (·.1))

/-! ### Without the notes -/

/-- The call without its notes. -/
def erase (call : Logged ε ν σ α) : Scripted ν σ α :=
  fun script => call script >>= fun outcome => .done outcome.2

@[simp] theorem erase_pure (result : α) :
    (pure result : Logged ε ν σ α).erase = pure result := rfl

@[simp] theorem erase_note (event : ε) : (note event : Logged ε ν σ Unit).erase = pure () := rfl

@[simp] theorem erase_silent (call : Scripted ν σ α) :
    (silent call : Logged ε ν σ α).erase = call := by
  funext script
  refine (Program.bind_assoc ..).trans ?_
  exact Program.bind_done (call script)

@[simp] theorem erase_bind (call : Logged ε ν σ α) (rest : α → Logged ε ν σ β) :
    (call >>= rest).erase = call.erase >>= fun result => (rest result).erase := by
  funext script
  refine (Program.bind_assoc ..).trans ((congrArg (call script >>= ·) ?_).trans
    (Program.bind_assoc ..).symm)
  funext ⟨log, result⟩
  cases result with
  | none => rfl
  | some result => exact Program.bind_assoc ..

@[simp] theorem erase_ite (condition : Prop) [Decidable condition]
    (first second : Logged ε ν σ α) :
    (if condition then first else second).erase =
      if condition then first.erase else second.erase := by
  split <;> rfl

@[simp] theorem erase_iterate (body : β → Logged ε ν σ (β ⊕ α)) (state : β) :
    (iterate body state).erase = Scripted.iterate (fun state => (body state).erase) state := by
  have within : ∀ turns state, (iterateWithin body turns state).erase =
      Scripted.iterateWithin (fun state => (body state).erase) turns state := by
    intro turns
    induction turns with
    | zero => exact fun _ => rfl
    | succ turns ih =>
        intro state
        refine (erase_bind ..).trans (congrArg ((body state).erase >>= ·) ?_)
        funext result
        cases result with
        | inl again => exact ih again
        | inr result => rfl
  exact funext fun script => congrFun (within _ _) script

theorem erase_withScript (call : Logged ε ν σ α) (script : List ν) :
    (call.withScript script >>= fun outcome => .done outcome.2) =
      call.erase.withScript script := by
  refine (Program.bind_assoc ..).trans (Eq.symm ?_)
  exact Program.bind_assoc (call script) (fun outcome => .done outcome.2) _

/-! ### Between interference -/

/-- `Program.Safe` for every script, on the notes and the result of the call. -/
def Safe (rely guar : σ → σ → Prop) (post : List ε → Option α → σ → Prop)
    (call : Logged ε ν σ α) (state : σ) : Prop :=
  ∀ script, (call script).Safe rely guar
    (fun outcome later => post outcome.1 (outcome.2.map (·.1)) later) state

section Safe

variable {rely guar : σ → σ → Prop} {state : σ} {post : List ε → Option α → σ → Prop}

theorem Safe.pure {result : α} (holds : ∀ later, rely state later → post [] (some result) later) :
    (pure result : Logged ε ν σ α).Safe rely guar post state := fun _ => holds

theorem Safe.note {event : ε} {post : List ε → Option Unit → σ → Prop}
    (holds : ∀ later, rely state later → post [event] (some ()) later) :
    (note event : Logged ε ν σ Unit).Safe rely guar post state := fun _ => holds

theorem Safe.mono {stronger : List ε → Option α → σ → Prop}
    (weaken : ∀ log result later, stronger log result later → post log result later)
    {call : Logged ε ν σ α} (safe : call.Safe rely guar stronger state) :
    call.Safe rely guar post state :=
  fun script => (safe script).mono fun _ _ holds => weaken _ _ _ holds

theorem Safe.bind (refl : ∀ state, rely state state) {call : Logged ε ν σ α}
    {rest : α → Logged ε ν σ β} {last : List ε → Option β → σ → Prop}
    (safe : call.Safe rely guar (fun log result later => match result with
      | none => ∀ final, rely later final → last log none final
      | some result => (rest result).Safe rely guar
          (fun log' => last (log ++ log')) later) state) :
    (call >>= rest).Safe rely guar last state := by
  intro script
  refine Program.Safe.bind refl ((safe script).mono ?_)
  rintro ⟨log, result⟩ later holds
  cases result with
  | none => exact holds
  | some result => exact Program.Safe.map _ (holds result.2)

/-- What a call that notes nothing shows, uncut and cut. -/
theorem Safe.silent {call : Scripted ν σ α} (cut : ∀ later, post [] none later)
    (safe : call.Safe rely guar (fun result => post [] (some result)) state) :
    (silent call : Logged ε ν σ α).Safe rely guar post state := by
  intro script
  refine Program.Safe.map _ ((safe script).mono fun result later holds => ?_)
  cases result with
  | none => exact cut later
  | some result => exact holds result.1 result.2 rfl

theorem Safe.ends {holds : α → Prop} {call : Scripted ν σ α} (ends : call.Ends holds)
    (cut : ∀ later, post [] none later)
    (uncut : ∀ result later, holds result → post [] (some result) later) :
    (Logged.silent call : Logged ε ν σ α).Safe rely (fun _ _ => True) post state :=
  .silent cut ((ends.safe state).mono fun result later => uncut result later)

theorem Safe.ite {condition : Prop} {_ : Decidable condition} {first second : Logged ε ν σ α}
    (one : condition → first.Safe rely guar post state)
    (two : ¬condition → second.Safe rely guar post state) :
    (if condition then first else second).Safe rely guar post state := by
  split
  · exact one ‹_›
  · exact two ‹_›

/-- A loop whose turns all make such notes. -/
theorem Safe.iterate (refl : ∀ state, rely state state) {notes : List ε → Prop} (nil : notes [])
    (append : ∀ log later, notes log → notes later → notes (log ++ later))
    {body : β → Logged ε ν σ (β ⊕ α)}
    (turn : ∀ again later, (body again).Safe rely guar (fun log _ _ => notes log) later)
    (start : β) :
    (iterate body start).Safe rely guar (fun log _ _ => notes log) state := by
  have within : ∀ turns again later,
      (iterateWithin body turns again).Safe rely guar (fun log _ _ => notes log) later := by
    intro turns
    induction turns with
    | zero => exact fun _ _ _ _ _ => nil
    | succ turns ih =>
        refine fun again later => .bind refl ((turn again later).mono
          fun log result last noted => ?_)
        rcases result with _ | (next | result)
        · exact fun _ _ => noted
        · exact (ih next last).mono fun later _ _ rest => append log later noted rest
        · exact .pure fun _ _ => append log [] noted nil
  exact fun script => within _ _ _ script

theorem Safe.withScript {call : Logged ε ν σ α} (safe : call.Safe rely guar post state)
    (script : List ν) :
    (call.withScript script).Safe rely guar (fun outcome later => post outcome.1 outcome.2 later)
      state :=
  Program.Safe.map _ (safe script)

end Safe

end Logged

end HidBot.Interleaving
