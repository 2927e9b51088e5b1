import HidBot.Interleaving.Rely

/-!
# Answers that last

A contract judges a call at its return. Where no access of another call takes an answer
back, the whole history of a run has met its postconditions, at its end as at the returns.
An answer may also be about a moment of its call.
-/

namespace HidBot.Interleaving

variable {ι σ ο ρ : Type}

namespace Contract

variable [DecidableEq ι] (contract : Contract ι σ ο ρ)

/-- Every call keeps its contract from wherever the invariant holds, the calls respect each
other, and what a call has answered stays true. -/
structure Steady (program : ι → ο → Program σ ρ) (invariant : σ → Prop) : Prop where
  starts : ∀ task operation state, invariant state →
    contract.Kept task operation (program task operation) state
  keeps : ∀ task operation before after, invariant before →
    contract.guar task operation before after → invariant after
  respects : ∀ task operation other operation' before after, task ≠ other → invariant before →
    contract.guar task operation before after → contract.rely other operation' before after
  lasts : ∀ task operation before after, invariant before →
    contract.guar task operation before after → ∀ caller asked answer,
      contract.post caller asked answer before → contract.post caller asked answer after

/-- The invariant holds, the running calls keep their contracts, and every answer is true. -/
structure Recorded (invariant : σ → Prop) (config : Config ι σ ο ρ) : Prop where
  holds : invariant config.shared
  conforms : contract.Conforms config
  answers : ∀ entry ∈ config.history,
    contract.post entry.1 entry.2.1 entry.2.2 config.shared

variable {contract} {program : ι → ο → Program σ ρ} {invariant : σ → Prop}
  {config next : Config ι σ ο ρ} {label : Label ι ο}

omit [DecidableEq ι] in
theorem recorded_initial {shared : σ} (holds : invariant shared) :
    contract.Recorded invariant (Config.initial shared) :=
  ⟨holds, conforms_initial shared, fun _ member => absurd member List.not_mem_nil⟩

/-- One step keeps the record, and it is a promised step of some call. -/
theorem Recorded.step (steady : contract.Steady program invariant)
    (recorded : contract.Recorded invariant config)
    (stepped : config.step program label = some next) :
    contract.Recorded invariant next ∧ (next.shared = config.shared ∨
      ∃ task operation, contract.guar task operation config.shared next.shared) := by
  obtain ⟨conforms, moved⟩ := recorded.conforms.step
    (fun task operation _ _ => steady.starts task operation _ recorded.holds)
    (fun task operation update rest other operation' call _ apart _ _ after promised =>
      steady.respects task operation other operation' _ after apart recorded.holds promised)
    stepped
  have moved : next.shared = config.shared ∨
      ∃ task operation, contract.guar task operation config.shared next.shared :=
    moved.imp_right fun found => by
      obtain ⟨task, operation, -, -, promised⟩ := found
      exact ⟨task, operation, promised⟩
  refine ⟨⟨?_, conforms, ?_⟩, moved⟩
  · rcases moved with same | ⟨task, operation, promised⟩
    · exact same ▸ recorded.holds
    · exact steady.keeps task operation _ _ recorded.holds promised
  · have lasting : ∀ entry ∈ config.history,
        contract.post entry.1 entry.2.1 entry.2.2 next.shared := by
      intro entry member
      rcases moved with same | ⟨task, operation, promised⟩
      · exact same ▸ recorded.answers entry member
      · exact steady.lasts task operation _ _ recorded.holds promised _ _ _
          (recorded.answers entry member)
    rcases Config.step_cases stepped with
      ⟨task, operation, rfl, idle, rfl⟩ | ⟨task, operation, update, rest, rfl, running, rfl⟩ |
        ⟨task, operation, result, rfl, running, rfl⟩
    · exact lasting
    · exact lasting
    · intro entry member
      rcases List.mem_cons.mp member with rfl | earlier
      · exact recorded.conforms.returned running
      · exact lasting entry earlier

variable {allowed : Config ι σ ο ρ → Label ι ο → Prop} {start final : Config ι σ ο ρ}

/-- **Every answer of a run is true at its end.** -/
theorem Recorded.run (steady : contract.Steady program invariant)
    (recorded : contract.Recorded invariant start)
    (reached : Reaches program allowed start final) : contract.Recorded invariant final :=
  reached.induct recorded fun _ _ _ now _ stepped => (now.step steady stepped).1

/-- What every promised step keeps holds at the end of a run. -/
theorem Recorded.induct {property : σ → Prop} (steady : contract.Steady program invariant)
    (recorded : contract.Recorded invariant start) (initially : property start.shared)
    (keeps : ∀ task operation before after, invariant before → property before →
      contract.guar task operation before after → property after)
    (reached : Reaches program allowed start final) : property final.shared := by
  have both : contract.Recorded invariant final ∧ property final.shared := by
    induction reached with
    | refl => exact ⟨recorded, initially⟩
    | step label _ _ stepped ih =>
        obtain ⟨later, moved⟩ := ih.1.step steady stepped
        refine ⟨later, ?_⟩
        rcases moved with same | ⟨task, operation, promised⟩
        · exact same ▸ ih.2
        · exact keeps task operation _ _ ih.1.holds ih.2 promised
  exact both.2

end Contract

/-- At some moment of the run to here this held of the shared state. -/
def Once [DecidableEq ι] (program : ι → ο → Program σ ρ)
    (allowed : Config ι σ ο ρ → Label ι ο → Prop) (start config : Config ι σ ο ρ)
    (moment : σ → Prop) : Prop :=
  ∃ earlier, Reaches program allowed start earlier ∧ Reaches program allowed earlier config ∧
    moment earlier.shared

section Once

variable [DecidableEq ι] {program : ι → ο → Program σ ρ}
  {allowed : Config ι σ ο ρ → Label ι ο → Prop} {start config next : Config ι σ ο ρ}
  {moment : σ → Prop}

theorem Once.now (reached : Reaches program allowed start config)
    (holds : moment config.shared) : Once program allowed start config moment :=
  ⟨config, reached, .refl, holds⟩

theorem Once.then (once : Once program allowed start config moment)
    (later : Reaches program allowed config next) : Once program allowed start next moment := by
  obtain ⟨earlier, before, after, holds⟩ := once
  exact ⟨earlier, before, after.trans later, holds⟩

theorem Once.mono {wider : σ → Prop} (once : Once program allowed start config moment)
    (weaken : ∀ state, moment state → wider state) : Once program allowed start config wider := by
  obtain ⟨earlier, before, after, holds⟩ := once
  exact ⟨earlier, before, after, weaken _ holds⟩

end Once

/-! ### Moments of a call -/

namespace Program

variable {α β : Type}

/-- The result is among those already seen, or the moment of the result is at an access. -/
def Marks (moment : α → σ → Prop) (seen : α → Prop) : Program σ α → Prop
  | done result => seen result
  | access update next => ∀ state, (next state).Marks moment fun result =>
      seen result ∨ moment result state ∨ moment result (update state)

variable {moment : α → σ → Prop} {seen wider : α → Prop}

theorem Marks.mono {call : Program σ α} (marks : call.Marks moment seen)
    (weaken : ∀ result, seen result → wider result) : call.Marks moment wider := by
  induction call generalizing seen wider with
  | done result => exact weaken result marks
  | access update next ih =>
      exact fun state => ih state (marks state) fun result => .imp_left (weaken result)

/-- What goes before the moment does not matter. -/
theorem Marks.after {call : Program σ β} {rest : β → Program σ α}
    (marks : ∀ result, (rest result).Marks moment seen) :
    (call >>= rest).Marks moment seen := by
  induction call with
  | done result => exact marks result
  | access update next ih => exact fun state => (ih state).mono fun _ => .inl

end Program

section Moments

variable [DecidableEq ι] {program : ι → ο → Program σ ρ}
  {allowed : Config ι σ ο ρ → Label ι ο → Prop} {moment : ι → ο → ρ → σ → Prop}
  {plain : ι → ο → ρ → Prop} {shared : σ} {final : Config ι σ ο ρ}

/-- **Every result of a run that is not plain has had its moment.** -/
theorem Reaches.marked (marks : ∀ task operation,
      (program task operation).Marks (moment task operation) (plain task operation))
    (reached : Reaches program allowed (Config.initial shared) final) :
    ∀ entry ∈ final.history, plain entry.1 entry.2.1 entry.2.2 ∨
      Once program allowed (Config.initial shared) final
        (moment entry.1 entry.2.1 entry.2.2) := by
  have both : (∀ task operation call, final.running task = some (operation, call) →
      call.Marks (moment task operation) fun result => plain task operation result ∨
        Once program allowed (Config.initial shared) final (moment task operation result)) ∧
      ∀ entry ∈ final.history, plain entry.1 entry.2.1 entry.2.2 ∨
        Once program allowed (Config.initial shared) final
          (moment entry.1 entry.2.1 entry.2.2) := by
    induction reached with
    | refl =>
        exact ⟨fun _ _ _ running => by simp [Config.initial] at running,
          fun _ member => absurd member List.not_mem_nil⟩
    | @step config next label before admitted stepped ih =>
        have one : Reaches program allowed config next := .step label .refl admitted stepped
        have kept (task operation) : ∀ result, plain task operation result ∨
            Once program allowed (Config.initial shared) config (moment task operation result) →
              plain task operation result ∨
                Once program allowed (Config.initial shared) next (moment task operation result) :=
          fun _ => .imp_right (·.then one)
        have others (task) (operation) (call)
            (running : config.running task = some (operation, call)) :=
          (ih.1 task operation call running).mono (kept task operation)
        have earlier : ∀ entry ∈ config.history, plain entry.1 entry.2.1 entry.2.2 ∨
            Once program allowed (Config.initial shared) next
              (moment entry.1 entry.2.1 entry.2.2) :=
          fun entry member => kept _ _ _ (ih.2 entry member)
        have after := before.trans one
        rcases Config.step_cases stepped with
          ⟨task, operation, rfl, idle, rfl⟩ | ⟨task, operation, update, rest, rfl, running, rfl⟩ |
            ⟨task, operation, result, rfl, running, rfl⟩
        · refine ⟨fun other operation' call found => ?_, earlier⟩
          by_cases same : other = task
          · subst same
            obtain ⟨rfl, rfl⟩ := by simpa using found
            exact (marks other operation).mono fun _ => .inl
          · exact others other operation' call (by simpa [same] using found)
        · refine ⟨fun other operation' call found => ?_, earlier⟩
          by_cases same : other = task
          · subst same
            obtain ⟨rfl, rfl⟩ := by simpa using found
            refine (ih.1 other operation _ running config.shared).mono fun result seen => ?_
            rcases seen with seen | now | now
            · exact kept other operation result seen
            · exact .inr ((Once.now before now).then one)
            · exact .inr (.now after now)
          · exact others other operation' call (by simpa [same] using found)
        · refine ⟨fun other operation' call found => ?_, fun entry member => ?_⟩
          · by_cases same : other = task
            · simp [same] at found
            · exact others other operation' call (by simpa [same] using found)
          · rcases List.mem_cons.mp member with rfl | old
            · exact others task operation _ running
            · exact earlier entry old
  exact both.2

end Moments

end HidBot.Interleaving
