import HidBot.Interleaving.Rely
import Mathlib

/-!
# Results with a tally

A shared tally counts events. Calls that give no result of a kind without an event of
their own never give more of these results than the tally has counted, whatever the order
of their accesses.
-/

namespace HidBot.Interleaving

variable {ι σ ο ρ α β : Type}

namespace Program

/-- With this much in hand, the result of the call weighs no more than what its own
accesses add to the tally. -/
def Earns (tally : σ → Nat) (weight : α → Nat) : Nat → Program σ α → Prop
  | inHand, done result => weight result ≤ inHand
  | inHand, access update next => ∀ state, ∃ gain,
      tally state + gain ≤ tally (update state) ∧ (next state).Earns tally weight (inHand + gain)

variable {tally : σ → Nat} {weight : α → Nat}

theorem Earns.bind {middle : β → Nat} {call : Program σ β} {rest : β → Program σ α} {inHand : Nat}
    (first : call.Earns tally middle inHand)
    (later : ∀ result more, middle result ≤ more → (rest result).Earns tally weight more) :
    (call >>= rest).Earns tally weight inHand := by
  induction call generalizing inHand with
  | done result => exact later result inHand first
  | access update next ih =>
      intro state
      obtain ⟨gain, grown, earns⟩ := first state
      exact ⟨gain, grown, ih state earns⟩

/-- A call whose results weigh nothing only has to leave the tally alone. -/
theorem Earns.of_each {call : Program σ α} (free : ∀ result, weight result = 0)
    (each : call.Each fun before after => tally before ≤ tally after) (inHand : Nat) :
    call.Earns tally weight inHand := by
  induction call generalizing inHand with
  | done result => exact (free result).trans_le inHand.zero_le
  | access update next ih =>
      exact fun state => ⟨0, (each state).1, ih state (each state).2 inHand⟩

/-- What goes before a call does not matter where it leaves the tally alone. -/
theorem Earns.after {call : Program σ β} {rest : β → Program σ α} {inHand : Nat}
    (each : call.Each fun before after => tally before ≤ tally after)
    (later : ∀ result, (rest result).Earns tally weight inHand) :
    (call >>= rest).Earns tally weight inHand := by
  induction call with
  | done result => exact later result
  | access update next ih => exact fun state => ⟨0, (each state).1, ih state (each state).2⟩

theorem Earns.map (wrap : β → α) {call : Program σ β} {inHand : Nat}
    (earns : call.Earns tally (weight ∘ wrap) inHand) :
    (call >>= fun result => pure (wrap result)).Earns tally weight inHand :=
  .bind earns fun _ _ enough => enough

theorem Earns.empty {call : Program σ α} {inHand less : Nat}
    (earns : call.Earns tally weight inHand) (free : ∀ result, weight result = 0) :
    call.Earns tally weight less := by
  induction call generalizing inHand less with
  | done result => exact (free result).trans_le less.zero_le
  | access update next ih =>
      intro state
      obtain ⟨gain, grown, rest⟩ := earns state
      exact ⟨gain, grown, ih state rest⟩

theorem Earns.readModifyWrite {change : σ → α × σ} {inHand : Nat}
    (earns : ∀ state, tally state + weight (change state).1 ≤ tally (change state).2) :
    (readModifyWrite change).Earns tally weight inHand :=
  fun state => ⟨weight (change state).1, earns state, Nat.le_add_left ..⟩

end Program

/-- What the results of a history weigh together. -/
def weighed (weight : ι → ο → ρ → Nat) (history : List (ι × ο × ρ)) : Nat :=
  (history.map fun entry => weight entry.1 entry.2.1 entry.2.2).sum

/-- What all calls have in hand together with the results given since `start` is on the tally
since then. -/
def Tallied (tally : σ → Nat) (weight : ι → ο → ρ → Nat) (start config : Config ι σ ο ρ) : Prop :=
  ∃ inHand : ι → Nat,
    (∀ task operation call, config.running task = some (operation, call) →
      call.Earns tally (weight task operation) (inHand task)) ∧
    ∀ tasks : Finset ι,
      ∑ task ∈ tasks, inHand task + weighed weight config.history + tally start.shared ≤
        tally config.shared + weighed weight start.history

variable [DecidableEq ι] {tally : σ → Nat} {weight : ι → ο → ρ → Nat}
  {program : ι → ο → Program σ ρ}

theorem sum_update (inHand : ι → Nat) (task : ι) (amount : Nat) (tasks : Finset ι) :
    ∑ other ∈ tasks, Function.update inHand task amount other + inHand task ≤
      ∑ other ∈ insert task tasks, inHand other + amount := by
  rw [← Finset.add_sum_erase _ _ (Finset.mem_insert_self task tasks)]
  have rest : ∑ other ∈ tasks.erase task, Function.update inHand task amount other =
      ∑ other ∈ tasks.erase task, inHand other :=
    Finset.sum_congr rfl fun other member =>
      Function.update_of_ne (Finset.ne_of_mem_erase member) ..
  have erased : (insert task tasks).erase task = tasks.erase task := by
    ext other
    simp +contextual [Finset.mem_erase]
  rw [erased, ← rest]
  by_cases member : task ∈ tasks
  · rw [← Finset.add_sum_erase _ _ member, Function.update_self]
    omega
  · rw [Finset.erase_eq_of_notMem member]
    omega

theorem Tallied.step {start config next : Config ι σ ο ρ} {label : Label ι ο}
    (tallied : Tallied tally weight start config)
    (earns : ∀ task operation, (program task operation).Earns tally (weight task operation) 0)
    (stepped : config.step program label = some next) : Tallied tally weight start next := by
  obtain ⟨inHand, running, bounded⟩ := tallied
  rcases Config.step_cases stepped with
    ⟨task, operation, rfl, idle, rfl⟩ | ⟨task, operation, update, rest, rfl, found, rfl⟩ |
      ⟨task, operation, result, rfl, found, rfl⟩
  · refine ⟨Function.update inHand task 0, fun other operation' call => ?_, fun tasks => ?_⟩
    · by_cases same : other = task
      · subst same
        simp only [Function.update_self, Option.some.injEq, Prod.mk.injEq]
        rintro ⟨rfl, rfl⟩
        exact earns _ _
      · simpa only [Function.update_of_ne same] using running other operation' call
    · have updated := sum_update inHand task 0 tasks
      have before := bounded (insert task tasks)
      dsimp only
      omega
  · obtain ⟨gain, grown, kept⟩ := running task operation _ found config.shared
    refine ⟨Function.update inHand task (inHand task + gain), fun other operation' call => ?_,
      fun tasks => ?_⟩
    · by_cases same : other = task
      · subst same
        simp only [Function.update_self, Option.some.injEq, Prod.mk.injEq]
        rintro ⟨rfl, rfl⟩
        exact kept
      · simpa only [Function.update_of_ne same] using running other operation' call
    · have updated := sum_update inHand task (inHand task + gain) tasks
      have before := bounded (insert task tasks)
      dsimp only
      omega
  · have paid : weight task operation result ≤ inHand task := running task operation _ found
    refine ⟨Function.update inHand task 0, fun other operation' call => ?_, fun tasks => ?_⟩
    · by_cases same : other = task
      · subst same
        simp
      · simpa only [Function.update_of_ne same] using running other operation' call
    · have updated := sum_update inHand task 0 tasks
      have before := bounded (insert task tasks)
      simp only [weighed, List.map_cons, List.sum_cons] at before ⊢
      omega

variable {allowed : Config ι σ ο ρ → Label ι ο → Prop} {start final : Config ι σ ο ρ}

/-- The tally grows with the results of a run that starts with nothing in hand. -/
theorem Reaches.tallied
    (earns : ∀ task operation, (program task operation).Earns tally (weight task operation) 0)
    (fresh : ∀ task operation call, start.running task = some (operation, call) →
      call.Earns tally (weight task operation) 0)
    (reached : Reaches program allowed start final) : Tallied tally weight start final :=
  reached.induct ⟨fun _ => 0, fresh, by simp [Nat.add_comm]⟩
    fun _ _ _ tallied _ => tallied.step earns

omit [DecidableEq ι] in
theorem Tallied.weighed_le (tallied : Tallied tally weight start final) :
    weighed weight final.history + tally start.shared ≤
      tally final.shared + weighed weight start.history := by
  obtain ⟨inHand, -, bounded⟩ := tallied
  simpa using bounded ∅

omit [DecidableEq ι] in
/-- A call whose results weigh nothing has never anything in hand. -/
theorem Tallied.earns_nothing (tallied : Tallied tally weight start final) {task : ι} {operation : ο}
    {call : Program σ ρ} (running : final.running task = some (operation, call))
    (free : ∀ result, weight task operation result = 0) :
    call.Earns tally (weight task operation) 0 := by
  obtain ⟨inHand, earns, -⟩ := tallied
  exact (earns task operation call running).empty free

/-- How many results of a kind a history has. -/
def results (kind : ι → ο → ρ → Bool) (history : List (ι × ο × ρ)) : Nat :=
  history.countP fun entry => kind entry.1 entry.2.1 entry.2.2

omit [DecidableEq ι] in
theorem weighed_kind (kind : ι → ο → ρ → Bool) (history : List (ι × ο × ρ)) :
    weighed (fun task operation result => (kind task operation result).toNat) history =
      results kind history := by
  induction history with
  | nil => rfl
  | cons entry history ih =>
      simp only [weighed, results, List.map_cons, List.sum_cons, List.countP_cons] at ih ⊢
      rw [ih, Nat.add_comm]
      cases kind entry.1 entry.2.1 entry.2.2 <;> rfl

variable {kind : ι → ο → ρ → Bool}

/-- A run has no more new results of a kind than new events. -/
theorem Reaches.counted_since
    (earns : ∀ task operation,
      (program task operation).Earns tally (fun result => (kind task operation result).toNat) 0)
    (fresh : ∀ task operation call, start.running task = some (operation, call) →
      call.Earns tally (fun result => (kind task operation result).toNat) 0)
    (reached : Reaches program allowed start final) :
    results kind final.history + tally start.shared ≤
      tally final.shared + results kind start.history := by
  have bounded := (reached.tallied earns fresh).weighed_le
  rwa [weighed_kind, weighed_kind] at bounded

/-- A run has no more results of a kind than the tally has counted. -/
theorem Reaches.counted {shared : σ}
    (earns : ∀ task operation,
      (program task operation).Earns tally (fun result => (kind task operation result).toNat) 0)
    (reached : Reaches program allowed (Config.initial shared) final) :
    results kind final.history ≤ tally final.shared := by
  have bounded := reached.counted_since earns fun task operation call running => by
    simp [Config.initial] at running
  exact Nat.le_trans (Nat.le_add_right ..) bounded

end HidBot.Interleaving
