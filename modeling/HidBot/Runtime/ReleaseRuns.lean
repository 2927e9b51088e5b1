import HidBot.Runtime.TicketRuns

/-!
# Runs of the release transaction

A success that `finalize_release_all` reports is real for each interface, and a transaction
that has ended keeps its fate, whatever the calls after it do.
-/

namespace HidBot.Runtime

open Interleaving

/-! ### Interfaces that were already up -/

/-- At some moment under this transaction the interface was known to be all up. -/
def UpUnder (start : Words) (config : RuntimeConfig) (ticket : ReleaseAllTicket)
    (interface : Interface) : Prop :=
  Once runtimeProgram AnyOrder (Config.initial start) config fun words =>
    words.releaseTicket.identity = ticket.identity ∧ (knownAllUp interface).value words = true

/-- The transaction has not failed. -/
def ReleaseAllTicket.hopeful (ticket : ReleaseAllTicket) : Prop :=
  ticket.pending = true ∨ ticket.state.fate = some .success

theorem not_pending_of_fate {ticket : ReleaseAllTicket} (ended : ticket.state.fate ≠ none) :
    ticket.pending ≠ true := fun pending => ended (pending_fate pending)

/-- An interface becomes already up only when it is found so. -/
theorem ReleaseStep.alreadyUp {before after : Words} {interface : Interface}
    (step : ReleaseStep before after) (hopeful : after.releaseTicket.hopeful)
    (up : after.releaseTicket.outcome interface = .alreadyUp) :
    before.releaseTicket.identity = after.releaseTicket.identity ∧
      (before.releaseTicket.hopeful ∧ before.releaseTicket.outcome interface = .alreadyUp ∨
        (knownAllUp interface).value before = true) := by
  cases step with
  | aside next finalized =>
      refine ⟨finalized.identity.symm, .inl ⟨?_, finalized.outcome interface ▸ up⟩⟩
      rcases hopeful with pending | won
      · rcases finalized with same | ⟨-, same⟩ | ⟨-, same⟩
        · exact .inl (same ▸ pending)
        · simp [same, ReleaseAllTicket.pending] at pending
        · simp [same, ReleaseAllTicket.pending] at pending
      · exact .inr (finalized.fate ▸ won)
  | admitted inactive left next id state unresolved => simp [unresolved] at up
  | opened next admitting ticket =>
      rw [ticket] at up ⊢
      refine ⟨rfl, .inl ⟨.inl (Move.pending_of_admitting admitting), ?_⟩⟩
      cases interface <;> exact up
  | resolved place outcome next pending resolution ticket =>
      rw [ticket] at up ⊢
      refine ⟨(setOutcome_identity ..).symm, ?_⟩
      rw [setOutcome_outcome] at up
      split at up
      · rename_i same
        subst same up
        cases resolution with
        | alreadyUp up fresh => exact .inr up
      · exact .inl ⟨.inl pending, up⟩
  | ended next pending identity ending =>
      refine ⟨identity.symm, .inl ⟨.inl pending, ?_⟩⟩
      rcases hopeful with still | won
      · exact absurd still (not_pending_of_fate ending.ended)
      · exact ((ending.success won).2 interface).2 ▸ up

section Runs

variable {start : Words} {middle config : RuntimeConfig}

theorem up_under (fresh : start.Fresh) (reached : RuntimeReaches (Config.initial start) config)
    (hopeful : config.shared.releaseTicket.hopeful) {interface : Interface}
    (up : config.shared.releaseTicket.outcome interface = .alreadyUp) :
    UpUnder start config config.shared.releaseTicket interface := by
  induction reached with
  | refl =>
      change start.releaseTicket.outcome interface = .alreadyUp at up
      rw [fresh.release] at up
      cases interface <;> cases up
  | @step config next label before admitted stepped ih =>
      have one : RuntimeReaches config next := .step label .refl admitted stepped
      rcases ((runtime_recorded fresh before).step runtime_steady stepped).2 with
        same | ⟨task, operation, access⟩
      · rw [same] at hopeful up ⊢
        exact (ih hopeful up).then one
      · obtain ⟨identity, earlier | known⟩ := access.release.alreadyUp hopeful up
        · refine ((ih earlier.1 earlier.2).then one).mono fun words now => ?_
          exact ⟨now.1.trans identity, now.2⟩
        · exact (Once.now before ⟨identity, known⟩).then one

/-! ### Successes -/

def RuntimeAnswer.reportsSuccess (answer : RuntimeAnswer) : Prop :=
  ∃ snapshot, answer = .release snapshot ∧ snapshot.state.fate = some .success

/-- The transaction was in the state that the answer reports. -/
def RuntimeAnswer.Reported (answer : RuntimeAnswer) (words : Words) : Prop :=
  ∀ snapshot, answer = .release snapshot → words.releaseTicket = snapshot

/-- A success that is reported has been the state of the transaction. -/
theorem runtimeProgram_marks (task : Route.Task) (operation : RuntimeOperation) :
    (runtimeProgram task operation).Marks RuntimeAnswer.Reported
      fun answer => ¬answer.reportsSuccess := by
  have plain {answer : RuntimeAnswer} (other : ∀ snapshot, answer ≠ .release snapshot) :
      (pure answer : Program Words RuntimeAnswer).Marks RuntimeAnswer.Reported
        fun answer => ¬answer.reportsSuccess := by
    rintro ⟨snapshot, found, -⟩
    exact other snapshot found
  cases operation with
  | releaseAllSnapshot =>
      refine fun state => .inr (.inl fun snapshot found => ?_)
      exact RuntimeAnswer.release.inj found
  | finalizeReleaseAll id =>
      intro state
      change (¬RuntimeAnswer.reportsSuccess _) ∨ RuntimeAnswer.Reported _ state ∨
        RuntimeAnswer.Reported _ _
      dsimp only
      split
      · refine .inl ?_
        rintro ⟨snapshot, found, won⟩
        obtain rfl := RuntimeAnswer.release.inj found
        cases won
      · exact .inr (.inr fun snapshot found => RuntimeAnswer.release.inj found)
  | _ => exact .after fun _ => plain (by simp)

/-- The interface of a successful release has let go of everything: it was up at some moment
under the transaction, or its neutral report was accepted for the transaction. -/
inductive LetGo (start : Words) (config : RuntimeConfig) (snapshot : ReleaseAllSnapshot)
    (interface : Interface) : Prop where
  | alreadyUp (outcome : snapshot.outcome interface = .alreadyUp)
      (up : UpUnder start config snapshot interface)
  | submitted (outcome : snapshot.outcome interface = .submitted)
      (released : snapshot.transport = .usb →
        snapshot.Released interface config.shared.record.events)

/-- **A finalized success is real.** -/
theorem finalized_success_real (fresh : start.Fresh)
    (reached : RuntimeReaches (Config.initial start) config) {task : Route.Task}
    {id : ReleaseAllId} {snapshot : ReleaseAllSnapshot}
    (answered : (task, .finalizeReleaseAll id, .release snapshot) ∈ config.history)
    (won : snapshot.state.fate = some .success) :
    id ≠ 0 ∧ snapshot.id = id ∧ ∀ interface, LetGo start config snapshot interface := by
  have recorded := runtime_recorded fresh reached
  obtain ⟨named, real⟩ := recorded.answers _ answered snapshot rfl
  obtain ⟨earlier, before, after, reported⟩ :=
    (reached.marked runtimeProgram_marks _ answered).resolve_left fun plain =>
      plain ⟨snapshot, rfl, won⟩
  have same : earlier.shared.releaseTicket = snapshot := reported snapshot rfl
  refine ⟨?_, named, fun interface => ?_⟩
  · rintro rfl
    have idle := (runtime_recorded fresh before).holds.release.named (same.symm ▸ named)
    rw [same] at idle
    rw [idle] at won
    cases won
  · obtain ⟨complete, released⟩ := real won interface
    cases outcome : snapshot.outcome interface with
    | alreadyUp =>
        refine .alreadyUp outcome ?_
        have up := up_under fresh before (.inr (same.symm ▸ won)) (same.symm ▸ outcome)
        exact (same ▸ up).then after
    | submitted => exact .submitted outcome fun usb => released usb outcome
    | unresolved | pending | canceled =>
        rw [outcome] at complete
        cases complete

/-- A report is begun and completed, and then everything is released. -/
def releaseHeld : List (Label Route.Task RuntimeOperation) :=
  .call 0 (.beginReport shiftDown {} 0) :: .replicate 69 (.advance 0) ++
  .call 0 .execute :: .replicate 64 (.advance 0) ++
  .call 0 (.reportComplete .keyboard Option.none) :: .replicate 14 (.advance 0) ++
  .call 0 .beginReleaseAll :: .replicate 51 (.advance 0) ++
  .call 0 .execute :: .replicate 82 (.advance 0) ++
  .call 0 (.reportComplete .keyboard Option.none) :: .replicate 13 (.advance 0) ++
  .call 0 (.finalizeReleaseAll 1) :: .replicate 2 (.advance 0)

def RuntimeOperation.finalizes : RuntimeOperation → ReleaseAllId
  | .finalizeReleaseAll id => id
  | _ => 0

theorem finalizes_eq {operation : RuntimeOperation} {id : ReleaseAllId}
    (finalizes : operation.finalizes = id) (named : id ≠ 0) :
    operation = .finalizeReleaseAll id := by
  cases operation with
  | finalizeReleaseAll other => exact congrArg _ finalizes
  | _ => exact absurd finalizes.symm named

/-- What the last call of the run answers. -/
def keyboardReleased : ReleaseAllSnapshot where
  id := 1
  routeGeneration := 2
  releaseEpoch := 1
  transport := .usb
  keyboard := .submitted
  mouse := .alreadyUp
  state := .finalizedSuccess

theorem replay_releaseHeld :
    (replay runtimeProgram releaseHeld (Config.initial mountedReady)).map (fun config =>
      config.history.head?.map fun entry => (entry.1, entry.2.1.finalizes, entry.2.2)) =
        some (some (0, 1, .release keyboardReleased)) := by
  decide +kernel

theorem finalized_success_real_keyboard : ∃ config : RuntimeConfig,
    keyboardReleased.Released .keyboard config.shared.record.events ∧
      UpUnder mountedReady config keyboardReleased .mouse := by
  obtain ⟨config, replayed, found⟩ := Option.map_eq_some_iff.mp replay_releaseHeld
  obtain ⟨⟨task, operation, answer⟩, last, found⟩ := Option.map_eq_some_iff.mp found
  simp only [Prod.mk.injEq] at found
  obtain ⟨rfl, finalizes, rfl⟩ := found
  obtain rfl := finalizes_eq finalizes (by decide)
  obtain ⟨-, -, letGo⟩ := finalized_success_real mountedReady_fresh
    (.of_replay (fun _ _ _ => trivial) replayed) (List.mem_of_mem_head? last) rfl
  refine ⟨config, ?_, ?_⟩
  · cases letGo .keyboard with
    | alreadyUp outcome up => cases outcome
    | submitted outcome released => exact released rfl
  · cases letGo .mouse with
    | alreadyUp outcome up => exact up
    | submitted outcome released => cases outcome

/-! ### Fates -/

theorem release_later (fresh : start.Fresh)
    (first : RuntimeReaches (Config.initial start) middle)
    (second : RuntimeReaches middle config) :
    ReleaseLater middle.shared config.shared :=
  (runtime_recorded fresh first).induct runtime_steady (ReleaseLater.refl _)
    (fun _ _ _ _ _ later access => later.trans access.release.later) second

/-- **A transaction keeps its identity and its fate, and no id comes back.** -/
theorem release_fate_final (fresh : start.Fresh)
    (first : RuntimeReaches (Config.initial start) middle)
    (second : RuntimeReaches middle config) (named : middle.shared.releaseTicket.id ≠ 0) :
    (config.shared.releaseTicket.id = middle.shared.releaseTicket.id →
      config.shared.releaseTicket.identity = middle.shared.releaseTicket.identity ∧
        (middle.shared.releaseTicket.state.fate ≠ none →
          config.shared.releaseTicket.state.fate = middle.shared.releaseTicket.state.fate ∧
            ∀ interface, config.shared.releaseTicket.outcome interface =
              middle.shared.releaseTicket.outcome interface)) ∧
      (config.shared.releaseTicket.id ≠ middle.shared.releaseTicket.id →
        ∀ later, RuntimeReaches config later →
          later.shared.releaseTicket.id ≠ middle.shared.releaseTicket.id) := by
  have drawn := (runtime_recorded fresh first).holds.release.drawn named
  have step := release_later fresh first second
  refine ⟨fun same => ?_, fun other later third same => ?_⟩
  · have kept := step.ticket.resolve_right fun new => new (same.symm ▸ drawn)
    exact ⟨kept.identity, kept.fate⟩
  · have next := release_later fresh (first.trans second) third
    have kept := next.ticket.resolve_right fun new => new (same.symm ▸ step.drawn _ drawn)
    exact other ((identity_field kept.identity (·.id) fun _ => rfl).symm.trans same)

def releaseOnce : List (Label Route.Task RuntimeOperation) :=
  .call 0 .beginReleaseAll :: .replicate 51 (.advance 0)

def finalizedOnce : List (Label Route.Task RuntimeOperation) :=
  releaseOnce ++ .call 0 (.finalizeReleaseAll 1) :: .replicate 2 (.advance 0)

theorem release_fate_final_twice : ∃ middle config : RuntimeConfig,
    middle.shared.releaseTicket.state.fate = some .success ∧
      config.shared.releaseTicket.id = 2 ∧ ∀ later, RuntimeReaches config later →
        later.shared.releaseTicket.id ≠ 1 := by
  have replayed : ((replay runtimeProgram finalizedOnce (Config.initial mountedReady)).bind
      fun middle => (replay runtimeProgram releaseOnce middle).map fun config =>
        (middle.shared.releaseTicket.state.fate, middle.shared.releaseTicket.id,
          config.shared.releaseTicket.id)) = some (some .success, 1, 2) := by
    decide +kernel
  obtain ⟨middle, first, rest⟩ := Option.bind_eq_some_iff.mp replayed
  obtain ⟨config, second, found⟩ := Option.map_eq_some_iff.mp rest
  simp only [Prod.mk.injEq] at found
  obtain ⟨won, one, two⟩ := found
  have final := release_fate_final mountedReady_fresh (.of_replay (fun _ _ _ => trivial) first)
    (.of_replay (fun _ _ _ => trivial) second) (by simp [one])
  refine ⟨middle, config, won, two, fun later reached => ?_⟩
  exact one ▸ final.2 (by simp [one, two]) later reached

end Runs

end HidBot.Runtime
