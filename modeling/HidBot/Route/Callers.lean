import HidBot.Route.Writer

/-!
# Every caller keeps the contract

The operations of `hid_route::StateMachine` under the interference of any number
of other callers.
-/

namespace HidBot.Route

open Interleaving

variable {task : Task} {claim : Option (Task × Claim)} {pursued : Option Generation} {core : Core}
  {α β : Type}

/-! ### Becoming the writer -/

theorem Words.Sound.entered {words : Words} (sound : words.Sound) (free : words.writer = .none)
    (unpublished : words.record.publisher ≠ some task) :
    Words.Sound { words with
      writer := some task
      record := { words.record with
        owes := Function.update words.record.owes task false, leaving := false } } := by
  refine ⟨sound.core, by simp, ?_, ?_, sound.publishing, fun lost bounded => ?_⟩
  · intro other claim held
    have writer := sound.claim other claim held
    simp [free] at writer
  · intro other publisher
    obtain ⟨publishing, owes⟩ := sound.publisher other publisher
    have different : other ≠ task := fun same => unpublished (same ▸ publisher)
    exact ⟨publishing, by simpa [Function.update_of_ne different] using owes⟩
  · obtain ⟨-, requests, target, consumed⟩ := sound.durable lost bounded
    exact ⟨fun _ => .inr ⟨by simp, rfl⟩, requests, target, consumed⟩

theorem Words.Sound.refused {words : Words} (sound : words.Sound) {writer : Task}
    (busy : words.writer = some writer) (unpublished : words.record.publisher ≠ some task) :
    Words.Sound { words with record := { words.record with
      owes := Function.update words.record.owes task false
      lost := words.record.lost ||
        (words.record.owes task && words.record.leaving && words.durableState == .active) } } := by
  refine ⟨sound.core, sound.idle, sound.claim, ?_, sound.publishing, fun lost bounded => ?_⟩
  · intro other publisher
    obtain ⟨publishing, owes⟩ := sound.publisher other publisher
    have different : other ≠ task := fun same => unpublished (same ▸ publisher)
    exact ⟨publishing, by simpa [Function.update_of_ne different] using owes⟩
  · obtain ⟨lost, kept⟩ : words.record.lost = false ∧
        (words.record.owes task && words.record.leaving && words.durableState == .active) =
          false := Bool.or_eq_false_iff.mp lost
    obtain ⟨found, requests, target, consumed⟩ := sound.durable lost bounded
    refine ⟨fun active => ?_, requests, target, consumed⟩
    rcases found active with ⟨other, owes⟩ | staying
    · by_cases same : other = task
      · subst same
        have staying : words.record.leaving = false := by
          rw [owes, active] at kept
          simpa using kept
        exact .inr ⟨by simp [busy], staying⟩
      · exact .inl ⟨other, by simpa [Function.update_of_ne same] using owes⟩
    · exact .inr staying

/-- A caller becomes the writer of route words at rest, or its attempt is over. -/
theorem tryEnterWriter_safe {owes : Bool} {words : Words} {rest : Bool → Program Words β}
    {post : β → Words → Prop} (outside : Outside task owes words)
    (entered : ∀ later, Kept task .none .none later.core later →
      (rest true).Safe (Interference task) (Promise task) post later)
    (refused : ∀ later, Outside task false later →
      (rest false).Safe (Interference task) (Promise task) post later) :
    (tryEnterWriter task >>= rest).Safe (Interference task) (Promise task) post words := by
  refine Program.Safe.changeThen fun later interference => ?_
  have outside := outside.stable interference
  cases writer : later.writer with
  | none =>
      dsimp only
      have sound := outside.sound.entered writer outside.publisher
      have unclaimed : later.claim = .none := by
        cases held : later.claim with
        | none => rfl
        | some entry =>
            have claimed := outside.sound.claim entry.1 entry.2 held
            simp [writer] at claimed
      refine ⟨fun other different => ?_, entered _ ⟨⟨sound, by simp, rfl, unclaimed, rfl, rfl,
        by simp⟩, outside.sound.idle writer, .refl _⟩⟩
      refine ⟨fun _ => sound, .refl _, id, Function.update_of_ne different .., ?_, ?_, ?_, ?_, id⟩
      · exact fun _ => by simpa using Ne.symm different
      · exact fun held => by simp [writer] at held
      · exact fun held => by simp [writer] at held
      · exact fun publisher => ⟨publisher, rfl, rfl⟩
  | some holder =>
      dsimp only
      rw [← writer]
      have sound := outside.sound.refused writer outside.publisher
      refine ⟨fun other different => ?_, refused _ ⟨sound, by simp, outside.publisher, ?_⟩⟩
      · refine ⟨fun _ => sound, .refl _, ?_, Function.update_of_ne different .., ?_, ?_, ?_, ?_, id⟩
        · exact fun lost => by simp [lost]
        · exact id
        · exact fun held => ⟨held, rfl, rfl, rfl⟩
        · exact fun _ active => ⟨active, rfl⟩
        · exact fun publisher => ⟨publisher, rfl, rfl⟩
      · intro held
        have holds := outside.holds held
        exact ⟨holds.claim, holds.atRest, holds.leaving⟩

/-! ### Durable requests -/

/-- The caller has reserved the durable request and not activated it. -/
structure Publishes (task : Task) (stored : Words → Prop) (words : Words) : Prop where
  sound : words.Sound
  publisher : words.record.publisher = some task
  holds : words.writer = some task → Holds task words
  stored : stored words

/-- Before its generation is stored, the word holds a generation that is over. -/
def OldOver (words : Words) : Prop :=
  words.record.lost = false → words.core.epoch < 2 ^ 32 → words.core.Past words.durableGeneration

def Stored (generation : Generation) (words : Words) : Prop :=
  words.durableGeneration = generation ∧ generation.toNat ≤ words.core.epoch

theorem Publishes.stable {stored : Words → Prop} {before after : Words}
    (publishes : Publishes task stored before)
    (keeps : stored before → before.core.Advances after.core →
      (before.record.lost = true → after.record.lost = true) →
      after.durableGeneration = before.durableGeneration → stored after)
    (interference : Interference task before after) : Publishes task stored after where
  sound := interference.sound publishes.sound
  publisher := (interference.publisher publishes.publisher).1
  holds writer := by
    have held : before.writer = some task := by
      by_contra other
      exact interference.outside other writer
    exact (publishes.holds held).stable held interference
  stored := keeps publishes.stored interference.advances interference.lost
    (interference.publisher publishes.publisher).2.2

theorem Publishes.stable_old {before after : Words} (publishes : Publishes task OldOver before)
    (interference : Interference task before after) : Publishes task OldOver after := by
  refine publishes.stable (fun old advances lost same => ?_) interference
  intro clean bounded
  rw [same]
  have unlost : before.record.lost = false := by
    by_contra was
    simp [lost (by simpa using was)] at clean
  exact (old unlost (Nat.lt_of_le_of_lt advances.epoch bounded)).advances advances

theorem Publishes.stable_stored {generation : Generation} {before after : Words}
    (publishes : Publishes task (Stored generation) before)
    (interference : Interference task before after) :
    Publishes task (Stored generation) after :=
  publishes.stable (fun stored advances _ same =>
    ⟨same.trans stored.1, Nat.le_trans stored.2 advances.epoch⟩) interference

/-- A reservation takes the place of an invalidation that was consumed. -/
theorem reserve_publishes {words : Words} (outside : Outside task false words)
    (free : words.durableState = .none) :
    Promise task words { words with
      durableState := .publishing
      record := { words.record with
        owes := Function.update words.record.owes task true, publisher := some task } } ∧
    Publishes task OldOver { words with
      durableState := .publishing
      record := { words.record with
        owes := Function.update words.record.owes task true, publisher := some task } } := by
  have unpublished : words.record.publisher = .none := by
    cases publisher : words.record.publisher with
    | none => rfl
    | some other =>
        have publishing := (outside.sound.publisher other publisher).1
        simp [free] at publishing
  have sound : Words.Sound { words with
      durableState := .publishing
      record := { words.record with
        owes := Function.update words.record.owes task true, publisher := some task } } := by
    refine ⟨outside.sound.core, outside.sound.idle, outside.sound.claim, ?_, by simp,
      fun lost bounded => ?_⟩
    · intro other publisher
      obtain rfl : task = other := by simpa using publisher
      simp
    · obtain ⟨-, requests, -, -⟩ := outside.sound.durable lost bounded
      refine ⟨by simp, fun generation accepted => ?_, by simp, by simp⟩
      rcases requests generation accepted with past | ⟨busy, -⟩
      · exact .inl past
      · exact absurd free busy
  refine ⟨fun other different => ?_, ⟨sound, rfl, fun held => ?_, fun lost bounded => ?_⟩⟩
  · refine ⟨fun _ => sound, .refl _, id, Function.update_of_ne different .., id, ?_, ?_, ?_, ?_⟩
    · exact fun held => ⟨held, rfl, rfl, rfl⟩
    · exact fun _ active => by simp [free] at active
    · exact fun publisher => by simp [unpublished] at publisher
    · exact fun _ => by simpa using Ne.symm different
  · have holds := outside.holds held
    exact ⟨holds.claim, holds.atRest, holds.leaving⟩
  · exact (outside.sound.durable lost bounded).consumed free

theorem store_publishes {generation : Generation} {words : Words}
    (publishes : Publishes task OldOver words)
    (reached : generation.toNat ≤ words.core.epoch) :
    Promise task words { words with durableGeneration := generation } ∧
      Publishes task (Stored generation) { words with durableGeneration := generation } := by
  have publishing := (publishes.sound.publisher task publishes.publisher).1
  have sound : Words.Sound { words with durableGeneration := generation } := by
    refine ⟨publishes.sound.core, publishes.sound.idle, publishes.sound.claim,
      publishes.sound.publisher, publishes.sound.publishing, fun lost bounded => ?_⟩
    obtain ⟨-, requests, -, -⟩ := publishes.sound.durable lost bounded
    refine ⟨by simp [publishing], fun accepted member => .inl ?_, by simp [publishing],
      by simp [publishing]⟩
    rcases requests accepted member with past | ⟨-, same⟩
    · exact past
    · exact same ▸ publishes.stored lost bounded
  refine ⟨fun other different => ?_, ⟨sound, publishes.publisher, fun held => ?_, rfl, reached⟩⟩
  · refine ⟨fun _ => sound, .refl _, id, rfl, id, ?_, ?_, ?_, id⟩
    · exact fun held => ⟨held, rfl, rfl, rfl⟩
    · exact fun _ active => by simp [publishing] at active
    · intro publisher
      rw [publishes.publisher] at publisher
      exact absurd (by simpa using publisher.symm) different
  · have holds := publishes.holds held
    exact ⟨holds.claim, holds.atRest, holds.leaving⟩

theorem activate_outside {generation : Generation} {words : Words}
    (publishes : Publishes task (Stored generation) words) :
    Promise task words { words with
      durableState := .active
      record := { words.record with
        publisher := .none, requests := generation :: words.record.requests } } ∧
    Outside task true { words with
      durableState := .active
      record := { words.record with
        publisher := .none, requests := generation :: words.record.requests } } := by
  obtain ⟨publishing, owes⟩ := publishes.sound.publisher task publishes.publisher
  obtain ⟨stored, reached⟩ := publishes.stored
  have sound : Words.Sound { words with
      durableState := .active
      record := { words.record with
        publisher := .none, requests := generation :: words.record.requests } } := by
    refine ⟨publishes.sound.core, publishes.sound.idle, publishes.sound.claim, by simp, by simp,
      fun lost bounded => ?_⟩
    obtain ⟨-, requests, -, -⟩ := publishes.sound.durable lost bounded
    refine ⟨fun _ => .inl ⟨task, owes⟩, fun accepted member => ?_, fun _ => stored ▸ reached,
      by simp⟩
    rcases List.mem_cons.mp member with rfl | earlier
    · exact .inr ⟨by simp, stored⟩
    · exact (requests accepted earlier).imp_right fun ⟨_, same⟩ => ⟨by simp, same⟩
  refine ⟨fun other different => ?_, ⟨sound, owes, by simp, fun held => ?_⟩⟩
  · refine ⟨fun _ => sound, .refl _, id, rfl, id, ?_, ?_, ?_, by simp⟩
    · exact fun held => ⟨held, rfl, rfl, rfl⟩
    · exact fun _ active => by simp [publishing] at active
    · intro publisher
      rw [publishes.publisher] at publisher
      exact absurd (by simpa using publisher.symm) different
  · have holds := publishes.holds held
    exact ⟨holds.claim, holds.atRest, holds.leaving⟩

/-- A request that finds its generation in the word is owed by its publisher or over. -/
theorem accept_outside {generation : Generation} {words : Words}
    (outside : Outside task false words) (same : words.durableGeneration = generation) :
    Promise task words { words with record := { words.record with
      requests := generation :: words.record.requests } } ∧
    Outside task false { words with record := { words.record with
      requests := generation :: words.record.requests } } := by
  have sound : Words.Sound { words with record := { words.record with
      requests := generation :: words.record.requests } } := by
    refine ⟨outside.sound.core, outside.sound.idle, outside.sound.claim,
      outside.sound.publisher, outside.sound.publishing, fun lost bounded => ?_⟩
    obtain ⟨found, requests, target, consumed⟩ := outside.sound.durable lost bounded
    refine ⟨found, fun accepted member => ?_, target, consumed⟩
    rcases List.mem_cons.mp member with rfl | earlier
    · by_cases free : words.durableState = .none
      · exact .inl (same ▸ consumed free)
      · exact .inr ⟨free, same⟩
    · exact requests accepted earlier
  refine ⟨fun other different => ?_, ⟨sound, outside.owes, outside.publisher, fun held => ?_⟩⟩
  · exact ⟨fun _ => sound, .refl _, id, rfl, id, fun held => ⟨held, rfl, rfl, rfl⟩,
      fun _ active => ⟨active, rfl⟩, fun publisher => ⟨publisher, rfl, rfl⟩, id⟩
  · have holds := outside.holds held
    exact ⟨holds.claim, holds.atRest, holds.leaving⟩

theorem publishDurable_safe {generation : Generation} {words : Words}
    (outside : Outside task false words) (reached : generation.toNat ≤ words.core.epoch) :
    (publishDurableInvalidation task generation).Safe (Interference task) (Promise task)
      (fun accepted later => ∃ owes, Outside task owes later ∧ (accepted = false → owes = false))
      words := by
  refine Program.Safe.changeThen fun later interference => ?_
  have outside := outside.stable interference
  have reached := Nat.le_trans reached interference.advances.epoch
  by_cases free : later.durableState = .none
  · dsimp only
    rw [if_pos free]
    obtain ⟨promise, publishes⟩ := reserve_publishes outside free
    refine ⟨promise, Program.Safe.writeThen fun second interference => ?_⟩
    have publishes := publishes.stable_old interference
    have reached := Nat.le_trans reached interference.advances.epoch
    obtain ⟨promise, publishes⟩ := store_publishes publishes reached
    refine ⟨promise, Program.Safe.writeThen fun third interference => ?_⟩
    have publishes := publishes.stable_stored interference
    obtain ⟨promise, outside⟩ := activate_outside publishes
    exact ⟨promise, fun last interference => ⟨true, outside.stable interference, by simp⟩⟩
  · dsimp only
    rw [if_neg free]
    refine ⟨.refl task later, ?_⟩
    cases state : later.durableState with
    | none => exact absurd state free
    | publishing =>
        exact fun last interference => ⟨false, outside.stable interference, fun _ => rfl⟩
    | active =>
        intro second interference
        have outside := outside.stable interference
        by_cases same : second.durableGeneration = generation
        · dsimp only
          rw [if_pos same]
          obtain ⟨promise, outside⟩ := accept_outside outside same
          exact ⟨promise,
            fun last interference => ⟨false, outside.stable interference, fun _ => rfl⟩⟩
        · dsimp only
          rw [if_neg same]
          exact ⟨.refl task second,
            fun last interference => ⟨false, outside.stable interference, fun _ => rfl⟩⟩

end HidBot.Route
