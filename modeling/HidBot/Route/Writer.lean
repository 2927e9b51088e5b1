import HidBot.Route.Contract
import Mathlib.Tactic.SplitIfs

/-!
# The writer keeps the contract

One lemma for each kind of access, and from them one for each fragment that the
route operations are made of.
-/

namespace HidBot.Route

open Interleaving

variable {task : Task} {claim : Option (Task × Claim)} {pursued : Option Generation} {core : Core}
  {α β : Type}

/-! ### Accesses besides the route -/

/-- An access to the conditional token or the USB publication only. -/
structure Aside (before after : Words) : Prop where
  rest : after = { before with
    conditionalToken := after.conditionalToken
    conditionalGeneration := after.conditionalGeneration
    nextConditionalToken := after.nextConditionalToken
    usbPublication := after.usbPublication }

theorem Aside.refl (words : Words) : Aside words words := ⟨rfl⟩

theorem Words.Sound.aside {before after : Words} (sound : before.Sound)
    (aside : Aside before after) : after.Sound := by
  rw [aside.rest]
  refine ⟨sound.core, sound.idle, sound.claim, sound.publisher, sound.publishing, ?_⟩
  intro lost bounded
  obtain ⟨found, requests, target, consumed⟩ := sound.durable lost bounded
  exact ⟨found, requests, target, consumed⟩

theorem Aside.interference {before after : Words} (aside : Aside before after) :
    Interference task before after := by
  have sound (before_sound : before.Sound) : after.Sound := before_sound.aside aside
  rw [aside.rest] at sound ⊢
  exact ⟨sound, .refl _, id, rfl, id, fun writer => ⟨writer, rfl, rfl, rfl⟩,
    fun _ active => ⟨active, rfl⟩, fun publisher => ⟨publisher, rfl, rfl⟩, id⟩

theorem Aside.promise {before after : Words} (aside : Aside before after) :
    Promise task before after := fun _ _ => aside.interference

/-- A fragment that stays aside keeps what interference keeps. -/
theorem aside_safe {assertion : Words → Prop} {call : Program Words α} {words : Words}
    (stable : ∀ before after, assertion before → Interference task before after →
      assertion after)
    (aside : call.Each Aside) (holds : assertion words) :
    call.Safe (Interference task) (Promise task) (fun _ later => assertion later) words :=
  aside.safe stable (fun before after holds step =>
    ⟨step.promise, stable before after holds step.interference⟩) holds

section Fragments

theorem read_aside (view : Words → α) : (Program.read view).Each Aside := .read .refl view

theorem pendingWithout_aside : invalidationPendingWithoutUsbPublication.Each Aside := by
  refine .bind (read_aside _) fun token => ?_
  split
  · trivial
  · exact .bind (read_aside _) fun _ => trivial

theorem pending_aside : invalidationPending.Each Aside := by
  refine .bind (read_aside _) fun publication => ?_
  split
  · trivial
  · exact pendingWithout_aside

theorem snapshotWithin_aside (attempts : Nat) : (snapshotWithin attempts).Each Aside := by
  induction attempts with
  | zero => exact .bind (read_aside _) fun _ => trivial
  | succ attempts ih =>
      refine .bind (read_aside _) fun before => ?_
      split
      · exact ih
      refine .bind (read_aside _) fun desired => .bind (read_aside _) fun active => ?_
      refine .bind (read_aside _) fun generation => .bind (read_aside _) fun transition => ?_
      refine .bind pending_aside fun pending => .bind (read_aside _) fun after => ?_
      split
      · trivial
      · exact ih

theorem snapshot_aside : snapshot.Each Aside := snapshotWithin_aside 3

theorem exchange_aside (spurious : Bool) (observed replacement : UsbPublicationCut) :
    (exchangePublication spurious observed replacement).Each Aside := by
  refine .readModifyWrite fun words => ?_
  split <;> exact ⟨rfl⟩

theorem veto_aside (turns : List Bool) : (publishUsbLifecycleVeto turns).Each Aside := by
  refine .bind (read_aside _) fun observed => ?_
  induction turns generalizing observed with
  | nil => trivial
  | cons spurious turns ih =>
      refine .bind (exchange_aside _ _ _) fun exchange => ?_
      split
      · trivial
      · exact ih _

theorem clearTurns_aside (turns : List Bool) (observed : UsbPublicationCut) :
    (clearTurns turns observed).Each Aside := by
  induction turns generalizing observed with
  | nil => trivial
  | cons spurious turns ih =>
      unfold clearTurns
      split
      · refine .bind (exchange_aside _ _ _) fun exchange => ?_
        split
        · trivial
        · exact ih _
      · trivial

theorem clearIdentity_aside (identity : Option UsbPublicationCut) (turns : List Bool) :
    (clearIdentity identity turns).Each Aside := by
  cases identity with
  | none => trivial
  | some identity => exact .bind (read_aside _) fun observed => clearTurns_aside _ _

theorem beginIdentity_aside (transport : Transport) (cut : UsbPublicationCut) :
    (beginIdentity transport cut).Each Aside := by
  cases transport with
  | ble => trivial
  | usb =>
      refine .bind ?_ fun _ => trivial
      unfold beginUsbPublication
      split
      · trivial
      · refine .bind (exchange_aside _ _ _) fun exchange => ?_
        split <;> trivial

theorem finishIdentity_aside (identity : Option UsbPublicationCut) :
    (finishIdentity identity).Each Aside := by
  cases identity with
  | none => trivial
  | some identity => exact .bind (exchange_aside _ _ _) fun _ => trivial

theorem preempted_aside (identity : Option UsbPublicationCut) :
    (publicationPreempted identity).Each Aside := by
  refine .bind pendingWithout_aside fun pending => ?_
  split
  · trivial
  · cases identity with
    | none => trivial
    | some identity => exact .bind (read_aside _) fun _ => trivial

theorem dropConditional_aside (token : ConditionalInvalidationToken) :
    (dropConditional token).Each Aside := by
  refine .readModifyWrite fun words => ?_
  split <;> exact ⟨rfl⟩

theorem clearSuperseded_aside : clearSupersededConditionalInvalidationLocked.Each Aside := by
  refine .bind (read_aside _) fun token => ?_
  split
  · refine .bind (read_aside _) fun target => ?_
    refine .bind ?_ fun exact => ?_
    · refine .bind (read_aside _) fun generation => ?_
      split
      · trivial
      refine .bind (read_aside _) fun desired => ?_
      split
      · trivial
      refine .bind (read_aside _) fun active => ?_
      split
      · trivial
      · exact .bind (read_aside _) fun _ => trivial
    · split
      · exact .bind (dropConditional_aside _) fun _ => trivial
      · trivial
  · trivial

theorem conditionalMatches_aside (generation : Generation)
    (token : ConditionalInvalidationToken) :
    (conditionalInvalidationMatches generation token).Each Aside := by
  unfold conditionalInvalidationMatches
  split
  · trivial
  refine .bind (read_aside _) fun target => ?_
  split
  · trivial
  · exact .bind (read_aside _) fun _ => trivial

theorem cancelConditional_aside (generation : Generation)
    (token : ConditionalInvalidationToken) :
    (cancelConditionalInvalidation generation token).Each Aside := by
  refine .bind (conditionalMatches_aside _ _) fun found => ?_
  split
  · exact dropConditional_aside _
  · trivial

theorem allocate_aside (attempts : Nat) : (allocateConditionalToken attempts).Each Aside := by
  induction attempts with
  | zero => trivial
  | succ attempts ih =>
      refine .bind (.readModifyWrite fun words => ⟨rfl⟩) fun token => ?_
      split
      · exact ih
      · trivial

theorem publishConditional_aside (generation : Generation)
    (token : ConditionalInvalidationToken) (attempts : Nat) :
    (publishConditionalInvalidation generation token attempts).Each Aside := by
  unfold publishConditionalInvalidation
  split
  · refine .bind (conditionalMatches_aside _ _) fun found => ?_
    split <;> trivial
  · refine .bind (.readModifyWrite fun words => ?_) fun reserved => ?_
    · split <;> exact ⟨rfl⟩
    · split
      · refine .bind (allocate_aside _) fun token => ?_
        refine .bind (.write fun words => ⟨rfl⟩) fun _ => ?_
        exact .bind (.write fun words => ⟨rfl⟩) fun _ => trivial
      · trivial

theorem withdraw_aside (expected : Snapshot) (token : ConditionalInvalidationToken) :
    (withdraw expected token).Each Aside :=
  .onlyIf _ (.bind (cancelConditional_aside _ _) fun _ => trivial)

end Fragments

/-! ### Accesses of the writer -/

/-- What the writer does is no interference with the route words of another writer. -/
theorem promise_of_writer {before after : Words} (writer : before.writer = some task)
    (sound : before.Sound → after.Sound) (advances : before.core.Advances after.core)
    (record : after.record.owes = before.record.owes ∧
      after.record.publisher = before.record.publisher ∧ after.record.lost = before.record.lost)
    (outside : ∀ other, other ≠ task → after.writer ≠ some other)
    (durable : before.record.publisher ≠ .none →
      after.durableState = before.durableState ∧
        after.durableGeneration = before.durableGeneration) : Promise task before after := by
  intro other different
  have excluded : before.writer ≠ some other := by
    rw [writer]
    simpa using Ne.symm different
  refine ⟨sound, advances, fun lost => record.2.2.trans lost, congrFun record.1 other,
    fun _ => outside other different, fun held => absurd held excluded,
    fun held => absurd held excluded, fun publisher => ?_, ?_⟩
  · exact ⟨record.2.1.trans publisher, durable (by simp [publisher])⟩
  · rw [record.2.1]
    exact id

theorem Words.Sound.withCore {words : Words} (sound : words.Sound)
    (writer : words.writer ≠ .none) {core : Core} (shaped : core.Sound)
    (advances : words.core.Advances core) : ({ words with core } : Words).Sound where
  core := shaped
  idle idle := absurd idle writer
  claim := sound.claim
  publisher := sound.publisher
  publishing := sound.publishing
  durable lost bounded := by
    obtain ⟨found, requests, target, consumed⟩ :=
      sound.durable lost (Nat.lt_of_le_of_lt advances.epoch bounded)
    exact ⟨found, fun generation accepted => (requests generation accepted).imp_left fun past =>
      past.advances advances, fun active => Nat.le_trans (target active) advances.epoch,
      fun idle => (consumed idle).advances advances⟩

/-- A store of the writer to the route words. -/
theorem Inside.withCore {words : Words} {after : Core}
    (inside : Inside task claim pursued core words) (shaped : after.Sound)
    (advances : core.Advances after) :
    Promise task words { words with core := after } ∧
      Inside task claim pursued after { words with core := after } := by
  rw [← inside.core] at advances
  have busy : words.writer ≠ .none := by simp [inside.writer]
  have sound := inside.sound.withCore busy shaped advances
  refine ⟨promise_of_writer inside.writer (fun _ => sound) advances ⟨rfl, rfl, rfl⟩ ?_
    fun _ => ⟨rfl, rfl⟩, ⟨sound, inside.owes, inside.writer, inside.claim, inside.leaving, rfl,
      inside.pursued⟩⟩
  intro other different
  simpa [inside.writer] using Ne.symm different

theorem onCore_safe {change : Core → Core} {rest : Unit → Program Words β}
    {post : β → Words → Prop} {words : Words} (inside : Inside task claim pursued core words)
    (shaped : (change core).Sound) (advances : core.Advances (change core))
    (next : ∀ later, Inside task claim pursued (change core) later →
      (rest ()).Safe (Interference task) (Promise task) post later) :
    (onCore change >>= rest).Safe (Interference task) (Promise task) post words := by
  refine Program.Safe.writeThen fun later interference => ?_
  have inside := inside.stable interference
  obtain ⟨promise, changed⟩ := inside.withCore shaped advances
  rw [inside.core]
  exact ⟨promise, next _ changed⟩

theorem advanceForCommit_safe {rest : Generation → Program Words β} {post : β → Words → Prop}
    {words : Words} (inside : Inside task claim pursued core words)
    (shaped : (core.advance true).Sound)
    (next : ∀ later, Inside task claim pursued (core.advance true) later →
      (rest (core.generation + 1)).Safe (Interference task) (Promise task) post later) :
    (advanceForCommit >>= rest).Safe (Interference task) (Promise task) post words := by
  refine Program.Safe.changeThen fun later interference => ?_
  have inside := inside.stable interference
  have advances : core.Advances (core.advance true) :=
    ⟨Nat.le_succ _, fun same => absurd same (Nat.succ_ne_self _)⟩
  obtain ⟨promise, changed⟩ := inside.withCore shaped advances
  dsimp only
  rw [inside.core]
  exact ⟨promise, next _ changed⟩

/-- The last access of a fragment. -/
theorem onCore_last {change : Core → Core} {target : Core} {words : Words}
    (inside : Inside task claim pursued core words) (reaches : change core = target)
    (shaped : target.Sound) (advances : core.Advances target) :
    (onCore change).Safe (Interference task) (Promise task)
      (fun _ later => Inside task claim pursued target later) words := by
  subst reaches
  exact @onCore_safe _ _ _ _ _ _ Program.done _ _ inside shaped advances
    fun _ inside _ interference => inside.stable interference

theorem readCore_safe {view : Core → α} {rest : α → Program Words β} {post : β → Words → Prop}
    {words : Words} (inside : Inside task claim pursued core words)
    (next : ∀ later, Inside task claim pursued core later →
      (rest (view core)).Safe (Interference task) (Promise task) post later) :
    (Program.read (fun words => view words.core) >>= rest).Safe (Interference task)
      (Promise task) post words := by
  refine Program.Safe.readThen fun later interference => ⟨.refl task later, ?_⟩
  have inside := inside.stable interference
  rw [inside.core]
  exact next later inside

theorem done_safe {assertion : Words → Prop} {result : α} {words : Words}
    (stable : ∀ before after, assertion before → Interference task before after →
      assertion after)
    (holds : assertion words) :
    (Program.done result).Safe (Interference task) (Promise task)
      (fun _ later => assertion later) words :=
  fun later interference => stable words later holds interference

/-! ### Route words of a publication -/

section Shapes

variable {core : Core}

theorem publicationBusy_succ (sequence : UInt32) :
    publicationBusy (sequence + 1) = !publicationBusy sequence := by
  have below := sequence.toNat_lt
  have sum : (sequence + 1).toNat = (sequence.toNat + 1) % 2 ^ 32 := UInt32.toNat_add ..
  have parity : (sequence.toNat + 1) % 2 ^ 32 % 2 = 1 - sequence.toNat % 2 := by omega
  unfold publicationBusy
  rw [sum, parity]
  rcases Nat.mod_two_eq_zero_or_one sequence.toNat with even | odd
  · simp [even]
  · simp [odd]

/-- During a publication the route fields need not fit together. -/
theorem Core.Sound.of_busy (busy : publicationBusy core.sequence = true)
    (settled : core.unsettled = true → core.active = .none)
    (generation : core.generation = UInt32.ofNat core.epoch) : core.Sound :=
  ⟨fun quiet => by simp [busy] at quiet, settled, generation⟩

theorem Core.generation_succ (generation : core.generation = UInt32.ofNat core.epoch) :
    core.generation + 1 = UInt32.ofNat (core.epoch + 1) := by
  rw [generation, UInt32.ofNat_add]
  rfl

/-- A change within the epoch that can only leave the route. -/
theorem Core.Advances.of_kept {after : Core} (epoch : after.epoch = core.epoch)
    (settled : core.unsettled = false → after.unsettled = false)
    (active : core.unsettled = false → after.active = core.active ∨ after.active = .none) :
    core.Advances after :=
  ⟨epoch.ge, fun _ before => ⟨settled before, active before⟩⟩

theorem Core.Advances.of_later {after : Core} (epoch : after.epoch = core.epoch + 1) :
    core.Advances after :=
  ⟨by omega, fun same => by omega⟩

end Shapes

/-! ### Fragments of the writer -/

/-- The route words after the route was retired. -/
def Core.retired (core : Core) : Core where
  sequence := core.sequence + 1 + 1
  generation := core.generation + 1
  desired := .none
  active := .none
  transition := .stable
  epoch := core.epoch + 1
  unsettled := false

theorem Core.retired_sound (sound : core.Sound) : core.retired.Sound where
  shaped _ := ⟨by simp [Core.retired], by simp [Core.retired]⟩
  settled := by simp [Core.retired]
  generation := Core.generation_succ sound.generation

theorem Core.retired_atRest (atRest : core.AtRest) : core.retired.AtRest :=
  ⟨by simp [Core.retired, publicationBusy_succ, atRest.quiet], rfl⟩

theorem retireRoute_safe {words : Words} (inside : Inside task claim pursued core words)
    (atRest : core.AtRest) :
    retireRoute.Safe (Interference task) (Promise task)
      (fun _ later => Inside task claim pursued core.retired later) words := by
  have sound : core.Sound := inside.core ▸ inside.sound.core
  have busy : publicationBusy (core.sequence + 1) = true := by
    simp [publicationBusy_succ, atRest.quiet]
  unfold retireRoute
  refine onCore_safe inside (.of_busy busy sound.settled sound.generation)
    (.of_kept rfl id fun _ => .inl rfl) fun _ inside => ?_
  refine onCore_safe inside (.of_busy busy sound.settled sound.generation)
    (.of_kept rfl id fun _ => .inl rfl) fun _ inside => ?_
  refine onCore_safe inside (.of_busy busy (fun _ => rfl) sound.generation)
    (.of_kept rfl (fun _ => rfl) fun _ => .inr rfl) fun _ inside => ?_
  refine onCore_safe inside (.of_busy busy (fun _ => rfl) (Core.generation_succ sound.generation))
    (.of_later rfl) fun _ inside => ?_
  refine onCore_safe inside (.of_busy busy (fun _ => rfl) (Core.generation_succ sound.generation))
    (.of_kept rfl id fun _ => .inl rfl) fun _ inside => ?_
  have retired : core.retired.Sound := Core.retired_sound sound
  exact onCore_last inside rfl retired (.of_kept rfl id fun _ => .inl rfl)

/-- What a fragment of the writer leaves behind. -/
structure Kept (task : Task) (claim : Option (Task × Claim)) (pursued : Option Generation)
    (core : Core) (words : Words) : Prop where
  inside : Inside task claim pursued words.core words
  atRest : words.core.AtRest
  advances : core.Advances words.core

theorem Kept.stable {before after : Words} (kept : Kept task claim pursued core before)
    (interference : Interference task before after) : Kept task claim pursued core after := by
  have same := (interference.held kept.inside.writer).2.1
  exact ⟨same ▸ kept.inside.stable interference, same ▸ kept.atRest, same ▸ kept.advances⟩

theorem Inside.kept {words : Words} (inside : Inside task claim pursued core words)
    (atRest : core.AtRest) : Kept task claim pursued core words := by
  obtain rfl : words.core = core := inside.core
  exact ⟨inside, atRest, .refl _⟩

theorem Inside.retired {words : Words} (inside : Inside task claim pursued core.retired words)
    (atRest : core.AtRest) : Kept task claim pursued core words ∧ words.core.active = .none := by
  have same := inside.core
  refine ⟨⟨?_, ?_, ?_⟩, ?_⟩ <;> rw [same]
  · exact inside
  · exact Core.retired_atRest atRest
  · exact .of_later rfl
  · rfl

/-- An exact retirement leaves the generation or its route. -/
theorem commitNoneLocked_safe {words : Words} (inside : Inside task claim pursued core words)
    (atRest : core.AtRest) (route : OutputRoute) (generation : Generation) (exact : Bool) :
    (commitNoneLocked route generation exact).Safe (Interference task) (Promise task)
      (fun _ later => Kept task claim pursued core later ∧
        (later.core.active = .none ∨ later.core = core ∧ exact = true ∧
          (core.active ≠ route ∨ core.generation ≠ generation))) words := by
  refine readCore_safe inside fun _ inside => readCore_safe inside fun _ inside => ?_
  split
  · rename_i left
    intro later interference
    have inside := inside.stable interference
    exact ⟨inside.kept atRest, .inl (inside.core ▸ left)⟩
  split
  · rename_i other
    intro later interference
    have inside := inside.stable interference
    exact ⟨inside.kept atRest, .inr ⟨inside.core, other.1, other.2⟩⟩
  · refine Program.Safe.bind (Interference.refl task) ?_
    refine (retireRoute_safe inside atRest).mono fun _ later inside => ?_
    intro last interference
    obtain ⟨kept, left⟩ := (inside.stable interference).retired atRest
    exact ⟨kept, .inl left⟩

/-! ### The handoff -/

/-- The check of the writer: either it finds an active invalidation, or it was the last. -/
theorem checkDurable_safe {words : Words} {rest : DurableState → Program Words β}
    {post : β → Words → Prop} (kept : Kept task .none .none core words)
    (found : ∀ later target, Kept task .none (some target) core later →
      later.durableGeneration = target →
        (rest .active).Safe (Interference task) (Promise task) post later)
    (last : ∀ later state, state ≠ .active → Leaving task later →
      (rest state).Safe (Interference task) (Promise task) post later) :
    (checkDurable >>= rest).Safe (Interference task) (Promise task) post words := by
  refine Program.Safe.changeThen fun later interference => ?_
  have kept := kept.stable interference
  have inside := kept.inside
  have excluded (other : Task) (different : other ≠ task) : later.writer ≠ some other := by
    simpa [inside.writer] using Ne.symm different
  by_cases active : later.durableState = .active
  · have same : { later with record := { later.record with
        leaving := later.record.leaving || later.durableState != .active } } = later := by
      have unchanged : (later.record.leaving || later.durableState != .active) =
          later.record.leaving := by simp [active]
      rw [unchanged]
    dsimp only
    rw [same, active]
    refine ⟨.refl task later, found later _ ⟨⟨inside.sound, inside.owes, inside.writer,
      inside.claim, inside.leaving, rfl, ?_⟩, kept.atRest, kept.advances⟩ rfl⟩
    rintro target ⟨⟩
    exact ⟨active, rfl⟩
  · have sound : Words.Sound { later with record := { later.record with
        leaving := later.record.leaving || later.durableState != .active } } := by
      refine ⟨inside.sound.core, inside.sound.idle, inside.sound.claim, inside.sound.publisher,
        inside.sound.publishing, fun lost bounded => ?_⟩
      obtain ⟨-, requests, target, consumed⟩ := inside.sound.durable lost bounded
      exact ⟨fun found => absurd found active, requests, target, consumed⟩
    refine ⟨promise_of_writer inside.writer (fun _ => sound) (.refl _) ⟨rfl, rfl, rfl⟩ excluded
      fun _ => ⟨rfl, rfl⟩, last _ _ active ⟨sound, inside.owes, inside.writer, inside.claim,
        ?_, kept.atRest⟩⟩
    simp [active]

/-- The target of the pursued invalidation is no longer active. -/
def Gone (target : Generation) (core : Core) : Prop :=
  core.generation ≠ target ∨ core.active = .none

theorem retireTarget_safe {target : Generation} {words : Words}
    (kept : Kept task claim pursued core words) :
    (retireTarget target).Safe (Interference task) (Promise task)
      (fun _ later => Kept task claim pursued core later ∧ Gone target later.core) words := by
  obtain ⟨inside, atRest, advances⟩ := kept
  generalize words.core = now at inside atRest advances
  have finish {later : Words} (inside : Inside task claim pursued now later)
      (gone : Gone target now) : Kept task claim pursued core later ∧ Gone target later.core := by
    have kept := inside.kept atRest
    exact ⟨⟨kept.inside, kept.atRest, advances.trans kept.advances⟩, inside.core ▸ gone⟩
  have ended {later : Words} (inside : Inside task claim pursued now later)
      (gone : Gone target now) : (Program.done ()).Safe (Interference task) (Promise task)
        (fun _ later => Kept task claim pursued core later ∧ Gone target later.core) later :=
    fun last interference => finish (inside.stable interference) gone
  refine readCore_safe inside fun _ inside => ?_
  split
  · rename_i current
    refine readCore_safe inside fun _ inside => ?_
    split
    · refine readCore_safe inside fun _ inside => ?_
      refine Program.Safe.bind (Interference.refl task) ?_
      refine (commitNoneLocked_safe inside atRest now.active target true).mono ?_
      rintro changed later ⟨kept, left⟩ last interference
      have same := (interference.held kept.inside.writer).2.1
      have kept := kept.stable interference
      refine ⟨⟨kept.inside, kept.atRest, advances.trans kept.advances⟩, ?_⟩
      rcases left with left | ⟨-, -, other | other⟩
      · exact .inr (same ▸ left)
      · exact absurd rfl other
      · exact absurd current other
    · rename_i left
      exact ended inside (.inr (by simpa using left))
  · rename_i other
    exact ended inside (.inl other)

theorem targetGone_safe {target : Generation} {words : Words}
    {rest : Bool → Program Words β} {post : β → Words → Prop}
    (inside : Inside task claim pursued core words) (gone : Gone target core)
    (next : ∀ later, Inside task claim pursued core later →
      (rest true).Safe (Interference task) (Promise task) post later) :
    (targetGone target >>= rest).Safe (Interference task) (Promise task) post words := by
  unfold targetGone
  rw [Program.bind_assoc]
  refine readCore_safe inside fun _ inside => ?_
  split
  · exact next _ inside
  · rename_i same
    have left : core.active = .none := gone.resolve_left same
    rw [Program.bind_assoc]
    refine readCore_safe inside fun _ inside => ?_
    rw [decide_eq_true left]
    exact next _ inside

/-- A consumed invalidation is one of a generation that is over. -/
theorem consumeDurable_safe {target : Generation} {words : Words}
    (inside : Inside task .none (some target) core words) (atRest : core.AtRest)
    (gone : Gone target core) :
    consumeDurable.Safe (Interference task) (Promise task) (fun _ later => Leaving task later)
      words := by
  intro later interference
  have inside := inside.stable interference
  obtain ⟨active, found⟩ := inside.pursued target rfl
  have excluded (other : Task) (different : other ≠ task) : later.writer ≠ some other := by
    simpa [inside.writer] using Ne.symm different
  have unpublished : later.record.publisher = .none := by
    cases publisher : later.record.publisher with
    | none => rfl
    | some other =>
        have publishing := (inside.sound.publisher other publisher).1
        simp [active] at publishing
  have sound : Words.Sound { later with
      durableState := .none, record := { later.record with leaving := true } } := by
    refine ⟨inside.sound.core, inside.sound.idle, inside.sound.claim, ?_, by simp, ?_⟩
    · simp [unpublished]
    · intro lost bounded
      obtain ⟨-, requests, reached, -⟩ := inside.sound.durable lost bounded
      have reached := reached active
      have past : later.core.Past later.durableGeneration := by
        rw [inside.core] at bounded reached ⊢
        rw [found] at reached ⊢
        have shaped : core.Sound := inside.core ▸ inside.sound.core
        rcases Nat.lt_or_eq_of_le reached with earlier | current
        · exact .inl earlier
        · have same : core.generation = target :=
            UInt32.toNat_inj.mp ((shaped.generation_eq bounded).trans current.symm)
          exact .inr ⟨current, gone.resolve_left (absurd same), atRest.settled⟩
      refine ⟨by simp, fun generation accepted => .inl ?_, by simp, fun _ => past⟩
      rcases requests generation accepted with past | ⟨-, same⟩
      · exact past
      · exact same ▸ past
  dsimp only
  rw [if_pos active]
  refine ⟨promise_of_writer inside.writer (fun _ => sound) (.refl _) ⟨rfl, rfl, rfl⟩ excluded
    (by simp [unpublished]), fun last interference => ?_⟩
  refine Leaving.stable ⟨sound, inside.owes, inside.writer, inside.claim, rfl, ?_⟩ interference
  exact inside.core ▸ atRest

theorem processDurable_safe {words : Words} (kept : Kept task .none .none core words) :
    processDurableInvalidationLocked.Safe (Interference task) (Promise task)
      (fun _ later => Leaving task later) words := by
  refine checkDurable_safe kept (fun later target kept found => ?_) fun later state other left => ?_
  · rw [if_pos rfl]
    refine Program.Safe.readThen fun second interference => ⟨.refl task second, ?_⟩
    have kept := kept.stable interference
    have same : second.durableGeneration = target := (kept.inside.pursued target rfl).2
    rw [same]
    refine Program.Safe.bind (Interference.refl task) ((retireTarget_safe kept).mono ?_)
    rintro - third ⟨kept, gone⟩
    refine targetGone_safe kept.inside gone fun fourth inside => ?_
    rw [if_pos rfl]
    exact consumeDurable_safe inside kept.atRest gone
  · rw [if_neg other]
    exact done_safe (fun _ _ => Leaving.stable) left

/-- The writer leaves after its last check. -/
theorem leaveWriter_safe {words : Words} (left : Leaving task words) :
    leaveWriter.Safe (Interference task) (Promise task)
      (fun _ later => Outside task false later) words := by
  intro later interference
  have left := left.stable interference
  have excluded (other : Task) : (none : Option Task) ≠ some other := by simp
  have sound : Words.Sound { later with
      writer := .none, record := { later.record with leaving := false } } := by
    refine ⟨left.sound.core, fun _ => left.atRest, ?_, left.sound.publisher,
      left.sound.publishing, fun lost bounded => ?_⟩
    · simp [left.claim]
    · obtain ⟨found, requests, target, consumed⟩ := left.sound.durable lost bounded
      refine ⟨fun active => .inl ?_, requests, target, consumed⟩
      rcases found active with owed | ⟨-, staying⟩
      · exact owed
      · simp [left.leaving] at staying
  have publisher : later.record.publisher ≠ some task := fun publishes => by
    have owes := (left.sound.publisher task publishes).2
    simp [left.owes] at owes
  refine ⟨promise_of_writer left.writer (fun _ => sound) (.refl _) ⟨rfl, rfl, rfl⟩
    (fun other _ => excluded other) fun _ => ⟨rfl, rfl⟩, fun last interference => ?_⟩
  exact Outside.stable ⟨sound, left.owes, publisher, fun held => by simp at held⟩ interference

theorem leaveWriterWithHandoff_safe {words : Words} (kept : Kept task .none .none core words) :
    leaveWriterWithHandoff.Safe (Interference task) (Promise task)
      (fun _ later => Outside task false later) words := by
  refine Program.Safe.bind (Interference.refl task) ((processDurable_safe kept).mono ?_)
  intro _ later left
  refine Program.Safe.bind (Interference.refl task)
    ((aside_safe (fun _ _ => Leaving.stable) clearSuperseded_aside left).mono ?_)
  exact fun _ later left => leaveWriter_safe left

end HidBot.Route
