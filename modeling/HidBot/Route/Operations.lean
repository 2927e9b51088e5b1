import HidBot.Route.Callers

/-!
# The route operations keep the contract

Every public operation of `hid_route::StateMachine` starts and ends outside the
writer flag, or with the exact claim that its caller holds across calls.
-/

namespace HidBot.Route

open Interleaving

variable {task : Task} {claim : Option (Task × Claim)} {pursued : Option Generation} {core : Core}
  {α β : Type}

/-- A fragment that stays aside runs before the rest of a caller. -/
theorem aside_then {assertion : Words → Prop} {call : Program Words α}
    {rest : α → Program Words β} {post : β → Words → Prop} {words : Words}
    (stable : ∀ before after, assertion before → Interference task before after →
      assertion after)
    (aside : call.Each Aside) (holds : assertion words)
    (next : ∀ result later, assertion later →
      (rest result).Safe (Interference task) (Promise task) post later) :
    (call >>= rest).Safe (Interference task) (Promise task) post words :=
  Program.Safe.bind (Interference.refl task)
    ((aside_safe stable aside holds).mono fun result later holds => next result later holds)

/-! ### The checks of the writer -/

theorem routeIs_safe {desired active : OutputRoute} {transition : Transition}
    {rest : Bool → Program Words β} {post : β → Words → Prop} {words : Words}
    (inside : Inside task claim pursued core words)
    (next : ∀ result later, Inside task claim pursued core later →
      (result = true → core.desired = desired ∧ core.active = active ∧
        core.transition = transition) →
      (rest result).Safe (Interference task) (Promise task) post later) :
    (routeIs desired active transition >>= rest).Safe (Interference task) (Promise task) post
      words := by
  unfold routeIs
  rw [Program.bind_assoc]
  refine readCore_safe inside fun _ inside => ?_
  split
  · exact next false _ inside (by simp)
  rename_i sameDesired
  rw [Program.bind_assoc]
  refine readCore_safe inside fun _ inside => ?_
  split
  · exact next false _ inside (by simp)
  rename_i sameActive
  rw [Program.bind_assoc]
  refine readCore_safe inside fun _ inside => ?_
  refine next _ _ inside fun same => ?_
  exact ⟨not_not.mp sameDesired, not_not.mp sameActive, of_decide_eq_true same⟩

theorem undisturbedRouteIs_safe {desired active : OutputRoute} {transition : Transition}
    {rest : Bool → Program Words β} {post : β → Words → Prop} {words : Words}
    (inside : Inside task claim pursued core words)
    (next : ∀ result later, Inside task claim pursued core later →
      (result = true → core.desired = desired ∧ core.active = active ∧
        core.transition = transition) →
      (rest result).Safe (Interference task) (Promise task) post later) :
    (undisturbedRouteIs desired active transition >>= rest).Safe (Interference task)
      (Promise task) post words := by
  unfold undisturbedRouteIs
  rw [Program.bind_assoc]
  refine aside_then (fun _ _ => Inside.stable) pending_aside inside fun pending _ inside => ?_
  split
  · exact next false _ inside (by simp)
  · exact routeIs_safe inside next

/-! ### Commit -/

/-- The route words after a commit of the route. -/
def Core.published (core : Core) (route : OutputRoute) : Core where
  sequence := core.sequence + 1 + 1
  generation := core.generation + 1
  desired := route
  active := route
  transition := .stable
  epoch := core.epoch + 1
  unsettled := false

theorem Core.published_sound (sound : core.Sound) (route : OutputRoute) :
    (core.published route).Sound where
  shaped _ := ⟨by simp [Core.published], fun _ => rfl⟩
  settled := by simp [Core.published]
  generation := Core.generation_succ sound.generation

/-- The route words within a commit, after the advance. -/
def Core.committing (core : Core) : Core :=
  { core with sequence := core.sequence + 1 }.advance true

theorem Core.committing_sound (sound : core.Sound) (quiet : publicationBusy core.sequence = false)
    (left : core.active = .none) : core.committing.Sound :=
  .of_busy (by simp [Core.committing, Core.advance, publicationBusy_succ, quiet]) (fun _ => left)
    (Core.generation_succ sound.generation)

/-- The stores of a route by the commit that advanced the generation. -/
theorem storeRoute_safe {words : Words} (route : OutputRoute)
    (inside : Inside task claim pursued core.committing words) (sound : core.Sound)
    (atRest : core.AtRest) (left : core.active = .none) :
    (storeRoute route route).Safe (Interference task) (Promise task)
      (fun _ later => Kept task claim pursued later.core later ∧
        later.core.generation = core.generation + 1) words := by
  have busy : publicationBusy (core.sequence + 1) = true := by
    simp [publicationBusy_succ, atRest.quiet]
  have generation := Core.generation_succ sound.generation
  have published := Core.published_sound sound route
  unfold storeRoute
  refine onCore_safe inside (.of_busy busy (fun _ => left) generation)
    (.of_kept rfl id fun _ => .inl rfl) fun _ inside => ?_
  refine onCore_safe inside (.of_busy busy (by simp) generation)
    (.of_kept rfl (fun _ => rfl) fun settled => nomatch settled) fun _ inside => ?_
  refine onCore_safe inside (.of_busy busy (by simp) generation)
    (.of_kept rfl id fun _ => .inl rfl) fun _ inside => ?_
  refine (onCore_last inside rfl published (.of_kept rfl id fun _ => .inl rfl)).mono ?_
  intro _ later inside
  have quiet : (core.published route).AtRest :=
    ⟨by simp [Core.published, publicationBusy_succ, atRest.quiet], rfl⟩
  exact ⟨⟨inside.core ▸ inside, inside.core ▸ quiet, .refl _⟩, inside.core ▸ rfl⟩

/-- The caller ends as it started, whatever it returns. -/
theorem done_outside {owes : Bool} {result : α} {words : Words}
    (outside : Outside task owes words) :
    (Program.done result).Safe (Interference task) (Promise task)
      (fun _ later => Outside task owes later) words :=
  done_safe (fun _ _ => Outside.stable) outside

/-- The writer leaves and returns. -/
theorem handoff_then {rest : Unit → Program Words β} {post : β → Words → Prop} {words : Words}
    (kept : Kept task .none .none core words)
    (next : ∀ later, Outside task false later →
      (rest ()).Safe (Interference task) (Promise task) post later) :
    (leaveWriterWithHandoff >>= rest).Safe (Interference task) (Promise task) post words :=
  Program.Safe.bind (Interference.refl task)
    ((leaveWriterWithHandoff_safe kept).mono fun _ later outside => next later outside)

theorem publishRoute_safe {words : Words} (transport : Transport)
    (identity : Option UsbPublicationCut) (turns : List Bool)
    (inside : Inside task .none .none core words) (atRest : core.AtRest)
    (left : core.active = .none) :
    (publishRoute transport identity turns).Safe (Interference task) (Promise task)
      (fun _ later => Outside task false later) words := by
  have sound : core.Sound := inside.core ▸ inside.sound.core
  have busy : publicationBusy (core.sequence + 1) = true := by
    simp [publicationBusy_succ, atRest.quiet]
  have committing := Core.committing_sound sound atRest.quiet left
  unfold publishRoute
  refine onCore_safe inside (.of_busy busy sound.settled sound.generation)
    (.of_kept rfl id fun _ => .inl rfl) fun _ inside => ?_
  refine advanceForCommit_safe inside committing fun _ inside => ?_
  refine aside_then (fun _ _ => Inside.stable) (preempted_aside _) inside fun preempted _ inside => ?_
  split
  · refine Program.Safe.bind (Interference.refl task)
      ((storeRoute_safe .none inside sound atRest left).mono ?_)
    rintro - _ ⟨kept, -⟩
    refine aside_then (fun _ _ => Kept.stable) (clearIdentity_aside _ _) kept fun _ _ kept => ?_
    exact handoff_then kept fun _ outside => done_outside outside
  · refine Program.Safe.bind (Interference.refl task)
      ((storeRoute_safe transport.route inside sound atRest left).mono ?_)
    rintro - _ ⟨kept, -⟩
    refine aside_then (fun _ _ => Kept.stable) (finishIdentity_aside _) kept fun finished _ kept => ?_
    split
    · exact handoff_then kept fun _ outside => done_outside outside
    · refine Program.Safe.bind (Interference.refl task)
        ((commitNoneLocked_safe kept.inside kept.atRest _ _ true).mono ?_)
      rintro - _ ⟨kept, -⟩
      refine aside_then (fun _ _ => Kept.stable) (clearIdentity_aside _ _) kept fun _ _ kept => ?_
      exact handoff_then kept fun _ outside => done_outside outside

theorem commitIfNone_safe {words : Words} (transport : Transport) (cut : UsbPublicationCut)
    (turns : List Bool) (outside : Outside task false words) :
    (commitIfNone task transport cut turns).Safe (Interference task) (Promise task)
      (fun _ later => Outside task false later) words := by
  refine tryEnterWriter_safe outside (fun _ kept => ?_) fun _ outside => done_outside outside
  rw [if_pos rfl]
  refine undisturbedRouteIs_safe kept.inside fun free _ inside is => ?_
  split
  · rename_i free
    obtain ⟨-, left, -⟩ := is free
    refine aside_then (fun _ _ => Inside.stable) (beginIdentity_aside _ _) inside
      fun begun _ inside => ?_
    cases begun with
    | none => exact handoff_then (inside.kept kept.atRest) fun _ outside => done_outside outside
    | some identity =>
        refine Program.Safe.bind (Interference.refl task)
          ((publishRoute_safe transport identity turns inside kept.atRest left).mono ?_)
        intro published _ outside
        cases published with
        | none => exact done_outside outside
        | some published =>
            exact aside_then (fun _ _ => Outside.stable) snapshot_aside outside
              fun _ _ outside => done_outside outside
  · exact handoff_then (inside.kept kept.atRest) fun _ outside => done_outside outside

theorem commitUsbIfNone_safe {words : Words} (cut : Option UsbPublicationCut)
    (turns : List Bool) (outside : Outside task false words) :
    (commitUsbIfNone task cut turns).Safe (Interference task) (Promise task)
      (fun _ later => Outside task false later) words := by
  cases cut with
  | some cut => exact commitIfNone_safe .usb cut turns outside
  | none =>
      exact aside_then (fun _ _ => Outside.stable) (read_aside _) outside
        fun cut _ outside => commitIfNone_safe .usb cut turns outside

/-! ### Release -/

/-- The route words in the first stage of a release. -/
def Core.releasing (core : Core) : Core :=
  { core with sequence := core.sequence + 1 + 1, desired := .none, transition := .releasing }

theorem Core.releasing_sound (sound : core.Sound) (held : core.active ≠ .none) :
    core.releasing.Sound where
  shaped _ := ⟨fun _ => ⟨rfl, held⟩, by simp [Core.releasing]⟩
  settled := sound.settled
  generation := sound.generation

theorem beginRelease_safe {words : Words} (transport : Transport)
    (outside : Outside task false words) :
    (beginRelease task transport).Safe (Interference task) (Promise task)
      (fun _ later => Outside task false later) words := by
  refine tryEnterWriter_safe outside (fun _ kept => ?_) fun _ outside => done_outside outside
  rw [if_pos rfl]
  obtain ⟨inside, atRest, -⟩ := kept
  generalize Words.core _ = core at inside atRest
  have sound : core.Sound := inside.core ▸ inside.sound.core
  have busy : publicationBusy (core.sequence + 1) = true := by
    simp [publicationBusy_succ, atRest.quiet]
  refine undisturbedRouteIs_safe inside fun undisturbed _ inside is => ?_
  split
  · rename_i undisturbed
    obtain ⟨-, active, -⟩ := is undisturbed
    have held : core.active ≠ .none := active ▸ transport.route_ne_none
    have releasing := Core.releasing_sound sound held
    refine onCore_safe inside (.of_busy busy sound.settled sound.generation)
      (.of_kept rfl id fun _ => .inl rfl) fun _ inside => ?_
    refine onCore_safe inside (.of_busy busy sound.settled sound.generation)
      (.of_kept rfl id fun _ => .inl rfl) fun _ inside => ?_
    refine onCore_safe inside (.of_busy busy sound.settled sound.generation)
      (.of_kept rfl id fun _ => .inl rfl) fun _ inside => ?_
    refine onCore_safe inside releasing (.of_kept rfl id fun _ => .inl rfl) fun _ inside => ?_
    have quiet : core.releasing.AtRest :=
      ⟨by simp [Core.releasing, publicationBusy_succ, atRest.quiet], atRest.settled⟩
    refine aside_then (fun _ _ => Inside.stable) snapshot_aside inside fun stageA _ inside => ?_
    refine handoff_then (inside.kept quiet) fun _ outside => ?_
    refine aside_then (fun _ _ => Outside.stable) snapshot_aside outside fun current _ outside => ?_
    split <;> exact done_outside outside
  · exact handoff_then (inside.kept atRest) fun _ outside => done_outside outside

theorem matchesStageA_safe {transport : Transport} {expected : Snapshot}
    {rest : Bool → Program Words β} {post : β → Words → Prop} {words : Words}
    (inside : Inside task claim pursued core words)
    (next : ∀ result later, Inside task claim pursued core later →
      (result = true → core.desired = .none) →
      (rest result).Safe (Interference task) (Promise task) post later) :
    (matchesStageA transport expected >>= rest).Safe (Interference task) (Promise task) post
      words := by
  unfold matchesStageA
  rw [Program.bind_assoc]
  refine aside_then (fun _ _ => Inside.stable) pending_aside inside fun pending _ inside => ?_
  split
  · exact next false _ inside (by simp)
  split
  · exact next false _ inside (by simp)
  rw [Program.bind_assoc]
  refine routeIs_safe inside fun same _ inside is => ?_
  split
  · exact next false _ inside (by simp)
  · rename_i same
    obtain ⟨left, -, -⟩ := is (by simpa using same)
    rw [Program.bind_assoc]
    exact readCore_safe inside fun _ inside => next _ _ inside fun _ => left

theorem completeRelease_safe {words : Words} (transport : Transport) (expected : Snapshot)
    (outside : Outside task false words) :
    (completeRelease task transport expected).Safe (Interference task) (Promise task)
      (fun _ later => Outside task false later) words := by
  refine tryEnterWriter_safe outside (fun _ kept => ?_) fun _ outside => done_outside outside
  rw [if_pos rfl]
  obtain ⟨inside, atRest, -⟩ := kept
  generalize Words.core _ = core at inside atRest
  have sound : core.Sound := inside.core ▸ inside.sound.core
  have busy : publicationBusy (core.sequence + 1) = true := by
    simp [publicationBusy_succ, atRest.quiet]
  have generation := Core.generation_succ sound.generation
  refine matchesStageA_safe inside fun exact _ inside is => ?_
  split
  · rename_i exact
    have left := is exact
    have retired : { core.retired with desired := core.desired } = core.retired := by
      rw [left]
      rfl
    refine onCore_safe inside (.of_busy busy sound.settled sound.generation)
      (.of_kept rfl id fun _ => .inl rfl) fun _ inside => ?_
    refine onCore_safe inside (.of_busy busy (fun _ => rfl) sound.generation)
      (.of_kept rfl (fun _ => rfl) fun _ => .inr rfl) fun _ inside => ?_
    refine onCore_safe inside (.of_busy busy (fun _ => rfl) generation) (.of_later rfl)
      fun _ inside => ?_
    refine onCore_safe inside (.of_busy busy (fun _ => rfl) generation)
      (.of_kept rfl id fun _ => .inl rfl) fun _ inside => ?_
    refine Program.Safe.bind (Interference.refl task)
      ((onCore_last inside retired (Core.retired_sound sound)
        (.of_kept rfl id fun _ => .inl rfl)).mono ?_)
    intro _ later inside
    refine handoff_then (inside.retired atRest).1 fun _ outside => ?_
    exact aside_then (fun _ _ => Outside.stable) pending_aside outside
      fun _ _ outside => done_outside outside
  · exact handoff_then (inside.kept atRest) fun _ outside => done_outside outside

/-! ### Invalidation -/

theorem retireAsWriter_safe {owes : Bool} {words : Words} (route : OutputRoute)
    (generation : Generation) (exact : Bool) (outside : Outside task owes words) :
    (retireAsWriter task route generation exact).Safe (Interference task) (Promise task)
      (fun _ later => Outside task false later) words := by
  refine tryEnterWriter_safe outside (fun _ kept => ?_) fun _ outside => done_outside outside
  rw [if_pos rfl]
  refine Program.Safe.bind (Interference.refl task)
    ((commitNoneLocked_safe kept.inside kept.atRest route generation exact).mono ?_)
  rintro changed _ ⟨kept, -⟩
  exact handoff_then kept fun _ outside => done_outside outside

/-- A request is published for a generation that has been reached. -/
theorem publishThenRetire_safe {generation : Generation} {words : Words} (route : OutputRoute)
    (expected : Generation) (exact : Bool) (outside : Outside task false words)
    (reached : generation.toNat ≤ words.core.epoch) :
    (publishDurableInvalidation task generation >>= fun accepted =>
      if accepted = true then retireAsWriter task route expected exact
      else Program.done false).Safe (Interference task) (Promise task)
        (fun _ later => Outside task false later) words := by
  refine Program.Safe.bind (Interference.refl task)
    ((publishDurable_safe outside reached).mono ?_)
  rintro accepted later ⟨owes, outside, refused⟩
  split
  · exact retireAsWriter_safe route expected exact outside
  · rename_i refusal
    obtain rfl := refused (by simpa using refusal)
    exact done_outside outside

theorem invalidate_safe {words : Words} (outside : Outside task false words) :
    (invalidate task).Safe (Interference task) (Promise task)
      (fun _ later => Outside task false later) words := by
  refine Program.Safe.readThen fun later interference => ⟨.refl task later, ?_⟩
  have outside := outside.stable interference
  exact publishThenRetire_safe .usb 0 false outside outside.sound.core.generation_le

/-- A caller outside the writer flag that has seen this generation. -/
structure Seen (task : Task) (generation : Generation) (words : Words) : Prop where
  outside : Outside task false words
  reached : generation.toNat ≤ words.core.epoch

theorem Seen.stable {generation : Generation} {before after : Words}
    (seen : Seen task generation before) (interference : Interference task before after) :
    Seen task generation after :=
  ⟨seen.outside.stable interference, Nat.le_trans seen.reached interference.advances.epoch⟩

theorem snapshotWithin_safe (attempts : Nat) {words : Words}
    (outside : Outside task false words) :
    (snapshotWithin attempts).Safe (Interference task) (Promise task)
      (fun observed later => Seen task observed.generation later) words := by
  induction attempts generalizing words with
  | zero =>
      refine Program.Safe.readThen fun later interference => ⟨.refl task later, ?_⟩
      have outside := outside.stable interference
      intro last interference
      exact Seen.stable ⟨outside, outside.sound.core.generation_le⟩ interference
  | succ attempts ih =>
      refine aside_then (fun _ _ => Outside.stable) (read_aside _) outside fun before _ outside => ?_
      split
      · exact ih outside
      refine aside_then (fun _ _ => Outside.stable) (read_aside _) outside fun _ _ outside => ?_
      refine aside_then (fun _ _ => Outside.stable) (read_aside _) outside fun _ _ outside => ?_
      refine Program.Safe.readThen fun later interference => ⟨.refl task later, ?_⟩
      have outside := outside.stable interference
      have seen : Seen task later.core.generation later :=
        ⟨outside, outside.sound.core.generation_le⟩
      refine aside_then (fun _ _ => Seen.stable) (read_aside _) seen fun _ _ seen => ?_
      refine aside_then (fun _ _ => Seen.stable) pending_aside seen fun _ _ seen => ?_
      refine aside_then (fun _ _ => Seen.stable) (read_aside _) seen fun _ _ seen => ?_
      split
      · exact fun last interference => seen.stable interference
      · exact ih seen.outside

theorem invalidateIfMatches_safe {words : Words} (expected : Snapshot)
    (outside : Outside task false words) :
    (invalidateIfMatches task expected).Safe (Interference task) (Promise task)
      (fun _ later => Outside task false later) words := by
  unfold invalidateIfMatches
  split
  · exact done_outside outside
  refine Program.Safe.bind (Interference.refl task) ((snapshotWithin_safe 3 outside).mono ?_)
  intro observed later seen
  split
  · exact done_outside seen.outside
  · rename_i matching
    have same : observed.sameRoute expected = true := by
      by_contra other
      exact matching (.inr (by simpa using other))
    have current : observed.generation = expected.generation := by
      simp only [Snapshot.sameRoute, Bool.and_eq_true, beq_iff_eq] at same
      exact same.1.2
    exact publishThenRetire_safe expected.active expected.generation true seen.outside
      (current ▸ seen.reached)

/-! ### Exact claims -/

/-- Between two calls, the writer is the caller that holds the claim. -/
theorem Inside.outside {claimed : Claim} {words : Words}
    (inside : Inside task (some (task, claimed)) pursued core words) (atRest : core.AtRest) :
    Outside task false words where
  sound := inside.sound
  owes := inside.owes
  publisher publishes := by
    have owes := (inside.sound.publisher task publishes).2
    simp [inside.owes] at owes
  holds _ := ⟨⟨claimed, inside.claim⟩, inside.core ▸ atRest, inside.leaving⟩

theorem Inside.withClaim {words : Words} {later : Option (Task × Claim)}
    (inside : Inside task claim pursued core words) (own : ∀ entry ∈ later, entry.1 = task) :
    Promise task words { words with claim := later } ∧
      Inside task later pursued core { words with claim := later } := by
  have sound : Words.Sound { words with claim := later } := by
    refine ⟨inside.sound.core, inside.sound.idle, ?_, inside.sound.publisher,
      inside.sound.publishing, fun lost bounded => ?_⟩
    · intro holder claim held
      exact inside.writer.trans (congrArg some (own (holder, claim) held).symm)
    · obtain ⟨found, requests, target, consumed⟩ := inside.sound.durable lost bounded
      exact ⟨found, requests, target, consumed⟩
  refine ⟨promise_of_writer inside.writer (fun _ => sound) (.refl _) ⟨rfl, rfl, rfl⟩ ?_
    fun _ => ⟨rfl, rfl⟩, ⟨sound, inside.owes, inside.writer, rfl, inside.leaving, inside.core,
      inside.pursued⟩⟩
  intro other different
  simpa [inside.writer] using Ne.symm different

/-- The claim that a caller finds is held by it, with the writer flag. -/
theorem heldClaim_safe {rest : Option Claim → Program Words β} {post : β → Words → Prop}
    {words : Words} (outside : Outside task false words)
    (absent : ∀ later, Outside task false later →
      (rest .none).Safe (Interference task) (Promise task) post later)
    (held : ∀ later claimed, Inside task (some (task, claimed)) .none later.core later →
      later.core.AtRest →
        (rest (some claimed)).Safe (Interference task) (Promise task) post later) :
    (heldClaim task >>= rest).Safe (Interference task) (Promise task) post words := by
  refine Program.Safe.readThen fun later interference => ⟨.refl task later, ?_⟩
  have outside := outside.stable interference
  cases found : later.claim with
  | none => exact absent later outside
  | some entry =>
      obtain ⟨holder, claimed⟩ := entry
      by_cases own : holder = task
      · subst own
        have writer := outside.sound.claim holder claimed found
        have holds := outside.holds writer
        simp only [Option.bind_some, if_true]
        exact held later claimed ⟨outside.sound, outside.owes, writer, found, holds.leaving, rfl,
          by simp⟩ holds.atRest
      · simp only [Option.bind_some, if_neg own]
        exact absent later outside

theorem coreIs_safe {expected : Snapshot} {rest : Bool → Program Words β}
    {post : β → Words → Prop} {words : Words} (inside : Inside task claim pursued core words)
    (next : ∀ result later, Inside task claim pursued core later →
      (rest result).Safe (Interference task) (Promise task) post later) :
    (coreIs expected >>= rest).Safe (Interference task) (Promise task) post words := by
  unfold coreIs
  rw [Program.bind_assoc]
  refine readCore_safe inside fun _ inside => ?_
  split
  · exact next false _ inside
  rw [Program.bind_assoc]
  refine readCore_safe inside fun _ inside => ?_
  split
  · exact next false _ inside
  rw [Program.bind_assoc]
  refine readCore_safe inside fun _ inside => ?_
  split
  · exact next false _ inside
  rw [Program.bind_assoc]
  exact readCore_safe inside fun _ inside => next _ _ inside

theorem claimInvalidation_safe {words : Words} (expected : Snapshot)
    (token : ConditionalInvalidationToken) (reused : Bool) (attempts : Nat)
    (outside : Outside task false words) :
    (claimInvalidationIfMatches task expected token reused attempts).Safe (Interference task)
      (Promise task) (fun _ later => Outside task false later) words := by
  refine aside_then (fun _ _ => Outside.stable) (read_aside _) outside fun held _ outside => ?_
  split
  · exact done_outside outside
  refine aside_then (fun _ _ => Outside.stable) snapshot_aside outside fun observed _ outside => ?_
  split
  · exact aside_then (fun _ _ => Outside.stable) (withdraw_aside _ _) outside
      fun _ _ outside => done_outside outside
  refine aside_then (fun _ _ => Outside.stable) (publishConditional_aside _ _ _) outside
    fun published _ outside => ?_
  cases published with
  | none => exact done_outside outside
  | some token =>
      refine tryEnterWriter_safe outside (fun _ kept => ?_) fun _ outside => done_outside outside
      rw [if_pos rfl]
      refine coreIs_safe kept.inside fun exact _ inside => ?_
      split
      · refine Program.Safe.writeThen fun later interference => ?_
        have inside := inside.stable interference
        have own : ∀ entry ∈ some (task, (⟨expected, token⟩ : Claim)), entry.1 = task := by simp
        obtain ⟨promise, claimed⟩ := inside.withClaim own
        exact ⟨promise, done_outside (claimed.outside kept.atRest)⟩
      · refine aside_then (fun _ _ => Inside.stable) (cancelConditional_aside _ _) inside
          fun _ _ inside => ?_
        exact handoff_then (inside.kept kept.atRest) fun _ outside => done_outside outside

theorem retireClaim_safe {words : Words} (outside : Outside task false words) :
    (retireClaim task).Safe (Interference task) (Promise task)
      (fun _ later => Outside task false later) words := by
  refine heldClaim_safe outside (fun _ outside => done_outside outside)
    fun later claimed inside atRest => ?_
  refine Program.Safe.bind (Interference.refl task)
    ((commitNoneLocked_safe inside atRest _ _ true).mono ?_)
  rintro changed _ ⟨⟨inside, atRest, -⟩, -⟩
  split
  · refine aside_then (fun _ _ => Inside.stable) (cancelConditional_aside _ _) inside
      fun _ _ inside => ?_
    refine Program.Safe.writeThen fun later interference => ?_
    have inside := inside.stable interference
    have own : ∀ entry ∈ some (task, { claimed with
        conditionalToken := noConditionalInvalidationToken }), entry.1 = task := by simp
    obtain ⟨promise, kept⟩ := inside.withClaim own
    exact ⟨promise, done_outside (kept.outside atRest)⟩
  · exact done_outside (inside.outside atRest)

theorem releaseClaim_safe {words : Words} (outside : Outside task false words) :
    (releaseClaim task).Safe (Interference task) (Promise task)
      (fun _ later => Outside task false later) words := by
  refine heldClaim_safe outside (fun _ outside => done_outside outside)
    fun later claimed inside atRest => ?_
  refine aside_then (fun _ _ => Inside.stable) (cancelConditional_aside _ _) inside
    fun _ _ inside => ?_
  refine Program.Safe.writeThen fun later interference => ?_
  have inside := inside.stable interference
  have own : ∀ entry ∈ (none : Option (Task × Claim)), entry.1 = task := by simp
  obtain ⟨promise, free⟩ := inside.withClaim own
  exact ⟨promise, leaveWriterWithHandoff_safe (free.kept atRest)⟩

end HidBot.Route
