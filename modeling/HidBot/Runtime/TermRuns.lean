import HidBot.Runtime.ReleaseRuns

/-!
# Runs of the sequences and the activations

A sequence is admitted under a generation of its own, and the BLE route is retained under an
activation of its own. Neither word ever comes back to a value that it has left, so whoever
compares a token with it compares with the term that the token was given in.
-/

namespace HidBot.Runtime

open Interleaving

/-! ### Counters -/

theorem drawnBelow_pos (next : UInt32) : 0 < drawnBelow next := by
  unfold drawnBelow
  split
  · decide
  · rename_i left
    exact Nat.pos_of_ne_zero fun zero => left (UInt32.toNat_inj.mp zero)

/-- The number that is drawn is the one the counter stood at. -/
theorem drawnBelow_eq {next : UInt32} (left : next ≠ 0) : drawnBelow next = next.toNat := by
  rw [drawnBelow, if_neg left]

theorem drawnBelow_succ {next : UInt32} (left : next ≠ 0) :
    drawnBelow (next + 1) = drawnBelow next + 1 := by
  have bounded := next.toNat_lt
  rw [drawnBelow_eq left]
  unfold drawnBelow
  have sum : (next + 1).toNat = (next.toNat + 1) % 4294967296 := by
    rw [UInt32.toNat_add]
    rfl
  split
  · rename_i wrapped
    rw [wrapped] at sum
    simp only [UInt32.toNat_zero] at sum
    omega
  · rename_i more
    have positive : (next + 1).toNat ≠ 0 := fun zero => more (UInt32.toNat_inj.mp zero)
    rw [sum] at positive ⊢
    omega

/-! ### Sequences -/

/-- The generation under which a call has admitted a sequence. -/
def RuntimeAnswer.generation : RuntimeAnswer → Option UInt32
  | .sequence (.accepted _ authority) => some authority.generation
  | _ => Option.none

def RuntimeOperation.beginsSequence : RuntimeOperation → Bool
  | .beginSequence => true
  | _ => false

def acceptedGeneration (operation : RuntimeOperation) (answer : RuntimeAnswer) : Option UInt32 :=
  if operation.beginsSequence then answer.generation else none

def sequenceNumber (_ : Route.Task) (operation : RuntimeOperation) (answer : RuntimeAnswer) :
    Option Nat :=
  (acceptedGeneration operation answer).map UInt32.toNat

/-- A sequence that is admitted carries the generation it was taken with. -/
def SequenceAdmission.Carries (generation : UInt32) : SequenceAdmission → Prop
  | .accepted _ authority => authority.generation = generation
  | .busy | .notReady | .safetyPending => True

/-- The admission is a refusal. -/
def SequenceAdmission.Refused : SequenceAdmission → Prop
  | .accepted .. => False
  | .busy | .notReady | .safetyPending => True

theorem ends_ite {α : Type} {holds : α → Prop} {condition : Prop} {_ : Decidable condition}
    {first second : Program Words α} (one : first.Ends holds) (two : second.Ends holds) :
    (if condition then first else second).Ends holds := by
  split
  · exact one
  · exact two

theorem ends_after {α β : Type} {holds : α → Prop} {call : Program Words β}
    {rest : β → Program Words α} (later : ∀ result, (rest result).Ends holds) :
    (call >>= rest).Ends holds :=
  .bind (Program.ends_any call) fun result _ => later result

def RefusedIfAny (obstacle : Option SequenceAdmission) : Prop :=
  ∀ admission, obstacle = some admission → admission.Refused

theorem sequenceObstacle_refuses (usbReady bleReady : Bool) :
    (sequenceObstacle usbReady bleReady).Ends RefusedIfAny := by
  have refuses {admission : SequenceAdmission} (refused : admission.Refused) :
      (pure (some admission) : Program Words (Option SequenceAdmission)).Ends RefusedIfAny :=
    fun other found => Option.some.inj found ▸ refused
  have passes : (pure none : Program Words (Option SequenceAdmission)).Ends RefusedIfAny :=
    fun other found => by cases found
  refine ends_ite (refuses trivial) <| ends_after fun _ => ends_ite (refuses trivial) ?_
  exact ends_after fun _ => ends_ite (refuses trivial) passes

theorem lateSequenceObstacle_refuses (usbReady bleReady : Bool) (route : Route.Snapshot)
    (ble : BleRouteAuthoritySnapshot) (authority : AuthorityEpoch) :
    (lateSequenceObstacle usbReady bleReady route ble authority).Ends RefusedIfAny := by
  have refuses {admission : SequenceAdmission} (refused : admission.Refused) :
      (pure (some admission) : Program Words (Option SequenceAdmission)).Ends RefusedIfAny :=
    fun other found => Option.some.inj found ▸ refused
  have passes : (pure none : Program Words (Option SequenceAdmission)).Ends RefusedIfAny :=
    fun other found => by cases found
  refine ends_after fun _ => ends_after fun _ => ends_after fun _ => ends_after fun _ =>
    ends_after fun _ => ends_ite (refuses trivial) <| ends_after fun _ =>
      ends_ite (refuses trivial) <| ends_after fun _ => ends_ite (refuses trivial) passes

theorem SequenceAdmission.Refused.carries {admission : SequenceAdmission} {generation : UInt32}
    (refused : admission.Refused) : admission.Carries generation := by
  cases admission with
  | accepted state authority => exact refused.elim
  | busy | notReady | safetyPending => trivial

theorem admitSequence_carries (generation : UInt32) :
    (admitSequence generation).Ends (SequenceAdmission.Carries generation) := by
  refine ends_after fun _ => ends_after fun _ => ends_after fun _ => ends_after fun _ =>
    ends_after fun _ => ends_after fun _ => .bind (sequenceObstacle_refuses _ _) ?_
  intro obstacle refused
  cases obstacle with
  | some obstacle => exact (refused obstacle rfl).carries
  | none =>
      refine ends_after fun _ => ends_after fun _ =>
        .bind (lateSequenceObstacle_refuses _ _ _ _ _) ?_
      intro obstacle refused
      cases obstacle with
      | some obstacle => exact (refused obstacle rfl).carries
      | none => exact ends_after fun _ => ends_after fun _ => ends_ite rfl trivial

/-- An admission names the generation that the call has shown. -/
def Admits (hand : Numbering.Hand) (admission : SequenceAdmission) : Prop :=
  ∀ state authority, admission = .accepted state authority →
    hand = .shown authority.generation.toNat

theorem SequenceAdmission.Refused.admits {admission : SequenceAdmission}
    (refused : admission.Refused) (hand : Numbering.Hand) : Admits hand admission :=
  fun _ _ found => by rw [found] at refused; exact refused.elim

theorem SequenceAdmission.Carries.admits {admission : SequenceAdmission} {generation : UInt32}
    (carries : admission.Carries generation) : Admits (.shown generation.toNat) admission :=
  fun _ _ found => by rw [found] at carries; exact carries ▸ rfl

theorem sequence_of_moves {α : Type} {call : Program Words α} (moves : call.Each Move) :
    call.Each sequences.Still := moves.mono fun _ _ => Move.sequence

theorem drawSequenceGeneration_holding : drawSequenceGeneration.Holding sequences.Step
    (fun hand drawn => ∀ generation, drawn = some generation →
      hand = .drawn generation.toNat) .nothing := by
  intro words
  by_cases exhausted : words.nextSequenceGeneration = 0
  · refine ⟨.nothing, .still ?_, ?_⟩
    · simp only [if_pos exhausted]
      exact Numbering.Still.refl words
    · intro generation found
      simp [exhausted] at found
  · refine ⟨.drawn (drawnBelow words.nextSequenceGeneration), .draw ?_ ?_, ?_⟩
    · simp only [if_neg exhausted]
      exact drawnBelow_succ exhausted
    · simp only [if_neg exhausted]
      exact .inl rfl
    · intro generation found
      simp only [if_neg exhausted, Option.some.injEq] at found
      rw [drawnBelow_eq exhausted, found]

theorem takeSequence_holding (generation : UInt32) :
    (takeSequence generation).Holding sequences.Step
      (fun hand taken => taken = true → hand = .shown generation.toNat)
      (.drawn generation.toNat) := by
  intro words
  by_cases free : words.sequenceGeneration = 0
  · refine ⟨.shown generation.toNat, .show ?_ ?_, fun _ => rfl⟩
    · simp only [if_pos free]
      rfl
    · simp only [if_pos free]
      rfl
  · refine ⟨.drawn generation.toNat, .still ?_, fun taken => ?_⟩
    · simp only [if_neg free]
      exact Numbering.Still.refl words
    · simp [free] at taken

/-- Every sequence draws a generation, shows it once, and is admitted under it. -/
theorem beginSequence_holding : beginSequence.Holding sequences.Step Admits .nothing := by
  refine Numbering.holding_after (sequence_of_moves (.readModifyWrite fun _ => .beside rfl))
    fun acquired => ?_
  refine .bind (?_ : Program.Holding sequences.Step Admits .nothing _) fun admission hand admits =>
    Numbering.holding_after (sequence_of_moves (.onlyIf _ (.write fun _ => .beside rfl)))
      fun _ => admits
  have refused {admission : SequenceAdmission} (hand : Numbering.Hand)
      (refused : admission.Refused) :
      (pure admission : Program Words SequenceAdmission).Holding sequences.Step Admits hand :=
    refused.admits hand
  dsimp only
  split
  · exact refused _ trivial
  refine .bind drawSequenceGeneration_holding fun drawn hand shows => ?_
  cases drawn with
  | none => exact refused _ trivial
  | some generation =>
      obtain rfl := shows generation rfl
      refine .bind (takeSequence_holding generation) fun taken hand shown => ?_
      split
      · exact refused _ trivial
      · rename_i kept
        obtain rfl := shown (by simpa using kept)
        refine .bind (Numbering.holding_of_ends
          (sequence_of_moves (Move.loads (Move.admitSequence_loads generation)))
          (admitSequence_carries generation) _) ?_
        rintro admission hand ⟨rfl, carries⟩
        cases admission with
        | accepted state authority => exact carries.admits
        | busy | notReady | safetyPending =>
            exact Numbering.holding_after (sequence_of_moves (Move.dropSequence generation))
              fun _ => refused _ trivial

/-! ### Operations that leave both words alone -/

/-- An access that draws no number, and may end a term. -/
structure TermsKept (before after : Words) : Prop where
  sequence : sequences.Still before after
  activation : activations.Still before after

theorem TermsKept.refl (words : Words) : TermsKept words words := ⟨.refl words, .refl words⟩

theorem terms_beside {before after : Words}
    (sequence : after.nextSequenceGeneration = before.nextSequenceGeneration ∧
      after.sequenceGeneration = before.sequenceGeneration)
    (activation : after.nextProfileActivationEpoch = before.nextProfileActivationEpoch ∧
      after.bleRoute.profileActivationEpoch = before.bleRoute.profileActivationEpoch) :
    TermsKept before after :=
  ⟨sequence_still sequence.1 (.inl sequence.2), activation_still activation.1 (.inl activation.2)⟩

section Kept

variable {task : Route.Task} {interface : Interface}

theorem Move.terms {before after : Words} (move : Move before after) : TermsKept before after :=
  ⟨move.sequence, move.activation⟩

theorem submit_terms (origin : Origin) (token : HidWorkToken) (report : List UInt8) :
    (submit origin interface token report).Each TermsKept :=
  .readModifyWrite fun _ => terms_beside ⟨rfl, rfl⟩ ⟨rfl, rfl⟩

theorem settleClaim_terms (same : ReportTicket → Bool) (state : TicketState)
    (outcome : TicketOutcome) : (settleClaim interface same state outcome).Each TermsKept := by
  refine .readModifyWrite fun words => ?_
  dsimp only
  split
  · exact .refl words
  · exact terms_beside ⟨rfl, rfl⟩ ⟨rfl, rfl⟩

theorem claimForBle_terms (token : HidWorkToken) :
    (claimForBle task interface token).Each TermsKept := by
  refine .readModifyWrite fun words => ?_
  dsimp only
  split_ifs
  · exact .refl words
  · exact .refl words
  · split
    · exact terms_beside ⟨rfl, rfl⟩ ⟨rfl, rfl⟩
    · exact terms_beside ⟨rfl, rfl⟩ ⟨rfl, rfl⟩
    · exact .refl words

theorem claimForUsb_terms : (claimForUsb task interface).Each TermsKept := by
  refine .readModifyWrite fun words => ?_
  dsimp only
  split
  · exact terms_beside ⟨rfl, rfl⟩ ⟨rfl, rfl⟩
  · exact .refl words

theorem processBleReport_terms (token : HidWorkToken) :
    (processBleReport task interface token).Each TermsKept :=
  processBleReport_each (fun _ _ => Move.terms) task token (claimForBle_terms _)
    (fun _ => submit_terms _ _ _) settleClaim_terms

theorem execute_terms : (execute task).Each TermsKept :=
  execute_each (fun _ _ => Move.terms) task
    (fun _ _ _ => processTicket_each (fun _ _ => Move.terms) task _ _ claimForUsb_terms
      (fun _ _ => submit_terms _ _ _) settleClaim_terms)
    fun _ _ _ => processMailbox_each (fun _ _ => Move.terms) _ _ fun _ =>
      submitMailbox_each (fun _ _ => Move.terms) _ _ _ (fun _ _ => submit_terms _ _ _)
        fun _ _ _ _ => .write fun _ => terms_beside ⟨rfl, rfl⟩ ⟨rfl, rfl⟩

theorem commitBleRelease_sequence (expected : ReleaseAllSnapshot) :
    (commitBleRelease expected).Each sequences.Still := by
  refine .readModifyWrite fun words => ?_
  dsimp only
  split_ifs
  · exact .refl words
  · exact sequence_still rfl (.inl rfl)
  · exact sequence_still rfl (.inl rfl)

theorem drawProfileActivationEpoch_sequence :
    drawProfileActivationEpoch.Each sequences.Still := by
  refine .readModifyWrite fun words => ?_
  split
  · exact .refl words
  · exact sequence_still rfl (.inl rfl)

/-- No operation but `begin_sequence` draws or shows a generation. -/
theorem runtimeProgram_sequence {operation : RuntimeOperation}
    (other : operation.beginsSequence = false) :
    (runtimeProgram task operation).Each sequences.Still := by
  cases operation with
  | beginSequence => cases other
  | processBleReport interface token =>
      exact .bind ((processBleReport_terms token).mono fun _ _ => TermsKept.sequence)
        fun _ => trivial
  | execute => exact .bind (execute_terms.mono fun _ _ => TermsKept.sequence) fun _ => trivial
  | commitBleReleaseAll expected =>
      exact .bind (commitBleReleaseAll_each (fun _ _ => Move.sequence) commitBleRelease_sequence _)
        fun _ => trivial
  | requestRouteBle activation =>
      refine .bind (requestRouteBle_each (fun _ _ => Move.sequence)
        drawProfileActivationEpoch_sequence (fun _ _ _ => ?_) task activation) fun _ => trivial
      exact .bind (.write fun _ => sequence_still rfl (.inl rfl)) fun _ =>
        .bind (.write fun _ => sequence_still rfl (.inl rfl)) fun _ =>
          .write fun _ => sequence_still rfl (.inl rfl)
  | _ => exact sequence_of_moves (runtimeProgram_moves task rfl)

theorem runtimeProgram_sequences (task : Route.Task) (operation : RuntimeOperation) :
    (runtimeProgram task operation).Holding sequences.Step
      ((sequences.custody sequenceNumber).last task operation) .nothing := by
  by_cases begins : operation.beginsSequence = true
  · cases operation with
    | beginSequence =>
        refine .bind beginSequence_holding fun admission hand admits carried found => ?_
        cases admission with
        | accepted state authority =>
            obtain rfl : authority.generation.toNat = carried := Option.some.inj found
            exact admits state authority rfl
        | busy | notReady | safetyPending => cases found
    | _ => cases begins
  · refine Numbering.holding_of_still (runtimeProgram_sequence (Bool.not_eq_true _ ▸ begins))
      .nothing fun answer carried found => ?_
    simp [sequenceNumber, acceptedGeneration, begins] at found

/-! ### Activations -/

theorem activation_of_moves {α : Type} {call : Program Words α} (moves : call.Each Move) :
    call.Each activations.Still := moves.mono fun _ _ => Move.activation

/-- Whatever a call holds at its return. -/
abbrev Ends {α : Type} (_ : Numbering.Hand) (_ : α) : Prop := True

theorem drawProfileActivationEpoch_holding :
    drawProfileActivationEpoch.Holding activations.Step
      (fun hand drawn => ∀ epoch, drawn = some epoch → hand = .drawn epoch.toNat) .nothing := by
  intro words
  by_cases exhausted : words.nextProfileActivationEpoch = 0
  · refine ⟨.nothing, .still ?_, ?_⟩
    · simp only [if_pos exhausted]
      exact Numbering.Still.refl words
    · intro epoch found
      simp [exhausted] at found
  · refine ⟨.drawn (drawnBelow words.nextProfileActivationEpoch), .draw ?_ ?_, ?_⟩
    · simp only [if_neg exhausted]
      exact drawnBelow_succ exhausted
    · simp only [if_neg exhausted]
      exact .inl rfl
    · intro epoch found
      simp only [if_neg exhausted, Option.some.injEq] at found
      rw [drawnBelow_eq exhausted, found]

theorem publishBleRouteAuthority_holding (activation : BleRouteActivation)
    (authority : AuthorityEpoch) (generation : RouteGeneration) :
    (publishBleRouteAuthority activation authority generation).Holding activations.Step Ends
      (.drawn activation.profileActivationEpoch.toNat) := by
  refine Numbering.holding_after (.write fun _ => activation_still rfl (.inl rfl)) fun _ => ?_
  refine fun words => ⟨_, .show rfl rfl, ?_⟩
  refine Numbering.holding_of_still ?_ _ fun _ => ?_
  · exact .write fun _ => activation_still rfl (.inl rfl)
  · trivial

/-- Every BLE route draws an activation and shows it once. -/
theorem requestRouteBle_holding (task : Route.Task) (activation : BleRouteActivation) :
    (requestRouteBle task activation).Holding activations.Step Ends .nothing := by
  have moves {α β : Type} {call : Program Words α} {rest : α → Program Words β}
      {hand : Numbering.Hand} (moves : call.Each Move)
      (later : ∀ result, (rest result).Holding activations.Step Ends hand) :
      (call >>= rest).Holding activations.Step Ends hand :=
    Numbering.holding_after (activation_of_moves moves) later
  have ended {α : Type} (hand : Numbering.Hand) (result : α) :
      (pure result : Program Words α).Holding activations.Step Ends hand := trivial
  refine moves (Move.loads routeSnapshot_loads) fun _ => ?_
  refine moves (Move.loads (.anyOf ⟨.done _, compare_loads authorityEpoch_loads _,
    .done _⟩)) fun _ => ?_
  split
  · exact ended _ _
  split
  · exact ended _ _
  refine moves (Move.loads (.anyOf ⟨.read _, anySafetyRequired_loads⟩)) fun _ => ?_
  split
  · exact ended _ _
  refine .bind drawProfileActivationEpoch_holding fun drawn hand draws => ?_
  cases drawn with
  | none => exact ended _ _
  | some epoch =>
      obtain rfl := draws epoch rfl
      refine moves Move.retireUnsafeRouteAuthority fun _ => moves (Move.onRoute _) fun _ => ?_
      split
      · exact moves (Move.loads routeSnapshot_loads) fun _ => ended _ _
      refine moves (Move.loads routeSnapshot_loads) fun _ => ?_
      split
      · exact moves (Move.onRoute _) fun _ => moves (Move.loads routeSnapshot_loads)
          fun _ => ended _ _
      refine moves (Move.loads authorityEpoch_loads) fun _ => ?_
      exact .bind (publishBleRouteAuthority_holding { activation with
        profileActivationEpoch := epoch } _ _) fun _ _ _ => ended _ _

/-- The commit of a release draws an activation and shows it at once. -/
theorem commitBleRelease_holding (expected : ReleaseAllSnapshot) :
    (commitBleRelease expected).Holding activations.Step Ends .nothing := by
  intro words
  refine ⟨.nothing, ?_, trivial⟩
  dsimp only
  split_ifs with unmatched exhausted
  · exact .still (.refl words)
  · exact .still (activation_still rfl (.inl rfl))
  · exact .renew (drawnBelow_succ exhausted) (drawnBelow_eq exhausted).symm

theorem runtimeProgram_activations (task : Route.Task) (operation : RuntimeOperation) :
    (runtimeProgram task operation).Holding activations.Step
      ((activations.custody fun _ _ _ => none).last task operation) .nothing := by
  have plain {hand : Numbering.Hand} {answer : RuntimeAnswer} :
      (activations.custody fun _ _ _ => none).last task operation hand answer :=
    fun _ found => by cases found
  have still (each : (runtimeProgram task operation).Each activations.Still) :
      (runtimeProgram task operation).Holding activations.Step
        ((activations.custody fun _ _ _ => none).last task operation) .nothing :=
    Numbering.holding_of_still each .nothing fun _ => plain
  cases operation with
  | beginSequence =>
      refine still (.bind (beginSequence_each (fun _ _ => Move.activation)
        (.readModifyWrite fun words => ?_) fun _ => .readModifyWrite fun words => ?_)
        fun _ => trivial)
      · split
        · exact .refl words
        · exact activation_still rfl (.inl rfl)
      · split
        · exact activation_still rfl (.inl rfl)
        · exact .refl words
  | processBleReport interface token =>
      exact still (.bind ((processBleReport_terms token).mono fun _ _ => TermsKept.activation)
        fun _ => trivial)
  | execute =>
      exact still (.bind (execute_terms.mono fun _ _ => TermsKept.activation) fun _ => trivial)
  | commitBleReleaseAll expected =>
      refine .bind (?_ : Program.Holding activations.Step Ends .nothing _) fun _ _ _ => plain
      refine Numbering.holding_after (activation_of_moves (Move.read _)) fun _ => ?_
      split
      · exact commitBleRelease_holding expected
      · exact trivial
  | requestRouteBle activation =>
      exact .bind (requestRouteBle_holding task activation) fun _ _ _ => plain
  | _ => exact still (activation_of_moves (runtimeProgram_moves task rfl))

end Kept

/-! ### Runs -/

section Runs

variable {start : Words} {config left later : RuntimeConfig}

/-- **Admitted sequences have generations of their own.** -/
theorem sequence_generations_distinct (fresh : start.Fresh)
    (reached : RuntimeReaches (Config.initial start) config) :
    (config.history.filterMap fun entry => acceptedGeneration entry.2.1 entry.2.2).Nodup ∧
      0 ∉ config.history.filterMap fun entry => acceptedGeneration entry.2.1 entry.2.2 := by
  obtain ⟨hand, -, -, sound⟩ := Numbering.Accounted.run runtimeProgram_sequences
    (Custody.held_initial start) (Numbering.accounted_initial (drawnBelow_pos _)
      (congrArg UInt32.toNat fresh.sequence)) reached
  have numbers : (config.history.filterMap fun entry =>
      sequenceNumber entry.1 entry.2.1 entry.2.2) =
        (config.history.filterMap fun entry =>
          acceptedGeneration entry.2.1 entry.2.2).map UInt32.toNat := by
    rw [List.map_filterMap]
    rfl
  refine ⟨(numbers ▸ sound.distinct).of_map, fun member => ?_⟩
  obtain ⟨entry, among, zero⟩ := List.mem_filterMap.mp member
  exact (sound.past entry among 0 (congrArg (Option.map UInt32.toNat) zero)).1 rfl

def oneSequence : List (Label Route.Task RuntimeOperation) :=
  .call 0 .beginSequence :: .replicate 77 (.advance 0)

def oneRevocation : List (Label Route.Task RuntimeOperation) :=
  .call 0 .revokeSequence :: .replicate 4 (.advance 0)

theorem sequence_generations_distinct_two : ∃ config : RuntimeConfig,
    (config.history.filterMap fun entry => acceptedGeneration entry.2.1 entry.2.2) = [2, 1] ∧
      ([2, 1] : List UInt32).Nodup := by
  have replayed : (replay runtimeProgram (oneSequence ++ oneRevocation ++ oneSequence)
      (Config.initial mountedReady)).map (fun config =>
        config.history.filterMap fun entry => acceptedGeneration entry.2.1 entry.2.2) =
      some [2, 1] := by
    decide +kernel
  obtain ⟨config, replayed, found⟩ := Option.map_eq_some_iff.mp replayed
  exact ⟨config, found, found ▸ (sequence_generations_distinct mountedReady_fresh
    (.of_replay (fun _ _ _ => trivial) replayed)).1⟩

/-- **The generation of a sequence and the activation of the BLE route never come back.** -/
theorem terms_never_again (fresh : start.Fresh)
    (first : RuntimeReaches (Config.initial start) config)
    (second : RuntimeReaches config left) (third : RuntimeReaches left later) :
    (config.shared.sequenceGeneration ≠ 0 →
      left.shared.sequenceGeneration ≠ config.shared.sequenceGeneration →
        later.shared.sequenceGeneration ≠ config.shared.sequenceGeneration) ∧
      (config.shared.bleRoute.profileActivationEpoch ≠ 0 →
        left.shared.bleRoute.profileActivationEpoch ≠
            config.shared.bleRoute.profileActivationEpoch →
          later.shared.bleRoute.profileActivationEpoch ≠
            config.shared.bleRoute.profileActivationEpoch) := by
  have word {value other : UInt32} (different : value ≠ other) : value.toNat ≠ other.toNat :=
    fun same => different (UInt32.toNat_inj.mp same)
  refine ⟨fun current gone same => ?_, fun current gone same => ?_⟩
  · exact Numbering.never_again runtimeProgram_sequences (Custody.held_initial start)
      (Numbering.accounted_initial (drawnBelow_pos _) (congrArg UInt32.toNat fresh.sequence))
      first second third (word current) (word gone) (congrArg UInt32.toNat same)
  · exact Numbering.never_again runtimeProgram_activations (Custody.held_initial start)
      (Numbering.accounted_initial (drawnBelow_pos _) (congrArg UInt32.toNat fresh.activation))
      first second third (word current) (word gone) (congrArg UInt32.toNat same)

theorem terms_never_again_revoked : ∃ config left : RuntimeConfig,
    config.shared.sequenceGeneration = 1 ∧ left.shared.sequenceGeneration = 0 ∧
      ∀ later, RuntimeReaches left later → later.shared.sequenceGeneration ≠ 1 := by
  have replayed : ((replay runtimeProgram oneSequence (Config.initial mountedReady)).bind
      fun config => (replay runtimeProgram oneRevocation config).map fun left =>
        (config.shared.sequenceGeneration, left.shared.sequenceGeneration)) = some (1, 0) := by
    decide +kernel
  obtain ⟨config, first, rest⟩ := Option.bind_eq_some_iff.mp replayed
  obtain ⟨left, second, found⟩ := Option.map_eq_some_iff.mp rest
  simp only [Prod.mk.injEq] at found
  obtain ⟨one, gone⟩ := found
  refine ⟨config, left, one, gone, fun later third => ?_⟩
  exact one ▸ (terms_never_again mountedReady_fresh (.of_replay (fun _ _ _ => trivial) first)
    (.of_replay (fun _ _ _ => trivial) second) third).1 (by simp [one]) (by simp [one, gone])

end Runs

end HidBot.Runtime
