import HidBot.Interleaving.Published
import HidBot.Sequence.HostView

/-!
# Statuses of one sequence

A start withdraws the retained record, replaces its words one by one and then publishes its
generation. A reader looks at the generation, reads the words and looks again. What it
returns was the record of one generation, at one moment of the call.
-/

namespace HidBot.Sequence

open Interleaving

/-- The identity of a record: the halves of its owner, and its sequence id. -/
abbrev Identity := UInt32 × UInt32 × Int

/-- The generations of the controller, of which zero is none. -/
def generations : Publication Words Identity where
  next words := if words.nextGeneration = 0 then 2 ^ 32 else words.nextGeneration.toNat
  reserved words := words.reservedGeneration.toNat
  due words := words.runnableGeneration.toNat
  shown words := words.statusGeneration.toNat
  record words := (words.statusOwnerLow, words.statusOwnerHigh, words.sequenceId)

/-- The status that a reader makes of a word. -/
def statusOf (sequenceId : Int) (observed : UInt32) : Status :=
  let state := decodeState observed
  let terminal : Bool := state = some .failed ∨ state = some .aborted
  { sequenceId, state
    started := state ≠ some .accepted
    executed := decodeExecuted observed
    failedToken := if terminal && decodeFailedTokenPresent observed then
      some (decodeFailedToken observed) else none
    code := if terminal then decodeTerminalCode observed else some .none }

/-- The published record of this generation belongs to the owner and has the id. -/
structure Words.Publishes (words : Words) (generation : UInt32) (owner : UInt64)
    (sequenceId : Int) : Prop where
  current : words.statusGeneration = generation
  nonzero : generation ≠ 0
  low : words.statusOwnerLow = ownerLow owner
  high : words.statusOwnerHigh = ownerHigh owner
  id : words.sequenceId = sequenceId

/-! ### Accesses beside the record -/

abbrev Apart := generations.Apart

section Apart

theorem read_apart {α : Type} (view : Words → α) : (Scripted.read view : Call α).Each Apart :=
  .ofProgram (.read .refl view)

theorem write_apart {update : Words → Words} (apart : ∀ words, Apart words (update words)) :
    (Scripted.write update : Call Unit).Each Apart :=
  .ofProgram (.write apart)

theorem apart_of_aside {α : Type} {call : Call α} (each : call.Each Aside) : call.Each Apart := by
  refine fun script => (each script).mono fun before after aside => ?_
  cases aside <;> exact ⟨rfl, rfl, rfl, .inl rfl, rfl⟩

theorem cancel_apart :
    (Scripted.write fun words => { words with cancelRequested := true } : Call Unit).Each Apart :=
  write_apart fun _ => ⟨rfl, rfl, rfl, .inl rfl, rfl⟩

theorem storeStatus_apart (words : Words) (record : Record) :
    Apart words (words.storeStatus record) :=
  ⟨rfl, rfl, rfl, .inl rfl, rfl⟩

theorem exchangeStatus_apart (expected : UInt32) (record : Record) :
    (exchangeStatus expected record).Each Apart := by
  refine .ofProgram (.readModifyWrite fun words => ?_)
  split
  · exact storeStatus_apart words record
  · exact .refl words

theorem exchangeStatusWeak_apart (expected : UInt32) (record : Record) :
    (exchangeStatusWeak expected record).Each Apart :=
  .bind (.ask _) fun _ => .ite (.bind (read_apart _) fun _ => .pure _)
    (exchangeStatus_apart expected record)

theorem claimAbort_apart (releaseOwned : Bool) : (claimAbort releaseOwned).Each Apart := by
  refine .bind (read_apart _) fun current => .iterate (fun current => .ite ?_ (.pure _)) _
  exact .bind (exchangeStatusWeak_apart _ _) fun _ => .pure _

theorem claimTerminal_apart (generation : UInt32) (verdict : Verdict) :
    (claimTerminal generation verdict).Each Apart := by
  refine .bind (read_apart _) fun _ => .ite (.pure _) (.ite (.pure _) ?_)
  refine .bind (read_apart _) fun current => .iterate (fun current => ?_) _
  refine .ite (.pure _) (.ite (.pure _) ?_)
  exact .bind (exchangeStatusWeak_apart _ _) fun _ => .pure _

theorem publishRunningProgress_apart (generation : UInt32) (executed : UInt8) :
    (publishRunningProgress generation executed).Each Apart := by
  refine .bind (read_apart _) fun _ => .ite (.pure _) ?_
  refine .bind (read_apart _) fun current => .iterate (fun current => ?_) _
  exact .ite (.bind (exchangeStatusWeak_apart _ _) fun _ => .pure _) (.pure _)

theorem abortGeneration_apart (generation : UInt32) : (abortGeneration generation).Each Apart := by
  refine .ite (.pure _) (.bind (read_apart _) fun _ => .ite (.pure _) ?_)
  refine .bind (write_apart fun _ => ⟨rfl, rfl, rfl, .inl rfl, rfl⟩) fun _ => ?_
  refine .bind (read_apart _) fun _ => .ite (.pure _) ?_
  refine .bind (apart_of_aside (callBackend_aside _)) fun _ => .bind (read_apart _) fun _ => ?_
  exact .ite (.bind (claimAbort_apart _) fun _ => cancel_apart) cancel_apart

theorem abort_apart : abort.Each Apart :=
  .bind (read_apart _) fun _ => .ite cancel_apart (abortGeneration_apart _)

theorem abortForRelease_apart : abortForRelease.Each Apart := by
  refine .bind (read_apart _) fun _ => .ite (.bind cancel_apart fun _ => .pure _) ?_
  refine .bind (read_apart _) fun _ => .ite (.pure _) (.bind (claimAbort_apart _) fun claim => ?_)
  cases claim with
  | none =>
      refine .bind (write_apart fun _ => ⟨rfl, rfl, rfl, .inl rfl, rfl⟩) fun _ => ?_
      exact .bind (apart_of_aside (callBackend_aside _)) fun _ =>
        .bind cancel_apart fun _ => .pure _
  | some terminal => exact .pure _

/-- The owner's record is withdrawn, if it is still the published one. -/
theorem retireOwner_apart (owner : UInt64) : (retireOwner owner).Each Apart := by
  refine .ite (.pure _) (.iterate (fun _ => ?_) _)
  refine .bind (read_apart _) fun _ => .ite (.pure _) ?_
  refine .bind (read_apart _) fun _ => .ite (.pure _) ?_
  refine .bind (read_apart _) fun generation => .ite (.pure _) ?_
  refine .bind (.ofProgram (.readModifyWrite fun words => ?_)) fun retired => .ite ?_ (.pure _)
  · split
    · exact ⟨rfl, rfl, rfl, .inr rfl, rfl⟩
    · exact .refl words
  · exact .bind (abortGeneration_apart _) fun _ => .pure _

theorem runOperations_apart (generation : UInt32) (operations : List Operation) (index : Nat)
    (executed : UInt8) (progress : Progress) :
    (runOperations generation index executed progress operations).Each Apart := by
  induction operations generalizing index executed progress with
  | nil => exact .pure _
  | cons operation rest ih =>
      refine .bind (apart_of_aside (interruption_aside _ _ _)) fun stopped => ?_
      cases stopped with
      | some verdict => exact .pure _
      | none =>
      refine .bind (apart_of_aside (perform_aside _ _ _)) fun outcome => ?_
      refine .ite (apart_of_aside (incompletion_aside _ _ _ _)) ?_
      refine .bind (apart_of_aside (interruption_aside _ _ _)) fun stopped => ?_
      cases stopped with
      | some verdict => exact .pure _
      | none =>
      refine .ite (.bind (claimTerminal_apart _ _) fun _ => .pure _) ?_
      exact .bind (publishRunningProgress_apart _ _) fun _ => .ite (ih _ _ _) (.pure _)

theorem settle_apart (generation : UInt32) (verdict : Verdict) :
    (settle generation verdict).Each Apart := by
  refine .ite (.bind (read_apart _) fun _ => .ite ?_ (.pure _)) (.pure _)
  exact .bind (claimTerminal_apart _ _) fun _ => .pure _

end Apart

/-! ### What a call has in hand -/

abbrev Hand := Publication.Hand Words

/-- An access of a call, with what it has in hand. -/
abbrev Step := generations.Step

abbrev Anything {α : Type} (_ : Hand) (_ : α) : Prop := True

section Hands

theorem held_of_apart {α : Type} {call : Call α} {hand : Hand} (each : call.Each Apart) :
    call.Each fun before after => Step hand before after hand :=
  fun script => (each script).mono fun _ _ => .apart

/-- A call beside the record. -/
theorem holding_of_apart {α : Type} {call : Call α} {hand : Hand} (each : call.Each Apart) :
    call.Holding Step Anything hand := by
  intro script
  exact (Program.Holding.of_each (held_of_apart each script)).mono fun _ _ _ _ _ _ => trivial

/-- The generation after the last one is none. -/
theorem next_candidate {words : Words} {candidate : UInt32} (nonzero : candidate ≠ 0)
    (same : words.nextGeneration = candidate) :
    generations.next (if words.nextGeneration = candidate then
      { words with nextGeneration := if candidate = 0xffffffff then 0 else candidate + 1 }
      else words) = candidate.toNat + 1 := by
  simp only [generations, same, ↓reduceIte]
  by_cases last : candidate = 0xffffffff
  · subst last
    rfl
  · have below : candidate.toNat + 1 < 2 ^ 32 := by
      have apart : candidate.toNat ≠ (0xffffffff : UInt32).toNat := fun same =>
        last (UInt32.toNat_inj.mp same)
      have bound := candidate.toNat_lt
      simp at apart
      omega
    have sum : (candidate + 1).toNat = candidate.toNat + 1 := by
      rw [UInt32.toNat_add]
      exact Nat.mod_eq_of_lt below
    have kept : candidate + 1 ≠ 0 := by
      intro zero
      rw [zero] at sum
      exact absurd sum (by simp)
    rw [if_neg last, if_neg kept, sum]

theorem allocateGeneration_holding : allocateGeneration.Holding Step
    (fun hand allocated => (∀ generation, allocated = some generation →
      hand = .drawn generation.toNat) ∧ (allocated = none → hand = .nothing)) .nothing := by
  refine .after (held_of_apart (read_apart _)) fun candidate => .iterate (fun candidate => ?_) _
  refine .ite (fun _ => .pure ⟨nofun, fun _ => rfl⟩) fun nonzero => ?_
  refine .after (held_of_apart (.ask _)) fun fails => .ite (fun _ => ?_) fun _ => ?_
  · exact .after (held_of_apart (read_apart _)) fun _ => .pure rfl
  have draws : (Scripted.readModifyWrite fun words : Words => (words.nextGeneration,
      if words.nextGeneration = candidate then
        { words with nextGeneration := if candidate = 0xffffffff then 0 else candidate + 1 }
      else words) : Call UInt32).Holding Step
        (fun hand observed => observed = candidate ∧ hand = .drawn candidate.toNat ∨
          observed ≠ candidate ∧ hand = .nothing) .nothing := by
    refine .readModifyWrite fun words => ?_
    by_cases same : words.nextGeneration = candidate
    · refine ⟨.drawn candidate.toNat, ?_, .inl ⟨same, rfl⟩⟩
      have current : generations.next words = candidate.toNat := by
        simp [generations, same, nonzero]
      rw [← current]
      refine .draw ?_ (by simp [same, generations]) (by simp [same, generations])
        (by simp [same, generations]) (by simp [same, generations])
      rw [current]
      exact next_candidate nonzero same
    · refine ⟨.nothing, ?_, .inr ⟨same, rfl⟩⟩
      simp only [same, ↓reduceIte]
      exact .apart (.refl words)
  refine .bind draws fun observed hand drawn => .pure ?_
  rcases drawn with ⟨rfl, rfl⟩ | ⟨other, rfl⟩
  · rw [if_pos rfl]
    refine ⟨fun generation found => ?_, nofun⟩
    cases found
    rfl
  · rw [if_neg other]
    exact rfl

theorem clearReservation_holding (number : Nat) :
    clearReservation.Holding Step Anything (.reserved number) :=
  .write fun _ => ⟨.nothing, .abandon rfl rfl rfl rfl rfl, trivial⟩

/-- The record of a start is withdrawn first and published last. -/
theorem publishRecord_holding (generation : UInt32) (owner : UInt64) (sequenceId : Int) :
    (publishRecord generation owner sequenceId).Holding Step Anything
      (.reserved generation.toNat) := by
  have moves (held later : Hand) (update : Words → Words)
      (moved : ∀ words, Step held words (update words) later) :
      (Scripted.write update : Call Unit).Holding Step (fun hand _ => hand = later) held :=
    .write fun words => ⟨_, moved words, rfl⟩
  refine .bind (moves _ _ _ fun _ => .withdraw rfl rfl rfl rfl rfl) ?_
  rintro _ hand rfl
  refine .bind (moves _ _ _ fun _ => .replace rfl rfl rfl rfl) ?_
  rintro _ hand rfl
  refine .bind (moves _ _ _ fun _ => .apart (storeStatus_apart _ _)) ?_
  rintro _ hand rfl
  refine .bind (moves _ _ _ fun _ => .replace rfl rfl rfl rfl) ?_
  rintro _ hand rfl
  refine .bind (moves _ _ _ fun _ => .replace rfl rfl rfl rfl) ?_
  rintro _ hand rfl
  refine .bind (moves _ _ _ fun _ => .show rfl rfl rfl rfl rfl) ?_
  rintro _ hand rfl
  exact .write fun _ => ⟨_, .offer rfl rfl rfl rfl rfl, trivial⟩

theorem start_holding (owner : UInt64) (sequenceId : Int) (code : List Char) :
    (start owner sequenceId code).Holding Step Anything .nothing := by
  have aside {α β : Type} {hand : Hand} {call : Call β} {rest : β → Call α} (each : call.Each Apart)
      (later : ∀ result, (rest result).Holding Step Anything hand) :
      (call >>= rest).Holding Step Anything hand := .after (held_of_apart each) later
  have cleared (number : Nat) (admission : AdmissionResult) :
      (clearReservation >>= fun _ => pure admission : Call AdmissionResult).Holding Step Anything
        (.reserved number) :=
    .bind (clearReservation_holding number) fun _ _ _ => .pure trivial
  refine aside (read_apart _) fun initialized => .ite (fun _ => .pure trivial) fun _ => ?_
  refine .bind allocateGeneration_holding fun allocated hand hands => ?_
  cases allocated with
  | none => exact .pure trivial
  | some generation =>
  obtain rfl := hands.1 generation rfl
  have reserves : (Scripted.readModifyWrite fun words : Words =>
      if words.reservedGeneration = 0 then
        (true, { words with reservedGeneration := generation })
      else (false, words) : Call Bool).Holding Step
        (fun hand reserved => reserved = true → hand = .reserved generation.toNat)
          (.drawn generation.toNat) := by
    refine .readModifyWrite fun words => ?_
    by_cases free : words.reservedGeneration = 0
    · rw [if_pos free]
      refine ⟨_, .reserve ?_ rfl rfl rfl rfl rfl, fun _ => rfl⟩
      simp [generations, free]
    · rw [if_neg free]
      exact ⟨_, .apart (.refl words), fun reserved => absurd reserved Bool.false_ne_true⟩
  refine .bind reserves fun reserved hand held => .ite (fun _ => .pure trivial) fun won => ?_
  obtain rfl := held (by simpa using won)
  refine aside (.ask _) fun answer => ?_
  obtain ⟨admission, initial, authority⟩ := answer
  refine aside (apart_of_aside (callBackend_aside _)) fun _ => ?_
  refine .ite (fun _ => cleared _ _) fun _ => ?_
  split
  · exact aside (apart_of_aside (callBackend_aside _)) fun _ => cleared _ _
  refine .ite (fun _ => aside (apart_of_aside (callBackend_aside _)) fun _ => cleared _ _)
    fun _ => aside (.ask _) fun admissionUs => ?_
  refine aside (write_apart fun _ => ⟨rfl, rfl, rfl, .inl rfl, rfl⟩) fun _ => ?_
  refine aside (read_apart _) fun canceled => ?_
  refine aside (write_apart fun _ => ⟨rfl, rfl, rfl, .inl rfl, rfl⟩) fun _ => ?_
  exact .bind (publishRecord_holding generation owner sequenceId) fun _ _ _ => .pure trivial

/-- The end of a run gives its own reservation up. -/
theorem endRun_holding (generation : UInt32) :
    (endRun generation).Holding Step Anything (.taken generation.toNat) := by
  refine .after (held_of_apart (read_apart _)) fun authority => ?_
  refine .after (held_of_apart (apart_of_aside (callBackend_aside _))) fun _ => ?_
  refine .write fun words => ⟨.nothing, .finish rfl ?_ rfl rfl rfl, trivial⟩
  by_cases own : words.reservedGeneration = generation
  · simp [generations, own]
  · simp [generations, own, UInt32.toNat_inj]

theorem run_holding (generation : UInt32) :
    (run generation).Holding Step Anything (.taken generation.toNat) := by
  have aside {β : Type} {call : Call β} {rest : β → Call Unit} (each : call.Each Apart)
      (later : ∀ result, (rest result).Holding Step Anything (.taken generation.toNat)) :
      (call >>= rest).Holding Step Anything (.taken generation.toNat) :=
    .after (held_of_apart each) later
  have ended := endRun_holding generation
  have released := aside (apart_of_aside (callBackend_aside .requestSafetyRelease)) fun _ => ended
  refine aside (read_apart _) fun published => .ite (fun _ => ended) fun _ => ?_
  refine aside (exchangeStatus_apart _ _) fun outcome => .ite (fun _ => ?_) fun _ => ?_
  · exact aside (read_apart _) fun _ => .ite (fun _ => released) fun _ => ended
  refine aside (read_apart _) fun plan => ?_
  refine aside (runOperations_apart _ _ _ _ _) fun verdict => ?_
  refine aside (settle_apart _ _) fun _ => aside (read_apart _) fun published => ?_
  exact .ite (fun _ => released) fun _ => ended

theorem taskTurn_holding : taskTurn.Holding Step Anything .nothing := by
  have takes : (Scripted.readModifyWrite fun words : Words =>
      (words.runnableGeneration, { words with runnableGeneration := 0 }) : Call UInt32).Holding
        Step (fun hand generation => generation ≠ 0 → hand = .taken generation.toNat)
          .nothing := by
    refine .readModifyWrite fun words => ?_
    by_cases none : words.runnableGeneration = 0
    · refine ⟨.nothing, .apart ⟨rfl, rfl, ?_, .inl rfl, rfl⟩, fun some => absurd none some⟩
      simp [generations, none]
    · refine ⟨_, .take ?_ rfl rfl rfl rfl rfl, fun _ => rfl⟩
      exact fun zero => none (UInt32.toNat_inj.mp zero)
  refine .bind takes fun generation hand held => .ite (fun due => ?_) fun _ => .pure trivial
  obtain rfl := held due
  exact run_holding generation

/-! ### The reader -/

/-- The states that a status was read in. -/
structure Sampled (owner : UInt64) (sequenceId : Int) (found : Status) (hand : Hand) :
    Prop where
  reading : ∃ generation first low high id word last, hand = .reading generation
      [last, word, id, high, low, first] ∧
    generations.shown last = generation ∧ low.statusOwnerLow = ownerLow owner ∧
      high.statusOwnerHigh = ownerHigh owner ∧ id.sequenceId = sequenceId ∧
        found = statusOf sequenceId word.statusWord

/-- One more look under a generation. -/
theorem look_holding {α : Type} (view : Words → α) (generation : Nat) (seen : List Words) :
    (Scripted.read view : Call α).Holding Step
      (fun hand observed => ∃ state, hand = .reading generation (state :: seen) ∧
        view state = observed) (.reading generation seen) :=
  .read fun state => ⟨_, .look, state, rfl, rfl⟩

theorem status_holding (owner : UInt64) (sequenceId : Int) :
    (status owner sequenceId).Holding Step
      (fun hand found => ∀ status, found = some status → Sampled owner sequenceId status hand)
        .nothing := by
  have first : (Scripted.read fun words : Words => words.statusGeneration : Call UInt32).Holding
      Step (fun hand generation => generation ≠ 0 → ∃ first, hand = .reading generation.toNat
        [first]) .nothing := by
    refine .read fun words => ?_
    by_cases none : words.statusGeneration = 0
    · exact ⟨.nothing, .apart (.refl words), fun some => absurd none some⟩
    · refine ⟨_, .first (?_ : generations.shown words ≠ 0), fun _ => ⟨words, rfl⟩⟩
      exact fun zero => none (UInt32.toNat_inj.mp zero)
  refine .bind first fun generation hand held => ?_
  by_cases none : generation = 0
  · refine .after (held_of_apart (read_apart _)) fun _ => ?_
    refine .after (held_of_apart (read_apart _)) fun _ => ?_
    exact .ite (fun _ => .pure nofun) fun some => absurd (.inl none) some
  obtain ⟨first, rfl⟩ := held none
  refine .bind (look_holding _ _ _) ?_
  rintro _ _ ⟨low, rfl, rfl⟩
  refine .bind (look_holding _ _ _) ?_
  rintro _ _ ⟨high, rfl, rfl⟩
  refine .ite (fun _ => .pure nofun) fun owned => .bind (look_holding _ _ _) ?_
  rintro _ _ ⟨id, rfl, rfl⟩
  refine .ite (fun _ => .pure nofun) fun named => .bind (look_holding _ _ _) ?_
  rintro _ _ ⟨word, rfl, rfl⟩
  refine .bind (look_holding _ _ _) ?_
  rintro _ _ ⟨last, rfl, rfl⟩
  refine .pure fun status found => ?_
  simp only [not_or, not_not] at owned named
  split at found
  · rename_i again
    cases found
    exact ⟨_, first, low, high, id, word, last, rfl, congrArg UInt32.toNat again, owned.2.2.1,
      owned.2.2.2, named, rfl⟩
  · cases found

end Hands

/-! ### Runs -/

/-- The sequence task takes its turns, and the others make any calls. -/
def anyRequests (_ : Runs) : Label Task Invocation → Prop
  | .call .sequence invocation => invocation.1 = .taskTurn
  | .call (.caller _) invocation =>
      invocation.1 ≠ .taskTurn ∧ ∀ generation, invocation.1 ≠ .run generation
  | .advance _ => True

/-- A call that returns a status has read it. -/
def ReadStatus (_ : Task) (invocation : Invocation) (hand : Hand) (reply : Option Reply) : Prop :=
  ∀ found, reply = some (.status (some found)) → ∃ owner sequenceId,
    invocation.1 = .status owner sequenceId ∧ Sampled owner sequenceId found hand

section Runs

variable {config : Runs} {task : Task} {invocation : Invocation}

theorem program_holding (config : Runs) (task : Task) (invocation : Invocation)
    (allowed : anyRequests config (.call task invocation)) :
    (program task invocation).Holding Step (ReadStatus task invocation) .nothing := by
  obtain ⟨request, script⟩ := invocation
  have silent {α : Type} (call : Call α) (reply : α → Reply)
      (other : ∀ result found, reply result ≠ .status found)
      (holding : call.Holding Step Anything .nothing) :
      (call >>= fun result => pure (reply result) : Call Reply).Holding Step (fun hand reply =>
        ReadStatus task (request, script) hand (some reply)) .nothing :=
    .bind holding fun result hand _ => .pure fun found same =>
      absurd (Option.some.inj same) (other result _)
  have whole : request.call.Holding Step (fun hand reply =>
      ReadStatus task (request, script) hand (some reply)) .nothing := by
    cases request with
    | start owner sequenceId code =>
        exact silent _ _ (fun _ _ => nofun) (start_holding owner sequenceId code)
    | status owner sequenceId =>
        refine .bind (status_holding owner sequenceId) fun result hand read => .pure ?_
        rintro found ⟨⟩
        exact ⟨owner, sequenceId, rfl, read found rfl⟩
    | abort => exact silent _ _ (fun _ _ => nofun) (holding_of_apart abort_apart)
    | abortForRelease =>
        exact silent _ _ (fun _ _ => nofun) (holding_of_apart abortForRelease_apart)
    | retireOwner owner =>
        exact silent _ _ (fun _ _ => nofun) (holding_of_apart (retireOwner_apart owner))
    | run generation =>
        cases task with
        | sequence => cases allowed
        | caller id => exact absurd rfl (allowed.2 generation)
    | taskTurn => exact silent _ _ (fun _ _ => nofun) taskTurn_holding
  exact whole.withScript (fun _ _ same => by cases same) script

/-- The controller before its first sequence. -/
theorem generations_sound :
    generations.Sound (Config.initial {} : Runs).shared fun _ : Task => .nothing :=
  Publication.sound_initial (by decide) rfl rfl

theorem publishes_of_record {words : Words} {generation : UInt32} {owner : UInt64}
    {sequenceId : Int} (nonzero : generation ≠ 0)
    (shown : generations.shown words = generation.toNat)
    (same : generations.record words = (ownerLow owner, ownerHigh owner, sequenceId)) :
    words.Publishes generation owner sequenceId := by
  obtain ⟨low, high, id⟩ := by simpa only [generations, Prod.mk.injEq] using same
  exact ⟨UInt32.toNat_inj.mp shown, nonzero, low, high, id⟩

theorem Words.Publishes.same_record {words other : Words} {generation : UInt32} {owner : UInt64}
    {sequenceId : Int} (publishes : words.Publishes generation owner sequenceId)
    (shown : generations.shown other = generation.toNat)
    (same : generations.record other = generations.record words) :
    other.Publishes generation owner sequenceId := by
  refine publishes_of_record publishes.nonzero shown (same.trans ?_)
  simp only [generations, publishes.low, publishes.high, publishes.id]

/-- **A status read never mixes two sequences.** What a call returns was the record of one
generation at one moment of the call, and that generation never names another sequence. -/
theorem status_of_one_sequence {found : Status}
    (reached : Reaches program anyRequests (Config.initial {}) config)
    (returning : config.returning task = some (invocation, some (.status (some found)))) :
    ∃ owner sequenceId generation moment, invocation.1 = .status owner sequenceId ∧
      Reaches program anyRequests (Config.initial {}) moment ∧
      During program anyRequests task invocation moment config ∧
      moment.shared.Publishes generation owner sequenceId ∧
      found = statusOf sequenceId moment.shared.statusWord ∧
      ∀ other, Reaches program anyRequests (Config.initial {}) other →
        Reaches program anyRequests other moment ∨ Reaches program anyRequests moment other →
          other.shared.statusGeneration = generation →
            other.shared.Publishes generation owner sequenceId := by
  have nobody : Publication.Witnessed program anyRequests (Config.initial {}) (Config.initial {})
      fun _ : Task => .nothing := nofun
  have run {final : Runs} (reached : Reaches program anyRequests (Config.initial {}) final) :=
    generations_sound.run program_holding (Custody.held_initial _) nobody reached
  have returns := Config.running_of_returning returning
  obtain ⟨hand, held, sound, witnessed⟩ := run reached
  obtain ⟨owner, sequenceId, asked, sampled⟩ := held.running _ _ _ returns found rfl
  obtain ⟨number, first, low, high, id, word, last, reading, again, isLow, isHigh, isId, same⟩ :=
    sampled.reading
  have each := sound.read_at_once reading again
  obtain ⟨shown, atWord⟩ := each word (by simp)
  have atLow := (each low (by simp)).2.trans atWord.symm
  have atHigh := (each high (by simp)).2.trans atWord.symm
  have atId := (each id (by simp)).2.trans atWord.symm
  simp only [generations, Prod.mk.injEq] at atLow atHigh atId
  have nonzero : word.statusGeneration ≠ 0 := by
    intro zero
    refine (sound.reading task number _ reading).1 (shown.symm.trans ?_)
    exact congrArg UInt32.toNat zero
  have publishes : word.Publishes word.statusGeneration owner sequenceId :=
    ⟨rfl, nonzero, atLow.1.symm.trans isLow, atHigh.2.1.symm.trans isHigh,
      atId.2.2.symm.trans isId⟩
  obtain ⟨operation, call, calling, moments⟩ := witnessed task number _ reading
  obtain ⟨moment, before, rfl, during⟩ := moments word (by simp)
  obtain ⟨rfl, rfl⟩ := by simpa using returns.symm.trans calling
  refine ⟨owner, sequenceId, _, moment, asked, before, during, publishes, same,
    fun other early order generation => ?_⟩
  have current := congrArg UInt32.toNat generation
  have some : generations.shown moment.shared ≠ 0 := fun zero => nonzero (UInt32.toNat_inj.mp zero)
  rcases order with earlier | later
  · obtain ⟨hand, held, sound, -⟩ := run early
    have agrees := sound.record_of_number program_holding held earlier
      (show generations.shown other.shared ≠ 0 from fun zero => some (current.symm.trans zero))
    exact publishes.same_record current (agrees current.symm).2
  · obtain ⟨hand, held, sound, -⟩ := run before
    have agrees := sound.record_of_number program_holding held later some
    exact publishes.same_record current (agrees current).2.symm

end Runs

/-! ### A status beside the end of its sequence -/

/-- A sequence is started and aborted, its status is read, and before the reader looks at the
generation again a turn of the sequence task has ended the sequence. -/
def readBesideEnd : List (Label Task Invocation) :=
  .call (.caller 0) (.start 7 5 "kp4".toList,
    [.exchangeFails false, .admission .accepted {} { activeRoles := 255 }, .time 0]) ::
    .replicate 16 (.advance (.caller 0)) ++
  .call (.caller 0) (.abort, [.exchangeFails false]) :: .replicate 10 (.advance (.caller 0)) ++
  .call (.caller 1) (.status 7 5, []) :: .replicate 5 (.advance (.caller 1)) ++
  .call .sequence (.taskTurn, []) :: .replicate 9 (.advance .sequence) ++
  [.advance (.caller 1)]

/-- The status that is read. -/
def abortedStatus : Status where
  sequenceId := 5
  state := some .aborted
  started := true
  executed := 0
  failedToken := some 0
  code := some .sequenceAborted

theorem readBesideEnd_admitted :
    ∀ label ∈ readBesideEnd, ∀ config, anyRequests config label := by
  have advances (count : Nat) (task : Task) :
      ∀ label ∈ List.replicate count (Label.advance task), ∀ config, anyRequests config label :=
    fun _ member _ => List.eq_of_mem_replicate member ▸ trivial
  have last : ∀ label ∈ [Label.advance (Task.caller 1)], ∀ config, anyRequests config label :=
    advances 1 _
  refine List.forall_mem_append.mpr ⟨?_, last⟩
  refine List.forall_mem_append.mpr ⟨?_, List.forall_mem_cons.mpr ⟨fun _ => rfl, advances 9 _⟩⟩
  refine List.forall_mem_append.mpr ⟨?_, List.forall_mem_cons.mpr ⟨?_, advances 5 _⟩⟩
  · refine List.forall_mem_append.mpr ⟨List.forall_mem_cons.mpr ⟨?_, advances 16 _⟩,
      List.forall_mem_cons.mpr ⟨?_, advances 10 _⟩⟩
    · exact fun _ => ⟨nofun, nofun⟩
    · exact fun _ => ⟨nofun, nofun⟩
  · exact fun _ => ⟨nofun, nofun⟩

theorem replay_readBesideEnd :
    (replay program readBesideEnd (Config.initial {})).bind (·.returning (.caller 1)) =
      some ((.status 7 5, []), some (.status (some abortedStatus))) := by
  decide +kernel

/-- The status of the sequence that has ended was one of its own. -/
theorem status_of_one_sequence_aborted : ∃ words : Words, ∃ generation : UInt32,
    words.Publishes generation 7 5 ∧ abortedStatus = statusOf 5 words.statusWord := by
  obtain ⟨config, replayed, returning⟩ := Option.bind_eq_some_iff.mp replay_readBesideEnd
  have reached : Reaches program anyRequests (Config.initial {}) config :=
    .of_replay readBesideEnd_admitted replayed
  obtain ⟨owner, sequenceId, generation, moment, asked, -, -, publishes, same, -⟩ :=
    status_of_one_sequence reached returning
  cases asked
  exact ⟨moment.shared, generation, publishes, same⟩

end HidBot.Sequence
