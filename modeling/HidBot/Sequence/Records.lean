import HidBot.Sequence.Controller

/-!
# Status records

Every word that a call stores is encoded from a record whose state, count, failed
token and code belong together. The rules say what a run needs of the others; the
traversal of a run is made once, for all rules.
-/

namespace HidBot.Sequence

open Interleaving

/-! ### Records -/

/-- The parts of a record belong together. A failed record may carry a lost
authority only if that was `disputed`. -/
structure Record.Proper (record : Record) (disputed : Prop) : Prop where
  executed : record.executed ≤ 64
  failedToken : record.failedToken < 64
  accepted : record.state = .accepted → record.executed = 0
  running : record.state = .running → record.executed < 64
  completed : record.state = .completed → record.executed ≠ 0
  stopped : record.state = .failed ∨ record.state = .aborted →
    record.failedTokenPresent = true ∧ record.failedToken = record.executed
  failed : record.state = .failed →
    record.code ∈ [.hidBusy, .hidNotReady, .hidSafetyPending, .sequenceTimeout] ∨
      record.code = .sessionMismatch ∧ disputed
  aborted : record.state = .aborted → record.code ∈ [.sessionMismatch, .sequenceAborted]
  owned : record.releaseOwned = true → record.state = .aborted

theorem Record.Proper.fits {record : Record} {disputed : Prop} (proper : record.Proper disputed) :
    record.Fits :=
  ⟨Nat.lt_of_le_of_lt (UInt8.le_iff_toNat_le.mp proper.executed) (by decide), proper.failedToken⟩

theorem Record.Proper.decodes {record : Record} {disputed : Prop}
    (proper : record.Proper disputed) : record.Decodes record.encode := proper.fits.decodes

theorem Record.Proper.mono {record : Record} {disputed later : Prop}
    (proper : record.Proper disputed) (weaken : disputed → later) : record.Proper later :=
  { proper with failed := fun failed => (proper.failed failed).imp_right (.imp_right weaken) }

theorem acceptedRecord_proper (disputed : Prop) : acceptedRecord.Proper disputed := by
  constructor <;> simp [acceptedRecord]

theorem runningRecord_proper {executed : UInt8} (disputed : Prop) (room : executed < 64) :
    (runningRecord executed).Proper disputed := by
  constructor <;> simp [runningRecord, room, UInt8.le_of_lt]

theorem abortedRecord_proper {executed : UInt8} (releaseOwned : Bool) (disputed : Prop)
    (room : executed < 64) : (abortedRecord executed releaseOwned).Proper disputed := by
  constructor <;> simp [abortedRecord, room, UInt8.le_of_lt]

/-! ### Words -/

/-- The status word stands for the record that was stored last. -/
structure Words.Coherent (words : Words) : Prop where
  encoded : words.statusWord = words.trace.stored.encode
  proper : words.trace.stored.Proper (words.trace.disputed = true)

section Coherent

variable {words : Words}

theorem Words.Coherent.decodes (coherent : words.Coherent) :
    words.trace.stored.Decodes words.statusWord :=
  coherent.encoded ▸ coherent.proper.decodes

theorem Words.Coherent.state (coherent : words.Coherent) :
    decodeState words.statusWord = some words.trace.stored.state := coherent.decodes.state

theorem Words.Coherent.isTerminal_iff (coherent : words.Coherent) :
    isTerminal words.statusWord = words.trace.stored.state.terminal := by
  simp [isTerminal, coherent.state]

theorem Words.Coherent.store {record : Record}
    (proper : record.Proper (words.trace.disputed = true)) : (words.storeStatus record).Coherent :=
  ⟨rfl, proper⟩

/-- The record of an abort of an open word is proper. -/
theorem Words.Coherent.aborted (coherent : words.Coherent) (releaseOwned : Bool)
    (stillOpen : isOpen words.statusWord = true) :
    (abortedRecord (decodeExecuted words.statusWord) releaseOwned).Proper
      (words.trace.disputed = true) := by
  rw [coherent.decodes.executed]
  apply abortedRecord_proper
  rcases decide_eq_true_iff.mp stillOpen with accepted | running
  · rw [coherent.state, Option.some.injEq] at accepted
    rw [coherent.proper.accepted accepted]
    decide
  · rw [coherent.state, Option.some.injEq] at running
    exact coherent.proper.running running

end Coherent

/-- An access of a run that leaves the status word alone. -/
inductive Aside (before : Words) : Words → Prop where
  | same : Aside before before
  | called (call : BackendCall) : Aside before (before.called call)
  | disputed (here : Bool) : Aside before { before with
      trace := { before.trace with disputed := before.trace.disputed || here } }

/-! ### Calls that leave the status word alone -/

section Aside

theorem now_aside : now.Each Aside := .ask _

theorem read_aside {α : Type} (view : Words → α) : (Scripted.read view : Call α).Each Aside :=
  .ofProgram (.read (fun _ => .same) view)

theorem callBackend_aside (call : BackendCall) : (callBackend call).Each Aside :=
  .ofProgram (.write fun _ => .called call)

theorem authorityCurrent_aside (contested : Bool) : (authorityCurrent contested).Each Aside :=
  .bind (.ask _) fun current =>
    .bind (.ofProgram (.write fun _ => .disputed (contested && current))) fun _ => .pure _

theorem waitLocal_aside (duration : Nat) : (waitLocal duration).Each Aside := by
  refine .bind now_aside fun _ => .bind (read_aside _) fun _ => .iterate (fun _ => ?_) _
  refine .bind now_aside fun _ => .bind (read_aside _) fun _ => .ite (.pure _) ?_
  refine .bind (authorityCurrent_aside _) fun _ => .ite (.pure _) ?_
  split <;> exact .pure _

theorem submitReport_aside (kind : OperationKind) (state : HidState) :
    (submitReport kind state).Each Aside :=
  .bind (read_aside _) fun _ => .bind (.ask _) fun _ =>
    .bind (callBackend_aside _) fun _ => .pure _

theorem executeReport_aside (kind : OperationKind) (state : HidState) (failure : TerminalCode) :
    (executeReport kind state failure).Each Aside := by
  refine .bind now_aside fun _ => .iterate (fun _ => ?_) _
  refine .bind (submitReport_aside kind state) fun _ => .ite (.pure _) ?_
  refine .bind (.ite (.pure _) (.bind now_aside fun _ => .pure _)) fun _ => .ite (.pure _) ?_
  exact .bind (waitLocal_aside 1) fun _ => .ite (.pure _) (.pure _)

theorem cancellationSeen_aside (generation : UInt32) :
    (cancellationSeen generation).Each Aside :=
  .bind (read_aside _) fun _ => .ite (.pure _) (.bind (read_aside _) fun _ => .pure _)

theorem interruption_aside (generation : UInt32) (index : Nat) (executed : UInt8) :
    (interruption generation index executed).Each Aside := by
  refine .bind (cancellationSeen_aside _) fun _ => .bind (authorityCurrent_aside _) fun _ =>
    .ite (.pure _) ?_
  exact .bind now_aside fun _ => .bind (read_aside _) fun _ => .ite (.pure _) (.pure _)

theorem perform_aside (operation : Operation) (isLast : Bool) (progress : Progress) :
    (perform operation isLast progress).Each Aside := by
  refine .ite (.pure _) (.ite (.bind (waitLocal_aside _) fun _ => .pure _) ?_)
  refine .bind (executeReport_aside _ _ _) fun outcome => ?_
  exact .bind (.ite (waitLocal_aside _) (.pure _)) fun _ => .pure _

end Aside

/-! ### What the parts of a run return -/

/-- The codes of a report that was not accepted. -/
def reportFailures : List TerminalCode :=
  [.none, .hidBusy, .hidNotReady, .hidSafetyPending, .sessionMismatch]

theorem ReportResult.failure_mem (result : ReportResult) : result.failure ∈ reportFailures := by
  cases result <;> decide

theorem executeReport_ends (kind : OperationKind) (state : HidState) :
    (executeReport kind state .none).Ends fun outcome => outcome.2 ∈ reportFailures := by
  refine .after fun _ => .iterate (fun _ => .after fun result => ?_) _
  refine .ite (fun _ => .pure ?_) fun _ => .after fun _ => .ite (fun _ => .pure ?_) fun _ =>
    .after fun _ => .ite (fun _ => .pure ?_) fun _ => .pure ?_
  · rintro _ ⟨⟩
    decide
  · rintro _ ⟨⟩
    exact result.failure_mem
  · rintro _ ⟨⟩
  · rintro _ ⟨⟩
    decide

theorem perform_ends (operation : Operation) (isLast : Bool) (progress : Progress) :
    (perform operation isLast progress).Ends fun outcome => outcome.2.1 ∈ reportFailures := by
  have none : TerminalCode.none ∈ reportFailures := by decide
  refine .ite (fun _ => .pure none) fun _ => .ite (fun _ => .after fun _ => .pure none) fun _ => ?_
  refine .bind (executeReport_ends _ _) fun outcome failure => ?_
  exact .after fun _ => .pure failure

theorem ofNat_lt_64 {index : Nat} (room : index < 64) : UInt8.ofNat index < 64 := by
  rw [UInt8.lt_iff_toNat_lt, UInt8.toNat_ofNat', Nat.mod_eq_of_lt (by omega)]
  exact room

/-- A verdict of a sequence that stopped at this index. -/
theorem interruption_ends (generation : UInt32) {index : Nat} (room : index < 64) :
    (interruption generation index (UInt8.ofNat index)).Ends fun outcome =>
      ∀ verdict, outcome = some verdict →
        verdict.record.Proper False ∧ verdict.executed = UInt8.ofNat index := by
  have small := ofNat_lt_64 room
  refine .after fun canceled => .after fun current => .ite (fun _ => .pure ?_) fun _ => ?_
  · rintro _ ⟨⟩
    refine ⟨?_, rfl⟩
    constructor <;> cases canceled <;> simp [Verdict.record, small, UInt8.le_of_lt]
  · refine .after fun _ => .after fun _ => .ite (fun _ => .pure ?_) fun _ => .pure (by simp)
    rintro _ ⟨⟩
    refine ⟨?_, rfl⟩
    constructor <;> simp [Verdict.record, small, UInt8.le_of_lt]

theorem ofNat_succ_toNat {index : Nat} (room : index < 64) :
    (UInt8.ofNat (index + 1)).toNat = index + 1 := by
  rw [UInt8.toNat_ofNat', Nat.mod_eq_of_lt (by omega)]

theorem ofNat_le_succ {index : Nat} (room : index < 64) :
    UInt8.ofNat index ≤ UInt8.ofNat (index + 1) := by
  rw [UInt8.le_iff_toNat_le, ofNat_succ_toNat room, UInt8.toNat_ofNat',
    Nat.mod_eq_of_lt (by omega)]
  omega

/-- The verdict of a sequence whose operations have all completed. -/
theorem completed_proper {index : Nat} (room : index < 64) :
    ({ executed := UInt8.ofNat (index + 1) } : Verdict).record.Proper False := by
  have reached := ofNat_succ_toNat room
  generalize UInt8.ofNat (index + 1) = executed at reached
  have nonzero : executed ≠ 0 := by
    rintro rfl
    simp at reached
  have small : executed ≤ 64 := by
    rw [UInt8.le_iff_toNat_le, reached]
    exact room
  constructor <;> simp [Verdict.record, nonzero, small]

/-! ### The rules of a run -/

/-- What a run needs: interference leaves alone what it has seen, and what it does
itself is allowed. `holds executed` is what the run knows when its executed count
has reached `executed`. -/
structure Rules (rely guar : Words → Words → Prop) (holds : UInt8 → Words → Prop) : Prop where
  refl : ∀ words, rely words words
  disputed : ∀ before after, rely before after → before.trace.disputed = true →
    after.trace.disputed = true
  stable : ∀ executed before after, holds executed before → rely before after →
    holds executed after
  aside : ∀ executed before after, holds executed before → Aside before after →
    guar before after ∧ holds executed after
  exchange : ∀ executed words record, holds executed words →
    decodeState words.statusWord = some .running → executed ≤ record.executed →
    record.state = .running ∨ record.state.terminal = true →
    record.Proper (words.trace.disputed = true) →
    guar words (words.storeStatus record) ∧ holds record.executed (words.storeStatus record)
  mono : ∀ executed later words, holds executed words → executed ≤ later → holds later words

theorem Aside.disputed_mono {before after : Words} (aside : Aside before after)
    (disputed : before.trace.disputed = true) : after.trace.disputed = true := by
  cases aside with
  | same => exact disputed
  | called call => exact disputed
  | disputed here => simp [disputed]

namespace Rules

variable {rely guar : Words → Words → Prop} {holds : UInt8 → Words → Prop}
  (rules : Rules rely guar holds)

/-- What a run knows, and that a dispute is on record if it needs one. -/
def Known (holds : UInt8 → Words → Prop) (executed : UInt8) (dispute : Prop) (words : Words) :
    Prop :=
  holds executed words ∧ (dispute → words.trace.disputed = true)

include rules

theorem known_stable (executed : UInt8) (dispute : Prop) (before after : Words)
    (known : Known holds executed dispute before) (interfered : rely before after) :
    Known holds executed dispute after :=
  ⟨rules.stable _ _ _ known.1 interfered,
    fun needed => rules.disputed _ _ interfered (known.2 needed)⟩

theorem known_aside (executed : UInt8) (dispute : Prop) (before after : Words)
    (known : Known holds executed dispute before) (aside : Aside before after) :
    guar before after ∧ Known holds executed dispute after :=
  ⟨(rules.aside _ _ _ known.1 aside).1, (rules.aside _ _ _ known.1 aside).2,
    fun needed => aside.disputed_mono (known.2 needed)⟩

/-- A part of a run that leaves the status word alone. -/
theorem asides {α : Type} {call : Call α} {ends : α → Prop} (each : call.Each Aside)
    (returns : call.Ends ends) {executed : UInt8} {dispute : Prop} {words : Words}
    (known : Known holds executed dispute words) :
    call.Safe rely guar (fun result later => ends result ∧ Known holds executed dispute later)
      words :=
  Scripted.Each.safe_ends (rules.known_stable executed dispute)
    (rules.known_aside executed dispute) each returns known

theorem done {α : Type} {post : α → Words → Prop} {result : α} {executed : UInt8} {dispute : Prop}
    {words : Words} (known : Known holds executed dispute words)
    (holds : ∀ later, Known holds executed dispute later → post result later) :
    (pure result : Call α).Safe rely guar post words :=
  .pure fun later interfered => holds later (rules.known_stable _ _ _ _ known interfered)

/-- An exchange of a running word, and what is known after it. -/
theorem exchange_safe {executed : UInt8} {dispute : Prop} {words : Words}
    (known : Known holds executed dispute words) {expected : UInt32} {record : Record}
    (running : decodeState expected = some .running) (reached : executed ≤ record.executed)
    (next : record.state = .running ∨ record.state.terminal = true)
    (proper : record.Proper dispute) :
    (exchangeStatusWeak expected record).Safe rely guar
      (fun outcome later => Known holds (if outcome.1 then record.executed else executed) dispute
        later) words := by
  refine .bind rules.refl ((rules.asides (.ask _) (Scripted.ends_any _) known).mono
    fun fails last kept => ?_)
  split
  · refine .bind rules.refl ((rules.asides (read_aside _) (Scripted.ends_any _) kept.2).mono
      fun observed last kept => ?_)
    exact rules.done kept.2 fun _ known => known
  · refine .readModifyWrite fun later interfered => ?_
    have here := rules.known_stable _ _ _ _ kept.2 interfered
    by_cases same : later.statusWord = expected
    · obtain ⟨allowed, after⟩ := rules.exchange executed later record here.1 (same ▸ running)
        reached next (proper.mono here.2)
      have known : Known holds record.executed dispute (later.storeStatus record) :=
        ⟨after, here.2⟩
      simp only [same, ↓reduceIte]
      exact ⟨allowed, fun last interfered => rules.known_stable _ _ _ _ known interfered⟩
    · simp only [same, ↓reduceIte]
      exact ⟨(rules.known_aside _ _ _ _ here .same).1,
        fun last interfered => rules.known_stable _ _ _ _ here interfered⟩

theorem publishRunningProgress_safe (generation : UInt32) {executed next : UInt8} {dispute : Prop}
    {words : Words} (known : Known holds executed dispute words) (reached : executed ≤ next)
    (room : next < 64) :
    (publishRunningProgress generation next).Safe rely guar
      (fun done later => Known holds (if done then next else executed) dispute later) words := by
  refine .bind rules.refl ((rules.asides (read_aside _) (Scripted.ends_any _) known).mono
    fun current last kept => ?_)
  split
  · exact rules.done kept.2 fun _ known => known
  refine .bind rules.refl ((rules.asides (read_aside _) (Scripted.ends_any _) kept.2).mono
    fun current last kept => ?_)
  refine .iterate rules.refl (fun _ => Known holds executed dispute)
    (fun done => rules.known_stable _ _) (fun current words known => ?_) kept.2
  split
  · rename_i running
    refine .bind rules.refl ((rules.exchange_safe known running reached (.inl rfl)
      (runningRecord_proper _ room)).mono fun outcome last kept => ?_)
    obtain ⟨exchanged, observed⟩ := outcome
    cases exchanged
    · exact rules.done kept fun _ known => known
    · exact rules.done kept fun _ known => known
  · exact rules.done known fun _ known => known

theorem claimTerminal_safe (generation : UInt32) {executed : UInt8} {dispute : Prop}
    {words : Words} (known : Known holds executed dispute words) {verdict : Verdict}
    (reached : executed ≤ verdict.executed) (proper : verdict.record.Proper dispute) :
    (claimTerminal generation verdict).Safe rely guar
      (fun done later => Known holds (if done then verdict.executed else executed) dispute later)
      words := by
  refine .bind rules.refl ((rules.asides (read_aside _) (Scripted.ends_any _) known).mono
    fun current last kept => ?_)
  split
  · exact rules.done kept.2 fun _ known => known
  split
  · exact rules.done kept.2 fun _ known => known
  rename_i terminal
  refine .bind rules.refl ((rules.asides (read_aside _) (Scripted.ends_any _) kept.2).mono
    fun current last kept => ?_)
  refine .iterate rules.refl (fun _ => Known holds executed dispute)
    (fun done => rules.known_stable _ _) (fun current words known => ?_) kept.2
  split
  · exact rules.done known fun _ known => known
  split
  · exact rules.done known fun _ known => known
  rename_i running
  refine .bind rules.refl ((rules.exchange_safe known (not_not.mp running) reached
    (.inr (Bool.not_eq_false _ ▸ terminal)) proper).mono fun outcome last kept => ?_)
  obtain ⟨exchanged, observed⟩ := outcome
  cases exchanged
  · exact rules.done kept fun _ known => known
  · exact rules.done kept fun _ known => known

/-- What a verdict says, and what is known when it is reached. -/
def Reached (holds : UInt8 → Words → Prop) (verdict : Verdict) (words : Words) : Prop :=
  holds verdict.executed words ∧ verdict.record.Proper (words.trace.disputed = true)

/-- A current authority is on record as disputed if it was contested. -/
theorem authorityCurrent_safe (contested : Bool) {executed : UInt8} {words : Words}
    (known : holds executed words) :
    (authorityCurrent contested).Safe rely guar
      (fun current later => Known holds executed (contested = true ∧ current = true) later)
      words := by
  have nothing : Known holds executed False words := ⟨known, False.elim⟩
  refine .bind rules.refl ((rules.asides (.ask _) (Scripted.ends_any _) nothing).mono
    fun current last kept => ?_)
  refine .bind rules.refl (.write fun later interfered => ?_)
  have here := rules.stable _ _ _ kept.2.1 interfered
  obtain ⟨allowed, after⟩ := rules.aside executed later _ here (.disputed (contested && current))
  refine ⟨allowed, fun last interfered => ?_⟩
  have known : Known holds executed (contested = true ∧ current = true) last :=
    ⟨rules.stable _ _ _ after interfered,
      fun both => rules.disputed _ _ interfered (by simp [both])⟩
  exact rules.done known fun _ known => known

/-- The failure of an operation is a lost authority only if that was disputed. -/
theorem incompletion_safe (generation : UInt32) {index : Nat} (room : index < 64)
    {finalCode : TerminalCode} (failure : finalCode ∈ reportFailures) {words : Words}
    (known : holds (UInt8.ofNat index) words) :
    (incompletion generation index (UInt8.ofNat index) finalCode).Safe rely guar
      (Reached holds) words := by
  have small := ofNat_lt_64 room
  have nothing : Known holds (UInt8.ofNat index) False words := ⟨known, False.elim⟩
  refine .bind rules.refl ((rules.asides (cancellationSeen_aside _) (Scripted.ends_any _)
    nothing).mono fun canceled last kept => ?_)
  refine .bind rules.refl ((rules.authorityCurrent_safe _ kept.2.1).mono
    fun current last kept => ?_)
  refine rules.done kept fun later known => ⟨known.1, ?_⟩
  refine Record.Proper.mono ?_ known.2
  constructor <;> cases canceled <;> cases current <;>
    simp [Verdict.record, small, UInt8.le_of_lt]
  simp only [reportFailures, List.mem_cons, List.not_mem_nil, or_false] at failure
  rcases failure with rfl | rfl | rfl | rfl | rfl <;> decide

/-- The loop over the operations reaches a verdict. -/
theorem runOperations_safe (generation : UInt32) (operations : List Operation)
    {index : Nat} (room : index + operations.length ≤ 64) (more : operations ≠ [])
    (progress : Progress) {words : Words} (known : holds (UInt8.ofNat index) words) :
    (runOperations generation index (UInt8.ofNat index) progress operations).Safe rely guar
      (Reached holds) words := by
  induction operations generalizing index progress words with
  | nil => exact absurd rfl more
  | cons operation rest ih =>
      have here : index < 64 := by simp only [List.length_cons] at room; omega
      -- The verdict of a check before or after the operation.
      have stopped : ∀ {words : Words} (verdict : Verdict),
          verdict.record.Proper False ∧ verdict.executed = UInt8.ofNat index →
          Known holds (UInt8.ofNat index) False words →
          (pure verdict : Call Verdict).Safe rely guar (Reached holds) words := by
        intro words verdict proper known
        exact rules.done known fun later known =>
          ⟨proper.2 ▸ known.1, proper.1.mono False.elim⟩
      have nothing : Known holds (UInt8.ofNat index) False words := ⟨known, False.elim⟩
      refine .bind rules.refl ((rules.asides (interruption_aside _ _ _)
        (interruption_ends generation here) nothing).mono fun outcome last kept => ?_)
      cases outcome with
      | some verdict => exact stopped verdict (kept.1 verdict rfl) kept.2
      | none =>
      refine .bind rules.refl ((rules.asides (perform_aside _ _ _) (perform_ends _ _ _)
        kept.2).mono fun outcome last kept => ?_)
      obtain ⟨complete, finalCode, progress⟩ := outcome
      dsimp only
      split
      · exact rules.incompletion_safe generation here kept.1 kept.2.1
      refine .bind rules.refl ((rules.asides (interruption_aside _ _ _)
        (interruption_ends generation here) kept.2).mono fun outcome last kept => ?_)
      cases outcome with
      | some verdict => exact stopped verdict (kept.1 verdict rfl) kept.2
      | none =>
      have onward := ofNat_le_succ here
      dsimp only
      split
      · refine .bind rules.refl ((rules.claimTerminal_safe generation kept.2 onward
          (completed_proper here)).mono fun done last kept => ?_)
        refine rules.done kept fun later known => ⟨?_, (completed_proper here).mono False.elim⟩
        cases done
        · exact rules.mono _ _ _ known.1 onward
        · exact known.1
      · rename_i unfinished
        have next : index + 1 < 64 := by
          have := List.length_pos_iff.mpr unfinished
          simp only [List.length_cons] at room
          omega
        refine .bind rules.refl ((rules.publishRunningProgress_safe generation kept.2 onward
          (ofNat_lt_64 next)).mono fun done last kept => ?_)
        cases done
        · exact rules.done kept fun later known =>
            ⟨rules.mono _ _ _ known.1 onward, (completed_proper here).mono False.elim⟩
        · refine ih ?_ unfinished progress kept.1
          simp only [List.length_cons] at room
          omega

/-- The last claim of a verdict. -/
theorem settle_safe (generation : UInt32) {verdict : Verdict} {words : Words}
    (reached : Reached holds verdict words) :
    (settle generation verdict).Safe rely guar (fun _ later => holds verdict.executed later)
      words := by
  have known : Known holds verdict.executed (words.trace.disputed = true) words := ⟨reached.1, id⟩
  refine .ite (fun _ => ?_) fun _ => rules.done known fun _ known => known.1
  refine .bind rules.refl ((rules.asides (read_aside _) (Scripted.ends_any _) known).mono
    fun current last kept => ?_)
  refine .ite (fun _ => ?_) fun _ => rules.done kept.2 fun _ known => known.1
  refine .bind rules.refl ((rules.claimTerminal_safe generation kept.2 (UInt8.le_refl _)
    reached.2).mono fun claimed last kept => ?_)
  cases claimed <;> exact rules.done kept fun _ known => known.1

end Rules

end HidBot.Sequence
