import HidBot.Sequence.Noted
import HidBot.Sequence.Records

/-!
# A run follows the simulation of its plan

`parse` applies the operations of a text to the state in which a sequence starts, and
`run` applies them again between its reports and waits. Its notes show that it goes
through the same states, whatever the tasks beside it do, and that a run which claims
the completed status has waited as long as the plan says.
-/

namespace HidBot.Sequence

open Interleaving

/-! ### One operation -/

section Calls

variable {rely : Words → Words → Prop}

theorem Noted.executeReport_safe (refl : ∀ words, rely words words) (kind : OperationKind)
    (state : HidState) (failure : TerminalCode) (words : Words) :
    (Noted.executeReport kind state failure).Safe rely (fun _ _ => True)
      (fun log _ _ => Reporting kind state log) words := by
  have nothing : Reporting kind state [] := nofun
  have sent : Reporting kind state [.submitted kind state] := by simp [Reporting]
  have again : Reporting kind state [.retried] := by simp [Reporting]
  refine .bind refl (.ends (Scripted.ends_any _) (fun _ _ _ => nothing) fun deadline _ _ => ?_)
  refine Logged.Safe.iterate refl nothing (fun _ _ => .append) (fun _ later => ?_) ()
  refine .bind refl (.note fun _ _ => ?_)
  refine .bind refl (.ends (Scripted.ends_any _) (fun _ _ _ => sent) fun result _ _ => ?_)
  refine .ite (fun _ => .pure fun _ _ => sent) fun _ => ?_
  refine .bind refl (.ends (Scripted.ends_any _) (fun _ _ _ => sent) fun expired _ _ => ?_)
  refine .ite (fun _ => .pure fun _ _ => sent) fun _ => .bind refl (.note fun _ _ => ?_)
  have both := sent.append again
  refine .bind refl (.ends (Scripted.ends_any _) (fun _ _ _ => both) fun waited _ _ => ?_)
  exact .ite (fun _ => .pure fun _ _ => both) fun _ => .pure fun _ _ => both

/-- What an operation leaves, if this is the state after it. -/
def Progress.after (progress : Progress) (operation : Operation) (current : HidState) :
    Progress where
  current
  defaultDelay :=
    if operation.kind = .defaultDelay then operation.value.toNat else progress.defaultDelay

/-- What the notes of one operation say, and those of one that completed. -/
structure Performed (operation : Operation) (isLast : Bool) (progress after : Progress)
    (log : List Event) (result : Option (Bool × TerminalCode × Progress)) : Prop where
  faithful : Faithful progress.current.held none log
  order : applied log <+: [operation].filter (·.kind.isHid)
  unclaimed : ∀ state, .claimed state ∉ log
  complete : ∀ code later, result = some (true, code, later) →
    applied log = [operation].filter (·.kind.isHid) ∧
      (waits log).sum = operation.delay isLast progress.defaultDelay ∧ later = after

/-- The notes of an operation that sends reports: it is applied, and waited for after
the reports if it is not the last. -/
theorem performed_report {operation : Operation} {isLast : Bool} {progress : Progress}
    {next : HidState} (hid : operation.kind.isHid = true) (known : operation.Known)
    (ordered : progress.current.Ordered)
    (applies : applyTransition operation progress.current = some next) {reports tail : List Event}
    (reporting : Reporting operation.kind next reports)
    (waited : tail = [] ∨ isLast = false ∧ tail = [.waited progress.defaultDelay])
    {result : Option (Bool × TerminalCode × Progress)}
    (complete : ∀ code later, result = some (true, code, later) →
      (isLast = false → tail ≠ []) ∧ later = progress.after operation next) :
    Performed operation isLast progress (progress.after operation next)
      (.applied operation true :: reports ++ tail) result := by
  obtain ⟨ordered', held⟩ := applyTransition_held known ordered applies
  have only : [operation].filter (·.kind.isHid) = [operation] := by simp [hid]
  have notWait : operation.kind ≠ .wait := fun kind => by rw [kind] at hid; cases hid
  have once : applied (.applied operation true :: reports ++ tail) = [operation] := by
    have reported : applied (.applied operation true :: reports) = [operation] :=
      congrArg (operation :: ·) reporting.applied_eq
    rw [applied_append, reported]
    rcases waited with rfl | ⟨-, rfl⟩ <;> rfl
  have again : waits (.applied operation true :: reports ++ tail) = waits tail := by
    have reported : waits (.applied operation true :: reports) = [] := reporting.waits_eq
    rw [waits_append, reported, List.nil_append]
  refine ⟨.append ⟨rfl, held ▸ reporting.faithful ordered'⟩ ?_, ?_, fun claim member => ?_,
    fun code later same => ?_⟩
  · rcases waited with rfl | ⟨-, rfl⟩ <;> trivial
  · rw [once, only]
  · rcases List.mem_append.mp member with member | member
    · rcases List.mem_cons.mp member with other | member
      · cases other
      · exact reporting.unclaimed claim member
    · rcases waited with rfl | ⟨-, rfl⟩ <;> simp at member
  · obtain ⟨unlast, same⟩ := complete code later same
    refine ⟨once.trans only.symm, ?_, same⟩
    rw [again, Operation.delay, if_neg notWait]
    rcases waited with rfl | ⟨first, rfl⟩
    · have last : ¬isLast = false := fun first => unlast first rfl
      simp [last, waits]
    · simp [hid, first, waits]

theorem Noted.performReport_safe (refl : ∀ words, rely words words) {operation : Operation}
    (isLast : Bool) {progress : Progress} {next : HidState} (hid : operation.kind.isHid = true)
    (known : operation.Known) (ordered : progress.current.Ordered)
    (applies : applyTransition operation progress.current = some next) (words : Words) :
    (Noted.perform operation isLast progress).Safe rely (fun _ _ => True)
      (fun log result _ =>
        Performed operation isLast progress (progress.after operation next) log result) words := by
  have notDelay : operation.kind ≠ .defaultDelay := fun kind => by rw [kind] at hid; cases hid
  have notWait : operation.kind ≠ .wait := fun kind => by rw [kind] at hid; cases hid
  have left : { progress with current := next } = progress.after operation next := by
    simp [Progress.after, notDelay]
  unfold Noted.perform
  rw [if_neg notDelay, if_neg notWait, applies]
  refine .bind refl (.note fun _ _ => ?_)
  refine .bind refl ((Noted.executeReport_safe refl _ _ _ _).mono fun reports result _ noted => ?_)
  have reported (result : Option (Bool × TerminalCode × Progress))
      (complete : ∀ code later, result = some (true, code, later) →
        isLast = true ∧ later = progress.after operation next) :
      Performed operation isLast progress (progress.after operation next)
        (.applied operation true :: reports ++ []) result := by
    refine performed_report hid known ordered applies noted (.inl rfl) fun code later same => ?_
    obtain ⟨last, same⟩ := complete code later same
    exact ⟨fun first => absurd (last.symm.trans first) (by decide), same⟩
  cases result with
  | none => exact fun _ _ => List.append_nil reports ▸ reported none nofun
  | some outcome =>
  obtain ⟨accepted, finalCode⟩ := outcome
  refine .bind refl (.ite (fun waits => ?_) fun waitless => ?_)
  · have first : isLast = false := by simpa using (Bool.and_eq_true_iff.mp waits).2
    have waited (result : Option (Bool × TerminalCode × Progress))
        (complete : ∀ code later, result = some (true, code, later) →
          later = progress.after operation next) :
        Performed operation isLast progress (progress.after operation next)
          (.applied operation true :: reports ++ [.waited progress.defaultDelay]) result :=
      performed_report hid known ordered applies noted (.inr ⟨first, rfl⟩)
        fun code later same => ⟨fun _ => nofun, complete code later same⟩
    refine .bind refl (.note fun _ _ => ?_)
    refine .ends (Scripted.ends_any _) (fun _ _ _ => waited none (by simp)) fun done _ _ => ?_
    refine .pure fun _ _ => waited _ fun code later same => ?_
    cases same
    exact left
  · refine .pure fun _ _ => .pure fun _ _ => reported _ fun code later same => ?_
    cases same
    exact ⟨by simpa using waitless, left⟩

/-- Every operation is performed as its simulation says. -/
theorem Noted.perform_safe (refl : ∀ words, rely words words) {operation : Operation}
    (isLast : Bool) {progress : Progress} {next : HidState} (known : operation.Known)
    (ordered : progress.current.Ordered)
    (applies : applyTransition operation progress.current = some next) (words : Words) :
    (Noted.perform operation isLast progress).Safe rely (fun _ _ => True)
      (fun log result _ =>
        Performed operation isLast progress (progress.after operation next) log result) words := by
  by_cases hid : operation.kind.isHid = true
  · exact Noted.performReport_safe refl isLast hid known ordered applies words
  have nothing : [operation].filter (·.kind.isHid) = [] := by simp [hid]
  unfold Noted.perform
  by_cases delay : operation.kind = .defaultDelay
  · have same : progress.current = next := by simpa [applyTransition, delay] using applies
    rw [if_pos delay]
    refine .pure fun _ _ => ⟨trivial, List.nil_prefix, by simp, fun code later same' => ?_⟩
    cases same'
    refine ⟨nothing.symm, ?_, ?_⟩
    · simp [waits, Operation.delay, delay, OperationKind.isHid]
    · simp [Progress.after, delay, same]
  by_cases wait : operation.kind = .wait
  · have same : progress.current = next := by simpa [applyTransition, wait] using applies
    have waited (result : Option (Bool × TerminalCode × Progress))
        (complete : ∀ code later, result = some (true, code, later) → later = progress) :
        Performed operation isLast progress (progress.after operation next)
          [.waited operation.value.toNat] result := by
      refine ⟨trivial, List.nil_prefix, by simp, fun code later same' => ⟨nothing.symm, ?_, ?_⟩⟩
      · simp [waits, Operation.delay, wait]
      · simp [complete code later same', Progress.after, wait, ← same]
    rw [if_neg delay, if_pos wait]
    refine .bind refl (.bind refl (.note fun _ _ => ?_))
    refine .ends (Scripted.ends_any _) (fun _ _ _ => waited none (by simp)) fun done _ _ => ?_
    refine .pure fun _ _ => waited _ fun code later same' => ?_
    cases same'
    rfl
  · cases kind : operation.kind <;> simp_all [OperationKind.isHid]

end Calls

/-! ### Beside the run -/

/-- What an access of another task does to the words that the run works with. -/
structure Beside (before after : Words) : Prop where
  plan : after.plan = before.plan
  generation : after.statusGeneration = before.statusGeneration ∨ after.statusGeneration = 0
  word : after.statusWord = before.statusWord ∨ decodeState after.statusWord = some .aborted

theorem Beside.refl (words : Words) : Beside words words := ⟨rfl, .inl rfl, .inl rfl⟩

theorem Beside.trans {first second third : Words} (one : Beside first second)
    (two : Beside second third) : Beside first third where
  plan := two.plan.trans one.plan
  generation := by
    rcases two.generation with same | gone
    · exact same ▸ one.generation
    · exact .inr gone
  word := by
    rcases two.word with same | aborted
    · exact same ▸ one.word
    · exact .inr aborted

theorem read_beside {α : Type} (view : Words → α) : (Scripted.read view : Call α).Each Beside :=
  .ofProgram (.read .refl view)

/-- The writes of a caller. -/
theorem write_beside {update : Words → Words} (beside : ∀ words, Beside words (update words)) :
    (Scripted.write update : Call Unit).Each Beside :=
  .ofProgram (.write beside)

theorem revoke_beside : (callBackend .revokeSequence).Each Beside :=
  write_beside fun _ => ⟨rfl, .inl rfl, .inl rfl⟩

theorem cancel_beside :
    (Scripted.write fun words => { words with cancelRequested := true } : Call Unit).Each Beside :=
  write_beside fun _ => ⟨rfl, .inl rfl, .inl rfl⟩

theorem claimAbort_beside (releaseOwned : Bool) : (claimAbort releaseOwned).Each Beside := by
  refine .bind (read_beside _) fun current => .iterate (fun current => .ite ?_ (.pure _)) _
  refine .bind (.bind (.ask _) fun fails => .ite (.bind (read_beside _) fun _ => .pure _) ?_)
    fun _ => .pure _
  refine .ofProgram (.readModifyWrite fun words => ?_)
  split
  · exact ⟨rfl, .inl rfl, .inr (decodeState_encode _)⟩
  · exact .refl words

theorem abortGeneration_beside (generation : UInt32) :
    (abortGeneration generation).Each Beside := by
  refine .ite (.pure _) (.bind (read_beside _) fun _ => .ite (.pure _) ?_)
  refine .bind (write_beside fun _ => ⟨rfl, .inl rfl, .inl rfl⟩) fun _ => ?_
  refine .bind (read_beside _) fun _ => .ite (.pure _) (.bind revoke_beside fun _ => ?_)
  refine .bind (read_beside _) fun _ => .ite ?_ cancel_beside
  exact .bind (claimAbort_beside _) fun _ => cancel_beside

theorem abort_beside : abort.Each Beside :=
  .bind (read_beside _) fun _ => .ite cancel_beside (abortGeneration_beside _)

theorem abortForRelease_beside : abortForRelease.Each Beside := by
  refine .bind (read_beside _) fun _ => .ite (.bind cancel_beside fun _ => .pure _) ?_
  refine .bind (read_beside _) fun _ => .ite (.pure _) (.bind (claimAbort_beside _) fun claim => ?_)
  cases claim with
  | none =>
      refine .bind (write_beside fun _ => ⟨rfl, .inl rfl, .inl rfl⟩) fun _ => ?_
      exact .bind revoke_beside fun _ => .bind cancel_beside fun _ => .pure _
  | some terminal => exact .pure _

theorem retireOwner_beside (owner : UInt64) : (retireOwner owner).Each Beside := by
  refine .ite (.pure _) (.iterate (fun _ => ?_) _)
  refine .bind (read_beside _) fun _ => .ite (.pure _) ?_
  refine .bind (read_beside _) fun _ => .ite (.pure _) ?_
  refine .bind (read_beside _) fun generation => .ite (.pure _) ?_
  refine .bind (.ofProgram (.readModifyWrite fun words => ?_)) fun retired => .ite ?_ (.pure _)
  · split
    · exact ⟨rfl, .inr rfl, .inl rfl⟩
    · exact .refl words
  · exact .bind (abortGeneration_beside _) fun _ => .pure _

theorem status_beside (owner : UInt64) (sequenceId : Int) :
    (status owner sequenceId).Each Beside := by
  refine .bind (read_beside _) fun _ => .bind (read_beside _) fun _ => ?_
  refine .bind (read_beside _) fun _ => .ite (.pure _) ?_
  refine .bind (read_beside _) fun _ => .ite (.pure _) ?_
  exact .bind (read_beside _) fun _ => .bind (read_beside _) fun _ => .pure _

/-- The run can no longer claim a status. -/
def Abandoned (generation : UInt32) (words : Words) : Prop :=
  words.statusGeneration ≠ generation ∨ decodeState words.statusWord ≠ some .running

section Claims

variable {generation : UInt32} {words : Words}

theorem Beside.not_running {before after : Words} (beside : Beside before after)
    (idle : decodeState before.statusWord ≠ some .running) :
    decodeState after.statusWord ≠ some .running := by
  rcases beside.word with same | aborted
  · exact same ▸ idle
  · simp [aborted]

theorem Abandoned.stable {before after : Words} (nonzero : generation ≠ 0)
    (abandoned : Abandoned generation before) (beside : Beside before after) :
    Abandoned generation after := by
  rcases abandoned with retired | idle
  · refine .inl fun same => ?_
    rcases beside.generation with kept | gone
    · exact retired (kept ▸ same)
    · exact nonzero (same.symm.trans gone)
  · exact .inr (beside.not_running idle)

/-- An exchange that fails has observed the word. -/
theorem exchangeStatusWeak_observed (expected : UInt32) (record : Record) :
    (exchangeStatusWeak expected record).Safe Beside (fun _ _ => True)
      (fun outcome later => outcome.1 = false → decodeState outcome.2 ≠ some .running →
        decodeState later.statusWord ≠ some .running) words := by
  have asked (answer : Answer → Option Bool) :
      (Scripted.ask answer : Call Bool).Safe Beside (fun _ _ => True) (fun _ _ => True) words :=
    .ask (fun _ _ _ _ => trivial) answer trivial
  refine .bind .refl ((asked _).mono fun fails last _ => ?_)
  split
  · refine .bind .refl (.read fun later _ => ⟨trivial, fun last beside => ?_⟩)
    exact .pure fun final more _ idle => more.not_running (beside.not_running idle)
  · refine .readModifyWrite fun later _ => ⟨trivial, fun last beside failed idle => ?_⟩
    by_cases same : later.statusWord = expected
    · simp [same] at failed
    · simp only [same, ↓reduceIte] at idle beside
      exact beside.not_running idle

/-- Where no progress can be published, the run can claim nothing more. -/
theorem publishRunningProgress_abandoned (nonzero : generation ≠ 0) (executed : UInt8) :
    (publishRunningProgress generation executed).Safe Beside (fun _ _ => True)
      (fun published later => published = false → Abandoned generation later) words := by
  refine .bind .refl (.read fun later _ => ⟨trivial, fun last beside => ?_⟩)
  split
  · rename_i retired
    exact .pure fun _ more _ => (Abandoned.stable nonzero (.inl retired) beside).stable nonzero more
  refine .bind .refl (.read fun later _ => ⟨trivial, fun last beside => ?_⟩)
  -- A word that is not running when it is looked at is not running later.
  refine .iterate .refl (fun current later => decodeState current ≠ some .running →
    decodeState later.statusWord ≠ some .running)
    (fun _ _ _ abandoned beside unpublished => (abandoned unpublished).stable nonzero beside)
    (fun current later idle => ?_) fun idle => beside.not_running idle
  split
  · refine .bind .refl ((exchangeStatusWeak_observed _ _).mono fun outcome last observed => ?_)
    obtain ⟨exchanged, found⟩ := outcome
    cases exchanged with
    | true => exact .pure fun _ _ => nofun
    | false => exact .pure fun final more idle => more.not_running (observed rfl idle)
  · rename_i stopped
    exact .pure fun last more _ => .inr (more.not_running (idle stopped))

/-- A run that can claim no status claims none. -/
theorem claimTerminal_abandoned (verdict : Verdict) (abandoned : Abandoned generation words)
    (nonzero : generation ≠ 0) :
    (claimTerminal generation verdict).Safe Beside (fun _ _ => True)
      (fun claimed _ => claimed = false) words := by
  refine .bind .refl (.read fun later beside => ⟨trivial, fun last more => ?_⟩)
  have abandoned := abandoned.stable nonzero beside
  refine .ite (fun _ => .pure fun _ _ => rfl) fun published => ?_
  have idle := more.not_running (abandoned.resolve_left published)
  refine .ite (fun _ => .pure fun _ _ => rfl) fun _ => ?_
  refine .bind .refl (.read fun later beside => ⟨trivial, fun last _ => ?_⟩)
  refine .iterate .refl (fun current _ => decodeState current ≠ some .running)
    (fun _ _ _ unclaimed _ => unclaimed) (fun current later idle => ?_) (beside.not_running idle)
  refine .ite (fun _ => .pure fun _ _ => rfl) fun _ => ?_
  exact .ite (fun _ => .pure fun _ _ => rfl) fun running => absurd idle running

end Claims

/-! ### The loop -/

/-- What the notes of the loop over these operations say. -/
structure Looped (generation : UInt32) (progress : Progress) (operations : List Operation)
    (log : List Event) (result : Option Verdict) (words : Words) : Prop where
  faithful : Faithful progress.current.held none log
  order : applied log <+: operations.filter (·.kind.isHid)
  completes : .claimed .completed ∈ log →
    (waits log).sum = delays progress.defaultDelay operations
  concluded : ∀ verdict, result = some verdict → verdict.finalState = .completed →
    verdict.terminalPublished = false →
      Abandoned generation words ∨ (waits log).sum = delays progress.defaultDelay operations

section Loop

variable {generation : UInt32} {words : Words}

theorem interruption_stops (index : Nat) (executed : UInt8) :
    (interruption generation index executed).Ends fun stopped =>
      ∀ verdict, stopped = some verdict → verdict.finalState ≠ .completed := by
  refine .after fun canceled => .after fun current => .ite (fun _ => .pure ?_) fun _ => ?_
  · rintro _ ⟨⟩
    simp
  · refine .after fun _ => .after fun _ => .ite (fun _ => .pure ?_) fun _ => .pure nofun
    rintro _ ⟨⟩
    simp

theorem incompletion_stops (index : Nat) (executed : UInt8) (finalCode : TerminalCode) :
    (incompletion generation index executed finalCode).Ends fun verdict =>
      verdict.finalState ≠ .completed := by
  refine .after fun canceled => .after fun current => .pure ?_
  dsimp only
  split <;> simp

/-- A loop that stops before its next operation. -/
theorem Looped.stopped {progress : Progress} {operations : List Operation}
    {result : Option Verdict}
    (stops : ∀ verdict, result = some verdict → verdict.finalState ≠ .completed) (words : Words) :
    Looped generation progress operations [] result words :=
  ⟨trivial, List.nil_prefix, nofun, fun _ same completed => absurd completed (stops _ same)⟩

section Performed

variable {operation : Operation} {rest : List Operation} {progress : Progress} {next : HidState}
  {log : List Event} {outcome : Option (Bool × TerminalCode × Progress)}
  (performed :
    Performed operation rest.isEmpty progress (progress.after operation next) log outcome)

include performed

/-- A loop that stops at its next operation. -/
theorem Looped.interrupted {result : Option Verdict}
    (stops : ∀ verdict, result = some verdict → verdict.finalState ≠ .completed) (words : Words) :
    Looped generation progress (operation :: rest) log result words := by
  refine ⟨performed.faithful, performed.order.trans ?_,
    fun claimed => absurd claimed (performed.unclaimed _),
    fun _ same completed => absurd completed (stops _ same)⟩
  exact (List.prefix_append [operation] rest).filter _

/-- A loop that goes on after its next operation. -/
theorem Looped.onward (held : next.held = operation.hold progress.current.held)
    {code : TerminalCode} {later : Progress} (complete : outcome = some (true, code, later))
    {log' : List Event} {result : Option Verdict}
    (looped : Looped generation later rest log' result words) :
    Looped generation progress (operation :: rest) (log ++ log') result words := by
  obtain ⟨all, sum, rfl⟩ := performed.complete code later complete
  have whole : (operation :: rest).filter (·.kind.isHid) =
      applied log ++ rest.filter (·.kind.isHid) := by
    rw [all, ← List.filter_append, List.singleton_append]
  have total : (waits (log ++ log')).sum = (waits log).sum + (waits log').sum := by
    rw [waits_append, List.sum_append]
  have after : heldAfter progress.current.held (applied log) = next.held := by
    rw [held, all]
    by_cases hid : operation.kind.isHid = true
    · simp [hid, heldAfter]
    · cases kind : operation.kind <;>
        simp_all [heldAfter, Operation.hold, OperationKind.isHid]
  refine ⟨performed.faithful.append (after ▸ looped.faithful), ?_, fun claimed => ?_,
    fun verdict same completed unpublished => ?_⟩
  · rw [applied_append, whole]
    exact (List.prefix_append_right_inj _).mpr looped.order
  · have inside := (List.mem_append.mp claimed).resolve_left (performed.unclaimed _)
    rw [total, sum, looped.completes inside]
    rfl
  · refine (looped.concluded verdict same completed unpublished).imp_right fun rest => ?_
    rw [total, sum, rest]
    rfl

end Performed

/-- The loop follows the simulation of its operations. -/
theorem Noted.runOperations_safe (nonzero : generation ≠ 0) {operations : List Operation}
    (nonempty : operations ≠ []) (index : Nat) (executed : UInt8) {progress : Progress}
    (ordered : progress.current.Ordered) (admitted : Admitted progress.current operations) :
    (Noted.runOperations generation index executed progress operations).Safe Beside
      (fun _ _ => True) (Looped generation progress operations) words := by
  induction operations generalizing index executed progress words with
  | nil => exact absurd rfl nonempty
  | cons operation rest ih =>
  obtain ⟨known, next, applies, admitted⟩ := admitted
  obtain ⟨ordered', held⟩ := applyTransition_held known ordered applies
  have none_stops : ∀ verdict, (none : Option Verdict) = some verdict →
      verdict.finalState ≠ .completed := by simp
  have stopped_stops {verdict : Verdict} (stops : verdict.finalState ≠ .completed) :
      ∀ verdict', some verdict = some verdict' → verdict'.finalState ≠ .completed :=
    fun _ same => Option.some.inj same ▸ stops
  refine .bind .refl (.ends (interruption_stops index executed)
    (fun _ last _ => .stopped none_stops last) fun stopped _ stops => ?_)
  cases stopped with
  | some verdict => exact .pure fun last _ => .stopped (stopped_stops (stops verdict rfl)) last
  | none =>
  refine .bind .refl ((Noted.perform_safe .refl rest.isEmpty known ordered applies _).mono
    fun log outcome later performed => ?_)
  have halted (result : Option Verdict) (words : Words)
      (stops : ∀ verdict, result = some verdict → verdict.finalState ≠ .completed) :
      Looped generation progress (operation :: rest) ([] ++ (log ++ [])) result words := by
    simpa using Looped.interrupted performed stops words
  cases outcome with
  | none => exact fun last _ => .interrupted performed none_stops last
  | some outcome =>
  obtain ⟨complete, finalCode, after⟩ := outcome
  refine .ite (fun _ => ?_) fun finished => ?_
  · exact .ends (incompletion_stops index executed finalCode)
      (fun last => halted none last none_stops) fun verdict last stops =>
        halted (some verdict) last (stopped_stops stops)
  refine .bind .refl (.ends (interruption_stops index executed)
    (fun _ last _ => halted none last none_stops) fun stopped _ stops => ?_)
  cases stopped with
  | some verdict =>
      refine .pure fun last _ => ?_
      simpa using halted (some verdict) last (stopped_stops (stops verdict rfl))
  | none =>
  obtain rfl : complete = true := by simpa using finished
  have onward {log' : List Event} {result : Option Verdict} {words : Words}
      (looped : Looped generation after rest log' result words) :
      Looped generation progress (operation :: rest) (log ++ log') result words :=
    .onward performed held rfl looped
  refine .ite (fun last => ?_) fun more => ?_
  · subst last
    have done {log' : List Event} (result : Option Verdict) (last : Words)
        (quiet : log' = [] ∨ log' = [.claimed .completed]) :
        Looped generation after [] log' result last := by
      rcases quiet with rfl | rfl
      · exact ⟨trivial, List.nil_prefix, nofun, fun _ _ _ _ => .inr rfl⟩
      · exact ⟨trivial, List.nil_prefix, fun _ => rfl, fun _ _ _ _ => .inr rfl⟩
    refine .bind .refl (.bind .refl (.ends (Scripted.ends_any _)
      (fun _ _ _ last _ => onward (done none last (.inl rfl))) fun claimed _ _ => ?_))
    refine .ite (fun _ => ?_) fun _ => ?_
    · refine .bind .refl (.note fun _ _ => ?_)
      exact .pure fun _ _ => .pure fun last _ => onward (done _ last (.inr rfl))
    · exact .pure fun _ _ => .pure fun last _ => onward (done _ last (.inl rfl))
  · refine .bind .refl (.silent (fun _ last _ => onward (.stopped none_stops last)) ?_)
    refine (publishRunningProgress_abandoned nonzero _).mono fun published last abandoned => ?_
    refine .ite (fun _ => ?_) fun unpublished => ?_
    · obtain ⟨-, -, rfl⟩ := performed.complete finalCode after rfl
      exact (ih more (index + 1) _ ordered' admitted).mono fun _ _ _ looped => onward looped
    · refine .pure fun final beside => onward ⟨trivial, List.nil_prefix, nofun, fun _ _ _ _ => ?_⟩
      exact .inl ((abandoned (Bool.eq_false_iff.mpr unpublished)).stable nonzero beside)

end Loop

/-! ### The run -/

/-- The notes of a run say that it followed its plan: every operation is applied with
success, in order; every report carries the inputs held after the operations applied so
far, the last of which it is for; and a run that claims the completed status has waited,
outside the loops of its reports, as long as the plan says. -/
structure Follows (initialState : HidState) (plan : Plan) (log : List Event) : Prop where
  succeeded : ∀ operation succeeded, .applied operation succeeded ∈ log → succeeded = true
  order : applied log <+: plan.operations.filter (·.kind.isHid)
  sent : ∀ earlier kind state later, log = earlier ++ .submitted kind state :: later →
    state.Ordered ∧ state.held = heldAfter initialState.held (applied earlier) ∧
      (applied earlier).getLast?.map (·.kind) = some kind
  waited : .claimed .completed ∈ log → (waits log).sum = plan.scheduledDurationMs.toNat
  bound : plan.scheduledDurationMs.toNat ≤ maximumScheduledDurationMs

section Run

variable {generation : UInt32} {plan : Plan}

theorem Follows.nil (planned : Planned plan) : Follows plan.initialState plan [] :=
  ⟨nofun, List.nil_prefix, by simp, nofun, planned.bound⟩

/-- The notes of the loop, and of the claim after it. -/
theorem Looped.follows {log tail : List Event} {result : Option Verdict} {words : Words}
    (planned : Planned plan)
    (looped : Looped generation { current := plan.initialState } plan.operations log result words)
    (claims : tail = [] ∨ ∃ state, tail = [.claimed state] ∧
      (state = .completed → (waits log).sum = delays 0 plan.operations)) :
    Follows plan.initialState plan (log ++ tail) := by
  have quiet : applied tail = [] ∧ waits tail = [] := by
    rcases claims with rfl | ⟨state, rfl, -⟩ <;> exact ⟨rfl, rfl⟩
  have same : applied (log ++ tail) = applied log := by
    rw [applied_append, quiet.1, List.append_nil]
  have faithful : Faithful plan.initialState.held none (log ++ tail) := by
    refine looped.faithful.append ?_
    rcases claims with rfl | ⟨state, rfl, -⟩ <;> trivial
  refine ⟨fun operation succeeded => faithful.succeeded, same ▸ looped.order, ?_, ?_,
    planned.bound⟩
  · rintro earlier kind state later split
    obtain ⟨ordered, held, last⟩ := (split ▸ faithful).sent
    exact ⟨ordered, held, by simpa only [Option.or_none] using last⟩
  · intro claimed
    rw [waits_append, quiet.2, List.append_nil, planned.duration]
    rcases List.mem_append.mp claimed with inside | inside
    · exact looped.completes inside
    · rcases claims with rfl | ⟨state, rfl, completed⟩
      · cases inside
      · exact completed (Event.claimed.inj (List.mem_singleton.mp inside)).symm

/-- The loop and the claim after it follow the plan. -/
theorem Noted.settle_safe (nonzero : generation ≠ 0) (planned : Planned plan)
    {log : List Event} {verdict : Verdict} {words : Words}
    (looped : Looped generation { current := plan.initialState } plan.operations log
      (some verdict) words) :
    (Noted.settle generation verdict).Safe Beside (fun _ _ => True)
      (fun tail _ _ => Follows plan.initialState plan (log ++ tail)) words := by
  have unclaimed : Follows plan.initialState plan (log ++ []) := looped.follows planned (.inl rfl)
  refine .ite (fun unpublished => ?_) fun _ => .pure fun _ _ => unclaimed
  have unpublished : verdict.terminalPublished = false := by simpa using unpublished
  refine .bind .refl (.silent (fun _ _ _ => unclaimed)
    (.read fun found beside => ⟨trivial, fun later more => ?_⟩))
  refine .ite (fun _ => ?_) fun _ => .pure fun _ _ => unclaimed
  -- A status that is claimed here is not completed, unless every operation is done.
  have claims : (Sequence.claimTerminal generation verdict).Safe Beside (fun _ _ => True)
      (fun claimed _ => claimed = true → verdict.finalState = .completed →
        (waits log).sum = delays 0 plan.operations) later := by
    have any : (Sequence.claimTerminal generation verdict).Safe Beside (fun _ _ => True)
        (fun _ _ => True) later := (Scripted.ends_any _).safe later
    by_cases completed : verdict.finalState = .completed
    · rcases looped.concluded verdict rfl completed unpublished with abandoned | sum
      · have abandoned := (abandoned.stable nonzero beside).stable nonzero more
        refine (claimTerminal_abandoned verdict abandoned nonzero).mono fun claimed _ lost yes => ?_
        exact absurd (lost.symm.trans yes) (by decide)
      · exact any.mono fun _ _ _ _ _ => sum
    · exact any.mono fun _ _ _ _ same => absurd same completed
  refine .bind .refl (.bind .refl (.silent (fun _ _ _ _ _ => unclaimed)
    (claims.mono fun claimed last sum => ?_)))
  refine .ite (fun yes => ?_) fun _ => .pure fun _ _ => .pure fun _ _ => unclaimed
  refine .bind .refl (.note fun _ _ => .pure fun _ _ => .pure fun _ _ => ?_)
  exact looped.follows planned (.inr ⟨_, rfl, sum yes⟩)

theorem Noted.run_safe (nonzero : generation ≠ 0) (planned : Planned plan)
    (nonempty : plan.operations ≠ []) (ordered : plan.initialState.Ordered) {words : Words}
    (read : words.plan = plan) :
    (Noted.run generation).Safe Beside (fun _ _ => True)
      (fun log _ _ => Follows plan.initialState plan log) words := by
  have nothing : Follows plan.initialState plan [] := .nil planned
  have quiet {α : Type} (call : Call α) (later : Words) :
      (Logged.silent call : NotedCall α).Safe Beside (fun _ _ => True)
        (fun log _ _ => Follows plan.initialState plan log) later :=
    .ends (Scripted.ends_any call) (fun _ => nothing) fun _ _ _ => nothing
  refine .bind .refl (.silent (fun _ _ _ => nothing)
    (.read fun found beside => ⟨trivial, fun later more => ?_⟩))
  refine .ite (fun _ => quiet _ _) fun _ => ?_
  have read := more.plan.trans (beside.plan.trans read)
  have exchanges : (exchangeStatus acceptedRecord.encode (runningRecord 0)).Safe Beside
      (fun _ _ => True) (fun _ last => last.plan = plan) later := by
    refine .readModifyWrite fun last beside => ⟨trivial, fun final more => more.plan.trans ?_⟩
    split <;> exact beside.plan.trans read
  refine .bind .refl (.silent (fun _ _ _ => nothing) (exchanges.mono fun outcome last read => ?_))
  obtain ⟨exchanged, observed⟩ := outcome
  refine .ite (fun _ => ?_) fun _ => ?_
  · refine .bind .refl (.ends (Scripted.ends_any _) (fun _ _ _ => nothing) fun _ last _ => ?_)
    refine .ite (fun _ => ?_) fun _ => quiet _ _
    exact .bind .refl (.ends (Scripted.ends_any _) (fun _ _ _ => nothing) fun _ last _ => quiet _ _)
  refine .bind .refl (.silent (fun _ _ _ => nothing)
    (.read fun found beside => ⟨trivial, fun later more => ?_⟩))
  rw [show found.plan = plan from beside.plan.trans read]
  refine .bind .refl ((Noted.runOperations_safe nonzero nonempty 0 0 ordered
    planned.admitted).mono fun log result last looped => ?_)
  have unclaimed : Follows plan.initialState plan (log ++ []) := looped.follows planned (.inl rfl)
  cases result with
  | none => exact fun _ _ => List.append_nil log ▸ unclaimed
  | some verdict =>
  refine .bind .refl ((Noted.settle_safe nonzero planned looped).mono
    fun tail result last settled => ?_)
  have whole : Follows plan.initialState plan (log ++ (tail ++ [])) :=
    (List.append_nil tail).symm ▸ settled
  cases result with
  | none => exact fun _ _ => settled
  | some _ =>
      exact .ends (Scripted.ends_any _) (fun _ => whole) fun _ _ _ => whole

end Run

/-! ### Runs beside other tasks -/

/-- The calls of the tasks, with the notes of a run. -/
def notedProgram : Task → Invocation → Program Words (List Event × Option Reply)
  | .sequence, (.run generation, script) =>
      (Noted.run generation >>= fun _ => pure .returned).withScript script
  | task, invocation => program task invocation >>= fun reply => .done ([], reply)

/-- Without the notes the tasks run their calls. -/
theorem notedProgram_erase (task : Task) (invocation : Invocation) :
    (notedProgram task invocation >>= fun outcome => .done outcome.2) =
      program task invocation := by
  have plain (call : Program Words (Option Reply)) :
      ((call >>= fun reply => .done ([], reply)) >>=
        fun outcome : List Event × Option Reply => .done outcome.2) = call :=
    (Program.bind_assoc ..).trans (Program.bind_done call)
  unfold notedProgram
  split
  · rename_i generation script
    refine (Logged.erase_withScript ..).trans ?_
    simp only [Logged.erase_bind, Noted.erase_run, Logged.erase_pure]
    rfl
  · exact plain _

abbrev NotedRuns := Config Task Words Invocation (List Event × Option Reply)

/-- One run of this generation, and any number of calls that abort it, retire its owner
or read its status. -/
def besideRun (generation : UInt32) (config : NotedRuns) : Label Task Invocation → Prop
  | .call .sequence invocation =>
      invocation.1 = .run generation ∧ ∀ entry ∈ config.history, entry.1 ≠ .sequence
  | .call (.caller _) invocation =>
      invocation.1 = .abort ∨ invocation.1 = .abortForRelease ∨
        (∃ owner, invocation.1 = .retireOwner owner) ∨
          ∃ owner sequenceId, invocation.1 = .status owner sequenceId
  | .advance _ => True

def notedContract (initialState : HidState) (plan : Plan) :
    Contract Task Words Invocation (List Event × Option Reply) where
  rely task _ := match task with
    | .sequence => Beside
    | .caller _ => fun _ _ => True
  guar task _ := match task with
    | .sequence => fun _ _ => True
    | .caller _ => Beside
  post task _ outcome _ := match task with
    | .sequence => Follows initialState plan outcome.1
    | .caller _ => True
  refl task _ words := by
    cases task
    · exact .refl words
    · trivial
  trans task _ _ _ _ one two := by
    cases task
    · exact Beside.trans one two
    · trivial

theorem request_beside {generation : UInt32} {config : NotedRuns} {id : Nat}
    {invocation : Invocation}
    (allowed : besideRun generation config (.call (.caller id) invocation)) :
    invocation.1.call.Each Beside := by
  obtain ⟨request, script⟩ := invocation
  rcases allowed with rfl | rfl | ⟨owner, rfl⟩ | ⟨owner, sequenceId, rfl⟩
  · exact .bind abort_beside fun _ => .pure _
  · exact .bind abortForRelease_beside fun _ => .pure _
  · exact .bind (retireOwner_beside owner) fun _ => .pure _
  · exact .bind (status_beside owner sequenceId) fun _ => .pure _

/-- Where one run stands among the other tasks. -/
structure FollowInv (plan : Plan) (config : NotedRuns) : Prop where
  conforms : (notedContract plan.initialState plan).Conforms config
  waiting : (∀ entry ∈ config.history, entry.1 ≠ .sequence) → config.running .sequence = none →
    config.shared.plan = plan
  followed : ∀ invocation log reply, (.sequence, invocation, (log, reply)) ∈ config.history →
    Follows plan.initialState plan log

section Step

variable {generation : UInt32} {plan : Plan} {config next : NotedRuns}
  {label : Label Task Invocation}

theorem caller_follows (id : Nat) {invocation : Invocation} (initialState : HidState)
    (each : invocation.1.call.Each Beside) (words : Words) :
    (notedContract initialState plan).Kept (.caller id) invocation
      (notedProgram (.caller id) invocation) words := by
  have returns (reply : Option Reply) :
      (Program.done ([], reply) : Program Words (List Event × Option Reply)).Each Beside := trivial
  exact Program.Each.safe (fun _ _ (_ : True) _ => trivial) (fun _ _ _ step => ⟨step, trivial⟩)
    (.bind (each.withScript _) returns) trivial

theorem sequence_follows (planned : Planned plan) (nonempty : plan.operations ≠ [])
    (ordered : plan.initialState.Ordered) (nonzero : generation ≠ 0) (script : List Answer)
    {words : Words} (read : words.plan = plan) :
    (notedContract plan.initialState plan).Kept .sequence (.run generation, script)
      (notedProgram .sequence (.run generation, script)) words := by
  have safe : (Noted.run generation >>= fun _ => pure Reply.returned : NotedCall Reply).Safe Beside
      (fun _ _ => True) (fun log _ _ => Follows plan.initialState plan log) words := by
    refine .bind .refl ((Noted.run_safe nonzero planned nonempty ordered read).mono
      fun log result later follows => ?_)
    cases result with
    | none => exact fun _ _ => follows
    | some _ => exact .pure fun _ _ => by simpa using follows
  exact safe.withScript script

theorem FollowInv.step (planned : Planned plan) (nonempty : plan.operations ≠ [])
    (ordered : plan.initialState.Ordered) (nonzero : generation ≠ 0) (inv : FollowInv plan config)
    (allowed : besideRun generation config label)
    (stepped : config.step notedProgram label = some next) : FollowInv plan next := by
  have started : ∀ task invocation, label = .call task invocation → config.running task = none →
      (notedContract plan.initialState plan).Kept task invocation (notedProgram task invocation)
        config.shared := by
    rintro task invocation rfl idle
    cases task with
    | sequence =>
        obtain ⟨request, script⟩ := invocation
        obtain ⟨rfl, first⟩ := allowed
        exact sequence_follows planned nonempty ordered nonzero script (inv.waiting first idle)
    | caller id => exact caller_follows id _ (request_beside allowed) _
  have compatible : ∀ task invocation other invocation', task ≠ other →
      ∀ after, (notedContract plan.initialState plan).guar task invocation config.shared after →
        (notedContract plan.initialState plan).rely other invocation' config.shared after := by
    intro task invocation other invocation' different after guar
    cases other with
    | caller id => trivial
    | sequence =>
        cases task with
        | sequence => exact absurd rfl different
        | caller id => exact guar
  obtain ⟨conforms, moved⟩ := inv.conforms.step started
    (fun _ _ _ _ _ _ _ _ different _ _ => compatible _ _ _ _ different) stepped
  have kept : config.running .sequence = none → next.shared.plan = config.shared.plan := by
    intro idle
    rcases moved with same | ⟨task, invocation, call, running, guar⟩
    · rw [same]
    · cases task with
      | sequence => simp [idle] at running
      | caller id => exact guar.plan
  rcases Config.step_cases stepped with
    ⟨task, invocation, rfl, idle, rfl⟩ | ⟨task, invocation, update, rest, rfl, running, rfl⟩ |
      ⟨task, invocation, outcome, rfl, running, rfl⟩
  · refine ⟨conforms, fun first waiting => ?_, inv.followed⟩
    cases task with
    | sequence => simp at waiting
    | caller id => exact inv.waiting first (by simpa using waiting)
  · refine ⟨conforms, fun first waiting => ?_, inv.followed⟩
    cases task with
    | sequence => simp at waiting
    | caller id =>
        have waiting : config.running .sequence = none := by simpa using waiting
        exact (kept waiting).trans (inv.waiting first waiting)
  · refine ⟨conforms, fun first waiting => ?_, fun invocation' log reply member => ?_⟩
    · have unfinished : ∀ entry ∈ config.history, entry.1 ≠ .sequence :=
        fun entry member => first entry (List.mem_cons_of_mem _ member)
      cases task with
      | sequence => exact absurd rfl (first _ (List.mem_cons_self ..))
      | caller id => exact inv.waiting unfinished (by simpa using waiting)
    · rcases List.mem_cons.mp member with same | member
      · cases same
        exact inv.conforms.returned running
      · exact inv.followed _ _ _ member

/-- A run of a parsed plan follows the simulation that admitted it, whatever the other
tasks do. -/
theorem plan_followed {code : List Char} {initialState : HidState} {plan : Plan}
    (ordered : initialState.Ordered) (parsed : parse code initialState = some plan)
    {generation : UInt32} (nonzero : generation ≠ 0) {words : Words} (published : words.plan = plan)
    {config : NotedRuns}
    (reached : Reaches notedProgram (besideRun generation) (Config.initial words) config)
    {invocation : Invocation} {log : List Event} {reply : Option Reply}
    (returned : (.sequence, invocation, (log, reply)) ∈ config.history) :
    Follows initialState plan log := by
  obtain ⟨planned, rfl⟩ := parse_planned parsed
  have nonempty := (parse_length parsed).1
  have start : FollowInv plan (Config.initial words) :=
    ⟨Contract.conforms_initial words, fun _ _ => published, by simp [Config.initial]⟩
  have inv : FollowInv plan config := reached.induct start fun _ _ _ inv allowed stepped =>
    inv.step planned nonempty ordered nonzero allowed stepped
  exact inv.followed _ _ _ returned

end Step

/-! ### A run of two key presses -/

/-- A default delay of seven milliseconds, and two keys. -/
def twoPresses : Plan := (parse "d7;kp5;kp4".toList {}).getD {}

/-- The answers to a run in which every report is accepted. -/
def twoPressesAnswers : List Answer :=
  [.authorityCurrent true, .time 0, .authorityCurrent true, .time 0, .exchangeFails false,
    .authorityCurrent true, .time 0, .time 0, .report .accepted,
    .time 0, .time 7000, .authorityCurrent true,
    .authorityCurrent true, .time 0, .exchangeFails false,
    .authorityCurrent true, .time 0, .time 0, .report .accepted,
    .authorityCurrent true, .time 0, .exchangeFails false]

def twoPressesLog : List Event :=
  [.applied ⟨.keyPress, 5⟩ true,
    .submitted .keyPress { keycodes := ⟨#[5, 0, 0, 0, 0, 0], rfl⟩ }, .waited 7,
    .applied ⟨.keyPress, 4⟩ true,
    .submitted .keyPress { keycodes := ⟨#[4, 5, 0, 0, 0, 0], rfl⟩ }, .claimed .completed]

def twoPressesStart : Words where
  reservedGeneration := 1
  statusGeneration := 1
  statusWord := acceptedRecord.encode
  plan := twoPresses
  activeLocalOwnerId := 7

/-- The run has been called. -/
def twoPressesCalled : NotedRuns :=
  { Config.initial twoPressesStart with
    running := Function.update (Config.initial twoPressesStart).running .sequence
      (some ((.run 1, twoPressesAnswers), notedProgram .sequence (.run 1, twoPressesAnswers))) }

theorem twoPresses_called : (Config.initial twoPressesStart).step notedProgram
    (.call .sequence (.run 1, twoPressesAnswers)) = some twoPressesCalled := rfl

theorem twoPresses_returned :
    (replay notedProgram (.replicate 48 (.advance .sequence)) twoPressesCalled).bind
      (·.history.head?) =
        some (.sequence, (.run 1, twoPressesAnswers), (twoPressesLog, some .returned)) := by
  decide +kernel

theorem twoPresses_parsed : parse "d7;kp5;kp4".toList {} = some twoPresses := by
  decide +kernel

theorem plan_followed_twoPresses : Follows {} twoPresses twoPressesLog := by
  obtain ⟨config, replayed, returned⟩ := Option.bind_eq_some_iff.mp twoPresses_returned
  have called : Reaches notedProgram (besideRun 1) (Config.initial twoPressesStart)
      twoPressesCalled := by
    refine .step (.call .sequence (.run 1, twoPressesAnswers)) .refl ⟨rfl, ?_⟩ twoPresses_called
    exact fun _ member => absurd member List.not_mem_nil
  have admitted : ∀ label ∈ List.replicate 48 (Label.advance Task.sequence),
      ∀ config, besideRun 1 config label :=
    fun _ member _ => List.eq_of_mem_replicate member ▸ trivial
  have advances : Reaches notedProgram (besideRun 1) twoPressesCalled config :=
    .of_replay admitted replayed
  have ordered : ({} : HidState).Ordered := ⟨[], .nil, List.not_mem_nil, by simp⟩
  exact plan_followed ordered twoPresses_parsed (by decide) rfl (called.trans advances)
    (List.mem_of_mem_head? returned)

end HidBot.Sequence
