import HidBot.Interleaving.Pledge
import HidBot.Sequence.Records

/-!
# Tasks that abort a sequence

The traversal of the calls that abort a sequence or retire its owner is made once,
for all relations that allow their accesses. An abort for a release that has claimed
the abort returns true.
-/

namespace HidBot.Sequence

open Interleaving

/-- The access leaves alone what a run works with. -/
structure Quiet (before after : Words) : Prop where
  word : after.statusWord = before.statusWord
  trace : after.trace = before.trace
  plan : after.plan = before.plan
  runnable : after.runnableGeneration = before.runnableGeneration

theorem Quiet.refl (words : Words) : Quiet words words := ⟨rfl, rfl, rfl, rfl⟩

/-- The accesses of a caller, if its aborts own the cleanup as said. -/
structure CallerRules (step : Words → Words → Prop) (releaseOwned : Bool) : Prop where
  quiet : ∀ before after, Quiet before after → step before after
  revoked : ∀ words : Words, step words (words.called .revokeSequence)
  abort : ∀ words : Words, isOpen words.statusWord = true → step words
    (words.storeStatus (abortedRecord (decodeExecuted words.statusWord) releaseOwned))

namespace CallerRules

variable {step : Words → Words → Prop} {releaseOwned : Bool}

section

variable (rules : CallerRules step releaseOwned)

include rules

theorem read {α : Type} (view : Words → α) : (Scripted.read view : Call α).Each step :=
  .ofProgram (.read (fun _ => rules.quiet _ _ (.refl _)) view)

theorem write {update : Words → Words} (quiet : ∀ words, Quiet words (update words)) :
    (Scripted.write update : Call Unit).Each step :=
  .ofProgram (.write fun words => rules.quiet _ _ (quiet words))

theorem cancel :
    (Scripted.write fun words => { words with cancelRequested := true } : Call Unit).Each step :=
  rules.write fun _ => ⟨rfl, rfl, rfl, rfl⟩

theorem revoke : (callBackend .revokeSequence).Each step := .ofProgram (.write rules.revoked)

/-- The exchange of an abort finds the word it has looked at, or changes nothing. -/
theorem abortExchange {current : UInt32} (stillOpen : isOpen current = true) :
    (exchangeStatusWeak current (abortedRecord (decodeExecuted current) releaseOwned)).Each
      step := by
  refine .bind (.ask _) fun fails => .ite (.bind (rules.read _) fun _ => .pure _) ?_
  refine .ofProgram (.readModifyWrite fun words => ?_)
  by_cases same : words.statusWord = current
  · subst same
    simpa only [↓reduceIte] using rules.abort words stillOpen
  · simpa only [same, ↓reduceIte] using rules.quiet _ _ (.refl words)

theorem claimAbort : (claimAbort releaseOwned).Each step := by
  refine .bind (rules.read _) fun current => .iterate (fun current => ?_) _
  split
  · rename_i stillOpen
    exact .bind (rules.abortExchange stillOpen) fun outcome => .pure _
  · exact .pure _

end

theorem abortGeneration (rules : CallerRules step false) (generation : UInt32) :
    (abortGeneration generation).Each step := by
  refine .ite (.pure _) (.bind (rules.read _) fun _ => .ite (.pure _) ?_)
  refine .bind (rules.write fun _ => ⟨rfl, rfl, rfl, rfl⟩) fun _ => ?_
  refine .bind (rules.read _) fun _ => .ite (.pure _) ?_
  refine .bind rules.revoke fun _ => .bind (rules.read _) fun _ => ?_
  exact .ite (.bind rules.claimAbort fun _ => rules.cancel) rules.cancel

theorem abort_each (rules : CallerRules step false) : Sequence.abort.Each step :=
  .bind (rules.read _) fun _ => .ite rules.cancel (rules.abortGeneration _)

theorem abortForRelease (rules : CallerRules step true) : abortForRelease.Each step := by
  refine .bind (rules.read _) fun _ => .ite (.bind rules.cancel fun _ => .pure _) ?_
  refine .bind (rules.read _) fun _ => .ite (.pure _) (.bind rules.claimAbort fun claim => ?_)
  cases claim with
  | none =>
      refine .bind (rules.write fun _ => ⟨rfl, rfl, rfl, rfl⟩) fun _ => ?_
      exact .bind rules.revoke fun _ => .bind rules.cancel fun _ => .pure _
  | some terminal => exact .pure _

theorem retireOwner (rules : CallerRules step false) (owner : UInt64) :
    (retireOwner owner).Each step := by
  refine .ite (.pure _) (.iterate (fun _ => ?_) _)
  refine .bind (rules.read _) fun _ => .ite (.pure _) ?_
  refine .bind (rules.read _) fun _ => .ite (.pure _) ?_
  refine .bind (rules.read _) fun generation => .ite (.pure _) ?_
  refine .bind (.ofProgram (.readModifyWrite fun words => ?_)) fun retired => .ite ?_ (.pure _)
  · split
    · exact rules.quiet _ _ ⟨rfl, rfl, rfl, rfl⟩
    · exact rules.quiet _ _ (.refl words)
  · exact .bind (rules.abortGeneration _) fun _ => .pure _

end CallerRules

/-! ### The claim of a release -/

/-- The access makes a release the owner of the cleanup. -/
def ClaimsRelease (before after : Words) : Prop :=
  ¬before.trace.stored.releaseOwned = true ∧ after.trace.stored.releaseOwned = true

theorem not_claimsRelease_of_stored {before after : Words}
    (stored : after.trace.stored = before.trace.stored) : ¬ClaimsRelease before after :=
  fun claims => claims.1 (stored ▸ claims.2)

theorem not_claimsRelease_store {words : Words} {record : Record}
    (unowned : record.releaseOwned = false) : ¬ClaimsRelease words (words.storeStatus record) :=
  fun claims => Bool.false_ne_true (unowned.symm.trans claims.2)

theorem Aside.not_claimsRelease {before after : Words} (aside : Aside before after) :
    ¬ClaimsRelease before after := by
  cases aside <;> exact not_claimsRelease_of_stored rfl

theorem abort_unclaimed :
    CallerRules (fun before after => ¬ClaimsRelease before after) false where
  quiet _ _ quiet := not_claimsRelease_of_stored (by rw [quiet.trace])
  revoked _ := not_claimsRelease_of_stored rfl
  abort _ _ := not_claimsRelease_store rfl

section Claim

theorem exchangeStatusWeak_after (expected : UInt32) (record : Record) :
    (exchangeStatusWeak expected record).After ClaimsRelease fun outcome => outcome.1 = true := by
  refine .later (.ask _) fun fails => ?_
  split
  · exact .of_each (.bind (abort_unclaimed.read _) fun _ => .pure _)
  · intro script words
    refine ⟨fun claims => ⟨_, _, rfl, ?_⟩, trivial⟩
    by_cases same : words.statusWord = expected
    · simp [same]
    · simp only [same, ↓reduceIte] at claims
      exact absurd claims (not_claimsRelease_of_stored rfl)

/-- The loop ends with the exchange that makes the claim. -/
theorem claimAbort_after : (claimAbort true).After ClaimsRelease fun claim => claim = none := by
  refine .later (abort_unclaimed.read _) fun current => .iterate (fun current => ?_) _
  split
  · refine .bind (exchangeStatusWeak_after _ _) (fun outcome exchanged => ?_) fun outcome =>
      .of_each (.pure _)
    simp only [exchanged, ↓reduceIte]
    exact .pure ⟨none, rfl, rfl⟩
  · exact .of_each (.pure _)

/-- A call that has claimed the abort returns true. -/
theorem abortForRelease_after : abortForRelease.After ClaimsRelease fun safe => safe = true := by
  refine .later (abort_unclaimed.read _) fun generation => ?_
  split
  · exact .of_each (.bind abort_unclaimed.cancel fun _ => .pure _)
  refine .later (abort_unclaimed.read _) fun published => ?_
  split
  · exact .of_each (.pure _)
  refine .bind claimAbort_after ?_ fun claim => ?_
  · rintro claim rfl
    refine .bind (.write _) fun _ _ => .bind (.write _) fun _ _ => .bind (.write _) fun _ _ => ?_
    exact .pure rfl
  · cases claim with
    | none =>
        refine .of_each (.bind (abort_unclaimed.write fun _ => ⟨rfl, rfl, rfl, rfl⟩) fun _ => ?_)
        exact .bind abort_unclaimed.revoke fun _ => .bind abort_unclaimed.cancel fun _ => .pure _
    | some terminal => exact .of_each (.pure _)

end Claim

/-! ### A run makes no such claim -/

section Run

theorem exchangeStatusWeak_unclaimed (expected : UInt32) {record : Record}
    (unowned : record.releaseOwned = false) :
    (exchangeStatusWeak expected record).Each fun before after => ¬ClaimsRelease before after := by
  refine .bind (.ask _) fun fails => .ite (.bind (abort_unclaimed.read _) fun _ => .pure _) ?_
  refine .ofProgram (.readModifyWrite fun words => ?_)
  split
  · exact not_claimsRelease_store unowned
  · exact not_claimsRelease_of_stored rfl

theorem claimTerminal_unclaimed (generation : UInt32) (verdict : Verdict) :
    (claimTerminal generation verdict).Each fun before after => ¬ClaimsRelease before after := by
  refine .bind (abort_unclaimed.read _) fun _ => .ite (.pure _) (.ite (.pure _) ?_)
  refine .bind (abort_unclaimed.read _) fun current => .iterate (fun current => ?_) _
  refine .ite (.pure _) (.ite (.pure _) ?_)
  exact .bind (exchangeStatusWeak_unclaimed _ rfl) fun _ => .pure _

theorem publishRunningProgress_unclaimed (generation : UInt32) (executed : UInt8) :
    (publishRunningProgress generation executed).Each
      fun before after => ¬ClaimsRelease before after := by
  refine .bind (abort_unclaimed.read _) fun _ => .ite (.pure _) ?_
  refine .bind (abort_unclaimed.read _) fun current => .iterate (fun current => ?_) _
  exact .ite (.bind (exchangeStatusWeak_unclaimed _ rfl) fun _ => .pure _) (.pure _)

theorem unclaimed_of_aside {α : Type} {call : Call α} (each : call.Each Aside) :
    call.Each fun before after => ¬ClaimsRelease before after :=
  fun script => (each script).mono fun _ _ => Aside.not_claimsRelease

theorem incompletion_aside (generation : UInt32) (index : Nat) (executed : UInt8)
    (finalCode : TerminalCode) : (incompletion generation index executed finalCode).Each Aside :=
  .bind (cancellationSeen_aside _) fun _ => .bind (authorityCurrent_aside _) fun _ => .pure _

theorem runOperations_unclaimed (generation : UInt32) (operations : List Operation) (index : Nat)
    (executed : UInt8) (progress : Progress) :
    (runOperations generation index executed progress operations).Each
      fun before after => ¬ClaimsRelease before after := by
  induction operations generalizing index executed progress with
  | nil => exact .pure _
  | cons operation rest ih =>
      refine .bind (unclaimed_of_aside (interruption_aside _ _ _)) fun stopped => ?_
      cases stopped with
      | some verdict => exact .pure _
      | none =>
      refine .bind (unclaimed_of_aside (perform_aside _ _ _)) fun outcome => ?_
      refine .ite (unclaimed_of_aside (incompletion_aside _ _ _ _)) ?_
      refine .bind (unclaimed_of_aside (interruption_aside _ _ _)) fun stopped => ?_
      cases stopped with
      | some verdict => exact .pure _
      | none =>
      refine .ite (.bind (claimTerminal_unclaimed _ _) fun _ => .pure _) ?_
      exact .bind (publishRunningProgress_unclaimed _ _) fun _ => .ite (ih _ _ _) (.pure _)

theorem endRun_unclaimed (generation : UInt32) :
    (endRun generation).Each fun before after => ¬ClaimsRelease before after :=
  .bind (abort_unclaimed.read _) fun _ => .bind (unclaimed_of_aside (callBackend_aside _)) fun _ =>
    abort_unclaimed.write fun _ => ⟨rfl, rfl, rfl, rfl⟩

theorem run_unclaimed (generation : UInt32) :
    (run generation).Each fun before after => ¬ClaimsRelease before after := by
  have ended := endRun_unclaimed generation
  have released := unclaimed_of_aside (callBackend_aside .requestSafetyRelease)
  refine .bind (abort_unclaimed.read _) fun _ => .ite ended ?_
  refine .bind (.ofProgram (.readModifyWrite fun words => ?_)) fun outcome => .ite ?_ ?_
  · split
    · exact not_claimsRelease_store rfl
    · exact not_claimsRelease_of_stored rfl
  · exact .bind (abort_unclaimed.read _) fun _ => .ite (.bind released fun _ => ended) ended
  refine .bind (abort_unclaimed.read _) fun plan => ?_
  refine .bind (runOperations_unclaimed _ _ _ _ _) fun verdict => .bind ?_ fun _ => ?_
  · refine .ite (.bind (abort_unclaimed.read _) fun _ => .ite ?_ (.pure _)) (.pure _)
    exact .bind (claimTerminal_unclaimed _ _) fun _ => .pure _
  · exact .bind (abort_unclaimed.read _) fun _ => .ite (.bind released fun _ => ended) ended

end Run

end HidBot.Sequence
