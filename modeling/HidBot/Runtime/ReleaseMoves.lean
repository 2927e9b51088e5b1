import HidBot.Runtime.Moves

/-!
# Moves of the release transaction

The admission of a transaction and its scan, the outcomes that BLE reports, and its
finalization. Only a success on BLE and a report that USB has accepted need more than the
section that notes them.
-/

namespace HidBot.Runtime.Move

open Interleaving

variable {α : Type} {interface : Interface} {before after : Words}

/-! ### Outcomes -/

theorem state_of_pending {ticket : ReleaseAllTicket} (pending : ticket.pending = true) :
    ticket.state = .admitting ∨ ticket.state = .open := by
  cases state : ticket.state <;> simp [ReleaseAllTicket.pending, state] at pending
  · exact .inl rfl
  · exact .inr rfl

theorem pending_of_admitting {ticket : ReleaseAllTicket} (admitting : ticket.state = .admitting) :
    ticket.pending = true := by
  simp [ReleaseAllTicket.pending, admitting]

theorem pending_of_open {ticket : ReleaseAllTicket} (opened : ticket.state = .open) :
    ticket.pending = true := by
  simp [ReleaseAllTicket.pending, opened]

/-- A transaction that fails keeps what it was and submits nothing new. -/
theorem failed_step (next : after.nextReleaseId = before.nextReleaseId)
    (pending : before.releaseTicket.pending = true)
    (identity : after.releaseTicket.identity = before.releaseTicket.identity)
    (state : after.releaseTicket.state = .failed)
    (submitted : ∀ interface, after.releaseTicket.outcome interface = .submitted →
      before.releaseTicket.outcome interface = .submitted) : ReleaseStep before after := by
  refine .ended next pending identity ⟨?_, submitted, fun won => ?_⟩
  · rw [state]
    exact fun none => by cases none
  · rw [state] at won
    cases won

/-- The failure of a transaction that has not ended. -/
theorem fail_pending {ticket : ReleaseAllTicket} {lost : Bool} (pending : ticket.pending = true)
    (named : ticket.id ≠ 0) :
    ticket.fail ticket.id lost = { ticket with state := .failed, bleContinuityLost := lost } := by
  simp [ReleaseAllTicket.fail, named, state_of_pending pending]

/-- An outcome that is not a submission submits nothing. -/
theorem submitted_of_setOutcome {ticket : ReleaseAllTicket} {outcome : ReleaseAllInterfaceState}
    (other : outcome ≠ .submitted) {place : Interface}
    (submitted : (ticket.setOutcome interface outcome).outcome place = .submitted) :
    ticket.outcome place = .submitted := by
  rw [setOutcome_outcome] at submitted
  split at submitted
  · exact absurd submitted other
  · exact submitted

theorem noteUsbPending (id : ReleaseAllId) (generation : UsbGeneration)
    (authority : AuthorityEpoch) (epoch : UInt32) :
    (noteUsbReleaseOutcome id interface generation authority epoch .pending).Each Move := by
  refine .write fun words => .releasing ?_ rfl
  by_cases other : id = 0 ∨ words.releaseTicket.id ≠ id ∨ words.releaseTicket.pending = false ∨
      words.releaseTicket.ownsUsb generation authority epoch = false
  · refine .of_same rfl ?_
    simp [ReleaseAllTicket.noteUsb, other]
  · have note : words.releaseTicket.noteUsb id interface generation authority epoch .pending =
        (words.releaseTicket.setOutcome interface .pending).fail words.releaseTicket.id false := by
      simp [ReleaseAllTicket.noteUsb, other]
    simp only [not_or, Bool.not_eq_false, ne_eq, not_not] at other
    obtain ⟨named, rfl, pending, -⟩ := other
    have failed : words.releaseTicket.noteUsb words.releaseTicket.id interface generation authority
        epoch .pending = { words.releaseTicket.setOutcome interface .pending with
          state := .failed, bleContinuityLost := false } := by
      rw [note, ← setOutcome_id words.releaseTicket interface .pending]
      refine fail_pending ?_ (by rwa [setOutcome_id])
      simpa [ReleaseAllTicket.pending] using pending
    refine failed_step rfl pending ?_ ?_ fun place submitted => ?_
    · change ReleaseAllTicket.identity (words.releaseTicket.noteUsb ..) = _
      rw [failed]
      exact setOutcome_identity ..
    · change (words.releaseTicket.noteUsb _ interface generation authority epoch .pending).state = _
      rw [failed]
    · change (words.releaseTicket.noteUsb _ interface generation authority epoch .pending).outcome
        place = _ at submitted
      rw [failed] at submitted
      have kept : (words.releaseTicket.setOutcome interface .pending).outcome place = .submitted := by
        cases place <;> exact submitted
      exact submitted_of_setOutcome (by decide) kept

/-! ### Admission -/

theorem admitRelease (explicit : Bool) (route : Route.Snapshot) (ble : BleRouteAuthoritySnapshot) :
    (Runtime.admitRelease explicit route ble).Each Move := by
  refine .readModifyWrite fun words => ?_
  dsimp only
  split
  · exact .refl words
  · rename_i inactive
    split
    · exact .refl words
    · rename_i left
      split
      · exact .refl words
      · have step {after : Words} (next : after.nextReleaseId = nextId words.nextReleaseId)
            (ticket : after.releaseTicket =
              newReleaseTicket words.nextReleaseId explicit route ble words) :
            ReleaseStep words after := by
          refine .admitted (by simpa using inactive) left next ?_ ?_ fun interface => ?_
          · rw [ticket]
            cases explicit <;> rfl
          · rw [ticket]
            cases explicit <;> rfl
          · rw [ticket]
            cases explicit <;> cases interface <;> rfl
        cases explicit with
        | false => exact .releasing (step rfl rfl) rfl
        | true =>
            exact {
              grows := List.suffix_rfl
              tickets := .of_same rfl rfl rfl
              slots := .of_same rfl
              release := step rfl rfl
              sequence := sequence_still rfl (.inr rfl)
              activation := activation_still rfl (.inl rfl) }

theorem scanInterface (id : ReleaseAllId) (explicit : Bool) :
    (Runtime.scanInterface id explicit interface).Each Move := by
  refine .readModifyWrite fun words => ?_
  dsimp only
  split
  · exact .refl words
  · rename_i admitted
    obtain ⟨-, admitting⟩ := not_or.mp admitted
    replace admitting : words.releaseTicket.state = .admitting := not_not.mp admitting
    have pending := pending_of_admitting admitting
    split
    · rename_i up
      exact .resolve rfl pending (.alreadyUp up (.inl admitting))
    · split
      · dsimp only
        exact .withInterface fun _ => rfl
      · -- The obligation, if there is one, is no part of the books.
        have aside {safety : Bool} :
            (if safety = true then words.withInterface interface fun state =>
              { state with safetyRequired := true } else words).books = words.books := by
          split
          · exact books_withInterface fun _ => rfl
          · rfl
        split
        · exact .resolve aside pending (.pending admitting)
        · exact .beside aside

theorem openRelease (id : ReleaseAllId) : (Runtime.openRelease id).Each Move := by
  refine .write fun words => ?_
  dsimp only
  split
  · rename_i admitted
    exact .releasing (.opened rfl admitted.2 rfl) rfl
  · exact .refl words

theorem bleExplicit_loads (route : Route.Snapshot) (ble : BleRouteAuthoritySnapshot) :
    (bleExplicit route ble).Loads :=
  .allOf ⟨.done _, bleRouteNormalAuthorityMatches_loads _⟩

theorem beginReleaseAll : Runtime.beginReleaseAll.Each Move := by
  refine admitted (fun _ _ => id) fun _ => .ite trivial ?_
  refine .bind (read _) fun _ => .ite trivial <| .bind (read _) fun _ => ?_
  refine .ite (.bind requestReleaseAll fun _ => trivial) ?_
  refine .bind (loads routeSnapshot_loads) fun _ => ?_
  refine .bind (loads bleRouteAuthoritySnapshot_loads) fun _ => ?_
  refine .bind (loads (bleExplicit_loads _ _)) fun _ => .bind (.onlyIf _ requestReleaseAll)
    fun _ => ?_
  refine .bind (admitRelease _ _ _) fun admission => ?_
  cases admission with
  | blocked | exhausted => trivial
  | lost => exact .bind requestReleaseAll fun _ => trivial
  | admitted id =>
      refine .bind (.onlyIf _ (.bind (cancelTicket (by decide)) fun _ =>
        cancelTicket (by decide))) fun _ => ?_
      refine .bind (bothInterfaces fun _ => scanInterface _ _) fun _ => ?_
      exact .bind (openRelease _) fun _ => trivial

/-! ### Finalization -/

theorem finalize_step {words after : Words} (next : after.nextReleaseId = words.nextReleaseId)
    (ticket : after.releaseTicket =
      { words.releaseTicket with state := words.releaseTicket.terminal }) :
    ReleaseStep words after := by
  have outcome (interface : Interface) :
      after.releaseTicket.outcome interface = words.releaseTicket.outcome interface := by
    rw [ticket]
    cases interface <;> rfl
  have identity : after.releaseTicket.identity = words.releaseTicket.identity := by
    rw [ticket]
    rfl
  have state : after.releaseTicket.state = words.releaseTicket.terminal := by rw [ticket]
  have timedOut (pending : words.releaseTicket.pending = true)
      (terminal : words.releaseTicket.terminal = .timedOut) : ReleaseStep words after := by
    refine .ended next pending identity
      ⟨?_, fun interface => (outcome interface ▸ ·), fun won => ?_⟩
    · rw [state, terminal]
      exact fun none => by cases none
    · rw [state, terminal] at won
      cases won
  cases was : words.releaseTicket.state with
  | succeeded =>
      refine .aside next (.inr (.inl ⟨was, ?_⟩))
      rw [ticket, ReleaseAllTicket.terminal, was]
  | failed =>
      refine .aside next (.inr (.inr ⟨was, ?_⟩))
      rw [ticket, ReleaseAllTicket.terminal, was]
  | admitting => exact timedOut (pending_of_admitting was) (by rw [ReleaseAllTicket.terminal, was])
  | «open» =>
      by_cases done : words.releaseTicket.transport = .usb ∧
          words.releaseTicket.keyboard.complete = true ∧ words.releaseTicket.mouse.complete = true
      · refine .ended next (pending_of_open was) identity ⟨?_, fun interface =>
          (outcome interface ▸ ·), fun _ => ⟨was, fun interface => ⟨?_, outcome interface⟩⟩⟩
        · rw [state, ReleaseAllTicket.terminal, was]
          dsimp only
          rw [if_pos done]
          exact fun none => by cases none
        · cases interface
          · exact done.2.1
          · exact done.2.2
      · exact timedOut (pending_of_open was) (by
          rw [ReleaseAllTicket.terminal, was]
          exact if_neg done)
  | inactive | successCommitting | canceled | timedOut | finalizedSuccess | finalizedFailure =>
      refine .of_same next ?_
      rw [ticket, ReleaseAllTicket.terminal, was]
      dsimp only
      rw [← was]

theorem finalizeReleaseAll (id : ReleaseAllId) : (Runtime.finalizeReleaseAll id).Each Move := by
  refine .readModifyWrite fun words => ?_
  dsimp only
  split
  · exact .refl words
  · exact .releasing (finalize_step rfl rfl) rfl

/-! ### BLE outcomes -/

theorem noteBleRouteContinuityLoss (expected : BleRouteAuthoritySnapshot) :
    (Runtime.noteBleRouteContinuityLoss expected).Each Move := by
  refine admitted (fun _ _ => id) fun _ => .write fun words => ?_
  dsimp only
  split
  · exact .releasing (fail_step rfl rfl) rfl
  · exact .refl words

/-- A ticket that matches a snapshot belongs to an active transaction on BLE. -/
theorem matches_ble {ticket : ReleaseAllTicket} {expected : ReleaseAllSnapshot}
    (same : ticket.matchesBle expected = true) :
    ticket.transport = .ble ∧ ticket.id = expected.id ∧ expected.id ≠ 0 := by
  simp only [ReleaseAllTicket.matchesBle, Bool.and_eq_true, beq_iff_eq, bne_iff_ne] at same
  tauto

theorem opens_ble {ticket : ReleaseAllTicket} {expected : ReleaseAllSnapshot}
    (opens : ticket.opensBle expected = true) :
    ticket.transport = .ble ∧ ticket.state = .open := by
  simp only [ReleaseAllTicket.opensBle, Bool.and_eq_true, beq_iff_eq] at opens
  exact ⟨(matches_ble opens.1.1).1, opens.2⟩

theorem prepareBleReleaseAllInterface (expected : ReleaseAllSnapshot) :
    (Runtime.prepareBleReleaseAllInterface expected interface).Each Move := by
  refine .readModifyWrite fun words => ?_
  dsimp only
  split
  · exact .refl words
  · rename_i opens
    obtain ⟨-, opened⟩ := opens_ble (Bool.not_eq_false _ ▸ opens)
    split
    · exact .refl words
    · split
      · exact .refl words
      · rename_i free
        obtain ⟨unresolved, -⟩ := not_or.mp free
        split
        · rename_i up
          exact .resolve rfl (pending_of_open opened)
            (.alreadyUp up (.inr (not_not.mp unresolved)))
        · exact .refl words

theorem completeBleReleaseAllInterface (expected : ReleaseAllSnapshot) :
    (Runtime.completeBleReleaseAllInterface expected interface).Each Move := by
  refine .readModifyWrite fun words => ?_
  dsimp only
  split
  · exact .refl words
  · rename_i free
    obtain ⟨opens, -⟩ := not_or.mp free
    obtain ⟨ble, opened⟩ := opens_ble (Bool.not_eq_false _ ▸ opens)
    refine .resolve (books_withInterface fun state => ?_) (pending_of_open opened)
      (.completed ble opened)
    cases interface <;> rfl

theorem failBleReleaseAll (expected : ReleaseAllSnapshot) (uncertain : Interface) :
    (Runtime.failBleReleaseAll expected uncertain).Each Move := by
  refine .write fun words => ?_
  dsimp only
  split
  · rename_i current
    obtain ⟨same, pending⟩ := (Bool.and_eq_true ..).mp current
    obtain ⟨-, id, named⟩ := matches_ble same
    have failed : words.releaseTicket.fail expected.id false =
        { words.releaseTicket with state := .failed, bleContinuityLost := false } :=
      id ▸ fail_pending pending (id ▸ named)
    refine .releasingBeside (books_withInterface fun _ => rfl) ?_
    refine failed_step rfl pending ?_ ?_ fun place submitted => ?_
    · change ((words.releaseTicket.fail expected.id false).setOutcome uncertain _).identity = _
      rw [setOutcome_identity, failed]
      rfl
    · change ((words.releaseTicket.fail expected.id false).setOutcome uncertain _).state = _
      rw [setOutcome_state, failed]
    · have kept := submitted_of_setOutcome (by decide) submitted
      rw [failed] at kept
      cases place <;> exact kept
  · exact .refl words

end HidBot.Runtime.Move
