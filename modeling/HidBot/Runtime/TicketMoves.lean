import HidBot.Runtime.Moves

/-!
# Moves of the report tickets

The writer of a ticket, its cancellations and its finalization, and the transports that
look at it. None of them uses a claim.
-/

namespace HidBot.Runtime.Move

open Interleaving

variable {α : Type} {interface : Interface}

/-! ### Writing a ticket -/

/-- A ticket at rest that has been used can be freed. -/
theorem turn_free {events : List Event} {ticket : ReportTicket} (terminal : ticket.terminal = true)
    (used : ticket.state ≠ .free) :
    Turn events ticket { ticket with state := .free } [.freed ticket.token.ticketId] := by
  have rank : ticket.state.rank = 3 := by
    cases state : ticket.state <;> simp_all [ReportTicket.terminal, TicketState.rank]
  refine ⟨rfl, rfl, fun _ => used, ?_, Nat.le_refl 1, fun event member => ?_, by simp,
    fun state => (by cases state), .inl⟩
  · rw [rank]
    exact Nat.le_succ 3
  · obtain rfl := List.mem_singleton.mp member
    exact ⟨rfl, by rw [rank]; exact Nat.lt_succ_self 3, Nat.le_refl 4, used⟩

theorem unclaimed_of_terminal {ticket : ReportTicket} (terminal : ticket.terminal = true) :
    ticket.state ≠ .claimed := by
  rintro claimed
  simp [ReportTicket.terminal, claimed] at terminal

theorem reapTicket : (Runtime.reapTicket interface).Each Move := by
  refine .readModifyWrite fun words => ?_
  dsimp only
  split
  · rename_i terminal
    split
    · exact .refl words
    · rename_i used
      exact .turn (turn_free terminal used) fun claimed =>
        absurd claimed (unclaimed_of_terminal terminal)
  · exact .refl words

theorem writeTicket (request : ReportRequest) (token : HidWorkToken) :
    (Runtime.writeTicket request token).Each Move := by
  refine .readModifyWrite fun words => ?_
  dsimp only
  split
  · exact .refl words
  · rename_i free
    split
    · exact .refl words
    · rename_i left
      exact {
        grows := List.suffix_cons ..
        tickets := .opened request _ left (not_not.mp free) rfl rfl rfl rfl rfl rfl rfl rfl
        slots := .of_same rfl
        release := .of_same rfl rfl
        sequence := sequence_still rfl (.inl rfl)
        activation := activation_still rfl (.inl rfl) }

theorem outcome_silent (fence : FinalFence) (token : HidWorkToken) (words : Words) :
    fence.outcome token words ≠ .submitted := by
  unfold FinalFence.outcome
  split
  · split <;> decide
  · split
    · decide
    · split <;> decide

/-- A ticket that is being written ends, or it is published. -/
theorem publishTicket (id : HidTicketId) (token : HidWorkToken) (fence : FinalFence) :
    (Runtime.publishTicket interface id token fence).Each Move := by
  refine .readModifyWrite fun words => ?_
  dsimp only
  split
  · exact .refl words
  · rename_i own
    obtain rfl := not_not.mp own
    split
    · rename_i canceled
      refine .turn (turn_settle (.inr (.inl canceled)) fun submitted => ?_) (by simp [canceled])
      split at submitted
      · cases submitted
      · exact submitted
    · rename_i writing
      split
      · exact .turn (turn_settle (.inl writing) (absurd · (outcome_silent _ _ _)))
          (by simp [writing])
      · refine .turn ⟨rfl, rfl, fun _ => (by simp [writing]), ?_, by simp, by simp, by simp,
          fun state => (by cases state), .inl⟩ (by simp [writing])
        rw [writing]
        exact Nat.le_refl 0
    · exact .refl words

theorem reportAlreadySet_loads (request : ReportRequest) : (reportAlreadySet request).Loads :=
  .allOf ⟨.done _, .read _, not_loads (.read _), not_loads (.read _)⟩

theorem readyTransport_loads (snapshot : StatusSnapshot) (route : Route.Snapshot)
    (ble : BleRouteAuthoritySnapshot) :
    (readyTransport interface snapshot route ble).Loads := by
  refine .bind (.allOf ⟨.done _, unsafeRouteActive_loads _ _⟩) fun _ => ?_
  refine .bind (.allOf ⟨.done _, compare_loads authorityEpoch_loads _,
    unsafeRouteActive_loads _ _⟩) fun _ => .done _

theorem workToken_loads (request : ReportRequest) (transport : HidTransport)
    (route : Route.Snapshot) (ble : BleRouteAuthoritySnapshot) (sequence : SequenceAuthority)
    (owner : ReportOriginOwnerId) :
    (workToken request transport route ble sequence owner).Loads := by
  cases transport with
  | usb =>
      exact .bind attachGeneration_loads fun _ => .bind authorityEpoch_loads fun _ =>
        .bind releaseEpoch_loads fun _ => .done _
  | ble =>
      exact .bind (.done _) fun _ => .bind authorityEpoch_loads fun _ =>
        .bind releaseEpoch_loads fun _ => .done _

theorem finalFence_loads (token : HidWorkToken) (sequence : SequenceAuthority) :
    (finalFence interface token sequence).Loads := by
  refine .bind (.read _) fun _ => .bind (.read _) fun _ => .bind (.read _) fun _ => ?_
  refine .bind (.allOf ⟨.done _, .read _⟩) fun _ => ?_
  refine .bind (.allOf ⟨.done _, not_loads (sequenceAuthorityCurrent_loads _)⟩) fun _ => ?_
  exact .bind (.anyOf ⟨.done _, not_loads (unsafeWorkCurrent_loads _),
    compare_loads releaseEpoch_loads _, safetyPending_loads, .read _, .read _⟩) fun _ => .done _

theorem issueTicket (request : ReportRequest) (sequence : SequenceAuthority)
    (token : HidWorkToken) : (Runtime.issueTicket request sequence token).Each Move := by
  refine .bind (writeTicket request token) fun written => ?_
  cases written with
  | busy | exhausted => trivial
  | written id => exact .bind (loads (finalFence_loads _ _)) fun _ => publishTicket _ _ _

theorem admitRequest (request : ReportRequest) (sequence : SequenceAuthority)
    (owner : ReportOriginOwnerId) (transport : HidTransport) (route : Route.Snapshot)
    (ble : BleRouteAuthoritySnapshot) :
    (Runtime.admitRequest request sequence owner transport route ble).Each Move := by
  refine .bind (loads safetyPending_loads) fun _ => .ite trivial <| .ite trivial ?_
  refine .bind reapTicket fun _ => .ite trivial ?_
  refine .bind (loads (.anyOf ⟨.read _, .read _⟩)) fun _ => .ite trivial ?_
  refine .bind (loads (reportAlreadySet_loads _)) fun _ => .ite trivial ?_
  exact .bind (loads (workToken_loads ..)) fun _ => issueTicket _ _ _

theorem beginReport (request : ReportRequest) (sequence : SequenceAuthority)
    (owner : ReportOriginOwnerId) : (Runtime.beginReport request sequence owner).Each Move := by
  refine admitted (fun _ _ => id) fun _ => .ite trivial ?_
  refine .bind (loads (.allOf ⟨.done _, .read _⟩)) fun _ => .ite trivial ?_
  refine .bind (loads (.allOf ⟨.done _, not_loads (sequenceAuthorityCurrent_loads _)⟩))
    fun _ => .ite trivial ?_
  refine .bind (read _) fun _ => .ite trivial ?_
  refine .bind (loads status_loads) fun _ => .bind (loads routeSnapshot_loads) fun _ => ?_
  refine .bind (loads bleRouteAuthoritySnapshot_loads) fun _ => ?_
  refine .bind (loads (readyTransport_loads _ _ _)) fun transport => ?_
  cases transport with
  | none => trivial
  | some transport => exact admitRequest _ _ _ _ _ _

/-! ### Ending a ticket -/

theorem cancelReport (id : HidTicketId) : (Runtime.cancelReport interface id).Each Move := by
  refine .readModifyWrite fun words => ?_
  dsimp only
  split
  · exact .refl words
  · rename_i own
    obtain rfl : (words.tickets interface).token.ticketId = id := not_not.mp fun other =>
      own (.inr other)
    split
    · exact .refl words
    · rename_i published
      rw [not_not] at published
      exact .turn (turn_settle (.inr (.inr published)) (by simp)) (by simp [published])

theorem finalizeReport (id : HidTicketId) : (Runtime.finalizeReport interface id).Each Move := by
  refine .readModifyWrite fun words => ?_
  dsimp only
  split
  · exact .refl words
  · rename_i own
    obtain rfl : (words.tickets interface).token.ticketId = id := not_not.mp fun other =>
      own (.inr other)
    split
    · exact .refl words
    · rename_i atRest
      obtain ⟨terminal, used⟩ := not_or.mp atRest
      rw [Bool.not_eq_false] at terminal
      exact .turn (turn_free terminal used) fun claimed =>
        absurd claimed (unclaimed_of_terminal terminal)

/-! ### Tokens -/

/-- A mark beside the life of the ticket. -/
theorem turn_mark {events : List Event} (ticket : ReportTicket) (marked : Bool) :
    Turn events ticket { ticket with bleActionPending := marked } [] :=
  ⟨rfl, rfl, id, Nat.le_refl _, Nat.zero_le 1, by simp, by simp, fun state => .inr ⟨state, rfl⟩,
    .inl⟩

theorem markBleReportScheduled (token : HidWorkToken) :
    (Runtime.markBleReportScheduled interface token).Each Move := by
  refine .readModifyWrite fun words => ?_
  dsimp only
  split
  · exact .refl words
  · split
    · exact .refl words
    · split
      · exact .refl words
      · exact .turn (turn_mark _ true) fun claimed => ⟨claimed, rfl⟩

theorem abandonBleReport (token : HidWorkToken) :
    (Runtime.abandonBleReport interface token).Each Move := by
  refine .readModifyWrite fun words => ?_
  dsimp only
  split
  · exact .refl words
  · exact .turn (turn_mark _ false) fun claimed => ⟨claimed, rfl⟩

theorem bleWorkTokenCurrent_loads (token : HidWorkToken) :
    (bleWorkTokenCurrent interface token).Loads :=
  .ite (.done _) <| .bind (unsafeWorkCurrent_loads _) fun _ => .ite (.done _) (.read _)

end HidBot.Runtime.Move
