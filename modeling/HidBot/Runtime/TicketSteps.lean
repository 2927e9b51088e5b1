import HidBot.Runtime.Execute
import HidBot.Interleaving.Rely
import Mathlib.Data.List.Pairwise

/-!
# Steps of the tickets

The life of a ticket id is opened, claimed, submitted, settled and freed, in that
order and each at most once. What every access of every caller can do to the
tickets is said once here; the order of events follows from it for every run.
-/

namespace HidBot.Runtime

open Interleaving

/-! ### The order of events -/

/-- The public ticket that an event is about. -/
def Event.ticket : Event → Option HidTicketId
  | .opened id _ | .claimed id | .settled id _ | .freed id => some id
  | .submitted submission =>
      if submission.origin = .ticket then some submission.token.ticketId else none

/-- The place of an event in the life of its ticket. -/
def Event.rank : Event → Nat
  | .opened .. => 0
  | .claimed _ => 1
  | .submitted _ => 2
  | .settled .. => 3
  | .freed _ => 4

/-- Events of one ticket come in the order of its life. -/
def Event.After (newer older : Event) : Prop :=
  ∀ id, newer.ticket = some id → older.ticket = some id → older.rank < newer.rank

/-- The last event that can have happened to a ticket in this state. -/
def TicketState.rank : TicketState → Nat
  | .writing | .writingCanceled | .published => 0
  | .claimed => 2
  | .submitted | .notReady | .canceled => 3
  | .free => 4

theorem Event.rank_le (event : Event) : event.rank ≤ 4 := by
  cases event <;> simp [Event.rank]

/-- Two events of one ticket and one rank are the same event. -/
theorem same_event {events : List Event} (ordered : events.Pairwise Event.After)
    {first second : Event} (one : first ∈ events) (two : second ∈ events) {id : HidTicketId}
    (about : first.ticket = some id) (same : second.ticket = some id)
    (rank : first.rank = second.rank) : first = second := by
  by_contra different
  have symmetric : Std.Symm fun newer older : Event => newer.After older ∨ older.After newer :=
    ⟨fun _ _ => Or.symm⟩
  have either : events.Pairwise fun newer older => newer.After older ∨ older.After newer :=
    ordered.imp .inl
  rcases either.forall one two different with newer | older
  · exact absurd (newer id about same) (by omega)
  · exact absurd (older id same about) (by omega)

/-! ### Ids -/

/-- The id was drawn before the allocator came to `next`. -/
def Drawn (next id : HidTicketId) : Prop := id ≠ 0 ∧ (next = 0 ∨ id.toNat < next.toNat)

theorem Drawn.fresh {next : HidTicketId} (left : next ≠ 0) : ¬Drawn next next := by
  rintro ⟨-, exhausted | earlier⟩
  · exact left exhausted
  · exact Nat.lt_irrefl _ earlier

theorem nextId_toNat {id : HidTicketId} (more : id ≠ 0xffffffffffffffff) :
    (nextId id).toNat = id.toNat + 1 := by
  have bounded : id.toNat ≠ 18446744073709551615 := fun same =>
    more (UInt64.toNat_inj.mp same)
  have below := id.toNat_lt
  unfold nextId
  rw [if_neg more, UInt64.toNat_add]
  simp only [UInt64.reduceToNat]
  omega

/-- The id that was drawn last. -/
theorem Drawn.last {next : HidTicketId} (left : next ≠ 0) : Drawn (nextId next) next := by
  refine ⟨left, ?_⟩
  by_cases exhausted : next = 0xffffffffffffffff
  · exact .inl (by rw [nextId, if_pos exhausted])
  · exact .inr (by rw [nextId_toNat exhausted]; omega)

theorem Drawn.earlier {next id : HidTicketId} (left : next ≠ 0) (drawn : Drawn next id) :
    Drawn (nextId next) id := by
  refine ⟨drawn.1, ?_⟩
  by_cases exhausted : next = 0xffffffffffffffff
  · exact .inl (by rw [nextId, if_pos exhausted])
  · have below : id.toNat < next.toNat := drawn.2.resolve_left left
    exact .inr (by rw [nextId_toNat exhausted]; omega)

/-! ### The invariant -/

/-- The submission of a ticket carries the report that the ticket was opened for. -/
structure Faithful (events : List Event) (submission : Submission) : Prop where
  claimed : .claimed submission.token.ticketId ∈ events
  request : ∃ request, .opened submission.token.ticketId request ∈ events ∧
    submission.interface = request.interface ∧ submission.report = request.report

/-- Some submission of the ticket was accepted. -/
def Accepted (events : List Event) (id : HidTicketId) : Prop :=
  ∃ submission, .submitted submission ∈ events ∧ submission.origin = .ticket ∧
    submission.token.ticketId = id ∧ submission.accepted = true

/-- A ticket agrees with the events about its id. -/
structure ReportTicket.Agrees (ticket : ReportTicket) (interface : Interface)
    (events : List Event) : Prop where
  used : ticket.state ≠ .free → ticket.token.ticketId ≠ 0
  opened : ticket.token.ticketId ≠ 0 → ∃ request,
    .opened ticket.token.ticketId request ∈ events ∧ request.interface = interface ∧
      request.report = ticket.report
  rank : ∀ event ∈ events, event.ticket = some ticket.token.ticketId →
    event.rank ≤ ticket.state.rank
  outcome : ticket.state = .submitted → ticket.outcome = .submitted
  accepted : ticket.outcome = .submitted → Accepted events ticket.token.ticketId

structure Words.TicketsSound (words : Words) : Prop where
  ordered : words.record.events.Pairwise Event.After
  drawn : ∀ event ∈ words.record.events, ∀ id, event.ticket = some id →
    Drawn words.nextPublicTicketId id
  faithful : ∀ submission, .submitted submission ∈ words.record.events →
    submission.origin = .ticket → Faithful words.record.events submission
  agrees : ∀ interface, (words.tickets interface).Agrees interface words.record.events

/-- The tickets of the two interfaces never share an id. -/
theorem Words.TicketsSound.distinct {words : Words} (sound : words.TicketsSound)
    {first second : Interface} {id : HidTicketId} (used : id ≠ 0)
    (one : (words.tickets first).token.ticketId = id)
    (two : (words.tickets second).token.ticketId = id) : first = second := by
  obtain ⟨request, opened, rfl, -⟩ := (sound.agrees first).opened (one ▸ used)
  obtain ⟨request', opened', rfl, -⟩ := (sound.agrees second).opened (two ▸ used)
  rw [one] at opened
  rw [two] at opened'
  have same := same_event sound.ordered opened opened' rfl rfl rfl
  cases same
  rfl

/-! ### What an access does to the tickets -/

/-- The task holds the claim on the ticket of an interface. -/
structure Owned (task : Route.Task) (interface : Interface) (id : HidTicketId) (words : Words) :
    Prop where
  claimed : (words.tickets interface).state = .claimed
  id : (words.tickets interface).token.ticketId = id
  claimer : words.record.claimer interface = some task

/-- No report of the ticket has been submitted. -/
def Unsubmitted (id : HidTicketId) (words : Words) : Prop :=
  ∀ event ∈ words.record.events, event.ticket = some id → event.rank ≤ 1

/-- A section turns its ticket over and notes what it did. -/
structure Turn (events : List Event) (before after : ReportTicket) (noted : List Event) : Prop where
  token : after.token = before.token
  report : after.report = before.report
  used : after.state ≠ .free → before.state ≠ .free
  rank : before.state.rank ≤ after.state.rank
  short : noted.length ≤ 1
  about : ∀ event ∈ noted, event.ticket = some before.token.ticketId ∧
    before.state.rank < event.rank ∧ event.rank ≤ after.state.rank ∧ before.state ≠ .free
  silent : ∀ submission, Event.submitted submission ∉ noted
  outcome : after.state = .submitted →
    after.outcome = .submitted ∨ before.state = .submitted ∧ after.outcome = before.outcome
  accepted : after.outcome = .submitted →
    before.outcome = .submitted ∨ Accepted events before.token.ticketId

/-- What an access leaves of the words that the tickets do not own. -/
structure Section (before after : Words) (interface : Interface) (ticket : ReportTicket)
    (noted : List Event) : Prop where
  tickets : after.tickets = Function.update before.tickets interface ticket
  next : after.nextPublicTicketId = before.nextPublicTicketId
  events : after.record.events = noted ++ before.record.events

/-- An access by a caller that need not hold a claim. -/
inductive Quiet (before after : Words) : Prop where
  | aside (noted : List Event) (tickets : after.tickets = before.tickets)
      (next : after.nextPublicTicketId = before.nextPublicTicketId)
      (claimer : after.record.claimer = before.record.claimer)
      (events : after.record.events = noted ++ before.record.events)
      (untracked : ∀ event ∈ noted, event.ticket = none)
  | opened (request : ReportRequest) (ticket : ReportTicket)
      (left : before.nextPublicTicketId ≠ 0)
      (free : (before.tickets request.interface).state = .free)
      (tickets : after.tickets = Function.update before.tickets request.interface ticket)
      (next : after.nextPublicTicketId = nextId before.nextPublicTicketId)
      (claimer : after.record.claimer = before.record.claimer)
      (events : after.record.events =
        .opened before.nextPublicTicketId request :: before.record.events)
      (id : ticket.token.ticketId = before.nextPublicTicketId)
      (state : ticket.state = .writing) (outcome : ticket.outcome = .none)
      (report : ticket.report = request.report)
  | turn (interface : Interface) (ticket : ReportTicket) (noted : List Event)
      (made : Section before after interface ticket noted)
      (claimer : after.record.claimer = before.record.claimer)
      (turn : Turn before.record.events (before.tickets interface) ticket noted)
      (unclaimed : (before.tickets interface).state = .claimed →
        ticket.state = .claimed ∧ noted = [])

/-- An access of a caller, which may take a claim or use the one it has. -/
inductive TicketStep (task : Route.Task) (before after : Words) : Prop where
  | quiet (quiet : Quiet before after)
  | claim (interface : Interface) (ticket : ReportTicket)
      (made : Section before after interface ticket
        [.claimed (before.tickets interface).token.ticketId])
      (claimer : after.record.claimer =
        Function.update before.record.claimer interface (some task))
      (turn : Turn before.record.events (before.tickets interface) ticket
        [.claimed (before.tickets interface).token.ticketId])
      (published : (before.tickets interface).state = .published)
  | submit (interface : Interface) (submission : Submission)
      (owned : Owned task interface submission.token.ticketId before)
      (unsubmitted : Unsubmitted submission.token.ticketId before)
      (faithful : Faithful before.record.events submission)
      (origin : submission.origin = .ticket)
      (tickets : after.tickets = before.tickets)
      (next : after.nextPublicTicketId = before.nextPublicTicketId)
      (claimer : after.record.claimer = before.record.claimer)
      (events : after.record.events = .submitted submission :: before.record.events)
  | settle (interface : Interface) (id : HidTicketId) (ticket : ReportTicket) (noted : List Event)
      (owned : Owned task interface id before)
      (made : Section before after interface ticket noted)
      (claimer : after.record.claimer = before.record.claimer)
      (turn : Turn before.record.events (before.tickets interface) ticket noted)

/-! ### Steps keep the invariant -/

section Keep

variable {task : Route.Task} {interface : Interface} {before after : Words}

theorem Faithful.grow {events : List Event} {submission : Submission}
    (faithful : Faithful events submission) (noted : List Event) :
    Faithful (noted ++ events) submission where
  claimed := List.mem_append_right noted faithful.claimed
  request := by
    obtain ⟨request, opened, same⟩ := faithful.request
    exact ⟨request, List.mem_append_right noted opened, same⟩

theorem Accepted.grow {events : List Event} {id : HidTicketId} (accepted : Accepted events id)
    (noted : List Event) : Accepted (noted ++ events) id := by
  obtain ⟨submission, submitted, rest⟩ := accepted
  exact ⟨submission, List.mem_append_right noted submitted, rest⟩

/-- Events about other tickets do not matter to a ticket. -/
theorem ReportTicket.Agrees.grow {ticket : ReportTicket} {events : List Event}
    (agrees : ticket.Agrees interface events) (noted : List Event)
    (others : ∀ event ∈ noted, event.ticket ≠ some ticket.token.ticketId) :
    ticket.Agrees interface (noted ++ events) where
  used := agrees.used
  opened used := by
    obtain ⟨request, opened, same⟩ := agrees.opened used
    exact ⟨request, List.mem_append_right noted opened, same⟩
  rank event member about := by
    rcases List.mem_append.mp member with new | old
    · exact absurd about (others event new)
    · exact agrees.rank event old about
  outcome := agrees.outcome
  accepted submitted := (agrees.accepted submitted).grow noted

theorem Turn.agrees {events noted : List Event} {old new : ReportTicket}
    (turn : Turn events old new noted) (agrees : old.Agrees interface events) :
    new.Agrees interface (noted ++ events) where
  used live := turn.token ▸ agrees.used (turn.used live)
  opened used := by
    rw [turn.token] at used ⊢
    obtain ⟨request, opened, same, report⟩ := agrees.opened used
    exact ⟨request, List.mem_append_right noted opened, same, report.trans turn.report.symm⟩
  rank event member about := by
    rcases List.mem_append.mp member with made | old
    · exact (turn.about event made).2.2.1
    · exact (agrees.rank event old (turn.token ▸ about)).trans turn.rank
  outcome submitted := by
    rcases turn.outcome submitted with now | ⟨before, same⟩
    · exact now
    · exact same.trans (agrees.outcome before)
  accepted submitted := by
    rw [turn.token]
    rcases turn.accepted submitted with kept | accepted
    · exact (agrees.accepted kept).grow noted
    · exact accepted.grow noted

/-- A noted event is the newest of its ticket. -/
theorem Turn.ordered {events noted : List Event} {old new : ReportTicket}
    (turn : Turn events old new noted) (agrees : old.Agrees interface events)
    (ordered : events.Pairwise Event.After) : (noted ++ events).Pairwise Event.After := by
  match noted, turn.short, turn.about with
  | [], _, _ => exact ordered
  | [event], _, about =>
      obtain ⟨own, above, -, -⟩ := about event (by simp)
      refine List.pairwise_cons.mpr ⟨fun older member id newer same => ?_, ordered⟩
      have named : old.token.ticketId = id := by simpa using own.symm.trans newer
      exact (agrees.rank older member (named ▸ same)).trans_lt above

theorem Words.TicketsSound.turn {ticket : ReportTicket} {noted : List Event}
    (sound : before.TicketsSound) (made : Section before after interface ticket noted)
    (turn : Turn before.record.events (before.tickets interface) ticket noted) :
    after.TicketsSound where
  ordered := made.events ▸ turn.ordered (sound.agrees interface) sound.ordered
  drawn event member id about := by
    rw [made.events] at member
    rw [made.next]
    rcases List.mem_append.mp member with new | old
    · obtain ⟨own, -, -, live⟩ := turn.about event new
      obtain ⟨request, opened, -⟩ :=
        (sound.agrees interface).opened ((sound.agrees interface).used live)
      have named : (before.tickets interface).token.ticketId = id := by
        simpa using own.symm.trans about
      exact sound.drawn _ opened id (congrArg some named)
    · exact sound.drawn event old id about
  faithful submission member origin := by
    rw [made.events] at member ⊢
    rcases List.mem_append.mp member with new | old
    · exact absurd new (turn.silent submission)
    · exact (sound.faithful submission old origin).grow noted
  agrees other := by
    rw [made.tickets, made.events]
    by_cases same : other = interface
    · subst same
      rw [Function.update_self]
      exact turn.agrees (sound.agrees other)
    · rw [Function.update_of_ne same]
      refine (sound.agrees other).grow _ fun event new about => ?_
      obtain ⟨own, -, -, live⟩ := turn.about event new
      have used := (sound.agrees interface).used live
      have named : (before.tickets other).token.ticketId =
          (before.tickets interface).token.ticketId := by simpa using about.symm.trans own
      exact same (sound.distinct used named rfl)

theorem Words.TicketsSound.aside {noted : List Event} (sound : before.TicketsSound)
    (tickets : after.tickets = before.tickets)
    (next : after.nextPublicTicketId = before.nextPublicTicketId)
    (events : after.record.events = noted ++ before.record.events)
    (untracked : ∀ event ∈ noted, event.ticket = none) : after.TicketsSound where
  ordered := by
    rw [events]
    refine List.pairwise_append.mpr ⟨?_, sound.ordered, ?_⟩
    · refine List.pairwise_of_forall_mem_list fun newer member _ _ id about => ?_
      simp [untracked newer member] at about
    · intro newer member _ _ id about
      simp [untracked newer member] at about
  drawn event member id about := by
    rw [events] at member
    rw [next]
    rcases List.mem_append.mp member with new | old
    · simp [untracked event new] at about
    · exact sound.drawn event old id about
  faithful submission member origin := by
    rw [events] at member ⊢
    rcases List.mem_append.mp member with new | old
    · have none := untracked _ new
      simp [Event.ticket, origin] at none
    · exact (sound.faithful submission old origin).grow noted
  agrees interface := by
    rw [tickets, events]
    exact (sound.agrees interface).grow _ fun event new => by simp [untracked event new]

/-- Before an id is drawn nothing is known about it. -/
theorem Words.TicketsSound.unknown (sound : before.TicketsSound)
    (left : before.nextPublicTicketId ≠ 0) :
    ∀ event ∈ before.record.events, event.ticket ≠ some before.nextPublicTicketId :=
  fun event member about => (Drawn.fresh left) (sound.drawn event member _ about)

theorem Words.TicketsSound.opened {request : ReportRequest} {ticket : ReportTicket}
    (sound : before.TicketsSound) (left : before.nextPublicTicketId ≠ 0)
    (tickets : after.tickets = Function.update before.tickets request.interface ticket)
    (next : after.nextPublicTicketId = nextId before.nextPublicTicketId)
    (events : after.record.events =
      .opened before.nextPublicTicketId request :: before.record.events)
    (id : ticket.token.ticketId = before.nextPublicTicketId)
    (state : ticket.state = .writing) (outcome : ticket.outcome = .none)
    (report : ticket.report = request.report) : after.TicketsSound where
  ordered := by
    rw [events]
    refine List.pairwise_cons.mpr ⟨fun older member id newer same => ?_, sound.ordered⟩
    have named : before.nextPublicTicketId = id := by simpa [Event.ticket] using newer
    exact absurd (named ▸ same) (sound.unknown left older member)
  drawn event member id about := by
    rw [events] at member
    rw [next]
    rcases List.mem_cons.mp member with rfl | old
    · have named : before.nextPublicTicketId = id := by simpa [Event.ticket] using about
      exact named ▸ Drawn.last left
    · exact (sound.drawn event old id about).earlier left
  faithful submission member origin := by
    rw [events] at member ⊢
    rcases List.mem_cons.mp member with new | old
    · cases new
    · exact (sound.faithful submission old origin).grow [_]
  agrees other := by
    rw [tickets, events]
    by_cases same : other = request.interface
    · subst same
      rw [Function.update_self]
      refine ⟨fun _ => id ▸ left, fun _ => ⟨request, ?_, rfl, report.symm⟩, ?_, ?_, ?_⟩
      · simp [id]
      · intro event member about
        rcases List.mem_cons.mp member with rfl | old
        · simp [Event.rank, TicketState.rank, state]
        · exact absurd (id ▸ about) (sound.unknown left event old)
      · simp [state]
      · simp [outcome]
    · rw [Function.update_of_ne same]
      refine (sound.agrees other).grow [_] fun event new about => ?_
      obtain rfl := List.mem_singleton.mp new
      have named : before.nextPublicTicketId = (before.tickets other).token.ticketId := by
        simpa [Event.ticket] using about
      obtain ⟨asked, opened, -⟩ := (sound.agrees other).opened (named ▸ left)
      exact sound.unknown left _ opened (by simp [Event.ticket, named])

theorem Words.TicketsSound.submit {submission : Submission} (sound : before.TicketsSound)
    (owned : Owned task interface submission.token.ticketId before)
    (unsubmitted : Unsubmitted submission.token.ticketId before)
    (faithful : Faithful before.record.events submission)
    (origin : submission.origin = .ticket) (tickets : after.tickets = before.tickets)
    (next : after.nextPublicTicketId = before.nextPublicTicketId)
    (events : after.record.events = .submitted submission :: before.record.events) :
    after.TicketsSound where
  ordered := by
    rw [events]
    refine List.pairwise_cons.mpr ⟨fun older member id newer same => ?_, sound.ordered⟩
    have named : submission.token.ticketId = id := by simpa [Event.ticket, origin] using newer
    exact Nat.lt_succ_of_le (unsubmitted older member (named ▸ same))
  drawn event member id about := by
    rw [events] at member
    rw [next]
    rcases List.mem_cons.mp member with rfl | old
    · have named : submission.token.ticketId = id := by simpa [Event.ticket, origin] using about
      exact sound.drawn _ faithful.claimed id (by simp [Event.ticket, named])
    · exact sound.drawn event old id about
  faithful submission' member origin' := by
    rw [events] at member ⊢
    rcases List.mem_cons.mp member with new | old
    · cases new
      exact faithful.grow [_]
    · exact (sound.faithful submission' old origin').grow [_]
  agrees other := by
    rw [tickets, events]
    by_cases same : other = interface
    · subst same
      have agrees := sound.agrees other
      refine ⟨agrees.used, fun used => ?_, fun event member about => ?_, agrees.outcome,
        fun submitted => (agrees.accepted submitted).grow [_]⟩
      · obtain ⟨request, opened, rest⟩ := agrees.opened used
        exact ⟨request, List.mem_cons_of_mem _ opened, rest⟩
      · rcases List.mem_cons.mp member with rfl | old
        · rw [owned.claimed]
          exact Nat.le_refl 2
        · exact agrees.rank event old about
    · refine (sound.agrees other).grow [_] fun event new about => ?_
      obtain rfl := List.mem_singleton.mp new
      have named : (before.tickets other).token.ticketId = submission.token.ticketId := by
        simpa [Event.ticket, origin] using about.symm
      have used : submission.token.ticketId ≠ 0 :=
        owned.id ▸ (sound.agrees interface).used (by simp [owned.claimed])
      exact same (sound.distinct used named owned.id)

/-- **Every access keeps the invariant.** -/
theorem TicketStep.sound (step : TicketStep task before after) (sound : before.TicketsSound) :
    after.TicketsSound := by
  cases step with
  | quiet quiet =>
      cases quiet with
      | aside noted tickets next claimer events untracked =>
          exact sound.aside tickets next events untracked
      | opened request ticket left free tickets next claimer events id state outcome report =>
          exact sound.opened left tickets next events id state outcome report
      | turn interface ticket noted made claimer turn unclaimed => exact sound.turn made turn
  | claim interface ticket made claimer turn published => exact sound.turn made turn
  | submit interface submission owned unsubmitted faithful origin tickets next claimer events =>
      exact sound.submit owned unsubmitted faithful origin tickets next events
  | settle interface id ticket noted owned made claimer turn => exact sound.turn made turn

/-- No event is forgotten. -/
theorem TicketStep.grows (step : TicketStep task before after) :
    before.record.events <:+ after.record.events := by
  cases step with
  | quiet quiet =>
      cases quiet with
      | aside noted tickets next claimer events untracked => exact ⟨noted, events.symm⟩
      | opened request ticket left free tickets next claimer events id state outcome report =>
          exact ⟨[_], events.symm⟩
      | turn interface ticket noted made claimer turn unclaimed => exact ⟨noted, made.events.symm⟩
  | claim interface ticket made claimer turn published => exact ⟨_, made.events.symm⟩
  | submit interface submission owned unsubmitted faithful origin tickets next claimer events =>
      exact ⟨[_], events.symm⟩
  | settle interface id ticket noted owned made claimer turn => exact ⟨noted, made.events.symm⟩

/-! ### A claim is exclusive -/

/-- The claim stands, and so does what was not yet submitted under it. -/
structure ClaimKept (task : Route.Task) (interface : Interface) (id : HidTicketId)
    (before after : Words) : Prop where
  owned : Owned task interface id after
  unsubmitted : Unsubmitted id before → Unsubmitted id after

theorem Unsubmitted.grow {id : HidTicketId} (noted : List Event)
    (events : after.record.events = noted ++ before.record.events)
    (others : ∀ event ∈ noted, event.ticket ≠ some id) (unsubmitted : Unsubmitted id before) :
    Unsubmitted id after := by
  intro event member about
  rw [events] at member
  rcases List.mem_append.mp member with new | old
  · exact absurd about (others event new)
  · exact unsubmitted event old about

/-- A section on another ticket leaves a claim alone. -/
theorem Section.claimKept {other : Interface} {ticket : ReportTicket} {noted : List Event}
    {id : HidTicketId} (made : Section before after other ticket noted)
    (turn : Turn before.record.events (before.tickets other) ticket noted)
    (sound : before.TicketsSound) (different : interface ≠ other)
    (claimer : after.record.claimer interface = before.record.claimer interface)
    (owned : Owned task interface id before) : ClaimKept task interface id before after := by
  have same : after.tickets interface = before.tickets interface := by
    rw [made.tickets, Function.update_of_ne different]
  refine ⟨⟨same ▸ owned.claimed, same ▸ owned.id, claimer.trans owned.claimer⟩, ?_⟩
  refine Unsubmitted.grow _ made.events fun event new about => ?_
  obtain ⟨own, -, -, live⟩ := turn.about event new
  have named : (before.tickets other).token.ticketId = id := by simpa using own.symm.trans about
  have used := named ▸ (sound.agrees other).used live
  exact different (sound.distinct used owned.id named)

theorem Quiet.claimKept {id : HidTicketId} (quiet : Quiet before after)
    (sound : before.TicketsSound) (owned : Owned task interface id before) :
    ClaimKept task interface id before after := by
  cases quiet with
  | aside noted tickets next claimer events untracked =>
      refine ⟨⟨tickets ▸ owned.claimed, tickets ▸ owned.id, claimer ▸ owned.claimer⟩, ?_⟩
      exact Unsubmitted.grow _ events fun event new => by simp [untracked event new]
  | opened request ticket left free tickets next claimer events asked state outcome report =>
      have different : interface ≠ request.interface := by
        rintro rfl
        simp [owned.claimed] at free
      have same : after.tickets interface = before.tickets interface := by
        rw [tickets, Function.update_of_ne different]
      refine ⟨⟨same ▸ owned.claimed, same ▸ owned.id, claimer ▸ owned.claimer⟩, ?_⟩
      refine Unsubmitted.grow [_] events fun event new about => ?_
      obtain rfl := List.mem_singleton.mp new
      have named : before.nextPublicTicketId = id := by simpa [Event.ticket] using about
      obtain ⟨asked, opened, -⟩ :=
        (sound.agrees interface).opened (by rw [owned.id, ← named]; exact left)
      exact sound.unknown left _ opened (by simp [Event.ticket, owned.id, named])
  | turn other ticket noted made claimer turn unclaimed =>
      by_cases same : interface = other
      · subst same
        obtain ⟨claimed, rfl⟩ := unclaimed owned.claimed
        have now : after.tickets interface = ticket := by rw [made.tickets, Function.update_self]
        refine ⟨⟨now ▸ claimed, ?_, claimer ▸ owned.claimer⟩, ?_⟩
        · rw [now, turn.token, owned.id]
        · exact Unsubmitted.grow _ made.events (by simp)
      · exact made.claimKept turn sound same (by rw [claimer]) owned

/-- An access of another task leaves a claim alone. -/
theorem TicketStep.claimKept {other : Route.Task} {id : HidTicketId}
    (step : TicketStep other before after) (different : task ≠ other)
    (sound : before.TicketsSound) (owned : Owned task interface id before) :
    ClaimKept task interface id before after := by
  have elsewhere {held : Interface} {taken : HidTicketId} (claim : Owned other held taken before) :
      interface ≠ held := by
    rintro rfl
    exact different (Option.some.inj (owned.claimer.symm.trans claim.claimer))
  cases step with
  | quiet quiet => exact quiet.claimKept sound owned
  | claim held ticket made claimer turn published =>
      have apart : interface ≠ held := by
        rintro rfl
        simp [owned.claimed] at published
      exact made.claimKept turn sound apart (by rw [claimer, Function.update_of_ne apart]) owned
  | submit held submission claim unsubmitted faithful origin tickets next claimer events =>
      refine ⟨⟨tickets ▸ owned.claimed, tickets ▸ owned.id, claimer ▸ owned.claimer⟩, ?_⟩
      refine Unsubmitted.grow [_] events fun event new about => ?_
      obtain rfl := List.mem_singleton.mp new
      have named : submission.token.ticketId = id := by simpa [Event.ticket, origin] using about
      have used : id ≠ 0 := owned.id ▸ (sound.agrees interface).used (by simp [owned.claimed])
      exact elsewhere claim (sound.distinct used owned.id (claim.id.trans named))
  | settle held taken ticket noted claim made claimer turn =>
      exact made.claimKept turn sound (elsewhere claim) (by rw [claimer]) owned

end Keep

end HidBot.Runtime
