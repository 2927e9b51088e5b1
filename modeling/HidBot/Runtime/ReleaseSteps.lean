import HidBot.Runtime.TicketSteps

/-!
# Steps of the release transaction

A transaction is admitted under an id of its own, each interface gets an outcome, and the
transaction ends once. What every access of every caller can do to it is said once here;
that a success is real and that a fate is final follows from it for every run.
-/

namespace HidBot.Runtime

open Interleaving

/-! ### Fates -/

inductive ReleaseFate where
  | success
  | failure
  deriving DecidableEq, Repr

/-- How a transaction in this state has ended. -/
def ReleaseAllTransactionState.fate : ReleaseAllTransactionState → Option ReleaseFate
  | .inactive | .admitting | .open | .successCommitting => none
  | .succeeded | .finalizedSuccess => some .success
  | .failed | .canceled | .timedOut | .finalizedFailure => some .failure

/-- The transaction without its progress: only its admission writes this. -/
def ReleaseAllTicket.identity (ticket : ReleaseAllTicket) : ReleaseAllTicket :=
  { ticket with
    keyboard := .unresolved, mouse := .unresolved, state := .inactive, bleContinuityLost := false }

/-- A neutral report that USB has accepted for an interface of a transaction. -/
structure ReleaseAllTicket.Neutral (ticket : ReleaseAllTicket) (interface : Interface)
    (submission : Submission) : Prop where
  origin : submission.origin = .mailbox ticket.id
  destination : submission.interface = interface
  accepted : submission.accepted = true
  kind : submission.token.reportKind.isSafety = true
  transport : submission.token.transport = .usb
  report : submission.report = interface.allUp
  transportGeneration : submission.token.transportGeneration = ticket.transportGeneration
  authorityEpoch : submission.token.authorityEpoch = ticket.authorityEpoch
  releaseEpoch : submission.token.releaseEpoch = ticket.releaseEpoch

/-- USB has accepted a neutral report of the interface for the transaction. -/
def ReleaseAllTicket.Released (ticket : ReleaseAllTicket) (interface : Interface)
    (events : List Event) : Prop :=
  ∃ submission, .submitted submission ∈ events ∧ ticket.Neutral interface submission

/-! ### What an access does to the transaction -/

/-- An outcome may be given to an interface of a transaction that has not ended. -/
inductive Resolution (before after : Words) (interface : Interface) :
    ReleaseAllInterfaceState → Prop where
  | alreadyUp (up : (knownAllUp interface).value before = true)
      (fresh : before.releaseTicket.state = .admitting ∨
        before.releaseTicket.outcome interface = .unresolved) :
      Resolution before after interface .alreadyUp
  | released (transport : before.releaseTicket.transport = .usb)
      (released : before.releaseTicket.Released interface after.record.events) :
      Resolution before after interface .submitted
  | completed (transport : before.releaseTicket.transport = .ble)
      (opened : before.releaseTicket.state = .open) :
      Resolution before after interface .submitted
  | pending (admitting : before.releaseTicket.state = .admitting) :
      Resolution before after interface .pending

/-- A transaction that has not ended ends, and succeeds only when both interfaces are done. -/
structure Ending (before after : ReleaseAllTicket) : Prop where
  ended : after.state.fate ≠ none
  submitted : ∀ interface, after.outcome interface = .submitted →
    before.outcome interface = .submitted
  success : after.state.fate = some .success → before.state = .open ∧ ∀ interface,
    (before.outcome interface).complete = true ∧
      after.outcome interface = before.outcome interface

/-- A transaction that has ended is finalized. -/
def Finalized (before after : ReleaseAllTicket) : Prop :=
  after = before ∨
    before.state = .succeeded ∧ after = { before with state := .finalizedSuccess } ∨
    before.state = .failed ∧ after = { before with state := .finalizedFailure }

/-- What an access does to the transaction and to the ids. -/
inductive ReleaseStep (before after : Words) : Prop where
  | aside (next : after.nextReleaseId = before.nextReleaseId)
      (finalized : Finalized before.releaseTicket after.releaseTicket)
  | admitted (inactive : before.releaseTicket.state.active = false)
      (left : before.nextReleaseId ≠ 0)
      (next : after.nextReleaseId = nextId before.nextReleaseId)
      (id : after.releaseTicket.id = before.nextReleaseId)
      (state : after.releaseTicket.state = .admitting)
      (unresolved : ∀ interface, after.releaseTicket.outcome interface = .unresolved)
  | opened (next : after.nextReleaseId = before.nextReleaseId)
      (admitting : before.releaseTicket.state = .admitting)
      (ticket : after.releaseTicket = { before.releaseTicket with state := .open })
  | resolved (interface : Interface) (outcome : ReleaseAllInterfaceState)
      (next : after.nextReleaseId = before.nextReleaseId)
      (pending : before.releaseTicket.pending = true)
      (resolution : Resolution before after interface outcome)
      (ticket : after.releaseTicket = before.releaseTicket.setOutcome interface outcome)
  | ended (next : after.nextReleaseId = before.nextReleaseId)
      (pending : before.releaseTicket.pending = true)
      (identity : after.releaseTicket.identity = before.releaseTicket.identity)
      (ending : Ending before.releaseTicket after.releaseTicket)

theorem ReleaseStep.of_same {before after : Words}
    (next : after.nextReleaseId = before.nextReleaseId)
    (ticket : after.releaseTicket = before.releaseTicket) : ReleaseStep before after :=
  .aside next (.inl ticket)

theorem ReleaseStep.refl (words : Words) : ReleaseStep words words := .of_same rfl rfl

/-! ### The invariant -/

/-- Whatever the transaction claims, it has reason to. -/
structure Words.ReleaseSound (words : Words) : Prop where
  drawn : words.releaseTicket.id ≠ 0 → Drawn words.nextReleaseId words.releaseTicket.id
  named : words.releaseTicket.id = 0 → words.releaseTicket.state = .inactive
  success : words.releaseTicket.state.fate = some .success →
    ∀ interface, (words.releaseTicket.outcome interface).complete = true
  released : words.releaseTicket.transport = .usb → ∀ interface,
    words.releaseTicket.outcome interface = .submitted →
      words.releaseTicket.Released interface words.record.events

theorem ReleaseAllTicket.Released.grow {ticket : ReleaseAllTicket} {interface : Interface}
    {before after : List Event} (released : ticket.Released interface before)
    (grows : before <:+ after) : ticket.Released interface after := by
  obtain ⟨submission, member, neutral⟩ := released
  exact ⟨submission, grows.subset member, neutral⟩

/-- Two transactions with one identity have the same fields in it. -/
theorem identity_field {α : Type} {first second : ReleaseAllTicket}
    (same : first.identity = second.identity) (field : ReleaseAllTicket → α)
    (own : ∀ ticket : ReleaseAllTicket, field ticket.identity = field ticket) :
    field first = field second := by
  rw [← own first, same, own]

/-- The report was accepted for the identity of the transaction. -/
theorem ReleaseAllTicket.Released.of_identity {first second : ReleaseAllTicket}
    {interface : Interface} {events : List Event} (same : first.identity = second.identity)
    (released : first.Released interface events) : second.Released interface events := by
  obtain ⟨submission, member, neutral⟩ := released
  have id : first.id = second.id := identity_field same (·.id) fun _ => rfl
  have generation := identity_field same (·.transportGeneration) fun _ => rfl
  have authority := identity_field same (·.authorityEpoch) fun _ => rfl
  have epoch := identity_field same (·.releaseEpoch) fun _ => rfl
  refine ⟨submission, member, ?_⟩
  exact {
    neutral with
    origin := id ▸ neutral.origin
    transportGeneration := generation ▸ neutral.transportGeneration
    authorityEpoch := authority ▸ neutral.authorityEpoch
    releaseEpoch := epoch ▸ neutral.releaseEpoch }

section Steps

variable {before after : Words}

@[simp] theorem setOutcome_identity (ticket : ReleaseAllTicket) (interface : Interface)
    (outcome : ReleaseAllInterfaceState) :
    (ticket.setOutcome interface outcome).identity = ticket.identity := by
  cases interface <;> rfl

@[simp] theorem setOutcome_state (ticket : ReleaseAllTicket) (interface : Interface)
    (outcome : ReleaseAllInterfaceState) :
    (ticket.setOutcome interface outcome).state = ticket.state := by
  cases interface <;> rfl

@[simp] theorem setOutcome_id (ticket : ReleaseAllTicket) (interface : Interface)
    (outcome : ReleaseAllInterfaceState) :
    (ticket.setOutcome interface outcome).id = ticket.id := by
  cases interface <;> rfl

@[simp] theorem setOutcome_transport (ticket : ReleaseAllTicket) (interface : Interface)
    (outcome : ReleaseAllInterfaceState) :
    (ticket.setOutcome interface outcome).transport = ticket.transport := by
  cases interface <;> rfl

theorem setOutcome_outcome (ticket : ReleaseAllTicket) (interface other : Interface)
    (outcome : ReleaseAllInterfaceState) :
    (ticket.setOutcome interface outcome).outcome other =
      if other = interface then outcome else ticket.outcome other := by
  cases interface <;> cases other <;> rfl

theorem Finalized.identity {ticket later : ReleaseAllTicket} (finalized : Finalized ticket later) :
    later.identity = ticket.identity := by
  rcases finalized with rfl | ⟨-, rfl⟩ | ⟨-, rfl⟩ <;> rfl

theorem Finalized.outcome {ticket later : ReleaseAllTicket} (finalized : Finalized ticket later)
    (interface : Interface) : later.outcome interface = ticket.outcome interface := by
  rcases finalized with rfl | ⟨-, rfl⟩ | ⟨-, rfl⟩ <;> cases interface <;> rfl

theorem Finalized.fate {ticket later : ReleaseAllTicket} (finalized : Finalized ticket later) :
    later.state.fate = ticket.state.fate := by
  rcases finalized with rfl | ⟨was, rfl⟩ | ⟨was, rfl⟩
  · rfl
  · rw [was]
    rfl
  · rw [was]
    rfl

theorem pending_fate {ticket : ReleaseAllTicket} (pending : ticket.pending = true) :
    ticket.state.fate = none := by
  cases state : ticket.state <;> simp [ReleaseAllTicket.pending, state] at pending <;> rfl

theorem pending_active {ticket : ReleaseAllTicket} (pending : ticket.pending = true) :
    ticket.state.active = true := by
  cases state : ticket.state <;> simp [ReleaseAllTicket.pending, state] at pending <;> rfl

/-- A transaction with a name keeps it until another one is admitted. -/
theorem ReleaseStep.identity (step : ReleaseStep before after) :
    after.nextReleaseId = before.nextReleaseId ∧
        after.releaseTicket.identity = before.releaseTicket.identity ∨
      before.nextReleaseId ≠ 0 ∧ after.nextReleaseId = nextId before.nextReleaseId ∧
        after.releaseTicket.id = before.nextReleaseId := by
  cases step with
  | aside next finalized => exact .inl ⟨next, finalized.identity⟩
  | admitted inactive left next id state unresolved => exact .inr ⟨left, next, id⟩
  | opened next admitting ticket => exact .inl ⟨next, by rw [ticket]; rfl⟩
  | resolved interface outcome next pending resolution ticket =>
      exact .inl ⟨next, by rw [ticket, setOutcome_identity]⟩
  | ended next pending identity ending => exact .inl ⟨next, identity⟩

/-- **Every access keeps the invariant.** -/
theorem ReleaseStep.sound (step : ReleaseStep before after)
    (grows : before.record.events <:+ after.record.events) (sound : before.ReleaseSound) :
    after.ReleaseSound := by
  have id_of (identity : after.releaseTicket.identity = before.releaseTicket.identity) :
      after.releaseTicket.id = before.releaseTicket.id :=
    identity_field identity (·.id) fun _ => rfl
  have drawn : after.releaseTicket.id ≠ 0 → Drawn after.nextReleaseId after.releaseTicket.id := by
    rcases step.identity with ⟨next, identity⟩ | ⟨left, next, id⟩
    · rw [next, id_of identity]
      exact sound.drawn
    · rw [next, id]
      exact fun _ => Drawn.last left
  have keep (interface : Interface) (transport : after.releaseTicket.transport = .usb)
      (identity : after.releaseTicket.identity = before.releaseTicket.identity)
      (submitted : before.releaseTicket.outcome interface = .submitted) :
      after.releaseTicket.Released interface after.record.events := by
    have usb : before.releaseTicket.transport = .usb :=
      (identity_field identity (·.transport) fun _ => rfl).symm.trans transport
    exact ((sound.released usb interface submitted).of_identity identity.symm).grow grows
  cases step with
  | aside next finalized =>
      refine ⟨drawn, fun unnamed => ?_, fun won interface => ?_,
        fun transport interface submitted => ?_⟩
      · have none := sound.named (id_of finalized.identity ▸ unnamed)
        rcases finalized with same | ⟨was, -⟩ | ⟨was, -⟩
        · rw [same, none]
        · simp [none] at was
        · simp [none] at was
      · rw [finalized.outcome]
        exact sound.success (finalized.fate ▸ won) interface
      · exact keep interface transport finalized.identity
          ((finalized.outcome interface).symm.trans submitted)
  | admitted inactive left next id state unresolved =>
      refine ⟨drawn, fun unnamed => absurd (id.symm.trans unnamed) left, fun won => ?_,
        fun transport interface submitted => ?_⟩
      · simp [state, ReleaseAllTransactionState.fate] at won
      · simp [unresolved] at submitted
  | opened next admitting ticket =>
      have identity : after.releaseTicket.identity = before.releaseTicket.identity := by
        rw [ticket]
        rfl
      refine ⟨drawn, fun unnamed => ?_, fun won => ?_, fun transport interface submitted => ?_⟩
      · have none := sound.named (id_of identity ▸ unnamed)
        simp [none] at admitting
      · simp [ticket, ReleaseAllTransactionState.fate] at won
      · refine keep interface transport identity ?_
        rw [ticket] at submitted
        cases interface <;> exact submitted
  | resolved interface outcome next pending resolution ticket =>
      have identity : after.releaseTicket.identity = before.releaseTicket.identity := by
        rw [ticket, setOutcome_identity]
      refine ⟨drawn, fun unnamed => ?_, fun won => ?_, fun transport other submitted => ?_⟩
      · have none := sound.named (id_of identity ▸ unnamed)
        simp [ReleaseAllTicket.pending, none] at pending
      · rw [ticket, setOutcome_state, pending_fate pending] at won
        cases won
      · by_cases same : other = interface
        · subst same
          rw [ticket, setOutcome_outcome, if_pos rfl] at submitted
          subst submitted
          cases resolution with
          | released usb released => exact released.of_identity identity.symm
          | completed ble opened =>
              rw [ticket, setOutcome_transport, ble] at transport
              cases transport
        · rw [ticket, setOutcome_outcome, if_neg same] at submitted
          exact keep other transport identity submitted
  | ended next pending identity ending =>
      refine ⟨drawn, fun unnamed => ?_, fun won interface => ?_,
        fun transport interface submitted => ?_⟩
      · have none := sound.named (id_of identity ▸ unnamed)
        simp [ReleaseAllTicket.pending, none] at pending
      · obtain ⟨-, done⟩ := ending.success won
        rw [(done interface).2]
        exact (done interface).1
      · exact keep interface transport identity (ending.submitted interface submitted)

/-! ### The transaction later on -/

/-- What has become of a transaction. -/
structure ReleaseAllTicket.Later (before after : ReleaseAllTicket) : Prop where
  identity : after.identity = before.identity
  fate : before.state.fate ≠ none → after.state.fate = before.state.fate ∧
    ∀ interface, after.outcome interface = before.outcome interface
  opened : before.state ≠ .admitting → after.state ≠ .admitting
  running : after.state = .open → before.state = .open ∨ before.state = .admitting
  complete : before.state = .open → after.state = .open → ∀ interface,
    (before.outcome interface).complete = true → (after.outcome interface).complete = true

/-- What has become of the transaction and the ids: the transaction is the same, or one that
was not admitted before. -/
structure ReleaseLater (before after : Words) : Prop where
  drawn : ∀ id, Drawn before.nextReleaseId id → Drawn after.nextReleaseId id
  ticket : before.releaseTicket.Later after.releaseTicket ∨
    ¬Drawn before.nextReleaseId after.releaseTicket.id

theorem ReleaseAllTicket.Later.refl (ticket : ReleaseAllTicket) : ticket.Later ticket :=
  ⟨rfl, fun _ => ⟨rfl, fun _ => rfl⟩, fun started => started, .inl, fun _ _ _ done => done⟩

theorem ReleaseAllTicket.Later.trans {first second third : ReleaseAllTicket}
    (one : first.Later second) (two : second.Later third) : first.Later third := by
  refine ⟨two.identity.trans one.identity, fun ended => ?_, fun started => ?_, fun running => ?_,
    fun opened running interface done => ?_⟩
  · obtain ⟨same, outcomes⟩ := one.fate ended
    obtain ⟨still, last⟩ := two.fate (same ▸ ended)
    exact ⟨still.trans same, fun interface => (last interface).trans (outcomes interface)⟩
  · exact two.opened (one.opened started)
  · rcases two.running running with opened | admitting
    · exact one.running opened
    · by_contra other
      exact one.opened (fun same => other (.inr same)) admitting
  · have between : second.state = .open := by
      rcases two.running running with opened | admitting
      · exact opened
      · exact absurd admitting (one.opened (by rw [opened]; decide))
    exact two.complete between running interface (one.complete opened between interface done)

theorem ReleaseLater.refl (words : Words) : ReleaseLater words words :=
  ⟨fun _ => id, .inl (.refl _)⟩

theorem ReleaseLater.trans {first second third : Words} (one : ReleaseLater first second)
    (two : ReleaseLater second third) : ReleaseLater first third := by
  refine ⟨fun id drawn => two.drawn id (one.drawn id drawn), ?_⟩
  rcases two.ticket with same | fresh
  · rcases one.ticket with before | new
    · exact .inl (before.trans same)
    · exact .inr (identity_field same.identity (·.id) (fun _ => rfl) ▸ new)
  · exact .inr fun drawn => fresh (one.drawn _ drawn)

theorem Finalized.later {ticket later : ReleaseAllTicket} (finalized : Finalized ticket later) :
    ticket.Later later := by
  refine ⟨finalized.identity, fun _ => ⟨finalized.fate, finalized.outcome⟩, fun started => ?_,
    fun running => ?_, fun _ _ interface done => (finalized.outcome interface).symm ▸ done⟩
  · rcases finalized with rfl | ⟨-, rfl⟩ | ⟨-, rfl⟩
    · exact started
    · exact ReleaseAllTransactionState.noConfusion
    · exact ReleaseAllTransactionState.noConfusion
  · rcases finalized with rfl | ⟨-, rfl⟩ | ⟨-, rfl⟩
    · exact .inl running
    · cases running
    · cases running

theorem ReleaseStep.later (step : ReleaseStep before after) : ReleaseLater before after := by
  have drawn (id : ReleaseAllId) (drawn : Drawn before.nextReleaseId id) :
      Drawn after.nextReleaseId id := by
    rcases step.identity with ⟨next, -⟩ | ⟨left, next, -⟩
    · rwa [next]
    · rw [next]
      exact drawn.earlier left
  refine ⟨drawn, ?_⟩
  cases step with
  | aside next finalized => exact .inl finalized.later
  | admitted inactive left next id state unresolved => exact .inr (id.symm ▸ Drawn.fresh left)
  | opened next admitting ticket =>
      refine .inl ⟨by rw [ticket]; rfl, fun ended => ?_, fun started => absurd admitting started,
        fun _ => .inr admitting, fun running => ?_⟩
      · simp [admitting, ReleaseAllTransactionState.fate] at ended
      · simp [admitting] at running
  | resolved interface outcome next pending resolution ticket =>
      rw [ticket]
      refine .inl ⟨setOutcome_identity .., fun ended => absurd (pending_fate pending) ended,
        fun started => by rwa [setOutcome_state], fun running => ?_,
        fun opened _ other done => ?_⟩
      · rw [setOutcome_state] at running
        exact .inl running
      · rw [setOutcome_outcome]
        split
        · cases resolution with
          | alreadyUp up fresh => rfl
          | released usb released => rfl
          | completed ble opened => rfl
          | pending admitting => simp [opened] at admitting
        · exact done
  | ended next pending identity ending =>
      refine .inl ⟨identity, fun ended => absurd (pending_fate pending) ended, fun _ running => ?_,
        fun running => ?_, fun _ running => ?_⟩
      · exact ending.ended (by rw [running]; rfl)
      · exact absurd (by rw [running]; rfl) ending.ended
      · exact absurd (by rw [running]; rfl) ending.ended

end Steps

end HidBot.Runtime
