import HidBot.Interleaving.Tally
import HidBot.Runtime.Answers

/-!
# Runs of the report tickets

Any number of tasks make calls on the runtime, in any order of their accesses and with any
answers of the transports. Every ticket is opened, claimed, submitted, settled and freed in
this order and at most once, and what the callers are told about it agrees with that.
-/

namespace HidBot.Runtime

open Interleaving

/-- No report, no mailbox and no transaction yet; links and routes may be in any state. -/
structure Words.Fresh (words : Words) : Prop where
  tickets : words.tickets = fun _ => {}
  slots : words.slots = fun _ => {}
  release : words.releaseTicket = {}
  sequence : words.sequenceGeneration = 0
  activation : words.bleRoute.profileActivationEpoch = 0
  events : words.record.events = []

/-- Every task may take the next step. -/
def AnyOrder (_ : RuntimeConfig) (_ : Label Route.Task RuntimeOperation) : Prop := True

abbrev RuntimeReaches := Reaches runtimeProgram AnyOrder

theorem Words.Fresh.sound {words : Words} (fresh : words.Fresh) : words.Sound where
  tickets := by
    refine ⟨?_, ?_, ?_, fun interface => ?_⟩
    · simp [fresh.events]
    · simp [fresh.events]
    · simp [fresh.events]
    · rw [fresh.tickets, fresh.events]
      refine ⟨fun used => absurd rfl used, fun used => absurd rfl used, by simp, ?_, ?_⟩
      · exact TicketState.noConfusion
      · exact TicketOutcome.noConfusion
  release := by
    refine ⟨?_, ?_, ?_, ?_⟩
    · rw [fresh.release]
      exact fun used => absurd rfl used
    · rw [fresh.release]
      exact fun _ => rfl
    · rw [fresh.release]
      exact fun won => by cases won
    · rw [fresh.release]
      intro _ interface submitted
      cases interface <;> cases submitted
  slots interface := by
    rw [fresh.slots]
    exact fun safety => by cases safety

/-! ### What the callers see of it -/

def RuntimeOperation.begins : RuntimeOperation → Bool
  | .beginReport .. => true
  | _ => false

def RuntimeAnswer.published : RuntimeAnswer → Option HidTicketId
  | .report (.published id) => some id
  | _ => Option.none

/-- The id that a begin has given to its caller. -/
def publishedId (operation : RuntimeOperation) (answer : RuntimeAnswer) : Option HidTicketId :=
  if operation.begins then answer.published else none

def Event.opens (id : HidTicketId) : Event → Bool
  | .opened ticket _ => ticket == id
  | _ => false

/-- A transport was called with the report of the ticket. -/
def Event.submits (id : HidTicketId) : Event → Bool
  | .submitted submission => submission.origin == .ticket && submission.token.ticketId == id
  | _ => false

def Event.settles (id : HidTicketId) : Event → Bool
  | .settled ticket _ => ticket == id
  | _ => false

/-- Report tickets are exactly-once. -/
structure ExactlyOnce (config : RuntimeConfig) : Prop where
  /-- The events of each ticket stand in the order of its life, none of them twice. -/
  lives : config.shared.record.events.Pairwise Event.After
  distinct : (config.history.filterMap fun entry => publishedId entry.2.1 entry.2.2).Nodup
  nonzero : 0 ∉ config.history.filterMap fun entry => publishedId entry.2.1 entry.2.2
  submittedOnce : ∀ id, config.shared.record.events.countP (·.submits id) ≤ 1
  settledOnce : ∀ id, config.shared.record.events.countP (·.settles id) ≤ 1
  /-- Only a claimed ticket is submitted. -/
  claimed : ∀ submission, .submitted submission ∈ config.shared.record.events →
    submission.origin = .ticket → .claimed submission.token.ticketId ∈ config.shared.record.events
  bytes : ∀ task request sequence owner id,
    (task, .beginReport request sequence owner, .report (.published id)) ∈ config.history →
      ∀ submission, .submitted submission ∈ config.shared.record.events →
        submission.origin = .ticket → submission.token.ticketId = id →
          submission.interface = request.interface ∧ submission.report = request.report
  withdrawn : ∀ task interface id,
    (task, .cancelReport interface id, .flag true) ∈ config.history →
      config.shared.record.events.countP (·.submits id) = 0
  accepted : ∀ task interface id snapshot,
    (task, .reportSnapshot interface id, .ticket (some snapshot)) ∈ config.history →
      snapshot.state = .submitted → Accepted config.shared.record.events id

/-! ### Counting -/

section Count

variable {events : List Event} {id : HidTicketId}

/-- Of the events of a ticket there is at most one of a kind. -/
theorem counted_once (ordered : events.Pairwise Event.After) {kind : Event → Bool} {rank : Nat}
    (about : ∀ event, kind event = true → event.ticket = some id ∧ event.rank = rank) :
    events.countP kind ≤ 1 := by
  rw [List.countP_eq_length_filter]
  have apart := ordered.filter kind
  have all : ∀ event ∈ events.filter kind, event.ticket = some id ∧ event.rank = rank :=
    fun event member => about event (List.mem_filter.mp member).2
  rcases found : events.filter kind with _ | ⟨newer, _ | ⟨older, rest⟩⟩
  · exact Nat.zero_le 1
  · exact Nat.le_refl 1
  · rw [found] at apart all
    have later := (List.pairwise_cons.mp apart).1 older (by simp) id (all newer (by simp)).1
      (all older (by simp)).1
    rw [(all newer (by simp)).2, (all older (by simp)).2] at later
    exact absurd later (Nat.lt_irrefl rank)

theorem opens_about {event : Event} (opens : event.opens id = true) :
    event.ticket = some id ∧ event.rank = 0 := by
  cases event <;> simp_all [Event.opens, Event.ticket, Event.rank]

theorem submits_about {event : Event} (submits : event.submits id = true) :
    event.ticket = some id ∧ event.rank = 2 := by
  cases event <;> simp_all [Event.submits, Event.ticket, Event.rank]

theorem settles_about {event : Event} (settles : event.settles id = true) :
    event.ticket = some id ∧ event.rank = 3 := by
  cases event <;> simp_all [Event.settles, Event.ticket, Event.rank]

/-- How often the ticket has been opened. -/
def openings (id : HidTicketId) (words : Words) : Nat :=
  words.record.events.countP (·.opens id)

/-- What is noted is not forgotten. -/
def Grows (before after : Words) : Prop := before.record.events <:+ after.record.events

theorem Grows.openings {before after : Words} (grows : Grows before after) :
    openings id before ≤ openings id after := grows.sublist.countP_le

end Count

/-! ### Every begin has its own opening -/

section Openings

variable {task : Route.Task} {interface : Interface} {id : HidTicketId}

theorem openings_of_moves {α : Type} {call : Program Words α} (moves : call.Each Move) :
    call.Each fun before after => openings id before ≤ openings id after :=
  moves.mono fun _ _ move => Grows.openings move.grows

/-- An id that a result names has been paid for. -/
abbrev Pays (id : HidTicketId) (inHand : Nat) (call : Program Words ReportBeginResult) : Prop :=
  call.Earns (openings id) (fun result => (decide (result = .published id)).toNat) inHand

theorem pays_refusal {result : ReportBeginResult} {inHand : Nat} (other : result ≠ .published id) :
    Pays id inHand (pure result) := by
  change (decide (result = .published id)).toNat ≤ inHand
  rw [decide_eq_false other]
  exact Nat.zero_le inHand

theorem pays_publishTicket {other : HidTicketId} {token : HidWorkToken} {fence : FinalFence}
    {inHand : Nat} (paid : other = id → 1 ≤ inHand) :
    Pays id inHand (publishTicket interface other token fence) := by
  intro state
  refine ⟨0, Grows.openings ((Move.publishTicket other token fence) state).1.grows, ?_⟩
  change (decide (((publishTicket interface other token fence).exec state).1 =
    .published id)).toNat ≤ inHand
  by_cases published : ((publishTicket interface other token fence).exec state).1 = .published id
  · rw [decide_eq_true published]
    exact paid (published_own published).symm
  · rw [decide_eq_false published]
    exact Nat.zero_le inHand

theorem pays_issueTicket (request : ReportRequest) (sequence : SequenceAuthority)
    (token : HidWorkToken) : Pays id 0 (issueTicket request sequence token) := by
  have written : (writeTicket request token).Earns (openings id)
      (fun result => (decide (result = .written id)).toNat) 0 := by
    refine .readModifyWrite fun words => ?_
    dsimp only
    split
    · simp
    · split
      · simp
      · by_cases own : words.nextPublicTicketId = id
        · simp [own, openings, Words.withTicket, Event.opens]
        · simp [own, openings, Words.withTicket, Event.opens]
  refine .bind written fun result more paid => ?_
  cases result with
  | busy | exhausted => exact pays_refusal (by simp)
  | written other =>
      refine .after (openings_of_moves (Move.loads (Move.finalFence_loads _ _))) fun fence => ?_
      refine pays_publishTicket fun same => ?_
      simpa [same] using paid

theorem Pays.ite {condition : Prop} {_ : Decidable condition}
    {first second : Program Words ReportBeginResult} {inHand : Nat} (one : Pays id inHand first)
    (two : Pays id inHand second) : Pays id inHand (if condition then first else second) := by
  split
  · exact one
  · exact two

theorem Pays.after {α : Type} {call : Program Words α}
    {rest : α → Program Words ReportBeginResult} {inHand : Nat} (moves : call.Each Move)
    (later : ∀ result, Pays id inHand (rest result)) : Pays id inHand (call >>= rest) :=
  Program.Earns.after (openings_of_moves moves) later

theorem pays_admitRequest (request : ReportRequest) (sequence : SequenceAuthority)
    (owner : ReportOriginOwnerId) (transport : HidTransport) (route : Route.Snapshot)
    (ble : BleRouteAuthoritySnapshot) :
    Pays id 0 (admitRequest request sequence owner transport route ble) := by
  refine Pays.after (Move.loads safetyPending_loads) fun _ => .ite (pays_refusal (by simp)) ?_
  refine Pays.ite (pays_refusal (by simp)) ?_
  refine Pays.after Move.reapTicket fun _ => .ite (pays_refusal (by simp)) ?_
  refine Pays.after (Move.loads (.anyOf ⟨.read _, .read _⟩)) fun _ =>
    .ite (pays_refusal (by simp)) ?_
  refine Pays.after (Move.loads (Move.reportAlreadySet_loads _)) fun _ =>
    .ite (pays_refusal (by simp)) ?_
  exact Pays.after (Move.loads (Move.workToken_loads ..)) fun _ => pays_issueTicket _ _ _

theorem pays_beginReport (request : ReportRequest) (sequence : SequenceAuthority)
    (owner : ReportOriginOwnerId) : Pays id 0 (beginReport request sequence owner) := by
  refine Pays.after (.readModifyWrite fun _ => .beside rfl) fun acquired => ?_
  refine .bind (?_ : Pays id 0 _) fun result more paid =>
    Pays.after (.onlyIf _ (.write fun _ => .beside rfl)) fun _ => paid
  refine .ite (pays_refusal (by simp)) ?_
  refine Pays.after (Move.loads (.allOf ⟨.done _, .read _⟩)) fun _ =>
    .ite (pays_refusal (by simp)) ?_
  refine Pays.after (Move.loads (.allOf ⟨.done _,
    not_loads (sequenceAuthorityCurrent_loads _)⟩)) fun _ => .ite (pays_refusal (by simp)) ?_
  refine Pays.after (Move.read _) fun _ => .ite (pays_refusal (by simp)) ?_
  refine Pays.after (Move.loads status_loads) fun _ => ?_
  refine Pays.after (Move.loads routeSnapshot_loads) fun _ => ?_
  refine Pays.after (Move.loads bleRouteAuthoritySnapshot_loads) fun _ => ?_
  refine Pays.after (Move.loads (Move.readyTransport_loads _ _ _)) fun transport => ?_
  cases transport with
  | none => exact pays_refusal (by simp)
  | some transport => exact pays_admitRequest _ _ _ _ _ _

/-! ### Operations that begin nothing -/

theorem grows_withTicket (words : Words) (ticket : ReportTicket) (noted : List Event) :
    Grows words (words.withTicket interface ticket noted) := List.suffix_append ..

theorem submit_grows (origin : Origin) (token : HidWorkToken) (report : List UInt8) :
    (submit origin interface token report).Each Grows :=
  .readModifyWrite fun _ => List.suffix_cons ..

theorem settleClaim_grows (same : ReportTicket → Bool) (state : TicketState)
    (outcome : TicketOutcome) : (settleClaim interface same state outcome).Each Grows := by
  refine .readModifyWrite fun words => ?_
  dsimp only
  split
  · exact List.suffix_rfl
  · exact grows_withTicket ..

theorem claimForBle_grows (token : HidWorkToken) :
    (claimForBle task interface token).Each Grows := by
  refine .readModifyWrite fun words => ?_
  dsimp only
  split_ifs
  · exact List.suffix_rfl
  · exact List.suffix_rfl
  · split
    · exact grows_withTicket ..
    · exact List.suffix_cons ..
    · exact List.suffix_rfl

theorem claimForUsb_grows : (claimForUsb task interface).Each Grows := by
  refine .readModifyWrite fun words => ?_
  dsimp only
  split
  · exact List.suffix_cons ..
  · exact List.suffix_rfl

theorem commitBleRelease_grows (expected : ReleaseAllSnapshot) :
    (commitBleRelease expected).Each Grows := by
  refine .readModifyWrite fun words => ?_
  dsimp only
  split_ifs <;> exact List.suffix_rfl

theorem runtimeProgram_grows (task : Route.Task) (operation : RuntimeOperation) :
    (runtimeProgram task operation).Each Grows := by
  have move (before after : Words) (move : Move before after) : Grows before after := move.grows
  cases operation with
  | processBleReport interface token =>
      exact .bind (processBleReport_each move task token (claimForBle_grows _)
        (fun _ => submit_grows _ _ _) settleClaim_grows) fun _ => trivial
  | execute =>
      refine .bind (execute_each move task (fun _ _ _ => processTicket_each move task _ _
        claimForUsb_grows (fun _ _ => submit_grows _ _ _) settleClaim_grows)
        fun _ _ _ => processMailbox_each move _ _ fun _ => submitMailbox_each move _ _ _
          (fun _ _ => submit_grows _ _ _) fun _ _ _ _ => .write fun _ => List.suffix_rfl)
        fun _ => trivial
  | commitBleReleaseAll expected =>
      exact .bind (commitBleReleaseAll_each move commitBleRelease_grows _) fun _ => trivial
  | requestRouteBle activation =>
      exact .bind ((requestRouteBle_calm task activation).mono fun _ _ => Calm.grows)
        fun _ => trivial
  | beginSequence =>
      exact .bind (beginSequence_calm.mono fun _ _ => Calm.grows) fun _ => trivial
  | _ => exact (runtimeProgram_moves task rfl).mono move

theorem runtimeProgram_pays (task : Route.Task) (operation : RuntimeOperation) :
    (runtimeProgram task operation).Earns (openings id)
      (fun answer => (decide (publishedId operation answer = some id)).toNat) 0 := by
  by_cases begins : operation.begins = true
  · cases operation with
    | beginReport request sequence owner =>
        have same : (fun answer =>
            (decide (publishedId (.beginReport request sequence owner) answer = some id)).toNat) ∘
              RuntimeAnswer.report = fun result => (decide (result = .published id)).toNat := by
          funext result
          cases result <;> simp [publishedId, RuntimeOperation.begins, RuntimeAnswer.published]
        exact .map _ (same ▸ pays_beginReport request sequence owner)
    | _ => cases begins
  · refine .of_each (fun answer => ?_) ((runtimeProgram_grows task operation).mono
      fun _ _ => Grows.openings) 0
    rw [publishedId, if_neg begins]
    simp

end Openings

/-! ### Runs -/

section Runs

variable {start : Words} {config : RuntimeConfig}

theorem runtime_recorded (fresh : start.Fresh)
    (reached : RuntimeReaches (Config.initial start) config) :
    runtimeContract.Recorded Words.Sound config :=
  (Contract.recorded_initial fresh.sound).run runtime_steady reached

/-- An id is given to one begin only. -/
theorem published_distinct (fresh : start.Fresh)
    (reached : RuntimeReaches (Config.initial start) config) :
    (config.history.filterMap fun entry => publishedId entry.2.1 entry.2.2).Nodup := by
  refine List.nodup_iff_count_le_one.mpr fun id => ?_
  have counted : results (fun (_ : Route.Task) operation answer =>
      decide (publishedId operation answer = some id)) config.history ≤
        openings id config.shared :=
    reached.counted fun task operation => runtimeProgram_pays task operation
  have once : openings id config.shared ≤ 1 :=
    counted_once (runtime_recorded fresh reached).holds.tickets.ordered fun _ => opens_about
  refine le_trans (le_of_eq ?_) (counted.trans once)
  rw [List.count, List.countP_filterMap]
  refine List.countP_congr fun entry _ => ?_
  cases found : publishedId entry.2.1 entry.2.2 <;> simp [found]

/-- A ticket that became terminal before it was claimed is never submitted. -/
theorem ExactlyOnce.settled_unclaimed (once : ExactlyOnce config) {id : HidTicketId}
    {outcome : TicketOutcome} {newer older : List Event}
    (settled : config.shared.record.events = newer ++ .settled id outcome :: older)
    (unclaimed : .claimed id ∉ older) :
    config.shared.record.events.countP (·.submits id) = 0 := by
  refine List.countP_eq_zero.mpr fun event among submits => ?_
  cases event with
  | submitted submission =>
      simp only [Event.submits, Bool.and_eq_true, beq_iff_eq] at submits
      obtain ⟨origin, rfl⟩ := submits
      have claimed := once.claimed submission among origin
      have lives := once.lives
      rw [settled] at claimed lives
      rcases List.mem_append.mp claimed with later | rest
      · have after := (List.pairwise_append.mp lives).2.2 _ later _ (List.mem_cons_self ..)
        have ranks := after submission.token.ticketId rfl rfl
        simp [Event.rank] at ranks
      · rcases List.mem_cons.mp rest with same | earlier
        · cases same
        · exact unclaimed earlier
  | _ => cases submits

theorem runtime_exactly_once (fresh : start.Fresh)
    (reached : RuntimeReaches (Config.initial start) config) : ExactlyOnce config := by
  have recorded := runtime_recorded fresh reached
  have sound := recorded.holds.tickets
  have opened {task : Route.Task} {request : ReportRequest} {sequence : SequenceAuthority}
      {owner : ReportOriginOwnerId} {id : HidTicketId}
      (member : (task, .beginReport request sequence owner, .report (.published id)) ∈
        config.history) : .opened id request ∈ config.shared.record.events :=
    recorded.answers _ member id rfl
  refine ⟨sound.ordered, published_distinct fresh reached, fun zero => ?_,
    fun id => counted_once sound.ordered fun _ => submits_about,
    fun id => counted_once sound.ordered fun _ => settles_about,
    fun submission member origin => (sound.faithful submission member origin).claimed,
    fun task request sequence owner id member submission submitted origin named => ?_,
    fun task interface id member => ?_, fun task interface id snapshot member submitted =>
      (recorded.answers _ member snapshot rfl).2 submitted⟩
  · obtain ⟨⟨task, operation, answer⟩, member, published⟩ := List.mem_filterMap.mp zero
    cases operation with
    | beginReport request sequence owner =>
        cases answer with
        | report result =>
            cases result with
            | published id =>
                obtain rfl : id = 0 := Option.some.inj published
                exact (sound.drawn _ (opened member) 0 rfl).1 rfl
            | _ => cases published
        | _ => cases published
    | _ => cases published
  · obtain ⟨asked, was, place, bytes⟩ := (sound.faithful submission submitted origin).request
    subst named
    have same := same_event sound.ordered was (opened member) rfl rfl rfl
    obtain rfl : asked = request := (Event.opened.inj same).2
    exact ⟨place, bytes⟩
  · refine List.countP_eq_zero.mpr fun event among submits => ?_
    have withdrawn : Withdrawn id config.shared.record.events := recorded.answers _ member rfl
    cases event with
    | submitted submission =>
        simp only [Event.submits, Bool.and_eq_true, beq_iff_eq] at submits
        exact withdrawn.unclaimed (submits.2 ▸ (sound.faithful submission among submits.1).claimed)
    | _ => cases submits

/-- **Report tickets are exactly-once**, in every run of the runtime. -/
theorem tickets_exactly_once (fresh : start.Fresh)
    (reached : RuntimeReaches (Config.initial start) config) :
    ExactlyOnce config ∧ ∀ id outcome newer older,
      config.shared.record.events = newer ++ .settled id outcome :: older →
        .claimed id ∉ older → config.shared.record.events.countP (·.submits id) = 0 :=
  have once := runtime_exactly_once fresh reached
  ⟨once, fun _ _ _ _ settled unclaimed => once.settled_unclaimed settled unclaimed⟩

/-- A mounted host on the USB route. -/
def mountedReady : Words where
  statusBits := { mounted := true, keyboardReady := true, mouseReady := true }
  usbLifecycle := { state := { desired := .exposed, observed := .mounted } }
  route := { core := { desired := .usb, active := .usb, generation := 2 } }

theorem mountedReady_fresh : mountedReady.Fresh := ⟨rfl, rfl, rfl, rfl, rfl, rfl⟩

def shiftDown : ReportRequest := .keyboard 2 (.replicate 6 0)

/-- A report is begun, executed and looked at. -/
def oneReport : List (Label Route.Task RuntimeOperation) :=
  .call 0 (.beginReport shiftDown {} 0) :: .replicate 69 (.advance 0) ++
  .call 0 .execute :: .replicate 64 (.advance 0) ++
  .call 0 (.reportSnapshot .keyboard 1) :: .replicate 2 (.advance 0)

theorem tickets_exactly_once_submitted : ∃ config : RuntimeConfig,
    config.shared.record.events.countP (·.submits 1) = 1 ∧
      config.history.map (·.2.2) = [.ticket (some ⟨.submitted, .submitted, 1⟩), .none,
        .report (.published 1)] ∧ ExactlyOnce config := by
  have replayed : (replay runtimeProgram oneReport (Config.initial mountedReady)).map
      (fun config => (config.shared.record.events.countP (·.submits 1),
        config.history.map (·.2.2))) =
      some (1, [.ticket (some ⟨.submitted, .submitted, 1⟩), .none, .report (.published 1)]) := by
    decide +kernel
  obtain ⟨config, replayed, found⟩ := Option.map_eq_some_iff.mp replayed
  simp only [Prod.mk.injEq] at found
  exact ⟨config, found.1, found.2, (tickets_exactly_once mountedReady_fresh
    (.of_replay (fun _ _ _ => trivial) replayed)).1⟩

end Runs

end HidBot.Runtime
