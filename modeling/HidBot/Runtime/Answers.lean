import HidBot.Runtime.Claims

/-!
# What the answers promise

Each answer with what it says about the events of the run, and the contract of the runtime:
a call keeps to its accesses, whatever the other tasks do between them, and an answer that
has been given stays true.
-/

namespace HidBot.Runtime

open Interleaving

/-! ### Promises -/

/-- The ticket was canceled before any executor had claimed it. -/
structure Withdrawn (id : HidTicketId) (events : List Event) : Prop where
  settled : .settled id .notReady ∈ events
  unclaimed : .claimed id ∉ events

/-- A release that the snapshot reports as a success has reached both interfaces. -/
def ReleaseAllTicket.Real (snapshot : ReleaseAllSnapshot) (events : List Event) : Prop :=
  snapshot.state.fate = some .success → ∀ interface,
    (snapshot.outcome interface).complete = true ∧
      (snapshot.transport = .usb → snapshot.outcome interface = .submitted →
        snapshot.Released interface events)

/-- What an answer says about the events. -/
def RuntimeOperation.promise : RuntimeOperation → RuntimeAnswer → List Event → Prop
  | .beginReport request _ _ => fun answer events =>
      ∀ id, answer = .report (.published id) → .opened id request ∈ events
  | .cancelReport _ id => fun answer events => answer = .flag true → Withdrawn id events
  | .reportSnapshot _ id => fun answer events => ∀ snapshot, answer = .ticket (some snapshot) →
      snapshot.ticketId = id ∧ (snapshot.state = .submitted → Accepted events id)
  | .processBleReport _ token => fun answer events =>
      answer = .flag true → Accepted events token.ticketId
  | .releaseAllSnapshot => fun answer events => ∀ snapshot, answer = .release snapshot →
      snapshot.Real events
  | .finalizeReleaseAll id => fun answer events => ∀ snapshot, answer = .release snapshot →
      snapshot.id = id ∧ snapshot.Real events
  | _ => fun _ _ => True

section Promises

variable {task : Route.Task} {interface : Interface} {words before after : Words}

theorem Withdrawn.suffix {id : HidTicketId} (withdrawn : Withdrawn id before.record.events)
    (grows : before.record.events <:+ after.record.events) (sound : after.Sound) :
    Withdrawn id after.record.events := by
  refine ⟨grows.subset withdrawn.settled, fun claimed => ?_⟩
  obtain ⟨noted, made⟩ := grows
  have ordered := sound.tickets.ordered
  rw [← made] at ordered claimed
  rcases List.mem_append.mp claimed with new | old
  · have later := (List.pairwise_append.mp ordered).2.2 _ new _ withdrawn.settled id rfl rfl
    simp [Event.rank] at later
  · exact withdrawn.unclaimed old

theorem ReleaseAllTicket.Real.grow {snapshot : ReleaseAllSnapshot} {older newer : List Event}
    (real : snapshot.Real older) (grows : older <:+ newer) : snapshot.Real newer :=
  fun won interface => ⟨(real won interface).1, fun usb submitted =>
    ((real won interface).2 usb submitted).grow grows⟩

/-- An answer stays true. -/
theorem promise_grow {operation : RuntimeOperation} {answer : RuntimeAnswer}
    (promise : operation.promise answer before.record.events)
    (grows : before.record.events <:+ after.record.events) (sound : after.Sound) :
    operation.promise answer after.record.events := by
  cases operation with
  | beginReport request sequence owner => exact fun id given => grows.subset (promise id given)
  | cancelReport interface id => exact fun given => (promise given).suffix grows sound
  | reportSnapshot interface id =>
      exact fun snapshot given => ⟨(promise snapshot given).1, fun submitted =>
        ((promise snapshot given).2 submitted).suffix grows⟩
  | processBleReport interface token => exact fun given => (promise given).suffix grows
  | releaseAllSnapshot => exact fun snapshot given => (promise snapshot given).grow grows
  | finalizeReleaseAll id =>
      exact fun snapshot given => ⟨(promise snapshot given).1,
        (promise snapshot given).2.grow grows⟩
  | _ => trivial

/-- The words are sound and the answer is true of them. -/
structure Promised (operation : RuntimeOperation) (answer : RuntimeAnswer) (words : Words) :
    Prop where
  sound : words.Sound
  promise : operation.promise answer words.record.events

theorem lasting_promised (operation : RuntimeOperation) (answer : RuntimeAnswer) :
    Lasting task (Promised operation answer) := fun _ _ promised others =>
  ⟨others.sound promised.sound, promise_grow promised.promise others.grows
    (others.sound promised.sound)⟩

/-! ### Calls of moves -/

/-- One access that moves, and its answer. -/
theorem Keeps.answer {α : Type} {holds : Words → Prop} {last : α → Words → Prop}
    {change : Words → α × Words} (lasting : Lasting task holds)
    (moves : (Program.readModifyWrite change).Each Move) (now : holds words)
    (answers : ∀ state, holds state → holds (change state).2 →
      last (change state).1 (change state).2)
    (stays : ∀ result, Lasting task (last result)) :
    Keeps task last (.readModifyWrite change) words := by
  refine .change lasting now fun state now => ?_
  have move := (moves state).1
  have changed := lasting _ _ now move.calm.others
  exact ⟨move.calm.access, fun later others => stays _ _ _ (answers state now changed) others⟩

/-- A call with an admission around it. -/
theorem Keeps.admitted {α : Type} {last : α → Words → Prop} {safety : Bool}
    {call : Bool → Program Words α} (stays : ∀ result, Lasting task (last result))
    (sound : words.Sound)
    (each : ∀ acquired state, state.Sound → Keeps task last (call acquired) state) :
    Keeps task last (Runtime.admitted safety call) words := by
  refine .after lasting_sound (.readModifyWrite fun _ => .beside rfl) sound
    fun acquired state sound => ?_
  refine .bind (each acquired state sound) fun result state now => ?_
  exact .after (stays result) (.onlyIf _ (.write fun _ => .beside rfl)) now
    fun _ state now => .pure (stays result) now

/-- An operation that promises nothing. -/
theorem keeps_silent {operation : RuntimeOperation} (sound : words.Sound)
    (calm : (runtimeProgram task operation).Each Calm)
    (silent : ∀ answer events, operation.promise answer events) :
    Keeps task (Promised operation) (runtimeProgram task operation) words :=
  (Keeps.calm lasting_sound calm sound).mono fun _ _ sound => ⟨sound, silent _ _⟩

end Promises

/-! ### Writing a ticket -/

section Tickets

variable {task : Route.Task} {interface : Interface} {words : Words}

/-- The ticket was opened for the request. -/
structure Opened (id : HidTicketId) (request : ReportRequest) (words : Words) : Prop where
  sound : words.Sound
  opened : .opened id request ∈ words.record.events

theorem lasting_opened (id : HidTicketId) (request : ReportRequest) :
    Lasting task (Opened id request) := fun _ _ opened others =>
  ⟨others.sound opened.sound, others.grows.subset opened.opened⟩

/-- What the writer may say. -/
def Issued (request : ReportRequest) (result : ReportBeginResult) (words : Words) : Prop :=
  words.Sound ∧ ∀ id, result = .published id → .opened id request ∈ words.record.events

theorem lasting_issued (request : ReportRequest) (result : ReportBeginResult) :
    Lasting task (Issued request result) := fun _ _ issued others =>
  ⟨others.sound issued.1, fun id given => others.grows.subset (issued.2 id given)⟩

theorem begin_unpublished (outcome : TicketOutcome) (id : HidTicketId) :
    outcome.beginResult ≠ .published id := by
  cases outcome <;> simp [TicketOutcome.beginResult]

/-- Only the ticket that was written is published. -/
theorem published_own {id other : HidTicketId} {token : HidWorkToken} {fence : FinalFence}
    (published : ((publishTicket interface id token fence).exec words).1 = .published other) :
    other = id := by
  simp only [publishTicket, ticketSection, Program.exec_readModifyWrite] at published
  split at published
  · cases published
  · split at published
    · dsimp only at published
      split_ifs at published
    · split at published
      · exact absurd published (begin_unpublished _ _)
      · exact (ReportBeginResult.published.inj published).symm
    · cases published

theorem keeps_issueTicket {request : ReportRequest} {sequence : SequenceAuthority}
    {token : HidWorkToken} (sound : words.Sound) :
    Keeps task (Issued request) (issueTicket request sequence token) words := by
  have written : Keeps task (fun result now => now.Sound ∧ ∀ id, result = .written id →
      .opened id request ∈ now.record.events) (writeTicket request token) words := by
    refine .answer lasting_sound (Move.writeTicket request token) sound (fun state _ sound => ?_)
      fun _ _ _ now others => ⟨others.sound now.1, fun id given =>
        others.grows.subset (now.2 id given)⟩
    refine ⟨sound, fun id given => ?_⟩
    dsimp only at given ⊢
    split at given
    · cases given
    · split at given
      · cases given
      · obtain rfl := WriteResult.written.inj given
        simp_all [Words.withTicket]
  refine .bind written fun result state now => ?_
  cases result with
  | busy | exhausted =>
      exact .pure (lasting_issued _ _) ⟨now.1, fun id given => by cases given⟩
  | written id =>
      refine .after (lasting_opened id request) (Move.loads (Move.finalFence_loads _ _))
        ⟨now.1, now.2 id rfl⟩ fun fence state opened => ?_
      refine .answer (lasting_opened id request) (Move.publishTicket _ _ _) opened
        (fun state _ opened => ⟨opened.sound, fun other given => ?_⟩) (lasting_issued request)
      exact (published_own given).symm ▸ opened.opened

theorem keeps_beginReport {request : ReportRequest} {sequence : SequenceAuthority}
    {owner : ReportOriginOwnerId} (sound : words.Sound) :
    Keeps task (Issued request) (beginReport request sequence owner) words := by
  have refused {result : ReportBeginResult} (other : ∀ id, result ≠ .published id)
      (state : Words) (sound : state.Sound) :
      Keeps task (Issued request) (pure result : Program Words ReportBeginResult) state :=
    .pure (lasting_issued _ _) ⟨sound, fun id given => absurd given (other id)⟩
  refine .admitted (lasting_issued request) sound fun acquired state sound => ?_
  refine .ite (fun _ => refused (by simp) _ sound) fun _ => ?_
  refine .after lasting_sound (Move.loads (.allOf ⟨.done _, .read _⟩)) sound fun _ state sound =>
    .ite (fun _ => refused (by simp) _ sound) fun _ => ?_
  refine .after lasting_sound (Move.loads (.allOf ⟨.done _,
    not_loads (sequenceAuthorityCurrent_loads _)⟩)) sound fun _ state sound =>
      .ite (fun _ => refused (by simp) _ sound) fun _ => ?_
  refine .after lasting_sound (Move.read _) sound fun _ state sound =>
    .ite (fun _ => refused (by simp) _ sound) fun _ => ?_
  refine .after lasting_sound (Move.loads status_loads) sound fun _ _ sound => ?_
  refine .after lasting_sound (Move.loads routeSnapshot_loads) sound fun _ _ sound => ?_
  refine .after lasting_sound (Move.loads bleRouteAuthoritySnapshot_loads) sound
    fun _ _ sound => ?_
  refine .after lasting_sound (Move.loads (Move.readyTransport_loads _ _ _)) sound
    fun transport state sound => ?_
  cases transport with
  | none => exact refused (by simp) _ sound
  | some transport =>
      refine .after lasting_sound (Move.loads safetyPending_loads) sound fun _ state sound =>
        .ite (fun _ => refused (by simp) _ sound) fun _ => ?_
      refine .ite (fun _ => refused (by simp) _ sound) fun _ => ?_
      refine .after lasting_sound Move.reapTicket sound fun _ state sound =>
        .ite (fun _ => refused (by simp) _ sound) fun _ => ?_
      refine .after lasting_sound (Move.loads (.anyOf ⟨.read _, .read _⟩)) sound
        fun _ state sound => .ite (fun _ => refused (by simp) _ sound) fun _ => ?_
      refine .after lasting_sound (Move.loads (Move.reportAlreadySet_loads _)) sound
        fun _ state sound => .ite (fun _ => refused (by simp) _ sound) fun _ => ?_
      exact .after lasting_sound (Move.loads (Move.workToken_loads ..)) sound
        fun _ _ sound => keeps_issueTicket sound

/-! ### Ending and observing a ticket -/

/-- A ticket that was canceled had not been claimed. -/
theorem keeps_cancelReport {id : HidTicketId} (sound : words.Sound) :
    Keeps task (fun result now => now.Sound ∧ (result = true → Withdrawn id now.record.events))
      (cancelReport interface id) words := by
  refine .answer lasting_sound (Move.cancelReport id) sound (fun state before after => ?_)
    fun result _ _ now others => ⟨others.sound now.1, fun yes =>
      (now.2 yes).suffix others.grows (others.sound now.1)⟩
  refine ⟨after, fun yes => ?_⟩
  dsimp only at yes ⊢
  split at yes
  · cases yes
  · rename_i own
    obtain rfl : (state.tickets interface).token.ticketId = id := not_not.mp fun other =>
      own (.inr other)
    split at yes
    · cases yes
    · rename_i published
      rw [not_not] at published
      rw [if_neg own, if_neg (not_not.mpr published)]
      refine ⟨List.mem_cons_self, fun claimed => ?_⟩
      rcases List.mem_cons.mp claimed with new | old
      · cases new
      · have rank := (before.tickets.agrees interface).rank _ old rfl
        rw [published] at rank
        exact absurd rank (Nat.not_succ_le_zero 0)

theorem keeps_reportSnapshot {id : HidTicketId} (sound : words.Sound) :
    Keeps task (fun result now => now.Sound ∧ ∀ snapshot, result = some snapshot →
        snapshot.ticketId = id ∧ (snapshot.state = .submitted → Accepted now.record.events id))
      (reportSnapshotOf interface id) words := by
  refine fun state others => ⟨(Calm.refl state).access, fun later more => ?_⟩
  have sound := others.sound sound
  refine ⟨more.sound sound, fun snapshot found => ?_⟩
  dsimp only at found
  split at found
  · cases found
  · rename_i own
    obtain rfl : (state.tickets interface).token.ticketId = id := not_not.mp fun other =>
      own (.inr other)
    obtain rfl := Option.some.inj found
    have agrees := sound.tickets.agrees interface
    exact ⟨rfl, fun submitted =>
      (agrees.accepted (agrees.outcome submitted)).suffix more.grows⟩

/-! ### Snapshots of the release -/

theorem Words.Sound.real (sound : words.Sound) :
    words.releaseTicket.Real words.record.events :=
  fun won interface => ⟨sound.release.success won interface, fun usb submitted =>
    sound.release.released usb interface submitted⟩

theorem keeps_releaseAllSnapshot (sound : words.Sound) :
    Keeps task (fun snapshot now => now.Sound ∧ snapshot.Real now.record.events)
      releaseAllSnapshot words := fun state others => by
  have sound := others.sound sound
  exact ⟨(Calm.refl state).access, fun later more => ⟨more.sound sound, sound.real.grow more.grows⟩⟩

theorem keeps_finalizeReleaseAll {id : ReleaseAllId} (sound : words.Sound) :
    Keeps task (fun snapshot now => now.Sound ∧ snapshot.id = id ∧
        snapshot.Real now.record.events) (finalizeReleaseAll id) words := by
  refine .answer lasting_sound (Move.finalizeReleaseAll id) sound (fun state before after => ?_)
    fun result _ _ now others => ⟨others.sound now.1, now.2.1, now.2.2.grow others.grows⟩
  refine ⟨after, ?_⟩
  dsimp only at after ⊢
  split
  · exact ⟨rfl, fun won => by cases won⟩
  · rename_i own
    rw [if_neg own] at after
    refine ⟨not_not.mp fun other => own (.inr other), after.real⟩

end Tickets

/-! ### The contract of the runtime -/

section Runtime

variable {task : Route.Task} {words : Words}

/-- **Every call keeps to its accesses and to its promise.** -/
theorem runtimeProgram_keeps (operation : RuntimeOperation) (sound : words.Sound) :
    Keeps task (Promised operation) (runtimeProgram task operation) words := by
  cases operation with
  | beginReport request sequence owner =>
      refine .bind (keeps_beginReport sound) fun result state issued => ?_
      refine .pure (lasting_promised _ _) ⟨issued.1, fun id given => issued.2 id ?_⟩
      exact RuntimeAnswer.report.inj given
  | cancelReport interface id =>
      refine .bind (keeps_cancelReport sound) fun result state now => ?_
      exact .pure (lasting_promised _ _) ⟨now.1, fun given => now.2 (RuntimeAnswer.flag.inj given)⟩
  | reportSnapshot interface id =>
      refine .bind (keeps_reportSnapshot sound) fun result state now => ?_
      refine .pure (lasting_promised _ _) ⟨now.1, fun snapshot given => now.2 snapshot ?_⟩
      exact RuntimeAnswer.ticket.inj given
  | processBleReport interface token =>
      refine .bind (keeps_processBleReport sound) fun result state now => ?_
      exact .pure (lasting_promised _ _) ⟨now.1, fun given => now.2 (RuntimeAnswer.flag.inj given)⟩
  | releaseAllSnapshot =>
      refine .bind (keeps_releaseAllSnapshot sound) fun result state now => ?_
      refine .pure (lasting_promised _ _) ⟨now.1, fun snapshot given => ?_⟩
      exact RuntimeAnswer.release.inj given ▸ now.2
  | finalizeReleaseAll id =>
      refine .bind (keeps_finalizeReleaseAll sound) fun result state now => ?_
      refine .pure (lasting_promised _ _) ⟨now.1, fun snapshot given => ?_⟩
      exact RuntimeAnswer.release.inj given ▸ now.2
  | execute =>
      exact .bind (keeps_execute sound) fun _ state sound =>
        .pure (lasting_promised _ _) ⟨sound, trivial⟩
  | commitBleReleaseAll expected =>
      exact .bind (keeps_commitBleReleaseAll sound) fun _ state sound =>
        .pure (lasting_promised _ _) ⟨sound, trivial⟩
  | requestRouteBle activation =>
      exact keeps_silent sound (.bind (requestRouteBle_calm task activation) fun _ => trivial)
        fun _ _ => trivial
  | beginSequence =>
      exact keeps_silent sound (.bind beginSequence_calm fun _ => trivial) fun _ _ => trivial
  | _ =>
      exact keeps_silent sound ((runtimeProgram_moves task rfl).mono fun _ _ => Move.calm)
        fun _ _ => trivial

def runtimeContract : Contract Route.Task Words RuntimeOperation RuntimeAnswer where
  rely task _ := Others task
  guar task _ := Access task
  post _ operation answer words := operation.promise answer words.record.events
  refl task _ := Others.refl task
  trans _ _ _ _ _ := Others.trans

theorem runtime_steady : runtimeContract.Steady runtimeProgram Words.Sound where
  starts _ operation _ sound :=
    (runtimeProgram_keeps operation sound).mono fun _ _ promised => promised.promise
  keeps _ _ _ _ sound access := access.sound sound
  respects _ _ _ _ _ _ apart _ access := access.others apart.symm
  lasts _ _ _ _ sound access _ _ _ promise :=
    promise_grow promise access.grows (access.sound sound)

end Runtime

end HidBot.Runtime
