import HidBot.Protocol.Caches
import HidBot.Protocol.Requests

/-!
# Executions

A command is executed when its request is answered as a new one. The response is then
remembered for retries, or forgotten. In one session every id is executed at most once
if a forgotten execution leaves the epoch of its session.
-/

namespace HidBot.ControlProtocol

open ControlSession

variable {Payload : Type} [DecidableEq Payload] {config : Config} {wire : Wire Payload}
  {freedom : Freedom Payload}

/-- An executed request and its response. -/
structure Execution (Payload : Type) where
  request : Payload
  response : Option ResponseFrame

def Event.execution? (session : Token) (id : Int) : Event Payload → Option (Execution Payload)
  | .completed _ current _ number request response =>
      if current = session ∧ number = id then some ⟨request, some response⟩ else none
  | .transitioned current number request response =>
      if current = session ∧ number = id then some ⟨request, some response⟩ else none
  | .forgotten current number request response =>
      if current = session ∧ number = id then some ⟨request, response⟩ else none
  | _ => none

/-- The executions of one request id of a session. -/
def executions (session : Token) (id : Int) (log : List (Event Payload)) :
    List (Execution Payload) :=
  log.filterMap (Event.execution? session id)

/-- The session was opened. -/
def Opened (log : List (Event Payload)) (session : Token) : Prop :=
  ∃ owner epoch response, .activated owner session epoch response ∈ log

/-- Every id is executed at most once in a session. No frame is read in a `dead` epoch
any more. -/
structure Once (dead : AuthorityEpoch → Prop) (state : State Payload ResponseFrame)
    (log : List (Event Payload)) : Prop where
  current : state.activeSession = true → Opened log state.currentSession
  opened : ∀ session id, executions session id log ≠ [] → Opened log session
  once : ∀ session id, (executions session id log).length ≤ 1
  bounded : state.activeSession = true → ¬dead state.sessionAuthorityEpoch →
    ∀ id, executions state.currentSession id log ≠ [] →
      ∃ cache, state.retryCache = .normal (some cache) ∧ id ≤ cache.id

section Executions

variable {log events : List (Event Payload)} {session : Token} {id : Int}

omit [DecidableEq Payload] in
theorem executions_append :
    executions session id (log ++ events) =
      executions session id log ++ executions session id events :=
  List.filterMap_append ..

omit [DecidableEq Payload] in
theorem executions_eq_nil (executesNone : ∀ event ∈ events, event.execution? session id = none) :
    executions session id events = [] :=
  List.filterMap_eq_nil_iff.mpr executesNone

omit [DecidableEq Payload] in
theorem retireSequenceOwner_executions (owner : LocalOwnerId) :
    executions session id (retireSequenceOwner config owner : List (Event Payload)) = [] := by
  apply executions_eq_nil
  intro event member
  rw [(retireSequenceOwner_mem member).1]
  rfl

omit [DecidableEq Payload] in
theorem Event.Quiet.execution?_eq {event : Event Payload} (quiet : event.Quiet) :
    event.execution? session id = none := by
  cases event <;> first | rfl | cases quiet

omit [DecidableEq Payload] in
theorem Replay.execution?_eq {state : State Payload ResponseFrame} {event : Event Payload}
    (replay : Replay wire state event) : event.execution? session id = none := by
  cases replay <;> rfl

omit [DecidableEq Payload] in
theorem Opened.append (opened : Opened log session) : Opened (log ++ events) session := by
  obtain ⟨owner, epoch, response, member⟩ := opened
  exact ⟨owner, epoch, response, List.mem_append_left _ member⟩

omit [DecidableEq Payload] in
theorem opened_append_iff (opensNone : OpensNone events) :
    Opened (log ++ events) session ↔ Opened log session := by
  refine ⟨fun ⟨owner, epoch, response, member⟩ => ?_, Opened.append⟩
  rcases List.mem_append.mp member with member | member
  · exact ⟨owner, epoch, response, member⟩
  · exact absurd trivial (opensNone _ member)

end Executions

/-- The one event that executes this request. -/
structure Event.Executes (event : Event Payload) (session : Token) (id : Int)
    (execution : Execution Payload) : Prop where
  here : event.execution? session id = some execution
  elsewhere : ∀ other number, ¬(session = other ∧ id = number) →
    event.execution? other number = none

section Executes

variable {event : Event Payload} {log : List (Event Payload)} {session : Token} {id : Int}
  {execution : Execution Payload}

omit [DecidableEq Payload] in
theorem Event.Executes.mem (executes : event.Executes session id execution)
    (member : event ∈ log) : execution ∈ executions session id log :=
  List.mem_filterMap.mpr ⟨event, member, executes.here⟩

omit [DecidableEq Payload] in
theorem Event.Executes.added (executes : event.Executes session id execution) :
    executions session id (log ++ [event]) = executions session id log ++ [execution] := by
  rw [executions_append]
  simp [executions, executes.here]

omit [DecidableEq Payload] in
theorem Event.Executes.others (executes : event.Executes session id execution) {other : Token}
    {number : Int} (elsewhere : ¬(session = other ∧ id = number)) :
    executions other number (log ++ [event]) = executions other number log := by
  rw [executions_append]
  simp [executions, executes.elsewhere other number elsewhere]

end Executes

namespace Once

variable {dead : AuthorityEpoch → Prop} {state state' : State Payload ResponseFrame}
  {log events : List (Event Payload)}

omit [DecidableEq Payload] in
/-- Events that execute nothing are added. -/
theorem append (held : Once dead state log)
    (executesNone : ∀ session id, executions session id events = []) :
    Once dead state (log ++ events) := by
  have same session id : executions session id (log ++ events) = executions session id log := by
    rw [executions_append, executesNone, List.append_nil]
  refine ⟨fun active => (held.current active).append, fun session id => ?_,
    fun session id => ?_, ?_⟩
  · rw [same]
    exact fun some => (held.opened session id some).append
  · rw [same]
    exact held.once session id
  · intro active alive id
    rw [same]
    exact held.bounded active alive id

omit [DecidableEq Payload] in
/-- No session is active any more. -/
theorem inactive {later : AuthorityEpoch → Prop} (held : Once dead state log)
    (inactive : state'.activeSession = false) : Once later state' log where
  current active := by
    rw [inactive] at active
    cases active
  opened := held.opened
  once := held.once
  bounded active := by
    rw [inactive] at active
    cases active

/-- A new request of a living session has not been executed. -/
theorem newcomer (held : Once dead state log) {payload : Payload} {id : Int} {session : Token}
    {epoch : AuthorityEpoch} {identity : RequestIdentity Payload} (sound : Sound state)
    (addresses : Addresses wire state payload id session epoch identity)
    (fresh : state.inspectRequest session id identity epoch = .acceptNew) (alive : ¬dead epoch)
    {executed : Int} (was : executions state.currentSession executed log ≠ []) :
    executed < id := by
  obtain ⟨active, current, -, -⟩ := sessionCurrent_iff.mp addresses.current
  obtain ⟨cache, cached, older⟩ := held.bounded active (current ▸ alive) executed was
  obtain ⟨-, same⟩ := sound.completed cache cached
  exact older.trans_lt (inspectRequest_later fresh cached (same.trans current))

/-- A request of the current session is executed. -/
theorem execute (held : Once dead state log) {payload : Payload} {id : Int} {session : Token}
    {epoch : AuthorityEpoch} {identity : RequestIdentity Payload} (sound : Sound state)
    (addresses : Addresses wire state payload id session epoch identity)
    (fresh : state.inspectRequest session id identity epoch = .acceptNew) (alive : ¬dead epoch)
    {event : Event Payload} {execution : Execution Payload}
    (executes : event.Executes state.currentSession id execution) :
    (∀ session number, executions session number (log ++ [event]) ≠ [] →
      Opened (log ++ [event]) session) ∧
    (∀ session number, (executions session number (log ++ [event])).length ≤ 1) ∧
    ∀ number, executions state.currentSession number (log ++ [event]) ≠ [] → number ≤ id := by
  obtain ⟨active, -, -, -⟩ := sessionCurrent_iff.mp addresses.current
  have none : executions state.currentSession id log = [] := by
    by_contra was
    have older := held.newcomer sound addresses fresh alive was
    omega
  refine ⟨fun session number some => ?_, fun session number => ?_, fun number some => ?_⟩
  · by_cases here : state.currentSession = session ∧ id = number
    · rw [← here.1]
      exact (held.current active).append
    · rw [executes.others here] at some
      exact (held.opened session number some).append
  · by_cases here : state.currentSession = session ∧ id = number
    · rw [← here.1, ← here.2, executes.added, none]
      rfl
    · rw [executes.others here]
      exact held.once session number
  · by_cases here : id = number
    · omega
    · rw [executes.others fun both => here both.2] at some
      have older := held.newcomer sound addresses fresh alive some
      omega

end Once

omit [DecidableEq Payload] in
theorem completed_executes (owner : LocalOwnerId) (session : Token) (epoch : AuthorityEpoch)
    (id : Int) (payload : Payload) (response : ResponseFrame) :
    (Event.completed owner session epoch id payload response).Executes session id
      ⟨payload, some response⟩ :=
  ⟨by simp [Event.execution?], fun _ _ other => by simp [Event.execution?, other]⟩

omit [DecidableEq Payload] in
theorem transitioned_executes (session : Token) (id : Int) (payload : Payload)
    (response : ResponseFrame) :
    (Event.transitioned session id payload response).Executes session id
      ⟨payload, some response⟩ :=
  ⟨by simp [Event.execution?], fun _ _ other => by simp [Event.execution?, other]⟩

omit [DecidableEq Payload] in
theorem forgotten_executes (session : Token) (id : Int) (payload : Payload)
    (response : Option ResponseFrame) :
    (Event.forgotten session id payload response).Executes session id ⟨payload, response⟩ :=
  ⟨by simp [Event.execution?], fun _ _ other => by simp [Event.execution?, other]⟩

/-- The moves of an operation open a session for the client that greeted. -/
theorem Moves.greeted {state state' : State Payload ResponseFrame} {events : List (Event Payload)}
    (moves : Moves config wire freedom state events state') {owner : LocalOwnerId}
    {session : Token} {epoch : AuthorityEpoch} {response : ResponseFrame}
    (opened : .activated owner session epoch response ∈ events) :
    freedom.drawn session ∧ ∃ payload id clientNonce epoch, freedom.frame payload epoch ∧
      wire.readEnvelope payload = .ok (.hello id clientNonce) ∧
        response.Greets clientNonce session := by
  induction moves with
  | quiet events quiet => exact absurd trivial (quiet _ opened).opensNone
  | lease => cases opened
  | retire | revoke => exact absurd trivial (retireSequenceOwner_opensNone _ _ _ opened)
  | activate _ _ clientNonce payload session epoch response deadline drawn handled read greets =>
      cases List.mem_singleton.mp opened
      obtain ⟨id, read⟩ := read
      exact ⟨drawn, payload, id, clientNonce, epoch, handled, read, greets⟩
  | complete => simp at opened
  | transition | transitionUnchanged =>
      rcases List.mem_cons.mp opened with opened | opened
      · cases opened
      · exact absurd trivial (retireSequenceOwner_opensNone _ _ _ opened)
  | seq _ _ _ first second => exact (List.mem_append.mp opened).elim first second

/-- Every id of a session is executed at most once by the moves of an operation. -/
theorem Moves.once {dead : AuthorityEpoch → Prop} {state state' : State Payload ResponseFrame}
    {log events : List (Event Payload)} (moves : Moves config wire freedom state events state')
    (changes : ¬freedom.unchanged)
    (alive : ∀ payload epoch, freedom.frame payload epoch → ¬dead epoch)
    (drawn : ¬OpensNone events → ∀ session, freedom.drawn session → ¬Opened log session)
    (sound : Sound state) (held : Once dead state log) : Once dead state' (log ++ events) := by
  induction moves generalizing log with
  | quiet events quiet =>
      apply held.append fun session id => executions_eq_nil fun event member => ?_
      exact (quiet event member).execution?_eq
  | lease deadline =>
      rw [List.append_nil]
      exact ⟨held.current, held.opened, held.once, held.bounded⟩
  | retire owner => exact held.append fun _ _ => retireSequenceOwner_executions owner
  | revoke active =>
      exact (held.inactive rfl).append fun _ _ => retireSequenceOwner_executions _
  | @activate state inactive remaining clientNonce payload session epoch response deadline
      isDrawn _ _ _ =>
      have new : ¬Opened log session := by
        apply drawn _ session isDrawn
        intro none
        exact none _ (List.mem_singleton_self _) trivial
      have same other id : executions other id
          (log ++ [.activated state.nextLocalOwnerId session epoch response]) =
            executions other id log := by
        rw [executions_append]
        exact List.append_nil _
      refine ⟨fun _ => ⟨_, _, _, List.mem_append_right _ (List.mem_singleton_self _)⟩, fun other id some => ?_, fun other id => ?_,
        fun _ _ id some => ?_⟩
      · rw [same] at some
        exact (held.opened other id some).append
      · rw [same]
        exact held.once other id
      · rw [same] at some
        exact absurd (held.opened session id some) new
  | @complete state payload id session epoch identity response addresses fresh handled _ =>
      obtain ⟨opened, once, bounded⟩ := held.execute sound addresses fresh (alive _ _ handled)
        (completed_executes state.localOwnerId state.currentSession epoch id payload response)
      obtain ⟨active, -, -, -⟩ := sessionCurrent_iff.mp addresses.current
      refine ⟨fun _ => (held.current active).append, opened, once, fun _ _ number some => ?_⟩
      exact ⟨_, rfl, bounded number some⟩
  | @transition state payload id session epoch identity response addresses fresh handled _ =>
      obtain ⟨-, -, -, same⟩ := sessionCurrent_iff.mp addresses.current
      subst same
      obtain ⟨opened, once, -⟩ := held.execute sound addresses fresh (alive _ _ handled)
        (transitioned_executes state.currentSession id payload response)
      have ended : Once dead
          (retained state ⟨id, state.currentSession, payload, response⟩).clearAuthority
          (log ++ [.transitioned state.currentSession id payload response]) := by
        refine ⟨?_, opened, once, ?_⟩
        · intro active
          cases active
        · intro active
          cases active
      have kept := ended.append fun session number =>
        @retireSequenceOwner_executions Payload config session number state.localOwnerId
      rwa [List.append_assoc, List.singleton_append] at kept
  | transitionUnchanged response addresses fresh _ _ unchanged => exact absurd unchanged changes
  | @seq _ _ _ earlier later apart first _ firstKeeps secondKeeps =>
      rw [← List.append_assoc]
      apply secondKeeps _ (first.sound sound) (firstKeeps _ sound held)
      · intro some session isDrawn
        have none := apart.resolve_right some
        rw [opened_append_iff none]
        exact drawn (fun all => some fun event member => all event (List.mem_append_right _ member))
          session isDrawn
      · intro some
        exact drawn fun all => some fun event member => all event (List.mem_append_left _ member)

theorem Lapse.once {dead later : AuthorityEpoch → Prop} {state : State Payload ResponseFrame}
    {log lapsed : List (Event Payload)} (lapse : Lapse wire freedom state lapsed)
    (alive : ∀ payload epoch, freedom.frame payload epoch → ¬dead epoch)
    (leaves : ∀ epoch, freedom.lost epoch → later epoch) (weaker : ∀ epoch, dead epoch → later epoch)
    (sound : Sound state) (held : Once dead state log) : Once later state (log ++ lapsed) := by
  cases lapse with
  | none =>
      rw [List.append_nil]
      exact ⟨held.current, held.opened, held.once,
        fun active living => held.bounded active fun gone => living (weaker _ gone)⟩
  | @forgotten payload id session epoch identity response addresses fresh handled _ lost =>
      obtain ⟨opened, once, -⟩ := held.execute sound addresses fresh (alive _ _ handled)
        (forgotten_executes state.currentSession id payload response)
      obtain ⟨active, current, -, -⟩ := sessionCurrent_iff.mp addresses.current
      refine ⟨fun _ => (held.current active).append, opened, once, fun _ living => ?_⟩
      exact absurd (current ▸ leaves _ lost) living

/-- **One operation** executes an id of a session only if it has not been executed. -/
theorem Once.step {dead later : AuthorityEpoch → Prop} {run : Run Payload}
    {operation : Operation Payload} (sound : Sound run.protocol.session)
    (held : Once dead run.protocol.session run.log)
    (changes : AcceptingChangesEpoch config wire run operation)
    (alive : ∀ payload answers, operation = .frame payload answers → ¬dead answers.epoch)
    (drawn : ∀ payload answers id clientNonce, operation = .frame payload answers →
      wire.readEnvelope payload = .ok (.hello id clientNonce) →
        ¬Opened run.log (generateToken answers.randomBytes))
    (leaves : ∀ payload answers owner, operation = .frame payload answers →
      ∀ request : Request, isLowerHexToken request.session = true →
        (request.dispatch config answers owner).forgotten = true → later answers.epoch)
    (weaker : ∀ epoch, dead epoch → later epoch) :
    Once later (run.call config wire operation).protocol.session
      (run.call config wire operation).log := by
  obtain ⟨replayed, events, lapsed, same, replay, moves, lapse⟩ :=
    (step_explained config wire sound operation).parts
  have opensNone : OpensNone replayed := fun event member => (replay event member).opensNone
  have replays : Once dead run.protocol.session (run.log ++ replayed) :=
    held.append fun session id => executions_eq_nil fun event member =>
      (replay event member).execution?_eq
  have moved := moves.once changes.not_unchanged
    (fun payload epoch => by
      rintro ⟨answers, isFrame, rfl⟩
      exact alive payload answers isFrame)
    (fun some session => by
      rintro ⟨payload, answers, isFrame, rfl⟩
      rw [opened_append_iff opensNone]
      by_contra before
      apply some
      intro event member activates
      cases event <;> try exact activates
      obtain ⟨-, _, id, clientNonce, _, ⟨_, handled, -⟩, read, -⟩ := moves.greeted member
      cases isFrame.symm.trans handled
      exact drawn payload answers id clientNonce isFrame read before)
    sound replays
  have lapses := lapse.once
    (fun payload epoch => by
      rintro ⟨answers, isFrame, rfl⟩
      exact alive payload answers isFrame)
    (fun epoch => by
      rintro ⟨payload, answers, owner, isFrame, rfl, request, hex, forgotten⟩
      exact leaves payload answers owner isFrame request hex forgotten)
    weaker (moves.sound sound) moved
  show Once later _ (run.log ++ (run.protocol.step config wire operation).2)
  rwa [List.append_assoc, List.append_assoc, ← same] at lapses

/-! ### What is executed -/

/-- The request that is executed is the frame that was handled, and its response names
it. -/
def Handled (wire : Wire Payload) (freedom : Freedom Payload) (events : List (Event Payload)) :
    Prop :=
  ∀ session id, ∀ execution ∈ executions session id events,
    (∃ epoch command routeV2 params, freedom.frame execution.request epoch ∧
      wire.readEnvelope execution.request = .ok (.request id session command routeV2 params)) ∧
      ∀ frame ∈ execution.response, frame.Names session id

omit [DecidableEq Payload] in
theorem handled_of_none {events : List (Event Payload)}
    (executesNone : ∀ session id, executions session id events = []) :
    Handled wire freedom events := by
  intro session id execution member
  rw [executesNone] at member
  cases member

omit [DecidableEq Payload] in
theorem Handled.append {earlier later : List (Event Payload)}
    (first : Handled wire freedom earlier) (second : Handled wire freedom later) :
    Handled wire freedom (earlier ++ later) := by
  intro session id execution member
  rw [executions_append] at member
  exact (List.mem_append.mp member).elim (first session id execution) (second session id execution)

omit [DecidableEq Payload] in
theorem handled_of_executes {state : State Payload ResponseFrame} {payload : Payload} {id : Int}
    {session : Token} {epoch : AuthorityEpoch} {identity : RequestIdentity Payload}
    {event : Event Payload} {response : Option ResponseFrame}
    (addresses : Addresses wire state payload id session epoch identity)
    (handled : freedom.frame payload epoch) (named : ∀ frame ∈ response, frame.Names session id)
    (executes : event.Executes session id ⟨payload, response⟩) :
    Handled wire freedom [event] := by
  intro other number execution member
  by_cases here : session = other ∧ id = number
  · obtain ⟨rfl, rfl⟩ := here
    obtain ⟨command, routeV2, params, read, -⟩ := addresses.read
    have only : execution = ⟨payload, response⟩ := by
      simpa [executions, executes.here] using member
    subst only
    exact ⟨⟨epoch, command, routeV2, params, handled, read⟩, named⟩
  · simp [executions, executes.elsewhere other number here] at member

theorem names_some {session : Token} {id : Int} {response : ResponseFrame}
    (named : response.Names session id) : ∀ frame ∈ some response, frame.Names session id := by
  intro frame same
  cases same
  exact named

theorem Moves.handled {state state' : State Payload ResponseFrame} {events : List (Event Payload)}
    (moves : Moves config wire freedom state events state') : Handled wire freedom events := by
  induction moves with
  | quiet events quiet =>
      apply handled_of_none
      exact fun session id => executions_eq_nil fun event member =>
        (quiet event member).execution?_eq
  | lease | activate => exact handled_of_none fun _ _ => rfl
  | retire | revoke => exact handled_of_none fun _ _ => retireSequenceOwner_executions _
  | @complete state payload id session epoch identity response addresses fresh handled named =>
      obtain ⟨-, -, -, same⟩ := sessionCurrent_iff.mp addresses.current
      rw [same]
      exact handled_of_executes addresses handled (names_some named) (completed_executes _ session _ id payload _)
  | @transition state payload id session _ _ response addresses fresh handled named
  | @transitionUnchanged state payload id session _ _ response addresses fresh handled named =>
      rw [← List.singleton_append]
      exact (handled_of_executes addresses handled (names_some named)
        (transitioned_executes session id payload response)).append
          (handled_of_none fun _ _ => retireSequenceOwner_executions _)
  | seq _ _ _ first second => exact first.append second

theorem Lapse.handled {state : State Payload ResponseFrame} {lapsed : List (Event Payload)}
    (lapse : Lapse wire freedom state lapsed) : Handled wire freedom lapsed := by
  cases lapse with
  | none => exact handled_of_none fun _ _ => rfl
  | @forgotten payload id session epoch identity response addresses fresh handled named lost =>
      obtain ⟨-, -, -, same⟩ := sessionCurrent_iff.mp addresses.current
      rw [same]
      exact handled_of_executes addresses handled named (forgotten_executes session id payload _)

theorem step_executes {protocol : Protocol Payload} (sound : Sound protocol.session)
    {operation : Operation Payload} {session : Token} {id : Int} {execution : Execution Payload}
    (member : execution ∈ executions session id (protocol.step config wire operation).2) :
    (∃ answers command routeV2 params, operation = .frame execution.request answers ∧
      wire.readEnvelope execution.request = .ok (.request id session command routeV2 params)) ∧
      ∀ frame ∈ execution.response, frame.Names session id := by
  obtain ⟨replayed, events, lapsed, same, replay, moves, lapse⟩ :=
    (step_explained config wire sound operation).parts
  have handled : Handled wire (.of config operation (protocol.step config wire operation).2)
      (protocol.step config wire operation).2 := by
    rw [same]
    apply Handled.append _ (moves.handled.append lapse.handled)
    exact handled_of_none fun session id => executions_eq_nil fun event member =>
      (replay event member).execution?_eq
  obtain ⟨⟨epoch, command, routeV2, params, ⟨answers, isFrame, -⟩, read⟩, named⟩ :=
    handled session id execution member
  exact ⟨⟨answers, command, routeV2, params, isFrame, read⟩, named⟩

end HidBot.ControlProtocol
