import HidBot.Protocol.Executions

/-!
# What a written response belongs to

A response is a refusal, opens a session, or is the response of an execution that has
happened, in this operation or in an earlier one.
-/

namespace HidBot.ControlProtocol

open ControlSession

variable {Payload : Type} [DecidableEq Payload] {config : Config} {wire : Wire Payload}
  {freedom : Freedom Payload}

/-! ### Within one operation -/

def Event.replayed? : Event Payload → Option ResponseFrame
  | .helloReplayed _ response => some response
  | .requestReplayed _ _ _ _ response => some response
  | .transitionReplayed _ _ _ response => some response
  | _ => none

/-- Why a response is written among these events. -/
inductive Backed (events : List (Event Payload)) (response : ResponseFrame) : Prop where
  | refusal {code message : String} (refuses : response.body = .error code message)
  | opened {owner : LocalOwnerId} {session : Token} {epoch : AuthorityEpoch}
      (member : .activated owner session epoch response ∈ events)
  | executed (session : Token) (id : Int) {execution : Execution Payload}
      (member : execution ∈ executions session id events)
      (answered : execution.response = some response)
  | replayed {event : Event Payload} (member : event ∈ events)
      (answered : event.replayed? = some response)

/-- Every response among these events has its reason among them. -/
def AllBacked (events : List (Event Payload)) : Prop :=
  ∀ response, .written response ∈ events → Backed events response

section Backed

variable {earlier later events : List (Event Payload)} {response : ResponseFrame}

omit [DecidableEq Payload] in
theorem Backed.before (backed : Backed later response) : Backed (earlier ++ later) response := by
  cases backed with
  | refusal refuses => exact .refusal refuses
  | opened member => exact .opened (List.mem_append_right _ member)
  | executed session id member answered =>
      refine .executed session id ?_ answered
      rw [executions_append]
      exact List.mem_append_right _ member
  | replayed member answered => exact .replayed (List.mem_append_right _ member) answered

omit [DecidableEq Payload] in
theorem Backed.after (backed : Backed earlier response) : Backed (earlier ++ later) response := by
  cases backed with
  | refusal refuses => exact .refusal refuses
  | opened member => exact .opened (List.mem_append_left _ member)
  | executed session id member answered =>
      refine .executed session id ?_ answered
      rw [executions_append]
      exact List.mem_append_left _ member
  | replayed member answered => exact .replayed (List.mem_append_left _ member) answered

omit [DecidableEq Payload] in
theorem AllBacked.append (first : AllBacked earlier) (second : AllBacked later) :
    AllBacked (earlier ++ later) := by
  intro response member
  exact (List.mem_append.mp member).elim (fun here => (first response here).after)
    fun here => (second response here).before

omit [DecidableEq Payload] in
theorem allBacked_of_none (writesNone : ∀ response, .written response ∉ events) :
    AllBacked events :=
  fun response member => absurd member (writesNone response)

omit [DecidableEq Payload] in
theorem allBacked_nil : AllBacked ([] : List (Event Payload)) := by
  intro response member
  cases member

omit [DecidableEq Payload] in
theorem hook_backed (present : Bool) {event : Event Payload} (silent : event.response? = none) :
    AllBacked (hook present event) := by
  intro response member
  unfold hook at member
  split at member
  · rw [← List.mem_singleton.mp member] at silent
    cases silent
  · cases member

theorem makeError_body {session : Option Token} {id : Option Int} {code message : String}
    (made : makeError session id code message = some response) :
    response.body = .error code message := by
  unfold makeError makeFrame at made
  split at made
  · rw [← Option.some.inj made]
  · cases made

omit [DecidableEq Payload] in
theorem writeFrame_mem {made : Option ResponseFrame}
    (member : .written response ∈ (writeFrame made : List (Event Payload))) :
    made = some response := by
  cases made with
  | none => cases member
  | some frame =>
      have same : (.written response : Event Payload) = .written frame := by
        simpa [writeFrame] using member
      cases same
      rfl

omit [DecidableEq Payload] in
theorem writeError_backed (session : Option Token) (id : Option Int) (code message : String) :
    AllBacked (writeFrame (makeError session id code message) : List (Event Payload)) :=
  fun _ member => .refusal (makeError_body (writeFrame_mem member))

omit [DecidableEq Payload] in
theorem retireSequenceOwner_backed (owner : LocalOwnerId) :
    AllBacked (retireSequenceOwner config owner : List (Event Payload)) := by
  apply allBacked_of_none
  intro response member
  cases (retireSequenceOwner_mem member).1

omit [DecidableEq Payload] in
/-- A response is written with the one event that explains it. -/
theorem pair_backed {event : Event Payload} {response : ResponseFrame}
    (explains : Backed [event] response) (silent : event.response? = none) :
    AllBacked [event, .written response] := by
  intro other member
  rcases List.mem_cons.mp member with rfl | member
  · cases silent
  · cases List.mem_singleton.mp member
    exact @Backed.after _ [event] [.written response] response explains

end Backed

namespace Protocol

variable {protocol : Protocol Payload} {answers : Answers} {payload : Payload} {id : Int}
  {session : Token}

theorem handleHello_backed (clientNonce : Token) :
    AllBacked (protocol.handleHello config answers payload id clientNonce).2 := by
  unfold handleHello
  split
  · exact pair_backed (.replayed (List.mem_singleton_self _) rfl) rfl
  · exact writeError_backed _ _ _ _
  · apply AllBacked.append
    · unfold takeover
      split
      · exact (retireSequenceOwner_backed _).append (hook_backed _ rfl)
      · exact allBacked_nil
    · unfold freshHello
      dsimp only
      split
      · exact writeError_backed _ _ _ _
      · split
        · exact writeError_backed _ _ _ _
        · exact pair_backed (.opened (List.mem_singleton_self _)) rfl

omit [DecidableEq Payload] in
theorem executes_backed {event : Event Payload} {request : Payload} {response : ResponseFrame}
    (executes : event.Executes session id ⟨request, some response⟩) : Backed [event] response :=
  have member : ⟨request, some response⟩ ∈ executions session id [event] := by
    simp [executions, executes.here]
  .executed session id member rfl

omit [DecidableEq Payload] in
theorem finishTransition_backed (response : ResponseFrame) :
    AllBacked (protocol.finishTransition config wire answers payload session id response).2 := by
  intro other member
  rcases List.mem_append.mp member with member | member
  · rcases List.mem_cons.mp member with here | member
    · cases here
    · cases (retireSequenceOwner_mem member).1
  · cases List.mem_singleton.mp member
    rw [finishTransition, List.cons_append, ← List.singleton_append]
    exact (executes_backed (transitioned_executes session id payload response)).after

omit [DecidableEq Payload] in
theorem finishRequest_backed {request : Request} {outcome : Outcome}
    (proper : outcome.Proper request answers) (identity : RequestIdentity Payload) :
    AllBacked (protocol.finishRequest answers payload id identity outcome).2 := by
  -- A response that is written and forgotten.
  have lapse (current : Token) (response : ResponseFrame)
      (answered : outcome.response = some response) (forgotten : outcome.forgotten = true) :
      AllBacked (.written response ::
        hook outcome.forgotten (.forgotten current id payload outcome.response)) := by
    rw [answered, forgotten]
    intro other member
    have same : other = response := by simpa [hook] using member
    rw [same, ← List.singleton_append]
    exact (executes_backed (forgotten_executes current id payload (some response))).before
  unfold finishRequest
  dsimp only
  split
  · rename_i incomplete
    cases answered : outcome.response with
    | none =>
        exact (writeError_backed _ _ _ _).append (hook_backed _ rfl)
    | some response =>
        cases valid : outcome.semanticallyValid with
        | true =>
            have backed := lapse (protocol.session.refreshLease answers.now).currentSession response
              answered (by simp [Outcome.forgotten, incomplete, valid])
            rw [answered] at backed
            exact backed
        | false =>
            obtain ⟨code, message, refuses⟩ := proper.refuses incomplete valid response answered
            apply AllBacked.append _ (hook_backed _ rfl)
            intro other member
            cases writeFrame_mem member
            exact .refusal refuses
  · rename_i completed
    split
    · exact hook_backed _ rfl
    · rename_i response answered
      split
      · rename_i caches
        exact pair_backed (executes_backed (completed_executes _ _ _ id payload response)) rfl
      · rename_i uncached
        apply lapse _ response answered
        simp [Outcome.forgotten, completed, uncached]

omit [DecidableEq Payload] in
theorem execute_backed (command : String) (routeV2 : Bool) (params : Option Json)
    (identity : RequestIdentity Payload) :
    AllBacked (protocol.execute config wire answers payload id session command routeV2 params
      identity).2 := by
  unfold execute
  dsimp only
  generalize dispatched : Request.dispatch _ config answers _ = outcome
  apply AllBacked.append
  · exact allBacked_of_none (by simp)
  · split
    · exact finishTransition_backed _
    · exact finishRequest_backed (dispatched ▸ Request.dispatch_proper _ _) identity

theorem inspectThenExecute_backed (command : String) (routeV2 : Bool) (params : Option Json) :
    AllBacked (protocol.inspectThenExecute config wire answers payload id session command routeV2
      params).2 := by
  unfold inspectThenExecute
  split
  · exact writeError_backed _ _ _ _
  · dsimp only
    split
    · exact writeError_backed _ _ _ _
    · exact pair_backed (.replayed (List.mem_singleton_self _) rfl) rfl
    · exact writeError_backed _ _ _ _
    · exact writeError_backed _ _ _ _
    · exact execute_backed command routeV2 params _

theorem handleRequest_backed (command : String) (routeV2 : Bool) (params : Option Json) :
    AllBacked (protocol.handleRequest config wire answers payload id session command routeV2
      params).2 := by
  have replayed (response : ResponseFrame) :
      AllBacked [.transitionReplayed session id payload response, .written response] :=
    pair_backed (.replayed (List.mem_singleton_self _) rfl) rfl
  unfold handleRequest
  dsimp only
  split
  · split
    · exact replayed _
    · exact (replayed _).append (inspectThenExecute_backed command routeV2 params)
  · exact inspectThenExecute_backed command routeV2 params

omit [DecidableEq Payload] in
theorem onHidLifecycleInvalidation_backed (epoch : AuthorityEpoch) :
    AllBacked (protocol.onHidLifecycleInvalidation config epoch).2 := by
  unfold onHidLifecycleInvalidation
  dsimp only
  split
  · exact retireSequenceOwner_backed _
  · exact allBacked_nil

omit [DecidableEq Payload] in
theorem expireLease_backed (now : UInt64) : AllBacked (protocol.expireLease config now).2 := by
  unfold expireLease
  split
  · exact allBacked_nil
  · exact (retireSequenceOwner_backed _).append (hook_backed _ rfl)

end Protocol

/-- Every response that an operation writes is backed by its events. -/
theorem step_backed (protocol : Protocol Payload) (operation : Operation Payload) :
    AllBacked (protocol.step config wire operation).2 := by
  cases operation with
  | frame payload answers =>
      unfold Protocol.step Protocol.handleFrame
      dsimp only
      split
      · exact writeError_backed _ _ _ _
      · exact Protocol.handleHello_backed _
      · exact Protocol.handleRequest_backed _ _ _
  | overlongProtocolFrame => exact writeError_backed _ _ _ _
  | transportSync => exact allBacked_nil
  | hidLifecycleInvalidation epoch => exact Protocol.onHidLifecycleInvalidation_backed epoch
  | hidSafetyFailure owner =>
      exact (retireSequenceOwner_backed owner).append (hook_backed _ rfl)
  | service epoch now =>
      exact (Protocol.onHidLifecycleInvalidation_backed epoch).append
        (Protocol.expireLease_backed now)

/-! ### In a run -/

/-- A response is a refusal, opened its session, or answered an execution that it names. -/
inductive Explained (log : List (Event Payload)) (response : ResponseFrame) : Prop where
  | refusal {code message : String} (refuses : response.body = .error code message)
  | greeting {owner : LocalOwnerId} {session : Token} {epoch : AuthorityEpoch}
      {clientNonce : Token} (opened : .activated owner session epoch response ∈ log)
      (greets : response.Greets clientNonce session)
  | answer (session : Token) (id : Int) {execution : Execution Payload}
      (executed : execution ∈ executions session id log)
      (answered : execution.response = some response) (named : response.session = some session)
      (numbered : response.id = some id) {result : Result}
      (body : response.body = .result result) (plain : result.isHello = false)

/-- Sessions are opened by greetings, and executions are answered by name. -/
structure Truthful (log : List (Event Payload)) : Prop where
  greeted : ∀ owner session epoch response, .activated owner session epoch response ∈ log →
    response.NamesSession session
  named : ∀ session id, ∀ execution ∈ executions session id log,
    ∀ response ∈ execution.response, response.Names session id

section Truthful

variable {log events : List (Event Payload)} {response : ResponseFrame}

omit [DecidableEq Payload] in
theorem Truthful.explained (truthful : Truthful log) {session : Token} {id : Int}
    {execution : Execution Payload} (executed : execution ∈ executions session id log)
    (answered : execution.response = some response) : Explained log response := by
  rcases truthful.named session id execution executed response answered with
    ⟨code, message, refuses⟩ | ⟨named, numbered, result, body, plain⟩
  · exact .refusal refuses
  · exact .answer session id executed answered named numbered body plain

omit [DecidableEq Payload] in
theorem Explained.append (explained : Explained log response) :
    Explained (log ++ events) response := by
  cases explained with
  | refusal refuses => exact .refusal refuses
  | greeting opened greets => exact .greeting (List.mem_append_left _ opened) greets
  | answer session id executed answered named numbered body plain =>
      refine .answer session id ?_ answered named numbered body plain
      rw [executions_append]
      exact List.mem_append_left _ executed

end Truthful

/-- A session is opened by a hello frame, with the token that was drawn. -/
theorem step_opens {protocol : Protocol Payload} (sound : Sound protocol.session)
    {operation : Operation Payload} {owner : LocalOwnerId} {session : Token}
    {epoch : AuthorityEpoch} {response : ResponseFrame}
    (opened : .activated owner session epoch response ∈
      (protocol.step config wire operation).2) :
    ∃ payload answers id clientNonce, operation = .frame payload answers ∧
      session = generateToken answers.randomBytes ∧
        wire.readEnvelope payload = .ok (.hello id clientNonce) ∧
          response.Greets clientNonce session := by
  obtain ⟨replayed, events, lapsed, same, replay, moves, lapse⟩ :=
    (step_explained config wire sound operation).parts
  rw [same] at opened
  rcases List.mem_append.mp opened with opened | opened
  · exact absurd trivial (replay _ opened).opensNone
  · rcases List.mem_append.mp opened with opened | opened
    · obtain ⟨⟨payload, answers, rfl, drawn⟩, handled, id, clientNonce, _, ⟨_, isFrame, -⟩, read,
        greets⟩ := moves.greeted opened
      cases isFrame
      exact ⟨payload, answers, id, clientNonce, rfl, drawn, read, greets⟩
    · obtain ⟨_, _, _, _, other⟩ := lapse.eq_forgotten _ opened
      cases other

theorem Truthful.step {run : Run Payload} (sound : Sound run.protocol.session)
    (truthful : Truthful run.log) (operation : Operation Payload) :
    Truthful (run.call config wire operation).log := by
  show Truthful (run.log ++ (run.protocol.step config wire operation).2)
  constructor
  · intro owner session epoch response opened
    rcases List.mem_append.mp opened with opened | opened
    · exact truthful.greeted owner session epoch response opened
    · obtain ⟨_, _, _, clientNonce, -, -, -, greets⟩ := step_opens sound opened
      exact ⟨clientNonce, greets⟩
  · intro session id execution executed
    rw [executions_append] at executed
    rcases List.mem_append.mp executed with executed | executed
    · exact truthful.named session id execution executed
    · exact (step_executes sound executed).2

/-- **Every written response** belongs to what has happened. -/
theorem step_writes {run : Run Payload} (sound : Sound run.protocol.session)
    (provenance : Provenance run.protocol.session run.log) (truthful : Truthful run.log)
    {operation : Operation Payload} {response : ResponseFrame}
    (written : .written response ∈ (run.protocol.step config wire operation).2) :
    Explained (run.call config wire operation).log response := by
  have later : Truthful (run.log ++ (run.protocol.step config wire operation).2) :=
    truthful.step sound operation
  show Explained (run.log ++ (run.protocol.step config wire operation).2) response
  cases step_backed run.protocol operation response written with
  | refusal refuses => exact .refusal refuses
  | opened member =>
      have opened := List.mem_append_right run.log member
      obtain ⟨clientNonce, greets⟩ := later.greeted _ _ _ _ opened
      exact .greeting opened greets
  | @executed session id execution member answered =>
      have executed : execution ∈ executions session id
          (run.log ++ (run.protocol.step config wire operation).2) := by
        rw [executions_append]
        exact List.mem_append_right _ member
      exact later.explained executed answered
  | @replayed event member answered =>
      have fromCache : event.FromCache := by
        cases event <;> trivial
      apply Explained.append
      cases step_replay sound member fromCache with
      | hello cached =>
          cases answered
          have opened := provenance.hello _ cached
          obtain ⟨clientNonce, greets⟩ := truthful.greeted _ _ _ _ opened
          exact .greeting opened greets
      | request cached addresses =>
          cases answered
          obtain ⟨request, completed⟩ := provenance.completed _ cached
          exact truthful.explained ((completed_executes _ _ _ _ request _).mem completed) rfl
      | @transition cache cached =>
          cases answered
          obtain ⟨before, after, log, -⟩ := provenance.transition _ cached
          have stored : .transitioned cache.session cache.id cache.request cache.response ∈
              run.log := by
            rw [log]
            exact List.mem_append_right before List.mem_cons_self
          exact truthful.explained ((transitioned_executes _ _ _ _).mem stored) rfl
      | written => cases fromCache

end HidBot.ControlProtocol
