import HidBot.Protocol.Moves

/-!
# The moves of each operation

Every function of the protocol, from a sound session, answers from its caches and
then makes a sequence of moves.
-/

namespace HidBot.ControlProtocol

open ControlSession

/-! ### Accepted transitions -/

/-- The answer to this call accepts a transition of the authority. -/
def Answers.accepts (answers : Answers) : ProviderCall → Prop
  | .usbAttach => answers.usbAttach.actionResult = .accepted
  | .usbDetach => answers.usbDetach.actionResult = .accepted
  | .hidRouteSet _ => answers.hidRouteSet.actionResult = .accepted
  | _ => False

/-- An outcome is accepted because a provider said so. -/
def Outcome.Justified (answers : Answers) (outcome : Outcome) : Prop :=
  outcome.accepted = true → ∃ call ∈ outcome.calls, answers.accepts call

namespace Request

variable {request : Request} {answers : Answers}

theorem justified_of_plain {outcome : Outcome} (plain : outcome.accepted = false) :
    outcome.Justified answers := by
  intro accepted
  rw [plain] at accepted
  cases accepted

theorem withoutParams_justified {message : String} {outcome : Outcome}
    (justified : outcome.Justified answers) :
    (request.withoutParams message outcome).Justified answers := by
  unfold withoutParams
  split
  · exact justified
  · exact justified_of_plain rfl

theorem withParams_justified {Params : Type} {params : Option Params} {message : String}
    {outcome : Params → Outcome} (justified : ∀ params, (outcome params).Justified answers) :
    (request.withParams params message outcome).Justified answers := by
  cases params with
  | none => exact justified_of_plain rfl
  | some params => exact justified params

theorem usbTransition_justified {call : ProviderCall} {action : UsbExposureActionOutcome}
    (accepts : action.actionResult = .accepted → answers.accepts call) :
    (request.usbTransition call action).Justified answers := by
  unfold usbTransition
  split
  · exact justified_of_plain rfl
  · intro accepted
    exact ⟨call, List.mem_singleton_self call, accepts (of_decide_eq_true accepted)⟩

theorem routeSet_justified {desired : OutputRoute} :
    (request.routeSet desired answers.hidRouteSet).Justified answers := by
  unfold routeSet
  split
  · exact justified_of_plain rfl
  · exact justified_of_plain rfl
  · exact justified_of_plain rfl
  all_goals
    split
    · exact justified_of_plain rfl
    · intro accepted
      have answered : answers.hidRouteSet.actionResult = .accepted := of_decide_eq_true accepted
      exact ⟨.hidRouteSet desired, List.mem_singleton_self _, answered⟩

theorem releaseAll_justified {provided : Bool} :
    (request.releaseAll provided answers).Justified answers := by
  apply justified_of_plain
  unfold releaseAll
  dsimp only
  split <;> split <;> rfl

theorem report_justified {provided : Bool} {call : ProviderCall} {answer : ReportResult}
    {device : String} {result : ReportState → Result} :
    (request.report provided call answer device result answers).Justified answers := by
  apply justified_of_plain
  unfold report
  dsimp only
  split <;> split <;> rfl

theorem sequenceStart_justified {owner : LocalOwnerId} {code : String}
    {answer : SequenceStartResult} :
    (request.sequenceStart owner code answer).Justified answers := by
  cases answer <;> exact justified_of_plain rfl

theorem dispatch_justified {config : Config} {owner : LocalOwnerId} :
    (request.dispatch config answers owner).Justified answers := by
  unfold dispatch
  split
  case h_5 => exact withoutParams_justified (usbTransition_justified fun accepted => accepted)
  case h_6 => exact withoutParams_justified (usbTransition_justified fun accepted => accepted)
  case h_19 => exact withParams_justified fun desired => routeSet_justified
  case h_20 => exact withoutParams_justified releaseAll_justified
  case h_21 => exact withParams_justified fun code => sequenceStart_justified
  case h_23 => exact withParams_justified fun params => report_justified
  case h_24 => exact withParams_justified fun params => report_justified
  all_goals first
    | exact withoutParams_justified (justified_of_plain rfl)
    | exact withParams_justified fun params => justified_of_plain rfl

end Request

variable {Payload : Type} [DecidableEq Payload] {config : Config} {wire : Wire Payload}
  {freedom : Freedom Payload}

/-! ### Sessions -/

section Sessions

variable {state : State Payload ResponseFrame}

omit [DecidableEq Payload] in
theorem activateHello_opened {clientNonce : Token} {payload : Payload} {newSession : Token}
    {epoch : AuthorityEpoch} {response : ResponseFrame} {now : UInt64}
    {session : State Payload ResponseFrame}
    (activated : state.activateHello clientNonce payload newSession epoch response now =
      some session) :
    state.nextLocalOwnerId ≠ 0 ∧ session.localOwnerId = state.nextLocalOwnerId ∧
      session.clearTransitionRetry = opened state clientNonce payload newSession epoch response
        (now + leaseMicroseconds) := by
  unfold State.activateHello at activated
  split at activated
  · cases activated
  · rename_i remaining
    obtain rfl := Option.some.inj activated
    refine ⟨remaining, rfl, ?_⟩
    cases state.retryCache <;>
      simp [State.clearTransitionRetry, State.clearNormalCache, RetryCache.clearNormal,
        RetryCache.clearTransition, opened]

theorem inspectHello_retry {clientNonce : Token} {payload : Payload} {epoch : AuthorityEpoch}
    {response : ResponseFrame}
    (retry : state.inspectHello clientNonce payload epoch = .exactRetry response) :
    ∃ cache, state.helloCache = some cache ∧ cache.authorityEpoch = epoch ∧
      cache.response = response := by
  unfold State.inspectHello at retry
  split at retry
  · cases retry
  · rename_i cache cached
    split at retry
    · cases retry
    · rename_i current
      split at retry
      · cases retry
      · cases retry
        exact ⟨cache, cached, not_not.mp fun other => current (.inl other), rfl⟩

theorem inspectRequest_current {session : Token} {id : Int} {identity : RequestIdentity Payload}
    {epoch : AuthorityEpoch}
    (known : state.inspectRequest session id identity epoch ≠ .sessionMismatch) :
    state.sessionCurrent session epoch = true := by
  unfold State.inspectRequest at known
  split at known
  · exact absurd rfl known
  · rename_i current
    exact eq_true_of_ne_false current

theorem inspectRequest_retry {session : Token} {id : Int} {identity : RequestIdentity Payload}
    {epoch : AuthorityEpoch} {response : ResponseFrame}
    (retry : state.inspectRequest session id identity epoch = .exactRetry response) :
    ∃ cache, state.retryCache = .normal (some cache) ∧ cache.id = id ∧
      cache.identity = identity ∧ cache.authorityEpoch = epoch ∧ cache.response = response := by
  unfold State.inspectRequest at retry
  split at retry
  · cases retry
  · split at retry
    · cases retry
    · cases retry
    · rename_i cache cached
      split_ifs at retry with newer older other
      cases retry
      rw [not_or, not_not] at newer
      exact ⟨cache, cached, by omega, not_not.mp other, newer.1, rfl⟩

theorem inspectTransitionRetry_some {session : Token} {id : Int} {payload : Payload}
    {response : ResponseFrame}
    (retry : state.inspectTransitionRetry session id payload = some response) :
    ∃ cache, state.retryCache = .transition cache ∧ cache.id = id ∧ cache.session = session ∧
      cache.request = payload ∧ cache.response = response := by
  unfold State.inspectTransitionRetry at retry
  split at retry
  · cases retry
  · rename_i cache cached
    split at retry
    · cases retry
    · rename_i same
      simp only [sameToken, not_or, not_not, Bool.and_eq_false_iff, Bool.not_eq_false,
        beq_iff_eq] at same
      exact ⟨cache, cached, same.1, same.2.1.2, same.2.2, Option.some.inj retry⟩

omit [DecidableEq Payload] in
theorem revoke_outdated {epoch : AuthorityEpoch}
    (active : state.activeSession = true) (outdated : state.sessionAuthorityEpoch ≠ epoch) :
    state.revokeForLifecycleInvalidation epoch = state.clearAuthority :=
  if_pos (.inl ⟨active, outdated⟩)

omit [DecidableEq Payload] in
theorem Sound.revoke_current (sound : Sound state) {epoch : AuthorityEpoch}
    (current : ¬(state.activeSession = true ∧ state.sessionAuthorityEpoch ≠ epoch)) :
    state.revokeForLifecycleInvalidation epoch = state := by
  apply if_neg
  rintro (outdated | ⟨cache, cached, other⟩ | outdated)
  · exact current outdated
  · obtain ⟨active, same, -⟩ := sound.hello cache cached
    exact current ⟨active, same ▸ other⟩
  · unfold State.normalCacheOutdated at outdated
    split at outdated
    · rename_i cache cached
      obtain ⟨active, same⟩ := sound.completed cache cached
      exact current ⟨active, same ▸ bne_iff_ne.mp outdated⟩
    · cases outdated

end Sessions

/-! ### Moves -/

omit [DecidableEq Payload] in
theorem Event.Quiet.opensNone {event : Event Payload} (quiet : event.Quiet) : ¬event.Activates := by
  cases event <;> first | exact id | exact absurd quiet id

omit [DecidableEq Payload] in
theorem retireSequenceOwner_opensNone (config : Config) (owner : LocalOwnerId) :
    OpensNone (retireSequenceOwner config owner : List (Event Payload)) := by
  intro event member
  rw [(retireSequenceOwner_mem member).1]
  exact id

omit [DecidableEq Payload] in
theorem opensNone_nil : OpensNone ([] : List (Event Payload)) := by
  intro event member
  cases member

omit [DecidableEq Payload] in
theorem OpensNone.append {earlier later : List (Event Payload)} (first : OpensNone earlier)
    (second : OpensNone later) : OpensNone (earlier ++ later) :=
  fun event member => (List.mem_append.mp member).elim (first event) (second event)

theorem Moves.nil {state : State Payload ResponseFrame} :
    Moves config wire freedom state [] state :=
  .quiet [] (by simp)

theorem Moves.append_quiet {state state' : State Payload ResponseFrame}
    {events later : List (Event Payload)} (moves : Moves config wire freedom state events state')
    (quiet : ∀ event ∈ later, event.Quiet) :
    Moves config wire freedom state (events ++ later) state' :=
  moves.seq (.inr fun event member => (quiet event member).opensNone) (.quiet later quiet)

omit [DecidableEq Payload] in
theorem refreshLease_eq (state : State Payload ResponseFrame) (now : UInt64) :
    ∃ deadline, state.refreshLease now = { state with leaseDeadlineUs := deadline } := by
  unfold State.refreshLease
  split
  · exact ⟨_, rfl⟩
  · exact ⟨state.leaseDeadlineUs, rfl⟩

theorem Moves.refreshLease (state : State Payload ResponseFrame) (now : UInt64) :
    Moves config wire freedom state [] (state.refreshLease now) := by
  obtain ⟨deadline, leased⟩ := refreshLease_eq state now
  rw [leased]
  exact .lease deadline

omit [DecidableEq Payload] in
theorem writeFrame_quiet (response : Option ResponseFrame) :
    ∀ event ∈ (writeFrame response : List (Event Payload)), event.Quiet := by
  cases response <;> simp [writeFrame, Event.Quiet]

omit [DecidableEq Payload] in
theorem hook_quiet (present : Bool) (event : Event Payload) (quiet : event.Quiet) :
    ∀ called ∈ hook present event, called.Quiet := by
  cases present <;> simp [hook, quiet]

omit [DecidableEq Payload] in
theorem written_quiet (response : ResponseFrame) :
    ∀ event ∈ ([.written response] : List (Event Payload)), event.Quiet := by
  simp [Event.Quiet]

omit [DecidableEq Payload] in
theorem calls_quiet (calls : List ProviderCall) :
    ∀ event ∈ (calls.map .provider : List (Event Payload)), event.Quiet := by
  simp [Event.Quiet]

theorem requestEnvelope_session {root : Json} {id number : Int} {name command : String}
    {session : Token} {routeV2 : Bool} {params : Option Json}
    (read : requestEnvelope root number name = .ok (.request id session command routeV2 params)) :
    isLowerHexToken session = true := by
  unfold requestEnvelope at read
  split at read
  · cases read
  · split at read
    · cases read
    · rename_i checked
      split at read
      · cases read
      · cases read
        exact (Option.filter_eq_some_iff.mp checked).2

theorem helloEnvelope_ne {root : Json} {id number : Int} {command : String} {session : Token}
    {routeV2 : Bool} {params : Option Json} :
    helloEnvelope root number ≠ .ok (.request id session command routeV2 params) := by
  unfold helloEnvelope
  intro read
  split at read
  · cases read
  · split at read <;> cases read

theorem rootEnvelope_session {root : Json} {id : Int} {command : String} {session : Token}
    {routeV2 : Bool} {params : Option Json}
    (read : rootEnvelope root = .ok (.request id session command routeV2 params)) :
    isLowerHexToken session = true := by
  unfold rootEnvelope at read
  split at read
  · cases read
  · split at read
    · cases read
    · split at read
      · cases read
      · split at read
        · cases read
        · split at read
          · cases read
          · exact absurd read helloEnvelope_ne
          · exact requestEnvelope_session read

omit [DecidableEq Payload] in
theorem readEnvelope_session {payload : Payload} {id : Int} {session : Token} {command : String}
    {routeV2 : Bool} {params : Option Json}
    (read : wire.readEnvelope payload = .ok (.request id session command routeV2 params)) :
    isLowerHexToken session = true := by
  unfold Wire.readEnvelope at read
  split at read
  · cases read
  · split at read
    · cases read
    · split at read
      · cases read
      · exact rootEnvelope_session read

omit [DecidableEq Payload] in
theorem readEnvelope_size {payload : Payload} {envelope : Envelope}
    (read : wire.readEnvelope payload = .ok envelope) : wire.size payload ≤ maxRequestBytes := by
  unfold Wire.readEnvelope at read
  split at read
  · cases read
  · omega

omit [DecidableEq Payload] in
theorem Addresses.refreshLease {state : State Payload ResponseFrame} {payload : Payload} {id : Int}
    {session : Token} {epoch : AuthorityEpoch} {identity : RequestIdentity Payload}
    (addresses : Addresses wire state payload id session epoch identity) (now : UInt64) :
    Addresses wire (state.refreshLease now) payload id session epoch identity := by
  obtain ⟨deadline, leased⟩ := refreshLease_eq state now
  rw [leased]
  exact ⟨addresses.read, addresses.current⟩

theorem inspectRequest_refreshLease {state : State Payload ResponseFrame} {id : Int}
    {session : Token} {epoch : AuthorityEpoch} {identity : RequestIdentity Payload}
    (now : UInt64) :
    (state.refreshLease now).inspectRequest session id identity epoch =
      state.inspectRequest session id identity epoch := by
  obtain ⟨deadline, leased⟩ := refreshLease_eq state now
  rw [leased]
  rfl

/-- The freedom covers the handling of this frame. -/
structure Grants (config : Config) (freedom : Freedom Payload) (payload : Payload)
    (answers : Answers) (events : List (Event Payload)) : Prop where
  frame : freedom.frame payload answers.epoch
  drawn : freedom.drawn (generateToken answers.randomBytes)
  unchanged : ∀ call, .provider call ∈ events → answers.accepts call →
    answers.epochAfter = answers.epoch → freedom.unchanged
  lost : ∀ (request : Request) owner, isLowerHexToken request.session = true →
    (request.dispatch config answers owner).forgotten = true → freedom.lost answers.epoch

omit [DecidableEq Payload] in
theorem Grants.mono {payload : Payload} {answers : Answers} {events fewer : List (Event Payload)}
    (grants : Grants config freedom payload answers events)
    (called : ∀ call, .provider call ∈ fewer → .provider call ∈ events) :
    Grants config freedom payload answers fewer where
  frame := grants.frame
  drawn := grants.drawn
  unchanged call member := grants.unchanged call (called call member)
  lost := grants.lost

/-- A step of the protocol makes moves of the session. -/
def Step.Moves (config : Config) (wire : Wire Payload) (freedom : Freedom Payload)
    (protocol : Protocol Payload) (step : Step Payload) : Prop :=
  ControlProtocol.Moves config wire freedom protocol.session step.2 step.1.session

/-- One step after another. -/
theorem Step.Moves.seq {protocol : Protocol Payload} {first second : Step Payload}
    (earlier : Step.Moves config wire freedom protocol first)
    (later : Step.Moves config wire freedom first.1 second)
    (apart : OpensNone first.2 ∨ OpensNone second.2) :
    Step.Moves config wire freedom protocol (second.1, first.2 ++ second.2) :=
  ControlProtocol.Moves.seq apart earlier later

/-- Calls before a step. -/
theorem Step.Moves.after_calls {protocol : Protocol Payload} {step : Step Payload}
    (moves : Step.Moves config wire freedom protocol step) (calls : List ProviderCall) :
    Step.Moves config wire freedom protocol (step.1, calls.map .provider ++ step.2) :=
  ControlProtocol.Moves.seq
    (.inl fun event member => (calls_quiet calls event member).opensNone)
    (.quiet _ (calls_quiet calls)) moves

/-- A step that makes moves, and may forget what it executed. -/
def Step.Lapses (config : Config) (wire : Wire Payload) (freedom : Freedom Payload)
    (protocol : Protocol Payload) (step : Step Payload) : Prop :=
  ∃ events lapsed, step.2 = events ++ lapsed ∧
    ControlProtocol.Moves config wire freedom protocol.session events step.1.session ∧
    Lapse wire freedom step.1.session lapsed

theorem Step.Lapses.after_calls {protocol : Protocol Payload} {step : Step Payload}
    (lapses : Step.Lapses config wire freedom protocol step) (calls : List ProviderCall) :
    Step.Lapses config wire freedom protocol (step.1, calls.map .provider ++ step.2) := by
  obtain ⟨events, lapsed, same, moves, lapse⟩ := lapses
  refine ⟨calls.map .provider ++ events, lapsed, ?_, .seq ?_ (.quiet _ (calls_quiet calls)) moves,
    lapse⟩
  · rw [same, List.append_assoc]
  · exact .inl fun event member => (calls_quiet calls event member).opensNone

/-- A step answers from the caches it found, then makes moves, and may forget what it
executed. -/
structure Step.Explained (config : Config) (wire : Wire Payload) (freedom : Freedom Payload)
    (protocol : Protocol Payload) (step : Step Payload) : Prop where
  parts : ∃ replayed events lapsed, step.2 = replayed ++ (events ++ lapsed) ∧
    (∀ event ∈ replayed, Replay wire protocol.session event) ∧
    ControlProtocol.Moves config wire freedom protocol.session events step.1.session ∧
    Lapse wire freedom step.1.session lapsed

theorem Step.Moves.explained {protocol : Protocol Payload} {step : Step Payload}
    (moves : Step.Moves config wire freedom protocol step) :
    Step.Explained config wire freedom protocol step :=
  ⟨[], step.2, [], (List.append_nil _).symm, by simp, moves, .none⟩

theorem Step.Lapses.explained {protocol : Protocol Payload} {step : Step Payload}
    (lapses : Step.Lapses config wire freedom protocol step) :
    Step.Explained config wire freedom protocol step := by
  obtain ⟨events, lapsed, same, moves, lapse⟩ := lapses
  exact ⟨[], events, lapsed, same, by simp, moves, lapse⟩

/-- A step that answers from a cache and changes the lease at most. -/
theorem Step.explained_of_replay {protocol : Protocol Payload} {step : Step Payload}
    (replay : ∀ event ∈ step.2, Replay wire protocol.session event)
    (moves : ControlProtocol.Moves config wire freedom protocol.session [] step.1.session) :
    Step.Explained config wire freedom protocol step :=
  ⟨step.2, [], [], (List.append_nil _).symm, replay, moves, .none⟩

omit [DecidableEq Payload] in
/-- A response is replayed and written. -/
theorem replayed_written {state : State Payload ResponseFrame} {event : Event Payload}
    (replay : Replay wire state event) (response : ResponseFrame) :
    ∀ later ∈ [event, .written response], Replay wire state later := by
  intro later member
  rcases List.mem_cons.mp member with rfl | member
  · exact replay
  · rw [List.mem_singleton.mp member]
    exact .written response

namespace Protocol

variable {protocol : Protocol Payload}

theorem writes_moves (response : Option ResponseFrame) :
    Step.Moves config wire freedom protocol (protocol, writeFrame response) :=
  .quiet _ (writeFrame_quiet response)

theorem takeover_moves (epoch : AuthorityEpoch) :
    Step.Moves config wire freedom protocol (protocol.takeover config epoch) := by
  unfold takeover
  split
  · rename_i active
    exact (Moves.revoke active).append_quiet (hook_quiet _ _ trivial)
  · exact .nil

omit [DecidableEq Payload] in
theorem takeover_inactive (epoch : AuthorityEpoch) :
    (protocol.takeover config epoch).1.session.activeSession = false := by
  unfold takeover
  split
  · rfl
  · rename_i inactive
    exact eq_false_of_ne_true inactive

omit [DecidableEq Payload] in
theorem takeover_opensNone (epoch : AuthorityEpoch) :
    OpensNone (protocol.takeover config epoch).2 := by
  unfold takeover
  split
  · apply (retireSequenceOwner_opensNone _ _).append
    exact fun event member => (hook_quiet _ .sessionTakeover trivial event member).opensNone
  · exact opensNone_nil

theorem makeHello_greets {session clientNonce bootId : Token} {id : Int} {metadata : Metadata}
    {response : ResponseFrame}
    (made : makeHello session id metadata clientNonce bootId = some response) :
    response.Greets clientNonce session := by
  unfold makeHello makeResult makeFrame at made
  split_ifs at made
  obtain rfl := Option.some.inj made
  exact ⟨rfl, _, _, _, _, rfl⟩

theorem freshHello_moves (inactive : protocol.session.activeSession = false) (answers : Answers)
    (payload : Payload) (id : Int) (clientNonce : Token)
    (drawn : freedom.drawn (generateToken answers.randomBytes))
    (handled : freedom.frame payload answers.epoch)
    (read : wire.readEnvelope payload = .ok (.hello id clientNonce)) :
    Step.Moves config wire freedom protocol
      (protocol.freshHello config answers payload id clientNonce) := by
  unfold freshHello
  dsimp only
  split
  · exact writes_moves _
  · rename_i response made
    split
    · exact writes_moves _
    · rename_i session activated
      obtain ⟨remaining, owner, same⟩ := activateHello_opened activated
      have moves : Moves config wire freedom _ _ _ := .activate inactive remaining clientNonce
        payload _ answers.epoch response (answers.now + leaseMicroseconds) drawn
        handled ⟨id, read⟩ (makeHello_greets made)
      rw [← same, ← owner] at moves
      exact moves.append_quiet (written_quiet response)

theorem handleHello_explained (answers : Answers) (payload : Payload) (id : Int)
    (clientNonce : Token) (drawn : freedom.drawn (generateToken answers.randomBytes))
    (handled : freedom.frame payload answers.epoch)
    (read : wire.readEnvelope payload = .ok (.hello id clientNonce)) :
    Step.Explained config wire freedom protocol
      (protocol.handleHello config answers payload id clientNonce) := by
  unfold handleHello
  split
  · rename_i response retry
    obtain ⟨cache, cached, same, rfl⟩ := inspectHello_retry retry
    have replay : Replay wire _ _ := .hello cached
    rw [same] at replay
    exact Step.explained_of_replay (replayed_written replay cache.response)
      (.refreshLease protocol.session answers.now)
  · exact (writes_moves _).explained
  · exact (Step.Moves.seq (takeover_moves answers.epoch)
      (freshHello_moves (takeover_inactive answers.epoch) answers payload id clientNonce drawn
        handled read)
      (.inl (takeover_opensNone _))).explained

section Requests

variable {payload : Payload} {id : Int} {session : Token} {answers : Answers}
  {identity : RequestIdentity Payload}

theorem finishTransition_moves (sound : Sound protocol.session) (response : ResponseFrame)
    (addresses : Addresses wire protocol.session payload id session answers.epoch identity)
    (fresh : protocol.session.inspectRequest session id identity answers.epoch = .acceptNew)
    (handled : freedom.frame payload answers.epoch) (named : response.Names session id)
    (unchanged : answers.epochAfter = answers.epoch → freedom.unchanged) :
    Step.Moves config wire freedom protocol
      (protocol.finishTransition config wire answers payload session id response) := by
  obtain ⟨active, epoch, length, -⟩ := sessionCurrent_iff.mp addresses.current
  obtain ⟨command, routeV2, params, read, -⟩ := addresses.read
  have kept : protocol.session.cacheTransitionRetry session id payload (wire.size payload)
      response = retained protocol.session ⟨id, session, payload, response⟩ := by
    have short := readEnvelope_size read
    apply if_neg
    omega
  have stillSound : Sound (retained protocol.session ⟨id, session, payload, response⟩) :=
    ⟨sound.hello, by simp [retained]⟩
  unfold finishTransition Step.Moves
  dsimp only
  rw [kept]
  by_cases same : answers.epochAfter = answers.epoch
  · rw [stillSound.revoke_current (by rw [same]; exact fun outdated => outdated.2 epoch)]
    exact (Moves.transitionUnchanged response addresses fresh handled named
      (unchanged same)).append_quiet (written_quiet response)
  · have outdated : protocol.session.sessionAuthorityEpoch ≠ answers.epochAfter := by
      rw [epoch]
      exact fun outdated => same outdated.symm
    have ended : (retained protocol.session
        ⟨id, session, payload, response⟩).revokeForLifecycleInvalidation answers.epochAfter =
          State.clearAuthority _ := revoke_outdated active outdated
    rw [ended]
    exact (Moves.transition response addresses fresh handled named).append_quiet (written_quiet response)

theorem finishRequest_lapses (outcome : Outcome)
    (addresses : Addresses wire protocol.session payload id session answers.epoch identity)
    (fresh : protocol.session.inspectRequest session id identity answers.epoch = .acceptNew)
    (handled : freedom.frame payload answers.epoch)
    (named : ∀ frame ∈ outcome.response, frame.Names session id)
    (lost : outcome.forgotten = true → freedom.lost answers.epoch) :
    Step.Lapses config wire freedom protocol
      (protocol.finishRequest answers payload id identity outcome) := by
  obtain ⟨leased, refreshed⟩ : ∃ leased : State Payload ResponseFrame, leased =
      if outcome.semanticallyValid then protocol.session.refreshLease answers.now
        else protocol.session := ⟨_, rfl⟩
  obtain ⟨lease, addresses, fresh⟩ : Moves config wire freedom protocol.session [] leased ∧
      Addresses wire leased payload id session answers.epoch identity ∧
        leased.inspectRequest session id identity answers.epoch = .acceptNew := by
    rw [refreshed]
    split
    · exact ⟨.refreshLease _ _, addresses.refreshLease _,
        (inspectRequest_refreshLease _).trans fresh⟩
    · exact ⟨.nil, addresses, fresh⟩
  have lapse : Lapse wire freedom leased (hook outcome.forgotten
      (.forgotten leased.currentSession id payload outcome.response)) := by
    cases forgets : outcome.forgotten with
    | false => exact .none
    | true => exact .forgotten outcome.response addresses fresh handled named (lost forgets)
  unfold finishRequest
  dsimp only
  rw [← refreshed]
  split
  · exact ⟨_, _, rfl, lease.append_quiet (writeFrame_quiet _), lapse⟩
  · split
    · exact ⟨[], _, rfl, lease, lapse⟩
    · rename_i response answered
      split
      · exact ⟨_, [], (List.append_nil _).symm,
          (lease.seq (.inl opensNone_nil) (.complete response addresses fresh handled
            (named response answered))).append_quiet
            (written_quiet response),
          .none⟩
      · exact ⟨_, _, rfl, lease.append_quiet (written_quiet response), lapse⟩

theorem execute_explained (sound : Sound protocol.session) (command : String) (routeV2 : Bool)
    (params : Option Json)
    (addresses : Addresses wire protocol.session payload id session answers.epoch identity)
    (fresh : protocol.session.inspectRequest session id identity answers.epoch = .acceptNew)
    (grants : Grants config freedom payload answers (protocol.execute config wire answers payload id session command
        routeV2 params identity).2) :
    Step.Explained config wire freedom protocol (protocol.execute config wire answers payload id
      session command routeV2 params identity) := by
  obtain ⟨-, -, -, same⟩ := sessionCurrent_iff.mp addresses.current
  have hex : isLowerHexToken protocol.session.currentSession = true := by
    obtain ⟨_, _, _, read, -⟩ := addresses.read
    rw [same]
    exact readEnvelope_session read
  unfold execute at grants ⊢
  dsimp only at grants ⊢
  generalize dispatched : Request.dispatch _ config answers _ = outcome at grants ⊢
  have justified : outcome.Justified answers := dispatched ▸ Request.dispatch_justified
  have named : ∀ frame ∈ outcome.response, frame.Names session id := by
    rw [← dispatched, ← same]
    exact (Request.dispatch_proper config protocol.session.localOwnerId).names
  have forgets : outcome.forgotten = true → freedom.lost answers.epoch := by
    intro forgotten
    rw [← dispatched] at forgotten
    exact grants.lost _ _ hex forgotten
  split
  · rename_i response accepted answered
    obtain ⟨isAccepted, -⟩ := Bool.and_eq_true_iff.mp accepted
    obtain ⟨call, called, accepts⟩ := justified isAccepted
    have unchanged := grants.unchanged call
      (List.mem_append_left _ (List.mem_map_of_mem called)) accepts
    exact ((finishTransition_moves sound response addresses fresh grants.frame
      (named response answered) unchanged).after_calls _).explained
  · exact ((finishRequest_lapses outcome addresses fresh grants.frame named forgets).after_calls
      _).explained

theorem inspectThenExecute_explained (sound : Sound protocol.session) (command : String)
    (routeV2 : Bool) (params : Option Json)
    (read : wire.readEnvelope payload = .ok (.request id session command routeV2 params))
    (grants : Grants config freedom payload answers (protocol.inspectThenExecute config wire answers payload id session
        command routeV2 params).2) :
    Step.Explained config wire freedom protocol (protocol.inspectThenExecute config wire answers
      payload id session command routeV2 params) := by
  unfold inspectThenExecute at grants ⊢
  split
  · exact (writes_moves _).explained
  · rename_i digested
    rw [if_neg digested] at grants
    dsimp only at grants ⊢
    have addresses {result} (inspected : protocol.session.inspectRequest session id
        (identityOf wire payload command) answers.epoch = result)
        (known : result ≠ .sessionMismatch) :
        Addresses wire protocol.session payload id session answers.epoch
          (identityOf wire payload command) :=
      ⟨⟨command, routeV2, params, read, rfl⟩, inspectRequest_current (inspected ▸ known)⟩
    split
    · exact (writes_moves _).explained
    · rename_i response retry
      have current := addresses retry (by simp)
      obtain ⟨cache, cached, rfl, same, epoch, rfl⟩ := inspectRequest_retry retry
      rw [← same, ← epoch] at current
      have replay := Replay.request cached current
      rw [epoch] at replay
      exact Step.explained_of_replay (replayed_written replay cache.response)
        (.refreshLease protocol.session answers.now)
    · exact (writes_moves _).explained
    · exact (writes_moves _).explained
    · rename_i fresh
      rw [fresh] at grants
      exact execute_explained sound command routeV2 params (addresses fresh (by simp)) fresh grants

theorem handleRequest_explained (sound : Sound protocol.session) (command : String)
    (routeV2 : Bool) (params : Option Json)
    (read : wire.readEnvelope payload = .ok (.request id session command routeV2 params))
    (grants : Grants config freedom payload answers (protocol.handleRequest config wire answers payload id session
        command routeV2 params).2) :
    Step.Explained config wire freedom protocol (protocol.handleRequest config wire answers
      payload id session command routeV2 params) := by
  unfold handleRequest at grants ⊢
  dsimp only at grants ⊢
  split
  · rename_i response isRetry retry
    obtain ⟨cache, cached, rfl, rfl, rfl, rfl⟩ := inspectTransitionRetry_some retry
    have replay := replayed_written (.transition cached : Replay wire _ _) cache.response
    split
    · exact Step.explained_of_replay replay .nil
    · rename_i unwritten
      rw [isRetry, retry] at grants
      dsimp only at grants
      rw [if_neg unwritten] at grants
      obtain ⟨replayed, events, lapsed, same, replays, moves, lapse⟩ :=
        (inspectThenExecute_explained sound command routeV2 params read
          (grants.mono fun call called => List.mem_append_right _ called)).parts
      refine ⟨[.transitionReplayed cache.session cache.id cache.request cache.response,
        .written cache.response] ++ replayed, events, lapsed, ?_, fun event member => ?_, moves,
        lapse⟩
      · rw [List.append_assoc, ← same]
      · exact (List.mem_append.mp member).elim (replay event) (replays event)
  · rename_i normal
    apply inspectThenExecute_explained sound command routeV2 params read
    apply grants.mono
    intro call called
    split
    · rename_i response isRetry retry
      exact absurd retry (normal response isRetry)
    · exact called

end Requests

section Ends

theorem onHidLifecycleInvalidation_moves (sound : Sound protocol.session) (epoch : AuthorityEpoch) :
    Step.Moves config wire freedom protocol (protocol.onHidLifecycleInvalidation config epoch) := by
  unfold onHidLifecycleInvalidation Step.Moves
  dsimp only
  split
  · rename_i outdated
    rw [revoke_outdated outdated.1 outdated.2]
    exact .revoke outdated.1
  · rename_i current
    rw [sound.revoke_current current]
    exact .nil

theorem onHidSafetyFailure_moves (sourceOwnerId : LocalOwnerId)
    (stale : freedom.stale sourceOwnerId) :
    Step.Moves config wire freedom protocol
      (protocol.onHidSafetyFailure config sourceOwnerId) := by
  unfold onHidSafetyFailure Step.Moves
  dsimp only
  apply Moves.append_quiet _ (hook_quiet _ .hidSafetyFailure trivial)
  split
  · rename_i current
    obtain ⟨active, source⟩ := Bool.and_eq_true_iff.mp current
    rw [← eq_of_beq source]
    exact .revoke active
  · rename_i other
    apply Moves.retire sourceOwnerId stale
    intro active same
    simp [active, same] at other

omit [DecidableEq Payload] in
theorem serviceLease_some {state session : State Payload ResponseFrame} {now : UInt64}
    (expired : state.serviceLease now = some session) :
    state.activeSession = true ∧ session = state.clearAuthority := by
  unfold State.serviceLease at expired
  split at expired
  · cases expired
  · rename_i served
    rw [not_or] at served
    exact ⟨eq_true_of_ne_false served.1, (Option.some.inj expired).symm⟩

theorem expireLease_moves (now : UInt64) :
    Step.Moves config wire freedom protocol (protocol.expireLease config now) := by
  unfold expireLease
  split
  · exact .nil
  · rename_i session expired
    obtain ⟨active, rfl⟩ := serviceLease_some expired
    exact (Moves.revoke active).append_quiet (hook_quiet _ _ trivial)

omit [DecidableEq Payload] in
theorem expireLease_opensNone (now : UInt64) : OpensNone (protocol.expireLease config now).2 := by
  unfold expireLease
  split
  · exact opensNone_nil
  · apply (retireSequenceOwner_opensNone _ _).append
    exact fun event member => (hook_quiet _ .leaseExpired trivial event member).opensNone

end Ends

end Protocol

/-! ### Operations -/

/-- What an operation with these events handled, and what its environment was free to do. -/
def Freedom.of (config : Config) (operation : Operation Payload)
    (events : List (Event Payload)) : Freedom Payload where
  frame payload epoch := ∃ answers, operation = .frame payload answers ∧ answers.epoch = epoch
  drawn session := ∃ payload answers, operation = .frame payload answers ∧
    session = generateToken answers.randomBytes
  stale owner := operation = .hidSafetyFailure owner
  unchanged := ∃ payload answers call, operation = .frame payload answers ∧
    Event.provider call ∈ events ∧ answers.accepts call ∧ answers.epochAfter = answers.epoch
  lost epoch := ∃ payload answers owner, operation = .frame payload answers ∧
    answers.epoch = epoch ∧ ∃ request : Request, isLowerHexToken request.session = true ∧
      (request.dispatch config answers owner).forgotten = true

/-- Every operation on a sound session answers from its caches, then makes moves. -/
theorem step_explained (config : Config) (wire : Wire Payload) {protocol : Protocol Payload}
    (sound : Sound protocol.session)
    (operation : Operation Payload) :
    Step.Explained config wire (.of config operation (protocol.step config wire operation).2) protocol
      (protocol.step config wire operation) := by
  cases operation with
  | frame payload answers =>
      unfold Protocol.step Protocol.handleFrame
      dsimp only
      split
      · exact (Protocol.writes_moves _).explained
      · rename_i id clientNonce read
        exact Protocol.handleHello_explained answers payload id clientNonce
          ⟨payload, answers, rfl, rfl⟩ ⟨answers, rfl, rfl⟩ read
      · rename_i id session command routeV2 params read
        apply Protocol.handleRequest_explained sound command routeV2 params read
        exact ⟨⟨answers, rfl, rfl⟩, ⟨payload, answers, rfl, rfl⟩,
          fun call called accepts same => ⟨payload, answers, call, rfl, called, accepts, same⟩,
          fun request owner hex forgotten =>
            ⟨payload, answers, owner, rfl, rfl, request, hex, forgotten⟩⟩
  | overlongProtocolFrame => exact (Protocol.writes_moves _).explained
  | transportSync => exact Step.explained_of_replay (by simp [Protocol.step]) .nil
  | hidLifecycleInvalidation epoch =>
      exact (Protocol.onHidLifecycleInvalidation_moves sound epoch).explained
  | hidSafetyFailure sourceOwnerId =>
      exact (Protocol.onHidSafetyFailure_moves sourceOwnerId rfl).explained
  | service epoch now =>
      exact (Step.Moves.seq (Protocol.onHidLifecycleInvalidation_moves sound epoch)
        (Protocol.expireLease_moves now) (.inr (Protocol.expireLease_opensNone now))).explained

/-- An answer from a cache comes from a cache that the operation found. -/
theorem step_replay {protocol : Protocol Payload} (sound : Sound protocol.session)
    {operation : Operation Payload} {event : Event Payload}
    (member : event ∈ (protocol.step config wire operation).2) (cached : event.FromCache) :
    Replay wire protocol.session event := by
  obtain ⟨replayed, events, lapsed, same, replay, moves, lapse⟩ :=
    (step_explained config wire sound operation).parts
  rw [same] at member
  rcases List.mem_append.mp member with member | member
  · exact replay event member
  · rcases List.mem_append.mp member with member | member
    · exact absurd cached (moves.not_fromCache event member)
    · exact absurd cached (lapse.not_fromCache event member)

omit [DecidableEq Payload] in
theorem initialized_sound (bootBytes : Vector UInt8 16) :
    Sound (Protocol.initialized bootBytes : Protocol Payload).session where
  hello cache cached := by
    simp only [Protocol.initialized, State.clearTransitionRetry, State.initialized] at cached
    cases cached
  completed cache cached := by
    simp only [Protocol.initialized, State.clearTransitionRetry, State.initialized,
      RetryCache.clearTransition] at cached
    cases cached

/-! ### Runs -/

open Interleaving

/-- **Invariants of runs**: what replays and lapses leave and moves keep holds in every
run. -/
theorem Run.induct {allowed : Run Payload → Operation Payload → Prop}
    {bootBytes : Vector UInt8 16} {run : Run Payload}
    {holds : State Payload ResponseFrame → List (Event Payload) → Prop}
    (initially : holds (Protocol.initialized bootBytes).session [])
    (replays : ∀ state log replayed, (∀ event ∈ replayed, Replay wire state event) →
      holds state log → holds state (log ++ replayed))
    (moves : ∀ (run : Run Payload) operation replayed state events state',
      allowed run operation →
      Moves config wire (.of config operation (run.protocol.step config wire operation).2)
        state events state' →
      Sound state → holds state (run.log ++ replayed) →
      holds state' (run.log ++ replayed ++ events))
    (lapses : ∀ (freedom : Freedom Payload) state log lapsed, Lapse wire freedom state lapsed →
      holds state log → holds state (log ++ lapsed))
    (follows : Follows (Run.call config wire) allowed (boot bootBytes) run) :
    Sound run.protocol.session ∧ holds run.protocol.session run.log := by
  induction follows with
  | refl => exact ⟨initialized_sound bootBytes, initially⟩
  | @step run operation _ admitted ih =>
      obtain ⟨sound, held⟩ := ih
      obtain ⟨replayed, events, lapsed, same, replay, moved, lapse⟩ :=
        (step_explained config wire sound operation).parts
      refine ⟨moved.sound sound, ?_⟩
      show holds _ (run.log ++ (run.protocol.step config wire operation).2)
      have kept := lapses _ _ _ lapsed lapse (moves run operation replayed _ events _ admitted moved
        sound (replays _ _ replayed replay held))
      rwa [List.append_assoc, List.append_assoc, ← same] at kept

/-- One operation keeps a sound session. -/
theorem Sound.step {run : Run Payload} (sound : Sound run.protocol.session)
    (operation : Operation Payload) :
    Sound (run.call config wire operation).protocol.session := by
  obtain ⟨_, _, _, -, -, moves, -⟩ := (step_explained config wire sound operation).parts
  exact moves.sound sound

end HidBot.ControlProtocol
