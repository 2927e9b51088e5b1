import HidBot.Protocol.Steps

/-!
# Responses stay in their session

Each of the three caches survives other events than the others: the hello and the
last completed request end with their session, the accepted transition outlives it
until the next hello succeeds.
-/

namespace HidBot.ControlProtocol

open ControlSession Interleaving

variable {Payload : Type} [DecidableEq Payload] {config : Config} {wire : Wire Payload}
  {freedom : Freedom Payload}

/-- Every operation, with any answers of the environment. -/
def anyOperation (_ : Run Payload) (_ : Operation Payload) : Prop := True

/-- What the replays of a step come from. -/
structure StayInSession (run : Run Payload) (events : List (Event Payload)) : Prop where
  /-- A hello is replayed while the session it names is active, at its epoch. -/
  hello : ∀ epoch response, .helloReplayed epoch response ∈ events →
    run.protocol.session.activeSession = true ∧
      response.NamesSession run.protocol.session.currentSession ∧
        .activated run.protocol.session.localOwnerId run.protocol.session.currentSession epoch
          response ∈ run.log
  /-- A completed request is replayed to the active session, at its epoch. -/
  request : ∀ session epoch id payload response,
    .requestReplayed session epoch id payload response ∈ events →
    run.protocol.session.activeSession = true ∧ run.protocol.session.currentSession = session ∧
      ∃ request, .completed run.protocol.session.localOwnerId session epoch id request response ∈
        run.log
  /-- A transition is replayed to its own bytes, until a hello succeeds. -/
  transition : ∀ session id payload response,
    .transitionReplayed session id payload response ∈ events →
    ∃ before after, run.log = before ++ .transitioned session id payload response :: after ∧
      OpensNone after

/-- No response crosses a session boundary. -/
def NoneCrosses (config : Config) (wire : Wire Payload) : Prop :=
  ∀ bootBytes run, Follows (Run.call config wire) anyOperation (boot bootBytes) run →
    ∀ operation, StayInSession run (run.protocol.step config wire operation).2

/-- What the caches hold has happened. -/
structure Provenance (state : State Payload ResponseFrame) (log : List (Event Payload)) :
    Prop where
  hello : ∀ cache, state.helloCache = some cache →
    .activated state.localOwnerId state.currentSession cache.authorityEpoch cache.response ∈ log
  completed : ∀ cache, state.retryCache = .normal (some cache) →
    ∃ request, .completed state.localOwnerId state.currentSession cache.authorityEpoch cache.id
      request cache.response ∈ log
  transition : ∀ cache, state.retryCache = .transition cache →
    ∃ before after,
      log = before ++ .transitioned cache.session cache.id cache.request cache.response :: after ∧
      OpensNone after

namespace Provenance

variable {state state' : State Payload ResponseFrame} {log : List (Event Payload)}

omit [DecidableEq Payload] in
/-- Events that open no session are added. -/
theorem append (provenance : Provenance state log) {events : List (Event Payload)}
    (opensNone : OpensNone events) : Provenance state (log ++ events) where
  hello cache cached := List.mem_append_left _ (provenance.hello cache cached)
  completed cache cached := by
    obtain ⟨request, completed⟩ := provenance.completed cache cached
    exact ⟨request, List.mem_append_left _ completed⟩
  transition cache cached := by
    obtain ⟨before, after, rfl, none⟩ := provenance.transition cache cached
    refine ⟨before, after ++ events, by simp, fun event member => ?_⟩
    exact (List.mem_append.mp member).elim (none event) (opensNone event)

omit [DecidableEq Payload] in
/-- Only the accepted transition outlives its session. -/
theorem clearAuthority (provenance : Provenance state log) :
    Provenance state.clearAuthority log where
  hello cache cached := by cases cached
  completed cache cached := absurd cached clearAuthority_normal
  transition cache cached :=
    provenance.transition cache (clearAuthority_transition.mp cached)

omit [DecidableEq Payload] in
/-- An accepted transition is stored with its event. -/
theorem retained (provenance : Provenance state log)
    (cache : TransitionRetryCache Payload ResponseFrame) :
    Provenance (retained state cache)
      (log ++ [.transitioned cache.session cache.id cache.request cache.response]) where
  hello stored cached := List.mem_append_left _ (provenance.hello stored cached)
  completed stored cached := by cases cached
  transition stored cached := by
    obtain rfl := RetryCache.transition.inj cached
    exact ⟨log, [], rfl, by simp [OpensNone]⟩

end Provenance

theorem Moves.provenance {state state' : State Payload ResponseFrame}
    {events log : List (Event Payload)} (moves : Moves config wire freedom state events state')
    (provenance : Provenance state log) : Provenance state' (log ++ events) := by
  induction moves generalizing log with
  | quiet events quiet =>
      exact provenance.append fun event member => (quiet event member).opensNone
  | lease deadline =>
      rw [List.append_nil]
      exact ⟨provenance.hello, provenance.completed, provenance.transition⟩
  | retire owner => exact provenance.append (retireSequenceOwner_opensNone config owner)
  | @revoke state active =>
      exact provenance.clearAuthority.append
        (retireSequenceOwner_opensNone config state.localOwnerId)
  | activate inactive remaining clientNonce payload session epoch response deadline _ _ _ _ =>
      refine ⟨fun cache cached => ?_, fun cache cached => ?_, fun cache cached => ?_⟩
      · obtain rfl := Option.some.inj cached
        exact List.mem_append_right _ (List.mem_singleton_self _)
      · cases cached
      · cases cached
  | complete response addresses fresh _ _ =>
      refine ⟨fun cache cached => ?_, fun cache cached => ?_, fun cache cached => ?_⟩
      · exact List.mem_append_left _ (provenance.hello cache cached)
      · obtain rfl := Option.some.inj (RetryCache.normal.inj cached)
        exact ⟨_, List.mem_append_right _ (List.mem_singleton_self _)⟩
      · cases cached
  | @transition state payload id session epoch identity response addresses fresh _ _ =>
      have stored := (provenance.retained ⟨id, session, payload, response⟩).clearAuthority.append
        (retireSequenceOwner_opensNone config state.localOwnerId)
      rwa [List.append_assoc, List.singleton_append] at stored
  | @transitionUnchanged state payload id session epoch identity response addresses fresh _ _ =>
      have stored := (provenance.retained ⟨id, session, payload, response⟩).append
        (retireSequenceOwner_opensNone config state.localOwnerId)
      rwa [List.append_assoc, List.singleton_append] at stored
  | seq _ _ _ first second =>
      rw [← List.append_assoc]
      exact second (first provenance)

omit [DecidableEq Payload] in
theorem Replay.opensNone {state : State Payload ResponseFrame} {event : Event Payload}
    (replay : Replay wire state event) : ¬event.Activates := by
  cases replay <;> exact id

/-- One operation keeps what the caches hold true. -/
theorem Provenance.step {run : Run Payload} (sound : Sound run.protocol.session)
    (provenance : Provenance run.protocol.session run.log) (operation : Operation Payload) :
    Provenance (run.call config wire operation).protocol.session
      (run.call config wire operation).log := by
  obtain ⟨replayed, events, lapsed, same, replay, moves, lapse⟩ :=
    (step_explained config wire sound operation).parts
  show Provenance _ (run.log ++ (run.protocol.step config wire operation).2)
  rw [same, ← List.append_assoc, ← List.append_assoc]
  apply Provenance.append
  · exact moves.provenance (provenance.append fun event member => (replay event member).opensNone)
  · intro event member
    obtain ⟨_, _, _, _, rfl⟩ := lapse.eq_forgotten event member
    exact id

omit [DecidableEq Payload] in
/-- After a boot the caches are empty. -/
theorem initialized_provenance (bootBytes : Vector UInt8 16) (log : List (Event Payload)) :
    Provenance (Protocol.initialized bootBytes : Protocol Payload).session log where
  hello cache cached := by
    simp only [Protocol.initialized, State.clearTransitionRetry, State.initialized] at cached
    cases cached
  completed cache cached := by
    simp [Protocol.initialized, State.clearTransitionRetry, State.initialized,
      RetryCache.clearTransition] at cached
  transition cache cached := by
    simp [Protocol.initialized, State.clearTransitionRetry, State.initialized,
      RetryCache.clearTransition] at cached

theorem Run.provenance {allowed : Run Payload → Operation Payload → Prop}
    {bootBytes : Vector UInt8 16} {run : Run Payload}
    (follows : Follows (Run.call config wire) allowed (boot bootBytes) run) :
    Sound run.protocol.session ∧ Provenance run.protocol.session run.log := by
  refine Run.induct (initialized_provenance bootBytes []) ?_ ?_ ?_ follows
  · intro state log replayed replay provenance
    exact provenance.append fun event member => (replay event member).opensNone
  · intro run operation replayed state events state' _ moves _ provenance
    exact moves.provenance provenance
  · intro freedom state log lapsed lapse provenance
    apply provenance.append
    intro event member
    obtain ⟨_, _, _, _, rfl⟩ := lapse.eq_forgotten event member
    exact id

/-- **No response crosses a session boundary**, in every run of the protocol. -/
theorem responses_stay_in_session (config : Config) (wire : Wire Payload) :
    NoneCrosses config wire := by
  intro bootBytes run follows operation
  obtain ⟨sound, provenance⟩ := Run.provenance follows
  constructor
  · intro epoch response member
    cases step_replay sound member trivial with
    | hello cached =>
        obtain ⟨active, -, names⟩ := sound.hello _ cached
        exact ⟨active, names, provenance.hello _ cached⟩
  · intro session epoch id payload response member
    cases step_replay sound member trivial with
    | request cached addresses =>
        obtain ⟨active, -, -, current⟩ := sessionCurrent_iff.mp addresses.current
        subst current
        exact ⟨active, rfl, provenance.completed _ cached⟩
  · intro session id payload response member
    cases step_replay sound member trivial with
    | transition cached => exact provenance.transition _ cached

end HidBot.ControlProtocol
