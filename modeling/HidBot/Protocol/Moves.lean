import HidBot.Protocol.Answers
import Mathlib.Tactic.SplitIfs

/-!
# What an operation can do to a session

Every operation of the protocol first answers from the caches, if it does, and
then makes a sequence of a few moves: it refreshes the lease, ends a session, opens
one, or stores a response. Statements about runs are proved once for each move.
-/

namespace HidBot.ControlProtocol

open ControlSession

variable {Payload : Type} [DecidableEq Payload]

/-- Events that change no session and answer from no cache. -/
def Event.Quiet : Event Payload → Prop
  | .provider _ | .sessionTakeover | .leaseExpired | .hidSafetyFailure | .written _ => True
  | _ => False

/-- Events that answer from a cache. -/
def Event.FromCache : Event Payload → Prop
  | .helloReplayed .. | .requestReplayed .. | .transitionReplayed .. => True
  | _ => False

/-- A session was opened. -/
def Event.Activates : Event Payload → Prop
  | .activated .. => True
  | _ => False

def OpensNone (events : List (Event Payload)) : Prop := ∀ event ∈ events, ¬event.Activates

/-- A response to a hello of this client that opens this session. -/
def ResponseFrame.Greets (response : ResponseFrame) (clientNonce session : Token) : Prop :=
  response.session = some session ∧ ∃ project bootId leaseMs identity,
    response.body = .result (.hello project clientNonce bootId session leaseMs identity)

/-- A response to a hello that names the session in its envelope and its result. -/
def ResponseFrame.NamesSession (response : ResponseFrame) (session : Token) : Prop :=
  ∃ clientNonce, response.Greets clientNonce session

/-- What an operation handles and what its environment is free to do: the frame and
the epoch it was read in, the tokens that may be drawn, the owners that a safety
failure may name, whether an accepted transition may leave the authority epoch
unchanged, and the epochs in which a command may be executed and forgotten. -/
structure Freedom (Payload : Type) where
  frame : Payload → AuthorityEpoch → Prop
  drawn : Token → Prop
  stale : LocalOwnerId → Prop
  unchanged : Prop
  lost : AuthorityEpoch → Prop

/-- The state after a fresh hello. -/
def opened (state : State Payload ResponseFrame) (clientNonce : Token) (payload : Payload)
    (session : Token) (epoch : AuthorityEpoch) (response : ResponseFrame) (deadline : UInt64) :
    State Payload ResponseFrame :=
  { state with
    nextLocalOwnerId := state.nextLocalOwnerId + 1
    currentSession := session
    activeSession := true
    sessionAuthorityEpoch := epoch
    localOwnerId := state.nextLocalOwnerId
    leaseDeadlineUs := deadline
    retryCache := .normal none
    helloCache := some ⟨clientNonce, payload, epoch, response⟩ }

/-- The state after an accepted transition was stored. -/
def retained (state : State Payload ResponseFrame)
    (cache : TransitionRetryCache Payload ResponseFrame) : State Payload ResponseFrame :=
  { state with retryCache := .transition cache }

/-- A request of this session that passed the envelope checks. -/
structure Addresses (wire : Wire Payload) (state : State Payload ResponseFrame) (payload : Payload)
    (id : Int) (session : Token) (epoch : AuthorityEpoch)
    (identity : RequestIdentity Payload) : Prop where
  read : ∃ command routeV2 params,
    wire.readEnvelope payload = .ok (.request id session command routeV2 params) ∧
      identity = Protocol.identityOf wire payload command
  current : state.sessionCurrent session epoch = true

/-- The moves of a session, with their events; at most one of them opens a session. -/
inductive Moves (config : Config) (wire : Wire Payload) (freedom : Freedom Payload) :
    State Payload ResponseFrame → List (Event Payload) → State Payload ResponseFrame → Prop
  | quiet {state} (events : List (Event Payload)) (quiet : ∀ event ∈ events, event.Quiet) :
      Moves config wire freedom state events state
  | lease {state} (deadline : UInt64) :
      Moves config wire freedom state [] { state with leaseDeadlineUs := deadline }
  | retire {state} (owner : LocalOwnerId) (stale : freedom.stale owner)
      (other : state.activeSession = true → state.localOwnerId ≠ owner) :
      Moves config wire freedom state (retireSequenceOwner config owner) state
  | revoke {state} (active : state.activeSession = true) :
      Moves config wire freedom state (retireSequenceOwner config state.localOwnerId)
        state.clearAuthority
  | activate {state} (inactive : state.activeSession = false)
      (remaining : state.nextLocalOwnerId ≠ 0) (clientNonce : Token) (payload : Payload)
      (session : Token) (epoch : AuthorityEpoch) (response : ResponseFrame) (deadline : UInt64)
      (drawn : freedom.drawn session) (handled : freedom.frame payload epoch)
      (read : ∃ id, wire.readEnvelope payload = .ok (.hello id clientNonce))
      (greets : response.Greets clientNonce session) :
      Moves config wire freedom state
        [.activated state.nextLocalOwnerId session epoch response]
        (opened state clientNonce payload session epoch response deadline)
  | complete {state} {payload : Payload} {id : Int} {session : Token} {epoch : AuthorityEpoch}
      {identity : RequestIdentity Payload} (response : ResponseFrame)
      (addresses : Addresses wire state payload id session epoch identity)
      (fresh : state.inspectRequest session id identity epoch = .acceptNew)
      (handled : freedom.frame payload epoch) (named : response.Names session id) :
      Moves config wire freedom state
        [.completed state.localOwnerId state.currentSession epoch id payload response]
        (state.cacheCompletedRequest id identity epoch response)
  | transition {state} {payload : Payload} {id : Int} {session : Token} {epoch : AuthorityEpoch}
      {identity : RequestIdentity Payload} (response : ResponseFrame)
      (addresses : Addresses wire state payload id session epoch identity)
      (fresh : state.inspectRequest session id identity epoch = .acceptNew)
      (handled : freedom.frame payload epoch) (named : response.Names session id) :
      Moves config wire freedom state
        (.transitioned session id payload response ::
          retireSequenceOwner config state.localOwnerId)
        (retained state ⟨id, session, payload, response⟩).clearAuthority
  | transitionUnchanged {state} {payload : Payload} {id : Int} {session : Token}
      {epoch : AuthorityEpoch} {identity : RequestIdentity Payload} (response : ResponseFrame)
      (addresses : Addresses wire state payload id session epoch identity)
      (fresh : state.inspectRequest session id identity epoch = .acceptNew)
      (handled : freedom.frame payload epoch) (named : response.Names session id)
      (unchanged : freedom.unchanged) :
      Moves config wire freedom state
        (.transitioned session id payload response ::
          retireSequenceOwner config state.localOwnerId)
        (retained state ⟨id, session, payload, response⟩)
  | seq {first second third} {earlier later : List (Event Payload)}
      (apart : OpensNone earlier ∨ OpensNone later) :
      Moves config wire freedom first earlier second →
      Moves config wire freedom second later third →
      Moves config wire freedom first (earlier ++ later) third

/-- The last events of an operation that executed a command and stored no response. -/
inductive Lapse (wire : Wire Payload) (freedom : Freedom Payload) (state : State Payload ResponseFrame) :
    List (Event Payload) → Prop
  | none : Lapse wire freedom state []
  | forgotten {payload : Payload} {id : Int} {session : Token} {epoch : AuthorityEpoch}
      {identity : RequestIdentity Payload} (response : Option ResponseFrame)
      (addresses : Addresses wire state payload id session epoch identity)
      (fresh : state.inspectRequest session id identity epoch = .acceptNew)
      (handled : freedom.frame payload epoch)
      (named : ∀ frame ∈ response, frame.Names session id) (lost : freedom.lost epoch) :
      Lapse wire freedom state [.forgotten state.currentSession id payload response]

/-- An event that answers from a cache of this state. -/
inductive Replay (wire : Wire Payload) (state : State Payload ResponseFrame) :
    Event Payload → Prop
  | hello {cache : HelloCache Payload ResponseFrame} (cached : state.helloCache = some cache) :
      Replay wire state (.helloReplayed cache.authorityEpoch cache.response)
  | request {cache : RequestCache Payload ResponseFrame} {payload : Payload} {session : Token}
      (cached : state.retryCache = .normal (some cache))
      (addresses : Addresses wire state payload cache.id session cache.authorityEpoch
        cache.identity) :
      Replay wire state
        (.requestReplayed session cache.authorityEpoch cache.id payload cache.response)
  | transition {cache : TransitionRetryCache Payload ResponseFrame}
      (cached : state.retryCache = .transition cache) :
      Replay wire state (.transitionReplayed cache.session cache.id cache.request cache.response)
  | written (response : ResponseFrame) : Replay wire state (.written response)

/-- What is in the caches belongs to the current session. -/
structure Sound (state : State Payload ResponseFrame) : Prop where
  hello : ∀ cache, state.helloCache = some cache → state.activeSession = true ∧
    cache.authorityEpoch = state.sessionAuthorityEpoch ∧
      cache.response.NamesSession state.currentSession
  completed : ∀ cache, state.retryCache = .normal (some cache) → state.activeSession = true ∧
    cache.authorityEpoch = state.sessionAuthorityEpoch

section Caches

variable {state : State Payload ResponseFrame}

omit [DecidableEq Payload] in
theorem clearAuthority_normal {cache : RequestCache Payload ResponseFrame} :
    state.clearAuthority.retryCache ≠ .normal (some cache) := by
  simp only [State.clearAuthority, State.clearNormalCache, State.clearHelloCache,
    RetryCache.clearNormal]
  split <;> simp

omit [DecidableEq Payload] in
theorem clearAuthority_transition {cache : TransitionRetryCache Payload ResponseFrame} :
    state.clearAuthority.retryCache = .transition cache ↔ state.retryCache = .transition cache := by
  simp only [State.clearAuthority, State.clearNormalCache, State.clearHelloCache,
    RetryCache.clearNormal]
  split <;> simp_all

omit [DecidableEq Payload] in
theorem sessionCurrent_iff {session : Token} {epoch : AuthorityEpoch} :
    state.sessionCurrent session epoch = true ↔ state.activeSession = true ∧
      state.sessionAuthorityEpoch = epoch ∧ session.length = tokenHexLength ∧
        state.currentSession = session := by
  simp [State.sessionCurrent, sameToken, and_assoc]

end Caches

omit [DecidableEq Payload] in
theorem Sound.clearAuthority (state : State Payload ResponseFrame) :
    Sound state.clearAuthority where
  hello cache cached := by simp [State.clearAuthority, State.clearHelloCache] at cached
  completed cache cached := absurd cached clearAuthority_normal

theorem Moves.sound {config : Config} {wire : Wire Payload} {freedom : Freedom Payload}
    {state state' : State Payload ResponseFrame} {events : List (Event Payload)}
    (moves : Moves config wire freedom state events state') (sound : Sound state) :
    Sound state' := by
  induction moves with
  | quiet | retire => exact sound
  | lease deadline => exact ⟨sound.hello, sound.completed⟩
  | revoke active => exact .clearAuthority _
  | activate inactive remaining clientNonce payload session epoch response deadline _ _ _ greets =>
      refine ⟨fun cache cached => ?_, fun cache cached => by simp [opened] at cached⟩
      obtain rfl : ⟨clientNonce, payload, epoch, response⟩ = cache := by
        simpa [opened] using cached
      exact ⟨rfl, rfl, clientNonce, greets⟩
  | complete response addresses fresh handled _ =>
      refine ⟨sound.hello, fun cache cached => ?_⟩
      obtain ⟨active, same, -, -⟩ := sessionCurrent_iff.mp addresses.current
      obtain rfl := by simpa [State.cacheCompletedRequest] using cached
      exact ⟨active, same.symm⟩
  | transition response addresses fresh handled _ => exact .clearAuthority _
  | transitionUnchanged response addresses fresh handled _ unchanged =>
      exact ⟨sound.hello, by simp [retained]⟩
  | seq _ _ _ first second => exact second (first sound)

omit [DecidableEq Payload] in
theorem retireSequenceOwner_mem {config : Config} {owner : LocalOwnerId} {event : Event Payload}
    (member : event ∈ retireSequenceOwner config owner) :
    event = .sequenceOwnerRetired owner ∧ owner ≠ 0 := by
  unfold retireSequenceOwner at member
  split at member
  · rename_i retired
    exact ⟨List.mem_singleton.mp member, retired.1⟩
  · cases member

/-- No move answers from a cache. -/
theorem Moves.not_fromCache {config : Config} {wire : Wire Payload} {freedom : Freedom Payload}
    {state state' : State Payload ResponseFrame} {events : List (Event Payload)}
    (moves : Moves config wire freedom state events state') :
    ∀ event ∈ events, ¬event.FromCache := by
  induction moves with
  | quiet events quiet =>
      intro event member cached
      have isQuiet := quiet event member
      cases event <;> first | exact isQuiet | exact cached
  | lease => simp
  | retire | revoke =>
      intro event member
      rw [(retireSequenceOwner_mem member).1]
      exact id
  | activate | complete => simp [Event.FromCache]
  | transition | transitionUnchanged =>
      intro event member
      rcases List.mem_cons.mp member with rfl | member
      · exact id
      · rw [(retireSequenceOwner_mem member).1]
        exact id
  | seq _ _ _ first second =>
      intro event member
      exact (List.mem_append.mp member).elim (first event) (second event)

theorem Lapse.eq_forgotten {wire : Wire Payload} {freedom : Freedom Payload}
    {state : State Payload ResponseFrame} {lapsed : List (Event Payload)}
    (lapse : Lapse wire freedom state lapsed) :
    ∀ event ∈ lapsed, ∃ session id request response, event = .forgotten session id request response
    := by
  cases lapse with
  | none => simp
  | forgotten response addresses fresh handled _ lost =>
      intro event member
      exact ⟨_, _, _, _, List.mem_singleton.mp member⟩

theorem Lapse.not_fromCache {wire : Wire Payload} {freedom : Freedom Payload}
    {state : State Payload ResponseFrame} {lapsed : List (Event Payload)}
    (lapse : Lapse wire freedom state lapsed) : ∀ event ∈ lapsed, ¬event.FromCache := by
  intro event member
  obtain ⟨_, _, _, _, rfl⟩ := lapse.eq_forgotten event member
  exact id

end HidBot.ControlProtocol
