import HidBot.Protocol.Owners

/-!
# Requests execute at most once

In one session the completed requests have increasing ids, and only a request with a
larger id reaches a provider. The last one is answered again from the cache.
-/

namespace HidBot.ControlProtocol

open ControlSession Interleaving

variable {Payload : Type} [DecidableEq Payload] {config : Config} {wire : Wire Payload}
  {freedom : Freedom Payload}

/-! ### Completed requests -/

/-- A request that was executed and remembered. -/
structure Completion (Payload : Type) where
  id : Int
  request : Payload
  response : ResponseFrame

def Event.completion? (owner : LocalOwnerId) : Event Payload → Option (Completion Payload)
  | .completed completer _ _ id request response =>
      if completer = owner then some ⟨id, request, response⟩ else none
  | _ => none

/-- The requests that completed in the session of this owner, in order. -/
def completions (owner : LocalOwnerId) (log : List (Event Payload)) : List (Completion Payload) :=
  log.filterMap (Event.completion? owner)

def Event.response? : Event Payload → Option ResponseFrame
  | .written response => some response
  | _ => none

/-- The responses that are written, in order. -/
def responses (events : List (Event Payload)) : List ResponseFrame :=
  events.filterMap Event.response?

/-! ### The property -/

/-- A frame that passed the envelope checks, for the active session at the current epoch. -/
structure Received (wire : Wire Payload) (run : Run Payload) (payload : Payload)
    (answers : Answers) (id : Int) (command : String) : Prop where
  read : ∃ routeV2 params, wire.readEnvelope payload =
    .ok (.request id run.protocol.session.currentSession command routeV2 params)
  active : run.protocol.session.activeSession = true
  current : run.protocol.session.sessionAuthorityEpoch = answers.epoch

/-- The last request that completed in the active session. -/
def lastCompletion (run : Run Payload) : Option (Completion Payload) :=
  (completions run.protocol.session.localOwnerId run.log).getLast?

/-- `REQUEST_ID_STALE` or `REQUEST_ID_CONFLICT`. -/
def refusal (session : Token) (last id : Int) : ResponseFrame where
  id := some id
  session := some session
  body :=
    if id < last then
      .error "REQUEST_ID_STALE" "request id is older than the last completed request"
    else
      .error "REQUEST_ID_CONFLICT" "request id was previously used with different request bytes"

/-- The digest of a secret request could be computed. -/
def Digested (answers : Answers) (command : String) : Prop :=
  command = "ble.pairing.respond" → answers.hmacReady = true

/-- The identity under which a completed request is remembered. -/
def Identified (wire : Wire Payload) (last : Completion Payload)
    (identity : RequestIdentity Payload) : Prop :=
  ∃ session command routeV2 params,
    wire.readEnvelope last.request = .ok (.request last.id session command routeV2 params) ∧
      identity = Protocol.identityOf wire last.request command

/-- The cache of the active session holds its last completed request. -/
structure Executed (wire : Wire Payload) (state : State Payload ResponseFrame)
    (log : List (Event Payload)) : Prop where
  below : ∀ owner, completions owner log ≠ [] →
    owner.toNat < ownerLimit state.nextLocalOwnerId
  owned : state.activeSession = true →
    state.localOwnerId.toNat < ownerLimit state.nextLocalOwnerId
  increasing : ∀ owner, (completions owner log).Pairwise fun earlier later =>
    earlier.id < later.id
  held : state.activeSession = true → ∀ last ∈ (completions state.localOwnerId log).getLast?,
    ∃ identity, Identified wire last identity ∧ state.retryCache =
      .normal (some ⟨last.id, identity, state.sessionAuthorityEpoch, last.response⟩)

section Completions

variable {log events : List (Event Payload)} {owner : LocalOwnerId}

omit [DecidableEq Payload] in
theorem completions_append :
    completions owner (log ++ events) = completions owner log ++ completions owner events :=
  List.filterMap_append ..

omit [DecidableEq Payload] in
theorem completions_eq_nil (completesNone : ∀ event ∈ events, event.completion? owner = none) :
    completions owner events = [] :=
  List.filterMap_eq_nil_iff.mpr completesNone

omit [DecidableEq Payload] in
theorem retireSequenceOwner_completions (retired : LocalOwnerId) :
    completions owner (retireSequenceOwner config retired : List (Event Payload)) = [] := by
  apply completions_eq_nil
  intro event member
  rw [(retireSequenceOwner_mem member).1]
  rfl

omit [DecidableEq Payload] in
theorem Event.Quiet.completion?_eq {event : Event Payload} (quiet : event.Quiet) :
    event.completion? owner = none := by
  cases event <;> first | rfl | cases quiet

omit [DecidableEq Payload] in
theorem Replay.completion?_eq {state : State Payload ResponseFrame} {event : Event Payload}
    (replay : Replay wire state event) : event.completion? owner = none := by
  cases replay <;> rfl

end Completions

theorem inspectRequest_later {state : State Payload ResponseFrame} {session : Token} {id : Int}
    {identity : RequestIdentity Payload} {epoch : AuthorityEpoch}
    {cache : RequestCache Payload ResponseFrame}
    (fresh : state.inspectRequest session id identity epoch = .acceptNew)
    (cached : state.retryCache = .normal (some cache)) (same : cache.authorityEpoch = epoch) :
    cache.id < id := by
  unfold State.inspectRequest at fresh
  rw [cached] at fresh
  dsimp only at fresh
  split_ifs at fresh with mismatch newer
  exact newer.elim (fun other => absurd same other) fun later => later

namespace Executed

variable {state state' : State Payload ResponseFrame} {log events : List (Event Payload)}

omit [DecidableEq Payload] in
/-- Events that complete no request are added. -/
theorem append (executed : Executed wire state log)
    (completesNone : ∀ owner, completions owner events = []) :
    Executed wire state (log ++ events) := by
  have same owner : completions owner (log ++ events) = completions owner log := by
    rw [completions_append, completesNone, List.append_nil]
  refine ⟨fun owner => ?_, executed.owned, fun owner => ?_, ?_⟩
  · rw [same]
    exact executed.below owner
  · rw [same]
    exact executed.increasing owner
  · rw [same]
    exact executed.held

omit [DecidableEq Payload] in
/-- A session ends. -/
theorem clearAuthority (executed : Executed wire state log) :
    Executed wire state.clearAuthority log where
  below := executed.below
  owned := nofun
  increasing := executed.increasing
  held := nofun

/-- A request completes. -/
theorem complete (executed : Executed wire state log) {payload : Payload}
    {id : Int} {session : Token} {epoch : AuthorityEpoch} {identity : RequestIdentity Payload}
    (response : ResponseFrame) (addresses : Addresses wire state payload id session epoch identity)
    (fresh : state.inspectRequest session id identity epoch = .acceptNew) :
    Executed wire (state.cacheCompletedRequest id identity epoch response)
      (log ++ [.completed state.localOwnerId state.currentSession epoch id payload response]) := by
  obtain ⟨active, sessionEpoch, -, -⟩ := sessionCurrent_iff.mp addresses.current
  have added : completions state.localOwnerId
      (log ++ [.completed state.localOwnerId state.currentSession epoch id payload response]) =
        completions state.localOwnerId log ++ [⟨id, payload, response⟩] := by
    rw [completions_append]
    simp [completions, Event.completion?]
  have others owner (other : owner ≠ state.localOwnerId) : completions owner
      (log ++ [.completed state.localOwnerId state.currentSession epoch id payload response]) =
        completions owner log := by
    rw [completions_append]
    simp [completions, Event.completion?, other.symm]
  refine ⟨fun owner some => ?_, executed.owned, fun owner => ?_, fun _ last member => ?_⟩
  · by_cases here : owner = state.localOwnerId
    · rw [here]
      exact executed.owned active
    · rw [others owner here] at some
      exact executed.below owner some
  · by_cases here : owner = state.localOwnerId
    · rw [here, added]
      refine List.pairwise_append.mpr ⟨executed.increasing _, List.pairwise_singleton _ _, ?_⟩
      intro earlier member later new
      rw [List.mem_singleton.mp new]
      rcases List.eq_nil_or_concat (completions state.localOwnerId log) with
        none | ⟨front, last, split⟩
      · rw [none] at member
        cases member
      · rw [List.concat_eq_append] at split
        have sorted := executed.increasing state.localOwnerId
        obtain ⟨identity, -, cached⟩ := executed.held active last (by rw [split]; simp)
        have greater := inspectRequest_later fresh cached sessionEpoch
        rw [split] at member sorted
        rcases List.mem_append.mp member with member | member
        · have less := (List.pairwise_append.mp sorted).2.2 earlier member last (by simp)
          exact less.trans greater
        · rw [List.mem_singleton.mp member]
          exact greater
    · rw [others owner here]
      exact executed.increasing owner
  · obtain rfl : (⟨id, payload, response⟩ : Completion Payload) = last := by
      have last? : (completions state.localOwnerId log ++
          ([⟨id, payload, response⟩] : List (Completion Payload))).getLast? = some last :=
        added ▸ member
      simpa using last?
    obtain ⟨command, routeV2, params, read, same⟩ := addresses.read
    refine ⟨identity, ⟨session, command, routeV2, params, read, same⟩, ?_⟩
    show RetryCache.normal _ = RetryCache.normal (some ⟨_, _, state.sessionAuthorityEpoch, _⟩)
    rw [sessionEpoch]

omit [DecidableEq Payload] in
/-- A session is opened. -/
theorem activate (executed : Executed wire state log) (remaining : state.nextLocalOwnerId ≠ 0)
    (clientNonce : Token) (payload : Payload) (session : Token) (epoch : AuthorityEpoch)
    (response : ResponseFrame) (deadline : UInt64) :
    Executed wire (opened state clientNonce payload session epoch response deadline)
      (log ++ [.activated state.nextLocalOwnerId session epoch response]) := by
  have limit : ownerLimit state.nextLocalOwnerId = state.nextLocalOwnerId.toNat := if_neg remaining
  have same owner : completions owner
      (log ++ [.activated state.nextLocalOwnerId session epoch response]) =
        completions owner log := by
    rw [completions_append]
    simp [completions, Event.completion?]
  refine ⟨fun owner some => ?_, fun _ => ?_, fun owner => ?_, fun _ last member => ?_⟩
  · show _ < ownerLimit (state.nextLocalOwnerId + 1)
    rw [same] at some
    have below := executed.below owner some
    rw [ownerLimit_succ remaining]
    omega
  · show state.nextLocalOwnerId.toNat < ownerLimit (state.nextLocalOwnerId + 1)
    rw [ownerLimit_succ remaining]
    omega
  · rw [same]
    exact executed.increasing owner
  · have none : completions state.nextLocalOwnerId log = [] := by
      by_contra some
      have below := executed.below _ some
      omega
    have last? : (completions state.nextLocalOwnerId
        (log ++ [.activated state.nextLocalOwnerId session epoch response])).getLast? = some last :=
      member
    rw [same, none] at last?
    cases last?

end Executed

/-- What completes in a session stays in its cache. -/
theorem Moves.executed {state state' : State Payload ResponseFrame}
    {log events : List (Event Payload)} (moves : Moves config wire freedom state events state')
    (changes : ¬freedom.unchanged) (sound : Sound state) (executed : Executed wire state log) :
    Executed wire state' (log ++ events) := by
  induction moves generalizing log with
  | quiet events quiet =>
      apply executed.append fun owner => completions_eq_nil fun event member => ?_
      exact (quiet event member).completion?_eq
  | lease deadline =>
      rw [List.append_nil]
      exact ⟨executed.below, executed.owned, executed.increasing, executed.held⟩
  | retire owner => exact executed.append fun _ => retireSequenceOwner_completions owner
  | @revoke state active =>
      exact executed.clearAuthority.append fun _ => retireSequenceOwner_completions _
  | activate inactive remaining clientNonce payload session epoch response deadline _ _ _ _ =>
      exact executed.activate remaining clientNonce payload session epoch response deadline
  | complete response addresses fresh _ _ => exact executed.complete response addresses fresh
  | @transition state payload id session epoch identity response addresses fresh _ _ =>
      have ended : Executed wire
          (retained state ⟨id, session, payload, response⟩).clearAuthority log :=
        ⟨executed.below, nofun, executed.increasing, nofun⟩
      exact ended.append fun owner =>
        @retireSequenceOwner_completions Payload config owner state.localOwnerId
  | transitionUnchanged response addresses fresh _ _ unchanged => exact absurd unchanged changes
  | seq _ first _ firstKeeps secondKeeps =>
      rw [← List.append_assoc]
      exact secondKeeps (first.sound sound) (firstKeeps sound executed)

theorem Run.executed {bootBytes : Vector UInt8 16} {run : Run Payload}
    (follows :
      Follows (Run.call config wire) (AcceptingChangesEpoch config wire) (boot bootBytes) run) :
    Sound run.protocol.session ∧ Executed wire run.protocol.session run.log := by
  refine Run.induct ⟨?_, ?_, ?_, ?_⟩ ?_ ?_ ?_ follows
  · simp [completions]
  · intro active
    simp only [Protocol.initialized, State.clearTransitionRetry, State.initialized] at active
    cases active
  · simp [completions]
  · simp [completions]
  · intro state log replayed replay executed
    apply executed.append fun owner => completions_eq_nil fun event member => ?_
    exact (replay event member).completion?_eq
  · intro run operation replayed state events state' changes moves sound executed
    exact moves.executed changes.not_unchanged sound executed
  · intro freedom state log lapsed lapse executed
    apply executed.append fun owner => completions_eq_nil fun event member => ?_
    obtain ⟨_, _, _, _, rfl⟩ := lapse.eq_forgotten event member
    rfl

/-! ### Frames of the session -/

section Frames

variable {protocol : Protocol Payload} {payload : Payload} {answers : Answers} {id : Int}
  {session : Token} {command : String} {routeV2 : Bool} {params : Option Json}

omit [DecidableEq Payload] in
theorem sessionCurrent_of_read
    (read : wire.readEnvelope payload = .ok (.request id protocol.session.currentSession command
      routeV2 params))
    (active : protocol.session.activeSession = true)
    (current : protocol.session.sessionAuthorityEpoch = answers.epoch) :
    protocol.session.sessionCurrent protocol.session.currentSession answers.epoch = true := by
  have hex := readEnvelope_session read
  rw [isLowerHexToken, Bool.and_eq_true, beq_iff_eq] at hex
  exact sessionCurrent_iff.mpr ⟨active, current, hex.1, rfl⟩

/-- Without a stored transition a request is inspected. -/
theorem step_inspects {cache : Option (RequestCache Payload ResponseFrame)}
    (read : wire.readEnvelope payload = .ok (.request id session command routeV2 params))
    (normal : protocol.session.retryCache = .normal cache) :
    protocol.step config wire (.frame payload answers) =
      protocol.inspectThenExecute config wire answers payload id session command routeV2
        params := by
  have none : protocol.session.inspectTransitionRetry session id payload = none := by
    unfold State.inspectTransitionRetry
    rw [normal]
  show protocol.handleFrame config wire answers payload = _
  unfold Protocol.handleFrame
  rw [read]
  dsimp only
  unfold Protocol.handleRequest
  rw [none]
  cases Protocol.isTransition command <;> rfl

/-- What a request that is not newer than the last one is answered. -/
theorem inspectRequest_older {state : State Payload ResponseFrame}
    {identity : RequestIdentity Payload} {epoch : AuthorityEpoch}
    {cache : RequestCache Payload ResponseFrame}
    (current : state.sessionCurrent session epoch = true)
    (cached : state.retryCache = .normal (some cache)) (same : cache.authorityEpoch = epoch)
    (older : id ≤ cache.id) :
    state.inspectRequest session id identity epoch =
      if id < cache.id then .idStale
      else if cache.identity ≠ identity then .idConflict else .exactRetry cache.response := by
  unfold State.inspectRequest
  rw [cached, if_neg (by rw [current]; simp)]
  dsimp only
  rw [if_neg]
  rw [same]
  rintro (other | newer)
  · exact other rfl
  · omega

theorem refusal_conflict {last : Int} (hex : isLowerHexToken session = true)
    (same : ¬id < last) :
    makeError (some session) (some id) "REQUEST_ID_CONFLICT"
      "request id was previously used with different request bytes" =
        some (refusal session last id) := by
  simp [makeError, makeFrame, hex, refusal, same]

theorem refusal_stale {last : Int} (hex : isLowerHexToken session = true) (older : id < last) :
    makeError (some session) (some id) "REQUEST_ID_STALE"
      "request id is older than the last completed request" =
        some (refusal session last id) := by
  simp [makeError, makeFrame, hex, refusal, older]

end Frames

/-- A frame that is not newer than the last completed request is answered from the
cache or refused. -/
theorem Executed.answered {run : Run Payload} (config : Config)
    (executed : Executed wire run.protocol.session run.log) {payload : Payload}
    {answers : Answers} {id : Int} {command : String}
    (received : Received wire run payload answers id command) (digested : Digested answers command)
    {last : Completion Payload} (is : last ∈ lastCompletion run) (notNewer : id ≤ last.id) :
    ∃ identity, Identified wire last identity ∧
      responses (run.protocol.step config wire (.frame payload answers)).2 =
        [if id = last.id ∧ identity = Protocol.identityOf wire payload command then last.response
          else refusal run.protocol.session.currentSession last.id id] := by
  obtain ⟨routeV2, params, read⟩ := received.read
  obtain ⟨identity, identified, cached⟩ := executed.held received.active last is
  have hex := readEnvelope_session read
  have current := sessionCurrent_of_read read received.active received.current
  have ready : ¬(command = "ble.pairing.respond" ∧ answers.hmacReady = false) := by
    rintro ⟨secret, unready⟩
    rw [digested secret] at unready
    cases unready
  refine ⟨identity, identified, ?_⟩
  rw [step_inspects read cached]
  unfold Protocol.inspectThenExecute
  rw [if_neg ready]
  dsimp only
  rw [inspectRequest_older current cached received.current notNewer]
  dsimp only
  by_cases stale : id < last.id
  · have other : ¬(id = last.id ∧ identity = Protocol.identityOf wire payload command) := by
      omega
    rw [if_pos stale, if_neg other]
    dsimp only
    rw [refusal_stale hex stale]
    rfl
  · have sameId : id = last.id := by omega
    rw [if_neg stale]
    by_cases same : identity = Protocol.identityOf wire payload command
    · rw [if_neg (not_not.mpr same), if_pos ⟨sameId, same⟩]
      rfl
    · rw [if_pos same, if_neg fun both => same both.2]
      dsimp only
      rw [refusal_conflict hex stale]
      rfl

/-- The two texts that a client sends. -/
inductive PairingText where
  | hello
  | pairing
  deriving DecidableEq

def PairingText.json : PairingText → Json
  | hello => .object [("v", .number (some 1)), ("id", .number (some 0)),
      ("cmd", .string "protocol.hello"),
      ("params", .object [("client_nonce", .string "0123456789abcdef0123456789abcdef")])]
  | pairing => .object [("v", .number (some 1)), ("id", .number (some 1)),
      ("session", .string "00000000000000000000000000000000"),
      ("cmd", .string "ble.pairing.respond"),
      ("params", .object [("pairing_id", .number (some 5)), ("passkey", .string "123456")])]

def pairingWire : Wire PairingText where
  size
    | .hello => 102
    | .pairing => 125
  containsNul _ := false
  backslash _ := false
  escapedNul _ := false
  parse text := some text.json
  digest _ := .replicate 32 0

/-- A session in which a pairing response has completed. -/
def paired : Run PairingText :=
  .call {} pairingWire (.frame .pairing {})
    (.call {} pairingWire (.frame .hello {}) (boot (.replicate 16 0)))

end HidBot.ControlProtocol
