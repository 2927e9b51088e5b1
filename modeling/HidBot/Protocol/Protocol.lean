import HidBot.Protocol.Responses
import HidBot.Interleaving.Whole

/-!
# The control protocol

`control_protocol::Protocol`: how a frame is read, answered from a cache or
executed, and how sessions end. The protocol is consumed by one task, so each of
its operations is one step.
-/

namespace HidBot.ControlProtocol

open ControlSession

/-- What the protocol asks of the bytes of a request: the parser, and the keyed
digest of this boot. -/
structure Wire (Payload : Type) where
  size : Payload → Nat
  containsNul : Payload → Bool
  backslash : Payload → Bool
  escapedNul : Payload → Bool
  parse : Payload → Option Json
  digest : Payload → Digest

/-! ### Envelopes -/

structure Rejection where
  id : Option Int := none
  code : String
  message : String

inductive Envelope where
  | hello (id : Int) (clientNonce : Token)
  | request (id : Int) (session : Token) (command : String) (routeV2 : Bool)
      (params : Option Json)

def protocolVersion : Int := 1
def maxCommandBytes : Nat := 48

/-- The path of the one string that may be long. -/
def longSequenceCode (root : Json) : Option (List String) :=
  match root.item "cmd", root.item "params" with
  | some (.string "hid.sequence.start"), some (.object _) => some ["params", "code"]
  | _, _ => none

def bounded (root : Json) : Bool :=
  root.isObject && root.treeBounded 0 (longSequenceCode root) && root.noDuplicateKeys

def helloEnvelope (root : Json) (id : Int) : Except Rejection Envelope :=
  if root.hasOnlyFields ["v", "id", "cmd", "params"] = false then
    .error ⟨some id, "INVALID_REQUEST", "hello envelope has unknown fields"⟩
  else match validateHelloParams (root.item "params") with
    | none => .error
        ⟨some id, "INVALID_PARAMS", "client_nonce must be 32 lowercase hex characters"⟩
    | some clientNonce => .ok (.hello id clientNonce)

/-- The two spellings of the route commands. -/
def routeCommand : String → String × Bool
  | "hid.route.v2.status" => ("hid.route.status", true)
  | "hid.route.v2.set" => ("hid.route.set", true)
  | command => (command, false)

def requestEnvelope (root : Json) (id : Int) (command : String) : Except Rejection Envelope :=
  if root.hasOnlyFields ["v", "id", "session", "cmd", "params"] = false then
    .error ⟨some id, "INVALID_REQUEST", "request envelope has unknown fields"⟩
  else match (root.boundedNonemptyString "session" tokenHexLength).filter isLowerHexToken with
    | none => .error ⟨some id, "INVALID_REQUEST", "session must be 32 lowercase hex characters"⟩
    | some session =>
        if (root.item "params").all Json.isObject = false then
          .error ⟨some id, "INVALID_PARAMS", "params must be an object"⟩
        else .ok (.request id session (routeCommand command).1 (routeCommand command).2
          (root.item "params"))

def rootEnvelope (root : Json) : Except Rejection Envelope :=
  if bounded root = false then
    .error ⟨none, "INVALID_REQUEST", "request must be a bounded object"⟩
  else match root.integerWithin "id" 0 2147483647 with
    | none => .error ⟨none, "INVALID_REQUEST", "id must be a non-negative int32"⟩
    | some id =>
        match Json.integer (root.item "v") with
        | none => .error ⟨some id, "INVALID_REQUEST", "v must be an integer"⟩
        | some version =>
            if version ≠ protocolVersion then
              .error ⟨some id, "UNSUPPORTED_PROTOCOL_VERSION",
                "only protocol version 1 is supported"⟩
            else match root.boundedNonemptyString "cmd" maxCommandBytes with
              | none => .error
                  ⟨some id, "INVALID_REQUEST", "cmd must be a bounded non-empty string"⟩
              | some "protocol.hello" => helloEnvelope root id
              | some command => requestEnvelope root id command

variable {Payload : Type} [DecidableEq Payload]

/-- The checks of `handle_frame` before a session is looked at. -/
def Wire.readEnvelope (wire : Wire Payload) (payload : Payload) : Except Rejection Envelope :=
  if maxRequestBytes < wire.size payload then
    .error ⟨none, "LINE_TOO_LONG", "request line exceeds 512 bytes"⟩
  else if wire.containsNul payload then
    .error ⟨none, "MALFORMED_JSON", "request contains an embedded NUL"⟩
  else match wire.parse payload with
    | none => .error ⟨none, "MALFORMED_JSON", "request is not valid JSON"⟩
    | some root => rootEnvelope root

/-! ### State and events -/

structure Protocol (Payload : Type) where
  session : State Payload ResponseFrame
  leaseRevokeNotified : Bool := false

/-- What an operation does: the calls it makes, and for the statements about runs
what it stores in a cache, what it executes without storing it, and what it answers
from a cache. -/
inductive Event (Payload : Type) where
  | provider (call : ProviderCall)
  | sequenceOwnerRetired (owner : LocalOwnerId)
  | sessionTakeover
  | leaseExpired
  | hidSafetyFailure
  | written (response : ResponseFrame)
  | activated (owner : LocalOwnerId) (session : Token) (epoch : AuthorityEpoch)
      (response : ResponseFrame)
  | completed (owner : LocalOwnerId) (session : Token) (epoch : AuthorityEpoch) (id : Int)
      (request : Payload) (response : ResponseFrame)
  | transitioned (session : Token) (id : Int) (request : Payload) (response : ResponseFrame)
  | forgotten (session : Token) (id : Int) (request : Payload) (response : Option ResponseFrame)
  | helloReplayed (epoch : AuthorityEpoch) (response : ResponseFrame)
  | requestReplayed (session : Token) (epoch : AuthorityEpoch) (id : Int) (request : Payload)
      (response : ResponseFrame)
  | transitionReplayed (session : Token) (id : Int) (request : Payload)
      (response : ResponseFrame)

abbrev Step (Payload : Type) := Protocol Payload × List (Event Payload)

/-- `initialize` with a valid configuration. -/
def Protocol.initialized (bootBytes : Vector UInt8 16) : Protocol Payload :=
  { session := (State.initialized bootBytes).clearTransitionRetry }

def writeFrame (response : Option ResponseFrame) : List (Event Payload) :=
  response.toList.map .written

def retireSequenceOwner (config : Config) (owner : LocalOwnerId) : List (Event Payload) :=
  if owner ≠ 0 ∧ config.sequenceOwnerRetired then [.sequenceOwnerRetired owner] else []

/-- A hook that may be missing. -/
def hook (present : Bool) (event : Event Payload) : List (Event Payload) :=
  if present then [event] else []

namespace Protocol

variable (config : Config) (wire : Wire Payload) (protocol : Protocol Payload)

/-! ### Hello -/

/-- A session is revoked before the hello of another client is answered. -/
def takeover (epoch : AuthorityEpoch) : Step Payload :=
  if protocol.session.activeSession then
    ({ protocol with session := protocol.session.revokeForTakeover },
      retireSequenceOwner config protocol.session.localOwnerId ++
        hook (protocol.session.authorityEpochMatches epoch && config.sessionTakeover)
          .sessionTakeover)
  else (protocol, [])

def freshHello (answers : Answers) (payload : Payload) (id : Int) (clientNonce : Token) :
    Step Payload :=
  let newSession := generateToken answers.randomBytes
  match makeHello newSession id config.metadata clientNonce protocol.session.bootId with
  | none => (protocol,
      writeFrame (makeError none (some id) "INTERNAL_ERROR" "response serialization failed"))
  | some response =>
      match protocol.session.activateHello clientNonce payload newSession answers.epoch response
          answers.now with
      | none => (protocol,
          writeFrame (makeError none (some id) "INTERNAL_ERROR" "local owner identity exhausted"))
      | some session =>
          ({ session := session.clearTransitionRetry, leaseRevokeNotified := false },
            [.activated session.localOwnerId newSession answers.epoch response,
              .written response])

def handleHello (answers : Answers) (payload : Payload) (id : Int) (clientNonce : Token) :
    Step Payload :=
  match protocol.session.inspectHello clientNonce payload answers.epoch with
  | .exactRetry response =>
      ({ protocol with session := protocol.session.refreshLease answers.now },
        [.helloReplayed answers.epoch response, .written response])
  | .nonceConflict => (protocol, writeFrame (makeError none (some id) "CLIENT_NONCE_CONFLICT"
      "client_nonce was previously used with different request bytes"))
  | .newClient =>
      let revoked := protocol.takeover config answers.epoch
      let opened := revoked.1.freshHello config answers payload id clientNonce
      (opened.1, revoked.2 ++ opened.2)

/-! ### Requests -/

/-- An accepted transition: its response is kept apart, and the session ends. -/
def finishTransition (answers : Answers) (payload : Payload) (session : Token) (id : Int)
    (response : ResponseFrame) : Step Payload :=
  ({ session := (protocol.session.cacheTransitionRetry session id payload (wire.size payload)
        response).revokeForLifecycleInvalidation answers.epochAfter
     leaseRevokeNotified := false },
    .transitioned session id payload response ::
      retireSequenceOwner config protocol.session.localOwnerId ++ [.written response])

/-- A request that is executed ends with its response, and is remembered if it has
completed. -/
def finishRequest (answers : Answers) (payload : Payload) (id : Int)
    (identity : RequestIdentity Payload) (outcome : Outcome) : Step Payload :=
  let session := if outcome.semanticallyValid then protocol.session.refreshLease answers.now
    else protocol.session
  let forgotten := hook outcome.forgotten
    (.forgotten session.currentSession id payload outcome.response)
  if outcome.completed = false then
    ({ protocol with session }, writeFrame (outcome.response <|>
      makeError (some protocol.session.currentSession) (some id) "INTERNAL_ERROR"
        "response serialization failed") ++ forgotten)
  else match outcome.response with
    | none => ({ protocol with session }, forgotten)
    | some response =>
        if outcome.cacheResponse then
          ({ protocol with
              session := session.cacheCompletedRequest id identity answers.epoch response },
            [.completed session.localOwnerId session.currentSession answers.epoch id payload
              response, .written response])
        else ({ protocol with session }, .written response :: forgotten)

def execute (answers : Answers) (payload : Payload) (id : Int) (session : Token)
    (command : String) (routeV2 : Bool) (params : Option Json)
    (identity : RequestIdentity Payload) : Step Payload :=
  let request : Request := {
    session := protocol.session.currentSession, id, command, routeV2, params
    backslash := wire.backslash payload, escapedNul := wire.escapedNul payload }
  let outcome := request.dispatch config answers protocol.session.localOwnerId
  let finished := match outcome.accepted && outcome.completed, outcome.response with
    | true, some response => protocol.finishTransition config wire answers payload session id response
    | _, _ => protocol.finishRequest answers payload id identity outcome
  (finished.1, outcome.calls.map .provider ++ finished.2)

/-- The identity under which a request is remembered. -/
def identityOf (payload : Payload) (command : String) : RequestIdentity Payload :=
  if command = "ble.pairing.respond" then .sensitive (wire.size payload) (wire.digest payload)
  else .raw payload

def inspectThenExecute (answers : Answers) (payload : Payload) (id : Int) (session : Token)
    (command : String) (routeV2 : Bool) (params : Option Json) : Step Payload :=
  if command = "ble.pairing.respond" ∧ answers.hmacReady = false then
    (protocol, writeFrame (makeError none (some id) "INTERNAL_ERROR"
      "pairing request is unavailable"))
  else
    let identity := identityOf wire payload command
    match protocol.session.inspectRequest session id identity answers.epoch with
    | .sessionMismatch => (protocol, writeFrame (makeError none (some id) "SESSION_MISMATCH"
        "request session is not active"))
    | .exactRetry response =>
        ({ protocol with session := protocol.session.refreshLease answers.now },
          [.requestReplayed session answers.epoch id payload response, .written response])
    | .idConflict => (protocol, writeFrame (makeError (some protocol.session.currentSession)
        (some id) "REQUEST_ID_CONFLICT"
        "request id was previously used with different request bytes"))
    | .idStale => (protocol, writeFrame (makeError (some protocol.session.currentSession)
        (some id) "REQUEST_ID_STALE" "request id is older than the last completed request"))
    | .acceptNew =>
        protocol.execute config wire answers payload id session command routeV2 params identity

/-- Commands whose accepted transition has a retry of its own. -/
def isTransition (command : String) : Bool :=
  command == "usb.attach" || command == "usb.detach" || command == "hid.route.set"

/-- A replay that could not be written is followed by the normal inspection. -/
def handleRequest (answers : Answers) (payload : Payload) (id : Int) (session : Token)
    (command : String) (routeV2 : Bool) (params : Option Json) : Step Payload :=
  let inspected :=
    protocol.inspectThenExecute config wire answers payload id session command routeV2 params
  match isTransition command, protocol.session.inspectTransitionRetry session id payload with
  | true, some response =>
      let replayed := [.transitionReplayed session id payload response, .written response]
      if answers.written then (protocol, replayed)
      else (inspected.1, replayed ++ inspected.2)
  | _, _ => inspected

def handleFrame (answers : Answers) (payload : Payload) : Step Payload :=
  match wire.readEnvelope payload with
  | .error rejection =>
      (protocol, writeFrame (makeError none rejection.id rejection.code rejection.message))
  | .ok (.hello id clientNonce) => protocol.handleHello config answers payload id clientNonce
  | .ok (.request id session command routeV2 params) =>
      protocol.handleRequest config wire answers payload id session command routeV2 params

/-! ### The end of sessions -/

def onHidLifecycleInvalidation (epoch : AuthorityEpoch) : Step Payload :=
  ({ session := protocol.session.revokeForLifecycleInvalidation epoch
     leaseRevokeNotified := false },
    if protocol.session.activeSession ∧ protocol.session.sessionAuthorityEpoch ≠ epoch then
      retireSequenceOwner config protocol.session.localOwnerId
    else [])

def onHidSafetyFailure (sourceOwnerId : LocalOwnerId) : Step Payload :=
  let sourceIsCurrent :=
    protocol.session.activeSession && protocol.session.localOwnerId == sourceOwnerId
  ({ session := if sourceIsCurrent then protocol.session.revokeForTakeover else protocol.session
     leaseRevokeNotified := false },
    retireSequenceOwner config sourceOwnerId ++
      hook ((!protocol.session.activeSession || sourceIsCurrent) && config.hidSafetyFailure)
        .hidSafetyFailure)

def expireLease (now : UInt64) : Step Payload :=
  match protocol.session.serviceLease now with
  | none => (protocol, [])
  | some session =>
      ({ session, leaseRevokeNotified := true },
        retireSequenceOwner config protocol.session.localOwnerId ++
          hook (!protocol.leaseRevokeNotified && config.leaseExpired) .leaseExpired)

def service (epoch : AuthorityEpoch) (now : UInt64) : Step Payload :=
  let invalidated := protocol.onHidLifecycleInvalidation config epoch
  let expired := invalidated.1.expireLease config now
  (expired.1, invalidated.2 ++ expired.2)

end Protocol

/-! ### Runs -/

inductive Operation (Payload : Type) where
  | frame (payload : Payload) (answers : Answers)
  | overlongProtocolFrame
  | transportSync
  | hidLifecycleInvalidation (epoch : AuthorityEpoch)
  | hidSafetyFailure (sourceOwnerId : LocalOwnerId)
  | service (epoch : AuthorityEpoch) (now : UInt64)

def Protocol.step (config : Config) (wire : Wire Payload) (protocol : Protocol Payload) :
    Operation Payload → Step Payload
  | .frame payload answers => protocol.handleFrame config wire answers payload
  | .overlongProtocolFrame => (protocol, writeFrame (makeError none none "LINE_TOO_LONG"
      "request line exceeds 512 bytes"))
  | .transportSync => (protocol, [])
  | .hidLifecycleInvalidation epoch => protocol.onHidLifecycleInvalidation config epoch
  | .hidSafetyFailure sourceOwnerId => protocol.onHidSafetyFailure config sourceOwnerId
  | .service epoch now => protocol.service config epoch now

/-- The protocol and everything that has happened, earliest first. -/
structure Run (Payload : Type) where
  protocol : Protocol Payload
  log : List (Event Payload) := []

def Run.call (config : Config) (wire : Wire Payload) (operation : Operation Payload)
    (run : Run Payload) : Run Payload :=
  let step := run.protocol.step config wire operation
  { protocol := step.1, log := run.log ++ step.2 }

def boot (bootBytes : Vector UInt8 16) : Run Payload := { protocol := .initialized bootBytes }

end HidBot.ControlProtocol
