import HidBot.Host.Client
import HidBot.Protocol.Written

/-!
# Client and firmware over a link

Two links carry whole frames in order between the client and the firmware. A frame can
wait on a link, be lost or arrive corrupted. Another client can use the firmware at any
time; all responses arrive at the same host.
-/

namespace HidBot.Host

open ControlSession ControlProtocol Interleaving

variable {Payload : Type} [DecidableEq Payload]

/-- A request that the client has sent. -/
structure Made (Payload : Type) where
  id : Int
  session : Token
  frame : Payload

structure Ended (Payload : Type) where
  pending : Pending Payload
  ending : Ending

/-- The firmware with its log and the epoch that was read last, the client, the two
links, and the nonces, requests and ended calls of the client so far. -/
structure System (Payload : Type) where
  run : Run Payload
  epoch : AuthorityEpoch := 0
  client : Client Payload := {}
  toDevice : List Payload := []
  toHost : List ResponseFrame := []
  nonces : List Token := []
  made : List (Made Payload) := []
  ended : List (Ended Payload) := []

inductive Act (Payload : Type) where
  | connect (nonce : Token) (frame : Payload)
  | call (frame : Payload)
  | timeout
  /-- The transport fails during a call. -/
  | abandon
  /-- A successful transition call invalidates the session of the client. -/
  | invalidateSession
  | receive (intact : Bool)
  | loseRequest
  | loseResponse
  | deliver (answers : Answers)
  | deliverCorrupted (payload : Payload) (answers : Answers)
  /-- A frame of another client. -/
  | foreign (payload : Payload) (answers : Answers)
  | lifecycleInvalidation (epoch : AuthorityEpoch)
  | safetyFailure (owner : LocalOwnerId)
  | service (epoch : AuthorityEpoch) (now : UInt64)
  | reboot (bootBytes : Vector UInt8 16)

namespace System

variable (config : Config) (wire : Wire Payload) (limits : Limits) (system : System Payload)

/-- The firmware performs one operation, and its responses enter the link. -/
def operate (operation : Operation Payload) (epoch : AuthorityEpoch) : System Payload :=
  { system with
    run := system.run.call config wire operation
    epoch
    toHost := system.toHost ++ responses (system.run.protocol.step config wire operation).2 }

/-- `connect`: the session is invalidated and a fresh hello is sent. -/
def connect (nonce : Token) (frame : Payload) : System Payload :=
  if maxId < system.client.nextHelloId then
    { system with client := { system.client with session := none } }
  else
    { system with
      client := { system.client with
        session := none
        nextHelloId := system.client.nextHelloId + 1
        waiting := some { pending := .hello system.client.nextHelloId nonce frame } }
      toDevice := system.toDevice ++ [frame]
      nonces := system.nonces ++ [nonce] }

/-- A command is sent. When the ids are exhausted the session is invalidated, and the
client connects again first. -/
def call (session : Token) (frame : Payload) : System Payload :=
  if maxId < system.client.nextRequestId then
    { system with client := { system.client with session := none } }
  else
    { system with
      client := { system.client with
        nextRequestId := system.client.nextRequestId + 1
        waiting := some { pending := .request system.client.nextRequestId session frame } }
      toDevice := system.toDevice ++ [frame]
      made := system.made ++ [⟨system.client.nextRequestId, session, frame⟩] }

/-- The waiting call goes on with this client, or ends. -/
def proceed (waiting : Waiting Payload) (outcome : Client Payload × Option Ending) :
    System Payload :=
  { system with
    client := outcome.1
    ended := system.ended ++ (outcome.2.map (⟨waiting.pending, ·⟩)).toList }

/-- An attempt has timed out: the same frame is sent again, or the call raises. -/
def timeout (waiting : Waiting Payload) : System Payload :=
  if waiting.attempt < limits.maxAttempts then
    { system with
      client := { system.client with
        waiting := some { waiting with attempt := waiting.attempt + 1 } }
      toDevice := system.toDevice ++ [waiting.pending.frame] }
  else system.proceed waiting (system.client.finish .raised)

def act : Act Payload → System Payload
  | .connect nonce frame =>
      if system.client.waiting.isNone then system.connect nonce frame else system
  | .call frame =>
      match system.client.waiting, system.client.session with
      | none, some session => system.call session frame
      | _, _ => system
  | .timeout =>
      match system.client.waiting with
      | none => system
      | some waiting => system.timeout limits waiting
  | .abandon =>
      match system.client.waiting with
      | none => system
      | some waiting => system.proceed waiting (system.client.finish .raised)
  | .invalidateSession =>
      if system.client.waiting.isNone then
        { system with client := { system.client with session := none } }
      else system
  | .receive intact =>
      match system.client.waiting, system.toHost with
      | some waiting, response :: toHost =>
          { system with toHost }.proceed waiting
            (system.client.receive limits waiting (if intact then some response else none))
      | _, _ => system
  | .loseRequest => { system with toDevice := system.toDevice.tail }
  | .loseResponse => { system with toHost := system.toHost.tail }
  | .deliver answers =>
      match system.toDevice with
      | [] => system
      | frame :: toDevice =>
          { system with toDevice }.operate config wire (.frame frame answers) answers.epochAfter
  | .deliverCorrupted payload answers =>
      { system with toDevice := system.toDevice.tail }.operate config wire
        (.frame payload answers) answers.epochAfter
  | .foreign payload answers =>
      system.operate config wire (.frame payload answers) answers.epochAfter
  | .lifecycleInvalidation epoch =>
      system.operate config wire (.hidLifecycleInvalidation epoch) epoch
  | .safetyFailure owner => system.operate config wire (.hidSafetyFailure owner) system.epoch
  | .service epoch now => system.operate config wire (.service epoch now) epoch
  | .reboot bootBytes =>
      { system with run := { system.run with protocol := .initialized bootBytes }, epoch := 0 }

end System

/-- Firmware that has just booted, and a client that has not connected. -/
def start (bootBytes : Vector UInt8 16) : System Payload := { run := boot bootBytes }

/-! ### The property -/

/-- The session was opened by a hello of this nonce. -/
def GreetedBy (log : List (Event Payload)) (nonce session : Token) : Prop :=
  ∃ owner epoch response, .activated owner session epoch response ∈ log ∧
    response.Greets nonce session

/-- A session that a hello of this client has opened. -/
def Ours (nonces : List Token) (log : List (Event Payload)) (session : Token) : Prop :=
  ∃ nonce ∈ nonces, GreetedBy log nonce session

/-- An ended call: its command was executed at most once, and exactly once, with this
response, if the call returned. A hello returns what a hello of its nonce was answered. -/
def Settled (log : List (Event Payload)) (ended : Ended Payload) : Prop :=
  match ended.pending with
  | .request id session frame =>
      (executions session id log).length ≤ 1 ∧
        ∀ result, ended.ending = .returned result → ∃ response,
          executions session id log = [⟨frame, some response⟩] ∧
            response.session = some session ∧ response.id = some id ∧
              response.body = .result result
  | .hello _ nonce _ => ∀ result, ended.ending = .returned result →
      ∃ owner session epoch response, .activated owner session epoch response ∈ log ∧
        response.Greets nonce session ∧ response.body = .result result

/-- **Calls are exactly once**, end to end. -/
def ExactlyOnce (config : Config) (wire : Wire Payload) (limits : Limits)
    (allowed : System Payload → Act Payload → Prop) : Prop :=
  ∀ bootBytes system,
    Follows (fun act system => System.act config wire limits system act) allowed
      (start bootBytes) system →
    ∀ ended ∈ system.ended, Settled system.run.log ended

/-! ### Assumptions and condition -/

/-- The token that the firmware draws for a hello has not been drawn before. -/
def FreshToken (wire : Wire Payload) (system : System Payload) (payload : Payload)
    (answers : Answers) : Prop :=
  ∀ id clientNonce, wire.readEnvelope payload = .ok (.hello id clientNonce) →
    ¬Opened system.run.log (generateToken answers.randomBytes)

/-- Nonces and session tokens do not collide, the client sends the frames it builds, a
corrupted frame is never valid, and another client does not use our sessions. -/
def Assumed (wire : Wire Payload) (system : System Payload) : Act Payload → Prop
  | .connect nonce frame =>
      nonce ∉ system.nonces ∧ (∀ session, ¬GreetedBy system.run.log nonce session) ∧
        ∀ envelope, wire.readEnvelope frame = .ok envelope →
          envelope = .hello system.client.nextHelloId nonce
  | .call frame => ∀ session envelope, system.client.session = some session →
      wire.readEnvelope frame = .ok envelope → ∃ command routeV2 params,
        envelope = .request system.client.nextRequestId session command routeV2 params
  | .deliver answers => ∀ frame ∈ system.toDevice.head?, FreshToken wire system frame answers
  | .deliverCorrupted payload _ => ∃ rejection, wire.readEnvelope payload = .error rejection
  | .foreign payload answers => FreshToken wire system payload answers ∧
      ∀ id session command routeV2 params,
        wire.readEnvelope payload = .ok (.request id session command routeV2 params) →
          ¬Ours system.nonces system.run.log session
  | _ => True

/-- The environment answers a frame regularly: results can be formatted, an accepted
transition or a lost authority has changed the epoch, and the epoch does not wrap. -/
structure Steady (config : Config) (wire : Wire Payload) (system : System Payload)
    (payload : Payload) (answers : Answers) : Prop where
  regular : answers.Regular
  changes : AcceptingChangesEpoch config wire system.run (.frame payload answers)
  advances : system.epoch ≤ answers.epoch
  advancesAfter : answers.epoch ≤ answers.epochAfter

/-- No response to a hello is received for a waiting request of the same id, and the
environment is steady. -/
def Undisturbed (config : Config) (wire : Wire Payload) (system : System Payload) :
    Act Payload → Prop
  | .receive true => ∀ waiting id session frame, system.client.waiting = some waiting →
      waiting.pending = .request id session frame →
      ∀ response ∈ system.toHost.head?, response.id = some id →
        response.session = some session → ∀ nonce, ¬response.Greets nonce session
  | .deliver answers => ∀ frame ∈ system.toDevice.head?, Steady config wire system frame answers
  | .deliverCorrupted payload answers => Steady config wire system payload answers
  | .foreign payload answers => Steady config wire system payload answers
  | .lifecycleInvalidation epoch => system.epoch ≤ epoch
  | .service epoch _ => system.epoch ≤ epoch
  | _ => True

end HidBot.Host
