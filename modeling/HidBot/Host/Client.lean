import HidBot.Protocol.Requests

/-!
# The host client

`hidbot.client.Client`: one outstanding request at a time, retried with the same bytes
and answered by the first frame that matches it. A response that could not be parsed
counts as unmatched.
-/

namespace HidBot.Host

open ControlSession ControlProtocol

/-- `MAX_ID`. -/
def maxId : Int := 2147483647

/-- `LEASE_MS`. -/
def leaseMs : Nat := 5000

/-- The constructor arguments that bound a call. -/
structure Limits where
  maxAttempts : Nat := 3
  unmatchedLimit : Nat := 32

/-- A call and the immutable frame that it sends. -/
inductive Pending (Payload : Type) where
  | hello (id : Int) (nonce : Token) (frame : Payload)
  | request (id : Int) (session : Token) (frame : Payload)

namespace Pending

variable {Payload : Type}

def frame : Pending Payload → Payload
  | hello _ _ frame => frame
  | request _ _ frame => frame

end Pending

/-- A call that waits for its response. -/
structure Waiting (Payload : Type) where
  pending : Pending Payload
  attempt : Nat := 1
  unmatched : Nat := 0

structure Client (Payload : Type) where
  session : Option Token := none
  nextHelloId : Int := 0
  nextRequestId : Int := 0
  waiting : Option (Waiting Payload) := none

/-- How a call ends: it returns the result of the response, or it raises. -/
inductive Ending where
  | returned (result : Result)
  | raised

/-- `result.get("client_nonce")`. -/
def clientNonce? : Result → Option Token
  | .hello _ clientNonce .. => some clientNonce
  | _ => none

/-- The checks of `validate_hello_response` on a result with the expected nonce. -/
def validHello (session : Token) : Result → Bool
  | .hello project _ _ named lease _ =>
      named == session && project == "s3-hidbot" && lease == leaseMs
  | _ => false

namespace Client

variable {Payload : Type} (client : Client Payload)

def finish (ending : Ending) : Client Payload × Option Ending :=
  ({ client with waiting := none }, some ending)

/-- `_invalidate_session`, and the call raises. -/
def sessionLost : Client Payload × Option Ending :=
  ({ client with session := none, waiting := none }, some .raised)

/-- `record_unmatched`. -/
def recordUnmatched (limits : Limits) (waiting : Waiting Payload) :
    Client Payload × Option Ending :=
  if limits.unmatchedLimit < waiting.unmatched + 1 then client.finish .raised
  else ({ client with waiting := some { waiting with unmatched := waiting.unmatched + 1 } }, none)

/-- `_hello_locked` and `_wait_for_response` for one response. -/
def receiveHello (limits : Limits) (waiting : Waiting Payload) (id : Int) (nonce : Token)
    (response : ResponseFrame) : Client Payload × Option Ending :=
  if response.id ≠ some id then client.recordUnmatched limits waiting
  else match response.body, response.session with
    | .result result, some session =>
        if clientNonce? result ≠ some nonce then client.recordUnmatched limits waiting
        else if validHello session result = false then client.finish .raised
        else ({ client with session := some session, nextRequestId := 0, waiting := none },
          some (.returned result))
    | .error code _, none =>
        if code = "SESSION_MISMATCH" then client.sessionLost
        else client.recordUnmatched limits waiting
    | _, _ => client.recordUnmatched limits waiting

/-- `_request_frame_locked` and `_wait_for_response` for one response. -/
def receiveRequest (limits : Limits) (waiting : Waiting Payload) (id : Int) (session : Token)
    (response : ResponseFrame) : Client Payload × Option Ending :=
  if response.id ≠ some id then client.recordUnmatched limits waiting
  else if response.session = some session then
    match response.body with
    | .result result => client.finish (.returned result)
    | .error _ _ => client.finish .raised
  else match response.body, response.session with
    | .error code _, none =>
        if code = "SESSION_MISMATCH" then client.sessionLost
        else client.recordUnmatched limits waiting
    | _, _ => client.recordUnmatched limits waiting

/-- One frame is read while a call waits; a frame that is not intact is unmatched. -/
def receive (limits : Limits) (waiting : Waiting Payload) (response : Option ResponseFrame) :
    Client Payload × Option Ending :=
  match response, waiting.pending with
  | none, _ => client.recordUnmatched limits waiting
  | some response, .hello id nonce _ => client.receiveHello limits waiting id nonce response
  | some response, .request id session _ =>
      client.receiveRequest limits waiting id session response

/-- What a frame can do to the client that reads it while a call waits. -/
inductive Reception (waiting : Waiting Payload) (response : Option ResponseFrame) :
    Client Payload × Option Ending → Prop
  | unmatched :
      Reception waiting response
        ({ client with waiting := some { waiting with unmatched := waiting.unmatched + 1 } }, none)
  | raised (session : Option Token) (kept : ∀ token ∈ session, client.session = some token) :
      Reception waiting response ({ client with session, waiting := none }, some .raised)
  | answered {id : Int} {session : Token} {frame : Payload} {answer : ResponseFrame}
      {result : Result} (pending : waiting.pending = .request id session frame)
      (received : response = some answer) (numbered : answer.id = some id)
      (named : answer.session = some session) (body : answer.body = .result result) :
      Reception waiting response
        ({ client with waiting := none }, some (.returned result))
  | greeted {id : Int} {nonce session : Token} {frame : Payload} {answer : ResponseFrame}
      {result : Result} (pending : waiting.pending = .hello id nonce frame)
      (received : response = some answer) (named : answer.session = some session)
      (body : answer.body = .result result) (own : clientNonce? result = some nonce)
      (valid : validHello session result = true) :
      Reception waiting response
        ({ client with session := some session, nextRequestId := 0, waiting := none },
          some (.returned result))

variable {client} {limits : Limits} {waiting : Waiting Payload} {response : Option ResponseFrame}

theorem finish_raised : client.Reception waiting response (client.finish .raised) :=
  .raised client.session fun _ same => same

theorem recordUnmatched_cases :
    client.Reception waiting response (client.recordUnmatched limits waiting) := by
  unfold recordUnmatched
  split
  · exact finish_raised
  · exact .unmatched

theorem sessionLost_cases : client.Reception waiting response client.sessionLost :=
  .raised none fun _ same => by cases same

theorem receiveHello_cases {id : Int} {nonce : Token} {frame : Payload} {answer : ResponseFrame}
    (pending : waiting.pending = .hello id nonce frame) :
    client.Reception waiting (some answer)
      (client.receiveHello limits waiting id nonce answer) := by
  unfold receiveHello
  split
  · exact recordUnmatched_cases
  · split
    · rename_i result session body named
      split
      · exact recordUnmatched_cases
      · rename_i own
        split
        · exact finish_raised
        · rename_i valid
          exact .greeted pending rfl named body (not_not.mp own) (eq_true_of_ne_false valid)
    · split
      · exact sessionLost_cases
      · exact recordUnmatched_cases
    · exact recordUnmatched_cases

theorem receiveRequest_cases {id : Int} {session : Token} {frame : Payload}
    {answer : ResponseFrame} (pending : waiting.pending = .request id session frame) :
    client.Reception waiting (some answer)
      (client.receiveRequest limits waiting id session answer) := by
  unfold receiveRequest
  split
  · exact recordUnmatched_cases
  · rename_i numbered
    split
    · rename_i named
      split
      · rename_i result body
        exact .answered pending rfl (not_not.mp numbered) named body
      · exact finish_raised
    · split
      · split
        · exact sessionLost_cases
        · exact recordUnmatched_cases
      · exact recordUnmatched_cases

theorem receive_cases :
    client.Reception waiting response (client.receive limits waiting response) := by
  unfold receive
  split
  · exact recordUnmatched_cases
  · rename_i pending
    exact receiveHello_cases pending
  · rename_i pending
    exact receiveRequest_cases pending

end Client

end HidBot.Host
