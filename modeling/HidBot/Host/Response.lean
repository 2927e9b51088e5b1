import HidBot.Host.Framer
import HidBot.Python.Record

/-!
# Responses at the host

`_validate_tree`, `parse_response` and `_wait_for_response`. The decoder of a payload is a
parameter, which returns a value or raises an error that the host expects. The loop is given
what the framer has made of the bytes that have arrived in time.
-/

namespace HidBot.HostProtocol

open Python

abbrev ProtocolError := String

abbrev Parsed := Check ProtocolError

def maxId : Int := 2147483647
def maxJsonDepth : Nat := 8
def maxObjectMembers : Nat := 16
def maxArrayMembers : Nat := 16
def maxCapabilities : Nat := 18
def maxStringBytes : Nat := 256

/-! ### The tree -/

/-- `[0-9a-f]{digits}`. -/
def isHex (digits : Nat) (value : Text) : Bool :=
  value.length = digits ∧ value.all fun
    | .char digit => digit.isDigit || ('a' ≤ digit && digit ≤ 'f')
    | .surrogate _ => false

/-- `TOKEN_PATTERN`. -/
def isToken (value : Text) : Bool := isHex 32 value

def boundedText {ε : Type} (error : ε) (value : Text) : Check ε Unit := do
  require ((← encodedLength value) ≤ maxStringBytes) error

def boundedTexts {ε : Type} (error : ε) (values : List Text) : Check ε Unit :=
  values.forM (boundedText error)

def nestingError : ProtocolError := "response JSON nesting exceeds the host bound"
def stringError : ProtocolError := "response JSON string exceeds the host bound"
def numberError : ProtocolError := "response JSON number is not finite"
def arrayError : ProtocolError := "response JSON array exceeds the host bound"
def objectError : ProtocolError := "response JSON object exceeds the host bound"
def keyError : ProtocolError := "response JSON key exceeds the host bound"

def arrayBound (path : List Text) : Nat :=
  if path = [text "result", text "capabilities"] then maxCapabilities else maxArrayMembers

mutual

def validateTree (depth : Nat) (path : List Text) (value : Value) : Parsed Unit := do
  require (depth ≤ maxJsonDepth) nestingError
  match value with
  | .null | .bool _ | .int _ => pure ()
  | .str value => boundedText stringError value
  | .float value => require value.isSome numberError
  | .list items =>
      require (items.length ≤ arrayBound path) arrayError
      validateItems (depth + 1) (path ++ [text "*"]) items
  | .dict members =>
      require (members.length ≤ maxObjectMembers) objectError
      validateMembers (depth + 1) path members

def validateItems (depth : Nat) (path : List Text) : List Value → Parsed Unit
  | [] => pure ()
  | item :: items => do
      validateTree depth path item
      validateItems depth path items

def validateMembers (depth : Nat) (path : List Text) : List (Text × Value) → Parsed Unit
  | [] => pure ()
  | (key, value) :: members => do
      boundedText keyError key
      validateTree depth (path ++ [key]) value
      validateMembers depth path members

end

/-! ### Responses -/

structure RemoteErrorObject where
  code : Text
  message : Text

/-- The result of a response that carries an error is null. -/
structure Response where
  responseId : Option Int
  session : Option Text
  ok : Bool
  result : Value
  error : Option RemoteErrorObject

/-- The response id, which may be null. -/
def readResponseId (value : Value) : Parsed (Option Int) :=
  demand (value.asOptional (·.asInt 0 maxId)) "response id is not a valid int32"

def tokenError (field : String) : ProtocolError :=
  field ++ " is not a lowercase 32-hex token"

/-- `_token`, where null is allowed. -/
def readToken (value : Value) (field : String) : Parsed (Option Text) :=
  demand (value.asOptional (·.asStr.filter isToken)) (tokenError field)

def envelopeError : ProtocolError := "machine response envelope is invalid"

def allowedFields : List Text :=
  ["type", "v", "id", "session", "ok", "result", "error"].map text

def requiredFields : List Text := ["type", "v", "id", "session", "ok"].map text

/-- `value.get(name)`, which is null where there is no such key. -/
def lookup (members : Members) (name : String) : Value := (members.get? (text name)).getD .null

def readError (value : Value) : Parsed RemoteErrorObject := do
  let error ← demand (value.asRecord ["code", "message"])
    "machine response error object is invalid"
  let invalid : ProtocolError := "machine response error fields are invalid"
  let code ← demand ((error.get "code").asStr.filter (· ≠ [])) invalid
  boundedText invalid code
  let message ← demand (error.get "message").asStr invalid
  boundedText invalid message
  pure { code, message }

/-- What `parse_response` makes of a value within the bounds. -/
def readResponse (value : Value) : Parsed Response := do
  let members : Members ←
    demand value.asDict "machine response must be an object"
  require (members.keys.all allowedFields.contains ∧ requiredFields.all members.keys.contains ∧
    (lookup members "type").isName ["response"]) envelopeError
  let _ ← demand ((lookup members "v").asInt 1 1)
    "machine response protocol version is invalid"
  let responseId ← readResponseId (lookup members "id")
  let session ← readToken (lookup members "session") "session"
  let ok ← demand (lookup members "ok").asBool "machine response ok must be boolean"
  match members.get? (text "result"), members.get? (text "error") with
  | some result, none => do
      require ok "result response must have ok=true"
      pure { responseId, session, ok, result, error := none }
  | none, some error => do
      require (¬ok) "error response must have ok=false"
      let error ← readError error
      pure { responseId, session, ok, result := .null, error := some error }
  | _, _ => refuse "machine response must contain exactly one result or error"

section Decoder

variable (decode : List ControlFraming.Byte → Option Value)

def parseResponse (payload : List ControlFraming.Byte) : Parsed Response := do
  require
    (ControlFraming.framePrefix.length + payload.length + 1 ≤ Host.maxMachineFrameBytes)
    "machine response exceeds the host bound"
  let value ← demand (decode payload) "machine response is not valid JSON"
  validateTree 0 [] value
  readResponse value

/-! ### The loop over the responses -/

/-- `ProtocolError` and `SessionLostError`. -/
inductive ClientError where
  | protocol (message : String)
  | sessionLost (message : String)
  deriving DecidableEq

abbrev Waited := Check ClientError

/-- What the loop is waiting for. -/
structure Call where
  expectedId : Int
  expectedSession : Option Text
  hello : Bool
  expectedNonce : Option Text
  unmatchedLimit : Nat

structure Progress where
  diagnostics : List Text := []
  unmatchedCount : Nat := 0

def Progress.note (progress : Progress) (code : Text) : Progress :=
  if progress.diagnostics.length < 8 then
    { progress with diagnostics := progress.diagnostics ++ [code] }
  else progress

/-- The answer, or what the loop goes on with. -/
abbrev Step := Progress ⊕ Response

def recordUnmatched (call : Call) (progress : Progress) : Waited Step := do
  require (progress.unmatchedCount + 1 ≤ call.unmatchedLimit)
    (.protocol "unmatched machine-frame limit exceeded")
  pure (.inl { progress with unmatchedCount := progress.unmatchedCount + 1 })

def staleNonce (call : Call) (response : Response) : Bool :=
  call.expectedNonce.any fun nonce => response.result.asDict.any fun members =>
    (lookup members "client_nonce").asStr ≠ some nonce

/-- An error without a session, which may have lost the session. -/
def recordError (call : Call) (progress : Progress) (error : RemoteErrorObject)
    (lost : String) : Waited Step := do
  require (error.code ≠ text "SESSION_MISMATCH") (.sessionLost lost)
  recordUnmatched call (progress.note error.code)

def onResponse (call : Call) (progress : Progress) (response : Response) : Waited Step :=
  if response.responseId ≠ some call.expectedId then recordUnmatched call progress
  else if call.hello then
    if response.ok ∧ response.session ≠ none then
      if staleNonce call response then
        recordUnmatched call (progress.note (text "STALE_HELLO_NONCE"))
      else pure (.inr response)
    else match response.error, response.session with
    | some error, none =>
        recordError call progress error "device rejected the hello due to session loss"
    | _, _ => recordUnmatched call progress
  else if response.session = call.expectedSession then pure (.inr response)
  else match response.error, response.session with
  | some error, none =>
      recordError call progress error "device rejected the request due to session loss"
  | _, _ => recordUnmatched call progress

/-- A frame is classified unless its payload raises something else than a protocol error. -/
def onEvent (call : Call) (progress : Progress) : Host.FrameEvent → Waited Step
  | .machineFrameIssue _ => recordUnmatched call progress
  | .machineFrame payload =>
      match parseResponse decode payload with
      | .ok response => onResponse call progress response
      | .error (.own _) => recordUnmatched call progress
      | .error .keyError => .error .keyError
      | .error .typeError => .error .typeError
      | .error .unicodeEncodeError => .error .unicodeEncodeError

/-- The events until the deadline: the answer, if there has been one. -/
def waitForResponse (call : Call) :
    List Host.FrameEvent → Progress → Waited (Option Response × Progress)
  | [], progress => pure (none, progress)
  | event :: events, progress => do
      match ← onEvent decode call progress event with
      | .inl progress => waitForResponse call events progress
      | .inr response => pure (some response, progress)

end Decoder

end HidBot.HostProtocol
