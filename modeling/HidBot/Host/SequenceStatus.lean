import HidBot.Wire.Value
import HidBot.Protocol.Messages

/-!
# The status of a sequence at the host

The status object that the firmware serialises, and the strict pairing of state,
count, failed token and code that the host enforces on it.
-/

namespace HidBot.Host

open Wire

/-- The state as the firmware names it. -/
def sequenceStateName : ControlProtocol.SequenceState → String
  | .accepted => "accepted"
  | .running => "running"
  | .completed => "completed"
  | .aborted => "aborted"
  | .failed => "failed"

/-- The result object of `make_sequence_status`. -/
def makeSequenceStatus (status : ControlProtocol.SequenceStatus) : Value :=
  .dict [
    ("sequence_id", .int status.sequenceId),
    ("state", .str (sequenceStateName status.state)),
    ("started", .bool status.started),
    ("executed", .int status.executed.toNat),
    ("failed_token", (status.failedToken.map fun token => Value.int token.toNat).getD .null),
    ("code", (status.code.map Value.str).getD .null)]

structure SequenceStatus where
  sequenceId : Int
  state : String
  started : Bool
  executed : Int
  failedToken : Option Int
  code : Option String
  deriving DecidableEq

def failureCodes : List String :=
  ["HID_BUSY", "HID_NOT_READY", "HID_SAFETY_PENDING", "SEQUENCE_TIMEOUT"]

def abortCodes : List String := ["SESSION_MISMATCH", "SEQUENCE_ABORTED"]

/-- The fields of a status, each within its own bounds. -/
def sequenceStatusFields (value : Value) : Checked SequenceStatus := do
  require (value.hasExactly
    ["sequence_id", "state", "started", "executed", "failed_token", "code"])
    "hid.sequence.status result fields are invalid"
  let sequenceId ← demand ((value.get "sequence_id").bind (·.asInt 0 2147483647))
    "hid.sequence.status sequence ID is invalid"
  let state ← demand ((value.get "state").bind
    (·.asOneOf ["accepted", "running", "completed", "failed", "aborted"]))
    "hid.sequence.status state is invalid"
  let started ← demand ((value.get "started").bind (·.asBool))
    "hid.sequence.status state is invalid"
  let executed ← demand ((value.get "executed").bind (·.asInt 0 64))
    "hid.sequence.status executed count is invalid"
  let failedToken ← demand ((value.get "failed_token").bind (·.asOptional (·.asInt 0 63)))
    "hid.sequence.status failed token is invalid"
  let code ← demand ((value.get "code").bind
    (·.asOptional (·.asOneOf (failureCodes ++ abortCodes))))
    "hid.sequence.status terminal code is invalid"
  return { sequenceId, state, started, executed, failedToken, code }

def validateSequenceStatus (value : Value) : Checked SequenceStatus := do
  let status ← sequenceStatusFields value
  require (¬(status.state = "accepted" ∧ (status.started = true ∨ status.executed ≠ 0)))
    "hid.sequence.status accepted lifecycle is invalid"
  require (¬(status.state ∈ ["running", "completed", "failed", "aborted"] ∧
    status.started = false)) "hid.sequence.status started lifecycle is invalid"
  require (¬(status.state = "completed" ∧ status.executed = 0))
    "hid.sequence.status completed count is invalid"
  require (¬(status.state ∈ ["accepted", "running", "completed"] ∧
    (status.failedToken ≠ none ∨ status.code ≠ none)))
    "hid.sequence.status nonterminal failure is invalid"
  require (¬(status.state ∈ ["failed", "aborted"] ∧
    (status.failedToken = none ∨ status.code = none)))
    "hid.sequence.status terminal failure is incomplete"
  require (¬(status.state ∈ ["failed", "aborted"] ∧ status.failedToken ≠ some status.executed))
    "hid.sequence.status terminal count is inconsistent"
  require (¬(status.state = "failed" ∧ ∀ code ∈ status.code, code ∉ failureCodes))
    "hid.sequence.status failure code is inconsistent"
  require (¬(status.state = "aborted" ∧ ∀ code ∈ status.code, code ∉ abortCodes))
    "hid.sequence.status abort code is inconsistent"
  return status

/-! ### What is accepted -/

/-- State, count, failed token and code belong together. -/
structure SequenceStatus.Paired (status : SequenceStatus) : Prop where
  accepted : status.state = "accepted" → status.started = false ∧ status.executed = 0
  started : status.state ≠ "accepted" → status.started = true
  completed : status.state = "completed" → status.executed ≠ 0
  unfailed : status.state ≠ "failed" → status.state ≠ "aborted" →
    status.failedToken = none ∧ status.code = none
  token : status.state = "failed" ∨ status.state = "aborted" →
    status.failedToken = some status.executed
  failed : status.state = "failed" → ∃ code ∈ status.code, code ∈ failureCodes
  aborted : status.state = "aborted" → ∃ code ∈ status.code, code ∈ abortCodes

theorem SequenceStatus.Paired.validated {value : Value} {status : SequenceStatus}
    (fields : sequenceStatusFields value = .ok status) (paired : status.Paired) :
    validateSequenceStatus value = .ok status := by
  obtain ⟨accepted, started, completed, unfailed, token, failed, aborted⟩ := paired
  have coded : status.state = "failed" ∨ status.state = "aborted" → status.code ≠ none := by
    rintro (state | state)
    · obtain ⟨code, some, -⟩ := failed state
      simp [Option.mem_def.mp some]
    · obtain ⟨code, some, -⟩ := aborted state
      simp [Option.mem_def.mp some]
  unfold validateSequenceStatus
  rw [fields]
  refine require_then ?_ (require_then ?_ (require_then ?_ (require_then ?_ (require_then ?_
    (require_then ?_ (require_then ?_ (require_then ?_ rfl)))))))
  · rintro ⟨state, bad⟩
    simp [accepted state] at bad
  · rintro ⟨state, bad⟩
    have other : status.state ≠ "accepted" := by
      rintro same
      simp [same] at state
    simp [started other] at bad
  · exact fun ⟨state, bad⟩ => completed state bad
  · rintro ⟨state, bad⟩
    have other : status.state ≠ "failed" ∧ status.state ≠ "aborted" := by
      constructor <;> rintro same <;> simp [same] at state
    simp [unfailed other.1 other.2] at bad
  · rintro ⟨state, bad⟩
    have stopped : status.state = "failed" ∨ status.state = "aborted" := by simpa using state
    simp [token stopped, coded stopped] at bad
  · rintro ⟨state, bad⟩
    exact bad (token (by simpa using state))
  · rintro ⟨state, bad⟩
    obtain ⟨code, some, known⟩ := failed state
    exact bad code some known
  · rintro ⟨state, bad⟩
    obtain ⟨code, some, known⟩ := aborted state
    exact bad code some known

/-- A status within the bounds of its fields is read back as it was. -/
theorem sequenceStatusFields_make {status : ControlProtocol.SequenceStatus}
    (sequenceId : 0 ≤ status.sequenceId ∧ status.sequenceId ≤ 2147483647)
    (executed : status.executed ≤ 64) (token : ∀ token ∈ status.failedToken, token < 64)
    (code : ∀ code ∈ status.code, code ∈ failureCodes ++ abortCodes) :
    sequenceStatusFields (makeSequenceStatus status) = .ok {
      sequenceId := status.sequenceId
      state := sequenceStateName status.state
      started := status.started
      executed := status.executed.toNat
      failedToken := status.failedToken.map fun token => token.toNat
      code := status.code } := by
  have executed : (status.executed.toNat : Int) ≤ 64 := by
    exact_mod_cast UInt8.le_iff_toNat_le.mp executed
  refine require_then (by simp [makeSequenceStatus, Value.hasExactly]) (demand_then ?_
    (demand_then ?_ (demand_then ?_ (demand_then ?_ (demand_then ?_ (demand_then ?_ rfl))))))
  · simp [makeSequenceStatus, Value.get, Value.asInt, sequenceId]
  · cases named : status.state <;>
      simp [makeSequenceStatus, Value.get, Value.asOneOf, Value.asStr, sequenceStateName, named]
  · simp [makeSequenceStatus, Value.get, Value.asBool]
  · simp [makeSequenceStatus, Value.get, Value.asInt, executed]
  · cases found : status.failedToken with
    | none => simp [makeSequenceStatus, Value.get, Value.asOptional, found]
    | some failedToken =>
        have small : (failedToken.toNat : Int) ≤ 63 := by
          have := UInt8.lt_iff_toNat_lt.mp (token failedToken found)
          change failedToken.toNat < 64 at this
          omega
        simp [makeSequenceStatus, Value.get, Value.asOptional, Value.asInt, found, small]
  · cases found : status.code with
    | none => simp [makeSequenceStatus, Value.get, Value.asOptional, found]
    | some name =>
        simpa [makeSequenceStatus, Value.get, Value.asOptional, Value.asOneOf, Value.asStr, found]
          using code name found

end HidBot.Host
