import HidBot.Wire.Value

/-!
# Sequences of the host

`hidbot.sequence`: an immutable sequence of operations, checked where it is made, and
its text for the firmware.
-/

namespace HidBot.Host

open Wire

def maxCodeBytes : Nat := 320
def maxTokens : Nat := 64
def maxDefaultDelayMs : Int := 1000
def maxWaitMs : Int := 2000
def maxScheduledDurationMs : Int := 2500

inductive MouseButton where
  | left
  | right
  | middle
  | backward
  | forward
  deriving DecidableEq

def MouseButton.value : MouseButton → String
  | .left => "L"
  | .right => "R"
  | .middle => "M"
  | .backward => "B"
  | .forward => "F"

namespace Sequence

/-- The value of an operation, `int | MouseButton`. -/
inductive Operand where
  | int (value : Int)
  | button (button : MouseButton)
  deriving DecidableEq

/-- `_Operation`. Nothing is checked where one is made. -/
structure Operation where
  opcode : String
  value : Operand
  deriving DecidableEq

def Operation.encode (operation : Operation) : String :=
  operation.opcode ++ match operation.value with
    | .button button => button.value
    | .int value => toString value

/-- `_validate_int`, with the integer that passes. -/
def validateInt (low high : Int) (field : String) : Operand → Checked Int
  | .int value =>
      if low ≤ value ∧ value ≤ high then .ok value
      else .error ("HID sequence " ++ field ++ " is invalid")
  | .button _ => .error ("HID sequence " ++ field ++ " is invalid")

/-- `_validate_usage`. -/
def validateUsage : Operand → Checked Unit
  | .int usage =>
      require ((4 ≤ usage ∧ usage ≤ 164) ∨ (176 ≤ usage ∧ usage ≤ 221) ∨
        (224 ≤ usage ∧ usage ≤ 231)) "HID sequence keyboard usage is invalid"
  | .button _ => .error "HID sequence keyboard usage is invalid"

/-- `_validate_button`. -/
def validateButton : Operand → Checked Unit
  | .button _ => .ok ()
  | .int _ => .error "HID sequence mouse button is invalid"

/-- What the loop of `__post_init__` carries from one operation to the next. -/
structure Schedule where
  defaultDelay : Int := 0
  scheduled : Int := 0

/-- The default delay that follows every report but the last. -/
def Schedule.report (schedule : Schedule) (isLast : Bool) : Schedule :=
  if isLast then schedule
  else { schedule with scheduled := schedule.scheduled + schedule.defaultDelay }

/-- One turn of the loop, up to its check of the duration. -/
def Operation.validate (operation : Operation) (isLast : Bool) (schedule : Schedule) :
    Checked Schedule :=
  if operation.opcode = "d" then do
    let delay ← validateInt 0 maxDefaultDelayMs "default delay" operation.value
    return { schedule with defaultDelay := delay }
  else if operation.opcode = "w" then do
    let wait ← validateInt 0 maxWaitMs "explicit wait" operation.value
    return { schedule with scheduled := schedule.scheduled + wait }
  else if operation.opcode = "kp" ∨ operation.opcode = "kr" then do
    validateUsage operation.value
    return schedule.report isLast
  else if operation.opcode = "mp" ∨ operation.opcode = "mr" then do
    validateButton operation.value
    return schedule.report isLast
  else .error "HID sequence operation is invalid"

/-- The loop of `__post_init__`, with the duration that it computes. -/
def walk (schedule : Schedule) : List Operation → Checked Int
  | [] => return schedule.scheduled
  | operation :: rest => do
      let schedule ← operation.validate rest.isEmpty schedule
      require (schedule.scheduled ≤ maxScheduledDurationMs)
        "HID sequence exceeds scheduled-duration limit"
      walk schedule rest

def encodeOperations (operations : List Operation) : String :=
  ";".intercalate (operations.map Operation.encode)

/-- `__post_init__`. Operations that the loop accepts are encoded in ASCII. -/
def postInit (operations : List Operation) : Checked Unit := do
  require (operations ≠ []) "HID sequence must contain at least one token"
  require (operations.length ≤ maxTokens) "HID sequence exceeds 64 tokens"
  let _ ← walk {} operations
  require ((encodeOperations operations).length ≤ maxCodeBytes)
    "HID sequence exceeds 320 encoded bytes"

end Sequence

/-- A sequence that `__post_init__` accepts. -/
structure Sequence where
  operations : List Sequence.Operation
  accepted : Sequence.postInit operations = .ok ()

def Sequence.encode (sequence : Sequence) : String := encodeOperations sequence.operations

end HidBot.Host
