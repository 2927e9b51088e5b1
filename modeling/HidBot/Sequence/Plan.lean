import Mathlib.Data.Vector.Basic

/-!
# Sequence plans

`hid_sequence::parse`: a sequence is a text of tokens separated by semicolons. It
is parsed against the HID state in which it starts, and its keys must fit the six
slots of a keyboard report all along.
-/

namespace HidBot.Sequence

def maximumCodeBytes : Nat := 320
def maximumTokens : Nat := 64
def maximumDefaultDelayMs : Nat := 1000
def maximumWaitMs : Nat := 2000
def maximumScheduledDurationMs : Nat := 2500
def executionDeadlineMs : Nat := 4000
def operationReadinessMs : Nat := 100

structure HidState where
  modifiers : UInt8 := 0
  keycodes : Vector UInt8 6 := .replicate 6 0
  mouseButtons : UInt8 := 0
  deriving DecidableEq

inductive OperationKind where
  | defaultDelay
  | wait
  | keyPress
  | keyRelease
  | mousePress
  | mouseRelease
  deriving DecidableEq

structure Operation where
  kind : OperationKind := .wait
  value : UInt16 := 0
  deriving DecidableEq

abbrev ReportMask := UInt8

def keyboardInput : ReportMask := 1
def mouseInput : ReportMask := 2

/-- `hid_capability::is_subset`. -/
def isSubset (subset superset : ReportMask) : Bool := subset &&& superset == subset

/-- The operations are the first `count` of the array. -/
structure Plan where
  operations : List Operation := []
  scheduledDurationMs : UInt32 := 0
  initialState : HidState := {}
  requiredRoles : ReportMask := 0
  deriving DecidableEq

/-! ### Tokens -/

def ordinaryUsage (value : UInt16) : Bool :=
  (4 ≤ value && value ≤ 164) || (176 ≤ value && value ≤ 221)

def modifierUsage (value : UInt16) : Bool := 224 ≤ value && value ≤ 231

/-- The loop of `parse_number`, from the value parsed so far. -/
def parseDigits (maximum : Nat) : Nat → List Char → Option Nat
  | parsed, [] => some parsed
  | parsed, character :: rest =>
      if character < '0' ∨ '9' < character then none
      else
        let parsed := parsed * 10 + (character.toNat - '0'.toNat)
        if maximum < parsed then none else parseDigits maximum parsed rest

def parseNumber (text : List Char) (maximum : Nat) : Option UInt16 :=
  if text = [] ∨ 4 < text.length ∨ (1 < text.length ∧ text.head? = some '0') then none
  else (parseDigits maximum 0 text).map UInt16.ofNat

def buttonBit : Char → UInt8
  | 'L' => 1
  | 'R' => 2
  | 'M' => 4
  | 'B' => 8
  | 'F' => 16
  | _ => 0

def parseKey (kind : OperationKind) (digits : List Char) : Option Operation :=
  if 3 < digits.length then none
  else do
    let value ← parseNumber digits 231
    if ordinaryUsage value || modifierUsage value then return { kind, value } else none

def parseButton (kind : OperationKind) (button : Char) : Option Operation :=
  if buttonBit button = 0 then none else some { kind, value := (buttonBit button).toUInt16 }

def parseToken : List Char → Option Operation
  | 'd' :: digits => do
      return { kind := .defaultDelay, value := ← parseNumber digits maximumDefaultDelayMs }
  | 'w' :: digits => do return { kind := .wait, value := ← parseNumber digits maximumWaitMs }
  | 'k' :: 'p' :: digit :: digits => parseKey .keyPress (digit :: digits)
  | 'k' :: 'r' :: digit :: digits => parseKey .keyRelease (digit :: digits)
  | ['m', 'p', button] => parseButton .mousePress button
  | ['m', 'r', button] => parseButton .mouseRelease button
  | _ => none

/-! ### Transitions -/

/-- The keys before a free slot, from the last one, with the new one put where the
shifting loop stops. -/
def insertKey (usage : UInt8) : List UInt8 → List UInt8
  | [] => [usage]
  | last :: before =>
      if usage < last then last :: insertKey usage before else usage :: last :: before

def pressKey (usage : UInt8) (keycodes : Vector UInt8 6) : Option (Vector UInt8 6) :=
  if usage ∈ keycodes.toList then some keycodes
  else match keycodes.toList.idxOf? 0 with
    | none => none
    | some empty =>
        let held := (insertKey usage (keycodes.toList.take empty).reverse).reverse
        some (Vector.ofFn fun slot => (held ++ keycodes.toList.drop (empty + 1)).getD slot 0)

def releaseKey (usage : UInt8) (keycodes : Vector UInt8 6) : Vector UInt8 6 :=
  match keycodes.toList.idxOf? usage with
  | none => keycodes
  | some found => Vector.ofFn fun slot => (keycodes.toList.eraseIdx found).getD slot 0

def modifierBit (usage : UInt16) : UInt8 := 1 <<< (usage - 224).toUInt8

def applyTransition (operation : Operation) (state : HidState) : Option HidState :=
  match operation.kind with
  | .mousePress =>
      some { state with mouseButtons := state.mouseButtons ||| operation.value.toUInt8 }
  | .mouseRelease =>
      some { state with mouseButtons := state.mouseButtons &&& ~~~operation.value.toUInt8 }
  | .defaultDelay | .wait => some state
  | .keyPress =>
      if modifierUsage operation.value then
        some { state with modifiers := state.modifiers ||| modifierBit operation.value }
      else do
        return { state with keycodes := ← pressKey operation.value.toUInt8 state.keycodes }
  | .keyRelease =>
      if modifierUsage operation.value then
        some { state with modifiers := state.modifiers &&& ~~~modifierBit operation.value }
      else some { state with keycodes := releaseKey operation.value.toUInt8 state.keycodes }

def OperationKind.role : OperationKind → ReportMask
  | .keyPress | .keyRelease => keyboardInput
  | .mousePress | .mouseRelease => mouseInput
  | .defaultDelay | .wait => 0

def OperationKind.isHid (kind : OperationKind) : Bool :=
  kind = .keyPress ∨ kind = .keyRelease ∨ kind = .mousePress ∨ kind = .mouseRelease

/-! ### Plans -/

/-- The loop over the tokens of a text that is not empty, with the tokens that may
still come. -/
def parseTokens : Nat → HidState → List Char → Option (List Operation)
  | 0, _, _ => none
  | room + 1, simulated, code => do
      let token := code.takeWhile (· ≠ ';')
      let operation ← parseToken token
      let simulated ← applyTransition operation simulated
      match code.dropWhile (· ≠ ';') with
      | [] => return [operation]
      | [_] => none
      | _ :: rest => return operation :: (← parseTokens room simulated rest)

/-- The duration of the operations that follow, if it stays within the bound. -/
def scheduledDuration (defaultDelay duration : Nat) : List Operation → Option Nat
  | [] => some duration
  | operation :: rest =>
      let defaultDelay :=
        if operation.kind = .defaultDelay then operation.value.toNat else defaultDelay
      let duration :=
        if operation.kind = .wait then duration + operation.value.toNat
        else if operation.kind.isHid = true ∧ rest ≠ [] then duration + defaultDelay
        else duration
      if maximumScheduledDurationMs < duration then none
      else scheduledDuration defaultDelay duration rest

def parse (code : List Char) (initialState : HidState) : Option Plan :=
  if code = [] ∨ maximumCodeBytes < code.length then none
  else do
    let operations ← parseTokens maximumTokens initialState code
    let duration ← scheduledDuration 0 0 operations
    return {
      operations, initialState
      scheduledDurationMs := UInt32.ofNat duration
      requiredRoles := operations.foldl (fun roles operation => roles ||| operation.kind.role) 0 }

theorem parseTokens_length {room : Nat} {simulated : HidState} {code : List Char}
    {operations : List Operation} (parsed : parseTokens room simulated code = some operations) :
    operations ≠ [] ∧ operations.length ≤ room := by
  induction room generalizing simulated code operations with
  | zero => simp [parseTokens] at parsed
  | succ room ih =>
      simp only [parseTokens, Option.bind_eq_bind, Option.bind_eq_some_iff] at parsed
      obtain ⟨operation, -, simulated, -, rest⟩ := parsed
      split at rest
      · cases rest
        simp
      · cases rest
      · obtain ⟨later, remaining, same⟩ := Option.bind_eq_some_iff.mp rest
        cases same
        simpa using (ih remaining).2

/-- An accepted plan has one to sixty-four operations. -/
theorem parse_length {code : List Char} {initialState : HidState} {plan : Plan}
    (parsed : parse code initialState = some plan) :
    plan.operations ≠ [] ∧ plan.operations.length ≤ maximumTokens := by
  unfold parse at parsed
  split at parsed
  · cases parsed
  · obtain ⟨operations, tokens, rest⟩ := Option.bind_eq_some_iff.mp parsed
    obtain ⟨duration, -, same⟩ := Option.bind_eq_some_iff.mp rest
    cases same
    exact parseTokens_length tokens

example : (parse "d10;kp4;kr4;w100;mpL".toList {}).map (·.scheduledDurationMs) = some 120 := by
  decide +kernel

end HidBot.Sequence
