import HidBot.Interleaving.Scripted
import HidBot.Sequence.Plan
import HidBot.Sequence.Status

/-!
# The sequence controller

`hid_sequence::Controller`: one task runs a sequence while any other task may
abort it, retire its owner or read its status. What the backend and the clock
answer, and which weak exchanges fail spuriously, stands in the script of a call.
-/

namespace HidBot.Sequence

open Interleaving

structure ExecutionAuthority where
  generation : UInt32 := 0
  authorityEpoch : UInt32 := 0
  releaseEpoch : UInt32 := 0
  profileActivationEpoch : UInt32 := 0
  activeRoles : ReportMask := 0
  transport : UInt8 := 0
  routeGeneration : UInt32 := 0
  deriving DecidableEq

inductive AdmissionResult where
  | accepted
  | invalid
  | busy
  | notReady
  | safetyPending
  | unsupportedOperation
  deriving DecidableEq

inductive ReportResult where
  | accepted
  | busy
  | notReady
  | safetyPending
  | authorityLost
  deriving DecidableEq

structure Status where
  sequenceId : Int
  state : Option State
  started : Bool
  executed : UInt8
  failedToken : Option UInt8
  code : Option TerminalCode
  deriving DecidableEq

/-- A call of the backend. -/
inductive BackendCall where
  | beginSequence
  | endSequence (authority : ExecutionAuthority)
  | revokeSequence
  | keyboardReport (owner : UInt64) (modifiers : UInt8) (keycodes : Vector UInt8 6)
  | mouseReport (owner : UInt64) (buttons : UInt8)
  | requestSafetyRelease
  deriving DecidableEq

def BackendCall.isReport : BackendCall → Bool
  | keyboardReport .. | mouseReport .. => true
  | _ => false

/-- What a call is answered from outside. -/
inductive Answer where
  | time (now : UInt64)
  | exchangeFails (fails : Bool)
  | authorityCurrent (current : Bool)
  | report (result : ReportResult)
  | admission (result : AdmissionResult) (initialState : HidState)
      (authority : ExecutionAuthority)
  deriving DecidableEq

/-- What a run remembers for the statements about it. -/
structure Trace where
  /-- The values that the status word was last encoded from. -/
  stored : Record := { state := .accepted }
  /-- The calls of the backend, latest first. -/
  calls : List BackendCall := []
  /-- A report was answered with a lost authority, and the check that followed saw
  no cancellation and a current authority. -/
  disputed : Bool := false

structure Words where
  nextGeneration : UInt32 := 1
  reservedGeneration : UInt32 := 0
  runnableGeneration : UInt32 := 0
  canceledGeneration : UInt32 := 0
  statusOwnerLow : UInt32 := 0
  statusOwnerHigh : UInt32 := 0
  statusGeneration : UInt32 := 0
  statusWord : UInt32 := 0
  /-- Set once, before the tasks start. -/
  initialized : Bool := true
  cancelRequested : Bool := false
  sequenceId : Int := 0
  -- The plain fields that a start writes while it holds the reservation.
  plan : Plan := {}
  authority : ExecutionAuthority := {}
  activeLocalOwnerId : UInt64 := 0
  admissionUs : UInt64 := 0
  trace : Trace := {}

abbrev Call := Scripted Answer Words

/-! ### Answers and backend calls -/

def now : Call UInt64 := .ask fun | .time now => some now | _ => none

def authorityAnswer : Call Bool :=
  .ask fun | .authorityCurrent current => some current | _ => none

def Words.called (words : Words) (call : BackendCall) : Words :=
  { words with trace := { words.trace with calls := call :: words.trace.calls } }

def callBackend (call : BackendCall) : Call Unit := .write (·.called call)

/-- `authority_current`, after a report that was answered with a lost authority
and without a cancellation seen if `contested`. -/
def authorityCurrent (contested : Bool := false) : Call Bool := do
  let current ← authorityAnswer
  .write fun words => { words with
    trace := { words.trace with disputed := words.trace.disputed || (contested && current) } }
  return current

/-! ### The status word -/

def Words.storeStatus (words : Words) (record : Record) : Words :=
  { words with statusWord := record.encode, trace := { words.trace with stored := record } }

/-- An exchange on the status word, and the word it found. -/
def exchangeStatus (expected : UInt32) (record : Record) : Call (Bool × UInt32) :=
  .readModifyWrite fun words =>
    if words.statusWord = expected then ((true, expected), words.storeStatus record)
    else ((false, words.statusWord), words)

/-- An exchange that may also fail spuriously. -/
def exchangeStatusWeak (expected : UInt32) (record : Record) : Call (Bool × UInt32) := do
  if ← .ask fun | .exchangeFails fails => some fails | _ => none then
    return (false, ← .read (·.statusWord))
  exchangeStatus expected record

def acceptedRecord : Record := { state := .accepted }

def runningRecord (executed : UInt8) : Record := { state := .running, executed }

def abortedRecord (executed : UInt8) (releaseOwned : Bool) : Record :=
  { state := .aborted, executed, failedTokenPresent := true, failedToken := executed,
    code := .sequenceAborted, releaseOwned }

def isOpen (status : UInt32) : Bool :=
  decodeState status = some .accepted ∨ decodeState status = some .running

def isTerminal (status : UInt32) : Bool := (decodeState status).any State.terminal

/-- The abort loop: the terminal word that was found, unless this call has made the
word aborted. -/
def claimAbort (releaseOwned : Bool) : Call (Option UInt32) := do
  let current ← .read (·.statusWord)
  Scripted.iterate (fun current => do
    if isOpen current then
      let (exchanged, observed) ← exchangeStatusWeak current
        (abortedRecord (decodeExecuted current) releaseOwned)
      return if exchanged then .inr none else .inl observed
    else return .inr (some current)) current

/-- The values of a terminal status that `run` claims. -/
structure Verdict where
  finalState : State := .completed
  finalCode : TerminalCode := .none
  failedToken : UInt8 := 0
  executed : UInt8 := 0
  terminalPublished : Bool := false
  deriving DecidableEq

def Verdict.record (verdict : Verdict) : Record where
  state := verdict.finalState
  executed := verdict.executed
  failedTokenPresent := verdict.finalState = .failed ∨ verdict.finalState = .aborted
  failedToken := verdict.failedToken
  code := verdict.finalCode

def claimTerminal (generation : UInt32) (verdict : Verdict) : Call Bool := do
  if (← .read (·.statusGeneration)) ≠ generation then
    return false
  if verdict.finalState.terminal = false then
    return false
  let current ← .read (·.statusWord)
  Scripted.iterate (fun current => do
    if isTerminal current then return .inr false
    else if decodeState current ≠ some .running then return .inr false
    else
      let (exchanged, observed) ← exchangeStatusWeak current verdict.record
      return if exchanged then .inr true else .inl observed) current

def publishRunningProgress (generation : UInt32) (executed : UInt8) : Call Bool := do
  if (← .read (·.statusGeneration)) ≠ generation then
    return false
  let current ← .read (·.statusWord)
  Scripted.iterate (fun current => do
    if decodeState current = some .running then
      let (exchanged, observed) ← exchangeStatusWeak current (runningRecord executed)
      return if exchanged then .inr true else .inl observed
    else return .inr false) current

/-! ### Start and status -/

/-- `allocate_generation`: each generation is handed out once. -/
def allocateGeneration : Call (Option UInt32) := do
  let candidate ← .read (·.nextGeneration)
  Scripted.iterate (fun (candidate : UInt32) => do
    if candidate = 0 then return .inr none
    else if ← .ask fun | .exchangeFails fails => some fails | _ => none then
      return .inl (← .read (·.nextGeneration))
    else
      let observed ← .readModifyWrite fun words => (words.nextGeneration,
        if words.nextGeneration = candidate then
          { words with nextGeneration := if candidate = 0xffffffff then 0 else candidate + 1 }
        else words)
      return if observed = candidate then .inr (some candidate) else .inl observed) candidate

def clearReservation : Call Unit := .write fun words => { words with reservedGeneration := 0 }

def ownerLow (owner : UInt64) : UInt32 := owner.toUInt32
def ownerHigh (owner : UInt64) : UInt32 := (owner >>> 32).toUInt32

/-- Withdraw the retained record, replace it and publish the new generation. -/
def publishRecord (generation : UInt32) (owner : UInt64) (sequenceId : Int) : Call Unit := do
  .write fun words => { words with statusGeneration := 0 }
  .write fun words => { words with sequenceId }
  .write (·.storeStatus acceptedRecord)
  .write fun words => { words with statusOwnerLow := ownerLow owner }
  .write fun words => { words with statusOwnerHigh := ownerHigh owner }
  .write fun words => { words with statusGeneration := generation }
  .write fun words => { words with runnableGeneration := generation }

def start (owner : UInt64) (sequenceId : Int) (code : List Char) : Call AdmissionResult := do
  if !(← .read (·.initialized)) || owner = 0 then
    return .notReady
  match ← allocateGeneration with
  | none => return .notReady
  | some generation =>
      let reserved ← .readModifyWrite fun words =>
        if words.reservedGeneration = 0 then
          (true, { words with reservedGeneration := generation })
        else (false, words)
      if !reserved then
        return .busy
      let (admission, initial, authority) ← .ask fun
        | .admission result initial authority => some (result, initial, authority)
        | _ => none
      callBackend .beginSequence
      if admission ≠ .accepted then
        clearReservation
        return admission
      match parse code initial with
      | none =>
          callBackend (.endSequence authority)
          clearReservation
          return .invalid
      | some plan =>
          if !isSubset plan.requiredRoles authority.activeRoles then
            callBackend (.endSequence authority)
            clearReservation
            return .unsupportedOperation
          let admissionUs ← now
          .write fun words =>
            { words with plan, authority, activeLocalOwnerId := owner, admissionUs }
          let canceled ← .read (·.canceledGeneration)
          .write fun words => { words with cancelRequested := canceled == generation }
          publishRecord generation owner sequenceId
          return .accepted

def status (owner : UInt64) (sequenceId : Int) : Call (Option Status) := do
  let generation ← .read (·.statusGeneration)
  let observedOwnerLow ← .read (·.statusOwnerLow)
  let observedOwnerHigh ← .read (·.statusOwnerHigh)
  if generation = 0 ∨ owner = 0 ∨ observedOwnerLow ≠ ownerLow owner ∨
      observedOwnerHigh ≠ ownerHigh owner then
    return none
  if (← .read (·.sequenceId)) ≠ sequenceId then
    return none
  let observed ← .read (·.statusWord)
  let state := decodeState observed
  let terminal : Bool := state = some .failed ∨ state = some .aborted
  let status : Status := {
    sequenceId, state
    started := state ≠ some .accepted
    executed := decodeExecuted observed
    failedToken := if terminal && decodeFailedTokenPresent observed then
      some (decodeFailedToken observed) else none
    code := if terminal then decodeTerminalCode observed else some .none }
  return if (← .read (·.statusGeneration)) = generation then some status else none

/-! ### Aborts -/

def abortGeneration (generation : UInt32) : Call Unit := do
  if generation = 0 then
    return
  if (← .read (·.reservedGeneration)) ≠ generation then
    return
  .write fun words => { words with canceledGeneration := generation }
  if (← .read (·.reservedGeneration)) ≠ generation then
    return
  callBackend .revokeSequence
  if (← .read (·.statusGeneration)) = generation then
    let _ ← claimAbort false
  .write fun words => { words with cancelRequested := true }

def abort : Call Unit := do
  let generation ← .read (·.reservedGeneration)
  if generation = 0 then
    .write fun words => { words with cancelRequested := true }
  else
    abortGeneration generation

def abortForRelease : Call Bool := do
  let generation ← .read (·.reservedGeneration)
  if generation = 0 then
    .write fun words => { words with cancelRequested := true }
    return true
  if (← .read (·.statusGeneration)) ≠ generation then
    return false
  match ← claimAbort true with
  | none =>
      .write fun words => { words with canceledGeneration := generation }
      callBackend .revokeSequence
      .write fun words => { words with cancelRequested := true }
      return true
  | some terminal =>
      return decodeState terminal = some .completed ∨
        (decodeState terminal = some .aborted ∧ decodeReleaseOwned terminal = true)

def retireOwner (owner : UInt64) : Call Unit :=
  if owner = 0 then return
  else Scripted.iterate (fun _ => do
    let generation ← .read (·.statusGeneration)
    if generation = 0 then
      return .inr ()
    if (← .read (·.statusOwnerLow)) ≠ ownerLow owner then
      return .inr ()
    if (← .read (·.statusOwnerHigh)) ≠ ownerHigh owner then
      return .inr ()
    let retired ← .readModifyWrite fun words =>
      if words.statusGeneration = generation then (true, { words with statusGeneration := 0 })
      else (false, words)
    if retired then
      abortGeneration generation
      return .inr ()
    else return .inl ()) ()

/-! ### Running a plan -/

inductive WaitDecision where
  | executionExpired
  | waitComplete
  | block (us : UInt64)
  deriving DecidableEq

def waitDecision (now waitDeadline executionDeadline : UInt64) : WaitDecision :=
  if executionDeadline ≤ now then .executionExpired
  else if waitDeadline ≤ now then .waitComplete
  else .block (min (waitDeadline - now) (executionDeadline - now))

def milliseconds (count : Nat) : UInt64 := UInt64.ofNat count * 1000

def waitLocal (duration : Nat) : Call Bool := do
  let waitDeadline := (← now) + milliseconds duration
  let executionDeadline := (← .read (·.admissionUs)) + milliseconds executionDeadlineMs
  Scripted.iterate (fun _ => do
    let now ← now
    if ← .read (·.cancelRequested) then
      return .inr false
    if !(← authorityCurrent) then
      return .inr false
    match waitDecision now waitDeadline executionDeadline with
    | .executionExpired => return .inr false
    | .waitComplete => return .inr true
    | .block _ => return .inl ()) ()

/-- The report of an operation of this kind. -/
def submitReport (kind : OperationKind) (state : HidState) : Call ReportResult := do
  let owner ← .read (·.activeLocalOwnerId)
  let result ← .ask fun | .report result => some result | _ => none
  callBackend <| if kind = .keyPress ∨ kind = .keyRelease then
    .keyboardReport owner state.modifiers state.keycodes else .mouseReport owner state.mouseButtons
  return result

def ReportResult.failure : ReportResult → TerminalCode
  | busy => .hidBusy
  | safetyPending => .hidSafetyPending
  | authorityLost => .sessionMismatch
  | accepted | notReady => .hidNotReady

/-- A report that is not busy is not repeated. -/
def readinessOver (result : ReportResult) (readinessDeadline : UInt64) : Call Bool :=
  if result ≠ .busy then return true else return readinessDeadline ≤ (← now)

/-- Whether the report was accepted, and the failure code then. -/
def executeReport (kind : OperationKind) (state : HidState) (failure : TerminalCode) :
    Call (Bool × TerminalCode) := do
  let readinessDeadline := (← now) + milliseconds operationReadinessMs
  Scripted.iterate (fun _ => do
    let result ← submitReport kind state
    if result = .accepted then
      return .inr (true, failure)
    if ← readinessOver result readinessDeadline then
      return .inr (false, result.failure)
    if ← waitLocal 1 then return .inl () else return .inr (false, failure)) ()

def cancellationSeen (generation : UInt32) : Call Bool := do
  if ← .read (·.cancelRequested) then
    return true
  return (← .read (·.canceledGeneration)) == generation

/-- The checks before and after an operation: the sequence stops at this index if it
is canceled, has lost its authority or has run out of time. -/
def interruption (generation : UInt32) (index : Nat) (executed : UInt8) :
    Call (Option Verdict) := do
  let canceled ← cancellationSeen generation
  let authorityLost := !(← authorityCurrent)
  if canceled || authorityLost then
    return some {
      finalState := .aborted
      finalCode := if canceled then .sequenceAborted else .sessionMismatch
      failedToken := UInt8.ofNat index
      executed }
  if milliseconds executionDeadlineMs ≤ (← now) - (← .read (·.admissionUs)) then
    return some {
      finalState := .failed
      finalCode := .sequenceTimeout
      failedToken := UInt8.ofNat index
      executed }
  return none

/-- The verdict on an operation that did not complete. -/
def incompletion (generation : UInt32) (index : Nat) (executed : UInt8)
    (finalCode : TerminalCode) : Call Verdict := do
  let canceled ← cancellationSeen generation
  let authorityLost := !(← authorityCurrent (finalCode = .sessionMismatch && !canceled))
  return {
    finalState := if canceled || authorityLost then .aborted else .failed
    finalCode :=
      if canceled then .sequenceAborted
      else if authorityLost then .sessionMismatch
      else if finalCode = .none then .sequenceTimeout
      else finalCode
    failedToken := UInt8.ofNat index
    executed }

/-- What the operations so far leave for the next one. -/
structure Progress where
  current : HidState
  defaultDelay : Nat := 0

/-- The default delay is waited for after each accepted report but the last. -/
def waitAfter (accepted isLast : Bool) (defaultDelay : Nat) : Call Bool :=
  if accepted && !isLast then waitLocal defaultDelay else return accepted

/-- One operation: whether it completed, the final code so far and what it leaves. -/
def perform (operation : Operation) (isLast : Bool) (progress : Progress) :
    Call (Bool × TerminalCode × Progress) :=
  if operation.kind = .defaultDelay then
    return (true, .none, { progress with defaultDelay := operation.value.toNat })
  else if operation.kind = .wait then do
    return (← waitLocal operation.value.toNat, .none, progress)
  else do
    let current := (applyTransition operation progress.current).getD progress.current
    let (accepted, finalCode) ← executeReport operation.kind current .none
    return (← waitAfter accepted isLast progress.defaultDelay, finalCode, { progress with current })

/-- The loop over the operations from an index on. -/
def runOperations (generation : UInt32) :
    Nat → UInt8 → Progress → List Operation → Call Verdict
  | _, executed, _, [] => return { executed }
  | index, executed, progress, operation :: rest => do
      match ← interruption generation index executed with
      | some verdict => return verdict
      | none =>
          let (complete, finalCode, progress) ← perform operation rest.isEmpty progress
          if !complete then
            incompletion generation index executed finalCode
          else
            match ← interruption generation index executed with
            | some verdict => return verdict
            | none =>
                let executed := UInt8.ofNat (index + 1)
                if rest = [] then
                  return { executed, terminalPublished := ← claimTerminal generation { executed } }
                else if ← publishRunningProgress generation executed then
                  runOperations generation (index + 1) executed progress rest
                else return { executed }

/-- The last claim, if no terminal status has been published. -/
def settle (generation : UInt32) (verdict : Verdict) : Call Unit := do
  if !verdict.terminalPublished then
    if !isTerminal (← .read (·.statusWord)) then
      let _ ← claimTerminal generation verdict

def endRun (generation : UInt32) : Call Unit := do
  let authority ← .read (·.authority)
  callBackend (.endSequence authority)
  .write fun words => { words with
    reservedGeneration :=
      if words.reservedGeneration = generation then 0 else words.reservedGeneration }

/-- The safety release, unless the published status is completed or a release owns
the abort. -/
def cleanUp (generation : UInt32) : Call Unit := do
  let published ← .read (·.statusWord)
  if decodeState published ≠ some .completed ∧ decodeReleaseOwned published = false then
    callBackend .requestSafetyRelease
  endRun generation

def run (generation : UInt32) : Call Unit := do
  if (← .read (·.statusGeneration)) ≠ generation then
    endRun generation
  else
    let (exchanged, observed) ← exchangeStatus acceptedRecord.encode (runningRecord 0)
    if !exchanged then
      if (← .read (·.statusGeneration)) = generation ∧ decodeState observed = some .aborted ∧
          decodeReleaseOwned observed = false then
        callBackend .requestSafetyRelease
      endRun generation
    else
      let plan ← .read (·.plan)
      let verdict ← runOperations generation 0 0 { current := plan.initialState } plan.operations
      settle generation verdict
      cleanUp generation

/-- One turn of `task_entry`. -/
def taskTurn : Call Unit := do
  let generation ← .readModifyWrite fun words =>
    (words.runnableGeneration, { words with runnableGeneration := 0 })
  if generation ≠ 0 then
    run generation

/-! ### Tasks -/

/-- The task of the controller, and any number of tasks that call it. -/
inductive Task where
  | sequence
  | caller (id : Nat)
  deriving DecidableEq

inductive Request where
  | start (owner : UInt64) (sequenceId : Int) (code : List Char)
  | status (owner : UInt64) (sequenceId : Int)
  | abort
  | abortForRelease
  | retireOwner (owner : UInt64)
  | run (generation : UInt32)
  | taskTurn
  deriving DecidableEq

inductive Reply where
  | returned
  | admission (result : AdmissionResult)
  | status (status : Option Status)
  | safe (safe : Bool)
  deriving DecidableEq

def Request.call : Request → Call Reply
  | .start owner sequenceId code => return .admission (← Sequence.start owner sequenceId code)
  | .status owner sequenceId => return .status (← Sequence.status owner sequenceId)
  | .abort => do
      Sequence.abort
      return .returned
  | .abortForRelease => return .safe (← Sequence.abortForRelease)
  | .retireOwner owner => do
      Sequence.retireOwner owner
      return .returned
  | .run generation => do
      Sequence.run generation
      return .returned
  | .taskTurn => do
      Sequence.taskTurn
      return .returned

/-- A request and the answers that its call will get. -/
abbrev Invocation := Request × List Answer

/-- No reply stands for a call that was cut. -/
def program (_ : Task) (invocation : Invocation) : Program Words (Option Reply) :=
  invocation.1.call.withScript invocation.2

abbrev Runs := Config Task Words Invocation (Option Reply)

end HidBot.Sequence
