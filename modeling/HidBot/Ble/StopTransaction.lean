import HidBot.Interleaving.Tagged
import HidBot.Interleaving.Tally

/-!
# Stop transactions

`stop_transaction.hpp`, and what `ble_transport.cpp` does with it. The control owner begins
a request to stop the Bluetooth stack, a worker stops it, and the owner consumes the request
or lets it expire. Identity and status share one word. The owner is one task; workers can be
any number, each with the identity that it has found when it was started.
-/

namespace HidBot.StopTransaction

open Interleaving

abbrev Id := UInt64

inductive StopStatus where
  | idle
  | running
  | stopped
  | consumed
  | taskFailure
  | hostStopFailure
  | hostExitFailure
  | deinitFailure
  | timerFailure
  | expired
  | wrongOwner
  deriving DecidableEq

namespace StopStatus

def code : StopStatus → UInt8
  | idle => 0
  | running => 1
  | stopped => 2
  | consumed => 3
  | taskFailure => 4
  | hostStopFailure => 5
  | hostExitFailure => 6
  | deinitFailure => 7
  | timerFailure => 8
  | expired => 9
  | wrongOwner => 10

def all : List StopStatus :=
  [idle, running, stopped, consumed, taskFailure, hostStopFailure, hostExitFailure, deinitFailure,
    timerFailure, expired, wrongOwner]

def ofCode (code : UInt8) : Option StopStatus := all.find? (·.code = code)

theorem ofCode_code (status : StopStatus) : ofCode status.code = some status := by
  cases status <;> rfl

end StopStatus

/-! ### The word -/

def maxId : Id := Tagged.maxNumber

def pack (id : Id) (status : StopStatus) : UInt64 := Tagged.tagged id status.code

def unpack (value : UInt64) : Option StopStatus := StopStatus.ofCode (Tagged.tag value)

section Words

variable {id : Id} {status : StopStatus}

theorem pack_id (small : id ≤ maxId) : pack id status >>> 8 = id := Tagged.number_tagged small

theorem unpack_pack (small : id ≤ maxId) : unpack (pack id status) = some status := by
  rw [unpack, pack, Tagged.tag_tagged small, StopStatus.ofCode_code]

theorem pack_inj {other : Id} {result : StopStatus} (small : id ≤ maxId) (less : other ≤ maxId) :
    pack id status = pack other result ↔ id = other ∧ status = result := by
  refine ⟨fun same => ?_, fun both => both.1 ▸ both.2 ▸ rfl⟩
  obtain ⟨sameId, sameCode⟩ := (Tagged.tagged_inj small less).mp same
  refine ⟨sameId, Option.some.inj ?_⟩
  rw [← StopStatus.ofCode_code status, sameCode, StopStatus.ofCode_code]

end Words

/-! ### The shared state -/

/-- The steps of `run_stop_sequence`. -/
inductive StopStep where
  | hostStop
  | awaitHostExit
  | deleteHostTask
  | deinitialize
  | retireTimers
  deriving DecidableEq

/-- What a run remembers for the statements about it: the changes of the word, and the
steps that a worker has done for the request it holds. -/
inductive Event where
  | begun (id : Id)
  | performed (worker : Nat) (id : Id) (step : StopStep)
  | completed (id : Id) (result : StopStatus)
  | expired (id : Id)
  | consumed (id : Id)
  deriving DecidableEq

structure State where
  value : UInt64 := 0
  nextId : Id := 1
  stopWorkerId : Id := 0
  /-- The latest event first. -/
  log : List Event := []

/-- `compare_exchange_strong`, with what the run remembers of it. -/
def exchange (expected desired : UInt64) (event : Event) : Program State Bool :=
  .readModifyWrite fun state =>
    if state.value = expected then
      (true, { state with value := desired, log := event :: state.log })
    else (false, state)

/-! ### The transaction -/

def begin : Program State Id := do
  let observed ← .read (·.value)
  let phase := unpack observed
  let id ← .read (·.nextId)
  if phase ≠ some .idle ∧ phase ≠ some .consumed ∨ id = 0 ∨ id > maxId then return 0
  .write fun state => { state with nextId := id + 1 }
  if ← exchange observed (pack id .running) (.begun id) then return id else return 0

def complete (id : Id) (result : StopStatus) : Program State Bool :=
  if id = 0 ∨ id > maxId ∨ result.code < StopStatus.stopped.code ∨ result = .consumed ∨
      result.code ≥ StopStatus.expired.code then
    return false
  else exchange (pack id .running) (pack id result) (.completed id result)

/-- The loop of `expire`, on a value of the word and the weak exchanges that fail for no
reason. `none` is a call that is still in its loop. -/
def expireLoop (id : Id) : List Bool → UInt64 → Program State (Option Bool)
  | [], _ => return none
  | spurious :: rest, observed =>
      if observed >>> 8 = id ∧
          (unpack observed = some .running ∨ unpack observed = some .stopped) then do
        let found ← .readModifyWrite fun state =>
          if state.value = observed ∧ spurious = false then
            (none, { state with value := pack id .expired, log := .expired id :: state.log })
          else (some state.value, state)
        match found with
        | none => return some true
        | some again => expireLoop id rest again
      else return some false

def expire (id : Id) (spurious : List Bool) : Program State (Option Bool) := do
  if id = 0 ∨ id > maxId then return some false
  expireLoop id spurious (← .read (·.value))

def consume (id : Id) : Program State Bool :=
  if id = 0 ∨ id > maxId then return false
  else exchange (pack id .stopped) (pack id .consumed) (.consumed id)

def status (id : Id) : Program State (Option StopStatus) := do
  let observed ← .read (·.value)
  return if id ≠ 0 ∧ id ≤ maxId ∧ observed >>> 8 = id then unpack observed else some .wrongOwner

def initializationAllowed : Program State Bool := do
  let status := unpack (← .read (·.value))
  return status = some .idle ∨ status = some .consumed

/-- What `drive_profile_selection` does with the request of a selection: it waits, fails the
selection, or goes on to initialize the stack. -/
def driveProfileSelection (profileStopId : Id) : Program State (Option Bool) := do
  if profileStopId = 0 then return none
  let found ← status profileStopId
  if found = some .running then return none
  if found ≠ some .stopped then return some false
  return some (← consume profileStopId)

/-! ### The stop sequence -/

/-- What the steps of the sequence that can fail come to. -/
structure StopOperations where
  hostStop : Bool
  awaitHostExit : Bool
  deinitialize : Bool
  retireTimers : Bool

def perform (worker : Nat) (id : Id) (step : StopStep) : Program State Unit :=
  .write fun state => { state with log := .performed worker id step :: state.log }

def runStopSequence (worker : Nat) (id : Id) (operations : StopOperations) :
    Program State StopStatus := do
  if !operations.hostStop then return .hostStopFailure
  perform worker id .hostStop
  if !operations.awaitHostExit then return .hostExitFailure
  perform worker id .awaitHostExit
  perform worker id .deleteHostTask
  if ! operations.deinitialize then return .deinitFailure
  perform worker id StopStep.deinitialize
  if !operations.retireTimers then return .timerFailure
  perform worker id .retireTimers
  return .stopped

/-- `stop_task` from where it has its identity on. -/
def stopTaskOf (worker : Nat) (id : Id) (operations : StopOperations) : Program State Bool := do
  complete id (← runStopSequence worker id operations)

def stopTask (worker : Nat) (operations : StopOperations) : Program State Bool := do
  stopTaskOf worker (← .read (·.stopWorkerId)) operations

/-- `begin_stop`, where `ready` are its other preconditions and `created` is whether the
task of the worker could be created. -/
def beginStop (ready created : Bool) : Program State Id := do
  if !(← initializationAllowed) || !ready then return 0
  let id ← begin
  if id = 0 then return 0
  .write fun state => { state with stopWorkerId := id }
  if !created then
    let _ ← complete id .taskFailure
  return id

/-! ### Tasks -/

inductive Task where
  | owner
  | worker (number : Nat)
  deriving DecidableEq

/-- A worker by its number. -/
def Task.number : Task → Nat
  | owner => 0
  | worker number => number

inductive Operation where
  | begin
  | beginStop (ready created : Bool)
  | expire (id : Id) (spurious : List Bool)
  | consume (id : Id)
  | status (id : Id)
  | driveProfileSelection (profileStopId : Id)
  | initializationAllowed
  | stopTask (operations : StopOperations)
  /-- A worker that has had this identity all along. -/
  | stopTaskOf (id : Id) (operations : StopOperations)

def Operation.ofWorker : Operation → Bool
  | stopTask _ | stopTaskOf _ _ => true
  | begin | beginStop _ _ | expire _ _ | consume _ | status _ | driveProfileSelection _
  | initializationAllowed => false

inductive Answer where
  | id (id : Id)
  | flag (flag : Option Bool)
  | status (status : Option StopStatus)

def program (task : Task) : Operation → Program State Answer
  | .begin => return .id (← begin)
  | .beginStop ready created => return .id (← beginStop ready created)
  | .expire id spurious => return .flag (← expire id spurious)
  | .consume id => return .flag (some (← consume id))
  | .status id => return .status (← status id)
  | .driveProfileSelection profileStopId => return .flag (← driveProfileSelection profileStopId)
  | .initializationAllowed => return .flag (some (← initializationAllowed))
  | .stopTask operations => return .flag (some (← stopTask task.number operations))
  | .stopTaskOf id operations => return .flag (some (← stopTaskOf task.number id operations))

/-- The owner begins, consumes and asks; workers stop. -/
def Admitted (_ : Config Task State Operation Answer) : Label Task Operation → Prop
  | .call .owner operation => operation.ofWorker = false
  | .call (.worker _) operation => operation.ofWorker = true
  | .advance _ => True

end HidBot.StopTransaction
