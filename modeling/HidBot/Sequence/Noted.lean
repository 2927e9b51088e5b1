import HidBot.Interleaving.Logged
import HidBot.Sequence.Controller
import HidBot.Sequence.Held

/-!
# A run that notes what it does

The run of a sequence notes the operations it applies, the reports it submits, what it
waits for and the statuses it claims. The notes change nothing.
-/

namespace HidBot.Sequence

open Interleaving

/-! ### The run with notes -/

/-- What a run does, for the statements about it. -/
inductive Event where
  | applied (operation : Operation) (succeeded : Bool)
  | submitted (kind : OperationKind) (state : HidState)
  | waited (milliseconds : Nat)
  /-- The wait before a report that was busy is submitted again. -/
  | retried
  /-- The claim of a terminal status. -/
  | claimed (state : State)
  deriving DecidableEq

abbrev NotedCall := Logged Event Answer Words

namespace Noted

open Logged

/-- `executeReport`. -/
def executeReport (kind : OperationKind) (state : HidState) (failure : TerminalCode) :
    NotedCall (Bool × TerminalCode) := do
  let readinessDeadline := (← silent now) + milliseconds operationReadinessMs
  Logged.iterate (fun _ => do
    note (.submitted kind state)
    let result ← silent (submitReport kind state)
    if result = .accepted then
      return .inr (true, failure)
    if ← silent (readinessOver result readinessDeadline) then
      return .inr (false, result.failure)
    note .retried
    if ← silent (waitLocal 1) then return .inl () else return .inr (false, failure)) ()

/-- `waitLocal`, outside the loop of a report. -/
def waitLocal (duration : Nat) : NotedCall Bool := do
  note (.waited duration)
  silent (Sequence.waitLocal duration)

/-- `waitAfter`. -/
def waitAfter (accepted isLast : Bool) (defaultDelay : Nat) : NotedCall Bool :=
  if accepted && !isLast then waitLocal defaultDelay else return accepted

/-- `perform`. -/
def perform (operation : Operation) (isLast : Bool) (progress : Progress) :
    NotedCall (Bool × TerminalCode × Progress) :=
  if operation.kind = .defaultDelay then
    return (true, .none, { progress with defaultDelay := operation.value.toNat })
  else if operation.kind = .wait then do
    return (← waitLocal operation.value.toNat, .none, progress)
  else do
    let applied := applyTransition operation progress.current
    let current := applied.getD progress.current
    note (.applied operation applied.isSome)
    let (accepted, finalCode) ← executeReport operation.kind current .none
    return (← waitAfter accepted isLast progress.defaultDelay, finalCode, { progress with current })

/-- `claimTerminal`. -/
def claimTerminal (generation : UInt32) (verdict : Verdict) : NotedCall Bool := do
  let claimed ← silent (Sequence.claimTerminal generation verdict)
  if claimed then
    note (.claimed verdict.finalState)
    return true
  else return false

/-- `runOperations`. -/
def runOperations (generation : UInt32) :
    Nat → UInt8 → Progress → List Operation → NotedCall Verdict
  | _, executed, _, [] => return { executed }
  | index, executed, progress, operation :: rest => do
      match ← silent (interruption generation index executed) with
      | some verdict => return verdict
      | none =>
          let (complete, finalCode, progress) ← perform operation rest.isEmpty progress
          if !complete then
            silent (incompletion generation index executed finalCode)
          else
            match ← silent (interruption generation index executed) with
            | some verdict => return verdict
            | none =>
                let executed := UInt8.ofNat (index + 1)
                if rest = [] then
                  return { executed, terminalPublished := ← claimTerminal generation { executed } }
                else if ← silent (publishRunningProgress generation executed) then
                  runOperations generation (index + 1) executed progress rest
                else return { executed }

/-- `settle`. -/
def settle (generation : UInt32) (verdict : Verdict) : NotedCall Unit := do
  if !verdict.terminalPublished then
    if !isTerminal (← silent (.read (·.statusWord))) then
      let _ ← claimTerminal generation verdict

/-- `run`. -/
def run (generation : UInt32) : NotedCall Unit := do
  if (← silent (.read (·.statusGeneration))) ≠ generation then
    silent (endRun generation)
  else
    let (exchanged, observed) ←
      silent (exchangeStatus acceptedRecord.encode (runningRecord 0))
    if !exchanged then
      if (← silent (.read (·.statusGeneration))) = generation ∧
          decodeState observed = some .aborted ∧ decodeReleaseOwned observed = false then
        silent (callBackend .requestSafetyRelease)
      silent (endRun generation)
    else
      let plan ← silent (.read (·.plan))
      let verdict ← runOperations generation 0 0 { current := plan.initialState } plan.operations
      settle generation verdict
      silent (cleanUp generation)

/-! ### The notes change nothing -/

theorem erase_executeReport (kind : OperationKind) (state : HidState) (failure : TerminalCode) :
    (executeReport kind state failure).erase = Sequence.executeReport kind state failure := by
  simp [executeReport, Sequence.executeReport]

theorem erase_waitAfter (accepted isLast : Bool) (defaultDelay : Nat) :
    (waitAfter accepted isLast defaultDelay).erase =
      Sequence.waitAfter accepted isLast defaultDelay := by
  simp [waitAfter, Sequence.waitAfter, waitLocal]

theorem erase_perform (operation : Operation) (isLast : Bool) (progress : Progress) :
    (perform operation isLast progress).erase =
      Sequence.perform operation isLast progress := by
  simp [perform, Sequence.perform, waitLocal, erase_executeReport, erase_waitAfter]

theorem erase_claimTerminal (generation : UInt32) (verdict : Verdict) :
    (claimTerminal generation verdict).erase = Sequence.claimTerminal generation verdict := by
  have same (claimed : Bool) : (if claimed then pure true else pure false : Call Bool) =
      pure claimed := by
    cases claimed <;> rfl
  simp [claimTerminal, same]

theorem erase_runOperations (generation : UInt32) (index : Nat) (executed : UInt8)
    (progress : Progress) (operations : List Operation) :
    (runOperations generation index executed progress operations).erase =
      Sequence.runOperations generation index executed progress operations := by
  induction operations generalizing index executed progress with
  | nil => rfl
  | cons operation rest ih =>
      simp only [runOperations, Sequence.runOperations, erase_bind, erase_silent]
      congr 1
      funext stopped
      cases stopped with
      | some verdict => rfl
      | none =>
          simp only [erase_bind, erase_perform, erase_ite, erase_silent]
          congr 1
          funext ⟨complete, finalCode, progress⟩
          dsimp only
          congr 2
          funext stopped
          cases stopped with
          | some verdict => rfl
          | none => simp [erase_claimTerminal, ih]

theorem erase_settle (generation : UInt32) (verdict : Verdict) :
    (settle generation verdict).erase = Sequence.settle generation verdict := by
  simp [settle, Sequence.settle, erase_claimTerminal]

/-- The run with notes is the run. -/
theorem erase_run (generation : UInt32) : (run generation).erase = Sequence.run generation := by
  simp [run, Sequence.run, erase_runOperations, erase_settle]

end Noted

/-! ### What the notes say -/

/-- The operations that were applied. -/
def applied (log : List Event) : List Operation :=
  log.filterMap fun | .applied operation _ => some operation | _ => none

/-- The waits outside the loops of reports. -/
def waits (log : List Event) : List Nat :=
  log.filterMap fun | .waited milliseconds => some milliseconds | _ => none

/-- From these held inputs on, and after an operation of this kind, every operation is
applied with success, and every report carries the state after the operation. -/
def Faithful : Set Input → Option OperationKind → List Event → Prop
  | _, _, [] => True
  | held, _, .applied operation succeeded :: later =>
      succeeded = true ∧ Faithful (operation.hold held) (some operation.kind) later
  | held, last, .submitted kind state :: later =>
      last = some kind ∧ state.Ordered ∧ state.held = held ∧ Faithful held last later
  | held, last, .waited _ :: later => Faithful held last later
  | held, last, .retried :: later => Faithful held last later
  | held, last, .claimed _ :: later => Faithful held last later

theorem Faithful.weaken {held : Set Input} {log : List Event} (faithful : Faithful held none log)
    (last : Option OperationKind) : Faithful held last log := by
  induction log with
  | nil => trivial
  | cons event later ih =>
      cases event with
      | applied operation succeeded => exact faithful
      | submitted kind state => exact nomatch faithful.1
      | waited milliseconds => exact ih faithful
      | retried => exact ih faithful
      | claimed state => exact ih faithful

theorem Faithful.append {held : Set Input} {last : Option OperationKind} {log later : List Event}
    (faithful : Faithful held last log)
    (rest : Faithful (heldAfter held (applied log)) none later) :
    Faithful held last (log ++ later) := by
  induction log generalizing held last with
  | nil => exact rest.weaken last
  | cons event log ih =>
      cases event with
      | applied operation succeeded => exact ⟨faithful.1, ih faithful.2 rest⟩
      | submitted kind state =>
          exact ⟨faithful.1, faithful.2.1, faithful.2.2.1, ih faithful.2.2.2 rest⟩
      | waited milliseconds => exact ih faithful rest
      | retried => exact ih faithful rest
      | claimed state => exact ih faithful rest

theorem Faithful.succeeded {held : Set Input} {last : Option OperationKind} {log : List Event}
    (faithful : Faithful held last log) {operation : Operation} {succeeded : Bool}
    (member : .applied operation succeeded ∈ log) : succeeded = true := by
  induction log generalizing held last with
  | nil => cases member
  | cons event log ih =>
      rcases List.mem_cons.mp member with rfl | inside
      · exact faithful.1
      clear member
      cases event with
      | applied operation succeeded => exact ih faithful.2 inside
      | submitted kind state => exact ih faithful.2.2.2 inside
      | waited milliseconds => exact ih faithful inside
      | retried => exact ih faithful inside
      | claimed state => exact ih faithful inside

/-- A report, and what was applied before it. -/
theorem Faithful.sent {held : Set Input} {last : Option OperationKind} {earlier later : List Event}
    {kind : OperationKind} {state : HidState}
    (faithful : Faithful held last (earlier ++ .submitted kind state :: later)) :
    state.Ordered ∧ state.held = heldAfter held (applied earlier) ∧
      ((applied earlier).getLast?.map (·.kind)).or last = some kind := by
  induction earlier generalizing held last with
  | nil => exact ⟨faithful.2.1, faithful.2.2.1, faithful.1⟩
  | cons event earlier ih =>
      cases event with
      | applied operation succeeded =>
          obtain ⟨ordered, same, final⟩ := ih faithful.2
          refine ⟨ordered, same, ?_⟩
          have split : applied (.applied operation succeeded :: earlier) =
              operation :: applied earlier := rfl
          rw [split, List.getLast?_cons]
          cases found : (applied earlier).getLast? with
          | none => simpa [found] using final
          | some operation' => simpa [found] using final
      | submitted kind state => exact ih faithful.2.2.2
      | waited milliseconds => exact ih faithful
      | retried => exact ih faithful
      | claimed state => exact ih faithful

theorem applied_append (log later : List Event) :
    applied (log ++ later) = applied log ++ applied later := List.filterMap_append ..

theorem waits_append (log later : List Event) :
    waits (log ++ later) = waits log ++ waits later := List.filterMap_append ..

/-- The notes of the loop of a report. -/
def Reporting (kind : OperationKind) (state : HidState) (log : List Event) : Prop :=
  ∀ event ∈ log, event = .submitted kind state ∨ event = .retried

namespace Reporting

variable {kind : OperationKind} {state : HidState} {log : List Event}

theorem append {later : List Event} (one : Reporting kind state log)
    (two : Reporting kind state later) : Reporting kind state (log ++ later) :=
  List.forall_mem_append.mpr ⟨one, two⟩

theorem applied_eq (reporting : Reporting kind state log) : applied log = [] := by
  refine List.filterMap_eq_nil_iff.mpr fun event member => ?_
  rcases reporting event member with rfl | rfl <;> rfl

theorem waits_eq (reporting : Reporting kind state log) : waits log = [] := by
  refine List.filterMap_eq_nil_iff.mpr fun event member => ?_
  rcases reporting event member with rfl | rfl <;> rfl

theorem unclaimed (reporting : Reporting kind state log) (claim : State) :
    .claimed claim ∉ log := by
  intro member
  rcases reporting _ member with same | same <;> cases same

theorem faithful (reporting : Reporting kind state log) (ordered : state.Ordered) :
    Faithful state.held (some kind) log := by
  induction log with
  | nil => trivial
  | cons event log ih =>
      have later := ih fun event member => reporting event (List.mem_cons_of_mem _ member)
      rcases reporting event (List.mem_cons_self ..) with rfl | rfl
      · exact ⟨rfl, ordered, rfl, later⟩
      · exact later

end Reporting

end HidBot.Sequence
