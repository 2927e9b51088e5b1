import HidBot.Usb.FaultExecutor
import HidBot.Usb.FaultRequests

/-!
# A USB runtime fault lasts until reboot

Runs of the USB tasks after a fault report has been accepted. The fault lasts in
every run in which the report meets no request in progress, no claimed detach
and no install that fails cleanly. A report that arrives while a detach is being
completed is undone by that completion.
-/

namespace HidBot.UsbControl

open Interleaving UsbLifecycle

/-! ### Runs -/

/-- Each call is made by its own task. -/
def ownCall (_ : Tasks) : Label Task Operation → Prop
  | .call task operation => operation.By task
  | .advance _ => True

/-- No fault reporter is in a call. -/
def Tasks.NoReporter (config : Tasks) : Prop :=
  ∀ id, config.running (.reporter id) = none

/-- The first report starts while no request is in progress, no detach holds the
claim and no install is failing cleanly, and none of these starts before the
report is accepted. -/
def undisturbedReport (config : Tasks) : Label Task Operation → Prop
  | .call (.reporter _) _ => config.shared.FaultAccepted ∨
      config.running .control = none ∧ config.NoReporter ∧
        config.shared.activeOperation ≠ .usbDetach ∧
        ∀ operation call, config.running .executor = some (operation, call) →
          operation.alone = false
  | .call .control _ => config.shared.FaultAccepted ∨ config.NoReporter
  | .call .executor operation =>
      operation.alone = true → config.shared.FaultAccepted ∨ config.NoReporter
  | _ => True

def ownUndisturbed (config : Tasks) (label : Label Task Operation) : Prop :=
  ownCall config label ∧ undisturbedReport config label

/-- The invariant of every such run. -/
structure RunInv (config : Tasks) : Prop where
  conforms : contract.Conforms config
  inv : config.shared.Inv
  own : ∀ task operation call, config.running task = some (operation, call) → operation.By task
  quiet : ∀ id, ¬config.shared.FaultAccepted → config.running (.reporter id) ≠ none →
    config.running .control = none
  alone : ∀ id, ¬config.shared.FaultAccepted → config.running (.reporter id) ≠ none →
    ∀ operation call, config.running .executor = some (operation, call) → operation.alone = false
  single : ∀ id other, ¬config.shared.FaultAccepted → config.running (.reporter id) ≠ none →
    config.running (.reporter other) ≠ none → id = other
  fresh : ¬config.shared.FaultAccepted → config.NoReporter → ¬config.shared.FaultReported
  reporting : ∀ id, config.shared.faultStage = .accepted id → config.running (.reporter id) ≠ none
  settled : config.running .executor = none → config.shared.ErrorSettled

theorem runInv_boot : RunInv boot where
  conforms := Contract.conforms_initial _
  inv := by
    refine ⟨?_, ?_, ?_, ?_, ?_, ?_⟩ <;>
      simp [boot, Config.initial, State.FaultAccepted, State.outstanding]
  own := by simp [boot, Config.initial]
  quiet := by simp [boot, Config.initial]
  alone := by simp [boot, Config.initial]
  single := by simp [boot, Config.initial]
  fresh := by simp [boot, Config.initial, State.FaultReported]
  reporting := by simp [boot, Config.initial]
  settled := by simp [boot, Config.initial, State.ErrorSettled]

/-- A call that starts in such a run keeps its contract from its first access. -/
theorem RunInv.started {config : Tasks} (run : RunInv config) {task : Task}
    {operation : Operation} (admitted : ownUndisturbed config (.call task operation))
    (idle : config.running task = none) :
    contract.Kept task operation (program task operation) config.shared := by
  obtain ⟨own, undisturbed⟩ := admitted
  have quiet (still : config.shared.FaultAccepted ∨ config.NoReporter) :
      config.shared.FaultAccepted ∨ ¬config.shared.FaultReported := by
    by_cases accepted : config.shared.FaultAccepted
    · exact .inl accepted
    · exact .inr (run.fresh accepted (still.resolve_left accepted))
  cases operation with
  | requestAttach room =>
      obtain rfl := own
      refine kept_of_safe (safe_requestAttach room run.inv (quiet undisturbed)) ?_
      exact fun outcome later answered _ same => by cases same; exact answered
  | requestDetach room =>
      obtain rfl := own
      refine kept_of_safe (safe_requestDetach room run.inv (quiet undisturbed)) ?_
      exact fun outcome later answered _ same => by cases same; exact answered
  | cycleHead environment =>
      obtain rfl := own
      refine kept_of_safe (safe_cycleHead environment ?_) fun _ _ settled => settled
      exact ⟨run.inv, rfl, fun single => absurd single Bool.false_ne_true⟩
  | processNext environment =>
      obtain rfl := own
      refine kept_of_safe (safe_processNext environment ?_ ?_ (run.settled idle))
        fun _ _ settled => settled
      · simp [Operation.alone]
      · exact ⟨run.inv, rfl, fun single => quiet (undisturbed single)⟩
  | observeMount =>
      obtain rfl := own
      exact kept_of_safe (safe_observing observeMount_each _) fun _ _ _ => trivial
  | observeUnmount =>
      obtain rfl := own
      exact kept_of_safe (safe_observing observeUnmount_each _) fun _ _ _ => trivial
  | observeSuspend =>
      obtain rfl := own
      exact kept_of_safe (safe_observing observeSuspend_each _) fun _ _ _ => trivial
  | observeResume =>
      obtain rfl := own
      exact kept_of_safe (safe_observing observeResume_each _) fun _ _ _ => trivial
  | signalFault reason =>
      obtain ⟨id, rfl⟩ := own
      refine kept_of_safe ?_ fun _ _ later => later
      by_cases accepted : config.shared.FaultAccepted
      · exact safe_signal_later id reason run.inv ⟨accepted, fun mine =>
          run.reporting id mine idle⟩
      · obtain ⟨_, none, clear, _⟩ := undisturbed.resolve_left accepted
        refine safe_signal_first id reason run.inv accepted ?_ clear
        cases pending : config.shared.usb.runtimeFaultPending with
        | false => rfl
        | true => exact absurd (run.inv.pending pending) (run.fresh accepted none)

/-- Overlapping calls of such a run do not break each other's frames. -/
theorem RunInv.compatible {config : Tasks} (run : RunInv config) {task other : Task}
    {operation operation' : Operation} {call call' : Program State Response}
    (different : task ≠ other) (running : config.running task = some (operation, call))
    (running' : config.running other = some (operation', call')) {after : State}
    (guar : contract.guar task operation config.shared after) :
    contract.rely other operation' config.shared after := by
  intro inv
  obtain ⟨kept, guar⟩ := guar inv
  refine ⟨kept, ?_⟩
  -- A report beside a request, a step alone or another report is a later one.
  have request (id : Nat) (reporter : config.running (.reporter id) ≠ none)
      (control : config.running .control ≠ none) : config.shared.FaultAccepted := by
    by_contra still
    exact control (run.quiet id still reporter)
  cases task with
  | control =>
      have busy : config.running .control ≠ none := by simp [running]
      cases other with
      | control => exact absurd rfl different
      | executor => exact ControlGuar.executorFrame guar _
      | callback => trivial
      | reporter id =>
          exact ControlGuar.reporterFrame guar id inv (request id (by simp [running']) busy)
  | executor =>
      cases other with
      | control => exact ExecutorGuar.controlFrame guar
      | executor => exact absurd rfl different
      | callback => trivial
      | reporter id => exact ExecutorGuar.reporterFrame guar id
  | callback =>
      cases other with
      | control => exact CallbackGuar.controlFrame guar
      | executor => exact CallbackGuar.executorFrame guar _
      | callback => exact absurd rfl different
      | reporter id => exact CallbackGuar.reporterFrame guar id
  | reporter id =>
      have busy : config.running (.reporter id) ≠ none := by simp [running]
      cases other with
      | control =>
          exact ReporterGuar.controlFrame guar inv (request id busy (by simp [running']))
      | executor =>
          refine ReporterGuar.executorFrame guar fun alone => ?_
          by_contra still
          simp [run.alone id still busy _ _ running'] at alone
      | callback => trivial
      | reporter id' =>
          have other : id ≠ id' := fun same => different (congrArg Task.reporter same)
          refine ReporterGuar.reporterFrame guar other ?_
          by_contra still
          exact other (run.single id id' still busy (by simp [running']))

/-- No access undoes the acceptance of a fault. -/
theorem accepted_of_guarantee {task : Task} {before after : State}
    (guar : guarantee task before after) (accepted : before.FaultAccepted) :
    after.FaultAccepted := by
  cases task with
  | control => rw [State.FaultAccepted, ControlGuar.stage guar]; exact accepted
  | executor => rw [State.FaultAccepted, ExecutorGuar.stage guar]; exact accepted
  | callback => rw [CallbackGuar.rest guar]; exact accepted
  | reporter id => exact ReporterGuar.accepted guar accepted

theorem RunInv.call {config : Tasks} (run : RunInv config) {task : Task} {operation : Operation}
    (admitted : ownUndisturbed config (.call task operation)) (idle : config.running task = none)
    (conforms : contract.Conforms { config with
      running := Function.update config.running task
        (some (operation, program task operation)) }) :
    RunInv { config with
      running := Function.update config.running task
        (some (operation, program task operation)) } := by
  obtain ⟨own, undisturbed⟩ := admitted
  have reporter (id : Nat) (found : Function.update config.running task
      (some (operation, program task operation)) (.reporter id) ≠ none) :
      task = .reporter id ∨ config.running (.reporter id) ≠ none := by
    by_cases same : task = .reporter id
    · exact .inl same
    · rw [Function.update_of_ne (Ne.symm same)] at found
      exact .inr found
  have none (id : Nat) (started : task = .reporter id) (still : ¬config.shared.FaultAccepted) :
      config.running .control = none ∧ config.NoReporter ∧
        config.shared.activeOperation ≠ .usbDetach ∧
        ∀ operation call, config.running .executor = some (operation, call) →
          operation.alone = false := by
    subst started
    exact undisturbed.resolve_left still
  refine ⟨conforms, run.inv, ?_, ?_, ?_, ?_, ?_, ?_, ?_⟩
  · intro other operation' call found
    by_cases same : other = task
    · subst same
      simp only [Function.update_self, Option.some.injEq, Prod.mk.injEq] at found
      exact found.1 ▸ own
    · dsimp only at found
      rw [Function.update_of_ne same] at found
      exact run.own other operation' call found
  · intro id still found
    by_cases control : task = .control
    · subst control
      rcases reporter id found with absurd | busy
      · cases absurd
      · exact absurd (undisturbed.resolve_left still id) busy
    · dsimp only
      rw [Function.update_of_ne (Ne.symm control)]
      rcases reporter id found with started | busy
      · exact (none id started still).1
      · exact run.quiet id still busy
  · intro id still found operation' call executing
    by_cases executor : task = .executor
    · subst executor
      simp only [Function.update_self, Option.some.injEq, Prod.mk.injEq] at executing
      obtain ⟨rfl, rfl⟩ := executing
      rcases reporter id found with absurd | busy
      · cases absurd
      · cases alone : operation.alone with
        | false => rfl
        | true => exact absurd ((undisturbed alone).resolve_left still id) busy
    · dsimp only at executing
      rw [Function.update_of_ne (Ne.symm executor)] at executing
      rcases reporter id found with started | busy
      · exact (none id started still).2.2.2 operation' call executing
      · exact run.alone id still busy operation' call executing
  · intro id other still found found'
    rcases reporter id found with started | busy
    · rcases reporter other found' with started' | busy'
      · exact Task.reporter.inj (started.symm.trans started')
      · exact absurd ((none id started still).2.1 other) busy'
    · rcases reporter other found' with started' | busy'
      · exact absurd ((none other started' still).2.1 id) busy
      · exact run.single id other still busy busy'
  · intro still quiet
    refine run.fresh still fun id => ?_
    by_contra busy
    refine busy ?_
    have idle' := quiet id
    by_cases same : task = .reporter id
    · subst same
      exact idle
    · dsimp only at idle'
      rwa [Function.update_of_ne (Ne.symm same)] at idle'
  · intro id mine
    dsimp only
    by_cases same : .reporter id = task
    · subst same
      simp
    · rw [Function.update_of_ne same]
      exact run.reporting id mine
  · intro executor
    refine run.settled ?_
    by_cases same : .executor = task
    · subst same
      exact idle
    · dsimp only at executor
      rwa [Function.update_of_ne same] at executor

theorem RunInv.access {config : Tasks} (run : RunInv config) {task : Task}
    {operation : Operation} {call rest : Program State Response} {after : State}
    (running : config.running task = some (operation, call))
    (guar : contract.guar task operation config.shared after)
    (conforms : contract.Conforms { config with
      shared := after
      running := Function.update config.running task (some (operation, rest)) }) :
    RunInv { config with
      shared := after
      running := Function.update config.running task (some (operation, rest)) } := by
  obtain ⟨inv, guar⟩ := guar run.inv
  have accepted := accepted_of_guarantee guar
  have idle (other : Task) :
      Function.update config.running task (some (operation, rest)) other = none ↔
        config.running other = none := by
    by_cases same : other = task
    · subst same
      simp [running]
    · rw [Function.update_of_ne same]
  have made (other : Task) (operation' : Operation) (call' : Program State Response)
      (found : Function.update config.running task (some (operation, rest)) other =
        some (operation', call')) :
      ∃ before, config.running other = some (operation', before) := by
    by_cases same : other = task
    · subst same
      simp only [Function.update_self, Option.some.injEq, Prod.mk.injEq] at found
      exact ⟨call, found.1 ▸ running⟩
    · rw [Function.update_of_ne same] at found
      exact ⟨call', found⟩
  refine ⟨conforms, inv, ?_, ?_, ?_, ?_, ?_, ?_, ?_⟩
  · intro other operation' call' found
    obtain ⟨before, was⟩ := made other operation' call' found
    exact run.own other operation' before was
  · intro id still found
    exact (idle _).mpr (run.quiet id (fun was => still (accepted was))
      fun none => found ((idle _).mpr none))
  · intro id still found operation' call' executing
    obtain ⟨before, was⟩ := made _ operation' call' executing
    exact run.alone id (fun was => still (accepted was)) (fun none => found ((idle _).mpr none))
      operation' before was
  · intro id other still found found'
    exact run.single id other (fun was => still (accepted was))
      (fun none => found ((idle _).mpr none)) fun none => found' ((idle _).mpr none)
  · intro still none
    have before := run.fresh (fun was => still (accepted was)) fun id => (idle _).mp (none id)
    dsimp only [State.FaultReported] at before ⊢
    cases task with
    | control => rw [ControlGuar.reason guar]; exact before
    | executor => rw [ExecutorGuar.reason guar]; exact before
    | callback => rw [CallbackGuar.rest guar]; exact before
    | reporter id => exact absurd ((idle _).mp (none id)) (by simp [running])
  · intro id mine
    rw [ne_eq, idle]
    dsimp only at mine
    cases task with
    | control => exact run.reporting id (ControlGuar.stage guar ▸ mine)
    | executor => exact run.reporting id (ExecutorGuar.stage guar ▸ mine)
    | callback =>
        rw [CallbackGuar.rest guar] at mine
        exact run.reporting id mine
    | reporter other =>
        rcases ReporterGuar.stage guar with same | ⟨_, moved⟩ | ⟨_, moved, _⟩
        · exact run.reporting id (same ▸ mine)
        · rw [moved, FaultStage.accepted.injEq] at mine
          subst mine
          simp [running]
        · simp [moved] at mine
  · intro resting
    have before := run.settled ((idle _).mp resting)
    have frame : ExecutorFrame false config.shared after := by
      cases task with
      | control => exact ControlGuar.executorFrame guar false
      | executor => simp at resting
      | callback => exact CallbackGuar.executorFrame guar false
      | reporter id =>
          exact ReporterGuar.executorFrame guar fun alone => absurd alone Bool.false_ne_true
    exact frame.settled run.inv before

theorem RunInv.returned {config : Tasks} (run : RunInv config) {task : Task}
    {operation : Operation} {response : Response}
    (running : config.running task = some (operation, .done response))
    (conforms : contract.Conforms { config with
      running := Function.update config.running task none
      history := (task, operation, response) :: config.history }) :
    RunInv { config with
      running := Function.update config.running task none
      history := (task, operation, response) :: config.history } := by
  have kept := run.conforms.returned running run.inv
  have still (other : Task) (operation' : Operation) (call' : Program State Response)
      (found : Function.update config.running task none other = some (operation', call')) :
      config.running other = some (operation', call') := by
    by_cases same : other = task
    · subst same
      simp at found
    · rwa [Function.update_of_ne same] at found
  have busy (other : Task) (found : Function.update config.running task none other ≠ none) :
      config.running other ≠ none := by
    by_cases same : other = task
    · subst same
      simp at found
    · rwa [Function.update_of_ne same] at found
  have idle (other : Task) (none : config.running other = none) :
      Function.update config.running task Option.none other = Option.none := by
    by_cases same : other = task
    · subst same
      simp
    · rwa [Function.update_of_ne same]
  refine ⟨conforms, run.inv, ?_, ?_, ?_, ?_, ?_, ?_, ?_⟩
  · exact fun other operation' call' found => run.own _ _ _ (still _ _ _ found)
  · exact fun id first found => idle _ (run.quiet id first (busy _ found))
  · exact fun id first found operation' call' executing =>
      run.alone id first (busy _ found) _ _ (still _ _ _ executing)
  · exact fun id other first found found' => run.single id other first (busy _ found) (busy _ found')
  · intro first none
    cases task with
    | reporter id => exact absurd (kept : Later id config.shared).1 first
    | control | executor | callback =>
        refine run.fresh first fun id => ?_
        have none := none id
        dsimp only at none
        rwa [Function.update_of_ne (by simp)] at none
  · intro id mine
    dsimp only
    cases task with
    | reporter other =>
        have other : id ≠ other := by
          rintro rfl
          exact (kept : Later id config.shared).2 mine
        rw [Function.update_of_ne (by simpa using other)]
        exact run.reporting id mine
    | control | executor | callback =>
        rw [Function.update_of_ne (by simp)]
        exact run.reporting id mine
  · intro none
    cases task with
    | executor => exact kept
    | control | callback | reporter _ =>
        refine run.settled ?_
        dsimp only at none
        rwa [Function.update_of_ne (by simp)] at none

theorem RunInv.step {config next : Tasks} (run : RunInv config) {label : Label Task Operation}
    (admitted : ownUndisturbed config label) (stepped : config.step program label = some next) :
    RunInv next := by
  obtain ⟨conforms, -⟩ := run.conforms.step
    (fun task operation same idle => run.started (same ▸ admitted) idle)
    (fun _ _ _ _ _ _ _ _ different running running' after guar =>
      run.compatible different running running' guar) stepped
  rcases Config.step_cases stepped with
    ⟨task, operation, rfl, idle, rfl⟩ | ⟨task, operation, update, rest, rfl, running, rfl⟩ |
      ⟨task, operation, result, rfl, running, rfl⟩
  · exact run.call admitted idle conforms
  · exact run.access running (run.conforms _ _ _ running config.shared
      (contract.refl task operation config.shared)).1 conforms
  · exact run.returned running conforms

theorem runInv_of_reaches {config : Tasks} (reached : Reaches program ownUndisturbed boot config) :
    RunInv config :=
  reached.induct runInv_boot fun _ _ _ run admitted stepped => run.step admitted stepped

/-! ### What an accepted fault rules out -/

/-- A returned `request_attach` that was accepted. -/
def isAcceptedAttach : Task × Operation × Response → Bool
  | (_, .requestAttach _, .outcome outcome) => outcome.actionResult = .accepted
  | _ => false

def Tasks.acceptedAttaches (config : Tasks) : List (Task × Operation × Response) :=
  config.history.filter isAcceptedAttach

/-- Nothing is running, queued or about to wake the executor. -/
def Tasks.Quiescent (config : Tasks) : Prop :=
  config.Idle ∧ config.shared.queue = [] ∧ config.shared.wakePending = false

/-- The fault accepted in `early` still holds in `later`. -/
structure FaultHolds (early later : Tasks) : Prop where
  attaches : later.acceptedAttaches = early.acceptedAttaches
  hidden : later.shared.usb.state.desired = .hidden
  refuses : ∀ ready, ((acceptsHid ready).exec later.shared.usb).1 = false
  recorded : later.Quiescent → later.shared.ErrorRecorded
  recovery : later.shared.faultCompleted = true → later.shared.usb.state.recoveryRequired = true

/-- In every run under the policy an accepted fault holds from then on. -/
def FaultLasts (allowed : Tasks → Label Task Operation → Prop) : Prop :=
  ∀ early later : Tasks, Reaches program allowed boot early → early.shared.FaultAccepted →
    Reaches program allowed early later → FaultHolds early later

/-- An accepted fault survives a step, which answers no attach with accepted. -/
theorem RunInv.step_accepted {config next : Tasks} (run : RunInv config)
    {label : Label Task Operation} (admitted : ownUndisturbed config label)
    (stepped : config.step program label = some next) (accepted : config.shared.FaultAccepted) :
    next.shared.FaultAccepted ∧ next.acceptedAttaches = config.acceptedAttaches := by
  rcases Config.step_cases stepped with
    ⟨task, operation, rfl, idle, rfl⟩ | ⟨task, operation, update, rest, rfl, running, rfl⟩ |
      ⟨task, operation, response, rfl, running, rfl⟩
  · exact ⟨accepted, rfl⟩
  · have guar := (run.conforms _ _ _ running config.shared
      (contract.refl task operation config.shared)).1 run.inv
    exact ⟨accepted_of_guarantee guar.2 accepted, rfl⟩
  · refine ⟨accepted, ?_⟩
    have kept := run.conforms.returned running run.inv
    have own := run.own task operation _ running
    have other : isAcceptedAttach (task, operation, response) = false := by
      unfold isAcceptedAttach
      split
      · rename_i room outcome same
        obtain ⟨rfl, rfl, rfl⟩ : _ ∧ operation = .requestAttach room ∧
            response = .outcome outcome := by simpa using same
        obtain rfl := own
        simpa using kept outcome rfl accepted
      · rfl
    simp [Tasks.acceptedAttaches, other]

theorem faultHolds_of_runInv {early later : Tasks} (run : RunInv later)
    (accepted : later.shared.FaultAccepted)
    (attaches : later.acceptedAttaches = early.acceptedAttaches) : FaultHolds early later where
  attaches := attaches
  hidden := (run.inv.accepted accepted).2.1
  refuses := by
    intro ready
    have hidden := (run.inv.accepted accepted).2.1
    simp [acceptsHid, snapshot, Program.exec_map, hidden]
  recorded := by
    rintro ⟨idle, -, asleep⟩
    have signalled : later.shared.faultStage = .signalled := by
      cases stage : later.shared.faultStage with
      | none => exact absurd stage accepted
      | accepted id => exact absurd (idle (.reporter id)) (run.reporting id stage)
      | signalled => rfl
    rcases run.settled (idle .executor) signalled with recorded | wake
    · exact recorded
    · simp [asleep] at wake
  recovery := fun completed => (run.inv.completed completed).1

/-- **A runtime fault lasts** in every run in which its first report is undisturbed. -/
theorem fault_lasts_undisturbed {allowed : Tasks → Label Task Operation → Prop}
    (undisturbed : ∀ config label, allowed config label → ownUndisturbed config label) :
    FaultLasts allowed := by
  intro early later reached accepted continued
  have run := runInv_of_reaches (reached.mono undisturbed)
  suffices held : RunInv later ∧ later.shared.FaultAccepted ∧
      Tasks.acceptedAttaches later = Tasks.acceptedAttaches early from
    faultHolds_of_runInv held.1 held.2.1 held.2.2
  induction continued with
  | refl => exact ⟨run, accepted, rfl⟩
  | step label _ admitted stepped ih =>
      obtain ⟨run, accepted, attaches⟩ := ih
      have admitted := undisturbed _ _ admitted
      obtain ⟨still, same⟩ := run.step_accepted admitted stepped accepted
      exact ⟨run.step admitted stepped, still, same.trans attaches⟩

theorem fault_lasts_ownUndisturbed : FaultLasts ownUndisturbed :=
  fault_lasts_undisturbed fun _ _ admitted => admitted

/-! ### A fault reported during a detach -/

/-- Attach, install and detach; the executor checks the detach action, and the
fault is then reported and accepted. -/
def faultDuringDetach : List (Label Task Operation) :=
  .call .control (.requestAttach true) :: .replicate 17 (.advance .control) ++
  .call .executor (.processNext {}) :: .replicate 15 (.advance .executor) ++
  .call .control (.requestDetach true) :: .replicate 15 (.advance .control) ++
  .call .executor (.processNext {}) :: .replicate 9 (.advance .executor) ++
  .call (.reporter 0) (.signalFault .diagnostic) :: .replicate 11 (.advance (.reporter 0))

/-- The uninstall completes, and the next attach is accepted. -/
def attachAfterFault : List (Label Task Operation) :=
  .replicate 20 (.advance .executor) ++
  .call .control (.requestAttach true) :: .replicate 17 (.advance .control)

theorem ownCall_faultDuringDetach :
    ∀ label ∈ faultDuringDetach, ∀ config, ownCall config label := by
  simp [faultDuringDetach, ownCall, Operation.By, or_imp, forall_and]

theorem ownCall_attachAfterFault :
    ∀ label ∈ attachAfterFault, ∀ config, ownCall config label := by
  simp [attachAfterFault, ownCall, Operation.By, or_imp, forall_and]

theorem replay_faultDuringDetach :
    (replay program faultDuringDetach boot).map (·.shared.faultStage) = some .signalled := by
  rfl

theorem replay_attachAfterFault :
    (replay program (faultDuringDetach ++ attachAfterFault) boot).map
      (·.shared.usb.state.desired) = some .exposed := by
  rfl

/-- The completion of the detach undoes the fault: the device can be exposed again. -/
theorem fault_undone_by_detach : ¬FaultLasts ownCall := by
  intro lasts
  obtain ⟨early, replayed, stage⟩ := Option.map_eq_some_iff.mp replay_faultDuringDetach
  obtain ⟨later, replayed', exposed⟩ := Option.map_eq_some_iff.mp replay_attachAfterFault
  rw [replay_append, replayed, Option.bind_some] at replayed'
  have holds := lasts early later (.of_replay ownCall_faultDuringDetach replayed)
    (by simp [State.FaultAccepted, stage]) (.of_replay ownCall_attachAfterFault replayed')
  simp [holds.hidden] at exposed

end HidBot.UsbControl
