import HidBot.Usb.Control

/-!
# What each USB task relies on and guarantees around a runtime fault

`Inv` is the shared invariant. The frames say what a task may assume of the
others between its accesses, the guarantees what it promises them. Until a
fault is accepted the reporter runs alone against control requests; afterwards
the lifecycle is sealed and no request of the control task changes it.
-/

namespace HidBot.UsbControl

open Interleaving UsbLifecycle

namespace State

variable (state : State)

def FaultAccepted : Prop := state.faultStage ≠ .none

def FaultReported : Prop := state.faultReason ≠ .none

/-- The recorded error is the runtime fault. -/
def ErrorRecorded : Prop :=
  state.usb.lastErrorPresent = true ∧ state.usb.lastErrorOperation = .runtime

/-- Neither request can be accepted: hidden, and absent only with recovery due. -/
def Sealed : Prop :=
  state.usb.state.desired = .hidden ∧
    (state.usb.state.observed = .driverNotInstalled → state.usb.state.recoveryRequired = true)

/-- The action in process and the queued ones. -/
def outstanding : List LifecycleAction := state.current.toList ++ state.queue

def isDetach (action : LifecycleAction) : Bool := action.kind = .uninstall

/-- The control task holds the detach claim and has not queued its action. -/
def OwnsDetach : Prop :=
  state.activeOperation = .usbDetach ∧ ∀ action ∈ state.outstanding, action.kind ≠ .uninstall

/-- The executor owes no update of the error record. -/
def ErrorSettled : Prop :=
  state.faultStage = .signalled → state.ErrorRecorded ∨ state.wakePending = true

structure Inv : Prop where
  pending : state.usb.runtimeFaultPending = true → state.FaultReported
  accepted : state.FaultAccepted → state.usb.runtimeFaultPending = true ∧ state.Sealed
  operation : ∀ action ∈ state.outstanding, action.operation = operationFor action.kind
  uninstall : ∀ action ∈ state.outstanding, action.kind = .uninstall →
    ¬state.FaultReported ∧ state.activeOperation = .usbDetach
  single : state.outstanding.countP isDetach ≤ 1
  completed : state.faultCompleted = true →
    state.usb.state.recoveryRequired = true ∧ state.FaultAccepted

end State

/-! ### Frames -/

/-- What stays for the control task. -/
structure ControlFrame (before after : State) : Prop where
  accepted : after.FaultAccepted ↔ before.FaultAccepted
  reported : after.FaultReported ↔ before.FaultReported
  owned : before.OwnsDetach → ¬before.FaultReported → after.OwnsDetach

/-- What stays for the executor. `alone` marks a step that no first fault report
overlaps. -/
structure ExecutorFrame (alone : Bool) (before after : State) : Prop where
  current : after.current = before.current
  completed : after.faultCompleted = before.faultCompleted
  accepted : before.FaultAccepted → after.FaultAccepted
  reported : before.FaultReported → after.FaultReported
  alone : alone = true → ¬before.FaultAccepted → after.FaultReported → before.FaultReported
  installed : before.usb.state.observed ≠ .driverNotInstalled →
    after.usb.state.observed ≠ .driverNotInstalled
  recovery : before.usb.state.recoveryRequired = true → after.usb.state.recoveryRequired = true
  wake : before.wakePending = true → after.wakePending = true
  signalled : after.faultStage = .signalled →
    before.faultStage = .signalled ∨ after.wakePending = true
  operation : before.FaultReported → before.usb.lastErrorOperation = .runtime →
    after.usb.lastErrorOperation = .runtime
  present : before.FaultReported → before.usb.lastErrorPresent = true →
    after.usb.lastErrorPresent = true

/-- What stays for a fault reporter. -/
structure ReporterFrame (id : Nat) (before after : State) : Prop where
  accepted : before.FaultAccepted → after.FaultAccepted
  reported : before.FaultReported → after.FaultReported
  pending : before.usb.runtimeFaultPending = true → after.usb.runtimeFaultPending = true
  stage : ¬before.FaultAccepted → after.faultStage = before.faultStage
  mine : before.faultStage = .accepted id → after.faultStage = .accepted id
  theirs : before.faultStage ≠ .accepted id → after.faultStage ≠ .accepted id
  fresh : ¬before.FaultAccepted → after.usb.runtimeFaultPending = before.usb.runtimeFaultPending
  claim : ¬before.FaultAccepted → before.activeOperation ≠ .usbDetach →
    after.activeOperation ≠ .usbDetach
  sealed : ¬before.FaultAccepted → before.FaultReported → before.Sealed → after.Sealed

/-- Interference that keeps the invariant and a frame. -/
def Within (frame : State → State → Prop) (before after : State) : Prop :=
  before.Inv → after.Inv ∧ frame before after

theorem ControlFrame.refl (state : State) : ControlFrame state state :=
  ⟨.rfl, .rfl, fun owned _ => owned⟩

theorem ControlFrame.trans {first second third : State} (one : ControlFrame first second)
    (two : ControlFrame second third) : ControlFrame first third where
  accepted := two.accepted.trans one.accepted
  reported := two.reported.trans one.reported
  owned := fun owned quiet =>
    two.owned (one.owned owned quiet) fun reported => quiet (one.reported.mp reported)

theorem ExecutorFrame.refl (alone : Bool) (state : State) : ExecutorFrame alone state state :=
  ⟨rfl, rfl, id, id, fun _ _ => id, id, id, id, .inl, fun _ => id, fun _ => id⟩

theorem ExecutorFrame.trans {alone : Bool} {first second third : State}
    (one : ExecutorFrame alone first second) (two : ExecutorFrame alone second third)
    (reports : second.FaultAccepted → second.FaultReported) :
    ExecutorFrame alone first third where
  current := two.current.trans one.current
  completed := two.completed.trans one.completed
  accepted := two.accepted ∘ one.accepted
  reported := two.reported ∘ one.reported
  alone := by
    intro step quiet reported
    by_cases middle : second.FaultAccepted
    · exact one.alone step quiet (reports middle)
    · exact one.alone step quiet (two.alone step middle reported)
  installed := two.installed ∘ one.installed
  recovery := two.recovery ∘ one.recovery
  wake := two.wake ∘ one.wake
  signalled := by
    intro signalled
    rcases two.signalled signalled with before | wake
    · exact (one.signalled before).imp id two.wake
    · exact .inr wake
  operation := fun reported operation =>
    two.operation (one.reported reported) (one.operation reported operation)
  present := fun reported present =>
    two.present (one.reported reported) (one.present reported present)

theorem ReporterFrame.refl (id : Nat) (state : State) : ReporterFrame id state state :=
  ⟨fun h => h, fun h => h, fun h => h, fun _ => rfl, fun h => h, fun h => h, fun _ => rfl,
    fun _ h => h, fun _ _ h => h⟩

theorem ReporterFrame.trans {id : Nat} {first second third : State}
    (one : ReporterFrame id first second) (two : ReporterFrame id second third) :
    ReporterFrame id first third := by
  have quiet : ¬first.FaultAccepted → ¬second.FaultAccepted := by
    intro quiet accepted
    exact quiet (by simpa only [State.FaultAccepted, one.stage quiet] using accepted)
  exact {
    accepted := two.accepted ∘ one.accepted
    reported := two.reported ∘ one.reported
    pending := two.pending ∘ one.pending
    stage := fun still => (two.stage (quiet still)).trans (one.stage still)
    mine := two.mine ∘ one.mine
    theirs := two.theirs ∘ one.theirs
    fresh := fun still => (two.fresh (quiet still)).trans (one.fresh still)
    claim := fun still claim => two.claim (quiet still) (one.claim still claim)
    sealed := fun still reported held =>
      two.sealed (quiet still) (one.reported reported) (one.sealed still reported held) }

theorem Within.refl {frame : State → State → Prop} (refl : ∀ state, frame state state)
    (state : State) : Within frame state state := fun inv => ⟨inv, refl state⟩

theorem Within.trans {frame : State → State → Prop}
    (trans : ∀ first second third : State, second.Inv → frame first second →
      frame second third → frame first third) {first second third : State}
    (one : Within frame first second) (two : Within frame second third) :
    Within frame first third := by
  intro inv
  obtain ⟨middle, frameOne⟩ := one inv
  obtain ⟨last, frameTwo⟩ := two middle
  exact ⟨last, trans _ _ _ middle frameOne frameTwo⟩

/-! ### Guarantees -/

/-- A control access: it touches the lifecycle words only before any report. -/
structure ControlGuar (before after : State) : Prop where
  stage : after.faultStage = before.faultStage
  reason : after.faultReason = before.faultReason
  completed : after.faultCompleted = before.faultCompleted
  current : after.current = before.current
  usb : before.FaultReported → after.usb = before.usb
  installed : before.usb.state.observed ≠ .driverNotInstalled →
    after.usb.state.observed ≠ .driverNotInstalled
  recovery : before.usb.state.recoveryRequired = true → after.usb.state.recoveryRequired = true
  wake : before.wakePending = true → after.wakePending = true

/-- A callback access: it moves the observed state of a present driver or the
generation. -/
structure CallbackGuar (before after : State) : Prop where
  rest : after = { before with usb := after.usb }
  error : after.usb.lastErrorPresent = before.usb.lastErrorPresent ∧
    after.usb.lastErrorOperation = before.usb.lastErrorOperation
  pending : after.usb.runtimeFaultPending = before.usb.runtimeFaultPending
  desired : after.usb.state.desired = before.usb.state.desired
  recovery : after.usb.state.recoveryRequired = before.usb.state.recoveryRequired
  installed : after.usb.state.observed = before.usb.state.observed ∨
    after.usb.state.observed ≠ .driverNotInstalled

/-- An executor access: it never claims, and it breaks no seal. -/
structure ExecutorGuar (before after : State) : Prop where
  stage : after.faultStage = before.faultStage
  reason : after.faultReason = before.faultReason
  pending : after.usb.runtimeFaultPending = before.usb.runtimeFaultPending
  claim : after.activeOperation = before.activeOperation ∨ after.activeOperation = .none
  sealed : before.FaultReported → before.Sealed → after.Sealed
  owned : before.OwnsDetach → ¬before.FaultReported → after.OwnsDetach

/-- A reporter access: it never reopens what a fault has closed. -/
structure ReporterGuar (id : Nat) (before after : State) : Prop where
  queue : after.queue = before.queue
  current : after.current = before.current
  claim : after.activeOperation = before.activeOperation
  completed : after.faultCompleted = before.faultCompleted
  reported : before.FaultReported → after.FaultReported
  pending : before.usb.runtimeFaultPending = true → after.usb.runtimeFaultPending = true
  stage : after.faultStage = before.faultStage ∨
    (before.faultStage = .none ∧ after.faultStage = .accepted id) ∨
    (before.faultStage = .accepted id ∧ after.faultStage = .signalled ∧ after.wakePending = true)
  installed : before.usb.state.observed ≠ .driverNotInstalled →
    after.usb.state.observed ≠ .driverNotInstalled
  recovery : after.usb.state.recoveryRequired = before.usb.state.recoveryRequired
  wake : before.wakePending = true → after.wakePending = true
  operation : before.usb.lastErrorOperation = .runtime → after.usb.lastErrorOperation = .runtime
  present : before.usb.lastErrorPresent = true → after.usb.lastErrorPresent = true

/-! ### Compatibility of guarantees and frames -/

section Compatible

variable {before after : State}

theorem State.Inv.reported_of_accepted {state : State} (inv : state.Inv)
    (accepted : state.FaultAccepted) : state.FaultReported :=
  inv.pending (inv.accepted accepted).1

theorem ControlGuar.executorFrame (guar : ControlGuar before after) (alone : Bool) :
    ExecutorFrame alone before after where
  current := guar.current
  completed := guar.completed
  accepted := by simp only [State.FaultAccepted, guar.stage, imp_self]
  reported := by simp only [State.FaultReported, guar.reason, imp_self]
  alone := by simp only [State.FaultReported, guar.reason, imp_self, implies_true]
  installed := guar.installed
  recovery := guar.recovery
  wake := guar.wake
  signalled := fun signalled => .inl (guar.stage ▸ signalled)
  operation := fun reported held => by rw [guar.usb reported]; exact held
  present := fun reported held => by rw [guar.usb reported]; exact held

theorem ControlGuar.reporterFrame (guar : ControlGuar before after) (id : Nat) (inv : before.Inv)
    (accepted : before.FaultAccepted) : ReporterFrame id before after where
  accepted := by simp only [State.FaultAccepted, guar.stage, imp_self]
  reported := by simp only [State.FaultReported, guar.reason, imp_self]
  pending := by rw [guar.usb (inv.reported_of_accepted accepted)]; exact fun held => held
  stage := fun _ => guar.stage
  mine := by rw [guar.stage]; exact fun held => held
  theirs := by rw [guar.stage]; exact fun held => held
  fresh := fun still => absurd accepted still
  claim := fun still => absurd accepted still
  sealed := fun still => absurd accepted still

theorem CallbackGuar.controlFrame (guar : CallbackGuar before after) :
    ControlFrame before after := by
  rw [guar.rest]
  exact ⟨.rfl, .rfl, fun owned _ => owned⟩

theorem CallbackGuar.executorFrame (guar : CallbackGuar before after) (alone : Bool) :
    ExecutorFrame alone before after := by
  have installed := guar.installed
  obtain ⟨present, operation⟩ := guar.error
  have recovery := guar.recovery
  rw [guar.rest]
  exact {
    current := rfl
    completed := rfl
    accepted := fun held => held
    reported := fun held => held
    alone := fun _ _ held => held
    installed := fun held => by
      rcases installed with same | moved
      · exact same ▸ held
      · exact moved
    recovery := fun held => recovery.trans held
    wake := fun held => held
    signalled := .inl
    operation := fun _ held => operation.trans held
    present := fun _ held => present.trans held }

theorem State.Sealed.of_callback (held : before.Sealed) (guar : CallbackGuar before after) :
    after.Sealed := by
  refine ⟨guar.desired.trans held.1, fun absent => ?_⟩
  rcases guar.installed with same | moved
  · exact guar.recovery.trans (held.2 (same ▸ absent))
  · exact absurd absent moved

theorem CallbackGuar.reporterFrame (guar : CallbackGuar before after) (id : Nat) :
    ReporterFrame id before after where
  accepted := by rw [guar.rest]; exact fun held => held
  reported := by rw [guar.rest]; exact fun held => held
  pending := guar.pending.trans
  stage := fun _ => by rw [guar.rest]
  mine := by rw [guar.rest]; exact fun held => held
  theirs := by rw [guar.rest]; exact fun held => held
  fresh := fun _ => guar.pending
  claim := by rw [guar.rest]; exact fun _ held => held
  sealed := fun _ _ held => held.of_callback guar

theorem ExecutorGuar.controlFrame (guar : ExecutorGuar before after) :
    ControlFrame before after where
  accepted := by rw [State.FaultAccepted, State.FaultAccepted, guar.stage]
  reported := by rw [State.FaultReported, State.FaultReported, guar.reason]
  owned := guar.owned

theorem ExecutorGuar.reporterFrame (guar : ExecutorGuar before after) (id : Nat) :
    ReporterFrame id before after where
  accepted := by simp only [State.FaultAccepted, guar.stage, imp_self]
  reported := by simp only [State.FaultReported, guar.reason, imp_self]
  pending := guar.pending.trans
  stage := fun _ => guar.stage
  mine := by rw [guar.stage]; exact fun held => held
  theirs := by rw [guar.stage]; exact fun held => held
  fresh := fun _ => guar.pending
  claim := by
    intro _ other claimed
    rcases guar.claim with same | cleared
    · exact other (same ▸ claimed)
    · simp [cleared] at claimed
  sealed := fun _ => guar.sealed

theorem ReporterGuar.accepted {id : Nat} (guar : ReporterGuar id before after)
    (accepted : before.FaultAccepted) : after.FaultAccepted := by
  rcases guar.stage with same | ⟨_, moved⟩ | ⟨_, moved, _⟩
  · rw [State.FaultAccepted, same]; exact accepted
  · simp [State.FaultAccepted, moved]
  · simp [State.FaultAccepted, moved]

theorem ReporterGuar.controlFrame {id : Nat} (guar : ReporterGuar id before after)
    (inv : before.Inv) (accepted : before.FaultAccepted) : ControlFrame before after where
  accepted := ⟨fun _ => accepted, guar.accepted⟩
  reported := ⟨fun _ => inv.reported_of_accepted accepted, guar.reported⟩
  owned := fun _ quiet => absurd (inv.reported_of_accepted accepted) quiet

theorem ReporterGuar.executorFrame {id : Nat} (guar : ReporterGuar id before after)
    {alone : Bool} (overlaps : alone = true → before.FaultAccepted) :
    ExecutorFrame alone before after where
  current := guar.current
  completed := guar.completed
  accepted := guar.accepted
  reported := guar.reported
  alone := fun single quiet => absurd (overlaps single) quiet
  installed := guar.installed
  recovery := guar.recovery.trans
  wake := guar.wake
  signalled := by
    intro signalled
    rcases guar.stage with same | ⟨_, moved⟩ | ⟨_, _, wake⟩
    · exact .inl (same ▸ signalled)
    · simp [moved] at signalled
    · exact .inr wake
  operation := fun _ => guar.operation
  present := fun _ => guar.present

theorem ReporterGuar.reporterFrame {id other : Nat} (guar : ReporterGuar id before after)
    (different : id ≠ other) (accepted : before.FaultAccepted) :
    ReporterFrame other before after where
  accepted := guar.accepted
  reported := guar.reported
  pending := guar.pending
  stage := fun still => absurd accepted still
  mine := by
    intro mine
    rcases guar.stage with same | ⟨none, _⟩ | ⟨theirs, _⟩
    · exact same.trans mine
    · simp [none] at mine
    · rw [theirs, FaultStage.accepted.injEq] at mine
      exact absurd mine different
  theirs := by
    intro other mine
    rcases guar.stage with same | ⟨_, moved⟩ | ⟨_, moved, _⟩
    · exact other (same.symm.trans mine)
    · rw [moved, FaultStage.accepted.injEq] at mine
      exact different mine
    · simp [moved] at mine
  fresh := fun still => absurd accepted still
  claim := fun still => absurd accepted still
  sealed := fun still => absurd accepted still

end Compatible

/-! ### The contract -/

/-- An executor step that a first fault report must not overlap. -/
def Operation.alone : Operation → Bool
  | .processNext environment => environment.install.kind = .cleanInstallFailure
  | _ => false

def frame : Task → Operation → State → State → Prop
  | .control, _ => ControlFrame
  | .executor, operation => ExecutorFrame operation.alone
  | .callback, _ => fun _ _ => True
  | .reporter id, _ => ReporterFrame id

def guarantee : Task → State → State → Prop
  | .control => ControlGuar
  | .executor => ExecutorGuar
  | .callback => CallbackGuar
  | .reporter id => ReporterGuar id

/-- An accepted fault refuses requests, leaves the error settled and is owed to
nobody once its reporter has returned. -/
def promised : Task → Response → State → Prop
  | .control, response, state => ∀ outcome, response = .outcome outcome →
      state.FaultAccepted → outcome.actionResult ≠ .accepted
  | .executor, _, state => state.ErrorSettled
  | .callback, _, _ => True
  | .reporter id, _, state => state.FaultAccepted ∧ state.faultStage ≠ .accepted id

theorem frame_refl (task : Task) (operation : Operation) (state : State) :
    frame task operation state state := by
  cases task with
  | control => exact .refl state
  | executor => exact .refl _ state
  | callback => trivial
  | reporter id => exact .refl id state

theorem frame_trans (task : Task) (operation : Operation) {first second third : State}
    (middle : second.Inv) (one : frame task operation first second)
    (two : frame task operation second third) : frame task operation first third := by
  cases task with
  | control => exact ControlFrame.trans one two
  | executor => exact ExecutorFrame.trans one two middle.reported_of_accepted
  | callback => trivial
  | reporter id => exact ReporterFrame.trans one two

def contract : Contract Task State Operation Response where
  rely task operation := Within (frame task operation)
  guar task _ := Within (guarantee task)
  post task _ response state := state.Inv → promised task response state
  refl task operation := .refl (frame_refl task operation)
  trans task operation _ _ _ one two := by
    refine Within.trans ?_ one two
    exact fun _ _ _ middle => frame_trans task operation middle

/-- A judged call keeps the contract once its result is wrapped. -/
theorem kept_of_safe {α : Type} {task : Task} {operation : Operation} {call : Program State α}
    {wrap : α → Response} {post : α → State → Prop} {state : State}
    (safe : call.Safe (Within (frame task operation)) (Within (guarantee task)) post state)
    (implied : ∀ result later, post result later → promised task (wrap result) later) :
    contract.Kept task operation (call >>= fun result => pure (wrap result)) state := by
  have wrapped : call.Safe (Within (frame task operation)) (Within (guarantee task))
      (fun result later => later.Inv → promised task (wrap result) later) state := by
    refine safe.mono ?_
    exact fun result later held _ => implied result later held
  exact Program.Safe.map wrap wrapped

end HidBot.UsbControl
