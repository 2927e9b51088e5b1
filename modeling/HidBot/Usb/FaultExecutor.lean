import HidBot.Usb.FaultContract

/-!
# The executor keeps its side of the fault contract

Reconciliation settles the error record whenever a fault has been signalled. An
install that was under way when the fault arrived may still overwrite it, but
then the wake of the report is still pending. An uninstall runs only while no
fault has been reported.
-/

namespace HidBot.UsbControl

open Interleaving UsbLifecycle

variable {alone : Bool}

theorem ExecutorFrame.settled {before after : State} (frame : ExecutorFrame alone before after)
    (inv : before.Inv) (settled : before.ErrorSettled) : after.ErrorSettled := by
  intro signalled
  rcases frame.signalled signalled with was | wake
  · have reported : before.FaultReported := by
      apply inv.reported_of_accepted
      simp [State.FaultAccepted, was]
    rcases settled was with ⟨present, operation⟩ | wake
    · exact .inl ⟨frame.present reported present, frame.operation reported operation⟩
    · exact .inr (frame.wake wake)
  · exact .inr wake

theorem State.ErrorSettled.of_quiet {state : State} (inv : state.Inv)
    (quiet : ¬state.FaultReported) : state.ErrorSettled := by
  intro signalled
  have accepted : state.FaultAccepted := by simp [State.FaultAccepted, signalled]
  exact absurd (inv.reported_of_accepted accepted) quiet

theorem ExecutorGuar.refl (state : State) : ExecutorGuar state state :=
  ⟨rfl, rfl, rfl, .inl rfl, fun _ held => held, fun owned _ => owned⟩

/-- A write of the lifecycle words that respects an accepted fault. -/
theorem State.Inv.write_usb {state : State} (inv : state.Inv) {usb : Words}
    (pending : usb.runtimeFaultPending = state.usb.runtimeFaultPending)
    (accepted : state.FaultAccepted → ({ state with usb } : State).Sealed)
    (completed : state.faultCompleted = true → usb.state.recoveryRequired = true) :
    ({ state with usb } : State).Inv where
  pending := fun held => inv.pending (pending ▸ held)
  accepted := fun held => ⟨pending.trans (inv.accepted held).1, accepted held⟩
  operation := inv.operation
  uninstall := inv.uninstall
  single := inv.single
  completed := fun held => ⟨completed held, (inv.completed held).2⟩

theorem ExecutorGuar.write_usb {state : State} {usb : Words}
    (pending : usb.runtimeFaultPending = state.usb.runtimeFaultPending)
    (kept : state.FaultReported → state.Sealed → ({ state with usb } : State).Sealed) :
    ExecutorGuar state { state with usb } :=
  ⟨rfl, rfl, pending, .inl rfl, kept, fun owned _ => owned⟩

/-! ### Lifecycle calls that leave exposure and errors alone -/

/-- Two words that agree on exposure, recovery, the fault flag and the error. -/
structure SameExposure (before after : Words) : Prop where
  desired : after.state.desired = before.state.desired
  observed : after.state.observed = before.state.observed
  recovery : after.state.recoveryRequired = before.state.recoveryRequired
  pending : after.runtimeFaultPending = before.runtimeFaultPending
  present : after.lastErrorPresent = before.lastErrorPresent
  operation : after.lastErrorOperation = before.lastErrorOperation

theorem SameExposure.refl (words : Words) : SameExposure words words :=
  ⟨rfl, rfl, rfl, rfl, rfl, rfl⟩

theorem snapshot_each {step : Words → Words → Prop} (refl : ∀ words, step words words) :
    snapshot.Each step := by
  repeat refine Program.Each.bind (.read refl _) fun _ => ?_
  trivial

theorem runLifecycleDetachSafety_each (outcome : SafetyOutcome) :
    (runLifecycleDetachSafety outcome).Each SameExposure := by
  have pending : markReleasePending.Each SameExposure :=
    .write fun _ => ⟨rfl, rfl, rfl, rfl, rfl, rfl⟩
  have confirmed : markReleaseConfirmed.Each SameExposure :=
    .bind (.write fun _ => ⟨rfl, rfl, rfl, rfl, rfl, rfl⟩)
      fun _ => .write fun _ => ⟨rfl, rfl, rfl, rfl, rfl, rfl⟩
  have uncertain (generation : Generation) :
      (markReleaseUncertainForGeneration generation).Each SameExposure :=
    .bind (.write fun _ => ⟨rfl, rfl, rfl, rfl, rfl, rfl⟩)
      fun _ => .write fun _ => ⟨rfl, rfl, rfl, rfl, rfl, rfl⟩
  refine .bind (.read SameExposure.refl _) fun oldGeneration => ?_
  refine .bind (snapshot_each SameExposure.refl) fun lifecycle => ?_
  split
  · exact uncertain oldGeneration
  · cases outcome with
    | clean => exact confirmed
    | resolved => exact pending
    | timedOut => exact .bind pending fun _ => uncertain oldGeneration

theorem beginUninstall_each : beginUninstall.Each SameExposure := by
  have expected : uninstallExpected.Each SameExposure := by
    refine .bind (.read SameExposure.refl _) fun desired => ?_
    split
    · exact .bind (.read SameExposure.refl _) fun _ => trivial
    · trivial
  refine .bind expected fun due => ?_
  split
  · refine .bind (.readModifyWrite fun _ => ⟨rfl, rfl, rfl, rfl, rfl, rfl⟩) fun started => ?_
    cases started with
    | true => exact .read SameExposure.refl _
    | false =>
        exact .bind (.write fun _ => ⟨rfl, rfl, rfl, rfl, rfl, rfl⟩)
          fun _ => .read SameExposure.refl _
  · exact .read SameExposure.refl _

/-- The executor's assertion between accesses: its action, and no first report
beside a step that must run alone. -/
structure Busy (alone : Bool) (action : Option LifecycleAction) (state : State) : Prop where
  inv : state.Inv
  current : state.current = action
  apart : alone = true → state.FaultAccepted ∨ ¬state.FaultReported

/-- The same with a settled error. -/
structure Holding (alone : Bool) (action : Option LifecycleAction) (state : State) : Prop extends
    Busy alone action state where
  settled : state.ErrorSettled

theorem Busy.stable {action : Option LifecycleAction} {before after : State}
    (busy : Busy alone action before)
    (interfered : Within (ExecutorFrame alone) before after) :
    Busy alone action after ∧ ExecutorFrame alone before after := by
  obtain ⟨inv, frame⟩ := interfered busy.inv
  refine ⟨⟨inv, frame.current.trans busy.current, ?_⟩, frame⟩
  rintro rfl
  by_cases accepted : before.FaultAccepted
  · exact .inl (frame.accepted accepted)
  · exact .inr fun reported =>
      ((busy.apart rfl).resolve_left accepted) (frame.alone rfl accepted reported)

theorem Holding.stable {action : Option LifecycleAction} {before after : State}
    (holding : Holding alone action before)
    (interfered : Within (ExecutorFrame alone) before after) :
    Holding alone action after ∧ ExecutorFrame alone before after := by
  obtain ⟨busy, frame⟩ := holding.toBusy.stable interfered
  exact ⟨⟨busy, frame.settled holding.inv holding.settled⟩, frame⟩

/-- A write of the lifecycle words that leaves the error record alone. -/
theorem Holding.write_usb {action : Option LifecycleAction} {state : State} {usb : Words}
    (holding : Holding alone action state) (inv : ({ state with usb } : State).Inv)
    (present : usb.lastErrorPresent = state.usb.lastErrorPresent)
    (operation : usb.lastErrorOperation = state.usb.lastErrorOperation) :
    Holding alone action { state with usb } :=
  ⟨⟨inv, holding.current, holding.apart⟩, fun signalled => (holding.settled signalled).imp
    (fun held => ⟨present.trans held.1, operation.trans held.2⟩) id⟩

theorem SameExposure.sealed {state : State} {usb : Words} (same : SameExposure state.usb usb)
    (held : state.Sealed) : ({ state with usb } : State).Sealed :=
  ⟨same.desired.trans held.1, fun absent =>
    same.recovery.trans (held.2 (same.observed.symm.trans absent))⟩

theorem SameExposure.inv {state : State} {usb : Words} (same : SameExposure state.usb usb)
    (inv : state.Inv) : ({ state with usb } : State).Inv :=
  inv.write_usb same.pending (fun accepted => same.sealed (inv.accepted accepted).2)
    fun done => same.recovery.trans (inv.completed done).1

/-- Lifecycle calls that leave exposure and errors alone keep any assertion that
only adds stable facts to the executor's own. -/
theorem safe_sameExposure {α : Type} {action : Option LifecycleAction} {call : Program Words α}
    (each : call.Each SameExposure) {more : State → Prop}
    (stable : ∀ before after, before.Inv → more before → ExecutorFrame alone before after →
      more after)
    (kept : ∀ state usb, more state → SameExposure state.usb usb →
      more ({ state with usb } : State))
    {state : State} (holding : Holding alone action state) (also : more state) :
    (onUsb call).Safe (Within (ExecutorFrame alone)) (Within ExecutorGuar)
      (fun _ later => Holding alone action later ∧ more later) state := by
  have lifted : (onUsb call).Each fun before after =>
      ∃ usb, after = { before with usb } ∧ SameExposure before.usb usb :=
    each.zoom fun state after same => ⟨after, rfl, same⟩
  refine lifted.safe ?_ ?_ ⟨holding, also⟩
  · rintro before after ⟨holding, also⟩ interfered
    obtain ⟨later, frame⟩ := holding.stable interfered
    exact ⟨later, stable _ _ holding.inv also frame⟩
  · rintro before after ⟨holding, also⟩ ⟨usb, rfl, same⟩
    refine ⟨fun inv => ⟨same.inv inv, .write_usb same.pending fun _ => same.sealed⟩,
      holding.write_usb (same.inv holding.inv) same.present same.operation,
      kept _ _ also same⟩

/-! ### Reconciliation -/

/-- Recording the runtime error after a report settles the error record. -/
theorem safe_record_runtime {action : Option LifecycleAction} (code : Int32) {state : State}
    (busy : Busy alone action state) (reported : state.FaultReported) :
    (onUsb (recordError .runtime code)).Safe (Within (ExecutorFrame alone)) (Within ExecutorGuar)
      (fun _ later => Holding alone action later ∧ later.FaultReported) state := by
  have kept (state : State) (usb : Words) (same : usb.state = state.usb.state)
      (pending : usb.runtimeFaultPending = state.usb.runtimeFaultPending)
      (busy : Busy alone action state) :
      Within ExecutorGuar state { state with usb } ∧ Busy alone action { state with usb } := by
    have sealed (held : state.Sealed) : ({ state with usb } : State).Sealed := by
      simpa only [State.Sealed, same] using held
    have inv := busy.inv.write_usb pending (fun accepted => sealed (busy.inv.accepted accepted).2)
      fun done => by rw [same]; exact (busy.inv.completed done).1
    exact ⟨fun _ => ⟨inv, .write_usb pending fun _ => sealed⟩, inv, busy.current, busy.apart⟩
  simp only [recordError, onUsb_bind, onUsb_write]
  refine Program.Safe.writeThen fun first interfered => ?_
  obtain ⟨busy, frame⟩ := busy.stable interfered
  have reported := frame.reported reported
  obtain ⟨guar, busy⟩ := kept first { first.usb with lastErrorCode := code } rfl rfl busy
  refine ⟨guar, Program.Safe.writeThen fun second interfered => ?_⟩
  obtain ⟨busy, frame⟩ := busy.stable interfered
  have reported := frame.reported reported
  obtain ⟨guar, busy⟩ := kept second { second.usb with lastErrorOperation := .runtime } rfl rfl busy
  refine ⟨guar, fun third interfered => ?_⟩
  -- From here on the operation word says runtime, whatever the reporters add.
  obtain ⟨busy, frame⟩ := busy.stable interfered
  have operation := frame.operation reported rfl
  have reported := frame.reported reported
  obtain ⟨guar, busy⟩ := kept third { third.usb with lastErrorPresent := true } rfl rfl busy
  refine ⟨guar, fun last interfered => ?_⟩
  obtain ⟨after, frame⟩ := busy.stable interfered
  exact ⟨⟨after, frame.settled busy.inv fun _ => .inl ⟨rfl, operation⟩⟩, frame.reported reported⟩

theorem safe_updateRuntimeFault {action : Option LifecycleAction} (code : Int32) {state : State}
    (busy : Busy alone action state) (reported : state.FaultReported) :
    (onUsb (updateRuntimeFault code)).Safe (Within (ExecutorFrame alone)) (Within ExecutorGuar)
      (fun _ later => Holding alone action later ∧ later.FaultReported) state := by
  simp only [updateRuntimeFault, onUsb_bind, onUsb_read]
  refine Program.Safe.readThen fun later interfered => ?_
  obtain ⟨busy, frame⟩ := busy.stable interfered
  have reported := frame.reported reported
  refine ⟨fun inv => ⟨inv, .refl _⟩, ?_⟩
  by_cases pending : later.usb.runtimeFaultPending = true
  · rw [if_pos pending]
    exact safe_record_runtime code busy reported
  · rw [if_neg pending]
    intro last interfered
    have inv := busy.inv
    obtain ⟨after, frame⟩ := busy.stable interfered
    refine ⟨⟨after, frame.settled inv fun signalled => ?_⟩, frame.reported reported⟩
    -- A signalled fault is accepted, hence pending.
    have accepted : later.FaultAccepted := by simp [State.FaultAccepted, signalled]
    exact absurd (inv.accepted accepted).1 pending

/-- The reported fault leaves no detach outstanding, so the claim may go. -/
theorem State.Inv.drop_claim {state : State} (inv : state.Inv) (reported : state.FaultReported) :
    ({ state with activeOperation := .none } : State).Inv where
  pending := inv.pending
  accepted := inv.accepted
  operation := inv.operation
  uninstall := fun action member kind => absurd reported (inv.uninstall action member kind).1
  single := inv.single
  completed := inv.completed

theorem safe_completeRuntimeFault {action : Option LifecycleAction} (uninstalled : Bool)
    {state : State} (holding : Holding alone action state) (reported : state.FaultReported) :
    (onUsb (completeRuntimeFault uninstalled)).Safe (Within (ExecutorFrame alone))
      (Within ExecutorGuar)
      (fun _ later => (Holding alone action later ∧ later.FaultReported) ∧ (state.FaultAccepted →
        later.FaultAccepted ∧ later.usb.state.recoveryRequired = true)) state := by
  simp only [completeRuntimeFault, setRecoveryRequired, setObserved, writeState, onUsb_bind,
    onUsb_read, onUsb_write, onUsb_ite, onUsb_done, Program.pure_eq_done]
  refine Program.Safe.readThen fun first interfered => ?_
  obtain ⟨holding, frame⟩ := holding.stable interfered
  have accepted := frame.accepted
  have reported := frame.reported reported
  refine ⟨fun inv => ⟨inv, .refl _⟩, ?_⟩
  by_cases pending : first.usb.runtimeFaultPending = true
  · rw [if_pos pending]
    refine Program.Safe.writeThen fun second interfered => ?_
    obtain ⟨holding, frame⟩ := holding.stable interfered
    have accepted := frame.accepted ∘ accepted
    have reported := frame.reported reported
    have inv : ({ second with usb.state.recoveryRequired := true } : State).Inv :=
      holding.inv.write_usb rfl (fun accepted => ⟨(holding.inv.accepted accepted).2.1, fun _ => rfl⟩)
        fun _ => rfl
    refine ⟨fun _ => ⟨inv, .write_usb rfl fun _ held => ⟨held.1, fun _ => rfl⟩⟩, ?_⟩
    have holding := holding.write_usb inv rfl rfl
    cases uninstalled with
    | false =>
        intro last interfered
        obtain ⟨holding, frame⟩ := holding.stable interfered
        exact ⟨⟨holding, frame.reported reported⟩, fun was =>
          ⟨frame.accepted (accepted was), frame.recovery rfl⟩⟩
    | true =>
        intro third interfered
        obtain ⟨holding, frame⟩ := holding.stable interfered
        have accepted := frame.accepted ∘ accepted
        have reported := frame.reported reported
        have recovery := frame.recovery rfl
        have inv : ({ third with usb.state.observed := .driverNotInstalled } : State).Inv :=
          holding.inv.write_usb rfl
            (fun accepted => ⟨(holding.inv.accepted accepted).2.1, fun _ => recovery⟩)
            fun _ => recovery
        refine ⟨fun _ => ⟨inv, .write_usb rfl fun _ held => ⟨held.1, fun _ => recovery⟩⟩, ?_⟩
        intro last interfered
        obtain ⟨holding, frame⟩ := (holding.write_usb inv rfl rfl).stable interfered
        exact ⟨⟨holding, frame.reported reported⟩, fun was =>
          ⟨frame.accepted (accepted was), frame.recovery recovery⟩⟩
  · rw [if_neg pending]
    intro last interfered
    obtain ⟨after, frame⟩ := holding.stable interfered
    exact ⟨⟨after, frame.reported reported⟩, fun was =>
      absurd (holding.inv.accepted (accepted was)).1 pending⟩

theorem safe_commitRuntimeFault {action : Option LifecycleAction} (safety : SafetyOutcome)
    (teardown : BackendResult) {state : State} (holding : Holding alone action state)
    (reported : state.FaultReported) :
    (commitRuntimeFault safety teardown).Safe (Within (ExecutorFrame alone))
      (Within ExecutorGuar) (fun _ later => Holding alone action later) state := by
  have stable (before after : State) (_ : before.Inv) (held : before.FaultReported)
      (frame : ExecutorFrame alone before after) : after.FaultReported := frame.reported held
  unfold commitRuntimeFault
  refine Program.Safe.writeThen fun first interfered => ?_
  obtain ⟨⟨⟨inv, current, apart⟩, settled⟩, frame⟩ := holding.stable interfered
  have reported := frame.reported reported
  have committed : ({ first with faultCommitted := true } : State).Inv :=
    ⟨inv.pending, inv.accepted, inv.operation, inv.uninstall, inv.single, inv.completed⟩
  refine ⟨fun _ => ⟨committed, rfl, rfl, rfl, .inl rfl, fun _ held => held,
    fun owned _ => owned⟩, Program.Safe.writeThen fun second interfered => ?_⟩
  obtain ⟨⟨⟨inv, current, apart⟩, settled⟩, frame⟩ :=
    (show Holding alone action { first with faultCommitted := true } from
      ⟨⟨committed, current, apart⟩, settled⟩).stable interfered
  have reported := frame.reported reported
  have released := inv.drop_claim reported
  refine ⟨fun _ => ⟨released, rfl, rfl, rfl, .inr rfl, fun _ held => held,
    fun _ quiet => absurd reported quiet⟩, ?_⟩
  refine Program.Safe.bind (Within.refl (ExecutorFrame.refl alone)) ?_
  refine (safe_sameExposure (runLifecycleDetachSafety_each safety) stable
    (fun _ _ held _ => held) ⟨⟨released, current, apart⟩, settled⟩ reported).mono ?_
  rintro ⟨⟩ third ⟨holding, reported⟩
  refine Program.Safe.bind (Within.refl (ExecutorFrame.refl alone)) ?_
  refine (safe_sameExposure beginUninstall_each stable
    (fun _ _ held _ => held) holding reported).mono ?_
  rintro generation fourth ⟨holding, reported⟩
  refine Program.Safe.readThen fun fifth interfered => ?_
  obtain ⟨holding, frame⟩ := holding.stable interfered
  have reported := frame.reported reported
  refine ⟨fun inv => ⟨inv, .refl _⟩, ?_⟩
  refine Program.Safe.bind (Within.refl (ExecutorFrame.refl alone)) ?_
  refine (safe_completeRuntimeFault _ holding reported).mono ?_
  rintro ⟨⟩ sixth ⟨⟨holding, _⟩, recovery⟩
  split
  · rename_i accepted
    intro seventh interfered
    obtain ⟨⟨⟨inv, current, apart⟩, settled⟩, frame⟩ := holding.stable interfered
    obtain ⟨accepted, required⟩ := recovery accepted
    have inv : ({ seventh with faultCompleted := true } : State).Inv :=
      ⟨inv.pending, inv.accepted, inv.operation, inv.uninstall, inv.single,
        fun _ => ⟨frame.recovery required, frame.accepted accepted⟩⟩
    refine ⟨fun _ => ⟨inv, rfl, rfl, rfl, .inl rfl, fun _ held => held,
      fun owned _ => owned⟩, ?_⟩
    intro last interfered
    exact ((show Holding alone action { seventh with faultCompleted := true } from
      ⟨⟨inv, current, apart⟩, settled⟩).stable interfered).1
  · exact fun last interfered => (holding.stable interfered).1

/-- Reconciliation settles the error record, also where it was unsettled. -/
theorem safe_reconcileUsbRuntimeFault {action : Option LifecycleAction} (safety : SafetyOutcome)
    (teardown : BackendResult) {state : State} (busy : Busy alone action state) :
    (reconcileUsbRuntimeFault safety teardown).Safe (Within (ExecutorFrame alone))
      (Within ExecutorGuar) (fun _ later => Holding alone action later) state := by
  unfold reconcileUsbRuntimeFault
  refine Program.Safe.readThen fun first interfered => ?_
  obtain ⟨busy, frame⟩ := busy.stable interfered
  refine ⟨fun inv => ⟨inv, .refl _⟩, ?_⟩
  by_cases reported : first.faultReason ≠ .none
  · rw [if_pos reported]
    refine Program.Safe.bind (Within.refl (ExecutorFrame.refl alone)) ?_
    refine (safe_updateRuntimeFault _ busy reported).mono ?_
    rintro ⟨⟩ second ⟨holding, reported⟩
    refine Program.Safe.readThen fun third interfered => ?_
    obtain ⟨holding, frame⟩ := holding.stable interfered
    refine ⟨fun inv => ⟨inv, .refl _⟩, ?_⟩
    split
    · exact fun last interfered => (holding.stable interfered).1
    · exact safe_commitRuntimeFault _ _ holding (frame.reported reported)
  · rw [if_neg reported]
    intro last interfered
    exact ((show Holding alone action first from
      ⟨busy, .of_quiet busy.inv reported⟩).stable interfered).1

/-! ### Install completions -/

/-- The executor's assertion once an install completion has passed its guard: no
fault was accepted then, so a fault signalled since still has its wake pending. -/
structure Installing (alone : Bool) (action : Option LifecycleAction) (state : State) : Prop where
  inv : state.Inv
  current : state.current = action
  completed : state.faultCompleted = false
  installed : state.usb.state.observed ≠ .driverNotInstalled
  woken : state.faultStage = .signalled → state.wakePending = true
  quiet : alone = true → ¬state.FaultReported

theorem Installing.holding {action : Option LifecycleAction} {state : State}
    (installing : Installing alone action state) : Holding alone action state :=
  ⟨⟨installing.inv, installing.current, fun single => .inr (installing.quiet single)⟩,
    fun signalled => .inr (installing.woken signalled)⟩

theorem ExecutorFrame.quiet {before after : State} (frame : ExecutorFrame true before after)
    (inv : before.Inv) (quiet : ¬before.FaultReported) : ¬after.FaultReported := fun reported =>
  quiet (frame.alone rfl (fun accepted => quiet (inv.reported_of_accepted accepted)) reported)

theorem Installing.stable {action : Option LifecycleAction} {before after : State}
    (installing : Installing alone action before)
    (interfered : Within (ExecutorFrame alone) before after) : Installing alone action after := by
  obtain ⟨inv, frame⟩ := interfered installing.inv
  refine ⟨inv, frame.current.trans installing.current, frame.completed.trans installing.completed,
    frame.installed installing.installed, fun signalled => ?_, ?_⟩
  · rcases frame.signalled signalled with was | wake
    · exact frame.wake (installing.woken was)
    · exact wake
  · rintro rfl
    exact frame.quiet installing.inv (installing.quiet rfl)

/-- A completion writes the lifecycle words without hiding the driver. -/
theorem Installing.write_usb {action : Option LifecycleAction} {state : State}
    (installing : Installing alone action state) (usb : Words)
    (pending : usb.runtimeFaultPending = state.usb.runtimeFaultPending)
    (desired : usb.state.desired = state.usb.state.desired)
    (observed : usb.state.observed ≠ .driverNotInstalled) :
    Within ExecutorGuar state { state with usb } ∧ Installing alone action { state with usb } := by
  have sealed (held : state.Sealed) : ({ state with usb } : State).Sealed :=
    ⟨desired.trans held.1, fun absent => absurd absent observed⟩
  have inv := installing.inv.write_usb pending
    (fun accepted => sealed (installing.inv.accepted accepted).2)
    fun done => absurd (installing.completed.symm.trans done) Bool.false_ne_true
  exact ⟨fun _ => ⟨inv, .write_usb pending fun _ => sealed⟩,
    inv, installing.current, installing.completed, observed, installing.woken, installing.quiet⟩

theorem safe_installExpected {action : Option LifecycleAction} {state : State}
    (holding : Holding alone action state) :
    (onUsb installExpected).Safe (Within (ExecutorFrame alone)) (Within ExecutorGuar)
      (fun due later => Holding alone action later ∧ (due = true → Installing alone action later))
      state := by
  simp only [installExpected, desired, observed, onUsb_bind, onUsb_read]
  refine Program.Safe.readThen fun first interfered => ?_
  obtain ⟨holding, frame⟩ := holding.stable interfered
  refine ⟨fun inv => ⟨inv, .refl _⟩, ?_⟩
  split
  · rename_i exposed
    have open_ : ¬first.FaultAccepted := by
      intro accepted
      simp [(holding.inv.accepted accepted).2.1] at exposed
    simp only [onUsb_bind, onUsb_read, onUsb_done, Program.pure_eq_done]
    refine Program.Safe.readThen fun second interfered => ?_
    have completed : first.faultCompleted = false := by
      cases done : first.faultCompleted with
      | false => rfl
      | true => exact absurd (holding.inv.completed done).2 open_
    have quiet : alone = true → ¬first.FaultReported := fun single =>
      (holding.apart single).resolve_left open_
    have inv := holding.inv
    obtain ⟨holding, frame⟩ := holding.stable interfered
    refine ⟨fun inv => ⟨inv, .refl _⟩, fun last interfered => ?_⟩
    obtain ⟨after, _⟩ := holding.stable interfered
    refine ⟨after, fun due => ?_⟩
    have attaching : second.usb.state.observed = .attaching := by simpa using due
    refine Installing.stable ⟨holding.inv, holding.current, frame.completed.trans completed, ?_,
      fun signalled => ?_, ?_⟩ interfered
    · simp [attaching]
    · rcases frame.signalled signalled with was | wake
      · simp [State.FaultAccepted, was] at open_
      · exact wake
    · rintro rfl
      exact frame.quiet inv (quiet rfl)
  · intro last interfered
    exact ⟨(holding.stable interfered).1, fun due => absurd due Bool.false_ne_true⟩

theorem safe_record_installing {action : Option LifecycleAction} (code : Int32) {state : State}
    (installing : Installing alone action state) :
    (onUsb (recordError .install code)).Safe (Within (ExecutorFrame alone)) (Within ExecutorGuar)
      (fun _ later => Installing alone action later) state := by
  have each : (recordError .install code).Each fun before after =>
      after.runtimeFaultPending = before.runtimeFaultPending ∧ after.state = before.state :=
    .bind (.write fun _ => ⟨rfl, rfl⟩) fun _ =>
      .bind (.write fun _ => ⟨rfl, rfl⟩) fun _ => .write fun _ => ⟨rfl, rfl⟩
  have lifted : (onUsb (recordError .install code)).Each fun before after =>
      ∃ usb, after = { before with usb } ∧
        usb.runtimeFaultPending = before.usb.runtimeFaultPending ∧
        usb.state = before.usb.state :=
    each.zoom fun state after same => ⟨after, rfl, same⟩
  refine lifted.safe (fun _ _ held interfered => held.stable interfered) ?_ installing
  rintro before after held ⟨usb, rfl, pending, same⟩
  exact held.write_usb usb pending (congrArg _ same) (same ▸ held.installed)

/-- While no fault is reported the executor may write the lifecycle words freely. -/
structure Unreported (action : Option LifecycleAction) (state : State) : Prop where
  inv : state.Inv
  current : state.current = action
  quiet : ¬state.FaultReported

/-- The two ways a step stays unreported: no first report overlaps it, or it
processes a detach, which no report overlaps. -/
def StaysUnreported (alone : Bool) (action : Option LifecycleAction) : Prop :=
  alone = true ∨ ∃ detach ∈ action, detach.kind = .uninstall

theorem Unreported.holding {action : Option LifecycleAction} {state : State}
    (unreported : Unreported action state) : Holding alone action state :=
  ⟨⟨unreported.inv, unreported.current, fun _ => .inr unreported.quiet⟩,
    .of_quiet unreported.inv unreported.quiet⟩

theorem State.Inv.unreported_of_detach {state : State} (inv : state.Inv)
    {action : Option LifecycleAction} (current : state.current = action)
    (processed : ∃ detach ∈ action, detach.kind = .uninstall) : Unreported action state := by
  obtain ⟨detach, member, kind⟩ := processed
  refine ⟨inv, current, (inv.uninstall detach ?_ kind).1⟩
  simp [State.outstanding, current, Option.mem_def.mp member]

theorem Unreported.stable {action : Option LifecycleAction} {before after : State}
    (stays : StaysUnreported alone action) (unreported : Unreported action before)
    (interfered : Within (ExecutorFrame alone) before after) : Unreported action after := by
  obtain ⟨inv, frame⟩ := interfered unreported.inv
  have current := frame.current.trans unreported.current
  rcases stays with rfl | processed
  · exact ⟨inv, current, frame.quiet unreported.inv unreported.quiet⟩
  · exact inv.unreported_of_detach current processed

theorem Unreported.write_usb {action : Option LifecycleAction} {state : State} {usb : Words}
    (unreported : Unreported action state)
    (pending : usb.runtimeFaultPending = state.usb.runtimeFaultPending) :
    Within ExecutorGuar state { state with usb } ∧ Unreported action { state with usb } := by
  have open_ : ¬state.FaultAccepted := fun accepted =>
    unreported.quiet (unreported.inv.reported_of_accepted accepted)
  have inv := unreported.inv.write_usb pending (fun accepted => absurd accepted open_)
    fun done => absurd (unreported.inv.completed done).2 open_
  exact ⟨fun _ => ⟨inv, .write_usb pending fun reported => absurd reported unreported.quiet⟩,
    inv, unreported.current, unreported.quiet⟩

/-- Two words that agree on the fault flag. -/
def SamePending (before after : Words) : Prop :=
  after.runtimeFaultPending = before.runtimeFaultPending

theorem SamePending.refl (words : Words) : SamePending words words := rfl

/-- A lifecycle call that leaves the fault flag alone is safe while unreported. -/
theorem safe_unreported {α : Type} {action : Option LifecycleAction} {call : Program Words α}
    (stays : StaysUnreported alone action)
    (each : call.Each SamePending) {state : State} (unreported : Unreported action state) :
    (onUsb call).Safe (Within (ExecutorFrame alone)) (Within ExecutorGuar)
      (fun _ later => Unreported action later) state := by
  have lifted : (onUsb call).Each fun before after => ∃ usb, after = { before with usb } ∧
      SamePending before.usb usb :=
    each.zoom fun state after same => ⟨after, rfl, same⟩
  refine lifted.safe (fun _ _ held interfered => held.stable stays interfered) ?_ unreported
  rintro before after held ⟨usb, rfl, pending⟩
  exact held.write_usb pending

theorem recordError_each (operation : LifecycleOperation) (code : Int32) :
    (recordError operation code).Each SamePending :=
  .bind (.write fun _ => rfl) fun _ => .bind (.write fun _ => rfl) fun _ => .write fun _ => rfl

theorem safe_completeInstall {action : Option LifecycleAction} (result : BackendResult)
    (clean : result.kind = .cleanInstallFailure → alone = true) {state : State}
    (holding : Holding alone action state) :
    (onUsb (completeInstall result)).Safe (Within (ExecutorFrame alone)) (Within ExecutorGuar)
      (fun _ later => Holding alone action later) state := by
  -- Every completion has the same guard; only what follows it differs.
  have guarded {rest : Program Words Unit}
      (safe : ∀ later, Installing alone action later →
        (onUsb rest).Safe (Within (ExecutorFrame alone)) (Within ExecutorGuar)
          (fun _ last => Holding alone action last) later) :
      (onUsb (do if ← installExpected then rest)).Safe (Within (ExecutorFrame alone))
        (Within ExecutorGuar) (fun _ later => Holding alone action later) state := by
    rw [onUsb_bind]
    refine Program.Safe.bind (Within.refl (ExecutorFrame.refl alone)) ?_
    refine (safe_installExpected holding).mono ?_
    rintro due later ⟨holding, installing⟩
    cases due with
    | false => exact fun last interfered => (holding.stable interfered).1
    | true => exact safe later (installing rfl)
  have success : (onUsb completeInstallSuccess).Safe (Within (ExecutorFrame alone))
      (Within ExecutorGuar) (fun _ later => Holding alone action later) state := by
    refine guarded fun later installing => ?_
    simp only [setRecoveryRequired, setObserved, writeState, onUsb_bind, onUsb_write]
    refine Program.Safe.writeThen fun first interfered => ?_
    obtain ⟨guar, installing⟩ := (installing.stable interfered).write_usb
      { first.usb with state.recoveryRequired := false } rfl rfl
      (installing.stable interfered).installed
    refine ⟨guar, fun second interfered => ?_⟩
    obtain ⟨guar, installing⟩ := (installing.stable interfered).write_usb
      { second.usb with state.observed := .disconnected } rfl rfl (by simp)
    exact ⟨guar, fun last interfered => (installing.stable interfered).holding⟩
  have ambiguous (code : Int32) : (onUsb (completeInstallAmbiguousFailure code)).Safe
      (Within (ExecutorFrame alone)) (Within ExecutorGuar)
      (fun _ later => Holding alone action later) state := by
    refine guarded fun later installing => ?_
    rw [onUsb_bind]
    refine Program.Safe.bind (Within.refl (ExecutorFrame.refl alone)) ?_
    refine (safe_record_installing code installing).mono ?_
    rintro ⟨⟩ first installing
    simp only [setRecoveryRequired, writeState, onUsb_write]
    intro second interfered
    obtain ⟨guar, installing⟩ := (installing.stable interfered).write_usb
      { second.usb with state.recoveryRequired := true } rfl rfl
      (installing.stable interfered).installed
    exact ⟨guar, fun last interfered => (installing.stable interfered).holding⟩
  unfold completeInstall
  cases kind : result.kind with
  | success => exact success
  | ambiguousInstallFailure => exact ambiguous _
  | uninstallFailure => exact ambiguous _
  | cleanInstallFailure =>
      obtain rfl := clean kind
      refine guarded fun later installing => ?_
      refine (safe_unreported (.inl rfl) ?_
        ⟨installing.inv, installing.current, installing.quiet rfl⟩).mono
          fun _ _ unreported => unreported.holding
      exact .bind (recordError_each _ _) fun _ =>
        .bind (.write fun _ => rfl) fun _ => .write fun _ => rfl

theorem completeUninstall_each (result : BackendResult) :
    (completeUninstall result).Each SamePending := by
  have guarded {rest : Program Words Unit} (each : rest.Each SamePending) :
      (do if ← uninstallExpected then rest : Program Words Unit).Each SamePending := by
    refine .bind ?_ fun due => ?_
    · refine .bind (.read SamePending.refl _) fun desired => ?_
      split
      · exact .bind (.read SamePending.refl _) fun _ => trivial
      · trivial
    · split
      · exact each
      · trivial
  unfold completeUninstall
  split
  · exact guarded (.bind (.write fun _ => rfl) fun _ => .write fun _ => rfl)
  · exact guarded (.bind (recordError_each _ _) fun _ => .write fun _ => rfl)

/-! ### Actions -/

theorem safe_performAction {action : LifecycleAction} (environment : Environment)
    (clean : environment.install.kind = .cleanInstallFailure → alone = true) {state : State}
    (holding : Holding alone (some action) state) :
    (onUsb (performAction environment action.kind)).Safe (Within (ExecutorFrame alone))
      (Within ExecutorGuar) (fun _ later => Holding alone (some action) later) state := by
  unfold performAction
  cases kind : action.kind with
  | install => exact safe_completeInstall _ clean holding
  | uninstall =>
      have processed : ∃ detach ∈ some action, detach.kind = .uninstall := ⟨action, rfl, kind⟩
      have unreported := holding.inv.unreported_of_detach holding.current processed
      refine (safe_unreported (.inr processed) ?_ unreported).mono
        fun _ _ unreported => unreported.holding
      refine .bind ((runLifecycleDetachSafety_each _).mono fun _ _ same => same.pending) fun _ => ?_
      refine .bind (beginUninstall_each.mono fun _ _ same => same.pending) fun _ => ?_
      exact completeUninstall_each _

/-- The end of an action gives its claim back, and no detach is left behind. -/
theorem Holding.finish {action : LifecycleAction} {state : State}
    (holding : Holding alone (some action) state) :
    Within ExecutorGuar state
      { (if state.activeOperation = action.operation then
          { state with activeOperation := .none } else state) with current := none } ∧
    Holding alone none
      { (if state.activeOperation = action.operation then
          { state with activeOperation := .none } else state) with current := none } := by
  obtain ⟨⟨inv, current, apart⟩, settled⟩ := holding
  have outstanding : state.outstanding = action :: state.queue := by
    simp [State.outstanding, current]
  have operation := inv.operation action (by simp [outstanding])
  have other (member : LifecycleAction) (queued : member ∈ state.queue)
      (kind : member.kind = .uninstall) : action.kind ≠ .uninstall := by
    intro both
    have single := inv.single
    rw [outstanding, List.countP_cons_of_pos (by simp [State.isDetach, both])] at single
    have positive : 0 < state.queue.countP State.isDetach :=
      List.countP_pos_iff.mpr ⟨member, queued, by simp [State.isDetach, kind]⟩
    omega
  have queued (member : LifecycleAction) (found : member ∈ state.queue) :
      member ∈ state.outstanding := by simp [outstanding, found]
  have kept : ({ (if state.activeOperation = action.operation then
      { state with activeOperation := .none } else state) with current := none } : State).Inv := by
    have single : state.queue.countP State.isDetach ≤ 1 := by
      have single := inv.single
      rw [outstanding] at single
      exact Nat.le_trans (List.sublist_cons_self _ _).countP_le single
    split
    · rename_i released
      refine ⟨inv.pending, inv.accepted, ?_, ?_, ?_, inv.completed⟩
      · simpa [State.outstanding] using fun member found =>
          inv.operation member (queued member found)
      · intro member found kind
        have found : member ∈ state.queue := by simpa [State.outstanding] using found
        have claimed := (inv.uninstall member (queued member found) kind).2
        have install : action.kind = .install := by
          cases both : action.kind with
          | install => rfl
          | uninstall => exact absurd both (other member found kind)
        rw [claimed, operation, install] at released
        simp [operationFor] at released
      · simpa [State.outstanding] using single
    · refine ⟨inv.pending, inv.accepted, ?_, ?_, ?_, inv.completed⟩
      · simpa [State.outstanding] using fun member found =>
          inv.operation member (queued member found)
      · intro member found kind
        have found : member ∈ state.queue := by simpa [State.outstanding] using found
        exact inv.uninstall member (queued member found) kind
      · simpa [State.outstanding] using single
  refine ⟨fun _ => ⟨kept, ?_⟩, ⟨kept, ?_, ?_⟩, ?_⟩
  · split
    · rename_i released
      refine ⟨rfl, rfl, rfl, .inr rfl, fun _ held => held, ?_⟩
      rintro ⟨claimed, none⟩ _
      have install : action.kind = .install := by
        cases both : action.kind with
        | install => rfl
        | uninstall => exact absurd both (none action (by simp [outstanding]))
      rw [claimed, operation, install] at released
      simp [operationFor] at released
    · refine ⟨rfl, rfl, rfl, .inl rfl, fun _ held => held, ?_⟩
      rintro ⟨claimed, none⟩ _
      exact ⟨claimed, fun member found => none member (queued member (by
        simpa [State.outstanding] using found))⟩
  · split <;> rfl
  · split <;> exact apart
  · split <;> exact settled

theorem safe_snapshot {action : Option LifecycleAction} {state : State}
    (holding : Holding alone action state) :
    (onUsb snapshot).Safe (Within (ExecutorFrame alone)) (Within ExecutorGuar)
      (fun _ later => Holding alone action later) state := by
  have safe := safe_sameExposure (snapshot_each SameExposure.refl)
    (fun _ _ _ (held : True) _ => held) (fun _ _ held _ => held) holding trivial
  exact safe.mono fun _ _ held => held.1

theorem safe_process {action : LifecycleAction} (environment : Environment)
    (clean : environment.install.kind = .cleanInstallFailure → alone = true) {state : State}
    (busy : Busy alone (some action) state) :
    (process environment action).Safe (Within (ExecutorFrame alone)) (Within ExecutorGuar)
      (fun _ later => Holding alone none later) state := by
  have finish (later : State) (holding : Holding alone (some action) later) :
      (finishAction action.operation).Safe (Within (ExecutorFrame alone)) (Within ExecutorGuar)
        (fun _ last => Holding alone none last) later := by
    intro last interfered
    obtain ⟨guar, holding⟩ := (holding.stable interfered).1.finish
    exact ⟨guar, fun _ interfered => (holding.stable interfered).1⟩
  unfold process
  refine Program.Safe.bind (Within.refl (ExecutorFrame.refl alone)) ?_
  refine (safe_reconcileUsbRuntimeFault _ _ busy).mono ?_
  rintro ⟨⟩ first holding
  refine Program.Safe.bind (Within.refl (ExecutorFrame.refl alone)) ?_
  refine (safe_snapshot holding).mono ?_
  rintro current second holding
  refine Program.Safe.readThen fun third interfered => ?_
  obtain ⟨holding, -⟩ := holding.stable interfered
  refine ⟨fun inv => ⟨inv, .refl _⟩, ?_⟩
  split
  · refine Program.Safe.bind (Within.refl (ExecutorFrame.refl alone)) ?_
    refine (safe_performAction environment clean holding).mono ?_
    rintro ⟨⟩ fourth holding
    exact finish fourth holding
  · exact finish third holding

theorem safe_processNext (environment : Environment)
    (clean : environment.install.kind = .cleanInstallFailure → alone = true) {state : State}
    (busy : Busy alone state.current state) (settled : state.ErrorSettled) :
    (processNext environment).Safe (Within (ExecutorFrame alone)) (Within ExecutorGuar)
      (fun _ later => later.ErrorSettled) state := by
  unfold processNext
  refine Program.Safe.changeThen fun first interfered => ?_
  obtain ⟨holding, -⟩ := (show Holding alone state.current state from ⟨busy, settled⟩).stable
    interfered
  obtain ⟨⟨inv, current, apart⟩, settled⟩ := holding
  cases queue : first.queue with
  | nil =>
      refine ⟨fun inv => ⟨inv, .refl _⟩, fun last interfered => ?_⟩
      exact ((show Holding alone state.current first from
        ⟨⟨inv, current, apart⟩, settled⟩).stable interfered).1.settled
  | cons action rest =>
      have received : ∀ member ∈ action :: rest, member ∈ first.outstanding := by
        intro member found
        simp only [State.outstanding, queue, List.mem_append]
        exact .inr found
      have taken : ({ first with queue := rest, current := some action } : State).Inv := by
        refine ⟨inv.pending, inv.accepted, ?_, ?_, ?_, inv.completed⟩
        · exact fun member found => inv.operation member (received member found)
        · exact fun member found => inv.uninstall member (received member found)
        · have single := inv.single
          simp only [State.outstanding, queue, List.countP_append] at single
          exact Nat.le_trans (Nat.le_add_left _ _) single
      refine ⟨fun _ => ⟨taken, rfl, rfl, rfl, .inl rfl, fun _ held => held, ?_⟩, ?_⟩
      · rintro ⟨claimed, none⟩ _
        exact ⟨claimed, fun member found => none member (received member found)⟩
      · exact (safe_process environment clean ⟨taken, rfl, apart⟩).mono
          fun _ _ holding => holding.settled

theorem safe_cycleHead (environment : Environment) {state : State}
    (busy : Busy alone state.current state) :
    (cycleHead environment).Safe (Within (ExecutorFrame alone)) (Within ExecutorGuar)
      (fun _ later => later.ErrorSettled) state := by
  unfold cycleHead
  refine Program.Safe.writeThen fun first interfered => ?_
  obtain ⟨⟨inv, current, apart⟩, -⟩ := busy.stable interfered
  have taken : ({ first with wakePending := false } : State).Inv :=
    ⟨inv.pending, inv.accepted, inv.operation, inv.uninstall, inv.single, inv.completed⟩
  refine ⟨fun _ => ⟨taken, rfl, rfl, rfl, .inl rfl, fun _ held => held,
    fun owned _ => owned⟩, ?_⟩
  exact (safe_reconcileUsbRuntimeFault _ _ (show Busy alone state.current
    { first with wakePending := false } from ⟨taken, current, apart⟩)).mono
      fun _ _ holding => holding.settled

end HidBot.UsbControl
