import HidBot.Usb.FaultContract

/-!
# Requests, callbacks and reports keep the fault contract

A request that starts before any report meets no report until it returns. A
request that starts after an accepted fault finds the lifecycle sealed and
writes only the claim. Callbacks move the observed state of a present driver.
A report seals the lifecycle before it counts as accepted.
-/

namespace HidBot.UsbControl

open Interleaving UsbLifecycle

theorem ControlGuar.refl (state : State) : ControlGuar state state :=
  ⟨rfl, rfl, rfl, rfl, fun _ => rfl, fun held => held, fun held => held, fun held => held⟩

/-! ### Callbacks -/

/-- A callback's effect on the lifecycle words. -/
structure Observing (before after : Words) : Prop where
  error : after.lastErrorPresent = before.lastErrorPresent ∧
    after.lastErrorOperation = before.lastErrorOperation
  pending : after.runtimeFaultPending = before.runtimeFaultPending
  desired : after.state.desired = before.state.desired
  recovery : after.state.recoveryRequired = before.state.recoveryRequired
  installed : after.state.observed = before.state.observed ∨
    after.state.observed ≠ .driverNotInstalled

theorem Observing.refl (words : Words) : Observing words words :=
  ⟨⟨rfl, rfl⟩, rfl, rfl, rfl, .inl rfl⟩

theorem CallbackGuar.inv {before after : State} (guar : CallbackGuar before after)
    (inv : before.Inv) : after.Inv := by
  have pending := guar.pending
  have recovery := guar.recovery
  have sealed (held : before.Sealed) : after.Sealed := held.of_callback guar
  rw [guar.rest] at sealed ⊢
  exact {
    pending := fun held => inv.pending (pending ▸ held)
    accepted := fun held => ⟨pending.trans (inv.accepted held).1, sealed (inv.accepted held).2⟩
    operation := inv.operation
    uninstall := inv.uninstall
    single := inv.single
    completed := fun held =>
      ⟨recovery.trans (inv.completed held).1, (inv.completed held).2⟩ }

/-- A lifecycle call that only observes is safe whatever the others do. -/
theorem safe_observing {α : Type} {call : Program Words α} (each : call.Each Observing)
    (state : State) :
    (onUsb call).Safe (Within fun _ _ => True) (Within CallbackGuar) (fun _ _ => True) state := by
  have lifted : (onUsb call).Each CallbackGuar :=
    each.zoom fun state after same =>
      ⟨rfl, same.error, same.pending, same.desired, same.recovery, same.installed⟩
  refine lifted.safe (fun _ _ held _ => held) ?_ trivial
  exact fun before after _ guar => ⟨fun inv => ⟨guar.inv inv, guar⟩, trivial⟩

theorem setObserved_each {observedState : ObservedState}
    (present : observedState ≠ .driverNotInstalled) :
    (setObserved observedState).Each Observing :=
  .write fun _ => ⟨⟨rfl, rfl⟩, rfl, rfl, rfl, .inr present⟩

theorem observationExpected_each (applies : ObservedState → Bool) :
    (observationExpected applies).Each Observing := by
  have loaded : snapshot.Each Observing := by
    repeat refine .bind (.read Observing.refl _) fun _ => ?_
    trivial
  refine .bind (.read Observing.refl _) fun desired => ?_
  split
  · trivial
  refine .bind (.read Observing.refl _) fun observed => ?_
  split
  · exact .bind loaded fun _ => trivial
  · trivial

/-- An observation that, once expected, only moves a present driver. -/
theorem observation_each {applies : ObservedState → Bool} {rest : Program Words Unit}
    (each : rest.Each Observing) :
    (do
      if ← observationExpected applies then
        rest
        return true
      return false : Program Words Bool).Each Observing := by
  refine .bind (observationExpected_each applies) fun expected => ?_
  split
  · exact .bind each fun _ => trivial
  · trivial

theorem observeMount_each : observeMount.Each Observing :=
  observation_each (setObserved_each (by decide))

theorem observeSuspend_each : observeSuspend.Each Observing :=
  observation_each (setObserved_each (by decide))

theorem observeResume_each : observeResume.Each Observing :=
  observation_each (setObserved_each (by decide))

theorem observeUnmount_each : observeUnmount.Each Observing := by
  have advance : advanceGeneration.Each Observing :=
    .write fun _ => ⟨⟨rfl, rfl⟩, rfl, rfl, rfl, .inl rfl⟩
  refine .bind (observationExpected_each _) fun expected => ?_
  split
  · refine .bind (.read Observing.refl _) fun observed => ?_
    split
    · exact .bind advance fun _ => .bind (setObserved_each (by decide)) fun _ => trivial
    · exact .bind (setObserved_each (by decide)) fun _ => trivial
  · trivial

/-! ### Requests of the control task -/

/-- The control task's assertion inside a request for `action`: either the fault
was accepted before it, or nothing is reported, and then a detach owns its claim. -/
structure Requesting (action : ExecutorAction) (state : State) : Prop where
  inv : state.Inv
  fresh : state.FaultAccepted ∨ ¬state.FaultReported
  owns : action = .uninstall → ¬state.FaultReported → state.OwnsDetach

/-- Its assertion once the exchange of the lifecycle byte was accepted. -/
structure Editing (action : ExecutorAction) (state : State) : Prop where
  inv : state.Inv
  quiet : ¬state.FaultReported
  owns : action = .uninstall → state.OwnsDetach

variable {action : ExecutorAction}

theorem Requesting.stable {before after : State} (requesting : Requesting action before)
    (interfered : Within ControlFrame before after) : Requesting action after := by
  obtain ⟨inv, frame⟩ := interfered requesting.inv
  refine ⟨inv, ?_, fun detach quiet => ?_⟩
  · exact requesting.fresh.imp frame.accepted.mpr fun quiet reported =>
      quiet (frame.reported.mp reported)
  · have quiet : ¬before.FaultReported := fun reported => quiet (frame.reported.mpr reported)
    exact frame.owned (requesting.owns detach quiet) quiet

theorem Editing.requesting {state : State} (editing : Editing action state) :
    Requesting action state :=
  ⟨editing.inv, .inr editing.quiet, fun detach _ => editing.owns detach⟩

theorem Editing.stable {before after : State} (editing : Editing action before)
    (interfered : Within ControlFrame before after) : Editing action after := by
  obtain ⟨inv, frame⟩ := interfered editing.inv
  exact ⟨inv, fun reported => editing.quiet (frame.reported.mp reported),
    fun detach => frame.owned (editing.owns detach) editing.quiet⟩

theorem Editing.unaccepted {state : State} (editing : Editing action state) :
    ¬state.FaultAccepted := fun accepted =>
  editing.quiet (editing.inv.reported_of_accepted accepted)

/-- A write of the lifecycle words by an accepted request. -/
structure RequestStep (before after : Words) : Prop where
  pending : after.runtimeFaultPending = before.runtimeFaultPending
  installed : before.state.observed ≠ .driverNotInstalled →
    after.state.observed ≠ .driverNotInstalled
  recovery : before.state.recoveryRequired = true → after.state.recoveryRequired = true

theorem RequestStep.of_state {before after : Words} (same : after.state = before.state)
    (pending : after.runtimeFaultPending = before.runtimeFaultPending) :
    RequestStep before after :=
  ⟨pending, fun held => by rw [same]; exact held, fun held => by rw [same]; exact held⟩

theorem Editing.write_usb {state : State} (editing : Editing action state) {usb : Words}
    (step : RequestStep state.usb usb) :
    Within ControlGuar state { state with usb } ∧ Editing action { state with usb } := by
  have inv : ({ state with usb } : State).Inv := {
    pending := fun held => editing.inv.pending (step.pending ▸ held)
    accepted := fun held => absurd held editing.unaccepted
    operation := editing.inv.operation
    uninstall := editing.inv.uninstall
    single := editing.inv.single
    completed := fun held => absurd (editing.inv.completed held).2 editing.unaccepted }
  exact ⟨fun _ => ⟨inv, rfl, rfl, rfl, rfl, fun reported => absurd reported editing.quiet,
    step.installed, step.recovery, fun held => held⟩, inv, editing.quiet, editing.owns⟩

theorem safe_editing {α : Type} {call : Program Words α} (each : call.Each RequestStep)
    {state : State} (editing : Editing action state) :
    (onUsb call).Safe (Within ControlFrame) (Within ControlGuar)
      (fun _ later => Editing action later) state := by
  have lifted : (onUsb call).Each fun before after =>
      ∃ usb, after = { before with usb } ∧ RequestStep before.usb usb :=
    each.zoom fun state after same => ⟨after, rfl, same⟩
  refine lifted.safe (fun _ _ held interfered => held.stable interfered) ?_ editing
  rintro before after held ⟨usb, rfl, step⟩
  exact held.write_usb step

theorem safe_requesting_snapshot {state : State} (requesting : Requesting action state) :
    (onUsb snapshot).Safe (Within ControlFrame) (Within ControlGuar)
      (fun _ later => Requesting action later) state := by
  have each : snapshot.Each Eq := by
    repeat refine .bind (.read (fun _ => rfl) _) fun _ => ?_
    trivial
  have lifted : (onUsb snapshot).Each Eq := each.zoom fun state after same => by rw [← same]
  refine lifted.safe (fun _ _ held interfered => held.stable interfered) ?_ requesting
  rintro before after held rfl
  exact ⟨fun inv => ⟨inv, .refl _⟩, held⟩

/-- Queueing the action of an accepted request gives up the claim to the executor. -/
theorem Editing.enqueue {state : State} (editing : Editing action state) (accepted : Snapshot) :
    ({ state with queue := state.queue ++ [⟨action, accepted, operationFor action⟩] } :
      State).Inv := by
  obtain ⟨inv, quiet, owns⟩ := editing
  have outstanding : ({ state with
      queue := state.queue ++ [⟨action, accepted, operationFor action⟩] } : State).outstanding =
      state.outstanding ++ [⟨action, accepted, operationFor action⟩] := by
    simp [State.outstanding]
  refine ⟨inv.pending, inv.accepted, ?_, ?_, ?_, inv.completed⟩
  · rw [outstanding]
    intro member found
    rcases List.mem_append.mp found with old | new
    · exact inv.operation member old
    · obtain rfl := List.mem_singleton.mp new
      rfl
  · rw [outstanding]
    intro member found kind
    rcases List.mem_append.mp found with old | new
    · exact inv.uninstall member old kind
    · obtain rfl := List.mem_singleton.mp new
      exact ⟨quiet, (owns kind).1⟩
  · rw [outstanding, List.countP_append]
    cases action with
    | install => simpa [State.isDetach] using inv.single
    | uninstall =>
        have none : state.outstanding.countP State.isDetach = 0 :=
          List.countP_eq_zero.mpr fun member found => by
            simpa [State.isDetach] using (owns rfl).2 member found
        simp [none, State.isDetach]

theorem safe_schedule (room : Bool) (accepted : Snapshot) {state : State}
    (editing : Editing action state) :
    (schedule room action accepted).Safe (Within ControlFrame) (Within ControlGuar)
      (fun queued later => if queued then later.Inv ∧ ¬later.FaultReported
        else Editing action later) state := by
  unfold schedule enqueue
  refine Program.Safe.readThen fun first interfered => ?_
  have editing := editing.stable interfered
  refine ⟨fun inv => ⟨inv, .refl _⟩, ?_⟩
  by_cases other : first.activeOperation ≠ operationFor action
  · rw [if_pos other]
    exact fun last interfered => editing.stable interfered
  rw [if_neg other]
  cases room with
  | false => exact fun last interfered => editing.stable interfered
  | true =>
      refine Program.Safe.writeThen fun second interfered => ?_
      have editing := editing.stable interfered
      have queued := editing.enqueue accepted
      refine ⟨fun _ => ⟨queued, rfl, rfl, rfl, rfl, fun _ => rfl, fun held => held,
        fun held => held, fun held => held⟩, ?_⟩
      refine Program.Safe.writeThen fun third interfered => ?_
      obtain ⟨inv, frame⟩ := interfered queued
      have quiet : ¬third.FaultReported := fun reported =>
        editing.quiet (frame.reported.mp reported)
      have woken : ({ third with wakePending := true } : State).Inv :=
        ⟨inv.pending, inv.accepted, inv.operation, inv.uninstall, inv.single, inv.completed⟩
      refine ⟨fun _ => ⟨woken, rfl, rfl, rfl, rfl, fun _ => rfl, fun held => held,
        fun held => held, fun _ => rfl⟩, fun last interfered => ?_⟩
      obtain ⟨inv, frame⟩ := interfered woken
      exact ⟨inv, fun reported => quiet (frame.reported.mp reported)⟩

/-- How a request ends: not accepted with its claim still its own, or accepted
while nothing is reported. -/
def Ends (action : ExecutorAction) (outcome : TransitionOutcome) (state : State) : Prop :=
  (outcome.actionResult ≠ .accepted ∧ Requesting action state) ∨
    (outcome.actionResult = .accepted ∧ state.Inv ∧ ¬state.FaultReported)

theorem safe_scheduleAccepted (room : Bool) (operation : LifecycleOperation) {state : State}
    (editing : Editing action state) :
    (scheduleAccepted (·.usb) (fun usb state => { state with usb }) (schedule room) action
      operation).Safe (Within ControlFrame) (Within ControlGuar) (Ends action) state := by
  have loaded : snapshot.Each RequestStep := by
    repeat refine .bind (.read (fun _ => .of_state rfl rfl) _) fun _ => ?_
    trivial
  have recorded : (recordError operation (-1)).Each RequestStep :=
    .bind (.write fun _ => .of_state rfl rfl) fun _ =>
      .bind (.write fun _ => .of_state rfl rfl) fun _ => .write fun _ => .of_state rfl rfl
  have required : (setRecoveryRequired true).Each RequestStep :=
    .write fun _ => ⟨rfl, fun held => held, fun _ => rfl⟩
  unfold scheduleAccepted
  refine Program.Safe.bind (Within.refl ControlFrame.refl) ?_
  refine (safe_editing loaded editing).mono fun accepted first editing => ?_
  refine Program.Safe.bind (Within.refl ControlFrame.refl) ?_
  refine (safe_schedule room accepted editing).mono fun queued second ended => ?_
  cases queued with
  | true =>
      obtain ⟨inv, quiet⟩ := ended
      intro last interfered
      obtain ⟨after, frame⟩ := interfered inv
      exact .inr ⟨rfl, after, fun reported => quiet (frame.reported.mp reported)⟩
  | false =>
      refine Program.Safe.bind (Within.refl ControlFrame.refl) ?_
      refine (safe_editing recorded ended).mono fun _ third editing => ?_
      refine Program.Safe.bind (Within.refl ControlFrame.refl) ?_
      refine (safe_editing required editing).mono fun _ fourth editing => ?_
      exact fun last interfered => .inl ⟨by simp, (editing.stable interfered).requesting⟩

/-- The exchange of a request: refused once the fault is accepted, and otherwise
an ordinary request step. -/
structure ExchangeSafe (loop : StateByte → Exchange × StateByte) : Prop where
  unchanged : ∀ byte, (loop byte).1 ≠ .accepted → (loop byte).2 = byte
  refused : ∀ byte, (loop byte).1 = .accepted →
    byte.desired = .hidden → byte.observed = .driverNotInstalled ∧ byte.recoveryRequired = false
  installed : ∀ byte, (loop byte).1 = .accepted → (loop byte).2.observed ≠ .driverNotInstalled
  recovery : ∀ byte, (loop byte).1 = .accepted → byte.recoveryRequired = false

theorem attachExchange_safe : ExchangeSafe attachExchange := by
  constructor <;> grind [attachExchange]

theorem detachExchange_safe : ExchangeSafe detachExchange := by
  constructor <;> grind [detachExchange]

theorem safe_exchange {loop : StateByte → Exchange × StateByte} (exchange : ExchangeSafe loop)
    {state : State} (requesting : Requesting action state) :
    (onUsb (exchangeState loop)).Safe (Within ControlFrame) (Within ControlGuar)
      (fun result later => if result = .accepted then Editing action later
        else Requesting action later) state := by
  simp only [exchangeState, onUsb_readModifyWrite]
  intro first interfered
  have requesting := requesting.stable interfered
  by_cases accepted : (loop first.usb.state).1 = .accepted
  · have open_ : ¬first.FaultAccepted := by
      intro held
      obtain ⟨hidden, due⟩ := (requesting.inv.accepted held).2
      obtain ⟨absent, recovery⟩ := exchange.refused _ accepted hidden
      simp [due absent] at recovery
    have quiet := requesting.fresh.resolve_left open_
    have editing : Editing action first :=
      ⟨requesting.inv, quiet, fun detach => requesting.owns detach quiet⟩
    have step : RequestStep first.usb { first.usb with state := (loop first.usb.state).2 } :=
      ⟨rfl, fun _ => exchange.installed _ accepted, fun held => by
        simp [exchange.recovery _ accepted] at held⟩
    obtain ⟨guar, editing⟩ := editing.write_usb step
    refine ⟨guar, fun last interfered => ?_⟩
    dsimp only
    rw [if_pos accepted]
    exact editing.stable interfered
  · have same : ({ first with usb.state := (loop first.usb.state).2 } : State) = first := by
      rw [exchange.unchanged _ accepted]
    have kept : Within ControlGuar first
        ({ first with usb.state := (loop first.usb.state).2 } : State) := by
      rw [same]
      exact fun inv => ⟨inv, .refl _⟩
    refine ⟨kept, fun last interfered => ?_⟩
    have interfered : Within ControlFrame
        ({ first with usb.state := (loop first.usb.state).2 } : State) last := interfered
    rw [same] at interfered
    dsimp only
    rw [if_neg accepted]
    exact requesting.stable interfered

/-- What both requests do between their claim and its release. -/
theorem safe_request {loop : StateByte → Exchange × StateByte} (exchange : ExchangeSafe loop)
    {accept : Program State TransitionOutcome}
    (safe : ∀ later, Editing action later →
      accept.Safe (Within ControlFrame) (Within ControlGuar) (Ends action) later)
    {state : State} (requesting : Requesting action state) :
    (do
      match ← onUsb (exchangeState loop) with
      | .rejected => return {}
      | .noOp =>
          let current ← onUsb snapshot
          return { actionResult := .noOp, snapshotValid := true, snapshot := current }
      | .accepted => accept : Program State TransitionOutcome).Safe
      (Within ControlFrame) (Within ControlGuar) (Ends action) state := by
  refine Program.Safe.bind (Within.refl ControlFrame.refl) ?_
  refine (safe_exchange exchange requesting).mono fun result first held => ?_
  cases result with
  | rejected =>
      exact fun last interfered => .inl ⟨by simp, held.stable interfered⟩
  | noOp =>
      refine Program.Safe.bind (Within.refl ControlFrame.refl) ?_
      refine (safe_requesting_snapshot held).mono fun current second held => ?_
      exact fun last interfered => .inl ⟨by simp, held.stable interfered⟩
  | accepted => exact safe first held

/-- A release by the control task leaves no detach without its claim. -/
theorem Requesting.release {state : State} (requesting : Requesting action state) :
    (if state.activeOperation = operationFor action then
      { state with activeOperation := .none } else state : State).Inv ∧
    ControlGuar state (if state.activeOperation = operationFor action then
      { state with activeOperation := .none } else state) := by
  obtain ⟨inv, fresh, owns⟩ := requesting
  split
  · rename_i claimed
    refine ⟨⟨inv.pending, inv.accepted, inv.operation, ?_, inv.single, inv.completed⟩,
      rfl, rfl, rfl, rfl, fun _ => rfl, fun held => held, fun held => held, fun held => held⟩
    intro member found kind
    obtain ⟨quiet, held⟩ := inv.uninstall member found kind
    cases action with
    | install => simp [claimed, operationFor] at held
    | uninstall => exact absurd kind ((owns rfl quiet).2 member found)
  · exact ⟨inv, .refl state⟩

/-- What a request promises when it returns to the control task. -/
def Answered (outcome : TransitionOutcome) (state : State) : Prop :=
  state.FaultAccepted → outcome.actionResult ≠ .accepted

theorem safe_claimed {request : Program State TransitionOutcome}
    (safe : ∀ state, Requesting action state →
      request.Safe (Within ControlFrame) (Within ControlGuar) (Ends action) state)
    {state : State} (inv : state.Inv) (fresh : state.FaultAccepted ∨ ¬state.FaultReported) :
    (do
      if ← claimOperation (operationFor action) then
        let outcome ← request
        if outcome.actionResult ≠ .accepted then
          releaseOperation (operationFor action)
        return outcome
      return {} : Program State TransitionOutcome).Safe
      (Within ControlFrame) (Within ControlGuar) Answered state := by
  refine Program.Safe.changeThen fun first interfered => ?_
  obtain ⟨inv, frame⟩ := interfered inv
  have fresh : first.FaultAccepted ∨ ¬first.FaultReported :=
    fresh.imp frame.accepted.mpr fun quiet reported => quiet (frame.reported.mp reported)
  by_cases free : first.activeOperation = .none
  · simp only [if_pos free]
    have none (member : LifecycleAction) (found : member ∈ first.outstanding) :
        member.kind ≠ .uninstall := by
      intro kind
      have held := (inv.uninstall member found kind).2
      simp [free] at held
    have claimed : ({ first with activeOperation := operationFor action } : State).Inv :=
      ⟨inv.pending, inv.accepted, inv.operation,
        fun member found kind => absurd kind (none member found), inv.single, inv.completed⟩
    refine ⟨fun _ => ⟨claimed, rfl, rfl, rfl, rfl, fun _ => rfl, fun held => held,
      fun held => held, fun held => held⟩, ?_⟩
    have requesting : Requesting action { first with activeOperation := operationFor action } :=
      ⟨claimed, fresh, fun detach _ => ⟨by subst detach; rfl, none⟩⟩
    refine Program.Safe.bind (Within.refl ControlFrame.refl) ?_
    refine (safe _ requesting).mono fun outcome second ends => ?_
    rcases ends with ⟨refused, requesting⟩ | ⟨accepted, inv, quiet⟩
    · rw [if_pos refused]
      intro third interfered
      obtain ⟨inv, guar⟩ := (requesting.stable interfered).release
      exact ⟨fun _ => ⟨inv, guar⟩, fun _ _ _ => refused⟩
    · rw [if_neg (not_not_intro accepted)]
      intro last interfered held
      obtain ⟨after, frame⟩ := interfered inv
      exact absurd (frame.reported.mp (after.reported_of_accepted held)) quiet
  · simp only [if_neg free]
    refine ⟨fun inv => ⟨inv, .refl _⟩, fun last _ _ => by simp⟩

theorem clearLastError_each : clearLastError.Each RequestStep :=
  .bind (.write fun _ => .of_state rfl rfl) fun _ =>
    .bind (.write fun _ => .of_state rfl rfl) fun _ => .write fun _ => .of_state rfl rfl

theorem safe_requestAttach (room : Bool) {state : State} (inv : state.Inv)
    (fresh : state.FaultAccepted ∨ ¬state.FaultReported) :
    (requestAttach room).Safe (Within ControlFrame) (Within ControlGuar) Answered state := by
  have request (later : State) (requesting : Requesting .install later) :
      (UsbLifecycle.requestAttach (·.usb) (fun usb state => { state with usb })
        (schedule room)).Safe (Within ControlFrame) (Within ControlGuar) (Ends .install) later := by
    refine safe_request attachExchange_safe (fun later editing => ?_) requesting
    have teardown : (storeTeardownBoundary false).Each RequestStep :=
      .write fun _ => .of_state rfl rfl
    have advance : advanceGeneration.Each RequestStep := .write fun _ => .of_state rfl rfl
    refine Program.Safe.bind (Within.refl ControlFrame.refl) ?_
    refine (safe_editing clearLastError_each editing).mono fun _ first editing => ?_
    refine Program.Safe.bind (Within.refl ControlFrame.refl) ?_
    refine (safe_editing teardown editing).mono fun _ second editing => ?_
    refine Program.Safe.bind (Within.refl ControlFrame.refl) ?_
    refine (safe_editing advance editing).mono fun _ third editing => ?_
    exact safe_scheduleAccepted room .install editing
  exact safe_claimed request inv fresh

theorem safe_requestDetach (room : Bool) {state : State} (inv : state.Inv)
    (fresh : state.FaultAccepted ∨ ¬state.FaultReported) :
    (requestDetach room).Safe (Within ControlFrame) (Within ControlGuar) Answered state := by
  have request (later : State) (requesting : Requesting .uninstall later) :
      (UsbLifecycle.requestDetach (·.usb) (fun usb state => { state with usb })
        (schedule room)).Safe (Within ControlFrame) (Within ControlGuar) (Ends .uninstall)
        later := by
    refine safe_request detachExchange_safe (fun later editing => ?_) requesting
    refine Program.Safe.bind (Within.refl ControlFrame.refl) ?_
    refine (safe_editing clearLastError_each editing).mono fun _ first editing => ?_
    exact safe_scheduleAccepted room .uninstall editing
  exact safe_claimed request inv fresh

/-! ### Reports -/

theorem ReporterGuar.refl (id : Nat) (state : State) : ReporterGuar id state state :=
  ⟨rfl, rfl, rfl, rfl, fun held => held, fun held => held, .inl rfl, fun held => held, rfl,
    fun held => held, fun held => held, fun held => held⟩

/-- What a report does to the lifecycle words. -/
structure ReportStep (before after : Words) : Prop where
  pending : before.runtimeFaultPending = true → after.runtimeFaultPending = true
  installed : before.state.observed ≠ .driverNotInstalled →
    after.state.observed ≠ .driverNotInstalled
  recovery : after.state.recoveryRequired = before.state.recoveryRequired
  operation : before.lastErrorOperation = .runtime → after.lastErrorOperation = .runtime
  present : before.lastErrorPresent = true → after.lastErrorPresent = true
  sealed : before.state.desired = .hidden → after.state.desired = .hidden ∧
    (after.state.observed = .driverNotInstalled → before.state.observed = .driverNotInstalled)

theorem ReportStep.of_state {before after : Words} (same : after.state = before.state)
    (pending : before.runtimeFaultPending = true → after.runtimeFaultPending = true)
    (operation : before.lastErrorOperation = .runtime → after.lastErrorOperation = .runtime)
    (present : before.lastErrorPresent = true → after.lastErrorPresent = true) :
    ReportStep before after :=
  ⟨pending, fun held => by rw [same]; exact held, by rw [same], operation, present,
    fun held => by rw [same]; exact ⟨held, fun absent => absent⟩⟩

theorem State.Inv.report_usb {state : State} (inv : state.Inv) (reported : state.FaultReported)
    {usb : Words} (step : ReportStep state.usb usb) : ({ state with usb } : State).Inv where
  pending := fun _ => reported
  accepted := fun held => by
    obtain ⟨pending, hidden, absent⟩ := inv.accepted held
    exact ⟨step.pending pending, (step.sealed hidden).1, fun gone =>
      step.recovery.trans (absent ((step.sealed hidden).2 gone))⟩
  operation := inv.operation
  uninstall := inv.uninstall
  single := inv.single
  completed := fun held => ⟨step.recovery.trans (inv.completed held).1, (inv.completed held).2⟩

theorem ReporterGuar.report_usb (id : Nat) {state : State} {usb : Words}
    (step : ReportStep state.usb usb) : ReporterGuar id state { state with usb } :=
  ⟨rfl, rfl, rfl, rfl, fun held => held, step.pending, .inl rfl, step.installed, step.recovery,
    fun held => held, step.operation, step.present⟩

/-- Calls that make only report steps keep an assertion that others keep too. -/
theorem safe_report {α : Type} (id : Nat) {call : Program Words α} (each : call.Each ReportStep)
    {more : State → Prop}
    (stable : ∀ before after, before.Inv → more before → ReporterFrame id before after → more after)
    (kept : ∀ state usb, more state → ReportStep state.usb usb → more ({ state with usb } : State))
    {state : State} (inv : state.Inv) (reported : state.FaultReported) (also : more state) :
    (onUsb call).Safe (Within (ReporterFrame id)) (Within (ReporterGuar id))
      (fun _ later => later.Inv ∧ later.FaultReported ∧ more later) state := by
  have lifted : (onUsb call).Each fun before after =>
      ∃ usb, after = { before with usb } ∧ ReportStep before.usb usb :=
    each.zoom fun state after same => ⟨after, rfl, same⟩
  refine lifted.safe ?_ ?_ ⟨inv, reported, also⟩
  · rintro before after ⟨inv, reported, also⟩ interfered
    obtain ⟨later, frame⟩ := interfered inv
    exact ⟨later, frame.reported reported, stable _ _ inv also frame⟩
  · rintro before after ⟨inv, reported, also⟩ ⟨usb, rfl, step⟩
    have later := inv.report_usb reported step
    exact ⟨fun _ => ⟨later, .report_usb id step⟩, later, reported, kept _ _ also step⟩

theorem recordRuntime_each (code : Int32) : (recordError .runtime code).Each ReportStep :=
  .bind (.write fun _ => .of_state rfl (fun h => h) (fun h => h) fun h => h) fun _ =>
    .bind (.write fun _ => .of_state rfl (fun h => h) (fun _ => rfl) fun h => h) fun _ =>
      .write fun _ => .of_state rfl (fun h => h) (fun h => h) fun _ => rfl

theorem updateRuntimeFault_each (code : Int32) : (updateRuntimeFault code).Each ReportStep := by
  refine .bind (.read (fun _ => .of_state rfl (fun h => h) (fun h => h) fun h => h) _)
    fun pending => ?_
  split
  · exact recordRuntime_each code
  · trivial

/-- The assertion of a later report: the fault is accepted, by another reporter. -/
def Later (id : Nat) (state : State) : Prop :=
  state.FaultAccepted ∧ state.faultStage ≠ .accepted id

theorem Later.stable {id : Nat} {before after : State} (later : Later id before)
    (frame : ReporterFrame id before after) : Later id after :=
  ⟨frame.accepted later.1, frame.theirs later.2⟩

theorem publishFaultReason_eq (reason : UsbRuntimeFaultReason) (state : State) :
    ∃ published, published ≠ .none ∧
      publishFaultReason reason state = { state with faultReason := published } := by
  unfold publishFaultReason
  split
  · exact ⟨_, by simp, rfl⟩
  · split
    · exact ⟨.diagnostic, by simp, rfl⟩
    · exact ⟨state.faultReason, by assumption, rfl⟩

/-- Publishing a reason is safe where no detach is outstanding. -/
theorem State.Inv.publish {state : State} (inv : state.Inv) (id : Nat)
    (reason : UsbRuntimeFaultReason)
    (clear : state.FaultReported ∨ state.activeOperation ≠ .usbDetach) :
    (publishFaultReason reason state).Inv ∧ (publishFaultReason reason state).FaultReported ∧
      ReporterGuar id state (publishFaultReason reason state) := by
  obtain ⟨published, some, same⟩ := publishFaultReason_eq reason state
  rw [same]
  have none (member : LifecycleAction) (found : member ∈ state.outstanding) :
      member.kind ≠ .uninstall := by
    intro kind
    obtain ⟨quiet, claimed⟩ := inv.uninstall member found kind
    exact clear.elim quiet fun other => other claimed
  refine ⟨⟨fun _ => some, inv.accepted, inv.operation,
    fun member found kind => absurd kind (none member found), inv.single, inv.completed⟩,
    some, rfl, rfl, rfl, rfl, fun _ => some, fun held => held, .inl rfl, fun held => held, rfl,
    fun held => held, fun held => held, fun held => held⟩

/-- A report after the accepted one only refreshes the error record and wakes. -/
theorem safe_signal_later (id : Nat) (reason : UsbRuntimeFaultReason) {state : State}
    (inv : state.Inv) (later : Later id state) :
    (signalUsbRuntimeFault id reason).Safe (Within (ReporterFrame id)) (Within (ReporterGuar id))
      (fun _ last => Later id last) state := by
  unfold signalUsbRuntimeFault
  refine Program.Safe.writeThen fun first interfered => ?_
  obtain ⟨inv, frame⟩ := interfered inv
  have later := later.stable frame
  obtain ⟨inv, reported, guar⟩ := inv.publish id reason (.inl (inv.reported_of_accepted later.1))
  have later : Later id (publishFaultReason reason first) := by
    obtain ⟨_, _, same⟩ := publishFaultReason_eq reason first
    rw [same]
    exact later
  refine ⟨fun _ => ⟨inv, guar⟩, Program.Safe.readThen fun second interfered => ?_⟩
  obtain ⟨inv, frame⟩ := interfered inv
  have later := later.stable frame
  refine ⟨fun inv => ⟨inv, .refl id _⟩, ?_⟩
  simp only [beginRuntimeFault, onUsb_bind, onUsb_readModifyWrite]
  rw [Program.bind_assoc]
  refine Program.Safe.changeThen fun third interfered => ?_
  obtain ⟨inv, frame⟩ := interfered inv
  have later := later.stable frame
  have pending := (inv.accepted later.1).1
  have same : ({ third with usb.runtimeFaultPending := true } : State) = third := by
    rw [← pending]
  have kept : Within (ReporterGuar id) third
      ({ third with usb.runtimeFaultPending := true } : State) := by
    rw [same]
    exact fun inv => ⟨inv, .refl id _⟩
  refine ⟨kept, ?_⟩
  simp only [pending, ↓reduceIte, onUsb_done, Program.pure_eq_done, Program.done_bind,
    Bool.false_eq_true]
  have begun : ({ third with usb.runtimeFaultPending := true } : State).Inv ∧
      Later id ({ third with usb.runtimeFaultPending := true } : State) := by
    rw [same]
    exact ⟨inv, later⟩
  refine Program.Safe.bind (Within.refl (ReporterFrame.refl id)) ?_
  refine (safe_report id (updateRuntimeFault_each _) (fun _ _ _ held frame => held.stable frame)
    (fun _ _ held _ => held) begun.1 (begun.1.reported_of_accepted begun.2.1) begun.2).mono ?_
  rintro ⟨⟩ fourth ⟨inv, -, later⟩
  refine Program.Safe.writeThen fun fifth interfered => ?_
  obtain ⟨inv, frame⟩ := interfered inv
  have later := later.stable frame
  have woken : ({ fifth with wakePending := true } : State).Inv :=
    ⟨inv.pending, inv.accepted, inv.operation, inv.uninstall, inv.single, inv.completed⟩
  refine ⟨fun _ => ⟨woken, rfl, rfl, rfl, rfl, fun held => held, fun held => held, .inl rfl,
    fun held => held, rfl, fun _ => rfl, fun held => held, fun held => held⟩, ?_⟩
  intro last interfered
  obtain ⟨_, frame⟩ := interfered woken
  exact (show Later id { fifth with wakePending := true } from later).stable frame

/-- The assertion of the first report before its exchange. -/
structure Reporting (began : Bool) (state : State) : Prop where
  inv : state.Inv
  first : ¬state.FaultAccepted
  reported : state.FaultReported
  pending : state.usb.runtimeFaultPending = began

theorem Reporting.stable {began : Bool} {id : Nat} {before after : State}
    (reporting : Reporting began before)
    (interfered : Within (ReporterFrame id) before after) :
    Reporting began after ∧ ReporterFrame id before after := by
  obtain ⟨inv, frame⟩ := interfered reporting.inv
  refine ⟨⟨inv, ?_, frame.reported reporting.reported,
    (frame.fresh reporting.first).trans reporting.pending⟩, frame⟩
  rw [State.FaultAccepted, frame.stage reporting.first]
  exact reporting.first

/-- Before it is accepted the first report may write the lifecycle words freely. -/
theorem Reporting.write_usb {began : Bool} {state : State} (reporting : Reporting began state)
    (usb : Words) : ({ state with usb } : State).Inv where
  pending := fun _ => reporting.reported
  accepted := fun held => absurd held reporting.first
  operation := reporting.inv.operation
  uninstall := reporting.inv.uninstall
  single := reporting.inv.single
  completed := fun held => absurd (reporting.inv.completed held).2 reporting.first

/-- The writes of the first report up to its exchange, which seals. -/
theorem safe_seal (id : Nat) (code : Int32) {state : State} (reporting : Reporting true state) :
    (do
      onUsb (recordError .runtime code)
      onUsb (storeTeardownBoundary false)
      onUsb (writeState fun state =>
        { state with desired := .hidden, safetyPending := true, observed := .detaching })
      return true : Program State Bool).Safe
      (Within (ReporterFrame id)) (Within (ReporterGuar id))
      (fun began last => began = true ∧ Reporting true last ∧ last.Sealed) state := by
  have stable (before after : State) (inv : before.Inv) (held : ¬before.FaultAccepted ∧
      before.usb.runtimeFaultPending = true) (frame : ReporterFrame id before after) :
      ¬after.FaultAccepted ∧ after.usb.runtimeFaultPending = true := by
    refine ⟨?_, frame.pending held.2⟩
    rw [State.FaultAccepted, frame.stage held.1]
    exact held.1
  have kept (state : State) (usb : Words) (held : ¬state.FaultAccepted ∧
      state.usb.runtimeFaultPending = true) (step : ReportStep state.usb usb) :
      ¬({ state with usb } : State).FaultAccepted ∧ usb.runtimeFaultPending = true :=
    ⟨held.1, step.pending held.2⟩
  refine Program.Safe.bind (Within.refl (ReporterFrame.refl id)) ?_
  refine (safe_report id (recordRuntime_each code) stable kept reporting.inv reporting.reported
    ⟨reporting.first, reporting.pending⟩).mono ?_
  rintro ⟨⟩ one ⟨inv, reported, held⟩
  have teardown : (storeTeardownBoundary false).Each ReportStep :=
    .write fun _ => .of_state rfl (fun h => h) (fun h => h) fun h => h
  refine Program.Safe.bind (Within.refl (ReporterFrame.refl id)) ?_
  refine (safe_report id teardown stable kept inv reported held).mono ?_
  rintro ⟨⟩ two ⟨inv, reported, held⟩
  simp only [writeState, onUsb_write]
  refine Program.Safe.writeThen fun three interfered => ?_
  obtain ⟨reporting, -⟩ := (show Reporting true two from
    ⟨inv, held.1, reported, held.2⟩).stable interfered
  have sealing : ReportStep three.usb { three.usb with state := { three.usb.state with
      desired := .hidden, safetyPending := true, observed := .detaching } } :=
    ⟨fun h => h, fun _ => by simp, rfl, fun h => h, fun h => h, fun _ => ⟨rfl, by simp⟩⟩
  have sealed : Reporting true ({ three with usb := { three.usb with state := { three.usb.state with
      desired := .hidden, safetyPending := true, observed := .detaching } } } : State) :=
    ⟨reporting.write_usb _, reporting.first, reporting.reported, reporting.pending⟩
  refine ⟨fun _ => ⟨sealed.inv, .report_usb id sealing⟩, fun last interfered => ?_⟩
  obtain ⟨after, frame⟩ := sealed.stable interfered
  exact ⟨rfl, after, frame.sealed sealed.first sealed.reported ⟨rfl, by simp⟩⟩

/-- The first report is accepted only once it has sealed the lifecycle. -/
theorem safe_signal_first (id : Nat) (reason : UsbRuntimeFaultReason) {state : State}
    (inv : state.Inv) (first : ¬state.FaultAccepted)
    (fresh : state.usb.runtimeFaultPending = false) (clear : state.activeOperation ≠ .usbDetach) :
    (signalUsbRuntimeFault id reason).Safe (Within (ReporterFrame id)) (Within (ReporterGuar id))
      (fun _ last => Later id last) state := by
  unfold signalUsbRuntimeFault
  refine Program.Safe.writeThen fun one interfered => ?_
  obtain ⟨inv, frame⟩ := interfered inv
  have still : ¬one.FaultAccepted := by
    rw [State.FaultAccepted, frame.stage first]
    exact first
  have pending := (frame.fresh first).trans fresh
  obtain ⟨inv, reported, guar⟩ := inv.publish id reason (.inr (frame.claim first clear))
  have reporting : Reporting false (publishFaultReason reason one) := by
    obtain ⟨_, _, same⟩ := publishFaultReason_eq reason one
    refine ⟨inv, ?_, reported, ?_⟩ <;> rw [same]
    · exact still
    · exact pending
  refine ⟨fun _ => ⟨inv, guar⟩, Program.Safe.readThen fun two interfered => ?_⟩
  obtain ⟨reporting, -⟩ := reporting.stable interfered
  refine ⟨fun inv => ⟨inv, .refl id _⟩, ?_⟩
  simp only [beginRuntimeFault, onUsb_bind, onUsb_readModifyWrite]
  rw [Program.bind_assoc]
  refine Program.Safe.changeThen fun three interfered => ?_
  obtain ⟨reporting, -⟩ := reporting.stable interfered
  have step : ReportStep three.usb { three.usb with runtimeFaultPending := true } :=
    .of_state rfl (fun _ => rfl) (fun h => h) fun h => h
  have begun : Reporting true ({ three with usb.runtimeFaultPending := true } : State) :=
    ⟨reporting.write_usb _, reporting.first, reporting.reported, rfl⟩
  refine ⟨fun _ => ⟨begun.inv, .report_usb id step⟩, ?_⟩
  simp only [reporting.pending, Bool.false_eq_true, ↓reduceIte, onUsb_bind, onUsb_done,
    Program.pure_eq_done]
  refine Program.Safe.bind (Within.refl (ReporterFrame.refl id)) ?_
  refine (safe_seal id _ begun).mono ?_
  rintro _ four ⟨rfl, reporting, sealed⟩
  rw [if_pos rfl]
  refine Program.Safe.writeThen fun five interfered => ?_
  obtain ⟨after, frame⟩ := reporting.stable interfered
  have sealed := frame.sealed reporting.first reporting.reported sealed
  have accepted : ({ five with faultStage := .accepted id } : State).Inv :=
    ⟨after.inv.pending, fun _ => ⟨after.pending, sealed⟩, after.inv.operation,
      after.inv.uninstall, after.inv.single, fun held => absurd (after.inv.completed held).2
        after.first⟩
  have none : five.faultStage = .none := not_not.mp after.first
  refine ⟨fun _ => ⟨accepted, rfl, rfl, rfl, rfl, fun held => held, fun held => held,
    .inr (.inl ⟨none, rfl⟩), fun held => held, rfl, fun held => held, fun held => held,
    fun held => held⟩, ?_⟩
  refine Program.Safe.writeThen fun six interfered => ?_
  obtain ⟨inv, frame⟩ := interfered accepted
  have mine := frame.mine rfl
  have was : six.FaultAccepted := by simp [State.FaultAccepted, mine]
  have signalled : ({ six with wakePending := true, faultStage := .signalled } : State).Inv :=
    ⟨inv.pending, fun _ => inv.accepted was, inv.operation, inv.uninstall, inv.single,
      fun held => ⟨(inv.completed held).1, by simp [State.FaultAccepted]⟩⟩
  refine ⟨fun _ => ⟨signalled, rfl, rfl, rfl, rfl, fun held => held, fun held => held,
    .inr (.inr ⟨mine, rfl, rfl⟩), fun held => held, rfl, fun _ => rfl, fun held => held,
    fun held => held⟩, fun last interfered => ?_⟩
  obtain ⟨_, frame⟩ := interfered signalled
  exact (show Later id { six with wakePending := true, faultStage := .signalled } from
    ⟨by simp [State.FaultAccepted], by simp⟩).stable frame

end HidBot.UsbControl
