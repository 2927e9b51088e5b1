import Mathlib.Data.List.Induction
import HidBot.Usb.Lifecycle

/-!
# Runs of the USB lifecycle

The operations of the state machine, each run without interference, and what holds
in every state that they reach. The lifecycle byte, the generation and the teardown
marker are the part of the words that decides an operation, so an operation is first
reduced to its effect on these three.
-/

namespace HidBot.UsbLifecycle

open Interleaving

/-- An operation of the state machine. A request comes with the answer of the
executor that is to schedule it. None of them begins a runtime fault. -/
inductive Operation where
  | requestAttach (scheduled : Bool)
  | requestDetach (scheduled : Bool)
  | completeInstallSuccess
  | completeInstallCleanFailure (errorCode : Int32)
  | completeInstallAmbiguousFailure (errorCode : Int32)
  | beginUninstall
  | completeUninstallSuccess
  | completeUninstallFailure (errorCode : Int32)
  | updateRuntimeFault (errorCode : Int32)
  | completeRuntimeFault (driverUninstalled : Bool)
  | observeMount
  | observeUnmount
  | observeSuspend
  | observeResume
  | markReleasePending
  | clearReleasePendingIfNotUncertain
  | markReleaseConfirmed
  | markReleaseUncertain
  | markReleaseUncertainForGeneration (generation : Generation)
  deriving DecidableEq, Repr

/-- The lifecycle words are the whole state, and scheduling does not reach them. -/
def attach (scheduled : Bool) : Program Words TransitionOutcome :=
  requestAttach id (fun words _ => words) fun _ _ => pure scheduled

def detach (scheduled : Bool) : Program Words TransitionOutcome :=
  requestDetach id (fun words _ => words) fun _ _ => pure scheduled

def Operation.apply (words : Words) : Operation → Words
  | .requestAttach scheduled => ((attach scheduled).exec words).2
  | .requestDetach scheduled => ((detach scheduled).exec words).2
  | .completeInstallSuccess => (UsbLifecycle.completeInstallSuccess.exec words).2
  | .completeInstallCleanFailure errorCode =>
      ((UsbLifecycle.completeInstallCleanFailure errorCode).exec words).2
  | .completeInstallAmbiguousFailure errorCode =>
      ((UsbLifecycle.completeInstallAmbiguousFailure errorCode).exec words).2
  | .beginUninstall => (UsbLifecycle.beginUninstall.exec words).2
  | .completeUninstallSuccess => (UsbLifecycle.completeUninstallSuccess.exec words).2
  | .completeUninstallFailure errorCode =>
      ((UsbLifecycle.completeUninstallFailure errorCode).exec words).2
  | .updateRuntimeFault errorCode =>
      ((UsbLifecycle.updateRuntimeFault errorCode).exec words).2
  | .completeRuntimeFault driverUninstalled =>
      ((UsbLifecycle.completeRuntimeFault driverUninstalled).exec words).2
  | .observeMount => (UsbLifecycle.observeMount.exec words).2
  | .observeUnmount => (UsbLifecycle.observeUnmount.exec words).2
  | .observeSuspend => (UsbLifecycle.observeSuspend.exec words).2
  | .observeResume => (UsbLifecycle.observeResume.exec words).2
  | .markReleasePending => (UsbLifecycle.markReleasePending.exec words).2
  | .clearReleasePendingIfNotUncertain =>
      (UsbLifecycle.clearReleasePendingIfNotUncertain.exec words).2
  | .markReleaseConfirmed => (UsbLifecycle.markReleaseConfirmed.exec words).2
  | .markReleaseUncertain => (UsbLifecycle.markReleaseUncertain.exec words).2
  | .markReleaseUncertainForGeneration generation =>
      ((UsbLifecycle.markReleaseUncertainForGeneration generation).exec words).2

/-- The words after these operations on a constructed state machine. -/
def run (history : List Operation) : Words := history.foldl Operation.apply {}

theorem run_concat (history : List Operation) (operation : Operation) :
    run (history ++ [operation]) = operation.apply (run history) := by
  simp [run]

/-! ### Effects -/

/-- The words that decide what an operation does, with no runtime fault pending. -/
structure Core where
  state : StateByte
  generation : Generation
  teardownBoundaryStarted : Bool
  deriving DecidableEq, Repr

def Words.core (words : Words) : Core where
  state := words.state
  generation := words.generation
  teardownBoundaryStarted := words.teardownBoundaryStarted

@[simp] theorem Words.core_state (words : Words) : words.core.state = words.state := rfl

@[simp] theorem Words.core_generation (words : Words) :
    words.core.generation = words.generation := rfl

@[simp] theorem Words.core_teardownBoundaryStarted (words : Words) :
    words.core.teardownBoundaryStarted = words.teardownBoundaryStarted := rfl

def Core.installing (core : Core) : Prop :=
  core.state.desired = .exposed ∧ core.state.observed = .attaching

def Core.uninstalling (core : Core) : Prop :=
  core.state.desired = .hidden ∧ core.state.observed = .detaching

instance (core : Core) : Decidable core.installing := inferInstanceAs (Decidable (_ ∧ _))

instance (core : Core) : Decidable core.uninstalling := inferInstanceAs (Decidable (_ ∧ _))

/-- An observation of the host is made while exposed, with no recovery due. -/
def Core.observing (core : Core) (applies : ObservedState → Bool) : Prop :=
  core.state.desired = .exposed ∧ applies core.state.observed ∧ core.state.recoveryRequired = false

instance (core : Core) (applies : ObservedState → Bool) : Decidable (core.observing applies) :=
  inferInstanceAs (Decidable (_ ∧ _))

def Core.attachable (core : Core) : Prop :=
  core.state.observed = .driverNotInstalled ∧ core.state.recoveryRequired = false

instance (core : Core) : Decidable core.attachable := inferInstanceAs (Decidable (_ ∧ _))

def Core.detachable (core : Core) : Prop :=
  core.state.desired = .exposed ∧ core.state.observed ≠ .attaching ∧
    core.state.observed ≠ .driverNotInstalled ∧ core.state.recoveryRequired = false

instance (core : Core) : Decidable core.detachable := inferInstanceAs (Decidable (_ ∧ _))

def Core.withState (core : Core) (state : StateByte) : Core := { core with state }

/-- What an operation does to the core. -/
def Operation.effect (core : Core) : Operation → Core
  | .requestAttach scheduled =>
      if core.attachable then {
        state := { core.state with
          desired := .exposed, observed := .attaching, recoveryRequired := !scheduled }
        generation := core.generation + 1
        teardownBoundaryStarted := false }
      else core
  | .requestDetach scheduled =>
      if core.detachable then core.withState { core.state with
        desired := .hidden, observed := .detaching, safetyPending := true
        recoveryRequired := !scheduled }
      else core
  | .completeInstallSuccess =>
      if core.installing then
        core.withState { core.state with observed := .disconnected, recoveryRequired := false }
      else core
  | .completeInstallCleanFailure _ =>
      if core.installing then core.withState { core.state with
        observed := .driverNotInstalled, recoveryRequired := false }
      else core
  | .completeInstallAmbiguousFailure _ =>
      if core.installing then core.withState { core.state with recoveryRequired := true }
      else core
  | .beginUninstall =>
      if core.uninstalling ∧ core.teardownBoundaryStarted = false then
        { core with generation := core.generation + 1, teardownBoundaryStarted := true }
      else core
  | .completeUninstallSuccess =>
      if core.uninstalling then core.withState { core.state with
        observed := .driverNotInstalled, recoveryRequired := false }
      else core
  | .completeUninstallFailure _ =>
      if core.uninstalling then core.withState { core.state with recoveryRequired := true }
      else core
  | .updateRuntimeFault _ | .completeRuntimeFault _ => core
  | .observeMount =>
      if core.observing (· != .detaching) then
        core.withState { core.state with observed := .mounted }
      else core
  | .observeUnmount =>
      if core.observing (· != .detaching) then { core with
        state := { core.state with observed := .disconnected }
        generation := if core.state.observed = .disconnected then core.generation
          else core.generation + 1 }
      else core
  | .observeSuspend =>
      if core.observing (· == .mounted) then
        core.withState { core.state with observed := .suspended }
      else core
  | .observeResume =>
      if core.observing (· == .suspended) then
        core.withState { core.state with observed := .mounted }
      else core
  | .markReleasePending => core.withState { core.state with safetyPending := true }
  | .clearReleasePendingIfNotUncertain =>
      if core.state.uncertain then core
      else core.withState { core.state with safetyPending := false }
  | .markReleaseConfirmed =>
      core.withState { core.state with safetyPending := false, uncertain := false }
  | .markReleaseUncertain | .markReleaseUncertainForGeneration _ =>
      core.withState { core.state with safetyPending := true, uncertain := true }

section Effects

variable {words : Words}

theorem exec_installExpected (words : Words) :
    installExpected.exec words = (decide words.core.installing, words) := by
  simp only [installExpected, desired, observed, Program.exec_read_bind, Program.exec_ite]
  by_cases exposed : words.state.desired = .exposed <;>
    simp [exposed, Words.core, Core.installing]

theorem exec_uninstallExpected (words : Words) :
    uninstallExpected.exec words = (decide words.core.uninstalling, words) := by
  simp only [uninstallExpected, desired, observed, Program.exec_read_bind, Program.exec_ite]
  by_cases hidden : words.state.desired = .hidden <;>
    simp [hidden, Words.core, Core.uninstalling]

theorem exec_snapshot_bind {α : Type} (rest : Snapshot → Program Words α) (words : Words) :
    (snapshot >>= rest).exec words = (rest (snapshot.exec words).1).exec words := by
  rw [Program.exec_bind]
  rfl

theorem exec_observationExpected (applies : ObservedState → Bool) (words : Words) :
    (observationExpected applies).exec words = (decide (words.core.observing applies), words) := by
  by_cases exposed : words.state.desired = .exposed <;>
    cases applied : applies words.state.observed <;>
    simp [observationExpected, desired, observed, exec_snapshot_bind, Core.observing, Words.core,
      exposed, applied]
  simp [snapshot]

/-- The byte decides whether the request is taken, and then the executor's answer
whether a recovery is due. -/
theorem attach_core (calm : words.runtimeFaultPending = false) (scheduled : Bool) :
    ((attach scheduled).exec words).2.core =
        (Operation.requestAttach scheduled).effect words.core ∧
      ((attach scheduled).exec words).2.runtimeFaultPending = false := by
  obtain ⟨_, _, _, _, _, _, _, desired, _, _, recovery, observed⟩ := words
  subst calm
  cases desired <;> cases recovery <;> cases observed <;> cases scheduled <;> exact ⟨rfl, rfl⟩

theorem detach_core (calm : words.runtimeFaultPending = false) (scheduled : Bool) :
    ((detach scheduled).exec words).2.core =
        (Operation.requestDetach scheduled).effect words.core ∧
      ((detach scheduled).exec words).2.runtimeFaultPending = false := by
  obtain ⟨_, _, _, _, _, _, _, desired, _, _, recovery, observed⟩ := words
  subst calm
  cases desired <;> cases recovery <;> cases observed <;> cases scheduled <;> exact ⟨rfl, rfl⟩

/-- With no runtime fault pending, an operation has its effect on the core. -/
theorem apply_core (calm : words.runtimeFaultPending = false) (operation : Operation) :
    (operation.apply words).core = operation.effect words.core ∧
      (operation.apply words).runtimeFaultPending = false := by
  cases operation with
  | requestAttach scheduled => exact attach_core calm scheduled
  | requestDetach scheduled => exact detach_core calm scheduled
  | completeInstallSuccess | completeInstallCleanFailure | completeInstallAmbiguousFailure =>
      by_cases installing : words.core.installing <;>
        simp [Operation.apply, Operation.effect, completeInstallSuccess,
          completeInstallCleanFailure, completeInstallAmbiguousFailure, Program.exec_bind,
          exec_installExpected, recordError, setRecoveryRequired, setObserved, writeState,
          Core.withState, installing, calm]
      rfl
  | completeUninstallSuccess | completeUninstallFailure =>
      by_cases uninstalling : words.core.uninstalling <;>
        simp [Operation.apply, Operation.effect, completeUninstallSuccess,
          completeUninstallFailure, Program.exec_bind, exec_uninstallExpected, recordError,
          setRecoveryRequired, setObserved, writeState, Core.withState, uninstalling, calm]
      rfl
  | beginUninstall =>
      by_cases uninstalling : words.core.uninstalling <;>
        cases started : words.teardownBoundaryStarted <;>
        simp [Operation.apply, Operation.effect, beginUninstall, Program.exec_bind,
          exec_uninstallExpected, advanceGeneration, UsbLifecycle.generation, uninstalling, started,
          calm] <;>
        simp [Words.core, started]
  | updateRuntimeFault | completeRuntimeFault =>
      simp [Operation.apply, Operation.effect, updateRuntimeFault, completeRuntimeFault, calm]
  | observeMount =>
      by_cases observing : words.core.observing (· != .detaching) <;>
        simp [Operation.apply, Operation.effect, observeMount, Program.exec_bind,
          exec_observationExpected, setObserved, writeState, Core.withState, observing, calm]
      rfl
  | observeUnmount =>
      by_cases observing : words.core.observing (· != .detaching) <;>
        by_cases disconnected : words.state.observed = .disconnected <;>
        simp [Operation.apply, Operation.effect, observeUnmount, Program.exec_bind,
          exec_observationExpected, setObserved, writeState, advanceGeneration, observed, observing,
          disconnected, calm] <;>
        rfl
  | observeSuspend =>
      by_cases observing : words.core.observing (· == .mounted) <;>
        simp [Operation.apply, Operation.effect, observeSuspend, Program.exec_bind,
          exec_observationExpected, setObserved, writeState, Core.withState, observing, calm]
      rfl
  | observeResume =>
      by_cases observing : words.core.observing (· == .suspended) <;>
        simp [Operation.apply, Operation.effect, observeResume, Program.exec_bind,
          exec_observationExpected, setObserved, writeState, Core.withState, observing, calm]
      rfl
  | markReleasePending | markReleaseConfirmed | markReleaseUncertain
    | markReleaseUncertainForGeneration => exact ⟨rfl, calm⟩
  | clearReleasePendingIfNotUncertain =>
      cases uncertain : words.state.uncertain <;>
        simp [Operation.apply, Operation.effect, clearReleasePendingIfNotUncertain,
          Core.withState, Words.core, uncertain, calm]

end Effects

theorem run_calm (history : List Operation) : (run history).runtimeFaultPending = false := by
  induction history using List.reverseRecOn with
  | nil => rfl
  | append_singleton history operation ih =>
      rw [run_concat]
      exact (apply_core ih operation).2

theorem run_concat_core (history : List Operation) (operation : Operation) :
    (run (history ++ [operation])).core = operation.effect (run history).core := by
  rw [run_concat]
  exact (apply_core (run_calm history) operation).1

/-! ### The lifecycle byte -/

/-- What holds of the byte in every reachable state. -/
structure StateByte.Consistent (state : StateByte) : Prop where
  hidden : state.desired = .hidden →
    state.observed = .driverNotInstalled ∨ state.observed = .detaching
  detaching : state.observed = .detaching → state.desired = .hidden
  uncertain : state.uncertain = true → state.safetyPending = true

variable {core : Core}

theorem StateByte.Consistent.onlyIf {condition : Prop} [Decidable condition] {after : Core}
    (consistent : core.state.Consistent) (taken : condition → after.state.Consistent) :
    (if condition then after else core).state.Consistent := by
  split
  · exact taken ‹_›
  · exact consistent

/-- An exposed byte that is not detaching. -/
theorem StateByte.Consistent.expose {state after : StateByte} (consistent : state.Consistent)
    (exposed : after.desired = .exposed) (observed : after.observed ≠ .detaching)
    (uncertain : after.uncertain = state.uncertain)
    (pending : after.safetyPending = state.safetyPending) : after.Consistent := by
  refine ⟨fun hidden => ?_, fun detaching => absurd detaching observed, ?_⟩
  · rw [exposed] at hidden
    cases hidden
  · rw [uncertain, pending]
    exact consistent.uncertain

theorem effect_consistent (consistent : core.state.Consistent) (operation : Operation) :
    (operation.effect core).state.Consistent := by
  cases operation with
  | requestAttach scheduled =>
      exact consistent.onlyIf fun _ => consistent.expose rfl nofun rfl rfl
  | requestDetach scheduled =>
      exact consistent.onlyIf fun _ => ⟨fun _ => .inr rfl, fun _ => rfl, fun _ => rfl⟩
  | completeInstallSuccess =>
      exact consistent.onlyIf fun installing => consistent.expose installing.1 nofun rfl rfl
  | completeInstallCleanFailure errorCode =>
      exact consistent.onlyIf fun installing => consistent.expose installing.1 nofun rfl rfl
  | completeInstallAmbiguousFailure errorCode =>
      exact consistent.onlyIf fun _ =>
        ⟨consistent.hidden, consistent.detaching, consistent.uncertain⟩
  | beginUninstall => exact consistent.onlyIf fun _ => consistent
  | completeUninstallSuccess =>
      exact consistent.onlyIf fun _ => ⟨fun _ => .inl rfl, nofun, consistent.uncertain⟩
  | completeUninstallFailure errorCode =>
      exact consistent.onlyIf fun _ =>
        ⟨consistent.hidden, consistent.detaching, consistent.uncertain⟩
  | updateRuntimeFault errorCode | completeRuntimeFault errorCode => exact consistent
  | observeMount | observeUnmount | observeSuspend | observeResume =>
      exact consistent.onlyIf fun observing => consistent.expose observing.1 nofun rfl rfl
  | markReleasePending =>
      exact ⟨consistent.hidden, consistent.detaching, fun _ => rfl⟩
  | clearReleasePendingIfNotUncertain =>
      rw [Operation.effect]
      split
      · exact consistent
      · exact ⟨consistent.hidden, consistent.detaching, fun uncertain => absurd uncertain ‹_›⟩
  | markReleaseConfirmed => exact ⟨consistent.hidden, consistent.detaching, nofun⟩
  | markReleaseUncertain | markReleaseUncertainForGeneration =>
      exact ⟨consistent.hidden, consistent.detaching, fun _ => rfl⟩

theorem run_consistent (history : List Operation) : (run history).state.Consistent := by
  induction history using List.reverseRecOn with
  | nil => exact ⟨fun _ => .inl rfl, nofun, nofun⟩
  | append_singleton history operation ih =>
      have core := congrArg Core.state (run_concat_core history operation)
      rw [← Words.core_state, core]
      exact effect_consistent ih operation

/-! ### Flags -/

/-- The completion of the install or of the uninstall that is in progress. -/
def Operation.Completes (state : StateByte) : Operation → Prop
  | .completeInstallSuccess | .completeInstallCleanFailure _ =>
      state.desired = .exposed ∧ state.observed = .attaching
  | .completeUninstallSuccess => state.desired = .hidden ∧ state.observed = .detaching
  | _ => False

theorem effect_uncertain {operation : Operation} (uncertain : core.state.uncertain = true)
    (other : operation ≠ .markReleaseConfirmed) :
    (operation.effect core).state.uncertain = true := by
  cases operation with
  | markReleaseConfirmed => exact absurd rfl other
  | _ =>
      unfold Operation.effect
      dsimp only
      first
      | exact uncertain
      | rfl
      | split <;> exact uncertain

theorem effect_recovery {operation : Operation} (recovery : core.state.recoveryRequired = true)
    (other : ¬operation.Completes core.state) :
    (operation.effect core).state.recoveryRequired = true := by
  cases operation with
  | requestAttach scheduled =>
      have refused : ¬core.attachable := fun attachable => by simp [attachable.2] at recovery
      rw [Operation.effect, if_neg refused]
      exact recovery
  | requestDetach scheduled =>
      have refused : ¬core.detachable := fun detachable => by
        simp [detachable.2.2.2] at recovery
      rw [Operation.effect, if_neg refused]
      exact recovery
  | completeInstallSuccess | completeInstallCleanFailure =>
      have refused : ¬core.installing := other
      rw [Operation.effect, if_neg refused]
      exact recovery
  | completeUninstallSuccess =>
      have refused : ¬core.uninstalling := other
      rw [Operation.effect, if_neg refused]
      exact recovery
  | _ =>
      unfold Operation.effect
      dsimp only
      first
      | exact recovery
      | split <;> first | exact recovery | rfl

/-! ### Generations -/

/-- A request takes the transition, whatever the executor answers. -/
def Operation.Taken (words : Words) : Operation → Prop
  | .requestAttach _ => (attachExchange words.state).1 = .accepted
  | .requestDetach _ => (detachExchange words.state).1 = .accepted
  | _ => False

/-- A request answers that it was accepted. -/
def Operation.Answers (words : Words) : Operation → Prop
  | .requestAttach scheduled => ((attach scheduled).exec words).1.actionResult = .accepted
  | .requestDetach scheduled => ((detach scheduled).exec words).1.actionResult = .accepted
  | _ => False

/-- The first `begin_uninstall` since a request to detach that counts as accepted, and
whose uninstall is in progress. -/
structure FirstUninstall (accepted : Words → Operation → Prop) (history : List Operation) :
    Prop where
  hidden : (run history).state.desired = .hidden
  detaching : (run history).state.observed = .detaching
  first : ∃ earlier scheduled later, history = earlier ++ .requestDetach scheduled :: later ∧
    accepted (run earlier) (.requestDetach scheduled) ∧ .beginUninstall ∉ later

/-- The operations that are to advance the generation after this history. -/
def Operation.Advances (accepted : Words → Operation → Prop) (history : List Operation) :
    Operation → Prop
  | .requestAttach scheduled => accepted (run history) (.requestAttach scheduled)
  | .observeUnmount => (UsbLifecycle.observeUnmount.exec (run history)).1 = true ∧
      (run history).state.observed ≠ .disconnected
  | .beginUninstall => FirstUninstall accepted history
  | _ => False

theorem attachExchange_accepted (words : Words) :
    (attachExchange words.state).1 = .accepted ↔ words.core.attachable := by
  cases desired : words.state.desired <;> cases observed : words.state.observed <;>
    cases recovery : words.state.recoveryRequired <;>
    simp [attachExchange, Core.attachable, desired, observed, recovery]

theorem detachExchange_accepted (words : Words) :
    (detachExchange words.state).1 = .accepted ↔ words.core.detachable := by
  cases desired : words.state.desired <;> cases observed : words.state.observed <;>
    cases recovery : words.state.recoveryRequired <;>
    simp [detachExchange, Core.detachable, desired, observed, recovery]

theorem observeUnmount_observed (words : Words) :
    (observeUnmount.exec words).1 = true ↔ words.core.observing (· != .detaching) := by
  by_cases observing : words.core.observing (· != .detaching) <;>
    by_cases disconnected : words.state.observed = .disconnected <;>
    simp [observeUnmount, Program.exec_bind, exec_observationExpected, observed, disconnected,
      observing]

/-- The teardown marker is set only by the teardown, and cleared by an attach. -/
theorem effect_teardown {operation : Operation} (other : operation ≠ .beginUninstall) :
    (operation.effect core).teardownBoundaryStarted = core.teardownBoundaryStarted ∨
      (operation.effect core).teardownBoundaryStarted = false ∧
        (operation.effect core).state.desired = .exposed := by
  cases operation with
  | beginUninstall => exact absurd rfl other
  | requestAttach scheduled =>
      rw [Operation.effect]
      split
      · exact .inr ⟨rfl, rfl⟩
      · exact .inl rfl
  | updateRuntimeFault | completeRuntimeFault | markReleasePending | markReleaseConfirmed
    | markReleaseUncertain | markReleaseUncertainForGeneration => exact .inl rfl
  | _ =>
      left
      rw [Operation.effect]
      split <;> rfl

/-- An operation leaves an uninstall in progress, or is the request to detach. -/
theorem effect_uninstalling {operation : Operation} (after : (operation.effect core).uninstalling) :
    core.uninstalling ∨ core.detachable ∧ ∃ scheduled, operation = .requestDetach scheduled := by
  obtain ⟨hidden, detaching⟩ := after
  cases operation with
  | requestDetach scheduled =>
      rw [Operation.effect] at hidden detaching
      split at hidden
      · exact .inr ⟨‹_›, scheduled, rfl⟩
      · rw [if_neg ‹_›] at detaching
        exact .inl ⟨hidden, detaching⟩
  | beginUninstall | completeInstallAmbiguousFailure | completeUninstallFailure
    | clearReleasePendingIfNotUncertain =>
      rw [Operation.effect] at hidden detaching
      left
      split at hidden
      · rw [if_pos ‹_›] at detaching
        exact ⟨hidden, detaching⟩
      · rw [if_neg ‹_›] at detaching
        exact ⟨hidden, detaching⟩
  | updateRuntimeFault | completeRuntimeFault | markReleasePending | markReleaseConfirmed
    | markReleaseUncertain | markReleaseUncertainForGeneration => exact .inl ⟨hidden, detaching⟩
  | _ =>
      rw [Operation.effect] at hidden detaching
      left
      split at detaching
      · cases detaching
      · rw [if_neg ‹_›] at hidden
        exact ⟨hidden, detaching⟩

/-- An operation leaves an exposure, or makes it and clears the marker. -/
theorem effect_exposed {operation : Operation}
    (after : (operation.effect core).state.desired = .exposed) :
    core.state.desired = .exposed ∨ (operation.effect core).teardownBoundaryStarted = false := by
  cases operation with
  | requestAttach scheduled =>
      rw [Operation.effect] at after ⊢
      split at after
      · rw [if_pos ‹_›]
        exact .inr rfl
      · exact .inl after
  | updateRuntimeFault | completeRuntimeFault | markReleasePending | markReleaseConfirmed
    | markReleaseUncertain | markReleaseUncertainForGeneration => exact .inl after
  | requestDetach scheduled =>
      rw [Operation.effect] at after
      split at after
      · cases after
      · exact .inl after
  | _ =>
      rw [Operation.effect] at after
      left
      split at after <;> exact after

/-- While exposed, no teardown has begun. -/
def Core.Untorn (core : Core) : Prop :=
  core.state.desired = .exposed → core.teardownBoundaryStarted = false

theorem effect_untorn (untorn : core.Untorn) (operation : Operation) :
    (operation.effect core).Untorn := by
  intro after
  rcases effect_exposed after with exposed | cleared
  · by_cases teardown : operation = .beginUninstall
    · have idle : ¬core.uninstalling := fun uninstalling => by simp [uninstalling.1] at exposed
      rw [teardown, Operation.effect, if_neg fun both => idle both.1]
      exact untorn exposed
    · rcases effect_teardown teardown with same | cleared
      · exact same.trans (untorn exposed)
      · exact cleared.1
  · exact cleared

theorem run_untorn (history : List Operation) : (run history).core.Untorn := by
  induction history using List.reverseRecOn with
  | nil => exact nofun
  | append_singleton history operation ih =>
      rw [run_concat_core]
      exact effect_untorn ih operation

theorem run_append (earlier later : List Operation) :
    run (earlier ++ later) = later.foldl Operation.apply (run earlier) := by
  simp [run]

/-- Without another teardown the marker stays clear. -/
theorem run_untorn_later {earlier : List Operation}
    (clear : (run earlier).teardownBoundaryStarted = false) {later : List Operation}
    (none : .beginUninstall ∉ later) :
    (run (earlier ++ later)).teardownBoundaryStarted = false := by
  induction later using List.reverseRecOn with
  | nil => simpa using clear
  | append_singleton later operation ih =>
      have kept := ih fun member => none (List.mem_append_left _ member)
      have other : operation ≠ .beginUninstall := by
        rintro rfl
        exact none (List.mem_append_right _ (List.mem_singleton_self _))
      rw [← List.append_assoc, ← Words.core_teardownBoundaryStarted, run_concat_core]
      rcases effect_teardown other with same | cleared
      · exact same.trans kept
      · exact cleared.1

/-- The uninstall in progress is that of the request to detach taken last, and the
marker tells whether its teardown has begun. -/
theorem firstUninstall_of_marker {history : List Operation}
    (uninstalling : (run history).core.uninstalling)
    (clear : (run history).teardownBoundaryStarted = false) :
    ∃ earlier scheduled later, history = earlier ++ .requestDetach scheduled :: later ∧
      Operation.Taken (run earlier) (.requestDetach scheduled) ∧ .beginUninstall ∉ later := by
  induction history using List.reverseRecOn with
  | nil => cases uninstalling.2
  | append_singleton history operation ih =>
      rw [← Words.core_teardownBoundaryStarted] at clear
      rw [run_concat_core] at uninstalling clear
      rcases effect_uninstalling uninstalling with before | ⟨detachable, scheduled, rfl⟩
      · have other : operation ≠ .beginUninstall := by
          rintro rfl
          rw [Operation.effect] at clear
          split at clear
          · cases clear
          · exact absurd (And.intro before clear) ‹_›
        have same : (run history).teardownBoundaryStarted = false := by
          have marker : (operation.effect (run history).core).teardownBoundaryStarted =
              (run history).core.teardownBoundaryStarted ∨ _ := effect_teardown other
          rcases marker with same | exposed
          · exact same.symm.trans clear
          · rw [uninstalling.1] at exposed
            cases exposed.2
        obtain ⟨earlier, scheduled, later, rfl, taken, none⟩ := ih before same
        refine ⟨earlier, scheduled, later ++ [operation], by simp, taken, fun member => ?_⟩
        rcases List.mem_append.mp member with sooner | last
        · exact none sooner
        · exact other (List.mem_singleton.mp last).symm
      · exact ⟨history, scheduled, [], rfl, (detachExchange_accepted _).mpr detachable, nofun⟩

theorem firstUninstall_iff (history : List Operation) :
    FirstUninstall Operation.Taken history ↔
      (run history).core.uninstalling ∧ (run history).teardownBoundaryStarted = false := by
  constructor
  · rintro ⟨hidden, detaching, earlier, scheduled, later, rfl, taken, none⟩
    have detachable := (detachExchange_accepted _).mp taken
    have clear : (run (earlier ++ [.requestDetach scheduled])).teardownBoundaryStarted = false := by
      rw [← Words.core_teardownBoundaryStarted, run_concat_core, Operation.effect,
        if_pos detachable]
      exact run_untorn earlier detachable.1
    refine ⟨⟨hidden, detaching⟩, ?_⟩
    simpa using run_untorn_later clear none
  · rintro ⟨⟨hidden, detaching⟩, clear⟩
    have uninstalling : (run history).core.uninstalling := ⟨hidden, detaching⟩
    exact ⟨hidden, detaching, firstUninstall_of_marker uninstalling clear⟩

/-- An operation advances the generation by one, or leaves it. -/
theorem run_generation (history : List Operation) (operation : Operation) :
    (operation.Advances Operation.Taken history ∧
      (run (history ++ [operation])).generation = (run history).generation + 1) ∨
    (¬operation.Advances Operation.Taken history ∧
      (run (history ++ [operation])).generation = (run history).generation) := by
  have effect : (run (history ++ [operation])).generation =
      (operation.effect (run history).core).generation :=
    congrArg Core.generation (run_concat_core history operation)
  rw [effect]
  cases operation with
  | requestAttach scheduled =>
      have taken := attachExchange_accepted (run history)
      rw [Operation.effect]
      split
      · exact .inl ⟨taken.mpr ‹_›, rfl⟩
      · exact .inr ⟨fun advances => absurd (taken.mp advances) ‹_›, rfl⟩
  | beginUninstall =>
      have first := firstUninstall_iff history
      rw [Operation.effect]
      split
      · exact .inl ⟨first.mpr ‹_›, rfl⟩
      · exact .inr ⟨fun advances => absurd (first.mp advances) ‹_›, rfl⟩
  | observeUnmount =>
      have unmount := observeUnmount_observed (run history)
      rw [Operation.effect, Words.core_state]
      split
      · dsimp only
        split
        · exact .inr ⟨fun advances => absurd ‹_› advances.2, rfl⟩
        · exact .inl ⟨⟨unmount.mpr ‹_›, ‹_›⟩, rfl⟩
      · exact .inr ⟨fun advances => absurd (unmount.mp advances.1) ‹_›, rfl⟩
  | updateRuntimeFault | completeRuntimeFault | markReleasePending | markReleaseConfirmed
    | markReleaseUncertain | markReleaseUncertainForGeneration => exact .inr ⟨nofun, rfl⟩
  | _ =>
      refine .inr ⟨nofun, ?_⟩
      rw [Operation.effect]
      split <;> rfl

/-- What every operation does in every reachable state, with the requests that count as
accepted: the byte is consistent, uncertainty ends with a confirmed release, a recovery
with the completion in progress, and the generation counts what is to advance it. -/
structure Sound (accepted : Words → Operation → Prop) (history : List Operation)
    (operation : Operation) : Prop where
  consistent : (run history).state.Consistent
  uncertain : (run history).state.uncertain = true →
    (run (history ++ [operation])).state.uncertain = false → operation = .markReleaseConfirmed
  recovery : (run history).state.recoveryRequired = true →
    (run (history ++ [operation])).state.recoveryRequired = false →
      operation.Completes (run history).state
  advances : operation.Advances accepted history →
    (run (history ++ [operation])).generation = (run history).generation + 1
  stays : ¬operation.Advances accepted history →
    (run (history ++ [operation])).generation = (run history).generation

theorem usb_lifecycle_invariant (history : List Operation) (operation : Operation) :
    Sound Operation.Taken history operation := by
  have effect : (run (history ++ [operation])).state =
      (operation.effect (run history).core).state :=
    congrArg Core.state (run_concat_core history operation)
  refine ⟨run_consistent history, fun uncertain cleared => ?_, fun recovery cleared => ?_,
    fun advances => ?_, fun stays => ?_⟩
  · by_contra other
    rw [effect, effect_uncertain uncertain other] at cleared
    cases cleared
  · by_contra other
    rw [effect, effect_recovery recovery other] at cleared
    cases cleared
  · exact (run_generation history operation).resolve_right (fun stays => stays.1 advances) |>.2
  · exact (run_generation history operation).resolve_left (fun moves => stays moves.1) |>.2

/-- An attach that the executor does not schedule answers busy and still advances the
generation. -/
theorem usb_lifecycle_busy_attach :
    ¬∀ history operation, Sound Operation.Answers history operation := by
  intro sound
  have busy : ((attach false).exec (run [])).1.actionResult ≠ .accepted := by decide
  have kept := (sound [] (.requestAttach false)).stays busy
  exact absurd kept (by decide)

end HidBot.UsbLifecycle
