import HidBot.Runtime.LinkAgreement

/-!
# Runs on the USB link

The control task requests an attach, the executor completes installs, and the USB stack
calls back. Beside a host that is known to both words, the request must not store its
bits and the install must not store what it has observed; then the words agree whenever
no callback is in progress.
-/

namespace HidBot.Runtime

open Interleaving

inductive LinkTask where
  | control
  | executor
  | callback
  deriving DecidableEq, Repr

inductive LinkOperation where
  | requestUsbAttach (taken : Bool)
  | completeInstall (result : UsbControl.BackendResult)
  | onMount
  | onUnmount (task : Route.Task)
  | onSuspend (task : Route.Task)
  | onResume

def LinkOperation.task : LinkOperation → LinkTask
  | .requestUsbAttach _ => .control
  | .completeInstall _ => .executor
  | .onMount | .onUnmount _ | .onSuspend _ | .onResume => .callback

def linkProgram (_ : LinkTask) : LinkOperation → Program Words Unit
  | .requestUsbAttach taken => requestUsbAttach taken >>= fun _ => pure ()
  | .completeInstall result => onUsb (UsbControl.completeInstall result)
  | .onMount => onMount
  | .onUnmount task => onUnmount task
  | .onSuspend task => onSuspend task
  | .onResume => onResume

abbrev LinkConfig := Config LinkTask Words LinkOperation Unit

/-- Each task makes its own calls. -/
def OwnCalls (_ : LinkConfig) : Label LinkTask LinkOperation → Prop
  | .call task operation => operation.task = task
  | .advance _ => True

/-- The next access of the task, if it is in a call. -/
def LinkConfig.Next (config : LinkConfig) (task : LinkTask) (holds : (Words → Words) → Prop) :
    Prop :=
  ∀ operation update rest, config.running task = some (operation, .access update rest) →
    holds update

/-- An attach request stores its status bits, and an install stores what it has observed,
only beside no host. -/
def BesideNoHost (config : LinkConfig) : Label LinkTask LinkOperation → Prop
  | .call _ _ => True
  | .advance .callback => True
  | .advance .control =>
      config.shared.link.Attached ∧ config.shared.statusBits.mounted = true →
        config.Next .control fun store =>
          (store config.shared).statusBits = config.shared.statusBits
  | .advance .executor =>
      config.shared.link.Attached →
        config.Next .executor fun store =>
          (store config.shared).link.observed = config.shared.link.observed

/-! ### Contracts -/

/-- What an access of an operation does to the link. -/
def LinkOperation.Does : LinkOperation → Link → Link → Prop
  | .requestUsbAttach _ => Link.Requested
  | .completeInstall _ => Link.Installed
  | .onMount | .onUnmount _ | .onSuspend _ | .onResume => fun _ _ => True

/-- What a call of the task relies on. -/
def LinkTask.Relies : LinkTask → Words → Words → Prop
  | .callback => LinkRely
  | .control | .executor => fun _ _ => True

/-- What the link is like when the task returns. -/
def LinkTask.Leaves : LinkTask → Link → Prop
  | .callback => Link.Agrees
  | .control | .executor => fun _ => True

def linkContract : Contract LinkTask Words LinkOperation Unit where
  rely task _ := task.Relies
  guar _ operation before after := operation.Does before.link after.link
  post task _ _ words := task.Leaves words.link
  refl task _ words := by
    cases task with
    | callback => exact Link.Spared.refl words.link
    | control | executor => trivial
  trans task _ first second third one two := by
    cases task with
    | callback => exact Link.Spared.trans one two
    | control | executor => trivial

/-- A call beside the callbacks promises its accesses and nothing else. -/
theorem kept_of_each {task : LinkTask} {operation : LinkOperation} {words : Words}
    (aside : task ≠ .callback) {call : Program Words Unit}
    (each : call.Each fun before after => operation.Does before.link after.link) :
    linkContract.Kept task operation call words := by
  have leaves (words : Words) : task.Leaves words.link := by
    cases task with
    | callback => exact absurd rfl aside
    | control | executor => trivial
  have safe : call.Safe task.Relies (fun before after => operation.Does before.link after.link)
      (fun _ _ => True) words :=
    each.safe (fun _ _ _ _ => trivial) (fun _ _ _ does => ⟨does, trivial⟩) trivial
  exact safe.mono fun _ words _ => leaves words

/-- A call keeps its contract, if the words agree where a callback starts. -/
theorem linkProgram_kept {operation : LinkOperation} {words : Words}
    (agrees : operation.task = .callback → words.link.Agrees) :
    linkContract.Kept operation.task operation (linkProgram operation.task operation) words := by
  cases operation with
  | requestUsbAttach taken =>
      exact kept_of_each (by simp [LinkOperation.task])
        (.bind (requestUsbAttach_each taken) fun _ => trivial)
  | completeInstall result =>
      exact kept_of_each (by simp [LinkOperation.task]) (completeInstall_each result)
  | onMount => exact onMount_callback (agrees rfl)
  | onUnmount task => exact onUnmount_callback task (agrees rfl)
  | onSuspend task => exact onSuspend_callback task (agrees rfl)
  | onResume => exact onResume_callback (agrees rfl)

/-! ### Runs -/

section Runs

variable {start : Words} {config next : LinkConfig} {label : Label LinkTask LinkOperation}

/-- Each call is in its own task and keeps its contract, and the words agree beside no
callback. -/
structure LinkSound (config : LinkConfig) : Prop where
  own : ∀ task operation call, config.running task = some (operation, call) → operation.task = task
  conforms : linkContract.Conforms config
  agrees : config.running .callback = none → config.shared.link.Agrees

/-- What the other tasks do beside no host spares the link. -/
theorem LinkSound.spared (sound : LinkSound config) {task : LinkTask} (aside : task ≠ .callback)
    (beside : BesideNoHost config (.advance task)) {operation : LinkOperation}
    {update : Words → Words} {rest : Words → Program Words Unit}
    (running : config.running task = some (operation, .access update rest)) :
    config.shared.link.Spared (update config.shared).link := by
  have own := sound.own task operation _ running
  have does : operation.Does config.shared.link (update config.shared).link :=
    (sound.conforms task operation _ running config.shared (linkContract.refl ..)).1
  cases task with
  | callback => exact absurd rfl aside
  | control =>
      cases operation with
      | requestUsbAttach taken =>
          refine ⟨does.attached, does.detached, ?_⟩
          by_cases known : config.shared.link.Attached ∧ config.shared.statusBits.mounted = true
          · exact .inl (beside known _ _ _ running)
          · exact does.status.imp_right fun cleared => ⟨cleared, known⟩
      | completeInstall _ | onMount | onUnmount _ | onSuspend _ | onResume => cases own
  | executor =>
      cases operation with
      | completeInstall result =>
          refine ⟨fun attached => beside attached _ _ _ running, does.detached, .inl does.status⟩
      | requestUsbAttach _ | onMount | onUnmount _ | onSuspend _ | onResume => cases own

/-- One step keeps the runs sound. -/
theorem LinkSound.step (sound : LinkSound config) (own : OwnCalls config label)
    (beside : BesideNoHost config label)
    (stepped : config.step linkProgram label = some next) : LinkSound next := by
  have conforms : linkContract.Conforms next := by
    refine (sound.conforms.step_resuming ?_ ?_ stepped).1
    · rintro task operation rfl idle
      obtain rfl : operation.task = task := own
      exact linkProgram_kept fun callback => sound.agrees (callback ▸ idle)
    · rintro task operation update rest other operation' call rfl apart running found -
      refine (sound.conforms other operation' call found).stable ?_
      cases other with
      | callback => exact sound.spared apart beside running
      | control | executor => trivial
  refine ⟨?_, conforms, fun free => ?_⟩
  · rcases Config.step_cases stepped with ⟨task, operation, rfl, idle, rfl⟩ |
      ⟨task, operation, update, rest, rfl, running, rfl⟩ |
      ⟨task, operation, result, rfl, running, rfl⟩
    · intro other operation' call found
      by_cases same : other = task
      · subst same
        simp only [Function.update_self, Option.some.injEq, Prod.mk.injEq] at found
        exact found.1 ▸ own
      · exact sound.own other operation' call (by simpa [Function.update_of_ne same] using found)
    · intro other operation' call found
      by_cases same : other = task
      · subst same
        simp only [Function.update_self, Option.some.injEq, Prod.mk.injEq] at found
        exact found.1 ▸ sound.own other operation _ running
      · exact sound.own other operation' call (by simpa [Function.update_of_ne same] using found)
    · intro other operation' call found
      by_cases same : other = task
      · subst same
        simp at found
      · exact sound.own other operation' call (by simpa [Function.update_of_ne same] using found)
  · rcases Config.step_cases stepped with ⟨task, operation, rfl, idle, rfl⟩ |
      ⟨task, operation, update, rest, rfl, running, rfl⟩ |
      ⟨task, operation, result, rfl, running, rfl⟩
    · have aside : LinkTask.callback ≠ task := by
        rintro rfl
        simp at free
      exact sound.agrees (by simpa [Function.update_of_ne aside] using free)
    · have aside : LinkTask.callback ≠ task := by
        rintro rfl
        simp at free
      have agrees := sound.agrees (by simpa [Function.update_of_ne aside] using free)
      exact agrees.stable (sound.spared aside.symm beside running)
    · by_cases callback : task = .callback
      · subst callback
        exact sound.conforms.returned running
      · have aside : LinkTask.callback ≠ task := Ne.symm callback
        exact sound.agrees (by simpa [Function.update_of_ne aside] using free)

/-- **Beside no host, the words agree whenever no callback is in progress.** -/
theorem link_agrees (agrees : start.link.Agrees)
    (reached : Reaches linkProgram (fun config label => OwnCalls config label ∧
      BesideNoHost config label) (Config.initial start) config)
    (free : config.running .callback = none) : config.shared.link.Agrees := by
  have sound : LinkSound config := by
    refine reached.induct ⟨fun _ _ _ running => ?_, Contract.conforms_initial start,
      fun _ => agrees⟩ fun _ _ _ sound allowed stepped => sound.step allowed.1 allowed.2 stepped
    simp [Config.initial] at running
  exact sound.agrees free

/-- An installed driver that has seen no host. -/
def installed : Words :=
  { usbLifecycle := { state := { desired := .exposed, observed := .disconnected } } }

/-- The callback of a mount, and nothing beside it. -/
def mountAlone : List (Label LinkTask LinkOperation) :=
  .call .callback .onMount :: .replicate 58 (.advance .callback)

theorem link_agrees_mounted : ∃ config : LinkConfig,
    config.shared.link = ⟨.mounted, { mounted := true }⟩ ∧ config.shared.link.Agrees := by
  have replayed : (replay linkProgram mountAlone (Config.initial installed)).map (fun config =>
      (config.shared.link, (config.running .callback).isNone)) =
      some (⟨.mounted, { mounted := true }⟩, true) := by decide +kernel
  obtain ⟨config, replayed, found⟩ := Option.map_eq_some_iff.mp replayed
  simp only [Prod.mk.injEq, Option.isNone_iff_eq_none] at found
  obtain ⟨link, free⟩ := found
  have agrees : installed.link.Agrees := Link.agrees_detached (by decide) rfl
  refine ⟨config, link, link_agrees agrees (.of_replay ?_ replayed) free⟩
  simp [mountAlone, OwnCalls, BesideNoHost, LinkOperation.task]

end Runs

/-! ### The lost mount -/

/-- A request whose install mounts the host before the request has stored its bits. -/
def mountBeforeStore : List (Label LinkTask LinkOperation) :=
  .call .control (.requestUsbAttach true) :: .replicate 13 (.advance .control) ++
  .call .executor (.completeInstall ⟨.success, 0⟩) :: .replicate 5 (.advance .executor) ++
  .call .callback .onMount :: .replicate 58 (.advance .callback) ++
  .replicate 10 (.advance .control)

theorem replay_mountBeforeStore :
    (replay linkProgram mountBeforeStore (Config.initial {})).map (fun config =>
      (config.shared.link, (config.running .control).isNone, (config.running .executor).isNone,
        (config.running .callback).isNone)) = some (⟨.mounted, {}⟩, true, true, true) := by
  decide +kernel

/-- **A host is left mounted in the lifecycle and unmounted in the status.** -/
theorem mount_lost : ¬∀ start config, start.link.Agrees →
    Reaches linkProgram OwnCalls (Config.initial start) config → config.Idle →
      config.shared.link.Agrees := by
  intro agree
  obtain ⟨config, replayed, found⟩ := Option.map_eq_some_iff.mp replay_mountBeforeStore
  simp only [Prod.mk.injEq, Option.isNone_iff_eq_none] at found
  obtain ⟨link, control, executor, callback⟩ := found
  have reached : Reaches linkProgram OwnCalls (Config.initial {}) config := by
    refine .of_replay ?_ replayed
    simp [mountBeforeStore, OwnCalls, LinkOperation.task]
  have idle : config.Idle := by
    intro task
    cases task with
    | control => exact control
    | executor => exact executor
    | callback => exact callback
  have agrees := agree {} config (Link.agrees_detached (by decide) rfl) reached idle
  have mounted := agrees.mounted.mp (by rw [link]; exact .inl rfl)
  rw [link] at mounted
  cases mounted

end HidBot.Runtime
