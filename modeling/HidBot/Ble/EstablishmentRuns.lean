import HidBot.Ble.EstablishmentTasks

/-!
# Runs on the lease

The controller task observes ingress, the host task processes establishments and resets, and
the control task starts and stops. Every step keeps the lease.
-/

namespace HidBot.BleTransport

open Interleaving

variable {before after cells : HciCells}

abbrev HciConfig := Config HciTask HciCells HciOperation (Option Bool)

/-- Each task makes its own calls. -/
def OwnOperations (_ : HciConfig) : Label HciTask HciOperation → Prop
  | .call task operation => operation.belongsTo task
  | .advance _ => True

def HciTask.Relies : HciTask → HciCells → HciCells → Prop
  | .controller => ByOthers
  | .host | .control => ByController

def HciTask.Does : HciTask → HciCells → HciCells → Prop
  | .controller => ByController
  | .host | .control => ByOthers

def HciTask.Leaves : HciTask → HciCells → Prop
  | .controller => Settled
  | .host | .control => fun _ => True

def hciContract : Contract HciTask HciCells HciOperation (Option Bool) where
  rely task _ := task.Relies
  guar task _ := task.Does
  post task _ _ := task.Leaves
  refl task _ cells := by
    cases task with
    | controller => exact ByOthers.refl cells
    | host | control => exact ByController.refl cells
  trans task _ first second third one two := by
    cases task with
    | controller => exact fun lease => (one lease).trans (two (one lease).lease)
    | host | control => exact fun lease => (one lease).trans (two (one lease).lease)

theorem HciTask.does_lease {task : HciTask} (does : task.Does before after)
    (lease : Lease before) : Lease after := by
  cases task with
  | controller => exact (does lease).lease
  | host | control => exact (does lease).lease

theorem HciTask.relies_of_does {task other : HciTask} (apart : task ≠ other)
    (does : task.Does before after) : other.Relies before after := by
  cases other with
  | controller =>
      cases task with
      | controller => exact absurd rfl apart
      | host | control => exact does
  | host | control =>
      cases task with
      | controller => exact does
      | host | control => exact fun lease => (does lease).toMoves

/-- A call beside the controller. -/
theorem kept_beside {task : HciTask} {operation : HciOperation} (aside : task ≠ .controller)
    {call : HciProgram (Option Bool)}
    (safe : call.Safe ByController ByOthers (fun _ _ => True) cells) :
    hciContract.Kept task operation call cells := by
  cases task with
  | controller => exact absurd rfl aside
  | host | control => exact safe

theorem setIngress_each (condition : Prop) [Decidable condition] (enabled : Bool) :
    (Program.onlyIf condition (setIngressEnabled enabled)).Each ByOthers :=
  .onlyIf condition (setIngressEnabled_each enabled)

theorem hciProgram_kept {task : HciTask} {operation : HciOperation} (lease : Lease cells)
    (own : operation.belongsTo task) (unreserved : task = .controller → cells.id ≠ reservation) :
    hciContract.Kept task operation (hciProgram task operation) cells := by
  have each {call : HciProgram (Option Bool)} (aside : task ≠ .controller)
      (each : call.Each ByOthers) : hciContract.Kept task operation call cells :=
    kept_beside aside (beside_safe each lease)
  cases operation with
  | observe event turns =>
      cases task with
      | controller => exact observeHciIngress_safe event turns ⟨lease, unreserved rfl⟩
      | host | control => cases own
  | process registry answer =>
      cases task with
      | host =>
          have safe := processHciEstablishment_safe registry answer lease
          exact .bind ByController.refl (safe.mono fun _ _ _ => beside_done none)
      | controller | control => cases own
  | reset closing =>
      refine each (fun same => by subst same; cases own) ?_
      refine .bind retireHciEstablishment_each fun _ => ?_
      refine .bind (setIngress_each _ true) fun _ => ?_
      exact .bind (.write fun _ lease => .still lease rfl rfl rfl rfl rfl) fun _ => trivial
  | start incarnation generation =>
      refine each (fun same => by subst same; cases own) ?_
      refine .bind (.write fun _ lease => .still lease rfl rfl rfl rfl rfl) fun _ => ?_
      refine .bind (.write fun _ lease => .still lease rfl rfl rfl rfl rfl) fun _ => ?_
      refine .bind retireHciEstablishment_each fun _ => ?_
      exact .bind (setIngressEnabled_each true) fun _ => trivial
  | beginStop refused =>
      refine each (fun same => by subst same; cases own) ?_
      refine .bind (setIngressEnabled_each false) fun _ => ?_
      refine .bind (.write fun _ lease => .still lease rfl rfl rfl rfl rfl) fun _ => ?_
      exact .bind (setIngress_each _ true) fun _ => trivial
  | stop =>
      refine each (fun same => by subst same; cases own) ?_
      exact .bind retireHciEstablishment_each fun _ => trivial
  | setGeneration generation =>
      refine each (fun same => by subst same; cases own) ?_
      exact .bind (.write fun _ lease => .still lease rfl rfl rfl rfl rfl) fun _ => trivial
  | setHidden requested =>
      refine each (fun same => by subst same; cases own) ?_
      exact .bind (.write fun _ lease => .still lease rfl rfl rfl rfl rfl) fun _ => trivial

section Runs

variable {config next : HciConfig} {label : Label HciTask HciOperation}

/-- The lease is kept, each call keeps its contract, and nothing is reserved beside no
ingress. -/
structure HciSound (config : HciConfig) : Prop where
  lease : Lease config.shared
  conforms : hciContract.Conforms config
  unreserved : config.running .controller = none → config.shared.id ≠ reservation

/-- One step keeps the runs sound. -/
theorem HciSound.step (sound : HciSound config) (own : OwnOperations config label)
    (stepped : config.step hciProgram label = some next) : HciSound next := by
  have ⟨conforms, moved⟩ := sound.conforms.step
    (fun task operation same idle => by
      subst same
      exact hciProgram_kept sound.lease own fun controller => sound.unreserved (controller ▸ idle))
    (fun task operation update rest other operation' call' same apart running found after does =>
      HciTask.relies_of_does apart does) stepped
  have lease : Lease next.shared := by
    rcases moved with same | ⟨task, operation, call, running, does⟩
    · exact same ▸ sound.lease
    · exact HciTask.does_lease does sound.lease
  refine ⟨lease, conforms, fun free => ?_⟩
  rcases Config.step_cases stepped with ⟨task, operation, rfl, idle, rfl⟩ |
    ⟨task, operation, update, rest, rfl, running, rfl⟩ |
    ⟨task, operation, result, rfl, running, rfl⟩
  · have aside : HciTask.controller ≠ task := by
      rintro rfl
      simp at free
    exact sound.unreserved (by simpa [Function.update_of_ne aside] using free)
  · have aside : HciTask.controller ≠ task := by
      rintro rfl
      simp at free
    have settled : Settled config.shared :=
      ⟨sound.lease, sound.unreserved (by simpa [Function.update_of_ne aside] using free)⟩
    have does := (sound.conforms task operation _ running config.shared (hciContract.refl ..)).1
    exact (Settled.stable _ _ settled (HciTask.relies_of_does aside.symm does)).unreserved
  · by_cases controller : task = .controller
    · subst controller
      exact (sound.conforms.returned running).unreserved
    · have aside : HciTask.controller ≠ task := Ne.symm controller
      exact sound.unreserved (by simpa [Function.update_of_ne aside] using free)

/-- **The lease is ABA-free.** No id is published twice. A confirmed id is the lease until it
is registered, is probed while it is the lease and unknown, is replaced after the host has
taken its disconnect, or is retired. No access on behalf of one id clears another. Beside no
ingress nothing is reserved. -/
theorem establishment_lease
    (reached : Reaches hciProgram OwnOperations (Config.initial {}) config) :
    (publishedIds config.shared.log).Nodup ∧
      (∀ id, .confirmed id ∈ config.shared.log →
        config.shared.id = id ∨ Ended config.shared.log id) ∧
      (∀ note ∈ config.shared.log, note.Spares) ∧
      (config.running .controller = none → config.shared.id ≠ reservation) := by
  have sound : HciSound config := by
    refine reached.induct ⟨.initial, Contract.conforms_initial _, fun _ => by decide⟩ ?_
    exact fun _ _ _ sound own stepped => sound.step own stepped
  refine ⟨sound.lease.distinct, fun id confirmed => ?_, sound.lease.spares, sound.unreserved⟩
  refine (sound.lease.kept id (sound.lease.confirmed id confirmed)).imp_right fun gone => ?_
  refine gone.resolve_right fun ⟨before, withdrawn⟩ => ?_
  exact (sound.lease.withdrawn id before withdrawn).2 confirmed

/-! ### A replaced establishment -/

/-- A Connection Complete of a peripheral. -/
def connectionComplete (handle : UInt8) : List UInt8 :=
  [0x3e, 19, 0x01, 0, handle, 0, 1] ++ .replicate 14 0

/-- The stack starts, and a connection is published. -/
def connected : List (Label HciTask HciOperation) :=
  .call .control (.start 1 1) :: .replicate 11 (.advance .control) ++
  .call .controller (.observe (connectionComplete 0x40) [false]) ::
    .replicate 19 (.advance .controller)

theorem establishment_lease_connected : ∃ config : HciConfig,
    config.shared.log = [.confirmed 1, .published 1 0x40 reservation, .reserved 1 0, .retired 0] ∧
      config.shared.id = 1 := by
  have replayed : (replay hciProgram connected (Config.initial {})).map (·.shared.log) =
      some [.confirmed 1, .published 1 0x40 reservation, .reserved 1 0, .retired 0] := by
    decide +kernel
  obtain ⟨config, replayed, log⟩ := Option.map_eq_some_iff.mp replayed
  have reached : Reaches hciProgram OwnOperations (Config.initial {}) config := by
    refine .of_replay ?_ replayed
    simp [connected, OwnOperations, HciOperation.belongsTo]
  refine ⟨config, log, ?_⟩
  rcases (establishment_lease reached).2.1 1 (log ▸ .head _) with held | ended
  · exact held
  · rw [log] at ended
    cases ended with
    | registered handle before order => exact absurd (order.subset (.head _)) (by simp)
    | absent handle order => exact absurd (order.subset (.head _)) (by simp)
    | replaced successor order => exact absurd (order.subset (.tail _ (.head _))) (by simp)
    | retired inside => exact absurd inside (by decide)

/-- The host has taken the disconnect and not sent it when another connection comes. -/
def replacedUnprobed : List (Label HciTask HciOperation) :=
  connected ++ .call .host (.process ⟨[], by decide⟩ 0) :: .replicate 11 (.advance .host) ++
  .call .controller (.observe (connectionComplete 0x41) [false]) ::
    .replicate 25 (.advance .controller)

/-- **A confirmed id is replaced for which no probe has been issued.** -/
theorem establishment_replaced : ¬∀ config : HciConfig,
    Reaches hciProgram OwnOperations (Config.initial {}) config →
      ∀ id, .confirmed id ∈ config.shared.log → config.shared.id = id ∨
        (∃ handle, .registered id handle ∈ config.shared.log) ∨
        .unknown id ∈ config.shared.log ∨
        (∃ handle, .probed id handle id ∈ config.shared.log) ∨
        .retired id ∈ config.shared.log := by
  intro stays
  have replayed : (replay hciProgram replacedUnprobed (Config.initial {})).map
      (fun config => (config.shared.id, config.shared.log)) =
      some (2, [.confirmed 2, .published 2 0x41 reservation, .reserved 2 1, .owned 1,
        .confirmed 1, .published 1 0x40 reservation, .reserved 1 0, .retired 0]) := by
    decide +kernel
  obtain ⟨config, replayed, found⟩ := Option.map_eq_some_iff.mp replayed
  obtain ⟨id, log⟩ := Prod.mk.inj found
  have reached : Reaches hciProgram OwnOperations (Config.initial {}) config := by
    refine .of_replay ?_ replayed
    simp [replacedUnprobed, connected, OwnOperations, HciOperation.belongsTo]
  have left := stays config reached 1 (by simp [log])
  simp [id, log] at left

end Runs

end HidBot.BleTransport
