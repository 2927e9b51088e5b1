import HidBot.Ble.GraceCallbacks
import HidBot.Interleaving.Fallible

/-!
# Late callbacks in every order of accesses

The log is lawful in every configuration of a run, and each signal that a callback has returned
is on it. So what holds of lawful logs holds of every run.
-/

namespace HidBot.GraceOwnership

open Interleaving GraceSlots

/-! ### Runs -/

/-- What holds of a task between its calls. -/
def AtRest : Task → State → Prop
  | .owner => Calm
  | .clock | .callback _ => Inv

def besides : Task → State → State → Prop
  | .owner => Others
  | .clock => Around (Other .clock)
  | .callback slot => Rest slot

def promises : Task → State → State → Prop
  | .owner => Mine
  | .clock => Beside (Own .clock)
  | .callback slot => Callback slot

def contract : Contract Task State Operation Answer where
  rely task _ := besides task
  guar task _ := promises task
  post task _ answer later := AtRest task later ∧ answer ≠ .claim (some .ignore)
  refl
    | .owner, _ => Beside.refl
    | .clock, _ | .callback _, _ => Around.refl
  trans
    | .owner, _ => fun _ _ _ => Arming.Beside.trans Grows.trans
    | .clock, _ | .callback _, _ => fun _ _ _ => Arming.Around.trans Grows.trans

theorem promises_besides {task other : Task} {before after : State} (different : task ≠ other)
    (promised : promises task before after) : besides other before after := by
  have foreign (event : Event) (own : Own task event) : Other other event :=
    fun same => different (own.symm.trans same)
  have grows (before after : World) (grown : Grows (Own task) before after) :
      Grows (Other other) before after := Adds.mono grown foreign
  cases task with
  | owner =>
      cases other with
      | owner => exact absurd rfl different
      | clock | callback slot => exact Arming.Around.mono grows promised
  | clock | callback slot =>
      cases other with
      | owner => exact Arming.Beside.mono grows promised
      | clock | callback other => exact Arming.Around.mono grows promised.toAround

theorem around_of_promises {task : Task} {before after : State}
    (promised : promises task before after) : (Inv before → Inv after) := by
  cases task with
  | owner => exact promised.keeps
  | clock | callback slot => exact promised.keeps

theorem AtRest.besides {task : Task} {before after : State} (rest : AtRest task before)
    (beside : besides task before after) : AtRest task after := by
  cases task with
  | owner => exact Calm.others rest beside
  | clock | callback slot => exact beside.keeps rest

theorem program_kept {task : Task} {operation : Operation} {state : State}
    (rest : AtRest task state) (own : operation.ofTask task) :
    contract.Kept task operation (program task operation) state := by
  cases task with
  | owner =>
      cases operation with
      | arm identity spurious created able =>
          exact .map Answer.flag ((arm_safe rest identity spurious created able).mono
            fun _ _ calm => ⟨calm, by simp⟩)
      | cancel identity =>
          exact .map (fun _ => Answer.done) ((cancel_safe rest identity).mono
            fun _ _ calm => ⟨calm, by simp⟩)
      | allIdle =>
          exact .map (fun flag => Answer.flag (some flag)) ((allIdle_safe rest).mono
            fun _ _ calm => ⟨calm, by simp⟩)
      | expire | callback => exact own.elim
  | clock =>
      cases operation with
      | expire slot =>
          exact .map (fun _ => Answer.done) ((expire_safe rest slot).mono
            fun _ _ inv => ⟨inv, by simp⟩)
      | arm | cancel | callback | allIdle => exact own.elim
  | callback slot =>
      cases operation with
      | callback spurious =>
          refine .map Answer.claim ((callback_safe rest spurious).mono ?_)
          exact fun claim _ claimed => ⟨claimed.1, by simpa using claimed.2⟩
      | arm | cancel | expire | allIdle => exact own.elim

/-- What holds in every configuration of a run. -/
structure Sound (config : Config Task State Operation Answer) : Prop where
  conforms : contract.Conforms config
  inv : Inv config.shared
  rest (task : Task) : config.running task = none → AtRest task config.shared
  answered {task : Task} {operation : Operation} {answer : Answer} :
    (task, operation, answer) ∈ config.history → answer ≠ .claim (some .ignore)

theorem Sound.step {config next : Config Task State Operation Answer}
    {label : Label Task Operation} (sound : Sound config) (admitted : Admitted config label)
    (stepped : config.step program label = some next) : Sound next := by
  have started (task : Task) (operation : Operation) (called : label = .call task operation)
      (idle : config.running task = none) :
      contract.Kept task operation (program task operation) config.shared := by
    subst called
    exact program_kept (sound.rest task idle) admitted
  obtain ⟨conforms, -⟩ := sound.conforms.step started
    (fun task operation _ _ other _ _ _ different _ _ after => promises_besides different) stepped
  rcases Config.step_cases stepped with
    ⟨task, operation, rfl, idle, rfl⟩ | ⟨task, operation, update, rest, rfl, running, rfl⟩ |
      ⟨task, operation, result, rfl, running, rfl⟩
  · refine ⟨conforms, sound.inv, fun other free => sound.rest other ?_, sound.answered⟩
    by_cases same : other = task
    · subst same
      exact idle
    · simpa [same] using free
  · have promised : promises task config.shared (update config.shared) :=
      (sound.conforms task operation _ running config.shared (contract.refl ..)).1
    refine ⟨conforms, around_of_promises promised sound.inv, fun other free => ?_, sound.answered⟩
    by_cases same : other = task
    · subst same
      simp at free
    · exact (sound.rest other (by simpa [same] using free)).besides
        (promises_besides (Ne.symm same) promised)
  · obtain ⟨rested, answered⟩ := sound.conforms.returned running
    refine ⟨conforms, sound.inv, fun other free => ?_, fun member => ?_⟩
    · by_cases same : other = task
      · subst same
        exact rested
      · exact sound.rest other (by simpa [same] using free)
    · rcases List.mem_cons.mp member with same | earlier
      · obtain ⟨rfl, rfl, rfl⟩ := by simpa using same
        exact answered
      · exact sound.answered earlier

/-- Nothing is armed, and nothing has been yet. -/
def fresh : State := { world := {} }

theorem inv_fresh : Inv fresh where
  lawful := trivial
  ownership _ := by
    change (0 : UInt64) = pack 0 .idle
    decide
  timer _ := rfl
  identity here nonzero := absurd (Prod.mk.inj here).1.symm nonzero
  fresh _ := by simp [fresh, Lives.opened]

theorem sound_initial : Sound (Config.initial fresh) := by
  refine ⟨contract.conforms_initial _, inv_fresh, fun task _ => ?_, by simp [Config.initial]⟩
  cases task with
  | owner =>
      refine ⟨inv_fresh, fun slot => ?_⟩
      change ¬Standing.rest.Held
      decide
  | clock | callback slot => exact inv_fresh

variable {final : Config Task State Operation Answer}

theorem sound (reached : Reaches program Admitted (Config.initial fresh) final) : Sound final :=
  reached.induct sound_initial fun _ _ _ sound admitted stepped => sound.step admitted stepped

/-! ### Signals -/

/-- A callback of the slot has returned that it signals the identity. -/
def signals (slot : Fin 2) (identity : BleRouteReleaseIdentity) (task : Task) (_ : Operation) :
    Answer → Bool
  | .claim (some (.signal signalled)) => task = .callback slot && signalled = identity
  | _ => false

/-- The callback of the slot gives it back with this identity. -/
def Event.signals (slot : Fin 2) (identity : BleRouteReleaseIdentity) (event : Event) : Bool :=
  event.slot = slot && event.happening = .signalled identity

def tally (kind : Event → Bool) (state : State) : Nat := state.world.log.countP kind

def Grown (before after : State) : Prop := before.world.log <:+ after.world.log

theorem Grown.refl (state : State) : Grown state state := List.suffix_rfl

theorem Grown.of_same {before after : State} (same : after.world = before.world) :
    Grown before after := by
  rw [Grown, same]

theorem Grown.noted (state : State) (slot place : Fin 2) (word incarnation : UInt64)
    (happening : Happening) :
    Grown state (state.setOwnership slot word (World.note place incarnation happening)) :=
  List.suffix_cons ..

theorem Grown.tally_le {kind : Event → Bool} {before after : State} (grown : Grown before after) :
    tally kind before ≤ tally kind after := grown.sublist.countP_le

end HidBot.GraceOwnership
