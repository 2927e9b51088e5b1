import HidBot.Ble.GraceSlots
import HidBot.Interleaving.Lives

/-!
# The timers of released routes

`RouteReleaseGraceOwnership` of the transport, with the one-shot timer of each slot. The owner
arms a slot and starts its timer, and cancels the arm. A timer that has expired dispatches its
callback, which may be delayed for any time. A cancel that comes too late to stop the timer and
the callback that was dispatched hand the slot over to each other.
-/

namespace HidBot.GraceOwnership

open Interleaving GraceSlots

inductive SlotState where
  | idle
  | arming
  | armed
  | canceling
  | canceledAwaitingCallback
  | canceledCallbackObserved
  | callbackOwned
  deriving DecidableEq

namespace SlotState

def code : SlotState → UInt8
  | idle => 0
  | arming => 1
  | armed => 2
  | canceling => 3
  | canceledAwaitingCallback => 4
  | canceledCallbackObserved => 5
  | callbackOwned => 6

def all : List SlotState :=
  [idle, arming, armed, canceling, canceledAwaitingCallback, canceledCallbackObserved,
    callbackOwned]

def ofCode (code : UInt8) : Option SlotState := all.find? (·.code = code)

theorem ofCode_code (state : SlotState) : ofCode state.code = some state := by
  cases state <;> rfl

theorem code_inj {first second : SlotState} : first.code = second.code ↔ first = second := by
  refine ⟨fun same => ?_, fun same => same ▸ rfl⟩
  have found := ofCode_code first
  rw [same, ofCode_code] at found
  exact (Option.some.inj found).symm

end SlotState

def pack (incarnation : UInt64) (state : SlotState) : UInt64 :=
  Tagged.tagged incarnation state.code

def stateOf (ownership : UInt64) : Option SlotState := SlotState.ofCode (Tagged.tag ownership)

def withState (ownership : UInt64) (state : SlotState) : UInt64 :=
  Tagged.retag ownership state.code

/-! ### What a run remembers -/

/-- What can happen to an arm. -/
inductive Happening where
  | reserved
  | armed (identity : BleRouteReleaseIdentity)
  | aborted
  | started
  | canceling
  | stopped
  | withdrawn
  | awaiting
  | acknowledged
  | expired
  | taken
  | owned
  | signalled (identity : BleRouteReleaseIdentity)
  | observed
  | released
  deriving DecidableEq

structure Event where
  slot : Fin 2
  incarnation : UInt64
  happening : Happening
  deriving DecidableEq

/-- A one-shot timer, with the incarnations that it has been started for. Those of the callbacks
that are dispatched and have not begun stand in their order. -/
structure Timer where
  active : Option UInt64 := none
  dispatched : List UInt64 := []
  deriving DecidableEq

/-- The latest event first. -/
structure World where
  timers : Fin 2 → Timer := fun _ => {}
  log : List Event := []

abbrev State := Slots World

def World.note (slot : Fin 2) (incarnation : UInt64) (happening : Happening) (world : World) :
    World :=
  { world with log := ⟨slot, incarnation, happening⟩ :: world.log }

/-- An access of a timer. -/
def setTimer (state : State) (slot : Fin 2) (timer : Timer) (incarnation : UInt64)
    (happening : Happening) : State :=
  let timers := Function.update state.world.timers slot timer
  { state with world := World.note slot incarnation happening { state.world with timers } }

/-! ### The owner -/

def arming : Arming World where
  idle := SlotState.idle.code
  arming := SlotState.arming.code
  armed := SlotState.armed.code
  reserved slot incarnation := World.note slot incarnation .reserved
  published slot incarnation identity := World.note slot incarnation (.armed identity)

def abortArm (slot : Fin 2) (ownership : UInt64) : Program State Unit := do
  let _ ← exchange slot ownership (withState ownership .idle)
    (World.note slot (Tagged.number ownership) .aborted)

/-- `esp_timer_start_once`. It fails for a timer that is active, and may fail otherwise. -/
def startOnce (slot : Fin 2) (incarnation : UInt64) (able : Bool) : Program State Bool :=
  .readModifyWrite fun state =>
    let timer := state.world.timers slot
    if timer.active = none ∧ able = true then
      (true, setTimer state slot { timer with active := some incarnation } incarnation .started)
    else (false, state)

/-- `arm_ble_route_release_grace`. `none` is a call that is still in a loop. -/
def armBleRouteReleaseGrace (identity : BleRouteReleaseIdentity) (spurious : Fin 2 → List Bool)
    (created : Fin 2 → Bool) (able : Bool) : Program State (Option Bool) := do
  match ← arming.arm identity spurious with
  | none => return none
  | some none => return some false
  | some (some (slot, ownership)) =>
      if created slot = false then
        abortArm slot ownership
        return some false
      else
        let result ← startOnce slot (Tagged.number ownership) able
        if result = false then abortArm slot ownership
        return some result

def beginCancel (identity : BleRouteReleaseIdentity) :
    List (Fin 2) → Program State (Option (Fin 2 × UInt64))
  | [] => return none
  | slot :: rest => do
      let observed ← .read (·.ownership slot)
      if stateOf observed ≠ some .armed then beginCancel identity rest
      else
        let stored ← loadIdentity slot IdentityWord.loaded unarmed
        if !identitiesEqual stored identity then beginCancel identity rest
        else
          let canceling := withState observed .canceling
          match ← exchange slot observed canceling
              (World.note slot (Tagged.number observed) .canceling) with
          | none => return some (slot, canceling)
          | some _ => beginCancel identity rest

/-- `esp_timer_stop`. It succeeds only before the callback is dispatched. -/
def stopTimer (slot : Fin 2) : Program State Bool :=
  .readModifyWrite fun state =>
    let timer := state.world.timers slot
    match timer.active with
    | some incarnation =>
        (true, setTimer state slot { timer with active := none } incarnation .stopped)
    | none => (false, state)

def finishCancel (slot : Fin 2) (ownership : UInt64) (stoppedBeforeDispatch : Bool) :
    Program State Unit := do
  let incarnation := Tagged.number ownership
  if stoppedBeforeDispatch then
    let _ ← exchange slot ownership (withState ownership .idle)
      (World.note slot incarnation .withdrawn)
  else
    match ← exchange slot ownership (withState ownership .canceledAwaitingCallback)
        (World.note slot incarnation .awaiting) with
    | none => return ()
    | some _ =>
        let _ ← exchange slot (withState ownership .canceledCallbackObserved)
          (withState ownership .idle) (World.note slot incarnation .acknowledged)

def cancelBleRouteReleaseGrace (identity : BleRouteReleaseIdentity) : Program State Unit := do
  match ← beginCancel identity [0, 1] with
  | none => return ()
  | some (slot, ownership) => finishCancel slot ownership (← stopTimer slot)

/-! ### The timers and their callbacks -/

/-- The timer of the slot expires, if it is active: its callback is dispatched. -/
def expiry (slot : Fin 2) (state : State) : State :=
  let timer := state.world.timers slot
  match timer.active with
  | some incarnation => setTimer state slot
      { active := none, dispatched := timer.dispatched ++ [incarnation] } incarnation .expired
  | none => state

def expire (slot : Fin 2) : Program State Unit := .write (expiry slot)

/-- The callback that was dispatched first begins, if there is one. -/
def take (slot : Fin 2) : Program State Bool :=
  .readModifyWrite fun state =>
    let timer := state.world.timers slot
    match timer.dispatched with
    | incarnation :: rest =>
        (true, setTimer state slot { timer with dispatched := rest } incarnation .taken)
    | [] => (false, state)

inductive CallbackClaim where
  | ignore
  | suppressed
  | signal (identity : BleRouteReleaseIdentity)
  deriving DecidableEq

/-- The loop of `begin_callback`. `none` is a callback that is still in it. -/
def beginCallback (slot : Fin 2) : List Bool → Program State (Option CallbackClaim)
  | [] => return none
  | spurious :: rest => do
      let observed ← .read (·.ownership slot)
      let incarnation := Tagged.number observed
      match stateOf observed with
      | some .armed =>
          let owned := withState observed .callbackOwned
          match ← exchange slot observed owned (World.note slot incarnation .owned) spurious with
          | some _ => beginCallback slot rest
          | none =>
              let identity ← loadIdentity slot IdentityWord.loaded unarmed
              .write fun state => state.setOwnership slot (withState owned .idle)
                (World.note slot incarnation (.signalled identity))
              return some (.signal identity)
      | some .canceling =>
          match ← exchange slot observed (withState observed .canceledCallbackObserved)
              (World.note slot incarnation .observed) spurious with
          | some _ => beginCallback slot rest
          | none => return some .suppressed
      | some .canceledAwaitingCallback =>
          match ← exchange slot observed (withState observed .idle)
              (World.note slot incarnation .released) spurious with
          | some _ => beginCallback slot rest
          | none => return some .suppressed
      | _ => return some .ignore

/-- `route_release_grace_callback` up to what it signals. -/
def callback (slot : Fin 2) (spurious : List Bool) : Program State (Option CallbackClaim) := do
  if ← take slot then beginCallback slot spurious else return none

def allIdle : Program State Bool := do
  let first ← .read fun state => decide (stateOf (state.ownership 0) = some .idle)
  let second ← .read fun state => decide (stateOf (state.ownership 1) = some .idle)
  return first && second

/-! ### Tasks -/

inductive Task where
  | owner
  | clock
  | callback (slot : Fin 2)
  deriving DecidableEq

inductive Operation where
  | arm (identity : BleRouteReleaseIdentity) (spurious : Fin 2 → List Bool)
      (created : Fin 2 → Bool) (able : Bool)
  | cancel (identity : BleRouteReleaseIdentity)
  | expire (slot : Fin 2)
  | callback (spurious : List Bool)
  | allIdle

inductive Answer where
  | done
  | flag (flag : Option Bool)
  | claim (claim : Option CallbackClaim)
  deriving DecidableEq

def Task.slot : Task → Fin 2
  | callback slot => slot
  | owner | clock => 0

def program (task : Task) : Operation → Program State Answer
  | .arm identity spurious created able =>
      return .flag (← armBleRouteReleaseGrace identity spurious created able)
  | .cancel identity => do
      cancelBleRouteReleaseGrace identity
      return .done
  | .expire slot => do
      expire slot
      return .done
  | .callback spurious => return .claim (← callback task.slot spurious)
  | .allIdle => return .flag (some (← allIdle))

/-- One owner arms and cancels, the clock lets timers expire, and each slot has its callback. -/
def Operation.ofTask : Operation → Task → Prop
  | arm .., .owner | cancel _, .owner | allIdle, .owner => True
  | expire _, .clock => True
  | callback _, .callback _ => True
  | _, _ => False

def Admitted (_ : Config Task State Operation Answer) : Label Task Operation → Prop
  | .call task operation => operation.ofTask task
  | .advance _ => True

end HidBot.GraceOwnership
