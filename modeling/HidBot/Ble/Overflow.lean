import HidBot.Ble.Control
import HidBot.Interleaving.Rely

/-!
# Overflow marks

A BLE callback that could not queue its event marks the authority generation of
the event as uncertain. `consume_ble_overflow` fails that generation closed and
clears the mark, and it also clears marks it takes for stale.
-/

namespace HidBot.BleControl

open Interleaving BleLifecycle

/-- A snapshot only loads. -/
theorem snapshot_each {step : Words → Words → Prop} (refl : ∀ words, step words words) :
    snapshot.Each step := by
  repeat refine Program.Each.bind (.read refl _) fun _ => ?_
  trivial

/-! ### Producers -/

/-- `compare_exchange_weak` on a mark: it may fail although it found what it expected. -/
def exchangeMark (word : State → Generation) (store : Generation → State → State)
    (spurious : Bool) (observed authority : Generation) : Program State (Bool × Generation) :=
  .readModifyWrite fun state =>
    if word state = observed ∧ spurious = false then ((true, observed), store authority state)
    else ((false, word state), state)

/-- The loop that publishes a mark, with one entry for each turn that says
whether its exchange fails spuriously. -/
def markTurns (word : State → Generation) (store : Generation → State → State)
    (event : BleEvent) : List Bool → Generation → Program State Unit
  | [], _ => return ()
  | spurious :: turns, observed => do
      if observed ≠ event.generation then
        if ← eventTargetsCurrentBleAuthority event then
          let exchange ← exchangeMark word store spurious observed event.generation
          unless exchange.1 do
            markTurns word store event turns exchange.2

def storeOverflowAuthority (authority : Generation) (state : State) : State :=
  { state with overflowAuthority := authority }

def markBleEventOverflow (event : BleEvent) (turns : List Bool) : Program State Unit := do
  if ← eventTargetsCurrentBleAuthority event then
    if event.generation = 0 then
      if ← eventTargetsCurrentBleAuthority event then
        .write fun state => { state with overflowAuthorityZero := true }
    else
      let observed ← .read (·.overflowAuthority)
      markTurns (·.overflowAuthority) storeOverflowAuthority event turns observed

/-! ### The executor -/

def bleEventOverflowPending (authority : Generation) : Program State Bool := do
  if authority = 0 then
    .read (·.overflowAuthorityZero)
  else
    return (← .read (·.overflowAuthority)) = authority

def clearAuthority (authority : Generation) : Program State Unit :=
  if authority = 0 then
    .write fun state => { state with overflowAuthorityZero := false }
  else
    .write fun state =>
      if state.overflowAuthority = authority then { state with overflowAuthority := 0 } else state

/-- How a turn of the loop of `consume_ble_overflow` ends. -/
inductive Turn where
  | again
  | returned (overflowed : Bool)
  deriving DecidableEq, Repr

/-- A pending mark of the generation the turn has read: fail it closed, unless a
stronger fault is committed, and clear it. -/
def consumePending (authority : Generation) : Program State Turn := do
  let current ← onBle snapshot
  if current.generation ≠ authority then
    return .again
  if (← onBle generation) ≠ authority then
    return .again
  if ← .read fun state =>
      state.persistentStoreFailureCommitted || state.handoffFailureCommitted then
    clearAuthority authority
    return .returned true
  let active ← .read (·.activeOperation)
  failBle current.generation .runtime (-2) (transitionOwner current active)
  clearAuthority authority
  return .returned true

/-- A mark that is not the one the turn looked for is taken for stale. -/
def consumeStale : Program State Turn := do
  let stale ← .readModifyWrite fun state =>
    (state.overflowAuthority, { state with record := { state.record with
      sweeping := if state.overflowAuthority = 0 then none else some state.overflowAuthority } })
  if stale = 0 then
    return .returned false
  .write fun state => { state with
    overflowAuthority :=
      if state.overflowAuthority = stale then 0 else state.overflowAuthority
    record := { state.record with sweeping := none } }
  return .again

/-- Generation zero has a flag of its own, stale once the generation has advanced. -/
def consumeStaleZero : Program State Turn := do
  let staleZero ← .readModifyWrite fun state =>
    (state.overflowAuthorityZero, { state with overflowAuthorityZero := false })
  if staleZero then
    return .again
  consumeStale

def consumeTurn : Program State Turn := do
  let authority ← onBle generation
  if ← bleEventOverflowPending authority then
    consumePending authority
  else if authority = 0 then
    consumeStale
  else
    consumeStaleZero

/-- `consume_ble_overflow`, if its loop ends within `turns` turns. -/
def consumeBleOverflow : Nat → Program State (Option Bool)
  | 0 => return none
  | turns + 1 => do
      match ← consumeTurn with
      | .again => consumeBleOverflow turns
      | .returned overflowed => return some overflowed

/-- An access that leaves everything but the overflow marks alone. -/
structure OnlyOverflow (before after : State) : Prop where
  rest : after = { before with
    overflowAuthority := after.overflowAuthority
    overflowAuthorityZero := after.overflowAuthorityZero
    record := after.record }

theorem OnlyOverflow.refl (state : State) : OnlyOverflow state state := ⟨rfl⟩

theorem OnlyOverflow.trans {first second third : State} (one : OnlyOverflow first second)
    (two : OnlyOverflow second third) : OnlyOverflow first third := by
  obtain ⟨rest⟩ := two
  rw [one.rest] at rest
  exact ⟨rest⟩

/-! ### Tasks and calls -/

namespace Overflow

inductive Task where
  | executor
  | lifecycle
  | producer (id : Nat)
  deriving DecidableEq, Repr

/-- The boot-lifetime faults that outrank an overflow. -/
inductive StrongerFault where
  | persistentStore
  | handoff
  deriving DecidableEq, Repr

inductive Operation where
  | mark (event : BleEvent) (turns : List Bool)
  | consume (turns : Nat)
  | commitStrongerFault (fault : StrongerFault)
  | advanceGeneration
  | publish (state : StateByte) (handle : ConnectionHandle)
  deriving DecidableEq, Repr

def commitStrongerFault (fault : StrongerFault) : Program State Unit :=
  .write fun state =>
    let record := { state.record with strongerFault := some state.lifecycle.generation }
    match fault with
    | .persistentStore => { state with persistentStoreFailureCommitted := true, record }
    | .handoff => { state with handoffFailureCommitted := true, record }

/-- The lifecycle may take any state and connection, and advance, at any time. -/
def program (_ : Task) : Operation → Program State Unit
  | .mark event turns => markBleEventOverflow event turns
  | .consume turns => do let _ ← consumeBleOverflow turns
  | .commitStrongerFault fault => commitStrongerFault fault
  | .advanceGeneration => onBle BleLifecycle.advanceGeneration
  | .publish state handle => onBle do storeConnectionHandle handle; BleLifecycle.publish state

def Operation.By : Operation → Task → Prop
  | .mark _ _, task => ∃ id, task = .producer id
  | .consume _, task | .commitStrongerFault _, task => task = .executor
  | .advanceGeneration, task | .publish _ _, task => task = .lifecycle

abbrev Runs := Config Task State Operation Unit

def boot : Runs := Config.initial {}

def own (_ : Runs) : Label Task Operation → Prop
  | .call task operation => operation.By task
  | .advance _ => True

end Overflow

/-- A mark of this authority is published. -/
def State.Marked (state : State) (authority : Generation) : Prop :=
  if authority = 0 then state.overflowAuthorityZero = true else state.overflowAuthority = authority

end HidBot.BleControl
