import HidBot.Ble.GraceSlots
import HidBot.Interleaving.Tally

/-!
# The authority over the grace of a released route

`BleRouteGraceAuthority` of the control executor. The executor arms a slot for a release,
and cancels the arm or consumes that it is due. The callback of a timer says so: it looks for
the slot that is armed for its identity, claims it and publishes it as due. A slot that is
cancelled under a claim is freed by the callback that has the claim.
-/

namespace HidBot.GraceAuthority

open Interleaving GraceSlots

inductive GraceState where
  | idle
  | arming
  | armed
  | claimed
  | canceledClaimed
  | due
  deriving DecidableEq

namespace GraceState

def code : GraceState → UInt8
  | idle => 0
  | arming => 1
  | armed => 2
  | claimed => 3
  | canceledClaimed => 4
  | due => 5

def all : List GraceState := [idle, arming, armed, claimed, canceledClaimed, due]

def ofCode (code : UInt8) : Option GraceState := all.find? (·.code = code)

theorem ofCode_code (state : GraceState) : ofCode state.code = some state := by
  cases state <;> rfl

end GraceState

def pack (incarnation : UInt64) (state : GraceState) : UInt64 :=
  Tagged.tagged incarnation state.code

def stateOf (ownership : UInt64) : Option GraceState := GraceState.ofCode (Tagged.tag ownership)

def withState (ownership : UInt64) (state : GraceState) : UInt64 :=
  Tagged.retag ownership state.code

/-- What a run remembers: every change of an ownership. -/
inductive Event where
  | reserved (slot : Fin 2) (incarnation : UInt64)
  | armed (slot : Fin 2) (incarnation : UInt64) (identity : BleRouteReleaseIdentity)
  | claimed (callback : Nat) (slot : Fin 2) (incarnation : UInt64)
      (identity : BleRouteReleaseIdentity)
  | published (callback : Nat) (slot : Fin 2) (incarnation : UInt64)
  | freed (callback : Nat) (slot : Fin 2) (incarnation : UInt64)
  | withdrawn (slot : Fin 2) (incarnation : UInt64)
  | consumed (slot : Fin 2) (incarnation : UInt64) (identity : BleRouteReleaseIdentity)
  deriving DecidableEq

/-- The latest event first. -/
abbrev State := Slots (List Event)

/-- A claim that is valid. The invalid one is `none`. -/
structure Claim where
  slot : Fin 2
  ownership : UInt64
  identity : BleRouteReleaseIdentity
  deriving DecidableEq

/-! ### The executor -/

def arming : Arming (List Event) where
  idle := GraceState.idle.code
  arming := GraceState.arming.code
  armed := GraceState.armed.code
  reserved slot incarnation log := .reserved slot incarnation :: log
  published slot incarnation identity log := .armed slot incarnation identity :: log

/-- `none` is a call that is still in the loop of its allocation. -/
def arm (identity : BleRouteReleaseIdentity) (spurious : Fin 2 → List Bool) :
    Program State (Option (Option Claim)) := do
  match ← arming.arm identity spurious with
  | none => return none
  | some none => return some none
  | some (some (slot, ownership)) => return some (some { slot, ownership, identity })

/-- The loop of `cancel`. It is `false` for a call that is still in it. -/
def cancelLoop (claim : Claim) : List Bool → Program State Bool
  | [] => return false
  | spurious :: rest => do
      let observed ← .read (·.ownership claim.slot)
      if observed &&& ~~~Tagged.tagMask ≠ claim.ownership &&& ~~~Tagged.tagMask then return true
      let exchangeTo (destination : GraceState) : Program State Bool := do
        match ← exchange claim.slot observed (withState observed destination)
            (.withdrawn claim.slot (Tagged.number observed) :: ·) spurious with
        | none => return true
        | some _ => cancelLoop claim rest
      match stateOf observed with
      | some .armed | some .due => exchangeTo .idle
      | some .claimed => exchangeTo .canceledClaimed
      | _ => return true

def cancel (claim : Option Claim) (spurious : List Bool) : Program State Bool :=
  match claim with
  | none => return true
  | some claim => cancelLoop claim spurious

def consumeDue (claim : Option Claim) (identity : BleRouteReleaseIdentity) :
    Program State Bool := do
  match claim with
  | none => return false
  | some claim =>
      if !identitiesEqual claim.identity identity then return false
      let stored ← loadIdentity claim.slot IdentityWord.loaded unarmed
      if !identitiesEqual stored identity then return false
      let due := withState claim.ownership .due
      let found ← exchange claim.slot due (withState claim.ownership .idle)
        (.consumed claim.slot (Tagged.number due) identity :: ·)
      return found = none

/-! ### Callbacks -/

def findArmed (identity : BleRouteReleaseIdentity) :
    List (Fin 2) → Program State (Option Claim)
  | [] => return none
  | slot :: rest => do
      let observed ← .read (·.ownership slot)
      if stateOf observed = some .armed then
        let stored ← loadIdentity slot IdentityWord.loaded unarmed
        if identitiesEqual stored identity then
          return some { slot, ownership := observed, identity }
        else findArmed identity rest
      else findArmed identity rest

def claim (callback : Nat) (candidate : Claim) : Program State (Option Claim) := do
  if stateOf candidate.ownership ≠ some .armed then return none
  let claimed := withState candidate.ownership .claimed
  match ← exchange candidate.slot candidate.ownership claimed
      (.claimed callback candidate.slot (Tagged.number claimed) candidate.identity :: ·) with
  | none => return some { candidate with ownership := claimed }
  | some _ => return none

def publishDue (callback : Nat) (claim : Claim) : Program State Bool := do
  if stateOf claim.ownership ≠ some .claimed then return false
  let incarnation := Tagged.number claim.ownership
  match ← exchange claim.slot claim.ownership (withState claim.ownership .due)
      (.published callback claim.slot incarnation :: ·) with
  | none => return true
  | some expected =>
      if expected = withState claim.ownership .canceledClaimed then
        let _ ← exchange claim.slot expected (withState claim.ownership .idle)
          (.freed callback claim.slot incarnation :: ·)
      return false

/-- `signal_ble_route_release_grace`, where `identityCurrent` is what the runtime says of the
identity. What follows a publication only wakes the executor. -/
def signal (callback : Nat) (identity : BleRouteReleaseIdentity) (identityCurrent : Bool) :
    Program State Bool := do
  match ← findArmed identity [0, 1] with
  | none => return false
  | some candidate =>
      if !identityCurrent then return false
      match ← claim callback candidate with
      | none => return false
      | some claimed => publishDue callback claimed

/-! ### Tasks -/

inductive Task where
  | executor
  | callback (number : Nat)
  deriving DecidableEq

inductive Operation where
  | arm (identity : BleRouteReleaseIdentity) (spurious : Fin 2 → List Bool)
  | cancel (claim : Option Claim) (spurious : List Bool)
  | consumeDue (claim : Option Claim) (identity : BleRouteReleaseIdentity)
  | signal (identity : BleRouteReleaseIdentity) (identityCurrent : Bool)

inductive Answer where
  | claim (claim : Option (Option Claim))
  | flag (flag : Bool)
  deriving DecidableEq

def Task.number : Task → Nat
  | executor => 0
  | callback number => number

def program (task : Task) : Operation → Program State Answer
  | .arm identity spurious => return .claim (← arm identity spurious)
  | .cancel claim spurious => return .flag (← cancel claim spurious)
  | .consumeDue claim identity => return .flag (← consumeDue claim identity)
  | .signal identity identityCurrent =>
      return .flag (← signal task.number identity identityCurrent)

/-- An arm has returned the claim. -/
def Returned (history : List (Task × Operation × Answer)) (claim : Claim) : Prop :=
  ∃ identity spurious,
    (Task.executor, Operation.arm identity spurious, Answer.claim (some (some claim))) ∈ history

/-- The executor arms, and cancels and consumes what it has armed. Callbacks signal. -/
def Admitted (config : Config Task State Operation Answer) : Label Task Operation → Prop
  | .call .executor (.arm _ _) => True
  | .call .executor (.cancel claim _) => ∀ valid ∈ claim, Returned config.history valid
  | .call .executor (.consumeDue claim _) => ∀ valid ∈ claim, Returned config.history valid
  | .call .executor (.signal _ _) => False
  | .call (.callback _) (.signal _ _) => True
  | .call (.callback _) _ => False
  | .advance _ => True

end HidBot.GraceAuthority
