import HidBot.Interleaving.Program
import Mathlib.Data.BitVec

/-!
# Route words

The atomic words of `hid_route::StateMachine` and its operations. A writer flag
serializes the operations that change the route, and a durable invalidation
stands for a caller that lost the flag: the writer picks it up before it leaves.
-/

namespace HidBot.Route

open Interleaving

abbrev Generation := UInt32

inductive OutputRoute where
  | none
  | usb
  | ble
  deriving DecidableEq, Repr

inductive Transition where
  | stable
  | releasing
  deriving DecidableEq, Repr

/-- The routes that can be committed and released. -/
inductive Transport where
  | usb
  | ble
  deriving DecidableEq, Repr

def Transport.route : Transport → OutputRoute
  | .usb => .usb
  | .ble => .ble

theorem Transport.route_ne_none (transport : Transport) : transport.route ≠ .none := by
  cases transport <;> simp [Transport.route]

structure Snapshot where
  desired : OutputRoute := .none
  active : OutputRoute := .none
  generation : Generation := 0
  transition : Transition := .stable
  invalidationPending : Bool := false
  coherent : Bool := true
  deriving DecidableEq, Repr

/-- A coherent snapshot of a stable route. -/
def Snapshot.stable (route : OutputRoute) (generation : Generation) : Snapshot :=
  { desired := route, active := route, generation }

/-- A coherent snapshot of a route in release. -/
def Snapshot.releasing (route : OutputRoute) (generation : Generation) : Snapshot :=
  { active := route, generation, transition := .releasing }

abbrev ConditionalInvalidationToken := UInt32

def noConditionalInvalidationToken : ConditionalInvalidationToken := 0

def conditionalPublishing : ConditionalInvalidationToken := 0xffffffff

/-- `UsbPublicationCut`: 30 bits of serial and two flags. -/
structure UsbPublicationCut where
  serial : BitVec 30 := 0
  active : Bool := false
  veto : Bool := false
  deriving DecidableEq, Repr

inductive DurableState where
  | none
  | publishing
  | active
  deriving DecidableEq, Repr

abbrev Task := Nat

/-- The words that only the writer changes. -/
structure Core where
  sequence : UInt32 := 0
  generation : Generation := 0
  desired : OutputRoute := .none
  active : OutputRoute := .none
  transition : Transition := .stable
  /-- How often the generation has advanced; not a word of the code. -/
  epoch : Nat := 0
  /-- A commit has advanced the generation and has yet to store its route; not a
  word of the code. -/
  unsettled : Bool := false
  deriving DecidableEq, Repr

/-- `ExactInvalidationClaim`. -/
structure Claim where
  expected : Snapshot
  conditionalToken : ConditionalInvalidationToken
  deriving DecidableEq, Repr

/-- What a run remembers for the statements about it. -/
structure Record where
  /-- The callers that have published a durable invalidation and not yet tried to
  become the writer. -/
  owes : Task → Bool := fun _ => false
  /-- The caller that is publishing a durable invalidation. -/
  publisher : Option Task := .none
  /-- The writer has made the last check for a durable invalidation. -/
  leaving : Bool := false
  /-- A caller that owed an active invalidation lost the flag to a writer that had
  made its check. -/
  lost : Bool := false
  /-- The generations of the accepted requests. -/
  requests : List Generation := []

structure Words where
  core : Core := {}
  /-- `writer_active_`, with the caller that set it. -/
  writer : Option Task := .none
  claim : Option (Task × Claim) := .none
  conditionalToken : ConditionalInvalidationToken := noConditionalInvalidationToken
  conditionalGeneration : Generation := 0
  nextConditionalToken : ConditionalInvalidationToken := 1
  durableGeneration : Generation := 0
  durableState : DurableState := .none
  usbPublication : UsbPublicationCut := {}
  record : Record := {}

/-! ### Observation -/

def publicationBusy (sequence : UInt32) : Bool := sequence.toNat % 2 == 1

def invalidationPendingWithoutUsbPublication : Program Words Bool := do
  if (← .read (·.conditionalToken)) ≠ noConditionalInvalidationToken then
    return true
  return (← .read (·.durableState)) ≠ .none

def invalidationPending : Program Words Bool := do
  let publication ← .read (·.usbPublication)
  if publication.active || publication.veto then
    return true
  invalidationPendingWithoutUsbPublication

/-- `snapshot`, with the attempts that are left. -/
def snapshotWithin : Nat → Program Words Snapshot
  | 0 => do
      return { generation := ← .read (·.core.generation), invalidationPending := true,
               coherent := false }
  | attempts + 1 => do
      let before ← .read (·.core.sequence)
      if publicationBusy before then
        snapshotWithin attempts
      else
        let desired ← .read (·.core.desired)
        let active ← .read (·.core.active)
        let generation ← .read (·.core.generation)
        let transition ← .read (·.core.transition)
        let invalidationPending ← invalidationPending
        let after ← .read (·.core.sequence)
        if before = after ∧ publicationBusy after = false then
          return { desired, active, generation, transition, invalidationPending }
        snapshotWithin attempts

def snapshot : Program Words Snapshot := snapshotWithin 3

def matchesRoute (route : OutputRoute) (generation : Generation) : Program Words Bool := do
  if ← invalidationPending then
    return false
  if (← .read (·.core.active)) ≠ route then
    return false
  return (← .read (·.core.generation)) = generation

/-! ### Publication -/

def onCore (change : Core → Core) : Program Words Unit :=
  .write fun words => { words with core := change words.core }

def beginPublication : Program Words Unit :=
  onCore fun core => { core with sequence := core.sequence + 1 }

def endPublication : Program Words Unit :=
  onCore fun core => { core with sequence := core.sequence + 1 }

def storeDesired (route : OutputRoute) : Program Words Unit :=
  onCore fun core => { core with desired := route }

def storeActive (route : OutputRoute) : Program Words Unit :=
  onCore fun core => { core with active := route, unsettled := false }

def storeTransition (transition : Transition) : Program Words Unit :=
  onCore fun core => { core with transition }

/-- `generation_.fetch_add(1)`. -/
def Core.advance (core : Core) (unsettled : Bool) : Core :=
  { core with generation := core.generation + 1, epoch := core.epoch + 1, unsettled }

def advanceGeneration : Program Words Unit := onCore (·.advance false)

/-- The advance of a commit, and the generation it publishes. -/
def advanceForCommit : Program Words Generation :=
  .readModifyWrite fun words =>
    (words.core.generation + 1, { words with core := words.core.advance true })

/-- Publish desired and active none, and retire the generation. -/
def retireRoute : Program Words Unit := do
  beginPublication
  storeDesired .none
  storeActive .none
  advanceGeneration
  storeTransition .stable
  endPublication

def commitNoneLocked (expectedRoute : OutputRoute) (expectedGeneration : Generation)
    (requireExactMatch : Bool) : Program Words Bool := do
  let route ← .read (·.core.active)
  let generation ← .read (·.core.generation)
  if route = .none then
    return false
  if requireExactMatch = true ∧ (route ≠ expectedRoute ∨ generation ≠ expectedGeneration) then
    return false
  retireRoute
  return true

/-! ### The writer -/

/-- The exchange on `writer_active_`; a caller that owed an entry has tried it. -/
def tryEnterWriter (task : Task) : Program Words Bool :=
  .readModifyWrite fun words =>
    let owes := Function.update words.record.owes task false
    match words.writer with
    | .none =>
        (true, { words with
          writer := some task
          record := { words.record with owes, leaving := false } })
    | some _ =>
        (false, { words with record := { words.record with
          owes
          lost := words.record.lost ||
            (words.record.owes task && words.record.leaving && words.durableState == .active) } })

def leaveWriter : Program Words Unit :=
  .write fun words =>
    { words with writer := .none, record := { words.record with leaving := false } }

/-- The load of `durable_state_` that decides whether the writer has work left. -/
def checkDurable : Program Words DurableState :=
  .readModifyWrite fun words => (words.durableState, { words with record := { words.record with
    leaving := words.record.leaving || words.durableState != .active } })

/-- The target of a durable invalidation, if it is still the active generation. -/
def retireTarget (target : Generation) : Program Words Unit := do
  if (← .read (·.core.generation)) = target then
    if (← .read (·.core.active)) ≠ .none then
      let route ← .read (·.core.active)
      let _ ← commitNoneLocked route target true

/-- The proof that the target was retired or superseded. -/
def targetGone (target : Generation) : Program Words Bool := do
  if (← .read (·.core.generation)) ≠ target then
    return true
  return (← .read (·.core.active)) = .none

def consumeDurable : Program Words Unit :=
  .write fun words =>
    if words.durableState = .active then
      { words with durableState := .none, record := { words.record with leaving := true } }
    else words

def processDurableInvalidationLocked : Program Words Unit := do
  if (← checkDurable) = .active then
    let target ← .read (·.durableGeneration)
    retireTarget target
    if ← targetGone target then
      consumeDurable

/-- The conditional request is for the route that is stable on USB. -/
def stillExactUsb (target : Generation) : Program Words Bool := do
  if (← .read (·.core.generation)) ≠ target then
    return false
  if (← .read (·.core.desired)) ≠ .usb then
    return false
  if (← .read (·.core.active)) ≠ .usb then
    return false
  return (← .read (·.core.transition)) = .stable

/-- An exchange of the conditional token for none. -/
def dropConditional (token : ConditionalInvalidationToken) : Program Words Bool :=
  .readModifyWrite fun words =>
    if words.conditionalToken = token then
      (true, { words with conditionalToken := noConditionalInvalidationToken })
    else (false, words)

def clearSupersededConditionalInvalidationLocked : Program Words Unit := do
  let token ← .read (·.conditionalToken)
  if token ≠ noConditionalInvalidationToken ∧ token ≠ conditionalPublishing then
    let target ← .read (·.conditionalGeneration)
    if (← stillExactUsb target) = false then
      let _ ← dropConditional token

def leaveWriterWithHandoff : Program Words Unit := do
  processDurableInvalidationLocked
  clearSupersededConditionalInvalidationLocked
  leaveWriter

/-! ### USB publication -/

/-- `advance_usb_publication_serial`: the flags are dropped. -/
def UsbPublicationCut.next (cut : UsbPublicationCut) : UsbPublicationCut :=
  { serial := cut.serial + 1 }

/-- An exchange of the publication word that may fail spuriously. -/
def exchangePublication (spurious : Bool) (observed replacement : UsbPublicationCut) :
    Program Words (Bool × UsbPublicationCut) :=
  .readModifyWrite fun words =>
    if words.usbPublication = observed ∧ spurious = false then
      ((true, observed), { words with usbPublication := replacement })
    else ((false, words.usbPublication), words)

def UsbPublicationCut.vetoed (cut : UsbPublicationCut) : UsbPublicationCut :=
  { cut.next with active := cut.active, veto := cut.veto || cut.active }

/-- The loop of `publish_usb_lifecycle_veto`, with one entry for each turn. -/
def vetoTurns : List Bool → UsbPublicationCut → Program Words Unit
  | [], _ => return ()
  | spurious :: turns, observed => do
      let exchange ← exchangePublication spurious observed observed.vetoed
      unless exchange.1 do
        vetoTurns turns exchange.2

def publishUsbLifecycleVeto (turns : List Bool) : Program Words Unit := do
  let observed ← .read (·.usbPublication)
  vetoTurns turns observed

/-- The identity of the publication, if its cut is still current. -/
def beginUsbPublication (expected : UsbPublicationCut) :
    Program Words (Option UsbPublicationCut) := do
  if expected.active || expected.veto then
    return .none
  let publication := { expected.next with active := true }
  if (← exchangePublication false expected publication).1 then
    return some publication
  return .none

def finishUsbPublication (identity : UsbPublicationCut) : Program Words Bool := do
  return (← exchangePublication false identity identity.next).1

def clearTurns : List Bool → UsbPublicationCut → Program Words Unit
  | [], _ => return ()
  | spurious :: turns, observed => do
      if observed.active then
        let exchange ← exchangePublication spurious observed observed.next
        unless exchange.1 do
          clearTurns turns exchange.2

def clearUsbPublication (turns : List Bool) : Program Words Unit := do
  let observed ← .read (·.usbPublication)
  clearTurns turns observed

/-! ### Commit and release -/

/-- Whether the three route words are these. -/
def routeIs (desired active : OutputRoute) (transition : Transition) : Program Words Bool := do
  if (← .read (·.core.desired)) ≠ desired then
    return false
  if (← .read (·.core.active)) ≠ active then
    return false
  return (← .read (·.core.transition)) = transition

/-- Whether nothing is pending and the three route words are these. -/
def undisturbedRouteIs (desired active : OutputRoute) (transition : Transition) :
    Program Words Bool := do
  if ← invalidationPending then
    return false
  routeIs desired active transition

def storeRoute (desired active : OutputRoute) : Program Words Unit := do
  storeDesired desired
  storeActive active
  storeTransition .stable
  endPublication

/-- Whether an event has preempted the publication of the route. -/
def publicationPreempted (identity : Option UsbPublicationCut) : Program Words Bool := do
  if ← invalidationPendingWithoutUsbPublication then
    return true
  match identity with
  | .none => return false
  | some identity => return (← .read (·.usbPublication)) ≠ identity

def clearIdentity (identity : Option UsbPublicationCut) (turns : List Bool) :
    Program Words Unit :=
  match identity with
  | .none => return ()
  | some _ => clearUsbPublication turns

/-- `finish_usb_publication`; a BLE publication has nothing to finish. -/
def finishIdentity : Option UsbPublicationCut → Program Words Bool
  | .none => return true
  | some identity => finishUsbPublication identity

/-- The publication of a route by the writer, with the generation it published. -/
def publishRoute (transport : Transport) (identity : Option UsbPublicationCut)
    (turns : List Bool) : Program Words (Option Generation) := do
  beginPublication
  let published ← advanceForCommit
  if ← publicationPreempted identity then
    storeRoute .none .none
    clearIdentity identity turns
    leaveWriterWithHandoff
    return .none
  storeRoute transport.route transport.route
  if ← finishIdentity identity then
    leaveWriterWithHandoff
    return some published
  let _ ← commitNoneLocked .usb published true
  clearIdentity identity turns
  leaveWriterWithHandoff
  return .none

/-- The cut of a USB publication; BLE publishes without one. -/
def beginIdentity (transport : Transport) (cut : UsbPublicationCut) :
    Program Words (Option (Option UsbPublicationCut)) :=
  match transport with
  | .usb => do return (← beginUsbPublication cut).map some
  | .ble => return some .none

def commitIfNone (task : Task) (transport : Transport) (cut : UsbPublicationCut)
    (turns : List Bool) : Program Words Bool := do
  if ← tryEnterWriter task then
    if ← undisturbedRouteIs .none .none .stable then
      match ← beginIdentity transport cut with
      | .none =>
          leaveWriterWithHandoff
          return false
      | some identity =>
          match ← publishRoute transport identity turns with
          | .none => return false
          | some published =>
              let committed ← snapshot
              return committed == Snapshot.stable transport.route published
    else
      leaveWriterWithHandoff
      return false
  else
    return false

/-- `commit_usb_if_none` without a cut takes the current one. -/
def commitUsbIfNone (task : Task) (cut : Option UsbPublicationCut) (turns : List Bool) :
    Program Words Bool :=
  match cut with
  | some cut => commitIfNone task .usb cut turns
  | .none => do
      let cut ← .read (·.usbPublication)
      commitIfNone task .usb cut turns

def commitBleIfNone (task : Task) : Program Words Bool := commitIfNone task .ble {} []

def beginRelease (task : Task) (transport : Transport) : Program Words (Option Snapshot) := do
  if ← tryEnterWriter task then
    if ← undisturbedRouteIs transport.route transport.route .stable then
      beginPublication
      storeDesired .none
      storeTransition .releasing
      endPublication
      let stageA ← snapshot
      leaveWriterWithHandoff
      let current ← snapshot
      if stageA.coherent && current == Snapshot.releasing transport.route stageA.generation then
        return some stageA
      return .none
    else
      leaveWriterWithHandoff
      return .none
  else
    return .none

/-- Whether the route is still in the release that `expected` began. -/
def matchesStageA (transport : Transport) (expected : Snapshot) : Program Words Bool := do
  if ← invalidationPending then
    return false
  if expected.desired ≠ .none ∨ expected.active ≠ transport.route ∨
      expected.transition ≠ .releasing then
    return false
  if (← routeIs .none transport.route .releasing) = false then
    return false
  return (← .read (·.core.generation)) = expected.generation

def completeRelease (task : Task) (transport : Transport) (expected : Snapshot) :
    Program Words Bool := do
  if ← tryEnterWriter task then
    if ← matchesStageA transport expected then
      beginPublication
      storeActive .none
      advanceGeneration
      storeTransition .stable
      endPublication
      leaveWriterWithHandoff
      return !(← invalidationPending)
    else
      leaveWriterWithHandoff
      return false
  else
    return false

/-! ### Invalidation -/

/-- The exchange that reserves the durable request, and what it found. -/
def reserveDurable (task : Task) : Program Words DurableState :=
  .readModifyWrite fun words =>
    if words.durableState = .none then
      (.none, { words with
        durableState := .publishing
        record := { words.record with
          owes := Function.update words.record.owes task true
          publisher := some task } })
    else (words.durableState, words)

/-- The load that accepts a request which is already active. -/
def acceptActive (generation : Generation) : Program Words Bool :=
  .readModifyWrite fun words =>
    if words.durableGeneration = generation then
      (true, { words with record := { words.record with
        requests := generation :: words.record.requests } })
    else (false, words)

def activateDurable (generation : Generation) : Program Words Unit :=
  .write fun words => { words with
    durableState := .active
    record := { words.record with
      publisher := .none
      requests := generation :: words.record.requests } }

def publishDurableInvalidation (task : Task) (generation : Generation) : Program Words Bool := do
  match ← reserveDurable task with
  | .none =>
      .write fun words => { words with durableGeneration := generation }
      activateDurable generation
      return true
  | .publishing => return false
  | .active => acceptActive generation

/-- Retire the route as the writer, or leave the published request to the writer. -/
def retireAsWriter (task : Task) (expectedRoute : OutputRoute) (expectedGeneration : Generation)
    (requireExactMatch : Bool) : Program Words Bool := do
  if ← tryEnterWriter task then
    let changed ← commitNoneLocked expectedRoute expectedGeneration requireExactMatch
    leaveWriterWithHandoff
    return changed
  return false

def invalidate (task : Task) : Program Words Bool := do
  let target ← .read (·.core.generation)
  if ← publishDurableInvalidation task target then
    retireAsWriter task .usb 0 false
  else
    return false

/-- The four fields that an exact caller compares. -/
def Snapshot.sameRoute (observed expected : Snapshot) : Bool :=
  observed.desired == expected.desired && observed.active == expected.active &&
    observed.generation == expected.generation && observed.transition == expected.transition

def invalidateIfMatches (task : Task) (expected : Snapshot) : Program Words Bool := do
  if expected.coherent = false ∨ expected.active = .none then
    return false
  let observed ← snapshot
  if observed.coherent = false ∨ observed.sameRoute expected = false then
    return false
  if ← publishDurableInvalidation task expected.generation then
    retireAsWriter task expected.active expected.generation true
  else
    return false

/-! ### Exact claims -/

/-- `allocate_conditional_token`, if it finds a usable token within `attempts`. -/
def allocateConditionalToken : Nat → Program Words ConditionalInvalidationToken
  | 0 => return noConditionalInvalidationToken
  | attempts + 1 => do
      let token ← .readModifyWrite fun words => (words.nextConditionalToken,
        { words with nextConditionalToken := words.nextConditionalToken + 1 })
      if token = noConditionalInvalidationToken ∨ token = conditionalPublishing then
        allocateConditionalToken attempts
      else
        return token

def conditionalInvalidationMatches (generation : Generation)
    (token : ConditionalInvalidationToken) : Program Words Bool := do
  if token = noConditionalInvalidationToken ∨ token = conditionalPublishing then
    return false
  if (← .read (·.conditionalGeneration)) ≠ generation then
    return false
  return (← .read (·.conditionalToken)) = token

def reserveConditional : Program Words Bool :=
  .readModifyWrite fun words =>
    if words.conditionalToken = noConditionalInvalidationToken then
      (true, { words with conditionalToken := conditionalPublishing })
    else (false, words)

/-- The token under which the request stands. -/
def publishConditionalInvalidation (generation : Generation)
    (token : ConditionalInvalidationToken) (attempts : Nat) :
    Program Words (Option ConditionalInvalidationToken) := do
  if token ≠ noConditionalInvalidationToken then
    if ← conditionalInvalidationMatches generation token then
      return some token
    return .none
  if ← reserveConditional then
    let token ← allocateConditionalToken attempts
    .write fun words => { words with conditionalGeneration := generation }
    .write fun words => { words with conditionalToken := token }
    return some token
  return .none

def cancelConditionalInvalidation (generation : Generation)
    (token : ConditionalInvalidationToken) : Program Words Bool := do
  if ← conditionalInvalidationMatches generation token then
    dropConditional token
  else
    return false

inductive InvalidationClaimResult where
  | claimedExact
  | stale
  | pending
  deriving DecidableEq, Repr

def coreIs (expected : Snapshot) : Program Words Bool := do
  if (← .read (·.core.desired)) ≠ expected.desired then
    return false
  if (← .read (·.core.active)) ≠ expected.active then
    return false
  if (← .read (·.core.generation)) ≠ expected.generation then
    return false
  return (← .read (·.core.transition)) = expected.transition

/-- A stale caller withdraws the token it has. -/
def withdraw (expected : Snapshot) (token : ConditionalInvalidationToken) :
    Program Words Unit :=
  .onlyIf (token ≠ noConditionalInvalidationToken) do
    let _ ← cancelConditionalInvalidation expected.generation token

/-- `reused`: the claim object passed is the one that the caller may still hold. -/
def claimInvalidationIfMatches (task : Task) (expected : Snapshot)
    (token : ConditionalInvalidationToken) (reused : Bool) (attempts : Nat) :
    Program Words (InvalidationClaimResult × ConditionalInvalidationToken) := do
  let held ← .read fun words => words.claim.map (·.1) == some task
  if (reused = true ∧ held = true) ∨ expected.coherent = false ∨ expected.active = .none then
    return (.stale, token)
  let observed ← snapshot
  if observed.coherent = true ∧ observed.sameRoute expected = false then
    withdraw expected token
    return (.stale, noConditionalInvalidationToken)
  match ← publishConditionalInvalidation expected.generation token attempts with
  | .none => return (.stale, token)
  | some token =>
      if ← tryEnterWriter task then
        if ← coreIs expected then
          .write fun words => { words with claim := some (task, ⟨expected, token⟩) }
          return (.claimedExact, token)
        else
          let _ ← cancelConditionalInvalidation expected.generation token
          leaveWriterWithHandoff
          return (.stale, noConditionalInvalidationToken)
      else
        return (.pending, token)

/-- The claim that the caller holds. -/
def heldClaim (task : Task) : Program Words (Option Claim) :=
  .read fun words => words.claim.bind fun (holder, claim) =>
    if holder = task then some claim else .none

def storeClaimToken (task : Task) (claim : Claim) (token : ConditionalInvalidationToken) :
    Program Words Unit :=
  .write fun words =>
    { words with claim := some (task, { claim with conditionalToken := token }) }

def retireClaim (task : Task) : Program Words Bool := do
  match ← heldClaim task with
  | .none => return false
  | some claim =>
      if ← commitNoneLocked claim.expected.active claim.expected.generation true then
        let _ ← cancelConditionalInvalidation claim.expected.generation claim.conditionalToken
        storeClaimToken task claim noConditionalInvalidationToken
        return true
      return false

def releaseClaim (task : Task) : Program Words Unit := do
  match ← heldClaim task with
  | .none => return ()
  | some claim =>
      let _ ← cancelConditionalInvalidation claim.expected.generation claim.conditionalToken
      .write fun words => { words with claim := .none }
      leaveWriterWithHandoff

end HidBot.Route
