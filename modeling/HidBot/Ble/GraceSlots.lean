import HidBot.Ble.Lifecycle
import HidBot.Interleaving.Pledge
import HidBot.Interleaving.Tagged
import HidBot.Interleaving.Tally

/-!
# Slots for the grace of a released route

The executor and the transport each keep two slots of the same make. A slot is an ownership
word, an incarnation with a state, and the identity of the release that it is armed for, which
is stored in a word for each of its fields. Arming takes an idle slot, gives it an incarnation
of its own, stores the identity and then publishes it. What a component knows beyond its slots
is the world.
-/

namespace HidBot.GraceSlots

open Interleaving

/-- There are two slots. -/
scoped instance twoSlots : NeZero 2 := ⟨by decide⟩

/-! ### Identities -/

inductive IdentityWord where
  | authorityEpoch
  | routeGeneration
  | profileActivationEpoch
  | bleGeneration
  | connectionHandle
  | presentRoles
  | requiredInputSubscriptions
  | reportHandle (role : Fin 3)
  | releaseEpoch
  deriving DecidableEq

/-- `BleRouteReleaseIdentity`, by its words. -/
abbrev BleRouteReleaseIdentity := IdentityWord → UInt64

namespace IdentityWord

/-- The order of `AtomicIdentity::store`. -/
def stored : List IdentityWord :=
  [authorityEpoch, routeGeneration, profileActivationEpoch, bleGeneration, connectionHandle,
    presentRoles, requiredInputSubscriptions, reportHandle 0, reportHandle 1, reportHandle 2,
    releaseEpoch]

/-- The order of `AtomicIdentity::load`. -/
def loaded : List IdentityWord :=
  [authorityEpoch, routeGeneration, profileActivationEpoch, bleGeneration, connectionHandle,
    presentRoles, requiredInputSubscriptions, releaseEpoch, reportHandle 0, reportHandle 1,
    reportHandle 2]

theorem mem_stored (word : IdentityWord) : word ∈ stored := by
  cases word with
  | reportHandle role => revert role; decide
  | _ => decide

theorem mem_loaded (word : IdentityWord) : word ∈ loaded := by
  cases word with
  | reportHandle role => revert role; decide
  | _ => decide

end IdentityWord

def identitiesEqual (left right : BleRouteReleaseIdentity) : Bool :=
  IdentityWord.stored.all fun word => left word = right word

theorem identitiesEqual_iff {left right : BleRouteReleaseIdentity} :
    identitiesEqual left right = true ↔ left = right := by
  simp only [identitiesEqual, List.all_eq_true, decide_eq_true_eq]
  exact ⟨fun same => funext fun word => same word (word.mem_stored), fun same _ _ => same ▸ rfl⟩

instance : DecidableEq BleRouteReleaseIdentity := fun _ _ =>
  decidable_of_iff _ identitiesEqual_iff

/-- The identity of a slot that has never been armed. -/
def unarmed : BleRouteReleaseIdentity
  | .connectionHandle => BleLifecycle.noConnection.toUInt64
  | _ => 0

/-! ### Slots -/

structure Slot where
  ownership : UInt64 := 0
  identity : BleRouteReleaseIdentity := unarmed

structure Slots (ω : Type) where
  slots : Fin 2 → Slot := fun _ => {}
  nextIncarnation : UInt64 := 1
  nextSlot : UInt32 := 0
  world : ω

variable {ω : Type}

namespace Slots

def ownership (state : Slots ω) (index : Fin 2) : UInt64 := (state.slots index).ownership

def identity (state : Slots ω) (index : Fin 2) : BleRouteReleaseIdentity :=
  (state.slots index).identity

def setOwnership (state : Slots ω) (index : Fin 2) (ownership : UInt64) (note : ω → ω) : Slots ω :=
  { state with
    slots := Function.update state.slots index { state.slots index with ownership }
    world := note state.world }

def setWord (state : Slots ω) (index : Fin 2) (word : IdentityWord) (value : UInt64) : Slots ω :=
  { state with
    slots := Function.update state.slots index
      { state.slots index with identity := Function.update (state.identity index) word value } }

variable (state : Slots ω) (index other : Fin 2) (word : UInt64) (note : ω → ω)

@[simp] theorem ownership_setOwnership :
    (state.setOwnership index word note).ownership index = word := by
  simp [setOwnership, ownership]

theorem ownership_setOwnership_of_ne (different : other ≠ index) :
    (state.setOwnership index word note).ownership other = state.ownership other := by
  simp [setOwnership, ownership, different]

@[simp] theorem identity_setOwnership :
    (state.setOwnership index word note).identity = state.identity := by
  funext other
  by_cases same : other = index
  · subst same
    simp [setOwnership, identity]
  · simp [setOwnership, identity, same]

@[simp] theorem ownership_setWord (field : IdentityWord) (value : UInt64) :
    (state.setWord index field value).ownership = state.ownership := by
  funext other
  by_cases same : other = index
  · subst same
    simp [setWord, ownership]
  · simp [setWord, ownership, same]

@[simp] theorem identity_setWord (field : IdentityWord) (value : UInt64) :
    (state.setWord index field value).identity index =
      Function.update (state.identity index) field value := by
  simp [setWord, identity]

theorem identity_setWord_of_ne (field : IdentityWord) (value : UInt64)
    (different : other ≠ index) :
    (state.setWord index field value).identity other = state.identity other := by
  simp [setWord, identity, different]

end Slots

/-! ### Accesses -/

/-- One exchange of the ownership of a slot: `none` where it succeeds, else what it has
found. A weak one may fail without a reason. -/
def exchange (index : Fin 2) (expected desired : UInt64) (note : ω → ω) (spurious : Bool := false) :
    Program (Slots ω) (Option UInt64) :=
  .readModifyWrite fun state =>
    if state.ownership index = expected ∧ spurious = false then
      (none, state.setOwnership index desired note)
    else (some (state.ownership index), state)

def storeIdentity (index : Fin 2) (identity : BleRouteReleaseIdentity) :
    List IdentityWord → Program (Slots ω) Unit
  | [] => return ()
  | word :: rest => do
      .write fun state => state.setWord index word (identity word)
      storeIdentity index identity rest

def loadIdentity (index : Fin 2) :
    List IdentityWord → BleRouteReleaseIdentity → Program (Slots ω) BleRouteReleaseIdentity
  | [], identity => return identity
  | word :: rest, identity => do
      let value ← .read fun state => state.identity index word
      loadIdentity index rest (Function.update identity word value)

/-- What follows an incarnation. After the last one comes none. -/
def successor (incarnation : UInt64) : UInt64 :=
  if incarnation = Tagged.maxNumber then 0 else incarnation + 1

theorem lt_successor {incarnation : UInt64} (small : incarnation ≤ Tagged.maxNumber)
    (more : successor incarnation ≠ 0) : incarnation < successor incarnation := by
  unfold successor at more ⊢
  split at more
  · exact absurd rfl more
  · rename_i different
    rw [if_neg different]
    have limit : Tagged.maxNumber.toNat = 2 ^ 56 - 1 := by decide
    have one : (1 : UInt64).toNat = 1 := by decide
    have bound := UInt64.le_iff_toNat_le.mp small
    rw [UInt64.lt_iff_toNat_lt, UInt64.toNat_add]
    omega

/-- The loop of `allocate_incarnation`, on the candidate it has found and the weak exchanges
that fail for no reason. `none` is a call that is still in its loop. -/
def allocateLoop : List Bool → UInt64 → Program (Slots ω) (Option UInt64)
  | [], _ => return none
  | spurious :: rest, candidate =>
      if candidate ≠ 0 ∧ candidate ≤ Tagged.maxNumber then do
        let found ← .readModifyWrite fun state =>
          if state.nextIncarnation = candidate ∧ spurious = false then
            (none, { state with nextIncarnation := successor candidate })
          else (some state.nextIncarnation, state)
        match found with
        | none => return some candidate
        | some again => allocateLoop rest again
      else return some 0

def allocateIncarnation (spurious : List Bool) : Program (Slots ω) (Option UInt64) := do
  allocateLoop spurious (← .read (·.nextIncarnation))

/-! ### Arming -/

/-- What arming needs of the states of a component: the codes of `kIdle`, `kArming` and
`kArmed`, and what a run remembers of the two changes that it makes. -/
structure Arming (ω : Type) where
  idle : UInt8
  arming : UInt8
  armed : UInt8
  reserved : Fin 2 → UInt64 → ω → ω
  published : Fin 2 → UInt64 → BleRouteReleaseIdentity → ω → ω

/-- The search for an idle slot. The result is `none` for a call that is still in a loop,
`some none` for the invalid claim, and else the slot with its ownership. -/
def Arming.armFrom (arming : Arming ω) (identity : BleRouteReleaseIdentity)
    (spurious : Fin 2 → List Bool) :
    List (Fin 2) → Program (Slots ω) (Option (Option (Fin 2 × UInt64)))
  | [] => return some none
  | index :: rest => do
      let observed ← .read (·.ownership index)
      if Tagged.tag observed ≠ arming.idle then arming.armFrom identity spurious rest
      else
        match ← allocateIncarnation (spurious index) with
        | none => return none
        | some incarnation =>
            if incarnation = 0 then return some none
            else
              match ← exchange index observed (Tagged.tagged incarnation arming.arming)
                  (arming.reserved index incarnation) with
              | some _ => arming.armFrom identity spurious rest
              | none => do
                  storeIdentity index identity IdentityWord.stored
                  let armed := Tagged.tagged incarnation arming.armed
                  .write fun state => state.setOwnership index armed
                    (arming.published index incarnation identity)
                  return some (some (index, armed))

def Arming.arm (arming : Arming ω) (identity : BleRouteReleaseIdentity)
    (spurious : Fin 2 → List Bool) : Program (Slots ω) (Option (Option (Fin 2 × UInt64))) := do
  let ticket ← .readModifyWrite fun state =>
    (state.nextSlot, { state with nextSlot := state.nextSlot + 1 })
  let first := ticket.toNat
  arming.armFrom identity spurious [.ofNat 2 first, .ofNat 2 (first + 1)]

/-! ### Interference -/

/-- A log grows by events of one kind, the latest first. -/
def Adds {ε : Type} (kind : ε → Prop) (log later : List ε) : Prop :=
  ∃ newer, later = newer ++ log ∧ ∀ event ∈ newer, kind event

section Adds

variable {ε : Type} {kind : ε → Prop} {first second third : List ε}

theorem Adds.refl (log : List ε) : Adds kind log log := ⟨[], rfl, by simp⟩

theorem Adds.one {event : ε} (own : kind event) (log : List ε) : Adds kind log (event :: log) :=
  ⟨[event], rfl, by simpa using own⟩

theorem Adds.trans (one : Adds kind first second) (two : Adds kind second third) :
    Adds kind first third := by
  obtain ⟨newer, rfl, own⟩ := one
  obtain ⟨newest, rfl, also⟩ := two
  refine ⟨newest ++ newer, (List.append_assoc ..).symm, fun event member => ?_⟩
  exact (List.mem_append.mp member).elim (also event) (own event)

theorem Adds.mono {wider : ε → Prop} (adds : Adds kind first second)
    (weaken : ∀ event, kind event → wider event) : Adds wider first second := by
  obtain ⟨newer, grown, own⟩ := adds
  exact ⟨newer, grown, fun event member => weaken event (own event member)⟩

theorem Adds.suffix (adds : Adds kind first second) : first <:+ second := by
  obtain ⟨newer, grown, -⟩ := adds
  exact ⟨newer, grown.symm⟩

end Adds

/-- The slot is not being armed. -/
def Arming.Quiet (arming : Arming ω) (index : Fin 2) (state : Slots ω) : Prop :=
  Tagged.tag (state.ownership index) ≠ arming.arming

/-- No slot is being armed. -/
def Arming.Rested (arming : Arming ω) (state : Slots ω) : Prop :=
  ∀ index, arming.Quiet index state

/-- A slot never goes back to an earlier incarnation, and is armed once for each. -/
def Arming.Onward (arming : Arming ω) (before after : Slots ω) : Prop :=
  ∀ index, Tagged.number (before.ownership index) < Tagged.number (after.ownership index) ∨
    Tagged.number (after.ownership index) = Tagged.number (before.ownership index) ∧
      (arming.Quiet index before →
        arming.Quiet index after ∧ after.identity index = before.identity index)

/-- Steps that keep an invariant and change the world in one way. -/
structure Arming.Around (arming : Arming ω) (inv : Slots ω → Prop) (grows : ω → ω → Prop)
    (before after : Slots ω) : Prop where
  keeps : inv before → inv after
  grows : grows before.world after.world
  onward : arming.Onward before after

/-- Steps that leave the arms to the owner of the slots. -/
structure Arming.Beside (arming : Arming ω) (inv : Slots ω → Prop) (grows : ω → ω → Prop)
    (before after : Slots ω) : Prop extends arming.Around inv grows before after where
  incarnation : after.nextIncarnation = before.nextIncarnation
  apart (index : Fin 2) : after.slots index = before.slots index ∨
    arming.Quiet index before ∧ arming.Quiet index after ∧
      after.identity index = before.identity index

namespace Arming

variable {arming : Arming ω} {inv : Slots ω → Prop} {grows : ω → ω → Prop}
  {first second third before after : Slots ω}

theorem Onward.of_slots (same : after.slots = before.slots) : arming.Onward before after := by
  have ownership : after.ownership = before.ownership := by
    funext index
    rw [Slots.ownership, Slots.ownership, same]
  have identity : after.identity = before.identity := by
    funext index
    rw [Slots.identity, Slots.identity, same]
  exact fun index => .inr ⟨by rw [ownership],
    fun quiet => ⟨by rwa [Quiet, ownership], by rw [identity]⟩⟩

theorem Onward.trans (one : arming.Onward first second) (two : arming.Onward second third) :
    arming.Onward first third := by
  intro index
  rcases one index with less | ⟨same, settled⟩
  · rcases two index with more | ⟨also, -⟩
    · exact .inl (UInt64.lt_trans less more)
    · exact .inl (also ▸ less)
  · rcases two index with more | ⟨also, last⟩
    · exact .inl (same ▸ more)
    · refine .inr ⟨also.trans same, fun quiet => ?_⟩
      obtain ⟨quietSecond, identity⟩ := settled quiet
      obtain ⟨quietThird, more⟩ := last quietSecond
      exact ⟨quietThird, more.trans identity⟩

/-- A slot that is reserved goes on to a higher number. -/
theorem Onward.of_reserved {index : Fin 2} {incarnation : UInt64} {note : ω → ω}
    (small : incarnation ≤ Tagged.maxNumber)
    (less : Tagged.number (before.ownership index) < incarnation) :
    arming.Onward before
      (before.setOwnership index (Tagged.tagged incarnation arming.arming) note) := by
  intro other
  by_cases own : other = index
  · subst own
    left
    rwa [Slots.ownership_setOwnership, Tagged.number_tagged small]
  · right
    rw [Quiet, Quiet, Slots.ownership_setOwnership_of_ne _ _ _ _ _ own,
      Slots.identity_setOwnership]
    exact ⟨rfl, fun quiet => ⟨quiet, rfl⟩⟩

/-- A slot that is being armed may change under its number. -/
theorem Onward.of_arming (index : Fin 2) (busy : ¬arming.Quiet index before)
    (number : Tagged.number (after.ownership index) = Tagged.number (before.ownership index))
    (others : ∀ other, other ≠ index → after.ownership other = before.ownership other ∧
      after.identity other = before.identity other) : arming.Onward before after := by
  intro other
  right
  by_cases own : other = index
  · subst own
    exact ⟨number, fun quiet => absurd quiet busy⟩
  · obtain ⟨ownership, identity⟩ := others other own
    exact ⟨by rw [ownership], fun quiet => ⟨by rwa [Quiet, ownership], identity⟩⟩

theorem Around.refl (same : ∀ world, grows world world) (state : Slots ω) :
    arming.Around inv grows state state := ⟨id, same _, .of_slots rfl⟩

theorem Around.trans (more : ∀ {first second third}, grows first second → grows second third →
      grows first third)
    (one : arming.Around inv grows first second) (two : arming.Around inv grows second third) :
    arming.Around inv grows first third :=
  ⟨two.keeps ∘ one.keeps, more one.grows two.grows, one.onward.trans two.onward⟩

theorem Around.mono {wider : ω → ω → Prop} (weaken : ∀ before after, grows before after →
      wider before after)
    (around : arming.Around inv grows before after) : arming.Around inv wider before after :=
  ⟨around.keeps, weaken _ _ around.grows, around.onward⟩

theorem Beside.refl (same : ∀ world, grows world world) (state : Slots ω) :
    arming.Beside inv grows state state := ⟨.refl same state, rfl, fun _ => .inl rfl⟩

theorem Beside.trans (more : ∀ {first second third}, grows first second → grows second third →
      grows first third)
    (one : arming.Beside inv grows first second) (two : arming.Beside inv grows second third) :
    arming.Beside inv grows first third := by
  refine ⟨one.toAround.trans more two.toAround, two.incarnation.trans one.incarnation,
    fun index => ?_⟩
  rcases one.apart index with same | ⟨quiet, quietSecond, identity⟩
  · rcases two.apart index with also | ⟨quietSecond, quietThird, identity⟩
    · exact .inl (also.trans same)
    · refine .inr ⟨?_, quietThird, ?_⟩
      · rwa [Quiet, Slots.ownership, same] at quietSecond
      · rw [identity, Slots.identity, Slots.identity, same]
  · rcases two.apart index with also | ⟨-, quietThird, more⟩
    · refine .inr ⟨quiet, ?_, ?_⟩
      · rwa [Quiet, Slots.ownership, also]
      · rw [← identity, Slots.identity, Slots.identity, also]
    · exact .inr ⟨quiet, quietThird, more.trans identity⟩

theorem Beside.mono {wider : ω → ω → Prop} (weaken : ∀ before after, grows before after →
      wider before after)
    (beside : arming.Beside inv grows before after) : arming.Beside inv wider before after :=
  ⟨beside.toAround.mono weaken, beside.incarnation, beside.apart⟩

theorem Beside.calm (beside : arming.Beside inv grows before after) (index : Fin 2)
    (busy : Tagged.tag (after.ownership index) = arming.arming) :
    Tagged.tag (before.ownership index) = arming.arming := by
  rcases beside.apart index with same | moved
  · rwa [Slots.ownership, same] at busy
  · exact absurd busy moved.2.1

theorem Beside.rested (beside : arming.Beside inv grows before after)
    (rested : arming.Rested before) : arming.Rested after :=
  fun index busy => rested index (beside.calm index busy)

theorem Rested.setOwnership (rested : arming.Rested before) {index : Fin 2} {ownership : UInt64}
    {note : ω → ω} (rests : Tagged.tag ownership ≠ arming.arming) :
    arming.Rested (before.setOwnership index ownership note) := by
  intro other
  rw [Quiet]
  by_cases own : other = index
  · subst own
    rwa [Slots.ownership_setOwnership]
  · rw [Slots.ownership_setOwnership_of_ne _ _ _ _ _ own]
    exact rested other

/-- An exchange goes on with a slot that is not being armed. -/
theorem Beside.of_exchange {index : Fin 2} {ownership : UInt64} {note : ω → ω}
    (keeps : inv before → inv (before.setOwnership index ownership note))
    (adds : grows before.world (note before.world))
    (number : Tagged.number ownership = Tagged.number (before.ownership index))
    (quiet : arming.Quiet index before) (rests : Tagged.tag ownership ≠ arming.arming) :
    arming.Beside inv grows before (before.setOwnership index ownership note) := by
  have identity := Slots.identity_setOwnership before index ownership note
  have slots (other : Fin 2) (different : other ≠ index) :
      (before.setOwnership index ownership note).slots other = before.slots other := by
    simp [Slots.setOwnership, different]
  have quietAfter : arming.Quiet index (before.setOwnership index ownership note) := by
    rwa [Quiet, Slots.ownership_setOwnership]
  refine ⟨⟨keeps, adds, fun other => .inr ?_⟩, rfl, fun other => ?_⟩
  · by_cases about : other = index
    · subst about
      refine ⟨?_, fun _ => ⟨quietAfter, by rw [identity]⟩⟩
      rw [Slots.ownership_setOwnership, number]
    · refine ⟨?_, fun quiet => ⟨?_, by rw [identity]⟩⟩
      · rw [Slots.ownership, slots other about]
        rfl
      · rwa [Quiet, Slots.ownership, slots other about]
  · by_cases about : other = index
    · subst about
      exact .inr ⟨quiet, quietAfter, by rw [identity]⟩
    · exact .inl (slots other about)

end Arming

/-! ### Loading an identity -/

section Loading

variable {rely guar : Slots ω → Slots ω → Prop} {inv : Slots ω → Prop}
  {agrees : IdentityWord → UInt64 → Slots ω → Prop} {index : Fin 2}

/-- What holds of a word when it is read, and after it, holds of the words that are loaded. -/
theorem loadIdentity_safe (stays : ∀ state, guar state state)
    (stable : ∀ before after, inv before → rely before after → inv after)
    (lasts : ∀ word value before after, agrees word value before → rely before after →
      agrees word value after)
    (reads : ∀ word state, inv state → agrees word (state.identity index word) state)
    {words before : List IdentityWord} {identity : BleRouteReleaseIdentity} {state : Slots ω}
    (now : inv state) (sofar : ∀ word ∈ before, agrees word (identity word) state) :
    (loadIdentity index words identity).Safe rely guar
      (fun loaded later => inv later ∧ ∀ word ∈ words ++ before, agrees word (loaded word) later)
      state := by
  induction words generalizing before identity state with
  | nil =>
      exact fun later interfered => ⟨stable _ _ now interfered,
        fun word member => lasts _ _ _ _ (sofar word member) interfered⟩
  | cons word rest ih =>
      refine Program.Safe.readThen fun later interfered => ⟨stays later, ?_⟩
      have invLater := stable _ _ now interfered
      have more : ∀ other ∈ word :: before,
          agrees other (Function.update identity word (later.identity index word) other) later := by
        intro other member
        by_cases same : other = word
        · subst same
          rw [Function.update_self]
          exact reads other later invLater
        · rw [Function.update_of_ne same]
          have earlier := (List.mem_cons.mp member).resolve_left same
          exact lasts _ _ _ _ (sofar other earlier) interfered
      refine (ih invLater more).mono fun loaded last done => ⟨done.1, fun other member => ?_⟩
      refine done.2 other ?_
      simp only [List.cons_append, List.mem_cons, List.mem_append] at member ⊢
      tauto

theorem loadIdentity_all (stays : ∀ state, guar state state)
    (stable : ∀ before after, inv before → rely before after → inv after)
    (lasts : ∀ word value before after, agrees word value before → rely before after →
      agrees word value after)
    (reads : ∀ word state, inv state → agrees word (state.identity index word) state)
    (identity : BleRouteReleaseIdentity) {state : Slots ω} (now : inv state) :
    (loadIdentity index IdentityWord.loaded identity).Safe rely guar
      (fun loaded later => inv later ∧ ∀ word, agrees word (loaded word) later) state :=
  (loadIdentity_safe stays stable lasts reads now (by simp)).mono fun _ _ done =>
    ⟨done.1, fun word => done.2 word (List.mem_append_left [] word.mem_loaded)⟩

end Loading

/-! ### What arming comes to -/

/-- The owner of the slots alone arms them: the others leave a slot that is being armed alone.
Every access of an arm up to the publication keeps an invariant of the component, under which an
incarnation that has been spent is unused. A claim that has been published is held. -/
structure Arming.Rules (arming : Arming ω) (rely guar : Slots ω → Slots ω → Prop)
    (inv : Slots ω → Prop) (unused : UInt64 → Slots ω → Prop)
    (held : Fin 2 → UInt64 → BleRouteReleaseIdentity → Slots ω → Prop) : Prop where
  distinct : arming.armed ≠ arming.arming
  stays (state : Slots ω) : guar state state
  stable {before after : Slots ω} : inv before → rely before after → inv after
  unused_stable {incarnation : UInt64} {before after : Slots ω} :
    unused incarnation before → rely before after → unused incarnation after
  held_stable {index : Fin 2} {incarnation : UInt64} {identity : BleRouteReleaseIdentity}
    {before after : Slots ω} :
    held index incarnation identity before → rely before after →
      held index incarnation identity after
  frozen {before after : Slots ω} (index : Fin 2) : rely before after →
    Tagged.tag (before.ownership index) = arming.arming →
      after.slots index = before.slots index
  calm {before after : Slots ω} (index : Fin 2) : rely before after →
    Tagged.tag (after.ownership index) = arming.arming →
      Tagged.tag (before.ownership index) = arming.arming
  ticket {state : Slots ω} : inv state →
    guar state { state with nextSlot := state.nextSlot + 1 } ∧
      inv { state with nextSlot := state.nextSlot + 1 }
  spend {state : Slots ω} : inv state → state.nextIncarnation ≠ 0 →
    state.nextIncarnation ≤ Tagged.maxNumber →
    guar state { state with nextIncarnation := successor state.nextIncarnation } ∧
      inv { state with nextIncarnation := successor state.nextIncarnation } ∧
      unused state.nextIncarnation
        { state with nextIncarnation := successor state.nextIncarnation }
  reserve {state : Slots ω} {index : Fin 2} {incarnation : UInt64} : inv state →
    unused incarnation state → incarnation ≠ 0 → incarnation ≤ Tagged.maxNumber →
    Tagged.tag (state.ownership index) = arming.idle →
    guar state (state.setOwnership index (Tagged.tagged incarnation arming.arming)
        (arming.reserved index incarnation)) ∧
      inv (state.setOwnership index (Tagged.tagged incarnation arming.arming)
        (arming.reserved index incarnation))
  store {state : Slots ω} {index : Fin 2} {incarnation : UInt64} (word : IdentityWord)
    (value : UInt64) : inv state → incarnation ≤ Tagged.maxNumber →
    state.ownership index = Tagged.tagged incarnation arming.arming →
    guar state (state.setWord index word value) ∧ inv (state.setWord index word value)
  publish {state : Slots ω} {index : Fin 2} {incarnation : UInt64} : inv state →
    incarnation ≠ 0 → incarnation ≤ Tagged.maxNumber →
    state.ownership index = Tagged.tagged incarnation arming.arming →
    (∀ other, other ≠ index → arming.Quiet other state) →
    guar state (state.setOwnership index (Tagged.tagged incarnation arming.armed)
        (arming.published index incarnation (state.identity index))) ∧
      held index incarnation (state.identity index)
        (state.setOwnership index (Tagged.tagged incarnation arming.armed)
          (arming.published index incarnation (state.identity index)))

namespace Arming.Rules

variable {arming : Arming ω} {rely guar : Slots ω → Slots ω → Prop} {inv : Slots ω → Prop}
  {unused : UInt64 → Slots ω → Prop}
  {held : Fin 2 → UInt64 → BleRouteReleaseIdentity → Slots ω → Prop}
  {state : Slots ω}

theorem rested (rules : arming.Rules rely guar inv unused held) {later : Slots ω}
    (now : arming.Rested state) (interfered : rely state later) : arming.Rested later :=
  fun index busy => now index (rules.calm index interfered busy)

theorem allocateLoop_safe (rules : arming.Rules rely guar inv unused held) (now : inv state)
    (rest : arming.Rested state) (spurious : List Bool) (candidate : UInt64) :
    (allocateLoop spurious candidate : Program (Slots ω) _).Safe rely guar
      (fun result later => inv later ∧ arming.Rested later ∧ ∀ incarnation,
        result = some incarnation → incarnation ≠ 0 →
          incarnation ≤ Tagged.maxNumber ∧ unused incarnation later) state := by
  induction spurious generalizing state candidate with
  | nil =>
      exact fun later interfered =>
        ⟨rules.stable now interfered, rules.rested rest interfered, by simp⟩
  | cons spurious more ih =>
      unfold allocateLoop
      split
      next valid =>
        refine Program.Safe.changeThen fun later interfered => ?_
        have invLater := rules.stable now interfered
        have restLater := rules.rested rest interfered
        by_cases found : later.nextIncarnation = candidate ∧ spurious = false
        · obtain ⟨rfl, plain⟩ := found
          rw [if_pos ⟨rfl, plain⟩]
          obtain ⟨promised, kept, spent⟩ := rules.spend invLater valid.1 valid.2
          refine ⟨promised, fun last after => ⟨rules.stable kept after, ?_, ?_⟩⟩
          · intro index busy
            have before := rules.calm index after busy
            exact restLater index before
          · rintro incarnation ⟨⟩ -
            exact ⟨valid.2, rules.unused_stable spent after⟩
        · rw [if_neg found]
          exact ⟨rules.stays later, ih invLater restLater _⟩
      · exact fun later interfered =>
          ⟨rules.stable now interfered, rules.rested rest interfered, by simp⟩

theorem allocateIncarnation_safe (rules : arming.Rules rely guar inv unused held) (now : inv state)
    (rest : arming.Rested state) (spurious : List Bool) :
    (allocateIncarnation spurious : Program (Slots ω) _).Safe rely guar
      (fun result later => inv later ∧ arming.Rested later ∧ ∀ incarnation,
        result = some incarnation → incarnation ≠ 0 →
          incarnation ≤ Tagged.maxNumber ∧ unused incarnation later) state :=
  Program.Safe.readThen fun later interfered =>
    ⟨rules.stays later, rules.allocateLoop_safe (rules.stable now interfered)
      (rules.rested rest interfered) spurious _⟩

/-- The owner is storing the identity in the slot that it is arming, and has stored these
words of it. -/
structure Storing (arming : Arming ω) (inv : Slots ω → Prop) (index : Fin 2)
    (incarnation : UInt64) (identity : BleRouteReleaseIdentity) (words : List IdentityWord)
    (state : Slots ω) : Prop where
  inv : inv state
  own : state.ownership index = Tagged.tagged incarnation arming.arming
  others : ∀ other, other ≠ index → Tagged.tag (state.ownership other) ≠ arming.arming
  stored : ∀ word ∈ words, state.identity index word = identity word

theorem Storing.stable (rules : arming.Rules rely guar inv unused held) {index : Fin 2}
    {incarnation : UInt64} {identity : BleRouteReleaseIdentity} {words : List IdentityWord}
    {later : Slots ω} (small : incarnation ≤ Tagged.maxNumber)
    (storing : Storing arming inv index incarnation identity words state)
    (interfered : rely state later) :
    Storing arming inv index incarnation identity words later := by
  have same : later.slots index = state.slots index := by
    refine rules.frozen index interfered ?_
    rw [storing.own, Tagged.tag_tagged small]
  refine ⟨rules.stable storing.inv interfered, ?_, ?_, ?_⟩
  · simpa only [Slots.ownership, same] using storing.own
  · exact fun other different busy =>
      storing.others other different (rules.calm other interfered busy)
  · simpa only [Slots.identity, same] using storing.stored

theorem storeIdentity_safe (rules : arming.Rules rely guar inv unused held) {index : Fin 2}
    {incarnation : UInt64} {identity : BleRouteReleaseIdentity} {before : List IdentityWord}
    (small : incarnation ≤ Tagged.maxNumber) (words : List IdentityWord)
    (storing : Storing arming inv index incarnation identity before state) :
    (storeIdentity index identity words).Safe rely guar
      (fun _ later => Storing arming inv index incarnation identity (words ++ before) later)
      state := by
  induction words generalizing before state with
  | nil => exact fun later interfered => storing.stable rules small interfered
  | cons word rest ih =>
      refine Program.Safe.writeThen fun later interfered => ?_
      have now := storing.stable rules small interfered
      obtain ⟨promised, kept⟩ := rules.store word (identity word) now.inv small now.own
      have stored : Storing arming inv index incarnation identity (word :: before)
          (later.setWord index word (identity word)) := by
        refine ⟨kept, by simpa using now.own, by simpa using now.others, fun other member => ?_⟩
        rw [Slots.identity_setWord]
        by_cases same : other = word
        · rw [same, Function.update_self]
        · rw [Function.update_of_ne same]
          exact now.stored other ((List.mem_cons.mp member).resolve_left same)
      refine ⟨promised, (ih stored).mono fun _ last done => ?_⟩
      exact ⟨done.inv, done.own, done.others, fun other member => done.stored other (by
        simp only [List.cons_append, List.mem_cons, List.mem_append] at member ⊢
        tauto)⟩

/-- What an arm that has come so far has returned. -/
def Armed (arming : Arming ω) (inv : Slots ω → Prop)
    (held : Fin 2 → UInt64 → BleRouteReleaseIdentity → Slots ω → Prop)
    (identity : BleRouteReleaseIdentity) (result : Option (Option (Fin 2 × UInt64)))
    (state : Slots ω) : Prop :=
  arming.Rested state ∧ match result with
    | some (some (index, ownership)) => ∃ incarnation, incarnation ≠ 0 ∧
        incarnation ≤ Tagged.maxNumber ∧ ownership = Tagged.tagged incarnation arming.armed ∧
          held index incarnation identity state
    | _ => inv state

theorem publish_safe (rules : arming.Rules rely guar inv unused held)
    (refl : ∀ state, rely state state) {index : Fin 2} {incarnation : UInt64}
    {identity : BleRouteReleaseIdentity} (nonzero : incarnation ≠ 0)
    (small : incarnation ≤ Tagged.maxNumber)
    (storing : Storing arming inv index incarnation identity [] state) :
    (do
      storeIdentity index identity IdentityWord.stored
      .write fun state => state.setOwnership index (Tagged.tagged incarnation arming.armed)
        (arming.published index incarnation identity)
      return some (some (index, Tagged.tagged incarnation arming.armed)) :
      Program (Slots ω) _).Safe rely guar (Armed arming inv held identity) state := by
  refine .bind refl ((rules.storeIdentity_safe small _ storing).mono fun _ fourth done => ?_)
  refine Program.Safe.writeThen fun fifth interfered => ?_
  have now := done.stable rules small interfered
  obtain rfl : fifth.identity index = identity :=
    funext fun word => now.stored word (List.mem_append_left _ word.mem_stored)
  obtain ⟨promised, own⟩ := rules.publish now.inv nonzero small now.own now.others
  refine ⟨promised, fun last after => ⟨fun other busy => ?_, ?_⟩⟩
  · have before := rules.calm other after busy
    by_cases same : other = index
    · subst same
      rw [Slots.ownership_setOwnership, Tagged.tag_tagged small] at before
      exact rules.distinct before
    · rw [Slots.ownership_setOwnership_of_ne _ _ _ _ _ same] at before
      exact now.others other same before
  · exact ⟨incarnation, nonzero, small, rfl, rules.held_stable own after⟩

theorem armFrom_safe (rules : arming.Rules rely guar inv unused held)
    (refl : ∀ state, rely state state) (now : inv state) (rest : arming.Rested state)
    (identity : BleRouteReleaseIdentity) (spurious : Fin 2 → List Bool)
    (indices : List (Fin 2)) :
    (arming.armFrom identity spurious indices).Safe rely guar
      (Armed arming inv held identity) state := by
  have without {result : Option (Option (Fin 2 × UInt64))} (none : result.join = none)
      {state : Slots ω} (now : inv state) (rest : arming.Rested state) :
      (pure result : Program (Slots ω) _).Safe rely guar (Armed arming inv held identity) state :=
    fun later interfered => by
      refine ⟨rules.rested rest interfered, ?_⟩
      match result with
      | some (some claim) => cases none
      | .none | some .none => exact rules.stable now interfered
  induction indices generalizing state with
  | nil => exact without rfl now rest
  | cons index others ih =>
      refine Program.Safe.readThen fun first interfered => ⟨rules.stays first, ?_⟩
      have invFirst := rules.stable now interfered
      have restFirst := rules.rested rest interfered
      split
      · exact ih invFirst restFirst
      next idle =>
        have spends := rules.allocateIncarnation_safe invFirst restFirst (spurious index)
        refine .bind refl (spends.mono ?_)
        rintro (_ | incarnation) second ⟨invSecond, restSecond, spent⟩
        · exact without rfl invSecond restSecond
        dsimp only
        split
        · exact without rfl invSecond restSecond
        next nonzero =>
          obtain ⟨small, unusedSecond⟩ := spent incarnation rfl nonzero
          refine Program.Safe.changeThen fun third interfered => ?_
          have invThird := rules.stable invSecond interfered
          have restThird := rules.rested restSecond interfered
          have unusedThird := rules.unused_stable unusedSecond interfered
          by_cases found : third.ownership index = first.ownership index ∧ false = false
          · rw [if_pos found]
            have free : Tagged.tag (third.ownership index) = arming.idle :=
              found.1 ▸ not_not.mp idle
            obtain ⟨promised, kept⟩ := rules.reserve invThird unusedThird nonzero small free
            refine ⟨promised, rules.publish_safe refl nonzero small ?_⟩
            refine ⟨kept, by simp, fun other different => ?_, by simp⟩
            rw [Slots.ownership_setOwnership_of_ne _ _ _ _ _ different]
            exact restThird other
          · rw [if_neg found]
            exact ⟨rules.stays third, ih invThird restThird⟩

theorem arm_safe (rules : arming.Rules rely guar inv unused held)
    (refl : ∀ state, rely state state) (now : inv state) (rest : arming.Rested state)
    (identity : BleRouteReleaseIdentity) (spurious : Fin 2 → List Bool) :
    (arming.arm identity spurious).Safe rely guar (Armed arming inv held identity) state := by
  refine Program.Safe.changeThen fun later interfered => ?_
  obtain ⟨promised, kept⟩ := rules.ticket (rules.stable now interfered)
  have restLater := rules.rested rest interfered
  exact ⟨promised, rules.armFrom_safe refl kept restLater identity spurious _⟩

end Arming.Rules

/-! ### What the result of an arm stands for -/

section Results

/-- The accesses before the publication of an arm, apart from the reservation, leave the world
alone. -/
theorem allocateIncarnation_each {step : Slots ω → Slots ω → Prop}
    (free : ∀ before after, after.world = before.world → step before after)
    (spurious : List Bool) : (allocateIncarnation spurious).Each step := by
  have loop (spurious : List Bool) (candidate : UInt64) :
      (allocateLoop spurious candidate : Program (Slots ω) _).Each step := by
    induction spurious generalizing candidate with
    | nil => trivial
    | cons spurious rest ih =>
        unfold allocateLoop
        split
        · refine .bind (.readModifyWrite fun state => free _ _ ?_) fun found => ?_
          · split <;> rfl
          · cases found with
            | none => trivial
            | some again => exact ih again
        · trivial
  exact .bind (.read (fun state => free _ _ rfl) _) fun candidate => loop spurious candidate

theorem storeIdentity_each {step : Slots ω → Slots ω → Prop}
    (free : ∀ before after, after.world = before.world → step before after) (index : Fin 2)
    (identity : BleRouteReleaseIdentity) (words : List IdentityWord) :
    (storeIdentity index identity words).Each step := by
  induction words with
  | nil => trivial
  | cons word rest ih => exact .bind (.write fun state => free _ _ rfl) fun _ => ih

theorem loadIdentity_each {step : Slots ω → Slots ω → Prop} (same : ∀ state, step state state)
    (index : Fin 2) (words : List IdentityWord) (identity : BleRouteReleaseIdentity) :
    (loadIdentity index words identity).Each step := by
  induction words generalizing identity with
  | nil => trivial
  | cons word rest ih => exact .bind (.read same _) fun value => ih _

theorem exchange_each {step : Slots ω → Slots ω → Prop} {index : Fin 2}
    {expected desired : UInt64} {note : ω → ω} {spurious : Bool} (same : ∀ state, step state state)
    (changes : ∀ state, step state (state.setOwnership index desired note)) :
    (exchange index expected desired note spurious).Each step := by
  refine .readModifyWrite fun state => ?_
  split
  · exact changes state
  · exact same state

namespace Arming

variable (arming : Arming ω)

/-- A reservation has the state of one that is being armed. -/
def Reserves (step : Slots ω → Slots ω → Prop) : Prop :=
  ∀ state index incarnation, step state (state.setOwnership index
    (Tagged.tagged incarnation arming.arming) (arming.reserved index incarnation))

def publishedAt (state : Slots ω) (index : Fin 2) (incarnation : UInt64)
    (identity : BleRouteReleaseIdentity) : Slots ω :=
  state.setOwnership index (Tagged.tagged incarnation arming.armed)
    (arming.published index incarnation identity)

theorem arm_each {step : Slots ω → Slots ω → Prop}
    (free : ∀ before after, after.world = before.world → step before after)
    (reserves : arming.Reserves step) (identity : BleRouteReleaseIdentity)
    (publishes : ∀ state index incarnation,
      step state (arming.publishedAt state index incarnation identity))
    (spurious : Fin 2 → List Bool) : (arming.arm identity spurious).Each step := by
  have same (state : Slots ω) : step state state := free _ _ rfl
  have search (indices : List (Fin 2)) : (arming.armFrom identity spurious indices).Each step := by
    induction indices with
    | nil => trivial
    | cons index rest ih =>
        refine .bind (.read same _) fun observed => ?_
        split
        · exact ih
        refine .bind (allocateIncarnation_each free _) fun allocated => ?_
        cases allocated with
        | none => trivial
        | some incarnation =>
            dsimp only
            split
            · trivial
            refine .bind (exchange_each same fun state => reserves state _ _) fun found => ?_
            cases found with
            | some _ => exact ih
            | none =>
                refine .bind (storeIdentity_each free _ _ _) fun _ => ?_
                exact .bind (.write fun state => publishes state _ _) fun _ => trivial
  exact .bind (.readModifyWrite fun state => free _ _ rfl) fun ticket => search _

/-- A claim is worth what its publication adds to a tally. -/
theorem arm_earns {tally : Slots ω → Nat} {weight : Option (Option (Fin 2 × UInt64)) → Nat}
    (free : ∀ before after : Slots ω, after.world = before.world → tally before ≤ tally after)
    (reserves : arming.Reserves fun before after => tally before ≤ tally after)
    (cut : weight none = 0) (invalid : weight (some none) = 0) (identity : BleRouteReleaseIdentity)
    (publishes : ∀ state index incarnation,
      tally state + weight (some (some (index, Tagged.tagged incarnation arming.armed))) ≤
        tally (arming.publishedAt state index incarnation identity))
    (spurious : Fin 2 → List Bool) : (arming.arm identity spurious).Earns tally weight 0 := by
  have same (state : Slots ω) : tally state ≤ tally state := Nat.le_refl _
  have search (indices : List (Fin 2)) :
      (arming.armFrom identity spurious indices).Earns tally weight 0 := by
    induction indices with
    | nil => exact invalid.le
    | cons index rest ih =>
        refine .after (.read same _) fun observed => ?_
        split
        · exact ih
        refine .after (allocateIncarnation_each free _) fun allocated => ?_
        cases allocated with
        | none => exact cut.le
        | some incarnation =>
            dsimp only
            split
            · exact invalid.le
            refine .after (exchange_each same fun state => reserves state _ _) fun found => ?_
            cases found with
            | some _ => exact ih
            | none =>
                refine .after (storeIdentity_each free _ _ _) fun _ state => ?_
                exact ⟨_, publishes state index incarnation, Nat.le_add_left ..⟩
  exact .after (.readModifyWrite fun state => free _ _ rfl) fun ticket => search _

/-- Who publishes an arm returns its claim. -/
theorem arm_after {step : Slots ω → Slots ω → Prop}
    {holds : Option (Option (Fin 2 × UInt64)) → Prop}
    (free : ∀ before after, after.world = before.world → ¬step before after)
    (reserves : arming.Reserves fun before after => ¬step before after)
    (identity : BleRouteReleaseIdentity)
    (publishes : ∀ state index incarnation,
      step state (arming.publishedAt state index incarnation identity) →
        holds (some (some (index, Tagged.tagged incarnation arming.armed))))
    (spurious : Fin 2 → List Bool) : (arming.arm identity spurious).After step holds := by
  have skip {β : Type} {call : Program (Slots ω) β}
      {rest : β → Program (Slots ω) (Option (Option (Fin 2 × UInt64)))}
      (never : call.Each fun before after => ¬step before after)
      (later : ∀ result, (rest result).After step holds) : (call >>= rest).After step holds :=
    Program.After.bind (show call.After step fun _ => False from .of_each never)
      (fun _ => False.elim) later
  have same (state : Slots ω) : ¬step state state := free _ _ rfl
  have search (indices : List (Fin 2)) :
      (arming.armFrom identity spurious indices).After step holds := by
    induction indices with
    | nil => trivial
    | cons index rest ih =>
        refine skip (.read same _) fun observed => ?_
        split
        · exact ih
        refine skip (allocateIncarnation_each free _) fun allocated => ?_
        cases allocated with
        | none => trivial
        | some incarnation =>
            dsimp only
            split
            · trivial
            refine skip (exchange_each same fun state => reserves state _ _) fun found => ?_
            cases found with
            | some _ => exact ih
            | none =>
                refine skip (storeIdentity_each free _ _ _) fun _ state => ?_
                exact ⟨publishes state index incarnation, trivial⟩
  exact skip (.readModifyWrite fun state => free _ _ rfl) fun ticket => search _

end Arming

end Results

end HidBot.GraceSlots
