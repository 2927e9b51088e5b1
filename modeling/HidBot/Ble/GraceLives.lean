import HidBot.Ble.GraceOwnership

/-!
# The lives of the timer slots

What the arms are, without the words and the timers that hold them. A slot is in the state of its
word, and its timer in one of four phases: the last of them is that of a callback that has begun
and may still access the slot. Until an arm is over, its standing says what has happened to it.
-/

namespace HidBot.GraceOwnership

open Interleaving GraceSlots

inductive TimerPhase where
  | off
  | active
  | dispatched
  | running
  deriving DecidableEq

structure Standing where
  state : SlotState
  timer : TimerPhase
  deriving DecidableEq

def TimerPhase.all : List TimerPhase := [off, active, dispatched, running]

theorem Standing.forall_iff {property : Standing → Prop} :
    (∀ state ∈ SlotState.all, ∀ timer ∈ TimerPhase.all, property ⟨state, timer⟩) ↔
      ∀ standing, property standing := by
  refine ⟨fun holds standing => ?_, fun holds state _ timer _ => holds ⟨state, timer⟩⟩
  obtain ⟨state, timer⟩ := standing
  exact holds state (by cases state <;> decide) timer (by cases timer <;> decide)

instance {property : Standing → Prop} [DecidablePred property] :
    Decidable (∀ standing, property standing) := decidable_of_iff _ Standing.forall_iff

/-- No arm. -/
def Standing.rest : Standing := ⟨.idle, .off⟩

/-- A happening without its identity. -/
inductive Kind where
  | reserved
  | armed
  | aborted
  | started
  | canceling
  | stopped
  | withdrawn
  | awaiting
  | acknowledged
  | expired
  | taken
  | owned
  | signalled
  | observed
  | released
  deriving DecidableEq

def Kind.all : List Kind :=
  [reserved, armed, aborted, started, canceling, stopped, withdrawn, awaiting, acknowledged,
    expired, taken, owned, signalled, observed, released]

theorem Kind.forall_iff {property : Kind → Prop} :
    (∀ kind ∈ Kind.all, property kind) ↔ ∀ kind, property kind :=
  ⟨fun holds kind => holds kind (by cases kind <;> decide), fun holds kind _ => holds kind⟩

instance {property : Kind → Prop} [DecidablePred property] : Decidable (∀ kind, property kind) :=
  decidable_of_iff _ Kind.forall_iff

def Happening.kind : Happening → Kind
  | reserved => .reserved
  | armed _ => .armed
  | aborted => .aborted
  | started => .started
  | canceling => .canceling
  | stopped => .stopped
  | withdrawn => .withdrawn
  | awaiting => .awaiting
  | acknowledged => .acknowledged
  | expired => .expired
  | taken => .taken
  | owned => .owned
  | signalled _ => .signalled
  | observed => .observed
  | released => .released

def Event.kind (event : Event) : Kind := event.happening.kind

namespace Kind

/-- What each event makes of the standing of its slot, where it can happen. -/
def move : Kind → Standing → Option Standing
  | reserved, ⟨.idle, .off⟩ => some ⟨.arming, .off⟩
  | armed, ⟨.arming, .off⟩ => some ⟨.armed, .off⟩
  | aborted, ⟨.armed, .off⟩ => some .rest
  | started, ⟨.armed, .off⟩ => some ⟨.armed, .active⟩
  | canceling, ⟨.armed, .active⟩ => some ⟨.canceling, .active⟩
  | canceling, ⟨.armed, .dispatched⟩ => some ⟨.canceling, .dispatched⟩
  | canceling, ⟨.armed, .running⟩ => some ⟨.canceling, .running⟩
  | stopped, ⟨.canceling, .active⟩ => some ⟨.canceling, .off⟩
  | withdrawn, ⟨.canceling, .off⟩ => some .rest
  | awaiting, ⟨.canceling, .dispatched⟩ => some ⟨.canceledAwaitingCallback, .dispatched⟩
  | awaiting, ⟨.canceling, .running⟩ => some ⟨.canceledAwaitingCallback, .running⟩
  | acknowledged, ⟨.canceledCallbackObserved, .off⟩ => some .rest
  | expired, ⟨.armed, .active⟩ => some ⟨.armed, .dispatched⟩
  | expired, ⟨.canceling, .active⟩ => some ⟨.canceling, .dispatched⟩
  | taken, ⟨.armed, .dispatched⟩ => some ⟨.armed, .running⟩
  | taken, ⟨.canceling, .dispatched⟩ => some ⟨.canceling, .running⟩
  | taken, ⟨.canceledAwaitingCallback, .dispatched⟩ => some ⟨.canceledAwaitingCallback, .running⟩
  | owned, ⟨.armed, .running⟩ => some ⟨.callbackOwned, .running⟩
  | signalled, ⟨.callbackOwned, .running⟩ => some .rest
  | observed, ⟨.canceling, .running⟩ => some ⟨.canceledCallbackObserved, .off⟩
  | released, ⟨.canceledAwaitingCallback, .running⟩ => some .rest
  | _, _ => none

/-- The three ends of a callback: it makes no access of the slot after them. -/
def Final : Kind → Bool
  | signalled | observed | released => true
  | _ => false

end Kind

/-- What can have happened to an arm, up to the order. Only an arm that is over may have gone
more ways than one. -/
def Standing.ways : Standing → List (List Kind)
  | ⟨.arming, .off⟩ => [[.reserved]]
  | ⟨.armed, .off⟩ => [[.reserved, .armed]]
  | ⟨.armed, .active⟩ => [[.reserved, .armed, .started]]
  | ⟨.armed, .dispatched⟩ => [[.reserved, .armed, .started, .expired]]
  | ⟨.armed, .running⟩ => [[.reserved, .armed, .started, .expired, .taken]]
  | ⟨.callbackOwned, .running⟩ => [[.reserved, .armed, .started, .expired, .taken, .owned]]
  | ⟨.canceling, .active⟩ => [[.reserved, .armed, .started, .canceling]]
  | ⟨.canceling, .off⟩ => [[.reserved, .armed, .started, .canceling, .stopped]]
  | ⟨.canceling, .dispatched⟩ => [[.reserved, .armed, .started, .expired, .canceling]]
  | ⟨.canceling, .running⟩ => [[.reserved, .armed, .started, .expired, .taken, .canceling]]
  | ⟨.canceledAwaitingCallback, .dispatched⟩ =>
      [[.reserved, .armed, .started, .expired, .canceling, .awaiting]]
  | ⟨.canceledAwaitingCallback, .running⟩ =>
      [[.reserved, .armed, .started, .expired, .taken, .canceling, .awaiting]]
  | ⟨.canceledCallbackObserved, .off⟩ =>
      [[.reserved, .armed, .started, .expired, .taken, .canceling, .observed]]
  | ⟨.idle, .off⟩ =>
      [[.reserved, .armed, .aborted],
        [.reserved, .armed, .started, .expired, .taken, .owned, .signalled],
        [.reserved, .armed, .started, .canceling, .stopped, .withdrawn],
        [.reserved, .armed, .started, .expired, .taken, .canceling, .observed, .acknowledged],
        [.reserved, .armed, .started, .expired, .taken, .canceling, .awaiting, .released]]
  | _ => []

theorem Standing.ways_move : ∀ (kind : Kind) (before : Standing), kind ≠ .reserved →
    ∀ after ∈ kind.move before, ∀ way ∈ before.ways, ∃ next ∈ after.ways,
      (kind :: way).Perm next := by
  decide +kernel

/-! ### The machine -/

theorem Event.opens_rest {event : Event} {before after : Standing}
    (opens : decide (event.kind = .reserved) = true) (moves : event.kind.move before = some after) :
    before = .rest := by
  have opening : ∀ before after : Standing, Kind.reserved.move before = some after →
      before = .rest := by
    decide
  rw [of_decide_eq_true opens] at moves
  exact opening before after moves

theorem Event.rest_opens {event : Event} {after : Standing}
    (moves : event.kind.move .rest = some after) : decide (event.kind = .reserved) = true := by
  have opening : ∀ (kind : Kind) (after : Standing), kind.move .rest = some after →
      kind = .reserved := by
    decide
  exact decide_eq_true (opening event.kind after moves)

/-- The callback signals an identity that its slot has been armed for. -/
def Event.guard (event : Event) (earlier : List Event) : Prop :=
  match event.happening with
  | .signalled identity => ∃ armed ∈ earlier, armed.happening = .armed identity
  | _ => True

def lives : Lives (Fin 2) Event Standing where
  slot := Event.slot
  life := Event.incarnation
  opens event := event.kind = .reserved
  rest := .rest
  move event := event.kind.move
  guard := Event.guard
  limit := Tagged.maxNumber
  opens_rest := Event.opens_rest
  rest_opens := Event.rest_opens

abbrev current (slot : Fin 2) (log : List Event) : UInt64 × Standing := lives.current slot log

abbrev Lawful (log : List Event) : Prop := lives.Lawful log

/-- The other slots are not concerned. -/
theorem current_apart {slot other : Fin 2} (different : other ≠ slot) (incarnation : UInt64)
    (happening : Happening) (log : List Event) :
    current other (⟨slot, incarnation, happening⟩ :: log) = current other log := by
  have apart : lives.slot ⟨slot, incarnation, happening⟩ ≠ other := Ne.symm different
  exact Lives.current_other apart

/-- What an event makes of its slot. -/
theorem current_next {slot : Fin 2} {incarnation : UInt64} {happening : Happening}
    {log : List Event} {before after : Standing} (here : (current slot log).2 = before)
    (moves : happening.kind.move before = some after) :
    current slot (⟨slot, incarnation, happening⟩ :: log) = (incarnation, after) := by
  refine Lives.current_own ?_
  change happening.kind.move (current slot log).2 = some after
  rw [here, moves]

/-! ### What a path says -/

theorem path_way {events : List Event} {standing : Standing}
    (path : lives.Path events standing) :
    ∃ way ∈ standing.ways, (events.map Event.kind).Perm way := by
  induction path with
  | @opened event after opens moves guarded =>
      have opening : ∀ after : Standing, Kind.reserved.move .rest = some after →
          [Kind.reserved] ∈ after.ways := by
        decide
      have kind : event.kind = .reserved := of_decide_eq_true opens
      change event.kind.move .rest = some after at moves
      rw [kind] at moves
      exact ⟨_, opening after moves, by simp [kind]⟩
  | @step event events before after _ opens moves guarded ih =>
      obtain ⟨way, member, perm⟩ := ih
      obtain ⟨next, more, also⟩ := Standing.ways_move event.kind before (of_decide_eq_false opens)
        after moves way member
      exact ⟨next, more, (perm.cons event.kind).trans also⟩

/-- The event is of this arm. -/
def Event.of (slot : Fin 2) (incarnation : UInt64) (kind : Kind) (event : Event) : Bool :=
  event.slot = slot && event.incarnation = incarnation && event.kind = kind

/-- Something of the kind has happened to the arm. -/
def Happened (slot : Fin 2) (incarnation : UInt64) (kind : Kind) (log : List Event) : Prop :=
  ∃ event ∈ log, event.of slot incarnation kind = true

/-- The callback of the arm has made its last access of the slot. -/
def Finished (slot : Fin 2) (incarnation : UInt64) (log : List Event) : Prop :=
  ∃ kind, kind.Final = true ∧ Happened slot incarnation kind log

section Facts

variable {slot : Fin 2} {incarnation : UInt64} {kind : Kind} {log : List Event}

theorem Happened.grows {later : List Event} (happened : Happened slot incarnation kind log)
    (grown : log <:+ later) : Happened slot incarnation kind later := by
  obtain ⟨event, member, about⟩ := happened
  exact ⟨event, grown.subset member, about⟩

end Facts

/-! ### Lawful logs -/

/-- The owner is in the middle of a call on a slot that stands so. -/
def Standing.Held (standing : Standing) : Prop :=
  standing.state = .arming ∨ standing = ⟨.armed, .off⟩ ∨ standing.state = .canceling ∨
    standing.state = .canceledCallbackObserved

instance : DecidablePred Standing.Held := fun standing => by
  unfold Standing.Held
  infer_instance

section Lawful

variable {slot : Fin 2} {incarnation : UInt64} {log : List Event}

theorem way_now (lawful : Lawful log) {standing : Standing}
    (here : current slot log = (incarnation, standing)) (busy : standing ≠ .rest) :
    ∃ way ∈ standing.ways,
      ((lives.trace slot incarnation log).map Event.kind).Perm way :=
  path_way (Lives.Lawful.path_now lawful here busy)

end Lawful

end HidBot.GraceOwnership
