import HidBot.Ble.GraceLives

/-!
# The accesses of the owner, the clock and the callbacks

Every access keeps the log lawful, and each word and each timer the one that stands for its slot.
What a task knows of a slot between its accesses is a set of standings that the other tasks never
leave.
-/

namespace HidBot.GraceOwnership

open Interleaving GraceSlots

/-! ### Words and timers -/

section Words

variable {incarnation other : UInt64} {state target : SlotState}

theorem pack_inj (small : incarnation ≤ Tagged.maxNumber) (less : other ≤ Tagged.maxNumber) :
    pack incarnation state = pack other target ↔ incarnation = other ∧ state = target := by
  rw [pack, pack, Tagged.tagged_inj small less, SlotState.code_inj]

theorem number_pack (small : incarnation ≤ Tagged.maxNumber) :
    Tagged.number (pack incarnation state) = incarnation := Tagged.number_tagged small

theorem tag_pack (small : incarnation ≤ Tagged.maxNumber) :
    Tagged.tag (pack incarnation state) = state.code := Tagged.tag_tagged small

theorem stateOf_pack (small : incarnation ≤ Tagged.maxNumber) :
    stateOf (pack incarnation state) = some state := by
  rw [stateOf, tag_pack small, SlotState.ofCode_code]

theorem withState_pack (small : incarnation ≤ Tagged.maxNumber) :
    withState (pack incarnation state) target = pack incarnation target :=
  Tagged.retag_tagged small _

end Words

/-- The timer of a slot in a phase. What a callback that has begun does is no more on it. -/
def timerOf (incarnation : UInt64) : TimerPhase → Timer
  | .off | .running => {}
  | .active => { active := some incarnation }
  | .dispatched => { dispatched := [incarnation] }

theorem timerOf_inactive {incarnation : UInt64} {phase : TimerPhase} (inactive : phase ≠ .active) :
    (timerOf incarnation phase).active = none := by
  cases phase with
  | active => exact absurd rfl inactive
  | _ => rfl

theorem timerOf_undispatched {incarnation : UInt64} {phase : TimerPhase}
    (undispatched : phase ≠ .dispatched) : (timerOf incarnation phase).dispatched = [] := by
  cases phase with
  | dispatched => exact absurd rfl undispatched
  | _ => rfl

/-! ### The invariant -/

/-- Each word and each timer stand for their slot. Outside of arming a slot has the identity that
its incarnation is armed for. -/
structure Inv (state : State) : Prop where
  lawful : Lawful state.world.log
  ownership (slot : Fin 2) : state.ownership slot =
    pack (current slot state.world.log).1 (current slot state.world.log).2.state
  timer (slot : Fin 2) : state.world.timers slot =
    timerOf (current slot state.world.log).1 (current slot state.world.log).2.timer
  identity {slot : Fin 2} {incarnation : UInt64} {standing : Standing} :
    current slot state.world.log = (incarnation, standing) → incarnation ≠ 0 →
      standing.state ≠ .arming →
        ⟨slot, incarnation, .armed (state.identity slot)⟩ ∈ state.world.log
  fresh : state.nextIncarnation ≠ 0 →
    ∀ incarnation ∈ lives.opened state.world.log, incarnation < state.nextIncarnation

/-- The kinds that are made on a timer. -/
def Kind.OnTimer : Kind → Bool
  | started | stopped | expired | taken => true
  | _ => false

theorem Kind.move_timer : ∀ (kind : Kind) (before : Standing), kind.OnTimer = false →
    ∀ after ∈ kind.move before, before.timer = after.timer ∨
      before.timer = .running ∧ after.timer = .off := by
  decide +kernel

theorem Kind.move_state : ∀ (kind : Kind) (before : Standing), kind.OnTimer = true →
    ∀ after ∈ kind.move before, before.state = after.state ∧ before.state ≠ .arming := by
  decide +kernel

theorem Kind.move_arming : ∀ (kind : Kind) (before : Standing), kind ≠ .reserved →
    kind ≠ .armed → ∀ after ∈ kind.move before,
      before ≠ .rest ∧ before.state ≠ .arming ∧ after.state ≠ .arming := by
  decide +kernel

theorem timerOf_move {kind : Kind} {before after : Standing} (incarnation : UInt64)
    (word : kind.OnTimer = false) (moves : kind.move before = some after) :
    timerOf incarnation after.timer = timerOf incarnation before.timer := by
  rcases kind.move_timer before word after moves with same | ⟨running, off⟩
  · rw [same]
  · rw [running, off]
    rfl

namespace Inv

variable {state : State} {slot : Fin 2} {incarnation : UInt64} {standing after : Standing}
  {slotState : SlotState} {happening : Happening}

theorem small (inv : Inv state) (slot : Fin 2) :
    (current slot state.world.log).1 ≤ Tagged.maxNumber :=
  Lives.Lawful.current_small inv.lawful slot

theorem small_here (inv : Inv state)
    (here : current slot state.world.log = (incarnation, standing)) :
    incarnation ≤ Tagged.maxNumber := by
  have bound := inv.small slot
  rwa [here] at bound

theorem number (inv : Inv state) (slot : Fin 2) :
    Tagged.number (state.ownership slot) = (current slot state.world.log).1 := by
  rw [inv.ownership, number_pack (inv.small slot)]

theorem tag (inv : Inv state) (slot : Fin 2) :
    Tagged.tag (state.ownership slot) = (current slot state.world.log).2.state.code := by
  rw [inv.ownership, tag_pack (inv.small slot)]

theorem stateOf_ownership (inv : Inv state) (slot : Fin 2) :
    stateOf (state.ownership slot) = some (current slot state.world.log).2.state := by
  rw [inv.ownership, stateOf_pack (inv.small slot)]

theorem ownership_here (inv : Inv state)
    (here : current slot state.world.log = (incarnation, standing)) :
    state.ownership slot = pack incarnation standing.state := by
  rw [inv.ownership, here]

theorem timer_here (inv : Inv state)
    (here : current slot state.world.log = (incarnation, standing)) :
    state.world.timers slot = timerOf incarnation standing.timer := by
  rw [inv.timer, here]

/-- A slot stands in one of the ways that a path can lead to. -/
theorem ways (inv : Inv state) (here : current slot state.world.log = (incarnation, standing)) :
    standing.ways ≠ [] := by
  by_cases free : standing = .rest
  · subst free
    decide
  · obtain ⟨way, member, -⟩ := way_now inv.lawful here free
    exact List.ne_nil_of_mem member

theorem legal (here : current slot state.world.log = (incarnation, standing))
    (moves : happening.kind.move standing = some after) (continues : happening.kind ≠ .reserved)
    (guarded : Event.guard ⟨slot, incarnation, happening⟩
      (lives.trace slot incarnation state.world.log)) :
    lives.Legal ⟨slot, incarnation, happening⟩ state.world.log := by
  have same : (lives.current slot state.world.log).2 = standing := congrArg Prod.snd here
  refine ⟨⟨after, ?_⟩, guarded, fun opens => absurd (of_decide_eq_true opens) continues,
    fun _ => congrArg Prod.fst here⟩
  change happening.kind.move (lives.current slot state.world.log).2 = some after
  rw [same, moves]

/-- Any state in which one slot has gone on by an event, and the others have not. -/
theorem changed (inv : Inv state) {later : State}
    (here : (current slot state.world.log).2 = standing)
    (moves : happening.kind.move standing = some after)
    (legal : lives.Legal ⟨slot, incarnation, happening⟩ state.world.log)
    (log : later.world.log = ⟨slot, incarnation, happening⟩ :: state.world.log)
    (ownership : later.ownership slot = pack incarnation after.state)
    (timer : later.world.timers slot = timerOf incarnation after.timer)
    (others : ∀ other, other ≠ slot → later.ownership other = state.ownership other ∧
      later.world.timers other = state.world.timers other)
    (identity : later.identity = state.identity)
    (genuine : after.state ≠ .arming →
      ⟨slot, incarnation, .armed (state.identity slot)⟩ ∈ later.world.log)
    (fresh : later.nextIncarnation ≠ 0 →
      ∀ incarnation ∈ lives.opened later.world.log, incarnation < later.nextIncarnation) :
    Inv later := by
  have now : current slot later.world.log = (incarnation, after) := by
    rw [log]
    exact current_next here moves
  have apart (other : Fin 2) (different : other ≠ slot) :
      current other later.world.log = current other state.world.log := by
    rw [log]
    exact Lives.current_other (Ne.symm different)
  refine ⟨by rw [log]; exact ⟨legal, inv.lawful⟩, fun other => ?_, fun other => ?_,
    fun {other number standing} there nonzero calm => ?_, fresh⟩
  · by_cases own : other = slot
    · rw [own, ownership, now]
    · rw [(others other own).1, apart other own, inv.ownership]
  · by_cases own : other = slot
    · rw [own, timer, now]
    · rw [(others other own).2, apart other own, inv.timer]
  · rw [identity]
    by_cases own : other = slot
    · subst own
      rw [now] at there
      obtain ⟨rfl, rfl⟩ := Prod.mk.inj there
      exact genuine calm
    · rw [apart other own] at there
      rw [log]
      exact List.mem_cons_of_mem _ (inv.identity there nonzero calm)

theorem fresh_cons (inv : Inv state) (continues : happening.kind ≠ .reserved) :
    state.nextIncarnation ≠ 0 → ∀ other ∈ lives.opened (⟨slot, incarnation, happening⟩ ::
      state.world.log), other < state.nextIncarnation := by
  intro nonzero other member
  rw [Lives.opened_cons_of_not (decide_eq_false continues)] at member
  exact inv.fresh nonzero other member

/-- An access of a word goes on with an arm that has been published. -/
theorem exchanged (inv : Inv state)
    (here : current slot state.world.log = (incarnation, standing))
    (moves : happening.kind.move standing = some after) (word : happening.kind.OnTimer = false)
    (continues : happening.kind ≠ .reserved) (published : happening.kind ≠ .armed)
    (guarded : Event.guard ⟨slot, incarnation, happening⟩
      (lives.trace slot incarnation state.world.log)) :
    Inv (state.setOwnership slot (pack incarnation after.state)
      (World.note slot incarnation happening)) := by
  obtain ⟨busy, calm, -⟩ := happening.kind.move_arming standing continues published after moves
  refine inv.changed (congrArg Prod.snd here) moves (legal here moves continues guarded) rfl
    (Slots.ownership_setOwnership ..) ?_ ?_ (Slots.identity_setOwnership ..) ?_
    (inv.fresh_cons continues)
  · rw [timerOf_move incarnation word moves]
    exact inv.timer_here here
  · exact fun other different =>
      ⟨Slots.ownership_setOwnership_of_ne _ _ _ _ _ different, rfl⟩
  · exact fun _ => List.mem_cons_of_mem _
      (inv.identity here (Lives.Lawful.life_ne_zero inv.lawful here busy) calm)

/-- An access of a timer. -/
theorem timed (inv : Inv state)
    (here : current slot state.world.log = (incarnation, standing))
    (moves : happening.kind.move standing = some after) (timed : happening.kind.OnTimer = true) :
    Inv (setTimer state slot (timerOf incarnation after.timer) incarnation happening) := by
  have continues : happening.kind ≠ .reserved := fun same => by rw [same] at timed; cases timed
  have published : happening.kind ≠ .armed := fun same => by rw [same] at timed; cases timed
  have guarded : Event.guard ⟨slot, incarnation, happening⟩
      (lives.trace slot incarnation state.world.log) := by
    cases happening with
    | signalled identity => cases timed
    | _ => trivial
  obtain ⟨busy, calm, -⟩ := happening.kind.move_arming standing continues published after moves
  refine inv.changed (congrArg Prod.snd here) moves (legal here moves continues guarded) rfl
    ?_ ?_ ?_ rfl ?_ (inv.fresh_cons continues)
  · rw [← (happening.kind.move_state standing timed after moves).1]
    exact inv.ownership_here here
  · simp [setTimer, World.note]
  · exact fun other different => ⟨rfl, by simp [setTimer, World.note, different]⟩
  · exact fun _ => List.mem_cons_of_mem _
      (inv.identity here (Lives.Lawful.life_ne_zero inv.lawful here busy) calm)

end Inv

/-! ### What an access may do -/

def Kind.task (slot : Fin 2) : Kind → Task
  | reserved | armed | aborted | started | canceling | stopped | withdrawn | awaiting
  | acknowledged => .owner
  | expired => .clock
  | taken | owned | signalled | observed | released => .callback slot

/-- The task that makes the event. -/
def Event.task (event : Event) : Task := event.kind.task event.slot

def Own (task : Task) (event : Event) : Prop := event.task = task

def Other (task : Task) (event : Event) : Prop := event.task ≠ task

def Grows (kind : Event → Prop) (before after : World) : Prop := Adds kind before.log after.log

theorem Grows.refl {kind : Event → Prop} (world : World) : Grows kind world world := Adds.refl _

theorem Grows.trans {kind : Event → Prop} {first second third : World}
    (one : Grows kind first second) (two : Grows kind second third) : Grows kind first third :=
  Adds.trans one two

/-- Steps with events of one kind. -/
abbrev Around (kind : Event → Prop) : State → State → Prop := arming.Around Inv (Grows kind)

/-- Steps that leave the arms to the owner. -/
abbrev Beside (kind : Event → Prop) : State → State → Prop := arming.Beside Inv (Grows kind)

section Steps

variable {kind : Event → Prop} {state later : State} {slot : Fin 2} {incarnation : UInt64}
  {standing after : Standing} {happening : Happening}

theorem Around.refl (state : State) : Around kind state state :=
  Arming.Around.refl Grows.refl state

theorem Beside.refl (state : State) : Beside kind state state :=
  Arming.Beside.refl Grows.refl state

theorem Around.suffix (around : Around kind state later) :
    state.world.log <:+ later.world.log := around.grows.suffix

/-- An exchange goes on with an arm that has been published. -/
theorem Beside.exchanged (inv : Inv state) (own : kind ⟨slot, incarnation, happening⟩)
    (here : current slot state.world.log = (incarnation, standing))
    (moves : happening.kind.move standing = some after) (word : happening.kind.OnTimer = false)
    (continues : happening.kind ≠ .reserved) (published : happening.kind ≠ .armed)
    (guarded : Event.guard ⟨slot, incarnation, happening⟩
      (lives.trace slot incarnation state.world.log)) :
    Beside kind state (state.setOwnership slot (pack incarnation after.state)
      (World.note slot incarnation happening)) := by
  have small := inv.small_here here
  obtain ⟨-, calm, rests⟩ := happening.kind.move_arming standing continues published after moves
  refine .of_exchange (fun _ => inv.exchanged here moves word continues published guarded)
    (.one own _) ?_ ?_ ?_
  · rw [number_pack small, inv.number, here]
  · change Tagged.tag _ ≠ SlotState.arming.code
    rw [ne_eq, inv.tag, here, SlotState.code_inj]
    exact calm
  · change Tagged.tag _ ≠ SlotState.arming.code
    rw [ne_eq, tag_pack small, SlotState.code_inj]
    exact rests

theorem Beside.timed (inv : Inv state) (own : kind ⟨slot, incarnation, happening⟩)
    (here : current slot state.world.log = (incarnation, standing))
    (moves : happening.kind.move standing = some after) (timed : happening.kind.OnTimer = true) :
    Beside kind state
      (setTimer state slot (timerOf incarnation after.timer) incarnation happening) :=
  ⟨⟨fun _ => inv.timed here moves timed, .one own _, .of_slots rfl⟩, rfl, fun _ => .inl rfl⟩

/-- What a task knows of a slot: it stands in a way that the other tasks never leave. -/
def Kept (task : Task) (slot : Fin 2) (knows : Standing → Prop) : Prop :=
  ∀ (kind : Kind) (before : Standing), kind.task slot ≠ task → knows before →
    ∀ after ∈ kind.move before, kind ≠ .reserved ∧ knows after

theorem kept_log {task : Task} {knows : Standing → Prop} (kept : Kept task slot knows)
    {log more : List Event} (lawful : Lawful more) (adds : Adds (Other task) log more)
    (here : current slot log = (incarnation, standing)) (known : knows standing) :
    ∃ standing, current slot more = (incarnation, standing) ∧ knows standing := by
  obtain ⟨newer, rfl, others⟩ := adds
  induction newer with
  | nil => exact ⟨standing, here, known⟩
  | cons event newer ih =>
      obtain ⟨legal, lawful⟩ := lawful
      obtain ⟨before, now, still⟩ := ih (fun event member =>
        others event (List.mem_cons_of_mem _ member)) lawful
      by_cases own : event.slot = slot
      · subst own
        obtain ⟨after, moves⟩ := legal.moves
        have foreign : event.task ≠ task := others event (List.mem_cons_self ..)
        have same : (lives.current event.slot (newer ++ log)).2 = before := congrArg Prod.snd now
        change event.kind.move (lives.current event.slot (newer ++ log)).2 = some after at moves
        rw [same] at moves
        obtain ⟨continues, goesOn⟩ := kept event.kind before foreign still after moves
        have number : (current event.slot (newer ++ log)).1 = event.incarnation :=
          legal.same (decide_eq_false continues)
        refine ⟨after, ?_, goesOn⟩
        have life : event.incarnation = incarnation := by rw [← number, now]
        rw [← life]
        refine Lives.current_own ?_
        change event.kind.move (lives.current event.slot (newer ++ log)).2 = some after
        rw [same, moves]
      · refine ⟨before, ?_, still⟩
        rw [List.cons_append, current, Lives.current_other own]
        exact now

/-- The slot stands in a way that the task knows. -/
def At (slot : Fin 2) (incarnation : UInt64) (knows : Standing → Prop) (state : State) : Prop :=
  Inv state ∧ ∃ standing, current slot state.world.log = (incarnation, standing) ∧ knows standing

theorem At.around {task : Task} {knows : Standing → Prop} (kept : Kept task slot knows)
    (at_ : At slot incarnation knows state) (around : Around (Other task) state later) :
    At slot incarnation knows later := by
  obtain ⟨inv, standing, here, known⟩ := at_
  have invLater := around.keeps inv
  exact ⟨invLater, kept_log kept invLater.lawful around.grows here known⟩

end Steps

/-! ### The owner between its calls -/

section Owner

variable {state later : State} {slot : Fin 2} {incarnation : UInt64} {standing : Standing}

/-- The owner is in the middle of a call on no slot. -/
def Calm (state : State) : Prop :=
  Inv state ∧ ∀ slot, ¬(current slot state.world.log).2.Held

/-- The owner is in the middle of a call on this slot alone. -/
def Busy (slot : Fin 2) (incarnation : UInt64) (knows : Standing → Prop) (state : State) : Prop :=
  At slot incarnation knows state ∧
    ∀ other, other ≠ slot → ¬(current other state.world.log).2.Held

abbrev Others : State → State → Prop := Beside (Other .owner)

abbrev Mine : State → State → Prop := Around (Own .owner)

theorem unheld_kept : ∀ slot, Kept .owner slot fun standing => ¬standing.Held := by
  unfold Kept
  decide

theorem unheld_others {other : Fin 2} (inv : Inv later) (others : Others state later)
    (unheld : ¬(current other state.world.log).2.Held) :
    ¬(current other later.world.log).2.Held := by
  obtain ⟨standing, now, still⟩ :=
    kept_log (unheld_kept other) inv.lawful others.grows rfl unheld
  rwa [now]

theorem Calm.others (calm : Calm state) (others : Others state later) : Calm later := by
  have inv := others.keeps calm.1
  exact ⟨inv, fun slot => unheld_others inv others (calm.2 slot)⟩

theorem Busy.others {knows : Standing → Prop} (kept : Kept .owner slot knows)
    (busy : Busy slot incarnation knows state) (others : Others state later) :
    Busy slot incarnation knows later := by
  have at_ := busy.1.around kept others.toAround
  exact ⟨at_, fun other different => unheld_others at_.1 others (busy.2 other different)⟩

/-- What the owner makes of the slot that it is busy with. -/
theorem Busy.goesOn {knows : Standing → Prop} {after : Standing} {happening : Happening}
    (busy : Busy slot incarnation knows state) (inv : Inv later)
    (log : later.world.log = ⟨slot, incarnation, happening⟩ :: state.world.log)
    (moves : happening.kind.move (current slot state.world.log).2 = some after)
    {next : Standing → Prop} (known : next after) : Busy slot incarnation next later := by
  refine ⟨⟨inv, after, ?_, known⟩, fun other different => ?_⟩
  · rw [log]
    exact current_next rfl moves
  · rw [log, current, Lives.current_other (Ne.symm different)]
    exact busy.2 other different

theorem Busy.calm {knows : Standing → Prop} (busy : Busy slot incarnation knows state)
    (unheld : ∀ standing, knows standing → ¬standing.Held) : Calm state := by
  obtain ⟨⟨inv, standing, here, known⟩, others⟩ := busy
  refine ⟨inv, fun other => ?_⟩
  by_cases own : other = slot
  · subst own
    rw [here]
    exact unheld standing known
  · exact others other own

/-- An exchange that the owner makes on the slot that it is busy with: it is found as it is
expected. -/
theorem Busy.exchange {knows next : Standing → Prop} {happening : Happening}
    {expected desired : SlotState} {α : Type} {rest : Option UInt64 → Program State α}
    {post : α → State → Prop} (kept : Kept .owner slot knows)
    (busy : Busy slot incarnation knows state)
    (expects : ∀ standing : Standing, knows standing → standing.ways ≠ [] →
      standing.state = expected ∧ ∃ after, happening.kind.move standing = some after ∧
        after.state = desired ∧ next after)
    (word : happening.kind.OnTimer = false) (continues : happening.kind ≠ .reserved)
    (published : happening.kind ≠ .armed) (unsignalled : happening.kind ≠ .signalled)
    (own : happening.kind.task slot = .owner)
    (goesOn : ∀ later, Busy slot incarnation next later →
      (rest none).Safe Others Mine post later) :
    (GraceSlots.exchange slot (pack incarnation expected) (pack incarnation desired)
      (World.note slot incarnation happening) >>= rest).Safe Others Mine post state := by
  refine Program.Safe.changeThen fun later others => ?_
  have busyLater := busy.others kept others
  obtain ⟨⟨inv, standing, here, known⟩, -⟩ := id busyLater
  obtain ⟨found, after, moves, desires, nextKnown⟩ := expects standing known (inv.ways here)
  rw [if_pos ⟨by rw [inv.ownership_here here, found], rfl⟩]
  have guarded : Event.guard ⟨slot, incarnation, happening⟩
      (lives.trace slot incarnation later.world.log) := by
    cases happening with
    | signalled identity => exact absurd rfl unsignalled
    | _ => trivial
  have mine : Own .owner ⟨slot, incarnation, happening⟩ := own
  have step := Beside.exchanged inv mine here moves word continues published guarded
  rw [desires] at step
  refine ⟨step.toAround, goesOn _ (busyLater.goesOn (step.keeps inv) rfl ?_ nextKnown)⟩
  rw [here, moves]

/-! ### Arming -/

/-- While the owner searches, it is in the middle of a call at most on the slot that it is
arming. -/
def Searching (state : State) : Prop :=
  Inv state ∧ ∀ slot, ¬(current slot state.world.log).2.Held ∨
    (current slot state.world.log).2 = ⟨.arming, .off⟩

/-- The incarnation is still the owner's alone. -/
def Unused (incarnation : UInt64) (state : State) : Prop :=
  (∀ earlier ∈ lives.opened state.world.log, earlier < incarnation) ∧
    (state.nextIncarnation ≠ 0 → incarnation < state.nextIncarnation)

/-- The arm has been published, and its timer has not been started. -/
def Unstarted (standing : Standing) : Prop := standing = ⟨.armed, .off⟩

def Published (slot : Fin 2) (incarnation : UInt64) (_ : BleRouteReleaseIdentity)
    (state : State) : Prop := Busy slot incarnation Unstarted state

theorem unstarted_kept : ∀ slot, Kept .owner slot Unstarted := by
  unfold Kept Unstarted
  decide

theorem searching_kept : ∀ slot, Kept .owner slot fun standing =>
    ¬standing.Held ∨ standing = ⟨.arming, .off⟩ := by
  unfold Kept
  decide

theorem Searching.others (searching : Searching state) (others : Others state later) :
    Searching later := by
  have inv := others.keeps searching.1
  refine ⟨inv, fun slot => ?_⟩
  obtain ⟨standing, now, still⟩ := kept_log (searching_kept slot) inv.lawful others.grows rfl
    (searching.2 slot)
  rwa [now]

theorem Other.unreserving {event : Event} (other : Other .owner event) :
    lives.opens event = false := by
  refine decide_eq_false fun reserves => other ?_
  rw [Event.task, reserves]
  rfl

theorem opened_others (others : Others state later) :
    lives.opened later.world.log = lives.opened state.world.log := by
  obtain ⟨newer, grown, own⟩ := others.grows
  have nothing : newer.filter lives.opens = [] :=
    List.filter_eq_nil_iff.mpr fun event member => by
      simp [Other.unreserving (own event member)]
  rw [grown, Lives.opened, List.filter_append, nothing, List.nil_append]
  rfl

/-- A slot whose word is idle has no arm. -/
theorem Inv.rest_of_idle (inv : Inv state) (idle : (current slot state.world.log).2.state = .idle) :
    (current slot state.world.log).2 = .rest := by
  have known : ∀ standing : Standing, standing.ways ≠ [] → standing.state = .idle →
      standing = .rest := by
    decide
  exact known _ (inv.ways rfl) idle

theorem Inv.arming_of_word (inv : Inv state) (small : incarnation ≤ Tagged.maxNumber)
    (word : state.ownership slot = pack incarnation .arming) :
    current slot state.world.log = (incarnation, ⟨.arming, .off⟩) := by
  have known : ∀ standing : Standing, standing.ways ≠ [] → standing.state = .arming →
      standing = ⟨.arming, .off⟩ := by
    decide
  rw [inv.ownership, pack_inj (inv.small slot) small] at word
  exact Prod.ext word.1 (known _ (inv.ways rfl) word.2)

theorem Searching.of_quiet (searching : Searching state) (quiet : arming.Quiet slot state) :
    ¬(current slot state.world.log).2.Held := by
  refine (searching.2 slot).resolve_right fun arms => quiet ?_
  change Tagged.tag _ = SlotState.arming.code
  rw [searching.1.tag, arms]

theorem Searching.same (searching : Searching state) (inv : Inv later)
    (log : later.world.log = state.world.log) : Searching later :=
  ⟨inv, by rw [log]; exact searching.2⟩

theorem arming_rules : arming.Rules Others Mine Searching Unused Published where
  distinct := by decide
  stays := Around.refl
  stable searching others := searching.others others
  unused_stable unused others := by
    rw [Unused, opened_others others, others.incarnation]
    exact unused
  held_stable published others := published.others (unstarted_kept _) others
  frozen slot others busy := (others.apart slot).resolve_right fun moved => moved.1 busy
  calm slot others := others.calm slot
  ticket := by
    intro state searching
    have inv := searching.1
    have kept : Inv { state with nextSlot := state.nextSlot + 1 } :=
      ⟨inv.lawful, inv.ownership, inv.timer, inv.identity, inv.fresh⟩
    exact ⟨⟨fun _ => kept, .refl _, .of_slots rfl⟩, searching.same kept rfl⟩
  spend := by
    intro state searching nonzero small
    have inv := searching.1
    have kept : Inv { state with nextIncarnation := successor state.nextIncarnation } :=
      ⟨inv.lawful, inv.ownership, inv.timer, inv.identity, fun more earlier member =>
        UInt64.lt_trans (inv.fresh nonzero earlier member) (lt_successor small more)⟩
    exact ⟨⟨fun _ => kept, .refl _, .of_slots rfl⟩, searching.same kept rfl, inv.fresh nonzero,
      lt_successor small⟩
  reserve := by
    intro state slot incarnation searching unused nonzero small free
    have inv := searching.1
    have idle : (current slot state.world.log).2.state = .idle :=
      SlotState.code_inj.mp ((inv.tag slot).symm.trans free)
    have here := inv.rest_of_idle idle
    have positive := UInt64.pos_iff_ne_zero.mpr nonzero
    have moves : Happening.reserved.kind.move (current slot state.world.log).2 =
        some ⟨.arming, .off⟩ := by
      rw [here]
      rfl
    have legal : lives.Legal ⟨slot, incarnation, .reserved⟩ state.world.log :=
      ⟨⟨_, moves⟩, trivial, fun _ => ⟨positive, small, unused.1⟩,
        fun continues => absurd (show true = false from continues) (by decide)⟩
    have kept : Inv (state.setOwnership slot (pack incarnation .arming)
        (World.note slot incarnation .reserved)) := by
      refine inv.changed here (here ▸ moves) legal rfl (Slots.ownership_setOwnership ..) ?_ ?_
        (Slots.identity_setOwnership ..) (fun calm => absurd rfl calm) ?_
      · exact (inv.timer slot).trans (by rw [here]; rfl)
      · exact fun other different =>
          ⟨Slots.ownership_setOwnership_of_ne _ _ _ _ _ different, rfl⟩
      · intro more earlier member
        rcases List.mem_cons.mp member with rfl | before
        · exact unused.2 more
        · exact inv.fresh more earlier before
    have own : Own .owner ⟨slot, incarnation, .reserved⟩ := rfl
    refine ⟨⟨fun _ => kept, .one own _, .of_reserved small ?_⟩, kept, fun other => ?_⟩
    · rw [inv.number]
      rcases Lives.Lawful.current_opened inv.lawful slot with free | member
      · rw [current, free]
        exact positive
      · exact unused.1 _ member
    · by_cases same : other = slot
      · subst same
        exact .inr (congrArg Prod.snd (Lives.current_own moves))
      · have apart := current_apart same incarnation .reserved state.world.log
        exact apart.symm ▸ searching.2 other
  store := by
    intro state slot incarnation word value searching small own
    have inv := searching.1
    have here := inv.arming_of_word small own
    have kept : Inv (state.setWord slot word value) := by
      refine ⟨inv.lawful, fun other => ?_, inv.timer,
        fun {other number standing} now nonzero calm => ?_, inv.fresh⟩
      · rw [Slots.ownership_setWord]
        exact inv.ownership other
      by_cases same : other = slot
      · subst same
        exact absurd (congrArg (·.2.state) (now.symm.trans here)) calm
      · rw [Slots.identity_setWord_of_ne _ _ _ _ _ same]
        exact inv.identity now nonzero calm
    refine ⟨⟨fun _ => kept, .refl _, .of_arming slot ?_ ?_ ?_⟩, searching.same kept rfl⟩
    · exact not_not.mpr ((inv.tag slot).trans (by rw [here]; rfl))
    · rw [Slots.ownership_setWord]
    · exact fun other different => ⟨by rw [Slots.ownership_setWord],
        Slots.identity_setWord_of_ne _ _ _ _ _ different⟩
  publish := by
    intro state slot incarnation searching nonzero small own quiet
    have inv := searching.1
    have here := inv.arming_of_word small own
    have moves : (Happening.armed (state.identity slot)).kind.move ⟨.arming, .off⟩ =
        some ⟨.armed, .off⟩ := rfl
    have legal : lives.Legal ⟨slot, incarnation, .armed (state.identity slot)⟩ state.world.log :=
      Inv.legal here moves (by simp [Happening.kind]) trivial
    have kept : Inv (state.setOwnership slot (pack incarnation .armed)
        (World.note slot incarnation (.armed (state.identity slot)))) := by
      refine inv.changed (congrArg Prod.snd here) moves legal rfl
        (Slots.ownership_setOwnership ..) ?_ ?_ (Slots.identity_setOwnership ..)
        (fun _ => List.mem_cons_self ..) (inv.fresh_cons (by simp [Happening.kind]))
      · exact (inv.timer slot).trans (by rw [here])
      · exact fun other different =>
          ⟨Slots.ownership_setOwnership_of_ne _ _ _ _ _ different, rfl⟩
    have mine : Own .owner ⟨slot, incarnation, .armed (state.identity slot)⟩ := rfl
    refine ⟨⟨fun _ => kept, .one mine _, .of_arming slot ?_ ?_ ?_⟩, ⟨kept, _, ?_, rfl⟩,
      fun other different => ?_⟩
    · exact not_not.mpr ((inv.tag slot).trans (by rw [here]; rfl))
    · rw [own, Slots.ownership_setOwnership, Tagged.number_tagged small,
        Tagged.number_tagged small]
    · exact fun other different => ⟨Slots.ownership_setOwnership_of_ne _ _ _ _ _ different,
        by rw [Slots.identity_setOwnership]⟩
    · exact current_next (congrArg Prod.snd here) moves
    · have apart := current_apart different incarnation (.armed (state.identity slot))
        state.world.log
      exact apart.symm ▸ searching.of_quiet (quiet other different)

/-! ### The calls of the owner -/

theorem calm_done {α : Type} (calm : Calm state) (result : α) :
    (pure result : Program State α).Safe Others Mine (fun _ later => Calm later) state :=
  fun _ others => calm.others others

/-- An arm whose timer has not been started is taken back. -/
theorem abortArm_safe {α : Type} {rest : Program State α} (small : incarnation ≤ Tagged.maxNumber)
    (busy : Busy slot incarnation Unstarted state)
    (goesOn : ∀ later, Calm later → rest.Safe Others Mine (fun _ later => Calm later) later) :
    (abortArm slot (pack incarnation .armed) >>= fun _ => rest).Safe Others Mine
      (fun _ later => Calm later) state := by
  have unheld : ∀ standing : Standing, standing = .rest → ¬standing.Held := by
    rintro standing rfl
    decide
  have past (later : State) (aborted : Busy slot incarnation (· = .rest) later) : Calm later :=
    aborted.calm unheld
  unfold abortArm
  rw [withState_pack small, number_pack small, Program.bind_assoc]
  refine busy.exchange (unstarted_kept slot) ?_ rfl (by decide) (by decide) (by decide) rfl
    fun later aborted => goesOn later (past later aborted)
  rintro standing rfl -
  exact ⟨rfl, .rest, rfl, rfl, rfl⟩

/-- A timer that cannot be started is no different for it. -/
theorem startOnce_safe {α : Type} {rest : Bool → Program State α} {post : α → State → Prop}
    (busy : Busy slot incarnation Unstarted state) (able : Bool)
    (started : ∀ later, Calm later → (rest true).Safe Others Mine post later)
    (unstarted : ∀ later, Busy slot incarnation Unstarted later →
      (rest false).Safe Others Mine post later) :
    (startOnce slot incarnation able >>= rest).Safe Others Mine post state := by
  refine Program.Safe.changeThen fun later others => ?_
  have busyLater := busy.others (unstarted_kept slot) others
  obtain ⟨⟨inv, standing, here, rfl⟩, -⟩ := id busyLater
  have off : later.world.timers slot = {} := inv.timer_here here
  dsimp only
  by_cases starts : (later.world.timers slot).active = none ∧ able = true
  · rw [if_pos starts, off]
    have own : Own .owner ⟨slot, incarnation, .started⟩ := rfl
    have moves : Happening.started.kind.move ⟨.armed, .off⟩ = some ⟨.armed, .active⟩ := rfl
    have step := Beside.timed inv own here moves rfl
    have unheld : ∀ standing : Standing, standing = ⟨.armed, .active⟩ → ¬standing.Held := by
      rintro standing rfl
      decide
    have goesOn : Busy slot incarnation (· = ⟨.armed, .active⟩)
        (setTimer later slot (timerOf incarnation .active) incarnation .started) :=
      busyLater.goesOn (step.keeps inv) rfl (here.symm ▸ moves) rfl
    exact ⟨step.toAround, started _ (goesOn.calm unheld)⟩
  · rw [if_neg starts]
    exact ⟨Around.refl later, unstarted later busyLater⟩

theorem arm_safe (calm : Calm state) (identity : BleRouteReleaseIdentity)
    (spurious : Fin 2 → List Bool) (created : Fin 2 → Bool) (able : Bool) :
    (armBleRouteReleaseGrace identity spurious created able).Safe Others Mine
      (fun _ later => Calm later) state := by
  have searching : Searching state := ⟨calm.1, fun slot => .inl (calm.2 slot)⟩
  have rested : arming.Rested state := by
    intro slot busy
    refine calm.2 slot (.inl (SlotState.code_inj.mp ?_))
    rw [← calm.1.tag]
    exact busy
  refine .bind Beside.refl (Program.Safe.mono ?_
    (arming_rules.arm_safe Beside.refl searching rested identity spurious))
  rintro result first ⟨quiet, armed⟩
  have unarmed (searching : Searching first) : Calm first :=
    ⟨searching.1, fun slot => searching.of_quiet (quiet slot)⟩
  match result with
  | none => exact calm_done (unarmed armed) _
  | some none => exact calm_done (unarmed armed) _
  | some (some (slot, ownership)) =>
      obtain ⟨incarnation, -, small, rfl, published⟩ := armed
      change Busy slot incarnation Unstarted first at published
      dsimp only
      split
      · exact abortArm_safe small published fun later calm => calm_done calm _
      · rw [Tagged.number_tagged small]
        refine startOnce_safe published able (fun later calm => ?_) fun later busy => ?_
        · exact calm_done calm _
        · exact abortArm_safe small busy fun later calm => calm_done calm _

/-- The arm is being cancelled, and nothing has told the owner yet whether in time. -/
def Crossing (standing : Standing) : Prop :=
  standing.state = .canceling ∧ standing.timer ≠ .off ∨
    standing = ⟨.canceledCallbackObserved, .off⟩

/-- The cancel has come too late to stop the timer. -/
def Late (standing : Standing) : Prop :=
  standing.state = .canceling ∧ standing.timer ≠ .off ∧ standing.timer ≠ .active ∨
    standing = ⟨.canceledCallbackObserved, .off⟩

/-- The timer has been stopped in time. -/
def Stopped (standing : Standing) : Prop := standing = ⟨.canceling, .off⟩

/-- The callback has seen the cancel, and leaves the slot to the owner. -/
def Observed (standing : Standing) : Prop := standing = ⟨.canceledCallbackObserved, .off⟩

instance : DecidablePred Crossing := fun standing => by
  unfold Crossing
  infer_instance

instance : DecidablePred Late := fun standing => by
  unfold Late
  infer_instance

theorem crossing_kept : ∀ slot, Kept .owner slot Crossing := by
  unfold Kept
  decide

theorem late_kept : ∀ slot, Kept .owner slot Late := by
  unfold Kept
  decide

theorem stopped_kept : ∀ slot, Kept .owner slot Stopped := by
  unfold Kept Stopped
  decide

theorem observed_kept : ∀ slot, Kept .owner slot Observed := by
  unfold Kept Observed
  decide

/-- What `begin_cancel` has found. -/
def Begun : Option (Fin 2 × UInt64) → State → Prop
  | none, state => Calm state
  | some (slot, ownership), state => ∃ incarnation, incarnation ≤ Tagged.maxNumber ∧
      ownership = pack incarnation .canceling ∧ Busy slot incarnation Crossing state

theorem Begun.others {found : Option (Fin 2 × UInt64)} (begun : Begun found state)
    (others : Others state later) : Begun found later := by
  cases found with
  | none => exact Calm.others begun others
  | some claim =>
      obtain ⟨incarnation, small, same, busy⟩ := begun
      exact ⟨incarnation, small, same, busy.others (crossing_kept _) others⟩

theorem armed_crosses : ∀ standing : Standing, standing.ways ≠ [] → standing.state = .armed →
    ¬standing.Held → ∃ after, Kind.canceling.move standing = some after ∧ Crossing after ∧
      after.state = .canceling := by
  decide

theorem late_awaits : ∀ standing : Standing, Late standing → standing.state = .canceling →
    standing.ways ≠ [] → ∃ after, Kind.awaiting.move standing = some after ∧
      after.state = .canceledAwaitingCallback ∧ ¬after.Held := by
  decide

theorem beginCancel_safe (calm : Calm state) (identity : BleRouteReleaseIdentity)
    (slots : List (Fin 2)) :
    (beginCancel identity slots).Safe Others Mine Begun state := by
  induction slots generalizing state with
  | nil => exact fun later others => calm.others others
  | cons slot rest ih =>
      refine Program.Safe.readThen fun first others => ⟨Around.refl first, ?_⟩
      have calmFirst := calm.others others
      split
      · exact ih calmFirst
      next armed =>
        have loads : (loadIdentity slot IdentityWord.loaded unarmed).Safe Others Mine
            (fun _ later => Calm later) first := by
          have each : (loadIdentity slot IdentityWord.loaded unarmed).Each
              fun before after : State => before = after :=
            loadIdentity_each (fun _ => rfl) _ _ _
          refine Program.Each.safe (fun _ _ calm others => calm.others others) ?_ each calmFirst
          rintro before after calm rfl
          exact ⟨Around.refl before, calm⟩
        refine .bind Beside.refl (loads.mono fun stored second calmSecond => ?_)
        split
        · exact ih calmSecond
        refine Program.Safe.changeThen fun third others => ?_
        have calmThird := calmSecond.others others
        by_cases found : third.ownership slot = first.ownership slot ∧ false = false
        · rw [if_pos found]
          obtain ⟨inv, free⟩ := id calmThird
          generalize here : current slot third.world.log = now at free
          obtain ⟨incarnation, standing⟩ := now
          have small := inv.small_here here
          have state : standing.state = .armed := by
            have read := inv.stateOf_ownership slot
            rw [found.1, not_not.mp armed, here] at read
            exact (Option.some.inj read).symm
          have word : first.ownership slot = pack incarnation .armed := by
            rw [← found.1, inv.ownership_here here, state]
          have unheld : ¬standing.Held := by
            have free := calmThird.2 slot
            rwa [here] at free
          obtain ⟨after, moves, crosses, canceling⟩ :=
            armed_crosses standing (inv.ways here) state unheld
          rw [word, withState_pack small, number_pack small, ← canceling]
          have own : Own .owner ⟨slot, incarnation, .canceling⟩ := rfl
          have step := Beside.exchanged inv own here moves rfl (by decide) (by decide) trivial
          refine ⟨step.toAround, fun last more => ?_⟩
          have busy : Busy slot incarnation Crossing (third.setOwnership slot
              (pack incarnation after.state) (World.note slot incarnation .canceling)) :=
            ⟨⟨step.keeps inv, after, current_next (congrArg Prod.snd here) moves, crosses⟩,
              fun other different => ?_⟩
          · exact Begun.others ⟨incarnation, small, by rw [canceling], busy⟩ more
          · have apart := current_apart different incarnation .canceling third.world.log
            exact apart.symm ▸ calmThird.2 other
        · rw [if_neg found]
          exact ⟨Around.refl third, ih calmThird⟩

/-- The timer is stopped in time exactly if its callback has not been dispatched. -/
theorem stopTimer_safe {α : Type} {rest : Bool → Program State α} {post : α → State → Prop}
    (busy : Busy slot incarnation Crossing state)
    (stopped : ∀ later, Busy slot incarnation Stopped later →
      (rest true).Safe Others Mine post later)
    (late : ∀ later, Busy slot incarnation Late later →
      (rest false).Safe Others Mine post later) :
    (stopTimer slot >>= rest).Safe Others Mine post state := by
  refine Program.Safe.changeThen fun later others => ?_
  have busyLater := busy.others (crossing_kept slot) others
  obtain ⟨⟨inv, standing, here, crosses⟩, apart⟩ := id busyLater
  have timer := inv.timer_here here
  dsimp only
  rw [timer]
  by_cases active : standing.timer = .active
  · obtain ⟨state, phase⟩ := standing
    obtain rfl : phase = .active := active
    obtain ⟨rfl, -⟩ | crossed := crosses
    · have own : Own .owner ⟨slot, incarnation, .stopped⟩ := rfl
      have moves : Happening.stopped.kind.move ⟨.canceling, .active⟩ = some ⟨.canceling, .off⟩ :=
        rfl
      have step := Beside.timed inv own here moves rfl
      exact ⟨step.toAround, stopped _
        (busyLater.goesOn (step.keeps inv) rfl (here.symm ▸ moves) rfl)⟩
    · cases crossed
  · rw [timerOf_inactive active]
    have tooLate : Late standing :=
      crosses.imp (fun canceling => ⟨canceling.1, canceling.2, active⟩) id
    exact ⟨Around.refl later, late later ⟨⟨inv, standing, here, tooLate⟩, apart⟩⟩

theorem finishCancel_safe (small : incarnation ≤ Tagged.maxNumber) {stopped : Bool}
    (busy : Busy slot incarnation (if stopped then Stopped else Late) state) :
    (finishCancel slot (pack incarnation .canceling) stopped).Safe Others Mine
      (fun _ later => Calm later) state := by
  have unheld : ∀ standing : Standing, standing = .rest → ¬standing.Held := by
    rintro standing rfl
    decide
  have past (later : State) (free : Busy slot incarnation (· = .rest) later) :
      (pure () : Program State Unit).Safe Others Mine (fun _ later => Calm later) later :=
    calm_done (free.calm unheld) ()
  unfold finishCancel
  simp only [withState_pack small, number_pack small]
  cases stopped with
  | true =>
      refine busy.exchange (stopped_kept slot) ?_ rfl (by decide) (by decide) (by decide) rfl past
      rintro standing rfl -
      exact ⟨rfl, .rest, rfl, rfl, rfl⟩
  | false =>
      change Busy slot incarnation Late state at busy
      refine Program.Safe.changeThen fun later others => ?_
      have busyLater := busy.others (late_kept slot) others
      obtain ⟨⟨inv, standing, here, late⟩, apart⟩ := id busyLater
      rw [inv.ownership_here here]
      by_cases canceling : standing.state = .canceling
      · rw [if_pos ⟨by rw [canceling], rfl⟩]
        obtain ⟨after, moves, awaits, free⟩ := late_awaits standing late canceling (inv.ways here)
        have own : Own .owner ⟨slot, incarnation, .awaiting⟩ := rfl
        have step := Beside.exchanged inv own here moves rfl (by decide) (by decide) trivial
        rw [awaits] at step
        refine ⟨step.toAround, calm_done ?_ ()⟩
        have waits : Busy slot incarnation (¬Standing.Held ·) _ :=
          busyLater.goesOn (step.keeps inv) rfl (here.symm ▸ moves) free
        exact waits.calm fun standing free => free
      · -- The callback has come first.
        have different : pack incarnation standing.state ≠ pack incarnation .canceling :=
          fun same => canceling ((pack_inj small small).mp same).2
        rw [if_neg fun same => different same.1]
        have observed : Observed standing :=
          late.resolve_left fun crossing => canceling crossing.1
        have seen : Busy slot incarnation Observed later := ⟨⟨inv, standing, here, observed⟩, apart⟩
        refine ⟨Around.refl later, seen.exchange (observed_kept slot) ?_ rfl (by decide) (by decide)
          (by decide) rfl past⟩
        rintro standing rfl -
        exact ⟨rfl, .rest, rfl, rfl, rfl⟩

theorem cancel_safe (calm : Calm state) (identity : BleRouteReleaseIdentity) :
    (cancelBleRouteReleaseGrace identity).Safe Others Mine (fun _ later => Calm later) state := by
  refine .bind Beside.refl ((beginCancel_safe calm identity _).mono fun found first begun => ?_)
  cases found with
  | none => exact calm_done begun ()
  | some claim =>
      obtain ⟨slot, ownership⟩ := claim
      obtain ⟨incarnation, small, rfl, busy⟩ := begun
      exact stopTimer_safe busy (fun _ stopped => finishCancel_safe small stopped)
        fun _ late => finishCancel_safe small late

theorem allIdle_safe (calm : Calm state) :
    allIdle.Safe Others Mine (fun _ later => Calm later) state := by
  refine Program.Safe.readThen fun first others => ⟨Around.refl first, ?_⟩
  have calmFirst := calm.others others
  refine Program.Safe.readThen fun second others => ⟨Around.refl second, ?_⟩
  exact calm_done (calmFirst.others others) _

end Owner

end HidBot.GraceOwnership
