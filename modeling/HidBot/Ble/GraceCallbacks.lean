import HidBot.Ble.GraceHandover

/-!
# The accesses of the clock and of the callbacks

The clock and a callback leave the arms to the owner. From its first access to its last one a
callback runs for one arm, which nothing that the owner does can take from it.
-/

namespace HidBot.GraceOwnership

open Interleaving GraceSlots

variable {state later : State} {slot : Fin 2} {incarnation : UInt64} {standing : Standing}

/-! ### The clock -/

theorem active_expires : ∀ standing : Standing, standing.timer = .active → standing.ways ≠ [] →
    ∃ after, Kind.expired.move standing = some after ∧ after.timer = .dispatched := by
  decide

theorem expiry_beside (inv : Inv state) (slot : Fin 2) :
    Beside (Own .clock) state (expiry slot state) := by
  generalize here : current slot state.world.log = now
  obtain ⟨incarnation, standing⟩ := now
  unfold expiry
  rw [inv.timer_here here]
  by_cases active : standing.timer = .active
  · obtain ⟨after, moves, dispatched⟩ := active_expires standing active (inv.ways here)
    have own : Own .clock ⟨slot, incarnation, .expired⟩ := rfl
    have step := Beside.timed inv own here moves rfl
    rw [dispatched] at step
    rw [active]
    exact step
  · dsimp only
    rw [timerOf_inactive active]
    exact Beside.refl state

theorem expire_safe (inv : Inv state) (slot : Fin 2) :
    (expire slot).Safe (Around (Other .clock)) (Beside (Own .clock)) (fun _ later => Inv later)
      state := by
  refine fun later others => ?_
  have step := expiry_beside (others.keeps inv) slot
  exact ⟨step, fun last more => more.keeps (step.keeps (others.keeps inv))⟩

/-! ### Callbacks -/

/-- The callback has begun, and has not taken the slot for itself. -/
def Running (standing : Standing) : Prop :=
  standing.timer = .running ∧ standing.state ≠ .callbackOwned

instance : DecidablePred Running := fun standing => by
  unfold Running
  infer_instance

theorem running_kept : ∀ slot, Kept (.callback slot) slot Running := by
  unfold Kept
  decide

/-- The callback has taken the slot for itself. -/
def Owned (standing : Standing) : Prop := standing = ⟨.callbackOwned, .running⟩

theorem owned_kept : ∀ slot, Kept (.callback slot) slot Owned := by
  unfold Kept Owned
  decide

/-- The clock and the owner do nothing to an arm that a callback has taken. -/
abbrev Rest (slot : Fin 2) : State → State → Prop := Around (Other (.callback slot))

abbrev Callback (slot : Fin 2) : State → State → Prop := Beside (Own (.callback slot))

theorem dispatched_taken : ∀ standing : Standing, standing.timer = .dispatched →
    standing.ways ≠ [] → ∃ after, Kind.taken.move standing = some after ∧
      after.timer = .running ∧ Running after := by
  decide

/-- A callback that is dispatched begins. -/
theorem take_safe {α : Type} {rest : Bool → Program State α} {post : α → State → Prop}
    (inv : Inv state)
    (taken : ∀ later incarnation, At slot incarnation Running later →
      (rest true).Safe (Rest slot) (Callback slot) post later)
    (none : ∀ later, Inv later → (rest false).Safe (Rest slot) (Callback slot) post later) :
    (take slot >>= rest).Safe (Rest slot) (Callback slot) post state := by
  refine Program.Safe.changeThen fun later others => ?_
  have invLater := others.keeps inv
  generalize here : current slot later.world.log = now
  obtain ⟨incarnation, standing⟩ := now
  dsimp only
  rw [invLater.timer_here here]
  by_cases dispatched : standing.timer = .dispatched
  · obtain ⟨after, moves, running, runs⟩ :=
      dispatched_taken standing dispatched (invLater.ways here)
    have own : Own (.callback slot) ⟨slot, incarnation, .taken⟩ := rfl
    have step := Beside.timed invLater own here moves rfl
    rw [running] at step
    rw [dispatched]
    exact ⟨step, taken _ incarnation
      ⟨step.keeps invLater, after, current_next (congrArg Prod.snd here) moves, runs⟩⟩
  · rw [timerOf_undispatched dispatched]
    exact ⟨Beside.refl later, none later invLater⟩

/-- A callback that has begun has an arm to answer for. -/
def Claimed (claim : Option CallbackClaim) (state : State) : Prop :=
  Inv state ∧ claim ≠ some .ignore

theorem claimed_done (inv : Inv state) {claim : Option CallbackClaim}
    (answers : claim ≠ some .ignore) :
    (pure claim : Program State (Option CallbackClaim)).Safe (Rest slot) (Callback slot) Claimed
      state :=
  fun _ others => ⟨others.keeps inv, answers⟩

/-- An exchange of a callback, which may find that the owner has come first. -/
theorem At.exchange {happening : Happening} {expected target : SlotState} {after : Standing}
    {α : Type} {rest : Option UInt64 → Program State α} {post : α → State → Prop}
    (small : incarnation ≤ Tagged.maxNumber) (at_ : At slot incarnation Running state)
    (spurious : Bool) (moves : happening.kind.move ⟨expected, .running⟩ = some after)
    (reaches : after.state = target)
    (word : happening.kind.OnTimer = false) (continues : happening.kind ≠ .reserved)
    (published : happening.kind ≠ .armed) (unsignalled : happening.kind ≠ .signalled)
    (own : happening.kind.task slot = .callback slot)
    (again : ∀ value later, At slot incarnation Running later →
      (rest (some value)).Safe (Rest slot) (Callback slot) post later)
    (done : ∀ later, At slot incarnation (· = after) later →
      (rest none).Safe (Rest slot) (Callback slot) post later) :
    (GraceSlots.exchange slot (pack incarnation expected) (pack incarnation target)
      (World.note slot incarnation happening) spurious >>= rest).Safe (Rest slot) (Callback slot)
        post state := by
  refine Program.Safe.changeThen fun later others => ?_
  have atLater := at_.around (running_kept slot) others
  obtain ⟨inv, ⟨state, phase⟩, here, rfl, -⟩ := id atLater
  by_cases succeeds : later.ownership slot = pack incarnation expected ∧ spurious = false
  · rw [if_pos succeeds]
    obtain rfl : state = expected := by
      have word := succeeds.1
      rw [inv.ownership_here here, pack_inj small small] at word
      exact word.2
    have guarded : Event.guard ⟨slot, incarnation, happening⟩
        (lives.trace slot incarnation later.world.log) := by
      cases happening with
      | signalled identity => exact absurd rfl unsignalled
      | _ => trivial
    have mine : Own (.callback slot) ⟨slot, incarnation, happening⟩ := own
    have step := Beside.exchanged inv mine here moves word continues published guarded
    rw [reaches] at step
    exact ⟨step, done _ ⟨step.keeps inv, after, current_next (congrArg Prod.snd here) moves, rfl⟩⟩
  · rw [if_neg succeeds]
    exact ⟨Beside.refl later, again _ later atLater⟩

/-- The identity of a slot that a callback owns stays. -/
theorem owned_identity (at_ : At slot incarnation Owned state) (others : Rest slot state later) :
    later.identity slot = state.identity slot := by
  obtain ⟨inv, standing, here, rfl⟩ := id at_
  obtain ⟨invLater, standing, there, rfl⟩ := at_.around (owned_kept slot) others
  have quiet : arming.Quiet slot state := by
    change Tagged.tag _ ≠ SlotState.arming.code
    rw [ne_eq, inv.tag, here, SlotState.code_inj]
    exact SlotState.noConfusion
  rcases others.onward slot with less | ⟨-, settled⟩
  · rw [inv.number, invLater.number, here, there] at less
    exact absurd less (UInt64.lt_irrefl _)
  · exact (settled quiet).2

/-- A callback that owns its slot loads the identity that the arm has been published with, and
gives the slot back. -/
theorem signal_safe (at_ : At slot incarnation Owned state) :
    (do
      let identity ← loadIdentity slot IdentityWord.loaded unarmed
      .write fun state => state.setOwnership slot (pack incarnation .idle)
        (World.note slot incarnation (.signalled identity))
      return some (.signal identity) : Program State (Option CallbackClaim)).Safe (Rest slot)
        (Callback slot) Claimed state := by
  let agrees (word : IdentityWord) (value : UInt64) (state : State) : Prop :=
    At slot incarnation Owned state ∧ state.identity slot word = value
  have lasts (word : IdentityWord) (value : UInt64) (before after : State)
      (agrees : agrees word value before) (others : Rest slot before after) :
      At slot incarnation Owned after ∧ after.identity slot word = value :=
    ⟨agrees.1.around (owned_kept slot) others, by
      rw [owned_identity agrees.1 others, agrees.2]⟩
  refine .bind Around.refl ((loadIdentity_all Beside.refl
    (fun _ _ at_ others => at_.around (owned_kept slot) others) lasts
    (fun word state at_ => ⟨at_, rfl⟩) unarmed at_).mono ?_)
  rintro identity first ⟨atFirst, loaded⟩
  obtain rfl : first.identity slot = identity := funext fun word => (loaded word).2
  refine Program.Safe.writeThen fun second others => ?_
  rw [← owned_identity atFirst others]
  obtain ⟨inv, standing, here, rfl⟩ := atFirst.around (owned_kept slot) others
  have nonzero : incarnation ≠ 0 :=
    Lives.Lawful.life_ne_zero inv.lawful here (fun same => by cases same)
  have armed : ⟨slot, incarnation, .armed (second.identity slot)⟩ ∈ second.world.log :=
    inv.identity here nonzero SlotState.noConfusion
  have guarded : Event.guard ⟨slot, incarnation, .signalled (second.identity slot)⟩
      (lives.trace slot incarnation second.world.log) :=
    ⟨_, Lives.mem_trace.mpr ⟨armed, rfl, rfl⟩, rfl⟩
  have own : Own (.callback slot) ⟨slot, incarnation, .signalled (second.identity slot)⟩ := rfl
  have moves : (Happening.signalled (second.identity slot)).kind.move ⟨.callbackOwned, .running⟩ =
      some .rest := rfl
  have step := Beside.exchanged inv own here moves rfl Kind.noConfusion Kind.noConfusion guarded
  exact ⟨step, fun last more => ⟨more.keeps (step.keeps inv), by simp⟩⟩

theorem running_states : ∀ standing : Standing, Running standing → standing.ways ≠ [] →
    standing.state = .armed ∨ standing.state = .canceling ∨
      standing.state = .canceledAwaitingCallback := by
  decide

theorem beginCallback_safe (small : incarnation ≤ Tagged.maxNumber)
    (at_ : At slot incarnation Running state) (spurious : List Bool) :
    (beginCallback slot spurious).Safe (Rest slot) (Callback slot) Claimed state := by
  induction spurious generalizing state with
  | nil => exact claimed_done at_.1 (by simp)
  | cons spurious rest ih =>
      refine Program.Safe.readThen fun first others => ⟨Beside.refl first, ?_⟩
      have atFirst := at_.around (running_kept slot) others
      obtain ⟨inv, standing, here, runs⟩ := id atFirst
      rw [inv.ownership_here here]
      simp only [stateOf_pack small, number_pack small, withState_pack small]
      rcases running_states standing runs (inv.ways here) with state | state | state
      · have moves : Happening.owned.kind.move ⟨.armed, .running⟩ =
            some ⟨.callbackOwned, .running⟩ := rfl
        simp only [state]
        exact At.exchange small atFirst spurious moves rfl rfl Kind.noConfusion Kind.noConfusion
          Kind.noConfusion rfl (fun _ _ => ih) fun later owned => signal_safe owned
      · have moves : Happening.observed.kind.move ⟨.canceling, .running⟩ =
            some ⟨.canceledCallbackObserved, .off⟩ := rfl
        simp only [state]
        exact At.exchange small atFirst spurious moves rfl rfl Kind.noConfusion Kind.noConfusion
          Kind.noConfusion rfl (fun _ _ => ih) fun later observed =>
            claimed_done observed.1 (by simp)
      · have moves : Happening.released.kind.move ⟨.canceledAwaitingCallback, .running⟩ =
            some .rest := rfl
        simp only [state]
        exact At.exchange small atFirst spurious moves rfl rfl Kind.noConfusion Kind.noConfusion
          Kind.noConfusion rfl (fun _ _ => ih) fun later released =>
            claimed_done released.1 (by simp)

theorem callback_safe (inv : Inv state) (spurious : List Bool) :
    (callback slot spurious).Safe (Rest slot) (Callback slot) Claimed state := by
  refine take_safe inv (fun later incarnation running => ?_) fun later unused => ?_
  · obtain ⟨standing, here, -⟩ := running.2
    exact beginCallback_safe (running.1.small_here here) running spurious
  · exact claimed_done unused (by simp)

end HidBot.GraceOwnership
