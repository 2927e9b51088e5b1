import HidBot.Ble.GraceLog

/-!
# The accesses of the executor and the callbacks

Every access keeps the log lawful and each ownership the word that stands for its slot. The
executor may rely on the callbacks to leave its arms alone, and a callback on the slots to go
onward only.
-/

namespace HidBot.GraceAuthority

open Interleaving GraceSlots

/-! ### Words -/

theorem code_inj {first second : GraceState} : first.code = second.code ↔ first = second := by
  refine ⟨fun same => ?_, fun same => same ▸ rfl⟩
  have found := GraceState.ofCode_code first
  rw [same, GraceState.ofCode_code] at found
  exact (Option.some.inj found).symm

section Words

variable {incarnation other : UInt64} {state target : GraceState}

theorem pack_inj (small : incarnation ≤ Tagged.maxNumber) (less : other ≤ Tagged.maxNumber) :
    pack incarnation state = pack other target ↔ incarnation = other ∧ state = target := by
  rw [pack, pack, Tagged.tagged_inj small less, code_inj]

theorem number_pack (small : incarnation ≤ Tagged.maxNumber) :
    Tagged.number (pack incarnation state) = incarnation := Tagged.number_tagged small

theorem stateOf_pack (small : incarnation ≤ Tagged.maxNumber) :
    stateOf (pack incarnation state) = some state := by
  rw [stateOf, pack, Tagged.tag_tagged small, GraceState.ofCode_code]

theorem withState_pack (small : incarnation ≤ Tagged.maxNumber) :
    withState (pack incarnation state) target = pack incarnation target :=
  Tagged.retag_tagged small _

end Words

/-! ### The invariant -/

/-- Each slot stands for its part of the log. Outside of arming it has the identity that its
incarnation is armed for. -/
structure Inv (state : State) : Prop where
  lawful : Lawful state.world
  ownership (slot : Fin 2) :
    state.ownership slot = pack (current slot state.world).1 (current slot state.world).2
  identity {slot : Fin 2} {incarnation : UInt64} {graceState : GraceState} :
    current slot state.world = (incarnation, graceState) → incarnation ≠ 0 →
      graceState ≠ .arming → .armed slot incarnation (state.identity slot) ∈ state.world
  fresh : state.nextIncarnation ≠ 0 →
    ∀ incarnation ∈ reservedIds state.world, incarnation < state.nextIncarnation

namespace Inv

variable {state : State} {slot : Fin 2} {incarnation : UInt64} {graceState : GraceState}

theorem number (inv : Inv state) (slot : Fin 2) :
    Tagged.number (state.ownership slot) = (current slot state.world).1 := by
  rw [inv.ownership, number_pack (inv.lawful.current_small slot)]

theorem tag (inv : Inv state) (slot : Fin 2) :
    Tagged.tag (state.ownership slot) = (current slot state.world).2.code := by
  rw [inv.ownership, pack, Tagged.tag_tagged (inv.lawful.current_small slot)]

theorem tag_iff (inv : Inv state) :
    Tagged.tag (state.ownership slot) = graceState.code ↔
      (current slot state.world).2 = graceState := by
  rw [inv.tag, code_inj]

theorem stateOf_ownership (inv : Inv state) (slot : Fin 2) :
    stateOf (state.ownership slot) = some (current slot state.world).2 := by
  rw [inv.ownership, stateOf_pack (inv.lawful.current_small slot)]

theorem ownership_iff (inv : Inv state) (small : incarnation ≤ Tagged.maxNumber) :
    state.ownership slot = pack incarnation graceState ↔
      current slot state.world = (incarnation, graceState) := by
  rw [inv.ownership, pack_inj (inv.lawful.current_small slot) small, Prod.ext_iff]

theorem positive (inv : Inv state) (here : current slot state.world = (incarnation, graceState))
    (busy : graceState ≠ .idle) : incarnation ≠ 0 := by
  rintro rfl
  rcases inv.lawful.current_reserved slot with nothing | reserved
  · rw [here] at nothing
    exact busy (Prod.mk.inj nothing).2
  · rw [here] at reserved
    have positive := (inv.lawful.reservedIds_small _ reserved).1
    exact absurd positive (UInt64.lt_irrefl _)

/-- A slot goes on with its incarnation. -/
theorem changed (inv : Inv state) {event : Event} (unreserving : event.reservedId = none)
    (legal : event.Legal state.world)
    (leads : event.target (current event.slot state.world).2 = graceState)
    (genuine : .armed event.slot event.incarnation (state.identity event.slot) ∈
      event :: state.world) :
    Inv (state.setOwnership event.slot (pack event.incarnation graceState) (event :: ·)) := by
  have now : current event.slot (event :: state.world) = (event.incarnation, graceState) := by
    rw [current_own, leads]
  refine ⟨⟨legal, inv.lawful⟩, fun slot => ?_,
    fun {slot incarnation graceState} here nonzero calm => ?_,
    fun nonzero incarnation member => inv.fresh nonzero incarnation ?_⟩
  · change _ = pack (current slot (event :: state.world)).1 (current slot (event :: state.world)).2
    by_cases own : slot = event.slot
    · subst own
      rw [Slots.ownership_setOwnership, now]
    · rw [Slots.ownership_setOwnership_of_ne _ _ _ _ _ own, current_other (Ne.symm own),
        inv.ownership]
  · change current slot (event :: state.world) = _ at here
    change _ ∈ event :: state.world
    rw [Slots.identity_setOwnership]
    by_cases own : slot = event.slot
    · subst own
      rw [now] at here
      obtain ⟨rfl, -⟩ := Prod.mk.inj here
      exact genuine
    · rw [current_other (Ne.symm own)] at here
      exact List.mem_cons_of_mem _ (inv.identity here nonzero calm)
  · have same : reservedIds (event :: state.world) = reservedIds state.world :=
      List.filterMap_cons_none unreserving
    exact same ▸ member

/-- A slot that is being armed is only on its own word. -/
theorem reserves (inv : Inv state) (legal : Event.Legal (.reserved slot incarnation) state.world)
    (fresh : state.nextIncarnation ≠ 0 → incarnation < state.nextIncarnation) :
    Inv (state.setOwnership slot (pack incarnation .arming) (.reserved slot incarnation :: ·)) := by
  have now : current slot (.reserved slot incarnation :: state.world) = (incarnation, .arming) :=
    current_own
  refine ⟨⟨legal, inv.lawful⟩, fun other => ?_, fun {other number graceState} here nonzero calm =>
    ?_, fun nonzero number member => ?_⟩
  · change _ = pack (current other (_ :: state.world)).1 (current other (_ :: state.world)).2
    by_cases own : other = slot
    · subst own
      rw [Slots.ownership_setOwnership, now]
    · rw [Slots.ownership_setOwnership_of_ne _ _ _ _ _ own, current_other (Ne.symm own),
        inv.ownership]
  · change current other (_ :: state.world) = _ at here
    change _ ∈ _ :: state.world
    rw [Slots.identity_setOwnership]
    by_cases own : other = slot
    · subst own
      rw [now] at here
      exact absurd (Prod.mk.inj here).2.symm calm
    · rw [current_other (Ne.symm own)] at here
      exact List.mem_cons_of_mem _ (inv.identity here nonzero calm)
  · rcases List.mem_cons.mp member with rfl | earlier
    · exact fresh nonzero
    · exact inv.fresh nonzero number earlier

end Inv

/-! ### What an access may do -/

abbrev Quiet (slot : Fin 2) (state : State) : Prop := arming.Quiet slot state

/-- Steps with events of one kind. -/
abbrev Around (kind : Event → Prop) : State → State → Prop := arming.Around Inv (Adds kind)

/-- Steps that leave the arms to the executor. -/
abbrev Beside (kind : Event → Prop) : State → State → Prop := arming.Beside Inv (Adds kind)

section Kinds

variable {kind : Event → Prop}

theorem Around.refl (state : State) : Around kind state state := Arming.Around.refl Adds.refl state

theorem Around.trans {first second third : State} (one : Around kind first second)
    (two : Around kind second third) : Around kind first third :=
  Arming.Around.trans Adds.trans one two

theorem Around.mono {wider : Event → Prop} {before after : State} (around : Around kind before after)
    (weaken : ∀ event, kind event → wider event) : Around wider before after :=
  Arming.Around.mono (fun _ _ adds => adds.mono weaken) around

theorem Around.suffix {before after : State} (around : Around kind before after) :
    before.world <:+ after.world := around.grows.suffix

theorem Beside.refl (state : State) : Beside kind state state := Arming.Beside.refl Adds.refl state

theorem Beside.trans {first second third : State} (one : Beside kind first second)
    (two : Beside kind second third) : Beside kind first third :=
  Arming.Beside.trans Adds.trans one two

theorem Beside.mono {wider : Event → Prop} {before after : State} (beside : Beside kind before after)
    (weaken : ∀ event, kind event → wider event) : Beside wider before after :=
  Arming.Beside.mono (fun _ _ adds => adds.mono weaken) beside

theorem Beside.suffix {before after : State} (beside : Beside kind before after) :
    before.world <:+ after.world := beside.grows.suffix

theorem Beside.reservedIds (newerless : ∀ event, kind event → event.reservedId = none)
    {before after : State} (beside : Beside kind before after) :
    reservedIds after.world = reservedIds before.world := by
  obtain ⟨newer, grown, own⟩ := beside.grows
  have nothing : newer.filterMap Event.reservedId = [] :=
    List.filterMap_eq_nil_iff.mpr fun event member => newerless event (own event member)
  rw [grown, GraceAuthority.reservedIds, List.filterMap_append, nothing, List.nil_append]
  rfl

/-- An exchange goes on with the incarnation of a slot that is not being armed. -/
theorem Beside.changed {state : State} (inv : Inv state) (event : Event) (own : kind event)
    {graceState target : GraceState}
    (here : current event.slot state.world = (event.incarnation, graceState))
    (busy : graceState ≠ .idle) (calm : graceState ≠ .arming) (legal : event.Legal state.world)
    (leads : event.target graceState = target) (rests : target ≠ .arming) :
    Beside kind state
      (state.setOwnership event.slot (pack event.incarnation target) (event :: ·)) := by
  have small : event.incarnation ≤ Tagged.maxNumber := by
    have bound := inv.lawful.current_small event.slot
    rwa [here] at bound
  have unreserving : event.reservedId = none := by
    cases event with
    | reserved slot incarnation => exact absurd ((Prod.ext_iff.mp here).2.symm.trans legal.1) busy
    | _ => rfl
  have kept := inv.changed unreserving legal (by rw [here, leads])
    (List.mem_cons_of_mem _ (inv.identity here (inv.positive here busy) calm))
  refine .of_exchange (fun _ => kept) (.one own _) ?_ ?_ ?_
  · rw [number_pack small, inv.number, here]
  · change Tagged.tag _ ≠ GraceState.arming.code
    rw [ne_eq, inv.tag_iff, here]
    exact calm
  · change Tagged.tag _ ≠ GraceState.arming.code
    rw [ne_eq, pack, Tagged.tag_tagged small, code_inj]
    exact rests

end Kinds

/-! ### The executor -/

section Executor

/-- The events of callbacks. -/
def ByCallbacks (event : Event) : Prop := event.callback.isSome

def ByExecutor (event : Event) : Prop := event.callback = none

theorem ByCallbacks.unreserving (event : Event) (own : ByCallbacks event) :
    event.reservedId = none := by
  cases event with
  | reserved slot incarnation => simp [ByCallbacks, Event.callback] at own
  | _ => rfl

/-- The incarnation is still the executor's alone. -/
def Unused (incarnation : UInt64) (state : State) : Prop :=
  (∀ earlier ∈ reservedIds state.world, earlier < incarnation) ∧
    (state.nextIncarnation ≠ 0 → incarnation < state.nextIncarnation)

def Held (slot : Fin 2) (incarnation : UInt64) (identity : BleRouteReleaseIdentity)
    (state : State) : Prop :=
  Inv state ∧ .armed slot incarnation identity ∈ state.world

variable {state : State} {slot : Fin 2} {incarnation : UInt64}

theorem spends (inv : Inv state) (small : state.nextIncarnation ≤ Tagged.maxNumber)
    (nonzero : state.nextIncarnation ≠ 0) :
    Inv { state with nextIncarnation := successor state.nextIncarnation } :=
  ⟨inv.lawful, inv.ownership, inv.identity, fun more earlier member =>
    UInt64.lt_trans (inv.fresh nonzero earlier member) (lt_successor small more)⟩

theorem arming_rules : arming.Rules (Beside ByCallbacks) (Around ByExecutor) Inv Unused Held where
  distinct := by decide
  stays := Around.refl
  stable inv beside := beside.keeps inv
  unused_stable unused beside := by
    rw [Unused, Beside.reservedIds ByCallbacks.unreserving beside, beside.incarnation]
    exact unused
  held_stable held beside := ⟨beside.keeps held.1, (Beside.suffix beside).subset held.2⟩
  frozen slot beside busy := (beside.apart slot).resolve_right fun moved => moved.1 busy
  calm slot beside := beside.calm slot
  ticket := by
    intro state inv
    have kept : Inv { state with nextSlot := state.nextSlot + 1 } :=
      ⟨inv.lawful, inv.ownership, inv.identity, inv.fresh⟩
    exact ⟨⟨fun _ => kept, .refl _, .of_slots rfl⟩, kept⟩
  spend inv nonzero small := by
    have kept := spends inv small nonzero
    exact ⟨⟨fun _ => kept, .refl _, .of_slots rfl⟩, kept, inv.fresh nonzero, lt_successor small⟩
  reserve := by
    intro state slot incarnation inv unused nonzero small free
    have idle : (current slot state.world).2 = .idle := inv.tag_iff.mp free
    have positive := UInt64.pos_iff_ne_zero.mpr nonzero
    have kept := inv.reserves ⟨idle, positive, small, unused.1⟩ unused.2
    have own : ByExecutor (.reserved slot incarnation) := rfl
    refine ⟨⟨fun _ => kept, .one own _, .of_reserved small ?_⟩, kept⟩
    rw [inv.number]
    rcases inv.lawful.current_reserved slot with nothing | reserved
    · rw [nothing]
      exact positive
    · exact unused.1 _ reserved
  store := by
    intro state slot incarnation word value inv small own
    have here := (inv.ownership_iff small).mp own
    have kept : Inv (state.setWord slot word value) := by
      refine ⟨inv.lawful, fun other => ?_, fun {other number graceState} now nonzero calm => ?_,
        inv.fresh⟩
      · rw [Slots.ownership_setWord]
        exact inv.ownership other
      by_cases same : other = slot
      · subst same
        exact absurd (Prod.mk.inj (now.symm.trans here)).2 calm
      · rw [Slots.identity_setWord_of_ne _ _ _ _ _ same]
        exact inv.identity now nonzero calm
    refine ⟨⟨fun _ => kept, .refl _, .of_arming slot ?_ ?_ ?_⟩, kept⟩
    · exact not_not.mpr ((inv.tag slot).trans (by rw [here]; rfl))
    · rw [Slots.ownership_setWord]
    · exact fun other different => ⟨by rw [Slots.ownership_setWord],
        Slots.identity_setWord_of_ne _ _ _ _ _ different⟩
  publish := by
    intro state slot incarnation inv nonzero small own _
    have here := (inv.ownership_iff small).mp own
    have legal : Event.Legal (.armed slot incarnation (state.identity slot)) state.world := here
    have kept := inv.changed rfl legal rfl (List.mem_cons_self ..)
    have mine : ByExecutor (.armed slot incarnation (state.identity slot)) := rfl
    refine ⟨⟨fun _ => kept, .one mine _, .of_arming slot ?_ ?_ ?_⟩, kept, List.mem_cons_self ..⟩
    · exact not_not.mpr ((inv.tag slot).trans (by rw [here]; rfl))
    · rw [own, Slots.ownership_setOwnership, Tagged.number_tagged small,
        Tagged.number_tagged small]
    · exact fun other different => ⟨Slots.ownership_setOwnership_of_ne _ _ _ _ _ different,
        by rw [Slots.identity_setOwnership]⟩

/-- The claim of an arm that has been published for its identity. -/
def Genuine (claim : Claim) (log : List Event) : Prop :=
  ∃ incarnation ≤ Tagged.maxNumber, claim.ownership = pack incarnation .armed ∧
    .armed claim.slot incarnation claim.identity ∈ log

theorem Genuine.grows {claim : Claim} {log later : List Event} (genuine : Genuine claim log)
    (grown : log <:+ later) : Genuine claim later := by
  obtain ⟨incarnation, small, ownership, armed⟩ := genuine
  exact ⟨incarnation, small, ownership, grown.subset armed⟩

/-- Between its calls the executor arms nothing. -/
abbrev Rested (state : State) : Prop := arming.Rested state

theorem Rested.beside (rested : Rested state) {later : State}
    (beside : Beside ByCallbacks state later) : Rested later := Arming.Beside.rested beside rested

theorem arm_safe (inv : Inv state) (rested : Rested state) (identity : BleRouteReleaseIdentity)
    (spurious : Fin 2 → List Bool) :
    (arm identity spurious).Safe (Beside ByCallbacks) (Around ByExecutor)
      (fun result later => Inv later ∧ Rested later ∧ ∀ claim, result = some (some claim) →
        claim.identity = identity ∧ Genuine claim later.world) state := by
  refine .bind Beside.refl (Program.Safe.mono ?_ (arming_rules.arm_safe Beside.refl inv rested _ _))
  intro result later armed
  have without {result : Option (Option Claim)} (none : ∀ claim, result ≠ some (some claim))
      (inv : Inv later) :
      (pure result : Program State _).Safe (Beside ByCallbacks) (Around ByExecutor)
        (fun result later => Inv later ∧ Rested later ∧ ∀ claim, result = some (some claim) →
          claim.identity = identity ∧ Genuine claim later.world) later :=
    fun last beside => ⟨beside.keeps inv, Rested.beside armed.1 beside,
      fun claim claimed => absurd claimed (none claim)⟩
  match result with
  | none => exact without (by simp) armed.2
  | some none => exact without (by simp) armed.2
  | some (some (slot, ownership)) =>
      intro last beside
      obtain ⟨rested, incarnation, -, small, same, inv, held⟩ := armed
      refine ⟨beside.keeps inv, Rested.beside rested beside, ?_⟩
      rintro claim ⟨⟩
      exact ⟨rfl, incarnation, small, same, (Beside.suffix beside).subset held⟩

theorem cancelLoop_safe {claim : Claim} (inv : Inv state) (rested : Rested state)
    (genuine : Genuine claim state.world) (spurious : List Bool) :
    (cancelLoop claim spurious).Safe (Beside ByCallbacks) (Around ByExecutor)
      (fun result later => Inv later ∧ Rested later ∧ (result = true →
        Ended claim.slot (Tagged.number claim.ownership) later.world)) state := by
  obtain ⟨incarnation, small, ownership, -⟩ := id genuine
  have number : Tagged.number claim.ownership = incarnation := by
    rw [ownership, number_pack small]
  rw [number]
  induction spurious generalizing state with
  | nil =>
      exact fun later beside =>
        ⟨beside.keeps inv, rested.beside beside, fun returned => absurd returned (by decide)⟩
  | cons spurious rest ih =>
      refine Program.Safe.readThen fun first beside => ⟨.refl first, ?_⟩
      have invFirst := beside.keeps inv
      have restedFirst := rested.beside beside
      have genuineFirst := genuine.grows beside.suffix
      have past (ended : Ended claim.slot incarnation first.world) :
          (pure true : Program State Bool).Safe (Beside ByCallbacks) (Around ByExecutor)
            (fun result later => Inv later ∧ Rested later ∧ (result = true →
              Ended claim.slot incarnation later.world)) first :=
        fun later beside => ⟨beside.keeps invFirst, restedFirst.beside beside,
          fun _ => ended.grows beside.suffix⟩
      have live_or : Ended claim.slot incarnation first.world ∨ ∃ graceState,
          current claim.slot first.world = (incarnation, graceState) ∧
            (graceState = .armed ∨ graceState = .claimed ∨ graceState = .due) := by
        obtain ⟨number, less, same, armed⟩ := genuineFirst
        obtain ⟨rfl, -⟩ := (pack_inj small less).mp (ownership.symm.trans same)
        exact invFirst.lawful.live_or_ended armed
      split
      next other =>
        refine past (live_or.resolve_right ?_)
        rintro ⟨graceState, here, -⟩
        refine other (Tagged.unmasked_inj.mpr ?_)
        rw [number, invFirst.number, here]
      next same =>
        replace same : Tagged.number (first.ownership claim.slot) = incarnation :=
          (Tagged.unmasked_inj.mp (not_not.mp same)).trans number
        have exchanges {graceState target : GraceState} {next : Option UInt64 → Program State Bool}
            (won : next none = pure true) (lost : ∀ word, next (some word) = cancelLoop claim rest)
            (found : stateOf (first.ownership claim.slot) = some graceState)
            (live : graceState = .armed ∨ graceState = .due ∨ graceState = .claimed)
            (leads : (Event.withdrawn claim.slot incarnation).target graceState = target)
            (rests : target ≠ .arming) :
            (exchange claim.slot (first.ownership claim.slot)
                (withState (first.ownership claim.slot) target)
                (.withdrawn claim.slot (Tagged.number (first.ownership claim.slot)) :: ·)
                spurious >>= next).Safe (Beside ByCallbacks) (Around ByExecutor)
              (fun result later => Inv later ∧ Rested later ∧ (result = true →
                Ended claim.slot incarnation later.world)) first := by
          have word : first.ownership claim.slot = pack incarnation graceState := by
            rw [invFirst.stateOf_ownership] at found
            rw [invFirst.number] at same
            rw [invFirst.ownership, same, Option.some.inj found]
          rw [same, word, withState_pack small]
          refine Program.Safe.changeThen fun second beside => ?_
          have invSecond := beside.keeps invFirst
          have restedSecond := restedFirst.beside beside
          split
          next exchanged =>
            have here := (invSecond.ownership_iff small).mp exchanged.1
            have step : Beside ByExecutor second (second.setOwnership claim.slot
                (pack incarnation target) (.withdrawn claim.slot incarnation :: ·)) := by
              have own : ByExecutor (.withdrawn claim.slot incarnation) := rfl
              refine Beside.changed invSecond _ own here ?_ ?_ ⟨graceState, here, live⟩ leads rests
              · rcases live with rfl | rfl | rfl <;> simp
              · rcases live with rfl | rfl | rfl <;> simp
            rw [won]
            refine ⟨step.toAround, fun last after => ⟨?_, Rested.beside ?_ after, fun _ => ?_⟩⟩
            · exact after.keeps (step.keeps invSecond)
            · refine Arming.Rested.setOwnership restedSecond ?_
              change Tagged.tag _ ≠ GraceState.arming.code
              rw [pack, Tagged.tag_tagged small, ne_eq, code_inj]
              exact rests
            · exact .inl (after.suffix.subset (List.mem_cons_self ..))
          · rw [lost]
            exact ⟨.refl second, ih invSecond restedSecond (genuineFirst.grows beside.suffix)⟩
        have found := invFirst.stateOf_ownership claim.slot
        have settled (ended : (current claim.slot first.world).2 ≠ .armed ∧
            (current claim.slot first.world).2 ≠ .claimed ∧
            (current claim.slot first.world).2 ≠ .due) :
            Ended claim.slot incarnation first.world := by
          refine live_or.resolve_right ?_
          rintro ⟨graceState, now, live⟩
          rw [now] at ended
          rcases live with rfl | rfl | rfl
          · exact ended.1 rfl
          · exact ended.2.1 rfl
          · exact ended.2.2 rfl
        generalize (current claim.slot first.world).2 = graceState at found settled
        cases graceState with
        | armed =>
            rw [found]
            exact exchanges rfl (fun _ => rfl) found (.inl rfl) rfl (by decide)
        | due =>
            rw [found]
            exact exchanges rfl (fun _ => rfl) found (.inr (.inl rfl)) rfl (by decide)
        | claimed =>
            rw [found]
            exact exchanges rfl (fun _ => rfl) found (.inr (.inr rfl)) rfl (by decide)
        | idle | arming | canceledClaimed =>
            rw [found]
            exact past (settled (by decide))

theorem cancel_safe (inv : Inv state) (rested : Rested state) {claim : Option Claim}
    (genuine : ∀ valid ∈ claim, Genuine valid state.world) (spurious : List Bool) :
    (cancel claim spurious).Safe (Beside ByCallbacks) (Around ByExecutor)
      (fun result later => Inv later ∧ Rested later ∧ (result = true → ∀ valid ∈ claim,
        Ended valid.slot (Tagged.number valid.ownership) later.world)) state := by
  cases claim with
  | none =>
      exact fun later beside => ⟨beside.keeps inv, rested.beside beside, fun _ => by simp⟩
  | some valid =>
      refine (cancelLoop_safe inv rested (genuine valid rfl) spurious).mono ?_
      refine fun result later done => ⟨done.1, done.2.1, ?_⟩
      rintro returned _ ⟨⟩
      exact done.2.2 returned

theorem consumeDue_safe (inv : Inv state) (rested : Rested state) {claim : Option Claim}
    (genuine : ∀ valid ∈ claim, Genuine valid state.world) (identity : BleRouteReleaseIdentity) :
    (consumeDue claim identity).Safe (Beside ByCallbacks) (Around ByExecutor)
      (fun result later => Inv later ∧ Rested later ∧ (result = true → ∃ valid ∈ claim,
        valid.identity = identity ∧ .consumed valid.slot (Tagged.number valid.ownership) identity ∈
          later.world)) state := by
  have refused {state : State} (inv : Inv state) (rested : Rested state) :
      (pure false : Program State Bool).Safe (Beside ByCallbacks) (Around ByExecutor)
        (fun result later => Inv later ∧ Rested later ∧ (result = true → ∃ valid ∈ claim,
          valid.identity = identity ∧
            .consumed valid.slot (Tagged.number valid.ownership) identity ∈ later.world)) state :=
    fun later beside =>
      ⟨beside.keeps inv, rested.beside beside, fun consumed => absurd consumed (by decide)⟩
  unfold consumeDue
  cases claim with
  | none => exact refused inv rested
  | some valid =>
      dsimp only
      split
      · exact refused inv rested
      next same =>
        replace same : valid.identity = identity :=
          identitiesEqual_iff.mp (by simpa using same)
        obtain ⟨incarnation, small, ownership, armed⟩ := genuine valid rfl
        rw [same] at armed
        have loads : (loadIdentity valid.slot IdentityWord.loaded unarmed).Safe
            (Beside ByCallbacks) (Around ByExecutor) (fun _ later => Inv later ∧ Rested later ∧
              .armed valid.slot incarnation identity ∈ later.world) state := by
          have each : (loadIdentity valid.slot IdentityWord.loaded unarmed : Program State _).Each
              (· = ·) := loadIdentity_each (fun _ => rfl) _ _ _
          refine each.safe ?_ ?_ ⟨inv, rested, armed⟩
          · exact fun before after now beside => ⟨beside.keeps now.1, now.2.1.beside beside,
              beside.suffix.subset now.2.2⟩
          · rintro before _ now rfl
            exact ⟨.refl before, now⟩
        refine .bind Beside.refl (loads.mono fun stored later now => ?_)
        split
        · exact refused now.1 now.2.1
        rw [ownership, withState_pack small, withState_pack small, number_pack small]
        refine Program.Safe.changeThen fun second beside => ?_
        have invSecond := beside.keeps now.1
        have restedSecond := now.2.1.beside beside
        split
        next exchanged =>
          have here := (invSecond.ownership_iff small).mp exchanged.1
          have own : ByExecutor (.consumed valid.slot incarnation identity) := rfl
          have step : Beside ByExecutor second (second.setOwnership valid.slot
              (pack incarnation .idle) (.consumed valid.slot incarnation identity :: ·)) :=
            Beside.changed invSecond _ own here (by decide) (by decide)
              ⟨here, beside.suffix.subset now.2.2⟩ rfl (by decide)
          refine ⟨step.toAround, fun last after => ⟨?_, Rested.beside ?_ after, fun _ => ?_⟩⟩
          · exact after.keeps (step.keeps invSecond)
          · refine Arming.Rested.setOwnership restedSecond ?_
            change Tagged.tag _ ≠ GraceState.arming.code
            rw [pack, Tagged.tag_tagged small, ne_eq, code_inj]
            decide
          · refine ⟨valid, rfl, same, ?_⟩
            rw [ownership, number_pack small]
            exact after.suffix.subset (List.mem_cons_self ..)
        · refine ⟨.refl second, fun last after => ⟨after.keeps invSecond, restedSecond.beside after,
            fun consumed => ?_⟩⟩
          simp at consumed

end Executor

/-! ### Callbacks -/

section Callbacks

def ByCallback (callback : Nat) (event : Event) : Prop := event.callback = some callback

/-- What the other tasks do beside a callback. -/
abbrev Others (callback : Nat) : State → State → Prop :=
  Around fun event => ¬ByCallback callback event

/-- What a callback does. -/
abbrev Own (callback : Nat) : State → State → Prop := Beside (ByCallback callback)

variable {callback : Nat} {state : State} {slot : Fin 2} {incarnation : UInt64}

theorem holds_iff {later : State} (others : Others callback state later) :
    Holds callback slot incarnation later.world ↔ Holds callback slot incarnation state.world := by
  obtain ⟨newer, grown, apart⟩ := others.grows
  have own (event : Event) (mine : event.callback = some callback) :
      event ∈ later.world ↔ event ∈ state.world := by
    rw [grown, List.mem_append]
    exact or_iff_right fun member => apart event member mine
  simp only [Holds, own (.claimed callback slot incarnation _) rfl,
    own (.published callback slot incarnation) rfl, own (.freed callback slot incarnation) rfl]

theorem Free.others {later : State} (free : Free callback state.world)
    (others : Others callback state later) : Free callback later.world :=
  fun slot incarnation holds => free slot incarnation ((holds_iff others).mp holds)

/-- What the callback knows of a word of the slot that it has found armed: it is still the one
that it has loaded, unless the slot has gone on. -/
def SeenWord (slot : Fin 2) (incarnation : UInt64) (word : IdentityWord) (value : UInt64)
    (state : State) : Prop :=
  incarnation ≤ Tagged.number (state.ownership slot) ∧
    (Tagged.number (state.ownership slot) = incarnation →
      Quiet slot state ∧ state.identity slot word = value)

theorem SeenWord.onward {word : IdentityWord} {value : UInt64} {later : State}
    (seen : SeenWord slot incarnation word value state) (onward : arming.Onward state later) :
    SeenWord slot incarnation word value later := by
  rcases onward slot with less | ⟨same, kept⟩
  · have above := UInt64.lt_of_le_of_lt seen.1 less
    exact ⟨UInt64.le_of_lt above, fun here => absurd (here ▸ above) (UInt64.lt_irrefl _)⟩
  · refine ⟨same ▸ seen.1, fun here => ?_⟩
    obtain ⟨quiet, found⟩ := seen.2 (same ▸ here)
    obtain ⟨quietLater, identity⟩ := kept quiet
    exact ⟨quietLater, by rw [identity, found]⟩

/-- A slot that was armed for the identity of the claim, and still is unless it has gone on. -/
def Found (candidate : Claim) (state : State) : Prop :=
  ∃ incarnation ≤ Tagged.maxNumber, candidate.ownership = pack incarnation .armed ∧
    ∀ word, SeenWord candidate.slot incarnation word (candidate.identity word) state

theorem Found.onward {candidate : Claim} {later : State} (found : Found candidate state)
    (onward : arming.Onward state later) : Found candidate later := by
  obtain ⟨incarnation, small, ownership, seen⟩ := found
  exact ⟨incarnation, small, ownership, fun word => (seen word).onward onward⟩

theorem findArmed_safe (inv : Inv state) (free : Free callback state.world)
    (identity : BleRouteReleaseIdentity) (slots : List (Fin 2)) :
    (findArmed identity slots).Safe (Others callback) (Own callback)
      (fun result later => Inv later ∧ Free callback later.world ∧
        ∀ candidate ∈ result, Found candidate later) state := by
  induction slots generalizing state with
  | nil => exact fun later others => ⟨others.keeps inv, free.others others, by simp⟩
  | cons slot rest ih =>
      refine Program.Safe.readThen fun first others => ⟨.refl first, ?_⟩
      have invFirst := others.keeps inv
      have freeFirst := free.others others
      split
      next found =>
        rw [invFirst.stateOf_ownership] at found
        obtain ⟨incarnation, here⟩ : ∃ incarnation,
            current slot first.world = (incarnation, .armed) :=
          ⟨_, Prod.ext rfl (Option.some.inj found)⟩
        have small : incarnation ≤ Tagged.maxNumber := by
          have bound := invFirst.lawful.current_small slot
          rwa [here] at bound
        have word : first.ownership slot = pack incarnation .armed :=
          (invFirst.ownership_iff small).mpr here
        -- From here on the slot is not armed again under its number.
        let Kept (state : State) : Prop := (Inv state ∧ Free callback state.world) ∧
          incarnation ≤ Tagged.number (state.ownership slot) ∧
            (Tagged.number (state.ownership slot) = incarnation → Quiet slot state)
        have loads : (loadIdentity slot IdentityWord.loaded unarmed).Safe (Others callback)
            (Own callback) (fun loaded later => Kept later ∧
              ∀ word, SeenWord slot incarnation word (loaded word) later) first := by
          refine loadIdentity_all .refl ?_ ?_ ?_ unarmed ⟨⟨invFirst, freeFirst⟩, ?_, ?_⟩
          · rintro before after ⟨⟨inv, free⟩, reached, quiet⟩ others
            have seen : SeenWord slot incarnation .authorityEpoch
                (before.identity slot .authorityEpoch) before :=
              ⟨reached, fun here => ⟨quiet here, rfl⟩⟩
            have later := seen.onward others.onward
            exact ⟨⟨others.keeps inv, free.others others⟩, later.1, fun here => (later.2 here).1⟩
          · exact fun word value before after seen others => seen.onward others.onward
          · exact fun word state kept => ⟨kept.2.1, fun here => ⟨kept.2.2 here, rfl⟩⟩
          · rw [word, number_pack small]
            exact UInt64.le_refl _
          · intro _
            change Tagged.tag (first.ownership slot) ≠ GraceState.arming.code
            rw [word, pack, Tagged.tag_tagged small]
            decide
        refine .bind Around.refl (loads.mono ?_)
        rintro loaded second ⟨⟨⟨invSecond, freeSecond⟩, -⟩, seen⟩
        split
        next same =>
          obtain rfl := identitiesEqual_iff.mp same
          refine fun last others =>
            ⟨others.keeps invSecond, freeSecond.others others, ?_⟩
          rintro _ ⟨⟩
          exact ⟨incarnation, small, word, fun word => (seen word).onward others.onward⟩
        · exact ih invSecond freeSecond
      · exact ih invFirst freeFirst

/-- The one claim that the callback has. -/
def HoldsOne (callback : Nat) (claimed : Claim) (log : List Event) : Prop :=
  ∃ incarnation ≤ Tagged.maxNumber, claimed.ownership = pack incarnation .claimed ∧
    Holds callback claimed.slot incarnation log ∧
      ∀ slot other, Holds callback slot other log → slot = claimed.slot ∧ other = incarnation

theorem HoldsOne.others {claimed : Claim} {later : State}
    (holds : HoldsOne callback claimed state.world) (others : Others callback state later) :
    HoldsOne callback claimed later.world := by
  obtain ⟨incarnation, small, ownership, held, only⟩ := holds
  exact ⟨incarnation, small, ownership, (holds_iff others).mpr held,
    fun slot other also => only slot other ((holds_iff others).mp also)⟩

theorem claim_safe {candidate : Claim} (inv : Inv state) (free : Free callback state.world)
    (found : Found candidate state) :
    (claim callback candidate).Safe (Others callback) (Own callback)
      (fun result later => Inv later ∧ match result with
        | none => Free callback later.world
        | some claimed => HoldsOne callback claimed later.world) state := by
  obtain ⟨incarnation, small, ownership, -⟩ := id found
  have armed : stateOf candidate.ownership = some .armed := by rw [ownership, stateOf_pack small]
  unfold claim
  rw [if_neg (not_not.mpr armed), ownership]
  dsimp only
  rw [withState_pack small, number_pack small]
  refine Program.Safe.changeThen fun first others => ?_
  have invFirst := others.keeps inv
  have freeFirst := free.others others
  obtain ⟨number, less, same, seen⟩ := found.onward others.onward
  obtain ⟨rfl, -⟩ := (pack_inj small less).mp (ownership.symm.trans same)
  split
  next exchanged =>
    have here := (invFirst.ownership_iff small).mp exchanged.1
    have identity : first.identity candidate.slot = candidate.identity := by
      funext word
      exact ((seen word).2 (by rw [invFirst.number, here])).2
    have member := invFirst.identity here (invFirst.positive here (by decide)) (by decide)
    rw [identity] at member
    have own : ByCallback callback
        (.claimed callback candidate.slot incarnation candidate.identity) := rfl
    have step : Own callback first (first.setOwnership candidate.slot (pack incarnation .claimed)
        (.claimed callback candidate.slot incarnation candidate.identity :: ·)) :=
      Beside.changed invFirst _ own here (by decide) (by decide) ⟨here, member⟩ rfl (by decide)
    have holds (slot : Fin 2) (other : UInt64) :=
      invFirst.lawful.holds_claimed here freeFirst candidate.identity slot other
    refine ⟨step, fun last after => ⟨after.keeps (step.keeps invFirst), HoldsOne.others ?_ after⟩⟩
    exact ⟨incarnation, small, rfl, (holds _ _).mpr ⟨rfl, rfl⟩,
      fun slot other => (holds slot other).mp⟩
  · exact ⟨.refl first, fun last after => ⟨after.keeps invFirst, freeFirst.others after⟩⟩

theorem publishDue_safe {claimed : Claim} (inv : Inv state)
    (holds : HoldsOne callback claimed state.world) :
    (publishDue callback claimed).Safe (Others callback) (Own callback)
      (fun _ later => Inv later ∧ Free callback later.world) state := by
  obtain ⟨incarnation, small, ownership, -⟩ := id holds
  have held {later : State} (holds : HoldsOne callback claimed later.world) :
      Holds callback claimed.slot incarnation later.world ∧
        ∀ slot other, Holds callback slot other later.world →
          slot = claimed.slot ∧ other = incarnation := by
    obtain ⟨number, less, same, held, only⟩ := holds
    obtain ⟨rfl, -⟩ := (pack_inj small less).mp (ownership.symm.trans same)
    exact ⟨held, only⟩
  have isClaimed : stateOf claimed.ownership = some .claimed := by
    rw [ownership, stateOf_pack small]
  unfold publishDue
  rw [if_neg (not_not.mpr isClaimed), ownership]
  dsimp only
  rw [withState_pack small, withState_pack small, withState_pack small, number_pack small]
  refine Program.Safe.changeThen fun first others => ?_
  have invFirst := others.keeps inv
  have holdsFirst := holds.others others
  obtain ⟨heldFirst, only⟩ := held holdsFirst
  obtain ⟨⟨identity, claim⟩, -⟩ := id heldFirst
  split
  next exchanged =>
    have here := (invFirst.ownership_iff small).mp exchanged.1
    have own : ByCallback callback (.published callback claimed.slot incarnation) := rfl
    have step : Own callback first (first.setOwnership claimed.slot (pack incarnation .due)
        (.published callback claimed.slot incarnation :: ·)) :=
      Beside.changed invFirst _ own here (by decide) (by decide) ⟨here, identity, claim⟩ rfl
        (by decide)
    refine ⟨step, fun last after => ⟨after.keeps (step.keeps invFirst), Free.others ?_ after⟩⟩
    exact free_of_settled rfl only (.inl (List.mem_cons_self ..))
  next kept =>
    -- The executor has cancelled the arm under the claim, and leaves the rest to the callback.
    have here : current claimed.slot first.world = (incarnation, .canceledClaimed) := by
      refine (invFirst.lawful.held_state heldFirst).resolve_left fun claimed => kept ⟨?_, rfl⟩
      exact (invFirst.ownership_iff small).mpr claimed
    have word : first.ownership claimed.slot = pack incarnation .canceledClaimed :=
      (invFirst.ownership_iff small).mpr here
    have ended : Ended claimed.slot incarnation first.world :=
      (invFirst.lawful.ended_now here (by decide)).mpr rfl
    refine ⟨.refl first, ?_⟩
    dsimp only
    rw [if_pos word, word]
    refine Program.Safe.changeThen fun second others => ?_
    have invSecond := others.keeps invFirst
    obtain ⟨heldSecond, only⟩ := held (holdsFirst.others others)
    obtain ⟨⟨identity, claim⟩, -⟩ := id heldSecond
    have still : current claimed.slot second.world = (incarnation, .canceledClaimed) := by
      refine (invSecond.lawful.held_state heldSecond).resolve_left fun here => ?_
      have past := (invSecond.lawful.ended_now here (by decide)).mp (ended.grows others.suffix)
      exact absurd past (by decide)
    rw [if_pos ⟨(invSecond.ownership_iff small).mpr still, rfl⟩]
    have own : ByCallback callback (.freed callback claimed.slot incarnation) := rfl
    have step : Own callback second (second.setOwnership claimed.slot (pack incarnation .idle)
        (.freed callback claimed.slot incarnation :: ·)) :=
      Beside.changed invSecond _ own still (by decide) (by decide) ⟨still, identity, claim⟩ rfl
        (by decide)
    refine ⟨step, fun last after => ⟨after.keeps (step.keeps invSecond), Free.others ?_ after⟩⟩
    exact free_of_settled rfl only (.inr (List.mem_cons_self ..))

theorem signal_safe (inv : Inv state) (free : Free callback state.world)
    (identity : BleRouteReleaseIdentity) (identityCurrent : Bool) :
    (signal callback identity identityCurrent).Safe (Others callback) (Own callback)
      (fun _ later => Inv later ∧ Free callback later.world) state := by
  have refused {state : State} (inv : Inv state) (free : Free callback state.world) :
      (pure false : Program State Bool).Safe (Others callback) (Own callback)
        (fun _ later => Inv later ∧ Free callback later.world) state :=
    fun later others => ⟨others.keeps inv, free.others others⟩
  refine .bind Around.refl (Program.Safe.mono ?_ (findArmed_safe inv free identity _))
  rintro (_ | candidate) first ⟨invFirst, freeFirst, found⟩
  · exact refused invFirst freeFirst
  dsimp only
  split
  · exact refused invFirst freeFirst
  refine .bind Around.refl (Program.Safe.mono ?_ (claim_safe invFirst freeFirst (found _ rfl)))
  rintro (_ | claimed) second ⟨invSecond, kept⟩
  · exact refused invSecond kept
  · exact publishDue_safe invSecond kept

end Callbacks

end HidBot.GraceAuthority
