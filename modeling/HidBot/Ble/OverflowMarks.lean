import HidBot.Ble.Overflow

/-!
# No overflow mark is lost

A mark of the current generation is cleared only after a fault of that
generation, unless the executor takes it for stale: it was published after the
turn of `consume_ble_overflow` looked for it and before the turn loads what it
believes to be an old mark.
-/

namespace HidBot.BleControl

open Interleaving BleLifecycle

/-- The generation as a number. -/
def State.now (state : State) : Nat := state.lifecycle.generation.toNat

/-- A mark of the current generation goes only after a fault of that generation. -/
def KeepsMarks (before after : State) : Prop :=
  ∀ authority, before.Marked authority → authority = before.lifecycle.generation →
    after.Marked authority ∨ before.record.failClosed = some authority ∨
      before.record.strongerFault = some authority

/-- A committed fault is a fault of the current generation, and no mark is ahead of it. -/
structure State.Sound (state : State) : Prop where
  mark : state.overflowAuthority.toNat ≤ state.now
  committed : state.persistentStoreFailureCommitted ∨ state.handoffFailureCommitted →
    state.record.strongerFault = some state.lifecycle.generation

/-- What every call relies on. -/
structure Steady (before after : State) : Prop where
  sound : before.Sound → after.Sound
  now : before.now ≤ after.now

/-- What only the executor writes. -/
structure SameExecutor (before after : State) : Prop where
  record : after.record = before.record
  persistent : after.persistentStoreFailureCommitted = before.persistentStoreFailureCommitted
  handoff : after.handoffFailureCommitted = before.handoffFailureCommitted

theorem Steady.refl (state : State) : Steady state state := ⟨id, Nat.le_refl _⟩

theorem Steady.trans {first second third : State} (one : Steady first second)
    (two : Steady second third) : Steady first third :=
  ⟨two.sound ∘ one.sound, Nat.le_trans one.now two.now⟩

theorem KeepsMarks.refl (state : State) : KeepsMarks state state :=
  fun _ marked _ => .inl marked

/-- An access that leaves the marks alone. -/
theorem KeepsMarks.of_same {before after : State}
    (mark : after.overflowAuthority = before.overflowAuthority)
    (zero : after.overflowAuthorityZero = before.overflowAuthorityZero) :
    KeepsMarks before after := by
  intro authority marked _
  left
  simpa only [State.Marked, mark, zero] using marked

/-! ### Producers -/

structure ProducerGuar (before after : State) : Prop where
  steady : Steady before after
  same : SameExecutor before after
  keeps : KeepsMarks before after

theorem ProducerGuar.refl (state : State) : ProducerGuar state state :=
  ⟨.refl state, ⟨rfl, rfl, rfl⟩, .refl state⟩

/-- A sound state in which `floor` has been reached. -/
def Reached (floor : Nat) (state : State) : Prop := state.Sound ∧ floor ≤ state.now

theorem Reached.stable {floor : Nat} {before after : State} (reached : Reached floor before)
    (steady : Steady before after) : Reached floor after :=
  ⟨steady.sound reached.1, Nat.le_trans reached.2 steady.now⟩

section Loads

variable {rely guar : State → State → Prop} (steady : ∀ before after, rely before after →
  Steady before after) (refl : ∀ state, guar state state)

include steady refl

/-- A call of loads keeps what others keep. -/
theorem reads_safe {α : Type} {call : Program State α}
    (reads : call.Each fun before after => after = before) {floor : Nat} {state : State}
    (reached : Reached floor state) :
    call.Safe rely guar (fun _ later => Reached floor later) state := by
  refine Program.Each.safe ?_ ?_ reads reached
  · exact fun before after reached interfered => reached.stable (steady before after interfered)
  · rintro before after reached rfl
    exact ⟨refl _, reached⟩

/-- The generation that a check has matched had been reached, and was current. -/
theorem targets_safe {event : BleEvent} {floor : Nat} {state : State}
    (reached : Reached floor state) :
    (eventTargetsCurrentBleAuthority event).Safe rely guar (fun result later =>
      Reached floor later ∧ (result = true →
        floor ≤ event.generation.toNat ∧ Reached event.generation.toNat later)) state := by
  refine Program.Safe.readThen fun later interfered => ⟨refl _, ?_⟩
  have reached := reached.stable (steady _ _ interfered)
  have refused (state : State) (reached : Reached floor state) :
      (Program.done false).Safe rely guar (fun result later =>
        Reached floor later ∧ (result = true →
          floor ≤ event.generation.toNat ∧ Reached event.generation.toNat later)) state :=
    fun last interfered => ⟨reached.stable (steady _ _ interfered), by simp⟩
  split
  · exact refused later reached
  · refine Program.Safe.readThen fun second interfered => ⟨refl _, ?_⟩
    have reached := reached.stable (steady _ _ interfered)
    split
    · exact refused second reached
    · rename_i matched
      have matched : event.generation = second.lifecycle.generation := by simpa using matched
      have floor_le : floor ≤ event.generation.toNat := matched ▸ reached.2
      have current : Reached event.generation.toNat second :=
        ⟨reached.1, Nat.le_of_eq (congrArg UInt32.toNat matched)⟩
      refine Program.Safe.mono ?_ (reads_safe steady refl ?_ current)
      · exact fun result last current =>
          ⟨⟨current.1, Nat.le_trans floor_le current.2⟩, fun _ => ⟨floor_le, current⟩⟩
      · refine .bind (.zoom ?_ (snapshot_each fun words => rfl)) fun current => ?_
        · rintro state after rfl
          rfl
        · refine .bind (.read (fun _ => rfl) fun state => state.lifecycle.connectionHandle)
            fun connection => ?_
          split
          · trivial
          · refine .bind (.read (fun _ => rfl) fun state => state.lifecycle.generation)
              fun generation => ?_
            split <;> trivial

end Loads

/-! ### Producers keep marks -/

theorem ProducerGuar.exchange {state : State} {event : BleEvent} {observed : Generation}
    (seen : observed.toNat ≤ event.generation.toNat) (spurious : Bool)
    (reached : Reached event.generation.toNat state) :
    ProducerGuar state (if state.overflowAuthority = observed ∧ spurious = false then
      { state with overflowAuthority := event.generation } else state) := by
  split
  · rename_i found
    refine ⟨⟨fun sound => ⟨reached.2, sound.committed⟩, Nat.le_refl _⟩, ⟨rfl, rfl, rfl⟩, ?_⟩
    intro authority marked current
    by_cases zero : authority = 0
    · exact .inl (by simpa [State.Marked, zero] using marked)
    · -- The exchange found a mark that was loaded before its event was current.
      have mark : state.overflowAuthority = authority := by simpa [State.Marked, zero] using marked
      have same : event.generation = authority := by
        refine UInt32.toNat_inj.mp (Nat.le_antisymm ?_ ?_)
        · exact current ▸ reached.2
        · rw [← mark, found.1]
          exact seen
      exact .inl (by simp [State.Marked, zero, same])
  · exact .refl state

theorem markTurns_safe (event : BleEvent) (turns : List Bool) {observed : Generation}
    {state : State} (seen : Reached observed.toNat state) :
    (markTurns (·.overflowAuthority) storeOverflowAuthority event turns observed).Safe Steady ProducerGuar (fun _ _ => True) state := by
  induction turns generalizing observed state with
  | nil => exact fun _ _ => trivial
  | cons spurious turns ih =>
      unfold markTurns
      split
      · refine Program.Safe.bind Steady.refl ?_
        refine (targets_safe (fun _ _ steady => steady) ProducerGuar.refl seen).mono ?_
        rintro (_ | _) second ⟨seen, current⟩
        · exact fun _ _ => trivial
        · obtain ⟨ordered, reached⟩ := current rfl
          refine Program.Safe.changeThen fun third interfered => ?_
          have reached := reached.stable interfered
          have guar := ProducerGuar.exchange ordered spurious reached
          split <;> rename_i found
          · rw [if_pos found] at guar
            exact ⟨guar, fun _ _ => trivial⟩
          · exact ⟨.refl third, ih ⟨reached.1, reached.1.mark⟩⟩
      · exact fun _ _ => trivial

theorem markBleEventOverflow_safe (event : BleEvent) (turns : List Bool) {state : State}
    (sound : state.Sound) :
    (markBleEventOverflow event turns).Safe Steady ProducerGuar (fun _ _ => True) state := by
  have start : Reached 0 state := ⟨sound, Nat.zero_le _⟩
  refine Program.Safe.bind Steady.refl ?_
  refine (targets_safe (fun _ _ steady => steady) ProducerGuar.refl start).mono ?_
  rintro (_ | _) second ⟨reached, -⟩
  · exact fun _ _ => trivial
  · rw [if_pos rfl]
    split
    · refine Program.Safe.bind Steady.refl ?_
      refine (targets_safe (fun _ _ steady => steady) ProducerGuar.refl reached).mono ?_
      rintro (_ | _) third -
      · exact fun _ _ => trivial
      · refine fun last _ => ⟨⟨⟨fun sound => ⟨sound.mark, sound.committed⟩, Nat.le_refl _⟩,
          ⟨rfl, rfl, rfl⟩, ?_⟩, fun _ _ => trivial⟩
        intro authority marked _
        left
        unfold State.Marked at marked ⊢
        split at marked <;> simp_all
    · refine Program.Safe.readThen fun third interfered => ⟨.refl third, ?_⟩
      have sound := interfered.sound reached.1
      exact markTurns_safe event turns ⟨sound, sound.mark⟩

/-! ### The executor keeps marks, but for a sweep -/

/-- What the executor relies on: the others leave its own words alone. -/
structure ExecutorRely (before after : State) : Prop where
  steady : Steady before after
  same : SameExecutor before after

theorem ExecutorRely.refl (state : State) : ExecutorRely state state :=
  ⟨.refl state, ⟨rfl, rfl, rfl⟩⟩

theorem ExecutorRely.trans {first second third : State} (one : ExecutorRely first second)
    (two : ExecutorRely second third) : ExecutorRely first third :=
  ⟨one.steady.trans two.steady, two.same.record.trans one.same.record,
    two.same.persistent.trans one.same.persistent, two.same.handoff.trans one.same.handoff⟩

/-- The executor is about to clear the mark of the current generation as stale. -/
def State.SweepsCurrent (state : State) : Prop :=
  ∃ stale, state.record.sweeping = some stale ∧ state.overflowAuthority = stale ∧
    stale = state.lifecycle.generation

structure ExecutorGuar (before after : State) : Prop where
  steady : Steady before after
  keeps : KeepsMarks before after ∨ before.SweepsCurrent

theorem ExecutorGuar.refl (state : State) : ExecutorGuar state state :=
  ⟨.refl state, .inl (.refl state)⟩

/-- The executor may clear the mark of this authority. -/
def Settled (authority : Generation) (state : State) : Prop :=
  state.Sound ∧ (state.record.failClosed = some authority ∨
    state.record.strongerFault = some authority ∨ authority.toNat < state.now)

theorem Settled.stable {authority : Generation} {before after : State}
    (settled : Settled authority before) (interfered : ExecutorRely before after) :
    Settled authority after := by
  refine ⟨interfered.steady.sound settled.1, ?_⟩
  rw [interfered.same.record]
  exact settled.2.imp_right fun rest => rest.imp_right fun past =>
    Nat.lt_of_lt_of_le past interfered.steady.now

/-- An access that leaves the generation, the flags and the marks alone. -/
theorem ExecutorGuar.of_same {before after : State}
    (generation : after.lifecycle.generation = before.lifecycle.generation)
    (mark : after.overflowAuthority = before.overflowAuthority)
    (zero : after.overflowAuthorityZero = before.overflowAuthorityZero)
    (persistent : after.persistentStoreFailureCommitted = before.persistentStoreFailureCommitted)
    (handoff : after.handoffFailureCommitted = before.handoffFailureCommitted)
    (stronger : after.record.strongerFault = before.record.strongerFault) :
    ExecutorGuar before after := by
  refine ⟨⟨fun sound => ⟨?_, ?_⟩, ?_⟩, .inl (.of_same mark zero)⟩
  · simpa only [State.now, mark, generation] using sound.mark
  · simpa only [persistent, handoff, stronger, generation] using sound.committed
  · simp [State.now, generation]

theorem clearAuthority_safe {authority : Generation} {state : State}
    (settled : Settled authority state) :
    (clearAuthority authority).Safe ExecutorRely ExecutorGuar (fun _ later => later.Sound)
      state := by
  have cleared (later : State) (settled : Settled authority later) {after : State}
      (sound : later.Sound → after.Sound) (now : after.now = later.now)
      (others : ∀ other, other ≠ authority → later.Marked other → after.Marked other) :
      ExecutorGuar later after := by
    refine ⟨⟨sound, Nat.le_of_eq now.symm⟩, .inl ?_⟩
    intro other marked current
    by_cases same : other = authority
    · subst same
      right
      rcases settled.2 with failed | stronger | past
      · exact .inl failed
      · exact .inr stronger
      · exact absurd (current ▸ past) (Nat.lt_irrefl _)
    · exact .inl (others other same marked)
  unfold clearAuthority
  split
  · rename_i zero
    intro later interfered
    have settled := settled.stable interfered
    refine ⟨cleared later settled (fun sound => ⟨sound.mark, sound.committed⟩) rfl ?_, ?_⟩
    · intro other different marked
      unfold State.Marked at marked ⊢
      rw [if_neg (zero ▸ different)] at marked ⊢
      exact marked
    · exact fun last interfered =>
        interfered.steady.sound ⟨settled.1.mark, settled.1.committed⟩
  · intro later interfered
    have settled := settled.stable interfered
    by_cases found : later.overflowAuthority = authority
    · have sound : ({ later with overflowAuthority := 0 } : State).Sound :=
        ⟨Nat.zero_le _, settled.1.committed⟩
      simp only [found, if_true]
      refine ⟨cleared later settled (fun _ => sound) rfl ?_,
        fun last interfered => interfered.steady.sound sound⟩
      intro other different marked
      unfold State.Marked at marked ⊢
      by_cases zero : other = 0
      · rw [if_pos zero] at marked ⊢
        exact marked
      · rw [if_neg zero] at marked
        exact absurd (marked.symm.trans found) different
    · simp only [found, if_false]
      exact ⟨.refl later, fun last interfered => interfered.steady.sound settled.1⟩

theorem snapshot_safe {authority : Generation} {state : State}
    (reached : Reached authority.toNat state) :
    (onBle snapshot).Safe ExecutorRely ExecutorGuar (fun current later =>
      Reached authority.toNat later ∧
        (authority = current.generation ∨ authority.toNat < later.now)) state := by
  unfold snapshot
  simp only [onBle_bind, onBle_read]
  refine Program.Safe.readThen fun second interfered => ⟨.refl second, ?_⟩
  refine Program.Safe.readThen fun third interfered' => ⟨.refl third, ?_⟩
  refine Program.Safe.readThen fun loaded interfered'' => ⟨.refl loaded, ?_⟩
  have reached := ((reached.stable interfered.steady).stable interfered'.steady).stable
    interfered''.steady
  refine Program.Safe.readThen fun fifth interfered => ⟨.refl fifth, ?_⟩
  refine Program.Safe.readThen fun sixth interfered' => ⟨.refl sixth, ?_⟩
  intro last interfered''
  have steady := (interfered.steady.trans interfered'.steady).trans interfered''.steady
  refine ⟨reached.stable steady, ?_⟩
  rcases Nat.lt_or_eq_of_le reached.2 with past | now
  · exact .inr (Nat.lt_of_lt_of_le past steady.now)
  · exact .inl (UInt32.toNat_inj.mp now)

/-- Accesses that leave the generation, the record and the marks alone. -/
structure SameMarks (before after : State) : Prop where
  generation : after.lifecycle.generation = before.lifecycle.generation
  mark : after.overflowAuthority = before.overflowAuthority
  zero : after.overflowAuthorityZero = before.overflowAuthorityZero
  record : after.record = before.record
  persistent : after.persistentStoreFailureCommitted = before.persistentStoreFailureCommitted
  handoff : after.handoffFailureCommitted = before.handoffFailureCommitted

theorem SameMarks.guar {before after : State} (same : SameMarks before after) :
    ExecutorGuar before after :=
  .of_same same.generation same.mark same.zero same.persistent same.handoff (by rw [same.record])

/-- Such accesses keep a reached generation and a settled authority. -/
theorem sameMarks_safe {α : Type} {call : Program State α} (each : call.Each SameMarks)
    {assertion : State → Prop}
    (stable : ∀ before after, assertion before → ExecutorRely before after → assertion after)
    (kept : ∀ before after, assertion before → SameMarks before after → assertion after)
    {state : State} (holds : assertion state) :
    call.Safe ExecutorRely ExecutorGuar (fun _ later => assertion later) state := by
  refine Program.Each.safe stable ?_ each holds
  exact fun before after holds same => ⟨same.guar, kept before after holds same⟩

theorem Reached.of_sameMarks {floor : Nat} {before after : State} (reached : Reached floor before)
    (same : SameMarks before after) : Reached floor after :=
  ⟨same.guar.steady.sound reached.1, Nat.le_trans reached.2 same.guar.steady.now⟩

theorem Settled.of_sameMarks {authority : Generation} {before after : State}
    (settled : Settled authority before) (same : SameMarks before after) :
    Settled authority after := by
  refine ⟨same.guar.steady.sound settled.1, ?_⟩
  simpa only [same.record, State.now, same.generation] using settled.2

theorem Reached.stable' {floor : Nat} (before after : State) (reached : Reached floor before)
    (interfered : ExecutorRely before after) : Reached floor after :=
  reached.stable interfered.steady

theorem publishFault_each (current : Snapshot) (operation : LifecycleOperation) (code : Int32) :
    (publishFault current operation code).Each fun before after =>
      after.generation = before.generation := by
  refine .bind (.bind (.write fun _ => rfl) fun _ => .bind (.write fun _ => rfl)
    fun _ => .write fun _ => rfl) fun _ => ?_
  exact .bind (.write fun _ => rfl) fun _ => .write fun _ => rfl

/-- A fault of a generation that has been reached is published, or the
generation has moved on. -/
theorem completeFault_safe {authority : Generation} (operation : LifecycleOperation) (code : Int32)
    {state : State} (reached : Reached authority.toNat state) :
    (onBle (completeFault authority operation code)).Safe ExecutorRely ExecutorGuar
      (fun published later => later.Sound ∧ (published = true ∨ authority.toNat < later.now))
      state := by
  unfold completeFault
  simp only [onBle_bind, onBle_ite]
  refine Program.Safe.bind ExecutorRely.refl ((snapshot_safe reached).mono ?_)
  rintro current second ⟨reached, matched⟩
  split
  · rename_i mismatch
    intro last interfered
    exact ⟨interfered.steady.sound reached.1, .inr (Nat.lt_of_lt_of_le
      (matched.resolve_left mismatch) interfered.steady.now)⟩
  · refine Program.Safe.bind ExecutorRely.refl ((sameMarks_safe ?_ Reached.stable'
      (fun _ _ => Reached.of_sameMarks) reached).mono ?_)
    · refine .zoom ?_ (publishFault_each current operation code)
      exact fun state after same => ⟨same, rfl, rfl, rfl, rfl, rfl⟩
    · exact fun _ later reached last interfered =>
        ⟨interfered.steady.sound reached.1, .inl rfl⟩

theorem recordFault_safe {authority : Generation} (operation : LifecycleOperation) (code : Int32)
    {state : State} (reached : Reached authority.toNat state) :
    (recordFault authority operation code).Safe ExecutorRely ExecutorGuar
      (fun _ later => Settled authority later) state := by
  refine Program.Safe.bind ExecutorRely.refl ((completeFault_safe operation code reached).mono ?_)
  rintro (_ | _) second ⟨sound, published⟩
  · exact fun last interfered =>
      Settled.stable ⟨sound, .inr (.inr (by simpa using published))⟩ interfered
  · intro third interfered
    have sound := interfered.steady.sound sound
    have settled : Settled authority
        { third with record := { third.record with failClosed := some authority } } :=
      ⟨⟨sound.mark, sound.committed⟩, .inl rfl⟩
    exact ⟨.of_same rfl rfl rfl rfl rfl rfl, fun last interfered => settled.stable interfered⟩

theorem failBle_safe {authority : Generation} (operation : LifecycleOperation) (code : Int32)
    (owner : ControlOperation) {state : State} (reached : Reached authority.toNat state) :
    (failBle authority operation code owner).Safe ExecutorRely ExecutorGuar
      (fun _ later => Settled authority later) state := by
  have stable : ∀ before after, Settled authority before → ExecutorRely before after →
      Settled authority after := fun _ _ => Settled.stable
  have kept : ∀ before after, Settled authority before → SameMarks before after →
      Settled authority after := fun _ _ => Settled.of_sameMarks
  have write (update : State → State) (same : ∀ state, SameMarks state (update state)) :
      (Program.write update).Each SameMarks := .write same
  refine Program.Safe.readThen fun second interfered => ⟨.refl second, ?_⟩
  refine Program.Safe.bind ExecutorRely.refl ((sameMarks_safe (.onlyIf _ (write _ ?_))
    Reached.stable' (fun _ _ => Reached.of_sameMarks)
    (reached.stable interfered.steady)).mono ?_)
  · exact fun _ => ⟨rfl, rfl, rfl, rfl, rfl, rfl⟩
  intro _ third reached
  refine Program.Safe.bind ExecutorRely.refl ((recordFault_safe operation code reached).mono ?_)
  intro _ fourth settled
  refine Program.Safe.bind ExecutorRely.refl ((sameMarks_safe (.onlyIf _ (write _ ?_))
    stable kept settled).mono ?_)
  · exact fun _ => ⟨rfl, rfl, rfl, rfl, rfl, rfl⟩
  intro _ fifth settled
  refine sameMarks_safe (write _ ?_) stable kept settled
  exact fun _ => ⟨rfl, rfl, rfl, rfl, rfl, rfl⟩

theorem consumePending_safe {authority : Generation} {state : State}
    (reached : Reached authority.toNat state) :
    (consumePending authority).Safe ExecutorRely ExecutorGuar (fun _ later => later.Sound)
      state := by
  have steady : ∀ before after, ExecutorRely before after → Steady before after :=
    fun _ _ => ExecutorRely.steady
  have again (state : State) (sound : state.Sound) : (Program.done Turn.again).Safe ExecutorRely
      ExecutorGuar (fun _ later => later.Sound) state :=
    fun later interfered => interfered.steady.sound sound
  have clear (state : State) (settled : Settled authority state) :
      (clearAuthority authority >>= fun _ => pure (Turn.returned true)).Safe ExecutorRely
        ExecutorGuar (fun _ later => later.Sound) state := by
    refine Program.Safe.bind ExecutorRely.refl ((clearAuthority_safe settled).mono ?_)
    exact fun _ later sound last interfered => interfered.steady.sound sound
  refine Program.Safe.bind ExecutorRely.refl ?_
  refine (reads_safe steady ExecutorGuar.refl
    (.zoom ?_ (snapshot_each fun words => rfl)) reached).mono ?_
  · rintro state after rfl
    rfl
  intro current second reached
  split
  · exact again second reached.1
  · rename_i same
    have same : current.generation = authority := by simpa using same
    rw [same]
    refine Program.Safe.readThen fun third interfered => ⟨.refl third, ?_⟩
    have reached := reached.stable interfered.steady
    split
    · exact again third reached.1
    · refine Program.Safe.readThen fun fourth interfered => ⟨.refl fourth, ?_⟩
      have reached := reached.stable interfered.steady
      split
      · rename_i committed
        have stronger := reached.1.committed (by simpa using committed)
        refine clear fourth ⟨reached.1, .inr ?_⟩
        rcases Nat.lt_or_eq_of_le reached.2 with past | now
        · exact .inr past
        · exact .inl (stronger.trans (congrArg some (UInt32.toNat_inj.mp now).symm))
      · refine Program.Safe.readThen fun fifth interfered => ⟨.refl fifth, ?_⟩
        have reached := reached.stable interfered.steady
        refine Program.Safe.bind ExecutorRely.refl ((failBle_safe _ _ _ reached).mono ?_)
        exact fun _ later settled => clear later settled

theorem consumeStale_safe {state : State} (sound : state.Sound) :
    consumeStale.Safe ExecutorRely ExecutorGuar (fun _ later => later.Sound) state := by
  refine Program.Safe.changeThen fun second interfered => ⟨.of_same rfl rfl rfl rfl rfl rfl, ?_⟩
  have sound := interfered.steady.sound sound
  split
  · exact fun last interfered => interfered.steady.sound ⟨sound.mark, sound.committed⟩
  · rename_i nonzero
    refine Program.Safe.writeThen fun third interfered => ?_
    have sweeping : third.record.sweeping = some second.overflowAuthority := by
      rw [interfered.same.record]
    have sound := interfered.steady.sound ⟨sound.mark, sound.committed⟩
    have cleared : State.Sound { third with
        overflowAuthority :=
          if third.overflowAuthority = second.overflowAuthority then 0 else third.overflowAuthority
        record := { third.record with sweeping := none } } := by
      refine ⟨?_, sound.committed⟩
      dsimp only [State.now]
      split
      · exact Nat.zero_le _
      · exact sound.mark
    refine ⟨⟨⟨fun _ => cleared, Nat.le_refl _⟩, ?_⟩,
      fun last interfered => interfered.steady.sound cleared⟩
    by_cases current : third.SweepsCurrent
    · exact .inr current
    · left
      intro authority marked now
      left
      by_cases zero : authority = 0
      · simpa [State.Marked, zero] using marked
      · have mark : third.overflowAuthority = authority := by
          simpa [State.Marked, zero] using marked
        have kept : third.overflowAuthority ≠ second.overflowAuthority := fun same =>
          current ⟨_, sweeping, same, same.symm.trans (mark.trans now)⟩
        rw [State.Marked, if_neg zero, if_neg kept]
        exact mark

theorem consumeStaleZero_safe {authority : Generation} (nonzero : authority ≠ 0) {state : State}
    (reached : Reached authority.toNat state) :
    consumeStaleZero.Safe ExecutorRely ExecutorGuar (fun _ later => later.Sound) state := by
  refine Program.Safe.changeThen fun second interfered => ?_
  have reached := reached.stable interfered.steady
  have sound : ({ second with overflowAuthorityZero := false } : State).Sound :=
    ⟨reached.1.mark, reached.1.committed⟩
  refine ⟨⟨⟨fun _ => sound, Nat.le_refl _⟩, .inl ?_⟩, ?_⟩
  · intro other marked now
    left
    have later : other ≠ 0 := by
      rintro rfl
      refine nonzero (UInt32.toNat_inj.mp ?_)
      have past : authority.toNat ≤ (0 : Generation).toNat := now ▸ reached.2
      exact Nat.le_zero.mp past
    simpa [State.Marked, later] using marked
  · split
    · exact fun last interfered => interfered.steady.sound sound
    · exact consumeStale_safe sound

theorem consumeTurn_safe {state : State} (sound : state.Sound) :
    consumeTurn.Safe ExecutorRely ExecutorGuar (fun _ later => later.Sound) state := by
  refine Program.Safe.readThen fun second interfered => ⟨.refl second, ?_⟩
  have reached : Reached second.lifecycle.generation.toNat second :=
    ⟨interfered.steady.sound sound, Nat.le_refl _⟩
  have pending : (bleEventOverflowPending second.lifecycle.generation).Safe ExecutorRely
      ExecutorGuar (fun _ later => Reached second.lifecycle.generation.toNat later) second := by
    refine reads_safe (fun _ _ => ExecutorRely.steady) ExecutorGuar.refl ?_ reached
    unfold bleEventOverflowPending
    split
    · exact .read (fun _ => rfl) fun state => state.overflowAuthorityZero
    · exact .bind (.read (fun _ => rfl) fun state => state.overflowAuthority) fun _ => trivial
  refine Program.Safe.bind ExecutorRely.refl (pending.mono ?_)
  rintro (_ | _) third reached
  · rw [if_neg (by simp)]
    split
    · exact consumeStale_safe reached.1
    · rename_i nonzero
      exact consumeStaleZero_safe nonzero reached
  · exact consumePending_safe reached

theorem consumeBleOverflow_safe (turns : Nat) {state : State} (sound : state.Sound) :
    (consumeBleOverflow turns).Safe ExecutorRely ExecutorGuar (fun _ later => later.Sound)
      state := by
  induction turns generalizing state with
  | zero => exact fun later interfered => interfered.steady.sound sound
  | succ turns ih =>
      refine Program.Safe.bind ExecutorRely.refl ((consumeTurn_safe sound).mono ?_)
      rintro (_ | _) later sound
      · exact ih sound
      · exact fun last interfered => interfered.steady.sound sound

/-! ### The contract -/

namespace Overflow

/-- The lifecycle leaves everything but its own words alone. -/
structure LifecycleGuar (operation : Operation) (before after : State) : Prop where
  rest : after = { before with lifecycle := after.lifecycle }
  generation : after.lifecycle.generation = before.lifecycle.generation ∨
    operation = .advanceGeneration ∧
      after.lifecycle.generation = before.lifecycle.generation + 1

def contract : Contract Task State Operation Unit where
  rely
    | .executor, _ => ExecutorRely
    | .lifecycle, _ => fun _ _ => True
    | .producer _, _ => Steady
  guar
    | .executor, _ => ExecutorGuar
    | .lifecycle, operation => LifecycleGuar operation
    | .producer _, _ => ProducerGuar
  post _ _ _ _ := True
  refl
    | .executor, _ => ExecutorRely.refl
    | .lifecycle, _ => fun _ => trivial
    | .producer _, _ => Steady.refl
  trans
    | .executor, _ => fun _ _ _ => ExecutorRely.trans
    | .lifecycle, _ => fun _ _ _ _ _ => trivial
    | .producer _, _ => fun _ _ _ => Steady.trans

/-- The generation does not wrap, does not advance past a committed fault, and
the executor never clears the mark of the current generation as stale. -/
def noMissedMark (config : Runs) : Label Task Operation → Prop
  | .call task operation => operation.By task
  | .advance .executor => ¬config.shared.SweepsCurrent
  | .advance .lifecycle => ∀ update next,
      config.running .lifecycle = some (.advanceGeneration, .access update next) →
        config.shared.lifecycle.generation ≠ 0xffffffff ∧
          config.shared.persistentStoreFailureCommitted = false ∧
            config.shared.handoffFailureCommitted = false
  | .advance (.producer _) => True

theorem LifecycleGuar.steady {operation : Operation} {before after : State}
    (guar : LifecycleGuar operation before after)
    (bounded : operation = .advanceGeneration → before.lifecycle.generation ≠ 0xffffffff ∧
      before.persistentStoreFailureCommitted = false ∧ before.handoffFailureCommitted = false) :
    Steady before after := by
  obtain ⟨rest, generation⟩ := guar
  rw [rest]
  rcases generation with same | ⟨advance, next⟩
  · refine ⟨fun sound => ⟨?_, ?_⟩, Nat.le_of_eq ?_⟩
    · simpa only [State.now, same] using sound.mark
    · simpa only [same] using sound.committed
    · simp only [State.now, same]
  · obtain ⟨bounded, persistent, handoff⟩ := bounded advance
    have now : after.lifecycle.generation.toNat = before.lifecycle.generation.toNat + 1 := by
      rw [next]
      exact toNat_succ_of_ne_max bounded
    refine ⟨fun sound => ⟨?_, ?_⟩, ?_⟩
    · exact Nat.le_trans sound.mark (by simp [State.now, now])
    · simp [persistent, handoff]
    · simp [State.now, now]

theorem started {task : Task} {operation : Operation} (own : operation.By task) {state : State}
    (sound : state.Sound) : contract.Kept task operation (program task operation) state := by
  cases operation with
  | mark event turns =>
      obtain ⟨id, rfl⟩ := own
      exact markBleEventOverflow_safe event turns sound
  | consume turns =>
      obtain rfl : task = .executor := own
      exact Program.Safe.map _ ((consumeBleOverflow_safe turns sound).mono fun _ _ _ => trivial)
  | commitStrongerFault fault =>
      obtain rfl : task = .executor := own
      intro later _
      refine ⟨?_, fun _ _ => trivial⟩
      cases fault <;>
        exact ⟨⟨fun sound => ⟨sound.mark, fun _ => rfl⟩, Nat.le_refl _⟩, .inl (.of_same rfl rfl)⟩
  | advanceGeneration =>
      obtain rfl : task = .lifecycle := own
      exact fun later _ => ⟨⟨rfl, .inr ⟨rfl, rfl⟩⟩, fun _ _ => trivial⟩
  | publish published handle =>
      obtain rfl : task = .lifecycle := own
      exact fun later _ => ⟨⟨rfl, .inl rfl⟩, fun last _ => ⟨⟨rfl, .inl rfl⟩, fun _ _ => trivial⟩⟩

/-- Every running call keeps its contract and the state is sound. -/
structure RunInv (config : Runs) : Prop where
  conforms : contract.Conforms config
  sound : config.shared.Sound

theorem RunInv.compatible {config : Runs} {task other : Task} {operation operation' : Operation}
    {update : State → State} {next : State → Program State Unit}
    (different : task ≠ other) (running : config.running task = some (operation, .access update next))
    (admitted : noMissedMark config (.advance task)) {after : State}
    (guar : contract.guar task operation config.shared after) :
    contract.rely other operation' config.shared after := by
  have steady : Steady config.shared after := by
    cases task with
    | executor => exact ExecutorGuar.steady guar
    | producer id => exact ProducerGuar.steady guar
    | lifecycle =>
        refine LifecycleGuar.steady guar ?_
        rintro rfl
        exact admitted update next running
  have same (notExecutor : task ≠ .executor) : SameExecutor config.shared after := by
    cases task with
    | executor => exact absurd rfl notExecutor
    | producer id => exact ProducerGuar.same guar
    | lifecycle =>
        have rest := LifecycleGuar.rest guar
        exact ⟨by rw [rest], by rw [rest], by rw [rest]⟩
  cases other with
  | executor => exact ⟨steady, same different⟩
  | lifecycle => trivial
  | producer id => exact steady

theorem RunInv.step {config next : Runs} (run : RunInv config) {label : Label Task Operation}
    (admitted : noMissedMark config label) (stepped : config.step program label = some next) :
    RunInv next ∧ KeepsMarks config.shared next.shared := by
  obtain ⟨conforms, -⟩ := run.conforms.step
    (fun task operation same _ => started (by subst same; exact admitted) run.sound)
    (fun task operation update rest other operation' call' same different running _ after guar =>
      RunInv.compatible different running (same ▸ admitted) guar) stepped
  rcases Config.step_cases stepped with
    ⟨task, operation, rfl, idle, rfl⟩ | ⟨task, operation, update, rest, rfl, running, rfl⟩ |
      ⟨task, operation, result, rfl, running, rfl⟩
  · exact ⟨⟨conforms, run.sound⟩, .refl _⟩
  · have guar := (run.conforms _ _ _ running config.shared (contract.refl task operation _)).1
    cases task with
    | executor =>
        obtain ⟨steady, keeps⟩ : ExecutorGuar config.shared _ := guar
        exact ⟨⟨conforms, steady.sound run.sound⟩, keeps.resolve_right admitted⟩
    | producer id =>
        obtain ⟨steady, -, keeps⟩ : ProducerGuar config.shared _ := guar
        exact ⟨⟨conforms, steady.sound run.sound⟩, keeps⟩
    | lifecycle =>
        have steady : Steady config.shared (update config.shared) := by
          refine LifecycleGuar.steady guar ?_
          rintro rfl
          exact admitted update rest running
        have rest := LifecycleGuar.rest guar
        exact ⟨⟨conforms, steady.sound run.sound⟩, .of_same (by rw [rest]) (by rw [rest])⟩
  · exact ⟨⟨conforms, run.sound⟩, .refl _⟩

end Overflow

end HidBot.BleControl
