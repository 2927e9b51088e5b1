import HidBot.Ble.StopLog

/-!
# Stop transactions in every order of accesses

Every access keeps the log lawful and the word the one that it stands for, so what holds of
lawful logs holds in every run of the owner and its workers.
-/

namespace HidBot.StopTransaction

open Interleaving

/-- The word stands for the log, and the next identity is new. -/
structure State.Inv (state : State) : Prop where
  lawful : Lawful state.log
  value : state.value = pack (current state.log).1 (current state.log).2
  fresh : ∀ id ∈ begunIds state.log, id < state.nextId
  positive : 0 < state.nextId
  limited : state.nextId ≤ maxId + 1

namespace State.Inv

variable {state : State} {id : Id} {status : StopStatus}

theorem value_eq (inv : state.Inv) (small : id ≤ maxId) :
    state.value = pack id status ↔ current state.log = (id, status) := by
  rw [inv.value, pack_inj inv.lawful.current_small small, Prod.ext_iff]

theorem unpack_value (inv : state.Inv) : unpack state.value = some (current state.log).2 := by
  rw [inv.value, unpack_pack inv.lawful.current_small]

theorem value_id (inv : state.Inv) : state.value >>> 8 = (current state.log).1 := by
  rw [inv.value, pack_id inv.lawful.current_small]

/-- An event that begins nothing, together with the word that then stands for the log. -/
theorem changed (inv : state.Inv) {event : Event} (beginless : event.begunId = none)
    (lawful : Lawful (event :: state.log)) (about : current (event :: state.log) = (id, status)) :
    State.Inv { state with value := pack id status, log := event :: state.log } := by
  have same : begunIds (event :: state.log) = begunIds state.log :=
    List.filterMap_cons_none beginless
  exact ⟨lawful, by rw [about], by simpa only [same] using inv.fresh, inv.positive, inv.limited⟩

end State.Inv

/-! ### What an access may do -/

def Grows (before after : State) : Prop :=
  (before.Inv → after.Inv) ∧ before.log <:+ after.log

/-- What everything but beginning does. -/
def Beside (before after : State) : Prop :=
  Grows before after ∧ after.nextId = before.nextId ∧ begunIds after.log = begunIds before.log

theorem Grows.refl (state : State) : Grows state state := ⟨id, List.suffix_rfl⟩

theorem Grows.trans {first second third : State} (one : Grows first second)
    (two : Grows second third) : Grows first third :=
  ⟨two.1 ∘ one.1, one.2.trans two.2⟩

theorem Beside.refl (state : State) : Beside state state := ⟨.refl state, rfl, rfl⟩

theorem Beside.trans {first second third : State} (one : Beside first second)
    (two : Beside second third) : Beside first third :=
  ⟨one.1.trans two.1, two.2.1.trans one.2.1, two.2.2.trans one.2.2⟩

section Accesses

variable {id : Id} {result : StopStatus}

theorem exchange_each {expected desired : UInt64} {event : Event} {given : State → Prop}
    (beginless : event.begunId = none)
    (kept : ∀ state, state.Inv → given state → state.value = expected →
      State.Inv { state with value := desired, log := event :: state.log }) :
    (exchange expected desired event).Each fun before after =>
      (before.Inv → given before) → Beside before after := by
  refine .readModifyWrite fun state promised => ?_
  split
  next found =>
    exact ⟨⟨fun inv => kept state inv (promised inv) found, List.suffix_cons ..⟩, rfl,
      List.filterMap_cons_none beginless⟩
  · exact .refl state

theorem completable (admitted : ¬(result.code < StopStatus.stopped.code ∨ result = .consumed ∨
    result.code ≥ StopStatus.expired.code)) : result = .stopped ∨ result.Failure := by
  revert admitted
  cases result <;> simp only [StopStatus.Failure] <;> decide

/-- A completion with success is one for a request whose steps have been done. -/
theorem complete_each : (complete id result).Each fun before after =>
    (before.Inv → result = .stopped → Performed before.log id) → Beside before after := by
  unfold complete
  split_ifs with refused
  · trivial
  · have small : id ≤ maxId := by
      by_contra large
      exact refused (.inr (.inl (UInt64.not_le.mp large)))
    refine exchange_each rfl fun state inv performed found => ?_
    have running := (inv.value_eq small).mp found
    refine inv.changed rfl (.completed inv.lawful running ?_) rfl
    rcases completable (not_or.mp (not_or.mp refused).2).2 with stopped | failure
    · exact .inl ⟨stopped, performed stopped⟩
    · exact .inr failure

theorem consume_each : (consume id).Each Beside := by
  unfold consume
  split_ifs with refused
  · trivial
  · have small : id ≤ maxId := by
      by_contra large
      exact refused (.inr (UInt64.not_le.mp large))
    refine Program.Each.mono (fun before after => fun kept => kept fun _ => trivial)
      (exchange_each rfl fun state inv _ found => ?_)
    exact inv.changed rfl (.consumed inv.lawful ((inv.value_eq small).mp found)) rfl

theorem expireLoop_each (spurious : List Bool) (observed : UInt64) :
    (expireLoop id spurious observed).Each Beside := by
  induction spurious generalizing observed with
  | nil => trivial
  | cons spurious rest ih =>
      unfold expireLoop
      split_ifs with live
      · refine .bind (.readModifyWrite fun state => ?_) fun found => ?_
        · split_ifs with exchanged
          · refine ⟨⟨fun inv => inv.changed rfl (.expired inv.lawful ?_) rfl,
              List.suffix_cons ..⟩, rfl, List.filterMap_cons_none rfl⟩
            rw [← exchanged.1, inv.value_id, inv.unpack_value] at live
            exact live.2.imp (fun status => Prod.ext live.1 (Option.some.inj status))
              (fun status => Prod.ext live.1 (Option.some.inj status))
          · exact .refl state
        · cases found with
          | none => trivial
          | some again => exact ih again
      · trivial

theorem expire_each (spurious : List Bool) : (expire id spurious).Each Beside := by
  unfold expire
  split_ifs with refused
  · trivial
  · exact .bind (.read Beside.refl _) fun observed => expireLoop_each spurious observed

theorem status_each : (status id).Each Beside :=
  .bind (.read Beside.refl _) fun _ => trivial

theorem driveProfileSelection_each : (driveProfileSelection id).Each Beside := by
  unfold driveProfileSelection
  split
  · trivial
  · refine .bind status_each fun found => ?_
    split
    · trivial
    · split
      · trivial
      · exact .bind consume_each fun _ => trivial

theorem initializationAllowed_each : initializationAllowed.Each Beside :=
  .bind (.read Beside.refl _) fun _ => trivial

theorem perform_each (id : Id) (worker : Nat) (step : StopStep) : (perform worker id step).Each Beside := by
  refine .write fun state => ⟨⟨fun inv => ?_, List.suffix_cons ..⟩, rfl,
    List.filterMap_cons_none rfl⟩
  exact ⟨.performed inv.lawful, inv.value, inv.fresh, inv.positive, inv.limited⟩

end Accesses

/-! ### Beginning -/

theorem lt_next {id : Id} (small : id ≤ maxId) : id < id + 1 ∧ id + 1 ≤ maxId + 1 := by
  have limit : maxId.toNat = 2 ^ 56 - 1 := by decide
  have one : (1 : Id).toNat = 1 := by decide
  have bound := UInt64.le_iff_toNat_le.mp small
  rw [UInt64.lt_iff_toNat_lt, UInt64.le_iff_toNat_le, UInt64.toNat_add, UInt64.toNat_add]
  omega

namespace State.Inv

variable {state : State}

/-- The identity is spent before the exchange that may begin it. -/
theorem spent (inv : state.Inv) (small : state.nextId ≤ maxId) :
    State.Inv { state with nextId := state.nextId + 1 } := by
  obtain ⟨less, limited⟩ := lt_next small
  exact ⟨inv.lawful, inv.value, fun id member => UInt64.lt_trans (inv.fresh id member) less,
    UInt64.lt_trans inv.positive less, limited⟩

theorem begun (inv : state.Inv) {id : Id} (next : state.nextId = id + 1) (positive : 0 < id)
    (small : id ≤ maxId) (fresh : ∀ earlier ∈ begunIds state.log, earlier < id)
    (free : (current state.log).2 = .idle ∨ (current state.log).2 = .consumed) :
    State.Inv { state with value := pack id .running, log := .begun id :: state.log } := by
  refine ⟨.begun inv.lawful positive small fresh free, rfl, fun other member => ?_, inv.positive,
    inv.limited⟩
  rcases List.mem_cons.mp member with rfl | earlier
  · exact next ▸ (lt_next small).1
  · exact inv.fresh other earlier

end State.Inv

theorem begin_safe {state : State} (inv : state.Inv) :
    begin.Safe Beside Grows (fun _ later => later.Inv) state := by
  refine Program.Safe.readThen fun first interfered => ⟨.refl first,
    Program.Safe.readThen fun second more => ⟨.refl second, ?_⟩⟩
  have invSecond := more.1.1 (interfered.1.1 inv)
  split_ifs with refused
  · exact fun later last => last.1.1 invSecond
  · obtain ⟨free, bounds⟩ := not_or.mp refused
    obtain ⟨nonzero, small⟩ := not_or.mp bounds
    refine Program.Safe.writeThen fun third spent => ?_
    have invThird := spent.1.1 invSecond
    have next : third.nextId = second.nextId := spent.2.1
    have smallThird : third.nextId ≤ maxId := next ▸ UInt64.not_lt.mp small
    have invSpent := invThird.spent smallThird
    rw [next] at invSpent
    refine ⟨⟨fun _ => invSpent, List.suffix_rfl⟩, Program.Safe.changeThen fun fourth last => ?_⟩
    have invFourth := last.1.1 invSpent
    by_cases found : fourth.value = first.value
    · rw [if_pos found]
      have beginning : State.Inv { fourth with
          value := pack second.nextId .running, log := .begun second.nextId :: fourth.log } := by
        refine invFourth.begun last.2.1 (next ▸ invThird.positive) (next ▸ smallThird)
          (fun earlier member => ?_) ?_
        · rw [last.2.2] at member
          exact next ▸ invThird.fresh earlier member
        · rw [← found, invFourth.unpack_value] at free
          by_contra other
          exact free (not_or.mp (fun same => other (same.imp Option.some.inj Option.some.inj)))
      exact ⟨⟨fun _ => beginning, List.suffix_cons ..⟩, fun later after => after.1.1 beginning⟩
    · rw [if_neg found]
      exact ⟨.refl fourth, fun later after => after.1.1 invFourth⟩

theorem safe_of_each {α : Type} {call : Program State α} (each : call.Each Beside)
    {rely guar : State → State → Prop} (grows : ∀ before after, rely before after →
      Grows before after)
    (promises : ∀ before after, Beside before after → guar before after) {state : State}
    (inv : state.Inv) : call.Safe rely guar (fun _ later => later.Inv) state := by
  refine Program.Each.safe ?_ ?_ each ?_
  · exact fun before after inv interfered => (grows before after interfered).1 inv
  · exact fun before after inv step => ⟨promises before after step, step.1.1 inv⟩
  · exact inv

theorem beginStop_safe (ready created : Bool) {state : State} (inv : state.Inv) :
    (beginStop ready created).Safe Beside Grows (fun _ later => later.Inv) state := by
  have ready_safe {α : Type} {call : Program State α} (each : call.Each Beside) {state : State}
      (inv : state.Inv) : call.Safe Beside Grows (fun _ later => later.Inv) state :=
    safe_of_each each (fun _ _ step => step.1) (fun _ _ step => step.1) inv
  refine .bind Beside.refl (Program.Safe.mono ?_ (ready_safe initializationAllowed_each inv))
  intro allowed later inv
  split
  · exact fun last interfered => interfered.1.1 inv
  · refine .bind Beside.refl (Program.Safe.mono ?_ (begin_safe inv))
    intro id later inv
    split
    · exact fun last interfered => interfered.1.1 inv
    · refine ready_safe (.bind (.write fun state => ?_) fun _ => ?_) inv
      · exact ⟨⟨fun inv => ⟨inv.lawful, inv.value, inv.fresh, inv.positive, inv.limited⟩,
          List.suffix_rfl⟩, rfl, rfl⟩
      · split
        · refine .bind ?_ fun _ => trivial
          exact complete_each.mono fun before after kept => kept fun _ => nofun
        · trivial

/-! ### Stopping -/

section Stopping

variable {worker : Nat} {id : Id} {steps : List StopStep} {state : State}

/-- The worker has done these steps. -/
def Doing (worker : Nat) (id : Id) (steps : List StopStep) (state : State) : Prop :=
  state.Inv ∧ ∀ step ∈ steps, Event.performed worker id step ∈ state.log

theorem Doing.grows {later : State} (doing : Doing worker id steps state)
    (grows : Grows state later) : Doing worker id steps later :=
  ⟨grows.1 doing.1, fun step member => grows.2.subset (doing.2 step member)⟩

theorem Doing.perform {step : StopStep} {rest : Unit → Program State StopStatus}
    {post : StopStatus → State → Prop} (doing : Doing worker id steps state)
    (goesOn : ∀ later, Doing worker id (step :: steps) later →
      (rest ()).Safe Grows Beside post later) :
    (StopTransaction.perform worker id step >>= rest).Safe Grows Beside post state := by
  refine Program.Safe.writeThen fun later interfered => ?_
  obtain ⟨inv, before⟩ := doing.grows interfered
  have each := perform_each id worker step later
  refine ⟨each.1, goesOn _ ⟨each.1.1.1 inv, fun other member => ?_⟩⟩
  rcases List.mem_cons.mp member with rfl | earlier
  · exact List.mem_cons_self ..
  · exact List.mem_cons_of_mem _ (before other earlier)

/-- A success that is reported is one of all steps. -/
def Reported (id : Id) (result : StopStatus) (state : State) : Prop :=
  state.Inv ∧ (result = .stopped → Performed state.log id)

theorem Reported.grows {result : StopStatus} {later : State} (reported : Reported id result state)
    (grows : Grows state later) : Reported id result later := by
  refine ⟨grows.1 reported.1, fun stopped => ?_⟩
  obtain ⟨worker, steps⟩ := reported.2 stopped
  exact ⟨worker, fun step => grows.2.subset (steps step)⟩

/-- The sequence reports success only when all its steps have been done. -/
theorem runStopSequence_safe (operations : StopOperations) (inv : state.Inv) :
    (runStopSequence worker id operations).Safe Grows Beside (Reported id) state := by
  have fails {steps : List StopStep} {result : StopStatus} (failed : result ≠ .stopped)
      {state : State} (doing : Doing worker id steps state) :
      (pure result : Program State StopStatus).Safe Grows Beside (Reported id) state :=
    fun later interfered => ⟨(doing.grows interfered).1, fun stopped => absurd stopped failed⟩
  have nothing : Doing worker id [] state := ⟨inv, by simp⟩
  unfold runStopSequence
  split
  · exact fails (by decide) nothing
  refine nothing.perform fun later doing => ?_
  split
  · exact fails (by decide) doing
  refine doing.perform fun later doing => doing.perform fun later doing => ?_
  split
  · exact fails (by decide) doing
  refine doing.perform fun later doing => ?_
  split
  · exact fails (by decide) doing
  refine doing.perform fun later doing last interfered => ?_
  obtain ⟨inv, all⟩ := doing.grows interfered
  exact ⟨inv, fun _ => ⟨worker, fun step => all step (by cases step <;> simp)⟩⟩

theorem stopTaskOf_safe (operations : StopOperations) (inv : state.Inv) :
    (stopTaskOf worker id operations).Safe Grows Beside (fun _ later => later.Inv) state := by
  refine .bind Grows.refl (Program.Safe.mono ?_ (runStopSequence_safe operations inv))
  intro result later reported
  have completes : (complete id result).Safe Grows Beside (fun _ => Reported id result) later := by
    refine Program.Each.safe ?_ ?_ complete_each reported
    · exact fun before after reported grows => reported.grows grows
    · intro before after reported step
      have kept := step fun _ => reported.2
      exact ⟨kept, reported.grows kept.1⟩
  exact completes.mono fun _ _ reported => reported.1

theorem stopTask_safe (operations : StopOperations) (inv : state.Inv) :
    (stopTask worker operations).Safe Grows Beside (fun _ later => later.Inv) state :=
  Program.Safe.readThen fun later interfered =>
    ⟨.refl later, stopTaskOf_safe operations (interfered.1 inv)⟩

end Stopping

/-! ### Runs -/

/-- Only the owner begins, so it alone need not allow for that. -/
def besides : Task → State → State → Prop
  | .owner => Beside
  | .worker _ => Grows

def promises : Task → State → State → Prop
  | .owner => Grows
  | .worker _ => Beside

def contract : Contract Task State Operation Answer where
  rely task _ := besides task
  guar task _ := promises task
  post _ _ _ later := later.Inv
  refl
    | .owner, _ => .refl
    | .worker _, _ => .refl
  trans
    | .owner, _ => fun _ _ _ => .trans
    | .worker _, _ => fun _ _ _ => .trans

theorem grows_of_promises {task : Task} {before after : State}
    (promised : promises task before after) : Grows before after := by
  cases task with
  | owner => exact promised
  | worker number => exact promised.1

theorem promises_besides {task other : Task} {before after : State} (different : task ≠ other)
    (promised : promises task before after) : besides other before after := by
  cases other with
  | owner =>
      cases task with
      | owner => exact absurd rfl different
      | worker number => exact promised
  | worker number => exact grows_of_promises promised

theorem program_kept {task : Task} {operation : Operation} {state : State} (inv : state.Inv)
    (own : match task with
      | .owner => operation.ofWorker = false
      | .worker _ => operation.ofWorker = true) :
    contract.Kept task operation (program task operation) state := by
  have wrapped {α : Type} {call : Program State α} (wrap : α → Answer)
      (safe : call.Safe (besides task) (promises task) (fun _ later => later.Inv) state) :
      (call >>= fun result => pure (wrap result)).Safe (besides task) (promises task)
        (fun _ later => later.Inv) state := .map wrap safe
  have each {α : Type} {call : Program State α} (each : call.Each Beside) :
      call.Safe (besides task) (promises task) (fun _ later => later.Inv) state := by
    refine safe_of_each each (fun before after => ?_) (fun before after => ?_) inv <;>
      cases task with
      | owner => exact fun step => step.1
      | worker number => exact fun step => step
  cases task with
  | owner =>
      cases operation with
      | begin => exact wrapped .id (begin_safe inv)
      | beginStop ready created => exact wrapped .id (beginStop_safe ready created inv)
      | expire id spurious => exact wrapped .flag (each (expire_each spurious))
      | consume id => exact wrapped (.flag ∘ some) (each consume_each)
      | status id => exact wrapped .status (each status_each)
      | driveProfileSelection id => exact wrapped .flag (each driveProfileSelection_each)
      | initializationAllowed => exact wrapped (.flag ∘ some) (each initializationAllowed_each)
      | stopTask operations => cases own
      | stopTaskOf id operations => cases own
  | worker number =>
      cases operation with
      | stopTask operations => exact wrapped (.flag ∘ some) (stopTask_safe operations inv)
      | stopTaskOf id operations => exact wrapped (.flag ∘ some) (stopTaskOf_safe operations inv)
      | begin | beginStop ready created | expire id spurious | consume id | status id
      | driveProfileSelection id | initializationAllowed => cases own

/-- What holds in every configuration of a run, and of what the log was in an earlier one. -/
structure Sound (log : List Event) (config : Config Task State Operation Answer) : Prop where
  conforms : contract.Conforms config
  inv : config.shared.Inv
  grown : log <:+ config.shared.log

theorem Sound.step {log : List Event} {config next : Config Task State Operation Answer}
    {label : Label Task Operation} (sound : Sound log config) (admitted : Admitted config label)
    (stepped : config.step program label = some next) : Sound log next := by
  have conforming := sound.conforms.step
    (fun task operation called _ => program_kept sound.inv (by
      subst called
      cases task <;> exact admitted))
    (fun task operation _ _ other _ _ _ different _ _ after => promises_besides different) stepped
  obtain ⟨conforms, same | ⟨task, operation, call, _, promised⟩⟩ := conforming
  · exact ⟨conforms, same ▸ sound.inv, same ▸ sound.grown⟩
  · have grows := grows_of_promises promised
    exact ⟨conforms, grows.1 sound.inv, sound.grown.trans grows.2⟩

theorem sound_initial : Sound [] (Config.initial {}) :=
  ⟨contract.conforms_initial _, ⟨.nil, rfl, by simp [begunIds, Config.initial], by decide, by decide⟩,
    List.suffix_rfl⟩

variable {final later : Config Task State Operation Answer}

theorem sound (reached : Reaches program Admitted (Config.initial {}) final) : Sound [] final :=
  reached.induct sound_initial fun _ _ _ sound admitted stepped => sound.step admitted stepped

theorem sound_later (sound : Sound [] final) (reached : Reaches program Admitted final later) :
    Sound final.shared.log later :=
  reached.induct ⟨sound.conforms, sound.inv, List.suffix_rfl⟩
    fun _ _ _ sound admitted stepped => sound.step admitted stepped

/-! ### Results -/

/-- A begin has returned this identity. -/
def begins (id : Id) (_ : Operation) : Answer → Bool
  | .id other => other = id
  | .flag _ | .status _ => false

/-- This identity has been consumed with success. -/
def consumes (id : Id) : Operation → Answer → Bool
  | .consume other, .flag (some true) => other = id
  | .driveProfileSelection other, .flag (some true) => other = id
  | _, _ => false

/-- No access takes anything out of the log. -/
def Adds (before after : State) : Prop := before.log <:+ after.log

section Results

variable {id : Id}

theorem exchange_adds (expected desired : UInt64) (event : Event) :
    (exchange expected desired event).Each Adds := by
  refine .readModifyWrite fun state => ?_
  split
  · exact List.suffix_cons ..
  · exact List.suffix_rfl

theorem complete_adds (result : StopStatus) : (complete id result).Each Adds := by
  unfold complete
  split
  · trivial
  · exact exchange_adds _ _ _

theorem runStopSequence_adds (worker : Nat) (operations : StopOperations) :
    (runStopSequence worker id operations).Each Adds := by
  have performs (step : StopStep) : (perform worker id step).Each Adds :=
    (perform_each id worker step).mono fun _ _ kept => kept.1.2
  have either {condition : Prop} [Decidable condition] {first second : Program State StopStatus}
      (one : first.Each Adds) (two : second.Each Adds) :
      (if condition then first else second).Each Adds := by
    split
    · exact one
    · exact two
  exact either trivial (.bind (performs _) fun _ => either trivial (.bind (performs _) fun _ =>
    .bind (performs _) fun _ => either trivial (.bind (performs _) fun _ =>
      either trivial (.bind (performs _) fun _ => trivial))))

theorem stopTaskOf_adds (worker : Nat) (operations : StopOperations) :
    (stopTaskOf worker id operations).Each Adds :=
  .bind (runStopSequence_adds worker operations) fun result => complete_adds result

theorem stopTask_adds (worker : Nat) (operations : StopOperations) :
    (stopTask worker operations).Each Adds := by
  have same : ∀ state, Adds state state := fun _ => List.suffix_rfl
  exact .bind (.read same _) fun id => stopTaskOf_adds worker operations

def begunTally (id : Id) (state : State) : Nat := (begunIds state.log).count id

theorem begin_earns (nonzero : id ≠ 0) :
    begin.Earns (begunTally id) (fun result => (decide (result = id)).toNat) 0 := by
  have nothing (inHand : Nat) : (pure 0 : Program State Id).Earns (begunTally id)
      (fun result => (decide (result = id)).toNat) inHand := by
    simp [Program.Earns, Ne.symm nonzero]
  have same : ∀ state : State, begunTally id state ≤ begunTally id state := fun _ => Nat.le_refl _
  refine .after (.read same _) fun observed => .after (.read same _) fun next => ?_
  split
  · exact nothing _
  · refine .after (.write fun _ => Nat.le_refl _) fun _ => ?_
    have exchanges : (exchange observed (pack next .running) (.begun next)).Earns (begunTally id)
        (fun exchanged => (exchanged && decide (next = id)).toNat) 0 := by
      refine .readModifyWrite fun state => ?_
      split
      · simp [begunTally, begunIds, Event.begunId, List.count_cons, Bool.toNat, Bool.cond_decide]
      · simp
    refine .bind exchanges fun exchanged more enough => ?_
    cases exchanged
    · exact nothing _
    · simpa [Program.Earns] using enough

def consumedTally (id : Id) (state : State) : Nat := state.log.count (.consumed id)

theorem begunTally_le (before after : State) (adds : Adds before after) :
    begunTally id before ≤ begunTally id after :=
  (adds.sublist.filterMap _).count_le _

theorem consumedTally_le (before after : State) (adds : Adds before after) :
    consumedTally id before ≤ consumedTally id after :=
  adds.sublist.count_le _

theorem adds_of_beside (before after : State) (kept : Beside before after) : Adds before after :=
  kept.1.2

theorem beginStop_earns (nonzero : id ≠ 0) (ready created : Bool) :
    (beginStop ready created).Earns (begunTally id) (fun result => (decide (result = id)).toNat)
      0 := by
  have nothing (inHand : Nat) : (pure 0 : Program State Id).Earns (begunTally id)
      (fun result => (decide (result = id)).toNat) inHand := by
    simp [Program.Earns, Ne.symm nonzero]
  refine .after (initializationAllowed_each.mono fun _ _ kept =>
    begunTally_le _ _ (adds_of_beside _ _ kept)) fun allowed => ?_
  split
  · exact nothing _
  · refine .bind (begin_earns nonzero) fun begun inHand enough => ?_
    split
    · exact nothing _
    · refine .after (.write fun _ => Nat.le_refl _) fun _ => ?_
      split
      · exact .after ((complete_adds .taskFailure).mono begunTally_le) fun _ => enough
      · exact enough

theorem begins_earns (nonzero : id ≠ 0) (task : Task) (operation : Operation) :
    (program task operation).Earns (begunTally id)
      (fun result => (begins id operation result).toNat) 0 := by
  have free {α : Type} {call : Program State α} (wrap : α → Answer)
      (other : ∀ result, (begins id operation (wrap result)).toNat = 0) (adds : call.Each Adds) :
      (call >>= fun result => pure (wrap result)).Earns (begunTally id)
        (fun result => (begins id operation result).toNat) 0 :=
    .map wrap (.of_each other (adds.mono begunTally_le) 0)
  cases operation with
  | begin => exact .map Answer.id (begin_earns nonzero)
  | beginStop ready created => exact .map Answer.id (beginStop_earns nonzero ready created)
  | expire id spurious =>
      exact free .flag (fun _ => rfl) ((expire_each spurious).mono adds_of_beside)
  | consume id => exact free (.flag ∘ some) (fun _ => rfl) (consume_each.mono adds_of_beside)
  | status id => exact free .status (fun _ => rfl) (status_each.mono adds_of_beside)
  | driveProfileSelection id =>
      exact free .flag (fun _ => rfl) (driveProfileSelection_each.mono adds_of_beside)
  | initializationAllowed =>
      exact free (.flag ∘ some) (fun _ => rfl) (initializationAllowed_each.mono adds_of_beside)
  | stopTask operations =>
      exact free (.flag ∘ some) (fun _ => rfl) (stopTask_adds _ operations)
  | stopTaskOf id operations =>
      exact free (.flag ∘ some) (fun _ => rfl) (stopTaskOf_adds _ operations)

theorem begin_adds : begin.Each Adds := by
  have same : ∀ state, Adds state state := fun _ => List.suffix_rfl
  refine .bind (.read same _) fun observed => .bind (.read same _) fun next => ?_
  split
  · trivial
  · refine .bind (.write fun _ => List.suffix_rfl) fun _ => .bind (exchange_adds _ _ _) fun _ => ?_
    split <;> trivial

theorem beginStop_adds (ready created : Bool) : (beginStop ready created).Each Adds := by
  refine .bind (initializationAllowed_each.mono adds_of_beside) fun allowed => ?_
  split
  · trivial
  · refine .bind begin_adds fun begun => ?_
    split
    · trivial
    · refine .bind (.write fun _ => List.suffix_rfl) fun _ => ?_
      split
      · exact .bind (complete_adds _) fun _ => trivial
      · trivial

theorem consume_earns (other : Id) :
    (consume other).Earns (consumedTally id)
      (fun consumed => (consumed && decide (other = id)).toNat) 0 := by
  unfold consume
  split
  · exact Nat.le_refl _
  · refine .readModifyWrite fun state => ?_
    split
    · simp [consumedTally, List.count_cons, Bool.toNat, Bool.cond_decide]
    · simp

theorem driveProfileSelection_earns (other : Id) :
    (driveProfileSelection other).Earns (consumedTally id)
      (fun outcome => (consumes id (.driveProfileSelection other) (.flag outcome)).toNat) 0 := by
  unfold driveProfileSelection
  split
  · exact Nat.le_refl _
  · refine .after (status_each.mono fun before after kept =>
      consumedTally_le _ _ (adds_of_beside _ _ kept)) fun found => ?_
    split
    · exact Nat.le_refl _
    · split
      · exact Nat.le_refl _
      · refine .bind (consume_earns other) fun consumed inHand enough => ?_
        cases consumed
        · exact Nat.zero_le _
        · simpa [Program.Earns, consumes] using enough

theorem consumes_earns (task : Task) (operation : Operation) :
    (program task operation).Earns (consumedTally id)
      (fun result => (consumes id operation result).toNat) 0 := by
  have free {α : Type} {call : Program State α} (wrap : α → Answer)
      (other : ∀ result, (consumes id operation (wrap result)).toNat = 0) (adds : call.Each Adds) :
      (call >>= fun result => pure (wrap result)).Earns (consumedTally id)
        (fun result => (consumes id operation result).toNat) 0 :=
    .map wrap (.of_each other (adds.mono consumedTally_le) 0)
  cases operation with
  | begin => exact free .id (fun _ => rfl) begin_adds
  | beginStop ready created => exact free .id (fun _ => rfl) (beginStop_adds ready created)
  | expire id spurious =>
      exact free .flag (fun _ => rfl) ((expire_each spurious).mono adds_of_beside)
  | consume other =>
      refine .map (Answer.flag ∘ some) ?_
      have same : (fun result => (consumes id (.consume other) result).toNat) ∘
          Answer.flag ∘ some = fun consumed => (consumed && decide (other = id)).toNat := by
        funext consumed
        cases consumed <;> simp [consumes]
      exact same ▸ consume_earns other
  | status id => exact free .status (fun _ => rfl) (status_each.mono adds_of_beside)
  | driveProfileSelection other => exact .map Answer.flag (driveProfileSelection_earns other)
  | initializationAllowed =>
      exact free (.flag ∘ some) (fun _ => rfl) (initializationAllowed_each.mono adds_of_beside)
  | stopTask operations =>
      exact free (.flag ∘ some) (fun _ => rfl) (stopTask_adds _ operations)
  | stopTaskOf id operations =>
      exact free (.flag ∘ some) (fun _ => rfl) (stopTaskOf_adds _ operations)

end Results

/-! ### What every run comes to -/

theorem begun_once {log : List Event} (lawful : Lawful log) (id : Id) :
    (begunIds log).count id ≤ 1 :=
  List.nodup_iff_count_le_one.mp
    (lawful.begun_pairwise.imp fun greater same => absurd (same ▸ greater) (UInt64.lt_irrefl _)) id

theorem consumed_once {log : List Event} (lawful : Lawful log) (id : Id) :
    log.count (.consumed id) ≤ 1 := by
  refine le_trans (List.countP_mono_left fun event _ same => ?_) (lawful.ends_once id)
  obtain rfl : event = .consumed id := by simpa using same
  simp [Event.ends]

theorem complete_stale {state : State} (inv : state.Inv) {id newer : Id} (less : id < newer)
    (begun : newer ∈ begunIds state.log) (result : StopStatus) :
    (complete id result).exec state = (false, state) := by
  unfold complete
  split_ifs with refused
  · rfl
  · have small : id ≤ maxId := by
      by_contra large
      exact refused (.inr (.inl (UInt64.not_le.mp large)))
    have other : state.value ≠ pack id .running := fun found => by
      have about := (inv.value_eq small).mp found
      have last := inv.lawful.le_current begun
      rw [about] at last
      exact absurd (UInt64.lt_of_lt_of_le less last) (UInt64.lt_irrefl id)
    simp [exchange, other]

theorem initializationAllowed_iff {state : State} (inv : state.Inv) :
    (initializationAllowed.exec state).1 = true ↔
      begunIds state.log = [] ∨
        ∃ id, (begunIds state.log).head? = some id ∧ Event.consumed id ∈ state.log := by
  rw [← inv.lawful.free_iff]
  simp [initializationAllowed, inv.unpack_value]

/-- No identity is begun twice, and each comes to one end at most, which it never leaves. A
completion for an older one changes nothing. A request is consumed once at most, and only
when one worker has done all the steps for it. The stack may be initialized exactly when
nothing has been begun or the last request has been consumed. -/
theorem stop_transactions
    (reached : Reaches program Admitted (Config.initial {}) final) :
    (begunIds final.shared.log).Pairwise (· > ·) ∧
      (∀ id, id ≠ 0 →
        results (fun _ => begins id) final.history ≤ (begunIds final.shared.log).count id) ∧
      (∀ id, final.shared.log.countP (Event.ends id) ≤ 1) ∧
      (∀ later status, Reaches program Admitted final later →
        unpack final.shared.value = some status → status.Ending →
          later.shared.value = final.shared.value ∨
            status = .consumed ∧ final.shared.value >>> 8 < later.shared.value >>> 8) ∧
      (∀ id newer result, newer ∈ begunIds final.shared.log → id < newer →
        (complete id result).exec final.shared = (false, final.shared)) ∧
      (∀ id, results (fun _ => consumes id) final.history ≤
        final.shared.log.count (.consumed id)) ∧
      (∀ newer id older, final.shared.log = newer ++ .consumed id :: older →
        Performed older id ∧ Event.consumed id ∉ newer ++ older) ∧
      ((initializationAllowed.exec final.shared).1 = true ↔
        begunIds final.shared.log = [] ∨
          ∃ id, (begunIds final.shared.log).head? = some id ∧
            Event.consumed id ∈ final.shared.log) ∧
      ∀ later status, Reaches program Admitted final later →
        unpack final.shared.value = some status → status.Ending → status ≠ .consumed →
          (initializationAllowed.exec later.shared).1 = false := by
  have kept := sound reached
  have inv := kept.inv
  have stays (later : Config Task State Operation Answer) (status : StopStatus)
      (reached : Reaches program Admitted final later)
      (now : unpack final.shared.value = some status) (ending : status.Ending) :
      later.shared.value = final.shared.value ∨
        status = .consumed ∧ final.shared.value >>> 8 < later.shared.value >>> 8 := by
    have keptLater := sound_later kept reached
    have about : current final.shared.log = ((current final.shared.log).1, status) :=
      Prod.ext rfl (Option.some.inj (inv.unpack_value.symm.trans now))
    obtain ⟨newer, grown⟩ := keptLater.grown
    rcases (grown ▸ keptLater.inv.lawful).ended_stays about ending with same | ⟨consumed, less⟩
    · rw [grown] at same
      rw [keptLater.inv.value, inv.value, same, about]
      exact .inl rfl
    · rw [grown] at less
      rw [keptLater.inv.value_id, inv.value_id]
      exact .inr ⟨consumed, less⟩
  refine ⟨inv.lawful.begun_pairwise,
    fun id nonzero => reached.counted fun task operation => begins_earns nonzero task operation,
    fun id => inv.lawful.ends_once id, stays,
    fun id newer result begun less => complete_stale inv less begun result,
    fun id => reached.counted fun task operation => consumes_earns task operation,
    fun newer id older split => ?_, initializationAllowed_iff inv,
    fun later status reached now ending other => ?_⟩
  · have lawful := split ▸ inv.lawful
    refine ⟨?_, fun twice => ?_⟩
    · cases lawful.of_append with
      | consumed earlier stopped => exact earlier.stopped_performed stopped
    · have once := consumed_once lawful id
      have counted : 0 < (newer ++ older).count (.consumed id) := List.count_pos_iff.mpr twice
      rw [List.count_append, List.count_cons_self] at once
      rw [List.count_append] at counted
      omega
  · have same := (stays later status reached now ending).resolve_right fun more => other more.1
    have status_same : unpack later.shared.value = some status := same ▸ now
    rcases ending with rfl | rfl | rfl | rfl | rfl | rfl | rfl
    · exact absurd rfl other
    all_goals simp [initializationAllowed, status_same]

/-- A request is begun, stopped by its worker and consumed. -/
def stopped : List (Label Task Operation) :=
  .call .owner (.beginStop true true) :: .replicate 7 (.advance .owner) ++
  .call (.worker 0) (.stopTask ⟨true, true, true, true⟩) :: .replicate 8 (.advance (.worker 0)) ++
  .call .owner (.consume 1) :: .replicate 2 (.advance .owner)

theorem stop_transactions_stopped : ∃ final : Config Task State Operation Answer,
    final.shared.log.length = 8 ∧ begunIds final.shared.log = [1] ∧
      Event.consumed 1 ∈ final.shared.log ∧
      (initializationAllowed.exec final.shared).1 = true := by
  have replayed : (replay program stopped (Config.initial {})).map (·.shared.log) =
      some [.consumed 1, .completed 1 .stopped, .performed 0 1 .retireTimers,
        .performed 0 1 StopStep.deinitialize, .performed 0 1 .deleteHostTask,
        .performed 0 1 .awaitHostExit, .performed 0 1 .hostStop, .begun 1] := by
    decide +kernel
  obtain ⟨final, replayed, log⟩ := Option.map_eq_some_iff.mp replayed
  have reached : Reaches program Admitted (Config.initial {}) final := by
    refine .of_replay ?_ replayed
    simp [stopped, Admitted, Operation.ofWorker]
  obtain ⟨-, -, -, -, -, -, -, allowed, -⟩ := stop_transactions reached
  refine ⟨final, by rw [log]; rfl, by rw [log]; rfl, by rw [log]; exact .head _, ?_⟩
  exact allowed.mpr (.inr ⟨1, by rw [log]; rfl, by rw [log]; exact .head _⟩)

end HidBot.StopTransaction
