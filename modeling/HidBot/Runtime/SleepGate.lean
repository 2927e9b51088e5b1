import Mathlib.Data.List.Induction
import Mathlib.Data.BitVec

/-!
# The sleep gate

`sleep_quiescence_gate_` is one word: a count of the live admissions, and the three
bits of a claim on sleep. Producers count themselves in and out, and the control task
claims, commits and releases, each by atomic accesses that interleave with all others.
-/

namespace HidBot.SleepGate

abbrev Gate := BitVec 32

def admissionMask : Gate := 0x1fffffff

def claimed : Gate := 0x20000000

def conflict : Gate := 0x40000000

def committed : Gate := 0x80000000

def controlMask : Gate := 0xe0000000

/-! ### Admissions -/

/-- What `ScopedConflictingAdmission` does on a value of the gate. -/
inductive Attempt where
  | abort
  | refuse
  /-- One strong exchange that records the conflict, and a refusal. -/
  | record (desired : Gate)
  /-- A weak exchange, repeated on the value that it fails with. -/
  | acquire (desired : Gate)
  deriving DecidableEq, Repr

def attempt (safety : Bool) (observed : Gate) : Attempt :=
  let admissions := observed &&& admissionMask
  if admissions = admissionMask then
    if safety then .abort else .refuse
  else
    let control := observed &&& controlMask
    if control = 0 then .acquire (observed + 1)
    else if safety = false then
      if control = claimed then .record (observed ||| conflict) else .refuse
    else if control = claimed ∨ control = claimed ||| conflict then
      .acquire ((observed + 1) ||| conflict)
    else .acquire (observed + 1)

inductive Phase where
  | loading
  | observed (value : Gate)
  | live
  | refused
  | aborted
  | ended
  deriving DecidableEq, Repr

structure Admission where
  safety : Bool
  phase : Phase := .loading
  deriving DecidableEq, Repr

def Admission.isLive (admission : Admission) : Bool := admission.phase == .live

/-- Where an admission is once it has a value of the gate: with an exchange to make, or
at its end. -/
def Admission.observe (admission : Admission) (value : Gate) : Admission :=
  match attempt admission.safety value with
  | .abort => { admission with phase := .aborted }
  | .refuse => { admission with phase := .refused }
  | .record _ | .acquire _ => { admission with phase := .observed value }

/-- The next access of an admission. A live one is that of its destructor. -/
def Admission.access (admission : Admission) (spurious : Bool) (gate : Gate) :
    Gate × Admission :=
  match admission.phase with
  | .loading => (gate, admission.observe gate)
  | .observed value =>
      match attempt admission.safety value with
      | .record desired =>
          (if gate = value then desired else gate, { admission with phase := .refused })
      | .acquire desired =>
          if gate = value ∧ spurious = false then (desired, { admission with phase := .live })
          else (gate, admission.observe gate)
      | .abort | .refuse => (gate, admission)
  | .live => (gate - 1, { admission with phase := .ended })
  | .refused | .aborted | .ended => (gate, admission)

/-! ### Sleep -/

/-- A call of `claim_sleep_quiescence`, `commit_sleep_quiescence` or
`release_sleep_quiescence`. A claim that finds the runtime busy releases. -/
inductive Control where
  | claiming
  | checking
  | committing
  | releasing (fromClaim : Bool)
  | exchanging (fromClaim : Bool) (observed : Gate)
  | returned (result : Bool)
  deriving DecidableEq, Repr

/-- The next access of a call. `ready` is what the checks of a claim find. -/
def Control.access (control : Control) (ready spurious : Bool) (gate : Gate) : Gate × Control :=
  match control with
  | .claiming => if gate = 0 then (claimed, .checking) else (gate, .returned false)
  | .checking => (gate, if ready then .returned true else .releasing true)
  | .committing => if gate = claimed then (committed, .returned true) else (gate, .returned false)
  | .releasing fromClaim => (gate, .exchanging fromClaim gate)
  | .exchanging fromClaim observed =>
      if gate = observed ∧ spurious = false then
        (observed &&& admissionMask, .returned (!fromClaim))
      else (gate, .exchanging fromClaim gate)
  | .returned result => (gate, .returned result)

/-! ### Runs -/

structure State where
  gate : Gate := 0
  admissions : List Admission := []
  controls : List Control := []
  deriving DecidableEq, Repr

inductive Step where
  | enter (safety : Bool)
  | claim
  | commit
  | release
  | admission (index : Nat) (spurious : Bool)
  | control (index : Nat) (ready spurious : Bool)
  deriving DecidableEq, Repr

/-- Any number of admissions and calls, each at its own pace. -/
def State.advance (state : State) : Step → State
  | .enter safety => { state with admissions := state.admissions ++ [{ safety }] }
  | .claim => { state with controls := state.controls ++ [.claiming] }
  | .commit => { state with controls := state.controls ++ [.committing] }
  | .release => { state with controls := state.controls ++ [.releasing false] }
  | .admission index spurious =>
      match state.admissions[index]? with
      | none => state
      | some admission =>
          let accessed := admission.access spurious state.gate
          { state with
            gate := accessed.1, admissions := state.admissions.set index accessed.2 }
  | .control index ready spurious =>
      match state.controls[index]? with
      | none => state
      | some control =>
          let accessed := control.access ready spurious state.gate
          { state with gate := accessed.1, controls := state.controls.set index accessed.2 }

/-- An abort ends the run. -/
def State.step (state : State) (step : Step) : State :=
  if state.admissions.any (·.phase == .aborted) then state else state.advance step

def run (steps : List Step) : State := steps.foldl State.step {}

def State.live (state : State) : Nat := state.admissions.countP Admission.isLive

/-! ### The word -/

/-- What the three control bits can be. -/
inductive Mode where
  | free
  | claimed
  | conflicted
  | committed
  deriving DecidableEq, Repr

def Mode.bits : Mode → BitVec 3
  | free => 0
  | claimed => 1
  | conflicted => 3
  | committed => 4

def pack (mode : Mode) (count : BitVec 29) : Gate := mode.bits ++ count

theorem pack_admissions (mode : Mode) (count : BitVec 29) :
    pack mode count &&& admissionMask = 0#3 ++ count := by
  have mask : admissionMask = 0#3 ++ BitVec.allOnes 29 := by decide
  rw [pack, mask, BitVec.and_append, BitVec.and_allOnes, BitVec.and_zero]

theorem pack_control (mode : Mode) (count : BitVec 29) :
    pack mode count &&& controlMask = mode.bits ++ 0#29 := by
  have mask : controlMask = BitVec.allOnes 3 ++ 0#29 := by decide
  rw [pack, mask, BitVec.and_append, BitVec.and_allOnes, BitVec.and_zero]

theorem pack_conflict (mode : Mode) (count : BitVec 29) :
    pack mode count ||| conflict = (mode.bits ||| 2#3) ++ count := by
  have bit : conflict = 2#3 ++ 0#29 := by decide
  rw [pack, bit, BitVec.or_append, BitVec.or_zero]

theorem pack_toNat (mode : Mode) (count : BitVec 29) :
    (pack mode count).toNat = mode.bits.toNat * 2 ^ 29 + count.toNat := by
  rw [pack, BitVec.toNat_append, ← Nat.shiftLeft_add_eq_or_of_lt count.isLt, Nat.shiftLeft_eq]

theorem pack_inj {mode other : Mode} {count number : BitVec 29} :
    pack mode count = pack other number ↔ mode = other ∧ count = number := by
  refine ⟨fun same => ?_, fun both => both.1 ▸ both.2 ▸ rfl⟩
  have values := congrArg BitVec.toNat same
  rw [pack_toNat, pack_toNat] at values
  have below := count.isLt
  have below' := number.isLt
  refine ⟨?_, BitVec.eq_of_toNat_eq (by omega)⟩
  have bits : mode.bits = other.bits := BitVec.eq_of_toNat_eq (by omega)
  cases mode <;> cases other <;> first | rfl | exact absurd bits (by decide)

theorem pack_add {mode : Mode} {count : BitVec 29} (room : count ≠ BitVec.allOnes 29) :
    pack mode count + 1 = pack mode (count + 1) := by
  have bound := mode.bits.isLt
  have toNat : count.toNat ≠ 2 ^ 29 - 1 := fun full =>
    room (BitVec.eq_of_toNat_eq (by rw [full, BitVec.toNat_allOnes]))
  apply BitVec.eq_of_toNat_eq
  rw [BitVec.toNat_add, pack_toNat, pack_toNat, BitVec.toNat_add]
  have one : (1 : Gate).toNat = 1 ∧ (1 : BitVec 29).toNat = 1 := by decide
  have below := count.isLt
  omega

theorem pack_sub {mode : Mode} {count : BitVec 29} (some : count ≠ 0) :
    pack mode count - 1 = pack mode (count - 1) := by
  have bound := mode.bits.isLt
  have toNat : count.toNat ≠ 0 := fun none => some (BitVec.eq_of_toNat_eq none)
  apply BitVec.eq_of_toNat_eq
  rw [BitVec.toNat_sub, pack_toNat, pack_toNat, BitVec.toNat_sub]
  have one : (1 : Gate).toNat = 1 ∧ (1 : BitVec 29).toNat = 1 := by decide
  have below := count.isLt
  omega

theorem control_eq_zero (mode : Mode) : mode.bits ++ 0#29 = (0 : Gate) ↔ mode = .free := by
  cases mode <;> decide

theorem control_eq_claimed (mode : Mode) : mode.bits ++ 0#29 = claimed ↔ mode = .claimed := by
  cases mode <;> decide

theorem control_eq_conflicted (mode : Mode) :
    mode.bits ++ 0#29 = claimed ||| conflict ↔ mode = .conflicted := by
  cases mode <;> decide

/-- What an attempt does on a gate that is packed so. -/
theorem attempt_pack (safety : Bool) (mode : Mode) (count : BitVec 29) :
    attempt safety (pack mode count) =
      if count = BitVec.allOnes 29 then if safety then .abort else .refuse
      else match mode, safety with
        | .free, _ => .acquire (pack .free (count + 1))
        | .claimed, false => .record (pack .conflicted count)
        | .conflicted, false | .committed, false => .refuse
        | .claimed, true | .conflicted, true => .acquire (pack .conflicted (count + 1))
        | .committed, true => .acquire (pack .committed (count + 1)) := by
  have full : pack mode count &&& admissionMask = admissionMask ↔ count = BitVec.allOnes 29 := by
    have mask : admissionMask = 0#3 ++ BitVec.allOnes 29 := by decide
    rw [pack_admissions, mask, BitVec.append_right_inj]
  unfold attempt
  simp only [full, pack_control, control_eq_zero, control_eq_claimed, control_eq_conflicted]
  split
  · rfl
  rename_i room
  rw [pack_add room, pack_conflict, pack_conflict]
  cases mode <;> cases safety <;> rfl

/-! ### What an access does -/

/-- The mode after an admission: a claim that it disturbs is marked. -/
def Mode.admitted : Mode → Mode
  | free => free
  | claimed | conflicted => conflicted
  | committed => committed

theorem Admission.observe_isLive (admission : Admission) (value : Gate) :
    (admission.observe value).isLive = false := by
  unfold observe
  split <;> rfl

/-- An exchange that succeeds on the packed gate, for an admission that holds it. -/
theorem attempt_acquire {safety : Bool} {mode : Mode} {count : BitVec 29} {desired : Gate}
    (acquires : attempt safety (pack mode count) = .acquire desired) :
    count ≠ BitVec.allOnes 29 ∧ desired = pack mode.admitted (count + 1) ∧
      (safety = false → mode = .free) := by
  rw [attempt_pack] at acquires
  split at acquires
  · split at acquires <;> cases acquires
  · rename_i room
    refine ⟨room, ?_⟩
    cases mode <;> cases safety <;> cases acquires <;> simp [Mode.admitted]

theorem attempt_record {safety : Bool} {mode : Mode} {count : BitVec 29} {desired : Gate}
    (records : attempt safety (pack mode count) = .record desired) :
    mode = .claimed ∧ desired = pack .conflicted count := by
  rw [attempt_pack] at records
  split at records
  · split at records <;> cases records
  · cases mode <;> cases safety <;> cases records
    exact ⟨rfl, rfl⟩

/-- The four things an access of an admission can do. -/
inductive Admission.Accessed (admission : Admission) (mode : Mode) (count : BitVec 29) :
    Gate × Admission → Prop
  | stays (after : Admission) (same : after.isLive = admission.isLive) :
      Accessed admission mode count (pack mode count, after)
  | acquires (new : admission.isLive = false) (room : count ≠ BitVec.allOnes 29)
      (free : admission.safety = false → mode = .free) :
      Accessed admission mode count
        (pack mode.admitted (count + 1), { admission with phase := .live })
  | records (claimed : mode = .claimed) (new : admission.isLive = false) :
      Accessed admission mode count (pack .conflicted count, { admission with phase := .refused })
  | ends (live : admission.isLive = true) :
      Accessed admission mode count (pack mode count - 1, { admission with phase := .ended })

theorem Admission.access_accessed (admission : Admission) (spurious : Bool) (mode : Mode)
    (count : BitVec 29) :
    admission.Accessed mode count (admission.access spurious (pack mode count)) := by
  obtain ⟨safety, phase⟩ := admission
  unfold access
  cases phase with
  | loading => exact .stays _ (observe_isLive ..)
  | observed value =>
      dsimp only
      split
      · split
        · subst value
          obtain ⟨claimed, rfl⟩ := attempt_record ‹_›
          exact .records claimed rfl
        · exact .stays _ rfl
      · split
        · rename_i exchanged
          obtain ⟨rfl, _⟩ := exchanged
          obtain ⟨room, rfl, free⟩ := attempt_acquire ‹_›
          exact .acquires rfl room free
        · exact .stays _ (observe_isLive ..)
      · exact .stays _ rfl
      · exact .stays _ rfl
  | live => exact .ends rfl
  | refused | aborted | ended => exact .stays _ rfl

/-- The four things an access of a call can do. -/
inductive Control.Accessed (control : Control) (gate : Gate) : Gate × Control → Prop
  | stays (after : Control) : Accessed control gate (gate, after)
  | claims (claiming : control = .claiming) (free : gate = 0) :
      Accessed control gate (SleepGate.claimed, .checking)
  | commits (committing : control = .committing) (claimed : gate = SleepGate.claimed) :
      Accessed control gate (committed, .returned true)
  | releases (fromClaim : Bool) (exchanging : control = .exchanging fromClaim gate) :
      Accessed control gate (gate &&& admissionMask, .returned (!fromClaim))

theorem Control.access_accessed (control : Control) (ready spurious : Bool) (gate : Gate) :
    control.Accessed gate (control.access ready spurious gate) := by
  unfold access
  cases control with
  | claiming =>
      dsimp only
      split
      · exact .claims rfl ‹_›
      · exact .stays _
  | committing =>
      dsimp only
      split
      · exact .commits rfl ‹_›
      · exact .stays _
  | exchanging fromClaim observed =>
      dsimp only
      split
      · rename_i exchanged
        obtain ⟨rfl, _⟩ := exchanged
        exact .releases fromClaim rfl
      · exact .stays _
  | checking | releasing | returned => exact .stays _

/-! ### What a step does -/

/-- The exchange of a claim succeeds. -/
def Claims (state : State) : Step → Prop
  | .control index ready spurious => state.controls[index]? = some .claiming ∧
      (state.step (.control index ready spurious)).controls[index]? = some .checking
  | _ => False

/-- A commit returns true. -/
def Commits (state : State) : Step → Prop
  | .control index ready spurious => state.controls[index]? = some .committing ∧
      (state.step (.control index ready spurious)).controls[index]? = some (.returned true)
  | _ => False

/-- The gate counts the live admissions, and none is live under an undisturbed claim. -/
structure Packed (state : State) (mode : Mode) (count : BitVec 29) : Prop where
  gate : state.gate = pack mode count
  live : state.live = count.toNat
  claimed : mode = .claimed → count = 0

variable {state : State} {mode : Mode} {count : BitVec 29}

theorem countP_set {index : Nat} {admissions : List Admission} {before : Admission}
    (found : admissions[index]? = some before) (after : Admission) :
    (admissions.set index after).countP Admission.isLive + (if before.isLive then 1 else 0) =
      admissions.countP Admission.isLive + (if after.isLive then 1 else 0) := by
  obtain ⟨short, rfl⟩ := List.getElem?_eq_some_iff.mp found
  rw [List.countP_set short]
  have counted : (if admissions[index].isLive then 1 else 0) ≤
      admissions.countP Admission.isLive := by
    split
    · exact List.countP_pos_iff.mpr ⟨_, List.getElem_mem short, ‹_›⟩
    · exact Nat.zero_le _
  omega

theorem toNat_add_one (room : count ≠ BitVec.allOnes 29) :
    (count + 1).toNat = count.toNat + 1 := by
  have full : count.toNat ≠ 2 ^ 29 - 1 := fun full =>
    room (BitVec.eq_of_toNat_eq (by rw [full, BitVec.toNat_allOnes]))
  have below := count.isLt
  have one : (1 : BitVec 29).toNat = 1 := by decide
  rw [BitVec.toNat_add, one]
  omega

theorem toNat_sub_one (some : count ≠ 0) : (count - 1).toNat = count.toNat - 1 := by
  have none : count.toNat ≠ 0 := fun none => some (BitVec.eq_of_toNat_eq none)
  have below := count.isLt
  have one : (1 : BitVec 29).toNat = 1 := by decide
  rw [BitVec.toNat_sub, one]
  omega

theorem Mode.admitted_ne (mode : Mode) : mode.admitted ≠ .claimed := by
  cases mode <;> nofun

theorem Admission.Accessed.packed {admission : Admission} {accessed : Gate × Admission}
    (access : admission.Accessed mode count accessed) (packed : Packed state mode count)
    {index : Nat} (found : state.admissions[index]? = some admission) :
    ∃ mode' count', Packed { state with
      gate := accessed.1, admissions := state.admissions.set index accessed.2 } mode' count' ∧
      (mode' = .claimed → mode = .claimed) := by
  have counted := countP_set found accessed.2
  have live : state.admissions.countP Admission.isLive = count.toNat := packed.live
  cases access with
  | stays after same =>
      refine ⟨mode, count, ⟨rfl, ?_, packed.claimed⟩, id⟩
      rw [same] at counted
      exact (Nat.add_right_cancel counted).trans live
  | acquires new room free =>
      refine ⟨mode.admitted, count + 1, ⟨rfl, ?_, fun claimed => ?_⟩, fun claimed => ?_⟩
      · rw [new, live] at counted
        rw [toNat_add_one room]
        exact counted
      · exact absurd claimed mode.admitted_ne
      · exact absurd claimed mode.admitted_ne
  | records claimed new =>
      refine ⟨.conflicted, count, ⟨rfl, ?_, nofun⟩, nofun⟩
      rw [new, live] at counted
      exact counted
  | ends ended =>
      have gone : Admission.isLive { admission with phase := .ended } = false := rfl
      rw [ended, gone, live] at counted
      have some : count ≠ 0 := by
        rintro rfl
        have zero : (0 : BitVec 29).toNat = 0 := rfl
        simp only [if_true, Bool.false_eq_true, if_false, zero] at counted
        omega
      refine ⟨mode, count - 1, ⟨pack_sub some, ?_, fun claimed => ?_⟩, id⟩
      · rw [toNat_sub_one some]
        exact Nat.eq_sub_of_add_eq counted
      · exact absurd (packed.claimed claimed) some

theorem pack_eq_zero : pack mode count = 0 ↔ mode = .free ∧ count = 0 := by
  have zero : (0 : Gate) = pack .free 0 := by decide
  rw [zero, pack_inj]

theorem claimed_eq : claimed = pack .claimed 0 := by decide

theorem committed_eq : committed = pack .committed 0 := by decide

theorem pack_eq_claimed : pack mode count = claimed ↔ mode = .claimed ∧ count = 0 := by
  rw [claimed_eq, pack_inj]

theorem Control.Accessed.packed {control : Control} {accessed : Gate × Control}
    (access : control.Accessed state.gate accessed) (packed : Packed state mode count)
    (index : Nat) :
    ∃ mode' count', Packed { state with
      gate := accessed.1, controls := state.controls.set index accessed.2 } mode' count' ∧
      (mode' = .claimed → mode = .claimed ∨ control = .claiming ∧ accessed.2 = .checking) := by
  have gate := packed.gate
  cases access with
  | stays after => exact ⟨mode, count, ⟨gate, packed.live, packed.claimed⟩, .inl⟩
  | claims claiming free =>
      obtain ⟨_, rfl⟩ := pack_eq_zero.mp (gate.symm.trans free)
      exact ⟨.claimed, 0, ⟨claimed_eq, packed.live, fun _ => rfl⟩, fun _ => .inr ⟨claiming, rfl⟩⟩
  | commits committing claimed =>
      obtain ⟨_, rfl⟩ := pack_eq_claimed.mp (gate.symm.trans claimed)
      exact ⟨.committed, 0, ⟨committed_eq, packed.live, nofun⟩, nofun⟩
  | releases fromClaim exchanging =>
      refine ⟨.free, count, ⟨?_, packed.live, nofun⟩, nofun⟩
      dsimp only
      rw [gate, pack_admissions]
      rfl

/-- A step keeps the count, and only a claim claims. -/
theorem step_packed (packed : Packed state mode count) (step : Step) :
    ∃ mode' count', Packed (state.step step) mode' count' ∧
      (mode' = .claimed → mode = .claimed ∨ Claims state step) := by
  have stays : ∃ mode' count', Packed state mode' count' ∧
      (mode' = .claimed → mode = .claimed ∨ Claims state step) :=
    ⟨mode, count, packed, .inl⟩
  by_cases aborted : state.admissions.any (·.phase == .aborted)
  · rw [State.step, if_pos aborted]
    exact stays
  have running : state.step step = state.advance step := if_neg aborted
  rw [running]
  cases step with
  | enter safety =>
      refine ⟨mode, count, ⟨packed.gate, ?_, packed.claimed⟩, .inl⟩
      have new : Admission.isLive { safety } = false := rfl
      simp only [State.advance, State.live, List.countP_append, List.countP_singleton, new]
      exact packed.live
  | claim | commit | release =>
      exact ⟨mode, count, ⟨packed.gate, packed.live, packed.claimed⟩, .inl⟩
  | admission index spurious =>
      cases found : state.admissions[index]? with
      | none =>
          rw [State.advance, found]
          exact stays
      | some admission =>
          have access := admission.access_accessed spurious mode count
          rw [← packed.gate] at access
          obtain ⟨mode', count', packed, claimed⟩ := access.packed packed found
          rw [State.advance, found]
          exact ⟨mode', count', packed, fun now => .inl (claimed now)⟩
  | control index ready spurious =>
      cases found : state.controls[index]? with
      | none =>
          rw [State.advance, found]
          exact stays
      | some control =>
          have access := control.access_accessed ready spurious state.gate
          obtain ⟨mode', count', packed, claimed⟩ := access.packed packed index
          have short : index < state.controls.length := (List.getElem?_eq_some_iff.mp found).1
          have advanced : state.step (.control index ready spurious) = { state with
              gate := (control.access ready spurious state.gate).1
              controls := state.controls.set index
                (control.access ready spurious state.gate).2 } := by
            rw [running, State.advance, found]
          rw [State.advance, found]
          refine ⟨mode', count', packed, fun now => (claimed now).imp_right fun claims => ?_⟩
          rw [Claims, advanced, found, claims.1]
          exact ⟨rfl, by simp [short, ← claims.2, claims.1]⟩

/-! ### Runs -/

theorem run_concat (steps : List Step) (step : Step) :
    run (steps ++ [step]) = (run steps).step step := by
  simp [run]

theorem run_packed (steps : List Step) : ∃ mode count, Packed (run steps) mode count := by
  induction steps using List.reverseRecOn with
  | nil =>
      have gate : (0 : Gate) = pack .free 0 := by decide
      exact ⟨.free, 0, gate, rfl, nofun⟩
  | append_singleton steps step ih =>
      obtain ⟨mode, count, packed⟩ := ih
      obtain ⟨mode', count', packed', _⟩ := step_packed packed step
      rw [run_concat]
      exact ⟨mode', count', packed'⟩

/-- Under an undisturbed claim no admission is live. -/
theorem run_claimed_live {steps : List Step} (undisturbed : (run steps).gate = claimed) :
    (run steps).live = 0 := by
  obtain ⟨mode, count, packed⟩ := run_packed steps
  obtain ⟨_, rfl⟩ := pack_eq_claimed.mp (packed.gate.symm.trans undisturbed)
  exact packed.live

/-- No claim succeeds in these later steps. -/
def Unclaimed (earlier later : List Step) : Prop :=
  ∀ before step after, later = before ++ step :: after → ¬Claims (run (earlier ++ before)) step

theorem Unclaimed.nil (earlier : List Step) : Unclaimed earlier [] := by
  intro before step after split
  simp at split

theorem Unclaimed.cons {earlier later : List Step} {step : Step}
    (other : ¬Claims (run earlier) step) (rest : Unclaimed (earlier ++ [step]) later) :
    Unclaimed earlier (step :: later) := by
  intro before next after split
  cases before with
  | nil =>
      obtain ⟨rfl, _⟩ := List.cons.inj split
      simpa using other
  | cons first before =>
      obtain ⟨rfl, tail⟩ := List.cons.inj split
      simpa using rest before next after tail

/-- An undisturbed claim was undisturbed ever since it was made. -/
theorem run_claimed_back {earlier later : List Step} (unclaimed : Unclaimed earlier later)
    (undisturbed : (run (earlier ++ later)).gate = claimed) : (run earlier).gate = claimed := by
  induction later using List.reverseRecOn with
  | nil => simpa using undisturbed
  | append_singleton later step ih =>
      obtain ⟨mode, count, packed⟩ := run_packed (earlier ++ later)
      obtain ⟨mode', count', packed', claims⟩ := step_packed packed step
      rw [← List.append_assoc, run_concat, packed'.gate] at undisturbed
      obtain ⟨claimed', _⟩ := pack_eq_claimed.mp undisturbed
      have claimed := (claims claimed').resolve_right (unclaimed later step [] rfl)
      refine ih (fun before other after split => ?_) ?_
      · exact unclaimed before other (after ++ [step]) (by simp [split])
      · rw [packed.gate, packed.claimed claimed, claimed]
        exact claimed_eq.symm

/-- A step of a call that has an access to make. -/
theorem step_control {index : Nat} {control : Control} (ready spurious : Bool)
    (found : state.controls[index]? = some control) :
    state.step (.control index ready spurious) = state ∨
      state.step (.control index ready spurious) = { state with
        gate := (control.access ready spurious state.gate).1
        controls := state.controls.set index (control.access ready spurious state.gate).2 } := by
  by_cases aborted : state.admissions.any (·.phase == .aborted)
  · exact .inl (if_pos aborted)
  · right
    rw [State.step, if_neg aborted, State.advance, found]

theorem Claims.gate {step : Step} (claims : Claims state step) :
    state.gate = 0 ∧ (state.step step).gate = claimed := by
  cases step with
  | control index ready spurious =>
      obtain ⟨found, after⟩ := claims
      rcases step_control ready spurious found with same | stepped
      · rw [same, found] at after
        cases after
      · rw [stepped] at after ⊢
        have short := (List.getElem?_eq_some_iff.mp found).1
        simp only [List.getElem?_set_self short, Option.some.injEq] at after
        unfold Control.access at after ⊢
        dsimp only at after ⊢
        split at after
        · rw [if_pos ‹_›]
          exact ⟨‹_›, rfl⟩
        · cases after
  | _ => cases claims

theorem Commits.gate {step : Step} (commits : Commits state step) : state.gate = claimed := by
  cases step with
  | control index ready spurious =>
      obtain ⟨found, after⟩ := commits
      rcases step_control ready spurious found with same | stepped
      · rw [same, found] at after
        cases after
      · rw [stepped] at after
        have short := (List.getElem?_eq_some_iff.mp found).1
        simp only [List.getElem?_set_self short, Option.some.injEq] at after
        unfold Control.access at after
        dsimp only at after
        split at after
        · assumption
        · cases after
  | _ => cases commits

/-- An admission is acquired. -/
def Acquires (safety : Bool) (state : State) : Step → Prop
  | .admission index spurious =>
      ∃ before after, state.admissions[index]? = some before ∧ before.safety = safety ∧
        before.isLive = false ∧
        (state.step (.admission index spurious)).admissions[index]? = some after ∧
        after.isLive = true
  | _ => False

/-- A safety admission is constructed, or makes an access before it is acquired. -/
def Attempts (state : State) : Step → Prop
  | .enter safety => safety = true
  | .admission index _ => ∃ before, state.admissions[index]? = some before ∧
      before.safety = true ∧ before.isLive = false
  | _ => False

/-- A conflict with the claim is recorded. -/
def Records (state : State) (step : Step) : Prop :=
  state.gate &&& conflict = 0 ∧ (state.step step).gate &&& conflict ≠ 0

/-- What the gate keeps over a run, with what is not to happen between a claim and its
commit beside an acquisition. -/
structure Excludes (disturbs : State → Step → Prop) (steps : List Step) : Prop where
  count : ((run steps).gate &&& admissionMask).toNat = (run steps).live
  bounded : (run steps).live < 2 ^ 29
  committed : ∀ earlier claims middle commits,
    steps = earlier ++ claims :: (middle ++ [commits]) → Claims (run earlier) claims →
    Unclaimed (earlier ++ [claims]) middle →
    Commits (run (earlier ++ claims :: middle)) commits → (run earlier).live = 0 ∧
      ∀ before step after, middle = before ++ step :: after →
        (∀ safety, ¬Acquires safety (run (earlier ++ claims :: before)) step) ∧
        ¬disturbs (run (earlier ++ claims :: before)) step
  /-- While committed, and also while claimed, only safety admissions are acquired. -/
  exclusive : ∀ step, Acquires false (run steps) step → (run steps).gate &&& controlMask = 0
  safety : ∀ admission ∈ (run steps).admissions, admission.safety = true →
    admission.phase ≠ .refused
  /-- A safety admission whose exchange finds the gate as it was is acquired. -/
  progress : ∀ index, (run steps).admissions.any (·.phase == .aborted) = false →
    (run steps).admissions[index]? = some ⟨true, .observed (run steps).gate⟩ →
      Acquires true (run steps) (.admission index false)
  release : ∀ index fromClaim observed ready spurious,
    (run steps).controls[index]? = some (.exchanging fromClaim observed) →
      ((run steps).step (.control index ready spurious)).live = (run steps).live ∧
      ((run steps).step (.control index ready spurious)).gate &&& admissionMask =
        (run steps).gate &&& admissionMask

theorem attempt_safety (value : Gate) :
    attempt true value = .abort ∨ ∃ desired, attempt true value = .acquire desired := by
  unfold attempt
  dsimp only
  split
  · exact .inl rfl
  right
  split
  · exact ⟨_, rfl⟩
  split
  · cases ‹true = false›
  split <;> exact ⟨_, rfl⟩

/-- A safety admission is not refused, and a value that it holds is one to acquire on. -/
def Admission.Sensible (admission : Admission) : Prop :=
  admission.safety = true → admission.phase ≠ .refused ∧
    ∀ value, admission.phase = .observed value → ∃ desired, attempt true value = .acquire desired

theorem Admission.observe_sensible (admission : Admission) (value : Gate) :
    (admission.observe value).Sensible := by
  obtain ⟨safety, phase⟩ := admission
  cases safety with
  | false =>
      intro safe
      unfold observe at safe
      split at safe <;> cases safe
  | true =>
      rcases attempt_safety value with aborts | ⟨desired, acquires⟩
      · rw [observe, aborts]
        exact fun _ => ⟨nofun, nofun⟩
      · rw [observe, acquires]
        refine fun _ => ⟨nofun, fun held same => ⟨desired, ?_⟩⟩
        cases same
        exact acquires

theorem Admission.access_sensible {admission : Admission} (sensible : admission.Sensible)
    (spurious : Bool) (gate : Gate) : (admission.access spurious gate).2.Sensible := by
  obtain ⟨safety, phase⟩ := admission
  cases phase with
  | loading => exact observe_sensible _ gate
  | observed value =>
      cases safety with
      | false =>
          intro safe
          have ordinary : (access ⟨false, .observed value⟩ spurious gate).2.safety = false := by
            unfold access observe
            dsimp only
            split <;> try rfl
            split <;> try rfl
            split <;> rfl
          rw [ordinary] at safe
          cases safe
      | true =>
          obtain ⟨desired, acquires⟩ := (sensible rfl).2 value rfl
          simp only [access, acquires]
          split
          · exact fun _ => ⟨nofun, nofun⟩
          · exact observe_sensible _ gate
  | live => exact fun _ => ⟨nofun, nofun⟩
  | refused | aborted | ended => exact sensible

theorem run_sensible (steps : List Step) :
    ∀ admission ∈ (run steps).admissions, admission.Sensible := by
  induction steps using List.reverseRecOn with
  | nil => exact nofun
  | append_singleton steps step ih =>
      rw [run_concat, State.step]
      split
      · exact ih
      cases step with
      | enter safety =>
          intro admission member
          rcases List.mem_append.mp member with earlier | new
          · exact ih admission earlier
          · rw [List.mem_singleton.mp new]
            exact fun _ => ⟨nofun, nofun⟩
      | claim | commit | release => exact ih
      | admission index spurious =>
          rw [State.advance]
          split
          · exact ih
          · rename_i found
            intro admission member
            rcases List.mem_or_eq_of_mem_set member with earlier | rfl
            · exact ih admission earlier
            · exact Admission.access_sensible (ih _ (List.mem_of_getElem? found)) spurious _
      | control index ready spurious =>
          rw [State.advance]
          split <;> exact ih

/-- A step of an admission that has an access to make. -/
theorem step_admission {index : Nat} {admission : Admission} (spurious : Bool)
    (running : state.admissions.any (·.phase == .aborted) = false)
    (found : state.admissions[index]? = some admission) :
    state.step (.admission index spurious) = { state with
      gate := (admission.access spurious state.gate).1
      admissions := state.admissions.set index (admission.access spurious state.gate).2 } := by
  rw [State.step, if_neg (by simp [running]), State.advance, found]

theorem Acquires.running {safety : Bool} {index : Nat} {spurious : Bool}
    (acquires : Acquires safety state (.admission index spurious)) :
    state.admissions.any (·.phase == .aborted) = false := by
  obtain ⟨before, after, found, _, new, found', live⟩ := acquires
  by_contra aborted
  rw [State.step, if_pos (by simpa using aborted), found] at found'
  cases found'
  rw [new] at live
  cases live

/-- An ordinary admission is acquired on a free gate. -/
theorem Packed.exclusive (packed : Packed state mode count) {step : Step}
    (acquires : Acquires false state step) : mode = .free := by
  cases step with
  | admission index spurious =>
      have running := acquires.running
      obtain ⟨before, after, found, ordinary, new, found', live⟩ := acquires
      have short := (List.getElem?_eq_some_iff.mp found).1
      rw [step_admission spurious running found] at found'
      simp only [List.getElem?_set_self short, Option.some.injEq] at found'
      subst found'
      have access := before.access_accessed spurious mode count
      rw [← packed.gate] at access
      revert access live
      generalize before.access spurious state.gate = accessed
      intro live access
      cases access with
      | stays after same =>
          rw [same, new] at live
          cases live
      | acquires _ _ free => exact free ordinary
      | records => cases live
      | ends => cases live
  | _ => cases acquires

/-- Between a claim and its commit nothing is acquired. -/
theorem not_acquires {safety : Bool} {step : Step}
    (after : (state.step step).live = 0) : ¬Acquires safety state step := by
  intro acquires
  cases step with
  | admission index spurious =>
      obtain ⟨_, _, _, _, _, found, live⟩ := acquires
      have none := List.countP_eq_zero.mp after _ (List.mem_of_getElem? found)
      exact none live
  | _ => cases acquires

theorem run_window {earlier : List Step} {claims : Step} {middle : List Step} {commits : Step}
    (claimed : Claims (run earlier) claims) (unclaimed : Unclaimed (earlier ++ [claims]) middle)
    (committed : Commits (run (earlier ++ claims :: middle)) commits) :
    (run earlier).live = 0 ∧ ∀ before after, middle = before ++ after →
      (run (earlier ++ claims :: before)).gate = SleepGate.claimed := by
  constructor
  · obtain ⟨mode, count, packed⟩ := run_packed earlier
    obtain ⟨_, rfl⟩ := pack_eq_zero.mp (packed.gate.symm.trans claimed.gate.1)
    exact packed.live
  · intro before after split
    have rest : Unclaimed (earlier ++ claims :: before) after := by
      intro between step last same
      have none := unclaimed (before ++ between) step last (by simp [split, same])
      simpa using none
    apply run_claimed_back rest
    have gate := committed.gate
    rw [split] at gate
    simpa using gate

theorem sleep_excludes (steps : List Step) : Excludes Records steps := by
  obtain ⟨mode, count, packed⟩ := run_packed steps
  refine ⟨?_, ?_, ?_, fun step acquires => ?_, fun admission member safe => ?_, ?_, ?_⟩
  · rw [packed.gate, pack_admissions, packed.live]
    exact (pack_toNat .free count).trans (Nat.zero_add _)
  · rw [packed.live]
    exact count.isLt
  · rintro earlier claims middle commits rfl claimed unclaimed committed
    obtain ⟨idle, window⟩ := run_window claimed unclaimed committed
    refine ⟨idle, fun before step after split => ?_⟩
    have first := window before (step :: after) split
    have next := window (before ++ [step]) after (by simp [split])
    have stepped : run (earlier ++ claims :: (before ++ [step])) =
        (run (earlier ++ claims :: before)).step step := by
      rw [← run_concat]
      simp
    refine ⟨fun safety => not_acquires ?_, fun records => ?_⟩
    · rw [← stepped]
      exact run_claimed_live next
    · rw [Records, ← stepped, first, next] at records
      exact records.2 records.1
  · rw [packed.gate, pack_control, packed.exclusive acquires]
    rfl
  · exact (run_sensible steps admission member safe).1
  · intro index running found
    have sensible := run_sensible steps _ (List.mem_of_getElem? found) rfl
    obtain ⟨desired, acquires⟩ := sensible.2 _ rfl
    have short := (List.getElem?_eq_some_iff.mp found).1
    refine ⟨_, { safety := true, phase := .live }, found, rfl, rfl, ?_, rfl⟩
    rw [step_admission false running found]
    simp [Admission.access, acquires, short]
  · intro index fromClaim observed ready spurious found
    rcases step_control ready spurious found with same | stepped
    · rw [same]
      exact ⟨rfl, rfl⟩
    · rw [stepped]
      refine ⟨rfl, ?_⟩
      dsimp only [Control.access]
      split
      · rename_i exchanged
        rw [exchanged.1]
        simp [BitVec.and_assoc]
      · rfl

/-- A safety admission reads the gate between a claim and its commit, and its exchange
fails for no reason of the gate's. -/
def attemptSteps : List Step := [
  .claim, .control 0 true false, .enter true, .admission 0 false, .admission 0 true, .commit,
  .control 1 true false]

theorem sleep_attempted : ¬∀ steps, Excludes Attempts steps := by
  intro excludes
  have unclaimed : Unclaimed [.claim, .control 0 true false]
      [.enter true, .admission 0 false, .admission 0 true, .commit] :=
    .cons nofun (.cons nofun (.cons nofun (.cons nofun (.nil _))))
  have window := (excludes attemptSteps).committed [.claim] (.control 0 true false)
    [.enter true, .admission 0 false, .admission 0 true, .commit] (.control 1 true false) rfl
    ⟨by decide, by decide⟩ unclaimed ⟨by decide, by decide⟩
  exact (window.2 [] (.enter true) _ rfl).2 rfl

end HidBot.SleepGate
