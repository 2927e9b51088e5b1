import HidBot.Interleaving.Tagged
import Mathlib.Data.List.Basic

/-!
# Slots with numbered lives

A slot is taken, lived in and given back, and each life in it has a number of its own. A log of
events is lawful when every event is one that the state of its slot allows and every life is
numbered above all earlier ones. Then the events of one life are a path of the machine from its
rest, and only the last life of a slot may not have come back to it.
-/

namespace HidBot.Interleaving

/-- A machine whose events name the slot and the life that they are for. -/
structure Lives (ι ε σ : Type) where
  slot : ε → ι
  life : ε → UInt64
  /-- The event begins the life. -/
  opens : ε → Bool
  rest : σ
  move : ε → σ → Option σ
  /-- What the earlier events of the life must have been. -/
  guard : ε → List ε → Prop
  limit : UInt64
  opens_rest {event : ε} {before after : σ} : opens event = true →
    move event before = some after → before = rest
  rest_opens {event : ε} {after : σ} : move event rest = some after → opens event = true

namespace Lives

variable {ι ε σ : Type} (lives : Lives ι ε σ) [DecidableEq ι]

/-- The life of a slot and its state. -/
def current (slot : ι) : List ε → UInt64 × σ
  | [] => (0, lives.rest)
  | event :: log =>
      if lives.slot event = slot then
        (lives.life event, (lives.move event (current slot log).2).getD lives.rest)
      else current slot log

/-- The numbers of the lives that have begun. -/
def opened (log : List ε) : List UInt64 := (log.filter lives.opens).map lives.life

/-- What has happened in one life. -/
def trace (slot : ι) (life : UInt64) (log : List ε) : List ε :=
  log.filter fun event => lives.slot event = slot && lives.life event = life

structure Legal (event : ε) (log : List ε) : Prop where
  moves : ∃ after, lives.move event (lives.current (lives.slot event) log).2 = some after
  guarded : lives.guard event (lives.trace (lives.slot event) (lives.life event) log)
  fresh : lives.opens event = true → 0 < lives.life event ∧ lives.life event ≤ lives.limit ∧
    ∀ earlier ∈ lives.opened log, earlier < lives.life event
  same : lives.opens event = false →
    (lives.current (lives.slot event) log).1 = lives.life event

def Lawful : List ε → Prop
  | [] => True
  | event :: log => lives.Legal event log ∧ Lawful log

/-- The events of a life, the latest first, with the state that they have led to. -/
inductive Path : List ε → σ → Prop
  | opened {event : ε} {after : σ} (opens : lives.opens event = true)
      (moves : lives.move event lives.rest = some after) (guarded : lives.guard event []) :
      Path [event] after
  | step {event : ε} {events : List ε} {before after : σ} (path : Path events before)
      (opens : lives.opens event = false) (moves : lives.move event before = some after)
      (guarded : lives.guard event events) : Path (event :: events) after

/-- What has become of a life: nothing, a path that its slot is still on, or one that has come
back to the rest before the slot was taken again. -/
inductive Stands (slot : ι) (life : UInt64) (log : List ε) : Prop
  | unused (untouched : lives.trace slot life log = [])
      (free : (lives.current slot log).1 = life → (lives.current slot log).2 = lives.rest)
  | present (state : σ) (path : lives.Path (lives.trace slot life log) state)
      (now : lives.current slot log = (life, state))
  | past (path : lives.Path (lives.trace slot life log) lives.rest)
      (less : life < (lives.current slot log).1)

variable {lives} {slot : ι} {life : UInt64} {log : List ε} {event : ε}

/-! ### Events of one slot -/

theorem mem_trace : event ∈ lives.trace slot life log ↔
    event ∈ log ∧ lives.slot event = slot ∧ lives.life event = life := by
  simp [trace]

theorem trace_own : lives.trace (lives.slot event) (lives.life event) (event :: log) =
    event :: lives.trace (lives.slot event) (lives.life event) log := by
  simp [trace]

theorem trace_other (other : ¬(lives.slot event = slot ∧ lives.life event = life)) :
    lives.trace slot life (event :: log) = lives.trace slot life log := by
  simp [trace, other]

theorem current_own {after : σ}
    (moves : lives.move event (lives.current (lives.slot event) log).2 = some after) :
    lives.current (lives.slot event) (event :: log) = (lives.life event, after) := by
  simp [current, moves]

theorem current_other (other : lives.slot event ≠ slot) :
    lives.current slot (event :: log) = lives.current slot log := by
  simp [current, other]

omit [DecidableEq ι] in
theorem mem_opened :
    life ∈ lives.opened log ↔ ∃ event ∈ log, lives.opens event = true ∧ lives.life event = life := by
  simp [opened, and_assoc]

omit [DecidableEq ι] in
theorem opened_cons_of_opens (opens : lives.opens event = true) :
    lives.opened (event :: log) = lives.life event :: lives.opened log := by
  simp [opened, opens]

omit [DecidableEq ι] in
theorem opened_cons_of_not (opens : lives.opens event = false) :
    lives.opened (event :: log) = lives.opened log := by
  simp [opened, opens]

omit [DecidableEq ι] in
theorem Path.opens {events : List ε} {state : σ} (path : lives.Path events state) :
    ∃ event ∈ events, lives.opens event = true := by
  induction path with
  | opened opens _ _ => exact ⟨_, List.mem_cons_self .., opens⟩
  | step _ _ _ _ ih =>
      obtain ⟨event, member, opens⟩ := ih
      exact ⟨event, List.mem_cons_of_mem _ member, opens⟩

/-! ### Lawful logs -/

theorem Legal.rest_of_opens (legal : lives.Legal event log) (opens : lives.opens event = true) :
    (lives.current (lives.slot event) log).2 = lives.rest := by
  obtain ⟨after, moves⟩ := legal.moves
  exact lives.opens_rest opens moves

theorem Legal.busy (legal : lives.Legal event log) (opens : lives.opens event = false) :
    (lives.current (lives.slot event) log).2 ≠ lives.rest := by
  obtain ⟨after, moves⟩ := legal.moves
  intro free
  rw [free] at moves
  exact absurd (lives.rest_opens moves) (by simp [opens])

theorem mem_opened_of_path {state : σ} (path : lives.Path (lives.trace slot life log) state) :
    life ∈ lives.opened log := by
  obtain ⟨event, member, opens⟩ := path.opens
  obtain ⟨present, -, about⟩ := mem_trace.mp member
  exact mem_opened.mpr ⟨event, present, opens, about⟩

namespace Lawful

theorem of_append {newer : List ε} (lawful : lives.Lawful (newer ++ log)) : lives.Lawful log := by
  induction newer with
  | nil => exact lawful
  | cons event newer ih => exact ih lawful.2

theorem stands (lawful : lives.Lawful log) (slot : ι) (life : UInt64) :
    lives.Stands slot life log := by
  induction log with
  | nil => exact .unused rfl fun _ => rfl
  | cons event log ih =>
      obtain ⟨legal, lawful⟩ := lawful
      by_cases own : lives.slot event = slot
      swap
      · have same : lives.trace slot life (event :: log) = _ := trace_other fun both => own both.1
        have now : lives.current slot (event :: log) = _ := current_other own
        cases ih lawful with
        | unused untouched free => exact .unused (same ▸ untouched) (now ▸ free)
        | present state path here => exact .present state (same ▸ path) (now ▸ here)
        | past path less => exact .past (same ▸ path) (now ▸ less)
      subst own
      obtain ⟨after, moves⟩ := legal.moves
      by_cases mine : lives.life event = life
      · subst mine
        cases ih lawful with
        | unused untouched free =>
            cases opens : lives.opens event with
            | true =>
                refine .present after ?_ (current_own moves)
                have guarded := legal.guarded
                rw [legal.rest_of_opens opens] at moves
                rw [untouched] at guarded
                rw [trace_own, untouched]
                exact .opened opens moves guarded
            | false => exact absurd (free (legal.same opens)) (legal.busy opens)
        | present state path here =>
            cases opens : lives.opens event with
            | true =>
                have above := (legal.fresh opens).2.2 _ (mem_opened_of_path path)
                exact absurd above (UInt64.lt_irrefl _)
            | false =>
                refine .present after ?_ (current_own moves)
                rw [here] at moves
                rw [trace_own]
                exact .step path opens moves legal.guarded
        | past path less =>
            cases opens : lives.opens event with
            | true =>
                have above := (legal.fresh opens).2.2 _ (mem_opened_of_path path)
                exact absurd above (UInt64.lt_irrefl _)
            | false => exact absurd (legal.same opens ▸ less) (UInt64.lt_irrefl _)
      · have same : lives.trace (lives.slot event) life (event :: log) = _ :=
          trace_other fun both => mine both.2
        cases ih lawful with
        | unused untouched free =>
            refine .unused (same ▸ untouched) fun other => absurd ?_ mine
            rw [← other, current_own moves]
        | present state path here =>
            cases opens : lives.opens event with
            | true =>
                have free := legal.rest_of_opens opens
                rw [here] at free
                obtain rfl : state = lives.rest := free
                refine .past (same ▸ path) ?_
                rw [current_own moves]
                exact (legal.fresh opens).2.2 _ (mem_opened_of_path path)
            | false =>
                have other := legal.same opens
                rw [here] at other
                exact absurd other.symm mine
        | past path less =>
            refine .past (same ▸ path) ?_
            rw [current_own moves]
            cases opens : lives.opens event with
            | true => exact (legal.fresh opens).2.2 _ (mem_opened_of_path path)
            | false => exact legal.same opens ▸ less

/-- The path of the life that a slot is in the middle of. -/
theorem path_now (lawful : lives.Lawful log) {state : σ}
    (here : lives.current slot log = (life, state)) (busy : state ≠ lives.rest) :
    lives.Path (lives.trace slot life log) state := by
  cases lawful.stands slot life with
  | unused _ free =>
      rw [here] at free
      exact absurd (free rfl) busy
  | present other path now =>
      obtain ⟨-, rfl⟩ := Prod.mk.inj (here.symm.trans now)
      exact path
  | past _ less =>
      rw [here] at less
      exact absurd less (UInt64.lt_irrefl _)

/-! ### Numbers -/

theorem opened_pairwise (lawful : lives.Lawful log) : (lives.opened log).Pairwise (· > ·) := by
  induction log with
  | nil => exact .nil
  | cons event log ih =>
      obtain ⟨legal, lawful⟩ := lawful
      cases opens : lives.opens event with
      | true =>
          rw [opened_cons_of_opens opens]
          exact .cons (legal.fresh opens).2.2 (ih lawful)
      | false =>
          rw [opened_cons_of_not opens]
          exact ih lawful

theorem opened_small (lawful : lives.Lawful log) :
    ∀ life ∈ lives.opened log, 0 < life ∧ life ≤ lives.limit := by
  induction log with
  | nil => simp [opened]
  | cons event log ih =>
      obtain ⟨legal, lawful⟩ := lawful
      cases opens : lives.opens event with
      | true =>
          rw [opened_cons_of_opens opens]
          intro life member
          rcases List.mem_cons.mp member with rfl | earlier
          · exact ⟨(legal.fresh opens).1, (legal.fresh opens).2.1⟩
          · exact ih lawful life earlier
      | false =>
          rw [opened_cons_of_not opens]
          exact ih lawful

/-- The number of a slot is that of a life that has begun, or none. -/
theorem current_opened (lawful : lives.Lawful log) (slot : ι) :
    lives.current slot log = (0, lives.rest) ∨ (lives.current slot log).1 ∈ lives.opened log := by
  induction log with
  | nil => exact .inl rfl
  | cons event log ih =>
      obtain ⟨legal, lawful⟩ := lawful
      have more : ∀ life ∈ lives.opened log, life ∈ lives.opened (event :: log) := by
        intro life member
        obtain ⟨opening, present, opens⟩ := mem_opened.mp member
        exact mem_opened.mpr ⟨opening, List.mem_cons_of_mem _ present, opens⟩
      by_cases own : lives.slot event = slot
      · subst own
        obtain ⟨after, moves⟩ := legal.moves
        rw [current_own moves]
        cases opens : lives.opens event with
        | true => exact .inr (mem_opened.mpr ⟨event, List.mem_cons_self .., opens, rfl⟩)
        | false =>
            rcases ih lawful with free | member
            · exact absurd (congrArg Prod.snd free) (legal.busy opens)
            · exact .inr (more _ (legal.same opens ▸ member))
      · rw [current_other own]
        exact (ih lawful).imp_right (more _)

theorem current_small (lawful : lives.Lawful log) (slot : ι) :
    (lives.current slot log).1 ≤ lives.limit := by
  rcases lawful.current_opened slot with free | member
  · rw [free]
    exact UInt64.le_iff_toNat_le.mpr (Nat.zero_le _)
  · exact (lawful.opened_small _ member).2

theorem life_ne_zero (lawful : lives.Lawful log) {state : σ}
    (here : lives.current slot log = (life, state)) (busy : state ≠ lives.rest) : life ≠ 0 := by
  rintro rfl
  rcases lawful.current_opened slot with free | member
  · rw [here] at free
    exact busy (Prod.mk.inj free).2
  · rw [here] at member
    exact absurd (lawful.opened_small _ member).1 (UInt64.lt_irrefl _)

end Lawful

end Lives

end HidBot.Interleaving
