import HidBot.Interleaving.Holdings
import HidBot.Interleaving.Scripted
import Mathlib.Data.List.Nodup

/-!
# Numbered terms of a word

A counter gives out numbers, and a word shows the number of the current term or zero. A
call that has drawn a number may show it once, and every call may end the current term. Then
no two results carry the same number, and a number that the word has left is never shown
again.
-/

namespace HidBot.Interleaving

variable {ι σ ο ρ α : Type}

/-- A counter and the word that shows the current number. -/
structure Numbering (σ : Type) where
  /-- The numbers below have been drawn. -/
  next : σ → Nat
  shown : σ → Nat

namespace Numbering

/-- What a call has done with a number. -/
inductive Hand where
  | nothing
  | drawn (number : Nat)
  | shown (number : Nat)
  deriving DecidableEq

/-- The number in the hand. -/
def Hand.number : Hand → Option Nat
  | nothing => none
  | drawn number | shown number => some number

variable (numbering : Numbering σ)

/-- The counter stands still and the term goes on or ends. -/
structure Still (before after : σ) : Prop where
  next : numbering.next after = numbering.next before
  shown : numbering.shown after = numbering.shown before ∨ numbering.shown after = 0

/-- What an access does to the counter, the word and the hand of its call. -/
inductive Step : Hand → σ → σ → Hand → Prop where
  | still {hand : Hand} {before after : σ} (still : numbering.Still before after) :
      Step hand before after hand
  | draw {before after : σ} (next : numbering.next after = numbering.next before + 1)
      (shown : numbering.shown after = numbering.shown before ∨ numbering.shown after = 0) :
      Step .nothing before after (.drawn (numbering.next before))
  | show {number : Nat} {before after : σ} (next : numbering.next after = numbering.next before)
      (shown : numbering.shown after = number) :
      Step (.drawn number) before after (.shown number)
  /-- The next number is drawn and shown at once. -/
  | renew {before after : σ} (next : numbering.next after = numbering.next before + 1)
      (shown : numbering.shown after = numbering.next before) :
      Step .nothing before after .nothing

/-- Calls whose results carry the numbers that they have shown. -/
def custody (number : ι → ο → ρ → Option Nat) : Custody ι σ ο ρ Hand where
  step := numbering.Step
  last task operation hand result :=
    ∀ carried, number task operation result = some carried → hand = .shown carried
  nothing := .nothing

/-- The number has been drawn, and no call can show it any more. -/
structure Spent (state : σ) (hand : ι → Hand) (number : Nat) : Prop where
  drawn : number < numbering.next state
  unheld : ∀ task, hand task ≠ .drawn number

/-- Every number in a hand is its own, and so is the one of every result. -/
structure Sound (number : ι → ο → ρ → Option Nat) (state : σ) (history : List (ι × ο × ρ))
    (hand : ι → Hand) : Prop where
  current : numbering.shown state ≠ 0 → numbering.Spent state hand (numbering.shown state)
  held : ∀ task carried, (hand task).number = some carried →
    carried < numbering.next state ∧ carried ≠ 0 ∧
      ∀ other, (hand other).number = some carried → other = task
  past : ∀ entry ∈ history, ∀ carried, number entry.1 entry.2.1 entry.2.2 = some carried →
    carried ≠ 0 ∧ numbering.Spent state hand carried ∧ ∀ task, (hand task).number ≠ some carried
  distinct : (history.filterMap fun entry => number entry.1 entry.2.1 entry.2.2).Nodup

variable {numbering} {number : ι → ο → ρ → Option Nat} {before after : σ} {hand : ι → Hand}
  {history : List (ι × ο × ρ)} {task : ι} {later : Hand}

theorem Still.refl (state : σ) : numbering.Still state state := ⟨rfl, .inl rfl⟩

/-- A call that leaves the numbers alone. -/
theorem holding_of_still {call : Program σ α} {last : Hand → α → Prop}
    (each : call.Each numbering.Still) (hand : Hand) (keeps : ∀ result, last hand result) :
    call.Holding numbering.Step last hand := by
  refine (Program.Holding.of_each (each.mono fun _ _ still => .still still)).mono ?_
  rintro after result rfl
  exact keeps result

/-- A call that leaves the numbers alone, with what its results satisfy. -/
theorem holding_of_ends {call : Program σ α} {holds : α → Prop}
    (each : call.Each numbering.Still) (ends : call.Ends holds) (hand : Hand) :
    call.Holding numbering.Step (fun after result => after = hand ∧ holds result) hand := by
  induction call with
  | done result => exact ⟨rfl, ends⟩
  | access update next ih =>
      exact fun state => ⟨hand, .still (each state).1, ih state (each state).2 (ends state)⟩

/-- What goes before the rest of a call leaves the numbers alone. -/
theorem holding_after {β : Type} {call : Program σ β} {rest : β → Program σ α}
    {last : Hand → α → Prop} {hand : Hand} (each : call.Each numbering.Still)
    (later : ∀ result, (rest result).Holding numbering.Step last hand) :
    (call >>= rest).Holding numbering.Step last hand := by
  refine .bind (holding_of_ends each (Program.ends_any call) hand) ?_
  rintro result after ⟨rfl, -⟩
  exact later result

theorem Step.next_le {held later : Hand} (step : numbering.Step held before after later) :
    numbering.next before ≤ numbering.next after := by
  cases step with
  | still still => exact Nat.le_of_eq still.next.symm
  | draw next shown => omega
  | «show» next shown => exact Nat.le_of_eq next.symm
  | renew next shown => omega

/-- **A spent number that is not shown is never shown again.** -/
theorem Spent.unshown {carried : Nat} (spent : numbering.Spent before hand carried)
    (positive : carried ≠ 0) (gone : numbering.shown before ≠ carried)
    (step : numbering.Step (hand task) before after later) : numbering.shown after ≠ carried := by
  have unheld := spent.unheld task
  generalize hand task = own at step unheld
  have ended (shown : numbering.shown after = numbering.shown before ∨ numbering.shown after = 0) :
      numbering.shown after ≠ carried := by
    rcases shown with same | zero
    · rwa [same]
    · rw [zero]
      exact positive.symm
  cases step with
  | still still => exact ended still.shown
  | draw next shown => exact ended shown
  | «show» next shown =>
      rw [shown]
      exact fun same => unheld (congrArg Hand.drawn same)
  | renew next shown =>
      rw [shown]
      exact Nat.ne_of_gt spent.drawn

/-- The invariant of a run. -/
def Accounted (numbering : Numbering σ) (number : ι → ο → ρ → Option Nat) (state : σ)
    (history : List (ι × ο × ρ)) (hand : ι → Hand) : Prop :=
  0 < numbering.next state ∧ numbering.Sound number state history hand

theorem accounted_initial (positive : 0 < numbering.next before)
    (ended : numbering.shown before = 0) :
    Accounted numbering number before [] fun _ : ι => .nothing :=
  ⟨positive, fun current => absurd ended current, fun _ _ found => by simp [Hand.number] at found,
    by simp, by simp⟩

section Keep

variable [DecidableEq ι]

/-- A spent number stays spent. -/
theorem Spent.step {carried : Nat} (spent : numbering.Spent before hand carried)
    (step : numbering.Step (hand task) before after later) :
    numbering.Spent after (Function.update hand task later) carried := by
  refine ⟨Nat.lt_of_lt_of_le spent.drawn step.next_le, fun other => ?_⟩
  by_cases same : other = task
  · subst same
    rw [Function.update_self]
    have unheld := spent.unheld other
    generalize hand other = own at step unheld
    cases step with
    | still still => exact unheld
    | draw next shown =>
        intro drawn
        exact absurd (Hand.drawn.inj drawn) (Nat.ne_of_gt spent.drawn)
    | «show» next shown => exact Hand.noConfusion
    | renew next shown => exact Hand.noConfusion
  · rw [Function.update_of_ne same]
    exact spent.unheld other

/-- The number in the hand of the acting call stays, or it is the next one of the counter. -/
theorem Step.hand_number {held later : Hand} (step : numbering.Step held before after later) :
    later.number = held.number ∨ later.number = none ∨
      later.number = some (numbering.next before) ∧
        numbering.next after = numbering.next before + 1 := by
  cases step with
  | still still => exact .inl rfl
  | draw next shown => exact .inr (.inr ⟨rfl, next⟩)
  | «show» next shown => exact .inl rfl
  | renew next shown => exact .inl rfl

theorem Sound.step (sound : numbering.Sound number before history hand)
    (positive : 0 < numbering.next before)
    (step : numbering.Step (hand task) before after later) :
    numbering.Sound number after history (Function.update hand task later) := by
  have kept (other : ι) (carried : Nat)
      (found : (Function.update hand task later other).number = some carried) :
      (hand other).number = some carried ∨
        other = task ∧ carried = numbering.next before ∧
          numbering.next after = numbering.next before + 1 := by
    by_cases same : other = task
    · subst same
      rw [Function.update_self] at found
      rcases step.hand_number with stays | none | ⟨drawn, next⟩
      · exact .inl (stays ▸ found)
      · simp [none] at found
      · exact .inr ⟨rfl, by simpa using found.symm.trans drawn, next⟩
    · exact .inl (by rwa [Function.update_of_ne same] at found)
  refine ⟨fun current => ?_, fun other carried found => ?_, fun entry member carried found => ?_,
    sound.distinct⟩
  · -- The word keeps its number, or shows the one of the acting call.
    by_cases same : numbering.shown after = numbering.shown before
    · rw [same] at current ⊢
      exact (sound.current current).step step
    · have moved := step
      generalize own : hand task = held at step
      cases step with
      | still still => exact absurd (still.shown.resolve_left same) current
      | draw next shown => exact absurd (shown.resolve_left same) current
      | «show» next shown =>
          obtain ⟨below, -, alone⟩ := sound.held task (numbering.shown after)
            (by rw [own, shown]; rfl)
          refine ⟨next.symm ▸ below, fun other drawn => ?_⟩
          by_cases mine : other = task
          · subst mine
            simp at drawn
          · rw [Function.update_of_ne mine] at drawn
            exact mine (alone other (by rw [drawn]; rfl))
      | renew next shown =>
          refine ⟨by omega, fun other drawn => ?_⟩
          by_cases mine : other = task
          · subst mine
            simp at drawn
          · rw [Function.update_of_ne mine] at drawn
            have below := (sound.held other _ (by rw [drawn]; rfl)).1
            omega
  · rcases kept other carried found with old | ⟨rfl, rfl, next⟩
    · obtain ⟨below, nonzero, alone⟩ := sound.held other carried old
      refine ⟨Nat.lt_of_lt_of_le below step.next_le, nonzero, fun third shares => ?_⟩
      rcases kept third carried shares with before | ⟨rfl, rfl, -⟩
      · exact alone third before
      · exact absurd below (Nat.lt_irrefl _)
    · refine ⟨by omega, Nat.ne_of_gt positive, fun third shares => ?_⟩
      rcases kept third _ shares with before | ⟨rfl, -, -⟩
      · exact absurd (sound.held third _ before).1 (Nat.lt_irrefl _)
      · rfl
  · obtain ⟨nonzero, spent, unheld⟩ := sound.past entry member carried found
    refine ⟨nonzero, spent.step step, fun other holds => ?_⟩
    rcases kept other carried holds with before | ⟨rfl, rfl, -⟩
    · exact unheld other before
    · exact absurd spent.drawn (Nat.lt_irrefl _)

/-- A return gives up the hand. -/
theorem Spent.release {carried : Nat} (spent : numbering.Spent before hand carried) :
    numbering.Spent before (Function.update hand task .nothing) carried := by
  refine ⟨spent.drawn, fun other drawn => ?_⟩
  by_cases same : other = task
  · subst same
    simp at drawn
  · exact spent.unheld other (by rwa [Function.update_of_ne same] at drawn)

theorem Sound.returned {operation : ο} {result : ρ}
    (sound : numbering.Sound number before history hand)
    (last : ∀ carried, number task operation result = some carried → hand task = .shown carried) :
    numbering.Sound number before ((task, operation, result) :: history)
      (Function.update hand task .nothing) := by
  have fewer (other : ι) (carried : Nat)
      (found : (Function.update hand task .nothing other).number = some carried) :
      other ≠ task ∧ (hand other).number = some carried := by
    by_cases same : other = task
    · subst same
      simp [Hand.number] at found
    · exact ⟨same, by rwa [Function.update_of_ne same] at found⟩
  refine ⟨fun current => (sound.current current).release, fun other carried found => ?_,
    fun entry member carried found => ?_, ?_⟩
  · obtain ⟨-, old⟩ := fewer other carried found
    obtain ⟨below, nonzero, alone⟩ := sound.held other carried old
    exact ⟨below, nonzero, fun third shares => alone third (fewer third carried shares).2⟩
  · rcases List.mem_cons.mp member with rfl | earlier
    · have own := last carried found
      obtain ⟨below, nonzero, alone⟩ := sound.held task carried (by rw [own]; rfl)
      refine ⟨nonzero, ⟨below, fun other drawn => ?_⟩, fun other holds => ?_⟩
      · obtain ⟨apart, old⟩ := fewer other carried (by rw [drawn]; rfl)
        exact apart (alone other old)
      · obtain ⟨apart, old⟩ := fewer other carried holds
        exact apart (alone other old)
    · obtain ⟨nonzero, spent, unheld⟩ := sound.past entry earlier carried found
      exact ⟨nonzero, spent.release, fun other holds => unheld other (fewer other carried holds).2⟩
  · cases found : number task operation result with
    | none => simpa [found] using sound.distinct
    | some carried =>
        have own := last carried found
        rw [List.filterMap_cons_some (b := carried) (by exact found), List.nodup_cons]
        refine ⟨fun member => ?_, sound.distinct⟩
        obtain ⟨entry, earlier, same⟩ := List.mem_filterMap.mp member
        exact (sound.past entry earlier carried same).2.2 task (by rw [own]; rfl)

/-! ### Runs -/

variable {program : ι → ο → Program σ ρ} {allowed : Config ι σ ο ρ → Label ι ο → Prop}
  {start middle final : Config ι σ ο ρ}

theorem Accounted.run (starts : ∀ task operation, (program task operation).Holding numbering.Step
      ((numbering.custody number).last task operation) .nothing)
    (kept : (numbering.custody number).Held start hand)
    (accounted : Accounted numbering number start.shared start.history hand)
    (reached : Reaches program allowed start final) :
    ∃ later, (numbering.custody number).Held final later ∧
      Accounted numbering number final.shared final.history later := by
  refine Custody.Held.induct _ starts ?_ ?_ kept accounted reached
  · intro state history hand task after later accounted step
    exact ⟨Nat.lt_of_lt_of_le accounted.1 (Step.next_le step), accounted.2.step accounted.1 step⟩
  · intro state history hand task operation result accounted last
    exact ⟨accounted.1, accounted.2.returned last⟩

/-- From where a number is spent and not shown, it is never shown again. -/
theorem Spent.gone {carried : Nat}
    (starts : ∀ task operation, (program task operation).Holding numbering.Step
      ((numbering.custody number).last task operation) .nothing)
    (kept : (numbering.custody number).Held middle hand)
    (spent : numbering.Spent middle.shared hand carried) (positive : carried ≠ 0)
    (gone : numbering.shown middle.shared ≠ carried)
    (reached : Reaches program allowed middle final) :
    numbering.shown final.shared ≠ carried := by
  obtain ⟨later, -, -, gone⟩ := Custody.Held.induct (fun state _ hand =>
      numbering.Spent state hand carried ∧ numbering.shown state ≠ carried) starts
    (fun _ _ _ _ _ _ now step => ⟨now.1.step step, now.1.unshown positive now.2 step⟩)
    (fun _ _ _ _ _ _ now _ => ⟨now.1.release, now.2⟩) kept ⟨spent, gone⟩ reached
  exact gone

variable {last : Config ι σ ο ρ}

/-- **A number that the word has left never comes back.** -/
theorem never_again (starts : ∀ task operation, (program task operation).Holding numbering.Step
      ((numbering.custody number).last task operation) .nothing)
    (kept : (numbering.custody number).Held start hand)
    (accounted : Accounted numbering number start.shared start.history hand)
    (first : Reaches program allowed start middle) (second : Reaches program allowed middle final)
    (third : Reaches program allowed final last)
    (current : numbering.shown middle.shared ≠ 0)
    (left : numbering.shown final.shared ≠ numbering.shown middle.shared) :
    numbering.shown last.shared ≠ numbering.shown middle.shared := by
  obtain ⟨hand, kept, -, sound⟩ := accounted.run starts kept first
  obtain ⟨later, kept, spent⟩ := Custody.Held.induct (fun state _ hand =>
      numbering.Spent state hand (numbering.shown middle.shared)) starts
    (fun _ _ _ _ _ _ now step => now.step step) (fun _ _ _ _ _ _ now _ => now.release) kept
    (sound.current current) second
  exact spent.gone starts kept current left third

end Keep

end Numbering

end HidBot.Interleaving
