import HidBot.Interleaving.Holdings
import HidBot.Interleaving.Serial

/-!
# Records read between two looks at their number

A record is replaced by the one call that holds a reservation, which withdraws the number of
the old record first and shows its own number last. Numbers are drawn once. A reader that
finds the same number before and after it has read the record has read it all as it was at
any of its reads.
-/

namespace HidBot.Interleaving

variable {ι σ δ ο ρ : Type}

/-- The words of a record that is replaced under numbers. -/
structure Publication (σ δ : Type) where
  /-- The numbers below have been drawn. -/
  next : σ → Nat
  reserved : σ → Nat
  /-- The number whose work may be taken. -/
  due : σ → Nat
  shown : σ → Nat
  record : σ → δ

namespace Publication

/-- What a call has done with a number, or has read under one, latest first. -/
inductive Hand (σ : Type) where
  | nothing
  | drawn (number : Nat)
  | reserved (number : Nat)
  | replacing (number : Nat)
  | shown (number : Nat)
  | taken (number : Nat)
  | reading (number : Nat) (seen : List σ)

/-- The number that nobody else may have. -/
def Hand.number : Hand σ → Option Nat
  | drawn number | reserved number | replacing number | shown number | taken number => some number
  | nothing | reading .. => none

/-- The number that may still be shown. -/
def Hand.hidden : Hand σ → Option Nat
  | drawn number | reserved number | replacing number => some number
  | nothing | shown _ | taken _ | reading .. => none

/-- The number that holds the reservation. -/
def Hand.holding : Hand σ → Option Nat
  | reserved number | replacing number | shown number => some number
  | nothing | drawn _ | taken _ | reading .. => none

variable (publication : Publication σ δ)

/-- An access that leaves the numbers and the record alone, or withdraws the number. -/
structure Apart (before after : σ) : Prop where
  next : publication.next after = publication.next before
  reserved : publication.reserved after = publication.reserved before
  due : publication.due after = publication.due before
  shown : publication.shown after = publication.shown before ∨ publication.shown after = 0
  record : publication.record after = publication.record before

/-- What an access does to the words and the hand of its call. -/
inductive Step : Hand σ → σ → σ → Hand σ → Prop where
  | apart {hand : Hand σ} {before after : σ} (apart : publication.Apart before after) :
      Step hand before after hand
  | draw {before after : σ} (next : publication.next after = publication.next before + 1)
      (reserved : publication.reserved after = publication.reserved before)
      (due : publication.due after = publication.due before)
      (shown : publication.shown after = publication.shown before)
      (record : publication.record after = publication.record before) :
      Step .nothing before after (.drawn (publication.next before))
  | reserve {number : Nat} {before after : σ} (free : publication.reserved before = 0)
      (next : publication.next after = publication.next before)
      (reserved : publication.reserved after = number)
      (due : publication.due after = publication.due before)
      (shown : publication.shown after = publication.shown before)
      (record : publication.record after = publication.record before) :
      Step (.drawn number) before after (.reserved number)
  /-- The reservation is given up. -/
  | abandon {number : Nat} {before after : σ}
      (next : publication.next after = publication.next before)
      (reserved : publication.reserved after = 0)
      (due : publication.due after = publication.due before)
      (shown : publication.shown after = publication.shown before)
      (record : publication.record after = publication.record before) :
      Step (.reserved number) before after .nothing
  | withdraw {number : Nat} {before after : σ}
      (next : publication.next after = publication.next before)
      (reserved : publication.reserved after = publication.reserved before)
      (due : publication.due after = publication.due before)
      (shown : publication.shown after = 0)
      (record : publication.record after = publication.record before) :
      Step (.reserved number) before after (.replacing number)
  | replace {number : Nat} {before after : σ}
      (next : publication.next after = publication.next before)
      (reserved : publication.reserved after = publication.reserved before)
      (due : publication.due after = publication.due before)
      (shown : publication.shown after = publication.shown before) :
      Step (.replacing number) before after (.replacing number)
  | show {number : Nat} {before after : σ}
      (next : publication.next after = publication.next before)
      (reserved : publication.reserved after = publication.reserved before)
      (due : publication.due after = publication.due before)
      (shown : publication.shown after = number)
      (record : publication.record after = publication.record before) :
      Step (.replacing number) before after (.shown number)
  | offer {number : Nat} {before after : σ}
      (next : publication.next after = publication.next before)
      (reserved : publication.reserved after = publication.reserved before)
      (due : publication.due after = number)
      (shown : publication.shown after = publication.shown before)
      (record : publication.record after = publication.record before) :
      Step (.shown number) before after .nothing
  | take {before after : σ} (some : publication.due before ≠ 0)
      (next : publication.next after = publication.next before)
      (reserved : publication.reserved after = publication.reserved before)
      (due : publication.due after = 0)
      (shown : publication.shown after = publication.shown before)
      (record : publication.record after = publication.record before) :
      Step .nothing before after (.taken (publication.due before))
  | finish {number : Nat} {before after : σ}
      (next : publication.next after = publication.next before)
      (reserved : publication.reserved after =
        if publication.reserved before = number then 0 else publication.reserved before)
      (due : publication.due after = publication.due before)
      (shown : publication.shown after = publication.shown before)
      (record : publication.record after = publication.record before) :
      Step (.taken number) before after .nothing
  /-- The first look at the number. -/
  | first {state : σ} (current : publication.shown state ≠ 0) :
      Step .nothing state state (.reading (publication.shown state) [state])
  | look {number : Nat} {seen : List σ} {state : σ} :
      Step (.reading number seen) state state (.reading number (state :: seen))

/-- The number has been drawn, and no call can show it any more. -/
structure Spent (state : σ) (hand : ι → Hand σ) (number : Nat) : Prop where
  drawn : number < publication.next state
  unhidden : ∀ task, (hand task).hidden ≠ some number

/-- If the number was still shown, the record of an earlier moment was the same. -/
def Agrees (number : Nat) (newer older : σ) : Prop :=
  publication.shown newer = number →
    publication.shown older = number ∧ publication.record older = publication.record newer

/-- What every access keeps of the words and the hands. -/
structure Sound (state : σ) (hand : ι → Hand σ) : Prop where
  positive : 0 < publication.next state
  owned : ∀ task number, (hand task).number = some number →
    number ≠ 0 ∧ number < publication.next state ∧
      ∀ other, (hand other).number = some number → other = task
  holding : ∀ task number, (hand task).holding = some number →
    publication.reserved state = number
  due : publication.due state ≠ 0 → publication.due state < publication.next state ∧
    ∀ task, (hand task).number ≠ some (publication.due state)
  current : publication.shown state ≠ 0 →
    publication.Spent state hand (publication.shown state)
  replacing : ∀ task number, hand task = .replacing number → publication.shown state = 0
  reading : ∀ task number seen, hand task = .reading number seen →
    number ≠ 0 ∧ publication.Spent state hand number ∧
      (∀ older ∈ seen, publication.Agrees number state older) ∧
        seen.Pairwise (publication.Agrees number)

variable {publication} {before after : σ} {hand : ι → Hand σ} {task : ι} {later : Hand σ}

theorem Apart.refl (state : σ) : publication.Apart state state :=
  ⟨rfl, rfl, rfl, .inl rfl, rfl⟩

theorem Hand.number_of_hidden {own : Hand σ} {number : Nat} (hidden : own.hidden = some number) :
    own.number = some number := by
  cases own <;> simp_all [Hand.hidden, Hand.number]

theorem Hand.number_of_holding {own : Hand σ} {number : Nat}
    (holding : own.holding = some number) : own.number = some number := by
  cases own <;> simp_all [Hand.holding, Hand.number]

theorem Step.next_le {held : Hand σ} (step : publication.Step held before after later) :
    publication.next before ≤ publication.next after := by
  cases step with
  | apart apart => exact Nat.le_of_eq apart.next.symm
  | draw next => omega
  | first | look => exact Nat.le_refl _
  | _ => exact Nat.le_of_eq (Eq.symm ‹publication.next after = _›)

/-- The numbers of the acting call stay, or it draws the next one or takes the one due. -/
theorem Step.number_cases {held : Hand σ} (step : publication.Step held before after later) :
    later.number = held.number ∨ later.number = none ∨
      later.number = some (publication.next before) ∧
        publication.next after = publication.next before + 1 ∨
      later.number = some (publication.due before) ∧ publication.due before ≠ 0 ∧
        publication.due after = 0 := by
  cases step with
  | draw next => exact .inr (.inr (.inl ⟨rfl, next⟩))
  | take some next reserved due => exact .inr (.inr (.inr ⟨rfl, some, due⟩))
  | abandon | offer | finish => exact .inr (.inl rfl)
  | _ => exact .inl rfl

theorem Step.hidden_cases {held : Hand σ} (step : publication.Step held before after later) :
    later.hidden = held.hidden ∨ later.hidden = none ∨
      later.hidden = some (publication.next before) := by
  cases step with
  | draw => exact .inr (.inr rfl)
  | abandon | «show» => exact .inr (.inl rfl)
  | _ => exact .inl rfl

section Keep

variable [DecidableEq ι]

theorem Spent.step {number : Nat} (spent : publication.Spent before hand number)
    (step : publication.Step (hand task) before after later) :
    publication.Spent after (Function.update hand task later) number := by
  refine ⟨Nat.lt_of_lt_of_le spent.drawn step.next_le, fun other => ?_⟩
  by_cases same : other = task
  · subst same
    rw [Function.update_self]
    rcases step.hidden_cases with kept | none | drawn
    · exact kept ▸ spent.unhidden other
    · rw [none]
      exact Option.some_ne_none _ ∘ Eq.symm
    · intro hidden
      exact absurd (Option.some.inj (drawn.symm.trans hidden)) (Nat.ne_of_gt spent.drawn)
  · rw [Function.update_of_ne same]
    exact spent.unhidden other

/-- A number in a hand after the step was there before, or is new to all hands. -/
theorem Sound.number_before (sound : publication.Sound before hand)
    (step : publication.Step (hand task) before after later) (other : ι) (number : Nat)
    (found : (Function.update hand task later other).number = some number) :
    (hand other).number = some number ∨
      other = task ∧ number ≠ 0 ∧ number < publication.next after ∧
        ∀ third, (hand third).number ≠ some number := by
  by_cases same : other = task
  · subst same
    rw [Function.update_self] at found
    rcases step.number_cases with kept | none | ⟨drawn, next⟩ | ⟨taken, nonzero, -⟩
    · exact .inl (kept ▸ found)
    · cases none.symm.trans found
    · obtain rfl : publication.next before = number := Option.some.inj (drawn.symm.trans found)
      refine .inr ⟨rfl, Nat.ne_of_gt sound.positive, by omega, fun third holds => ?_⟩
      exact Nat.lt_irrefl _ (sound.owned third _ holds).2.1
    · obtain rfl : publication.due before = number := Option.some.inj (taken.symm.trans found)
      obtain ⟨below, unheld⟩ := sound.due nonzero
      exact .inr ⟨rfl, nonzero, Nat.lt_of_lt_of_le below step.next_le, unheld⟩
  · exact .inl (by rwa [Function.update_of_ne same] at found)

theorem Sound.owned_step (sound : publication.Sound before hand)
    (step : publication.Step (hand task) before after later) (other : ι) (number : Nat)
    (found : (Function.update hand task later other).number = some number) :
    number ≠ 0 ∧ number < publication.next after ∧
      ∀ third, (Function.update hand task later third).number = some number → third = other := by
  rcases sound.number_before step other number found with old | ⟨rfl, nonzero, below, unheld⟩
  · obtain ⟨nonzero, below, alone⟩ := sound.owned other number old
    refine ⟨nonzero, Nat.lt_of_lt_of_le below step.next_le, fun third shares => ?_⟩
    rcases sound.number_before step third number shares with before | ⟨-, -, -, unheld⟩
    · exact alone third before
    · exact absurd old (unheld other)
  · refine ⟨nonzero, below, fun third shares => ?_⟩
    rcases sound.number_before step third number shares with before | ⟨rfl, -⟩
    · exact absurd before (unheld third)
    · rfl

/-- The reservation is only given up by the call that has its number. -/
theorem Sound.holding_step (sound : publication.Sound before hand)
    (step : publication.Step (hand task) before after later) (other : ι) (number : Nat)
    (found : (Function.update hand task later other).holding = some number) :
    publication.reserved after = number := by
  by_cases same : other = task
  · subst same
    rw [Function.update_self] at found
    have holding := sound.holding other
    generalize hand other = own at step holding
    cases step with
    | apart apart => exact apart.reserved.trans (holding _ found)
    | reserve free next reserved => exact reserved.trans (Option.some.inj found)
    | withdraw next reserved | «show» next reserved =>
        exact reserved.trans (holding _ found)
    | replace next reserved => exact reserved.trans (holding _ found)
    | _ => cases found
  · rw [Function.update_of_ne same] at found
    have kept := sound.holding other number found
    obtain ⟨nonzero, -, alone⟩ := sound.owned other number (Hand.number_of_holding found)
    have unshared (shared : Nat) (own : (hand task).number = some shared) : number ≠ shared := by
      rintro rfl
      exact same (alone task own).symm
    have mine := sound.holding task
    generalize hand task = own at step unshared mine
    cases step with
    | apart apart => exact apart.reserved.trans kept
    | reserve free => exact absurd (kept.symm.trans free) nonzero
    | abandon => exact absurd (kept.symm.trans (mine _ rfl)) (unshared _ rfl)
    | finish next reserved => rw [reserved, if_neg (kept.symm ▸ unshared _ rfl), kept]
    | first | look => exact kept
    | draw next reserved | take some next reserved => exact reserved.trans kept
    | withdraw next reserved | replace next reserved | «show» next reserved
    | offer next reserved => exact reserved.trans kept

theorem Sound.due_step (sound : publication.Sound before hand)
    (step : publication.Step (hand task) before after later) (nonzero : publication.due after ≠ 0) :
    publication.due after < publication.next after ∧
      ∀ other, (Function.update hand task later other).number ≠ some (publication.due after) := by
  -- The due number stays, or the acting call offers the one that it has shown.
  have cases : publication.due after = publication.due before ∨
      hand task = .shown (publication.due after) ∧ later = .nothing ∧
        publication.next after = publication.next before := by
    generalize hand task = own at step
    cases step with
    | apart apart => exact .inl apart.due
    | offer next reserved due => exact .inr ⟨due ▸ rfl, rfl, next⟩
    | take some next reserved due => exact absurd due nonzero
    | first | look => exact .inl rfl
    | reserve free next reserved due => exact .inl due
    | _ => exact .inl ‹publication.due after = publication.due before›
  rcases cases with same | ⟨shown, rfl, next⟩
  · rw [same] at nonzero ⊢
    obtain ⟨below, unheld⟩ := sound.due nonzero
    refine ⟨Nat.lt_of_lt_of_le below step.next_le, fun other found => ?_⟩
    rcases sound.number_before step other _ found with old | ⟨rfl, -, -, -⟩
    · exact unheld other old
    · rw [Function.update_self] at found
      rcases step.number_cases with kept | none | ⟨drawn, -⟩ | ⟨-, -, gone⟩
      · exact unheld other (kept ▸ found)
      · cases none.symm.trans found
      · exact Nat.ne_of_gt below (Option.some.inj (drawn.symm.trans found))
      · exact nonzero (same.symm.trans gone)
  · obtain ⟨-, below, alone⟩ := sound.owned task (publication.due after) (by rw [shown]; rfl)
    refine ⟨next ▸ below, fun other found => ?_⟩
    by_cases mine : other = task
    · subst mine
      simp [Hand.number] at found
    · rw [Function.update_of_ne mine] at found
      exact mine (alone other found)

theorem Sound.current_step (sound : publication.Sound before hand)
    (step : publication.Step (hand task) before after later)
    (nonzero : publication.shown after ≠ 0) :
    publication.Spent after (Function.update hand task later) (publication.shown after) := by
  have cases : publication.shown after = publication.shown before ∨
      hand task = .replacing (publication.shown after) ∧
        later = .shown (publication.shown after) := by
    generalize hand task = own at step
    cases step with
    | apart apart => exact .inl (apart.shown.resolve_right nonzero)
    | withdraw next reserved due shown => exact absurd shown nonzero
    | «show» next reserved due shown => exact .inr ⟨shown ▸ rfl, shown ▸ rfl⟩
    | first | look => exact .inl rfl
    | _ => exact .inl ‹publication.shown after = publication.shown before›
  rcases cases with same | ⟨replacing, rfl⟩
  · rw [same] at nonzero ⊢
    exact (sound.current nonzero).step step
  · obtain ⟨-, below, alone⟩ :=
      sound.owned task (publication.shown after) (by rw [replacing]; rfl)
    refine ⟨Nat.lt_of_lt_of_le below step.next_le, fun other hidden => ?_⟩
    by_cases mine : other = task
    · subst mine
      simp [Hand.hidden] at hidden
    · rw [Function.update_of_ne mine] at hidden
      exact mine (alone other (Hand.number_of_hidden hidden))

/-- Nobody else shows a number while a call replaces the record. -/
theorem Sound.replacing_step (sound : publication.Sound before hand)
    (step : publication.Step (hand task) before after later) (other : ι) (number : Nat)
    (found : Function.update hand task later other = .replacing number) :
    publication.shown after = 0 := by
  by_cases same : other = task
  · subst same
    rw [Function.update_self] at found
    subst found
    have zero := sound.replacing other
    generalize hand other = own at step zero
    cases step with
    | apart apart => exact apart.shown.elim (·.trans (zero _ rfl)) id
    | withdraw next reserved due shown => exact shown
    | replace next reserved due shown => exact shown.trans (zero _ rfl)
  · rw [Function.update_of_ne same] at found
    have zero := sound.replacing other number found
    obtain ⟨-, -, alone⟩ := sound.owned other number (by rw [found]; rfl)
    have held := sound.holding other number (by rw [found]; rfl)
    have mine := sound.holding task
    have unshared (shared : Nat) (own : (hand task).number = some shared) : number ≠ shared := by
      rintro rfl
      exact same (alone task own).symm
    generalize hand task = own at step mine unshared
    cases step with
    | apart apart => exact apart.shown.elim (·.trans zero) id
    | withdraw next reserved due shown => exact shown
    | «show» => exact absurd (held.symm.trans (mine _ rfl)) (unshared _ rfl)
    | first | look => exact zero
    | _ => exact (‹publication.shown after = publication.shown before›).trans zero

omit [DecidableEq ι] in
/-- A record that is still shown under its number has not been replaced. -/
theorem Sound.agrees_step (sound : publication.Sound before hand)
    (step : publication.Step (hand task) before after later) {number : Nat} (nonzero : number ≠ 0)
    (spent : publication.Spent before hand number) : publication.Agrees number after before := by
  intro shown
  have replacing := sound.replacing task
  have unhidden := spent.unhidden task
  generalize hand task = own at step replacing unhidden
  cases step with
  | apart apart =>
      have same := apart.shown.resolve_right (shown.symm ▸ nonzero)
      exact ⟨same ▸ shown, apart.record.symm⟩
  | withdraw next reserved due gone => exact absurd (shown.symm.trans gone) nonzero
  | replace next reserved due same =>
      exact absurd (shown.symm.trans (same.trans (replacing _ rfl))) nonzero
  | «show» next reserved due mine =>
      exact absurd (congrArg some (mine.symm.trans shown)) unhidden
  | first | look => exact ⟨shown, rfl⟩
  | _ =>
      exact ⟨(‹publication.shown after = publication.shown before›) ▸ shown,
        (‹publication.record after = publication.record before›).symm⟩

theorem Agrees.trans {number : Nat} {newest newer older : σ}
    (one : publication.Agrees number newest newer) (two : publication.Agrees number newer older) :
    publication.Agrees number newest older := by
  intro shown
  obtain ⟨shown, same⟩ := one shown
  obtain ⟨shown, same'⟩ := two shown
  exact ⟨shown, same'.trans same⟩

theorem Sound.reading_step (sound : publication.Sound before hand)
    (step : publication.Step (hand task) before after later) (other : ι) (number : Nat)
    (seen : List σ) (found : Function.update hand task later other = .reading number seen) :
    number ≠ 0 ∧ publication.Spent after (Function.update hand task later) number ∧
      (∀ older ∈ seen, publication.Agrees number after older) ∧
        seen.Pairwise (publication.Agrees number) := by
  have kept (before' : hand other = .reading number seen) :
      number ≠ 0 ∧ publication.Spent after (Function.update hand task later) number ∧
        (∀ older ∈ seen, publication.Agrees number after older) ∧
          seen.Pairwise (publication.Agrees number) := by
    obtain ⟨nonzero, spent, agrees, pairwise⟩ := sound.reading other number seen before'
    exact ⟨nonzero, spent.step step, fun older member =>
      (sound.agrees_step step nonzero spent).trans (agrees older member), pairwise⟩
  by_cases same : other = task
  · subst same
    rw [Function.update_self] at found
    subst found
    have moved := step
    generalize own : hand other = held at moved
    cases moved with
    | apart => exact kept own
    | first current =>
        refine ⟨current, (sound.current current).step step, ?_, List.pairwise_singleton _ _⟩
        rintro older member
        obtain rfl := List.mem_singleton.mp member
        exact fun shown => ⟨shown, rfl⟩
    | look =>
        obtain ⟨nonzero, spent, agrees, pairwise⟩ := sound.reading other number _ own
        refine ⟨nonzero, spent.step step, fun older member => ?_,
          List.pairwise_cons.mpr ⟨agrees, pairwise⟩⟩
        rcases List.mem_cons.mp member with rfl | earlier
        · exact fun shown => ⟨shown, rfl⟩
        · exact agrees older earlier
  · exact kept (by rwa [Function.update_of_ne same] at found)

/-- **Every access keeps the words and the hands sound.** -/
theorem Sound.step (sound : publication.Sound before hand)
    (step : publication.Step (hand task) before after later) :
    publication.Sound after (Function.update hand task later) where
  positive := Nat.lt_of_lt_of_le sound.positive step.next_le
  owned := sound.owned_step step
  holding := sound.holding_step step
  due := sound.due_step step
  current := sound.current_step step
  replacing := sound.replacing_step step
  reading := sound.reading_step step

/-- A return gives up the hand. -/
theorem Spent.release {number : Nat} (spent : publication.Spent before hand number) :
    publication.Spent before (Function.update hand task .nothing) number := by
  refine ⟨spent.drawn, fun other hidden => ?_⟩
  by_cases same : other = task
  · subst same
    simp [Hand.hidden] at hidden
  · exact spent.unhidden other (by rwa [Function.update_of_ne same] at hidden)

theorem Sound.release (sound : publication.Sound before hand) :
    publication.Sound before (Function.update hand task .nothing) := by
  have fewer {α : Type} (view : Hand σ → Option α) (none : view .nothing = none) (other : ι)
      (value : α) (found : view (Function.update hand task .nothing other) = some value) :
      view (hand other) = some value := by
    by_cases same : other = task
    · subst same
      rw [Function.update_self, none] at found
      cases found
    · rwa [Function.update_of_ne same] at found
  have still (other : ι) (own : Hand σ) (apart : own ≠ .nothing)
      (found : Function.update hand task .nothing other = own) : hand other = own := by
    by_cases same : other = task
    · subst same
      rw [Function.update_self] at found
      exact absurd found.symm apart
    · rwa [Function.update_of_ne same] at found
  refine ⟨sound.positive, fun other number found => ?_, fun other number found => ?_,
    fun nonzero => ?_, fun nonzero => (sound.current nonzero).release,
    fun other number found => ?_, fun other number seen found => ?_⟩
  · obtain ⟨nonzero, below, alone⟩ := sound.owned other number (fewer _ rfl other number found)
    exact ⟨nonzero, below, fun third shares => alone third (fewer _ rfl third number shares)⟩
  · exact sound.holding other number (fewer _ rfl other number found)
  · obtain ⟨below, unheld⟩ := sound.due nonzero
    exact ⟨below, fun other found => unheld other (fewer _ rfl other _ found)⟩
  · exact sound.replacing other number (still other _ nofun found)
  · obtain ⟨nonzero, spent, agrees, pairwise⟩ :=
      sound.reading other number seen (still other _ nofun found)
    exact ⟨nonzero, spent.release, agrees, pairwise⟩

end Keep

/-! ### Runs -/

/-- No number is shown, due or in a hand. -/
theorem sound_initial (positive : 0 < publication.next before)
    (undue : publication.due before = 0) (unshown : publication.shown before = 0) :
    publication.Sound before fun _ : ι => .nothing where
  positive := positive
  owned _ _ found := by simp [Hand.number] at found
  holding _ _ found := by simp [Hand.holding] at found
  due nonzero := absurd undue nonzero
  current nonzero := absurd unshown nonzero
  replacing _ _ found := by cases found
  reading _ _ _ found := by cases found

end Publication

/-- The call of the task and its result, if all that is left of it is to return. -/
def Config.returning (config : Config ι σ ο ρ) (task : ι) : Option (ο × ρ) :=
  match config.running task with
  | some (operation, .done result) => some (operation, result)
  | _ => none

theorem Config.running_of_returning {config : Config ι σ ο ρ} {task : ι} {operation : ο}
    {result : ρ} (found : config.returning task = some (operation, result)) :
    config.running task = some (operation, .done result) := by
  unfold returning at found
  split at found
  · cases found
    assumption
  · cases found

/-- The task is in one call from the first configuration to the second. -/
structure During [DecidableEq ι] (program : ι → ο → Program σ ρ)
    (allowed : Config ι σ ο ρ → Label ι ο → Prop) (task : ι) (operation : ο)
    (moment config : Config ι σ ο ρ) : Prop where
  reached : Reaches program allowed moment config
  calling : ∃ call, moment.running task = some (operation, call)
  same : callsBy task config.history = callsBy task moment.history

section During

variable [DecidableEq ι] {program : ι → ο → Program σ ρ}
  {allowed : Config ι σ ο ρ → Label ι ο → Prop} {task : ι}

theorem During.own {config : Config ι σ ο ρ} {operation : ο} {call : Program σ ρ}
    (running : config.running task = some (operation, call)) :
    During program allowed task operation config config :=
  ⟨.refl, ⟨call, running⟩, rfl⟩

theorem During.then {moment config next : Config ι σ ο ρ} {operation : ο}
    (during : During program allowed task operation moment config)
    (one : Reaches program allowed config next)
    (same : callsBy task next.history = callsBy task config.history) :
    During program allowed task operation moment next :=
  ⟨during.reached.trans one, during.calling, same.trans during.same⟩

end During

namespace Publication

variable [DecidableEq ι] {publication : Publication σ δ} {program : ι → ο → Program σ ρ}
  {allowed : Config ι σ ο ρ → Label ι ο → Prop} {start middle final : Config ι σ ο ρ}
  {hand : ι → Hand σ} {task : ι} {number : Nat}

variable (publication) in
/-- The calls whose returns `last` judges by what they have read. -/
def custody (last : ι → ο → Hand σ → ρ → Prop) : Custody ι σ ο ρ (Hand σ) where
  step := publication.Step
  last := last
  nothing := .nothing

/-- What a reader has seen was there during its call. -/
def Witnessed (program : ι → ο → Program σ ρ) (allowed : Config ι σ ο ρ → Label ι ο → Prop)
    (start config : Config ι σ ο ρ) (hand : ι → Hand σ) : Prop :=
  ∀ task number seen, hand task = .reading number seen →
    ∃ operation call, config.running task = some (operation, call) ∧ ∀ state ∈ seen,
      ∃ moment : Config ι σ ο ρ, Reaches program allowed start moment ∧ moment.shared = state ∧
        During program allowed task operation moment config

variable {last : ι → ο → Hand σ → ρ → Prop}

/-- A step in which the call of a reader goes on. -/
theorem Witnessed.then {config next : Config ι σ ο ρ} {later : ι → Hand σ}
    (witnessed : Witnessed program allowed start config hand)
    (one : Reaches program allowed config next)
    (kept : ∀ task number seen, later task = .reading number seen →
      ∃ operation call, next.running task = some (operation, call) ∧
        callsBy task next.history = callsBy task config.history ∧ ∀ state ∈ seen,
          (∃ number seen, hand task = .reading number seen ∧ state ∈ seen ∧
            ∃ call, config.running task = some (operation, call)) ∨
          (Reaches program allowed start config ∧ config.shared = state ∧
            ∃ call, config.running task = some (operation, call))) :
    Witnessed program allowed start next later := by
  intro task number seen found
  obtain ⟨operation, call, running, same, states⟩ := kept task number seen found
  refine ⟨operation, call, running, fun state member => ?_⟩
  rcases states state member with ⟨number, seen, reading, earlier, before, calling⟩ |
    ⟨reached, here, before, calling⟩
  · obtain ⟨operation', call', running', moments⟩ := witnessed task number seen reading
    obtain ⟨rfl, rfl⟩ := by simpa using running'.symm.trans calling
    obtain ⟨moment, reached, here, during⟩ := moments state earlier
    exact ⟨moment, reached, here, during.then one same⟩
  · exact ⟨config, reached, here, (During.own calling).then one same⟩

variable {last : ι → ο → Hand σ → ρ → Prop}

/-- **Every run keeps the words and the hands sound, and what was read was there.** -/
theorem Sound.run (starts : ∀ config task operation, allowed config (.call task operation) →
      (program task operation).Holding publication.Step (last task operation) .nothing)
    (kept : (publication.custody last).Held start hand)
    (sound : publication.Sound start.shared hand)
    (witnessed : Witnessed program allowed start start hand)
    (reached : Reaches program allowed start final) :
    ∃ later, (publication.custody last).Held final later ∧
      publication.Sound final.shared later ∧ Witnessed program allowed start final later := by
  have every : ∃ later, (publication.custody last).Held final later ∧
      Reaches program allowed start final ∧ publication.Sound final.shared later ∧
        Witnessed program allowed start final later := by
    refine Custody.Held.follow (fun config hand => Reaches program allowed start config ∧
      publication.Sound config.shared hand ∧ Witnessed program allowed start config hand) starts
        ?_ ?_ ?_ kept ⟨.refl, sound, witnessed⟩ reached
    · rintro config next hand task operation one - idle rfl ⟨reached, sound, witnessed⟩
      refine ⟨reached.trans one, sound, witnessed.then one fun other number seen found => ?_⟩
      have apart : other ≠ task := by
        rintro rfl
        cases idle.symm.trans found
      obtain ⟨operation, call, running, -⟩ := witnessed other number seen found
      exact ⟨operation, call, by simpa [apart] using running, rfl, fun state member =>
        .inl ⟨number, seen, found, member, call, running⟩⟩
    · rintro config next hand task operation update rest moved one calling rfl step
        ⟨reached, sound, witnessed⟩
      refine ⟨reached.trans one, sound.step step, witnessed.then one
        fun other number seen found => ?_⟩
      by_cases same : other = task
      · subst same
        refine ⟨operation, rest config.shared, by simp, rfl, fun state member => ?_⟩
        have calls : ∃ call, config.running other = some (operation, call) := ⟨_, calling⟩
        rw [Function.update_self] at found
        subst found
        generalize hand other = held at step ⊢
        generalize update config.shared = after at step
        generalize config.shared = now at step ⊢
        cases step with
        | apart => exact .inl ⟨number, seen, rfl, member, calls⟩
        | first =>
            obtain rfl := List.mem_singleton.mp member
            exact .inr ⟨reached, rfl, calls⟩
        | look =>
            rcases List.mem_cons.mp member with rfl | earlier
            · exact .inr ⟨reached, rfl, calls⟩
            · exact .inl ⟨number, _, rfl, earlier, calls⟩
      · rw [Function.update_of_ne same] at found
        obtain ⟨operation, call, running, -⟩ := witnessed other number seen found
        exact ⟨operation, call, by simpa [same] using running, rfl, fun state member =>
          .inl ⟨number, seen, found, member, call, running⟩⟩
    · rintro config next hand task operation result one calling rfl - ⟨reached, sound, witnessed⟩
      refine ⟨reached.trans one, sound.release, witnessed.then one
        fun other number seen found => ?_⟩
      have apart : other ≠ task := by
        rintro rfl
        cases (Function.update_self other _ hand).symm.trans found
      rw [Function.update_of_ne apart] at found
      obtain ⟨operation, call, running, -⟩ := witnessed other number seen found
      refine ⟨operation, call, by simpa [apart] using running, ?_, fun state member =>
        .inl ⟨number, seen, found, member, call, running⟩⟩
      simp [callsBy, apart.symm]
  obtain ⟨later, held, -, sound, witnessed⟩ := every
  exact ⟨later, held, sound, witnessed⟩

/-- **A record is the same whenever it is shown under one number.** -/
theorem Sound.record_of_number
    (starts : ∀ config task operation, allowed config (.call task operation) →
      (program task operation).Holding publication.Step (last task operation) .nothing)
    (kept : (publication.custody last).Held middle hand)
    (sound : publication.Sound middle.shared hand)
    (reached : Reaches program allowed middle final)
    (current : publication.shown middle.shared ≠ 0) :
    publication.Agrees (publication.shown middle.shared) final.shared middle.shared := by
  have every : ∃ later, (publication.custody last).Held final later ∧
      publication.Sound final.shared later ∧
        publication.Spent final.shared later (publication.shown middle.shared) ∧
          publication.Agrees (publication.shown middle.shared) final.shared middle.shared := by
    refine Custody.Held.follow (fun config hand => publication.Sound config.shared hand ∧
      publication.Spent config.shared hand (publication.shown middle.shared) ∧
        publication.Agrees (publication.shown middle.shared) config.shared middle.shared) starts
          ?_ ?_ ?_ kept ⟨sound, sound.current current, fun shown => ⟨shown, rfl⟩⟩ reached
    · rintro config next hand task operation - - - rfl now
      exact now
    · rintro config next hand task operation update rest later - - rfl step
        ⟨sound, spent, agrees⟩
      exact ⟨sound.step step, spent.step step, (sound.agrees_step step current spent).trans agrees⟩
    · rintro config next hand task operation result - - rfl - ⟨sound, spent, agrees⟩
      exact ⟨sound.release, spent.release, agrees⟩
  obtain ⟨later, -, -, -, agrees⟩ := every
  exact agrees

omit [DecidableEq ι] in
/-- What a reader has seen that finds its number again. -/
theorem Sound.read_at_once {state newest : σ} {seen : List σ}
    (sound : publication.Sound state hand) (reading : hand task = .reading number (newest :: seen))
    (again : publication.shown newest = number) :
    ∀ older ∈ seen, publication.shown older = number ∧
      publication.record older = publication.record newest := by
  obtain ⟨-, -, -, pairwise⟩ := sound.reading task number _ reading
  exact fun older member => (List.pairwise_cons.mp pairwise).1 older member again

end Publication

end HidBot.Interleaving
