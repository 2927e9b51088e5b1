import HidBot.Route.Runs

/-!
# Route authority is never resurrected

The generation advances before a route becomes active and after it was left, so
a generation belongs to one route and is over once that route was left.
-/

namespace HidBot.Route

open Interleaving

/-- What `matches` returns in these words. -/
def Words.Matches (words : Words) (route : OutputRoute) (generation : Generation) : Prop :=
  ((matchesRoute route generation).exec words).1 = true

/-- What runs of fewer than 2^32 generation advances keep about the authority of routes. -/
structure AuthorityKept (allowed : Runs → Label Task Operation → Prop) : Prop where
  shaped : ∀ config, Reaches program allowed boot config →
    publicationBusy config.shared.core.sequence = false → config.shared.core.Shaped
  exclusive : ∀ earlier later, Reaches program allowed boot earlier →
    Reaches program allowed earlier later → later.shared.core.epoch < 2 ^ 32 →
    later.shared.core.generation = earlier.shared.core.generation →
    earlier.shared.core.active ≠ .none → later.shared.core.active ≠ .none →
    later.shared.core.active = earlier.shared.core.active
  left : ∀ matched gone later, Reaches program allowed boot matched →
    Reaches program allowed matched gone → Reaches program allowed gone later →
    later.shared.core.epoch < 2 ^ 32 → ∀ (transport : Transport) generation,
    matched.shared.Matches transport.route generation → gone.shared.core.active = .none →
    ¬later.shared.Matches transport.route generation

theorem Words.Matches.active {words : Words} {route : OutputRoute} {generation : Generation}
    (matching : words.Matches route generation) :
    words.core.active = route ∧ words.core.generation = generation := by
  unfold Words.Matches matchesRoute at matching
  rw [Program.exec_bind] at matching
  have kept : (invalidationPending.exec words).2 = words := by
    simp [invalidationPending, invalidationPendingWithoutUsbPublication, apply_ite Prod.snd]
  rw [kept] at matching
  by_cases pending : (invalidationPending.exec words).1 = true
  · simp [pending] at matching
  by_cases active : words.core.active = route
  · by_cases current : words.core.generation = generation
    · exact ⟨active, current⟩
    · simp [pending, active, current] at matching
  · simp [pending, active] at matching

/-- A route that is active has stored its generation before. -/
theorem Core.Sound.settled_of_active {core : Core} (sound : core.Sound)
    (active : core.active ≠ .none) : core.unsettled = false := by
  by_contra unsettled
  exact active (sound.settled (by simpa using unsettled))

/-- Leaving the active route ends its generation. -/
theorem Core.Advances.past {before after : Core} {generation : Generation}
    (advances : before.Advances after) (sound : before.Sound) (active : before.active ≠ .none)
    (current : generation.toNat = before.epoch) (left : after.active = .none) :
    after.Past generation := by
  rcases Nat.lt_or_eq_of_le advances.epoch with later | same
  · exact .inl (current ▸ later)
  · obtain ⟨settled, -⟩ := advances.same same.symm (sound.settled_of_active active)
    exact .inr ⟨current.trans same, left, settled⟩

theorem Core.Past.not_active {core : Core} {generation : Generation} (past : core.Past generation)
    (sound : core.Sound) (bounded : core.epoch < 2 ^ 32) (current : core.generation = generation) :
    core.active = .none := by
  have reached : generation.toNat = core.epoch := current ▸ sound.generation_eq bounded
  rcases past with earlier | ⟨-, left, -⟩
  · exact absurd reached (Nat.ne_of_lt earlier)
  · exact left

/-- **Route authority is never resurrected**, in any order of accesses of any
number of callers. -/
theorem authority_kept : AuthorityKept anyOrder where
  shaped config reached quiet := (boot_conforming.run reached).1.sound.core.shaped quiet
  exclusive earlier later reached further bounded same active again := by
    have before := (boot_conforming.run reached).1
    obtain ⟨after, advances⟩ := before.run further
    have epoch : later.shared.core.epoch = earlier.shared.core.epoch := by
      have early := before.sound.core.generation_eq (Nat.lt_of_le_of_lt advances.epoch bounded)
      have late := after.sound.core.generation_eq bounded
      rw [← early, ← late, same]
    obtain ⟨-, kept | left⟩ :=
      advances.same epoch (before.sound.core.settled_of_active active)
    · exact kept
    · exact absurd left again
  left matched gone later reached leaves further bounded transport generation matching left := by
    intro resurrected
    have before := (boot_conforming.run reached).1
    obtain ⟨between, leaving⟩ := before.run leaves
    obtain ⟨after, advances⟩ := between.run further
    obtain ⟨active, current⟩ := matching.active
    have early : matched.shared.core.epoch < 2 ^ 32 :=
      Nat.lt_of_le_of_lt (leaving.trans advances).epoch bounded
    have reached : generation.toNat = matched.shared.core.epoch :=
      current ▸ before.sound.core.generation_eq early
    have held : matched.shared.core.active ≠ .none := active ▸ transport.route_ne_none
    have past := (leaving.past before.sound.core held reached left).advances advances
    obtain ⟨again, current⟩ := resurrected.active
    exact transport.route_ne_none
      (again.symm.trans (past.not_active after.sound.core bounded current))

end HidBot.Route
