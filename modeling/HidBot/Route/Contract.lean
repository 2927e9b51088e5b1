import HidBot.Route.Machine
import HidBot.Interleaving.Rely

/-!
# The contract of route callers

Callers rely on the writer flag: what the writer has loaded stays, and nobody
else becomes or stops being the writer for it. A caller that has published a
durable invalidation owes an attempt to become the writer, so at any time an
unconsumed invalidation is owed by a caller or will be found by the writer.
-/

namespace HidBot.Route

open Interleaving

/-! ### The route words -/

/-- The route fields fit together. -/
structure Core.Shaped (core : Core) : Prop where
  releasing : core.transition = .releasing → core.desired = .none ∧ core.active ≠ .none
  stable : core.transition = .stable → core.desired = core.active

structure Core.Sound (core : Core) : Prop where
  shaped : publicationBusy core.sequence = false → core.Shaped
  settled : core.unsettled = true → core.active = .none
  generation : core.generation = UInt32.ofNat core.epoch

/-- No publication is in progress. -/
structure Core.AtRest (core : Core) : Prop where
  quiet : publicationBusy core.sequence = false
  settled : core.unsettled = false

/-- A generation whose commit is over can only be left. -/
structure Core.Advances (before after : Core) : Prop where
  epoch : before.epoch ≤ after.epoch
  same : after.epoch = before.epoch → before.unsettled = false →
    after.unsettled = false ∧ (after.active = before.active ∨ after.active = .none)

theorem Core.Advances.refl (core : Core) : core.Advances core :=
  ⟨Nat.le_refl _, fun _ settled => ⟨settled, .inl rfl⟩⟩

theorem Core.Advances.trans {first second third : Core} (one : first.Advances second)
    (two : second.Advances third) : first.Advances third := by
  refine ⟨Nat.le_trans one.epoch two.epoch, fun same settled => ?_⟩
  have middle : second.epoch = first.epoch :=
    Nat.le_antisymm (same ▸ two.epoch) one.epoch
  obtain ⟨settled, active⟩ := one.same middle settled
  obtain ⟨settled, later⟩ := two.same (same.trans middle.symm) settled
  refine ⟨settled, ?_⟩
  rcases later with kept | left
  · exact active.imp kept.trans kept.trans
  · exact .inr left

/-- The generation is over: it is no longer the current one, or its route was left. -/
def Core.Past (generation : Generation) (core : Core) : Prop :=
  generation.toNat < core.epoch ∨
    generation.toNat = core.epoch ∧ core.active = .none ∧ core.unsettled = false

theorem Core.Past.advances {generation : Generation} {before after : Core}
    (past : before.Past generation) (advances : before.Advances after) :
    after.Past generation := by
  rcases past with earlier | ⟨current, left, settled⟩
  · exact .inl (Nat.lt_of_lt_of_le earlier advances.epoch)
  · rcases Nat.lt_or_eq_of_le advances.epoch with later | same
    · exact .inl (current ▸ later)
    · obtain ⟨settled, active⟩ := advances.same same.symm settled
      exact .inr ⟨current.trans same, active.elim (·.trans left) id, settled⟩

theorem Core.Sound.generation_le {core : Core} (sound : core.Sound) :
    core.generation.toNat ≤ core.epoch := by
  rw [sound.generation, UInt32.toNat_ofNat']
  exact Nat.mod_le _ _

theorem Core.Sound.generation_eq {core : Core} (sound : core.Sound)
    (bounded : core.epoch < 2 ^ 32) : core.generation.toNat = core.epoch := by
  rw [sound.generation, UInt32.toNat_ofNat', Nat.mod_eq_of_lt bounded]

/-! ### All words -/

/-- The durable request is owed or will be found, and every accepted request that
is not the durable one is over. -/
structure DurableSound (words : Words) : Prop where
  found : words.durableState = .active →
    (∃ task, words.record.owes task = true) ∨
      words.writer ≠ .none ∧ words.record.leaving = false
  requests : ∀ generation ∈ words.record.requests, words.core.Past generation ∨
    words.durableState ≠ .none ∧ words.durableGeneration = generation
  target : words.durableState = .active → words.durableGeneration.toNat ≤ words.core.epoch
  consumed : words.durableState = .none → words.core.Past words.durableGeneration

structure Words.Sound (words : Words) : Prop where
  core : words.core.Sound
  idle : words.writer = .none → words.core.AtRest
  claim : ∀ task claim, words.claim = some (task, claim) → words.writer = some task
  publisher : ∀ task, words.record.publisher = some task →
    words.durableState = .publishing ∧ words.record.owes task = true
  publishing : words.durableState = .publishing → words.record.publisher ≠ .none
  durable : words.record.lost = false → words.core.epoch < 2 ^ 32 → DurableSound words

/-- What the others may do between two accesses of a caller. -/
structure Interference (task : Task) (before after : Words) : Prop where
  sound : before.Sound → after.Sound
  advances : before.core.Advances after.core
  lost : before.record.lost = true → after.record.lost = true
  owes : after.record.owes task = before.record.owes task
  outside : before.writer ≠ some task → after.writer ≠ some task
  held : before.writer = some task → after.writer = some task ∧ after.core = before.core ∧
    after.record.leaving = before.record.leaving ∧ after.claim = before.claim
  durable : before.writer = some task → before.durableState = .active →
    after.durableState = .active ∧ after.durableGeneration = before.durableGeneration
  publisher : before.record.publisher = some task → after.record.publisher = some task ∧
    after.durableState = before.durableState ∧ after.durableGeneration = before.durableGeneration
  unpublished : before.record.publisher ≠ some task → after.record.publisher ≠ some task

theorem Interference.refl (task : Task) (words : Words) : Interference task words words where
  sound := id
  advances := .refl _
  lost := id
  owes := rfl
  outside := id
  held writer := ⟨writer, rfl, rfl, rfl⟩
  durable _ active := ⟨active, rfl⟩
  publisher publisher := ⟨publisher, rfl, rfl⟩
  unpublished := id

theorem Interference.trans {task : Task} {first second third : Words}
    (one : Interference task first second) (two : Interference task second third) :
    Interference task first third where
  sound := two.sound ∘ one.sound
  advances := one.advances.trans two.advances
  lost := two.lost ∘ one.lost
  owes := two.owes.trans one.owes
  outside := two.outside ∘ one.outside
  held writer := by
    obtain ⟨writer, core, leaving, claim⟩ := one.held writer
    obtain ⟨writer, core', leaving', claim'⟩ := two.held writer
    exact ⟨writer, core'.trans core, leaving'.trans leaving, claim'.trans claim⟩
  durable writer active := by
    obtain ⟨active, target⟩ := one.durable writer active
    obtain ⟨active, target'⟩ := two.durable (one.held writer).1 active
    exact ⟨active, target'.trans target⟩
  publisher publisher := by
    obtain ⟨publisher, state, target⟩ := one.publisher publisher
    obtain ⟨publisher, state', target'⟩ := two.publisher publisher
    exact ⟨publisher, state'.trans state, target'.trans target⟩
  unpublished := two.unpublished ∘ one.unpublished

/-- What an access of a caller is to every other caller. -/
def Promise (task : Task) (before after : Words) : Prop :=
  ∀ other, other ≠ task → Interference other before after

theorem Promise.refl (task : Task) (words : Words) : Promise task words words :=
  fun other _ => .refl other words

/-! ### Where a caller stands -/

/-- The caller holds an exact claim between two calls. -/
structure Holds (task : Task) (words : Words) : Prop where
  claim : ∃ claim, words.claim = some (task, claim)
  atRest : words.core.AtRest
  leaving : words.record.leaving = false

/-- The caller is not the writer, or holds a claim from an earlier call. -/
structure Outside (task : Task) (owes : Bool) (words : Words) : Prop where
  sound : words.Sound
  owes : words.record.owes task = owes
  publisher : words.record.publisher ≠ some task
  holds : words.writer = some task → Holds task words

/-- The caller is the writer of these route words and has not made the last
check, or has found this durable invalidation by it. -/
structure Inside (task : Task) (claim : Option (Task × Claim)) (pursued : Option Generation)
    (core : Core) (words : Words) : Prop where
  sound : words.Sound
  owes : words.record.owes task = false
  writer : words.writer = some task
  claim : words.claim = claim
  leaving : words.record.leaving = false
  core : words.core = core
  pursued : ∀ target, pursued = some target →
    words.durableState = .active ∧ words.durableGeneration = target

/-- The caller is the writer and has made the last check. -/
structure Leaving (task : Task) (words : Words) : Prop where
  sound : words.Sound
  owes : words.record.owes task = false
  writer : words.writer = some task
  claim : words.claim = .none
  leaving : words.record.leaving = true
  atRest : words.core.AtRest

section Stable

variable {task : Task} {claim : Option (Task × Claim)} {pursued : Option Generation} {core : Core}
  {before after : Words}

theorem Holds.stable (holds : Holds task before) (writer : before.writer = some task)
    (interference : Interference task before after) : Holds task after := by
  obtain ⟨-, core, leaving, claim⟩ := interference.held writer
  exact ⟨claim ▸ holds.claim, core ▸ holds.atRest, leaving.trans holds.leaving⟩

theorem Outside.stable {owes : Bool} (outside : Outside task owes before)
    (interference : Interference task before after) : Outside task owes after where
  sound := interference.sound outside.sound
  owes := interference.owes.trans outside.owes
  publisher := interference.unpublished outside.publisher
  holds writer := by
    have held : before.writer = some task := by
      by_contra other
      exact interference.outside other writer
    exact (outside.holds held).stable held interference

theorem Inside.stable (inside : Inside task claim pursued core before)
    (interference : Interference task before after) : Inside task claim pursued core after := by
  obtain ⟨writer, core, leaving, claim⟩ := interference.held inside.writer
  refine ⟨interference.sound inside.sound, interference.owes.trans inside.owes, writer,
    claim.trans inside.claim, leaving.trans inside.leaving, core.trans inside.core, ?_⟩
  intro target pursuing
  obtain ⟨active, found⟩ := inside.pursued target pursuing
  obtain ⟨active, same⟩ := interference.durable inside.writer active
  exact ⟨active, same.trans found⟩

theorem Leaving.stable (left : Leaving task before)
    (interference : Interference task before after) : Leaving task after := by
  obtain ⟨writer, core, leaving, claim⟩ := interference.held left.writer
  exact ⟨interference.sound left.sound, interference.owes.trans left.owes, writer,
    claim.trans left.claim, leaving.trans left.leaving, core ▸ left.atRest⟩

end Stable

end HidBot.Route
