import Mathlib.Data.List.Nodup
import Mathlib.Logic.Relation

/-!
# Numbered tickets

Tickets are issued in the order of their numbers, from one. Only the ticket issued
last can be open, and it is used while it is open, which closes it.
-/

namespace HidBot

structure Tickets where
  issued : Nat := 0
  opened : Bool := false
  used : List Nat := []

namespace Tickets

inductive Move : Tickets → Tickets → Prop
  | issue (issued : Nat) (opened : Bool) (used : List Nat) :
      Move ⟨issued, opened, used⟩ ⟨issued + 1, true, used⟩
  | close (issued : Nat) (opened : Bool) (used : List Nat) :
      Move ⟨issued, opened, used⟩ ⟨issued, false, used⟩
  | use (issued : Nat) (used : List Nat) :
      Move ⟨issued, true, used⟩ ⟨issued, false, used ++ [issued]⟩

abbrev Moves : Tickets → Tickets → Prop := Relation.ReflTransGen Move

/-- What was used was issued, once, and the open ticket was not used. -/
structure Valid (tickets : Tickets) : Prop where
  once : tickets.used.Nodup
  issued : ∀ number ∈ tickets.used, 0 < number ∧ number ≤ tickets.issued
  unused : tickets.opened = true → 0 < tickets.issued ∧ tickets.issued ∉ tickets.used

theorem Move.valid {before after : Tickets} (move : Move before after) (valid : before.Valid) :
    after.Valid := by
  cases move with
  | issue issued opened used =>
      refine ⟨valid.once, fun number used => ?_, fun _ => ⟨Nat.succ_pos _, fun used => ?_⟩⟩
      · have bounds := valid.issued number used
        exact ⟨bounds.1, Nat.le_succ_of_le bounds.2⟩
      · exact Nat.not_succ_le_self _ (valid.issued _ used).2
  | close issued opened used => exact ⟨valid.once, valid.issued, nofun⟩
  | use issued used =>
      have fresh := valid.unused rfl
      refine ⟨?_, fun number member => ?_, nofun⟩
      · exact valid.once.append (List.nodup_singleton _) (by simpa using fresh.2)
      · rcases List.mem_append.mp member with earlier | last
        · exact valid.issued number earlier
        · rw [List.mem_singleton.mp last]
          exact ⟨fresh.1, Nat.le_refl _⟩

/-- Over a whole run, no ticket is used twice. -/
theorem Moves.valid {before after : Tickets} (moves : Moves before after)
    (valid : before.Valid) : after.Valid := by
  induction moves with
  | refl => exact valid
  | tail _ move ih => exact move.valid ih

end Tickets

end HidBot
