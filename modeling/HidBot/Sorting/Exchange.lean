import Mathlib.Data.List.Perm.Basic
import Mathlib.Order.Lattice

/-!
# Exchange sort

A list is sorted in place: for each position, every later element that is less than the
one that stands there is exchanged with it.
-/

namespace HidBot.Sorting

variable {α κ : Type} {less : α → α → Prop} [DecidableRel less]

variable (less) in
/-- Exchange the element with every later one that is less. -/
def sweep (current : α) : List α → α × List α
  | [] => (current, [])
  | right :: rest =>
      if less right current then
        let swept := sweep right rest
        (swept.1, current :: swept.2)
      else
        let swept := sweep current rest
        (swept.1, right :: swept.2)

theorem sweep_length (current : α) (rest : List α) :
    (sweep less current rest).2.length = rest.length := by
  induction rest generalizing current with
  | nil => rfl
  | cons right rest ih =>
      rw [sweep]
      split <;> simp [ih]

variable (less) in
def exchangeSort : List α → List α
  | [] => []
  | left :: rest =>
      let swept := sweep less left rest
      swept.1 :: exchangeSort swept.2
termination_by list => list.length
decreasing_by simp [sweep_length]

theorem sweep_perm (current : α) (rest : List α) :
    ((sweep less current rest).1 :: (sweep less current rest).2).Perm (current :: rest) := by
  induction rest generalizing current with
  | nil => exact .refl _
  | cons right rest ih =>
      rw [sweep]
      split
      · exact (List.Perm.swap ..).trans ((ih right).cons current)
      · exact ((List.Perm.swap ..).trans ((ih current).cons right)).trans (.swap ..)

theorem exchangeSort_perm (list : List α) : (exchangeSort less list).Perm list := by
  induction list using exchangeSort.induct less with
  | case1 => rw [exchangeSort]
  | case2 left rest swept ih =>
      rw [exchangeSort]
      exact (ih.cons _).trans (sweep_perm left rest)

section Sorted

variable [LinearOrder κ] {key : α → κ}
  (order : ∀ left right, less left right ↔ key left < key right)

include order

/-- A sweep leaves the least element. -/
theorem sweep_least (current : α) (rest : List α) :
    ∀ other ∈ current :: rest, key (sweep less current rest).1 ≤ key other := by
  induction rest generalizing current with
  | nil => simp [sweep]
  | cons right rest ih =>
      intro other member
      rw [sweep]
      split
      · rename_i below
        rcases List.mem_cons.mp member with rfl | later
        · exact (ih right right List.mem_cons_self).trans ((order ..).mp below).le
        · exact ih right other later
      · rename_i above
        have least := ih current
        rcases List.mem_cons.mp member with rfl | later
        · exact least other List.mem_cons_self
        · rcases List.mem_cons.mp later with rfl | later
          · exact (least current List.mem_cons_self).trans (not_lt.mp (mt (order ..).mpr above))
          · exact least other (List.mem_cons_of_mem _ later)

theorem exchangeSort_sorted (list : List α) :
    (exchangeSort less list).Pairwise fun left right => key left ≤ key right := by
  induction list using exchangeSort.induct less with
  | case1 =>
      rw [exchangeSort]
      exact .nil
  | case2 left rest swept ih =>
      rw [exchangeSort]
      refine List.pairwise_cons.mpr ⟨fun other member => ?_, ih⟩
      have inside := (exchangeSort_perm _).mem_iff.mp member
      exact sweep_least order left rest other
        ((sweep_perm left rest).mem_iff.mp (List.mem_cons_of_mem _ inside))

/-- Distinct keys come out strictly increasing. -/
theorem exchangeSort_increasing (injective : key.Injective) {list : List α}
    (distinct : list.Nodup) : (exchangeSort less list).Pairwise less := by
  have apart : (exchangeSort less list).Nodup := (exchangeSort_perm list).nodup_iff.mpr distinct
  refine (List.Pairwise.and (exchangeSort_sorted order list) apart).imp fun both => ?_
  exact (order ..).mpr (lt_of_le_of_ne both.1 fun same => both.2 (injective same))

/-- The order of the elements before does not matter. -/
theorem exchangeSort_congr (injective : key.Injective) {list other : List α}
    (same : list.Perm other) : exchangeSort less list = exchangeSort less other := by
  have perm : (exchangeSort less list).Perm (exchangeSort less other) :=
    ((exchangeSort_perm list).trans same).trans (exchangeSort_perm other).symm
  refine List.Perm.eq_of_pairwise ?_ (exchangeSort_sorted order list)
    (exchangeSort_sorted order other) perm
  exact fun _ _ _ _ one two => injective (le_antisymm one two)

end Sorted

end HidBot.Sorting
