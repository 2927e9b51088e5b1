import HidBot.Python.Value
import Mathlib.Data.List.Lex
import Mathlib.Data.List.Sort

/-!
# Sorting by a text

Texts are compared code point by code point. Items with different keys have one order only,
whatever the order they have come in.
-/

namespace HidBot.Python

def CodePoint.code : CodePoint → Nat
  | .char value => value.toNat
  | .surrogate unit => 0xd800 + unit

theorem CodePoint.code_injective : Function.Injective CodePoint.code := by
  have apart (value : Char) (unit : Fin 0x800) : value.toNat ≠ 0xd800 + unit := by
    intro same
    have := value.valid
    have := unit.isLt
    simp only [UInt32.isValidChar, Nat.isValidChar, Char.toNat] at *
    omega
  intro first second same
  cases first with
  | char first => cases second with
    | char second => exact congrArg _ (Char.toNat_inj.mp same)
    | surrogate second => exact absurd same (apart first second)
  | surrogate first => cases second with
    | char second => exact absurd same.symm (apart second first)
    | surrogate second => exact congrArg _ (Fin.ext (Nat.add_left_cancel same))

def Text.codes (value : Text) : List Nat := value.map CodePoint.code

theorem Text.codes_injective : Function.Injective Text.codes :=
  List.map_injective_iff.mpr CodePoint.code_injective

theorem Text.codes_lt_append (value : Text) {rest : Text} (more : rest ≠ []) :
    Text.codes value < Text.codes (value ++ rest) := by
  have longer : [] < Text.codes rest := by
    cases rest with
    | nil => exact absurd rfl more
    | cons first rest => exact List.nil_lt_cons ..
  have appended : Text.codes value ++ [] < Text.codes value ++ Text.codes rest :=
    List.append_left_lt longer
  rwa [List.append_nil, Text.codes, Text.codes, ← List.map_append] at appended

section Sorted

variable {α : Type} {key : α → Text}

variable (key) in
/-- `sorted(items, key=key)`. -/
def sortedBy (items : List α) : List α :=
  items.mergeSort fun first second => Text.codes (key first) ≤ Text.codes (key second)

theorem sortedBy_perm (items : List α) : (sortedBy key items).Perm items :=
  List.mergeSort_perm ..

theorem sortedBy_pairwise (items : List α) : (sortedBy key items).Pairwise fun first second =>
    Text.codes (key first) ≤ Text.codes (key second) := by
  have sorted : (sortedBy key items).Pairwise fun first second =>
      decide (Text.codes (key first) ≤ Text.codes (key second)) = true := by
    refine List.pairwise_mergeSort (fun first second third below above => ?_)
      (fun first second => ?_) items
    all_goals simp only [decide_eq_true_eq, Bool.or_eq_true] at *
    · exact le_trans below above
    · exact le_total ..
  exact sorted.imp fun holds => of_decide_eq_true holds

theorem sortedBy_congr {items others : List α} (same : items.Perm others)
    (distinct : (items.map key).Nodup) : sortedBy key items = sortedBy key others := by
  refine List.Perm.eq_of_pairwise ?_ (sortedBy_pairwise items) (sortedBy_pairwise others)
    ((sortedBy_perm items).trans (same.trans (sortedBy_perm others).symm))
  intro first second here there below above
  have keys := Text.codes_injective (le_antisymm below above)
  exact List.inj_on_of_nodup_map distinct ((sortedBy_perm items).mem_iff.mp here)
    (same.mem_iff.mpr ((sortedBy_perm others).mem_iff.mp there)) keys

/-- What is less comes before. -/
theorem mem_before_of_lt {items before after : List α} {item other : α}
    (split : sortedBy key items = before ++ item :: after) (member : other ∈ items)
    (less : Text.codes (key other) < Text.codes (key item)) : other ∈ before := by
  have sorted : (sortedBy key items).Pairwise _ := sortedBy_pairwise items
  rw [split, List.pairwise_append] at sorted
  have inside : other ∈ sortedBy key items := (sortedBy_perm items).mem_iff.mpr member
  rw [split] at inside
  rcases List.mem_append.mp inside with before | later
  · exact before
  · rcases List.mem_cons.mp later with rfl | later
    · exact absurd less (lt_irrefl _)
    · exact absurd less (not_lt.mpr (List.rel_of_pairwise_cons sorted.2.1 later))

end Sorted

end HidBot.Python
