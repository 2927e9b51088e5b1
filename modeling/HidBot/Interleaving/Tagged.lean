import Mathlib.Data.UInt
import Mathlib.Tactic.IntervalCases

/-!
# Tagged words

A word that is compared and exchanged as a whole: a number of 56 bits with a tag of 8 bits
below it. Two words are the same exactly when their numbers and their tags are, so an exchange
that expects a number never takes the word of another for it.
-/

namespace HidBot.Interleaving.Tagged

def maxNumber : UInt64 := (0xffffffffffffffff : UInt64) >>> 8

def tagMask : UInt64 := 0xff

/-- The number is shifted, so one above `maxNumber` loses its upper bits. -/
def tagged (number : UInt64) (tag : UInt8) : UInt64 := (number <<< 8) ||| tag.toUInt64

def number (word : UInt64) : UInt64 := word >>> 8

def tag (word : UInt64) : UInt8 := (word &&& tagMask).toUInt8

/-- The word with the same number and another tag. -/
def retag (word : UInt64) (tag : UInt8) : UInt64 := (word &&& ~~~tagMask) ||| tag.toUInt64

variable {count word : UInt64} {mark : UInt8}

theorem toNat_number (word : UInt64) : (number word).toNat = word.toNat / 2 ^ 8 := by
  have shift : (8 : UInt64).toNat % 64 = 8 := by decide
  rw [number, UInt64.toNat_shiftRight, shift, Nat.shiftRight_eq_div_pow]

theorem toNat_tag (word : UInt64) : (tag word).toNat = word.toNat % 2 ^ 8 := by
  have mask : tagMask.toNat = 2 ^ 8 - 1 := by decide
  rw [tag, UInt64.toNat_toUInt8, UInt64.toNat_and, mask, Nat.and_two_pow_sub_one_eq_mod]
  omega

theorem toNat_word (word : UInt64) :
    word.toNat = (number word).toNat * 2 ^ 8 + (tag word).toNat := by
  rw [toNat_number, toNat_tag]
  omega

theorem word_inj {other : UInt64} :
    word = other ↔ number word = number other ∧ tag word = tag other := by
  refine ⟨fun same => same ▸ ⟨rfl, rfl⟩, fun ⟨sameNumber, sameTag⟩ => ?_⟩
  apply UInt64.toNat_inj.mp
  rw [toNat_word word, toNat_word other, sameNumber, sameTag]

theorem number_small (word : UInt64) : number word ≤ maxNumber := by
  have limit : maxNumber.toNat = 2 ^ 56 - 1 := by decide
  have bound := word.toNat_lt
  rw [UInt64.le_iff_toNat_le, toNat_number]
  omega

theorem toNat_tagged (small : count ≤ maxNumber) :
    (tagged count mark).toNat = count.toNat * 2 ^ 8 + mark.toNat := by
  have limit : maxNumber.toNat = 2 ^ 56 - 1 := by decide
  have bound := UInt64.le_iff_toNat_le.mp small
  have low : mark.toNat < 2 ^ 8 := mark.toNat_lt
  have shift : (8 : UInt64).toNat % 64 = 8 := by decide
  rw [tagged, UInt64.toNat_or, UInt64.toNat_shiftLeft, UInt8.toNat_toUInt64, shift,
    Nat.shiftLeft_eq, Nat.mod_eq_of_lt (by omega), ← Nat.shiftLeft_eq,
    ← Nat.shiftLeft_add_eq_or_of_lt low]

theorem number_tagged (small : count ≤ maxNumber) : number (tagged count mark) = count := by
  have low : mark.toNat < 2 ^ 8 := mark.toNat_lt
  apply UInt64.toNat_inj.mp
  rw [toNat_number, toNat_tagged small]
  omega

theorem tag_tagged (small : count ≤ maxNumber) : tag (tagged count mark) = mark := by
  have low : mark.toNat < 2 ^ 8 := mark.toNat_lt
  apply UInt8.toNat_inj.mp
  rw [toNat_tag, toNat_tagged small]
  omega

theorem tagged_inj {other : UInt64} {sign : UInt8} (small : count ≤ maxNumber)
    (less : other ≤ maxNumber) :
    tagged count mark = tagged other sign ↔ count = other ∧ mark = sign := by
  rw [word_inj, number_tagged small, number_tagged less, tag_tagged small, tag_tagged less]

theorem unmasked (word : UInt64) : word &&& ~~~tagMask = (word >>> 8) <<< 8 := by
  apply UInt64.toBitVec_inj.mp
  apply BitVec.eq_of_getLsbD_eq
  intro index inside
  simp only [tagMask]
  interval_cases index <;> simp

theorem retag_eq (word : UInt64) (mark : UInt8) :
    retag word mark = tagged (number word) mark := by
  rw [retag, unmasked, tagged, number]

@[simp] theorem number_retag (word : UInt64) (mark : UInt8) :
    number (retag word mark) = number word := by
  rw [retag_eq, number_tagged (number_small word)]

@[simp] theorem tag_retag (word : UInt64) (mark : UInt8) : tag (retag word mark) = mark := by
  rw [retag_eq, tag_tagged (number_small word)]

theorem retag_tagged (small : count ≤ maxNumber) (sign : UInt8) :
    retag (tagged count mark) sign = tagged count sign := by
  rw [retag_eq, number_tagged small]

/-- The bits above the tag are the number. -/
theorem unmasked_inj {other : UInt64} :
    word &&& ~~~tagMask = other &&& ~~~tagMask ↔ number word = number other := by
  refine ⟨fun same => ?_, fun same => ?_⟩
  · have marked : retag word 0 = retag other 0 := by rw [retag, retag, same]
    rw [← number_retag word 0, marked, number_retag]
  · have shifted : word >>> 8 = other >>> 8 := same
    rw [unmasked, unmasked, shifted]

end HidBot.Interleaving.Tagged
