import Mathlib.Data.Nat.Bitwise
import Mathlib.Tactic

/-!
# The packed status word

State, executed count, failed token, code and cleanup owner of a sequence share
one atomic word. Within the bounds of the fields, decoding gives back what was
encoded.
-/

namespace HidBot.Sequence

inductive State where
  | accepted
  | running
  | completed
  | failed
  | aborted
  deriving DecidableEq, Repr

inductive TerminalCode where
  | none
  | hidBusy
  | hidNotReady
  | hidSafetyPending
  | sessionMismatch
  | sequenceTimeout
  | sequenceAborted
  deriving DecidableEq, Repr

def State.toNat : State → Nat
  | accepted => 0
  | running => 1
  | completed => 2
  | failed => 3
  | aborted => 4

def TerminalCode.toNat : TerminalCode → Nat
  | none => 0
  | hidBusy => 1
  | hidNotReady => 2
  | hidSafetyPending => 3
  | sessionMismatch => 4
  | sequenceTimeout => 5
  | sequenceAborted => 6

def State.terminal (state : State) : Bool :=
  state = .completed ∨ state = .failed ∨ state = .aborted

def statusStateMask : UInt32 := 0x7
def statusExecutedMask : UInt32 := 0x7f
def statusFailurePresent : UInt32 := 0x400
def statusFailedTokenMask : UInt32 := 0x3f
def statusCodeMask : UInt32 := 0xf
def statusReleaseOwned : UInt32 := 0x200000

/-- The values that a status word packs. -/
structure Record where
  state : State
  executed : UInt8 := 0
  failedTokenPresent : Bool := false
  failedToken : UInt8 := 0
  code : TerminalCode := .none
  releaseOwned : Bool := false
  deriving DecidableEq, Repr

/-- `encode_status`. -/
def Record.encode (record : Record) : UInt32 :=
  UInt32.ofNat record.state.toNat |||
    ((record.executed.toUInt32 &&& statusExecutedMask) <<< 3) |||
    (if record.failedTokenPresent then statusFailurePresent else 0) |||
    ((record.failedToken.toUInt32 &&& statusFailedTokenMask) <<< 11) |||
    ((UInt32.ofNat record.code.toNat &&& statusCodeMask) <<< 17) |||
    (if record.releaseOwned then statusReleaseOwned else 0)

/-- The enumerator of a value, if it has one. -/
def State.ofUInt32 (value : UInt32) : Option State :=
  [accepted, running, completed, failed, aborted][value.toNat]?

def TerminalCode.ofUInt32 (value : UInt32) : Option TerminalCode :=
  [none, hidBusy, hidNotReady, hidSafetyPending, sessionMismatch, sequenceTimeout,
    sequenceAborted][value.toNat]?

def decodeState (status : UInt32) : Option State := State.ofUInt32 (status &&& statusStateMask)

def decodeExecuted (status : UInt32) : UInt8 := ((status >>> 3) &&& statusExecutedMask).toUInt8

def decodeFailedTokenPresent (status : UInt32) : Bool := status &&& statusFailurePresent != 0

def decodeFailedToken (status : UInt32) : UInt8 :=
  ((status >>> 11) &&& statusFailedTokenMask).toUInt8

def decodeTerminalCode (status : UInt32) : Option TerminalCode :=
  TerminalCode.ofUInt32 ((status >>> 17) &&& statusCodeMask)

def decodeReleaseOwned (status : UInt32) : Bool := status &&& statusReleaseOwned != 0

/-- The fields hold the values. -/
structure Record.Fits (record : Record) : Prop where
  executed : record.executed < 128
  failedToken : record.failedToken < 64

/-- Every field of the word decodes to the value of the record. -/
structure Record.Decodes (record : Record) (status : UInt32) : Prop where
  state : decodeState status = some record.state
  executed : decodeExecuted status = record.executed
  failedTokenPresent : decodeFailedTokenPresent status = record.failedTokenPresent
  failedToken : decodeFailedToken status = record.failedToken
  code : decodeTerminalCode status = some record.code
  releaseOwned : decodeReleaseOwned status = record.releaseOwned

theorem State.toNat_lt (state : State) : state.toNat < 5 := by cases state <;> decide

theorem TerminalCode.toNat_lt (code : TerminalCode) : code.toNat < 7 := by cases code <;> decide

/-- A field put above the bits that are used. -/
theorem or_field {low width : Nat} (below : low < 2 ^ width) (field : Nat) :
    low ||| field * 2 ^ width = low + field * 2 ^ width := by
  rw [Nat.add_comm, Nat.mul_comm, Nat.two_pow_add_eq_or_of_lt below, Nat.lor_comm]

/-- The word as a number. -/
def Record.packed (record : Record) : Nat :=
  record.state.toNat + record.executed.toNat * 2 ^ 3 +
    record.failedTokenPresent.toNat * 2 ^ 10 + record.failedToken.toNat * 2 ^ 11 +
    record.code.toNat * 2 ^ 17 + record.releaseOwned.toNat * 2 ^ 21

theorem field_toNat {value mask shift : UInt32} (bits : Nat) (same : mask.toNat = 2 ^ bits - 1)
    (fits : value.toNat < 2 ^ bits) (small : shift.toNat < 32) (room : bits + shift.toNat ≤ 32) :
    ((value &&& mask) <<< shift).toNat = value.toNat * 2 ^ shift.toNat := by
  rw [UInt32.toNat_shiftLeft, UInt32.toNat_and, same, Nat.and_two_pow_sub_one_eq_mod,
    Nat.mod_eq_of_lt fits, Nat.mod_eq_of_lt small, Nat.shiftLeft_eq]
  apply Nat.mod_eq_of_lt
  calc value.toNat * 2 ^ shift.toNat < 2 ^ bits * 2 ^ shift.toNat := by gcongr
    _ = 2 ^ (bits + shift.toNat) := (Nat.pow_add ..).symm
    _ ≤ 2 ^ 32 := Nat.pow_le_pow_right (by decide) room

theorem flag_toNat (flag : Bool) {mask : UInt32} (bit : Nat) (same : mask.toNat = 2 ^ bit) :
    (if flag then mask else 0).toNat = flag.toNat * 2 ^ bit := by
  cases flag <;> simp [same]

theorem Record.encode_toNat {record : Record} (fits : record.Fits) :
    record.encode.toNat = record.packed := by
  have state := record.state.toNat_lt
  have code := record.code.toNat_lt
  have executed : record.executed.toNat < 2 ^ 7 := fits.executed
  have token : record.failedToken.toNat < 2 ^ 6 := fits.failedToken
  have present := record.failedTokenPresent.toNat_lt
  unfold Record.encode Record.packed
  simp only [UInt32.toNat_or]
  rw [field_toNat 7 rfl (by simpa using executed) (by decide) (by decide),
    field_toNat 6 rfl (by simpa using token) (by decide) (by decide),
    field_toNat 4 rfl (by simp; omega) (by decide) (by decide),
    flag_toNat _ 10 rfl, flag_toNat _ 21 rfl]
  simp only [UInt32.toNat_ofNat', UInt8.toNat_toUInt32]
  rw [Nat.mod_eq_of_lt (by omega), Nat.mod_eq_of_lt (by omega)]
  have first := or_field (show record.state.toNat < 2 ^ 3 by omega) record.executed.toNat
  have second := or_field
    (show record.state.toNat + record.executed.toNat * 2 ^ 3 < 2 ^ 10 by omega)
    record.failedTokenPresent.toNat
  have third := or_field (show record.state.toNat + record.executed.toNat * 2 ^ 3 +
    record.failedTokenPresent.toNat * 2 ^ 10 < 2 ^ 11 by omega) record.failedToken.toNat
  have fourth := or_field (show record.state.toNat + record.executed.toNat * 2 ^ 3 +
    record.failedTokenPresent.toNat * 2 ^ 10 + record.failedToken.toNat * 2 ^ 11 < 2 ^ 17 by omega)
    record.code.toNat
  have fifth := or_field (show record.state.toNat + record.executed.toNat * 2 ^ 3 +
    record.failedTokenPresent.toNat * 2 ^ 10 + record.failedToken.toNat * 2 ^ 11 +
    record.code.toNat * 2 ^ 17 < 2 ^ 21 by omega) record.releaseOwned.toNat
  change _ ||| _ * 2 ^ 3 ||| _ ||| _ * 2 ^ 11 ||| _ * 2 ^ 17 ||| _ = _
  rw [first, second, third, fourth, fifth]

theorem shifted_toNat {status mask shift : UInt32} (bits : Nat) (same : mask.toNat = 2 ^ bits - 1)
    (small : shift.toNat < 32) :
    ((status >>> shift) &&& mask).toNat = status.toNat / 2 ^ shift.toNat % 2 ^ bits := by
  rw [UInt32.toNat_and, UInt32.toNat_shiftRight, same, Nat.and_two_pow_sub_one_eq_mod,
    Nat.mod_eq_of_lt small, Nat.shiftRight_eq_div_pow]

/-- A flag of the word as a bit of the number. -/
theorem flag_decode {status mask : UInt32} (bit : Nat) (same : mask.toNat = 2 ^ bit) :
    (status &&& mask != 0) = decide (status.toNat / 2 ^ bit % 2 = 1) := by
  rw [Bool.eq_iff_iff, bne_iff_ne, decide_eq_true_iff, Ne, ← UInt32.toNat_inj, UInt32.toNat_and,
    same, Nat.and_two_pow, UInt32.toNat_zero, Nat.mul_eq_zero, not_or,
    Nat.testBit_eq_decide_div_mod_eq]
  by_cases set : status.toNat / 2 ^ bit % 2 = 1 <;> simp [set]

theorem State.ofUInt32_toNat (state : State) {value : UInt32} (same : value.toNat = state.toNat) :
    State.ofUInt32 value = some state := by
  unfold State.ofUInt32
  rw [same]
  cases state <;> rfl

theorem TerminalCode.ofUInt32_toNat (code : TerminalCode) {value : UInt32}
    (same : value.toNat = code.toNat) : TerminalCode.ofUInt32 value = some code := by
  unfold TerminalCode.ofUInt32
  rw [same]
  cases code <;> rfl

/-- Nothing is truncated within the bounds of the fields. -/
theorem Record.Fits.decodes {record : Record} (fits : record.Fits) :
    record.Decodes record.encode := by
  have state := record.state.toNat_lt
  have code := record.code.toNat_lt
  have executed : record.executed.toNat < 2 ^ 7 := fits.executed
  have token : record.failedToken.toNat < 2 ^ 6 := fits.failedToken
  have present := record.failedTokenPresent.toNat_lt
  have word : record.encode.toNat = record.packed := encode_toNat fits
  unfold packed at word
  refine ⟨?_, ?_, ?_, ?_, ?_, ?_⟩
  · apply State.ofUInt32_toNat
    rw [UInt32.toNat_and, show statusStateMask.toNat = 2 ^ 3 - 1 from rfl,
      Nat.and_two_pow_sub_one_eq_mod, word]
    omega
  · rw [decodeExecuted, ← UInt8.toNat_inj, UInt32.toNat_toUInt8, shifted_toNat 7 rfl (by decide),
      word]
    change _ / 2 ^ 3 % _ % _ = _
    omega
  · unfold decodeFailedTokenPresent
    rw [flag_decode 10 rfl, word]
    cases record.failedTokenPresent <;> simp <;> omega
  · rw [decodeFailedToken, ← UInt8.toNat_inj, UInt32.toNat_toUInt8, shifted_toNat 6 rfl (by decide),
      word]
    change _ / 2 ^ 11 % _ % _ = _
    omega
  · apply TerminalCode.ofUInt32_toNat
    rw [shifted_toNat 4 rfl (by decide), word]
    change _ / 2 ^ 17 % _ = _
    omega
  · unfold decodeReleaseOwned
    rw [flag_decode 21 rfl, word]
    cases record.releaseOwned <;> simp <;> omega

/-- The state decodes whatever the other fields are. -/
theorem decodeState_encode (record : Record) :
    decodeState record.encode = some record.state := by
  apply State.ofUInt32_toNat
  have above (value shift : UInt32) (high : 3 ≤ shift.toNat) (small : shift.toNat < 32) :
      (value <<< shift).toNat % 2 ^ 3 = 0 := by
    rw [UInt32.toNat_shiftLeft, Nat.mod_eq_of_lt small, Nat.mod_mod_of_dvd _ (by decide),
      Nat.shiftLeft_eq]
    exact Nat.mod_eq_zero_of_dvd ((Nat.pow_dvd_pow 2 high).mul_left _)
  have flag (set : Bool) {mask : UInt32} (high : mask.toNat % 2 ^ 3 = 0) :
      (if set then mask else 0).toNat % 2 ^ 3 = 0 := by
    cases set
    · rfl
    · exact high
  have state := record.state.toNat_lt
  rw [UInt32.toNat_and, show statusStateMask.toNat = 2 ^ 3 - 1 from rfl,
    Nat.and_two_pow_sub_one_eq_mod]
  simp only [Record.encode, UInt32.toNat_or, Nat.or_mod_two_pow]
  rw [above _ 3 (by decide) (by decide), above _ 11 (by decide) (by decide),
    above _ 17 (by decide) (by decide), flag _ (by decide), flag _ (by decide)]
  simp only [Nat.or_zero, UInt32.toNat_ofNat']
  omega

end HidBot.Sequence
