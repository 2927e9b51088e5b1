import HidBot.Bonds.Association
import Mathlib.Tactic.IntervalCases

/-!
# The keys of schema records

`schema_key` and `parse_schema_key` of `ble_transport.cpp` with the parser of
`persistent_store_recovery.hpp` below them. The revision and the association of a peer
are kept under a key that spells its identity in hexadecimal digits. A reader of the
namespace gets the identity back from the key, and must not take another string for one.
-/

namespace HidBot.Bonds

/-! ### Strings -/

/-- A string, without the terminator behind its last character. -/
@[ext]
structure CString where
  characters : List UInt8
  unterminated : 0 ∉ characters
  deriving DecidableEq

inductive ParseFailure where
  /-- The parser returns `false`. -/
  | refused
  /-- The parser reads behind the terminator. -/
  | undefined
  deriving DecidableEq

namespace CString

def read (key : CString) (index : Nat) : Except ParseFailure UInt8 :=
  match (key.characters ++ [0])[index]? with
  | some character => .ok character
  | none => .error .undefined

variable {key : CString} {index : Nat} {character : UInt8}

theorem read_before (present : key.characters[index]? = some character) :
    key.read index = .ok character := by
  have before : index < key.characters.length := (List.getElem?_eq_some_iff.mp present).1
  simp [read, List.getElem?_append_left before, present]

theorem read_last : key.read key.characters.length = .ok 0 := by
  simp [read]

theorem exists_before (key : CString) {index : Nat} (before : index < key.characters.length) :
    ∃ character, character ≠ 0 ∧ key.characters[index]? = some character := by
  refine ⟨key.characters[index], fun zero => ?_, List.getElem?_eq_getElem before⟩
  exact key.unterminated (zero ▸ List.getElem_mem before)

end CString

/-! ### Hexadecimal digits -/

def schemaKeyHex : List UInt8 :=
  ['0'.toUInt8, '1'.toUInt8, '2'.toUInt8, '3'.toUInt8, '4'.toUInt8, '5'.toUInt8, '6'.toUInt8,
    '7'.toUInt8, '8'.toUInt8, '9'.toUInt8, 'a'.toUInt8, 'b'.toUInt8, 'c'.toUInt8, 'd'.toUInt8,
    'e'.toUInt8, 'f'.toUInt8]

def highDigit (byte : UInt8) : UInt8 := schemaKeyHex.getD (byte >>> 4).toNat 0

def lowDigit (byte : UInt8) : UInt8 := schemaKeyHex.getD (byte &&& 0x0f).toNat 0

/-- `none` is the source's `-1`. -/
def lowerHexValue (value : UInt8) : Option UInt8 :=
  if '0'.toUInt8 ≤ value ∧ value ≤ '9'.toUInt8 then some (value - '0'.toUInt8)
  else if 'a'.toUInt8 ≤ value ∧ value ≤ 'f'.toUInt8 then some (value - 'a'.toUInt8 + 10)
  else none

/-- The characters that are digits are the ones the table holds, each at its value. -/
theorem lowerHexValue_table (character digit : UInt8) (read : lowerHexValue character = some digit) :
    digit < 16 ∧ schemaKeyHex.getD digit.toNat 0 = character := by
  have table : ∀ character : Fin 256, ∀ digit ∈ lowerHexValue (UInt8.ofNat character),
      digit < 16 ∧ schemaKeyHex.getD digit.toNat 0 = UInt8.ofNat character := by
    decide +kernel
  simpa using table ⟨character.toNat, character.toNat_lt⟩ digit (by simpa using read)

theorem lowerHexValue_digits (byte : UInt8) :
    lowerHexValue (highDigit byte) = some (byte >>> 4) ∧
      lowerHexValue (lowDigit byte) = some (byte &&& 0x0f) := by
  have table : ∀ byte : Fin 256,
      lowerHexValue (highDigit (UInt8.ofNat byte)) = some (UInt8.ofNat byte >>> 4) ∧
        lowerHexValue (lowDigit (UInt8.ofNat byte)) = some (UInt8.ofNat byte &&& 0x0f) := by
    decide +kernel
  simpa using table ⟨byte.toNat, byte.toNat_lt⟩

theorem digits_ne_zero (byte : UInt8) : highDigit byte ≠ 0 ∧ lowDigit byte ≠ 0 := by
  have table : ∀ byte : Fin 256,
      highDigit (UInt8.ofNat byte) ≠ 0 ∧ lowDigit (UInt8.ofNat byte) ≠ 0 := by
    decide +kernel
  simpa using table ⟨byte.toNat, byte.toNat_lt⟩

theorem nibbles_joined {high low : UInt8} (highSmall : high < 16) (lowSmall : low < 16) :
    ((high <<< 4) ||| low) >>> 4 = high ∧ ((high <<< 4) ||| low) &&& 0x0f = low := by
  have table : ∀ high low : Fin 16,
      ((UInt8.ofNat high <<< 4) ||| UInt8.ofNat low) >>> 4 = UInt8.ofNat high ∧
        ((UInt8.ofNat high <<< 4) ||| UInt8.ofNat low) &&& 0x0f = UInt8.ofNat low := by
    decide +kernel
  simpa using table ⟨high.toNat, highSmall⟩ ⟨low.toNat, lowSmall⟩

theorem nibbles_of_byte (byte : UInt8) : ((byte >>> 4) <<< 4) ||| (byte &&& 0x0f) = byte := by
  have table : ∀ byte : Fin 256, ((UInt8.ofNat byte >>> 4) <<< 4) |||
      (UInt8.ofNat byte &&& 0x0f) = UInt8.ofNat byte := by
    decide +kernel
  simpa using table ⟨byte.toNat, byte.toNat_lt⟩

/-! ### The key of an identity -/

def digits (byte : UInt8) : List UInt8 := [highDigit byte, lowDigit byte]

def schemaKeyCharacters (identity : StoreIdentity) : List UInt8 :=
  'r'.toUInt8 :: (digits identity.type ++ identity.value.toList.flatMap digits)

theorem schemaKey_unterminated (identity : StoreIdentity) :
    0 ∉ schemaKeyCharacters identity := by
  have written (byte : UInt8) : 0 ∉ digits byte := by
    simp [digits, (digits_ne_zero byte).1.symm, (digits_ne_zero byte).2.symm]
  have letter : (0 : UInt8) ≠ 'r'.toUInt8 := by decide
  simp [schemaKeyCharacters, letter, written]

def schemaKey (identity : StoreIdentity) : CString :=
  ⟨schemaKeyCharacters identity, schemaKey_unterminated identity⟩

/-! ### The parser -/

def readByte (key : CString) (high low : Nat) : Except ParseFailure UInt8 := do
  match lowerHexValue (← key.read high), lowerHexValue (← key.read low) with
  | some high, some low => return (high <<< 4) ||| low
  | _, _ => throw .refused

/-- The characters from `start` on end within `count` of them. -/
def endsWithin (key : CString) (start count : Nat) : Except ParseFailure Bool :=
  (List.range' start count).anyM fun index => return (← key.read index) = 0

def readIdentity (key : CString) : Except ParseFailure StoreIdentity := do
  let type ← readByte key 1 2
  let value ← Vector.ofFnM fun index : Fin 6 => readByte key (3 + index * 2) (4 + index * 2)
  return { type, value }

def parseCanonicalSchemaKey : Option CString → Except ParseFailure StoreIdentity
  | none => throw .refused
  | some key => do
      if (← key.read 0) ≠ 'r'.toUInt8 then throw .refused
      if ← endsWithin key 1 14 then throw .refused
      if (← key.read 15) ≠ 0 then throw .refused
      let identity ← readIdentity key
      if validIdentity identity then return identity else throw .refused

def parseSchemaKey (key : Option CString) : Except ParseFailure StoreIdentity := do
  let identity ← parseCanonicalSchemaKey key
  if key = some (schemaKey identity) then return identity else throw .refused

section Loops

variable {failure α : Type} {count : Nat} {read : Fin count → Except failure α}

theorem ofFnM_eq_ok {values : Vector α count} :
    Vector.ofFnM read = .ok values ↔ ∀ index, read index = .ok values[index] := by
  induction count with
  | zero =>
      rw [Vector.ofFnM_zero]
      exact iff_of_true (congrArg Except.ok (Vector.ext fun _ before => absurd before (by omega)))
        fun index => index.elim0
  | succ count step =>
      rw [Vector.ofFnM_succ, Fin.forall_fin_succ']
      constructor
      · intro finished
        cases earlier : Vector.ofFnM fun index => read index.castSucc with
        | error _ => simp [earlier, bind, Except.bind] at finished
        | ok values =>
            cases last : read (Fin.last count) with
            | error _ => simp [earlier, last, bind, Except.bind] at finished
            | ok value =>
                simp only [earlier, last, bind, Except.bind, pure, Except.pure,
                  Except.ok.injEq] at finished
                subst finished
                refine ⟨fun index => ?_, by simp⟩
                simpa using step.mp earlier index
      · rintro ⟨earlier, last⟩
        have init : (Vector.ofFnM fun index => read index.castSucc) = .ok values.pop :=
          step.mpr fun index => by simpa using earlier index
        rw [init, last]
        refine congrArg Except.ok (Vector.ext fun position before => ?_)
        rcases Nat.lt_succ_iff_lt_or_eq.mp before with inner | rfl
        · simp [Vector.getElem_push_lt inner]
        · simp

theorem ofFnM_eq_error {reason : failure} (failed : Vector.ofFnM read = .error reason) :
    ∃ index, read index = .error reason := by
  by_contra none
  induction count with
  | zero => simp [Vector.ofFnM_zero, pure, Except.pure] at failed
  | succ count step =>
      rw [Vector.ofFnM_succ] at failed
      cases earlier : Vector.ofFnM fun index => read index.castSucc with
      | error other =>
          simp only [earlier, bind, Except.bind, Except.error.injEq] at failed
          exact step (failed ▸ earlier) fun ⟨index, failed⟩ => none ⟨_, failed⟩
      | ok values =>
          cases last : read (Fin.last count) with
          | error other =>
              simp only [earlier, last, bind, Except.bind, Except.error.injEq] at failed
              exact none ⟨_, failed ▸ last⟩
          | ok value => simp [earlier, last, bind, Except.bind, pure, Except.pure] at failed

end Loops

variable {key : CString} {identity : StoreIdentity}

theorem endsWithin_succ {start count : Nat} {character : UInt8}
    (read : key.read start = .ok character) :
    endsWithin key start (count + 1) =
      if character = 0 then .ok true else endsWithin key (start + 1) count := by
  unfold endsWithin
  rw [List.range'_succ, List.anyM_cons, read]
  by_cases zero : character = 0 <;> simp [zero, bind, Except.bind, pure, Except.pure]

theorem endsWithin_eq (key : CString) {start : Nat} (count : Nat) (before : start ≤ key.characters.length) :
    endsWithin key start count = .ok (decide (key.characters.length < start + count)) := by
  induction count generalizing start with
  | zero => simp [endsWithin, pure, Except.pure, before]
  | succ count step =>
      rcases before.lt_or_eq with within | rfl
      · obtain ⟨character, regular, present⟩ := key.exists_before within
        rw [endsWithin_succ (CString.read_before present), if_neg regular, step within,
          Nat.succ_add_eq_add_succ]
      · rw [endsWithin_succ CString.read_last, if_pos rfl]
        simp

/-- Two characters are read as a byte exactly when they are its digits. -/
theorem readByte_eq_ok {high low : Nat} {byte : UInt8} (highBefore : high < key.characters.length)
    (lowBefore : low < key.characters.length) :
    readByte key high low = .ok byte ↔
      key.characters[high]? = some (highDigit byte) ∧
        key.characters[low]? = some (lowDigit byte) := by
  obtain ⟨first, -, firstPresent⟩ := key.exists_before highBefore
  obtain ⟨second, -, secondPresent⟩ := key.exists_before lowBefore
  unfold readByte
  rw [CString.read_before firstPresent, CString.read_before secondPresent, firstPresent,
    secondPresent]
  simp only [bind, Except.bind, pure, Except.pure, Option.some.injEq]
  constructor
  · intro read
    split at read
    next high low highRead lowRead =>
      obtain ⟨highSmall, rfl⟩ := lowerHexValue_table _ _ highRead
      obtain ⟨lowSmall, rfl⟩ := lowerHexValue_table _ _ lowRead
      obtain ⟨highJoined, lowJoined⟩ := nibbles_joined highSmall lowSmall
      cases read
      rw [highDigit, lowDigit, highJoined, lowJoined]
      exact ⟨rfl, rfl⟩
    · cases read
  · rintro ⟨rfl, rfl⟩
    rw [(lowerHexValue_digits byte).1, (lowerHexValue_digits byte).2]
    simp only [nibbles_of_byte]

theorem readByte_defined {high low : Nat} (highBefore : high < key.characters.length)
    (lowBefore : low < key.characters.length) : readByte key high low ≠ .error .undefined := by
  obtain ⟨first, -, firstPresent⟩ := key.exists_before highBefore
  obtain ⟨second, -, secondPresent⟩ := key.exists_before lowBefore
  unfold readByte
  rw [CString.read_before firstPresent, CString.read_before secondPresent]
  simp only [bind, Except.bind, pure, Except.pure]
  split <;> simp [throw, throwThe, MonadExceptOf.throw]

theorem readIdentity_eq_ok (long : key.characters.length = 15) :
    readIdentity key = .ok identity ↔
      (key.characters[1]? = some (highDigit identity.type) ∧
        key.characters[2]? = some (lowDigit identity.type)) ∧
      ∀ index : Fin 6,
        key.characters[3 + index.val * 2]? = some (highDigit identity.value[index]) ∧
          key.characters[4 + index.val * 2]? = some (lowDigit identity.value[index]) := by
  have type : readByte key 1 2 = .ok identity.type ↔ _ := readByte_eq_ok (by omega) (by omega)
  have value (index : Fin 6) :
      readByte key (3 + index.val * 2) (4 + index.val * 2) = .ok identity.value[index] ↔ _ :=
    readByte_eq_ok (by omega) (by omega)
  simp only [← type, ← value, ← ofFnM_eq_ok]
  unfold readIdentity
  cases readByte key 1 2 with
  | error _ => simp [bind, Except.bind]
  | ok type =>
      cases Vector.ofFnM fun index : Fin 6 =>
          readByte key (3 + index.val * 2) (4 + index.val * 2) with
      | error _ => simp [bind, Except.bind]
      | ok value =>
          cases identity
          simp [bind, Except.bind, pure, Except.pure]

theorem readIdentity_defined (long : key.characters.length = 15) :
    readIdentity key ≠ .error .undefined := by
  have type : readByte key 1 2 ≠ .error .undefined := readByte_defined (by omega) (by omega)
  unfold readIdentity
  cases readType : readByte key 1 2 with
  | error reason => simpa [bind, Except.bind, readType] using type
  | ok type =>
      cases readValue : Vector.ofFnM fun index : Fin 6 =>
          readByte key (3 + index * 2) (4 + index * 2) with
      | error reason =>
          obtain ⟨index, failed⟩ := ofFnM_eq_error readValue
          have defined : readByte key (3 + index.val * 2) (4 + index.val * 2) ≠ .error .undefined :=
            readByte_defined (by omega) (by omega)
          simpa [bind, Except.bind, failed] using defined
      | ok value => simp [bind, Except.bind, pure, Except.pure]

theorem flatMap_digits (bytes : List UInt8) (index : Nat) :
    (bytes.flatMap digits)[index * 2]? = bytes[index]?.map highDigit ∧
      (bytes.flatMap digits)[index * 2 + 1]? = bytes[index]?.map lowDigit := by
  induction bytes generalizing index with
  | nil => simp
  | cons byte rest step =>
      cases index with
      | zero => simp [digits]
      | succ index => simpa [digits, Nat.add_mul] using step index

theorem schemaKey_length : (schemaKey identity).characters.length = 15 := by
  simp [schemaKey, schemaKeyCharacters, digits, List.length_flatMap]

/-- Where the parser looks for the digits is where the key has them. -/
theorem schemaKey_characters (long : key.characters.length = 15) :
    key = schemaKey identity ↔
      key.characters[0]? = some 'r'.toUInt8 ∧
        (key.characters[1]? = some (highDigit identity.type) ∧
          key.characters[2]? = some (lowDigit identity.type)) ∧
        ∀ index : Fin 6,
          key.characters[3 + index.val * 2]? = some (highDigit identity.value[index]) ∧
            key.characters[4 + index.val * 2]? = some (lowDigit identity.value[index]) := by
  have value (index : Fin 6) :
      (schemaKey identity).characters[3 + index.val * 2]? =
          some (highDigit identity.value[index]) ∧
        (schemaKey identity).characters[4 + index.val * 2]? =
          some (lowDigit identity.value[index]) := by
    obtain ⟨high, low⟩ := flatMap_digits identity.value.toList index
    rw [Nat.add_comm 3, Nat.add_comm 4]
    simpa [schemaKey, schemaKeyCharacters, digits] using And.intro high low
  constructor
  · rintro rfl
    exact ⟨rfl, ⟨rfl, rfl⟩, value⟩
  · rintro ⟨letter, ⟨typeHigh, typeLow⟩, same⟩
    have agree (position : Nat) :
        key.characters[position]? = (schemaKey identity).characters[position]? := by
      by_cases inside : position < 15
      · rcases position with _ | _ | _ | position
        · exact letter
        · exact typeHigh
        · exact typeLow
        · obtain ⟨index, rfl | rfl⟩ : ∃ index, position = index * 2 ∨ position = index * 2 + 1 :=
            ⟨position / 2, by omega⟩
          · have split : index * 2 + 1 + 1 + 1 = 3 + index * 2 := by omega
            rw [split, (same ⟨index, by omega⟩).1, (value ⟨index, by omega⟩).1]
          · have split : index * 2 + 1 + 1 + 1 + 1 = 4 + index * 2 := by omega
            rw [split, (same ⟨index, by omega⟩).2, (value ⟨index, by omega⟩).2]
      · rw [List.getElem?_eq_none (by omega),
          List.getElem?_eq_none (by rw [schemaKey_length]; omega)]
    exact CString.ext (List.ext_getElem? agree)

/-- A string of another length is refused before a digit of it is read. -/
theorem parseCanonicalSchemaKey_misfit (misfit : key.characters.length ≠ 15) :
    parseCanonicalSchemaKey (some key) = .error .refused := by
  rcases Nat.eq_zero_or_pos key.characters.length with empty | filled
  · have first : key.read 0 = .ok 0 := empty ▸ CString.read_last
    have letter : (0 : UInt8) ≠ 'r'.toUInt8 := by decide
    simp [parseCanonicalSchemaKey, first, letter, bind, Except.bind, throw, throwThe,
      MonadExceptOf.throw]
  · obtain ⟨first, -, present⟩ := key.exists_before filled
    have ends := endsWithin_eq key 14 filled
    by_cases short : key.characters.length < 15
    · simp [parseCanonicalSchemaKey, CString.read_before present, ends, short, bind, Except.bind,
        throw, throwThe, MonadExceptOf.throw]
    · obtain ⟨last, regular, lastPresent⟩ :=
        key.exists_before (show 15 < _ by omega)
      simp [parseCanonicalSchemaKey, CString.read_before present, ends, short,
        CString.read_before lastPresent, regular, bind, Except.bind, throw, throwThe,
        MonadExceptOf.throw]

theorem parseCanonicalSchemaKey_fit (long : key.characters.length = 15) :
    parseCanonicalSchemaKey (some key) =
      if key.characters[0]? = some 'r'.toUInt8 then
        match readIdentity key with
        | .ok identity => if validIdentity identity then .ok identity else .error .refused
        | .error reason => .error reason
      else .error .refused := by
  obtain ⟨first, -, present⟩ := key.exists_before (show 0 < _ by omega)
  have ends := endsWithin_eq key 14 (show 1 ≤ _ by omega)
  have last : key.read 15 = .ok 0 := long ▸ CString.read_last
  rw [present]
  by_cases letter : first = 'r'.toUInt8
  · cases read : readIdentity key <;>
      simp [parseCanonicalSchemaKey, CString.read_before present, ends, long, last, letter, read,
        bind, Except.bind, pure, Except.pure, throw, throwThe, MonadExceptOf.throw]
  · simp [parseCanonicalSchemaKey, CString.read_before present, letter, bind, Except.bind, throw,
      throwThe, MonadExceptOf.throw]

theorem parseCanonicalSchemaKey_eq_ok :
    parseCanonicalSchemaKey (some key) = .ok identity ↔
      key = schemaKey identity ∧ validIdentity identity := by
  by_cases long : key.characters.length = 15
  · rw [parseCanonicalSchemaKey_fit long, schemaKey_characters long, and_assoc,
      ← readIdentity_eq_ok long]
    split_ifs with letter
    · cases readIdentity key with
      | error reason => simp
      | ok read =>
          by_cases valid : validIdentity read
          · simp only [valid, if_true, letter, true_and, Except.ok.injEq]
            exact ⟨fun same => ⟨same, same ▸ valid⟩, fun same => same.1⟩
          · simp only [valid, letter, true_and, Except.ok.injEq]
            exact ⟨fun refused => by simp at refused,
              fun ⟨same, other⟩ => absurd (same ▸ other) valid⟩
    · simp [letter]
  · rw [parseCanonicalSchemaKey_misfit long]
    have other : key ≠ schemaKey identity := by
      rintro rfl
      exact long schemaKey_length
    simp [other]

theorem parseCanonicalSchemaKey_defined (key : CString) :
    parseCanonicalSchemaKey (some key) ≠ .error .undefined := by
  by_cases long : key.characters.length = 15
  · rw [parseCanonicalSchemaKey_fit long]
    have defined := readIdentity_defined long
    split_ifs
    · cases read : readIdentity key with
      | error reason => simpa [read] using defined
      | ok identity => cases valid : validIdentity identity <;> simp [valid]
    · simp
  · rw [parseCanonicalSchemaKey_misfit long]
    simp

theorem parseSchemaKey_eq_ok :
    parseSchemaKey (some key) = .ok identity ↔
      key = schemaKey identity ∧ validIdentity identity := by
  rw [← parseCanonicalSchemaKey_eq_ok]
  unfold parseSchemaKey
  cases parsed : parseCanonicalSchemaKey (some key) with
  | error reason => simp [bind, Except.bind]
  | ok read =>
      have canonical := (parseCanonicalSchemaKey_eq_ok.mp parsed).1
      simp [bind, Except.bind, pure, Except.pure, ← canonical]

theorem parseSchemaKey_defined : parseSchemaKey (some key) ≠ .error .undefined := by
  have defined := parseCanonicalSchemaKey_defined key
  unfold parseSchemaKey
  cases parsed : parseCanonicalSchemaKey (some key) with
  | error reason => simpa [bind, Except.bind, parsed] using defined
  | ok read =>
      have canonical := (parseCanonicalSchemaKey_eq_ok.mp parsed).1
      simp [bind, Except.bind, pure, Except.pure, ← canonical]

/-- The digits of a byte are those of no other byte. -/
theorem digits_inj {first second : UInt8} (high : highDigit first = highDigit second)
    (low : lowDigit first = lowDigit second) : first = second := by
  have highSame := (lowerHexValue_digits first).1.symm.trans
    (high ▸ (lowerHexValue_digits second).1)
  have lowSame := (lowerHexValue_digits first).2.symm.trans
    (low ▸ (lowerHexValue_digits second).2)
  rw [← nibbles_of_byte first, Option.some.inj highSame, Option.some.inj lowSame,
    nibbles_of_byte second]

theorem schemaKey_injective : Function.Injective schemaKey := by
  intro first second same
  obtain ⟨-, ⟨typeHigh, typeLow⟩, value⟩ := (schemaKey_characters schemaKey_length).mp same
  obtain ⟨-, ⟨ownHigh, ownLow⟩, own⟩ :=
    (schemaKey_characters schemaKey_length).mp (Eq.refl (schemaKey first))
  have type : first.type = second.type :=
    digits_inj (Option.some.inj (ownHigh.symm.trans typeHigh))
      (Option.some.inj (ownLow.symm.trans typeLow))
  have values : first.value = second.value := by
    refine Vector.ext fun index before => ?_
    have high := (own ⟨index, before⟩).1.symm.trans (value ⟨index, before⟩).1
    have low := (own ⟨index, before⟩).2.symm.trans (value ⟨index, before⟩).2
    exact digits_inj (Option.some.inj high) (Option.some.inj low)
  cases first
  cases second
  exact StoreIdentity.mk.injEq .. |>.mpr ⟨type, values⟩

/-! ### Association words -/

theorem BondClass.ofCode_eq_some {code : UInt32} {bondClass : BondClass} :
    BondClass.ofCode code = some bondClass ↔ code = bondClass.code := by
  constructor
  · intro found
    unfold ofCode at found
    have coded := List.find?_some found
    exact (of_decide_eq_true coded).symm
  · rintro rfl
    cases bondClass <;> rfl

/-- A word is put together again from what the decoder takes out of it. -/
theorem word_joined (value : UInt32) :
    value &&& (0xffff0000 : UInt32) ||| ((value >>> 8) &&& (0xff : UInt32)) <<< 8 |||
      value &&& (0xff : UInt32) = value := by
  apply UInt32.toBitVec_inj.mp
  apply BitVec.eq_of_getLsbD_eq
  intro index inside
  interval_cases index <;> simp

theorem encodeAssociation_decodeAssociation {value : UInt32}
    (accepted : (decodeAssociation value).state ≠ .invalid) :
    encodeAssociation (decodeAssociation value) = value := by
  revert accepted
  unfold decodeAssociation
  cases known : BondClass.ofCode ((value >>> 8) &&& 0xff) with
  | none => simp
  | some bondClass =>
      have code := BondClass.ofCode_eq_some.mp known
      have joined := word_joined value
      dsimp only
      split_ifs with foreign pending complete <;> intro accepted
      · exact absurd rfl accepted
      · rwa [not_not.mp (not_or.mp foreign).1, code, pending] at joined
      · rwa [not_not.mp (not_or.mp foreign).1, code, complete] at joined
      · exact absurd rfl accepted

/-- Two identities never share a key, no key has a second spelling, and no string is read
past its end. Likewise a word stands for an association exactly when it is the code of
one that was begun for a class that is not strict. -/
theorem keys_and_words_exact :
    (∀ identity, parseSchemaKey (some (schemaKey identity)) =
        if validIdentity identity then .ok identity else .error .refused) ∧
      (∀ key identity, parseSchemaKey (some key) = .ok identity → key = schemaKey identity) ∧
      (∀ key, parseSchemaKey (some key) ≠ .error .undefined) ∧
      (∀ first second, schemaKey first = schemaKey second → first = second) ∧
      (∀ value, (decodeAssociation value).state ≠ .invalid ↔
        ∃ record, (record.state = .pending ∨ record.state = .complete) ∧
          record.bondClass ≠ .strictComposite ∧ value = encodeAssociation record) ∧
      ∀ record, (record.state = .pending ∨ record.state = .complete) →
        record.bondClass ≠ .strictComposite →
          decodeAssociation (encodeAssociation record) = record := by
  refine ⟨fun identity => ?_, fun key identity read => (parseSchemaKey_eq_ok.mp read).1,
    fun key => parseSchemaKey_defined, fun first second same => schemaKey_injective same,
    fun value => ⟨fun accepted => ?_, ?_⟩, fun record => decode_encode⟩
  · split_ifs with valid
    · exact parseSchemaKey_eq_ok.mpr ⟨rfl, valid⟩
    · cases parsed : parseSchemaKey (some (schemaKey identity)) with
      | error reason =>
          cases reason with
          | refused => rfl
          | undefined => exact absurd parsed parseSchemaKey_defined
      | ok other =>
          obtain ⟨same, sound⟩ := parseSchemaKey_eq_ok.mp parsed
          exact absurd (schemaKey_injective same ▸ sound) valid
  · rcases decodeAssociation_begun value with invalid | ⟨begun, relaxed⟩
    · exact absurd invalid accepted
    · exact ⟨_, begun, relaxed, (encodeAssociation_decodeAssociation accepted).symm⟩
  · rintro ⟨record, begun, relaxed, rfl⟩
    rw [decode_encode begun relaxed]
    rcases begun with begun | begun <;> simp [begun]

end HidBot.Bonds
