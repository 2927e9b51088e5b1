import HidBot.Identity.Version
import HidBot.Text.Pattern

/-!
# Host patterns

The regular expressions by which the host checks a version and a build profile: those of
`hidbot.protocol` for what a device reports, and those of `hidbot.artifact` for what a
bundle says.
-/

namespace HidBot.Identity

open Text

/-- `[0-9]` -/
def decimals : List Char := letters '0' '9'

/-- `[0-9A-Za-z-]` -/
def identifierLetters : List Char := letters '0' '9' ++ letters 'A' 'Z' ++ letters 'a' 'z' ++ ['-']

/-- `[A-Za-z-]` -/
def namingLetters : List Char := letters 'A' 'Z' ++ letters 'a' 'z' ++ ['-']

/-- `[a-z0-9]` -/
def profileLetters : List Char := letters 'a' 'z' ++ letters '0' '9'

/-- `0|[1-9][0-9]*` -/
def numberPattern : RegularExpression Char :=
  .char '0' + oneOf (letters '1' '9') * (oneOf decimals).star

/-- `[0-9A-Za-z-]*[A-Za-z-][0-9A-Za-z-]*` -/
def namedPattern : RegularExpression Char :=
  (oneOf identifierLetters).star * oneOf namingLetters * (oneOf identifierLetters).star

/-- `[0-9A-Za-z-]+` -/
def buildPattern : RegularExpression Char := oneOrMore (oneOf identifierLetters)

/-- The two patterns of a version differ in the identifiers of a prerelease. -/
def versionPattern (identifier : RegularExpression Char) : RegularExpression Char :=
  numberPattern * .char '.' * numberPattern * .char '.' * numberPattern *
    optional (.char '-' * separated (.char '.') identifier) *
    optional (.char '+' * separated (.char '.') buildPattern)

namespace Protocol

def maxFirmwareVersionBytes : ℕ := 31

def maxBuildProfileBytes : ℕ := 31

/-- `_bounded_ascii`, of a string. -/
def boundedAscii (value : List Char) (maximum : ℕ) : Bool :=
  value ≠ [] && value.all (·.toNat < 128) && value.length ≤ maximum

/-- `_SEMVER_IDENTIFIER` -/
def semverIdentifier : RegularExpression Char := numberPattern + namedPattern

/-- `_SEMVER_PATTERN` -/
def semverPattern : RegularExpression Char := versionPattern semverIdentifier

/-- `BUILD_PROFILE_PATTERN` -/
def buildProfilePattern : RegularExpression Char :=
  separated (.char '-') (oneOrMore (oneOf profileLetters))

/-- The check of the version in `_parse_firmware_identity`. -/
def acceptsVersion (value : List Char) : Bool :=
  boundedAscii value maxFirmwareVersionBytes && fullmatch semverPattern value

/-- The check of the build profile in `_parse_firmware_identity`. -/
def acceptsBuildProfile (value : List Char) : Bool :=
  boundedAscii value maxBuildProfileBytes && fullmatch buildProfilePattern value

end Protocol

namespace Artifact

/-- `_SEMVER` -/
def semver : RegularExpression Char := versionPattern namedPattern

/-- `_PROFILE` -/
def profile : RegularExpression Char :=
  oneOf profileLetters * upTo 30 (oneOf (profileLetters ++ ['-']))

/-- `validate_version` returns its argument. -/
def validateVersion (value : List Char) : Bool := fullmatch semver value && ¬31 < value.length

/-- `validate_profile` returns its argument. -/
def validateProfile (value : List Char) : Bool := fullmatch profile value

end Artifact

/-! ### What the patterns accept -/

section Letters

variable {letter : Char}

theorem mem_letters_iff {first last : Char} (ascii : last.toNat < 128) :
    letter ∈ letters first last ↔ first.toNat ≤ letter.toNat ∧ letter.toNat ≤ last.toNat := by
  have order {low high : Char} : low ≤ high ↔ low.toNat ≤ high.toNat := UInt32.le_iff_toNat_le
  rw [mem_letters ascii, order, order]

theorem isDigit_iff : letter.isDigit = true ↔
    '0'.toNat ≤ letter.toNat ∧ letter.toNat ≤ '9'.toNat := by
  have order {low high : Char} : low.val ≤ high.val ↔ low.toNat ≤ high.toNat :=
    UInt32.le_iff_toNat_le
  simp only [Char.isDigit, Bool.and_eq_true, decide_eq_true_eq, ge_iff_le, order]

theorem isIdentifierLetter_iff : Version.isIdentifierLetter letter = true ↔
    letter ∈ letters 'A' 'Z' ∨ letter ∈ letters 'a' 'z' ∨ letter.isDigit = true ∨ letter = '-' := by
  have order {low high : Char} : low.val ≤ high.val ↔ low.toNat ≤ high.toNat :=
    UInt32.le_iff_toNat_le
  rw [mem_letters_iff (by decide), mem_letters_iff (by decide)]
  rw [Version.isIdentifierLetter, Bool.or_eq_true, Version.isAlphanum_iff]
  simp only [decide_eq_true_eq, Char.le_def, order, or_assoc]

theorem mem_decimals : letter ∈ decimals ↔ letter.isDigit = true := by
  rw [decimals, mem_letters_iff (by decide), isDigit_iff]

theorem mem_namingLetters : letter ∈ namingLetters ↔
    Version.isIdentifierLetter letter = true ∧ letter.isDigit = false := by
  have upper : letter ∈ letters 'A' 'Z' → letter.isDigit = false := by
    rw [mem_letters_iff (by decide), ← Bool.not_eq_true, isDigit_iff]
    exact fun between digit => absurd (Nat.le_trans between.1 digit.2) (by decide)
  have lower : letter ∈ letters 'a' 'z' → letter.isDigit = false := by
    rw [mem_letters_iff (by decide), ← Bool.not_eq_true, isDigit_iff]
    exact fun between digit => absurd (Nat.le_trans between.1 digit.2) (by decide)
  rw [namingLetters, List.append_assoc, List.mem_append, List.mem_append, List.mem_singleton,
    isIdentifierLetter_iff]
  constructor
  · rintro (inside | inside | rfl)
    · exact ⟨.inl inside, upper inside⟩
    · exact ⟨.inr (.inl inside), lower inside⟩
    · decide
  · rintro ⟨inside | inside | digit | hyphen, other⟩
    · exact .inl inside
    · exact .inr (.inl inside)
    · exact absurd digit (Bool.eq_false_iff.mp other)
    · exact .inr (.inr hyphen)

theorem mem_identifierLetters :
    letter ∈ identifierLetters ↔ Version.isIdentifierLetter letter = true := by
  have digits : letter ∈ letters '0' '9' ↔ letter.isDigit = true := mem_decimals
  simp only [identifierLetters, List.mem_append, List.mem_singleton, isIdentifierLetter_iff, digits]
  tauto

end Letters

theorem accepts_numberPattern {digits : List Char} :
    Accepts numberPattern digits ↔ Canonical digits := by
  have first {letter : Char} : letter ∈ letters '1' '9' ↔ letter.isDigit = true ∧ letter ≠ '0' := by
    rw [mem_letters_iff (by decide), isDigit_iff, ne_eq, ← Char.toNat_inj]
    have bounds : '0'.toNat = 48 ∧ '1'.toNat = 49 := by decide
    omega
  rw [numberPattern, accepts_add, accepts_char, accepts_mul]
  simp only [accepts_oneOf, accepts_star_oneOf, first, mem_decimals]
  constructor
  · rintro (rfl | ⟨_, rest, ⟨letter, ⟨digit, leading⟩, rfl⟩, each, rfl⟩)
    · exact ⟨by simp, List.forall_mem_singleton.mpr rfl, by simp⟩
    · refine ⟨by simp, List.forall_mem_cons.mpr ⟨digit, each⟩, fun _ zero => leading ?_⟩
      simpa using zero
  · rintro ⟨nonempty, each, leading⟩
    obtain ⟨letter, rest, rfl⟩ := List.exists_cons_of_ne_nil nonempty
    by_cases zero : letter = '0'
    · subst zero
      cases rest with
      | nil => exact .inl rfl
      | cons _ _ => exact absurd rfl (leading (by simp))
    · refine .inr ⟨[letter], rest, ⟨letter, ⟨each letter (by simp), zero⟩, rfl⟩, ?_, rfl⟩
      exact fun other member => each other (List.mem_cons_of_mem _ member)

theorem accepts_namedPattern {identifier : List Char} :
    Accepts namedPattern identifier ↔ Version.Named identifier := by
  rw [namedPattern, accepts_mul]
  simp only [accepts_mul, accepts_oneOf, accepts_star_oneOf, mem_identifierLetters,
    mem_namingLetters]
  constructor
  · rintro ⟨_, after, ⟨before, _, first, ⟨letter, ⟨inside, named⟩, rfl⟩, rfl⟩, rest, rfl⟩
    refine ⟨fun other member => ?_, letter, by simp, named⟩
    simp only [List.append_assoc, List.singleton_append, List.mem_append, List.mem_cons] at member
    rcases member with here | rfl | here
    · exact first other here
    · exact inside
    · exact rest other here
  · rintro ⟨each, letter, member, named⟩
    obtain ⟨before, after, rfl⟩ := List.append_of_mem member
    refine ⟨before ++ [letter], after,
      ⟨before, [letter], fun other here => each other (by simp [here]),
        ⟨letter, ⟨each letter member, named⟩, rfl⟩, rfl⟩,
      fun other here => each other (by simp [here]), by simp⟩

theorem accepts_buildPattern {identifier : List Char} :
    Accepts buildPattern identifier ↔ Version.BuildIdentifier identifier := by
  rw [buildPattern, accepts_oneOrMore_oneOf]
  simp only [mem_identifierLetters]
  exact ⟨fun build => ⟨build.1, build.2⟩, fun build => ⟨build.nonempty, build.letters⟩⟩

/-- A part after its mark, or nothing. -/
theorem accepts_marked {letter : Char} {identifier : RegularExpression Char}
    {valid : List Char → Prop} (accepts : ∀ piece, Accepts identifier piece ↔ valid piece)
    (apart : ∀ piece, valid piece → '.' ∉ piece) {value : List Char} :
    Accepts (optional (.char letter * separated (.char '.') identifier)) value ↔
      ∃ part : Option (List Char), value = Version.mark letter part ∧
        ∀ inside ∈ part, ∀ piece ∈ inside.splitOn '.', valid piece := by
  have pieces {part : List Char} : Accepts (separated (.char '.') identifier) part ↔
      ∀ piece ∈ part.splitOn '.', valid piece := by
    rw [accepts_separated_iff fun piece accepted => apart piece ((accepts piece).mp accepted)]
    exact forall₂_congr fun piece _ => accepts piece
  rw [accepts_optional, accepts_mul]
  simp only [accepts_char, pieces]
  constructor
  · rintro (⟨_, part, rfl, each, rfl⟩ | rfl)
    · exact ⟨some part, rfl, by simpa using each⟩
    · exact ⟨none, rfl, by simp⟩
  · rintro ⟨part, rfl, each⟩
    cases part with
    | none => exact .inr rfl
    | some part => exact .inl ⟨[letter], part, rfl, each part rfl, rfl⟩

theorem accepts_versionPattern {identifier : RegularExpression Char}
    {valid : List Char → Prop} (accepts : ∀ piece, Accepts identifier piece ↔ valid piece)
    (letters : ∀ piece, valid piece → ∀ letter ∈ piece, Version.isIdentifierLetter letter = true)
    {value : List Char} :
    Accepts (versionPattern identifier) value ↔ (Version.read value).Valid valid := by
  have apart {piece : List Char} (each : ∀ letter ∈ piece,
      Version.isIdentifierLetter letter = true) : '.' ∉ piece :=
    fun member => Bool.false_ne_true (each _ member)
  rw [versionPattern]
  simp only [accepts_mul, accepts_numberPattern, accepts_char,
    accepts_marked accepts fun piece valid => apart (letters piece valid),
    accepts_marked (fun _ => accepts_buildPattern) fun piece build => apart build.letters]
  constructor
  · rintro ⟨_, _, ⟨_, _, ⟨_, patch, ⟨_, _, ⟨_, minor, ⟨major, _, one, rfl, rfl⟩, two, rfl⟩,
      rfl, rfl⟩, three, rfl⟩, ⟨prerelease, rfl, identifiers⟩, rfl⟩, ⟨build, rfl, builds⟩, rfl⟩
    let version : Version := ⟨major ++ '.' :: (minor ++ '.' :: patch), prerelease, build⟩
    have valid : version.Valid valid :=
      ⟨⟨major, minor, patch, one, two, three, rfl⟩, identifiers, builds⟩
    have text : major ++ ['.'] ++ minor ++ ['.'] ++ patch ++ Version.mark '-' prerelease ++
        Version.mark '+' build = version.text := by
      simp [version, Version.text]
    rw [text, Version.read_text (valid.marked letters)]
    exact valid
  · intro valid
    obtain ⟨major, minor, patch, one, two, three, core⟩ := valid.core
    have whole := (Version.text_read value).1
    generalize Version.read value = version at *
    refine ⟨_, _, ⟨_, _, ⟨_, patch, ⟨_, _, ⟨_, minor, ⟨major, _, one, rfl, rfl⟩, two, rfl⟩,
      rfl, rfl⟩, three, rfl⟩, ⟨version.prerelease, rfl, valid.prerelease⟩, rfl⟩,
      ⟨version.build, rfl, valid.build⟩, ?_⟩
    rw [← whole, Version.text, core]
    simp

end HidBot.Identity
