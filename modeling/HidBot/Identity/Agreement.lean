import HidBot.Identity.Patterns
import HidBot.Identity.Scanner

/-!
# The agreement of the grammars

The firmware and the host protocol take the same versions and the same build profiles. A
bundle takes no version with a number among its prerelease identifiers, and it takes build
profiles with hyphens that separate nothing.
-/

namespace HidBot.Identity

open FirmwareIdentity Text

/-- A text that the firmware can hold. -/
structure ShortAscii where
  characters : List Char
  short : characters.length ≤ 31
  ascii : ∀ character ∈ characters, character.toNat < 128

def VersionsAgree (value : List Char) : Prop :=
  isValidVersion value = Protocol.acceptsVersion value ∧
    isValidVersion value = Artifact.validateVersion value

def ProfilesAgree (value : List Char) : Prop :=
  isValidBuildProfile value = Protocol.acceptsBuildProfile value ∧
    isValidBuildProfile value = Artifact.validateProfile value

/-- A version with a number among its prerelease identifiers. -/
structure NumberedPrerelease (value : List Char) : Prop where
  valid : (Version.read value).Valid PrereleaseIdentifier
  numbered : ∃ part ∈ (Version.read value).prerelease, ∃ piece ∈ part.splitOn '.', Canonical piece

/-- Letters of a profile and hyphens, the first of them no hyphen, where nothing stands
between two hyphens or after the last one. -/
structure LooseHyphens (value : List Char) : Prop where
  first : ∃ letter ∈ value.head?, letter ∈ profileLetters
  letters : ∀ letter ∈ value, letter ∈ profileLetters ++ ['-']
  loose : [] ∈ value.splitOn '-'

/-! ### Versions -/

section Versions

variable {value : List Char}

theorem not_canonical {identifier : List Char} (named : Version.Named identifier) :
    ¬Canonical identifier := by
  obtain ⟨letter, member, other⟩ := named.named
  exact fun canonical => absurd (canonical.decimal letter member) (Bool.eq_false_iff.mp other)

theorem nonempty_of_valid {identifier : List Char → Prop}
    (valid : (Version.read value).Valid identifier) : value ≠ [] := by
  rintro rfl
  obtain ⟨major, minor, patch, -, -, -, core⟩ := valid.core
  simp [Version.read, Version.marked] at core

theorem isValidVersion_short (text : ShortAscii) : isValidVersion text.characters = true ↔
    (Version.read text.characters).Valid PrereleaseIdentifier :=
  (isValidVersion_iff _).trans (and_iff_right text.short)

theorem acceptsVersion_short (text : ShortAscii) :
    Protocol.acceptsVersion text.characters = true ↔
      (Version.read text.characters).Valid PrereleaseIdentifier := by
  have identifier (piece : List Char) : Accepts Protocol.semverIdentifier piece ↔
      PrereleaseIdentifier piece :=
    accepts_add.trans (or_congr accepts_numberPattern accepts_namedPattern)
  have pattern : Accepts (versionPattern Protocol.semverIdentifier) text.characters ↔
      (Version.read text.characters).Valid PrereleaseIdentifier :=
    accepts_versionPattern identifier fun _ identifier => identifier.letters
  have bounded (nonempty : text.characters ≠ []) :
      Protocol.boundedAscii text.characters Protocol.maxFirmwareVersionBytes = true := by
    simp [Protocol.boundedAscii, nonempty, Protocol.maxFirmwareVersionBytes, text.short]
    exact text.ascii
  rw [Protocol.acceptsVersion, Bool.and_eq_true, fullmatch_iff, Protocol.semverPattern, pattern]
  exact and_iff_right_of_imp fun valid => bounded (nonempty_of_valid valid)

theorem validateVersion_short (text : ShortAscii) :
    Artifact.validateVersion text.characters = true ↔
      (Version.read text.characters).Valid Version.Named := by
  have pattern : Accepts (versionPattern namedPattern) text.characters ↔
      (Version.read text.characters).Valid Version.Named :=
    accepts_versionPattern (fun _ => accepts_namedPattern) fun _ named => named.letters
  rw [Artifact.validateVersion, Bool.and_eq_true, fullmatch_iff, Artifact.semver, pattern]
  refine and_iff_left ?_
  simpa using text.short

/-- A bundle refuses the versions with a numbered prerelease, and no others. -/
theorem named_iff : (Version.read value).Valid Version.Named ↔
    (Version.read value).Valid PrereleaseIdentifier ∧ ¬NumberedPrerelease value := by
  constructor
  · intro valid
    refine ⟨⟨valid.core, fun part found piece inside => .inr ?_, valid.build⟩, ?_⟩
    · exact valid.prerelease part found piece inside
    · rintro ⟨-, part, found, piece, inside, canonical⟩
      exact not_canonical (valid.prerelease part found piece inside) canonical
  · rintro ⟨valid, unnumbered⟩
    refine ⟨valid.core, fun part found piece inside => ?_, valid.build⟩
    refine (valid.prerelease part found piece inside).resolve_left fun canonical => ?_
    exact unnumbered ⟨valid, part, found, piece, inside, canonical⟩

theorem versions_agree (text : ShortAscii) :
    VersionsAgree text.characters ↔ ¬NumberedPrerelease text.characters := by
  have protocol : isValidVersion text.characters = Protocol.acceptsVersion text.characters :=
    Bool.eq_iff_iff.mpr ((isValidVersion_short text).trans (acceptsVersion_short text).symm)
  have artifact := (validateVersion_short text).trans named_iff
  rw [VersionsAgree, and_iff_right protocol, Bool.eq_iff_iff, isValidVersion_short, artifact]
  constructor
  · exact fun agree numbered => (agree.mp numbered.valid).2 numbered
  · exact fun unnumbered => ⟨fun valid => ⟨valid, unnumbered⟩, fun valid => valid.1⟩

end Versions

/-! ### Build profiles -/

section Profiles

variable {value : List Char}

/-- Segments of letters, and hyphens between them. -/
def Segmented (value : List Char) : Prop :=
  ∀ segment ∈ value.splitOn '-', segment ≠ [] ∧ ∀ letter ∈ segment, letter ∈ profileLetters

theorem Segmented.nonempty (segmented : Segmented value) : value ≠ [] := by
  rintro rfl
  exact (segmented [] (by simp)).1 rfl

theorem isValidBuildProfile_short (text : ShortAscii) :
    isValidBuildProfile text.characters = true ↔ Segmented text.characters := by
  have letters (letter : Char) : letter ∈ profileLetters ↔
      ('a' ≤ letter ∧ letter ≤ 'z') ∨ ('0' ≤ letter ∧ letter ≤ '9') := by
    rw [profileLetters, List.mem_append, mem_letters (by decide), mem_letters (by decide)]
  unfold isValidBuildProfile
  split
  · rename_i refused
    have empty := refused.resolve_right (Nat.not_lt.mpr text.short)
    exact iff_of_false Bool.false_ne_true fun segmented => segmented.nonempty empty
  · rw [everySegment_iff (by decide)]
    refine forall₂_congr fun segment _ => ?_
    simp [letters]

theorem acceptsBuildProfile_short (text : ShortAscii) :
    Protocol.acceptsBuildProfile text.characters = true ↔ Segmented text.characters := by
  have apart (segment : List Char) (accepted : Accepts (oneOrMore (oneOf profileLetters)) segment) :
      '-' ∉ segment := fun member =>
    absurd ((accepts_oneOrMore_oneOf.mp accepted).2 _ member) (by decide)
  have bounded (nonempty : text.characters ≠ []) :
      Protocol.boundedAscii text.characters Protocol.maxBuildProfileBytes = true := by
    simp [Protocol.boundedAscii, nonempty, Protocol.maxBuildProfileBytes, text.short]
    exact text.ascii
  rw [Protocol.acceptsBuildProfile, Bool.and_eq_true, fullmatch_iff, Protocol.buildProfilePattern,
    accepts_separated_iff apart]
  simp only [accepts_oneOrMore_oneOf]
  exact and_iff_right_of_imp fun segmented => bounded (Segmented.nonempty segmented)

theorem accepts_profile : Accepts Artifact.profile value ↔
    ∃ first rest, value = first :: rest ∧ first ∈ profileLetters ∧ rest.length ≤ 30 ∧
      ∀ letter ∈ rest, letter ∈ profileLetters ++ ['-'] := by
  rw [Artifact.profile, accepts_mul]
  simp only [accepts_oneOf, accepts_upTo_oneOf]
  constructor
  · rintro ⟨_, rest, ⟨first, inside, rfl⟩, ⟨short, each⟩, rfl⟩
    exact ⟨first, rest, rfl, inside, short, each⟩
  · rintro ⟨first, rest, rfl, inside, short, each⟩
    exact ⟨[first], rest, ⟨first, inside, rfl⟩, ⟨short, each⟩, rfl⟩

theorem validateProfile_short (text : ShortAscii) :
    Artifact.validateProfile text.characters = true ↔
      Segmented text.characters ∨ LooseHyphens text.characters := by
  rw [Artifact.validateProfile, fullmatch_iff, accepts_profile]
  have short := text.short
  generalize text.characters = value at short
  constructor
  · rintro ⟨first, rest, rfl, inside, -, each⟩
    have letters : ∀ letter ∈ first :: rest, letter ∈ profileLetters ++ ['-'] :=
      List.forall_mem_cons.mpr ⟨List.mem_append_left _ inside, each⟩
    by_cases loose : [] ∈ (first :: rest).splitOn '-'
    · exact .inr ⟨⟨first, rfl, inside⟩, letters, loose⟩
    · refine .inl fun segment member => ⟨fun empty => loose (empty ▸ member), fun letter here => ?_⟩
      obtain ⟨found, other⟩ := Version.of_mem_piece member here
      exact (List.mem_append.mp (letters letter found)).resolve_right (by simpa using other)
  · have bounded {first : Char} {rest : List Char} (short : (first :: rest).length ≤ 31) :
        rest.length ≤ 30 := Nat.le_of_succ_le_succ short
    rintro (segmented | loose)
    · obtain ⟨first, rest, rfl⟩ := List.exists_cons_of_ne_nil segmented.nonempty
      have letters : ∀ letter ∈ first :: rest, letter ∈ profileLetters ++ ['-'] := by
        intro letter member
        by_cases hyphen : letter = '-'
        · simp [hyphen]
        · obtain ⟨segment, found, here⟩ := Version.mem_pieces member hyphen
          exact List.mem_append_left _ ((segmented segment found).2 letter here)
      refine ⟨first, rest, rfl, ?_, bounded short, fun letter member =>
        letters letter (List.mem_cons_of_mem _ member)⟩
      refine (List.mem_append.mp (letters first List.mem_cons_self)).resolve_right fun hyphen => ?_
      obtain rfl := List.mem_singleton.mp hyphen
      exact (segmented [] (by simp [List.splitOn_cons_eq_if_modifyHead])).1 rfl
    · obtain ⟨first, found, inside⟩ := loose.first
      obtain ⟨rest, rfl⟩ := List.head?_eq_some_iff.mp found
      exact ⟨first, rest, rfl, inside, bounded short, fun letter member =>
        loose.letters letter (List.mem_cons_of_mem _ member)⟩

theorem Segmented.not_loose (segmented : Segmented value) : ¬LooseHyphens value :=
  fun loose => (segmented [] loose.loose).1 rfl

theorem profiles_agree (text : ShortAscii) :
    ProfilesAgree text.characters ↔ ¬LooseHyphens text.characters := by
  have protocol : isValidBuildProfile text.characters =
      Protocol.acceptsBuildProfile text.characters :=
    Bool.eq_iff_iff.mpr
      ((isValidBuildProfile_short text).trans (acceptsBuildProfile_short text).symm)
  rw [ProfilesAgree, and_iff_right protocol, Bool.eq_iff_iff, isValidBuildProfile_short,
    validateProfile_short]
  constructor
  · exact fun agree loose => (agree.mpr (.inr loose)).not_loose loose
  · exact fun tight => ⟨.inl, fun accepted => accepted.resolve_right tight⟩

end Profiles

/-- **The grammars agree, up to numbered prereleases and loose hyphens.** -/
theorem grammars_agree (text : ShortAscii) :
    VersionsAgree text.characters ∧ ProfilesAgree text.characters ↔
      ¬NumberedPrerelease text.characters ∧ ¬LooseHyphens text.characters :=
  and_congr (versions_agree text) (profiles_agree text)

/-- A release candidate with its number. -/
def numberedCandidate : ShortAscii where
  characters := "1.2.3-rc.1".toList
  short := by decide
  ascii := List.forall_iff_forall_mem.mp (by decide)

theorem numberedCandidate_numbered : NumberedPrerelease numberedCandidate.characters := by
  have parts : Version.read numberedCandidate.characters =
      ⟨['1', '.', '2', '.', '3'], some ['r', 'c', '.', '1'], none⟩ := by decide
  have pieces : ['r', 'c', '.', '1'].splitOn '.' = [['r', 'c'], ['1']] := by decide
  have numeral (digit : Char) (decimal : digit.isDigit = true) : Canonical [digit] :=
    ⟨List.cons_ne_nil _ _, by simpa using decimal, by simp⟩
  have named : Version.Named ['r', 'c'] := ⟨List.forall_iff_forall_mem.mp (by decide), 'r', by simp, by decide⟩
  refine ⟨parts ▸ ⟨?_, ?_, by simp⟩, parts ▸ ⟨_, rfl, ['1'], by simp [pieces], numeral '1' rfl⟩⟩
  · exact ⟨['1'], ['2'], ['3'], numeral '1' rfl, numeral '2' rfl, numeral '3' rfl, rfl⟩
  · intro part found piece inside
    obtain rfl : ['r', 'c', '.', '1'] = part := by simpa using found
    rw [pieces] at inside
    rcases List.mem_pair.mp inside with rfl | rfl
    · exact .inr named
    · exact .inl (numeral '1' rfl)

/-- **A release candidate with its number is refused by the bundle only.** -/
theorem candidate_refused : ¬∀ text : ShortAscii,
    VersionsAgree text.characters ∧ ProfilesAgree text.characters :=
  fun agree => (versions_agree numberedCandidate).mp (agree numberedCandidate).1
    numberedCandidate_numbered

end HidBot.Identity
