import HidBot.Identity.Version

/-!
# Firmware identity

The scanners of `firmware_identity`: they accept a version or a build profile by the
positions of its separators.
-/

namespace HidBot.FirmwareIdentity

open Identity
open Text (Canonical)

def versionMaxBytes : ℕ := 31

def buildProfileMaxBytes : ℕ := 31

def isAsciiAlphanumeric (value : Char) : Bool :=
  ('0' ≤ value ∧ value ≤ '9') ∨ ('A' ≤ value ∧ value ≤ 'Z') ∨ ('a' ≤ value ∧ value ≤ 'z')

def isDecimal (value : Char) : Bool := '0' ≤ value ∧ value ≤ '9'

def isNumericIdentifier (value : List Char) : Bool :=
  if value = [] then false
  else if 1 < value.length ∧ value.head? = some '0' then false
  else value.all isDecimal

def isPrereleaseIdentifier (value : List Char) : Bool :=
  if value = [] then false
  else if value.any fun character => !isAsciiAlphanumeric character && character ≠ '-' then false
  else
    let hasNonDigit := value.any (!isDecimal ·)
    let hasLetterOrHyphen := value.any fun character =>
      ('A' ≤ character ∧ character ≤ 'Z') ∨ ('a' ≤ character ∧ character ≤ 'z') ∨ character = '-'
    if !hasNonDigit then isNumericIdentifier value else hasLetterOrHyphen

def isBuildIdentifier (value : List Char) : Bool :=
  if value = [] then false
  else value.all fun character => isAsciiAlphanumeric character || character = '-'

/-- The loop of `is_dot_separated` and `is_valid_build_profile`, from `segment_start` on. -/
def everySegment (separator : Char) (accepts : List Char → Bool) (value : List Char) : Bool :=
  if value = [] then false
  else
    match value.findIdx? (· = separator) with
    | none => accepts value
    | some index =>
        if accepts (value.take index) then
          everySegment separator accepts (value.drop (index + 1))
        else false
termination_by value.length
decreasing_by
  have positive := List.length_pos_iff.mpr ‹¬value = []›
  simp only [List.length_drop]
  omega

def isDotSeparated (value : List Char) (prerelease : Bool) : Bool :=
  everySegment '.' (fun segment =>
    if prerelease then isPrereleaseIdentifier segment else isBuildIdentifier segment) value

/-- The loop over the components of the core, from `core_start` on, with this many more
components to come. -/
def coreComponents : ℕ → List Char → Bool
  | 0, core =>
      match core.findIdx? (· = '.') with
      | none => isNumericIdentifier core
      | some _ => false
  | more + 1, core =>
      match core.findIdx? (· = '.') with
      | none => false
      | some separator =>
          isNumericIdentifier (core.take separator) &&
            coreComponents more (core.drop (separator + 1))

/-- The part of `is_valid_version` that follows the separators. -/
def partsValid (value : List Char) (prereleaseSeparator buildSeparator : Option ℕ) : Bool :=
  let coreEnd := min (prereleaseSeparator.getD value.length) (buildSeparator.getD value.length)
  let prereleaseEnd := buildSeparator.getD value.length
  let prereleaseValid :=
    match prereleaseSeparator with
    | some separator =>
        if buildSeparator = none ∨ separator < prereleaseEnd then
          isDotSeparated ((value.drop (separator + 1)).take (prereleaseEnd - separator - 1)) true
        else true
    | none => true
  let buildValid :=
    match buildSeparator with
    | some separator => isDotSeparated (value.drop (separator + 1)) false
    | none => true
  coreComponents 2 (value.take coreEnd) && prereleaseValid && buildValid

/-- A character that no version has. -/
def isForbidden (character : Char) : Bool :=
  0x7f < character.toNat ∨ character = ' ' ∨ character = '\t' ∨ character = '\n' ∨ character = '\r'

def isValidVersion (value : List Char) : Bool :=
  if value = [] ∨ versionMaxBytes < value.length then false
  else if value.any isForbidden then false
  else partsValid value (value.findIdx? (· = '-')) (value.findIdx? (· = '+'))

def isValidBuildProfile (value : List Char) : Bool :=
  if value = [] ∨ buildProfileMaxBytes < value.length then false
  else everySegment '-' (fun segment => segment ≠ [] && segment.all fun character =>
    ('a' ≤ character ∧ character ≤ 'z') ∨ ('0' ≤ character ∧ character ≤ '9')) value

/-! ### Identifiers -/

theorem isDecimal_eq (value : Char) : isDecimal value = value.isDigit := by
  simp [isDecimal, Char.isDigit, Char.le_def]

theorem isAsciiAlphanumeric_eq (value : Char) : isAsciiAlphanumeric value = value.isAlphanum := by
  rw [Bool.eq_iff_iff, Version.isAlphanum_iff]
  simp only [isAsciiAlphanumeric, Char.isDigit, Char.le_def, Bool.and_eq_true, decide_eq_true_eq,
    ge_iff_le]
  tauto

theorem isIdentifierLetter_eq (value : Char) :
    (isAsciiAlphanumeric value || value = '-') = Version.isIdentifierLetter value := by
  rw [isAsciiAlphanumeric_eq, Version.isIdentifierLetter]

theorem isNumericIdentifier_iff {value : List Char} :
    isNumericIdentifier value = true ↔ Canonical value := by
  have decimal : value.all isDecimal = true ↔ ∀ digit ∈ value, digit.isDigit = true := by
    simp [isDecimal_eq]
  unfold isNumericIdentifier
  split
  · exact iff_of_false Bool.false_ne_true fun canonical => canonical.nonempty ‹_›
  split
  · rename_i leading
    exact iff_of_false Bool.false_ne_true fun canonical => canonical.leading leading.1 leading.2
  · rename_i nonempty leading
    rw [decimal]
    exact ⟨fun each => ⟨nonempty, each, fun long zero => leading ⟨long, zero⟩⟩,
      fun canonical => canonical.decimal⟩

/-- An identifier that the scanner takes in a prerelease. -/
def PrereleaseIdentifier (value : List Char) : Prop := Canonical value ∨ Version.Named value

theorem isPrereleaseIdentifier_iff {value : List Char} :
    isPrereleaseIdentifier value = true ↔ PrereleaseIdentifier value := by
  have letters : (value.any fun character =>
      !isAsciiAlphanumeric character && character ≠ '-') = true ↔
      ¬∀ letter ∈ value, Version.isIdentifierLetter letter = true := by
    simp [← isIdentifierLetter_eq]
  have digits : value.any (!isDecimal ·) = true ↔ ∃ letter ∈ value, letter.isDigit = false := by
    simp [isDecimal_eq]
  unfold isPrereleaseIdentifier
  split
  · rename_i empty
    subst empty
    refine iff_of_false Bool.false_ne_true fun identifier => identifier.elim (·.nonempty rfl) ?_
    exact fun named => by simpa using named.named
  split
  · rename_i bad
    refine iff_of_false Bool.false_ne_true fun identifier => letters.mp bad ?_
    rcases identifier with canonical | named
    · exact fun letter member => by simp [Version.isIdentifierLetter, Version.isAlphanum_iff,
        canonical.decimal letter member]
    · exact named.letters
  · rename_i good
    have each := not_not.mp (mt letters.mpr good)
    dsimp only
    by_cases nonDigit : ∃ letter ∈ value, letter.isDigit = false
    · have named : Version.Named value := ⟨each, nonDigit⟩
      obtain ⟨letter, member, other⟩ := nonDigit
      rw [digits.mpr ⟨letter, member, other⟩]
      refine iff_of_true (List.any_eq_true.mpr ⟨letter, member, ?_⟩) (.inr named)
      have here := each letter member
      simpa [Version.isIdentifierLetter, Version.isAlphanum_iff, other, Char.le_def, or_assoc]
        using here
    · rw [Bool.eq_false_iff.mpr (mt digits.mp nonDigit)]
      refine isNumericIdentifier_iff.trans ⟨.inl, fun identifier => ?_⟩
      exact identifier.resolve_right fun named => nonDigit named.named

theorem isBuildIdentifier_iff {value : List Char} :
    isBuildIdentifier value = true ↔ Version.BuildIdentifier value := by
  unfold isBuildIdentifier
  simp only [isIdentifierLetter_eq]
  split
  · exact iff_of_false Bool.false_ne_true fun build => build.nonempty ‹_›
  · rw [List.all_eq_true]
    exact ⟨fun each => ⟨‹_›, each⟩, fun build => build.letters⟩

/-! ### Separators -/

theorem findIdx?_absent {separator : Char} {value : List Char} (absent : separator ∉ value) :
    value.findIdx? (· = separator) = none := by
  refine List.findIdx?_eq_none_iff.mpr fun letter member => ?_
  simpa using fun same : letter = separator => absent (same ▸ member)

theorem findIdx?_append {separator : Char} {before : List Char} (absent : separator ∉ before)
    (after : List Char) : (before ++ separator :: after).findIdx? (· = separator) =
      some before.length := by
  rw [List.findIdx?_append, findIdx?_absent absent, List.findIdx?_cons]
  simp

/-- The loop takes what every segment between the separators is. -/
theorem everySegment_iff {separator : Char} {accepts : List Char → Bool}
    (nonempty : accepts [] = false) (value : List Char) :
    everySegment separator accepts value = true ↔
      ∀ segment ∈ value.splitOn separator, accepts segment = true := by
  induction length : value.length using Nat.strong_induction_on generalizing value with
  | _ length ih =>
      by_cases present : separator ∈ value
      · obtain ⟨before, after, rfl, absent⟩ := List.eq_append_cons_of_mem present
        have nonempty : before ++ separator :: after ≠ [] := by simp
        have later := ih after.length (by simp [← length]; omega) after rfl
        have first : (before ++ separator :: after).take before.length = before := by simp
        have rest : (before ++ separator :: after).drop (before.length + 1) = after := by simp
        rw [everySegment, if_neg nonempty, findIdx?_append absent,
          List.splitOn_append_cons_self_of_not_mem absent, List.forall_mem_cons]
        dsimp only
        rw [first, rest, ← later]
        cases accepts before <;> simp
      · have alone : value.splitOn separator = [value] := List.splitOn_eq_singleton present
        rw [everySegment, findIdx?_absent present, alone]
        split
        · rename_i empty
          simp [empty, nonempty]
        · simp

/-! ### Versions -/

theorem coreComponents_last {core : List Char} :
    coreComponents 0 core = true ↔ Canonical core := by
  by_cases present : '.' ∈ core
  · obtain ⟨before, after, rfl, absent⟩ := List.eq_append_cons_of_mem present
    rw [coreComponents, findIdx?_append absent]
    refine iff_of_false Bool.false_ne_true fun canonical => ?_
    exact Bool.false_ne_true (canonical.decimal _ present)
  · rw [coreComponents, findIdx?_absent present]
    exact isNumericIdentifier_iff

theorem coreComponents_more {more : ℕ} {core : List Char} :
    coreComponents (more + 1) core = true ↔ ∃ component rest, Canonical component ∧
      coreComponents more rest = true ∧ core = component ++ '.' :: rest := by
  by_cases present : '.' ∈ core
  · obtain ⟨before, after, rfl, absent⟩ := List.eq_append_cons_of_mem present
    have first : (before ++ '.' :: after).take before.length = before := by simp
    have rest : (before ++ '.' :: after).drop (before.length + 1) = after := by simp
    rw [coreComponents, findIdx?_append absent]
    dsimp only
    rw [first, rest, Bool.and_eq_true, isNumericIdentifier_iff]
    constructor
    · exact fun both => ⟨before, after, both.1, both.2, rfl⟩
    · rintro ⟨component, rest, canonical, more, same⟩
      have absent' : '.' ∉ component :=
        fun member => Bool.false_ne_true (canonical.decimal _ member)
      have lengths := congrArg (·.findIdx? (· = '.')) same
      simp only [findIdx?_append absent, findIdx?_append absent', Option.some.injEq] at lengths
      obtain ⟨rfl, tails⟩ := List.append_inj same lengths
      obtain rfl := (List.cons.inj tails).2
      exact ⟨canonical, more⟩
  · rw [coreComponents, findIdx?_absent present]
    refine iff_of_false Bool.false_ne_true ?_
    rintro ⟨component, rest, -, -, rfl⟩
    simp at present

theorem coreComponents_iff {core : List Char} : coreComponents 2 core = true ↔
    ∃ major minor patch, Canonical major ∧ Canonical minor ∧ Canonical patch ∧
      core = major ++ '.' :: (minor ++ '.' :: patch) := by
  rw [coreComponents_more]
  simp only [coreComponents_more, coreComponents_last]
  constructor
  · rintro ⟨major, _, one, ⟨minor, patch, two, three, rfl⟩, rfl⟩
    exact ⟨major, minor, patch, one, two, three, rfl⟩
  · rintro ⟨major, minor, patch, one, two, three, rfl⟩
    exact ⟨major, _, one, ⟨minor, patch, two, three, rfl⟩, rfl⟩

theorem isDotSeparated_prerelease {value : List Char} : isDotSeparated value true = true ↔
    ∀ piece ∈ value.splitOn '.', PrereleaseIdentifier piece := by
  rw [isDotSeparated, everySegment_iff (by decide)]
  exact forall₂_congr fun piece _ => isPrereleaseIdentifier_iff

theorem isDotSeparated_build {value : List Char} : isDotSeparated value false = true ↔
    ∀ piece ∈ value.splitOn '.', Version.BuildIdentifier piece := by
  rw [isDotSeparated, everySegment_iff (by decide)]
  exact forall₂_congr fun piece _ => isBuildIdentifier_iff

/-- The scanner checks the parts that the marks tell apart. -/
theorem partsValid_text {version : Version} (parts : version.Marked) :
    partsValid version.text (version.text.findIdx? (· = '-')) (version.text.findIdx? (· = '+')) =
      (coreComponents 2 version.core && version.prerelease.all (isDotSeparated · true) &&
        version.build.all (isDotSeparated · false)) := by
  obtain ⟨core, prerelease, build⟩ := version
  have hyphen : '-' ∉ core := parts.hyphen
  have plus : '+' ∉ core := parts.plus
  cases prerelease with
  | none =>
      cases build with
      | none =>
          have text : Version.text ⟨core, none, none⟩ = core := by simp [Version.text, Version.mark]
          rw [text, findIdx?_absent hyphen, findIdx?_absent plus]
          simp [partsValid]
      | some build =>
          have text : Version.text ⟨core, none, some build⟩ = core ++ '+' :: build := by
            simp [Version.text, Version.mark]
          have later : ∀ index ∈ (core ++ '+' :: build).findIdx? (· = '-'),
              core.length ≤ index := by
            rw [List.findIdx?_append, findIdx?_absent hyphen]
            simp only [Option.none_or, Option.mem_def, Option.map_eq_some_iff]
            rintro _ ⟨offset, -, rfl⟩
            omega
          rw [text, findIdx?_append plus]
          generalize (core ++ '+' :: build).findIdx? (· = '-') = found at later
          cases found with
          | none => simp [partsValid]
          | some index => simp [partsValid, later index rfl, Nat.not_lt.mpr (later index rfl)]
  | some prerelease =>
      have apart : '+' ∉ core ++ '-' :: prerelease := by
        simpa [plus] using parts.prerelease prerelease rfl
      cases build with
      | none =>
          have text : Version.text ⟨core, some prerelease, none⟩ = core ++ '-' :: prerelease := by
            simp [Version.text, Version.mark]
          rw [text, findIdx?_append hyphen, findIdx?_absent apart]
          simp [partsValid]
      | some build =>
          have text : Version.text ⟨core, some prerelease, some build⟩ =
              core ++ '-' :: prerelease ++ '+' :: build := by
            simp [Version.text, Version.mark]
          rw [text, findIdx?_append apart, List.append_assoc, List.cons_append,
            findIdx?_append hyphen]
          have rest : (core ++ '-' :: (prerelease ++ '+' :: build)).drop
              (core.length + (prerelease.length + 1) + 1) = build := by
            have cut : core ++ '-' :: (prerelease ++ '+' :: build) =
                (core ++ '-' :: prerelease ++ ['+']) ++ build := by simp
            rw [cut]
            exact List.drop_left' (by simp [Nat.add_assoc])
          simp [partsValid, rest]

theorem PrereleaseIdentifier.letters {value : List Char} (identifier : PrereleaseIdentifier value) :
    ∀ letter ∈ value, Version.isIdentifierLetter letter = true := by
  intro letter member
  rcases identifier with canonical | named
  · simp [Version.isIdentifierLetter, Version.isAlphanum_iff, canonical.decimal letter member]
  · exact named.letters letter member

theorem isForbidden_identifier {letter : Char}
    (identifier : Version.isIdentifierLetter letter = true) : isForbidden letter = false := by
  have ascii : letter.toNat ≤ 0x7f := by
    have order {low high : Char} : low.val ≤ high.val ↔ low.toNat ≤ high.toNat :=
      UInt32.le_iff_toNat_le
    simp only [Version.isIdentifierLetter, Bool.or_eq_true, Version.isAlphanum_iff, Char.isDigit,
      Bool.and_eq_true, decide_eq_true_eq, ge_iff_le, Char.le_def, order] at identifier
    rcases identifier with (⟨-, high⟩ | ⟨-, high⟩ | ⟨-, high⟩) | rfl
    · exact Nat.le_trans high (by decide)
    · exact Nat.le_trans high (by decide)
    · exact Nat.le_trans high (by decide)
    · decide
  have blank (other : Char) (apart : Version.isIdentifierLetter other = false) : letter ≠ other :=
    fun same => Bool.false_ne_true (apart.symm.trans (same ▸ identifier))
  simp [isForbidden, Nat.not_lt.mpr ascii, blank ' ' (by decide), blank '\t' (by decide),
    blank '\n' (by decide), blank '\r' (by decide)]

theorem allowed_of_valid {version : Version} (valid : version.Valid PrereleaseIdentifier) :
    ∀ letter ∈ version.text, isForbidden letter = false := by
  have pieces {part : List Char} (each : ∀ piece ∈ part.splitOn '.', ∀ letter ∈ piece,
      Version.isIdentifierLetter letter = true) : ∀ letter ∈ part, isForbidden letter = false := by
    intro letter member
    by_cases dot : letter = '.'
    · rw [dot]
      decide
    · obtain ⟨piece, inside, here⟩ := Version.mem_pieces member dot
      exact isForbidden_identifier (each piece inside letter here)
  have numeral {digits : List Char} (canonical : Canonical digits) :
      ∀ letter ∈ digits, isForbidden letter = false := fun letter member =>
    isForbidden_identifier (PrereleaseIdentifier.letters (.inl canonical) letter member)
  obtain ⟨major, minor, patch, one, two, three, core⟩ := valid.core
  intro letter member
  simp only [Version.text, List.mem_append] at member
  rcases member with (inside | inside) | inside
  · rw [core] at inside
    simp only [List.mem_append, List.mem_cons] at inside
    rcases inside with here | rfl | here | rfl | here
    · exact numeral one letter here
    · decide
    · exact numeral two letter here
    · decide
    · exact numeral three letter here
  · cases found : version.prerelease with
    | none => simp [found, Version.mark] at inside
    | some part =>
        rw [found, Version.mark, List.mem_cons] at inside
        rcases inside with rfl | inside
        · decide
        · exact pieces (fun piece here => (valid.prerelease part found piece here).letters) _ inside
  · cases found : version.build with
    | none => simp [found, Version.mark] at inside
    | some part =>
        rw [found, Version.mark, List.mem_cons] at inside
        rcases inside with rfl | inside
        · decide
        · exact pieces (fun piece here => (valid.build part found piece here).letters) _ inside

/-- The scanner takes the versions that fit. -/
theorem isValidVersion_iff (value : List Char) : isValidVersion value = true ↔
    value.length ≤ versionMaxBytes ∧ (Version.read value).Valid PrereleaseIdentifier := by
  obtain ⟨whole, marked⟩ := Version.text_read value
  have checks := partsValid_text marked
  rw [whole] at checks
  have valid : partsValid value (value.findIdx? (· = '-')) (value.findIdx? (· = '+')) = true ↔
      (Version.read value).Valid PrereleaseIdentifier := by
    rw [checks, Bool.and_eq_true, Bool.and_eq_true, coreComponents_iff, Option.all_eq_true,
      Option.all_eq_true]
    simp only [isDotSeparated_prerelease, isDotSeparated_build]
    exact ⟨fun valid => ⟨valid.1.1, valid.1.2, valid.2⟩,
      fun valid => ⟨⟨valid.core, valid.prerelease⟩, valid.build⟩⟩
  unfold isValidVersion
  split
  · rename_i refused
    refine iff_of_false Bool.false_ne_true fun accepted => ?_
    rcases refused with rfl | long
    · obtain ⟨major, minor, patch, -, -, -, core⟩ := accepted.2.core
      simp [Version.read, Version.marked] at core
    · exact Nat.not_lt.mpr accepted.1 long
  split
  · rename_i forbidden
    refine iff_of_false Bool.false_ne_true fun accepted => ?_
    obtain ⟨letter, member, refused⟩ := List.any_eq_true.mp forbidden
    have allowed := allowed_of_valid accepted.2 letter (whole.symm ▸ member)
    exact Bool.false_ne_true (allowed.symm.trans refused)
  · rename_i short allowed
    rw [valid]
    exact ⟨fun accepted => ⟨Nat.not_lt.mp (not_or.mp short).2, accepted⟩,
      fun accepted => accepted.2⟩

end HidBot.FirmwareIdentity
