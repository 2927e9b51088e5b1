import Mathlib.Computability.RegularExpressions

/-!
# Patterns

The forms that regular expressions are written in, and the words that each of them
accepts.
-/

namespace HidBot.Text

variable {α : Type}

/-- The pattern accepts the whole word. -/
def Accepts (pattern : RegularExpression α) (word : List α) : Prop := word ∈ pattern.matches'

section Forms

variable {pattern other separator : RegularExpression α} {word : List α}

theorem accepts_char {letter : α} : Accepts (.char letter) word ↔ word = [letter] := by
  rw [Accepts, RegularExpression.matches'_char]
  exact Set.mem_singleton_iff

theorem accepts_mul : Accepts (pattern * other) word ↔
    ∃ before after, Accepts pattern before ∧ Accepts other after ∧ word = before ++ after := by
  unfold Accepts
  rw [RegularExpression.matches'_mul, Language.mem_mul]
  constructor
  · rintro ⟨before, first, after, second, rfl⟩
    exact ⟨before, after, first, second, rfl⟩
  · rintro ⟨before, after, first, second, rfl⟩
    exact ⟨before, first, after, second, rfl⟩

theorem accepts_add :
    Accepts (pattern + other) word ↔ Accepts pattern word ∨ Accepts other word := by
  rw [Accepts, RegularExpression.matches'_add, Language.mem_add, Accepts, Accepts]

theorem accepts_star : Accepts pattern.star word ↔
    ∃ words : List (List α), (∀ part ∈ words, Accepts pattern part) ∧ word = words.flatten := by
  unfold Accepts
  rw [RegularExpression.matches'_star, Language.mem_kstar]
  exact exists_congr fun words => and_comm

/-- `[..]`: one of the letters. -/
def oneOf (letters : List α) : RegularExpression α :=
  letters.foldr (fun letter rest => .char letter + rest) 0

/-- `a-z` between the brackets: the letters from the first to the last. -/
def letters (first last : Char) : List Char :=
  (List.range (last.toNat + 1 - first.toNat)).map fun offset => Char.ofNat (first.toNat + offset)

/-- `(..)?` -/
def optional (pattern : RegularExpression α) : RegularExpression α := pattern + 1

/-- `(..)+` -/
def oneOrMore (pattern : RegularExpression α) : RegularExpression α := pattern * pattern.star

/-- `(..){0,n}` -/
def upTo : ℕ → RegularExpression α → RegularExpression α
  | 0, _ => 1
  | n + 1, pattern => optional (pattern * upTo n pattern)

/-- `p(sp)*`: one or more, with separators between them. -/
def separated (separator pattern : RegularExpression α) : RegularExpression α :=
  pattern * (separator * pattern).star

theorem accepts_oneOf {letters : List α} :
    Accepts (oneOf letters) word ↔ ∃ letter ∈ letters, word = [letter] := by
  induction letters with
  | nil =>
      refine iff_of_false (fun accepts => ?_) (by simp)
      rw [oneOf, List.foldr_nil, Accepts, RegularExpression.matches'_zero] at accepts
      exact accepts
  | cons letter letters ih =>
      have rest : Accepts (oneOf (letter :: letters)) word ↔
          Accepts (.char letter) word ∨ Accepts (oneOf letters) word := accepts_add
      rw [rest, ih, accepts_char]
      simp

theorem mem_letters {first last letter : Char} (ascii : last.toNat < 128) :
    letter ∈ letters first last ↔ first ≤ letter ∧ letter ≤ last := by
  have order {low high : Char} : low ≤ high ↔ low.toNat ≤ high.toNat := UInt32.le_iff_toNat_le
  rw [letters, List.mem_map, order, order]
  constructor
  · rintro ⟨offset, member, rfl⟩
    have inside := List.mem_range.mp member
    have valid : (first.toNat + offset).isValidChar := .inl (by omega)
    have same : (Char.ofNat (first.toNat + offset)).toNat = first.toNat + offset := by
      rw [Char.ofNat, dif_pos valid]
      rfl
    omega
  · intro between
    refine ⟨letter.toNat - first.toNat, List.mem_range.mpr (by omega), ?_⟩
    rw [Nat.add_sub_cancel' between.1, Char.ofNat_toNat]

theorem accepts_optional : Accepts (optional pattern) word ↔ Accepts pattern word ∨ word = [] := by
  refine accepts_add.trans (or_congr_right ?_)
  rw [Accepts, RegularExpression.matches'_epsilon, Language.mem_one]

theorem accepts_star_oneOf {letters : List α} :
    Accepts (oneOf letters).star word ↔ ∀ letter ∈ word, letter ∈ letters := by
  rw [accepts_star]
  constructor
  · rintro ⟨words, each, rfl⟩ letter member
    obtain ⟨part, inside, here⟩ := List.mem_flatten.mp member
    obtain ⟨only, found, rfl⟩ := accepts_oneOf.mp (each part inside)
    exact List.mem_singleton.mp here ▸ found
  · intro each
    have whole : word = (word.map ([·])).flatten := (List.flatMap_singleton' word).symm
    refine ⟨word.map ([·]), fun part inside => ?_, whole⟩
    obtain ⟨letter, member, rfl⟩ := List.mem_map.mp inside
    exact accepts_oneOf.mpr ⟨letter, each letter member, rfl⟩

theorem accepts_oneOrMore_oneOf {letters : List α} :
    Accepts (oneOrMore (oneOf letters)) word ↔ word ≠ [] ∧ ∀ letter ∈ word, letter ∈ letters := by
  rw [oneOrMore, accepts_mul]
  constructor
  · rintro ⟨before, after, first, rest, rfl⟩
    obtain ⟨letter, found, rfl⟩ := accepts_oneOf.mp first
    refine ⟨by simp, fun other member => ?_⟩
    rcases List.mem_cons.mp member with rfl | later
    · exact found
    · exact accepts_star_oneOf.mp rest other later
  · rintro ⟨nonempty, each⟩
    obtain ⟨letter, after, rfl⟩ := List.exists_cons_of_ne_nil nonempty
    refine ⟨[letter], after, accepts_oneOf.mpr ⟨letter, each letter (by simp), rfl⟩, ?_, rfl⟩
    exact accepts_star_oneOf.mpr fun other later => each other (List.mem_cons_of_mem _ later)

theorem accepts_upTo_oneOf {letters : List α} {n : ℕ} :
    Accepts (upTo n (oneOf letters)) word ↔
      word.length ≤ n ∧ ∀ letter ∈ word, letter ∈ letters := by
  induction n generalizing word with
  | zero =>
      rw [upTo, Accepts, RegularExpression.matches'_epsilon, Language.mem_one]
      constructor
      · rintro rfl
        simp
      · exact fun short => List.length_eq_zero_iff.mp (Nat.le_zero.mp short.1)
  | succ n ih =>
      rw [upTo, accepts_optional, accepts_mul]
      constructor
      · rintro (⟨before, after, first, rest, rfl⟩ | rfl)
        · obtain ⟨letter, found, rfl⟩ := accepts_oneOf.mp first
          have later := ih.mp rest
          exact ⟨by simpa using later.1, by simpa using ⟨found, later.2⟩⟩
        · simp
      · rintro ⟨short, each⟩
        cases word with
        | nil => exact .inr rfl
        | cons letter after =>
            refine .inl ⟨[letter], after, accepts_oneOf.mpr ⟨letter, each letter (by simp), rfl⟩,
              ih.mpr ⟨by simpa using short, ?_⟩, rfl⟩
            exact fun other later => each other (List.mem_cons_of_mem _ later)

/-- The parts of a word are accepted, one after the other. -/
theorem accepts_separated {letter : α} : Accepts (separated (.char letter) pattern) word ↔
    ∃ parts : List (List α), parts ≠ [] ∧ (∀ part ∈ parts, Accepts pattern part) ∧
      word = [letter].intercalate parts := by
  have step {part : List α} : Accepts (.char letter * pattern) part ↔
      ∃ rest, Accepts pattern rest ∧ part = letter :: rest := by
    rw [accepts_mul]
    constructor
    · rintro ⟨before, after, first, rest, rfl⟩
      exact ⟨after, rest, by rw [accepts_char.mp first]; rfl⟩
    · rintro ⟨rest, accepts, rfl⟩
      exact ⟨[letter], rest, accepts_char.mpr rfl, accepts, rfl⟩
  have joined (first : List α) (rest : List (List α)) :
      [letter].intercalate (first :: rest) = first ++ (rest.map (letter :: ·)).flatten := by
    induction rest generalizing first with
    | nil => simp [List.intercalate]
    | cons second rest ih =>
        rw [List.intercalate_cons_cons, ih]
        simp
  rw [separated, accepts_mul]
  constructor
  · rintro ⟨first, after, accepts, more, rfl⟩
    obtain ⟨words, each, rfl⟩ := accepts_star.mp more
    have parts : ∃ rest : List (List α), (∀ part ∈ rest, Accepts pattern part) ∧
        words = rest.map (letter :: ·) := by
      clear more
      induction words with
      | nil => exact ⟨[], by simp, rfl⟩
      | cons word words ih =>
          obtain ⟨rest, later, rfl⟩ := ih fun part member => each part (by simp [member])
          obtain ⟨part, here, rfl⟩ := step.mp (each word (by simp))
          exact ⟨part :: rest, List.forall_mem_cons.mpr ⟨here, later⟩, rfl⟩
    obtain ⟨rest, later, rfl⟩ := parts
    exact ⟨first :: rest, by simp, List.forall_mem_cons.mpr ⟨accepts, later⟩,
      (joined first rest).symm⟩
  · rintro ⟨parts, nonempty, each, rfl⟩
    obtain ⟨first, rest, rfl⟩ := List.exists_cons_of_ne_nil nonempty
    refine ⟨first, (rest.map (letter :: ·)).flatten, each first (by simp),
      accepts_star.mpr ⟨_, fun word member => ?_, rfl⟩, joined first rest⟩
    obtain ⟨part, inside, rfl⟩ := List.mem_map.mp member
    exact step.mpr ⟨part, each part (by simp [inside]), rfl⟩

/-- Where the parts have no separator, they are what the separators cut out. -/
theorem accepts_separated_iff [DecidableEq α] {letter : α}
    (apart : ∀ part, Accepts pattern part → letter ∉ part) :
    Accepts (separated (.char letter) pattern) word ↔
      ∀ part ∈ word.splitOn letter, Accepts pattern part := by
  rw [accepts_separated]
  constructor
  · rintro ⟨parts, nonempty, each, rfl⟩
    have whole (part) (member : part ∈ parts) := apart part (each part member)
    rwa [List.splitOn_intercalate letter whole nonempty]
  · intro each
    exact ⟨word.splitOn letter, List.splitOn_ne_nil letter word, each,
      (List.intercalate_splitOn letter).symm⟩

end Forms

/-- The pattern matches the whole word. -/
def fullmatch [DecidableEq α] (pattern : RegularExpression α) (word : List α) : Bool :=
  pattern.rmatch word

theorem fullmatch_iff [DecidableEq α] {pattern : RegularExpression α} {word : List α} :
    fullmatch pattern word = true ↔ Accepts pattern word :=
  RegularExpression.rmatch_iff_matches' pattern word

end HidBot.Text
