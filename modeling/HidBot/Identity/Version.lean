import Mathlib.Data.List.TakeWhile
import HidBot.Text.Decimal

/-!
# Versions

A version is a core of three numbers, an optional prerelease after a hyphen and an
optional build after a plus. The two marks tell the parts apart, so a text has one
reading as a version at most.
-/

namespace HidBot.Identity

open Text (Canonical)

/-- The parts of a version. -/
structure Version where
  core : List Char
  prerelease : Option (List Char) := none
  build : Option (List Char) := none
  deriving DecidableEq, Repr

namespace Version

/-- A part after its mark. -/
def mark (letter : Char) : Option (List Char) → List Char
  | none => []
  | some part => letter :: part

def text (version : Version) : List Char :=
  version.core ++ mark '-' version.prerelease ++ mark '+' version.build

/-- No part holds the mark of a later one. -/
structure Marked (version : Version) : Prop where
  hyphen : '-' ∉ version.core
  plus : '+' ∉ version.core
  prerelease : ∀ part ∈ version.prerelease, '+' ∉ part

/-- The part that a mark at the start of a text announces. -/
def marked (letter : Char) : List Char → Option (List Char)
  | [] => none
  | first :: rest => if first = letter then some rest else none

def isMark (letter : Char) : Bool := letter = '-' || letter = '+'

/-- The reading of a text as a version. -/
def read (text : List Char) : Version :=
  let core := text.takeWhile (!isMark ·)
  let rest := text.dropWhile (!isMark ·)
  match marked '-' rest with
  | none => { core, build := marked '+' rest }
  | some rest =>
      { core
        prerelease := some (rest.takeWhile (· != '+'))
        build := marked '+' (rest.dropWhile (· != '+')) }

/-- A text is cut at the first letter that stops it. -/
theorem takeWhile_append {continues : Char → Bool} {before after : List Char}
    (inside : ∀ letter ∈ before, continues letter = true)
    (stops : ∀ letter ∈ after.head?, continues letter = false) :
    (before ++ after).takeWhile continues = before ∧
      (before ++ after).dropWhile continues = after := by
  rw [List.takeWhile_append_of_pos inside, List.dropWhile_append_of_pos inside]
  cases after with
  | nil => simp
  | cons letter after =>
      have stop : ¬continues letter = true := by simpa using stops letter rfl
      rw [List.takeWhile_cons_of_neg stop, List.dropWhile_cons_of_neg stop]
      simp

theorem read_text {version : Version} (parts : version.Marked) : read version.text = version := by
  obtain ⟨core, prerelease, build⟩ := version
  have inside : ∀ letter ∈ core, (!isMark letter) = true := by
    intro letter member
    have hyphen : letter ≠ '-' := fun same => parts.hyphen (same ▸ member)
    have plus : letter ≠ '+' := fun same => parts.plus (same ▸ member)
    simp [isMark, hyphen, plus]
  have stops : ∀ letter ∈ (mark '-' prerelease ++ mark '+' build).head?,
      (!isMark letter) = false := by
    cases prerelease <;> cases build <;> simp [mark, isMark]
  have cut := takeWhile_append inside stops
  rw [read, text, List.append_assoc, cut.1, cut.2]
  cases prerelease with
  | none => cases build <;> rfl
  | some part =>
      have apart : ∀ letter ∈ part, (letter != '+') = true := by
        intro letter member
        have other : letter ≠ '+' := fun same => parts.prerelease part rfl (same ▸ member)
        simp [other]
      have stops : ∀ letter ∈ (mark '+' build).head?, (letter != '+') = false := by
        cases build <;> simp [mark]
      have cut := takeWhile_append apart stops
      have found : marked '-' (mark '-' (some part) ++ mark '+' build) =
          some (part ++ mark '+' build) := rfl
      rw [found]
      dsimp only
      rw [cut.1, cut.2]
      cases build <;> rfl

/-- Every text has a reading. -/
theorem text_read (text : List Char) : (read text).text = text ∧ (read text).Marked := by
  have whole : text.takeWhile (!isMark ·) ++ text.dropWhile (!isMark ·) = text :=
    List.takeWhile_append_dropWhile
  have inside : ∀ letter ∈ text.takeWhile (!isMark ·), (!isMark letter) = true :=
    fun _ => List.mem_takeWhile_imp
  have hyphen : '-' ∉ text.takeWhile (!isMark ·) :=
    fun member => Bool.false_ne_true (inside _ member)
  have plus : '+' ∉ text.takeWhile (!isMark ·) :=
    fun member => Bool.false_ne_true (inside _ member)
  have stops := List.head?_dropWhile_not (!isMark ·) text
  rw [read]
  generalize text.takeWhile (!isMark ·) = core at *
  generalize text.dropWhile (!isMark ·) = rest at *
  cases rest with
  | nil => exact ⟨by simpa [Version.text, mark, marked] using whole, hyphen, plus, by simp [marked]⟩
  | cons letter rest =>
      have which : letter = '-' ∨ letter = '+' := by
        simpa [isMark, ← or_iff_not_imp_left] using stops
      rcases which with rfl | rfl
      · have found : marked '-' ('-' :: rest) = some rest := rfl
        have parts : rest.takeWhile (· != '+') ++ rest.dropWhile (· != '+') = rest :=
          List.takeWhile_append_dropWhile
        have apart : '+' ∉ rest.takeWhile (· != '+') :=
          fun member => Bool.false_ne_true (List.mem_takeWhile_imp member)
        have stops := List.head?_dropWhile_not (· != '+') rest
        rw [found]
        dsimp only
        generalize rest.takeWhile (· != '+') = prerelease at *
        generalize rest.dropWhile (· != '+') = build at *
        refine ⟨?_, hyphen, plus, by simpa using apart⟩
        cases build with
        | nil => simpa [Version.text, mark, marked, ← parts] using whole
        | cons letter build =>
            obtain rfl : letter = '+' := by simpa using stops
            simpa [Version.text, mark, marked, ← parts] using whole
      · have found : marked '-' ('+' :: rest) = none := rfl
        rw [found]
        exact ⟨by simpa [Version.text, mark, marked] using whole, hyphen, plus, by simp⟩

/-! ### Validity -/

/-- A letter of an identifier. -/
def isIdentifierLetter (letter : Char) : Bool := letter.isAlphanum || letter = '-'

theorem isAlphanum_iff {letter : Char} : letter.isAlphanum = true ↔
    'A' ≤ letter ∧ letter ≤ 'Z' ∨ 'a' ≤ letter ∧ letter ≤ 'z' ∨ letter.isDigit = true := by
  have same : letter.isAlphanum = (decide ('A' ≤ letter ∧ letter ≤ 'Z') ||
      (decide ('a' ≤ letter) && decide (letter ≤ 'z')) || letter.isDigit) := rfl
  rw [same]
  simp only [Bool.or_eq_true, Bool.and_eq_true, decide_eq_true_eq, or_assoc]

/-- An identifier of a build. -/
structure BuildIdentifier (identifier : List Char) : Prop where
  nonempty : identifier ≠ []
  letters : ∀ letter ∈ identifier, isIdentifierLetter letter = true

/-- An identifier that no number is. -/
structure Named (identifier : List Char) : Prop where
  letters : ∀ letter ∈ identifier, isIdentifierLetter letter = true
  named : ∃ letter ∈ identifier, letter.isDigit = false

/-- Each part is what it has to be, with these identifiers in the prerelease. -/
structure Valid (identifier : List Char → Prop) (version : Version) : Prop where
  core : ∃ major minor patch, Canonical major ∧ Canonical minor ∧ Canonical patch ∧
    version.core = major ++ '.' :: (minor ++ '.' :: patch)
  prerelease : ∀ part ∈ version.prerelease, ∀ piece ∈ part.splitOn '.', identifier piece
  build : ∀ part ∈ version.build, ∀ piece ∈ part.splitOn '.', BuildIdentifier piece

section Valid

variable {identifier : List Char → Prop} {version : Version}

theorem mem_pieces {part : List Char} {letter separator : Char} (member : letter ∈ part)
    (other : letter ≠ separator) : ∃ piece ∈ part.splitOn separator, letter ∈ piece := by
  induction part with
  | nil => cases member
  | cons first part ih =>
      rw [List.splitOn_cons_eq_if_modifyHead]
      by_cases cut : first = separator
      · have later : letter ∈ part := by simpa [cut, other] using member
        obtain ⟨piece, inside, here⟩ := ih later
        exact ⟨piece, by simp [cut, inside], here⟩
      · rw [if_neg (by simpa using cut)]
        obtain ⟨piece, pieces, split⟩ := List.exists_cons_of_ne_nil
          (List.splitOn_ne_nil separator part)
        rw [split, List.modifyHead_cons]
        rcases List.mem_cons.mp member with rfl | later
        · exact ⟨letter :: piece, by simp, by simp⟩
        · obtain ⟨found, inside, here⟩ := ih later
          rw [split] at inside
          rcases List.mem_cons.mp inside with rfl | rest
          · exact ⟨first :: found, by simp, List.mem_cons_of_mem _ here⟩
          · exact ⟨found, List.mem_cons_of_mem _ rest, here⟩

theorem of_mem_piece {part piece : List Char} {letter separator : Char}
    (inside : piece ∈ part.splitOn separator) (member : letter ∈ piece) :
    letter ∈ part ∧ letter ≠ separator := by
  induction part generalizing piece with
  | nil =>
      obtain rfl : piece = [] := by simpa using inside
      cases member
  | cons first part ih =>
      rw [List.splitOn_cons_eq_if_modifyHead] at inside
      by_cases cut : first = separator
      · rw [if_pos (by simpa using cut)] at inside
        rcases List.mem_cons.mp inside with rfl | rest
        · cases member
        · have found := ih rest member
          exact ⟨List.mem_cons_of_mem _ found.1, found.2⟩
      · rw [if_neg (by simpa using cut)] at inside
        obtain ⟨head, pieces, split⟩ := List.exists_cons_of_ne_nil
          (List.splitOn_ne_nil separator part)
        rw [split, List.modifyHead_cons] at inside
        rcases List.mem_cons.mp inside with rfl | rest
        · rcases List.mem_cons.mp member with rfl | later
          · exact ⟨List.mem_cons_self, cut⟩
          · have found := ih (split ▸ List.mem_cons_self) later
            exact ⟨List.mem_cons_of_mem _ found.1, found.2⟩
        · have found := ih (by simp [split, rest]) member
          exact ⟨List.mem_cons_of_mem _ found.1, found.2⟩

theorem Valid.marked
    (letters : ∀ piece, identifier piece → ∀ letter ∈ piece, isIdentifierLetter letter = true)
    (valid : version.Valid identifier) : version.Marked := by
  have numeral {digits : List Char} (canonical : Canonical digits) :
      '-' ∉ digits ∧ '+' ∉ digits :=
    ⟨fun member => Bool.false_ne_true (canonical.decimal _ member),
      fun member => Bool.false_ne_true (canonical.decimal _ member)⟩
  obtain ⟨major, minor, patch, one, two, three, core⟩ := valid.core
  refine ⟨?_, ?_, fun part some plus => ?_⟩
  · simp [core, (numeral one).1, (numeral two).1, (numeral three).1]
  · simp [core, (numeral one).2, (numeral two).2, (numeral three).2]
  · obtain ⟨piece, inside, here⟩ := mem_pieces plus (by decide : '+' ≠ '.')
    exact Bool.false_ne_true (letters piece (valid.prerelease part some piece inside) _ here)

end Valid

end Version

end HidBot.Identity
