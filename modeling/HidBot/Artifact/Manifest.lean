import HidBot.Python.Value
import Mathlib.Data.List.Nodup

/-!
# Files of an artifact

The checks of `artifact.py` on the paths of a bundle and on the files that its manifest
lists, each with the role that it plays. A message that quotes a value stands here without
it.
-/

namespace HidBot.Artifact

open Python

/-- Raised for any malformed, unsafe, or unverifiable artifact. -/
abbrev ArtifactError := String

abbrev Checked := Check ArtifactError

/-! ### Paths -/

def slash : CodePoint := .char '/'

/-- `value.split("/")`. -/
def components (path : Text) : List Text := path.splitOn slash

/-- `re.match(r"^[A-Za-z]:", value)`. -/
def hasDrive : Text → Bool
  | .char letter :: .char ':' :: _ => letter.isAlpha
  | _ => false

/-- A component that a path of a bundle may have. -/
def safeComponent (part : Text) : Bool := part ∉ [text "", text ".", text ".."]

def validateRelativePathText (path : Text) : Checked Text := do
  require (path ≠ [] ∧ CodePoint.char '\\' ∉ path ∧ CodePoint.char '\x00' ∉ path)
    "bundle paths must be non-empty POSIX strings"
  require (path.head? ≠ some slash ∧ ¬hasDrive path) "absolute bundle path is forbidden"
  require ((components path).all safeComponent) "unsafe bundle path"
  pure path

/-- What `validate_relative_path` accepts. -/
structure ValidPath (path : Text) : Prop where
  posix : path ≠ [] ∧ CodePoint.char '\\' ∉ path ∧ CodePoint.char '\x00' ∉ path
  relative : path.head? ≠ some slash ∧ ¬hasDrive path
  safe : ∀ part ∈ components path, safeComponent part

theorem validateRelativePathText_ok {path accepted : Text} :
    validateRelativePathText path = .ok accepted ↔ ValidPath path ∧ accepted = path := by
  simp only [validateRelativePathText, bind_ok, require_ok, List.all_eq_true]
  constructor
  · rintro ⟨⟨⟩, posix, ⟨⟩, relative, ⟨⟩, safe, same⟩
    exact ⟨⟨posix, relative, safe⟩, (Except.ok.inj same).symm⟩
  · rintro ⟨valid, rfl⟩
    exact ⟨(), valid.posix, (), valid.relative, (), valid.safe, rfl⟩

inductive Role where
  | applicationElf
  | applicationBin
  | bootloaderBin
  | partitionTableBin
  | flashPlan
  | effectiveSdkconfig
  | dependenciesLock
  | license
  deriving DecidableEq

namespace Role

def name : Role → String
  | applicationElf => "application_elf"
  | applicationBin => "application_bin"
  | bootloaderBin => "bootloader_bin"
  | partitionTableBin => "partition_table_bin"
  | flashPlan => "flash_plan"
  | effectiveSdkconfig => "effective_sdkconfig"
  | dependenciesLock => "dependencies_lock"
  | license => "license"

/-- `ROLES`, each of which is required. -/
def all : List Role :=
  [applicationElf, applicationBin, bootloaderBin, partitionTableBin, flashPlan,
    effectiveSdkconfig, dependenciesLock, license]

end Role

structure Payload where
  digest : Text
  role : Role
  deriving DecidableEq

/-- `dict[str, tuple[str, str]]`, in the order of insertion. -/
abbrev RolePaths := List (Text × Payload)

/-- The payload of a path. -/
def RolePaths.at? (paths : RolePaths) (path : Text) : Option Payload :=
  (paths.find? (·.1 = path)).map Prod.snd

def hexDigit : CodePoint → Bool
  | .char digit => '0' ≤ digit ∧ digit ≤ '9' ∨ 'a' ≤ digit ∧ digit ≤ 'f'
  | .surrogate _ => false

/-- What `_role_paths` returns: every role once, each path with one role. -/
structure RolePaths.Valid (paths : RolePaths) : Prop where
  distinct : (paths.map Prod.fst).Nodup
  roles : (paths.map (·.2.role)).Nodup
  required : ∀ role ∈ Role.all, ∃ file ∈ paths, file.2.role = role

/-- No other file plays the role. -/
theorem RolePaths.Valid.unique {paths : RolePaths} (valid : paths.Valid) {first second : Text}
    {payload other : Payload} (here : (first, payload) ∈ paths) (there : (second, other) ∈ paths)
    (same : payload.role = other.role) : first = second := by
  have injective := List.inj_on_of_nodup_map valid.roles here there same
  exact congrArg Prod.fst injective

end HidBot.Artifact
