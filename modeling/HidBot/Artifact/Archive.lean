import HidBot.Artifact.Manifest
import HidBot.Python.Sorted

/-!
# Archives of a bundle

`create_deterministic_tar_gz` and `_extract_archive_to`. The members of an archive are
stored and returned as they are; a bundle is the list of what lies below its directory, in
the order in which the file system happens to enumerate it.
-/

namespace HidBot.Artifact

open Python

abbrev Content := List UInt8

/-- The text of a path. -/
def posix (path : List Text) : Text := [slash].intercalate path

/-- A file with its content or a directory, at a path below the bundle. -/
structure Entry where
  path : List Text
  content : Option Content
  deriving DecidableEq

/-- A directory tree of regular files and directories with valid relative names. -/
structure Bundle where
  name : Text
  entries : List Entry
  named : slash ∉ name ∧ ValidPath name
  below : ∀ entry ∈ entries, entry.path ≠ []
  separate : ∀ entry ∈ entries, ∀ part ∈ entry.path, slash ∉ part
  valid : ∀ entry ∈ entries, ValidPath (posix entry.path)
  distinct : (entries.map Entry.path).Nodup
  closed : ∀ entry ∈ entries, ∀ parent part, entry.path = parent ++ [part] → parent ≠ [] →
    { path := parent, content := none } ∈ entries

/-! ### Creation -/

inductive TarType where
  | directory
  | regular
  | other
  deriving DecidableEq

structure TarInfo where
  name : Text
  mode : Nat
  uid : Nat := 0
  gid : Nat := 0
  uname : Text := []
  gname : Text := []
  mtime : Int
  type : TarType
  size : Nat
  deriving DecidableEq

/-- A member, with what `extractfile` returns for it. -/
structure TarMember where
  info : TarInfo
  content : Option Content
  deriving DecidableEq

def tarInfo (name : Text) (isDirectory : Bool) (size : Nat) (sourceDateEpoch : Int) : TarInfo where
  name := name
  mode := if isDirectory then 0o755 else 0o644
  mtime := sourceDateEpoch
  type := if isDirectory then .directory else .regular
  size := if isDirectory then 0 else size

/-- 2100-01-01T00:00:00Z. -/
def maxSourceDateEpoch : Int := 4102444800

def validateSourceDateEpoch (epoch : Int) : Checked Unit :=
  require (0 ≤ epoch ∧ epoch ≤ maxSourceDateEpoch)
    "source_date_epoch is outside the supported range"

/-- The parts of a `PurePosixPath`. -/
def pureParts (path : Text) : List Text :=
  (components path).filter fun part => part ≠ [] ∧ part ≠ text "."

/-- The parents of a path, given by its parts from the last to the first, up to the root. -/
def parentParts (root : Text) : List Text → List Text
  | [] => []
  | _ :: rest =>
      if posix rest.reverse = root then [] else posix rest.reverse :: parentParts root rest

/-- Members still without their tar information, and the directories among them. -/
structure Listing where
  members : List (Text × Option Content)
  seenDirs : List Text

def Listing.addParent (state : Listing) (parent : Text) : Listing :=
  if parent ∈ state.seenDirs then state
  else ⟨state.members ++ [(parent, none)], state.seenDirs ++ [parent]⟩

def addEntry (root : Text) (state : Listing) (entry : Entry) : Checked Listing := do
  let relative ← validateRelativePathText (posix entry.path)
  let archiveName := root ++ slash :: relative
  match entry.content with
  | none =>
      pure ⟨state.members ++ [(archiveName, none)], state.seenDirs ++ [archiveName]⟩
  | some content =>
      let parents := (parentParts root (pureParts archiveName).reverse).reverse
      let state := parents.foldl Listing.addParent state
      pure { state with members := state.members ++ [(archiveName, some content)] }

def tarMember (sourceDateEpoch : Int) (member : Text × Option Content) : TarMember where
  info := tarInfo member.1 member.2.isNone (member.2.elim 0 List.length) sourceDateEpoch
  content := member.2

/-- The members of the archive, in their order. -/
def createDeterministicTarGz (name : Text) (entries : List Entry) (sourceDateEpoch : Int) :
    Checked (List TarMember) := do
  validateSourceDateEpoch sourceDateEpoch
  let root ← validateRelativePathText name
  let state ← (sortedBy (posix ·.path) entries).foldlM (addEntry root) ⟨[(root, none)], []⟩
  pure ((sortedBy Prod.fst state.members).map (tarMember sourceDateEpoch))

/-! ### Extraction -/

inductive Node where
  | directory
  | file (content : Content)
  deriving DecidableEq

/-- What has been written below the extraction root, the latest first. -/
structure Disk where
  root : List Text
  written : List (List Text × Node) := []

namespace Disk

def readFailure : ArtifactError := "could not safely read artifact archive"

def at? (disk : Disk) (path : List Text) : Option Node :=
  if path <+: disk.root then some .directory
  else (disk.written.find? (·.1 = path)).map Prod.snd

def write (disk : Disk) (path : List Text) (node : Node) : Disk :=
  { disk with written := (path, node) :: disk.written }

/-- A directory that may be there already. -/
def makeDirectory (disk : Disk) (path : List Text) : Checked Disk :=
  match disk.at? path with
  | none => .ok (disk.write path .directory)
  | some .directory => .ok disk
  | some (.file _) => refuse readFailure

/-- `path.mkdir(parents=True, exist_ok=True)`. -/
def mkdir (disk : Disk) (path : List Text) : Checked Disk :=
  path.inits.foldlM makeDirectory disk

/-- `path.open("wb")` and the copy into it. -/
def writeFile (disk : Disk) (path : List Text) (content : Content) : Checked Disk :=
  match disk.at? path with
  | some .directory => refuse readFailure
  | _ => .ok (disk.write path (.file content))

end Disk

/-- One part of a path, as the file system resolves it. -/
def resolve (path : List Text) (part : Text) : List Text :=
  if part = text "" ∨ part = text "." then path
  else if part = text ".." then path.dropLast
  else path ++ [part]

def joinpath (root parts : List Text) : List Text := parts.foldl resolve root

/-- Directories may end in a slash, which is no component. -/
def safeArchiveMemberName (name : Text) : Checked Text :=
  validateRelativePathText (if name.getLast? = some slash then name.dropLast else name)

structure Extraction where
  disk : Disk
  topLevel : Option Text := none
  names : List Text := []

/-- A directory, or a file below the directories that lead to it. -/
def writeMember (disk : Disk) (destination : List Text) (member : TarMember) : Checked Disk :=
  if member.info.type = .directory then disk.mkdir destination
  else do
    let content ← demand member.content "archive member cannot be read"
    let disk ← disk.mkdir destination.dropLast
    disk.writeFile destination content

def extractMember (state : Extraction) (member : TarMember) : Checked Extraction := do
  let name ← safeArchiveMemberName member.info.name
  require (name ∉ state.names) "duplicate archive member"
  let first := (components name).headD []
  require (∀ topLevel ∈ state.topLevel, first = topLevel)
    "archive must contain one top-level directory"
  require (member.info.type ≠ .other) "archive symlink or special member is forbidden"
  let disk ← writeMember state.disk (joinpath state.disk.root (components name)) member
  pure { disk, topLevel := some first, names := name :: state.names }

/-- The directory of the bundle, and the disk below the extraction root. -/
def extractArchiveTo (members : List TarMember) (extractionRoot : List Text) :
    Checked (List Text × Disk) := do
  require (members ≠ []) "artifact archive is empty"
  let state ← members.foldlM extractMember { disk := { root := extractionRoot } }
  let topLevel ← demand state.topLevel "archive has no top-level directory"
  pure (extractionRoot ++ [topLevel], state.disk)

end HidBot.Artifact
