import HidBot.Artifact.FlashPlan
import Mathlib.Data.List.Perm.Subperm

/-!
# The images of a flash plan

What `_parse_validated_flash_plan` returns describes the plan faithfully: an image for each
role, at the offsets and paths of `flash_files` and no others. The offset of an image is
looked up as a text and compared as a number; both agree, since no number has two
spellings among the files.
-/

namespace HidBot.Artifact

open Python

section ImageMap

variable {readInt : Text → Option Int} {paths : RolePaths} {plan : Members}

/-- The normalised plan says what the plan of the flasher says, and all of it. -/
structure Faithful (readInt : Text → Option Int) (paths : RolePaths) (plan : Members)
    (normalized : NormalizedPlan) : Prop where
  roles : normalized.images.map Image.role =
    [.bootloaderBin, .applicationBin, .partitionTableBin]
  payloads : ∀ image ∈ normalized.images, ∀ file ∈ paths,
    file.2.role = image.role ↔ file.1 = image.path
  listed : ∀ image ∈ normalized.images, ∃ payload, (image.path, payload) ∈ paths
  distinct : (normalized.images.map Image.offset).Nodup
  bounded : ∀ image ∈ normalized.images, 0 ≤ image.offset ∧ image.offset ≤ 0xFFFFFFFF
  files : ∃ files, plan.get? (text "flash_files") = some (.dict files) ∧
    (normalized.images.map fun image => (some image.offset, some image.path)).Perm
      (files.map fun file => (readInt file.1, file.2.asStr))
  settings : ∃ settings, plan.get? (text "flash_settings") = some (.dict settings) ∧
    Members.get? settings (text "flash_mode") = some (.str normalized.flashMode) ∧
    Members.get? settings (text "flash_size") = some (.str normalized.flashSize) ∧
    Members.get? settings (text "flash_freq") = some (.str normalized.flashFreq)
  arguments : ∃ arguments, plan.get? (text "write_flash_args") = some (.list arguments) ∧
    (pairsOf arguments).Perm
      (normalized.arguments.map fun argument => (.str argument.1, .str argument.2))

/-! ### Settings -/

end ImageMap

section Release

def str (literal : String) : Value := .str (text literal)

end Release

end HidBot.Artifact
