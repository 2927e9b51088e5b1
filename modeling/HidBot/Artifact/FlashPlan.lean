import HidBot.Artifact.Manifest

/-!
# The flash plan of an artifact

`_parse_validated_flash_plan`: the plan of the flasher describes the images of an artifact
in three ways, and the settings in two. What is returned names each image once. An offset
is read by `int(text, 0)`, of which nothing is assumed here but that it reads a text always
alike: `readInt` is none where that raises a `ValueError`.
-/

namespace HidBot.Artifact

open Python

structure FlashSettings where
  flashMode : Text
  flashSize : Text
  flashFreq : Text

structure EsptoolArgs where
  chip : Text
  before : Text
  after : Text
  stub : Bool

structure Image where
  role : Role
  offset : Int
  path : Text
  encrypted : Value

structure NormalizedPlan extends FlashSettings, EsptoolArgs where
  images : List Image

/-- The arguments that the settings stand for. -/
def FlashSettings.arguments (settings : FlashSettings) : List (Text × Text) :=
  [(text "--flash_mode", settings.flashMode), (text "--flash_size", settings.flashSize),
    (text "--flash_freq", settings.flashFreq)]

def pairsOf : List Value → List (Value × Value)
  | flag :: value :: rest => (flag, value) :: pairsOf rest
  | _ => []

section Images

variable (readInt : Text → Option Int) (paths : RolePaths)

end Images

/-! ### Exceptions -/

section Exceptions

variable (readInt : Text → Option Int) (paths : RolePaths) (plan : Members)

variable {readInt paths plan}

end Exceptions

end HidBot.Artifact
