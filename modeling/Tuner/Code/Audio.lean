import Tuner.Code.Basic

/-!
# Audio settings

Stereo selection, routing and volume of the decoded audio, and the precision of the estimate of
the noise floor.
-/
namespace Tuner

/-- The choice between stereo and mono. -/
inductive AudioMode where
  /-- The receiver blends by itself. -/
  | auto
  /-- Stereo always. -/
  | stereo
  /-- Mono always. -/
  | mono
  /-- The receiver switches between the two. -/
  | switch
deriving DecidableEq, Repr, Inhabited

instance : Coded AudioMode where
  all := [.auto, .stereo, .mono, .switch]
  table := "audio mode"
  code
    | .auto => 0
    | .stereo => 1
    | .mono => 2
    | .switch => 3

instance : Named AudioMode where
  all := Enumerated.all
  name
    | .auto => "Auto"
    | .stereo => "Stereo"
    | .mono => "Mono"
    | .switch => "Switch"

/-- Where decoded audio goes. -/
inductive AudioPath where
  /-- Nowhere. -/
  | none
  /-- To the converter. -/
  | analog
  /-- To the digital bus. -/
  | digital
deriving DecidableEq, Repr, Inhabited

instance : Coded AudioPath where
  all := [.none, .analog, .digital]
  table := "audio path"
  code
    | .none => 0
    | .analog => 1
    | .digital => 2

instance : Named AudioPath where
  all := Enumerated.all
  name
    | .none => "None"
    | .analog => "Analog"
    | .digital => "Digital"

/-- Full volume. -/
def maxVolume : UInt8 := 255

/-- How precisely the noise floor is estimated. -/
inductive FloorPrecision where
  /-- Low. -/
  | low
  /-- Medium. -/
  | medium
  /-- Fine. -/
  | fine
deriving DecidableEq, Repr

instance : Inhabited FloorPrecision := ⟨.medium⟩

instance : Coded FloorPrecision where
  all := [.low, .medium, .fine]
  table := "nfl level"
  code
    | .low => 0
    | .medium => 1
    | .fine => 2

instance : Named FloorPrecision where
  all := Enumerated.all
  name
    | .low => "Low"
    | .medium => "Medium"
    | .fine => "Fine"

/-- Milliseconds between periodic reports of audio quality by default. -/
def defaultPollInterval : UInt32 := 100

end Tuner
