import Tuner.Code.Basic

/-!
# Seek settings

A seek moves in one direction with one of two precisions, or searches the whole band; the three
are packed into one byte. The step size is the grid on which a seek looks.
-/
namespace Tuner

/-- The direction of a seek. -/
inductive Direction where
  /-- Toward lower frequencies. -/
  | down
  /-- Toward higher frequencies. -/
  | up
deriving DecidableEq, Repr

instance : Named Direction where
  all := [.down, .up]
  name
    | .down => "Down"
    | .up => "Up"

/-- The precision of a seek. -/
inductive SeekMethod where
  /-- Full precision. -/
  | normal
  /-- Coarse and fast. -/
  | fast
deriving DecidableEq, Repr, Inhabited

instance : Named SeekMethod where
  all := [.normal, .fast]
  name
    | .normal => "Normal"
    | .fast => "Fast"

/-- What a seek command asks for. -/
inductive SeekMode where
  /-- The next station in one direction. -/
  | seek (direction : Direction) (method : SeekMethod)
  /-- The strongest station of the band. -/
  | full
deriving DecidableEq, Repr

/-- Bit 7 is the direction and bit 0 the precision; the one byte beyond these is the search of
the whole band. -/
instance : Coded SeekMode where
  all := [.seek .down .normal, .seek .down .fast, .seek .up .normal, .seek .up .fast, .full]
  table := "scan mode"
  code
    | .seek .down .normal => 0x00
    | .seek .down .fast => 0x01
    | .seek .up .normal => 0x80
    | .seek .up .fast => 0x81
    | .full => 0x82

namespace SeekMode

/-- The direction of travel; a search of the whole band goes upward. -/
def direction : SeekMode → Direction
  | seek direction _ => direction
  | full => .up

/-- A seek with full precision. -/
def precise (direction : Direction) : SeekMode := .seek direction .normal

end SeekMode

/-- The grid on which a seek looks for stations. -/
inductive StepSize where
  /-- 100 kHz. -/
  | khz100
  /-- 50 kHz. -/
  | khz50
deriving DecidableEq, Repr, Inhabited

instance : Coded StepSize where
  all := [.khz100, .khz50]
  table := "step size"
  code
    | .khz100 => 0x00
    | .khz50 => 0x10

instance : Named StepSize where
  all := Enumerated.all
  name
    | .khz100 => "Khz100"
    | .khz50 => "Khz50"

/-- The step in units of 10 kHz. -/
def StepSize.units : StepSize → UInt32
  | .khz100 => 10
  | .khz50 => 5

/-- The weakest signal, as a positive attenuation in dBm, at which a seek stops by default. -/
def defaultMinSignal : UInt8 := 105

/-- The bounds of the signal-to-noise threshold. -/
def snrThresholdRange : UInt8 × UInt8 := (0, 31)

end Tuner
