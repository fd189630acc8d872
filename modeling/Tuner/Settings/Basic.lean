import Tuner.Band
import Tuner.Code.Audio
import Tuner.Code.Functionality
import Tuner.Code.Seek

/-!
# Settings

What a user can set about a receiver: the band, the deadline of commands, and what is applied at
power-up and by seeks. Settings can hold values that make no sense together; `Settings.validate`
finds these.
-/
namespace Tuner

/-- The settings of a receiver. -/
structure Settings where
  /-- The region whose preset is the band when no band is given. -/
  region : Region := .na
  /-- The band. -/
  band? : Option Band := none
  /-- The deadline of every command in milliseconds. -/
  timeoutMs : UInt64 := 5000
  /-- What the radio is asked to provide at power-up. -/
  functionality : Functionality := .powerUp
  /-- Where audio goes at power-up. -/
  audioPath : AudioPath := .digital
  /-- The volume at power-up. -/
  volume : UInt8 := maxVolume
  /-- The weakest signal at which seeks stop. -/
  minSignal : UInt8 := defaultMinSignal
  /-- The signal at which the receiver looks for an alternate frequency. -/
  afThreshold : UInt8 := defaultMinSignal
  /-- The precision of scans. -/
  scanMethod : SeekMethod := .normal
deriving DecidableEq, Repr, Inhabited

namespace Settings

/-- The band in effect. -/
def band (settings : Settings) : Band :=
  match settings.band? with
  | some band => band
  | none => Band.preset settings.region

/-- Refuse a deadline of zero, then a band that is not well formed. -/
def validate (settings : Settings) : Except ParameterFault Unit :=
  if settings.timeoutMs = 0 then .error (.outOfRange "command timeout is zero")
  else
    match settings.band? with
    | some band => band.check.map fun _ => ()
    | none => .ok ()

end Settings

end Tuner
