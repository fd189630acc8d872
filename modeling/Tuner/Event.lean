import Tuner.Band
import Tuner.Code.Audio
import Tuner.Code.Rds

/-!
# Events

What the receiver reports on its own time. Every event carries one tag; a command names the tag
of the event that confirms it, so the tag is what ties the two together. Radio data is the one
kind of event that never confirms anything.
-/
namespace Tuner

/-- The kind of an event, as a command waits for it. -/
inductive Tag where
  /-- A status report. -/
  | status
  /-- A seek that finished or was aborted. -/
  | seekComplete
  /-- A report of the RDS decoder mode. -/
  | rdsMode
  /-- A text of the radio data; never awaited. -/
  | rdsData
  /-- A report of the audio mode. -/
  | audioMode
  /-- A report of the audio path. -/
  | audioPath
  /-- An estimate of the noise floor. -/
  | noiseFloor
  /-- A periodic sample of the audio quality. -/
  | liveQuality
  /-- A report of the region. -/
  | worldRegion
  /-- A report of the volume. -/
  | volume
  /-- Any of these but radio data. -/
  | any
deriving DecidableEq, Repr

instance : Named Tag where
  all := [.status, .seekComplete, .rdsMode, .rdsData, .audioMode, .audioPath, .noiseFloor,
    .liveQuality, .worldRegion, .volume, .any]
  name
    | .status => "Status"
    | .seekComplete => "SeekComplete"
    | .rdsMode => "RdsMode"
    | .rdsData => "RdsData"
    | .audioMode => "AudioMode"
    | .audioPath => "AudioPath"
    | .noiseFloor => "NoiseFloor"
    | .liveQuality => "LiveQuality"
    | .worldRegion => "WorldRegion"
    | .volume => "Volume"
    | .any => "Any"

/-- Whether one who waits for a tag is served by an event with another. -/
def Tag.accepts (waiting arriving : Tag) : Bool :=
  arriving != .rdsData && (waiting == .any || waiting == arriving)

/-- Radio data serves nobody. -/
theorem Tag.accepts_rdsData (waiting : Tag) : waiting.accepts .rdsData = false := rfl

/-- A full report of the receiver. -/
structure StatusReport where
  /-- The frequency the tuner stands on. -/
  frequency : Frequency
  /-- The signal strength in dBm. -/
  rssi : Int32
  /-- The signal-to-noise ratio in dB. -/
  snr : Int32
  /-- Whether the radio is on. -/
  radioOn : Bool
  /-- The program type of the station. -/
  programType : UInt8
  /-- The name of the program service. -/
  programService : Option String
  /-- The radio text. -/
  radioText : Option String
  /-- The name of the program type. -/
  programTypeName : Option String
  /-- Whether the audio is muted. -/
  muted : Bool
deriving DecidableEq, Repr

/-- The end of a seek. -/
structure SeekReport where
  /-- Where the tuner stopped. -/
  frequency : Frequency
  /-- The signal strength there, in dBm. -/
  rssi : Int32
  /-- The signal-to-noise ratio there, in dB. -/
  snr : Int32
  /-- Whether the seek ended by itself at a place to stop. -/
  success : Bool
deriving DecidableEq, Repr

/-- Something that the receiver reports. -/
inductive Event where
  /-- A status report. -/
  | status (report : StatusReport)
  /-- The end of a seek. -/
  | seekComplete (report : SeekReport)
  /-- The mode of the RDS decoder. -/
  | rdsMode (mode : RdsMode) (afEnabled : Bool)
  /-- One field of the radio data. -/
  | rdsData (field : RdsField) (index : UInt16) (text : String)
  /-- The audio mode. -/
  | audioMode (mode : AudioMode)
  /-- The audio path. -/
  | audioPath (path : AudioPath)
  /-- The noise floor in dBm. -/
  | noiseFloor (level : Int32)
  /-- A sample of signal strength and signal-to-noise ratio. -/
  | liveQuality (rssi snr : Int32)
  /-- The region. -/
  | worldRegion (region : Region)
  /-- The volume. -/
  | volume (status volume : UInt8)
deriving DecidableEq, Repr

namespace Event

/-- The tag of an event. -/
def tag : Event → Tag
  | status _ => .status
  | seekComplete _ => .seekComplete
  | rdsMode .. => .rdsMode
  | rdsData .. => .rdsData
  | audioMode _ => .audioMode
  | audioPath _ => .audioPath
  | noiseFloor _ => .noiseFloor
  | liveQuality .. => .liveQuality
  | worldRegion _ => .worldRegion
  | volume .. => .volume

/-- The frequency that an event reports. -/
def frequency? : Event → Option Frequency
  | status report => some report.frequency
  | seekComplete report => some report.frequency
  | _ => none

/-- A status report of a frequency and of whether the radio is on and muted, and nothing else. -/
def plainStatus (frequency : Frequency) (radioOn muted : Bool) : Event :=
  .status ⟨frequency, 0, 0, radioOn, 0, none, none, none, muted⟩

/-- A seek that ended well at a frequency, and nothing else. -/
def found (frequency : Frequency) : Event := .seekComplete ⟨frequency, 0, 0, true⟩

end Event

/-- What the link tells its listener. -/
inductive Notification where
  /-- The service is within reach and takes commands. -/
  | attached
  /-- The service went away. -/
  | detached
  /-- The receiver reports something. -/
  | event (event : Event)
deriving DecidableEq, Repr

end Tuner
