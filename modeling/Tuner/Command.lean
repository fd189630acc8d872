import Tuner.Code.Functionality
import Tuner.Code.Seek
import Tuner.Event

/-!
# Commands

What the control core submits over the link. Each command has a name, may need the radio to be
on, has parameters that are checked before it is submitted, and names the tag of the event that
confirms it. Three commands are carried out silently and name none.
-/
namespace Tuner

/-- A seek within explicit bounds. -/
structure RangeSeek where
  /-- One bound of the range. -/
  start : Frequency
  /-- The other bound. -/
  stop : Frequency
  /-- The weakest signal to stop at. -/
  minSignal : UInt8
  /-- The direction of travel. -/
  direction : Direction
  /-- The precision. -/
  method : SeekMethod
  /-- Whether several stations are collected. -/
  multiChannel : Bool
  /-- What the station must broadcast. -/
  condition : RdsCondition
  /-- The program type asked for. -/
  value : UInt8
deriving DecidableEq, Repr

/-- How the RDS decoder is to run. -/
structure RdsSetting where
  /-- The mode of the decoder. -/
  mode : RdsMode
  /-- The fields it parses. -/
  features : RdsFeatures
  /-- Whether alternate frequencies are followed. -/
  af : AfMode
  /-- The signal at which the receiver looks for an alternate. -/
  afThreshold : UInt8
deriving DecidableEq, Repr

/-- A command for the receiver. -/
inductive Command where
  /-- Turn the radio on. -/
  | turnOn (functionality : Functionality)
  /-- Turn the radio off. -/
  | turnOff
  /-- Go to a frequency. -/
  | tune (frequency : Frequency)
  /-- Ask for a status report. -/
  | getStatus
  /-- Mute or unmute the audio. -/
  | mute (on : Bool)
  /-- Look for the next station. -/
  | seek (mode : SeekMode) (minSignal : UInt8)
  /-- Look for the next station that broadcasts something. -/
  | seekRds (mode : SeekMode) (minSignal : UInt8) (condition : RdsCondition) (value : UInt8)
  /-- Look for a station within bounds. -/
  | seekRange (range : RangeSeek)
  /-- End the seek in progress. -/
  | abortSeek
  /-- Set the RDS decoder. -/
  | setRds (setting : RdsSetting)
  /-- Choose between stereo and mono. -/
  | setAudioMode (mode : AudioMode)
  /-- Route the audio. -/
  | setAudioPath (path : AudioPath)
  /-- Set the grid of seeks. -/
  | setStepSize (step : StepSize)
  /-- Set the volume. -/
  | setVolume (volume : UInt8)
  /-- Select the region and its deemphasis. -/
  | setRegion (region : Region) (deemphasis : Deemphasis)
  /-- Estimate the noise floor. -/
  | estimateNoiseFloor (precision : FloorPrecision)
  /-- Start or stop periodic reports of the audio quality. -/
  | setLivePolling (enabled : Bool) (intervalMs : UInt32)
  /-- Set the signal-to-noise threshold of later tunes. -/
  | setSnrThreshold (threshold : UInt8)
deriving DecidableEq, Repr

namespace Command

/-- The short name. -/
def name : Command → String
  | turnOn _ => "turn-on"
  | turnOff => "turn-off"
  | tune _ => "tune"
  | getStatus => "get-status"
  | mute _ => "mute"
  | seek .. => "seek"
  | seekRds .. => "seek-rds"
  | seekRange _ => "seek-combo"
  | abortSeek => "abort-seek"
  | setRds _ => "set-rds-mode"
  | setAudioMode _ => "set-audio-mode"
  | setAudioPath _ => "set-audio-path"
  | setStepSize _ => "set-step-size"
  | setVolume _ => "set-volume"
  | setRegion .. => "set-world-region"
  | estimateNoiseFloor _ => "estimate-noise-floor"
  | setLivePolling .. => "set-live-audio-polling"
  | setSnrThreshold _ => "set-snr-threshold"

/-- The tag of the event that confirms the command. -/
def awaited? : Command → Option Tag
  | turnOn _ | turnOff | tune _ | getStatus | mute _ => some .status
  | seek .. | seekRds .. | seekRange _ | abortSeek => some .seekComplete
  | setRds _ => some .rdsMode
  | setAudioMode _ => some .audioMode
  | setAudioPath _ => some .audioPath
  | setVolume _ => some .volume
  | setRegion .. => some .worldRegion
  | estimateNoiseFloor _ => some .noiseFloor
  | setStepSize _ | setLivePolling .. | setSnrThreshold _ => none

/-- Whether the radio must be on already. -/
def needsRadioOn : Command → Bool
  | turnOn _ => false
  | _ => true

/-- Whether the command sends the tuner looking for a station. -/
def isSeek : Command → Bool
  | seek .. | seekRds .. | seekRange _ => true
  | _ => false

/-- Check the parameters. -/
def validate : Command → Except ParameterFault Unit
  | setSnrThreshold threshold =>
    if threshold ≤ snrThresholdRange.2 then .ok ()
    else
      .error (.outOfRange ("SNR threshold " ++ toString threshold.toNat ++ " above "
        ++ toString snrThresholdRange.2.toNat))
  | setLivePolling true interval =>
    if interval = 0 then .error (.outOfRange "live polling interval must be non-zero")
    else .ok ()
  | seekRange range =>
    if range.start = range.stop then .error (.outOfRange "seek range start equals end")
    else .ok ()
  | _ => .ok ()

/-- The interval of the periodic reports that the command starts. -/
def pollInterval? : Command → Option UInt32
  | setLivePolling true interval => some interval
  | _ => none

/-- Whether the parameters pass the check. -/
def isValid (command : Command) : Bool := command.validate.isOk

end Command

end Tuner
