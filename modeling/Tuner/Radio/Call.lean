import Tuner.Radio.Basic

/-!
# Calls on a radio

Every operation of a radio as a value, with its answer as a value too. A run is a list of calls,
and the other end of the link can make any of them from inside a reaction.
-/
namespace Tuner

/-- An operation of a radio with its arguments. -/
inductive Radio.Call where
  /-- Attach to the link. -/
  | attach
  /-- Detach from the link. -/
  | close
  /-- Ask whether the link is attached. -/
  | isOpen
  /-- Turn on and tune. -/
  | powerUp (frequency : Frequency)
  /-- Turn off. -/
  | powerDown
  /-- Tune. -/
  | tune (frequency : Frequency)
  /-- Ask for the last confirmed frequency. -/
  | tunedFrequency
  /-- Seek from the current frequency. -/
  | seek (direction : Direction)
  /-- Seek from a frequency. -/
  | seekFrom (frequency : Frequency) (direction : Direction)
  /-- Seek for a station that meets a condition. -/
  | seekRds (direction : Direction) (condition : RdsCondition) (value : UInt8)
  /-- Seek within bounds. -/
  | seekRange (first last : Frequency) (direction : Direction)
  /-- Sweep the band. -/
  | autoScan
  /-- Stop a sweep. -/
  | stopScan
  /-- Turn the RDS decoder on or off. -/
  | setRds (on : Bool)
  /-- Follow alternate frequencies. -/
  | activateAf
  /-- Report one update of the radio texts. -/
  | readRds
  /-- Ask for the name of the program service. -/
  | programService
  /-- Ask for the radio text. -/
  | radioText
  /-- Mute or unmute. -/
  | setMute (on : Bool)
  /-- Ask whether the decoder of radio data is there. -/
  | rdsSupport
  /-- Ask for another antenna. -/
  | switchAntenna (antenna : UInt8)
  /-- Choose between stereo and mono. -/
  | setAudioMode (mode : AudioMode)
  /-- Route the audio. -/
  | setAudioPath (path : AudioPath)
  /-- Set the volume. -/
  | setVolume (volume : UInt8)
  /-- Change the region. -/
  | setRegion (region : Region)
  /-- Estimate the noise floor. -/
  | estimateNoiseFloor (precision : FloorPrecision)
  /-- Start or stop periodic reports of the audio quality. -/
  | setLivePolling (enabled : Bool) (intervalUs : Nat)
  /-- Set the signal-to-noise threshold. -/
  | setSnrThreshold (threshold : UInt8)
  /-- Set the grid of seeks. -/
  | setStepSize (step : StepSize)
  /-- Ask for a fresh status. -/
  | refreshStatus
  /-- Ask for the band. -/
  | band
  /-- Ask for the settings. -/
  | settings
deriving DecidableEq, Repr

/-- What a call comes to. -/
inductive Radio.Answer where
  /-- Done, or failed. -/
  | done (result : Except Fault Unit)
  /-- Where a seek ended. -/
  | sought (result : Except Fault (Option Frequency))
  /-- What a sweep found. -/
  | swept (result : Except Fault Sweep.Report)
  /-- A channel. -/
  | channel (result : Except Fault UInt16)
  /-- A level in dBm. -/
  | level (result : Except Fault Int32)
  /-- The state after a fresh status. -/
  | refreshed (result : Except Fault RadioState)
  /-- Nothing to say. -/
  | nothing
  /-- Yes or no. -/
  | flag (value : Bool)
  /-- A number. -/
  | number (value : UInt16)
  /-- A text, if there is one. -/
  | text (value : Option String)
  /-- A frequency, if there is one. -/
  | frequency (value : Option Frequency)
  /-- A band. -/
  | band (value : Band)
  /-- The settings. -/
  | settings (value : Settings)

namespace Radio

variable {σ : Type}

/-- Carry out a call. -/
def answer (radio : Radio σ) : Call → Action σ Answer
  | .attach => .done <$> radio.attach.run
  | .close => do radio.close; return .nothing
  | .isOpen => .flag <$> isOpen
  | .powerUp frequency => .done <$> (radio.powerUp frequency).run
  | .powerDown => .done <$> radio.powerDown.run
  | .tune frequency => .done <$> (radio.tune frequency).run
  | .tunedFrequency => .frequency <$> tunedFrequency
  | .seek direction => .sought <$> (radio.seek direction).run
  | .seekFrom frequency direction => .sought <$> (radio.seekFrom frequency direction).run
  | .seekRds direction condition value =>
    .sought <$> (radio.seekRds direction condition value).run
  | .seekRange first last direction => .sought <$> (radio.seekRange first last direction).run
  | .autoScan => .swept <$> radio.autoScan.run
  | .stopScan => .done <$> radio.stopScan.run
  | .setRds on => .done <$> (radio.setRds on).run
  | .activateAf => .channel <$> radio.activateAf.run
  | .readRds => .number <$> readRds
  | .programService => .text <$> programService
  | .radioText => .text <$> radioText
  | .setMute on => .done <$> (radio.setMute on).run
  | .rdsSupport => return .number rdsSupport.code.toUInt16
  | .switchAntenna antenna => return .number (switchAntenna antenna).code.toUInt16
  | .setAudioMode mode => .done <$> (radio.setAudioMode mode).run
  | .setAudioPath path => .done <$> (radio.setAudioPath path).run
  | .setVolume volume => .done <$> (radio.setVolume volume).run
  | .setRegion region => .done <$> (radio.setRegion region).run
  | .estimateNoiseFloor precision => .level <$> (radio.estimateNoiseFloor precision).run
  | .setLivePolling enabled intervalUs =>
    .done <$> (radio.setLivePolling enabled intervalUs).run
  | .setSnrThreshold threshold => .done <$> (radio.setSnrThreshold threshold).run
  | .setStepSize step => .done <$> (radio.setStepSize step).run
  | .refreshStatus => .refreshed <$> radio.refreshStatus.run
  | .band => do return .band (← Action.core).band
  | .settings => return .settings radio.settings

/-- The radio over a peer that may call back into it, with calls nested up to a depth. -/
def ofPeer (settings : Settings) (peer : Peer σ Call Answer) (depth : Nat) : Radio σ :=
  ⟨settings, peer.link (fun link => (Radio.mk settings link).answer) depth⟩

end Radio

end Tuner
