import Tuner.Control.Sweep
import Tuner.Settings.Basic

/-!
# The radio

What an application does with a receiver: attach, power up, tune, seek, scan, and read the radio
data. Each operation is one session of the control core, a check of its arguments before and a
check of the confirming event after. What is read from the state that is known already does not
touch the link.
-/
namespace Tuner

/-- A radio: its settings and the link that it controls. -/
structure Radio (σ : Type) where
  /-- The settings. -/
  settings : Settings
  /-- The link. -/
  link : Link σ

/-- Whether the decoder of radio data is there. -/
inductive RdsSupport where
  /-- The decoder is not there. -/
  | notSupported
  /-- The decoder is there. -/
  | supported
deriving DecidableEq, Repr

/-- The answer to a request for another antenna. -/
inductive AntennaStatus where
  /-- Done. -/
  | switched
  /-- Tried in vain. -/
  | failed
  /-- There is only one. -/
  | notSupported
deriving DecidableEq, Repr

/-- The byte that stands for an answer. -/
def RdsSupport.code : RdsSupport → UInt8
  | notSupported => 0
  | supported => 1

/-- The byte that stands for an answer. -/
def AntennaStatus.code : AntennaStatus → UInt8
  | switched => 0
  | failed => 1
  | notSupported => 2

namespace Radio

variable {σ α : Type}

/-- The system in which a radio starts: nothing is attached, and the band is that of the settings.
Settings that make no sense are refused. -/
def start (settings : Settings) (peer : σ) : Except Fault (System σ) :=
  match settings.validate with
  | .ok () => .ok { core := { band := settings.band }, peer := peer }
  | .error cause => .error (.invalidParameter cause)

/-- The operation of a command was confirmed by an event with another outcome. -/
def unconfirmed (command : Command) : Fault :=
  .unconfirmed (command.name ++ " not confirmed")

/-- Let an attempt fail unless a frequency can be tuned. -/
def requireTunable (frequency : Frequency) : Attempt σ Unit := do
  match (← Attempt.core).band.requireTunable frequency with
  | .ok _ => return
  | .error cause => throw (.invalidParameter cause)

variable (radio : Radio σ)

/-- The means of running commands. -/
def controller : Controller σ := ⟨radio.link, radio.settings.timeoutMs.toNat⟩

/-- Run a command while the operation slot is held, and give the event that confirms it. -/
def awaited (command : Command) : Attempt σ Event := do
  match ← radio.controller.execute command with
  | some event => return event
  | none => throw (unconfirmed command)

/-- Run a command whose event must report an outcome, and give what the event says of it. -/
def confirmed (command : Command) (outcome : Event → Option α) : Attempt σ α := do
  match outcome (← radio.awaited command) with
  | some value => return value
  | none => throw (unconfirmed command)

/-- Run a command in a session of its own; its event must report an outcome. -/
def operate (command : Command) (outcome : Event → Option α) : Attempt σ α :=
  radio.controller.session (radio.confirmed command outcome)

/-- Attach to the link, waiting for it to be ready. -/
def attach : Attempt σ Unit := radio.controller.attach

/-- Detach from the link; an operation that waits fails. -/
def close : Action σ Unit := do
  Action.requestStop
  radio.controller.detach

/-- Whether the link is attached. -/
def isOpen : Action σ Bool := do return (← Action.core).state.attached

/-- Whether a status report says that the radio is on, or off, as it should. -/
def reportsPower (on : Bool) : Event → Option Unit
  | .status report => if report.radioOn = on then some () else none
  | _ => none

/-- Whether a status report says that the audio is muted, or not, as it should. -/
def reportsMute (on : Bool) : Event → Option Unit
  | .status report => if report.muted = on then some () else none
  | _ => none

/-- Whether an event reports an audio path. -/
def reportsAudioPath (path : AudioPath) : Event → Option Unit
  | .audioPath reported => if reported = path then some () else none
  | _ => none

/-- Whether an event reports a volume. -/
def reportsVolume (volume : UInt8) : Event → Option Unit
  | .volume _ reported => if reported = volume then some () else none
  | _ => none

/-- Whether an event reports an audio mode. -/
def reportsAudioMode (mode : AudioMode) : Event → Option Unit
  | .audioMode reported => if reported = mode then some () else none
  | _ => none

/-- Whether an event reports a mode of the RDS decoder. -/
def reportsRdsMode (mode : RdsMode) : Event → Option Unit
  | .rdsMode reported _ => if reported = mode then some () else none
  | _ => none

/-- Whether an event reports a region. -/
def reportsRegion (region : Region) : Event → Option Unit
  | .worldRegion reported => if reported = region then some () else none
  | _ => none

/-- The noise floor that an event reports. -/
def reportedNoiseFloor : Event → Option Int32
  | .noiseFloor level => some level
  | _ => none

/-- Turn the radio on, tune it, route the audio and set the volume. -/
def powerUp (frequency : Frequency) : Attempt σ Unit := do
  requireTunable frequency
  radio.controller.session do
    radio.confirmed (.turnOn radio.settings.functionality) (reportsPower true)
    let _ ← radio.controller.tune frequency
    radio.confirmed (.setAudioPath radio.settings.audioPath)
      (reportsAudioPath radio.settings.audioPath)
    radio.confirmed (.setVolume radio.settings.volume) (reportsVolume radio.settings.volume)

/-- Turn the radio off. -/
def powerDown : Attempt σ Unit := do
  Attempt.lift Action.requestStop
  radio.operate .turnOff (reportsPower false)

/-- Tune, and fail unless the receiver confirms exactly that frequency. -/
def tune (frequency : Frequency) : Attempt σ Unit := do
  requireTunable frequency
  let _ ← radio.controller.session (radio.controller.tune frequency)

/-- The last confirmed frequency. -/
def tunedFrequency : Action σ (Option Frequency) := do return (← Action.core).state.tuned

/-- Run a seek while the operation slot is held. There is no result when the receiver stopped
where it started, or found nothing. -/
def seekWith (command : Command) (start : Option Frequency) : Attempt σ (Option Frequency) := do
  match ← radio.awaited command with
  | .seekComplete report =>
    return if report.success && some report.frequency != start then some report.frequency else none
  | _ => return none

/-- The command of a seek in a direction. -/
def seekCommand (direction : Direction) : Command :=
  .seek (.seek direction radio.settings.scanMethod) radio.settings.minSignal

/-- Seek from the current frequency. -/
def seek (direction : Direction) : Attempt σ (Option Frequency) :=
  radio.controller.session do
    radio.seekWith (radio.seekCommand direction) (← Attempt.core).state.tuned

/-- Tune, then seek from there. -/
def seekFrom (frequency : Frequency) (direction : Direction) : Attempt σ (Option Frequency) := do
  requireTunable frequency
  radio.controller.session do
    let _ ← radio.controller.tune frequency
    radio.seekWith (radio.seekCommand direction) (some frequency)

/-- Seek for a station that meets a condition. -/
def seekRds (direction : Direction) (condition : RdsCondition) (value : UInt8) :
    Attempt σ (Option Frequency) :=
  radio.controller.session do
    radio.seekWith
      (.seekRds (.seek direction radio.settings.scanMethod) radio.settings.minSignal condition
        value)
      (← Attempt.core).state.tuned

/-- Seek within bounds only. -/
def seekRange (first last : Frequency) (direction : Direction) :
    Attempt σ (Option Frequency) := do
  requireTunable first
  requireTunable last
  radio.controller.session do
    radio.seekWith
      (.seekRange {
        start := first
        stop := last
        minSignal := radio.settings.minSignal
        direction := direction
        method := radio.settings.scanMethod
        multiChannel := false
        condition := .none
        value := 0 })
      (← Attempt.core).state.tuned

/-- Sweep the band while the operation slot is held. Requests to stop count from here on. -/
def sweepBand : Attempt σ Sweep.Report := do
  Attempt.lift (modify System.beginSweep)
  let sweep : Sweep := {
    band := (← Attempt.core).band
    minSignal := radio.settings.minSignal
    method := radio.settings.scanMethod }
  Attempt.lift (sweep.run radio.controller do return (← get).stopRequested)

/-- Sweep the band. Only what keeps the sweep from starting is a failure; what ends it later is
part of the report. -/
def autoScan : Attempt σ Sweep.Report := radio.controller.session radio.sweepBand

/-- Stop a sweep: the seek in progress is aborted, and the sweep ends at its next step. -/
def stopScan : Attempt σ Unit := do
  Attempt.lift Action.requestStop
  radio.controller.submitUnawaited .abortSeek

/-- Set the RDS decoder. -/
def setRdsMode (mode : RdsMode) (features : RdsFeatures) (af : AfMode) : Attempt σ Unit :=
  radio.operate (.setRds ⟨mode, features, af, radio.settings.afThreshold⟩) (reportsRdsMode mode)

/-- Turn the RDS decoder on, for the name of the program service and the radio text, or off. -/
def setRds (on : Bool) : Attempt σ Unit :=
  radio.setRdsMode (if on then .default else .off) (.union .programService .radioText) .off

/-- Follow alternate frequencies, and give the current channel. -/
def activateAf : Attempt σ UInt16 := do
  let features := [RdsFeatures.programService, .radioText, .traffic, .programType,
    .programTypeName].foldl RdsFeatures.union ⟨0⟩
  radio.setRdsMode .default features .on
  let core ← Attempt.core
  match core.state.tuned with
  | some frequency => return core.band.channelOf frequency
  | none => throw (.unconfirmed "no tuned frequency")

/-- Report one update of the radio texts and forget it; zero when there is none. -/
def readRds : Action σ UInt16 := do
  if (← Action.core).state.attached then Action.drain else return 0

/-- What is known of the radio data, while the decoder of an attached receiver runs. -/
def rdsText (text : RadioState → Option String) : Action σ (Option String) := do
  let state := (← Action.core).state
  return if state.attached && state.rdsMode.isOn then text state else none

/-- The name of the program service. -/
def programService : Action σ (Option String) := rdsText RadioState.programService

/-- The radio text. -/
def radioText : Action σ (Option String) := rdsText RadioState.radioText

/-- Mute or unmute the audio. -/
def setMute (on : Bool) : Attempt σ Unit := radio.operate (.mute on) (reportsMute on)

/-- The decoder of radio data is always there. -/
def rdsSupport : RdsSupport := .supported

/-- There is only one antenna. -/
def switchAntenna (_antenna : UInt8) : AntennaStatus := .notSupported

/-- Choose between stereo and mono. -/
def setAudioMode (mode : AudioMode) : Attempt σ Unit :=
  radio.operate (.setAudioMode mode) (reportsAudioMode mode)

/-- Route the audio. -/
def setAudioPath (path : AudioPath) : Attempt σ Unit :=
  radio.operate (.setAudioPath path) (reportsAudioPath path)

/-- Set the volume. -/
def setVolume (volume : UInt8) : Attempt σ Unit :=
  radio.operate (.setVolume volume) (reportsVolume volume)

/-- Change the region; the band follows unless the settings fix one. -/
def setRegion (region : Region) : Attempt σ Unit := do
  radio.operate (.setRegion region (Band.preset region).deemphasis) (reportsRegion region)
  if radio.settings.band?.isNone then Attempt.lift (Action.setBand (Band.preset region))

/-- Estimate the noise floor. -/
def estimateNoiseFloor (precision : FloorPrecision) : Attempt σ Int32 :=
  radio.operate (.estimateNoiseFloor precision) reportedNoiseFloor

/-- Run a command that no event confirms, in a session of its own. -/
def perform (command : Command) : Attempt σ Unit := do
  let _ ← radio.controller.session (radio.controller.execute command)

/-- A span of microseconds in whole milliseconds, or the longest there is. -/
def wholeMilliseconds (microseconds : Nat) : UInt32 :=
  UInt32.ofNat (min (microseconds / 1000) (UInt32.size - 1))

/-- Start or stop periodic reports of the audio quality. -/
def setLivePolling (enabled : Bool) (intervalUs : Nat) : Attempt σ Unit :=
  radio.perform (.setLivePolling enabled (wholeMilliseconds intervalUs))

/-- Set the signal-to-noise threshold of later tunes. -/
def setSnrThreshold (threshold : UInt8) : Attempt σ Unit :=
  radio.perform (.setSnrThreshold threshold)

/-- Set the grid of seeks. -/
def setStepSize (step : StepSize) : Attempt σ Unit := radio.perform (.setStepSize step)

/-- Ask for a fresh status, and give the state after it. -/
def refreshStatus : Attempt σ RadioState := do
  let _ ← radio.controller.session (radio.awaited .getStatus)
  return (← Attempt.core).state

/-- What is done when a radio is given up: it detaches if it is attached. -/
def dispose : Action σ Unit := do
  if (← Action.core).state.attached then radio.controller.detach

end Radio

end Tuner
