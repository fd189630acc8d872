import Tuner.Code.Acceptance
import Tuner.Command
import Tuner.Receiver.Station

/-!
# The chip of a simulated receiver

The chip has power, a frequency within its band, a decoder, and at most one seek in progress. A
command that is not refused changes the chip at once, and what it reports is sent with a delay. A
seek moves the tuner at once too and reports its end later. Whatever supersedes a seek before its
end begins a new epoch, which keeps the reports of that seek from being delivered.
-/
namespace Tuner

/-- A seek in progress. -/
structure Chip.Seek where
  /-- Where it started. -/
  start : Frequency
  /-- When it ends. -/
  due : Nat
deriving DecidableEq, Repr

/-- An event to be sent. -/
structure Chip.Dispatch where
  /-- The event. -/
  event : Event
  /-- The milliseconds until it is due. -/
  delay : Nat
  /-- Whether it is dropped once the seek it belongs to is superseded. -/
  guarded : Bool := false
deriving DecidableEq, Repr

/-- The state of the chip. -/
structure Chip where
  /-- The band. -/
  band : Band
  /-- The stations on the air. -/
  stations : List Station
  /-- The milliseconds until an event is due. -/
  eventLatency : Nat
  /-- The milliseconds that a seek takes. -/
  seekLatency : Nat
  /-- The signal strength where there is no station. -/
  noiseFloor : Int32
  /-- Whether the radio is on. -/
  powered : Bool := false
  /-- Where the tuner stands. -/
  frequency : Frequency := band.low
  /-- Whether the audio is muted. -/
  muted : Bool := false
  /-- The mode of the RDS decoder. -/
  rdsMode : RdsMode := .off
  /-- Whether alternate frequencies are followed. -/
  af : AfMode := .off
  /-- The choice between stereo and mono. -/
  audioMode : AudioMode := .auto
  /-- Where audio goes. -/
  audioPath : AudioPath := .none
  /-- The volume. -/
  volume : UInt8 := 0
  /-- The grid of seeks. -/
  step : StepSize := .khz100
  /-- The signal-to-noise threshold. -/
  snrThreshold : UInt8 := 0
  /-- The interval of the periodic reports. -/
  pollInterval : Option UInt32 := none
  /-- The seek in progress. -/
  seek : Option Chip.Seek := none
  /-- How many seeks were superseded. -/
  epoch : Nat := 0
deriving DecidableEq, Repr

namespace Chip

/-! ## What is heard -/

/-- The station on a frequency. -/
def stationAt (chip : Chip) (frequency : Frequency) : Option Station :=
  chip.stations.find? fun station => station.frequency == frequency

/-- The signal strength on a frequency. -/
def rssiAt (chip : Chip) (frequency : Frequency) : Int32 :=
  match chip.stationAt frequency with
  | some station => station.rssi
  | none => chip.noiseFloor

/-- The signal-to-noise ratio on a frequency. -/
def snrAt (chip : Chip) (frequency : Frequency) : Int32 :=
  match chip.stationAt frequency with
  | some station => station.snr
  | none => 0

/-- The station whose radio data is decoded. -/
def decoded (chip : Chip) : Option Station :=
  if chip.rdsMode.isOn then chip.stationAt chip.frequency else none

/-- A status report. -/
def status (chip : Chip) : Event :=
  .status {
    frequency := chip.frequency
    rssi := chip.rssiAt chip.frequency
    snr := chip.snrAt chip.frequency
    radioOn := chip.powered
    programType := (chip.decoded.map (·.programType)).getD 0
    programService := chip.decoded.bind (·.programService)
    radioText := chip.decoded.bind (·.radioText)
    programTypeName := none
    muted := chip.muted }

/-- The end of a seek. -/
def seekEnd (chip : Chip) (frequency : Frequency) (success : Bool) : Event :=
  .seekComplete ⟨frequency, chip.rssiAt frequency, chip.snrAt frequency, success⟩

/-- A sample of the audio quality. -/
def quality (chip : Chip) : Event :=
  .liveQuality (chip.rssiAt chip.frequency) (chip.snrAt chip.frequency)

/-- The radio data that is decoded: the program type, then each text that is broadcast. -/
def radioData (chip : Chip) : List Event :=
  match chip.decoded with
  | some station =>
    .rdsData .programType 0 (toString station.programType.toNat)
      :: ((station.programService.map (.rdsData .programService 0)).toList
        ++ (station.radioText.map (.rdsData .radioText 0)).toList)
  | none => []

/-- What is reported of the station that the tuner has come to. -/
def arrival (chip : Chip) (delay : Nat) (guarded : Bool) : List Dispatch :=
  chip.radioData.map (⟨·, delay, guarded⟩)
    ++ (chip.pollInterval.map fun interval =>
      (⟨chip.quality, delay + interval.toNat, guarded⟩ : Dispatch)).toList

/-- An event that is due after the usual delay. -/
def soon (chip : Chip) (event : Event) : Dispatch := ⟨event, chip.eventLatency, false⟩

/-! ## Seeks -/

/-- The stations that a seek stops at. -/
def candidates (chip : Chip) (minSignal : UInt8) (condition : RdsCondition) (value : UInt8) :
    List Station :=
  chip.stations.filter fun station =>
    station.isAudible minSignal && station.meets condition value

/-- Where a seek through the band ends. In one direction it stops at the next station, and wraps
to the other end of the band when there is none. -/
def seekTarget (chip : Chip) (mode : SeekMode) (stations : List Station) : Option Frequency :=
  let inBand := stations.filter fun station => chip.band.contains station.frequency
  match mode with
  | .full => Station.strongest? inBand
  | .seek .up _ =>
    let ahead := inBand.filter fun station => decide (chip.frequency < station.frequency)
    some ((Station.lowest? ahead).getD chip.band.low)
  | .seek .down _ =>
    let ahead := inBand.filter fun station => decide (station.frequency < chip.frequency)
    some ((Station.highest? ahead).getD chip.band.high)

/-- Where a seek within bounds ends, wherever the tuner stands. -/
def rangeTarget (range : RangeSeek) (stations : List Station) : Option Frequency :=
  let low := range.start.lower range.stop
  let high := range.start.higher range.stop
  let between := stations.filter fun station =>
    decide (low ≤ station.frequency) && decide (station.frequency ≤ high)
  match range.direction with
  | .up => Station.lowest? between
  | .down => Station.highest? between

/-- Supersede the seek in progress and give where it started. A seek that has come to its end is
over, and nothing is superseded. -/
def supersede (chip : Chip) (now : Nat) : Option Frequency × Chip :=
  match chip.seek with
  | none => (none, chip)
  | some seek =>
    if seek.due ≤ now then (none, { chip with seek := none })
    else (some seek.start, { chip with seek := none, epoch := chip.epoch + 1 })

/-- Start a seek that ends at a target, or fails where it started. -/
def startSeek (chip : Chip) (now : Nat) (target : Option Frequency) : Chip × List Dispatch :=
  let (_, chip) := chip.supersede now
  let moved := {
    chip with
    frequency := target.getD chip.frequency
    seek := some ⟨chip.frequency, now + chip.seekLatency⟩ }
  (moved,
    ⟨moved.seekEnd moved.frequency target.isSome, moved.seekLatency, true⟩
      :: if target.isSome then moved.arrival moved.seekLatency true else [])

/-! ## Commands -/

/-- Take a band, and go to its lower bound from outside of it. -/
def enterBand (chip : Chip) (band : Band) : Chip :=
  { chip with
    band := band
    frequency := if band.contains chip.frequency then chip.frequency else band.low }

/-- Lose power. -/
def powerOff (chip : Chip) : Chip :=
  { chip with powered := false, rdsMode := .off, pollInterval := none }

/-- Whether a command is accepted by a chip that is attached. -/
def acceptance (chip : Chip) (command : Command) : Acceptance :=
  if command.needsRadioOn && !chip.powered then .illegalCommand
  else if !command.isValid then .illegalParameters
  else
    match command with
    | .tune frequency => if chip.band.isTunable frequency then .ok else .illegalParameters
    | .seekRange range =>
      if chip.band.contains range.start && chip.band.contains range.stop then .ok
      else .illegalParameters
    | _ => .ok

/-- Carry out a command that is accepted, and report what there is to report. -/
def execute (chip : Chip) (now : Nat) : Command → Chip × List Dispatch
  | .turnOn functionality =>
    let region := functionality.region
    let chip := if region = chip.band.region then chip else chip.enterBand (Band.preset region)
    let chip := { chip with powered := true }
    (chip, [chip.soon chip.status])
  | .turnOff =>
    let chip := (chip.supersede now).2.powerOff
    (chip, [chip.soon chip.status])
  | .tune frequency =>
    let chip := { (chip.supersede now).2 with frequency := frequency }
    (chip, chip.soon chip.status :: chip.arrival chip.eventLatency false)
  | .getStatus => (chip, [chip.soon chip.status])
  | .mute on =>
    let chip := { chip with muted := on }
    (chip, [chip.soon chip.status])
  | .seek mode minSignal =>
    chip.startSeek now (chip.seekTarget mode (chip.candidates minSignal .none 0))
  | .seekRds mode minSignal condition value =>
    chip.startSeek now (chip.seekTarget mode (chip.candidates minSignal condition value))
  | .seekRange range =>
    chip.startSeek now
      (rangeTarget range (chip.candidates range.minSignal range.condition range.value))
  | .abortSeek =>
    match chip.supersede now with
    | (some start, chip) =>
      let chip := { chip with frequency := start }
      (chip, [chip.soon (chip.seekEnd start false)])
    | (none, chip) => (chip, [])
  | .setRds setting =>
    let chip := { chip with rdsMode := setting.mode, af := setting.af }
    (chip, chip.soon (.rdsMode setting.mode (setting.af == .on)) :: chip.radioData.map chip.soon)
  | .setAudioMode mode => ({ chip with audioMode := mode }, [chip.soon (.audioMode mode)])
  | .setAudioPath path => ({ chip with audioPath := path }, [chip.soon (.audioPath path)])
  | .setStepSize step => ({ chip with step := step }, [])
  | .setVolume volume => ({ chip with volume := volume }, [chip.soon (.volume 0 volume)])
  | .setRegion region deemphasis =>
    let band := { Band.preset region with deemphasis := deemphasis }
    (chip.enterBand band, [chip.soon (.worldRegion region)])
  | .estimateNoiseFloor _ => (chip, [chip.soon (.noiseFloor chip.noiseFloor)])
  | .setLivePolling enabled interval =>
    let command := Command.setLivePolling enabled interval
    let chip := { chip with pollInterval := command.pollInterval? }
    (chip, (chip.pollInterval.map fun interval =>
      (⟨chip.quality, interval.toNat, false⟩ : Dispatch)).toList)
  | .setSnrThreshold threshold => ({ chip with snrThreshold := threshold }, [])

/-! ## Stations -/

/-- Put a station on the air. -/
def addStation (chip : Chip) (station : Station) : Except StationFault Chip :=
  if !chip.band.contains station.frequency then .error (.outOfBand station.frequency)
  else if !chip.band.isTunable station.frequency then .error (.offGrid station.frequency)
  else if (chip.stationAt station.frequency).isSome then .error (.duplicate station.frequency)
  else .ok { chip with stations := Station.sort (chip.stations ++ [station]) }

/-- Take the stations on a frequency off the air. -/
def removeStation (chip : Chip) (frequency : Frequency) : Chip :=
  { chip with stations := chip.stations.filter fun station => station.frequency != frequency }

/-- Change the first of the stations on a frequency. -/
def changeStation (frequency : Frequency) (change : Station → Station) :
    List Station → List Station
  | [] => []
  | station :: stations =>
    if station.frequency = frequency then change station :: stations
    else station :: changeStation frequency change stations

/-- Change the texts of the station on a frequency. -/
def setTexts (chip : Chip) (frequency : Frequency) (programService radioText : Option String) :
    Chip :=
  { chip with
    stations := changeStation frequency (fun station =>
      { station with programService := programService, radioText := radioText }) chip.stations }

/-- One line about the chip. -/
def summary (chip : Chip) : String :=
  (if chip.powered then "on " else "off ") ++ chip.frequency.text
    ++ " rds=" ++ name chip.rdsMode ++ " vol=" ++ toString chip.volume.toNat
    ++ " stations=" ++ toString chip.stations.length

end Chip

end Tuner
