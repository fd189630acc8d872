import Tuner.Event
import Tuner.Text.Blank

/-!
# The state of the radio

What is known of the receiver is what its events said. Each event is folded into the state as it
arrives; nothing else changes it but draining the updates of radio texts and losing the link,
which clears all of it.
-/
namespace Tuner

/-- Which radio texts were updated since they were last reported. -/
structure RdsUpdates where
  /-- The name of the program service. -/
  programService : Bool := false
  /-- The radio text. -/
  radioText : Bool := false
deriving DecidableEq, Repr, Inhabited

/-- What a drain reports for the name of the program service. -/
def programServiceUpdate : UInt16 := 0x0008

/-- What a drain reports for the radio text. -/
def radioTextUpdate : UInt16 := 0x0040

namespace RdsUpdates

/-- Whether nothing was updated. -/
def isEmpty (updates : RdsUpdates) : Bool := !updates.programService && !updates.radioText

/-- Report one update and forget it, the name of the program service first; zero when there is
none. -/
def takeNext (updates : RdsUpdates) : UInt16 × RdsUpdates :=
  if updates.programService then (programServiceUpdate, { updates with programService := false })
  else if updates.radioText then (radioTextUpdate, { updates with radioText := false })
  else (0, updates)

end RdsUpdates

/-- The last known state of the receiver. -/
structure RadioState where
  /-- The link reported that it is attached and has not gone away since. -/
  attached : Bool := false
  /-- The last status reported the radio on. -/
  radioOn : Bool := false
  /-- The last reported frequency within the band. -/
  tuned : Option Frequency := none
  /-- The signal strength in dBm. -/
  rssi : Int32 := 0
  /-- The signal-to-noise ratio in dB. -/
  snr : Int32 := 0
  /-- The choice between stereo and mono. -/
  audioMode : AudioMode := .auto
  /-- Where decoded audio goes. -/
  audioPath : AudioPath := .none
  /-- The volume. -/
  volume : Option UInt8 := none
  /-- The region. -/
  region : Option Region := none
  /-- The last estimate of the noise floor. -/
  noiseFloor : Option Int32 := none
  /-- Whether the audio is muted. -/
  muted : Bool := false
  /-- The mode of the RDS decoder. -/
  rdsMode : RdsMode := .off
  /-- Whether alternate frequencies are followed. -/
  afEnabled : Bool := false
  /-- The name of the program service. -/
  programService : Option String := none
  /-- The radio text. -/
  radioText : Option String := none
  /-- The program type. -/
  programType : Option UInt8 := none
  /-- The name of the program type. -/
  programTypeName : Option String := none
  /-- The texts to be reported as updated. -/
  updates : RdsUpdates := {}
deriving DecidableEq, Repr, Inhabited

namespace RadioState

/-- A reported text replaces the known one unless it is absent or empty. -/
def newer (known reported : Option String) : Option String :=
  match reported with
  | some text => if text = "" then known else some text
  | none => known

/-- Take over a reported frequency if it lies in the band. -/
def setTuned (state : RadioState) (frequency : Frequency) (band : Band) : RadioState :=
  if band.contains frequency then { state with tuned := some frequency } else state

/-- Take over the texts of a status report while the decoder runs. -/
def applyStatusTexts (state : RadioState) (report : StatusReport) : RadioState :=
  if state.rdsMode.isOn then
    { state with
      programType := some report.programType
      programService := newer state.programService report.programService
      radioText := newer state.radioText report.radioText
      programTypeName := newer state.programTypeName report.programTypeName }
  else state

/-- Take over one field of the radio data while the decoder runs. -/
def applyRdsData (state : RadioState) (field : RdsField) (text : String) : RadioState :=
  if !state.rdsMode.isOn then state
  else
    match field with
    | .programService =>
      { state with
        programService := some text
        updates := { state.updates with programService := true } }
    | .radioText =>
      { state with
        radioText := some text
        updates := { state.updates with radioText := true } }
    | .programTypeName => { state with programTypeName := some text }
    | .programType =>
      match Text.byte? text with
      | some programType => { state with programType := some programType }
      | none => state
    | .other _ => state

/-- Fold an event into the state, with the band in force at its arrival. -/
def apply (state : RadioState) (band : Band) : Event → RadioState
  | .status report =>
    ({ (state.setTuned report.frequency band) with
      radioOn := report.radioOn
      rssi := report.rssi
      snr := report.snr
      muted := report.muted }).applyStatusTexts report
  | .seekComplete report =>
    if report.success then
      { (state.setTuned report.frequency band) with rssi := report.rssi, snr := report.snr }
    else state
  | .rdsMode mode afEnabled =>
    { state with
      rdsMode := mode
      afEnabled := afEnabled
      updates := if mode.isOn then state.updates else {} }
  | .rdsData field _ text => state.applyRdsData field text
  | .audioMode mode => { state with audioMode := mode }
  | .audioPath path => { state with audioPath := path }
  | .noiseFloor level => { state with noiseFloor := some level }
  | .liveQuality rssi snr => { state with rssi := rssi, snr := snr }
  | .worldRegion region => { state with region := some region }
  | .volume _ level => { state with volume := some level }

/-- Report one update of the radio texts and forget it; zero while the decoder is off. -/
def takeUpdate (state : RadioState) : UInt16 × RadioState :=
  if state.rdsMode.isOn then
    let (update, updates) := state.updates.takeNext
    (update, { state with updates := updates })
  else (0, state)

/-- The tuned frequency as people read it. -/
def frequencyText (state : RadioState) : String :=
  match state.tuned with
  | some frequency => frequency.text
  | none => "---"

end RadioState

end Tuner
