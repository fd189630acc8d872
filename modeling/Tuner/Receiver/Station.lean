import Tuner.Band
import Tuner.Form.Code

/-!
# Stations

A station broadcasts on one frequency. A receiver hears it with a certain strength, and seeks
pass over it when that is too little. Stations are kept in the order of their frequencies, and of
two on one frequency the first is the one that is heard.
-/
namespace Tuner

/-- A broadcast that a receiver can pick up. -/
structure Station where
  /-- Where it is. -/
  frequency : Frequency
  /-- The signal strength in dBm. -/
  rssi : Int32
  /-- The signal-to-noise ratio in dB. -/
  snr : Int32 := 25
  /-- The name of the program service. -/
  programService : Option String := none
  /-- The radio text. -/
  radioText : Option String := none
  /-- The program type. -/
  programType : UInt8 := 0
  /-- Whether it carries announcements about traffic. -/
  trafficProgram : Bool := false
deriving DecidableEq, Repr

namespace Station

/-- Whether a seek that asks for a signal no weaker than a value in negative dBm stops here. -/
def isAudible (station : Station) (minSignal : UInt8) : Bool :=
  decide (-(minSignal.toNat : Int) ≤ station.rssi.toInt)

/-- Whether the station broadcasts what is asked for. -/
def meets (station : Station) (condition : RdsCondition) (value : UInt8) : Bool :=
  match condition with
  | .none => true
  | .programType => station.programType == value
  | .traffic => station.trafficProgram

/-- Stations in the order of their frequencies; those on one frequency keep their order. -/
def sort (stations : List Station) : List Station :=
  stations.mergeSort fun left right => decide (left.frequency ≤ right.frequency)

/-- The frequency of the strongest of some stations, the last of those equally strong. -/
def strongest? (stations : List Station) : Option Frequency :=
  let better (best : Option Station) (station : Station) : Option Station :=
    match best with
    | some found => if found.rssi ≤ station.rssi then some station else best
    | none => some station
  (stations.foldl better none).map (·.frequency)

/-- The lowest frequency of some stations. -/
def lowest? : List Station → Option Frequency
  | [] => none
  | station :: stations =>
    match lowest? stations with
    | some frequency => some (station.frequency.lower frequency)
    | none => some station.frequency

/-- The highest frequency of some stations. -/
def highest? : List Station → Option Frequency
  | [] => none
  | station :: stations =>
    match highest? stations with
    | some frequency => some (station.frequency.higher frequency)
    | none => some station.frequency

end Station

/-- Why a station cannot be put on the air. -/
inductive StationFault where
  /-- The station lies outside the band. -/
  | outOfBand (frequency : Frequency)
  /-- The station lies between channels. -/
  | offGrid (frequency : Frequency)
  /-- The channel has a station already. -/
  | duplicate (frequency : Frequency)
deriving DecidableEq, Repr

/-- The wording of a refusal. -/
def StationFault.message : StationFault → String
  | outOfBand frequency => "station " ++ frequency.text ++ " outside band"
  | offGrid frequency => "station " ++ frequency.text ++ " not on the channel grid"
  | duplicate frequency => "station " ++ frequency.text ++ " already present"

instance : Form Station where
  encode station :=
    .object [("frequency", encode station.frequency), ("rssi", encode station.rssi),
      ("snr", encode station.snr), ("program_service", encode station.programService),
      ("radio_text", encode station.radioText), ("program_type", encode station.programType),
      ("traffic_program", encode station.trafficProgram)]
  decodeFrom? source value := do
    let fields ← Form.fields? source ["frequency", "rssi", "snr", "program_service", "radio_text",
      "program_type", "traffic_program"] value
    some {
      frequency := ← fields.required "frequency"
      rssi := ← fields.required "rssi"
      snr := ← fields.required "snr"
      programService := ← fields.withDefault "program_service" none
      radioText := ← fields.withDefault "radio_text" none
      programType := ← fields.withDefault "program_type" 0
      trafficProgram := ← fields.withDefault "traffic_program" false }

end Tuner
