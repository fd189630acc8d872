import Tuner.Form.Code
import Tuner.RadioState

/-!
# The form of the state of the radio

The state is only ever shown, so it has a writing and no reading.
-/
namespace Tuner.RadioState

/-- The fields of the state in order. -/
def members (state : RadioState) : List (String × Json) :=
  [("link_attached", encode state.attached), ("radio_on", encode state.radioOn),
    ("tuned_frequency", encode state.tuned), ("rssi", encode state.rssi),
    ("snr", encode state.snr), ("audio_mode", encode state.audioMode),
    ("audio_path", encode state.audioPath), ("volume", encode state.volume),
    ("world_region", encode state.region), ("noise_floor", encode state.noiseFloor),
    ("muted", encode state.muted), ("rds_mode", encode state.rdsMode),
    ("af_enabled", encode state.afEnabled),
    ("rds_program_service", encode state.programService),
    ("rds_radio_text", encode state.radioText),
    ("rds_program_type", encode state.programType),
    ("rds_program_type_name", encode state.programTypeName),
    ("rds_pending", .object [("ps", encode state.updates.programService),
      ("rt", encode state.updates.radioText)])]

/-- The state as an object. -/
def json (state : RadioState) : Json := .object state.members

end Tuner.RadioState
