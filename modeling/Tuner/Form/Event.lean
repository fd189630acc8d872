import Tuner.Event
import Tuner.Form.Code

/-!
# Forms of events

An event is an object with one member, named for the kind of event, whose value is an object with
the fields of the report.
-/
namespace Tuner

/-- The fields of a status report. -/
def StatusReport.members (report : StatusReport) : List (String × Json) :=
  [("frequency", encode report.frequency), ("rssi", encode report.rssi),
    ("snr", encode report.snr), ("radio_on", encode report.radioOn),
    ("program_type", encode report.programType),
    ("program_service", encode report.programService),
    ("radio_text", encode report.radioText),
    ("program_type_name", encode report.programTypeName), ("muted", encode report.muted)]

/-- The status report with the given fields. -/
def StatusReport.ofContent? (source : Form.Source) (content : Json) : Option StatusReport := do
  let fields ← Form.variantFields? source ["frequency", "rssi", "snr", "radio_on", "program_type",
    "program_service", "radio_text", "program_type_name", "muted"] content
  some ⟨← fields.required "frequency", ← fields.required "rssi", ← fields.required "snr",
    ← fields.required "radio_on", ← fields.required "program_type",
    ← fields.optional "program_service", ← fields.optional "radio_text",
    ← fields.optional "program_type_name", ← fields.required "muted"⟩

/-- The fields of the end of a seek. -/
def SeekReport.members (report : SeekReport) : List (String × Json) :=
  [("frequency", encode report.frequency), ("rssi", encode report.rssi),
    ("snr", encode report.snr), ("success", encode report.success)]

/-- The end of a seek with the given fields. -/
def SeekReport.ofContent? (source : Form.Source) (content : Json) : Option SeekReport := do
  let fields ← Form.variantFields? source ["frequency", "rssi", "snr", "success"] content
  some ⟨← fields.required "frequency", ← fields.required "rssi", ← fields.required "snr",
    ← fields.required "success"⟩

namespace Event

/-- The fields of an event. -/
def members : Event → List (String × Json)
  | status report => report.members
  | seekComplete report => report.members
  | rdsMode mode afEnabled => [("mode", encode mode), ("af_enabled", encode afEnabled)]
  | rdsData field index text =>
    [("data_type", encode field), ("index", encode index), ("text", encode text)]
  | audioMode mode => [("mode", encode mode)]
  | audioPath path => [("path", encode path)]
  | noiseFloor level => [("level", encode level)]
  | liveQuality rssi snr => [("rssi", encode rssi), ("snr", encode snr)]
  | worldRegion region => [("region", encode region)]
  | volume outcome level => [("status", encode outcome), ("volume", encode level)]

/-- The event of a kind with the given fields. -/
def ofContent? (source : Form.Source) (kind : Tag) (content : Json) : Option Event :=
  match kind with
  | .status => (StatusReport.ofContent? source content).map .status
  | .seekComplete => (SeekReport.ofContent? source content).map .seekComplete
  | .rdsMode => do
    let fields ← Form.variantFields? source ["mode", "af_enabled"] content
    some (.rdsMode (← fields.required "mode") (← fields.required "af_enabled"))
  | .rdsData => do
    let fields ← Form.variantFields? source ["data_type", "index", "text"] content
    some (.rdsData (← fields.required "data_type") (← fields.required "index")
      (← fields.required "text"))
  | .audioMode => do
    let fields ← Form.variantFields? source ["mode"] content
    some (.audioMode (← fields.required "mode"))
  | .audioPath => do
    let fields ← Form.variantFields? source ["path"] content
    some (.audioPath (← fields.required "path"))
  | .noiseFloor => do
    let fields ← Form.variantFields? source ["level"] content
    some (.noiseFloor (← fields.required "level"))
  | .liveQuality => do
    let fields ← Form.variantFields? source ["rssi", "snr"] content
    some (.liveQuality (← fields.required "rssi") (← fields.required "snr"))
  | .worldRegion => do
    let fields ← Form.variantFields? source ["region"] content
    some (.worldRegion (← fields.required "region"))
  | .volume => do
    let fields ← Form.variantFields? source ["status", "volume"] content
    some (.volume (← fields.required "status") (← fields.required "volume"))
  | .any => none

end Event

instance : Form Event where
  encode event := .tagged (name event.tag) (.object event.members)
  decodeFrom? source value := do
    let (name, content) ← Form.variant? value
    Event.ofContent? source (← Named.ofName? name) (← content)

instance : Form Notification where
  encode
    | .attached => .string "Attached"
    | .detached => .string "Detached"
    | .event event => encode event
  decodeFrom?
    | _, .string "Attached" => some .attached
    | _, .string "Detached" => some .detached
    | source, value => (decodeFrom? source value).map .event

end Tuner
