import Tuner.Command
import Tuner.Form.Code

/-!
# Forms of commands

A command without parameters is its name, any other an object with one member, named for the
command, whose value is an object with the parameters.
-/
namespace Tuner.Command

/-- The name under which a command is written. -/
def formName : Command → String
  | turnOn _ => "TurnOn"
  | turnOff => "TurnOff"
  | tune _ => "Tune"
  | getStatus => "GetStatus"
  | mute _ => "Mute"
  | seek .. => "Seek"
  | seekRds .. => "SeekRds"
  | seekRange _ => "SeekCombo"
  | abortSeek => "AbortSeek"
  | setRds _ => "SetRdsMode"
  | setAudioMode _ => "SetAudioMode"
  | setAudioPath _ => "SetAudioPath"
  | setStepSize _ => "SetStepSize"
  | setVolume _ => "SetVolume"
  | setRegion .. => "SetWorldRegion"
  | estimateNoiseFloor _ => "EstimateNoiseFloor"
  | setLivePolling .. => "SetLiveAudioPolling"
  | setSnrThreshold _ => "SetSnrThreshold"

/-- The parameters of a command. -/
def members : Command → List (String × Json)
  | turnOn functionality => [("functionality", encode functionality)]
  | turnOff | getStatus | abortSeek => []
  | tune frequency => [("frequency", encode frequency)]
  | mute on => [("mute", encode on)]
  | seek mode minSignal => [("mode", encode mode), ("min_signal", encode minSignal)]
  | seekRds mode minSignal condition value =>
    [("mode", encode mode), ("min_signal", encode minSignal), ("condition", encode condition),
      ("value", encode value)]
  | seekRange range =>
    [("start", encode range.start), ("end", encode range.stop),
      ("min_signal", encode range.minSignal), ("direction", encode range.direction),
      ("method", encode range.method), ("multi_channel", encode range.multiChannel),
      ("rds_condition", encode range.condition), ("rds_value", encode range.value)]
  | setRds setting =>
    [("mode", encode setting.mode), ("features", encode setting.features),
      ("af", encode setting.af), ("af_threshold", encode setting.afThreshold)]
  | setAudioMode mode => [("mode", encode mode)]
  | setAudioPath path => [("path", encode path)]
  | setStepSize step => [("step", encode step)]
  | setVolume volume => [("volume", encode volume)]
  | setRegion region deemphasis =>
    [("region", encode region), ("deemphasis", encode deemphasis)]
  | estimateNoiseFloor precision => [("level", encode precision)]
  | setLivePolling enabled intervalMs =>
    [("enabled", encode enabled), ("interval_ms", encode intervalMs)]
  | setSnrThreshold threshold => [("threshold", encode threshold)]

/-- Whether a command is written as its name alone. -/
def isBare : Command → Bool
  | turnOff | getStatus | abortSeek => true
  | _ => false

/-- The command that is written as a name alone. -/
def ofBareName? : String → Option Command
  | "TurnOff" => some .turnOff
  | "GetStatus" => some .getStatus
  | "AbortSeek" => some .abortSeek
  | _ => none

/-- The seek within bounds with the given parameters. -/
def rangeOfContent? (source : Form.Source) (content : Json) : Option RangeSeek := do
  let fields ← Form.variantFields? source ["start", "end", "min_signal", "direction", "method",
    "multi_channel", "rds_condition", "rds_value"] content
  some ⟨← fields.required "start", ← fields.required "end", ← fields.required "min_signal",
    ← fields.required "direction", ← fields.required "method", ← fields.required "multi_channel",
    ← fields.required "rds_condition", ← fields.required "rds_value"⟩

/-- The setting of the decoder with the given parameters. -/
def settingOfContent? (source : Form.Source) (content : Json) : Option RdsSetting := do
  let fields ← Form.variantFields? source ["mode", "features", "af", "af_threshold"] content
  some ⟨← fields.required "mode", ← fields.required "features", ← fields.required "af",
    ← fields.required "af_threshold"⟩

/-- The command of a name with the given parameters. -/
def ofContent? (source : Form.Source) (name : String) (content : Json) : Option Command :=
  match name with
  | "TurnOn" => do
    let fields ← Form.variantFields? source ["functionality"] content
    some (.turnOn (← fields.required "functionality"))
  | "Tune" => do
    let fields ← Form.variantFields? source ["frequency"] content
    some (.tune (← fields.required "frequency"))
  | "Mute" => do
    let fields ← Form.variantFields? source ["mute"] content
    some (.mute (← fields.required "mute"))
  | "Seek" => do
    let fields ← Form.variantFields? source ["mode", "min_signal"] content
    some (.seek (← fields.required "mode") (← fields.required "min_signal"))
  | "SeekRds" => do
    let fields ← Form.variantFields? source ["mode", "min_signal", "condition", "value"] content
    some (.seekRds (← fields.required "mode") (← fields.required "min_signal")
      (← fields.required "condition") (← fields.required "value"))
  | "SeekCombo" => (rangeOfContent? source content).map .seekRange
  | "SetRdsMode" => (settingOfContent? source content).map .setRds
  | "SetAudioMode" => do
    let fields ← Form.variantFields? source ["mode"] content
    some (.setAudioMode (← fields.required "mode"))
  | "SetAudioPath" => do
    let fields ← Form.variantFields? source ["path"] content
    some (.setAudioPath (← fields.required "path"))
  | "SetStepSize" => do
    let fields ← Form.variantFields? source ["step"] content
    some (.setStepSize (← fields.required "step"))
  | "SetVolume" => do
    let fields ← Form.variantFields? source ["volume"] content
    some (.setVolume (← fields.required "volume"))
  | "SetWorldRegion" => do
    let fields ← Form.variantFields? source ["region", "deemphasis"] content
    some (.setRegion (← fields.required "region") (← fields.required "deemphasis"))
  | "EstimateNoiseFloor" => do
    let fields ← Form.variantFields? source ["level"] content
    some (.estimateNoiseFloor (← fields.required "level"))
  | "SetLiveAudioPolling" => do
    let fields ← Form.variantFields? source ["enabled", "interval_ms"] content
    some (.setLivePolling (← fields.required "enabled") (← fields.required "interval_ms"))
  | "SetSnrThreshold" => do
    let fields ← Form.variantFields? source ["threshold"] content
    some (.setSnrThreshold (← fields.required "threshold"))
  | _ => none

end Tuner.Command

namespace Tuner

instance : Form Command where
  encode command :=
    if command.isBare then .string command.formName
    else .tagged command.formName (.object command.members)
  decodeFrom? source value := do
    let (name, content) ← Form.variant? value
    match Command.ofBareName? name with
    | some command => if Form.isBare content then some command else none
    | none => Command.ofContent? source name (← content)

end Tuner
