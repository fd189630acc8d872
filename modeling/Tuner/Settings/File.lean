import Tuner.Form.Code
import Tuner.Json.Printer
import Tuner.Json.Reader
import Tuner.Settings.Basic

/-!
# Settings files

Settings are kept as JSON, one field to a line. A file may leave out any field, which then has
its default, and may hold further fields. A file that is read well still has to pass
`Settings.validate`.
-/
namespace Tuner

/-- The names of the fields in order. -/
def Settings.fieldNames : List String :=
  ["region", "band", "command_timeout_ms", "functionality", "audio_path", "volume",
    "min_signal_strength", "af_threshold", "scan_method"]

instance : Form Settings where
  encode settings :=
    .object [("region", encode settings.region), ("band", encode settings.band?),
      ("command_timeout_ms", encode settings.timeoutMs),
      ("functionality", encode settings.functionality),
      ("audio_path", encode settings.audioPath), ("volume", encode settings.volume),
      ("min_signal_strength", encode settings.minSignal),
      ("af_threshold", encode settings.afThreshold),
      ("scan_method", encode settings.scanMethod)]
  decodeFrom? source value := do
    let fields ← Form.fields? source Settings.fieldNames value
    let default : Settings := {}
    some {
      region := ← fields.withDefault "region" default.region
      band? := ← fields.withDefault "band" default.band?
      timeoutMs := ← fields.withDefault "command_timeout_ms" default.timeoutMs
      functionality := ← fields.withDefault "functionality" default.functionality
      audioPath := ← fields.withDefault "audio_path" default.audioPath
      volume := ← fields.withDefault "volume" default.volume
      minSignal := ← fields.withDefault "min_signal_strength" default.minSignal
      afThreshold := ← fields.withDefault "af_threshold" default.afThreshold
      scanMethod := ← fields.withDefault "scan_method" default.scanMethod }

/-- Why settings could not be loaded. -/
inductive SettingsFault where
  /-- The file is not there. -/
  | missing
  /-- The text is not that of settings. -/
  | malformed
  /-- The settings make no sense. -/
  | invalid (cause : ParameterFault)
deriving DecidableEq, Repr

namespace SettingsFault

/-- The wording, where it does not depend on the system. -/
def message : SettingsFault → String
  | missing => "config file not found"
  | malformed => "config parse error"
  | invalid cause => "invalid config: " ++ cause.message

end SettingsFault

namespace Settings

/-- The settings of a text, once they pass the check. -/
def ofText (text : String) : Except SettingsFault Settings :=
  match (Json.ofString? text).bind (decodeFrom? .text) with
  | none => .error .malformed
  | some (settings : Settings) =>
    match settings.validate with
    | .ok () => .ok settings
    | .error cause => .error (.invalid cause)

/-- A text is that of settings if it can be read and what it says passes the check. -/
theorem ofText_eq_ok_iff {text : String} {settings : Settings} :
    ofText text = .ok settings ↔
      (Json.ofString? text).bind (decodeFrom? .text) = some settings ∧
        settings.validate = .ok () := by
  unfold ofText
  constructor
  · intro accepted
    split at accepted
    next => contradiction
    next found read =>
      split at accepted
      next valid =>
        obtain rfl := Except.ok.inj accepted
        exact ⟨read, valid⟩
      next => contradiction
  · rintro ⟨read, valid⟩
    rw [read]
    dsimp only
    rw [valid]

/-- The settings of a file that must be there. -/
def load : Option String → Except SettingsFault Settings
  | some content => ofText content
  | none => .error .missing

/-- The settings of a file that need not be there: without it they are the default ones. -/
def loadDefault : Option String → Except SettingsFault Settings
  | some content => ofText content
  | none => .ok {}

/-- The text that is written to a file. -/
def text (settings : Settings) : String := (encode settings).pretty

end Settings

end Tuner
