import Tuner.Console.Arguments
import Tuner.Form.RadioState
import Tuner.Radio.Call
import Tuner.Receiver.Basic
import Tuner.Settings.File

/-!
# Runs of the program

A run loads the settings, powers up a radio on a simulated receiver with five stations, does what
it is asked to, and powers the radio down again. Whatever was printed before a failure stays
printed. A failure while the radio is made ready is told by the stage at which it happened, any
later one by its own wording.
-/
namespace Tuner.Console

/-- The outcome of a run. -/
structure Outcome where
  /-- The exit code. -/
  exit : UInt32
  /-- What is printed. -/
  output : String := ""
  /-- What is said of a failure. -/
  failure : Option String := none
deriving DecidableEq, Repr

/-- The stations on the air. -/
def stations : List Station :=
  [{ frequency := ⟨8790⟩, rssi := -62, programService := some "KQED", programType := 3 },
    { frequency := ⟨8910⟩, rssi := -70, programService := some "KALW" },
    { frequency := ⟨9530⟩, rssi := -48, programService := some "WXYZ",
      radioText := some "Hello from the virtual receiver" },
    { frequency := ⟨10130⟩, rssi := -80, programService := some "KBLX", trafficProgram := true },
    { frequency := ⟨10790⟩, rssi := -66, programService := some "KOIT" }]

/-- The receiver in a band: events take two milliseconds and seeks ten. -/
def receiver (band : Band) : Receiver := .start band stations 2 10 (-110)

/-- The milliseconds that the decoder is given before its texts are read. -/
def decoderPause : Nat := 50

/-- A text with blanks in front of it up to a width. -/
def alignRight (width : Nat) (text : String) : String :=
  String.ofList (List.replicate (width - text.length) ' ') ++ text

/-! ## Printing -/

/-- The value in MHz with as many decimals as it takes, but at least one. -/
def megahertzNumber (frequency : Frequency) : Json :=
  let units := frequency.units.toNat
  .number (if units % 10 = 0 then .decimal false (units / 10) (-1) else .decimal false units (-2))

/-- The lines about a sweep. -/
def sweepLines (json : Bool) (report : Sweep.Report) : List String :=
  if json then
    [Json.pretty (.object [("channels", encode report.channels),
      ("frequencies_mhz", .ofList megahertzNumber report.frequencies)])]
  else if report.frequencies.isEmpty then ["no stations"]
  else
    List.zipWith (fun channel frequency =>
      alignRight 4 (toString channel.toNat) ++ "  " ++ frequency.text)
      report.channels report.frequencies

/-- The line about a state. -/
def stateLine (json : Bool) (state : RadioState) : String :=
  if json then state.json.pretty
  else
    state.frequencyText ++ "  rssi " ++ toString state.rssi.toInt ++ "  snr "
      ++ toString state.snr.toInt ++ "  " ++ (if state.muted then "muted" else "audible")

/-- The line about a seek. -/
def seekLine : Option Frequency → String
  | some frequency => "found " ++ frequency.text
  | none => "no new station"

/-! ## Running -/

/-- Read the updated texts one after another, as often as there can be updates, and give a line
for each. -/
def updatedTexts : Nat → Action Receiver (List String)
  | 0 => return []
  | count + 1 => do
    let update ← Radio.readRds
    if update = programServiceUpdate then
      let text ← Radio.programService
      return ("PS: " ++ text.getD "") :: (← updatedTexts count)
    else if update = radioTextUpdate then
      let text ← Radio.radioText
      return ("RT: " ++ text.getD "") :: (← updatedTexts count)
    else return []

/-- Give the decoder a while, then read the texts. There are two kinds of updates. -/
def decodedTexts : Action Receiver (List String) := do
  let moment := (← get).clock + decoderPause
  let pause : Reaction Receiver Empty Empty := Receiver.passUntil moment
  let _ ← pause.run fun _ => return none
  updatedTexts 2

/-- Do what is asked once the radio is on, and give the lines to print. -/
def perform (radio : Radio Receiver) (json : Bool) : Task → Attempt Receiver (List String)
  | .scan => sweepLines json <$> radio.autoScan
  | .tune megahertz => do
    radio.tune (.ofMegahertz megahertz)
    radio.setRds true
    let texts ← Attempt.lift decodedTexts
    return texts ++ [stateLine json (← Attempt.core).state]
  | .seek direction => do return [seekLine (← radio.seek direction)]
  | .status => do return [stateLine json (← radio.refreshStatus)]

/-- A failed run. -/
def failed (failure : String) (lines : List String) : Outcome :=
  ⟨1, String.join (lines.map (· ++ "\n")), some ("Error: " ++ failure)⟩

/-- Make the radio ready, do what is asked, and make an end. -/
def operate (radio : Radio Receiver) (json : Bool) (task : Task) : Action Receiver Outcome := do
  if let .error _ ← radio.attach.run then return failed "opening receiver" []
  if let .error _ ← (radio.powerUp radio.settings.band.low).run then
    return failed "powering up" []
  match ← (perform radio json task).run with
  | .error cause => return failed cause.message []
  | .ok lines =>
    if let .error cause ← radio.powerDown.run then return failed cause.message lines
    radio.close
    return ⟨0, String.join (lines.map (· ++ "\n")), none⟩

/-- Run with given settings. -/
def runWith (settings : Settings) (json : Bool) (task : Task) : Outcome :=
  match Radio.start settings (receiver settings.band) with
  | .error _ => failed "building radio" []
  | .ok system => ((operate (Radio.ofPeer settings Receiver.peer 0) json task).run system).1

/-- How the program is used. -/
def usage : String :=
  "Usage: fmctl [--config PATH] [--json] [scan | tune <MHz> | seek [up|down] | status]"

/-- The name and the version of the program. -/
def versionLine : String := "fmctl 0.4.0"

/-- The outcome for given arguments, the contents of files, and that of the file of the user. -/
def outcome (arguments : List String) (file : String → Option String)
    (userFile : Option String) : Outcome :=
  match parse arguments with
  | none => ⟨2, "", some ("error: unexpected arguments\n\n" ++ usage)⟩
  | some .help => ⟨0, usage ++ "\n", none⟩
  | some .version => ⟨0, versionLine ++ "\n", none⟩
  | some (.run options task) =>
    let (loaded, stage) := match options.config with
      | some path => (Settings.load (file path), "loading " ++ path)
      | none => (Settings.loadDefault userFile, "loading default config")
    match loaded with
    | .error _ => failed stage []
    | .ok settings => runWith settings options.json task

end Tuner.Console
