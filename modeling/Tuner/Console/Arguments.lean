import Tuner.Code.Seek
import Tuner.Text.Decimal

/-!
# The command line

The command line has options first, then at most one subcommand with its own arguments. Options
after the subcommand are not those of the program. A line that is not understood from left to
right is refused as a whole, but a request for help or for the version is granted as soon as it
is met.
-/
namespace Tuner.Console

/-- What to do once the radio is on. -/
inductive Task where
  /-- Find the stations of the band. -/
  | scan
  /-- Tune to a frequency in MHz. -/
  | tune (megahertz : Float)
  /-- Find the next station. -/
  | seek (direction : Direction)
  /-- Show the state. -/
  | status

/-- The options of a run. -/
structure Options where
  /-- The file of the settings, when it is not the one of the user. -/
  config : Option String := none
  /-- Whether results are shown as JSON. -/
  json : Bool := false

/-- What is asked of the program. -/
inductive Request where
  /-- How the program is used. -/
  | help
  /-- The version of the program. -/
  | version
  /-- A run. -/
  | run (options : Options) (task : Task)

/-- Whether an argument is an option rather than a value; a lone hyphen is a value. -/
def isOption (argument : String) : Bool := argument.startsWith "-" && argument != "-"

/-- Whether an argument asks for help. -/
def asksForHelp (argument : String) : Bool :=
  argument = "--help" || (argument.startsWith "-h" && isOption argument)

/-- Whether an argument asks for the version. -/
def asksForVersion (argument : String) : Bool :=
  argument = "--version" || argument.startsWith "-V"

/-- The direction of a name. -/
def direction? (text : String) : Option Direction :=
  match text with
  | "up" => some .up
  | "down" => some .down
  | _ => none

/-- The arguments of a subcommand, which may have one value. A value must be readable as soon as
it is met. After two hyphens there are only values. Help is asked for by an absent result. -/
def value? {α : Type} (read : String → Option α) :
    Option α → List String → Option (Option (Option α))
  | found, [] => some (some found)
  | found, "--" :: rest =>
    match found, rest with
    | found, [] => some (some found)
    | none, [text] => (read text).map fun value => some (some value)
    | _, _ => none
  | found, argument :: rest =>
    if asksForHelp argument then some none
    else if isOption argument || found.isSome then none
    else
      match read argument with
      | some value => value? read (some value) rest
      | none => none

/-- The task of a subcommand with its arguments. -/
def task? (subcommand : String) (arguments : List String) : Option (Option Task) :=
  match subcommand with
  | "scan" => (value? (fun _ => none) none arguments).map (·.map fun (_ : Option Unit) => .scan)
  | "status" =>
    (value? (fun _ => none) none arguments).map (·.map fun (_ : Option Unit) => .status)
  | "seek" => (value? direction? none arguments).map (·.map fun found => .seek (found.getD .up))
  | "tune" => do
    match ← value? Text.float? none arguments with
    | some (some megahertz) => some (some (.tune megahertz))
    | some none => none
    | none => some none
  | _ => none

/-- What the arguments after some options ask for. -/
def parseAfter (options : Options) : List String → Option Request
  | [] => some (.run options .scan)
  | ["--"] => some (.run options .scan)
  | "--json" :: rest => if options.json then none else parseAfter { options with json := true } rest
  | ["--config"] => none
  | "--config" :: path :: rest =>
    if options.config.isSome || path.isEmpty || isOption path then none
    else parseAfter { options with config := some path } rest
  | argument :: rest =>
    if asksForHelp argument then some .help
    else if asksForVersion argument then some .version
    else if argument.startsWith "--config=" then
      let path := (argument.drop "--config=".length).toString
      if options.config.isSome || path.isEmpty then none
      else parseAfter { options with config := some path } rest
    else if argument = "help" then
      match rest with
      | [] | ["scan"] | ["tune"] | ["seek"] | ["status"] | ["help"] => some .help
      | _ => none
    else (task? argument rest).map fun task =>
      match task with
      | some task => .run options task
      | none => .help

/-- What the arguments ask for, if they are understood. -/
def parse (arguments : List String) : Option Request := parseAfter {} arguments

end Tuner.Console
