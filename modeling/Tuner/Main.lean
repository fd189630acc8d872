import Tuner.Console.Run
import Tuner.Settings.Location

/-!
# The program

Reads the arguments, the environment and the file of the settings, and prints the outcome.
-/
open Tuner

/-- The content of a file, if it can be read. -/
def Tuner.Console.read (path : String) : IO (Option String) := do
  try return some (← IO.FS.readFile path)
  catch _ => return none

/-- Run the program. -/
def main (arguments : List String) : IO UInt32 := do
  let path := match Console.parse arguments with
    | some (.run options _) => options.config
    | _ => none
  let named ← match path with
    | some path => Console.read path
    | none => pure none
  let userPath := Settings.path? (← IO.getEnv "XDG_CONFIG_HOME") (← IO.getEnv "HOME")
  let user ← match userPath with
    | some path => Console.read path
    | none => pure none
  let outcome := Console.outcome arguments (fun _ => named) user
  IO.print outcome.output
  if let some failure := outcome.failure then IO.eprintln failure
  return outcome.exit
