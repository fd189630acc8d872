import Tuner.Code.Acceptance
import Tuner.Frequency
import Tuner.ParameterFault

/-!
# Failures of operations

An operation on the receiver either gives its result or fails for one of nine reasons. Each has
one wording and, at the boundary of the library, one acceptance code that stands for it.
-/
namespace Tuner

/-- Why an operation failed. -/
inductive Fault where
  /-- The link is absent or has not reported that it is attached. -/
  | notReady
  /-- The link refused the command. -/
  | rejected (code : Acceptance)
  /-- No confirming event came before the deadline. -/
  | timeout (waitedMs : Nat)
  /-- The link went away while the operation was waiting. -/
  | linkLost
  /-- Another operation holds the slot. -/
  | busy
  /-- The radio must be on. -/
  | radioOff
  /-- The receiver confirmed a tune at another frequency. -/
  | frequencyMismatch (expected actual : Frequency)
  /-- The confirming event reported another outcome. -/
  | unconfirmed (detail : String)
  /-- A parameter was refused before anything reached the link. -/
  | invalidParameter (cause : ParameterFault)
deriving DecidableEq, Repr

namespace Fault

/-- The wording of a failure. -/
def message : Fault → String
  | notReady => "receiver link not attached"
  | rejected code => "command rejected: " ++ code.text
  | timeout waitedMs => "no reply within " ++ toString waitedMs ++ "ms"
  | linkLost => "receiver link lost"
  | busy => "another operation is in flight"
  | radioOff => "radio is off"
  | frequencyMismatch expected actual =>
    "tuned to " ++ actual.text ++ " instead of " ++ expected.text
  | unconfirmed detail => "operation not confirmed: " ++ detail
  | invalidParameter cause => "invalid parameter: " ++ cause.message

/-- The acceptance code that stands for a failure. -/
def status : Fault → Acceptance
  | rejected code => code
  | timeout _ | frequencyMismatch .. | unconfirmed _ => .fail
  | notReady | linkLost => .serverFail
  | busy | radioOff => .illegalCommand
  | invalidParameter _ => .illegalParameters

end Fault

end Tuner
