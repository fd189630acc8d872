import Tuner.Code.Basic

/-!
# Acceptance

The answer that the link gives at once to everything submitted: whether the command was queued,
and if not, why. It says nothing about the outcome, which comes later as an event.
-/
namespace Tuner

/-- The immediate answer of the link to a submission. -/
inductive Acceptance where
  /-- The command is queued. -/
  | ok
  /-- The command is refused. -/
  | fail
  /-- The service behind the link failed or is out of reach. -/
  | serverFail
  /-- The command is not allowed in the current state. -/
  | illegalCommand
  /-- A parameter of the command is out of range. -/
  | illegalParameters
deriving DecidableEq, Repr, Inhabited

instance : Coded Acceptance where
  all := [.ok, .fail, .serverFail, .illegalCommand, .illegalParameters]
  table := "acceptance"
  code
    | .ok => 0
    | .fail => 1
    | .serverFail => 2
    | .illegalCommand => 3
    | .illegalParameters => 4

instance : Named Acceptance where
  all := Enumerated.all
  name
    | .ok => "Ok"
    | .fail => "Fail"
    | .serverFail => "ServerFail"
    | .illegalCommand => "IllegalCommand"
    | .illegalParameters => "IllegalParameters"

namespace Acceptance

/-- The wording in messages. -/
def text : Acceptance → String
  | ok => "OK"
  | fail => "FAIL"
  | serverFail => "SERVER_FAIL"
  | illegalCommand => "ILLEGAL_COMMAND"
  | illegalParameters => "ILLEGAL_PARAMETERS"

/-- Whether the command was queued. -/
def isOk (code : Acceptance) : Bool := code == .ok

end Acceptance

end Tuner
