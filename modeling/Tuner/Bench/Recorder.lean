import Tuner.Receiver.Call

/-!
# Receivers with a recorder

A recorder listens to a simulated receiver and writes down what it is told. Time stands still
during a step. After a step it goes on for as long as the step says, and what is due a little
later is still waited for.
-/
namespace Tuner.Bench

/-- How time goes on after a step. -/
structure Pause where
  /-- The milliseconds that pass. -/
  wait : Nat
  /-- Whether nothing at all is waited for. -/
  hold : Bool

/-- The moment that a pause of a receiver lasts to. -/
def Pause.until (pause : Pause) (now : Nat) (receiver : Receiver) : Nat :=
  now + pause.wait + receiver.chip.eventLatency

/-- The report of one step with a recorder. -/
structure Recording where
  /-- The answer. -/
  answer : Receiver.Answer
  /-- The chip. -/
  chip : Chip
  /-- What the recorder was told since the last report, unless nothing was waited for. -/
  heard : Option (List Notification)

/-- Make one step after another, given the time. -/
def record (receiver : Receiver) (now : Nat) : List (Receiver.Call × Pause) → List Recording
  | [] => []
  | (call, pause) :: steps =>
    let (answer, receiver) := receiver.answer now call
    if pause.hold then ⟨answer, receiver.chip, none⟩ :: record receiver now steps
    else
      let moment := pause.until now receiver
      let (delivered, settled) := receiver.deliverBy moment
      ⟨answer, settled.chip, some (delivered.map (·.notification))⟩ :: record settled moment steps

end Tuner.Bench
