import Tuner.Receiver.Basic

/-!
# Calls on a simulated receiver

What is done to a receiver directly, as values with answers: commands, and what happens around
it. Time stands still during a call.
-/
namespace Tuner

/-- Something done to a receiver. -/
inductive Receiver.Call where
  /-- Attach a listener. -/
  | attach (listener : Nat)
  /-- Release the listener. -/
  | detach
  /-- Send a command. -/
  | submit (command : Command)
  /-- Put a station on the air. -/
  | addStation (station : Station)
  /-- Take the stations on a frequency off the air. -/
  | removeStation (frequency : Frequency)
  /-- Change the texts of the station on a frequency. -/
  | setTexts (frequency : Frequency) (programService radioText : Option String)
  /-- Keep events to itself, or no longer. -/
  | setSilent (on : Bool)
  /-- Let the receiver go away. -/
  | drop
  /-- Ask for the commands it was sent. -/
  | commands
  /-- Do nothing. -/
  | rest
deriving DecidableEq, Repr

/-- What a call comes to. -/
inductive Receiver.Answer where
  /-- The acceptance code. -/
  | code (value : Acceptance)
  /-- A station is on the air, or why it is not. -/
  | added (result : Except StationFault Unit)
  /-- Whether there was something to do. -/
  | flag (value : Bool)
  /-- Commands. -/
  | commands (value : List Command)
  /-- Nothing to say. -/
  | nothing

namespace Receiver

/-- Carry out a call. -/
def answer (receiver : Receiver) (now : Nat) : Call → Answer × Receiver
  | .attach listener => (.code .ok, receiver.attach now listener)
  | .detach => (.nothing, receiver.shutDown now)
  | .submit command => (.code (receiver.acceptance command), receiver.submit now command)
  | .addStation station =>
    match receiver.chip.addStation station with
    | .ok chip => (.added (.ok ()), { receiver with chip := chip })
    | .error cause => (.added (.error cause), receiver)
  | .removeStation frequency =>
    (.flag (receiver.chip.stationAt frequency).isSome,
      { receiver with chip := receiver.chip.removeStation frequency })
  | .setTexts frequency programService radioText =>
    match receiver.setTexts now frequency programService radioText with
    | some changed => (.flag true, changed)
    | none => (.flag false, receiver)
  | .setSilent on => (.nothing, { receiver with silent := on })
  | .drop => (.nothing, receiver.shutDown now)
  | .commands => (.commands receiver.commands, receiver)
  | .rest => (.nothing, receiver)

end Receiver

end Tuner
