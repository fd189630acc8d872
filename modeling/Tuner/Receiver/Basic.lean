import Tuner.Control.Link
import Tuner.Receiver.Chip
import Tuner.Receiver.Courier

/-!
# Simulated receivers

A receiver is a chip with a courier that takes what the chip reports to the listener. It keeps
every command it was sent. As the other end of a link it answers at once whether a command is
accepted, and what it reports arrives when it is due, while the core waits.
-/
namespace Tuner

/-- A simulated receiver. -/
structure Receiver where
  /-- The chip. -/
  chip : Chip
  /-- What takes notifications to the listener that is attached. -/
  courier : Courier := {}
  /-- Whether events are kept back. -/
  silent : Bool := false
  /-- The commands it was sent, in order, accepted or not. -/
  commands : List Command := []
deriving DecidableEq, Repr

namespace Receiver

/-- A receiver that was just switched on, with stations on the air. -/
def start (band : Band) (stations : List Station) (eventLatency seekLatency : Nat)
    (noiseFloor : Int32) : Receiver where
  chip := {
    band := band
    stations := Station.sort stations
    eventLatency := eventLatency
    seekLatency := seekLatency
    noiseFloor := noiseFloor }

/-- Whether a listener is attached. -/
def isAttached (receiver : Receiver) : Bool := receiver.courier.listener.isSome

/-- Send events unless they are kept back. The guard of an event of a seek is the epoch that
began with the seek. -/
def send (receiver : Receiver) (now : Nat) (dispatches : List Chip.Dispatch) : Receiver :=
  if receiver.silent then receiver
  else
    { receiver with
      courier := dispatches.foldl (fun courier dispatch =>
        courier.send (now + dispatch.delay) (.event dispatch.event)
          (if dispatch.guarded then some receiver.chip.epoch else none)) receiver.courier }

/-- Attach a listener. -/
def attach (receiver : Receiver) (now listener : Nat) : Receiver :=
  { receiver with
    courier :=
      (receiver.courier.serve listener).send (now + receiver.chip.eventLatency) .attached none }

/-- Go away: the seek in progress is superseded, the listener is told, and power is lost. -/
def shutDown (receiver : Receiver) (now : Nat) : Receiver :=
  { receiver with
    chip := (receiver.chip.supersede now).2.powerOff
    courier := (receiver.courier.send now .detached none).close }

/-- Whether a command is accepted. -/
def acceptance (receiver : Receiver) (command : Command) : Acceptance :=
  if receiver.isAttached then receiver.chip.acceptance command else .serverFail

/-- Take a command, and carry it out if it is accepted. -/
def submit (receiver : Receiver) (now : Nat) (command : Command) : Receiver :=
  let noted := { receiver with commands := receiver.commands ++ [command] }
  if (receiver.acceptance command).isOk then
    let (chip, dispatches) := receiver.chip.execute now command
    { noted with chip := chip }.send now dispatches
  else noted

/-- Change the texts of the station on a frequency, and report them if they are being decoded.
There is no change without such a station. -/
def setTexts (receiver : Receiver) (now : Nat) (frequency : Frequency)
    (programService radioText : Option String) : Option Receiver :=
  if (receiver.chip.stationAt frequency).isSome then
    let chip := receiver.chip.setTexts frequency programService radioText
    let events :=
      if chip.powered && chip.frequency == frequency then chip.radioData.map chip.soon else []
    some ({ receiver with chip := chip }.send now events)
  else none

/-- Whether an envelope is delivered if it falls due now. -/
def delivers (receiver : Receiver) (envelope : Envelope) : Bool :=
  envelope.isCurrent receiver.chip.epoch

/-- What is delivered by a moment, in order, and the receiver after it. -/
def deliverBy (receiver : Receiver) (moment : Nat) : List Envelope × Receiver :=
  ((receiver.courier.dueBy moment).filter receiver.delivers,
    { receiver with courier := receiver.courier.after moment })

/-! ## As the other end of a link -/

variable {κ ρ : Type}

/-- Take the next envelope off the queue when it is due, and deliver it. -/
def deliver (envelope : Envelope) (next : Reaction Receiver κ ρ) : Reaction Receiver κ ρ :=
  .look fun now _ =>
    .pass (envelope.due - now)
      (.update (fun receiver => { receiver with courier := receiver.courier.advance })
        (.look fun _ receiver =>
          if receiver.delivers envelope then
            .notify envelope.listener envelope.notification next
          else next))

/-- Deliver envelopes one after another. -/
def deliverAll (envelopes : List Envelope) (next : Reaction Receiver κ ρ) :
    Reaction Receiver κ ρ :=
  envelopes.foldr deliver next

/-- Let time go on to a moment and deliver what is due by then. -/
def passUntil (moment : Nat) : Reaction Receiver κ ρ :=
  .look fun _ receiver =>
    deliverAll (receiver.courier.dueBy moment)
      (.look fun now _ => .pass (moment - now) (.finish .ok))

/-- The receiver as the other end of a link. -/
def peer : Peer Receiver κ ρ
  | .attach listener =>
    .look fun now _ => .update (·.attach now listener) (.finish .ok)
  | .detach => .look fun now _ => .update (·.shutDown now) (.finish .ok)
  | .submit command =>
    .look fun now receiver =>
      .update (·.submit now command) (.finish (receiver.acceptance command))
  | .await => .look fun _ receiver => deliverAll receiver.courier.queue (.finish .ok)
  | .pause => .finish .ok

end Receiver

end Tuner
