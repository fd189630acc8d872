import Tuner.Command
import Tuner.Control.Ledger
import Tuner.Fault
import Tuner.RadioState

/-!
# The core

Everything that the control core knows is one value: the state of the radio, the band, the one
operation that waits, the ledger, whether a session holds the operation slot, and which listener
may speak. Each step of the core is a function on that value, and a step is taken whole or not at
all. Whatever else goes on at the same time falls between two steps.

Each attachment has its own listener, stamped with an epoch. Detaching starts a new epoch, so what
an old link still delivers changes nothing.
-/
namespace Tuner

/-- What a waiting operation is woken with. -/
inductive Reply where
  /-- The event that confirms it. -/
  | event (event : Event)
  /-- The link went away. -/
  | linkLost
deriving DecidableEq, Repr

/-- The operation that waits. -/
structure Waiter where
  /-- The tag of the event that completes it. -/
  tag : Tag
  /-- The number of its submission. -/
  generation : Nat
  /-- What it is woken with. -/
  reply : Option Reply := none
  /-- An answer at another frequency than the one it waits for, credited to a retired submission
  and kept in case nothing better comes. -/
  spare : Option Event := none
deriving DecidableEq, Repr

/-- The shared state of the control core. -/
structure Core where
  /-- What is known of the receiver. -/
  state : RadioState := {}
  /-- The band against which frequencies are judged. -/
  band : Band
  /-- The operation that waits. -/
  waiter : Option Waiter := none
  /-- The submissions that are owed an event. -/
  ledger : Ledger := {}
  /-- Whether a session holds the operation slot. -/
  busy : Bool := false
  /-- The epoch of the listener that may speak. -/
  epoch : Nat := 0
deriving DecidableEq, Repr

namespace Core

/-- Start a new epoch. -/
def nextEpoch (core : Core) : Core := { core with epoch := core.epoch + 1 }

/-- Forget everything that the link said, fail the waiting operation, and start a new epoch. The
band and the operation slot stay as they are. -/
def detached (core : Core) : Core :=
  { core with
    epoch := core.epoch + 1
    waiter := core.waiter.map fun waiter => { waiter with reply := some .linkLost }
    ledger := core.ledger.clear
    state := {} }

/-- Wake the waiting operation with an event that answers it. -/
def answer (core : Core) (generation : Nat) (event : Event) : Core :=
  match core.waiter with
  | some waiter =>
    if waiter.generation = generation then
      { core with waiter := some { waiter with reply := some (.event event) } }
    else core
  | none => core

/-- Use the late answer to a submission that was given up. The receiver answers in order, so what
the waiting operation is owed comes later still: the late answer is handed over at once, and the
entry of the waiting operation is retired in place of the one just answered. An operation that
waits for one frequency keeps it in reserve instead. -/
def handOver (core : Core) (now : Nat) (event : Event) : Core :=
  match core.waiter with
  | some waiter =>
    if waiter.reply.isSome || !waiter.tag.accepts event.tag then core
    else if core.ledger.expectsFrequency waiter.generation then
      { core with waiter := some { waiter with spare := some event } }
    else
      { core with
        waiter := some { waiter with reply := some (.event event) }
        ledger := core.ledger.retire waiter.generation now }
  | none => core

/-- Fold an event into the state, then credit it. Events of a link that is not attached are
dropped. -/
def hear (core : Core) (now : Nat) (event : Event) : Core :=
  if core.state.attached then
    let (credit, ledger) := core.ledger.credit event.tag event.frequency?
    let core := { core with state := core.state.apply core.band event, ledger := ledger }
    match credit with
    | .live generation => core.answer generation event
    | .retired _ => core.handOver now event
    | .unsolicited => core
  else core

/-- Take a notification from the listener of an epoch. -/
def notify (core : Core) (epoch now : Nat) (notification : Notification) : Core :=
  if core.epoch = epoch then
    match notification with
    | .attached => { core with state := { core.state with attached := true } }
    | .detached => core.detached
    | .event event => core.hear now event
  else core

/-- Claim the operation slot, and strike the retired submissions that are too old. -/
def claim (core : Core) (now timeout : Nat) : Except Fault Core :=
  if !core.state.attached then .error .notReady
  else if core.busy then .error .busy
  else .ok { core with busy := true, ledger := core.ledger.purge now (2 * timeout) }

/-- Give the operation slot back. -/
def release (core : Core) : Core := { core with busy := false, waiter := none }

/-- Check that a command may be submitted: its parameters, the link, and the radio. -/
def check (core : Core) (command : Command) : Except Fault Unit :=
  match command.validate with
  | .error cause => .error (.invalidParameter cause)
  | .ok () =>
    if !core.state.attached then .error .notReady
    else if command.needsRadioOn && !core.state.radioOn then .error .radioOff
    else .ok ()

/-- Install a command that is about to be submitted, and give the number of its submission. A
command that no event confirms only takes a number. -/
def install (core : Core) (command : Command) (expected : Option Frequency) :
    Except Fault (Nat × Core) := do
  core.check command
  if core.waiter.isSome then throw .busy
  let (generation, ledger) := core.ledger.nextGeneration
  match command.awaited? with
  | some tag =>
    return (generation,
      { core with
        ledger := ledger.record tag generation expected
        waiter := some { tag := tag, generation := generation } })
  | none => return (generation, { core with ledger := ledger })

/-- Take back a command that the link refused. -/
def refuse (core : Core) (generation : Nat) : Core :=
  { core with ledger := core.ledger.forget generation, waiter := none }

/-- Whether the waiting operation need not wait any longer. -/
def isSettled (core : Core) : Bool :=
  match core.waiter with
  | some waiter => waiter.reply.isSome
  | none => true

/-- Let an event confirm an operation unless it reports another frequency than the one expected. -/
def confirm (expected : Option Frequency) (event : Event) : Except Fault Event :=
  match expected, event.frequency? with
  | some expected, some actual =>
    if expected = actual then .ok event else .error (.frequencyMismatch expected actual)
  | _, _ => .ok event

/-- End the waiting operation: with its reply, without one with the answer kept in reserve, and
without either by giving up. -/
def settle (core : Core) (generation : Nat) (expected : Option Frequency) (now timeout : Nat) :
    Except Fault Event × Core :=
  match core.waiter with
  | none => (.error .linkLost, core)
  | some waiter =>
    let core := { core with waiter := none }
    match waiter.reply with
    | some (.event event) => (confirm expected event, core)
    | some .linkLost => (.error .linkLost, core)
    | none =>
      match waiter.spare with
      | some event =>
        (confirm expected event, { core with ledger := core.ledger.forget generation })
      | none =>
        (.error (.timeout timeout), { core with ledger := core.ledger.retire generation now })

/-- Report one update of the radio texts and forget it. -/
def drain (core : Core) : UInt16 × Core :=
  let (update, state) := core.state.takeUpdate
  (update, { core with state := state })

end Core

end Tuner
