import Tuner.Event

/-!
# Couriers

A courier takes notifications for the listener it serves and delivers each when it is due, those
due at one moment in the order in which they were sent. A notification can be sent with a guard,
the number of an epoch: it is dropped if another epoch has begun by the time it is due. When a
courier stops serving a listener it takes nothing more, but what it took before is still
delivered to whom it was sent.
-/
namespace Tuner

/-- A notification on its way. -/
structure Envelope where
  /-- When it is due, in milliseconds. -/
  due : Nat
  /-- The listener it is for. -/
  listener : Nat
  /-- What the listener is told. -/
  notification : Notification
  /-- The only epoch in which it is delivered. -/
  guard? : Option Nat := none
deriving DecidableEq, Repr

/-- Whether an envelope is delivered if it falls due in an epoch. -/
def Envelope.isCurrent (envelope : Envelope) (epoch : Nat) : Bool :=
  match envelope.guard? with
  | some expected => expected == epoch
  | none => true

/-- A courier with the notifications it took. -/
structure Courier where
  /-- The listener that it serves. -/
  listener : Option Nat := none
  /-- What is on its way, in the order of delivery. -/
  queue : List Envelope := []
deriving DecidableEq, Repr, Inhabited

namespace Courier

/-- Put an envelope behind all that are due no later. -/
def insert (envelope : Envelope) : List Envelope → List Envelope
  | [] => [envelope]
  | first :: rest =>
    if first.due ≤ envelope.due then first :: insert envelope rest else envelope :: first :: rest

/-- Serve a listener. -/
def serve (courier : Courier) (listener : Nat) : Courier :=
  { courier with listener := some listener }

/-- Take nothing more. -/
def close (courier : Courier) : Courier := { courier with listener := none }

/-- Take a notification that is due at a moment, unless there is no listener to serve. -/
def send (courier : Courier) (due : Nat) (notification : Notification) (guard? : Option Nat) :
    Courier :=
  match courier.listener with
  | some listener =>
    { courier with queue := insert ⟨due, listener, notification, guard?⟩ courier.queue }
  | none => courier

/-- What is due by a moment. -/
def dueBy (courier : Courier) (moment : Nat) : List Envelope :=
  courier.queue.takeWhile fun envelope => decide (envelope.due ≤ moment)

/-- The courier without what is due by a moment. -/
def after (courier : Courier) (moment : Nat) : Courier :=
  { courier with
    queue := courier.queue.dropWhile fun envelope => decide (envelope.due ≤ moment) }

/-- The courier without the next envelope. -/
def advance (courier : Courier) : Courier := { courier with queue := courier.queue.tail }

end Courier

end Tuner
