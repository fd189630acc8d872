import Tuner.Control.Link

/-!
# Sessions

One operation runs at a time: it claims the operation slot, runs its commands one after another,
and gives the slot back however it ends. A second operation is turned away, not queued. A command
of a session is installed before it is submitted, so that an answer given at once finds its
waiter, and then waits until it is answered, the link goes away, or its deadline has come. It is
checked where it is installed and not again, whatever others do before it reaches the link.
-/
namespace Tuner

/-- The means of running commands: a link, and the deadline of every command. -/
structure Controller (σ : Type) where
  /-- The link. -/
  link : Link σ
  /-- Milliseconds that a command may take. -/
  timeout : Nat

namespace Controller

variable {σ : Type} {α : Type} (controller : Controller σ)

/-- Attach the link and wait until it reports so. A link that is attached stays as it is. -/
def attach : Attempt σ Unit := do
  if (← Attempt.core).state.attached then return
  let listener ← Attempt.lift (modifyGet System.newListener)
  let code ← Attempt.lift (controller.link.attach listener)
  if !code.isOk then throw (.rejected code)
  let deadline := (← Attempt.system).clock + controller.timeout
  Attempt.lift (controller.link.await (fun core => core.state.attached) deadline)
  if !(← Attempt.core).state.attached then throw (.timeout controller.timeout)

/-- Release the link. -/
def detach : Action σ Unit := do
  controller.link.detach
  Action.step .forgetting Core.detached

/-- Claim the operation slot. -/
def claim : Attempt σ Unit := do
  let system ← Attempt.system
  let core ← Attempt.ofResult (system.core.claim system.clock controller.timeout)
  Attempt.lift (set (system.become .claiming core))

/-- Give the operation slot back. -/
def release : Action σ Unit := Action.step .releasing Core.release

/-- Run commands while holding the operation slot. -/
def session (body : Attempt σ α) : Attempt σ α := do
  controller.claim
  let result ← Attempt.outcome body
  Attempt.lift release
  Attempt.ofResult result

/-- Run a command while the operation slot is held, and give the event that confirms it, if one
does. -/
def run (command : Command) (expected : Option Frequency) : Attempt σ (Option Event) := do
  let system ← Attempt.system
  let (generation, core) ← Attempt.ofResult (system.core.install command expected)
  Attempt.lift (set (system.become (.installing command) core))
  let code ← Attempt.lift (controller.link.submit command)
  if !code.isOk then
    Attempt.lift (Action.step (.refusing code) fun core => core.refuse generation)
    throw (.rejected code)
  if command.awaited?.isNone then return none
  Attempt.lift (controller.link.await Core.isSettled (system.clock + controller.timeout))
  let system ← Attempt.system
  let (result, core) := system.core.settle generation expected system.clock controller.timeout
  Attempt.lift (set (system.become .settling core))
  some <$> Attempt.ofResult result

/-- Run a command whose event may report any frequency. -/
def execute (command : Command) : Attempt σ (Option Event) := controller.run command none

/-- Tune, and require the confirming status to report the frequency. -/
def tune (frequency : Frequency) : Attempt σ Event := do
  match ← controller.run (.tune frequency) (some frequency) with
  | some event => return event
  | none => throw (.unconfirmed "tune produced no status")

/-- Submit a command without claiming the operation slot and without waiting: this is how a seek
in progress is aborted, whose end answers the operation that started it. -/
def submitUnawaited (command : Command) : Attempt σ Unit := do
  Attempt.ofResult ((← Attempt.core).check command)
  let code ← Attempt.lift (controller.link.submit command)
  if !code.isOk then throw (.rejected code)

end Controller

end Tuner
