import Tuner.Control.Sweep

/-!
# Calls on the control core

The operations of a bare controller as values, with their answers. A caller may hold a session
over several calls; whether it does is known to whoever makes the calls, and is passed in.
-/
namespace Tuner

/-- An operation of a controller with its arguments. -/
inductive Controller.Call where
  /-- Attach the link. -/
  | attach
  /-- Release the link. -/
  | detach
  /-- Ask whether the link is attached. -/
  | isAttached
  /-- Ask for the deadline of commands. -/
  | timeout
  /-- Ask for the band. -/
  | band
  /-- Replace the band, on the terms of `Band.check`. -/
  | setBand (band : Except ParameterFault Band)
  /-- Claim the operation slot and hold it. -/
  | hold
  /-- Give a held slot back. -/
  | letGo
  /-- Run a command in a session of its own. -/
  | execute (command : Command)
  /-- Tune in a session of its own. -/
  | tune (frequency : Frequency)
  /-- Submit a command without waiting. -/
  | submitUnawaited (command : Command)
  /-- Report one update of the radio texts. -/
  | drain
  /-- Run a command in the held session. -/
  | heldExecute (command : Command)
  /-- Tune in the held session. -/
  | heldTune (frequency : Frequency)
  /-- Ask for the state in the held session. -/
  | heldState
  /-- Sweep a band in the held session, on the terms of `Band.check`. -/
  | heldSweep (band : Except ParameterFault Band) (minSignal : UInt8) (method : SeekMethod)
    (cancelled : Bool)

/-- What a call comes to. -/
inductive Controller.Answer where
  /-- Done, or failed. -/
  | done (result : Except Fault Unit)
  /-- The event that confirmed a command, if one does. -/
  | executed (result : Except Fault (Option Event))
  /-- What a sweep found, unless there was no band to sweep. -/
  | swept (result : Except ParameterFault Sweep.Report)
  /-- A band was set, unless there was none to set. -/
  | bandSet (result : Except ParameterFault Unit)
  /-- Nothing to say. -/
  | nothing
  /-- Yes or no. -/
  | flag (value : Bool)
  /-- A number. -/
  | number (value : Nat)
  /-- A band. -/
  | band (value : Band)
  /-- A state. -/
  | state (value : RadioState)
  /-- There is no held session to use. -/
  | notHeld

namespace Controller

/-- Whether a call uses the held session. -/
def Call.usesHeld : Call → Bool
  | .heldExecute _ | .heldTune _ | .heldState | .heldSweep .. => true
  | _ => false

/-- Whether a session is held after a call, given its answer and whether one was held before. -/
def Call.holdsAfter (held : Bool) : Call → Answer → Bool
  | .hold, .done (.ok _) => true
  | .letGo, _ => false
  | _, _ => held

variable {σ : Type}

/-- Carry out a call, given whether a session is held. A call that uses the held session is only
made while there is one. -/
def answer (controller : Controller σ) (held : Bool) : Call → Action σ Answer
  | .attach => .done <$> controller.attach.run
  | .detach => do controller.detach; return .nothing
  | .isAttached => do return .flag (← Action.core).state.attached
  | .timeout => return .number controller.timeout
  | .band => do return .band (← Action.core).band
  | .setBand (.ok band) => do Action.setBand band; return .nothing
  | .setBand (.error cause) => return .bandSet (.error cause)
  | .hold => .done <$> controller.claim.run
  | .letGo => do
    if held then release
    return .nothing
  | .execute command => .executed <$> (controller.session (controller.execute command)).run
  | .tune frequency => .executed <$> (controller.session (some <$> controller.tune frequency)).run
  | .submitUnawaited command => .done <$> (controller.submitUnawaited command).run
  | .drain => do return .number (← Action.drain).toNat
  | .heldExecute command =>
    if held then .executed <$> (controller.execute command).run else return .notHeld
  | .heldTune frequency =>
    if held then .executed <$> (some <$> controller.tune frequency : Attempt σ _).run
    else return .notHeld
  | .heldState =>
    if held then do return .state (← Action.core).state else return .notHeld
  | .heldSweep (.ok band) minSignal method cancelled =>
    if held then
      .swept <$> (.ok <$> (⟨band, minSignal, method⟩ : Sweep).run controller (return cancelled))
    else return .notHeld
  | .heldSweep (.error cause) _ _ _ => return .swept (.error cause)

/-- What is done when a controller is given up: a held session is given back, and then the link
is released if it is attached. -/
def dispose (controller : Controller σ) (held : Bool) : Action σ Unit := do
  if held then release
  if (← Action.core).state.attached then controller.detach

/-- Where whoever makes the calls notes whether it holds a session between two of them. -/
structure Token (σ : Type) where
  /-- Whether a session is held. -/
  held : σ → Bool
  /-- Note whether a session is held. -/
  note : Bool → σ → σ
  /-- What was noted is known. -/
  held_note : ∀ session own, held (note session own) = session := by intros; rfl

/-- Carry out a call of someone who may hold a session. While a call uses the held session, there
is none for calls made from inside it. -/
def serve (controller : Controller σ) (token : Token σ) (call : Call) : Action σ Answer := do
  let held := token.held (← get).peer
  if call.usesHeld then
    modify fun system => system.withPeer (token.note false)
    let answer ← controller.answer held call
    modify fun system => system.withPeer (token.note held)
    return answer
  else
    let answer ← controller.answer held call
    modify fun system =>
      system.withPeer fun own => token.note (call.holdsAfter (token.held own) answer) own
    return answer

end Controller

end Tuner
