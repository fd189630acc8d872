import Tuner.Bench.Recorder
import Tuner.Radio.Call

/-!
# Receivers with a radio

A radio controls a simulated receiver, and what happens around the receiver is told to it
directly. While the radio waits in the middle of a call, an interlude can be carried out: further
operations, which begin as soon as the receiver was sent a certain command a number of times. A
radio that need not wait any longer goes on before the next of them. What is left of an interlude
when the call comes to its end is carried out then.
-/
namespace Tuner.Bench

/-- A call on the radio or on the receiver, perhaps with others in the middle of it. -/
inductive Operation where
  /-- On the radio. -/
  | radio (call : Radio.Call)
  /-- On the receiver. -/
  | receiver (call : Receiver.Call)
  /-- An operation with an interlude, which begins once the receiver was sent as many more
  commands of a name. -/
  | during (operation : Operation) (command : String) (count : Nat)
    (interlude : List Operation)

/-- What an operation comes to. -/
inductive Operation.Answer where
  /-- The answer of the radio. -/
  | radio (answer : Radio.Answer)
  /-- The answer of the receiver. -/
  | receiver (answer : Receiver.Answer)
  /-- The answer of an operation, and those of its interlude; there is none where a call was not
  made. -/
  | during (answer : Operation.Answer) (interlude : List (Option Operation.Answer))

/-- How deep interludes are at most nested in each other: there are no more of them. -/
def Operation.depth : Operation → Nat
  | .radio _ | .receiver _ => 0
  | .during operation _ _ interlude => operation.depth + depthOfAll interlude + 1
where
  /-- The sum for several operations. -/
  depthOfAll : List Operation → Nat
    | [] => 0
    | operation :: operations => operation.depth + depthOfAll operations

/-- Operations that are carried out while a call waits. -/
structure Interlude where
  /-- The name of a command. -/
  command : String
  /-- How many commands of that name the receiver was sent by then. -/
  count : Nat
  /-- The operations that have not had their turn. -/
  operations : List Operation
  /-- The answers of those that have, the latest first. -/
  answers : List (Option Operation.Answer) := []

/-- A receiver with an interlude that is to be carried out. -/
structure Stage where
  /-- The receiver. -/
  receiver : Receiver
  /-- The interlude. -/
  interlude : Option Interlude := none

/-- What the receiver does, step by step, when something reaches it. -/
abbrev Stage.Course := Reaction Stage Operation Operation.Answer

namespace Stage

/-- How many commands of a name the receiver was sent. -/
def sent (stage : Stage) (command : String) : Nat :=
  (stage.receiver.commands.filter fun sent => sent.name == command).length

/-- Replace the receiver. -/
def withReceiver (receiver : Receiver) (stage : Stage) : Stage :=
  { stage with receiver := receiver }

/-- Replace the interlude. -/
def withInterlude (interlude : Option Interlude) (stage : Stage) : Stage :=
  { stage with interlude := interlude }

/-- The reaction of the receiver. -/
def within {κ ρ : Type} (reaction : Reaction Receiver κ ρ) : Reaction Stage κ ρ :=
  reaction.within Stage.receiver withReceiver

/-- Carry out operations of an interlude one after another, given the answers so far. In the
middle of them there is no interlude but their own. No time passes between two of them, but a
radio that need not wait any longer goes on. -/
def perform (interlude : Interlude) (next : Course) :
    List (Option Operation.Answer) → List Operation → Course
  | _, [] => next
  | answers, operation :: operations =>
    .update (withInterlude none)
      (.call operation fun answer =>
        .update
          (withInterlude
            (some { interlude with operations := operations, answers := answer :: answers }))
          (.pass 0 (perform interlude next (answer :: answers) operations)))

/-- Carry out the interlude if it is time for it. -/
def interrupt (next : Course) : Course :=
  .look fun _ stage =>
    match stage.interlude with
    | some interlude =>
      if interlude.count ≤ stage.sent interlude.command then
        perform interlude next interlude.answers interlude.operations
      else next
    | none => next

/-- The receiver as the other end of a link, which carries out the interlude while it is waited
for. -/
def peer : Peer Stage Operation Operation.Answer
  | .await => interrupt (within (Receiver.peer .await))
  | stimulus => within (Receiver.peer stimulus)

mutual

/-- Carry out an operation, given the radio. Operations of an interlude that have not had their
turn by the end have it then. -/
def operate (radio : Radio Stage) : Operation → Action Stage Operation.Answer
  | .radio call => .radio <$> radio.answer call
  | .receiver call => do
    let system ← get
    let (answer, receiver) := system.peer.receiver.answer system.clock call
    set (system.withPeer (withReceiver receiver))
    return .receiver answer
  | .during operation command count operations => do
    let outer := (← get).peer.interlude
    modify fun system => system.withPeer fun stage =>
      stage.withInterlude
        (some { command := command, count := count + stage.sent command, operations })
    let answer ← operate radio operation
    let answers := ((← get).peer.interlude.map Interlude.answers).getD []
    modify fun system => system.withPeer (withInterlude none)
    let late ← operateLate radio answers.length operations
    modify fun system => system.withPeer (withInterlude outer)
    return .during answer (answers.reverse ++ late)

/-- Carry out the operations that come after as many others. -/
def operateLate (radio : Radio Stage) : Nat → List Operation →
    Action Stage (List (Option Operation.Answer))
  | _, [] => return []
  | 0, operation :: operations => do
    let answer ← operate radio operation
    return some answer :: (← operateLate radio 0 operations)
  | others + 1, _ :: operations => operateLate radio others operations

end

/-- The radio, for interludes nested up to a depth. -/
def radio (settings : Settings) (depth : Nat) : Radio Stage :=
  ⟨settings, peer.link (fun link => operate ⟨settings, link⟩) depth⟩

/-- Let time go on to a moment. -/
def passUntil (moment : Nat) : Action Stage Unit := do
  let course : Course := within (Receiver.passUntil moment)
  let _ ← course.run fun _ => return none

/-- A step with a radio. -/
structure Step where
  /-- The operation. -/
  operation : Operation
  /-- How time goes on after it. -/
  pause : Pause

/-- The report of one step with a radio. -/
structure Report where
  /-- The answer. -/
  answer : Operation.Answer
  /-- The chip. -/
  chip : Chip
  /-- The state of the radio, unless nothing was waited for. -/
  state : Option RadioState

/-- Make a step, let time go on, and report. -/
def make (settings : Settings) (step : Step) : Action Stage Report := do
  let answer ← operate (radio settings step.operation.depth) step.operation
  if !step.pause.hold then
    let system ← get
    passUntil (step.pause.until system.clock system.peer.receiver)
  let system ← get
  return ⟨answer, system.peer.receiver.chip,
    if step.pause.hold then none else some system.core.state⟩

/-- Make one step after another. -/
def makeAll (settings : Settings) (steps : List Step) : Action Stage (List Report) :=
  steps.mapM (make settings)

end Stage

end Tuner.Bench
