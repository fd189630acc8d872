import Tuner.Bench.Recorder

/-!
# Stub links

A stub stands in for a receiver where what it answers matters and what it does does not. It
records every command, answers with the acceptance codes it was given, and for each command it
accepts sends the events it was given. It can be told to send any event at any time, which no
real receiver would.
-/
namespace Tuner.Bench

/-- A stub with one listener, the recorder. -/
structure Stub where
  /-- Whether attaching is not reported. -/
  holdsAttach : Bool := false
  /-- The milliseconds until an answer is due. -/
  latency : Nat := 0
  /-- The acceptance codes by names of commands, the latest first. -/
  codes : List (String × Acceptance) := []
  /-- The events for commands by their names. -/
  answers : List (String × List Event) := []
  /-- The events for all other commands. -/
  otherAnswers : List Event := []
  /-- The commands it was sent, in order, accepted or not. -/
  commands : List Command := []
  /-- What is on its way. -/
  courier : Courier := {}

/-- Something done with a stub. -/
inductive Stub.Call where
  /-- Attach the recorder. -/
  | attach
  /-- From now on do not report that it is attached. -/
  | holdAttach
  /-- Report that it is attached. -/
  | completeAttach
  /-- Release the recorder. -/
  | detach
  /-- Send a command. -/
  | submit (command : Command)
  /-- Give the acceptance code of the commands of a name. -/
  | setCode (command : String) (code : Acceptance)
  /-- Give the milliseconds until an answer is due. -/
  | setLatency (ms : Nat)
  /-- Give the events for commands by their names, and for all others. -/
  | setAnswers (byName : List (String × List Event)) (others : List Event)
  /-- Send an event. -/
  | inject (event : Event) (delay : Nat)
  /-- Wait for a number of commands. -/
  | awaitCommands (count ms : Nat)
  /-- Ask for the commands it was sent. -/
  | commands
  /-- Do nothing. -/
  | rest

/-- What a call comes to. -/
inductive Stub.Answer where
  /-- The acceptance code. -/
  | code (value : Acceptance)
  /-- Yes or no. -/
  | flag (value : Bool)
  /-- Commands. -/
  | commands (value : List Command)
  /-- Nothing to say. -/
  | nothing

/-- The report of one step. -/
structure Stub.Recording where
  /-- The answer. -/
  answer : Stub.Answer
  /-- How many commands the stub was sent. -/
  count : Nat
  /-- What the recorder was told since the last report, unless nothing was waited for. -/
  heard : Option (List Notification)

namespace Stub

/-- Whether the recorder is attached. -/
def isAttached (stub : Stub) : Bool := stub.courier.listener.isSome

/-- Send a notification, if the recorder is attached. -/
def send (stub : Stub) (now delay : Nat) (notification : Notification) : Stub :=
  { stub with courier := stub.courier.send (now + delay) notification none }

/-- Send events that answer a command. -/
def sendAnswers (stub : Stub) (now : Nat) (events : List Event) : Stub :=
  events.foldl (fun stub event => stub.send now stub.latency (.event event)) stub

/-- The acceptance code of a command. -/
def acceptance (stub : Stub) (command : Command) : Acceptance :=
  if stub.isAttached then (stub.codes.lookup command.name).getD .ok else .serverFail

/-- The events for a command. -/
def answersTo (stub : Stub) (command : Command) : List Event :=
  (stub.answers.lookup command.name).getD stub.otherAnswers

/-- Carry out a call, and give the time at its end. -/
def answer (stub : Stub) (now : Nat) : Call → Answer × Nat × Stub
  | .attach =>
    let attached := { stub with courier := stub.courier.serve 0 }
    (.code .ok, now, if stub.holdsAttach then attached else attached.send now 0 .attached)
  | .holdAttach => (.nothing, now, { stub with holdsAttach := true })
  | .completeAttach => (.nothing, now, stub.send now 0 .attached)
  | .detach =>
    (.nothing, now, { stub with courier := (stub.courier.send now .detached none).close })
  | .submit command =>
    let code := stub.acceptance command
    let noted := { stub with commands := stub.commands ++ [command] }
    (.code code, now,
      if code.isOk then noted.sendAnswers now (stub.answersTo command) else noted)
  | .setCode command code =>
    (.nothing, now, { stub with codes := (command, code) :: stub.codes })
  | .setLatency ms => (.nothing, now, { stub with latency := ms })
  | .setAnswers byName others =>
    (.nothing, now, { stub with answers := byName, otherAnswers := others })
  | .inject event delay => (.nothing, now, stub.send now delay (.event event))
  | .awaitCommands count ms =>
    if count ≤ stub.commands.length then (.flag true, now, stub)
    else (.flag false, now + ms, stub)
  | .commands => (.commands stub.commands, now, stub)
  | .rest => (.nothing, now, stub)

/-- Make one step after another, given the time; `margin` is how much later than the end of its
pause a step still waits for what is due. -/
def record (stub : Stub) (margin now : Nat) : List (Call × Pause) → List Recording
  | [] => []
  | (call, pause) :: steps =>
    let (answer, now, stub) := stub.answer now call
    let count := stub.commands.length
    if pause.hold then ⟨answer, count, none⟩ :: stub.record margin now steps
    else
      let moment := now + pause.wait + margin
      let heard := (stub.courier.dueBy moment).map (·.notification)
      let settled := { stub with courier := stub.courier.after moment }
      ⟨answer, count, some heard⟩ :: settled.record margin moment steps

end Stub

end Tuner.Bench
