import Tuner.Control.Core

/-!
# The system

The core, the clock, the listeners handed out so far, and whatever is at the other end of the link
make up one system. Time is a count of milliseconds that only waiting and the other end advance.

The system also keeps its history: everything that passed between the core and the link, every
step of the core, and the requests that another part of a run may have to honour, each with the
core as it was just before. So the cores in the history and the present one are all the cores
there ever were. No action reads the history; it is there to say what happened in a run.
-/
namespace Tuner

/-- Something that happened in a run. -/
inductive Occurrence where
  /-- A listener of a new epoch was handed out, to attach the link with. -/
  | attaching (listener : Nat)
  /-- The link was asked to go away. -/
  | detaching
  /-- After asking the link to go away, the core forgot everything it had said. -/
  | forgetting
  /-- A session claimed the operation slot. -/
  | claiming
  /-- The session gave it back. -/
  | releasing
  /-- A command was installed. -/
  | installing (command : Command)
  /-- A command was submitted: the core is done with it for now, and it is on its way to the link.
  -/
  | submitting (command : Command)
  /-- A command that was submitted reached the link. -/
  | reaching (command : Command)
  /-- The link refused a command that was installed. -/
  | refusing (code : Acceptance)
  /-- The operation that waited came to an end. -/
  | settling
  /-- A listener was told something. -/
  | hearing (listener : Nat) (notification : Notification)
  /-- Time passed. -/
  | passing (ms : Nat)
  /-- A sweep began, which no earlier request stops. -/
  | sweeping
  /-- A sweep found that no stop was asked for, and goes on to a seek. -/
  | seeking
  /-- A sweep was asked to stop. -/
  | stopping
  /-- An update of the radio texts was reported. -/
  | draining
  /-- The band was replaced. -/
  | settingBand (band : Band)
deriving DecidableEq, Repr

/-- An occurrence with its circumstances. -/
structure Moment where
  /-- What happened. -/
  occurrence : Occurrence
  /-- The core just before. -/
  core : Core
  /-- The time. -/
  clock : Nat
deriving DecidableEq, Repr

/-- The core and its surroundings. -/
structure System (σ : Type) where
  /-- The control core. -/
  core : Core
  /-- Whether a sweep is asked to stop. -/
  stopRequested : Bool := false
  /-- The time in milliseconds. -/
  clock : Nat := 0
  /-- The epoch of every listener handed out, oldest first. -/
  listeners : List Nat := []
  /-- What is at the other end of the link. -/
  peer : σ
  /-- Everything that happened, newest first. -/
  history : List Moment := []

/-- Something done to a system, with a result. -/
abbrev Action (σ : Type) := StateM (System σ)

/-- Something done to a system that may fail. What was done before the failure stays done. -/
abbrev Attempt (σ : Type) := ExceptT Fault (Action σ)

namespace System

variable {σ : Type}

/-- Add to the history. -/
def record (system : System σ) (occurrence : Occurrence) : System σ :=
  { system with history := ⟨occurrence, system.core, system.clock⟩ :: system.history }

/-- Take a step of the core. -/
def become (system : System σ) (occurrence : Occurrence) (core : Core) : System σ :=
  { system.record occurrence with core := core }

/-- Change what is at the other end of the link. -/
def withPeer (system : System σ) (change : σ → σ) : System σ :=
  { system with peer := change system.peer }

/-- Let time pass. -/
def pass (system : System σ) (ms : Nat) : System σ :=
  { system.record (.passing ms) with clock := system.clock + ms }

/-- Tell a listener something. A listener that was never handed out hears nothing. -/
def deliver (system : System σ) (listener : Nat) (notification : Notification) : System σ :=
  system.become (.hearing listener notification)
    (match system.listeners[listener]? with
      | some epoch => system.core.notify epoch system.clock notification
      | none => system.core)

/-- Hand out a listener of a new epoch, and give its place among the listeners. -/
def newListener (system : System σ) : Nat × System σ :=
  let listener := system.listeners.length
  let core := system.core.nextEpoch
  (listener,
    { system.become (.attaching listener) core with
      listeners := system.listeners ++ [core.epoch] })

/-- Ask sweeps to stop. -/
def requestStop (system : System σ) : System σ :=
  { system.record .stopping with stopRequested := true }

/-- Begin a sweep. -/
def beginSweep (system : System σ) : System σ :=
  { system.record .sweeping with stopRequested := false }

end System

namespace Action

variable {σ : Type}

/-- The core as it is. -/
def core : Action σ Core := do return (← get).core

/-- Take a step of the core. -/
def step (occurrence : Occurrence) (change : Core → Core) : Action σ Unit :=
  modify fun system => system.become occurrence (change system.core)

/-- Let time go on to a moment. -/
def passUntil (moment : Nat) : Action σ Unit :=
  modify fun system => system.pass (moment - system.clock)

/-- Ask sweeps to stop. -/
def requestStop : Action σ Unit := modify System.requestStop

/-- Replace the band. -/
def setBand (band : Band) : Action σ Unit :=
  step (.settingBand band) fun core => { core with band := band }

/-- Report one update of the radio texts and forget it. -/
def drain : Action σ UInt16 :=
  modifyGet fun system =>
    let (update, core) := system.core.drain
    (update, system.become .draining core)

end Action

namespace Attempt

variable {σ α : Type}

/-- An action, which cannot fail. -/
def lift (action : Action σ α) : Attempt σ α := ExceptT.lift action

/-- What an attempt comes to, failure or not. -/
def outcome (attempt : Attempt σ α) : Attempt σ (Except Fault α) := ExceptT.lift attempt.run

/-- Come to a given result. -/
def ofResult (result : Except Fault α) : Attempt σ α := ExceptT.mk (pure result)

/-- The core as it is. -/
def core : Attempt σ Core := lift Action.core

/-- The system as it is. -/
def system : Attempt σ (System σ) := lift get

end Attempt

end Tuner
