import Tuner.Bench.Rules
import Tuner.Control.Call
import Tuner.Radio.Call

/-!
# Trials

A trial makes one step after another with a core whose link follows rules, and reports after each
step what came of it: the answer, what reached the link, the time it took, and the state of the
radio. At the end the core is given up; what then reaches the link can make no further steps.
-/
namespace Tuner.Bench

/-- What is on trial: something that answers calls over a link and can be given up. -/
structure Subject (κ ρ : Type) where
  /-- Answer a call. -/
  answer : Link (Rig κ ρ) → κ → Action (Rig κ ρ) ρ
  /-- Give the subject up. -/
  dispose : Link (Rig κ ρ) → Action (Rig κ ρ) Unit

/-- The report of one step. -/
structure Outcome (ρ : Type) where
  /-- The answer, if the step has one. -/
  answer : Option ρ
  /-- What reached the link. -/
  log : List (Entry ρ)
  /-- How many milliseconds passed. -/
  elapsed : Nat
  /-- The state of the radio after the step. -/
  state : RadioState

/-- A radio on trial. -/
def Subject.radio (settings : Settings) : Subject Radio.Call Radio.Answer where
  answer link := (Radio.mk settings link).answer
  dispose link := (Radio.mk settings link).dispose

/-- The rig notes whether a session is held over several steps. -/
def Rig.token (κ ρ : Type) : Controller.Token (Rig κ ρ) where
  held rig := rig.held
  note held rig := { rig with held := held }

/-- A bare controller on trial. -/
def Subject.controller (timeout : Nat) : Subject Controller.Call Controller.Answer where
  answer link := (Controller.mk link timeout).serve (Rig.token _ _)
  dispose link := do (Controller.mk link timeout).dispose (← get).peer.held

namespace Subject

variable {κ ρ : Type} (subject : Subject κ ρ)

/-- How deep steps may be nested in each other. A step inside another is made by a rule that
applied, so this is far more than the rules of a trial allow. -/
def depth : Nat := 1000000000

/-- The link of the trial, for steps nested up to a depth. -/
def link (depth : Nat) : Link (Rig κ ρ) :=
  Rig.peer.link (fun link step => step.run (subject.answer link)) depth

/-- Take the log, in order. -/
def takeLog : Action (Rig κ ρ) (List (Entry ρ)) :=
  modifyGet fun system => (system.peer.log.reverse, system.withPeer ({ · with log := [] }))

/-- Make a step and report it. -/
def make (step : Step (Act κ) κ) : Action (Rig κ ρ) (Outcome ρ) := do
  let start := (← get).clock
  let answer ← step.run (subject.answer (subject.link depth))
  let log ← takeLog
  let system ← get
  return ⟨answer, log, system.clock - start, system.core.state⟩

/-- Make all steps, then give the subject up, and report both. -/
def trial (steps : List (Step (Act κ) κ)) :
    Action (Rig κ ρ) (List (Outcome ρ) × List (Entry ρ)) := do
  let outcomes ← steps.mapM subject.make
  subject.dispose (subject.link 0)
  return (outcomes, ← takeLog)

end Subject

end Tuner.Bench
