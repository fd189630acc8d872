import Tuner.Control.Session

/-!
# Sweeps

A sweep finds the stations of a band. It tunes to the lower bound and seeks upward again and
again, and it ends when a seek gets no further, when it reaches the upper bound, when a command
fails, or when it is asked to stop. What it found so far it keeps. Every seek but the last gets
further, so there are no more of them than units between the bounds.

Whether to stop is looked up before each seek, and a seek is under way from there on: who asks for a
stop after the look, but before the command is at the link, asks for it during that seek.
-/
namespace Tuner

/-- Why a sweep ended. -/
inductive Sweep.Stop where
  /-- A seek got no further. -/
  | noProgress
  /-- A seek reached the upper bound. -/
  | bandEdge
  /-- A stop was asked for. -/
  | cancelled
  /-- A command failed. -/
  | failed (fault : Fault)
deriving DecidableEq, Repr

/-- What a sweep found. -/
structure Sweep.Report where
  /-- The stations in the order in which they were found. -/
  frequencies : List Frequency
  /-- Their channel numbers. -/
  channels : List UInt16
  /-- Why the sweep ended. -/
  stop : Sweep.Stop
deriving DecidableEq, Repr

/-- The terms of a sweep. -/
structure Sweep where
  /-- The band to sweep. -/
  band : Band
  /-- The weakest signal to stop at. -/
  minSignal : UInt8 := defaultMinSignal
  /-- The precision of the seeks. -/
  method : SeekMethod := .normal
deriving DecidableEq, Repr

namespace Sweep

variable {σ : Type}

/-- The report of the stations found and of why the sweep ended. -/
def report (sweep : Sweep) (found : List Frequency) (stop : Stop) : Report :=
  ⟨found, found.map sweep.band.channelOf, stop⟩

/-- The report with a station in front. -/
def Report.prepend (report : Report) (band : Band) (frequency : Frequency) : Report :=
  { report with
    frequencies := frequency :: report.frequencies
    channels := band.channelOf frequency :: report.channels }

/-- The command of each seek. -/
def command (sweep : Sweep) : Command := .seek (.seek .up sweep.method) sweep.minSignal

/-- Where a seek that started at a frequency got to. -/
def reached (previous : Frequency) : Option Event → Frequency
  | some (.seekComplete report) => if report.success then report.frequency else previous
  | _ => previous

/-- Look whether a stop is asked for, after everyone else had a turn. -/
def look (controller : Controller σ) (cancelled : Action σ Bool) : Action σ Bool := do
  controller.link.pause
  cancelled

/-- Make a seek. Everyone else has another turn before its command is run. -/
def seek (sweep : Sweep) (controller : Controller σ) : Action σ (Except Fault (Option Event)) := do
  modify fun system => system.record .seeking
  controller.link.pause
  (controller.execute sweep.command).run

/-- Seek on from a station, and report what is found from there on. -/
def seekOn (sweep : Sweep) (controller : Controller σ) (cancelled : Action σ Bool)
    (previous : Frequency) : Action σ Report := do
  if ← look controller cancelled then return sweep.report [] .cancelled
  match ← sweep.seek controller with
  | .error fault => return sweep.report [] (.failed fault)
  | .ok event =>
    if _stuck : reached previous event ≤ previous then
      return sweep.report [] (if ← look controller cancelled then .cancelled else .noProgress)
    else if _atEdge : sweep.band.high ≤ reached previous event then
      return sweep.report [] .bandEdge
    else
      let rest ← sweep.seekOn controller cancelled (reached previous event)
      return rest.prepend sweep.band (reached previous event)
termination_by sweep.band.high.units.toNat - previous.units.toNat
decreasing_by
  rw [Frequency.le_iff_toNat_le] at _stuck _atEdge
  omega

/-- Sweep the band while the operation slot is held. -/
def run (sweep : Sweep) (controller : Controller σ) (cancelled : Action σ Bool) :
    Action σ Report := do
  match ← (controller.tune sweep.band.low).run with
  | .error fault => return sweep.report [] (.failed fault)
  | .ok _ => sweep.seekOn controller cancelled sweep.band.low

end Sweep

end Tuner
