import Mathlib.Logic.Relation
import Tuner.Control.System

/-!
# Steps of a run

A run changes the core in steps, each of them one function of the core. Anyone may take some of
them at any time: the link tells a listener something, time passes, the link is attached or
released, the band is replaced. The others belong to the session that holds the operation slot,
which claims it, installs commands, ends them and gives the slot back.

`Step` lists both kinds, each with what holds when it is taken, and says nothing of who takes it.
An invariant of the core is proved for each step, and then holds throughout every run that is made
of steps. What is at the other end of the link plays no part, so steps relate systems without it.
-/
namespace Tuner

/-- The terms on which a core is used. -/
structure Terms where
  /-- Milliseconds that a command may take. -/
  timeout : Nat
  /-- The commands that may be submitted without waiting, after what happened so far. -/
  unawaited : List Moment → Command → Prop

/-- What tells an operation from every other: the tag and the number of its submission. -/
def Waiter.submission (waiter : Waiter) : Tag × Nat := (waiter.tag, waiter.generation)

namespace System

variable {σ : Type}

/-- A system without what is at the other end of the link. -/
def bare (system : System σ) : System Unit := { system with peer := () }

/-- A step that anyone may take at any time. -/
inductive Aside (unawaited : List Moment → Command → Prop) : System Unit → System Unit → Prop
  /-- Time passes. -/
  | pass (system : System Unit) (ms : Nat) : Aside unawaited system (system.pass ms)
  /-- A listener is told something. -/
  | hear (system : System Unit) (listener : Nat) (notification : Notification) :
      Aside unawaited system (system.deliver listener notification)
  /-- A listener is handed out, unless the link is attached. -/
  | attach (system : System Unit) (unattached : system.core.state.attached = false) :
      Aside unawaited system system.newListener.2
  /-- The link is asked to go away. -/
  | detach (system : System Unit) : Aside unawaited system (system.record .detaching)
  /-- What the link said is forgotten. -/
  | forget (system : System Unit) :
      Aside unawaited system (system.become .forgetting system.core.detached)
  /-- A command is submitted without waiting. -/
  | submit (system : System Unit) (command : Command)
      (allowed : unawaited system.history command) :
      Aside unawaited system (system.record (.submitting command))
  /-- A command reaches the link, whoever submitted it. -/
  | reach (system : System Unit) (command : Command) :
      Aside unawaited system (system.record (.reaching command))
  /-- A sweep is asked to stop. -/
  | stop (system : System Unit) : Aside unawaited system system.requestStop
  /-- An update of the radio texts is reported. -/
  | drain (system : System Unit) :
      Aside unawaited system (system.become .draining system.core.drain.2)
  /-- The band is replaced. -/
  | setBand (system : System Unit) (band : Band) :
      Aside unawaited system (system.become (.settingBand band) { system.core with band := band })

/-- A step of a run. An operation is ended under its own number; a command that nobody waits for
has no waiter, and then the number does not matter. -/
inductive Step (terms : Terms) : System Unit → System Unit → Prop
  /-- Anyone takes a step. -/
  | aside {system system' : System Unit} (taken : Aside terms.unawaited system system') :
      Step terms system system'
  /-- A session claims the operation slot. -/
  | claim (system : System Unit) (core : Core)
      (claimed : system.core.claim system.clock terms.timeout = .ok core) :
      Step terms system (system.become .claiming core)
  /-- A session that waits for nothing gives the slot back. -/
  | release (system : System Unit) (busy : system.core.busy = true)
      (idle : system.core.waiter = none) :
      Step terms system (system.become .releasing system.core.release)
  /-- A session begins a sweep. -/
  | sweep (system : System Unit) (busy : system.core.busy = true) :
      Step terms system system.beginSweep
  /-- A session goes on to a seek of its sweep. -/
  | seek (system : System Unit) (busy : system.core.busy = true) :
      Step terms system (system.record .seeking)
  /-- A session installs a command and submits it. -/
  | install (system : System Unit) (command : Command) (expected : Option Frequency)
      (generation : Nat) (core : Core) (busy : system.core.busy = true)
      (installed : system.core.install command expected = .ok (generation, core)) :
      Step terms system
        ((system.become (.installing command) core).record (.submitting command))
  /-- A session takes back a command that the link refused. -/
  | refuse (system : System Unit) (code : Acceptance) (generation : Nat)
      (busy : system.core.busy = true)
      (own : ∀ waiter, system.core.waiter = some waiter → waiter.generation = generation) :
      Step terms system (system.become (.refusing code) (system.core.refuse generation))
  /-- A session ends the operation that waits. -/
  | settle (system : System Unit) (waiter : Waiter) (expected : Option Frequency)
      (busy : system.core.busy = true) (waiting : system.core.waiter = some waiter) :
      Step terms system
        (system.become .settling
          (system.core.settle waiter.generation expected system.clock terms.timeout).2)

/-- Any number of steps that anyone may take. -/
abbrev Asides (unawaited : List Moment → Command → Prop) :
    System Unit → System Unit → Prop :=
  Relation.ReflTransGen (Aside unawaited)

/-- Any number of steps. -/
abbrev Steps (terms : Terms) : System Unit → System Unit → Prop :=
  Relation.ReflTransGen (Step terms)

/-- Steps that anyone may take are steps. -/
theorem Asides.steps {terms : Terms} {system system' : System Unit}
    (taken : Asides terms.unawaited system system') : Steps terms system system' :=
  Relation.ReflTransGen.mono (fun _ _ => Step.aside) _ _ taken

end System

namespace Core

/-- Between two cores, neither the operation slot nor the identity of the operation that waits
changed. -/
structure Undisturbed (core core' : Core) : Prop where
  /-- The slot is taken or free as before. -/
  busy : core'.busy = core.busy
  /-- The operation that waits is the same, or there is still none. -/
  submission : core'.waiter.map Waiter.submission = core.waiter.map Waiter.submission

/-- A core is undisturbed compared with itself. -/
theorem Undisturbed.refl (core : Core) : core.Undisturbed core := ⟨rfl, rfl⟩

/-- A core undisturbed twice is undisturbed. -/
theorem Undisturbed.trans {first second third : Core} (before : first.Undisturbed second)
    (after : second.Undisturbed third) : first.Undisturbed third :=
  ⟨after.busy.trans before.busy, after.submission.trans before.submission⟩

/-- An operation that waits goes on waiting, under its tag and number. -/
theorem Undisturbed.waiting {core core' : Core} (same : core.Undisturbed core') {waiter : Waiter}
    (waiting : core.waiter = some waiter) :
    ∃ waiter', core'.waiter = some waiter' ∧ waiter'.submission = waiter.submission := by
  have mapped := same.submission
  rw [waiting, Option.map_some] at mapped
  exact Option.map_eq_some_iff.1 mapped

/-- Where no operation waits, none does afterwards. -/
theorem Undisturbed.idle {core core' : Core} (same : core.Undisturbed core')
    (idle : core.waiter = none) : core'.waiter = none := by
  have mapped := same.submission
  rw [idle, Option.map_none] at mapped
  exact Option.map_eq_none_iff.1 mapped

/-- A command that was installed waits under its number, if it waits at all. -/
theorem Undisturbed.number {core core' : Core} (same : core.Undisturbed core') {tag? : Option Tag}
    {generation : Nat}
    (waits : core.waiter = tag?.map fun tag => { tag := tag, generation := generation })
    {waiter : Waiter} (waiting : core'.waiter = some waiter) :
    waiter.generation = generation := by
  have mapped := same.submission
  rw [waits, waiting] at mapped
  cases tag? with
  | none => simp at mapped
  | some tag =>
    simp only [Option.map_some, Option.some.injEq, Waiter.submission, Prod.mk.injEq] at mapped
    exact mapped.2

/-- Losing the link fails the operation that waits and leaves the slot alone. -/
theorem detached_undisturbed (core : Core) : core.Undisturbed core.detached := by
  refine ⟨rfl, ?_⟩
  cases waiting : core.waiter <;> simp [detached, waiting, Waiter.submission]

/-- An answer only fills the reply of the operation that waits. -/
theorem answer_undisturbed (core : Core) (generation : Nat) (event : Event) :
    core.Undisturbed (core.answer generation event) := by
  unfold answer
  split
  next waiter waiting =>
    split
    · exact ⟨rfl, by simp [waiting, Waiter.submission]⟩
    · exact .refl core
  next => exact .refl core

/-- A late answer is handed to the operation that waits and replaces nothing else of it. -/
theorem handOver_undisturbed (core : Core) (now : Nat) (event : Event) :
    core.Undisturbed (core.handOver now event) := by
  unfold handOver
  split
  next waiter waiting =>
    split
    · exact .refl core
    · split
      · exact ⟨rfl, by simp [waiting, Waiter.submission]⟩
      · exact ⟨rfl, by simp [waiting, Waiter.submission]⟩
  next => exact .refl core

/-- An event, whatever it is credited to, leaves the slot and the operation that waits. -/
theorem hear_undisturbed (core : Core) (now : Nat) (event : Event) :
    core.Undisturbed (core.hear now event) := by
  unfold hear
  split
  · have folded : core.Undisturbed
        { core with
          state := core.state.apply core.band event
          ledger := (core.ledger.credit event.tag event.frequency?).2 } := ⟨rfl, rfl⟩
    dsimp only
    split
    · exact folded.trans (answer_undisturbed _ _ _)
    · exact folded.trans (handOver_undisturbed _ _ _)
    · exact folded
  · exact .refl core

/-- Any notification from any listener leaves the slot and the operation that waits. -/
theorem notify_undisturbed (core : Core) (epoch now : Nat) (notification : Notification) :
    core.Undisturbed (core.notify epoch now notification) := by
  unfold notify
  split
  · cases notification with
    | attached => exact ⟨rfl, rfl⟩
    | detached => exact detached_undisturbed core
    | event event => exact hear_undisturbed core now event
  · exact .refl core

/-- Waking an operation leaves the band. -/
theorem answer_band (core : Core) (generation : Nat) (event : Event) :
    (core.answer generation event).band = core.band := by
  unfold answer
  split
  · split <;> rfl
  · rfl

/-- Handing a late answer over leaves the band. -/
theorem handOver_band (core : Core) (now : Nat) (event : Event) :
    (core.handOver now event).band = core.band := by
  unfold handOver
  split
  · split
    · rfl
    · split <;> rfl
  · rfl

/-- An event leaves the band, whatever it is credited to. -/
theorem hear_band (core : Core) (now : Nat) (event : Event) :
    (core.hear now event).band = core.band := by
  unfold hear
  split
  · dsimp only
    split
    · exact answer_band _ _ _
    · exact handOver_band _ _ _
    · rfl
  · rfl

/-- Any notification leaves the band. -/
theorem notify_band (core : Core) (epoch now : Nat) (notification : Notification) :
    (core.notify epoch now notification).band = core.band := by
  unfold notify
  split
  · cases notification with
    | attached => rfl
    | detached => rfl
    | event event => exact hear_band core now event
  · rfl

end Core

namespace System

/-- A step that anyone may take leaves the slot and the operation that waits. -/
theorem Aside.undisturbed {unawaited : List Moment → Command → Prop}
    {system system' : System Unit}
    (taken : Aside unawaited system system') : system.core.Undisturbed system'.core := by
  cases taken with
  | pass | detach | submit | reach | stop => exact .refl _
  | hear listener notification =>
    unfold deliver become
    dsimp only
    split
    · exact Core.notify_undisturbed _ _ _ _
    · exact .refl _
  | forget => exact Core.detached_undisturbed _
  | attach | drain | setBand => exact ⟨rfl, rfl⟩

/-- Steps that anyone may take leave the slot and the operation that waits, however many they are.
-/
theorem Asides.undisturbed {unawaited : List Moment → Command → Prop}
    {system system' : System Unit}
    (taken : Asides unawaited system system') : system.core.Undisturbed system'.core := by
  induction taken with
  | refl => exact .refl _
  | tail _ last before => exact before.trans last.undisturbed

end System

end Tuner
