import Tuner.Control.Sweep
import Tuner.Proofs.Step

/-!
# Orderly conduct

Calls back are nested at any depth, and each of them may come while the operation slot is free or
taken. What can be said of them all is the same: an action is orderly if it is made of steps, if it
only takes steps that anyone may take while an operation of someone else is under way, and if it
leaves the slot at rest where it found it so. Reactions are orderly when the answers to their calls
back are, so by induction on the depth the link is orderly, and a session run on it.

Whoever makes the calls may hold a session between two of them. Where that is noted is a parameter
here; a radio never does.
-/
namespace Tuner

namespace System

variable {σ : Type} (held : σ → Bool)

/-- The slot is taken only for a session that is held between calls, and nothing waits. -/
structure AtRest (system : System σ) : Prop where
  /-- The slot is taken for a held session and free otherwise. -/
  busy : system.core.busy = held system.peer
  /-- No operation waits. -/
  idle : system.core.waiter = none

/-- An operation is under way, and its session cannot be used by anyone else. -/
structure Engaged (system : System σ) : Prop where
  /-- The slot is taken. -/
  busy : system.core.busy = true
  /-- No session is there to be used. -/
  unheld : held system.peer = false

/-- A session is between two of its commands. -/
structure Poised (system : System σ) : Prop extends Engaged held system where
  /-- No operation waits. -/
  idle : system.core.waiter = none

variable (terms : Terms)

/-- What becomes of a system through an action that everyone may take at any time. -/
structure Orderly (system system' : System σ) : Prop where
  /-- At rest, it takes steps of any kind that lead to rest. -/
  quiet : AtRest held system → AtRest held system' ∧ Steps terms system.bare system'.bare
  /-- While an operation is under way, it only takes steps that anyone may take. -/
  engaged : Engaged held system →
    held system'.peer = held system.peer ∧ Asides terms.unawaited system.bare system'.bare

variable {held} {terms} {system system' system'' : System σ}

/-- What is under way stays so through steps that anyone may take. -/
theorem Orderly.stays (orderly : Orderly held terms system system')
    (engaged : Engaged held system) : Engaged held system' := by
  obtain ⟨same, taken⟩ := orderly.engaged engaged
  exact ⟨taken.undisturbed.busy.trans engaged.busy, same.trans engaged.unheld⟩

/-- A session stays between two of its commands through steps that anyone may take. -/
theorem Orderly.poised (orderly : Orderly held terms system system')
    (poised : Poised held system) : Poised held system' :=
  { orderly.stays poised.toEngaged with
    idle := (orderly.engaged poised.toEngaged).2.undisturbed.idle poised.idle }

/-- Nothing happened. -/
theorem Orderly.refl (system : System σ) : Orderly held terms system system where
  quiet rest := ⟨rest, .refl⟩
  engaged _ := ⟨rfl, .refl⟩

/-- One thing happened after another. -/
theorem Orderly.trans (first : Orderly held terms system system')
    (second : Orderly held terms system' system'') : Orderly held terms system system'' where
  quiet rest := by
    obtain ⟨rest', taken⟩ := first.quiet rest
    obtain ⟨rest'', taken'⟩ := second.quiet rest'
    exact ⟨rest'', taken.trans taken'⟩
  engaged engaged := by
    obtain ⟨same, taken⟩ := first.engaged engaged
    obtain ⟨same', taken'⟩ := second.engaged (first.stays engaged)
    exact ⟨same'.trans same, taken.trans taken'⟩

/-- Steps that anyone may take, with no session passed on, are orderly. -/
theorem Orderly.of_asides (same : held system'.peer = held system.peer)
    (taken : Asides terms.unawaited system.bare system'.bare) :
    Orderly held terms system system' where
  quiet rest :=
    ⟨⟨taken.undisturbed.busy.trans (rest.busy.trans same.symm), taken.undisturbed.idle rest.idle⟩,
      taken.steps⟩
  engaged _ := ⟨same, taken⟩

/-- One step that anyone may take is orderly. -/
theorem Orderly.of_aside (same : system'.peer = system.peer)
    (taken : Aside terms.unawaited system.bare system'.bare) :
    Orderly held terms system system' :=
  .of_asides (congrArg held same) (.single taken)

/-- Whatever happens at the other end of the link is orderly if no session is passed on. -/
theorem Orderly.withPeer (system : System σ) {change : σ → σ}
    (same : ∀ peer, held (change peer) = held peer) :
    Orderly held terms system (system.withPeer change) :=
  .of_asides (same system.peer) .refl

end System

namespace Action

variable {σ α β : Type} (held : σ → Bool) (terms : Terms)

/-- An action that everyone may take at any time. -/
def Orderly (action : Action σ α) : Prop :=
  ∀ system, System.Orderly held terms system (action.run system).2

variable {held} {terms}

/-- Doing nothing is orderly. -/
theorem Orderly.pure (value : α) : Orderly held terms (Pure.pure value : Action σ α) :=
  fun system => .refl system

/-- Orderly actions one after another are orderly. -/
theorem Orderly.bind {first : Action σ α} {next : α → Action σ β}
    (before : Orderly held terms first) (after : ∀ value, Orderly held terms (next value)) :
    Orderly held terms (first >>= next) :=
  fun system => (before system).trans (after _ _)

/-- Reading a result differently is orderly. -/
theorem Orderly.map {action : Action σ α} (orderly : Orderly held terms action) (f : α → β) :
    Orderly held terms (f <$> action) :=
  fun system => orderly system

/-- Looking at the system is orderly. -/
theorem Orderly.get : Orderly held terms (get : Action σ (System σ)) :=
  fun system => .refl system

/-- Looking at the core is orderly. -/
theorem Orderly.core : Orderly held terms (core : Action σ Core) := fun system => .refl system

/-- Time may pass. -/
theorem Orderly.passUntil (moment : Nat) : Orderly held terms (passUntil moment : Action σ Unit) :=
  fun system => .of_aside rfl (.pass system.bare _)

/-- A sweep may be asked to stop. -/
theorem Orderly.requestStop : Orderly held terms (requestStop : Action σ Unit) :=
  fun system => .of_aside rfl (.stop system.bare)

/-- The band may be replaced. -/
theorem Orderly.setBand (band : Band) : Orderly held terms (setBand band : Action σ Unit) :=
  fun system => .of_aside rfl (.setBand system.bare band)

/-- An update of the radio texts may be reported. -/
theorem Orderly.drain : Orderly held terms (drain : Action σ UInt16) :=
  fun system => .of_aside rfl (.drain system.bare)

end Action

namespace Attempt

section Bind

variable {σ α β : Type} {first : Attempt σ α} {next : α → Attempt σ β} {system after : System σ}

/-- After a success comes what is next. -/
theorem bind_of_ok {value : α} (done : first.run.run system = (.ok value, after)) :
    (first >>= next).run.run system = (next value).run.run after := by
  have same : (first >>= next).run.run system =
      (ExceptT.bindCont next (first.run.run system).1).run (first.run.run system).2 := rfl
  rw [same, done]
  rfl

/-- After a failure comes nothing. -/
theorem bind_of_error {fault : Fault} (failed : first.run.run system = (.error fault, after)) :
    (first >>= next).run.run system = (.error fault, after) := by
  have same : (first >>= next).run.run system =
      (ExceptT.bindCont next (first.run.run system).1).run (first.run.run system).2 := rfl
  rw [same, failed]
  rfl

/-- Where attempts one after another succeed, each of them does. -/
theorem ok_of_bind {value : β} (done : (first >>= next).run.run system = (.ok value, after)) :
    ∃ value' between, first.run.run system = (.ok value', between) ∧
      (next value').run.run between = (.ok value, after) := by
  rcases ran : first.run.run system with ⟨result, between⟩
  cases result with
  | ok value' =>
    rw [bind_of_ok ran] at done
    exact ⟨value', between, rfl, done⟩
  | error fault =>
    rw [bind_of_error ran] at done
    cases done

/-- Attempts one after another turn nobody away if none of them does. -/
theorem bind_ne_busy (before : (first.run.run system).1 ≠ .error .busy)
    (later : ∀ value, ((next value).run.run (first.run.run system).2).1 ≠ .error .busy) :
    ((first >>= next).run.run system).1 ≠ .error .busy := by
  rcases ran : first.run.run system with ⟨result, after⟩
  rw [ran] at before later
  cases result with
  | ok value =>
    rw [bind_of_ok ran]
    exact later value
  | error fault =>
    rw [bind_of_error ran]
    exact fun same => before (congrArg _ (Except.error.inj same))

end Bind

variable {σ α β : Type} (held : σ → Bool) (terms : Terms)

/-- An attempt that everyone may make at any time. Where nobody ever holds a session between calls,
nobody who finds the slot at rest is turned away. -/
structure Orderly (attempt : Attempt σ α) : Prop where
  /-- What is done is orderly. -/
  action : Action.Orderly held terms attempt.run
  /-- At rest, nobody is turned away. -/
  welcome : (∀ peer, held peer = false) → ∀ system, System.AtRest held system →
    (attempt.run.run system).1 ≠ .error .busy

variable {held} {terms}

/-- Orderly attempts one after another are orderly. -/
theorem Orderly.bind {first : Attempt σ α} {next : α → Attempt σ β}
    (before : Orderly held terms first) (after : ∀ value, Orderly held terms (next value)) :
    Orderly held terms (first >>= next) where
  action := by
    change Action.Orderly held terms (first.run >>= ExceptT.bindCont next)
    refine .bind before.action fun result => ?_
    cases result with
    | ok value => exact (after value).action
    | error fault => exact Action.Orderly.pure _
  welcome unheld system rest := by
    have rest' := ((before.action system).quiet rest).1
    exact bind_ne_busy (before.welcome unheld system rest)
      fun value => (after value).welcome unheld _ rest'

/-- Coming to a result is orderly unless it turns someone away. -/
theorem Orderly.result {result : Except Fault α} (other : result ≠ .error .busy) :
    Orderly held terms (ofResult result : Attempt σ α) :=
  ⟨Action.Orderly.pure _, fun _ _ _ => other⟩

/-- Doing nothing is orderly. -/
theorem Orderly.pure (value : α) : Orderly held terms (Pure.pure value : Attempt σ α) :=
  .result nofun

/-- Failing is orderly unless it turns someone away. -/
theorem Orderly.throw {fault : Fault} (other : fault ≠ .busy) :
    Orderly held terms (MonadExcept.throw fault : Attempt σ α) :=
  .result fun same => other (Except.error.inj same)

/-- An orderly action is an orderly attempt. -/
theorem Orderly.lift {action : Action σ α} (orderly : Action.Orderly held terms action) :
    Orderly held terms (lift action) :=
  ⟨orderly.map _, fun _ _ _ => nofun⟩

/-- Looking at the core is orderly. -/
theorem Orderly.core : Orderly held terms (core : Attempt σ Core) := .lift .core

end Attempt

end Tuner
