import Tuner.Control.System

/-!
# Links

The core reaches the link in three ways, and waits for it in a fourth. The other end may do
anything at all in return, and it does so before the core goes on: tell listeners something, let
time pass, change its own state, or call back into the core, which may reach the link again. Such
a reaction is a finite tree.

The other end stands for all that is not the core, so for other callers too, and for what the link
does of its own accord. They need no prompting: they have their turn as well where the core has let
go of its state but is not at the link yet. That is so between the submission of a command and its
arrival, and in a sweep before and after it looks whether to stop. What is proved for every `Peer`
holds for everything that is done at these points.

Calls back are nested, and each nesting uses up one level of depth. At depth zero a call back is
not answered. A run of the core is a run at some depth, so a law for every depth is a law for
every run.
-/
namespace Tuner

/-- What the other end acts upon. -/
inductive Stimulus where
  /-- Attach, with the place of the listener among those handed out. -/
  | attach (listener : Nat)
  /-- Release the link. -/
  | detach
  /-- Queue a command. -/
  | submit (command : Command)
  /-- Nothing but time until the core is answered. -/
  | await
  /-- Nothing at all: the core is between two of its steps. -/
  | pause
deriving DecidableEq, Repr

/-- What the other end does in return, step by step. It has a state of type `σ`, makes calls of
type `κ` and gets answers of type `ρ`. -/
inductive Reaction (σ κ ρ : Type) where
  /-- End with an acceptance code; only a submission and an attachment have use for it. -/
  | finish (code : Acceptance)
  /-- Look at the time and at the own state. -/
  | look (next : Nat → σ → Reaction σ κ ρ)
  /-- Change the own state. -/
  | update (change : σ → σ) (next : Reaction σ κ ρ)
  /-- Tell a listener something. -/
  | notify (listener : Nat) (notification : Notification) (next : Reaction σ κ ρ)
  /-- Let time pass. -/
  | pass (ms : Nat) (next : Reaction σ κ ρ)
  /-- Call back into the core; the answer is absent when the call was not made. -/
  | call (request : κ) (next : Option ρ → Reaction σ κ ρ)

/-- The behaviour of the other end. -/
abbrev Peer (σ κ ρ : Type) := Stimulus → Reaction σ κ ρ

namespace Reaction

variable {σ κ ρ : Type}

/-- Carry a reaction out. -/
def run (respond : κ → Action σ (Option ρ)) : Reaction σ κ ρ → Action σ Acceptance
  | finish code => pure code
  | look next => do
    let system ← get
    (next system.clock system.peer).run respond
  | update change next => do
    modify fun system => system.withPeer change
    next.run respond
  | notify listener notification next => do
    modify fun system => system.deliver listener notification
    next.run respond
  | pass ms next => do
    modify fun system => system.pass ms
    next.run respond
  | call request next => do
    let answer ← respond request
    (next answer).run respond

/-- Carry a reaction out while the core waits. A core that is ready goes on before any more time
passes, and one that is not goes on at the deadline: there the reaction ends, even in the middle.
When the reaction ends before that, time goes on to the deadline. -/
def runUntil (respond : κ → Action σ (Option ρ)) (ready : Core → Bool) (deadline : Nat) :
    Reaction σ κ ρ → Action σ Unit
  | finish _ => do
    let system ← get
    if ready system.core then return
    Action.passUntil deadline
  | look next => do
    let system ← get
    (next system.clock system.peer).runUntil respond ready deadline
  | update change next => do
    modify fun system => system.withPeer change
    next.runUntil respond ready deadline
  | notify listener notification next => do
    modify fun system => system.deliver listener notification
    next.runUntil respond ready deadline
  | pass ms next => do
    let system ← get
    if ready system.core then return
    if deadline ≤ system.clock + ms then Action.passUntil deadline
    else
      set (system.pass ms)
      next.runUntil respond ready deadline
  | call request next => do
    let answer ← respond request
    (next answer).runUntil respond ready deadline

/-- The reaction of an other end whose state is a part of a larger one. -/
def within {τ : Type} (part : τ → σ) (replace : σ → τ → τ) : Reaction σ κ ρ → Reaction τ κ ρ
  | finish code => .finish code
  | look next => .look fun now whole => (next now (part whole)).within part replace
  | update change next =>
    .update (fun whole => replace (change (part whole)) whole) (next.within part replace)
  | notify listener notification next =>
    .notify listener notification (next.within part replace)
  | pass ms next => .pass ms (next.within part replace)
  | call request next => .call request fun answer => (next answer).within part replace

end Reaction

/-- The link as the core sees it. -/
structure Link (σ : Type) where
  /-- Attach with a listener. -/
  attach : Nat → Action σ Acceptance
  /-- Release the link. -/
  detach : Action σ Unit
  /-- Queue a command, which others may forestall. -/
  submit : Command → Action σ Acceptance
  /-- Wait until the core is ready or the deadline has come. -/
  await : (Core → Bool) → Nat → Action σ Unit
  /-- Let others have their turn. -/
  pause : Action σ Unit

namespace Peer

variable {σ κ ρ : Type}

/-- The link to a peer whose calls back are answered in a given way. -/
def linkAnswering (peer : Peer σ κ ρ) (respond : κ → Action σ (Option ρ)) : Link σ where
  attach listener := (peer (.attach listener)).run respond
  detach := do
    modify fun system => system.record .detaching
    let _ ← (peer .detach).run respond
  submit command := do
    modify fun system => system.record (.submitting command)
    let _ ← (peer .pause).run respond
    modify fun system => system.record (.reaching command)
    (peer (.submit command)).run respond
  await ready deadline := (peer .await).runUntil respond ready deadline
  pause := do let _ ← (peer .pause).run respond

/-- The link to a peer whose calls back are nested up to a depth. -/
def link (peer : Peer σ κ ρ) (method : Link σ → κ → Action σ ρ) : Nat → Link σ
  | 0 => peer.linkAnswering fun _ => pure none
  | depth + 1 => peer.linkAnswering fun request => some <$> method (peer.link method depth) request

end Peer

end Tuner
