import Tuner.Control.Link
import Tuner.Proofs.Conduct

/-!
# Reactions and links are orderly

A reaction tells listeners things, lets time pass and changes the state of the other end, all of
which anyone may do at any time. What else it does comes through the answers to its calls back. So
a reaction is orderly when these are, and the link to a peer is orderly at every depth, whatever
the peer does, as long as every method is orderly on an orderly link.
-/
namespace Tuner

variable {σ κ ρ : Type} {held : σ → Bool} {terms : Terms}

/-- Whether no change of the own state in a reaction passes a session on. -/
def Reaction.Honest (held : σ → Bool) : Reaction σ κ ρ → Prop
  | finish _ => True
  | look next => ∀ now own, (next now own).Honest held
  | update change next => (∀ own, held (change own) = held own) ∧ next.Honest held
  | notify _ _ next => next.Honest held
  | pass _ next => next.Honest held
  | call _ next => ∀ answer, (next answer).Honest held

namespace Reaction

/-- A reaction is orderly when the answers to its calls back are. -/
theorem run_orderly {respond : κ → Action σ (Option ρ)}
    (answers : ∀ request, Action.Orderly held terms (respond request))
    (reaction : Reaction σ κ ρ) (honest : reaction.Honest held) :
    Action.Orderly held terms (reaction.run respond) := by
  induction reaction with
  | finish code => exact .pure code
  | look next ih => exact .bind .get fun system => ih _ _ (honest _ _)
  | update change next ih =>
    refine .bind (fun system => ?_) fun _ => ih honest.2
    exact .withPeer system honest.1
  | notify listener notification next ih =>
    refine .bind (fun system => ?_) fun _ => ih honest
    exact .of_aside rfl (.hear system.bare listener notification)
  | pass ms next ih =>
    refine .bind (fun system => ?_) fun _ => ih honest
    exact .of_aside rfl (.pass system.bare ms)
  | call request next ih => exact .bind (answers request) fun answer => ih answer (honest answer)

/-- A core that is ready goes on before time passes, and one that is not goes on at the deadline. -/
theorem runUntil_pass (respond : κ → Action σ (Option ρ)) (ready : Core → Bool) (deadline ms : Nat)
    (next : Reaction σ κ ρ) (system : System σ) :
    ((pass ms next).runUntil respond ready deadline).run system =
      if ready system.core then ((), system)
      else if deadline ≤ system.clock + ms then (Action.passUntil deadline).run system
      else (next.runUntil respond ready deadline).run (system.pass ms) := by
  rw [runUntil]
  change (if ready system.core then _ else _ : Action σ Unit).run system = _
  split
  · rfl
  · by_cases late : deadline ≤ system.clock + ms
    · rw [if_pos late, if_pos late]
    · rw [if_neg late, if_neg late]
      rfl

/-- When the core goes on, it is ready or the deadline has come. -/
theorem runUntil_ready_or_late (respond : κ → Action σ (Option ρ)) (ready : Core → Bool)
    (deadline : Nat) (reaction : Reaction σ κ ρ) (system : System σ) :
    ready ((reaction.runUntil respond ready deadline).run system).2.core = true ∨
      deadline ≤ ((reaction.runUntil respond ready deadline).run system).2.clock := by
  have late : ∀ system : System σ,
      deadline ≤ ((Action.passUntil deadline).run system).2.clock := by
    intro system
    change deadline ≤ system.clock + (deadline - system.clock)
    omega
  induction reaction generalizing system with
  | finish code =>
    change ready ((if ready system.core then _ else _ : Action σ Unit).run system).2.core = true ∨
      deadline ≤ ((if ready system.core then _ else _ : Action σ Unit).run system).2.clock
    split
    next awake => exact .inl awake
    next => exact .inr (late system)
  | look next ih => exact ih _ _ system
  | update change next ih => exact ih _
  | notify listener notification next ih => exact ih _
  | pass ms next ih =>
    rw [runUntil_pass]
    split
    next awake => exact .inl awake
    next =>
      split
      · exact .inr (late system)
      · exact ih _
  | call request next ih => exact ih _ _

/-- What is done while the core waits is orderly too, wherever the reaction then ends. -/
theorem runUntil_orderly {respond : κ → Action σ (Option ρ)}
    (answers : ∀ request, Action.Orderly held terms (respond request)) (ready : Core → Bool)
    (deadline : Nat) (reaction : Reaction σ κ ρ) (honest : reaction.Honest held) :
    Action.Orderly held terms (reaction.runUntil respond ready deadline) := by
  induction reaction with
  | finish code =>
    refine .bind .get fun system => ?_
    split
    · exact .pure ()
    · exact .bind (.pure ()) fun _ => .passUntil deadline
  | look next ih => exact .bind .get fun system => ih _ _ (honest _ _)
  | update change next ih =>
    refine .bind (fun system => ?_) fun _ => ih honest.2
    exact .withPeer system honest.1
  | notify listener notification next ih =>
    refine .bind (fun system => ?_) fun _ => ih honest
    exact .of_aside rfl (.hear system.bare listener notification)
  | pass ms next ih =>
    intro system
    rw [runUntil_pass]
    split
    · exact .refl system
    · split
      · exact Action.Orderly.passUntil deadline system
      · have elapsed : System.Orderly held terms system (system.pass ms) :=
          .of_aside rfl (.pass system.bare ms)
        exact elapsed.trans (ih honest _)
  | call request next ih => exact .bind (answers request) fun answer => ih answer (honest answer)

end Reaction

/-- What a caller of the link may rely on: it does nothing but what anyone may do at any time. -/
structure Link.Orderly (held : σ → Bool) (terms : Terms) (link : Link σ) : Prop where
  /-- Attaching is orderly. -/
  attach : ∀ listener, Action.Orderly held terms (link.attach listener)
  /-- Releasing is orderly. -/
  detach : Action.Orderly held terms link.detach
  /-- What follows a submission is orderly. -/
  submit : ∀ command (system : System σ),
    System.Orderly held terms (system.record (.submitting command))
      ((link.submit command).run system).2
  /-- Waiting is orderly. -/
  await : ∀ ready deadline, Action.Orderly held terms (link.await ready deadline)
  /-- What others do meanwhile is orderly. -/
  pause : Action.Orderly held terms link.pause

namespace Peer

/-- Whether no reaction of a peer passes a session on. -/
def Honest (held : σ → Bool) (peer : Peer σ κ ρ) : Prop :=
  ∀ stimulus, (peer stimulus).Honest held

/-- The link to a peer is orderly when the answers to its calls back are. -/
theorem linkAnswering_orderly {peer : Peer σ κ ρ} (honest : peer.Honest held)
    {respond : κ → Action σ (Option ρ)}
    (answers : ∀ request, Action.Orderly held terms (respond request)) :
    (peer.linkAnswering respond).Orderly held terms where
  attach listener := (peer (.attach listener)).run_orderly answers (honest _)
  detach := by
    refine .bind (fun system => ?_) fun _ => ?_
    · exact .of_aside rfl (.detach system.bare)
    · exact .bind ((peer .detach).run_orderly answers (honest _)) fun _ => .pure ()
  submit command system := by
    have forestalled := (peer .pause).run_orderly answers (honest _)
      (system.record (.submitting command))
    refine (forestalled.trans ?_).trans ((peer (.submit command)).run_orderly answers (honest _) _)
    exact .of_aside rfl (.reach _ command)
  await ready deadline := (peer .await).runUntil_orderly answers ready deadline (honest _)
  pause := .bind ((peer .pause).run_orderly answers (honest _)) fun _ => .pure ()

/-- Whatever the peer does, the core waits on a link until it is ready or the deadline has come. -/
theorem link_await (peer : Peer σ κ ρ) (method : Link σ → κ → Action σ ρ) (depth : Nat)
    (ready : Core → Bool) (deadline : Nat) (system : System σ) :
    ready (((peer.link method depth).await ready deadline).run system).2.core = true ∨
      deadline ≤ (((peer.link method depth).await ready deadline).run system).2.clock := by
  cases depth with
  | zero => exact Reaction.runUntil_ready_or_late _ ready deadline _ system
  | succ depth => exact Reaction.runUntil_ready_or_late _ ready deadline _ system

/-- The link to a peer is orderly at every depth when every method is orderly on an orderly
link. -/
theorem link_orderly {peer : Peer σ κ ρ} (honest : peer.Honest held)
    {method : Link σ → κ → Action σ ρ}
    (methods : ∀ link : Link σ, link.Orderly held terms →
      ∀ request, Action.Orderly held terms (method link request)) (depth : Nat) :
    (peer.link method depth).Orderly held terms := by
  induction depth with
  | zero => exact linkAnswering_orderly honest fun _ => .pure none
  | succ depth ih =>
    exact linkAnswering_orderly honest fun request => (methods _ ih request).map some

end Peer

end Tuner
