import Tuner.Control.Call
import Tuner.Proofs.Session

/-!
# Callers that hold sessions are orderly

A caller of a bare controller may claim a session, keep it over several calls, run commands in it
and give it back when it likes, from the outside or from inside a reaction. It cannot use a session
that is at work already. Under this one rule all its calls are orderly, with commands of every kind,
so what is proved of orderly runs holds for every use of a controller and not just for that of a
radio.
-/
namespace Tuner

namespace Controller

variable {σ : Type} {controller : Controller σ} {token : Token σ}

/-- The terms on which a caller uses the core: it may submit anything without waiting. -/
def terms (timeout : Nat) : Terms where
  timeout := timeout
  unawaited _ _ := True

/-- A call is carried out with what is held, and what is held then is noted. -/
theorem serve_run (call : Call) (system : System σ) :
    (controller.serve token call).run system =
      if call.usesHeld then
        let (answer, after) := (controller.answer (token.held system.peer) call).run
          (system.withPeer (token.note false))
        (answer, after.withPeer (token.note (token.held system.peer)))
      else
        let (answer, after) := (controller.answer (token.held system.peer) call).run system
        (answer, after.withPeer fun own =>
          token.note (call.holdsAfter (token.held own) answer) own) := by
  unfold serve
  cases call.usesHeld <;> rfl

/-- A call that uses the held session does nothing when there is none. -/
theorem answer_unheld {call : Call} (uses : call.usesHeld = true) (system : System σ) :
    ((controller.answer false call).run system).2 = system := by
  cases call with
  | heldExecute | heldTune | heldState => rfl
  | heldSweep band minSignal method cancelled => cases band <;> rfl
  | _ => contradiction

/-- A call that uses the held session is owned by it. -/
theorem answer_owned (link : controller.link.Orderly token.held (terms controller.timeout))
    {call : Call} (uses : call.usesHeld = true) :
    Action.Owned token.held (terms controller.timeout) (fun _ => True)
      (controller.answer true call) := by
  cases call with
  | heldExecute command => exact (execute_owned link rfl command).map _
  | heldTune frequency =>
    have tuned : (some <$> controller.tune frequency : Attempt σ (Option Event)).Owned token.held
        (terms controller.timeout) :=
      .bind (tune_owned link rfl frequency) fun _ => .pure _
    exact tuned.map _
  | heldState => exact .bind Action.Orderly.core.owned fun _ _ => .pure trivial
  | heldSweep band minSignal method cancelled =>
    cases band with
    | ok band => exact ((Sweep.run_owned link rfl _ (.pure cancelled)).map _).map _
    | error cause => exact .pure trivial
  | _ => contradiction

/-- A call that neither uses nor passes on a session is orderly. -/
theorem answer_orderly (link : controller.link.Orderly token.held (terms controller.timeout))
    {call : Call} (uses : call.usesHeld = false) (keeps : call ≠ .hold) (leaves : call ≠ .letGo)
    (held : Bool) :
    Action.Orderly token.held (terms controller.timeout) (controller.answer held call) := by
  cases call with
  | attach => exact (attach_orderly link).action.map _
  | detach => exact .bind (detach_orderly link) fun _ => .pure _
  | isAttached => exact .bind .core fun _ => .pure _
  | timeout => exact .pure _
  | band => exact .bind .core fun _ => .pure _
  | setBand band =>
    cases band with
    | ok band => exact .bind (.setBand band) fun _ => .pure _
    | error cause => exact .pure _
  | hold => contradiction
  | letGo => contradiction
  | execute command =>
    exact (session_orderly (execute_owned link rfl command) rfl).action.map _
  | tune frequency =>
    have tuned : (some <$> controller.tune frequency : Attempt σ (Option Event)).Owned token.held
        (terms controller.timeout) :=
      .bind (tune_owned link rfl frequency) fun _ => .pure _
    exact (session_orderly tuned rfl).action.map _
  | submitUnawaited command =>
    exact Action.Orderly.map (fun system => submitUnawaited_orderly link trivial) _
  | drain => exact .bind .drain fun _ => .pure _
  | heldExecute | heldTune | heldState | heldSweep => contradiction

/-- Whether a session is held changes only when one is claimed or given back. -/
theorem holdsAfter_eq {call : Call} (keeps : call ≠ .hold) (leaves : call ≠ .letGo) (held : Bool)
    (answer : Answer) : call.holdsAfter held answer = held := by
  cases call <;> first | contradiction | rfl

/-- Claiming a session to hold it is orderly. -/
theorem hold_orderly (system : System σ) :
    System.Orderly token.held (terms controller.timeout) system
      ((controller.serve token .hold).run system).2 := by
  have claimed := controller.claim_run system
  have noted : ((controller.serve token .hold).run system).2 =
      ((controller.claim.run.run system).2).withPeer fun own =>
        token.note (Call.holdsAfter (token.held own) .hold
          (.done (controller.claim.run.run system).1)) own := rfl
  rw [noted, claimed]
  cases outcome : system.core.claim system.clock controller.timeout with
  | error fault => exact .withPeer system fun own => token.held_note _ own
  | ok core =>
    obtain ⟨free, _, rfl⟩ := Core.claim_eq_ok outcome
    refine ⟨fun rest => ?_, fun engaged => ?_⟩
    · refine ⟨⟨(token.held_note true _).symm, rest.idle⟩, ?_⟩
      exact .single (.claim system.bare _ outcome)
    · have taken := engaged.busy
      rw [free] at taken
      contradiction

/-- Giving a held session back is orderly. -/
theorem letGo_orderly (system : System σ) :
    System.Orderly token.held (terms controller.timeout) system
      ((controller.serve token .letGo).run system).2 := by
  rw [serve_run]
  cases holding : token.held system.peer with
  | false =>
    -- There is no session to give back, and none is noted.
    have same : token.held (token.note false system.peer) = token.held system.peer := by
      rw [token.held_note, holding]
    exact .of_asides same .refl
  | true =>
    refine ⟨fun rest => ?_, fun engaged => ?_⟩
    · refine ⟨⟨(token.held_note false _).symm, rfl⟩, ?_⟩
      exact .single (.release system.bare (rest.busy.trans holding) rest.idle)
    · have unheld := engaged.unheld
      rw [holding] at unheld
      contradiction

/-- Using a held session is orderly, and so is trying to where there is none. -/
theorem held_orderly (link : controller.link.Orderly token.held (terms controller.timeout))
    {call : Call} (uses : call.usesHeld = true) (system : System σ) :
    System.Orderly token.held (terms controller.timeout) system
      ((controller.serve token call).run system).2 := by
  rw [serve_run, if_pos uses]
  cases holding : token.held system.peer with
  | false =>
    have nothing : ((controller.answer false call).run
        (system.withPeer (token.note false))).2 = system.withPeer (token.note false) :=
      answer_unheld uses _
    generalize (controller.answer false call).run (system.withPeer (token.note false)) =
      outcome at nothing ⊢
    obtain ⟨answer, after⟩ := outcome
    subst nothing
    have same : token.held (token.note false (token.note false system.peer)) =
        token.held system.peer := by
      rw [token.held_note, holding]
    exact .of_asides same .refl
  | true =>
    refine ⟨fun rest => ?_, fun engaged => ?_⟩
    · have owned := answer_owned link uses (system.withPeer (token.note false))
        ⟨⟨rest.busy.trans holding, token.held_note false _⟩, rest.idle⟩
      generalize (controller.answer true call).run (system.withPeer (token.note false)) =
        outcome at owned ⊢
      obtain ⟨answer, after⟩ := outcome
      obtain ⟨ended, taken, _⟩ := owned
      exact ⟨⟨ended.busy.trans (token.held_note true _).symm, ended.idle⟩, taken⟩
    · have unheld := engaged.unheld
      rw [holding] at unheld
      contradiction

/-- Every call of someone who may hold a session is orderly on an orderly link. -/
theorem serve_orderly (link : controller.link.Orderly token.held (terms controller.timeout))
    (call : Call) :
    Action.Orderly token.held (terms controller.timeout) (controller.serve token call) := by
  intro system
  cases uses : call.usesHeld with
  | true => exact held_orderly link uses system
  | false =>
    by_cases keeps : call = .hold
    · exact keeps ▸ hold_orderly system
    · by_cases leaves : call = .letGo
      · exact leaves ▸ letGo_orderly system
      · have carried := answer_orderly link uses keeps leaves (token.held system.peer) system
        rw [serve_run, if_neg (by rw [uses]; exact Bool.false_ne_true)]
        generalize (controller.answer (token.held system.peer) call).run system =
          outcome at carried ⊢
        obtain ⟨answer, after⟩ := outcome
        have noted : System.Orderly token.held (terms controller.timeout) after
            (after.withPeer fun own => token.note (call.holdsAfter (token.held own) answer) own) :=
          .withPeer after fun own => by rw [token.held_note, holdsAfter_eq keeps leaves]
        exact carried.trans noted

end Controller

end Tuner
