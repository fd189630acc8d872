import Tuner.Proofs.Hygiene
import Tuner.Proofs.Loss

/-!
# What attaching comes to

A link answers an attachment with a code, and tells its listener whether it is attached; the two
are independent of each other, and calls back may release and attach it again in between. Whether
it is attached is what the listener in force said last. Where the link accepted, the core waits for
that, so attaching succeeds if and only if the link is attached in the end. Where the link refused,
the core does not look: it fails, and a listener that was told before that the link is attached is
left in force.

Main statement: `Controller.attach_outcome`.
-/
namespace Tuner

/-! ## What was said of the link -/

/-- Whether the link is attached in an entry of the history, given the epochs of the listeners: the
listener that may speak says so. -/
def Moment.attaches (listeners : List Nat) (moment : Moment) : Bool :=
  match moment.occurrence with
  | .hearing listener .attached => listeners[listener]? == some moment.core.epoch
  | _ => false

/-- Whether the link is attached after what was recorded, newest first: it was, and was not lost
since. -/
def linkedBy (listeners : List Nat) : List Moment → Bool
  | [] => false
  | moment :: earlier =>
    moment.attaches listeners || (!moment.losesLink listeners && linkedBy listeners earlier)

section Listeners

variable {listeners newer : List Nat}

/-- Listeners that are handed out later do not attach the link earlier. -/
theorem Moment.attaches_append {moment : Moment}
    (later : ∀ epoch ∈ newer, moment.core.epoch < epoch) :
    moment.attaches (listeners ++ newer) = moment.attaches listeners := by
  unfold attaches
  split
  next listener _ => exact speaks_append later listener
  · rfl

/-- Listeners that are handed out later make no difference to what was said of the link. -/
theorem linkedBy_append {history : List Moment}
    (later : ∀ moment ∈ history, ∀ epoch ∈ newer, moment.core.epoch < epoch) :
    linkedBy (listeners ++ newer) history = linkedBy listeners history := by
  induction history with
  | nil => rfl
  | cons moment earlier ih =>
    obtain ⟨first, before⟩ := List.forall_mem_cons.1 later
    rw [linkedBy, linkedBy, Moment.attaches_append first, Moment.losesLink_append first, ih before]

end Listeners

namespace System

variable {terms : Terms} {system system' : System Unit}

/-- A step that anyone may take attaches the link, loses it, or leaves it as it was. -/
theorem Aside.attached_eq {unawaited : List Moment → Command → Prop}
    (taken : Aside unawaited system system') {moment : Moment}
    (recorded : system'.history = moment :: system.history) :
    system'.core.state.attached = (moment.attaches system'.listeners ||
      (!moment.losesLink system'.listeners && system.core.state.attached)) := by
  cases taken with
  | hear listener notification =>
    obtain rfl := (List.cons.inj recorded).1
    unfold deliver become
    dsimp only [record]
    cases stamped : system.listeners[listener]? with
    | none => cases notification <;> simp [Moment.attaches, Moment.losesLink, stamped]
    | some epoch =>
      by_cases current : system.core.epoch = epoch
      · cases notification with
        | attached => simp [Core.notify, Moment.attaches, stamped, current]
        | detached => simp [Core.notify, Core.detached, Moment.attaches, Moment.losesLink, stamped,
            current]
        | event event => simp [Core.notify, Core.hear_attached, Moment.attaches, Moment.losesLink,
            current]
      · have other : ¬epoch = system.core.epoch := fun same => current same.symm
        dsimp only
        rw [Core.notify_of_stale current]
        cases notification <;> simp [Moment.attaches, Moment.losesLink, stamped, other]
  | drain =>
    obtain rfl := (List.cons.inj recorded).1
    exact system.core.state.takeUpdate_attached
  | pass | attach | detach | forget | submit | reach | stop | setBand =>
    obtain rfl := (List.cons.inj recorded).1
    rfl

/-- The link is attached if what was said of it says so, and every step keeps that so. -/
theorem Step.linked (taken : Step terms system system') (dated : system.Dated)
    (linked : system.core.state.attached = linkedBy system.listeners system.history) :
    system'.core.state.attached = linkedBy system'.listeners system'.history := by
  have kept : system'.core.state.attached = system.core.state.attached →
      system'.listeners = system.listeners →
      linkedBy system.listeners system'.history = linkedBy system.listeners system.history →
      system'.core.state.attached = linkedBy system'.listeners system'.history := by
    intro attached listeners unsaid
    rw [attached, listeners, unsaid, linked]
  cases taken with
  | aside taken =>
    obtain ⟨moment, newer, _, recorded, listeners, _, begun, _⟩ := taken.entry
    have past : ∀ earlier ∈ system.history, ∀ epoch ∈ newer, earlier.core.epoch < epoch := by
      intro earlier member epoch new
      have bound := dated.past (List.mem_cons_of_mem _ (List.mem_map_of_mem member))
      have ahead := (begun epoch new).1
      omega
    rw [taken.attached_eq recorded, recorded, linkedBy, linked]
    rw [listeners, linkedBy_append past]
  | claim core claimed =>
    obtain ⟨_, _, rfl⟩ := Core.claim_eq_ok claimed
    exact kept rfl rfl rfl
  | install command expected generation core busy installed =>
    obtain ⟨state, _⟩ := Core.install_known installed
    exact kept (congrArg RadioState.attached state) rfl rfl
  | settle waiter expected busy waiting =>
    exact kept (congrArg RadioState.attached (Core.settle_known _ _ _ _ _).1) rfl rfl
  | release | sweep | seek | refuse => exact kept rfl rfl rfl

/-- In every run, the link is attached exactly if what was said of it says so. -/
theorem Steps.linked {band : Band} (taken : Steps terms (.fresh band) system) :
    system.core.state.attached = linkedBy system.listeners system.history := by
  induction taken with
  | refl => rfl
  | tail before step linked => exact step.linked (Steps.dated before) linked

end System

namespace Controller

variable {σ : Type} {held : σ → Bool} {terms : Terms} {controller : Controller σ}
  {system reached ended : System σ} {code : Acceptance} {band : Band}

/-- An attachment that the link refused fails with its code, whatever it told before. -/
theorem attach_of_refused (unattached : system.core.state.attached = false)
    (answered : (controller.link.attach system.newListener.1).run system.newListener.2 =
      (code, reached)) (refused : code.isOk = false) :
    controller.attach.run.run system = (.error (.rejected code), reached) := by
  rw [attach_run, unattached]
  simp [answered, refused]

/-- One that it accepted is waited for, and succeeds if the link is attached then. -/
theorem attach_of_accepted (unattached : system.core.state.attached = false)
    (answered : (controller.link.attach system.newListener.1).run system.newListener.2 =
      (code, reached)) (accepted : code.isOk = true)
    (waited : ((controller.link.await (fun core => core.state.attached)
      (reached.clock + controller.timeout)).run reached).2 = ended) :
    controller.attach.run.run system =
      (if ended.core.state.attached then .ok () else .error (.timeout controller.timeout),
        ended) := by
  rw [attach_run, unattached]
  simp [answered, accepted, waited]

/-- What is left of an attachment was reached in steps, whether it was made at rest or called back
from an operation. -/
theorem attach_steps (used : InUse held terms controller)
    (taken : System.Steps terms (.fresh band) system.bare)
    (callable : System.AtRest held system ∨ System.Engaged held system) :
    System.Steps terms (.fresh band) (controller.attach.run.run system).2.bare := by
  have orderly := (attach_orderly used.link_orderly).action system
  rcases callable with rest | engaged
  · exact taken.trans (orderly.quiet rest).2
  · exact taken.trans (orderly.engaged engaged).2.steps

end Controller

/-- Attaching succeeds if and only if the link is attached in the end, unless it refused. Let a
controller in use attach a link that is not attached, at rest or called back from an operation that
is under way; to attach the link of its controller is how a radio is opened. Whatever the link
answers, tells and calls in return: where it refuses, the answer is that with its code, and where it
accepts, the link is attached in the end, or else the deadline has come and the answer says so. The
link is attached in the end if its listener in force said so and it was not lost since, and where it
is not, nothing is known of a receiver. So the answer and the state only disagree where the link
refused and had said that it is attached: then the answer is a refusal, and the link stays attached.
-/
theorem Controller.attach_outcome {σ : Type} {held : σ → Bool} {terms : Terms}
    {controller : Controller σ} (used : InUse held terms controller) {system : System σ}
    {band : Band} (taken : System.Steps terms (.fresh band) system.bare)
    (callable : System.AtRest held system ∨ System.Engaged held system)
    (unattached : system.core.state.attached = false) :
    let asked := (controller.link.attach system.newListener.1).run system.newListener.2
    let outcome := controller.attach.run.run system
    let ended := outcome.2
    (asked.1.isOk = false → outcome = (.error (.rejected asked.1), asked.2)) ∧
    (asked.1.isOk = true →
      (outcome.1 = .ok () ∧ ended.core.state.attached = true) ∨
      (outcome.1 = .error (.timeout controller.timeout) ∧ ended.core.state.attached = false ∧
        asked.2.clock + controller.timeout ≤ ended.clock)) ∧
    ended.core.state.attached = linkedBy ended.listeners ended.history ∧
    (ended.core.state.attached = false → ended.core.Blank) ∧
    ((outcome.1 = .ok () ↔ ended.core.state.attached = true) ↔
      ¬(asked.1.isOk = false ∧ asked.2.core.state.attached = true)) := by
  intro asked outcome ended
  have steps := attach_steps used taken callable
  have clean : ended.core.Clean := (System.Steps.clean steps).1 _ List.mem_cons_self
  have linked : ended.core.state.attached = linkedBy ended.listeners ended.history :=
    System.Steps.linked steps
  rcases answered : (controller.link.attach system.newListener.1).run system.newListener.2 with
    ⟨code, reached⟩
  have same : asked = (code, reached) := answered
  rw [same]
  dsimp only
  cases accepted : code.isOk with
  | false =>
    have refused : outcome = (.error (.rejected code), reached) :=
      attach_of_refused unattached answered accepted
    have left : ended = reached := congrArg Prod.snd refused
    refine ⟨fun _ => refused, nofun, linked, clean, ?_⟩
    simp [refused, left]
  | true =>
    have waited := attach_of_accepted unattached answered accepted rfl
    have left : ended = ((controller.link.await (fun core => core.state.attached)
        (reached.clock + controller.timeout)).run reached).2 := congrArg Prod.snd waited
    have result : outcome.1 = if ended.core.state.attached then .ok ()
        else .error (.timeout controller.timeout) := by
      rw [left]
      exact congrArg Prod.fst waited
    have readyOrLate : ended.core.state.attached = true ∨
        reached.clock + controller.timeout ≤ ended.clock := by
      rw [left]
      exact used.await_ready_or_late (fun core => core.state.attached) _ reached
    refine ⟨nofun, fun _ => ?_, linked, clean, ?_⟩
    · cases attached : ended.core.state.attached with
      | true => exact .inl ⟨by simp [result, attached], rfl⟩
      | false =>
        rw [attached] at readyOrLate
        exact .inr ⟨by simp [result, attached], rfl, readyOrLate.resolve_left nofun⟩
    · rw [result]
      cases ended.core.state.attached <;> simp

/-- A link that says that it is attached and went away, says again that it is attached, and only
then accepts. -/
def Peer.flickering : Peer Unit Radio.Call Radio.Answer
  | .attach listener =>
    .notify listener .attached (.notify listener .detached (.notify listener .attached
      (.finish .ok)))
  | .submit _ | .detach | .await | .pause => .finish .ok

/-- What it says last is void, so the radio is not opened, and nothing is known of a receiver. -/
theorem Controller.attach_outcome_flickering :
    let controller := (Radio.ofPeer {} .flickering 0).controller
    let outcome := controller.attach.run.run (.fresh (Settings.band {}))
    outcome.1 = .error (.timeout 5000) ∧ outcome.2.core.state.attached = false ∧
      5000 ≤ outcome.2.clock ∧ outcome.2.core.Blank := by
  intro controller outcome
  have used : InUse nobody (Radio.terms {}) controller := .radio {} .flickering 0
  have taken : System.Steps (Radio.terms {}) (.fresh (Settings.band {}))
      (System.fresh (Settings.band {})).bare := .refl
  have unattached : outcome.2.core.state.attached = false := by decide +kernel
  obtain ⟨_, awaited, _, blank, _⟩ :=
    Controller.attach_outcome used taken (.inl ⟨rfl, rfl⟩) rfl
  rcases awaited (by decide +kernel) with ⟨_, attached⟩ | ⟨late, _, deadline⟩
  · rw [unattached] at attached
    contradiction
  · exact ⟨late, unattached, deadline, blank unattached⟩

/-- A link that says that it is attached and then refuses. -/
def Peer.contrary : Peer Unit Radio.Call Radio.Answer
  | .attach listener => .notify listener .attached (.finish .fail)
  | .submit _ | .detach | .await | .pause => .finish .ok

/-- A radio may fail to open and be open all the same. -/
theorem Radio.open_though_refused :
    let radio := Radio.ofPeer {} .contrary 0
    let system := System.fresh (Settings.band {})
    Radio.start {} () = .ok system ∧ system.core.state.attached = false ∧
      (radio.attach.run.run system).1 = .error (.rejected .fail) ∧
      (radio.after .attach system).core.state.attached = true ∧
      ¬((radio.attach.run.run system).1 = .ok () ↔
        (radio.after .attach system).core.state.attached = true) := by
  intro radio system
  have refused : (radio.attach.run.run system).1 = .error (.rejected .fail) := by decide +kernel
  have attached : (radio.after .attach system).core.state.attached = true := by decide +kernel
  refine ⟨rfl, rfl, refused, attached, ?_⟩
  rw [refused, attached]
  simp

end Tuner
