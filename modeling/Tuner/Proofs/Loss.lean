import Mathlib.Data.List.Basic
import Tuner.Proofs.Listeners

/-!
# The loss of the link prevails

A command that the link accepted is waited for from its installation until it is ended, and the
link may be lost and attached again in between, any number of times and in any order with events.
The command ends with the loss of the link if and only if the link was lost in that time. An answer
that came before is replaced by the loss, since losing the link writes the reply in any case. No
event replaces the loss, since the submission was struck with all others and no event is credited
to it any more.

The second half is the invariant here: whoever was told that the link is lost is owed nothing. It
needs no other, so the law holds in every core in which a command can be installed at all.
-/
namespace Tuner

/-- Whether the link is lost in an entry of the history, given the epochs of the listeners: what it
said is forgotten, or the listener that may speak says that it went away. -/
def Moment.losesLink (listeners : List Nat) (moment : Moment) : Bool :=
  match moment.occurrence with
  | .forgetting => true
  | .hearing listener .detached => listeners[listener]? == some moment.core.epoch
  | _ => false

/-- Listeners that are handed out later have later epochs, so they do not speak in an earlier one.
-/
theorem speaks_append {listeners newer : List Nat} {epoch : Nat}
    (later : ∀ epoch' ∈ newer, epoch < epoch') (listener : Nat) :
    ((listeners ++ newer)[listener]? == some epoch) = (listeners[listener]? == some epoch) := by
  by_cases known : listener < listeners.length
  · rw [List.getElem?_append_left known]
  · have absent : listeners[listener]? = none := List.getElem?_eq_none (by omega)
    have other : newer[listener - listeners.length]? ≠ some epoch := by
      intro found
      exact absurd (later _ (List.mem_of_getElem? found)) (Nat.lt_irrefl _)
    rw [absent, List.getElem?_append_right (by omega)]
    simp [other]

/-- Listeners that are handed out later make no difference to when the link was lost. -/
theorem Moment.losesLink_append {listeners newer : List Nat} {moment : Moment}
    (later : ∀ epoch ∈ newer, moment.core.epoch < epoch) :
    moment.losesLink (listeners ++ newer) = moment.losesLink listeners := by
  unfold losesLink
  split
  · rfl
  next listener _ => exact speaks_append later listener
  · rfl

namespace Core

/-- The operation that waits was told that the link is lost. -/
def Lost (core : Core) : Prop := ∃ waiter, core.waiter = some waiter ∧ waiter.reply = some .linkLost

/-- Whoever was told that the link is lost is owed nothing. -/
def Settled (core : Core) : Prop := core.Lost → core.ledger.entries = []

variable {core core' : Core}

/-- Whether the loss was told depends on the operation that waits and on nothing else. -/
theorem Lost.congr (same : core'.waiter = core.waiter) : core'.Lost ↔ core.Lost := by
  rw [Lost, Lost, same]

/-- Waking an operation with an event tells nobody of a loss. -/
theorem Lost.of_answer {generation : Nat} {event : Event}
    (lost : (core.answer generation event).Lost) : core.Lost := by
  unfold answer at lost
  split at lost
  · split at lost
    · obtain ⟨_, ⟨⟩, told⟩ := lost
      exact absurd (Option.some.inj told) nofun
    · exact lost
  · exact lost

/-- Handing over a late answer tells nobody of a loss. -/
theorem Lost.of_handOver {now : Nat} {event : Event}
    (lost : (core.handOver now event).Lost) : core.Lost := by
  unfold handOver at lost
  split at lost
  next waiter waiting =>
    split at lost
    · exact lost
    · split at lost
      · obtain ⟨_, ⟨⟩, told⟩ := lost
        exact ⟨waiter, waiting, told⟩
      · obtain ⟨_, ⟨⟩, told⟩ := lost
        exact absurd (Option.some.inj told) nofun
  next => exact lost

/-- Where nothing is owed, an event is credited to nobody and is only folded into the state. -/
theorem hear_of_nothing_owed (nothing : core.ledger.entries = []) (now : Nat) (event : Event) :
    core.hear now event =
      if core.state.attached then { core with state := core.state.apply core.band event }
      else core := by
  have unsolicited :
      core.ledger.credit event.tag event.frequency? = (.unsolicited, core.ledger) := by
    cases event.frequency? <;>
      simp [Ledger.credit, Ledger.liveExpecting?, Ledger.creditOldest, nothing]
  unfold hear
  rw [unsolicited]

/-- No event tells of a loss, and none replaces one. -/
theorem hear_lost_iff (settled : core.Settled) (now : Nat) (event : Event) :
    ((core.hear now event).Lost ↔ core.Lost) ∧ (core.hear now event).Settled := by
  have before : (core.hear now event).Lost → core.Lost := by
    intro lost
    unfold hear at lost
    split at lost
    · dsimp only at lost
      split at lost
      · exact (Lost.congr rfl).1 lost.of_answer
      · exact (Lost.congr rfl).1 lost.of_handOver
      · exact (Lost.congr rfl).1 lost
    · exact lost
  have after : core.Lost → (core.hear now event).Lost ∧
      (core.hear now event).ledger.entries = [] := by
    intro lost
    rw [hear_of_nothing_owed (settled lost)]
    split
    · exact ⟨lost, settled lost⟩
    · exact ⟨lost, settled lost⟩
  exact ⟨⟨before, fun lost => (after lost).1⟩, fun lost => (after (before lost)).2⟩

/-- Losing the link tells whoever waits, and strikes all that is owed. -/
theorem detached_lost (waiting : core.waiter ≠ none) :
    core.detached.Lost ∧ core.detached.Settled := by
  obtain ⟨waiter, present⟩ := Option.ne_none_iff_exists'.1 waiting
  refine ⟨⟨{ waiter with reply := some .linkLost }, ?_, rfl⟩, fun _ => rfl⟩
  rw [detached, present]
  rfl

/-- What a listener says tells of a loss if it is heard and says that the link went away. -/
theorem notify_lost_iff (settled : core.Settled) (waiting : core.waiter ≠ none) (epoch now : Nat)
    (notification : Notification) :
    ((core.notify epoch now notification).Lost ↔
      core.Lost ∨ (core.epoch = epoch ∧ notification = .detached)) ∧
    (core.notify epoch now notification).Settled := by
  by_cases current : core.epoch = epoch
  · unfold notify
    rw [if_pos current]
    cases notification with
    | attached => exact ⟨by simp [Lost], settled⟩
    | detached =>
      obtain ⟨lost, settled'⟩ := detached_lost waiting
      exact ⟨⟨fun _ => .inr ⟨current, rfl⟩, fun _ => lost⟩, settled'⟩
    | event event =>
      obtain ⟨same, settled'⟩ := hear_lost_iff settled now event
      exact ⟨by simpa using same, settled'⟩
  · rw [notify_of_stale current]
    exact ⟨by simp [current], settled⟩

/-- An operation that ends reports the loss of the link if it was told so, and then only. -/
theorem settle_linkLost_iff (waiting : core.waiter ≠ none) (generation : Nat)
    (expected : Option Frequency) (now timeout : Nat) :
    (core.settle generation expected now timeout).1 = .error .linkLost ↔ core.Lost := by
  have confirmed : ∀ event, confirm expected event ≠ .error .linkLost := by
    intro event
    unfold confirm
    repeat' split
    all_goals nofun
  obtain ⟨waiter, present⟩ := Option.ne_none_iff_exists'.1 waiting
  have told : core.Lost ↔ waiter.reply = some .linkLost := by
    refine ⟨fun lost => ?_, fun told => ⟨waiter, present, told⟩⟩
    obtain ⟨_, present', told⟩ := lost
    obtain rfl := Option.some.inj (present.symm.trans present')
    exact told
  rw [told]
  unfold settle
  simp only [present]
  cases waiter.reply with
  | some reply =>
    cases reply with
    | event event => simp [confirmed event]
    | linkLost => simp
  | none =>
    cases waiter.spare with
    | some event => simp [confirmed event]
    | none => simp

end Core

namespace System

variable {unawaited : List Moment → Command → Prop} {system system' : System Unit}

/-- A step that anyone may take tells the operation that waits of a loss exactly if it loses the
link. -/
theorem Aside.lost_iff (taken : Aside unawaited system system') (settled : system.core.Settled)
    (waiting : system.core.waiter ≠ none) {moment : Moment}
    (recorded : system'.history = moment :: system.history) :
    (system'.core.Lost ↔ system.core.Lost ∨ moment.losesLink system'.listeners = true) ∧
      system'.core.Settled := by
  cases taken with
  | forget =>
    obtain rfl := (List.cons.inj recorded).1
    obtain ⟨lost, settled'⟩ := Core.detached_lost waiting
    exact ⟨⟨fun _ => .inr rfl, fun _ => lost⟩, settled'⟩
  | hear listener notification =>
    obtain rfl := (List.cons.inj recorded).1
    have heard := fun epoch => Core.notify_lost_iff settled waiting epoch system.clock notification
    unfold deliver become
    dsimp only [record]
    cases stamped : system.listeners[listener]? with
    | none => cases notification <;> simpa [Moment.losesLink, stamped] using settled
    | some epoch =>
      obtain ⟨same, settled'⟩ := heard epoch
      refine ⟨same.trans (or_congr_right ?_), settled'⟩
      cases notification with
      | detached =>
        have spoken : (⟨.hearing listener .detached, system.core, system.clock⟩ :
            Moment).losesLink system.listeners = true ↔ epoch = system.core.epoch := by
          simp [Moment.losesLink, stamped]
        rw [spoken]
        simp [eq_comm]
      | attached | event => simp [Moment.losesLink]
  | pass | attach | detach | submit | reach | stop | drain | setBand =>
    obtain rfl := (List.cons.inj recorded).1
    exact ⟨(or_iff_left nofun).symm, settled⟩

/-- What became of an operation that waits, while something was recorded. -/
structure Waited (system system' : System Unit) (window : List Moment) : Prop where
  /-- What was recorded. -/
  history : system'.history = window ++ system.history
  /-- No epoch of that time is ahead of the present. -/
  past : ∀ moment ∈ window, moment.core.epoch ≤ system'.core.epoch
  /-- The operation still waits. -/
  waiting : system'.core.waiter ≠ none
  /-- An operation that was told of a loss is owed nothing. -/
  settled : system'.core.Settled
  /-- The operation was told of a loss exactly if the link was lost in that time. -/
  lost : system'.core.Lost ↔ ∃ moment ∈ window, moment.losesLink system'.listeners = true

/-- An operation that waits without a reply goes through any steps that anyone may take waiting, or
told of a loss. -/
theorem Asides.waited (taken : Asides unawaited system system')
    (waiting : system.core.waiter ≠ none) (unanswered : ¬system.core.Lost) :
    ∃ window, Waited system system' window := by
  induction taken with
  | refl =>
    refine ⟨[], rfl, fun _ absent => absurd absent List.not_mem_nil, waiting, ?_, ?_⟩
    · exact fun lost => absurd lost unanswered
    · simp [unanswered]
  | @tail middle last _ step ih =>
    obtain ⟨window, history, past, waits, settled, lost⟩ := ih
    obtain ⟨moment, newer, same, recorded, listeners, _, begun, entry⟩ := step.entry
    obtain ⟨told, settled'⟩ := step.lost_iff settled waits recorded
    have grown : middle.core.epoch ≤ last.core.epoch := same ▸ entry.grows
    have waits' : last.core.waiter ≠ none := by
      obtain ⟨waiter, present⟩ := Option.ne_none_iff_exists'.1 waits
      obtain ⟨waiter', present', _⟩ := step.undisturbed.waiting present
      simp [present']
    refine ⟨moment :: window, recorded.trans (congrArg _ history), ?_, waits', settled', ?_⟩
    · refine List.forall_mem_cons.2 ⟨entry.grows, fun earlier member => ?_⟩
      exact Nat.le_trans (past earlier member) grown
    · -- The listeners handed out in the last step lose no link in what was recorded before.
      have unchanged : ∀ earlier ∈ window,
          earlier.losesLink last.listeners = earlier.losesLink middle.listeners := by
        intro earlier member
        rw [listeners]
        refine Moment.losesLink_append fun epoch new => ?_
        exact Nat.lt_of_le_of_lt (past earlier member) (begun epoch new).1
      have window_iff : (∃ earlier ∈ window, earlier.losesLink last.listeners = true) ↔
          middle.core.Lost := by
        rw [lost]
        refine exists_congr fun earlier => and_congr_right fun member => ?_
        rw [unchanged earlier member]
      rw [told, List.exists_mem_cons_iff, window_iff, or_comm]

end System

namespace Controller

variable {σ : Type}

/-- The controllers in use, with who may hold a session and on what terms: that of a radio, and one
whose caller may hold a session. The peer may do anything, with calls nested to any depth. -/
inductive InUse : (σ → Bool) → Terms → Controller σ → Prop
  /-- The controller of a radio. -/
  | radio (settings : Settings) (peer : Peer σ Radio.Call Radio.Answer) (depth : Nat) :
      InUse nobody (Radio.terms settings) (Radio.ofPeer settings peer depth).controller
  /-- A bare one, where nobody but its caller passes a session on. -/
  | bare (timeout : Nat) (token : Token σ) {peer : Peer σ Call Answer}
      (fair : peer.Honest token.held) (depth : Nat) :
      InUse token.held (terms timeout) (ofPeer timeout token peer depth)

variable {held : σ → Bool} {terms : Terms} {controller : Controller σ} {system : System σ}

/-- The link of a controller in use is orderly. -/
theorem InUse.link_orderly (used : InUse held terms controller) :
    controller.link.Orderly held terms := by
  cases used with
  | radio settings peer depth => exact Radio.ofPeer_link settings peer depth
  | bare timeout token fair depth => exact ofPeer_link timeout fair depth

/-- A controller in use waits until the core is ready or the deadline has come. -/
theorem InUse.await_ready_or_late (used : InUse held terms controller) (ready : Core → Bool)
    (deadline : Nat) (system : System σ) :
    ready ((controller.link.await ready deadline).run system).2.core = true ∨
      deadline ≤ ((controller.link.await ready deadline).run system).2.clock := by
  cases used with
  | radio settings peer depth => exact peer.link_await _ depth ready deadline system
  | bare timeout token fair depth => exact Peer.link_await _ _ depth ready deadline system

/-- A command that the link accepted and that is waited for goes through steps that anyone may take,
from its submission until it is ended. -/
theorem run_asides (link : controller.link.Orderly held terms)
    (engaged : System.Engaged held system) {command : Command} {expected : Option Frequency}
    {generation : Nat} {core : Core} {tag : Tag}
    (installed : system.core.install command expected = .ok (generation, core))
    (awaits : command.awaited? = some tag)
    (accepted : ((controller.link.submit command).run
      (system.become (.installing command) core)).1.isOk = true) :
    ∃ submitted ended : System σ,
      ((controller.link.await Core.isSettled (system.clock + controller.timeout)).run
        submitted).2 = ended ∧
      System.Asides terms.unawaited
        ((system.become (.installing command) core).record (.submitting command)).bare
        ended.bare ∧
      (controller.run command expected).run.run system =
        (some <$> (ended.core.settle generation expected ended.clock controller.timeout).1,
          ended.become .settling
            (ended.core.settle generation expected ended.clock controller.timeout).2) := by
  obtain ⟨busy, _⟩ := Core.install_waiter installed
  have begun : System.Engaged held
      ((system.become (.installing command) core).record (.submitting command)) :=
    ⟨busy.trans engaged.busy, engaged.unheld⟩
  have submitting := link.submit command (system.become (.installing command) core)
  rcases answered : (controller.link.submit command).run (system.become (.installing command) core)
    with ⟨code, submitted⟩
  rw [answered] at submitting accepted
  have awaiting := link.await Core.isSettled (system.clock + controller.timeout) submitted
  have taken := (submitting.engaged begun).2.trans (awaiting.engaged (submitting.stays begun)).2
  exact ⟨submitted, _, rfl, taken, run_of_awaited installed answered accepted awaits rfl⟩

/-- A command that the link accepted and that is waited for goes through steps in which its
operation waits, or was told that the link is lost. -/
theorem run_waited (link : controller.link.Orderly held terms)
    (engaged : System.Engaged held system) {command : Command} {expected : Option Frequency}
    {generation : Nat} {core : Core} {tag : Tag}
    (installed : system.core.install command expected = .ok (generation, core))
    (awaits : command.awaited? = some tag)
    (accepted : ((controller.link.submit command).run
      (system.become (.installing command) core)).1.isOk = true) :
    ∃ ended : System σ, ∃ window,
      System.Waited ((system.become (.installing command) core).record (.submitting command)).bare
        ended.bare window ∧
      (controller.run command expected).run.run system =
        (some <$> (ended.core.settle generation expected ended.clock controller.timeout).1,
          ended.become .settling
            (ended.core.settle generation expected ended.clock controller.timeout).2) := by
  obtain ⟨_, ended, _, taken, run⟩ := run_asides link engaged installed awaits accepted
  obtain ⟨_, waits⟩ := Core.install_waiter installed
  rw [awaits, Option.map_some] at waits
  have unanswered : ¬core.Lost := by
    rintro ⟨waiter, waiting, told⟩
    obtain rfl := Option.some.inj (waits.symm.trans waiting)
    contradiction
  obtain ⟨window, waited⟩ := System.Asides.waited taken (by simp [System.bare, System.record,
    System.become, waits]) unanswered
  exact ⟨ended, window, waited, run⟩

end Controller

/-- The loss of the link prevails. In every core, on every link and at every depth: a command that
was installed in a session, accepted by the link and waited for ends with the loss of the link if
and only if the link was lost between its submission and its end, by the word of the listener that
may speak or because what the link said was forgotten. What happened before or after that, and
whether the link was attached again, makes no difference. -/
theorem Controller.run_linkLost_iff {σ : Type} {held : σ → Bool} {terms : Terms}
    {controller : Controller σ} (used : InUse held terms controller) {system : System σ}
    (engaged : System.Engaged held system) {command : Command} {expected : Option Frequency}
    {generation : Nat} {core : Core} {tag : Tag}
    (installed : system.core.install command expected = .ok (generation, core))
    (awaits : command.awaited? = some tag)
    (accepted : ((controller.link.submit command).run
      (system.become (.installing command) core)).1.isOk = true) :
    ∃ settling submitting installing window,
      settling.occurrence = .settling ∧ submitting.occurrence = .submitting command ∧
      installing.occurrence = .installing command ∧
      ((controller.run command expected).run.run system).2.history =
        settling :: (window ++ submitting :: installing :: system.history) ∧
      (((controller.run command expected).run.run system).1 = .error .linkLost ↔
        ∃ moment ∈ window, moment.losesLink
          ((controller.run command expected).run.run system).2.listeners = true) := by
  obtain ⟨ended, window, waited, run⟩ := run_waited used.link_orderly engaged installed awaits
    accepted
  rw [run]
  refine ⟨⟨.settling, ended.core, ended.clock⟩, ⟨.submitting command, core, system.clock⟩,
    ⟨.installing command, system.core, system.clock⟩, window, rfl, rfl, rfl,
    congrArg (List.cons _) waited.history, ?_⟩
  have told := Core.settle_linkLost_iff waited.waiting generation expected ended.clock
    controller.timeout
  refine Iff.trans ?_ (told.trans waited.lost)
  change some <$> (ended.core.settle _ _ _ _).1 = _ ↔ (ended.core.settle _ _ _ _).1 = _
  cases (ended.core.settle generation expected ended.clock controller.timeout).1 with
  | error fault => simp [Functor.map, Except.map]
  | ok event => simp [Functor.map, Except.map]

/-- A peer that is attached at once. Whatever it is sent, it answers, goes away, is attached again
by calling back, and answers once more. -/
def Peer.fickle (event : Event) : Peer Unit Radio.Call Radio.Answer
  | .attach listener => .notify listener .attached (.finish .ok)
  | .submit _ =>
    .notify 0 (.event event) (.notify 0 .detached (.call .attach fun _ =>
      .notify 1 (.event event) (.finish .ok)))
  | .detach | .await | .pause => .finish .ok

/-- A radio over a fickle peer, with calls nested once. -/
def Radio.overFickle : Radio Unit := Radio.ofPeer {} (.fickle (.plainStatus ⟨9870⟩ true false)) 1

/-- What is left when that radio was attached and then claimed the slot. -/
def Radio.claimed : System Unit :=
  (overFickle.controller.claim.run.run
    (overFickle.played (.call .attach fun _ => .finish .ok)
      { core := { band := Settings.band {} }, peer := () })).2

/-- When such a radio is turned on, the link is lost in the meantime and the command ends with that
loss, with the link attached again and the radio reported on. -/
theorem Controller.run_linkLost_iff_fickle :
    let outcome := (Radio.overFickle.controller.run (.turnOn .powerUp) none).run.run Radio.claimed
    (∃ moment ∈ outcome.2.history, moment.losesLink outcome.2.listeners = true) ∧
      outcome.1 = .error .linkLost ∧
      outcome.2.core.state.attached = true ∧ outcome.2.core.state.radioOn = true := by
  intro outcome
  have engaged : System.Engaged nobody Radio.claimed := ⟨rfl, rfl⟩
  have installed : Radio.claimed.core.install (.turnOn .powerUp) none =
      .ok (1, ((Radio.claimed.core.install (.turnOn .powerUp) none).toOption.get rfl).2) := rfl
  obtain ⟨_, _, _, window, _, _, _, history, lost⟩ :=
    Controller.run_linkLost_iff (.radio {} (.fickle (.plainStatus ⟨9870⟩ true false)) 1) engaged
      installed rfl (by decide +kernel)
  have reported : outcome.1 = .error .linkLost := rfl
  obtain ⟨moment, member, loses⟩ := lost.1 reported
  refine ⟨⟨moment, ?_, loses⟩, reported, by decide +kernel, by decide +kernel⟩
  rw [show outcome.2.history = _ from history]
  exact List.mem_cons_of_mem _ (List.mem_append_left _ member)

end Tuner
