import Tuner.Proofs.Exchange
import Tuner.Proofs.Upkeep

/-!
# Radios stay in step with their receivers

Every operation of a radio leaves the core in step with the simulated receiver that the radio has
to itself, and none of them ends because its confirmation was missed. Commands are exchanged one
after another in a session. Attaching hands out a listener of a new epoch, which puts everything
that is on its way out of date, and waits for the one notification that is not. Closing puts
everything out of date as well.

Main statement: `Radio.answer_keeps`, about every call on a radio.
-/
namespace Tuner

/-- An attempt that keeps something of a system and does not miss its confirmation. -/
def Attempt.Keeps {σ α : Type} (kept : System σ → Prop) (attempt : Attempt σ α) : Prop :=
  attempt.Upholds kept fun fault => fault.isMiss = false

/-! ## While the core waits -/

/-- Something of a system that outlasts time and the deliveries of a receiver. -/
structure System.OutlastsDelivery (kept : System Receiver → Prop) : Prop where
  /-- Time may pass. -/
  pass : ∀ system ms, kept system → kept (system.pass ms)
  /-- The next envelope may be delivered. -/
  receive : ∀ system envelope rest, system.peer.courier.queue = envelope :: rest →
    kept system → kept (system.receive envelope)

/-- What neither the other end nor time undoes outlasts deliveries. -/
theorem System.Outlasts.delivery {kept : System Receiver → Prop} (outlasts : Outlasts kept) :
    OutlastsDelivery kept where
  pass := outlasts.pass
  receive system envelope rest next keeping := by
    have waited := outlasts.peer _ (fun receiver =>
      { receiver with courier := receiver.courier.advance })
        (outlasts.pass system (envelope.due - system.clock) keeping)
    unfold System.receive
    dsimp only
    split
    · exact outlasts.hear _ _ _ waited
    · exact waited

/-- What neither the other end nor time undoes lasts while a core waits for a receiver, however
long. -/
theorem Link.ToReceiver.await_keeps {link : Link Receiver} (receiver : link.ToReceiver)
    {kept : System Receiver → Prop} (outlasts : System.OutlastsDelivery kept)
    (ready : Core → Bool) (deadline : Nat) :
    Action.Keeps kept (fun _ => True) (link.await ready deadline) := by
  obtain ⟨_, _, respond, rfl⟩ := receiver
  intro system keeping
  change kept (((Receiver.deliverAll system.peer.courier.queue (.finish .ok)).runUntil respond
    ready deadline).run system).2 ∧ True
  have idles : ∀ system : System Receiver, kept system →
      kept ((Action.passUntil deadline).run system).2 := fun _ => outlasts.pass _ _
  generalize next : system.peer.courier.queue = envelopes
  -- The induction is on what is still on its way: every delivery takes the first of it.
  induction envelopes generalizing system with
  | nil =>
    refine ⟨?_, trivial⟩
    change kept ((if ready system.core then pure () else Action.passUntil deadline :
      Action Receiver Unit).run system).2
    split
    · exact keeping
    · exact idles system keeping
  | cons envelope envelopes ih =>
    change kept (((Receiver.deliver envelope (Receiver.deliverAll envelopes
      (.finish .ok))).runUntil respond ready deadline).run system).2 ∧ True
    rw [Receiver.runUntil_deliver]
    split
    · exact ⟨keeping, trivial⟩
    · split
      · exact ⟨idles system keeping, trivial⟩
      · have left : (system.receive envelope).peer.courier.queue = envelopes := by
          rw [System.receive_peer]
          exact congrArg List.tail next
        exact ih _ (outlasts.receive system envelope envelopes next keeping) left

/-! ## Sessions in step -/

/-- Core and receiver are in step while a session is under way in a band. -/
def System.InSession (timeout : Nat) (aired : List Station) (band : Band)
    (system : System Receiver) : Prop :=
  system.InStep timeout aired true ∧ system.core.band = band

/-- When a session claims the slot, core and receiver stay in step. -/
theorem System.InStep.claimed {aired : List Station} {system : System Receiver} {core : Core}
    {timeout lifetime : Nat} (inStep : system.InStep timeout aired false)
    (claimed : system.core.claim system.clock lifetime = .ok core) :
    (system.become .claiming core).InStep timeout aired true := by
  obtain ⟨_, _, rfl⟩ := Core.claim_eq_ok claimed
  have purged : (system.core.ledger.purge system.clock (2 * lifetime)).entries = [] := by
    simp only [Ledger.purge, inStep.settled, List.filter_nil]
  exact
    { inStep with
      slot := rfl
      settled := purged }

/-- With the link attached a session can claim the slot, and all that the core knows stays. -/
theorem System.InStep.claim {aired : List Station} {system : System Receiver} {timeout : Nat}
    (inStep : system.InStep timeout aired false) (attached : system.core.state.attached = true)
    (lifetime : Nat) :
    ∃ core, system.core.claim system.clock lifetime = .ok core ∧
      core.state = system.core.state ∧ core.band = system.core.band ∧
      (system.become .claiming core).InStep timeout aired true := by
  obtain ⟨core, claimed⟩ := Core.claim_of_attached inStep.slot attached system.clock lifetime
  have begun := inStep.claimed claimed
  obtain ⟨_, _, rfl⟩ := Core.claim_eq_ok claimed
  exact ⟨_, claimed, rfl, rfl, begun⟩

/-- The system in which a command was installed and submitted. -/
def System.submitting (system : System Receiver) (command : Command) (core : Core) :
    System Receiver :=
  ((system.become (.installing command) core).sent command).withPeer
    (·.submit system.clock command)

/-- The system in which a command that nobody waits for took its number. -/
def System.numbered (system : System Receiver) (command : Command) : System Receiver :=
  system.become (.installing command)
    { system.core with ledger := system.core.ledger.nextGeneration.2 }

/-- Taking a number leaves core and receiver in step. -/
theorem System.InStep.numbered {timeout : Nat} {aired : List Station} {busy : Bool}
    {system : System Receiver} (inStep : system.InStep timeout aired busy) {command : Command} :
    (system.numbered command).InStep timeout aired busy :=
  { inStep with }

namespace Controller

variable {controller : Controller Receiver} {aired : List Station}

/-- A command that the receiver refuses fails for that. Core and receiver stay in step, and all that
is known, the chip, and what is on its way stay as they are. -/
theorem run_refused (receiver : controller.link.ToReceiver) {system : System Receiver}
    (inStep : system.InStep controller.timeout aired true) {command : Command}
    {expected : Option Frequency} {generation : Nat} {core : Core}
    (installed : system.core.install command expected = .ok (generation, core))
    (refused : (system.peer.acceptance command).isOk = false) :
    ∃ ended, (controller.run command expected).run.run system =
        (.error (.rejected (system.peer.acceptance command)), ended) ∧
      ended.InStep controller.timeout aired true ∧
      ended.core.band = system.core.band ∧ ended.peer.chip = system.peer.chip ∧
      ended.core.state = system.core.state ∧ ended.peer.courier = system.peer.courier ∧
      ended.clock = system.clock := by
  have answered : (controller.link.submit command).run
      (system.become (.installing command) core) =
    (system.peer.acceptance command, _) := receiver.submit_run command
  have forgotten := Core.refuse_installed inStep.settled installed
  have noted := Receiver.submit_refused refused system.clock
  refine ⟨_, run_of_refused installed answered refused, ?_⟩
  change System.InStep controller.timeout aired true
      { system.become (.installing command) core with
        core := core.refuse generation
        peer := system.peer.submit system.clock command
        history := _ } ∧
    (core.refuse generation).band = system.core.band ∧
    (system.peer.submit system.clock command).chip = system.peer.chip ∧
    (core.refuse generation).state = system.core.state ∧
    (system.peer.submit system.clock command).courier = system.peer.courier ∧
    system.clock = system.clock
  rw [forgotten, noted]
  exact ⟨{ inStep with settled := rfl }, rfl, rfl, rfl, rfl, rfl⟩

/-- A command that nobody waits for is over once it is submitted. -/
theorem run_silent (receiver : controller.link.ToReceiver) {system : System Receiver}
    {command : Command} {expected : Option Frequency} {generation : Nat} {core : Core}
    (installed : system.core.install command expected = .ok (generation, core))
    (accepted : (system.peer.acceptance command).isOk = true)
    (silent : command.awaited? = none) :
    (controller.run command expected).run.run system =
      (.ok none, ((system.numbered command).sent command).withPeer
        (·.submit system.clock command)) := by
  have answered : (controller.link.submit command).run
      (system.become (.installing command) core) =
    (system.peer.acceptance command, _) := receiver.submit_run command
  obtain ⟨_, _, _, same⟩ := Core.install_eq_ok installed
  rw [run_of_silent installed answered accepted silent, same, silent]
  rfl

/-- What holds once a command was submitted, and lasts while the core waits and when the command is
taken back or ended, holds after the command. -/
theorem run_lasts (receiver : controller.link.ToReceiver) {system : System Receiver}
    {command : Command} {expected : Option Frequency} {generation : Nat} {core : Core}
    (installed : system.core.install command expected = .ok (generation, core))
    {kept : System Receiver → Prop} (outlasts : System.OutlastsDelivery kept)
    (refused : ∀ system code, kept system →
      kept (system.become (.refusing code) (system.core.refuse generation)))
    (settled : ∀ system, kept system → kept (system.become .settling
      (system.core.settle generation expected system.clock controller.timeout).2))
    (submitted : kept (system.submitting command core)) :
    kept ((controller.run command expected).run.run system).2 := by
  have answered : (controller.link.submit command).run
      (system.become (.installing command) core) =
    (system.peer.acceptance command, system.submitting command core) := receiver.submit_run command
  rw [run_run, installed]
  dsimp only
  rw [answered]
  dsimp only
  split
  · split
    · exact submitted
    · exact settled _ (receiver.await_keeps outlasts _ _ _ submitted).1
  · exact refused _ _ submitted

/-- If a command ends with an event, then that was held after the core had waited. -/
theorem run_awaited (receiver : controller.link.ToReceiver) {system after : System Receiver}
    {command : Command} {expected : Option Frequency} {event : Event}
    (done : (controller.run command expected).run.run system = (.ok (some event), after)) :
    ∃ generation core awaited,
      system.core.install command expected = .ok (generation, core) ∧
      (∀ kept : System Receiver → Prop, System.OutlastsDelivery kept →
        kept (system.submitting command core) → kept awaited) ∧
      (awaited.core.settle generation expected awaited.clock controller.timeout).1 = .ok event := by
  cases installed : system.core.install command expected with
  | error fault =>
    rw [run_of_uninstalled installed] at done
    cases done
  | ok outcome =>
    obtain ⟨generation, core⟩ := outcome
    have answered : (controller.link.submit command).run
        (system.become (.installing command) core) =
      (system.peer.acceptance command, system.submitting command core) :=
      receiver.submit_run command
    rw [run_run, installed] at done
    dsimp only at done
    rw [answered] at done
    dsimp only at done
    split at done
    · split at done
      · cases done
      · refine ⟨generation, core, _, rfl, fun kept outlasts submitted =>
          (receiver.await_keeps outlasts Core.isSettled (system.clock + controller.timeout) _
            submitted).1, ?_⟩
        have same := (Prod.mk.inj done).1
        generalize Prod.fst (Core.settle _ _ _ _ _) = result at same ⊢
        cases result with
        | error fault => cases same
        | ok told =>
          cases same
          rfl
    · cases done

/-- A command keeps core and receiver in step, leaves the band as it is, and is confirmed if it is
accepted and waited for. -/
theorem run_keeps (receiver : controller.link.ToReceiver) {command : Command}
    (other : command ≠ .abortSeek) {expected : Option Frequency}
    (fits : ∀ frequency, expected = some frequency → command = .tune frequency) (band : Band) :
    (controller.run command expected).Keeps
      (System.InSession controller.timeout aired band) := by
  rintro system ⟨inStep, rfl⟩
  unfold Attempt.Ends
  cases installed : system.core.install command expected with
  | error fault =>
    have unmissed := Core.check_unmissed (Core.check_of_install_eq_error inStep.idle installed)
    rw [run_of_uninstalled installed]
    exact ⟨⟨inStep, rfl⟩, fun _ same => Except.error.inj same ▸ unmissed⟩
  | ok outcome =>
    obtain ⟨generation, core⟩ := outcome
    cases accepted : (system.peer.acceptance command).isOk with
    | false =>
      obtain ⟨ended, run, inStep', band, _⟩ := run_refused receiver inStep installed accepted
      rw [run]
      exact ⟨⟨inStep', band⟩, fun _ failed => by cases failed; rfl⟩
    | true =>
      cases awaits : command.awaited? with
      | none =>
        rw [run_silent receiver installed accepted awaits]
        exact ⟨⟨inStep.numbered.submit (.inl awaits), rfl⟩, nofun⟩
      | some tag =>
        obtain ⟨answer, rest, ended, _, run, exchanged, inStep'⟩ :=
          run_confirmed receiver inStep installed accepted (by rw [awaits]; rfl) other fits
        rw [run]
        exact ⟨⟨inStep', exchanged.band⟩, nofun⟩

/-- Submitting the end of a seek without waiting keeps core and receiver in step. -/
theorem submitUnawaited_keeps (receiver : controller.link.ToReceiver) {busy : Bool} :
    (controller.submitUnawaited .abortSeek).Keeps
      (System.InStep controller.timeout aired busy) := by
  intro system inStep
  unfold Attempt.Ends
  rw [submitUnawaited_run]
  cases checked : system.core.check .abortSeek with
  | error fault =>
    have unmissed := Core.check_unmissed checked
    exact ⟨inStep, fun _ failed => Except.error.inj failed ▸ unmissed⟩
  | ok passed =>
    rw [receiver.submit_run]
    refine ⟨inStep.submit (.inr rfl), fun fault failed => ?_⟩
    dsimp only at failed
    split at failed
    · contradiction
    · cases failed
      rfl

end Controller

/-! ## Attaching and closing -/

namespace System

variable {timeout : Nat} {aired : List Station} {system : System Receiver}

/-- Everything that is on its way is out of date in the next epoch. -/
theorem InStep.outdated {busy : Bool} (inStep : system.InStep timeout aired busy) :
    ∀ envelope ∈ system.peer.courier.queue,
      envelope.Harmless system.listeners (system.core.epoch + 1) :=
  fun envelope member => (inStep.harmless envelope member).outdated fun stamp handedOut =>
    Nat.lt_succ_of_le (inStep.stamps stamp handedOut)

/-- The notification that a listener is attached. -/
def attachedEnvelope (system : System Receiver) : Envelope where
  due := system.clock + system.peer.chip.eventLatency
  listener := system.listeners.length
  notification := .attached

/-- The system in which a new listener was handed out and attached. -/
def attaching (system : System Receiver) : System Receiver :=
  system.newListener.2.withPeer (·.attach system.clock system.listeners.length)

/-- The new listener will be told that it is attached, and nothing else that is on its way confirms
anything. -/
theorem InStep.attaching {busy : Bool} (inStep : system.InStep timeout aired busy) :
    system.attaching.Expects system.attachedEnvelope system.peer.courier.queue where
  ordered := Courier.insert_ordered inStep.ordered _
  queue := Courier.insert_perm _ _
  harmless envelope member := (inStep.outdated envelope member).later (Nat.le_refl _)

/-- The new listener is the one that may speak. -/
theorem attaching_current (system : System Receiver) :
    system.attaching.listeners[system.attachedEnvelope.listener]? =
      some system.attaching.core.epoch :=
  List.getElem?_concat_length

variable {last : System Receiver}

/-- When the new listener is told that it is attached, the link is. -/
theorem attaching_heard
    (awaits : system.attaching.Awaits system.attachedEnvelope system.peer.courier.queue last) :
    (last.receive system.attachedEnvelope).core =
      { system.core.nextEpoch with
        state := { last.core.state with attached := true } } := by
  have core : last.core = { system.core.nextEpoch with state := last.core.state } :=
    Core.eq_of_steady awaits.core
  have current : last.listeners[system.attachedEnvelope.listener]? = some last.core.epoch := by
    rw [awaits.listeners, awaits.epoch]
    exact system.attaching_current
  rw [receive_current current rfl]
  unfold Core.notify
  rw [if_pos rfl]
  change { last.core with state := { last.core.state with attached := true } } = _
  rw [core]

/-- Core and receiver are in step again when the new listener was told. -/
theorem InStep.attached_inStep {busy : Bool} (inStep : system.InStep timeout aired busy)
    (awaits : system.attaching.Awaits system.attachedEnvelope system.peer.courier.queue last) :
    (last.receive system.attachedEnvelope).InStep timeout aired busy := by
  have heard := attaching_heard awaits
  have received := inStep.attaching.received awaits
  generalize last.receive system.attachedEnvelope = ended at heard received ⊢
  have radioOn : last.core.state.radioOn = system.core.state.radioOn :=
    (congrArg (fun core => core.state.radioOn) awaits.core :)
  have chip : ended.peer.chip = system.peer.chip := (congrArg Receiver.chip received.peer :)
  have served : ended.peer.courier.listener = some system.listeners.length :=
    (congrArg (fun receiver => receiver.courier.listener) received.peer :)
  have passed : system.clock ≤ ended.clock := by
    rw [received.clock]
    exact Nat.le_add_right _ _
  exact
    { slot := by
        rw [heard]
        exact inStep.slot
      idle := by
        rw [heard]
        exact inStep.idle
      settled := by
        rw [heard]
        exact inStep.settled
      band := by
        rw [heard]
        exact inStep.band
      power := by
        rw [heard, chip]
        exact radioOn.trans inStep.power
      loud := (congrArg Receiver.silent received.peer :).trans inStep.loud
      stations := chip ▸ inStep.stations
      eventLatency := chip ▸ inStep.eventLatency
      seekLatency := chip ▸ inStep.seekLatency
      still := chip ▸ inStep.still.later passed
      attached := by
        rw [served, received.listeners, heard]
        rintro _ ⟨⟩
        exact ⟨rfl, system.attaching_current⟩
      detached := by
        rw [served]
        nofun
      stamps := by
        rw [received.listeners, heard]
        intro stamp member
        rcases List.mem_append.1 member with old | new
        · exact Nat.le_succ_of_le (inStep.stamps stamp old)
        · exact Nat.le_of_eq (List.mem_singleton.1 new)
      ordered := received.ordered
      harmless := by
        rw [received.listeners, heard]
        exact received.harmless }

/-- What is left when the receiver went away and everything it said was forgotten. -/
def gone (system : System Receiver) : System Receiver :=
  ((system.record .detaching).withPeer (·.shutDown system.clock)).become .forgetting
    system.core.detached

/-- Core and receiver are in step again, and nothing that is on its way is heard any more. -/
theorem InStep.gone {busy : Bool} (inStep : system.InStep timeout aired busy) :
    system.gone.InStep timeout aired busy := by
  have chip : system.gone.peer.chip = { system.peer.chip with seek := none }.powerOff := by
    change (system.peer.chip.supersede system.clock).2.powerOff = _
    rw [Chip.supersede_of_still inStep.still]
  have stale : Courier.Ordered (system.peer.courier.send system.clock .detached none).queue ∧
      ∀ envelope ∈ (system.peer.courier.send system.clock .detached none).queue,
        envelope.Harmless system.listeners (system.core.epoch + 1) := by
    cases served : system.peer.courier.listener with
    | none =>
      rw [Courier.send, served]
      exact ⟨inStep.ordered, inStep.outdated⟩
    | some listener =>
      rw [Courier.send_of_listener served]
      refine ⟨Courier.insert_ordered inStep.ordered _, fun envelope member => ?_⟩
      rcases List.mem_cons.1 ((Courier.insert_perm _ _).subset member) with rfl | old
      · exact ⟨_, (inStep.attached listener served).2, .inl (Nat.lt_succ_self _)⟩
      · exact inStep.outdated envelope old
  exact
    { slot := inStep.slot
      idle := congrArg (Option.map _) inStep.idle
      settled := rfl
      band := inStep.band
      power := rfl
      loud := inStep.loud
      stations := by
        rw [chip]
        exact inStep.stations
      eventLatency := by
        rw [chip]
        exact inStep.eventLatency
      seekLatency := by
        rw [chip]
        exact inStep.seekLatency
      still := by
        rw [chip]
        rintro _ ⟨⟩
      attached := by
        rintro _ ⟨⟩
      detached := fun _ => ⟨rfl, rfl⟩
      stamps := fun stamp member => Nat.le_succ_of_le (inStep.stamps stamp member)
      ordered := stale.1
      harmless := stale.2 }

end System

namespace Controller

variable {controller : Controller Receiver} {aired : List Station}

/-- A link that is not attached is told so of a new listener before the deadline. -/
theorem attach_answered (receiver : controller.link.ToReceiver) {system : System Receiver}
    (inStep : system.InStep controller.timeout aired false)
    (unattached : system.core.state.attached = false) :
    ∃ last, system.attaching.Awaits system.attachedEnvelope system.peer.courier.queue last ∧
      controller.attach.run.run system = (.ok (), last.receive system.attachedEnvelope) := by
  have reached : (controller.link.attach system.newListener.1).run system.newListener.2 =
      (.ok, system.attaching) := receiver.attach_run _
  have asleep : ∀ core : Core, core.steady = system.attaching.core.steady →
      core.state.attached = false := by
    intro core same
    exact (congrArg (fun core => core.state.attached) same :).trans unattached
  have early : system.attachedEnvelope.due < system.attaching.clock + controller.timeout :=
    Nat.add_lt_add_left inStep.eventLatency _
  obtain ⟨last, awaits, waited⟩ := receiver.await_run inStep.attaching inStep.unconcerned
    (Nat.le_add_right _ _) early asleep (fun last awaits => by rw [System.attaching_heard awaits])
  have linked : (last.receive system.attachedEnvelope).core.state.attached = true := by
    rw [System.attaching_heard awaits]
  refine ⟨last, awaits, ?_⟩
  rw [attach_run, unattached]
  simp only [Bool.false_eq_true, if_false, reached, waited, linked, if_true]
  rfl

/-- What holds once a listener was handed out and attached, and lasts while the core waits, holds
after attaching. -/
theorem attach_lasts (receiver : controller.link.ToReceiver) {system : System Receiver}
    {kept : System Receiver → Prop} (outlasts : System.OutlastsDelivery kept)
    (keeping : kept system) (attaching : kept system.attaching) :
    kept (controller.attach.run.run system).2 := by
  have reached : (controller.link.attach system.newListener.1).run system.newListener.2 =
      (.ok, system.attaching) := receiver.attach_run _
  rw [attach_run]
  split
  · exact keeping
  · dsimp only
    rw [reached]
    exact (receiver.await_keeps outlasts _ _ _ attaching).1

/-- Attaching leaves core and receiver in step, in time, and nothing else of band and chip. -/
theorem attach_inStep (receiver : controller.link.ToReceiver) {system : System Receiver}
    (inStep : system.InStep controller.timeout aired false) :
    ∃ ended, controller.attach.run.run system = (.ok (), ended) ∧
      ended.InStep controller.timeout aired false ∧ ended.core.state.attached = true ∧
      ended.core.band = system.core.band ∧ ended.peer.chip = system.peer.chip := by
  cases attached : system.core.state.attached with
  | true =>
    rw [attach_run, if_pos attached]
    exact ⟨system, rfl, inStep, attached, rfl, rfl⟩
  | false =>
    obtain ⟨last, awaits, run⟩ := attach_answered receiver inStep attached
    have heard := System.attaching_heard awaits
    have linked : (last.receive system.attachedEnvelope).core.state.attached = true := by
      rw [heard]
    have chip : (last.receive system.attachedEnvelope).peer.chip = system.peer.chip :=
      (congrArg Receiver.chip (inStep.attaching.received awaits).peer :)
    exact ⟨_, run, inStep.attached_inStep awaits, linked, by rw [heard]; rfl, chip⟩

/-- Attaching keeps core and receiver in step, and the receiver is attached in time. -/
theorem attach_keeps (receiver : controller.link.ToReceiver) :
    controller.attach.Keeps (System.InStep controller.timeout aired false) := by
  intro system inStep
  obtain ⟨ended, run, inStep', _⟩ := attach_inStep receiver inStep
  unfold Attempt.Ends
  rw [run]
  exact ⟨inStep', nofun⟩

/-- When the link is released, the receiver goes away and everything it said is forgotten. -/
theorem detach_run (receiver : controller.link.ToReceiver) (system : System Receiver) :
    controller.detach.run system = ((), system.gone) := by
  change ((), (controller.link.detach.run system).2.become .forgetting
    (controller.link.detach.run system).2.core.detached) = _
  rw [receiver.detach_run]
  rfl

/-- Releasing the link keeps core and receiver in step. -/
theorem detach_keeps (receiver : controller.link.ToReceiver) {timeout : Nat} {busy : Bool} :
    Action.Keeps (System.InStep timeout aired busy) (fun _ => True) controller.detach := by
  intro system inStep
  rw [detach_run receiver]
  exact ⟨inStep.gone, trivial⟩

end Controller

/-! ## Radios in step -/

namespace Radio

variable {radio : Radio Receiver} {aired : List Station}

/-- Between calls a radio keeps in step with the receiver that it has to itself, and so it does in
its sessions, and nothing that it reports is that something was missed. -/
theorem inStep_upkeep (receiver : radio.link.ToReceiver) :
    radio.Upkeep (System.InStep radio.controller.timeout aired false)
      (System.InSession radio.controller.timeout aired) (fun fault => fault.isMiss = false) where
  invalid _ := rfl
  unconfirmed _ := rfl
  attach := Controller.attach_keeps receiver
  detach := Controller.detach_keeps receiver
  denied system fault inStep denied := by
    obtain rfl := Core.claim_of_free inStep.slot denied
    rfl
  claim system core inStep claimed := by
    have begun := inStep.claimed claimed
    obtain ⟨_, _, rfl⟩ := Core.claim_eq_ok claimed
    exact ⟨begun, rfl⟩
  release band system := fun ⟨inStep, _⟩ => { inStep with slot := rfl, idle := rfl }
  band band system := fun ⟨inStep, same⟩ => ⟨same, same ▸ inStep.band⟩
  run band _ _ suits fits := Controller.run_keeps receiver suits.ne_abortSeek fits band
  sweep band system := fun ⟨inStep, same⟩ => ⟨{ inStep with }, same⟩
  seek band system := fun ⟨inStep, same⟩ => ⟨{ inStep with }, same⟩
  pause band system inSession := by
    rw [receiver.pause_run]
    exact ⟨inSession, trivial⟩
  stop system inStep := { inStep with }
  abort := Controller.submitUnawaited_keeps receiver
  drain system inStep := inStep.idles
    ⟨system.core.drain_steady, rfl, rfl, rfl, List.suffix_rfl, Nat.le_refl _⟩
  rebanded system region inStep _ _ := { inStep with band := Band.preset_wellFormed region }

/-- Nothing was missed in a call with such an answer. -/
def Answer.Unmissed (answer : Answer) : Prop :=
  ∀ fault, answer.reported? = some fault → fault.isMiss = false

/-- Every call keeps core and receiver in step and misses nothing. -/
theorem answer_keeps (receiver : radio.link.ToReceiver) (call : Call) :
    Action.Keeps (System.InStep radio.controller.timeout aired false) Answer.Unmissed
      (radio.answer call) :=
  (inStep_upkeep receiver).answer call

end Radio

/-! ## What else is kept -/

/-- Something that a radio does by itself, with no part for the link. -/
def Occurrence.isOwn : Occurrence → Bool
  | .claiming | .releasing | .sweeping | .seeking | .stopping | .draining | .settingBand _ => true
  | _ => false

/-- The band that is put in place. -/
def Occurrence.band? : Occurrence → Option Band
  | .settingBand band => some band
  | _ => none

section Alongside

variable {σ : Type}

/-- What comes of something that a radio does by itself. -/
structure System.Besides (system : System σ) (occurrence : Occurrence) (system' : System σ) :
    Prop where
  /-- The radio does such a thing by itself. -/
  own : occurrence.isOwn = true
  /-- The history has an entry of it. -/
  history : system'.history = ⟨occurrence, system.core, system.clock⟩ :: system.history
  /-- The other end of the link has no part in it. -/
  peer : system'.peer = system.peer
  /-- No time passes. -/
  clock : system'.clock = system.clock
  /-- What is known stays, except for the reception. -/
  state : system'.core.state.steady = system.core.state.steady
  /-- The band is the one that is put in place, or stays. -/
  band : system'.core.band = occurrence.band?.getD system.core.band
  /-- Nobody begins to wait. -/
  waiter : system'.core.waiter = none ∨ system'.core.waiter = system.core.waiter

/-- Something of a system that a radio keeps besides what it keeps up between its calls and in its
sessions. -/
structure Radio.Alongside (radio : Radio σ) (kept : System σ → Prop)
    (owned : Band → System σ → Prop) (also : System σ → Prop) : Prop where
  /-- Attaching keeps it. -/
  attach : ∀ system, kept system → also system → also (radio.controller.attach.run.run system).2
  /-- Releasing the link keeps it. -/
  detach : ∀ system, kept system → also system → also (radio.controller.detach.run system).2
  /-- Commands keep it. -/
  run : ∀ band command expected system, command.Suits band →
    (∀ frequency, expected = some frequency → command = .tune frequency) →
    owned band system → also system →
      also ((radio.controller.run command expected).run.run system).2
  /-- Submitting the end of a seek without waiting keeps it. -/
  abort : ∀ system, kept system → also system →
    also ((radio.controller.submitUnawaited .abortSeek).run.run system).2
  /-- In a sweep others keep it. -/
  pause : ∀ band system, owned band system → also system → also (radio.link.pause.run system).2
  /-- What the radio does by itself keeps it. -/
  own : ∀ system occurrence system', system.Besides occurrence system' → also system →
    also system'

/-- A radio that keeps something by itself keeps it along with the rest. -/
theorem Radio.Alongside.upkeep {radio : Radio σ} {kept : System σ → Prop}
    {owned : Band → System σ → Prop} {also : System σ → Prop} {fit : Fault → Prop}
    (alongside : radio.Alongside kept owned also) (upkeep : radio.Upkeep kept owned fit) :
    radio.Upkeep (fun system => kept system ∧ also system)
      (fun band system => owned band system ∧ also system) fit where
  invalid := upkeep.invalid
  unconfirmed := upkeep.unconfirmed
  attach system := fun ⟨keeping, more⟩ =>
    ⟨⟨(upkeep.attach system keeping).1, alongside.attach system keeping more⟩,
      (upkeep.attach system keeping).2⟩
  detach system := fun ⟨keeping, more⟩ =>
    ⟨⟨(upkeep.detach system keeping).1, alongside.detach system keeping more⟩, trivial⟩
  denied system fault := fun ⟨keeping, _⟩ => upkeep.denied system fault keeping
  claim system core := fun ⟨keeping, more⟩ claimed => by
    refine ⟨upkeep.claim system core keeping claimed, alongside.own system .claiming _ ?_ more⟩
    obtain ⟨_, _, rfl⟩ := Core.claim_eq_ok claimed
    exact ⟨rfl, rfl, rfl, rfl, rfl, rfl, .inr rfl⟩
  release band system := fun ⟨owning, more⟩ =>
    ⟨upkeep.release band system owning,
      alongside.own system .releasing _ ⟨rfl, rfl, rfl, rfl, rfl, rfl, .inl rfl⟩ more⟩
  band band system := fun ⟨owning, _⟩ => upkeep.band band system owning
  run band command expected suits fits system := fun ⟨owning, more⟩ =>
    ⟨⟨(upkeep.run band command expected suits fits system owning).1,
      alongside.run band command expected system suits fits owning more⟩,
      (upkeep.run band command expected suits fits system owning).2⟩
  sweep band system := fun ⟨owning, more⟩ =>
    ⟨upkeep.sweep band system owning,
      alongside.own system .sweeping _ ⟨rfl, rfl, rfl, rfl, rfl, rfl, .inr rfl⟩ more⟩
  seek band system := fun ⟨owning, more⟩ =>
    ⟨upkeep.seek band system owning,
      alongside.own system .seeking _ ⟨rfl, rfl, rfl, rfl, rfl, rfl, .inr rfl⟩ more⟩
  pause band system := fun ⟨owning, more⟩ =>
    ⟨⟨(upkeep.pause band system owning).1, alongside.pause band system owning more⟩, trivial⟩
  stop system := fun ⟨keeping, more⟩ =>
    ⟨upkeep.stop system keeping,
      alongside.own system .stopping _ ⟨rfl, rfl, rfl, rfl, rfl, rfl, .inr rfl⟩ more⟩
  abort system := fun ⟨keeping, more⟩ =>
    ⟨⟨(upkeep.abort system keeping).1, alongside.abort system keeping more⟩,
      (upkeep.abort system keeping).2⟩
  drain system := fun ⟨keeping, more⟩ => by
    have steady := system.core.drain_steady
    exact ⟨upkeep.drain system keeping, alongside.own system .draining _
      ⟨rfl, rfl, rfl, rfl, (congrArg Core.state steady :), (congrArg Core.band steady :),
        .inr (congrArg Core.waiter steady :)⟩ more⟩
  rebanded system region := fun ⟨keeping, more⟩ free unfixed =>
    ⟨upkeep.rebanded system region keeping free unfixed,
      alongside.own system (.settingBand _) _ ⟨rfl, rfl, rfl, rfl, rfl, rfl, .inr rfl⟩ more⟩

end Alongside

end Tuner
