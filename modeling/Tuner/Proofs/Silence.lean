import Tuner.Proofs.Hearing
import Tuner.Proofs.Slot

/-!
# Silence

While the link delivers nothing, a command that was handed to it is still as it was installed: the
operation that waits and the ledger stay, and so does what is known, unless someone takes an update
of the radio texts or replaces the band. So when the link refuses the command, exactly what was
installed is taken back, and when there is no answer in time, the entry of the command is retired
and nothing else is left.
-/
namespace Tuner

/-! ## Silence -/

/-- Whether the link delivers something in an entry of the history, given the epochs of the
listeners: the listener that may speak is told something, or what the link said is forgotten. -/
def Moment.delivers (listeners : List Nat) (moment : Moment) : Bool :=
  match moment.tiding? listeners with
  | some (.said _) | some .forgotten => true
  | _ => false

/-- What is delivered by one of some listeners is delivered by one of more of them. -/
theorem Moment.delivers_of_prefix {listeners listeners' : List Nat} {moment : Moment}
    (grown : listeners <+: listeners') (delivers : moment.delivers listeners = true) :
    moment.delivers listeners' = true := by
  obtain ⟨newer, rfl⟩ := grown
  cases happened : moment.occurrence with
  | hearing listener notification =>
    have current : listeners[listener]? = some moment.core.epoch := by
      by_contra stale
      simp [Moment.delivers, tiding?, happened, stale] at delivers
    have known : listener < listeners.length := (List.getElem?_eq_some_iff.1 current).1
    simp [Moment.delivers, tiding?, happened, List.getElem?_append_left known, current]
  | forgetting => simp [Moment.delivers, tiding?, happened]
  | _ => simp [Moment.delivers, tiding?, happened] at delivers

namespace System

variable {σ : Type}

/-- What happened between two points of a run, newest first. -/
def since (earlier later : System σ) : List Moment :=
  later.history.take (later.history.length - earlier.history.length)

/-- What happened between two points is what was added to the history. -/
theorem since_of_history {earlier later : System σ} {window : List Moment}
    (history : later.history = window ++ earlier.history) : earlier.since later = window := by
  rw [since, history, List.length_append, Nat.add_sub_cancel, List.take_left]

variable {unawaited : List Moment → Command → Prop} {system system' : System Unit}

/-- What a core keeps while nothing is delivered: the operation that waits, the ledger and the link,
and what is known unless there are tidings. -/
structure Silent (window : List Moment) (system system' : System Unit) : Prop where
  /-- The operation that waits is the same. -/
  waiter : system'.core.waiter = system.core.waiter
  /-- What is owed is the same. -/
  ledger : system'.core.ledger = system.core.ledger
  /-- The link is attached. -/
  attached : system'.core.state.attached = true
  /-- No listener was handed out. -/
  listeners : system'.listeners = system.listeners
  /-- Without tidings the same is known. -/
  known : (∀ moment ∈ window, moment.tiding? system'.listeners = none) →
    system'.core.state = system.core.state ∧ system'.core.band = system.core.band

/-- A step that anyone may take in silence. -/
theorem Aside.silent (taken : Aside unawaited system system')
    (attached : system.core.state.attached = true) {moment : Moment}
    (recorded : system'.history = moment :: system.history)
    (silent : moment.delivers system'.listeners = false) :
    Silent [moment] system system' := by
  cases taken with
  | attach unattached =>
    rw [attached] at unattached
    contradiction
  | forget =>
    obtain rfl := (List.cons.inj recorded).1
    contradiction
  | drain =>
    obtain rfl := (List.cons.inj recorded).1
    refine ⟨rfl, rfl, system.core.state.takeUpdate_attached.trans attached, rfl, fun none => ?_⟩
    exact absurd (none _ List.mem_cons_self) nofun
  | setBand band =>
    obtain rfl := (List.cons.inj recorded).1
    refine ⟨rfl, rfl, attached, rfl, fun none => ?_⟩
    exact absurd (none _ List.mem_cons_self) nofun
  | pass | detach | submit | reach | stop => exact ⟨rfl, rfl, attached, rfl, fun _ => ⟨rfl, rfl⟩⟩
  | hear listener notification =>
    obtain rfl := (List.cons.inj recorded).1
    have stale : system.listeners[listener]? ≠ some system.core.epoch := by
      intro current
      have tiding : Moment.tiding? (system.deliver listener notification).listeners
          ⟨.hearing listener notification, system.core, system.clock⟩ =
            some (.said notification) := if_pos current
      rw [Moment.delivers, tiding] at silent
      contradiction
    have same := deliver_of_stale stale notification
    exact ⟨by rw [same], by rw [same], by rw [same, attached], rfl,
      fun _ => ⟨by rw [same], by rw [same]⟩⟩

/-- Any number of steps that anyone may take in silence. -/
theorem Asides.silent (taken : Asides unawaited system system')
    (attached : system.core.state.attached = true) :
    ∃ window, system'.history = window ++ system.history ∧
      ((∀ moment ∈ window, moment.delivers system'.listeners = false) →
        Silent window system system') := by
  refine taken.throughout (fun listeners moment => moment.delivers listeners)
    (fun window => Silent window system) Moment.delivers_of_prefix
    ⟨rfl, rfl, attached, rfl, fun _ => ⟨rfl, rfl⟩⟩ ?_
  intro window moment middle last step recorded silent before
  have next := step.silent before.attached recorded silent
  refine ⟨next.waiter.trans before.waiter, next.ledger.trans before.ledger, next.attached,
    next.listeners.trans before.listeners, fun untold => ?_⟩
  obtain ⟨untoldLast, untoldBefore⟩ := List.forall_mem_cons.1 untold
  have known := next.known (List.forall_mem_singleton.2 untoldLast)
  rw [next.listeners] at untoldBefore
  have known' := before.known untoldBefore
  exact ⟨known.1.trans known'.1, known.2.trans known'.2⟩

variable {terms : Terms}

/-- Steps of no session are steps that anyone may take. -/
theorem Steps.asides (taken : Steps terms system system') :
    ∃ window, system'.history = window ++ system.history ∧
      ((∀ moment ∈ window, moment.occurrence.ofOwner = false) →
        Asides terms.unawaited system system') := by
  induction taken with
  | refl => exact ⟨[], rfl, fun _ => .refl⟩
  | @tail middle last _ step ih =>
    obtain ⟨window, history, before⟩ := ih
    cases step with
    | aside taken =>
      obtain ⟨moment, newer, _, recorded, _⟩ := taken.entry
      refine ⟨moment :: window, recorded.trans (congrArg _ history), fun unowned => ?_⟩
      exact (before (List.forall_mem_cons.1 unowned).2).tail taken
    | install =>
      refine ⟨_ :: _ :: window, congrArg (fun history => _ :: _ :: history) history,
        fun unowned => ?_⟩
      have first := (List.forall_mem_cons.1 (List.forall_mem_cons.1 unowned).2).1
      contradiction
    | claim | release | sweep | seek | refuse | settle =>
      refine ⟨_ :: window, congrArg (List.cons _) history, fun unowned => ?_⟩
      have first := (List.forall_mem_cons.1 unowned).1
      contradiction

/-- While the slot is free, nothing waits. -/
theorem Steps.idle_of_free {band : Band} (taken : Steps terms (.fresh band) system)
    (free : system.core.busy = false) : system.core.waiter = none := by
  induction taken with
  | refl => rfl
  | tail _ step ih =>
    cases step with
    | aside taken =>
      have same := taken.undisturbed
      exact same.idle (ih (same.busy.symm.trans free))
    | claim core claimed =>
      obtain ⟨_, _, rfl⟩ := Core.claim_eq_ok claimed
      contradiction
    | release => rfl
    | refuse => rfl
    | sweep busy | seek busy => exact absurd (busy.symm.trans free) nofun
    | install command expected generation core busy installed =>
      have taken := (Core.install_waiter installed).1.trans busy
      exact absurd (taken.symm.trans free) nofun
    | settle waiter expected busy waiting => exact (Core.settle_idle _ _ _ _ _).1

end System

/-! ## Commands that fail -/

/-- Whether a fault says that a command did not get as far as the link: its parameters make no
sense, there is no link, the radio is off, or the slot is taken. -/
def Fault.beforeLink : Fault → Bool
  | .invalidParameter _ | .notReady | .radioOff | .busy => true
  | _ => false

namespace Core

/-- An operation that ends with a fault was submitted. -/
theorem settle_error {core : Core} {generation now timeout : Nat} {expected : Option Frequency}
    {fault : Fault} (failed : (core.settle generation expected now timeout).1 = .error fault) :
    fault.beforeLink = false := by
  have confirmed : ∀ event, confirm expected event = .error fault → fault.beforeLink = false := by
    intro event
    unfold confirm
    split
    · split
      · nofun
      · intro same
        obtain rfl := Except.error.inj same
        rfl
    · nofun
  unfold settle at failed
  split at failed
  · obtain rfl := Except.error.inj failed
    rfl
  · dsimp only at failed
    split at failed
    · exact confirmed _ failed
    · obtain rfl := Except.error.inj failed
      rfl
    · split at failed
      · exact confirmed _ failed
      · obtain rfl := Except.error.inj failed
        rfl

/-- A command that fails its check does not get as far as the link. -/
theorem check_beforeLink {core : Core} {command : Command} {fault : Fault}
    (refused : core.check command = .error fault) : fault.beforeLink = true := by
  unfold check at refused
  split at refused
  · obtain rfl := Except.error.inj refused
    rfl
  · split at refused
    · obtain rfl := Except.error.inj refused
      rfl
    · split at refused
      · obtain rfl := Except.error.inj refused
        rfl
      · contradiction

/-- What cannot claim the slot does not get as far as the link. -/
theorem claim_beforeLink {core : Core} {now timeout : Nat} {fault : Fault}
    (refused : core.claim now timeout = .error fault) : fault.beforeLink = true := by
  unfold claim at refused
  split at refused
  · obtain rfl := Except.error.inj refused
    rfl
  · split at refused
    · obtain rfl := Except.error.inj refused
      rfl
    · contradiction

/-- Taking a command back that was just installed leaves the entries as they were. -/
theorem forget_installed {core core' : Core} (coupled : core.Coupled) {command : Command}
    {expected : Option Frequency} {generation : Nat}
    (installed : core.install command expected = .ok (generation, core')) :
    (core'.ledger.forget generation).entries = core.ledger.entries := by
  obtain ⟨_, _, rfl, rfl⟩ := install_eq_ok installed
  have older : core.ledger.entries.filter
      (fun entry => entry.generation != core.ledger.lastGeneration + 1) = core.ledger.entries := by
    apply List.filter_eq_self.2
    intro entry member
    have bound := coupled.ordered.bounded entry member
    have differs : entry.generation ≠ core.ledger.lastGeneration + 1 := by omega
    simpa using differs
  cases command.awaited? with
  | none => exact older
  | some tag => simp [Ledger.forget, Ledger.record, Ledger.nextGeneration, older]

end Core

namespace System

variable {σ : Type}

/-- The link delivers nothing between two points of a run. -/
def Quiet (system after : System σ) : Prop :=
  ∀ moment ∈ system.since after, moment.delivers after.listeners = false

/-- What is left at the end of something that failed: the operation that waits, the slot and the
entries of the ledger are those of a core, with some entries more. So are what is known of the
receiver and the band, unless someone took an update of the texts or replaced the band meanwhile. -/
structure Restores (system after : System σ) (core : Core) (added : List Ledger.Entry) :
    Prop where
  /-- The operation that waits is the same, or there is none. -/
  waiter : after.core.waiter = core.waiter
  /-- The slot is taken or free as before. -/
  busy : after.core.busy = core.busy
  /-- The entries are those that there were and those that were added. -/
  entries : after.core.ledger.entries = core.ledger.entries ++ added
  /-- What is known and the band are the same. -/
  known : (∀ moment ∈ system.since after, moment.tiding? after.listeners = none) →
    after.core.state = core.state ∧ after.core.band = core.band

end System

namespace Controller

variable {σ : Type} {held : σ → Bool} {terms : Terms} {controller : Controller σ}
  {system ended : System σ} {command : Command} {expected : Option Frequency}
  {generation : Nat} {core : Core} {code : Acceptance}

/-- A command that did not get as far as the link could not be installed, and nothing happened. -/
theorem run_beforeLink {fault : Fault}
    (failure : (controller.run command expected).run.run system = (.error fault, ended))
    (before : fault.beforeLink = true) :
    system.core.install command expected = .error fault ∧ ended = system := by
  rw [run_run] at failure
  cases outcome : system.core.install command expected with
  | error refusal =>
    rw [outcome] at failure
    obtain ⟨same, rfl⟩ := Prod.mk.inj failure
    obtain rfl := Except.error.inj same
    exact ⟨rfl, rfl⟩
  | ok installed =>
    obtain ⟨generation, core⟩ := installed
    rw [outcome] at failure
    dsimp only at failure
    generalize (controller.link.submit command).run (system.become (.installing command) core) =
      answered at failure
    obtain ⟨code, submitted⟩ := answered
    dsimp only at failure
    split at failure
    · split at failure
      · cases failure
      · obtain ⟨same, _⟩ := Prod.mk.inj failure
        generalize settled : (Core.settle _ generation expected _ controller.timeout).1 =
          result at same
        cases result with
        | ok event => cases same
        | error fault' =>
          obtain rfl := Except.error.inj same
          rw [Core.settle_error settled] at before
          contradiction
    · obtain ⟨same, _⟩ := Prod.mk.inj failure
      obtain rfl := Except.error.inj same
      contradiction

/-- Where a command was installed in a session and handed to the link, which delivers nothing, its
end leaves what that step leaves. -/
theorem restores_of_asides (poised : System.Poised held system)
    (installed : system.core.install command expected = .ok (generation, core))
    {reached : System σ}
    (taken : System.Asides terms.unawaited
      ((system.become (.installing command) core).record (.submitting command)).bare reached.bare)
    (occurrence : Occurrence) {final : Core}
    (known : final.state = reached.core.state ∧ final.band = reached.core.band)
    (busy : final.busy = reached.core.busy) (idle : final.waiter = none) :
    (∃ window, (reached.become occurrence final).history = window ++ system.history) ∧
      (system.Quiet (reached.become occurrence final) →
        reached.core.waiter = core.waiter ∧ reached.core.ledger = core.ledger ∧
          ∀ added, final.ledger.entries = system.core.ledger.entries ++ added →
            System.Restores system (reached.become occurrence final) system.core added) := by
  have attached : core.state.attached = true := by
    rw [(Core.install_known installed).1]
    exact Core.attached_of_check (Core.install_eq_ok installed).1
  obtain ⟨window, history, account⟩ := taken.silent attached
  let whole : List Moment := ⟨occurrence, reached.core, reached.clock⟩ ::
    (window ++ [⟨.submitting command, core, system.clock⟩,
      ⟨.installing command, system.core, system.clock⟩])
  have grown : (reached.become occurrence final).history = whole ++ system.history := by
    have rest : reached.history = window ++ _ := history
    change _ :: reached.history = _
    rw [rest]
    simp [whole, System.record, System.become, System.bare]
  have part : ∀ moment ∈ window, moment ∈ system.since (reached.become occurrence final) := by
    intro moment member
    rw [System.since_of_history grown]
    exact List.mem_cons_of_mem _ (List.mem_append_left _ member)
  refine ⟨⟨whole, grown⟩, fun quiet => ?_⟩
  have silent := account fun moment member => quiet moment (part moment member)
  refine ⟨silent.waiter, silent.ledger, fun added entries => ⟨?_, ?_, entries, fun untold => ?_⟩⟩
  · rw [poised.idle]
    exact idle
  · have same := taken.undisturbed.busy.trans (Core.install_waiter installed).1
    exact busy.trans same
  · have same := silent.known fun moment member => untold moment (part moment member)
    have before := Core.install_known installed
    exact ⟨known.1.trans (same.1.trans before.1), known.2.trans (same.2.trans before.2.1)⟩

/-- A command that the link refuses is taken back without a trace. -/
theorem refused_restores (link : controller.link.Orderly held terms) {band : Band}
    (taken : System.Steps terms (.fresh band) system.bare) (poised : System.Poised held system)
    (installed : system.core.install command expected = .ok (generation, core))
    (answered : ((controller.link.submit command).run
      (system.become (.installing command) core)).1 = code) (refused : code.isOk = false) :
    ∃ ended : System σ,
      (controller.run command expected).run.run system = (.error (.rejected code), ended) ∧
      (∃ window, ended.history = window ++ system.history) ∧
      (system.Quiet ended → System.Restores system ended system.core []) := by
  have begun : System.Engaged held
      ((system.become (.installing command) core).record (.submitting command)) :=
    ⟨(Core.install_waiter installed).1.trans poised.busy, poised.unheld⟩
  have submitting := (link.submit command (system.become (.installing command) core)).engaged begun
  rcases submission : (controller.link.submit command).run
    (system.become (.installing command) core) with ⟨code', submitted⟩
  rw [submission] at answered submitting
  subst answered
  have known : (submitted.core.refuse generation).state = submitted.core.state ∧
      (submitted.core.refuse generation).band = submitted.core.band := ⟨rfl, rfl⟩
  obtain ⟨history, restores⟩ :=
    restores_of_asides poised installed submitting.2 (.refusing code') known rfl rfl
  refine ⟨_, run_of_refused installed submission refused, history, fun quiet => ?_⟩
  obtain ⟨_, ledger, restored⟩ := restores quiet
  have coupled := System.Steps.coupled taken
  apply restored
  rw [List.append_nil]
  change (submitted.core.ledger.forget generation).entries = _
  rw [ledger]
  exact Core.forget_installed coupled installed

/-- A command that the link accepts, without an answer in time, leaves its entry, which is retired.
-/
theorem accepted_restores (link : controller.link.Orderly held terms) {band : Band}
    (taken : System.Steps terms (.fresh band) system.bare) (poised : System.Poised held system)
    (installed : system.core.install command expected = .ok (generation, core))
    (accepted : ((controller.link.submit command).run
      (system.become (.installing command) core)).1.isOk = true) {tag : Tag}
    (awaits : command.awaited? = some tag) :
    ∃ (result : Except Fault Event) (ended : System σ),
      (controller.run command expected).run.run system = (some <$> result, ended) ∧
      (∃ window, ended.history = window ++ system.history) ∧
      (system.Quiet ended → result = .error (.timeout controller.timeout) ∧
        System.Restores system ended system.core
          [⟨tag, generation, expected, some ended.clock⟩]) := by
  obtain ⟨_, reached, _, waiting, run⟩ :=
    run_asides link poised.toEngaged installed awaits accepted
  have ended := Core.settle_idle reached.core generation expected reached.clock controller.timeout
  have known := Core.settle_known reached.core generation expected reached.clock controller.timeout
  obtain ⟨history, restores⟩ :=
    restores_of_asides poised installed waiting .settling known ended.2 ended.1
  refine ⟨_, _, run, history, fun quiet => ?_⟩
  obtain ⟨waiter, ledger, restored⟩ := restores quiet
  have coupled := System.Steps.coupled taken
  have pending := Core.installed_pending coupled (System.Steps.plain taken) installed awaits
  obtain ⟨result, entries⟩ := (pending.of_same waiter ledger).settle_silent expected reached.clock
    controller.timeout
  exact ⟨result, restored _ entries⟩

end Controller

end Tuner
