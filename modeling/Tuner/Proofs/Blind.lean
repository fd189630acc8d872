import Tuner.Proofs.SideBySide

/-!
# Nobody sees the ledger

While a command is under way that waits for no frequency, nobody can tell what is owed. Sessions are
turned away before they look at anything, and what else is read of the core is its state and its
band. So whatever the other end does, it is given the same answers in two systems that are alike,
and leaves them alike.

An action that behaves like that is called blind here. Reactions are blind when the answers to their
calls back are, so by induction on the depth the link is blind. A command of that kind therefore
comes to the same after any history.
-/
namespace Tuner

/-! ## Blind actions -/

namespace Action

variable {σ α β : Type} (held : σ → Bool) (tag : Tag)

/-- An action that comes to the same in two systems that are alike, and leaves them alike. -/
def Blind (action : Action σ α) : Prop :=
  ∀ system system', System.Alike held tag system system' →
    (action.run system').1 = (action.run system).1 ∧
      System.Alike held tag (action.run system).2 (action.run system').2

variable {held} {tag}

/-- What it comes to in either is the same, in systems that are alike again. -/
theorem Blind.ends {action : Action σ α} (blind : Blind held tag action)
    {system system' : System σ} (alike : System.Alike held tag system system') :
    ∃ value after after', action.run system = (value, after) ∧
      action.run system' = (value, after') ∧ System.Alike held tag after after' := by
  obtain ⟨same, alike'⟩ := blind system system' alike
  exact ⟨(action.run system).1, (action.run system).2, (action.run system').2, rfl,
    Prod.ext same rfl, alike'⟩

/-- Doing nothing is blind. -/
theorem Blind.pure (value : α) : Blind held tag (Pure.pure value : Action σ α) :=
  fun _ _ alike => ⟨rfl, alike⟩

/-- Blind actions one after another are blind. -/
theorem Blind.bind {first : Action σ α} {next : α → Action σ β} (before : Blind held tag first)
    (after : ∀ value, Blind held tag (next value)) : Blind held tag (first >>= next) := by
  intro system system' alike
  obtain ⟨same, alike'⟩ := before system system' alike
  change ((next (first.run system').1).run (first.run system').2).1 =
      ((next (first.run system).1).run (first.run system).2).1 ∧
    System.Alike held tag ((next (first.run system).1).run (first.run system).2).2
      ((next (first.run system').1).run (first.run system').2).2
  rw [same]
  exact after _ _ _ alike'

/-- Reading a result differently is blind. -/
theorem Blind.map {action : Action σ α} (blind : Blind held tag action) (f : α → β) :
    Blind held tag (f <$> action) := by
  intro system system' alike
  obtain ⟨same, alike'⟩ := blind system system' alike
  exact ⟨congrArg f same, alike'⟩

/-- Changing the system is blind if it leaves systems alike. -/
theorem Blind.modify {change : System σ → System σ}
    (keeps : ∀ system system', System.Alike held tag system system' →
      System.Alike held tag (change system) (change system')) :
    Blind held tag (modify change : Action σ PUnit) :=
  fun system system' alike => ⟨rfl, keeps system system' alike⟩

/-- Going on from a look at the system is blind if the same is seen in both. -/
theorem Blind.get_bind {next : System σ → Action σ α}
    (same : ∀ system system', System.Alike held tag system system' → next system' = next system)
    (blind : ∀ system, Blind held tag (next system)) :
    Blind held tag ((get : Action σ (System σ)) >>= next) := by
  intro system system' alike
  have looked : ∀ system, ((get : Action σ (System σ)) >>= next).run system =
      (next system).run system := fun _ => rfl
  rw [looked, looked, same _ _ alike]
  exact blind _ _ _ alike

/-- Going on from a look at the core is blind if the same is seen in both. -/
theorem Blind.core_bind {next : Core → Action σ α}
    (same : ∀ core core', Core.Alike tag core core' → next core' = next core)
    (blind : ∀ core, Blind held tag (next core)) : Blind held tag (Action.core >>= next) := by
  have gone : Blind held tag ((get : Action σ (System σ)) >>= fun system => next system.core) :=
    .get_bind (fun _ _ alike => same _ _ alike.core) fun system => blind system.core
  exact gone

/-- Time may pass. -/
theorem Blind.passUntil (moment : Nat) : Blind held tag (passUntil moment : Action σ Unit) := by
  refine .modify fun system system' alike => ?_
  rw [alike.clock]
  exact alike.pass _

/-- Sweeps may be asked to stop. -/
theorem Blind.requestStop : Blind held tag (requestStop : Action σ Unit) :=
  .modify fun _ _ alike => alike.requestStop

/-- The band may be replaced. -/
theorem Blind.setBand (band : Band) : Blind held tag (setBand band : Action σ Unit) :=
  .modify fun _ _ alike => alike.become _
    (alike.core.of_same alike.core.state rfl alike.core.epoch ⟨rfl, rfl⟩ ⟨rfl, rfl⟩ ⟨rfl, rfl⟩)

/-- An update of the radio texts may be reported. -/
theorem Blind.drain : Blind held tag (drain : Action σ UInt16) := by
  intro system system' alike
  have state : system'.core.drain.2.state = system.core.drain.2.state :=
    congrArg (fun state : RadioState => state.takeUpdate.2) alike.core.state
  have update : system'.core.drain.1 = system.core.drain.1 :=
    congrArg (fun state : RadioState => state.takeUpdate.1) alike.core.state
  exact ⟨update, alike.become _
    (alike.core.of_same state alike.core.band alike.core.epoch ⟨rfl, rfl⟩ ⟨rfl, rfl⟩ ⟨rfl, rfl⟩)⟩

end Action

namespace Attempt

variable {σ α β : Type} (held : σ → Bool) (tag : Tag)

/-- An attempt that comes to the same in two systems that are alike, and leaves them alike. -/
def Blind (attempt : Attempt σ α) : Prop := Action.Blind held tag attempt.run

variable {held} {tag}

/-- Coming to a given result is blind. -/
theorem Blind.result (result : Except Fault α) : Blind held tag (ofResult result : Attempt σ α) :=
  Action.Blind.pure result

/-- Blind attempts one after another are blind. -/
theorem Blind.bind {first : Attempt σ α} {next : α → Attempt σ β} (before : Blind held tag first)
    (after : ∀ value, Blind held tag (next value)) : Blind held tag (first >>= next) := by
  change Action.Blind held tag (first.run >>= ExceptT.bindCont next)
  refine .bind before fun result => ?_
  cases result with
  | ok value => exact after value
  | error fault => exact .pure _

/-- A blind action is a blind attempt. -/
theorem Blind.lift {action : Action σ α} (blind : Action.Blind held tag action) :
    Blind held tag (lift action) :=
  blind.map _

/-- Going on from a look at the core is blind if the same is seen in both. -/
theorem Blind.core_bind {next : Core → Attempt σ α}
    (same : ∀ core core', Core.Alike tag core core' → next core' = next core)
    (blind : ∀ core, Blind held tag (next core)) : Blind held tag (Attempt.core >>= next) := by
  intro system system' alike
  rw [core_bind_run, core_bind_run, same _ _ alike.core]
  exact blind _ _ _ alike

end Attempt

/-! ## Links -/

/-- What a caller of the link sees of it is the same in two systems that are alike, which stay so.
-/
structure Link.Blind {σ : Type} (held : σ → Bool) (tag : Tag) (link : Link σ) : Prop where
  /-- Attaching is blind. -/
  attach : ∀ listener, Action.Blind held tag (link.attach listener)
  /-- Releasing is blind. -/
  detach : Action.Blind held tag link.detach
  /-- Submitting is blind. -/
  submit : ∀ command, Action.Blind held tag (link.submit command)
  /-- Waiting is blind, for what is the same in both. -/
  await : ∀ ready deadline, (∀ core core', Core.Alike tag core core' → ready core' = ready core) →
    Action.Blind held tag (link.await ready deadline)

namespace Controller

variable {σ α : Type} {held : σ → Bool} {tag : Tag} {controller : Controller σ}

/-- A session is turned away in both. -/
theorem session_blind (body : Attempt σ α) : (controller.session body).Blind held tag := by
  intro system system' alike
  rw [session_of_busy body alike.core.busy, session_of_busy body alike.core.busy', alike.core.state]
  exact ⟨rfl, alike⟩

/-- A claim of the slot is turned away in both. -/
theorem claim_blind : controller.claim.Blind held tag := by
  intro system system' alike
  rw [claim_run, claim_run, Core.claim_of_busy alike.core.busy, Core.claim_of_busy alike.core.busy',
    alike.core.state]
  exact ⟨rfl, alike⟩

/-- Submitting a command without waiting is blind. -/
theorem submitUnawaited_blind (link : controller.link.Blind held tag) (command : Command) :
    (controller.submitUnawaited command).Blind held tag := by
  intro system system' alike
  rw [submitUnawaited_run, submitUnawaited_run, alike.core.check command]
  cases system.core.check command with
  | error fault => exact ⟨rfl, alike⟩
  | ok passed =>
    obtain ⟨code, submitted, submitted', here, there, alike'⟩ := (link.submit command).ends alike
    rw [here, there]
    exact ⟨rfl, alike'⟩

/-- Attaching is blind. -/
theorem attach_blind (link : controller.link.Blind held tag) :
    controller.attach.Blind held tag := by
  intro system system' alike
  rw [attach_run, attach_run, alike.core.state]
  split
  · exact ⟨rfl, alike⟩
  · obtain ⟨listener, issued⟩ := alike.newListener
    obtain ⟨code, reached, reached', here, there, alike'⟩ :=
      (link.attach system.newListener.1).ends issued
    dsimp only
    rw [listener, here, there]
    dsimp only
    split
    · have waits : ∀ core core', Core.Alike tag core core' →
          core'.state.attached = core.state.attached := by
        intro core core' cores
        rw [cores.state]
      obtain ⟨_, waited⟩ := link.await (fun core => core.state.attached)
        (reached.clock + controller.timeout) waits _ _ alike'
      rw [alike'.clock]
      exact ⟨by rw [waited.core.state], waited⟩
    · exact ⟨rfl, alike'⟩

/-- Releasing the link is blind. -/
theorem detach_blind (link : controller.link.Blind held tag) :
    Action.Blind held tag controller.detach :=
  .bind link.detach fun _ => .modify fun _ _ alike => alike.become _ alike.core.detached

end Controller

/-! ## Reactions -/

namespace Reaction

variable {σ κ ρ : Type} {held : σ → Bool} {tag : Tag} {respond : κ → Action σ (Option ρ)}

/-- A reaction is blind when the answers to its calls back are. -/
theorem run_blind (answers : ∀ request, Action.Blind held tag (respond request))
    (reaction : Reaction σ κ ρ) (honest : reaction.Honest held) :
    Action.Blind held tag (reaction.run respond) := by
  induction reaction with
  | finish code => exact .pure code
  | look next ih =>
    refine .get_bind (fun system system' alike => ?_) fun system => ih _ _ (honest _ _)
    rw [alike.clock, alike.peer]
  | update change next ih =>
    refine .bind (.modify fun system system' alike => ?_) fun _ => ih honest.2
    exact alike.withPeer ((honest.1 _).trans alike.unheld)
  | notify listener notification next ih =>
    exact .bind (.modify fun _ _ alike => alike.deliver listener notification) fun _ => ih honest
  | pass ms next ih => exact .bind (.modify fun _ _ alike => alike.pass ms) fun _ => ih honest
  | call request next ih => exact .bind (answers request) fun answer => ih answer (honest answer)

/-- A reaction is blind while the core waits when the answers to its calls back are. -/
theorem runUntil_blind (answers : ∀ request, Action.Blind held tag (respond request))
    {ready : Core → Bool}
    (waits : ∀ core core', Core.Alike tag core core' → ready core' = ready core)
    (deadline : Nat) (reaction : Reaction σ κ ρ) (honest : reaction.Honest held) :
    Action.Blind held tag (reaction.runUntil respond ready deadline) := by
  induction reaction with
  | finish code =>
    refine .get_bind (fun system system' alike => ?_) fun system => ?_
    · rw [waits _ _ alike.core]
    · split
      · exact .pure ()
      · exact .bind (.pure ()) fun _ => .passUntil deadline
  | look next ih =>
    refine .get_bind (fun system system' alike => ?_) fun system => ih _ _ (honest _ _)
    rw [alike.clock, alike.peer]
  | update change next ih =>
    refine .bind (.modify fun system system' alike => ?_) fun _ => ih honest.2
    exact alike.withPeer ((honest.1 _).trans alike.unheld)
  | notify listener notification next ih =>
    exact .bind (.modify fun _ _ alike => alike.deliver listener notification) fun _ => ih honest
  | pass ms next ih =>
    intro system system' alike
    rw [runUntil_pass, runUntil_pass, waits _ _ alike.core, alike.clock]
    split
    · exact ⟨rfl, alike⟩
    · split
      · exact Action.Blind.passUntil deadline system system' alike
      · exact ih honest _ _ (alike.pass ms)
  | call request next ih => exact .bind (answers request) fun answer => ih answer (honest answer)

end Reaction

namespace Peer

variable {σ κ ρ : Type} {held : σ → Bool} {tag : Tag}

/-- The link to a peer is blind when the answers to its calls back are. -/
theorem linkAnswering_blind {peer : Peer σ κ ρ} (honest : peer.Honest held)
    {respond : κ → Action σ (Option ρ)}
    (answers : ∀ request, Action.Blind held tag (respond request)) :
    (peer.linkAnswering respond).Blind held tag where
  attach listener := (peer (.attach listener)).run_blind answers (honest _)
  detach :=
    .bind (.modify fun _ _ alike => alike.record _) fun _ =>
      .bind ((peer .detach).run_blind answers (honest _)) fun _ => .pure ()
  submit command :=
    .bind (.modify fun _ _ alike => alike.record _) fun _ =>
      .bind ((peer .pause).run_blind answers (honest _)) fun _ =>
        .bind (.modify fun _ _ alike => alike.record _) fun _ =>
          (peer (.submit command)).run_blind answers (honest _)
  await _ deadline waits := (peer .await).runUntil_blind answers waits deadline (honest _)

/-- The link to a peer is blind at every depth when every method is blind on a blind link. -/
theorem link_blind {peer : Peer σ κ ρ} (honest : peer.Honest held)
    {method : Link σ → κ → Action σ ρ}
    (methods : ∀ link : Link σ, link.Blind held tag →
      ∀ request, Action.Blind held tag (method link request)) (depth : Nat) :
    (peer.link method depth).Blind held tag := by
  induction depth with
  | zero => exact linkAnswering_blind honest fun _ => .pure none
  | succ depth ih =>
    exact linkAnswering_blind honest fun request => (methods _ ih request).map some

end Peer

/-! ## Radios and bare controllers -/

namespace Radio

variable {σ α : Type} {held : σ → Bool} {tag : Tag} {radio : Radio σ}

/-- A look at what is the same in both is blind. -/
theorem look_blind {read : Core → α}
    (same : ∀ core core', Core.Alike tag core core' → read core' = read core) :
    Action.Blind held tag (do return read (← Action.core) : Action σ α) :=
  .core_bind (fun core core' alike => by rw [same core core' alike]) fun _ => .pure _

/-- A check of a frequency is blind. -/
theorem requireTunable_blind (frequency : Frequency) :
    (requireTunable frequency : Attempt σ Unit).Blind held tag := by
  refine .core_bind (fun core core' alike => by rw [alike.band]) fun core => ?_
  split
  · exact .result (.ok ())
  · exact .result (.error _)

/-- Every call on a radio is blind on a blind link. -/
theorem answer_blind (link : radio.controller.link.Blind held tag) (call : Call) :
    Action.Blind held tag (radio.answer call) := by
  -- Most calls are sessions, which are turned away, and some check a frequency before.
  have session : ∀ {α : Type} (body : Attempt σ α),
      (radio.controller.session body).Blind held tag := Controller.session_blind
  have tunable := @requireTunable_blind σ held tag
  have performed : ∀ command, (radio.perform command).Blind held tag :=
    fun command => .bind (session _) fun _ => .result (.ok ())
  cases call with
  | attach => exact (Controller.attach_blind link).map _
  | close =>
    have detach := Controller.detach_blind link
    exact .bind (.bind .requestStop fun _ => detach) fun _ => .pure _
  | powerUp frequency =>
    have blind : (radio.powerUp frequency).Blind held tag :=
      .bind (tunable frequency) fun _ => session _
    exact blind.map _
  | powerDown =>
    have blind : radio.powerDown.Blind held tag := .bind (.lift .requestStop) fun _ => session _
    exact blind.map _
  | tune frequency =>
    have blind : (radio.tune frequency).Blind held tag :=
      .bind (tunable frequency) fun _ => .bind (session _) fun _ => .result (.ok ())
    exact blind.map _
  | seekFrom frequency direction =>
    have blind : (radio.seekFrom frequency direction).Blind held tag :=
      .bind (tunable frequency) fun _ => session _
    exact blind.map _
  | seekRange first last direction =>
    have blind : (radio.seekRange first last direction).Blind held tag :=
      .bind (tunable first) fun _ => .bind (tunable last) fun _ => session _
    exact blind.map _
  | stopScan =>
    have blind : radio.stopScan.Blind held tag :=
      .bind (.lift .requestStop) fun _ => Controller.submitUnawaited_blind link _
    exact blind.map _
  | activateAf =>
    have blind : radio.activateAf.Blind held tag := by
      refine .bind (session _) fun _ =>
        .core_bind (fun core core' alike => by rw [alike.state, alike.band]) fun core => ?_
      split
      · exact .result (.ok _)
      · exact .result (.error _)
    exact blind.map _
  | readRds =>
    refine Action.Blind.map ?_ _
    refine .core_bind (fun core core' alike => by rw [alike.state]) fun core => ?_
    split
    · exact .drain
    · exact .pure 0
  | isOpen | tunedFrequency | programService | radioText =>
    exact (look_blind fun _ _ alike => by rw [alike.state]).map _
  | setRegion region =>
    have blind : (radio.setRegion region).Blind held tag := by
      refine .bind (session _) fun _ => ?_
      split
      · exact .lift (.setBand _)
      · exact .result (.ok ())
    exact blind.map _
  | setLivePolling | setSnrThreshold | setStepSize => exact (performed _).map _
  | refreshStatus =>
    have blind : radio.refreshStatus.Blind held tag :=
      .bind (session _) fun _ =>
        .core_bind (fun core core' alike => by rw [alike.state]) fun _ => .result (.ok _)
    exact blind.map _
  | rdsSupport | switchAntenna | settings => exact .pure _
  | band => exact look_blind fun _ _ alike => by rw [alike.band]
  | seek | seekRds | autoScan | setRds | setMute | setAudioMode | setAudioPath | setVolume
  | estimateNoiseFloor => exact (session _).map _

end Radio

namespace Controller

variable {σ : Type} {tag : Tag} {controller : Controller σ} {token : Token σ}

/-- Every call on a bare controller is blind on a blind link, while no session is held. -/
theorem answer_blind (link : controller.link.Blind token.held tag) (call : Call) :
    Action.Blind token.held tag (controller.answer false call) := by
  cases call with
  | attach => exact (attach_blind link).map _
  | detach => exact .bind (detach_blind link) fun _ => .pure _
  | isAttached => exact Radio.look_blind fun _ _ alike => by rw [alike.state]
  | band => exact Radio.look_blind fun _ _ alike => by rw [alike.band]
  | setBand band =>
    cases band with
    | ok band => exact .bind (.setBand band) fun _ => .pure _
    | error cause => exact .pure _
  | hold => exact claim_blind.map _
  | execute | tune => exact (session_blind _).map _
  | submitUnawaited command => exact (submitUnawaited_blind link command).map _
  | drain => exact .bind .drain fun _ => .pure _
  | heldSweep band => cases band <;> exact .pure _
  | timeout | letGo | heldExecute | heldTune | heldState => exact .pure _

/-- A call on a bare controller is blind together with what is noted of the session. -/
theorem serve_blind (link : controller.link.Blind token.held tag) (call : Call) :
    Action.Blind token.held tag (controller.serve token call) := by
  intro system system' alike
  rw [serve_run, serve_run, alike.peer, alike.unheld]
  split
  · have kept : System.Alike token.held tag (system.withPeer (token.note false))
        (system'.withPeer (token.note false)) := alike.withPeer (token.held_note _ _)
    obtain ⟨answer, after, after', here, there, alike'⟩ := (answer_blind link call).ends kept
    rw [here, there]
    exact ⟨rfl, alike'.withPeer (token.held_note _ _)⟩
  · obtain ⟨answer, after, after', here, there, alike'⟩ := (answer_blind link call).ends alike
    rw [here, there]
    have unheld : call.holdsAfter false answer = false := by
      by_cases keeps : call = .hold
      · -- The slot is taken, so there is nothing to hold.
        subst keeps
        have turned := controller.claim_run system
        rw [Core.claim_of_busy alike.core.busy] at turned
        have answered : (controller.answer false .hold).run system =
            (.done (controller.claim.run.run system).1, (controller.claim.run.run system).2) := rfl
        rw [answered, turned] at here
        obtain ⟨rfl, _⟩ := Prod.mk.inj here
        rfl
      · by_cases leaves : call = .letGo
        · subst leaves
          rfl
        · exact holdsAfter_eq keeps leaves false answer
    have noted : System.Alike token.held tag
        (after.withPeer fun own => token.note (call.holdsAfter (token.held own) answer) own)
        (after'.withPeer fun own => token.note (call.holdsAfter (token.held own) answer) own) := by
      apply alike'.withPeer
      rw [token.held_note, alike'.unheld, unheld]
    exact ⟨rfl, noted⟩

/-- The link of a controller in use is blind. -/
theorem InUse.link_blind {σ : Type} {held : σ → Bool} {terms : Terms} {controller : Controller σ}
    (used : InUse held terms controller) (tag : Tag) : controller.link.Blind held tag := by
  cases used with
  | radio settings peer depth =>
    exact Peer.link_blind (fun stimulus => (peer stimulus).honest_nobody)
      (fun link blind call => @Radio.answer_blind σ nobody tag ⟨settings, link⟩ blind call) depth
  | bare timeout token fair depth =>
    exact Peer.link_blind fair
      (fun link blind call => @serve_blind σ tag ⟨link, timeout⟩ token blind call) depth

end Controller

/-! ## Another history -/

namespace System

variable {σ : Type} {held : σ → Bool} {tag : Tag} {system system' : System σ}

/-- A system with something else owed, after another history. -/
def withOwed (system : System σ) (ledger : Ledger) (history : List Moment) : System σ :=
  { system with core := { system.core with ledger := ledger }, history := history }

/-- Two systems that agree in everything else differ only in what is owed and in their histories. -/
theorem withOwed_eq {other : System σ}
    (core : { system.core with ledger := other.core.ledger } = other.core)
    (stop : system.stopRequested = other.stopRequested) (clock : system.clock = other.clock)
    (listeners : system.listeners = other.listeners) (peer : system.peer = other.peer) :
    system.withOwed other.core.ledger other.history = other := by
  rw [withOwed, core, stop, clock, listeners, peer]

/-- Systems that are alike differ only in what is owed and in their histories where their cores do.
-/
theorem Alike.become_eq_withOwed (alike : Alike held tag system system') (occurrence : Occurrence)
    {core core' : Core} (same : core' = { core with ledger := core'.ledger }) :
    ∃ ledger history, system'.become occurrence core' =
      (system.become occurrence core).withOwed ledger history := by
  refine ⟨core'.ledger, (system'.become occurrence core').history, ?_⟩
  unfold withOwed System.become System.record
  rw [alike.stopRequested, alike.clock, alike.listeners, alike.peer]
  dsimp only
  rw [← same]

end System

namespace Core

/-- A command that fails its check is not installed. -/
theorem install_of_refused {core : Core} {command : Command} {fault : Fault}
    (refused : core.check command = .error fault) (expected : Option Frequency) :
    core.install command expected = .error fault := by
  unfold install
  rw [refused]
  rfl

/-- A command that was installed in two cores which differ in what is owed is under way in both. -/
theorem installed_alike {core next next' : Core} {ledger : Ledger} (coupled : core.Coupled)
    (coupled' : { core with ledger := ledger }.Coupled) (plain : core.ledger.Plain)
    (plain' : ledger.Plain) (busy : core.busy = true) {command : Command} {tag : Tag}
    (awaits : command.awaited? = some tag) {generation generation' : Nat}
    (installed : core.install command none = .ok (generation, next))
    (installed' : { core with ledger := ledger }.install command none = .ok (generation', next')) :
    Alike tag next next' where
  state := (install_known installed').1.trans (install_known installed).1.symm
  band := (install_known installed').2.1.trans (install_known installed).2.1.symm
  epoch := (install_known installed').2.2.trans (install_known installed).2.2.symm
  busy := (install_waiter installed).1.trans busy
  busy' := (install_waiter installed').1.trans busy
  underway := by
    have pending := installed_pending coupled plain installed awaits
    have pending' := installed_pending coupled' plain' installed' awaits
    exact ⟨none, .pending pending rfl rfl, .pending pending' rfl rfl⟩

end Core

/-- A command that is waited for, of which no frequency is expected, comes to the same whatever was
owed before, and leaves everything else as it would have. -/
theorem Controller.execute_withOwed {σ : Type} {held : σ → Bool} {terms : Terms}
    {controller : Controller σ} (used : InUse held terms controller) {system : System σ}
    {band band' : Band} (taken : System.Steps terms (.fresh band) system.bare)
    (poised : System.Poised held system) {command : Command} {tag : Tag}
    (awaits : command.awaited? = some tag) {ledger : Ledger} {history : List Moment}
    (taken' : System.Steps terms (.fresh band') (system.withOwed ledger history).bare) :
    ∃ ledger' history', (controller.execute command).run.run (system.withOwed ledger history) =
      (((controller.execute command).run.run system).1,
        ((controller.execute command).run.run system).2.withOwed ledger' history') := by
  unfold execute
  have checked' : ∀ result, system.core.check command = result →
      (system.withOwed ledger history).core.check command = result := fun _ same => same
  cases checked : system.core.check command with
  | error fault =>
    have refused := Core.install_of_refused checked none
    have refused' := Core.install_of_refused (checked' _ checked) none
    rw [run_run, run_run, refused, refused']
    exact ⟨ledger, history, rfl⟩
  | ok passed =>
    obtain ⟨core, installed⟩ := Core.install_of_check checked poised.idle none
    obtain ⟨core', installed'⟩ := Core.install_of_check (checked' _ checked) poised.idle none
    have coupled := (System.Steps.accounted taken).coupled _ List.mem_cons_self
    have coupled' := (System.Steps.accounted taken').coupled _ List.mem_cons_self
    have cores : Core.Alike tag core core' :=
      Core.installed_alike coupled coupled' (System.Steps.plain taken) (System.Steps.plain taken')
        poised.busy awaits installed installed'
    have begun : System.Alike held tag (system.become (.installing command) core)
        ((system.withOwed ledger history).become (.installing command) core') :=
      ⟨cores, rfl, rfl, rfl, rfl, poised.unheld⟩
    have link := used.link_blind tag
    obtain ⟨code, submitted, submitted', here, there, alike⟩ := (link.submit command).ends begun
    cases accepted : code.isOk with
    | false =>
      rw [run_of_refused installed here accepted, run_of_refused installed' there accepted]
      have refused := alike.core.refuse (system.core.ledger.lastGeneration + 1)
        (ledger.lastGeneration + 1)
      obtain ⟨ledger', history', same⟩ := alike.become_eq_withOwed (.refusing code) refused
      exact ⟨ledger', history', Prod.ext rfl same⟩
    | true =>
      obtain ⟨_, awaited, awaited', waited, waited', alike'⟩ :=
        (link.await Core.isSettled (system.clock + controller.timeout)
          fun _ _ cores => cores.isSettled).ends alike
      rw [run_of_awaited installed here accepted awaits (congrArg Prod.snd waited),
        run_of_awaited installed' there accepted awaits (congrArg Prod.snd waited')]
      obtain ⟨result, ended⟩ := alike'.core.settle (system.core.ledger.lastGeneration + 1)
        (ledger.lastGeneration + 1) awaited.clock controller.timeout
      obtain ⟨ledger', history', same⟩ := alike'.become_eq_withOwed .settling ended
      refine ⟨ledger', history', Prod.ext ?_ ?_⟩
      · rw [alike'.clock]
        exact congrArg (some <$> ·) result
      · rw [alike'.clock]
        exact same

end Tuner
