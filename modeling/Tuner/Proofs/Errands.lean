import Tuner.Proofs.Run

/-!
# Errands

Most operations of a radio send the receiver one command. Up to where the command is installed, and
from there to where it has failed, they all do the same, each with values of its own: whether sweeps
are asked to stop first, which frequencies must be tunable, the command, and the one frequency that
its event must report. These are the errand of an operation.
-/
namespace Tuner

namespace Radio

variable {σ α β : Type}

/-- What an operation does that sends one command in a session. -/
structure Errand where
  /-- Whether sweeps are asked to stop first. -/
  stops : Bool := false
  /-- The frequencies that must be tunable. -/
  tunes : List Frequency := []
  /-- The command. -/
  command : Command
  /-- The one frequency that its event must report. -/
  expected : Option Frequency := none

/-- The errand of a call, if it sends one command in a session. -/
def Call.errand? (settings : Settings) : Call → Option Errand
  | .powerDown => some { stops := true, command := .turnOff }
  | .tune frequency =>
    some { tunes := [frequency], command := .tune frequency, expected := some frequency }
  | .seek direction =>
    some { command := .seek (.seek direction settings.scanMethod) settings.minSignal }
  | .seekRds direction condition value =>
    some { command :=
      .seekRds (.seek direction settings.scanMethod) settings.minSignal condition value }
  | .seekRange first last direction =>
    some {
      tunes := [first, last]
      command := .seekRange {
        start := first
        stop := last
        minSignal := settings.minSignal
        direction := direction
        method := settings.scanMethod
        multiChannel := false
        condition := .none
        value := 0 } }
  | .setRds on =>
    some { command := .setRds ⟨if on then .default else .off,
      .union .programService .radioText, .off, settings.afThreshold⟩ }
  | .activateAf =>
    some { command := .setRds ⟨.default,
      [RdsFeatures.programService, .radioText, .traffic, .programType,
        .programTypeName].foldl RdsFeatures.union ⟨0⟩, .on, settings.afThreshold⟩ }
  | .setMute on => some { command := .mute on }
  | .setAudioMode mode => some { command := .setAudioMode mode }
  | .setAudioPath path => some { command := .setAudioPath path }
  | .setVolume volume => some { command := .setVolume volume }
  | .setRegion region => some { command := .setRegion region (Band.preset region).deemphasis }
  | .estimateNoiseFloor precision => some { command := .estimateNoiseFloor precision }
  | .setLivePolling enabled intervalUs =>
    some { command := .setLivePolling enabled (wholeMilliseconds intervalUs) }
  | .setSnrThreshold threshold => some { command := .setSnrThreshold threshold }
  | .setStepSize step => some { command := .setStepSize step }
  | .refreshStatus => some { command := .getStatus }
  | _ => none

namespace Errand

/-- The system in which the arguments are checked and the slot is claimed. -/
def asked (errand : Errand) (system : System σ) : System σ :=
  if errand.stops then system.requestStop else system

/-- Why frequencies cannot all be tuned, if they cannot. -/
def untunable? (band : Band) : List Frequency → Option ParameterFault
  | [] => none
  | frequency :: frequencies =>
    match band.requireTunable frequency with
    | .error cause => some cause
    | .ok _ => untunable? band frequencies

/-- The system in which the session is opened, or why it is not. -/
def opened (errand : Errand) (timeout : Nat) (system : System σ) : Except Fault (System σ) :=
  match untunable? system.core.band errand.tunes with
  | some cause => .error (.invalidParameter cause)
  | none =>
    (system.core.claim system.clock timeout).map ((errand.asked system).become .claiming)

/-- A session is opened with a claim of the slot. -/
theorem opened_eq_ok {errand : Errand} {timeout : Nat} {system opened : System σ}
    (entered : errand.opened timeout system = .ok opened) :
    ∃ core, system.core.claim system.clock timeout = .ok core ∧
      opened = (errand.asked system).become .claiming core := by
  unfold Errand.opened at entered
  split at entered
  next => cases entered
  next =>
    cases claimed : system.core.claim system.clock timeout with
    | error fault =>
      rw [claimed] at entered
      cases entered
    | ok core =>
      rw [claimed] at entered
      cases entered
      exact ⟨core, rfl, rfl⟩

/-- Where the slot can be claimed, a session is opened for a command without any checks before. -/
theorem opened_of_claimed {controller : Controller σ} {system claimed : System σ}
    (claims : controller.claim.run.run system = (.ok (), claimed)) (command : Command) :
    (Errand.mk false [] command none).opened controller.timeout system = .ok claimed := by
  rw [Controller.claim_run] at claims
  change (system.core.claim system.clock controller.timeout).map _ = _
  cases outcome : system.core.claim system.clock controller.timeout with
  | error fault =>
    rw [outcome] at claims
    cases claims
  | ok core =>
    rw [outcome] at claims
    cases claims
    rfl

end Errand

/-- A result that is no failure, or says that a command was confirmed otherwise. -/
def Gentle (result : Except Fault α) : Prop :=
  ∀ fault, result = .error fault → ∃ detail, fault = .unconfirmed detail

/-- A success is gentle. -/
theorem Gentle.ok (value : α) : Gentle (.ok value : Except Fault α) := nofun

/-- A command that was confirmed with another outcome is gentle. -/
theorem Gentle.unconfirmed (detail : String) :
    Gentle (.error (.unconfirmed detail) : Except Fault α) := by
  intro fault same
  exact ⟨detail, (Except.error.inj same).symm⟩

/-- A gentle failure is gentle for a result of any other type. -/
theorem Gentle.error {fault : Fault} (gentle : Gentle (.error fault : Except Fault α)) :
    Gentle (.error fault : Except Fault β) := by
  obtain ⟨detail, rfl⟩ := gentle fault rfl
  exact .unconfirmed detail

/-- An attempt that runs a command first. It fails as the command does. If that is confirmed, it
does nothing else, and fails at most for how it is confirmed. -/
structure Begins (first : Attempt σ α) (whole : Attempt σ β) : Prop where
  /-- The attempt fails as the command does. -/
  failed : ∀ {system after : System σ} {fault}, first.run.run system = (.error fault, after) →
    whole.run.run system = (.error fault, after)
  /-- After the command it fails for hardly anything else, and does nothing else. -/
  confirmed : ∀ {system after : System σ} {value}, first.run.run system = (.ok value, after) →
    Gentle (whole.run.run system).1 ∧ (whole.run.run system).2 = after

/-- What comes to a gentle result after an attempt leaves what the attempt begins with. -/
theorem Begins.bind {first : Attempt σ α} {whole : Attempt σ β} {γ : Type}
    (begins : Begins first whole) {next : β → Attempt σ γ}
    (gentle : ∀ value system, Gentle ((next value).run.run system).1 ∧
      ((next value).run.run system).2 = system) :
    Begins first (whole >>= next) where
  failed failure := Attempt.bind_of_error (begins.failed failure)
  confirmed {system after value} success := by
    obtain ⟨before, same⟩ := begins.confirmed success
    rcases ran : whole.run.run system with ⟨result, between⟩
    rw [ran] at before same
    subst same
    cases result with
    | ok value =>
      rw [Attempt.bind_of_ok ran]
      exact gentle value between
    | error fault =>
      rw [Attempt.bind_of_error ran]
      exact ⟨before.error, rfl⟩

/-- A command is run first by itself. -/
theorem Begins.refl (first : Attempt σ α) : Begins first first where
  failed failure := failure
  confirmed success := by
    rw [success]
    exact ⟨.ok _, rfl⟩

/-- What an attempt comes to that fails at most for how a command was confirmed, and takes nothing
back. -/
structure Mild (before : System σ) (outcome : Except Fault α × System σ) : Prop where
  /-- The attempt fails at most for how the command was confirmed. -/
  gentle : Gentle outcome.1
  /-- What happened is recorded. -/
  history : ∃ later, outcome.2.history = later ++ before.history
  /-- No listener was handed out. -/
  listeners : outcome.2.listeners = before.listeners

/-- A gentle result is mild where nothing happened. -/
theorem Mild.refl {before : System σ} {result : Except Fault α} (gentle : Gentle result) :
    Mild before (result, before) :=
  ⟨gentle, ⟨[], rfl⟩, rfl⟩

/-- An attempt that does an errand. -/
structure Performs (radio : Radio σ) (errand : Errand) (attempt : Attempt σ α) : Prop where
  /-- Where no session is opened, it fails for that. -/
  turned : ∀ {system : System σ} {fault},
    errand.opened radio.controller.timeout system = .error fault →
      attempt.run.run system = (.error fault, errand.asked system)
  /-- Where the command fails in the session, it fails as the command does. -/
  failed : ∀ {system opened ended : System σ} {fault},
    errand.opened radio.controller.timeout system = .ok opened →
      (radio.controller.run errand.command errand.expected).run.run opened =
        (.error fault, ended) →
      attempt.run.run system = (.error fault, ended.become .releasing ended.core.release)
  /-- Where the command is confirmed, the attempt fails at most for how it is, after the session. -/
  confirmed : ∀ {system opened ended : System σ} {event?},
    errand.opened radio.controller.timeout system = .ok opened →
      (radio.controller.run errand.command errand.expected).run.run opened = (.ok event?, ended) →
      Mild (ended.become .releasing ended.core.release) (attempt.run.run system)

variable {radio : Radio σ}

/-- A session that runs the command of an errand first does the errand. -/
theorem Performs.session {command : Command} {expected : Option Frequency} {body : Attempt σ α}
    (begins : Begins (radio.controller.run command expected) body) :
    Performs radio { command := command, expected := expected }
      (radio.controller.session body) := by
  constructor
  · intro system fault turned
    change (system.core.claim system.clock radio.controller.timeout).map _ = _ at turned
    rw [Controller.session_run]
    cases claimed : system.core.claim system.clock radio.controller.timeout with
    | ok core =>
      rw [claimed] at turned
      cases turned
    | error fault =>
      rw [claimed] at turned
      cases turned
      rfl
  · intro system opened ended fault entered failure
    obtain ⟨core, claimed, rfl⟩ := Errand.opened_eq_ok entered
    rw [Controller.session_run, claimed]
    dsimp only
    rw [show body.run.run (system.become .claiming core) = _ from begins.failed failure]
  · intro system opened ended event? entered success
    obtain ⟨core, claimed, rfl⟩ := Errand.opened_eq_ok entered
    rw [Controller.session_run, claimed]
    have success' : (radio.controller.run command expected).run.run
        (system.become .claiming core) = (.ok event?, ended) := success
    have done := begins.confirmed success'
    dsimp only
    generalize body.run.run (system.become .claiming core) = outcome at done ⊢
    obtain ⟨gentle, rfl⟩ := done
    exact .refl gentle

/-- An errand is still done where hardly anything can fail after it. -/
theorem Performs.bind {errand : Errand} {attempt : Attempt σ α}
    (performs : Performs radio errand attempt) {next : α → Attempt σ β}
    (mild : ∀ value system, Mild system ((next value).run.run system)) :
    Performs radio errand (attempt >>= next) where
  turned refused := Attempt.bind_of_error (performs.turned refused)
  failed entered failure := Attempt.bind_of_error (performs.failed entered failure)
  confirmed {system opened ended event?} entered success := by
    have before := performs.confirmed entered success
    rcases ran : attempt.run.run system with ⟨result, between⟩
    rw [ran] at before
    cases result with
    | ok value =>
      rw [Attempt.bind_of_ok ran]
      have after := mild value between
      obtain ⟨earlier, history⟩ := before.history
      obtain ⟨later, history'⟩ := after.history
      refine ⟨after.gentle, ⟨later ++ earlier, ?_⟩, after.listeners.trans before.listeners⟩
      rw [history', history, List.append_assoc]
    | error fault =>
      rw [Attempt.bind_of_error ran]
      exact ⟨before.gentle.error, before.history, before.listeners⟩

/-- An errand is done as well where sweeps are asked to stop before. -/
theorem Performs.stop {tunes : List Frequency} {command : Command} {expected : Option Frequency}
    {attempt : Attempt σ α} (performs : Performs radio ⟨false, tunes, command, expected⟩ attempt) :
    Performs radio ⟨true, tunes, command, expected⟩
      (Attempt.lift Action.requestStop >>= fun _ => attempt) where
  turned {system _} refused := @Performs.turned _ _ _ _ _ performs system.requestStop _ refused
  failed {system _ _ _} entered failure :=
    @Performs.failed _ _ _ _ _ performs system.requestStop _ _ _ entered failure
  confirmed {system _ _ _} entered success :=
    @Performs.confirmed _ _ _ _ _ performs system.requestStop _ _ _ entered success

section Tunable

variable {tunes : List Frequency} {command : Command} {expected : Option Frequency}
  {frequency : Frequency} {system : System σ}

/-- A frequency that can be tuned makes no difference to an errand. -/
theorem Errand.opened_of_tunable {channel : Frequency}
    (tunable : system.core.band.requireTunable frequency = .ok channel) (timeout : Nat) :
    (Errand.mk false (frequency :: tunes) command expected).opened timeout system =
      (Errand.mk false tunes command expected).opened timeout system := by
  simp [opened, untunable?, asked, tunable]

/-- No session is opened for an errand at a frequency that cannot be tuned. -/
theorem Errand.opened_of_untunable {cause : ParameterFault}
    (untunable : system.core.band.requireTunable frequency = .error cause) (timeout : Nat) :
    (Errand.mk false (frequency :: tunes) command expected).opened timeout system =
      .error (.invalidParameter cause) := by
  simp [opened, untunable?, untunable]

/-- What can be tuned is where an errand is done. -/
theorem requireTunable_of_opened {timeout : Nat} {opened : System σ}
    (entered : (Errand.mk false (frequency :: tunes) command expected).opened timeout system =
      .ok opened) :
    ∃ channel, system.core.band.requireTunable frequency = .ok channel ∧
      (Errand.mk false tunes command expected).opened timeout system = .ok opened := by
  cases tunable : system.core.band.requireTunable frequency with
  | ok channel =>
    exact ⟨channel, rfl, (Errand.opened_of_tunable tunable timeout).symm.trans entered⟩
  | error cause =>
    rw [Errand.opened_of_untunable tunable] at entered
    contradiction

/-- After a check of a frequency, an attempt is made where that can be tuned. -/
theorem requireTunable_bind_run (attempt : Attempt σ α) :
    (requireTunable frequency >>= fun _ => attempt).run.run system =
      match system.core.band.requireTunable frequency with
      | .ok _ => attempt.run.run system
      | .error cause => (.error (.invalidParameter cause), system) := by
  have checked := requireTunable_run frequency system
  split
  next tunable =>
    rw [tunable] at checked
    exact Attempt.bind_of_ok checked
  next tunable =>
    rw [tunable] at checked
    exact Attempt.bind_of_error checked

end Tunable

/-- An errand is done as well where a frequency is checked before. -/
theorem Performs.tunable {tunes : List Frequency} {command : Command}
    {expected : Option Frequency} {attempt : Attempt σ α}
    (performs : Performs radio ⟨false, tunes, command, expected⟩ attempt) (frequency : Frequency) :
    Performs radio ⟨false, frequency :: tunes, command, expected⟩
      (requireTunable frequency >>= fun _ => attempt) where
  turned {system fault} turned := by
    rw [requireTunable_bind_run]
    cases tunable : system.core.band.requireTunable frequency with
    | ok channel =>
      rw [Errand.opened_of_tunable tunable] at turned
      exact performs.turned turned
    | error cause =>
      rw [Errand.opened_of_untunable tunable] at turned
      obtain rfl := Except.error.inj turned
      rfl
  failed entered failure := by
    obtain ⟨channel, tunable, entered'⟩ := requireTunable_of_opened entered
    rw [requireTunable_bind_run, tunable]
    exact performs.failed entered' failure
  confirmed entered success := by
    obtain ⟨channel, tunable, entered'⟩ := requireTunable_of_opened entered
    rw [requireTunable_bind_run, tunable]
    exact performs.confirmed entered' success

/-- A command whose event must come is run first. -/
theorem Begins.awaited (radio : Radio σ) (command : Command) :
    Begins (radio.controller.run command none) (radio.awaited command) := by
  refine Begins.bind (.refl _) fun event? system => ?_
  cases event? with
  | some event => exact ⟨.ok event, rfl⟩
  | none => exact ⟨.unconfirmed _, rfl⟩

/-- A command whose event must report an outcome is run first. -/
theorem Begins.confirming (radio : Radio σ) (command : Command) (outcome : Event → Option α) :
    Begins (radio.controller.run command none) (radio.confirmed command outcome) := by
  refine Begins.bind (.awaited radio command) fun event system => ?_
  cases outcome event with
  | some value => exact ⟨.ok value, rfl⟩
  | none => exact ⟨.unconfirmed _, rfl⟩

/-- A tune begins with its command. -/
theorem Begins.tune (controller : Controller σ) (frequency : Frequency) :
    Begins (controller.run (.tune frequency) (some frequency)) (controller.tune frequency) := by
  refine Begins.bind (.refl _) fun event? system => ?_
  cases event? with
  | some event => exact ⟨.ok event, rfl⟩
  | none => exact ⟨.unconfirmed _, rfl⟩

/-- A seek begins with its command. -/
theorem Begins.seekWith (radio : Radio σ) (command : Command) (start : Option Frequency) :
    Begins (radio.controller.run command none) (radio.seekWith command start) := by
  refine Begins.bind (.awaited radio command) fun event system => ?_
  cases event <;> exact ⟨.ok _, rfl⟩

/-- An errand is done as well where the core is looked at before. -/
theorem Begins.core {first : Attempt σ α} {next : Core → Attempt σ β}
    (begins : ∀ core, Begins first (next core)) : Begins first (Attempt.core >>= next) where
  failed {system _ _} failure := (begins system.core).failed failure
  confirmed {system _ _} success := (begins system.core).confirmed success

variable {call : Call} {errand : Errand}

/-- A call that is answered with what an attempt comes to, which does an errand. -/
inductive Call.Does (radio : Radio σ) (call : Call) (errand : Errand) : Prop
  /-- What the attempt comes to is reported. -/
  | attempt {α : Type} {attempt : Attempt σ α} (wrap : Except Fault α → Answer)
      (made : radio.answer call = wrap <$> attempt.run) (performs : Performs radio errand attempt)
      (reports : ∀ result, (wrap result).fault? = Fault.ofResult? result)

/-- Every call that sends one command in a session does its errand. -/
theorem Call.does (radio : Radio σ) (single : call.errand? radio.settings = some errand) :
    call.Does radio errand := by
  have operated : ∀ {α : Type} (command : Command) (outcome : Event → Option α),
      Performs radio { command := command } (radio.operate command outcome) :=
    fun command outcome => .session (.confirming radio command outcome)
  have performed : ∀ command : Command,
      Performs radio { command := command } (radio.perform command) := by
    intro command
    refine Performs.bind (.session (.refl _)) fun event? system => ?_
    exact .refl (.ok ())
  have sought : ∀ command : Command, Performs radio { command := command }
      (radio.controller.session do radio.seekWith command (← Attempt.core).state.tuned) :=
    fun command => .session (.core fun _ => .seekWith radio command _)
  cases call with
  | powerDown =>
    cases single
    exact .attempt _ rfl (.stop (operated _ _)) fun _ => rfl
  | tune frequency =>
    cases single
    refine .attempt _ rfl (.tunable ?_ frequency) fun _ => rfl
    exact .bind (.session (.tune radio.controller frequency)) fun _ _ => .refl (.ok ())
  | seek | seekRds =>
    cases single
    exact .attempt _ rfl (sought _) fun _ => rfl
  | seekRange first last direction =>
    cases single
    exact .attempt _ rfl (.tunable (.tunable (sought _) last) first) fun _ => rfl
  | activateAf =>
    cases single
    refine .attempt _ rfl (.bind (operated _ _) fun _ system => ?_) fun _ => rfl
    rw [Attempt.core_bind_run]
    cases system.core.state.tuned with
    | some frequency => exact .refl (.ok _)
    | none => exact .refl (.unconfirmed _)
  | setRegion region =>
    cases single
    refine .attempt _ rfl (.bind (operated _ _) fun _ system => ?_) fun _ => rfl
    cases radio.settings.band?.isNone with
    | true => exact ⟨.ok (), ⟨[_], rfl⟩, rfl⟩
    | false => exact .refl (.ok ())
  | setRds | setMute | setAudioMode | setAudioPath | setVolume | estimateNoiseFloor =>
    cases single
    exact .attempt _ rfl (operated _ _) fun _ => rfl
  | setLivePolling | setSnrThreshold | setStepSize =>
    cases single
    exact .attempt _ rfl (performed _) fun _ => rfl
  | refreshStatus =>
    cases single
    exact .attempt _ rfl (.bind (.session (.awaited radio _)) fun _ _ => .refl (.ok _)) fun _ => rfl
  | attach | close | isOpen | powerUp | tunedFrequency | seekFrom | autoScan | stopScan | readRds
  | programService | radioText | rdsSupport | switchAntenna | band | settings => contradiction

/-- What the attempt comes to is what the call comes to. -/
theorem answer_of_attempt {attempt : Attempt σ α} {wrap : Except Fault α → Answer}
    (made : radio.answer call = wrap <$> attempt.run)
    (reports : ∀ result, (wrap result).fault? = Fault.ofResult? result) (system : System σ) :
    (radio.replyTo call system).fault? = Fault.ofResult? (attempt.run.run system).1 ∧
      radio.after call system = (attempt.run.run system).2 := by
  rw [replyTo, after, made]
  exact ⟨reports _, rfl⟩

namespace Call.Does

variable {system opened ended : System σ} {fault : Fault}

/-- A call for which no session is opened fails for that. -/
theorem turned (does : call.Does radio errand)
    (turned : errand.opened radio.controller.timeout system = .error fault) :
    (radio.replyTo call system).fault? = some fault ∧
      radio.after call system = errand.asked system := by
  cases does with
  | attempt wrap made performs reports =>
    obtain ⟨reply, after⟩ := answer_of_attempt made reports system
    rw [reply, after, performs.turned turned]
    exact ⟨rfl, rfl⟩

/-- A call whose command fails in the session fails as that does, and gives the slot back. -/
theorem failed (does : call.Does radio errand)
    (entered : errand.opened radio.controller.timeout system = .ok opened)
    (failure : (radio.controller.run errand.command errand.expected).run.run opened =
      (.error fault, ended)) :
    (radio.replyTo call system).fault? = some fault ∧
      radio.after call system = ended.become .releasing ended.core.release := by
  cases does with
  | attempt wrap made performs reports =>
    obtain ⟨reply, after⟩ := answer_of_attempt made reports system
    rw [reply, after, performs.failed entered failure]
    exact ⟨rfl, rfl⟩

/-- Any other call fails at most for how the command is confirmed, after its session. -/
theorem confirmed (does : call.Does radio errand)
    (entered : errand.opened radio.controller.timeout system = .ok opened) {event? : Option Event}
    (success : (radio.controller.run errand.command errand.expected).run.run opened =
      (.ok event?, ended)) :
    (∀ fault, (radio.replyTo call system).fault? = some fault →
      ∃ detail, fault = .unconfirmed detail) ∧
    (∃ later, (radio.after call system).history =
      later ++ (ended.become .releasing ended.core.release).history) ∧
    (radio.after call system).listeners = ended.listeners := by
  cases does with
  | @attempt α attempt wrap made performs reports =>
    obtain ⟨reply, after⟩ := answer_of_attempt made reports system
    have mild := performs.confirmed entered success
    rw [reply, after]
    refine ⟨fun fault fails => ?_, mild.history, mild.listeners⟩
    generalize attempt.run.run system = outcome at fails mild
    obtain ⟨result, after⟩ := outcome
    cases result with
    | ok value => cases fails
    | error fault' =>
      obtain rfl := Option.some.inj fails
      exact mild.gentle fault' rfl

end Call.Does

/-! ## Settings -/

/-- What must be reported of a setting for a call to be confirmed that makes one, or turns the radio
off. -/
def Call.outcome? : Call → Option (Event → Option Unit)
  | .powerDown => some (reportsPower false)
  | .setRds on => some (reportsRdsMode (if on then .default else .off))
  | .setMute on => some (reportsMute on)
  | .setAudioMode mode => some (reportsAudioMode mode)
  | .setAudioPath path => some (reportsAudioPath path)
  | .setVolume volume => some (reportsVolume volume)
  | .setRegion region => some (reportsRegion region)
  | _ => none

/-- What the event that ends a command makes of it, given what must be reported. -/
def judge (command : Command) (outcome : Event → Option Unit) (event : Event) :
    Except Fault Unit :=
  if (outcome event).isSome then .ok () else .error (unconfirmed command)

/-- A command whose event must report an outcome comes to what is made of its event. -/
theorem confirmed_of_run {command : Command} {outcome : Event → Option Unit}
    {opened ended : System σ} {result : Except Fault Event}
    (ran : (radio.controller.run command none).run.run opened = (some <$> result, ended)) :
    (radio.confirmed command outcome).run.run opened =
      (result >>= judge command outcome, ended) := by
  have awaited : (radio.awaited command).run.run opened = (result, ended) := by
    cases result with
    | error fault => exact Attempt.bind_of_error ran
    | ok event => exact Attempt.bind_of_ok ran
  cases result with
  | error fault => exact Attempt.bind_of_error awaited
  | ok event =>
    refine (Attempt.bind_of_ok awaited).trans ?_
    change _ = (judge command outcome event, ended)
    unfold judge
    cases outcome event <;> rfl

/-- A call that makes a setting comes to what is made of the event of its command. -/
theorem replyTo_setting (single : call.errand? radio.settings = some errand)
    {outcome : Event → Option Unit} (setting : call.outcome? = some outcome)
    {system opened ended : System σ}
    (entered : errand.opened radio.controller.timeout system = .ok opened)
    {result : Except Fault Event}
    (ran : (radio.controller.execute errand.command).run.run opened =
      (some <$> result, ended)) :
    radio.replyTo call system = .done (result >>= judge errand.command outcome) := by
  have operated : ∀ (command : Command) (system : System σ),
      (Errand.mk false [] command none).opened radio.controller.timeout system = .ok opened →
        (radio.controller.run command none).run.run opened = (some <$> result, ended) →
        ((radio.operate command outcome).run.run system).1 =
          (result >>= judge command outcome) := by
    intro command system entered ran
    obtain ⟨core, claimed, rfl⟩ := Errand.opened_eq_ok entered
    have body : (radio.confirmed command outcome).run.run (system.become .claiming core) =
        (result >>= judge command outcome, ended) := confirmed_of_run ran
    rw [operate, Controller.session_run, claimed]
    exact congrArg Prod.fst body
  cases call with
  | powerDown =>
    cases single
    cases setting
    exact congrArg Answer.done (operated _ _ entered ran)
  | setRds | setMute | setAudioMode | setAudioPath | setVolume =>
    cases single
    cases setting
    exact congrArg Answer.done (operated _ _ entered ran)
  | setRegion region =>
    cases single
    cases setting
    have confirmed := operated _ _ entered ran
    rcases done : (radio.operate (.setRegion region (Band.preset region).deemphasis)
      (reportsRegion region)).run.run system with ⟨confirmation, between⟩
    rw [done] at confirmed
    have same : radio.replyTo (.setRegion region) system =
        .done ((radio.setRegion region).run.run system).1 := rfl
    rw [same, ← confirmed]
    congr 1
    cases confirmation with
    | error fault => exact congrArg Prod.fst (Attempt.bind_of_error done)
    | ok value =>
      refine (congrArg Prod.fst (Attempt.bind_of_ok done)).trans ?_
      cases radio.settings.band?.isNone <;> rfl
  | _ => cases setting

end Radio
end Tuner
